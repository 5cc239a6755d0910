import Mathlib.Data.List.MinMax
import Mathlib.Data.Prod.Lex
import Mathlib.Tactic

/-!
# The entry with the greatest key

`List.argmax` scans a list and keeps the first entry with the greatest key.
When no two entries share a key, the result depends on the set of entries
only, not on their order.
-/

namespace OspfLite

variable {α β : Type*} [LinearOrder β]

/-- `best` is the entry of `l` satisfying `p` whose key exceeds the keys of
all others, or `none` when no entry satisfies `p`. -/
def IsGreatestBy (key : α → β) (p : α → Prop) (l : List α) :
    Option α → Prop
  | none => ∀ a ∈ l, ¬p a
  | some b => b ∈ l ∧ p b ∧ ∀ a ∈ l, p a → a ≠ b → key a < key b

/-- There is at most one greatest entry. -/
theorem IsGreatestBy.unique {key : α → β} {p : α → Prop} {l m : List α}
    (hmem : ∀ a, a ∈ l ↔ a ∈ m) {x y : Option α}
    (hx : IsGreatestBy key p l x) (hy : IsGreatestBy key p m y) : x = y := by
  cases x with
  | none =>
      cases y with
      | none => rfl
      | some b => exact absurd hy.2.1 (hx b ((hmem b).mpr hy.1))
  | some a =>
      cases y with
      | none => exact absurd hx.2.1 (hy a ((hmem a).mp hx.1))
      | some b =>
          by_contra hne
          have hab : a ≠ b := fun h => hne (congrArg some h)
          have hlt := hx.2.2 b ((hmem b).mpr hy.1) hy.2.1 hab.symm
          have hgt := hy.2.2 a ((hmem a).mp hx.1) hx.2.1 hab
          exact lt_asymm hlt hgt

/-- With distinct keys, the scan finds the greatest entry. -/
theorem isGreatestBy_argmax (key : α → β) (p : α → Prop) [DecidablePred p]
    {l : List α}
    (hkey : ∀ a ∈ l, ∀ b ∈ l, key a = key b → a = b) :
    IsGreatestBy key p l ((l.filter fun a => decide (p a)).argmax key) := by
  cases hbest : (l.filter fun a => decide (p a)).argmax key with
  | none =>
      have hnil := List.argmax_eq_none.mp hbest
      intro a ha hp
      have hmem : a ∈ l.filter fun a => decide (p a) := by
        simp [ha, hp]
      simp [hnil] at hmem
  | some b =>
      have hb := List.argmax_mem hbest
      rw [List.mem_filter, decide_eq_true_eq] at hb
      refine ⟨hb.1, hb.2, ?_⟩
      intro a ha hp hne
      have hle : key a ≤ key b :=
        List.le_of_mem_argmax (f := key) (by simp [ha, hp]) hbest
      exact lt_of_le_of_ne hle fun h => hne (hkey a ha b hb.1 h)

/-- A loop that skips the entries without `p` and otherwise replaces the best
so far by an entry of greater key is `List.argmax` on the rest. -/
theorem foldl_eq_argmax (key : α → β) (p : α → Prop) [DecidablePred p]
    {step : Option α → α → Option α}
    (hskip : ∀ best a, ¬p a → step best a = best)
    (hfirst : ∀ a, p a → step none a = some a)
    (hnext : ∀ b a, p a →
      step (some b) a = if key b < key a then some a else some b)
    (l : List α) :
    l.foldl step none = (l.filter fun a => decide (p a)).argmax key := by
  rw [List.argmax, List.foldl_filter]
  congr 1
  funext best a
  by_cases ha : p a
  · cases best with
    | none => simp [hfirst a ha, ha, List.argAux]
    | some b => simp [hnext b a ha, ha, List.argAux]
  · simp [hskip best a ha, ha]

/-- The greatest key exceeds a bound if and only if some key does. -/
theorem exists_argmax_gt_iff {f : α → β} {l : List α} {x : β} :
    (∃ b, l.argmax f = some b ∧ x < f b) ↔ ∃ a ∈ l, x < f a := by
  constructor
  · rintro ⟨b, hb, hlt⟩
    exact ⟨b, List.argmax_mem hb, hlt⟩
  · rintro ⟨a, ha, hlt⟩
    cases hbest : l.argmax f with
    | none =>
        rw [List.argmax_eq_none.mp hbest] at ha
        exact absurd ha List.not_mem_nil
    | some b =>
        exact ⟨b, rfl, hlt.trans_le (List.le_of_mem_argmax ha hbest)⟩

end OspfLite
