import OspfLite.Lib.KeyedList

/-!
# Stamped lists

Next to a list of values that change with every tick of a clock runs a list of
stamps: what was stored, and how many ticks ago.  A relation between values and
stamps that holds of what has just been stored survives whatever is stored and
erased, and survives a tick exactly where each value moves as it should.
-/

namespace OspfLite

/-- A value as it was stored, and the number of ticks since then. -/
structure Stamp (α : Type*) where
  stored : α
  ticks : ℕ
deriving DecidableEq, Repr

namespace Stamp

variable {α κ : Type*}

/-- The stamp of a value that is stored now. -/
def now (a : α) : Stamp α := ⟨a, 0⟩

/-- The stamp after another tick. -/
def tick (s : Stamp α) : Stamp α := { s with ticks := s.ticks + 1 }

/-- The key of the value as it was stored. -/
def keyOf (key : α → κ) (s : Stamp α) : κ := key s.stored

variable {R S : α → Stamp α → Prop} {l : List α} {stamps : List (Stamp α)}

theorem forall₂_now (hnow : ∀ a, R a (now a)) (l : List α) :
    List.Forall₂ R l (l.map now) := by
  rw [List.forall₂_map_right_iff, List.forall₂_same]
  intro a _
  exact hnow a

/-- A `push_back`. -/
theorem forall₂_push (h : List.Forall₂ R l stamps) {a : α}
    (ha : R a (now a)) : List.Forall₂ R (l ++ [a]) (stamps ++ [now a]) :=
  List.rel_append h (.cons ha .nil)

section Keys

variable [DecidableEq κ] {key : α → κ}

/-- What is erased by key is the same on both sides. -/
theorem forall₂_erase (hkey : ∀ a s, R a s → key a = s.keyOf key)
    (h : List.Forall₂ R l stamps) (k : κ) :
    List.Forall₂ R (KeyedList.erase key l k)
      (KeyedList.erase (keyOf key) stamps k) := by
  refine List.rel_filter ?_ h
  intro a s hR
  change decide (key a ≠ k) = true ↔ decide (s.keyOf key ≠ k) = true
  rw [hkey a s hR]

theorem forall₂_insert (hkey : ∀ a s, R a s → key a = s.keyOf key)
    (h : List.Forall₂ R l stamps) {a : α} (ha : R a (now a)) :
    List.Forall₂ R (KeyedList.insert key l a)
      (KeyedList.insert (keyOf key) stamps (now a)) :=
  forall₂_push (forall₂_erase hkey h (key a)) ha

end Keys

/-- After a tick the values stand in a relation to their stamps exactly when
each of them was ready for it. -/
theorem forall₂_tick_iff {grow : α → α} {P : α → Prop}
    (hiff : ∀ a s, R a s → (S (grow a) s.tick ↔ P a))
    (h : List.Forall₂ R l stamps) :
    List.Forall₂ S (l.map grow) (stamps.map tick) ↔ ∀ a ∈ l, P a := by
  induction h with
  | nil => simp
  | cons hR _ ih =>
      rw [List.map_cons, List.map_cons, List.forall₂_cons, hiff _ _ hR, ih,
        List.forall_mem_cons]

end Stamp
end OspfLite
