import Mathlib.Tactic

/-!
# Erasing by key

A loop over a list of keys that erases, for each key, the first entry that has
it.  What is left is the list without its entries of some kind exactly when the
entries of that kind are, for each key, the first ones.
-/

namespace OspfLite

variable {α κ : Type*} [DecidableEq κ]

/-- Erase the first entry with the key. -/
def eraseKey (key : α → κ) (l : List α) (k : κ) : List α :=
  l.eraseP fun a => decide (key a = k)

variable {key : α → κ} {q : α → Bool}

theorem foldl_eraseKey_sublist (ks : List κ) (l : List α) :
    (ks.foldl (eraseKey key) l).Sublist l := by
  induction ks generalizing l with
  | nil => exact List.Sublist.refl l
  | cons k ks ih => exact (ih _).trans List.eraseP_sublist

/-- The first entry goes as soon as its key comes up. -/
theorem foldl_eraseKey_cons (ks : List κ) (a : α) (l : List α) :
    ks.foldl (eraseKey key) (a :: l) =
      if key a ∈ ks then (ks.erase (key a)).foldl (eraseKey key) l
      else a :: ks.foldl (eraseKey key) l := by
  induction ks generalizing l with
  | nil => simp
  | cons k ks ih =>
      rw [List.foldl_cons]
      by_cases hk : key a = k
      · have hhead : eraseKey key (a :: l) k = l :=
          List.eraseP_cons_of_pos (by simpa using hk)
        rw [hhead, if_pos (by simp [hk]), hk, List.erase_cons_head]
      · have hhead : eraseKey key (a :: l) k = a :: eraseKey key l k :=
          List.eraseP_cons_of_neg (by simpa using hk)
        have hkeep : (k :: ks).erase (key a) = k :: ks.erase (key a) :=
          List.erase_cons_tail (by simpa using Ne.symm hk)
        rw [hhead, ih, hkeep, List.foldl_cons]
        simp only [List.mem_cons, hk, false_or, List.foldl_cons]

/-- Entries that have been appended go again when their keys come up, if no
entry before them has one of these keys. -/
theorem foldl_eraseKey_append {l m : List α}
    (h : ∀ a ∈ l, key a ∉ m.map key) :
    (m.map key).foldl (eraseKey key) (l ++ m) = l := by
  induction l with
  | nil =>
      induction m with
      | nil => rfl
      | cons b m ih =>
          rw [List.nil_append, foldl_eraseKey_cons,
            if_pos (List.mem_map_of_mem List.mem_cons_self), List.map_cons,
            List.erase_cons_head]
          exact ih fun a ha => absurd ha List.not_mem_nil
  | cons a l ih =>
      rw [List.cons_append, foldl_eraseKey_cons,
        if_neg (h a List.mem_cons_self),
        ih fun b hb => h b (List.mem_cons_of_mem a hb)]

/-- The condition on the first entry and on the rest of the list. -/
theorem forall_split_cons {P : List α → α → Prop} {a : α} {l : List α} :
    (∀ pre b post, a :: l = pre ++ b :: post → P pre b) ↔
      P [] a ∧ ∀ pre b post, l = pre ++ b :: post → P (a :: pre) b := by
  constructor
  · intro h
    exact ⟨h [] a l rfl, fun pre b post hl => h (a :: pre) b post (by
      rw [hl]; rfl)⟩
  · rintro ⟨hhead, htail⟩ pre b post heq
    cases pre with
    | nil =>
        obtain ⟨rfl, -⟩ := List.cons.inj heq
        exact hhead
    | cons c pre =>
        obtain ⟨rfl, hl⟩ := List.cons.inj heq
        exact htail pre b post hl

/-- What the loop should have erased is what it has erased exactly when, entry
by entry, the entry is to go if and only if fewer entries with its key stand
before it than the key comes up. -/
theorem foldl_eraseKey_eq_filter_iff {ks : List κ} {l : List α} :
    ks.foldl (eraseKey key) l = l.filter (fun a => !q a) ↔
      ∀ pre a post, l = pre ++ a :: post →
        (q a = true ↔
          pre.countP (fun b => decide (key b = key a)) <
            ks.countP fun k => decide (k = key a)) := by
  simp only [← beq_eq_decide, ← List.count_eq_countP]
  simp only [beq_eq_decide]
  induction l generalizing ks with
  | nil =>
      have hnil : ks.foldl (eraseKey key) [] = [] :=
        List.sublist_nil.mp (foldl_eraseKey_sublist ks [])
      simp [hnil]
  | cons a l ih =>
      rw [foldl_eraseKey_cons]
      rw [forall_split_cons, List.countP_nil, List.count_pos_iff]
      by_cases hmem : key a ∈ ks
      · rw [if_pos hmem]
        by_cases hq : q a = true
        · -- the key has come up once for the first entry
          rw [List.filter_cons_of_neg (by simpa using hq), ih,
            and_iff_right (iff_of_true hq hmem)]
          refine forall₄_congr fun pre b post _ => iff_congr Iff.rfl ?_
          by_cases hkey : key a = key b
          · rw [← hkey, List.count_erase_self,
              List.countP_cons_of_pos (by simp)]
            have hpos := List.count_pos_iff.mpr hmem
            omega
          · rw [List.count_erase_of_ne (Ne.symm hkey),
              List.countP_cons_of_neg (by simpa using hkey)]
        · -- an entry too many has gone
          refine iff_of_false ?_ fun h => hq (h.1.mpr hmem)
          rw [List.filter_cons_of_pos (by simpa using hq)]
          intro heq
          have hsub : ((ks.erase (key a)).foldl (eraseKey key) l).Sublist l :=
            foldl_eraseKey_sublist _ l
          have hlen := hsub.countP_le (p := fun b => !q b)
          rw [heq, List.countP_cons_of_pos (by simpa using hq),
            List.countP_filter] at hlen
          simp at hlen
      · rw [if_neg hmem]
        by_cases hq : q a = true
        · refine iff_of_false ?_ fun h => hmem (h.1.mp hq)
          intro heq
          have hhead : a ∈ (a :: l).filter fun b => !q b :=
            heq ▸ List.mem_cons_self
          simp [hq] at hhead
        · rw [List.filter_cons_of_pos (by simpa using hq),
            List.cons_inj_right, ih,
            and_iff_right (iff_of_false hq hmem)]
          refine forall₄_congr fun pre b post _ => iff_congr Iff.rfl ?_
          by_cases hkey : key a = key b
          · rw [← hkey, List.count_eq_zero_of_not_mem hmem]
            simp
          · rw [List.countP_cons_of_neg (by simpa using hkey)]

end OspfLite
