import Mathlib.Tactic

/-!
# Lists

When removing the first match agrees with removing all of them, and lists that
are changed entry by entry.
-/

namespace OspfLite

variable {α : Type*} {p q : α → Bool} {l : List α} {a : α}

/-- Removing the first entry with `p` has the effect of removing every entry
with `q` exactly when that entry has `q` and is the only one. -/
theorem eraseP_eq_filter_iff (hfind : l.find? p = some a) :
    l.eraseP p = l.filter (fun b => !q b) ↔ q a = true ∧ l.countP q = 1 := by
  induction l with
  | nil => simp at hfind
  | cons b l ih =>
      by_cases hb : p b = true
      · have hba : b = a := by simpa [hb] using hfind
        subst hba
        rw [List.eraseP_cons_of_pos hb]
        by_cases hq : q b = true
        · have hself : l = l.filter (fun c => !q c) ↔ l.countP q = 0 := by
            rw [eq_comm, List.filter_eq_self, List.countP_eq_zero]
            simp
          simpa [hq] using hself
        · refine iff_of_false ?_ fun h => hq h.1
          intro heq
          have hnone : ∀ c ∈ l, q c = false := by
            intro c hc
            rw [heq] at hc
            simpa using (List.mem_filter.mp hc).2
          have hkeep : l.filter (fun c => !q c) = l :=
            List.filter_eq_self.mpr fun c hc => by simp [hnone c hc]
          rw [List.filter_cons_of_pos (by simpa using hq), hkeep] at heq
          simpa using congrArg List.length heq
      · have hrest : l.find? p = some a := by simpa [hb] using hfind
        rw [List.eraseP_cons_of_neg hb]
        by_cases hq : q b = true
        · refine iff_of_false ?_ ?_
          · intro heq
            have hmem : b ∈ (b :: l).filter (fun c => !q c) :=
              heq ▸ List.mem_cons_self
            simpa [hq] using (List.mem_filter.mp hmem).2
          · rintro ⟨hqa, hcount⟩
            have hpos : 0 < l.countP q :=
              List.countP_pos_iff.mpr
                ⟨a, List.mem_of_find?_eq_some hrest, hqa⟩
            rw [List.countP_cons_of_pos hq] at hcount
            omega
        · rw [List.filter_cons_of_pos (by simpa using hq),
            List.countP_cons_of_neg hq, List.cons_inj_right]
          exact ih hrest

/-- Removing every entry with `q` changes nothing exactly when there is
none. -/
theorem eq_filter_not_iff :
    l = l.filter (fun b => !q b) ↔ ∀ b ∈ l, q b = false := by
  rw [eq_comm, List.filter_eq_self]
  simp

/-- Removing the first entry with `p` leaves every entry that differs from
it. -/
theorem mem_eraseP_of_ne (hfind : l.find? p = some a) {b : α} (hb : b ∈ l)
    (hne : b ≠ a) : b ∈ l.eraseP p := by
  induction l with
  | nil => cases hb
  | cons c l ih =>
      by_cases hc : p c = true
      · have hca : c = a := by simpa [hc] using hfind
        rw [List.eraseP_cons_of_pos hc]
        exact List.mem_of_ne_of_mem (hca ▸ hne) hb
      · have hrest : l.find? p = some a := by simpa [hc] using hfind
        rw [List.eraseP_cons_of_neg hc]
        rcases List.mem_cons.mp hb with rfl | hmem
        · exact List.mem_cons_self
        · exact List.mem_cons_of_mem c (ih hrest hmem)

/-- Erasing the first entry with `p` goes unnoticed among the entries with `q`
exactly when that entry is not one of them. -/
theorem filter_eraseP_eq_iff :
    (l.eraseP p).filter q = l.filter q ↔
      ∀ a ∈ l.find? p, q a = false := by
  induction l with
  | nil => simp
  | cons b l ih =>
      by_cases hb : p b = true
      · rw [List.eraseP_cons_of_pos hb, List.find?_cons_of_pos hb]
        by_cases hq : q b = true
        · simp only [List.filter_cons_of_pos hq, Option.mem_some_iff,
            forall_eq', hq, Bool.true_eq_false, iff_false]
          intro heq
          simpa using congrArg List.length heq
        · simp [List.filter_cons_of_neg hq, hq]
      · rw [List.eraseP_cons_of_neg hb, List.find?_cons_of_neg hb]
        by_cases hq : q b = true
        · rw [List.filter_cons_of_pos hq, List.filter_cons_of_pos hq,
            List.cons_inj_right, ih]
        · rw [List.filter_cons_of_neg hq, List.filter_cons_of_neg hq, ih]

/-- Two conditions filter a list alike exactly if they agree on its entries. -/
theorem filter_eq_filter_iff :
    l.filter p = l.filter q ↔ ∀ b ∈ l, p b = q b := by
  constructor
  · intro h b hb
    have hmem : b ∈ l.filter p ↔ b ∈ l.filter q := by rw [h]
    simp only [List.mem_filter, hb, true_and] at hmem
    exact Bool.eq_iff_iff.mpr hmem
  · exact List.filter_congr

/-- Of chunks of one length, one that stands at a multiple of the length is one
of them. -/
theorem exists_aligned_iff {k : ℕ} (hk : 0 < k) {chunks : List (List α)}
    (hlen : ∀ c ∈ chunks, c.length = k) {h : List α} (hh : h.length = k) :
    (∃ pre post, chunks.flatten = pre ++ h ++ post ∧ k ∣ pre.length) ↔
      h ∈ chunks := by
  induction chunks with
  | nil =>
      refine iff_of_false ?_ List.not_mem_nil
      rintro ⟨pre, post, hnil, -⟩
      have hzero := congrArg List.length hnil
      simp only [List.flatten_nil, List.length_nil, List.length_append,
        hh] at hzero
      omega
  | cons c chunks ih =>
      have hc := hlen c List.mem_cons_self
      have hrest := ih fun d hd => hlen d (List.mem_cons_of_mem c hd)
      rw [List.flatten_cons, List.mem_cons, ← hrest]
      constructor
      · rintro ⟨pre, post, hsplit, m, hm⟩
        cases m with
        | zero =>
            have hpre : pre = [] := List.length_eq_zero_iff.mp (by omega)
            rw [hpre, List.nil_append] at hsplit
            exact Or.inl (List.append_inj_left hsplit (by omega)).symm
        | succ m =>
            -- the first chunk lies before it
            have hmul : k * (m + 1) = k * m + k := Nat.mul_succ k m
            refine Or.inr ⟨pre.drop k, post, ?_, m, ?_⟩
            · have hdrop := congrArg (List.drop k) hsplit
              rwa [List.drop_append_of_le_length (by omega),
                List.drop_of_length_le (by omega), List.nil_append,
                List.append_assoc, List.drop_append_of_le_length (by omega),
                ← List.append_assoc] at hdrop
            · rw [List.length_drop]
              omega
      · rintro (rfl | ⟨pre, post, hsplit, m, hm⟩)
        · exact ⟨[], chunks.flatten, rfl, Nat.dvd_zero k⟩
        · refine ⟨c ++ pre, post, ?_, m + 1, ?_⟩
          · rw [hsplit]
            simp only [List.append_assoc]
          · rw [List.length_append, hc, hm, Nat.mul_succ]
            omega

/-! ## Entry by entry -/

/-- A relation between a list with a focus and the list in which one function
has been applied around the focus and another one at it. -/
theorem forall₂_around {R : α → α → Prop} {f : α → α} {x y : α}
    {before after : List α} :
    List.Forall₂ R (before ++ x :: after)
        (before.map f ++ y :: after.map f) ↔
      R x y ∧ ∀ a ∈ before ++ after, R a (f a) := by
  induction before with
  | nil => simp
  | cons b before ih =>
      simp only [List.cons_append, List.map_cons, List.forall₂_cons, ih,
        List.forall_mem_cons]
      exact and_left_comm

theorem forall₂_trans {R : α → α → Prop}
    (hR : ∀ a b c, R a b → R b c → R a c) {l m k : List α}
    (h : List.Forall₂ R l m) (h' : List.Forall₂ R m k) :
    List.Forall₂ R l k := by
  induction h generalizing k with
  | nil => exact h'
  | cons hab _ ih =>
      cases h' with
      | cons hbc hrest => exact .cons (hR _ _ _ hab hbc) (ih hrest)

/-- Replacing one entry by a related one. -/
theorem forall₂_set {R : α → α → Prop} (hrefl : ∀ a, R a a) {i : ℕ} {b : α}
    (hi : l[i]? = some a) (hab : R a b) : List.Forall₂ R l (l.set i b) := by
  induction l generalizing i with
  | nil => simp at hi
  | cons c l ih =>
      cases i with
      | zero =>
          have hc : c = a := by simpa using hi
          subst hc
          exact .cons hab (List.forall₂_same.mpr fun d _ => hrefl d)
      | succ i => exact .cons (hrefl c) (ih (by simpa using hi))

/-- What the relation carries over holds of every entry of the second list if
it holds of every entry of the first. -/
theorem forall_mem_of_forall₂ {β : Type*} {R : α → β → Prop} {P : α → Prop}
    {Q : β → Prop} (hR : ∀ a b, R a b → P a → Q b) {m : List β}
    (h : List.Forall₂ R l m) (hP : ∀ a ∈ l, P a) : ∀ b ∈ m, Q b := by
  induction h with
  | nil => simp
  | cons hab _ ih =>
      rw [List.forall_mem_cons] at hP ⊢
      exact ⟨hR _ _ hab hP.1, ih hP.2⟩

/-- Every entry of the first list has its partner in the second. -/
theorem exists_mem_of_forall₂ {β : Type*} {R : α → β → Prop} {m : List β}
    (h : List.Forall₂ R l m) (ha : a ∈ l) : ∃ b ∈ m, R a b := by
  induction h with
  | nil => cases ha
  | cons hab _ ih =>
      rcases List.mem_cons.mp ha with rfl | hmem
      · exact ⟨_, List.mem_cons_self, hab⟩
      · obtain ⟨b, hb, hR⟩ := ih hmem
        exact ⟨b, List.mem_cons_of_mem _ hb, hR⟩

/-- What the relation gives of two partners holds of all that are combined. -/
theorem forall_mem_zipWith {β γ : Type*} {R : α → β → Prop} {P : γ → Prop}
    {f : α → β → γ} (hR : ∀ a b, R a b → P (f a b)) {m : List β}
    (h : List.Forall₂ R l m) : ∀ c ∈ List.zipWith f l m, P c := by
  induction h with
  | nil => simp
  | cons hab _ ih =>
      rw [List.zipWith_cons_cons, List.forall_mem_cons]
      exact ⟨hR _ _ hab, ih⟩

/-- What is left of a list, with another entry behind it. -/
theorem forall_mem_push {P : α → Prop} {m : List α} (h : ∀ b ∈ l, P b)
    (hm : m ⊆ l) (ha : P a) : ∀ b ∈ m ++ [a], P b :=
  List.forall_mem_append.mpr
    ⟨fun b hb => h b (hm hb), List.forall_mem_singleton.mpr ha⟩

/-- A list with one entry at most has no other one. -/
theorem eq_singleton_of_mem (hlen : l.length ≤ 1) (ha : a ∈ l) : l = [a] := by
  obtain ⟨b, rfl⟩ := List.length_eq_one_iff.mp
    (Nat.le_antisymm hlen (List.length_pos_of_mem ha))
  rw [List.mem_singleton.mp ha]

/-- A loop with an early exit takes it if an entry calls for it. -/
theorem mapM_eq_none_iff {β : Type*} {f : α → Option β} {l : List α} :
    l.mapM f = none ↔ ∃ a ∈ l, f a = none := by
  induction l with
  | nil => simp
  | cons a l ih =>
      cases ha : f a with
      | none => simp [List.mapM_cons, ha]
      | some b =>
          cases hl : l.mapM f with
          | none => simpa [List.mapM_cons, ha, hl] using ih
          | some bs => simpa [List.mapM_cons, ha, hl] using ih

/-- Otherwise it has one result for every entry. -/
theorem forall₂_of_mapM_eq_some {β : Type*} {f : α → Option β} {bs : List β}
    (h : l.mapM f = some bs) :
    List.Forall₂ (fun a b => f a = some b) l bs := by
  induction l generalizing bs with
  | nil =>
      rw [List.mapM_nil] at h
      cases h
      exact .nil
  | cons a l ih =>
      cases ha : f a with
      | none => simp [List.mapM_cons, ha] at h
      | some b =>
          cases hl : l.mapM f with
          | none => simp [List.mapM_cons, ha, hl] at h
          | some cs =>
              have hbs : b :: cs = bs := by
                simpa [List.mapM_cons, ha, hl] using h
              exact hbs ▸ .cons ha (ih hl)

/-- A list is left as it is when each of its entries is. -/
theorem map_eq_self_iff {f : α → α} : l.map f = l ↔ ∀ a ∈ l, f a = a :=
  calc l.map f = l ↔ l.map f = l.map id := by rw [List.map_id]
    _ ↔ ∀ a ∈ l, f a = a := List.map_inj_left

/-- The results, without the loop. -/
theorem filterMap_of_mapM_eq_some {β : Type*} {f : α → Option β} {bs : List β}
    (h : l.mapM f = some bs) : l.filterMap f = bs := by
  have hresults := forall₂_of_mapM_eq_some h
  clear h
  induction hresults with
  | nil => rfl
  | cons ha _ ih => rw [List.filterMap_cons_some ha, ih]

/-- The length of results written one behind the other. -/
theorem length_flatten_filterMap {β : Type*} (f : α → Option (List β))
    (l : List α) :
    (l.filterMap f).flatten.length =
      (l.map fun a => (f a).elim 0 List.length).sum := by
  induction l with
  | nil => rfl
  | cons a l ih =>
      rw [List.map_cons, List.sum_cons, ← ih]
      cases ha : f a with
      | none => simp [ha]
      | some b => simp [ha]

end OspfLite
