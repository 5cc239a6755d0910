import OspfLite.Lib.Bytes

/-!
# Pointer loops

The loop `for (p = start; p != stop; p += size)` over elements of one size, with
a `break` in its body.  The test is for equality, so whether the loop ends, and
where its body reads, depends on how far away the end is.
-/

namespace OspfLite

/-- A pointer loop over offsets: the body is left by a `break` at the offsets
where `exit` holds. -/
structure PointerLoop where
  start : ℕ
  stop : ℕ
  size : ℕ
  exit : ℕ → Prop

namespace PointerLoop

variable {l : PointerLoop} {p bound : ℕ}

/-- The offsets at which the loop makes its test. -/
inductive Tests (l : PointerLoop) : ℕ → Prop
  | start : Tests l l.start
  | next {p : ℕ} (h : Tests l p) (hne : p ≠ l.stop) (hstay : ¬l.exit p) :
      Tests l (p + l.size)

/-- The offsets at which the body runs. -/
def Visits (l : PointerLoop) (p : ℕ) : Prop := l.Tests p ∧ p ≠ l.stop

/-- The loop comes to its end, or is left. -/
def Terminates (l : PointerLoop) : Prop :=
  l.Tests l.stop ∨ ∃ p, l.Visits p ∧ l.exit p

/-- The loop terminates, and every element its body reads ends at the bound or
before it. -/
structure Inside (l : PointerLoop) (bound : ℕ) : Prop where
  terminates : l.Terminates
  reads : ∀ p, l.Visits p → p + l.size ≤ bound

/-- The body has neither met the end nor left the loop in the first rounds. -/
def GoesOn (l : PointerLoop) (k : ℕ) : Prop :=
  ∀ j < k, l.start + l.size * j ≠ l.stop ∧ ¬l.exit (l.start + l.size * j)

/-- The tests are made one element after the other. -/
theorem tests_iff : l.Tests p ↔ ∃ k, p = l.start + l.size * k ∧ l.GoesOn k := by
  constructor
  · intro h
    induction h with
    | start => exact ⟨0, rfl, fun j hj => absurd hj (Nat.not_lt_zero j)⟩
    | next _ hne hstay ih =>
        obtain ⟨k, rfl, hon⟩ := ih
        refine ⟨k + 1, by rw [Nat.mul_succ, Nat.add_assoc], ?_⟩
        intro j hj
        rcases Nat.lt_succ_iff_lt_or_eq.mp hj with hlt | rfl
        · exact hon j hlt
        · exact ⟨hne, hstay⟩
  · rintro ⟨k, rfl, hon⟩
    induction k with
    | zero => exact .start
    | succ k ih =>
        have hlast := hon k (Nat.lt_succ_self k)
        have hbefore := ih fun j hj => hon j (Nat.lt_succ_of_lt hj)
        rw [Nat.mul_succ, ← Nat.add_assoc]
        exact .next hbefore hlast.1 hlast.2

/-- An exit that lies before the end is taken, at the latest. -/
theorem exists_first_exit {i : ℕ} (hexit : l.exit (l.start + l.size * i))
    (hbefore : ∀ j ≤ i, l.start + l.size * j ≠ l.stop) :
    ∃ m ≤ i, l.exit (l.start + l.size * m) ∧ l.GoesOn m := by
  classical
  have hsome : ∃ m, l.exit (l.start + l.size * m) := ⟨i, hexit⟩
  have hle : Nat.find hsome ≤ i := Nat.find_min' hsome hexit
  refine ⟨Nat.find hsome, hle, Nat.find_spec hsome, fun j hj => ?_⟩
  exact ⟨hbefore j (by omega), Nat.find_min hsome hj⟩

/-- The loop is left by its exit, inside the bound. -/
def ExitsInside (l : PointerLoop) (bound : ℕ) : Prop :=
  ∃ i, l.exit (l.start + l.size * i) ∧
    l.start + l.size * (i + 1) ≤ bound ∧
      ∀ j ≤ i, l.start + l.size * j ≠ l.stop

/-- The end lies ahead by whole elements, and inside the bound if there are
any. -/
def EndsInside (l : PointerLoop) (bound : ℕ) : Prop :=
  ∃ n, l.start + l.size * n = l.stop ∧ (n = 0 ∨ l.stop ≤ bound)

theorem ExitsInside.inside (h : l.ExitsInside bound) : l.Inside bound := by
  obtain ⟨i, hexit, hbound, hbefore⟩ := h
  obtain ⟨m, hm, hfirst, hon⟩ := exists_first_exit hexit hbefore
  constructor
  · exact Or.inr ⟨_, ⟨tests_iff.mpr ⟨m, rfl, hon⟩, hbefore m hm⟩, hfirst⟩
  · rintro p ⟨htest, -⟩
    obtain ⟨k, rfl, hk⟩ := tests_iff.mp htest
    have hkm : k ≤ m := by
      by_contra hlt
      exact (hk m (not_le.mp hlt)).2 hfirst
    have hmul : l.size * (k + 1) ≤ l.size * (i + 1) :=
      Nat.mul_le_mul_left _ (by omega)
    rw [Nat.mul_succ] at hmul
    omega

theorem EndsInside.inside (hsize : 0 < l.size) (h : l.EndsInside bound) :
    l.Inside bound := by
  obtain ⟨n, hstop, hbound⟩ := h
  have hbefore : ∀ j < n, l.start + l.size * j ≠ l.stop := by
    intro j hj
    have hmul : l.size * j < l.size * n := Nat.mul_lt_mul_of_pos_left hj hsize
    omega
  constructor
  · by_cases hsome : ∃ i < n, l.exit (l.start + l.size * i)
    · obtain ⟨i, hi, hexit⟩ := hsome
      obtain ⟨m, hm, hfirst, hon⟩ := exists_first_exit hexit
        fun j hj => hbefore j (by omega)
      exact Or.inr ⟨_, ⟨tests_iff.mpr ⟨m, rfl, hon⟩,
        hbefore m (by omega)⟩, hfirst⟩
    · push Not at hsome
      refine Or.inl (tests_iff.mpr ⟨n, hstop.symm, fun j hj => ?_⟩)
      exact ⟨hbefore j hj, hsome j hj⟩
  · rintro p ⟨htest, hne⟩
    obtain ⟨k, rfl, hk⟩ := tests_iff.mp htest
    have hkn : k < n := by
      rcases Nat.lt_trichotomy k n with hlt | rfl | hgt
      · exact hlt
      · exact absurd hstop hne
      · exact absurd hstop (hk n hgt).1
    have hmul : l.size * (k + 1) ≤ l.size * n := Nat.mul_le_mul_left _ hkn
    rw [Nat.mul_succ] at hmul
    omega

/-- A loop stays inside a bound exactly when it is left there, or comes to its
end there. -/
theorem inside_iff (hsize : 0 < l.size) :
    l.Inside bound ↔ l.ExitsInside bound ∨ l.EndsInside bound := by
  constructor
  · rintro ⟨hend | ⟨p, hvisit, hexit⟩, hreads⟩
    · obtain ⟨k, hstop, hon⟩ := tests_iff.mp hend
      refine Or.inr ⟨k, hstop.symm, ?_⟩
      cases k with
      | zero => exact Or.inl rfl
      | succ k =>
          have hlast : l.Visits (l.start + l.size * k) :=
            ⟨tests_iff.mpr ⟨k, rfl, fun j hj => hon j (by omega)⟩,
              (hon k (Nat.lt_succ_self k)).1⟩
          have hread := hreads _ hlast
          rw [Nat.mul_succ] at hstop
          exact Or.inr (by omega)
    · obtain ⟨k, rfl, hon⟩ := tests_iff.mp hvisit.1
      have hread := hreads _ hvisit
      refine Or.inl ⟨k, hexit, by rw [Nat.mul_succ]; omega, fun j hj => ?_⟩
      rcases Nat.lt_or_eq_of_le hj with hlt | rfl
      · exact (hon j hlt).1
      · exact hvisit.2
  · rintro (hexit | hend)
    · exact hexit.inside
    · exact hend.inside hsize

/-- A loop without a `break`. -/
theorem inside_iff_of_no_exit (hsize : 0 < l.size) (hstay : ∀ p, ¬l.exit p) :
    l.Inside bound ↔ l.EndsInside bound := by
  rw [inside_iff hsize, or_iff_right]
  rintro ⟨i, hexit, -⟩
  exact hstay _ hexit

/-- A loop without a `break` comes to its end if the end lies ahead by whole
elements. -/
theorem terminates_iff (hsize : 0 < l.size) (hstay : ∀ p, ¬l.exit p) :
    l.Terminates ↔ ∃ n, l.start + l.size * n = l.stop := by
  constructor
  · rintro (hend | ⟨p, -, hexit⟩)
    · obtain ⟨k, hstop, -⟩ := tests_iff.mp hend
      exact ⟨k, hstop.symm⟩
    · exact absurd hexit (hstay p)
  · rintro ⟨n, hstop⟩
    exact ((inside_iff_of_no_exit hsize hstay).mpr
      ⟨n, hstop, Or.inr le_rfl⟩).terminates

/-- The number of rounds that `pointerSteps` gives. -/
theorem pointerSteps_eq_some_iff {start stop step n : ℕ} (hstep : 0 < step) :
    pointerSteps start stop step = some n ↔ start + step * n = stop := by
  rw [pointerSteps]
  constructor
  · intro h
    split_ifs at h with hwhole
    rw [← Option.some.inj h, Nat.mul_div_cancel' (Nat.dvd_of_mod_eq_zero
      hwhole.2)]
    omega
  · rintro rfl
    rw [Nat.add_sub_cancel_left, if_pos ⟨Nat.le_add_right _ _,
      Nat.mul_mod_right _ _⟩, Nat.mul_div_cancel_left _ hstep]

/-- The `break` of a loop that reads up to a bound before its end. -/
theorem exitsInside_iff (hsize : 0 < l.size) (hbound : bound ≤ l.stop) :
    l.ExitsInside bound ↔
      ∃ i, l.exit (l.start + l.size * i) ∧
        l.start + l.size * (i + 1) ≤ bound := by
  refine exists_congr fun i => and_congr_right fun _ => ?_
  refine and_iff_left_of_imp fun hread j hj => ?_
  have hmul : l.size * j ≤ l.size * i := Nat.mul_le_mul_left _ hj
  rw [Nat.mul_succ] at hread
  omega

end PointerLoop
end OspfLite
