import OspfLite.Lib.Outcome

/-!
# Runs of a step function

A run is a sequence of labels executed one after the other.  What one step
preserves holds after every run that completes.
-/

namespace OspfLite

variable {σ ι : Type*}

/-- The state after the steps of a run, if each of them completes. -/
def runFrom (step : σ → ι → Outcome σ) (s : σ) : List ι → Outcome σ
  | [] => .ok s
  | i :: is => (step s i).bind fun s' => runFrom step s' is

/-- Every step of the run meets `P` in the state in which it is taken. -/
def Along (step : σ → ι → Outcome σ) (P : σ → ι → Prop) (s : σ) :
    List ι → Prop
  | [] => True
  | i :: is => P s i ∧ ∀ s', step s i = .ok s' → Along step P s' is

variable {step : σ → ι → Outcome σ} {P Q : σ → ι → Prop} {I : σ → Prop}

@[simp] theorem runFrom_nil (s : σ) : runFrom step s [] = .ok s := rfl

theorem runFrom_cons (s : σ) (i : ι) (is : List ι) :
    runFrom step s (i :: is) =
      (step s i).bind fun s' => runFrom step s' is := rfl

theorem runFrom_append (s : σ) (is js : List ι) :
    runFrom step s (is ++ js) =
      (runFrom step s is).bind fun s' => runFrom step s' js := by
  induction is generalizing s with
  | nil => rfl
  | cons i is ih =>
      rw [List.cons_append, runFrom_cons, runFrom_cons]
      cases step s i with
      | error e => rfl
      | ok s' => simpa using ih s'

/-- A run over labels that stand for others. -/
theorem runFrom_map {κ : Type*} (f : κ → ι) (s : σ) (ks : List κ) :
    runFrom step s (ks.map f) = runFrom (fun s k => step s (f k)) s ks := by
  induction ks generalizing s with
  | nil => rfl
  | cons k ks ih => simp only [List.map_cons, runFrom_cons, ih]

@[simp] theorem along_nil (s : σ) : Along step P s [] := trivial

theorem along_cons {s : σ} {i : ι} {is : List ι} :
    Along step P s (i :: is) ↔
      P s i ∧ ∀ s', step s i = .ok s' → Along step P s' is := Iff.rfl

instance decidableAlong [∀ s i, Decidable (P s i)] (s : σ) :
    (is : List ι) → Decidable (Along step P s is)
  | [] => isTrue trivial
  | _ :: is =>
      have : DecidablePred fun s' => Along step P s' is :=
        fun s' => decidableAlong s' is
      inferInstanceAs (Decidable (_ ∧ _))

/-- A condition on labels alone holds along a run when it holds of every
label. -/
theorem along_of_forall {p : ι → Prop} {is : List ι}
    (h : ∀ i ∈ is, p i) (s : σ) : Along step (fun _ => p) s is := by
  induction is generalizing s with
  | nil => trivial
  | cons i is ih =>
      exact ⟨h i List.mem_cons_self,
        fun s' _ => ih (fun j hj => h j (List.mem_cons_of_mem i hj)) s'⟩

/-- A condition holds along a run in two parts when it holds along the first,
and along the second from where the first ends. -/
theorem along_append {s : σ} {is js : List ι} :
    Along step P s (is ++ js) ↔
      Along step P s is ∧
        ∀ t, runFrom step s is = .ok t → Along step P t js := by
  induction is generalizing s with
  | nil => simp
  | cons i is ih =>
      simp only [List.cons_append, along_cons, ih, runFrom_cons,
        Outcome.bind_eq_ok]
      constructor
      · rintro ⟨hP, hrest⟩
        exact ⟨⟨hP, fun s' hs' => (hrest s' hs').1⟩,
          fun t ⟨s', hs', ht⟩ => (hrest s' hs').2 t ht⟩
      · rintro ⟨⟨hP, hfirst⟩, hsecond⟩
        exact ⟨hP, fun s' hs' =>
          ⟨hfirst s' hs', fun t ht => hsecond t ⟨s', hs', ht⟩⟩⟩

theorem runFrom_singleton {s t : σ} {i : ι} :
    runFrom step s [i] = .ok t ↔ step s i = .ok t := by
  rw [runFrom_cons]
  cases step s i with
  | error e => exact Iff.rfl
  | ok u => exact Iff.rfl

/-- One more step. -/
theorem runFrom_concat {s t u : σ} {is : List ι} {i : ι}
    (h : runFrom step s is = .ok t) (hi : step t i = .ok u) :
    runFrom step s (is ++ [i]) = .ok u := by
  rw [runFrom_append, h, Outcome.bind_ok, runFrom_cons, hi,
    Outcome.bind_ok, runFrom_nil]

theorem along_append_of_run {s t : σ} {is js : List ι}
    (his : Along step P s is) (h : runFrom step s is = .ok t)
    (hjs : Along step P t js) : Along step P s (is ++ js) := by
  refine along_append.mpr ⟨his, fun t' ht' => ?_⟩
  rw [h, Except.ok.injEq] at ht'
  exact ht' ▸ hjs

theorem along_concat {s t : σ} {is : List ι} {i : ι}
    (his : Along step P s is) (h : runFrom step s is = .ok t) (hi : P t i) :
    Along step P s (is ++ [i]) :=
  along_append_of_run his h ⟨hi, fun _ _ => trivial⟩

/-- A condition that holds along a run holds along its beginning. -/
theorem along_of_beginning {s : σ} {is js : List ι}
    (h : Along step P s js) (hjs : is <+: js) : Along step P s is := by
  obtain ⟨ks, rfl⟩ := hjs
  exact (along_append.mp h).1

/-- Two conditions that hold along a run hold along it together. -/
theorem along_and {s : σ} {is : List ι} (hP : Along step P s is)
    (hQ : Along step Q s is) : Along step (fun s i => P s i ∧ Q s i) s is := by
  induction is generalizing s with
  | nil => trivial
  | cons i is ih =>
      exact ⟨⟨hP.1, hQ.1⟩, fun s' hs' => ih (hP.2 s' hs') (hQ.2 s' hs')⟩

/-- A weaker condition holds along the run as well. -/
theorem along_mono (hPQ : ∀ s i, P s i → Q s i) {s : σ} {is : List ι}
    (h : Along step P s is) : Along step Q s is := by
  induction is generalizing s with
  | nil => trivial
  | cons i is ih => exact ⟨hPQ s i h.1, fun s' hs' => ih (h.2 s' hs')⟩

/-- The labels of the steps up to the state in which the run is done, or up to
a step that does not complete. -/
def labelsUntil (step : σ → ι → Outcome σ) (done : σ → Bool) (s : σ) :
    List ι → List ι
  | [] => []
  | i :: is =>
      if done s then
        []
      else
        match step s i with
        | .ok s' => i :: labelsUntil step done s' is
        | .error _ => [i]

theorem labelsUntil_prefix (done : σ → Bool) (s : σ) (is : List ι) :
    labelsUntil step done s is <+: is := by
  induction is generalizing s with
  | nil => exact List.prefix_rfl
  | cons i is ih =>
      rw [labelsUntil]
      split_ifs
      · exact List.nil_prefix
      · cases step s i with
        | error e => exact ⟨is, rfl⟩
        | ok s' => exact List.prefix_cons_inj i |>.mpr (ih s')

/-- A condition on labels, asked as long as the run is not done, is one on
those labels. -/
theorem along_until_iff {done : σ → Bool} {p : ι → Prop}
    (hdone : ∀ s i s', done s = true → step s i = .ok s' → done s' = true)
    (s : σ) (is : List ι) :
    Along step (fun s i => done s = false → p i) s is ↔
      ∀ i ∈ labelsUntil step done s is, p i := by
  induction is generalizing s with
  | nil => simp [labelsUntil]
  | cons i is ih =>
      rw [along_cons, labelsUntil]
      cases hs : done s with
      | true =>
          rw [if_pos rfl]
          refine iff_of_true ⟨fun h => absurd h (by decide), ?_⟩ (by simp)
          intro s' hs'
          have hrest : labelsUntil step done s' is = [] := by
            cases is with
            | nil => rfl
            | cons j js => rw [labelsUntil, if_pos (hdone s i s' hs hs')]
          rw [ih, hrest]
          simp
      | false =>
          rw [if_neg Bool.false_ne_true]
          cases step s i with
          | error e => simp
          | ok s' => simp [ih]

/-- Every step of the run meets `P` in the state in which it is taken, given
the steps that are to follow it. -/
def AlongRest (step : σ → ι → Outcome σ) (P : σ → ι → List ι → Prop)
    (s : σ) : List ι → Prop
  | [] => True
  | i :: is => P s i is ∧ ∀ s', step s i = .ok s' → AlongRest step P s' is

/-- Where it does not matter what follows. -/
theorem alongRest_iff_along {R : σ → ι → List ι → Prop}
    (hiff : ∀ s i is, R s i is ↔ P s i) (s : σ) (is : List ι) :
    AlongRest step R s is ↔ Along step P s is := by
  induction is generalizing s with
  | nil => exact Iff.rfl
  | cons i is ih => simp only [AlongRest, along_cons, hiff, ih]

/-- A condition fails along a run if it fails for a step that the run reaches
by the steps before it. -/
theorem not_alongRest_of_prefix {R : σ → ι → List ι → Prop} {s t : σ}
    {is : List ι} {i : ι} {js : List ι} (hrun : runFrom step s is = .ok t)
    (hnot : ¬R t i js) : ¬AlongRest step R s (is ++ i :: js) := by
  induction is generalizing s with
  | nil =>
      rw [runFrom_nil, Except.ok.injEq] at hrun
      subst hrun
      intro h
      exact hnot h.1
  | cons j is ih =>
      obtain ⟨u, hu, hrest⟩ := Outcome.bind_eq_ok.mp hrun
      intro h
      exact ih hrest (h.2 u hu)

theorem not_along_of_prefix {s t : σ} {is : List ι} {i : ι} {js : List ι}
    (hrun : runFrom step s is = .ok t) (hnot : ¬P t i) :
    ¬Along step P s (is ++ i :: js) := by
  rw [← alongRest_iff_along (R := fun s i _ => P s i) fun _ _ _ => Iff.rfl]
  exact not_alongRest_of_prefix hrun hnot

/-- The induction over a run: what every admissible step preserves holds in
the state the run ends in. -/
theorem runFrom_invariant
    (hstep : ∀ s i s', I s → P s i → step s i = .ok s' → I s')
    {s s' : σ} {is : List ι} (hs : I s) (his : Along step P s is)
    (hrun : runFrom step s is = .ok s') : I s' := by
  induction is generalizing s with
  | nil =>
      rw [runFrom_nil, Except.ok.injEq] at hrun
      exact hrun ▸ hs
  | cons i is ih =>
      obtain ⟨t, ht, hrest⟩ := Outcome.bind_eq_ok.mp hrun
      exact ih (hstep s i t hs his.1 ht) (his.2 t ht) hrest

/-- The same for an invariant that depends on the number of steps. -/
theorem runFrom_counted {I : ℕ → σ → Prop}
    (hstep : ∀ k s i s', I k s → P s i → step s i = .ok s' → I (k + 1) s')
    {k : ℕ} {s s' : σ} {is : List ι} (hs : I k s) (his : Along step P s is)
    (hrun : runFrom step s is = .ok s') : I (k + is.length) s' := by
  induction is generalizing s k with
  | nil =>
      rw [runFrom_nil, Except.ok.injEq] at hrun
      exact hrun ▸ hs
  | cons i is ih =>
      obtain ⟨t, ht, hrest⟩ := Outcome.bind_eq_ok.mp hrun
      have hafter := ih (hstep k s i t hs his.1 ht) (his.2 t ht) hrest
      rwa [Nat.add_right_comm, Nat.add_assoc] at hafter

/-- If the invariant makes every admissible step complete, every admissible
run completes. -/
theorem exists_runFrom
    (hstep : ∀ s i, I s → P s i → ∃ s', step s i = .ok s' ∧ I s')
    {s : σ} {is : List ι} (hs : I s) (his : Along step P s is) :
    ∃ s', runFrom step s is = .ok s' ∧ I s' := by
  induction is generalizing s with
  | nil => exact ⟨s, rfl, hs⟩
  | cons i is ih =>
      obtain ⟨t, ht, hI⟩ := hstep s i hs his.1
      obtain ⟨s', hrun, hI'⟩ := ih hI (his.2 t ht)
      exact ⟨s', by rw [runFrom_cons, ht, Outcome.bind_ok, hrun], hI'⟩

/-- A run whose steps meet a condition leads from one state to another. -/
def Reaches (step : σ → ι → Outcome σ) (P : σ → ι → Prop) (s t : σ) : Prop :=
  ∃ is, Along step P s is ∧ runFrom step s is = .ok t

theorem reaches_refl (s : σ) : Reaches step P s s := ⟨[], trivial, rfl⟩

/-- One more step. -/
theorem Reaches.next {s t u : σ} {i : ι} (h : Reaches step P s t)
    (hP : P t i) (hu : step t i = .ok u) : Reaches step P s u := by
  obtain ⟨is, his, hrun⟩ := h
  exact ⟨is ++ [i], along_concat his hrun hP, runFrom_concat hrun hu⟩

/-- Equivalent conditions on a step hold along the same runs. -/
theorem along_congr (hiff : ∀ s i, Q s i ↔ P s i) (s : σ) (is : List ι) :
    Along step Q s is ↔ Along step P s is := by
  induction is generalizing s with
  | nil => exact Iff.rfl
  | cons i is ih => simp only [along_cons, hiff, ih]

/-- Where the invariant makes two conditions on a step equivalent, they hold
along the same runs. -/
theorem along_iff_of_invariant
    (hstep : ∀ s i s', I s → P s i → step s i = .ok s' → I s')
    (hiff : ∀ s i, I s → (Q s i ↔ P s i)) {s : σ} {is : List ι}
    (hs : I s) : Along step Q s is ↔ Along step P s is := by
  induction is generalizing s with
  | nil => exact Iff.rfl
  | cons i is ih =>
      rw [along_cons, along_cons, hiff s i hs]
      constructor
      · rintro ⟨hP, hrest⟩
        exact ⟨hP, fun t ht => (ih (hstep s i t hs hP ht)).mp (hrest t ht)⟩
      · rintro ⟨hP, hrest⟩
        exact ⟨hP, fun t ht => (ih (hstep s i t hs hP ht)).mpr (hrest t ht)⟩

/-- Some step that the run reaches meets `P` in the state in which it is
taken. -/
def Sometime (step : σ → ι → Outcome σ) (P : σ → ι → Prop) (s : σ) :
    List ι → Prop
  | [] => False
  | i :: is => P s i ∨ ∃ s', step s i = .ok s' ∧ Sometime step P s' is

theorem sometime_cons {s : σ} {i : ι} {is : List ι} :
    Sometime step P s (i :: is) ↔
      P s i ∨ ∃ s', step s i = .ok s' ∧ Sometime step P s' is := Iff.rfl

/-! ## Properties of all states of a run -/

/-- Every state the run passes through has the property. -/
def Throughout (step : σ → ι → Outcome σ) (G : σ → Prop) (s : σ)
    (is : List ι) : Prop :=
  ∀ js t, js <+: is → runFrom step s js = .ok t → G t

variable {G : σ → Prop}

theorem throughout_nil {s : σ} : Throughout step G s [] ↔ G s := by
  constructor
  · intro h
    exact h [] s List.prefix_rfl rfl
  · intro h js t hjs hrun
    rw [List.prefix_nil.mp hjs, runFrom_nil, Except.ok.injEq] at hrun
    exact hrun ▸ h

theorem throughout_cons {s : σ} {i : ι} {is : List ι} :
    Throughout step G s (i :: is) ↔
      G s ∧ ∀ s', step s i = .ok s' → Throughout step G s' is := by
  constructor
  · intro h
    refine ⟨h [] s List.nil_prefix rfl, ?_⟩
    intro s' hs' js t hjs hrun
    refine h (i :: js) t (List.prefix_cons_inj i |>.mpr hjs) ?_
    rw [runFrom_cons, hs', Outcome.bind_ok, hrun]
  · rintro ⟨hs, hrest⟩ js t hjs hrun
    cases js with
    | nil =>
        rw [runFrom_nil, Except.ok.injEq] at hrun
        exact hrun ▸ hs
    | cons j js =>
        rw [List.cons_prefix_cons] at hjs
        obtain ⟨rfl, hjs⟩ := hjs
        obtain ⟨s', hs', hrun⟩ := Outcome.bind_eq_ok.mp hrun
        exact hrest s' hs' js t hjs hrun

/-- A first step that is known to complete. -/
theorem throughout_cons_of_ok {s s' : σ} {i : ι} {is : List ι} (hs : G s)
    (hstep : step s i = .ok s') (h : Throughout step G s' is) :
    Throughout step G s (i :: is) := by
  refine throughout_cons.mpr ⟨hs, fun t ht => ?_⟩
  rw [hstep, Except.ok.injEq] at ht
  exact ht ▸ h

/-- The property holds in the first state. -/
theorem Throughout.head {s : σ} {is : List ι} (h : Throughout step G s is) :
    G s :=
  h [] s List.nil_prefix rfl

/-- The property fails if the run ends in a state without it. -/
theorem not_throughout_of_run {s t : σ} {is : List ι}
    (hrun : runFrom step s is = .ok t) (hnot : ¬G t) :
    ¬Throughout step G s is :=
  fun h => hnot (h is t List.prefix_rfl hrun)

/-- Where an invariant is kept by the steps that meet a condition, and no
other step leads to states with the property only, the property holds
throughout the runs all of whose steps meet the condition. -/
theorem throughout_iff_along (hI : ∀ s, I s → G s)
    (hkeep : ∀ s i s', I s → P s i → step s i = .ok s' → I s')
    (hneed : ∀ s i, I s → (∀ s', step s i = .ok s' → G s') → P s i)
    {s : σ} {is : List ι} (hs : I s) :
    Throughout step G s is ↔ Along step P s is := by
  induction is generalizing s with
  | nil => exact throughout_nil.trans ⟨fun _ => trivial, fun _ => hI s hs⟩
  | cons i is ih =>
      rw [throughout_cons, along_cons]
      constructor
      · rintro ⟨-, hrest⟩
        have hP : P s i := hneed s i hs fun t ht => (hrest t ht).head
        exact ⟨hP, fun t ht =>
          (ih (hkeep s i t hs hP ht)).mp (hrest t ht)⟩
      · rintro ⟨hP, hrest⟩
        exact ⟨hI s hs, fun t ht =>
          (ih (hkeep s i t hs hP ht)).mpr (hrest t ht)⟩

/-! ## Counting -/

/-- The number of steps of a run that meet a condition, as long as they
complete. -/
def countAlong (step : σ → ι → Outcome σ) (P : σ → ι → Prop)
    [∀ s i, Decidable (P s i)] (s : σ) : List ι → ℕ
  | [] => 0
  | i :: is =>
      match step s i with
      | .ok s' => (if P s i then 1 else 0) + countAlong step P s' is
      | .error _ => 0

/-- Where the steps that meet a condition, and no others, add an amount to a
measure, a bound on the measure is one on the number of those steps. -/
theorem throughout_le_iff_countAlong {measure : σ → ℕ} {amount bound : ℕ}
    [∀ s i, Decidable (P s i)]
    (hstep : ∀ s i s', step s i = .ok s' →
      measure s' = measure s + if P s i then amount else 0)
    (s : σ) (is : List ι) :
    Throughout step (fun t => measure t ≤ bound) s is ↔
      measure s + amount * countAlong step P s is ≤ bound := by
  induction is generalizing s with
  | nil => exact throughout_nil
  | cons i is ih =>
      rw [throughout_cons, countAlong]
      cases hs : step s i with
      | error e => simp
      | ok s' =>
          have hadd := hstep s i s' hs
          have hmul : amount * ((if P s i then 1 else 0) +
              countAlong step P s' is) =
                (if P s i then amount else 0) +
                  amount * countAlong step P s' is := by
            rw [Nat.mul_add]
            split_ifs <;> simp
          have hrest : (∀ t, Except.ok s' = (Except.ok t : Outcome σ) →
              Throughout step (fun t => measure t ≤ bound) t is) ↔
                measure s' + amount * countAlong step P s' is ≤ bound := by
            rw [← ih s']
            exact ⟨fun h => h s' rfl, fun h t ht => Except.ok.inj ht ▸ h⟩
          rw [hrest, hadd]
          simp only [hmul]
          constructor
          · rintro ⟨-, hfill⟩
            omega
          · intro hfill
            exact ⟨by omega, by omega⟩

end OspfLite
