import OspfLite.Interface.Agreement

/-!
# The loop of `call_election`

The loop repeats the election when the router has just become DR or BDR.  It
always ends: a pass in which the router becomes DR is followed by at most two
more, because a router that declares itself DR cannot lose that role to a
candidate that had not already kept it from becoming DR.
-/

namespace OspfLite
namespace Interface

variable {inter next : Interface} {routerId : UInt32} {noBdr : Bool}

/-! ## What one election returns -/

/-- The candidate the DR loop ends with. -/
def declaredDr (inter : Interface) (routerId : UInt32) (noBdr : Bool) :
    Option Candidate :=
  ((inter.drCandidates routerId noBdr).filter
    fun c => decide (c.dr = c.ip)).argmax Candidate.drKey

theorem election_fst :
    (inter.electionForDrAndNdr routerId noBdr).1 =
      (inter.declaredDr routerId noBdr).or
        (inter.electionForDrAndNdr routerId noBdr).2 := by
  simp only [electionForDrAndNdr, declaredDr, Candidate.foldl_drStep]
  cases ((inter.drCandidates routerId noBdr).filter
    fun c => decide (c.dr = c.ip)).argmax Candidate.drKey <;> rfl

theorem election_snd :
    (inter.electionForDrAndNdr routerId noBdr).2 =
      ((inter.bdrCandidates routerId noBdr).filter
        fun c => decide (c.dr ≠ c.ip)).argmax Candidate.bdrKey := by
  simp only [electionForDrAndNdr, Candidate.foldl_bdrStep]

theorem declaredDr_ne_none {c : Candidate}
    (hc : c ∈ inter.drCandidates routerId noBdr) (hdr : c.dr = c.ip) :
    inter.declaredDr routerId noBdr ≠ none := by
  intro hnone
  have hnil := List.argmax_eq_none.mp hnone
  have hmem : c ∈ (inter.drCandidates routerId noBdr).filter
      fun c => decide (c.dr = c.ip) := by
    simp [hc, hdr]
  simp [hnil] at hmem

theorem bdr_ne_none {c : Candidate}
    (hc : c ∈ inter.bdrCandidates routerId noBdr) (hdr : c.dr ≠ c.ip) :
    (inter.electionForDrAndNdr routerId noBdr).2 ≠ none := by
  rw [election_snd]
  intro hnone
  have hnil := List.argmax_eq_none.mp hnone
  have hmem : c ∈ (inter.bdrCandidates routerId noBdr).filter
      fun c => decide (c.dr ≠ c.ip) := by
    simp [hc, hdr]
  rw [hnil] at hmem
  exact List.not_mem_nil hmem

/-- A completed pass changes `dr` and `bdr` only, to the elected pair. -/
theorem electionPass_eq_ok :
    inter.electionPass routerId noBdr = .ok next ↔
      ∃ d, (inter.electionForDrAndNdr routerId noBdr).1 = some d ∧
        next = inter.setRoles d.ip
          (((inter.electionForDrAndNdr routerId noBdr).2.map
            Candidate.ip).getD 0) := by
  rw [electionPass]
  cases (inter.electionForDrAndNdr routerId noBdr).1 with
  | none => simp
  | some d => simp [eq_comm]

/-! ## The three continuations of a pass -/

/-- The loop ends with a pass in which the router gains no role. -/
theorem electionLoop_stop (fuel : ℕ)
    (hpass : inter.electionPass routerId noBdr = .ok next)
    (hdr : inter.ipInterfaceAddress = next.dr →
      inter.dr = inter.ipInterfaceAddress)
    (hbdr : inter.ipInterfaceAddress = next.bdr →
      inter.bdr = inter.ipInterfaceAddress) :
    electionLoop routerId (fuel + 1) inter noBdr = some (.ok (1, next)) := by
  rw [electionLoop, hpass]
  simp only
  rw [if_neg fun h => h.2 (hdr h.1).symm,
    if_neg fun h => h.2 (hbdr h.1).symm]

/-- A router that has become DR repeats the election with `no_bdr`. -/
theorem electionLoop_gain_dr (fuel : ℕ)
    (hpass : inter.electionPass routerId noBdr = .ok next)
    (hnew : next.dr = inter.ipInterfaceAddress)
    (hold : inter.dr ≠ inter.ipInterfaceAddress) {passes : ℕ}
    {last : Interface}
    (hrest : electionLoop routerId fuel next true =
      some (.ok (passes, last))) :
    electionLoop routerId (fuel + 1) inter noBdr =
      some (.ok (passes + 1, last)) := by
  rw [electionLoop, hpass]
  simp only
  rw [if_pos ⟨hnew.symm, hold.symm⟩, hrest]
  rfl

/-- A router that has become BDR repeats the election without `no_bdr`. -/
theorem electionLoop_gain_bdr (fuel : ℕ)
    (hpass : inter.electionPass routerId noBdr = .ok next)
    (hdr : inter.ipInterfaceAddress = next.dr →
      inter.dr = inter.ipInterfaceAddress)
    (hnew : next.bdr = inter.ipInterfaceAddress)
    (hold : inter.bdr ≠ inter.ipInterfaceAddress) {passes : ℕ}
    {last : Interface}
    (hrest : electionLoop routerId fuel next false =
      some (.ok (passes, last))) :
    electionLoop routerId (fuel + 1) inter noBdr =
      some (.ok (passes + 1, last)) := by
  rw [electionLoop, hpass]
  simp only
  rw [if_neg fun h => h.2 (hdr h.1).symm, if_pos ⟨hnew.symm, hold.symm⟩,
    hrest]
  rfl

/-! ## Termination -/

/-- While the router does not declare itself DR, the declared candidates are
its neighbors' alone. -/
theorem declaredDr_of_not_declaring
    (hdr : inter.dr ≠ inter.ipInterfaceAddress) :
    inter.declaredDr routerId noBdr =
      (inter.eligibleNeighbors.filter
        fun c => decide (c.dr = c.ip)).argmax Candidate.drKey := by
  have hself : ¬(inter.selfCandidate routerId).dr =
      (inter.selfCandidate routerId).ip := hdr
  cases noBdr <;> by_cases h : inter.routerPriority = 0 <;>
    simp [declaredDr, drCandidates, bdrCandidates, h, hself]

/-- A pass leaves alone everything but `dr` and `bdr`. -/
theorem electionPass_frame
    (h : inter.electionPass routerId noBdr = .ok next) :
    next.ipInterfaceAddress = inter.ipInterfaceAddress ∧
      next.routerPriority = inter.routerPriority ∧
      next.eligibleNeighbors = inter.eligibleNeighbors := by
  obtain ⟨d, -, rfl⟩ := electionPass_eq_ok.mp h
  exact ⟨rfl, rfl, rfl⟩

theorem electionPass_dr
    (h : inter.electionPass routerId noBdr = .ok next) :
    ∃ d, (inter.electionForDrAndNdr routerId noBdr).1 = some d ∧
      next.dr = d.ip := by
  obtain ⟨d, hd, rfl⟩ := electionPass_eq_ok.mp h
  exact ⟨d, hd, rfl⟩

/-- A router of priority 0 does not influence the result. -/
theorem election_eq_of_priority_zero (hpri : inter.routerPriority = 0)
    (hpri' : next.routerPriority = 0)
    (helig : next.eligibleNeighbors = inter.eligibleNeighbors)
    (noBdr' : Bool) :
    next.electionForDrAndNdr routerId noBdr' =
      inter.electionForDrAndNdr routerId noBdr := by
  simp [electionForDrAndNdr, drCandidates, bdrCandidates, hpri, hpri', helig]

/-- A router that declares itself DR outside the BDR loop is the last
candidate of the DR loop. -/
theorem declaredDr_of_declaring (hpri : inter.routerPriority ≠ 0)
    (hdr : inter.dr = inter.ipInterfaceAddress) :
    inter.declaredDr routerId true =
      ((inter.eligibleNeighbors.filter fun c => decide (c.dr = c.ip)) ++
        [inter.selfCandidate routerId]).argmax Candidate.drKey := by
  have hself : (inter.selfCandidate routerId).dr =
      (inter.selfCandidate routerId).ip := hdr
  simp [declaredDr, drCandidates, bdrCandidates, hpri, hself]

/-- If the router has just become DR, the pass after it keeps it DR. -/
theorem dr_kept_after_gain {second : Interface}
    (hpass : inter.electionPass routerId noBdr = .ok next)
    (hold : inter.dr ≠ inter.ipInterfaceAddress)
    (hgain : next.dr = inter.ipInterfaceAddress)
    (hsecond : next.electionPass routerId true = .ok second) :
    second.dr = inter.ipInterfaceAddress := by
  obtain ⟨haddr, hprio, helig⟩ := electionPass_frame hpass
  obtain ⟨d, hd, hdip⟩ := electionPass_dr hpass
  obtain ⟨e, he, heip⟩ := electionPass_dr hsecond
  rw [hgain] at hdip
  by_cases hpri : inter.routerPriority = 0
  · rw [election_eq_of_priority_zero hpri (hprio.trans hpri) helig true,
      hd] at he
    rw [heip, hdip, Option.some.inj he]
  · have hdeclaring : next.dr = next.ipInterfaceAddress := by
      rw [hgain, haddr]
    have hpri' : next.routerPriority ≠ 0 := by rwa [hprio]
    rw [election_fst, declaredDr_of_declaring hpri' hdeclaring,
      List.argmax_concat, helig] at he
    rw [election_fst, declaredDr_of_not_declaring hold] at hd
    have hselfip : (next.selfCandidate routerId).ip =
        inter.ipInterfaceAddress := haddr
    cases hbest : (inter.eligibleNeighbors.filter
        fun c => decide (c.dr = c.ip)).argmax Candidate.drKey with
    | none =>
        rw [hbest] at he
        rw [heip, ← Option.some.inj he, hselfip]
    | some a =>
        -- the declared neighbor that made the router's address DR is either
        -- kept or beaten by the router itself
        rw [hbest] at hd he
        have ha : a = d := Option.some.inj hd
        simp only at he
        rw [heip]
        split at he
        · rw [← Option.some.inj he, hselfip]
        · rw [← Option.some.inj he, ha, hdip]

/-- A router that is both DR and BDR gains nothing in a pass. -/
theorem electionLoop_isSome_of_both (fuel : ℕ)
    (hdr : inter.dr = inter.ipInterfaceAddress)
    (hbdr : inter.bdr = inter.ipInterfaceAddress) :
    (electionLoop routerId (fuel + 1) inter noBdr).isSome := by
  rw [electionLoop]
  cases inter.electionPass routerId noBdr <;> simp [hdr, hbdr]

/-- Two passes after the router has become DR. -/
theorem electionLoop_isSome_after_gain (fuel : ℕ)
    (hpass : inter.electionPass routerId noBdr = .ok next)
    (hold : inter.dr ≠ inter.ipInterfaceAddress)
    (hgain : next.dr = inter.ipInterfaceAddress) :
    (electionLoop routerId (fuel + 2) next true).isSome := by
  have haddr := (electionPass_frame hpass).1
  rw [electionLoop]
  cases hsecond : next.electionPass routerId true with
  | error fault => simp
  | ok second =>
      have hkept := dr_kept_after_gain hpass hold hgain hsecond
      have haddr' := (electionPass_frame hsecond).1
      simp only
      rw [if_neg (by rw [haddr, hgain]; simp)]
      split
      · next hbdr =>
          rw [Option.isSome_map]
          apply electionLoop_isSome_of_both
          · rw [hkept, haddr', haddr]
          · rw [haddr', ← hbdr.1]
      · simp

/-- Three passes once the router is BDR. -/
theorem electionLoop_isSome_of_bdr (fuel : ℕ)
    (hbdr : inter.bdr = inter.ipInterfaceAddress) :
    (electionLoop routerId (fuel + 3) inter noBdr).isSome := by
  rw [electionLoop]
  cases hpass : inter.electionPass routerId noBdr with
  | error fault => simp
  | ok next =>
      simp only
      split
      · next hgain =>
          rw [Option.isSome_map]
          exact electionLoop_isSome_after_gain fuel hpass hgain.2.symm
            hgain.1.symm
      · rw [if_neg (by rw [hbdr]; simp)]
        simp

/-- The loop of `call_election` ends after at most four passes, whatever the
interface. -/
theorem electionLoop_terminates (inter : Interface) (routerId : UInt32)
    (noBdr : Bool) :
    (electionLoop routerId electionFuel inter noBdr).isSome := by
  rw [electionFuel, electionLoop]
  cases hpass : inter.electionPass routerId noBdr with
  | error fault => simp
  | ok next =>
      have haddr := (electionPass_frame hpass).1
      simp only
      split
      · next hgain =>
          rw [Option.isSome_map]
          exact electionLoop_isSome_after_gain 1 hpass hgain.2.symm
            hgain.1.symm
      · split
        · next hbdr =>
            rw [Option.isSome_map]
            apply electionLoop_isSome_of_bdr 0
            rw [haddr, ← hbdr.1]
        · simp

/-- The result of `runElection` is the result of the loop. -/
theorem electionLoop_runElection (inter : Interface) (routerId : UInt32) :
    electionLoop routerId electionFuel inter false =
      some (inter.runElection routerId) := by
  obtain ⟨o, ho⟩ := Option.isSome_iff_exists.mp
    (electionLoop_terminates inter routerId false)
  rw [runElection, ho, Option.getD_some]

/-! ## Completion -/

/-- The election has at least one candidate: the router itself, or a
neighbor. -/
def HasCandidate (inter : Interface) : Prop :=
  inter.routerPriority ≠ 0 ∨ inter.eligibleNeighbors ≠ []

instance (inter : Interface) : Decidable inter.HasCandidate :=
  inferInstanceAs (Decidable (_ ∨ _))

/-- A pass with a candidate elects a DR.  The router stays out of the BDR
election only when it declares itself DR. -/
theorem exists_electionPass (h : inter.HasCandidate)
    (hout : noBdr = true → inter.dr = inter.ipInterfaceAddress) :
    ∃ next, inter.electionPass routerId noBdr = .ok next := by
  suffices hdr : (inter.electionForDrAndNdr routerId noBdr).1 ≠ none by
    obtain ⟨d, hd⟩ := Option.ne_none_iff_exists'.mp hdr
    exact ⟨_, electionPass_eq_ok.mpr ⟨d, hd, rfl⟩⟩
  rw [election_fst, ne_eq, Option.or_eq_none_iff, not_and_or]
  rcases h with hpri | helig
  · by_cases hdr : inter.dr = inter.ipInterfaceAddress
    · have hself : (inter.selfCandidate routerId).dr =
          (inter.selfCandidate routerId).ip := hdr
      exact Or.inl (declaredDr_ne_none
        (mem_drCandidates.mpr (Or.inl ⟨hpri, rfl⟩)) hself)
    · have hself : (inter.selfCandidate routerId).dr ≠
          (inter.selfCandidate routerId).ip := hdr
      have hin : noBdr = false := by
        by_contra htrue
        exact hdr (hout (by simpa using htrue))
      exact Or.inr (bdr_ne_none
        (mem_bdrCandidates.mpr (Or.inl ⟨hin, hpri, rfl⟩)) hself)
  · obtain ⟨c, hc⟩ := List.exists_mem_of_ne_nil _ helig
    by_cases hdr : c.dr = c.ip
    · exact Or.inl (declaredDr_ne_none (mem_drCandidates.mpr (Or.inr hc)) hdr)
    · exact Or.inr (bdr_ne_none (mem_bdrCandidates.mpr (Or.inr hc)) hdr)

/-- The loop changes `dr` and `bdr` only. -/
theorem electionLoop_frame {fuel passes : ℕ} {last : Interface}
    (h : electionLoop routerId fuel inter noBdr = some (.ok (passes, last))) :
    ∃ dr bdr, last = inter.setRoles dr bdr := by
  induction fuel generalizing inter noBdr passes with
  | zero => cases h
  | succ fuel ih =>
      rw [electionLoop] at h
      cases hpass : inter.electionPass routerId noBdr with
      | error fault => simp [hpass] at h
      | ok next =>
          obtain ⟨d, -, hnext⟩ := electionPass_eq_ok.mp hpass
          have hagain : ∀ b, (electionLoop routerId fuel next b).map
              (Except.map fun r => (r.1 + 1, r.2)) =
                some (.ok (passes, last)) →
              ∃ dr bdr, last = inter.setRoles dr bdr := by
            intro b hb
            obtain ⟨o, ho, hmap⟩ := Option.map_eq_some_iff.mp hb
            obtain ⟨⟨passes', last'⟩, rfl, hr⟩ := Outcome.map_eq_ok.mp hmap
            have hlast : last' = last := (Prod.mk.inj hr).2
            rw [hlast] at ho
            obtain ⟨dr, bdr, hframe⟩ := ih ho
            exact ⟨dr, bdr, by rw [hframe, hnext, setRoles_setRoles]⟩
          simp only [hpass] at h
          split_ifs at h
          · exact hagain true h
          · exact hagain false h
          · rw [Option.some.injEq, Except.ok.injEq, Prod.mk.injEq] at h
            exact ⟨_, _, by rw [← h.2, hnext]⟩

/-- With a candidate the loop ends without a fault. -/
theorem electionLoop_ok {fuel : ℕ} {o : Outcome (ℕ × Interface)}
    (h : inter.HasCandidate)
    (hout : noBdr = true → inter.dr = inter.ipInterfaceAddress)
    (hloop : electionLoop routerId fuel inter noBdr = some o) :
    ∃ r, o = .ok r := by
  induction fuel generalizing inter noBdr o with
  | zero => cases hloop
  | succ fuel ih =>
      obtain ⟨next, hpass⟩ : ∃ next,
          inter.electionPass routerId noBdr = .ok next :=
        exists_electionPass h hout
      obtain ⟨haddr, hpri, helig⟩ := electionPass_frame hpass
      have hnext : next.HasCandidate := by
        rwa [HasCandidate, hpri, helig]
      have hagain : ∀ b, (b = true → next.dr = next.ipInterfaceAddress) →
          (electionLoop routerId fuel next b).map
            (Except.map fun r => (r.1 + 1, r.2)) = some o →
          ∃ r, o = .ok r := by
        intro b hb hmap
        obtain ⟨o', ho', rfl⟩ := Option.map_eq_some_iff.mp hmap
        obtain ⟨r, rfl⟩ := ih hnext hb ho'
        exact ⟨_, rfl⟩
      rw [electionLoop, hpass] at hloop
      simp only at hloop
      split_ifs at hloop with hgain
      · exact hagain true (fun _ => by rw [haddr, hgain.1]) hloop
      · exact hagain false (fun h => by cases h) hloop
      · exact ⟨_, (Option.some.inj hloop).symm⟩

/-- With a candidate, an election completes and changes `dr` and `bdr`
only. -/
theorem exists_runElection (h : inter.HasCandidate) (routerId : UInt32) :
    ∃ passes dr bdr,
      inter.runElection routerId = .ok (passes, inter.setRoles dr bdr) := by
  have hloop := electionLoop_runElection inter routerId
  obtain ⟨⟨passes, last⟩, hrun⟩ :=
    electionLoop_ok h (fun h => by cases h) hloop
  rw [hrun] at hloop
  obtain ⟨dr, bdr, rfl⟩ := electionLoop_frame hloop
  exact ⟨passes, dr, bdr, hrun⟩

end Interface
end OspfLite
