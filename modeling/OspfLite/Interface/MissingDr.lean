import OspfLite.Interface.Roles

/-!
# Elections without a candidate

Each pass of the loop in `call_election` reads the address of the elected DR.
An interface of priority 0 without an eligible neighbor elects nobody, and the
pass reads through a null pointer.
-/

namespace OspfLite
namespace Interface

variable {inter next : Interface} {routerId : UInt32} {noBdr : Bool}

/-- The passes of the loop started with `no_bdr` false: the interface and the
`no_bdr` each of them starts from. -/
inductive LoopPass (routerId : UInt32) (inter : Interface) :
    Interface → Bool → Prop where
  | first : LoopPass routerId inter inter false
  | gainedDr {i next : Interface} {noBdr : Bool}
      (h : LoopPass routerId inter i noBdr)
      (hpass : i.electionPass routerId noBdr = .ok next)
      (hgain : i.ipInterfaceAddress = next.dr ∧
        i.ipInterfaceAddress ≠ i.dr) :
      LoopPass routerId inter next true
  | gainedBdr {i next : Interface} {noBdr : Bool}
      (h : LoopPass routerId inter i noBdr)
      (hpass : i.electionPass routerId noBdr = .ok next)
      (hdr : ¬(i.ipInterfaceAddress = next.dr ∧
        i.ipInterfaceAddress ≠ i.dr))
      (hgain : i.ipInterfaceAddress = next.bdr ∧
        i.ipInterfaceAddress ≠ i.bdr) :
      LoopPass routerId inter next false

/-- The pass has a DR to read the address of, or goes on with `dr` 0. -/
def DrAccounted (inter : Interface) (routerId : UInt32) (noBdr : Bool) :
    Prop :=
  (inter.electionForDrAndNdr routerId noBdr).1 ≠ none ∨
    ∃ next, inter.electionPass routerId noBdr = .ok next ∧ next.dr = 0

/-- A pass without a DR does not get as far as setting `dr`. -/
theorem drAccounted_iff :
    inter.DrAccounted routerId noBdr ↔
      ∃ next, inter.electionPass routerId noBdr = .ok next := by
  constructor
  · rintro (hdr | ⟨next, hpass, -⟩)
    · obtain ⟨d, hd⟩ := Option.ne_none_iff_exists'.mp hdr
      exact ⟨_, electionPass_eq_ok.mpr ⟨d, hd, rfl⟩⟩
    · exact ⟨next, hpass⟩
  · rintro ⟨next, hpass⟩
    obtain ⟨d, hd, -⟩ := electionPass_eq_ok.mp hpass
    exact Or.inl (by simp [hd])

/-- What every pass keeps: the candidates of the first pass, and a router that
stays out of the BDR election declares itself DR. -/
theorem LoopPass.spec {i : Interface} (h : LoopPass routerId inter i noBdr) :
    (i.HasCandidate ↔ inter.HasCandidate) ∧
      (noBdr = true → i.dr = i.ipInterfaceAddress) := by
  have hstep : ∀ {i next : Interface} {noBdr : Bool},
      i.electionPass routerId noBdr = .ok next →
      (next.HasCandidate ↔ i.HasCandidate) := by
    intro i next noBdr hpass
    obtain ⟨-, hpri, helig⟩ := electionPass_frame hpass
    rw [HasCandidate, HasCandidate, hpri, helig]
  induction h with
  | first => exact ⟨Iff.rfl, fun h => by cases h⟩
  | gainedDr h hpass hgain ih =>
      refine ⟨(hstep hpass).trans ih.1, fun _ => ?_⟩
      rw [(electionPass_frame hpass).1, hgain.1]
  | gainedBdr h hpass hdr hgain ih =>
      exact ⟨(hstep hpass).trans ih.1, fun h => by cases h⟩

/-- Without a candidate nobody is elected. -/
theorem election_fst_eq_none (h : ¬inter.HasCandidate) :
    (inter.electionForDrAndNdr routerId noBdr).1 = none := by
  rw [HasCandidate, not_or, not_not, not_not] at h
  have hbdr : inter.bdrCandidates routerId noBdr = [] := by
    rw [bdrCandidates, if_neg fun hself => hself.2 h.1, h.2]
  have hdr : inter.drCandidates routerId noBdr = [] := by
    rw [drCandidates, if_neg fun hself => hself.2 h.1, hbdr]
  rw [election_fst, declaredDr, election_snd, hbdr, hdr]
  rfl

theorem electionPass_of_not_hasCandidate (h : ¬inter.HasCandidate) :
    inter.electionPass routerId noBdr = .error .nullDereference := by
  rw [electionPass, election_fst_eq_none h]

/-- Each pass of the loop finds a DR exactly when the router takes part in
elections or has an eligible neighbor. -/
theorem loopPass_drAccounted_iff (inter : Interface) (routerId : UInt32) :
    (∀ i noBdr, LoopPass routerId inter i noBdr →
        i.DrAccounted routerId noBdr) ↔
      inter.HasCandidate := by
  constructor
  · intro hall
    by_contra hnone
    obtain ⟨next, hpass⟩ := drAccounted_iff.mp (hall inter false .first)
    rw [electionPass_of_not_hasCandidate hnone] at hpass
    cases hpass
  · intro h i noBdr hpass
    obtain ⟨hsame, hout⟩ := hpass.spec
    exact drAccounted_iff.mpr (exists_electionPass (hsame.mpr h) hout)

/-- An interface of priority 0 that has come up and is left without an eligible
neighbor. -/
theorem loopPass_not_drAccounted :
    ∃ inter : Interface, inter.routerPriority = 0 ∧ inter.state = .drOther ∧
      ∃ i noBdr, LoopPass 0x01010101 inter i noBdr ∧
        ¬i.DrAccounted 0x01010101 noBdr := by
  let inter : Interface :=
    { new 0x0a000001 0xffffff00 with routerPriority := 0 }.eventInterfaceUp
  refine ⟨inter, rfl, rfl, inter, false, .first, fun hdr => ?_⟩
  obtain ⟨next, hpass⟩ := drAccounted_iff.mp hdr
  rw [electionPass_of_not_hasCandidate (by decide)] at hpass
  cases hpass

/-- The loop faults exactly when a pass does. -/
theorem runElection_eq_error_iff {fault : Fault} :
    inter.runElection routerId = .error fault ↔
      ¬inter.HasCandidate ∧ fault = .nullDereference := by
  by_cases h : inter.HasCandidate
  · obtain ⟨passes, dr, bdr, hrun⟩ := exists_runElection h routerId
    simp [hrun, h]
  · have hloop : electionLoop routerId electionFuel inter false =
        some (.error .nullDereference) := by
      rw [electionFuel, electionLoop, electionPass_of_not_hasCandidate h]
    rw [electionLoop_runElection, Option.some.injEq] at hloop
    simp [hloop, h, eq_comm]

/-- An interface event faults exactly when it calls the election without a
candidate. -/
theorem handle_eq_error_iff {event : Event} {fault : Fault} :
    inter.handle routerId event = .error fault ↔
      inter.CallsElection event ∧ ¬inter.HasCandidate ∧
        fault = .nullDereference := by
  by_cases hcalls : inter.CallsElection event
  · rw [handle_of_callsElection hcalls, callElection,
      ← runElection_eq_error_iff]
    cases inter.runElection routerId <;> simp [hcalls]
  · by_cases hup : event = .interfaceUp
    · simp [hup, handle, CallsElection]
    · simp [handle_of_not_callsElection hup hcalls, hcalls]

end Interface
end OspfLite
