import OspfLite.Interface.Settling
import OspfLite.Lib.Runs

/-!
# The role of an interface

Whether an interface is DR, Backup or neither always agrees with its `dr` and
`bdr` fields, and an election never makes one router both.  An election needs
one pass, or two when the router has just gained a role.
-/

namespace OspfLite
namespace Interface

variable {inter next : Interface} {routerId : UInt32}

/-- What the election is entitled to assume about the interface itself. -/
structure Addressed (inter : Interface) : Prop where
  address : inter.ipInterfaceAddress ≠ 0
  priority : 1 ≤ inter.routerPriority.toNat ∧
    inter.routerPriority.toNat ≤ 255

/-- The state of the interface is the one its `dr` and `bdr` fields call
for. -/
structure RoleInvariant (inter : Interface) : Prop where
  isDr : inter.state = .dr ↔ inter.dr = inter.ipInterfaceAddress
  isBackup : inter.state = .backup ↔
    inter.bdr = inter.ipInterfaceAddress ∧
      inter.dr ≠ inter.ipInterfaceAddress
  notBoth : ¬(inter.dr = inter.ipInterfaceAddress ∧
    inter.bdr = inter.ipInterfaceAddress)
  quiet : inter.state = .down ∨ inter.state = .waiting ∨
    inter.state = .point2Point → inter.dr = 0 ∧ inter.bdr = 0

theorem Addressed.routerPriority_ne_zero (h : inter.Addressed) :
    inter.routerPriority ≠ 0 := by
  intro hzero
  have hpri := h.priority.1
  simp [hzero] at hpri

/-! ## One election -/

/-- An election takes one or two passes, changes `dr` and `bdr` only, and does
not make the router both. -/
theorem runElection_spec (h : inter.Addressed) (hfree : inter.AddressFree)
    (routerId : UInt32) :
    ∃ passes dr bdr,
      inter.runElection routerId =
        .ok (passes, inter.setRoles dr bdr) ∧
      passes ≤ 2 ∧
      ¬(dr = inter.ipInterfaceAddress ∧ bdr = inter.ipInterfaceAddress) := by
  obtain ⟨dr, bdr, hsettles⟩ := exists_settles inter routerId
  obtain ⟨passes, hloop, hpasses⟩ :=
    hsettles.loopSettles hfree h.routerPriority_ne_zero
  rw [electionLoop_runElection, Option.some.injEq] at hloop
  exact ⟨passes, dr, bdr, hloop, hpasses, hsettles.not_both hfree h.address⟩

/-! ## Runs of interface events -/

/-- What a step never changes. -/
def SameInterface (inter next : Interface) : Prop :=
  next.ipInterfaceAddress = inter.ipInterfaceAddress ∧
    next.routerPriority = inter.routerPriority

theorem SameInterface.addressed (hsame : inter.SameInterface next)
    (h : inter.Addressed) : next.Addressed := by
  constructor
  · rw [hsame.1]
    exact h.address
  · rw [hsame.2]
    exact h.priority

theorem SameInterface.addressFree (hsame : inter.SameInterface next)
    (hfree : ∀ n ∈ next.neighbors, n.ip ≠ inter.ipInterfaceAddress) :
    next.AddressFree := by
  intro n hn
  rw [hsame.1]
  exact hfree n hn

/-- `call_election` completes and does not make the router both DR and
BDR. -/
theorem callElection_spec (h : inter.Addressed) (hfree : inter.AddressFree)
    (routerId : UInt32) :
    ∃ next, inter.callElection routerId = .ok next ∧
      inter.SameInterface next ∧
      ¬(next.dr = inter.ipInterfaceAddress ∧
        next.bdr = inter.ipInterfaceAddress) := by
  obtain ⟨passes, dr, bdr, hrun, -, hboth⟩ :=
    runElection_spec h hfree routerId
  rw [callElection, hrun, Outcome.map_ok]
  refine ⟨_, rfl, ?_⟩
  rw [finishElection]
  split_ifs
  · exact ⟨⟨rfl, rfl⟩, hboth⟩
  · exact ⟨⟨rfl, rfl⟩, hboth⟩

@[simp] theorem settleState_dr : inter.settleState.dr = inter.dr := by
  rw [settleState]
  split_ifs <;> rfl

@[simp] theorem settleState_bdr : inter.settleState.bdr = inter.bdr := by
  rw [settleState]
  split_ifs <;> rfl

theorem settleState_same : inter.SameInterface inter.settleState := by
  rw [settleState]
  split_ifs <;> exact ⟨rfl, rfl⟩

/-- The state taken after an election is the one the fields call for. -/
theorem roleInvariant_settleState
    (hboth : ¬(inter.dr = inter.ipInterfaceAddress ∧
      inter.bdr = inter.ipInterfaceAddress)) :
    inter.settleState.RoleInvariant := by
  by_cases hdr : inter.ipInterfaceAddress = inter.dr
  · have hbdr : ¬inter.bdr = inter.ipInterfaceAddress :=
      fun h => hboth ⟨hdr.symm, h⟩
    constructor <;> simp [settleState, hdr.symm, hbdr]
  · have hdr' : ¬inter.dr = inter.ipInterfaceAddress := fun h => hdr h.symm
    by_cases hbdr : inter.ipInterfaceAddress = inter.bdr
    · constructor <;> simp [settleState, hdr, hdr', hbdr.symm]
    · have hbdr' : ¬inter.bdr = inter.ipInterfaceAddress :=
        fun h => hbdr h.symm
      constructor <;> simp [settleState, hdr, hdr', hbdr, hbdr']

/-- One step of a run in which the neighbors are arbitrary at every event. -/
def eventStep (routerId : UInt32) (inter : Interface)
    (label : Event × List Neighbor) : Outcome Interface :=
  ({ inter with neighbors := label.2 } : Interface).handle routerId label.1

/-- An election followed by `settleState`. -/
theorem exists_settled (h : inter.Addressed) (hfree : inter.AddressFree)
    (routerId : UInt32) :
    ∃ next, inter.callElection routerId = .ok next ∧
      inter.SameInterface next.settleState ∧
      next.settleState.RoleInvariant := by
  obtain ⟨next, hnext, hsame, hboth⟩ := callElection_spec h hfree routerId
  have hsettled := next.settleState_same
  refine ⟨next, hnext, ⟨hsettled.1.trans hsame.1, hsettled.2.trans hsame.2⟩,
    roleInvariant_settleState ?_⟩
  rwa [hsame.1]

/-- Every event completes and keeps the role invariant. -/
theorem handle_spec (h : inter.Addressed) (hfree : inter.AddressFree)
    (hrole : inter.RoleInvariant) (routerId : UInt32) (event : Event) :
    ∃ next, inter.handle routerId event = .ok next ∧
      inter.SameInterface next ∧ next.RoleInvariant := by
  by_cases hcalls : inter.CallsElection event
  · obtain ⟨elected, helected, hsame, hsettled⟩ :=
      exists_settled h hfree routerId
    obtain ⟨timer, timeout, hafter⟩ := settleAfter_eq event elected
    refine ⟨elected.settleAfter event, ?_, ?_⟩
    · rw [handle_of_callsElection hcalls, helected, Outcome.map_ok]
    · rw [hafter]
      exact ⟨hsame, hsettled.isDr, hsettled.isBackup, hsettled.notBoth,
        hsettled.quiet⟩
  by_cases hevent : event = .interfaceUp
  · subst hevent
    refine ⟨_, rfl, ?_⟩
    by_cases hdown : inter.state = .down
    · have hzero := hrole.quiet (Or.inl hdown)
      have haddr : (0 : UInt32) ≠ inter.ipInterfaceAddress := h.address.symm
      simp only [eventInterfaceUp, hdown, if_true]
      split_ifs <;> refine ⟨⟨rfl, rfl⟩, ?_⟩ <;> constructor <;>
        simp [hzero.1, hzero.2, haddr]
    · rw [eventInterfaceUp, if_neg hdown]
      exact ⟨⟨rfl, rfl⟩, hrole⟩
  · exact ⟨inter, handle_of_not_callsElection hevent hcalls routerId,
      ⟨rfl, rfl⟩, hrole⟩

/-- One step keeps the role invariant, whatever neighbors it finds. -/
theorem eventStep_spec (h : inter.Addressed)
    (hsame : inter.SameInterface next) (hrole : next.RoleInvariant)
    (routerId : UInt32) {label : Event × List Neighbor}
    (hfree : ∀ n ∈ label.2, n.ip ≠ inter.ipInterfaceAddress) :
    ∃ after, eventStep routerId next label = .ok after ∧
      inter.SameInterface after ∧ after.RoleInvariant := by
  have hsame' : inter.SameInterface { next with neighbors := label.2 } := hsame
  have hrole' : RoleInvariant { next with neighbors := label.2 } :=
    { hrole with }
  obtain ⟨after, hafter, hkept, hinv⟩ := handle_spec (hsame'.addressed h)
    (hsame'.addressFree hfree) hrole' routerId label.1
  exact ⟨after, hafter, ⟨hkept.1.trans hsame'.1, hkept.2.trans hsame'.2⟩, hinv⟩

/-- The state in which `main` leaves a new interface. -/
structure Initial (inter : Interface) : Prop where
  state : inter.state = .down
  dr : inter.dr = 0
  bdr : inter.bdr = 0

theorem Initial.roleInvariant (hinit : inter.Initial)
    (h : inter.Addressed) : inter.RoleInvariant := by
  have haddr : (0 : UInt32) ≠ inter.ipInterfaceAddress := h.address.symm
  constructor <;> simp [hinit.state, hinit.dr, hinit.bdr, haddr]

/-- Every run of interface events completes, keeps the role invariant, and
leaves an interface whose next election, over any neighbors, ends after at
most two passes. -/
theorem role_invariant_of_run (routerId : UInt32) (inter : Interface)
    (h : inter.Addressed) (hinit : inter.Initial)
    (events : List (Event × List Neighbor))
    (hfree : ∀ label ∈ events, ∀ n ∈ label.2,
      n.ip ≠ inter.ipInterfaceAddress) :
    ∃ final, runFrom (eventStep routerId) inter events = .ok final ∧
      final.RoleInvariant ∧
      ∀ neighbors : List Neighbor,
        (∀ n ∈ neighbors, n.ip ≠ inter.ipInterfaceAddress) →
        ∃ passes elected,
          ({ final with neighbors := neighbors } : Interface).runElection
            routerId = .ok (passes, elected) ∧ passes ≤ 2 := by
  obtain ⟨final, hrun, hsame, hrole⟩ := exists_runFrom
    (I := fun i => inter.SameInterface i ∧ i.RoleInvariant)
    (fun _ _ hi hlabel => eventStep_spec h hi.1 hi.2 routerId hlabel)
    ⟨⟨rfl, rfl⟩, hinit.roleInvariant h⟩ (along_of_forall hfree inter)
  refine ⟨final, hrun, hrole, ?_⟩
  intro neighbors hneighbors
  have hsame' : inter.SameInterface { final with neighbors := neighbors } :=
    hsame
  obtain ⟨passes, dr, bdr, hpasses, htwo, -⟩ :=
    runElection_spec (hsame'.addressed h) (hsame'.addressFree hneighbors)
      routerId
  exact ⟨passes, _, hpasses, htwo⟩

/-- A router that comes up with one neighbor and waits in vain for a Hello
with a DR. -/
theorem role_invariant_of_run_twoRouterSegment :
    ∃ final, runFrom (eventStep 0x01010101) (new 0x0a000001 0xffffff00)
        [(.interfaceUp, []), (.waitTimer,
          [{ Neighbor.new ⟨0, 0, 0, false, false, false⟩ 0x0a000002 with
              state := .twoWay, pri := 1 }])] = .ok final ∧
      final.RoleInvariant ∧
      ∀ neighbors : List Neighbor,
        (∀ n ∈ neighbors, n.ip ≠ 0x0a000001) →
        ∃ passes elected,
          ({ final with neighbors := neighbors } : Interface).runElection
            0x01010101 = .ok (passes, elected) ∧ passes ≤ 2 :=
  role_invariant_of_run 0x01010101 (new 0x0a000001 0xffffff00)
    ⟨by decide, by decide⟩ ⟨rfl, rfl, rfl⟩ _ (by
      simp only [List.forall_mem_cons, List.not_mem_nil, false_implies,
        implies_true, and_true, true_and]
      decide)

end Interface
end OspfLite
