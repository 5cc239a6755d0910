import OspfLite.Neighbor.Events
import OspfLite.Lib.Outcome

/-!
# The election of DR and BDR

`election_for_dr_and_ndr`, the loop of `call_election` around it, and the
interface events.  Candidates are taken by value: of a candidate the source
reads its address, id, priority and the DR and BDR it declares.
-/

namespace OspfLite

/-- What the election reads of a `Neighbor`. -/
structure Candidate where
  ip : UInt32
  id : UInt32
  pri : UInt8
  dr : UInt32
  bdr : UInt32
deriving DecidableEq, Repr

def Neighbor.candidate (n : Neighbor) : Candidate :=
  ⟨n.ip, n.id, n.pri, n.dr, n.bdr⟩

/-- `state >= S_2WAY && pri != 0`: the neighbor takes part in elections. -/
def Neighbor.Eligible (n : Neighbor) : Prop :=
  .twoWay ≤ n.state ∧ n.pri ≠ 0

instance (n : Neighbor) : Decidable n.Eligible :=
  inferInstanceAs (Decidable (_ ∧ _))

namespace Candidate

/-- `pri` decides, then `id`. -/
def Outranks (a b : Candidate) : Prop :=
  b.pri < a.pri ∨ (a.pri = b.pri ∧ b.id < a.id)

instance (a b : Candidate) : Decidable (a.Outranks b) :=
  inferInstanceAs (Decidable (_ ∨ _))

/-- One round of the BDR loop. -/
def bdrStep (bdr : Option Candidate) (candidate : Candidate) :
    Option Candidate :=
  if candidate.dr ≠ candidate.ip then
    match bdr with
    | none => some candidate
    | some b =>
        if b.bdr = b.ip then
          if candidate.bdr = candidate.ip ∧ candidate.Outranks b then
            some candidate
          else
            some b
        else if candidate.bdr = candidate.ip ∨ candidate.Outranks b then
          some candidate
        else
          some b
  else
    bdr

/-- One round of the DR loop. -/
def drStep (dr : Option Candidate) (candidate : Candidate) :
    Option Candidate :=
  if candidate.dr ≠ candidate.ip then
    dr
  else
    match dr with
    | none => some candidate
    | some d => if candidate.Outranks d then some candidate else some d

end Candidate

namespace Interface

/-- The record `self` of the router: `pri` keeps eight bits of
`router_priority`. -/
def selfCandidate (inter : Interface) (routerId : UInt32) : Candidate where
  ip := inter.ipInterfaceAddress
  id := routerId
  pri := inter.routerPriority.toUInt8
  dr := inter.dr
  bdr := inter.bdr

/-- The neighbors that take part in an election, in list order. -/
def eligibleNeighbors (inter : Interface) : List Candidate :=
  (inter.neighbors.filter fun n => decide n.Eligible).map Neighbor.candidate

/-- The candidates of the BDR loop: with `no_bdr` the router stays out. -/
def bdrCandidates (inter : Interface) (routerId : UInt32) (noBdr : Bool) :
    List Candidate :=
  if noBdr = false ∧ inter.routerPriority ≠ 0 then
    inter.selfCandidate routerId :: inter.eligibleNeighbors
  else
    inter.eligibleNeighbors

/-- The candidates of the DR loop: with `no_bdr` the router is appended. -/
def drCandidates (inter : Interface) (routerId : UInt32) (noBdr : Bool) :
    List Candidate :=
  if noBdr = true ∧ inter.routerPriority ≠ 0 then
    inter.bdrCandidates routerId noBdr ++ [inter.selfCandidate routerId]
  else
    inter.bdrCandidates routerId noBdr

/-- `election_for_dr_and_ndr`: the DR and the BDR, where there is one. -/
def electionForDrAndNdr (inter : Interface) (routerId : UInt32)
    (noBdr : Bool) : Option Candidate × Option Candidate :=
  let bdr := (inter.bdrCandidates routerId noBdr).foldl Candidate.bdrStep none
  let dr := (inter.drCandidates routerId noBdr).foldl Candidate.drStep none
  (match dr with
    | none => bdr
    | some d => some d, bdr)

/-- The assignments `this->dr = ..` and `this->bdr = ..`. -/
def setRoles (inter : Interface) (dr bdr : UInt32) : Interface :=
  { inter with dr := dr, bdr := bdr }

@[simp] theorem setRoles_dr (inter : Interface) (dr bdr : UInt32) :
    (inter.setRoles dr bdr).dr = dr := rfl

@[simp] theorem setRoles_bdr (inter : Interface) (dr bdr : UInt32) :
    (inter.setRoles dr bdr).bdr = bdr := rfl

@[simp] theorem setRoles_ipInterfaceAddress (inter : Interface)
    (dr bdr : UInt32) :
    (inter.setRoles dr bdr).ipInterfaceAddress = inter.ipInterfaceAddress :=
  rfl

@[simp] theorem setRoles_setRoles (inter : Interface)
    (dr bdr dr' bdr' : UInt32) :
    (inter.setRoles dr bdr).setRoles dr' bdr' = inter.setRoles dr' bdr' :=
  rfl

/-- One pass of the loop of `call_election`: the new `dr` and `bdr`. -/
def electionPass (inter : Interface) (routerId : UInt32) (noBdr : Bool) :
    Outcome Interface :=
  let elected := inter.electionForDrAndNdr routerId noBdr
  match elected.1 with
  | none => .error .nullDereference
  | some dr =>
      .ok (inter.setRoles dr.ip ((elected.2.map Candidate.ip).getD 0))

/-- The loop `while(1)` of `call_election`, for at most `fuel` passes.  It
returns the number of passes and the interface after the last. -/
def electionLoop (routerId : UInt32) :
    ℕ → Interface → Bool → Option (Outcome (ℕ × Interface))
  | 0, _, _ => none
  | fuel + 1, inter, noBdr =>
      match inter.electionPass routerId noBdr with
      | .error fault => some (.error fault)
      | .ok next =>
          if inter.ipInterfaceAddress = next.dr ∧
              inter.ipInterfaceAddress ≠ inter.dr then
            (electionLoop routerId fuel next true).map
              (Except.map fun r => (r.1 + 1, r.2))
          else if inter.ipInterfaceAddress = next.bdr ∧
              inter.ipInterfaceAddress ≠ inter.bdr then
            (electionLoop routerId fuel next false).map
              (Except.map fun r => (r.1 + 1, r.2))
          else
            some (.ok (1, next))

/-- Four passes are always enough, see `electionLoop_terminates`. -/
def electionFuel : ℕ := 4

/-- The loop of `call_election`, started with `no_bdr` false. -/
def runElection (inter : Interface) (routerId : UInt32) :
    Outcome (ℕ × Interface) :=
  (electionLoop routerId electionFuel inter false).getD
    (.error .endlessLoop)

/-- `neighbor->event_adj_ok()` for every neighbor. -/
def adjOkAll (inter : Interface) : Interface :=
  { inter with
    neighbors := inter.neighbors.map fun n => (n.eventAdjOk inter).1 }

/-- What follows the loop of `call_election`: the neighbors are re-examined
when the pair differs from the one before the election. -/
def finishElection (inter elected : Interface) : Interface :=
  if inter.dr ≠ elected.dr ∨ inter.bdr ≠ elected.bdr then
    { elected with electionSaw := some inter.neighbors }.adjOkAll
  else
    { elected with electionSaw := some inter.neighbors }

/-- `Interface::call_election`. -/
def callElection (inter : Interface) (routerId : UInt32) :
    Outcome Interface :=
  (inter.runElection routerId).map fun r => inter.finishElection r.2

/-! ## Interface events -/

/-- The state an interface takes after an election. -/
def settleState (inter : Interface) : Interface :=
  if inter.ipInterfaceAddress = inter.dr then
    { inter with state := .dr }
  else if inter.ipInterfaceAddress = inter.bdr then
    { inter with state := .backup }
  else
    { inter with state := .drOther }

/-- `Interface::event_interface_up`. -/
def eventInterfaceUp (inter : Interface) : Interface :=
  if inter.state = .down then
    if inter.type = .p2p ∨ inter.type = .p2mp ∨ inter.type = .virtual then
      { inter with state := .point2Point }
    else if inter.routerPriority ≠ 0 then
      { inter with waitingTimer := .created, state := .waiting }
    else
      { inter with state := .drOther }
  else
    inter

/-- `Interface::event_wait_timer`. -/
def eventWaitTimer (inter : Interface) (routerId : UInt32) :
    Outcome Interface :=
  if inter.state = .waiting then
    (inter.callElection routerId).map settleState
  else
    .ok inter

/-- `Interface::event_backup_seen`. -/
def eventBackupSeen (inter : Interface) (routerId : UInt32) :
    Outcome Interface :=
  if inter.state = .waiting then
    (inter.callElection routerId).map fun elected =>
      { elected.settleState with
        waitingTimer := .joined
        waitingTimeout := false }
  else
    .ok inter

/-- `Interface::event_neighbor_change`. -/
def eventNeighborChange (inter : Interface) (routerId : UInt32) :
    Outcome Interface :=
  if inter.state = .dr ∨ inter.state = .backup ∨ inter.state = .drOther then
    (inter.callElection routerId).map settleState
  else
    .ok inter

/-- The events of an interface. -/
inductive Event where
  | interfaceUp
  | waitTimer
  | backupSeen
  | neighborChange
deriving DecidableEq, Repr

/-- The handler of an event. -/
def handle (routerId : UInt32) (inter : Interface) :
    Event → Outcome Interface
  | .interfaceUp => .ok inter.eventInterfaceUp
  | .waitTimer => inter.eventWaitTimer routerId
  | .backupSeen => inter.eventBackupSeen routerId
  | .neighborChange => inter.eventNeighborChange routerId

/-- The handler of the event calls `call_election`. -/
def CallsElection (inter : Interface) : Event → Prop
  | .interfaceUp => False
  | .waitTimer | .backupSeen => inter.state = .waiting
  | .neighborChange =>
      inter.state = .dr ∨ inter.state = .backup ∨ inter.state = .drOther

/-- What the handlers do behind an election: the state is settled, and
`event_backup_seen` ends the waiting timer as well. -/
def settleAfter (event : Event) (elected : Interface) : Interface :=
  match event with
  | .backupSeen =>
      { elected.settleState with
        waitingTimer := .joined
        waitingTimeout := false }
  | _ => elected.settleState

theorem settleAfter_eq (event : Event) (elected : Interface) :
    ∃ timer timeout, elected.settleAfter event =
      { elected.settleState with
        waitingTimer := timer
        waitingTimeout := timeout } := by
  cases event with
  | backupSeen => exact ⟨_, _, rfl⟩
  | _ => exact ⟨_, _, rfl⟩

/-- The handlers that call `call_election` differ in what they do behind it
only. -/
theorem handle_of_callsElection {inter : Interface} {event : Event}
    (h : inter.CallsElection event) (routerId : UInt32) :
    inter.handle routerId event =
      (inter.callElection routerId).map (settleAfter event) := by
  cases event with
  | interfaceUp => exact h.elim
  | waitTimer => exact if_pos h
  | backupSeen => exact if_pos h
  | neighborChange => exact if_pos h

/-- Without an election only `event_interface_up` changes the interface. -/
theorem handle_of_not_callsElection {inter : Interface} {event : Event}
    (hevent : event ≠ .interfaceUp) (h : ¬inter.CallsElection event)
    (routerId : UInt32) : inter.handle routerId event = .ok inter := by
  cases event with
  | interfaceUp => exact absurd rfl hevent
  | waitTimer => exact if_neg h
  | backupSeen => exact if_neg h
  | neighborChange => exact if_neg h

end Interface

end OspfLite
