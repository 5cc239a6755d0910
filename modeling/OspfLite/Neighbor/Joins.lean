import OspfLite.Neighbor.Events
import OspfLite.Lib.Runs

/-!
# The joins of the neighbor events

A handler that joins a thread hangs unless that thread leaves its loop.  The
retransmission sender leaves its loop in state DOWN only, so a handler that
lowers the state to anything else joins a thread that keeps running.  Away
from those cases every join is sound, because the handles follow the state.
-/

namespace OspfLite

/-- The joined handle belongs to a thread that was created and not joined
since, and that thread is going to leave its loop. -/
def Join.Sound (j : Join) : Prop :=
  j.handle = .created ∧ j.exitGuard = true

instance (j : Join) : Decidable j.Sound :=
  inferInstanceAs (Decidable (_ ∧ _))

namespace Neighbor

/-- What can happen to a neighbor record: an event is raised, with the
interface, the database and the time it meets; a handler writes fields other
than the state and the thread data; the empty DD sender ends. -/
inductive Step where
  | raise (event : NeighborEvent) (inter : Interface) (lsdb : LSDB)
      (now : ℤ)
  | write (fields : Neighbor)
  | emptyDdSenderEnds

/-- The handler of an event, with the joins it executes. -/
def handle (n : Neighbor) (inter : Interface) (lsdb : LSDB) (now : ℤ) :
    NeighborEvent → Neighbor × List Join
  | .helloReceived => (n.eventHelloReceived now, [])
  | .twoWayReceived => (n.event2wayReceived inter, [])
  | .oneWayReceived => n.event1wayReceived
  | .adjOk => n.eventAdjOk inter
  | .negotiationDone => (n.eventNegotiationDone lsdb, [])
  | .exchangeDone => (n.exchangeDoneState.1, [])
  | .loadingDone => (n.loadingDoneState.1, [])
  | .seqNumberMismatch => n.eventSeqNumberMismatch
  | .badLsReq => n.eventBadLsReq
  | .inactivityTimer => n.eventInactivityTimer

/-- All fields of `fields` but the state and the thread data. -/
def writeFields (n fields : Neighbor) : Neighbor :=
  { fields with
    state := n.state
    emptyDdSender := n.emptyDdSender
    isEmptyDdSenderRunning := n.isEmptyDdSenderRunning
    emptyDdSenderStop := n.emptyDdSenderStop
    lsrSenderCreated := n.lsrSenderCreated
    lsrSender := n.lsrSender
    retransSender := n.retransSender }

/-- One step of a neighbor, with the joins it executes. -/
def takeStep (n : Neighbor) : Step → Neighbor × List Join
  | .raise event inter lsdb now => n.handle inter lsdb now event
  | .write fields => (n.writeFields fields, [])
  | .emptyDdSenderEnds => (n.emptyDdSenderEnded, [])

/-- A step as part of a run in which every join is taken as returning. -/
def runStep (n : Neighbor) (step : Step) : Outcome Neighbor :=
  .ok (n.takeStep step).1

/-- Every join of the step is sound. -/
def JoinsSound (n : Neighbor) (step : Step) : Prop :=
  ∀ j ∈ (n.takeStep step).2, j.Sound

instance (n : Neighbor) (step : Step) : Decidable (n.JoinsSound step) :=
  inferInstanceAs (Decidable (∀ j ∈ (n.takeStep step).2, Join.Sound j))

/-- The state and event do not lead to a join of the retransmission sender in
a state other than DOWN, and the inactivity timer does not expire in DOWN. -/
def JoinsAllowed (n : Neighbor) : Step → Prop
  | .raise .oneWayReceived _ _ _ => n.state < .twoWay
  | .raise .adjOk inter _ _ => n.state < .exStart ∨ inter.Adjacent n.ip
  | .raise .seqNumberMismatch _ _ _ => n.state < .exchange
  | .raise .badLsReq _ _ _ => n.state < .exchange
  | .raise .inactivityTimer _ _ _ => n.state ≠ .down
  | _ => True

/-- The handles follow the state: the retransmission sender waits to be joined
in every state but DOWN, a running empty DD sender can be joined, and there is
no request sender. -/
structure ThreadInvariant (n : Neighbor) : Prop where
  retrans : n.retransSender = .created ↔ n.state ≠ .down
  emptyDd : n.isEmptyDdSenderRunning = true → n.emptyDdSender = .created
  lsr : n.lsrSenderCreated = false

theorem threadInvariant_new (uninit : Uninit) (ip : UInt32) :
    (new uninit ip).ThreadInvariant := by
  constructor <;> simp [new]

variable {n : Neighbor}

/-! ## The shared blocks -/

/-- Without a request sender the common block joins the retransmission sender
only. -/
theorem clearLists_of_no_lsr (hlsr : n.lsrSenderCreated = false) :
    n.clearLists =
      ({ n with
          linkStateRetransmissionList := []
          retransSender := .joined
          databaseSummaryList := []
          linkStateRequestList := [] },
        [⟨.retransSender, n.retransSender, n.retransSenderExits⟩]) := by
  simp [clearLists, joinRetransSender, joinLsrSender, hlsr,
    retransSenderExits]

/-- The join of the common block is sound in state DOWN only. -/
theorem retransJoin_sound_iff :
    (⟨.retransSender, n.retransSender, n.retransSenderExits⟩ : Join).Sound ↔
      n.retransSender = .created ∧ n.state = .down := by
  simp [Join.Sound, retransSenderExits]

/-- Replacing the empty DD sender is always sound. -/
theorem restartEmptyDdSender_sound (h : n.isEmptyDdSenderRunning = true →
    n.emptyDdSender = .created) :
    ∀ j ∈ n.restartEmptyDdSender.2, j.Sound := by
  intro j hj
  by_cases hrunning : n.isEmptyDdSenderRunning = true
  · simp [restartEmptyDdSender, hrunning, joinEmptyDdSender] at hj
    simp [hj, Join.Sound, h hrunning, emptyDdSenderExits]
  · simp [restartEmptyDdSender, hrunning] at hj

/-- Replacing the empty DD sender leaves a handle that can be joined, and the
other threads as they are. -/
theorem restartEmptyDdSender_spec (n : Neighbor) :
    n.restartEmptyDdSender.1.retransSender = n.retransSender ∧
      n.restartEmptyDdSender.1.lsrSenderCreated = n.lsrSenderCreated ∧
      n.restartEmptyDdSender.1.emptyDdSender = .created := by
  by_cases hrunning : n.isEmptyDdSenderRunning = true <;>
    simp [restartEmptyDdSender, hrunning, joinEmptyDdSender,
      createEmptyDdSender]

/-- The inactivity timer goes to DOWN first, so both threads it joins leave
their loops. -/
theorem eventInactivityTimer_joins (hlsr : n.lsrSenderCreated = false) :
    n.eventInactivityTimer.2 =
      ⟨.retransSender, n.retransSender, true⟩ ::
        if n.isEmptyDdSenderRunning = true then
          [⟨.emptyDdSender, n.emptyDdSender, true⟩]
        else
          [] := by
  have hcleared := clearLists_of_no_lsr (n := { n with state := .down }) hlsr
  rw [eventInactivityTimer, hcleared]
  by_cases hrunning : n.isEmptyDdSenderRunning = true
  · simp [hrunning, joinEmptyDdSender, retransSenderExits,
      emptyDdSenderExits]
  · simp [hrunning, retransSenderExits]

/-! ## One step -/

/-- A handler that clears the lists in a state other than DOWN executes an
unsound join. -/
theorem not_sound_of_clearLists (joins : List Join)
    (hlsr : n.lsrSenderCreated = false) (hstate : n.state ≠ .down)
    (hsub : ∀ j ∈ n.clearLists.2, j ∈ joins) :
    ¬∀ j ∈ joins, j.Sound := by
  intro hsound
  rw [clearLists_of_no_lsr hlsr] at hsub
  have hjoin := hsound _ (hsub _ List.mem_cons_self)
  exact hstate (retransJoin_sound_iff.mp hjoin).2

/-- From EXSTART on, an adjacency that is given up clears the lists, and the
joins with them are not sound. -/
theorem eventAdjOk_sound_iff (hinv : n.ThreadInvariant) (inter : Interface) :
    (∀ j ∈ (n.eventAdjOk inter).2, j.Sound) ↔
      n.state < .exStart ∨ inter.Adjacent n.ip := by
  by_cases hadj : inter.Adjacent n.ip
  · refine iff_of_true ?_ (Or.inr hadj)
    by_cases htwo : n.state = .twoWay
    · simp only [eventAdjOk, htwo, if_true, hadj]
      exact restartEmptyDdSender_sound hinv.emptyDd
    · simp [eventAdjOk, htwo, hadj]
  · by_cases hstate : NeighborState.exStart ≤ n.state
    · have htwo : n.state ≠ .twoWay := by
        intro h
        rw [h] at hstate
        exact absurd hstate (by decide)
      have hunsound := not_sound_of_clearLists
        (n := { n with state := .twoWay })
        (n.eventAdjOk inter).2 hinv.lsr (by simp)
        (fun j hj => by simp [eventAdjOk, htwo, hstate, hadj, hj])
      refine iff_of_false hunsound ?_
      rintro (hlt | hadj')
      · exact not_lt.mpr hstate hlt
      · exact hadj hadj'
    · refine iff_of_true ?_ (Or.inl (not_le.mp hstate))
      by_cases htwo : n.state = .twoWay
      · simp [eventAdjOk, htwo, hadj]
      · simp [eventAdjOk, htwo, hstate]

/-- Where the handles follow the state, the joins of a step are sound exactly
when the step is allowed. -/
theorem joinsSound_iff_allowed (hinv : n.ThreadInvariant) (step : Step) :
    n.JoinsSound step ↔ n.JoinsAllowed step := by
  cases step with
  | write fields => simp [JoinsSound, JoinsAllowed, takeStep]
  | emptyDdSenderEnds => simp [JoinsSound, JoinsAllowed, takeStep]
  | raise event inter lsdb now =>
      cases event with
      | oneWayReceived =>
          by_cases hstate : NeighborState.twoWay ≤ n.state
          · have hunsound := not_sound_of_clearLists
              (n := { n with state := .init })
              n.event1wayReceived.2 hinv.lsr (by simp)
              (fun j hj => by simp [event1wayReceived, hstate, hj])
            exact iff_of_false hunsound (not_lt.mpr hstate)
          · refine iff_of_true ?_ (not_le.mp hstate)
            simp [JoinsSound, takeStep, handle, event1wayReceived, hstate]
      | adjOk =>
          exact eventAdjOk_sound_iff hinv inter
      | seqNumberMismatch | badLsReq =>
          by_cases hstate : NeighborState.exchange ≤ n.state
          · have hunsound := not_sound_of_clearLists
              (n := { n with state := .exStart })
              n.restartExchange.2 hinv.lsr (by simp)
              (fun j hj => by simp [restartExchange, hstate, hj])
            exact iff_of_false hunsound (not_lt.mpr hstate)
          · refine iff_of_true ?_ (not_le.mp hstate)
            change ∀ j ∈ n.restartExchange.2, j.Sound
            simp [restartExchange, hstate]
      | inactivityTimer =>
          change (∀ j ∈ n.eventInactivityTimer.2, j.Sound) ↔ n.state ≠ .down
          rw [eventInactivityTimer_joins hinv.lsr, ← hinv.retrans]
          by_cases hrunning : n.isEmptyDdSenderRunning = true
          · simp [hrunning, Join.Sound, hinv.emptyDd hrunning]
          · simp [hrunning, Join.Sound]
      | _ => simp [JoinsSound, JoinsAllowed, takeStep, handle]

/-- The invariant concerns the thread data and whether the state is DOWN. -/
theorem ThreadInvariant.congr {m : Neighbor} (hinv : n.ThreadInvariant)
    (hstate : m.state = .down ↔ n.state = .down)
    (hretrans : m.retransSender = n.retransSender)
    (hdd : m.emptyDdSender = n.emptyDdSender)
    (hrunning : m.isEmptyDdSenderRunning = n.isEmptyDdSenderRunning)
    (hlsr : m.lsrSenderCreated = n.lsrSenderCreated) :
    m.ThreadInvariant := by
  constructor
  · rw [hretrans, hinv.retrans, ne_eq, ne_eq, hstate]
  · rw [hdd, hrunning]
    exact hinv.emptyDd
  · rw [hlsr]
    exact hinv.lsr

/-- Replacing the empty DD sender leaves it with a handle that can be
joined. -/
theorem ThreadInvariant.restartEmptyDdSender (hinv : n.ThreadInvariant) :
    n.restartEmptyDdSender.1.ThreadInvariant := by
  obtain ⟨hretrans, hlsr, hcreated⟩ := restartEmptyDdSender_spec n
  constructor
  · rw [hretrans, restartEmptyDdSender_state]
    exact hinv.retrans
  · intro _
    exact hcreated
  · rw [hlsr]
    exact hinv.lsr

/-- The inactivity timer leaves no thread behind. -/
theorem ThreadInvariant.eventInactivityTimer (hinv : n.ThreadInvariant) :
    n.eventInactivityTimer.1.ThreadInvariant := by
  have hcleared := clearLists_of_no_lsr (n := { n with state := .down })
    hinv.lsr
  rw [Neighbor.eventInactivityTimer, hcleared]
  by_cases hrunning : n.isEmptyDdSenderRunning = true
  · have hdd := hinv.emptyDd hrunning
    constructor <;> simp [hrunning, joinEmptyDdSender, hdd, hinv.lsr]
  · constructor <;> simp [hrunning, hinv.lsr]

/-- The first Hello starts the retransmission sender. -/
theorem ThreadInvariant.eventHelloReceived (hinv : n.ThreadInvariant)
    (now : ℤ) : (n.eventHelloReceived now).ThreadInvariant := by
  by_cases hdown : n.state = .down
  · simp only [Neighbor.eventHelloReceived, hdown, if_true]
    exact ⟨by simp, hinv.emptyDd, hinv.lsr⟩
  · simp only [Neighbor.eventHelloReceived, hdown, if_false]
    exact hinv.congr Iff.rfl rfl rfl rfl rfl

/-- The way into EXSTART starts the empty DD sender. -/
theorem ThreadInvariant.event2wayReceived (hinv : n.ThreadInvariant)
    (inter : Interface) : (n.event2wayReceived inter).ThreadInvariant := by
  by_cases hinit : n.state = .init
  · have hcreated : n.retransSender = .created :=
      hinv.retrans.mpr (by simp [hinit])
    by_cases hadj : inter.Adjacent n.ip
    · simp only [Neighbor.event2wayReceived, hinit, hadj, if_true]
      exact ⟨by simp [resetDd, hcreated], fun _ => rfl, hinv.lsr⟩
    · simp only [Neighbor.event2wayReceived, hinit, hadj, if_true, if_false]
      exact ⟨by simp [hcreated], hinv.emptyDd, hinv.lsr⟩
  · rwa [Neighbor.event2wayReceived, if_neg hinit]

/-- Unless it gives up an adjacency, `event_adj_ok` joins no thread but the
empty DD sender it replaces. -/
theorem ThreadInvariant.eventAdjOk (hinv : n.ThreadInvariant)
    {inter : Interface}
    (hallowed : n.state < .exStart ∨ inter.Adjacent n.ip) :
    (n.eventAdjOk inter).1.ThreadInvariant := by
  by_cases htwo : n.state = .twoWay
  · have hcreated : n.retransSender = .created :=
      hinv.retrans.mpr (by simp [htwo])
    by_cases hadj : inter.Adjacent n.ip
    · simp only [Neighbor.eventAdjOk, htwo, hadj, if_true]
      have hreset : n.resetDd.ThreadInvariant :=
        ⟨by simp [resetDd, hcreated], hinv.emptyDd, hinv.lsr⟩
      exact hreset.restartEmptyDdSender
    · simp only [Neighbor.eventAdjOk, htwo, hadj, if_true, if_false]
      exact hinv.congr (by simp [htwo]) rfl rfl rfl rfl
  · rw [Neighbor.eventAdjOk, if_neg htwo]
    rcases hallowed with hlt | hadj
    · rwa [if_neg (not_le.mpr hlt)]
    · split_ifs
      · exact hinv
      · exact hinv

/-- An allowed step keeps the handles in line with the state. -/
theorem threadInvariant_takeStep (hinv : n.ThreadInvariant) {step : Step}
    (hallowed : n.JoinsAllowed step) :
    (n.takeStep step).1.ThreadInvariant := by
  cases step with
  | write fields => exact hinv.congr Iff.rfl rfl rfl rfl rfl
  | emptyDdSenderEnds =>
      exact ⟨hinv.retrans, by simp [takeStep, emptyDdSenderEnded], hinv.lsr⟩
  | raise event inter lsdb now =>
      cases event with
      | helloReceived => exact hinv.eventHelloReceived now
      | twoWayReceived => exact hinv.event2wayReceived inter
      | oneWayReceived =>
          have hlt : n.state < .twoWay := hallowed
          change n.event1wayReceived.1.ThreadInvariant
          rwa [event1wayReceived, if_neg (not_le.mpr hlt)]
      | adjOk => exact hinv.eventAdjOk hallowed
      | negotiationDone =>
          change (n.eventNegotiationDone lsdb).ThreadInvariant
          rw [eventNegotiationDone]
          split_ifs with hstate
          · exact hinv.congr (by simp [hstate]) rfl rfl rfl rfl
          · exact hinv
      | exchangeDone =>
          change n.exchangeDoneState.1.ThreadInvariant
          rw [exchangeDoneState]
          split_ifs with hstate
          · exact hinv.congr (by simp [hstate]) rfl rfl rfl rfl
          · exact hinv
      | loadingDone =>
          change n.loadingDoneState.1.ThreadInvariant
          rw [loadingDoneState]
          split_ifs with hstate
          · exact hinv.congr (by simp [hstate]) rfl rfl rfl rfl
          · exact hinv
      | seqNumberMismatch | badLsReq =>
          have hlt : n.state < .exchange := hallowed
          change n.restartExchange.1.ThreadInvariant
          rwa [restartExchange, if_neg (not_le.mpr hlt)]
      | inactivityTimer => exact hinv.eventInactivityTimer

/-! ## Runs -/

/-- In a run that starts with a new neighbor every join is sound exactly when
no step joins the retransmission sender in a state other than DOWN. -/
theorem joinsSound_along_iff (uninit : Uninit) (ip : UInt32)
    (steps : List Step) :
    Along runStep JoinsSound (new uninit ip) steps ↔
      Along runStep JoinsAllowed (new uninit ip) steps := by
  refine along_iff_of_invariant (I := ThreadInvariant) ?_ ?_
    (threadInvariant_new uninit ip)
  · intro n step next hinv hallowed hstep
    rw [runStep, Except.ok.injEq] at hstep
    exact hstep ▸ threadInvariant_takeStep hinv hallowed
  · intro n step hinv
    exact joinsSound_iff_allowed hinv step

/-- A neighbor that is heard, becomes bidirectional without an adjacency and
then stops listing the router: its retransmission sender is joined in INIT,
and its empty DD sender without having been created. -/
theorem joins_hang_after_oneWay :
    ¬Along runStep JoinsSound (new ⟨0, 0, 0, false, false, false⟩ 0x0a000002)
      [.raise .helloReceived (Interface.new 0x0a000001 0xffffff00)
          LSDB.empty 0,
        .raise .twoWayReceived (Interface.new 0x0a000001 0xffffff00)
          LSDB.empty 0,
        .raise .oneWayReceived (Interface.new 0x0a000001 0xffffff00)
          LSDB.empty 0] := by
  intro h
  have hthird := ((h.2 _ rfl).2 _ rfl).1
  revert hthird
  decide

end Neighbor
end OspfLite
