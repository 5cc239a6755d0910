import OspfLite.Interface.Basic
import OspfLite.LinkState.Lsdb

/-!
# Neighbor events

The handlers of `neighbor.cpp` that touch the neighbor record only.  A
handler returns the record together with the joins it has executed, in order.
`pthread_join` is taken as returning: a joined thread has left its loop.
-/

namespace OspfLite

/-- The threads that serve one neighbor. -/
inductive NeighborThread where
  | retransSender
  | emptyDdSender
  | lsrSender
deriving DecidableEq, Repr

/-- What a `pthread_join` finds: the status of the handle it is given, and
whether the exit guard of that thread's loop holds at that moment. -/
structure Join where
  thread : NeighborThread
  handle : ThreadHandle
  exitGuard : Bool
deriving DecidableEq, Repr

namespace Neighbor

/-! ## Exit guards of the threads -/

/-- The guard under which `retrans_sender_thread` leaves its loop. -/
def retransSenderExits (n : Neighbor) : Bool :=
  decide (n.state = .down)

/-- The guard under which `send_empty_dd_packet_thread` leaves its loop. -/
def emptyDdSenderExits (n : Neighbor) : Bool :=
  decide (n.state ≠ .exStart) || n.emptyDdSenderStop

/-- The guard under which `send_lsr_packet_thread` leaves its loop. -/
def lsrSenderExits (n : Neighbor) : Bool :=
  decide (n.state ≠ .exchange)

/-! ## Thread operations -/

/-- `pthread_join(retrans_sender, nullptr)`. -/
def joinRetransSender (n : Neighbor) : Neighbor × List Join :=
  ({ n with retransSender := .joined },
    [⟨.retransSender, n.retransSender, n.retransSenderExits⟩])

/-- `pthread_join(empty_dd_sender, nullptr)`.  A thread that was running has
cleared `is_empty_dd_sender_running` before it ended. -/
def joinEmptyDdSender (n : Neighbor) : Neighbor × List Join :=
  ({ n with
      emptyDdSender := .joined
      isEmptyDdSenderRunning :=
        if n.emptyDdSender = .created then false
        else n.isEmptyDdSenderRunning },
    [⟨.emptyDdSender, n.emptyDdSender, n.emptyDdSenderExits⟩])

/-- `if (lsr_sender_created) pthread_join(lsr_sender, nullptr)`. -/
def joinLsrSender (n : Neighbor) : Neighbor × List Join :=
  if n.lsrSenderCreated then
    ({ n with lsrSender := .joined },
      [⟨.lsrSender, n.lsrSender, n.lsrSenderExits⟩])
  else
    (n, [])

/-- `pthread_create` of the empty DD sender, with the stop flag reset. -/
def createEmptyDdSender (n : Neighbor) : Neighbor :=
  { n with emptyDdSenderStop := false, emptyDdSender := .created }

/-- The tail of `event_adj_ok`, `event_seq_number_mismatch` and
`event_bad_ls_req`: replace a running empty DD sender, or start one.  The
running flag is not set here. -/
def restartEmptyDdSender (n : Neighbor) : Neighbor × List Join :=
  if n.isEmptyDdSenderRunning = false then
    (n.createEmptyDdSender, [])
  else
    let joined := { n with emptyDdSenderStop := true }.joinEmptyDdSender
    (joined.1.createEmptyDdSender, joined.2)

/-- The block shared by all handlers that lower the state: clear the three
lists and join the retransmission and request senders. -/
def clearLists (n : Neighbor) : Neighbor × List Join :=
  let retrans := { n with linkStateRetransmissionList := [] }.joinRetransSender
  let lsr := { retrans.1 with
    databaseSummaryList := []
    linkStateRequestList := [] }.joinLsrSender
  (lsr.1, retrans.2 ++ lsr.2)

/-- The reset of the DD fields on the way into EXSTART. -/
def resetDd (n : Neighbor) : Neighbor :=
  { n with
    lastRecvDdI := false
    lastRecvDdM := false
    lastRecvDdMs := false
    lastRecvDdSeqNum := 0
    lastSendDdDataLen := 0
    ddSeqNum := 0
    isMaster := true
    state := .exStart }

/-! ## What the shared blocks leave alone -/

@[simp] theorem clearLists_state (n : Neighbor) :
    n.clearLists.1.state = n.state := by
  by_cases h : n.lsrSenderCreated = true <;>
    simp [clearLists, joinRetransSender, joinLsrSender, h]

@[simp] theorem clearLists_ip (n : Neighbor) :
    n.clearLists.1.ip = n.ip := by
  by_cases h : n.lsrSenderCreated = true <;>
    simp [clearLists, joinRetransSender, joinLsrSender, h]

@[simp] theorem restartEmptyDdSender_state (n : Neighbor) :
    n.restartEmptyDdSender.1.state = n.state := by
  by_cases h : n.isEmptyDdSenderRunning = true <;>
    simp [restartEmptyDdSender, joinEmptyDdSender, createEmptyDdSender, h]

@[simp] theorem restartEmptyDdSender_ip (n : Neighbor) :
    n.restartEmptyDdSender.1.ip = n.ip := by
  by_cases h : n.isEmptyDdSenderRunning = true <;>
    simp [restartEmptyDdSender, joinEmptyDdSender, createEmptyDdSender, h]

/-! ## Event handlers -/

/-- `Neighbor::event_hello_received` at time `now`. -/
def eventHelloReceived (n : Neighbor) (now : ℤ) : Neighbor :=
  let n := { n with lastRecvHelloTime := now }
  if n.state = .down then
    { n with
      state := .init
      dr := 0
      bdr := 0
      pri := 0
      retransSender := .created }
  else
    n

/-- `Neighbor::event_2way_received`. -/
def event2wayReceived (inter : Interface) (n : Neighbor) : Neighbor :=
  if n.state = .init then
    if inter.Adjacent n.ip then
      { n.resetDd with
        emptyDdSenderStop := false
        isEmptyDdSenderRunning := true
        emptyDdSender := .created }
    else
      { n with state := .twoWay }
  else
    n

/-- `Neighbor::event_1way_received`. -/
def event1wayReceived (n : Neighbor) : Neighbor × List Join :=
  if .twoWay ≤ n.state then
    let cleared := { n with state := .init }.clearLists
    let joined :=
      { cleared.1 with emptyDdSenderStop := true }.joinEmptyDdSender
    (joined.1, cleared.2 ++ joined.2)
  else
    (n, [])

/-- `Neighbor::event_adj_ok`. -/
def eventAdjOk (inter : Interface) (n : Neighbor) : Neighbor × List Join :=
  if n.state = .twoWay then
    if inter.Adjacent n.ip then
      n.resetDd.restartEmptyDdSender
    else
      ({ n with state := .twoWay }, [])
  else if .exStart ≤ n.state then
    if inter.Adjacent n.ip then
      (n, [])
    else
      let cleared := { n with state := .twoWay }.clearLists
      let joined :=
        { cleared.1 with emptyDdSenderStop := true }.joinEmptyDdSender
      (joined.1, cleared.2 ++ joined.2)
  else
    (n, [])

/-- What `event_adj_ok` does to the state: from 2WAY on, it settles whether
there is to be an adjacency. -/
theorem eventAdjOk_state (inter : Interface) (n : Neighbor) :
    (n.eventAdjOk inter).1.state =
      if n.state < .twoWay then n.state
      else if inter.Adjacent n.ip then max n.state .exStart
      else .twoWay := by
  rcases lt_trichotomy n.state .twoWay with hlow | htwo | hhigh
  · have hstart : ¬NeighborState.exStart ≤ n.state :=
      not_le.mpr (hlow.trans (by decide))
    rw [eventAdjOk, if_neg hlow.ne, if_neg hstart, if_pos hlow]
  · simp only [eventAdjOk, htwo, if_true, lt_irrefl, if_false]
    split_ifs
    · rw [restartEmptyDdSender_state]
      rfl
    · rfl
  · have hstart : NeighborState.exStart ≤ n.state := by
      revert hhigh
      cases n.state <;> decide
    rw [eventAdjOk, if_neg hhigh.ne', if_pos hstart, if_neg hhigh.not_gt]
    split_ifs
    · rw [max_eq_left hstart]
    · simp only [joinEmptyDdSender, clearLists_state]

@[simp] theorem eventAdjOk_ip (inter : Interface) (n : Neighbor) :
    (n.eventAdjOk inter).1.ip = n.ip := by
  rw [eventAdjOk]
  split_ifs <;> simp [resetDd, joinEmptyDdSender]

/-- `Neighbor::event_negotiation_done`. -/
def eventNegotiationDone (lsdb : LSDB) (n : Neighbor) : Neighbor :=
  if n.state = .exStart then
    { n with databaseSummaryList := lsdb.headers, state := .exchange }
  else
    n

/-- The common body of `event_seq_number_mismatch` and `event_bad_ls_req`. -/
def restartExchange (n : Neighbor) : Neighbor × List Join :=
  if .exchange ≤ n.state then
    let cleared := { n with state := .exStart }.clearLists
    let restarted := cleared.1.restartEmptyDdSender
    (restarted.1, cleared.2 ++ restarted.2)
  else
    (n, [])

/-- `Neighbor::event_seq_number_mismatch`. -/
def eventSeqNumberMismatch (n : Neighbor) : Neighbor × List Join :=
  n.restartExchange

/-- `Neighbor::event_bad_ls_req`. -/
def eventBadLsReq (n : Neighbor) : Neighbor × List Join :=
  n.restartExchange

/-- The transition of `Neighbor::event_exchange_done`; its condition
`true || link_state_request_list.empty()` always holds.  Whether `update_lsas`
follows is the second component. -/
def exchangeDoneState (n : Neighbor) : Neighbor × Bool :=
  if n.state = .exchange then ({ n with state := .full }, true)
  else (n, false)

/-- The transition of `Neighbor::event_loading_done`. -/
def loadingDoneState (n : Neighbor) : Neighbor × Bool :=
  if n.state = .loading then ({ n with state := .full }, true)
  else (n, false)

/-- `Neighbor::event_inactivity_timer`. -/
def eventInactivityTimer (n : Neighbor) : Neighbor × List Join :=
  let cleared := { n with state := .down }.clearLists
  if cleared.1.isEmptyDdSenderRunning then
    let joined :=
      { cleared.1 with emptyDdSenderStop := true }.joinEmptyDdSender
    (joined.1, cleared.2 ++ joined.2)
  else
    cleared

/-- `send_empty_dd_packet_thread` has left its loop. -/
def emptyDdSenderEnded (n : Neighbor) : Neighbor :=
  { n with isEmptyDdSenderRunning := false }

end Neighbor

end OspfLite
