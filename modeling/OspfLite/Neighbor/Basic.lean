import OspfLite.LinkState.Header

/-!
# Neighbors

The record the router keeps about every neighbor on a segment, with the
handles of the three threads that work for it.
-/

namespace OspfLite

/-- `NeighborState`, in the order of its values. -/
inductive NeighborState where
  | down
  | attempt
  | init
  | twoWay
  | exStart
  | exchange
  | loading
  | full
deriving DecidableEq, Repr

namespace NeighborState

/-- The value of the enumerator. -/
def toNat : NeighborState → ℕ
  | down => 0
  | attempt => 1
  | init => 2
  | twoWay => 3
  | exStart => 4
  | exchange => 5
  | loading => 6
  | full => 7

theorem toNat_injective : Function.Injective toNat := by
  intro a b h
  cases a <;> cases b <;> first | rfl | cases h

/-- States are compared by value. -/
instance : LinearOrder NeighborState :=
  LinearOrder.lift' toNat toNat_injective

end NeighborState

/-- `NeighborEvent`, for the events that have a handler. -/
inductive NeighborEvent where
  | helloReceived
  | twoWayReceived
  | oneWayReceived
  | adjOk
  | negotiationDone
  | exchangeDone
  | loadingDone
  | seqNumberMismatch
  | badLsReq
  | inactivityTimer
deriving DecidableEq, Repr

/-- What a `pthread_t` refers to: nothing yet, a thread that was created and
not joined since, or a thread that has been joined. -/
inductive ThreadHandle where
  | unset
  | created
  | joined
deriving DecidableEq, Repr

/-- The fields a constructor or an allocation leaves unassigned.  They hold
arbitrary values. -/
structure Uninit where
  networkMask : UInt32
  tosNum : UInt8
  ddOther : UInt8
  lastRecvDdI : Bool
  lastRecvDdM : Bool
  lastRecvDdMs : Bool
deriving DecidableEq, Repr

/-- `Neighbor`.  The interface pointer is the interface that holds the record;
of `last_send_dd_data` only the bytes last written are kept. -/
structure Neighbor where
  state : NeighborState
  isMaster : Bool
  ddSeqNum : UInt32
  lastRecvDdSeqNum : UInt32
  lastRecvDdI : Bool
  lastRecvDdM : Bool
  lastRecvDdMs : Bool
  lastSendDdData : List UInt8
  lastSendDdDataLen : UInt32
  id : UInt32
  pri : UInt8
  ip : UInt32
  options : UInt8
  dr : UInt32
  bdr : UInt32
  linkStateRetransmissionList : List LSAHeader
  databaseSummaryList : List LSAHeader
  linkStateRequestList : List LSAHeader
  emptyDdSender : ThreadHandle
  isEmptyDdSenderRunning : Bool
  emptyDdSenderStop : Bool
  lsrSenderCreated : Bool
  lsrSender : ThreadHandle
  retransSender : ThreadHandle
  lastRecvHelloTime : ℤ
deriving DecidableEq, Repr

namespace Neighbor

/-- `Neighbor::Neighbor`. -/
def new (uninit : Uninit) (ip : UInt32) : Neighbor where
  state := .down
  isMaster := false
  ddSeqNum := 0
  lastRecvDdSeqNum := 0
  lastRecvDdI := uninit.lastRecvDdI
  lastRecvDdM := uninit.lastRecvDdM
  lastRecvDdMs := uninit.lastRecvDdMs
  lastSendDdData := []
  lastSendDdDataLen := 0
  id := 0
  pri := 0
  ip := ip
  options := 0x2
  dr := 0
  bdr := 0
  linkStateRetransmissionList := []
  databaseSummaryList := []
  linkStateRequestList := []
  emptyDdSender := .unset
  isEmptyDdSenderRunning := false
  emptyDdSenderStop := false
  lsrSenderCreated := false
  lsrSender := .unset
  retransSender := .unset
  lastRecvHelloTime := 0

end Neighbor

end OspfLite
