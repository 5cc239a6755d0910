import OspfLite.Exchange.Refinement
import OspfLite.Exchange.Rounds
import OspfLite.Lib.LockStep
import OspfLite.Lib.Runs

/-!
# Two routers exchanging Database Description packets

Two routers joined by two order-preserving channels that may lose any packet
and deliver a packet several times in a row.  Whatever the channels do, the
exchange runs in lock step.
-/

namespace OspfLite

/-! ## The system -/

/-- One end of the exchange: a router, the address of the other one, and the
DD packets on the way to it, the oldest one first. -/
structure Endpoint where
  router : Router
  peer : UInt32
  inbox : List (List UInt8)

/-- What can happen at one end: a round of the empty DD sender, the delivery of
the oldest packet, which may be kept to be delivered again, or the loss of a
packet on its way. -/
inductive EndpointEvent where
  | emptyDd
  | deliver (keep : Bool)
  | lose (i : ℕ)
deriving DecidableEq, Repr

namespace Endpoint

/-- The neighbor record of the other router. -/
def neighbor (e : Endpoint) : Option Neighbor :=
  e.router.findNeighbor e.peer

/-- The headers accepted from the other router. -/
def accepted (e : Endpoint) : List LSAHeader :=
  e.router.acceptedFrom e.peer

/-- The summary list filled for the other router in
`event_negotiation_done`. -/
def snapshot (e : Endpoint) : Option (List LSAHeader) :=
  e.router.snapshotFor e.peer

/-- The packets the router has sent to the other one on the way to `r'`. -/
def emitted (e : Endpoint) (r' : Router) : List (List UInt8) :=
  (r'.log.drop e.router.log.length).filterMap (LogEntry.ddPacketTo e.peer)

/-- One event at one end, with the packets it puts on the way to the other
end.  The checks on the frame of a packet are taken as passed. -/
def step (e : Endpoint) :
    EndpointEvent → Outcome (Endpoint × List (List UInt8))
  | .emptyDd =>
      let r' := e.router.sendEmptyDd e.peer
      .ok ({ e with router := r' }, e.emitted r')
  | .deliver keep =>
      match e.inbox with
      | [] => .ok (e, [])
      | packet :: rest =>
          (e.router.recvDd (ipDatagram e.peer
            e.router.interface.ipInterfaceAddress packet)).map fun r' =>
              ({ e with
                  router := r'
                  inbox := if keep then packet :: rest else rest },
                e.emitted r')
  | .lose i => .ok ({ e with inbox := e.inbox.eraseIdx i }, [])

/-- The router has just entered EXSTART with the other one, which it knows by
its id: the fields of the exchange are reset, and the empty DD sender has been
started.  The log is started here. -/
structure Starts (e : Endpoint) (peerId : UInt32) : Prop where
  neighbor : ∃ n, e.neighbor = some n ∧ n.id = peerId ∧
    n.state = .exStart ∧ n.emptyDdSenderStop = false ∧ n.ddSeqNum = 0 ∧
    n.lastRecvDdSeqNum = 0 ∧ n.lastRecvDdI = false ∧
    n.lastRecvDdM = false ∧ n.lastRecvDdMs = false ∧
    n.lastSendDdDataLen = 0
  log : e.router.log = []
  inbox : e.inbox = []
  routerLsas : ∀ lsa ∈ e.router.lsdb.routerLsas,
    lsa.header.lsType = lsaRouter
  networkLsas : ∀ lsa ∈ e.router.lsdb.networkLsas,
    lsa.header.lsType = lsaNetwork

end Endpoint

/-- The two ends. -/
structure Pair where
  left : Endpoint
  right : Endpoint

inductive Side where
  | left
  | right
deriving DecidableEq, Repr

namespace Pair

/-- One event at one of the ends. -/
def step (p : Pair) : Side × EndpointEvent → Outcome Pair
  | (.left, event) => (p.left.step event).map fun (e, packets) =>
      { left := e
        right := { p.right with inbox := p.right.inbox ++ packets } }
  | (.right, event) => (p.right.step event).map fun (e, packets) =>
      { left := { p.left with inbox := p.left.inbox ++ packets }
        right := e }

theorem step_left {p : Pair} {event : EndpointEvent} {e : Endpoint}
    {packets : List (List UInt8)}
    (h : p.left.step event = .ok (e, packets)) :
    p.step (.left, event) =
      .ok ⟨e, { p.right with inbox := p.right.inbox ++ packets }⟩ := by
  rw [step, h]
  rfl

theorem step_right {p : Pair} {event : EndpointEvent} {e : Endpoint}
    {packets : List (List UInt8)}
    (h : p.right.step event = .ok (e, packets)) :
    p.step (.right, event) =
      .ok ⟨{ p.left with inbox := p.left.inbox ++ packets }, e⟩ := by
  rw [step, h]
  rfl

/-- Both routers have just entered EXSTART, and nothing is on the way. -/
structure Starts (p : Pair) : Prop where
  left : p.left.Starts p.right.router.routerId
  right : p.right.Starts p.left.router.routerId
  ids : p.left.router.routerId ≠ p.right.router.routerId

end Pair

namespace Endpoint

/-- The other router is the master, and its number is that of its slave or the
next one. -/
def Serves (e other : Endpoint) : Prop :=
  ∀ n m, e.neighbor = some n → other.neighbor = some m →
    .exchange ≤ n.state → .exchange ≤ m.state →
    n.isMaster = true ∧ m.isMaster = false ∧
      (m.ddSeqNum = n.ddSeqNum ∨ m.ddSeqNum = n.ddSeqNum + 1)

/-- All of the snapshot of the other router has been accepted, where `wire`
says what becomes of a header on the wire. -/
def HasAccepted (wire : LSAHeader → LSAHeader) (e other : Endpoint) : Prop :=
  ∃ summary, other.snapshot = some summary ∧ e.accepted = summary.map wire

/-- What has been accepted is a prefix of the snapshot of the other router. -/
def AcceptsPrefix (wire : LSAHeader → LSAHeader) (e other : Endpoint) :
    Prop :=
  e.accepted <+: (other.snapshot.getD []).map wire

/-- The router is in FULL with the other one. -/
def IsFull (e : Endpoint) : Prop :=
  ∃ n, e.neighbor = some n ∧ n.state = .full

/-- `event_seq_number_mismatch` has been raised. -/
def Mismatched (e : Endpoint) : Prop :=
  ∃ ip, LogEntry.raised ip .seqNumberMismatch ∈ e.router.log

end Endpoint

/-- The exchange has gone well so far, up to what becomes of a header on the
wire. -/
structure Pair.SoundUpTo (wire : LSAHeader → LSAHeader) (p : Pair) :
    Prop where
  noMismatch : ¬p.left.Mismatched ∧ ¬p.right.Mismatched
  roles : p.left.Serves p.right ∨ p.right.Serves p.left
  leftAccepts : p.left.AcceptsPrefix wire p.right
  rightAccepts : p.right.AcceptsPrefix wire p.left
  complete : p.left.IsFull ∨ p.right.IsFull →
    p.left.HasAccepted wire p.right ∧ p.right.HasAccepted wire p.left

/-- The exchange has gone well so far. -/
def Pair.Sound (p : Pair) : Prop := p.SoundUpTo id

end OspfLite
