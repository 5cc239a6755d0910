import OspfLite.Router.Hello
import OspfLite.Router.Description
import OspfLite.Router.Request
import OspfLite.Lib.Runs

/-!
# The receive thread

The loop of `recv_ospf_packet_thread`: the timers, the checks on a received
frame and the dispatch on its type; and the runs of the process.
-/

namespace OspfLite

namespace Interface

/-- One round of the inactivity loop, for the neighbor at position `i`. -/
def inactivityStep (routerId : UInt32) (now : ℤ) (inter : Interface)
    (i : ℕ) : Outcome Interface :=
  match inter.neighbors[i]? with
  | none => .ok inter
  | some n =>
      if n.state ≠ .down ∧
          n.lastRecvHelloTime + inter.routerDeadInterval.toNat < now then
        { inter with
          neighbors := inter.neighbors.set i
            n.eventInactivityTimer.1 }.eventNeighborChange routerId
      else
        .ok inter

/-- The inactivity loop over the neighbors. -/
def inactivityTimers (routerId : UInt32) (now : ℤ) (inter : Interface) :
    Outcome Interface :=
  runFrom (inactivityStep routerId now) inter
    (List.range inter.neighbors.length)

/-- The test of the waiting timer at the head of the loop. -/
def waitingTimer? (routerId : UInt32) (inter : Interface) :
    Outcome Interface :=
  if inter.state = .waiting ∧ inter.waitingTimeout = true then
    inter.eventWaitTimer routerId
  else
    .ok inter

end Interface

namespace Router

/-- The timers at the head of the loop, at time `now`. -/
def timers (now : ℤ) (r : Router) : Outcome Router :=
  ((r.interface.waitingTimer? r.routerId).bind
    (Interface.inactivityTimers r.routerId now)).map fun inter =>
      { r with interface := inter }

/-- The checks a frame has to pass before its type is looked at. -/
def Admits (r : Router) (packet : Memory) : Prop :=
  (packet.load32 16 = htonl r.interface.ipInterfaceAddress ∨
      packet.load32 16 = htonl allSpfRouters ∨
      packet.load32 16 = htonl allDRouters) ∧
    packet 9 = 89 ∧
    packet.load32 12 ≠ htonl r.interface.ipInterfaceAddress ∧
    packet 20 = 2 ∧
    packet.load32 28 = htonl r.areaId ∧
    (packet.load32 16 = htonl allDRouters →
      r.interface.state = .dr ∨ r.interface.state = .backup) ∧
    (packet.load16 34).toUInt32 = r.interface.auType

instance (r : Router) (packet : Memory) : Decidable (r.Admits packet) :=
  inferInstanceAs (Decidable (_ ∧ _ ∧ _ ∧ _ ∧ _ ∧ (_ → _) ∧ _))

/-- What the loop does with a received frame. -/
def recvOspfPacket (now : ℤ) (r : Router) (packet : Memory) :
    Outcome Router :=
  if r.Admits packet then
    if packet 21 = typeHello then r.recvHello now packet
    else if packet 21 = typeDd then r.recvDd packet
    else if packet 21 = typeLsr then r.recvLsr packet
    else if packet 21 = typeLsu then r.recvLsu packet
    else if packet 21 = typeLsAck then r.recvLsAck packet
    else .ok r
  else
    .ok r

/-- What moves the process on: a round of the timers, a frame, the end of the
waiting timer thread, a round of the empty DD sender of a neighbor, and that
sender leaving its loop. -/
inductive Step where
  | timers (now : ℤ)
  | frame (now : ℤ) (packet : Memory)
  | waitingTimeout
  | emptyDd (ip : UInt32)
  | emptyDdSenderEnds (ip : UInt32)

/-- One step of the process. -/
def step (r : Router) : Step → Outcome Router
  | .timers now => r.timers now
  | .frame now packet => r.recvOspfPacket now packet
  | .waitingTimeout =>
      .ok { r with interface := { r.interface with waitingTimeout := true } }
  | .emptyDd ip => .ok (r.sendEmptyDd ip)
  | .emptyDdSenderEnds ip =>
      .ok (r.modifyNeighbor ip Neighbor.emptyDdSenderEnded)

/-- A condition on the rounds of an LSU, as a condition on a step of the
process: it holds of every round when the step is the handling of an LSU. -/
def EachLsuRound (P : UInt32 → LsuState → Memory → Prop) (r : Router) :
    Step → Prop
  | .frame _ packet =>
      r.Admits packet → packet 21 = typeLsu →
        r.findNeighbor (ntohl (packet.load32 12)) ≠ none →
        Along (lsuRound (packet.load32 12)) (P (packet.load32 12))
          ⟨r, [], false⟩ (lsuPointers packet)
  | _ => True

instance (P : UInt32 → LsuState → Memory → Prop)
    [∀ src s data, Decidable (P src s data)] (r : Router) :
    (step : Step) → Decidable (EachLsuRound P r step)
  | .frame _ packet => inferInstanceAs (Decidable
      (r.Admits packet → packet 21 = typeLsu → _ ≠ none →
        Along _ _ _ (lsuPointers packet)))
  | .timers _ => isTrue trivial
  | .waitingTimeout => isTrue trivial
  | .emptyDd _ => isTrue trivial
  | .emptyDdSenderEnds _ => isTrue trivial

/-- Equivalent conditions on rounds are equivalent on steps. -/
theorem eachLsuRound_congr {P Q : UInt32 → LsuState → Memory → Prop}
    (h : ∀ src s data, P src s data ↔ Q src s data) (r : Router)
    (step : Step) : EachLsuRound P r step ↔ EachLsuRound Q r step := by
  cases step with
  | frame now packet =>
      exact imp_congr_right fun _ => imp_congr_right fun _ =>
        imp_congr_right fun _ => along_congr (h _) _ _
  | _ => exact Iff.rfl

/-- The process as `main` starts it, with the interface brought up. -/
def start (routerId lsSequenceCnt areaId : UInt32) (uninit : Uninit)
    (interfacesBefore : List Interface) (address mask : UInt32)
    (interfacesAfter : List Interface) : Router :=
  new routerId lsSequenceCnt areaId uninit interfacesBefore
    (Interface.new address mask).eventInterfaceUp interfacesAfter

/-- A loopback interface of `main`. -/
def loopback (address mask : UInt32) : Interface :=
  { Interface.new address mask with state := .loopback }

/-- The process as `main` starts it, with any number of loopback interfaces in
the area.  One interface is brought up and served by the receive thread. -/
def boot (routerId areaId : UInt32) (uninit : Uninit)
    (loopbacks : List (UInt32 × UInt32)) (address mask : UInt32) : Router :=
  start routerId initialSequenceNumber areaId uninit
    (loopbacks.map fun l => loopback l.1 l.2) address mask []

/-- At the start no interface has a neighbor. -/
theorem boot_neighbors (routerId areaId : UInt32) (uninit : Uninit)
    (loopbacks : List (UInt32 × UInt32)) (address mask : UInt32) :
    ∀ inter ∈ (boot routerId areaId uninit loopbacks address
      mask).interfaces, inter.neighbors = [] := by
  intro inter hinter
  rcases List.mem_append.mp hinter with hbefore | hserved
  · obtain ⟨l, -, rfl⟩ := List.mem_map.mp hbefore
    rfl
  · rw [List.mem_singleton.mp hserved]
    change (Interface.eventInterfaceUp _).neighbors = []
    rw [Interface.eventInterfaceUp]
    split_ifs <;> rfl

end Router
end OspfLite
