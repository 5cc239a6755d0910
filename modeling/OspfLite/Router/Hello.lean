import OspfLite.Router.Basic

/-!
# Hello packets

The Hello branch of `recv_ospf_packet_thread`.
-/

namespace OspfLite

/-- `OSPFHello`, as the raw fields lie in the packet. -/
structure OSPFHello where
  helloInterval : UInt16
  options : UInt8
  rtrPri : UInt8
  routerDeadInterval : UInt32
  designatedRouter : UInt32
  backupDesignatedRouter : UInt32
deriving DecidableEq, Repr

/-- `sizeof(OSPFHello)`. -/
def OSPFHello.size : ℕ := 20

def OSPFHello.load (p : Memory) : OSPFHello where
  helloInterval := p.load16 4
  options := p 6
  rtrPri := p 7
  routerDeadInterval := p.load32 8
  designatedRouter := p.load32 12
  backupDesignatedRouter := p.load32 16

/-- What the handler takes from a Hello packet, in host order. -/
structure HelloFields where
  id : UInt32
  dr : UInt32
  bdr : UInt32
  pri : UInt8
  options : UInt8
deriving DecidableEq, Repr

/-- The search for `router_id` among the neighbors a Hello lists.  Where the
end is missed, the search goes on until it finds the id or leaves the
buffer. -/
def helloLists (packet : Memory) (routerId : UInt32) : Outcome Bool :=
  let start := bodyOffset + OSPFHello.size
  let stop := ipHeaderSize + (ntohs (packet.load16 22)).toNat
  let found := fun i => decide (packet.load32 (start + 4 * i) = htonl routerId)
  match pointerSteps start stop 4 with
  | some n => .ok ((List.range n).any found)
  | none =>
      if (List.range ((frameSize - start) / 4)).any found then
        .ok true
      else
        .error .endlessLoop

namespace Neighbor

/-- The assignments of the handler to the neighbor. -/
def writeHello (n : Neighbor) (fields : HelloFields) : Neighbor :=
  { n with
    id := fields.id
    dr := fields.dr
    bdr := fields.bdr
    pri := fields.pri
    options := fields.options }

end Neighbor

namespace Interface

/-- Add a record for a source that has none. -/
def ensureNeighbor (inter : Interface) (uninit : Uninit) (ip : UInt32) :
    Interface :=
  if inter.findNeighbor ip = none then
    inter.addNeighbor (Neighbor.new uninit ip)
  else
    inter

/-- The event the seven-way chain at the end of the branch raises, if any:
`before` is the neighbor after `event_hello_received`, `after` the neighbor at
the end. -/
def helloEvent (state : InterfaceState) (newNeighbor : Bool)
    (before after : Neighbor) : Option Event :=
  if before.pri ≠ after.pri ∧ newNeighbor = false then
    some .neighborChange
  else if after.dr = after.ip ∧ after.bdr = 0 ∧ state = .waiting then
    some .backupSeen
  else if before.dr ≠ after.ip ∧ after.dr = after.ip ∧
      newNeighbor = false then
    some .neighborChange
  else if before.dr = after.ip ∧ after.dr ≠ after.ip ∧
      newNeighbor = false then
    some .neighborChange
  else if after.bdr = after.ip ∧ state = .waiting then
    some .backupSeen
  else if before.bdr ≠ after.ip ∧ after.bdr = after.ip ∧
      newNeighbor = false then
    some .neighborChange
  else if before.bdr = after.ip ∧ after.bdr ≠ after.ip ∧
      newNeighbor = false then
    some .neighborChange
  else
    none

/-- What the branch does to the interface, once the packet has been decoded:
`listed` says whether it lists the router. -/
def recvHello (routerId : UInt32) (uninit : Uninit) (now : ℤ) (ip : UInt32)
    (fields : HelloFields) (listed : Bool) (inter : Interface) :
    Outcome Interface :=
  let inter := inter.ensureNeighbor uninit ip
  match inter.findNeighbor ip with
  | none => .error .nullDereference
  | some n =>
      let newNeighbor := decide (n.state = .down)
      let heard := n.eventHelloReceived now
      let written := heard.writeHello fields
      if listed then
        let after := written.event2wayReceived inter
        let inter := inter.modifyNeighbor ip fun _ => after
        match helloEvent inter.state newNeighbor heard after with
        | none => .ok inter
        | some event => inter.handle routerId event
      else
        .ok (inter.modifyNeighbor ip fun _ => written.event1wayReceived.1)

end Interface

namespace Router

/-- The options and intervals of a Hello that is not discarded. -/
def HelloMatches (r : Router) (hello : OSPFHello) : Prop :=
  hello.options = r.ospfOptions ∧
    hello.helloInterval = htons r.interface.helloInterval.toUInt16 ∧
    hello.routerDeadInterval = htonl r.interface.routerDeadInterval

instance (r : Router) (hello : OSPFHello) : Decidable (r.HelloMatches hello) :=
  inferInstanceAs (Decidable (_ ∧ _ ∧ _))

/-- The fields of the neighbor a Hello sets. -/
def helloFields (packet : Memory) : HelloFields :=
  let hello := OSPFHello.load (packet.advance bodyOffset)
  { id := ntohl (packet.load32 24)
    dr := ntohl hello.designatedRouter
    bdr := ntohl hello.backupDesignatedRouter
    pri := hello.rtrPri
    options := hello.options }

/-- The Hello branch of `recv_ospf_packet_thread`. -/
def recvHello (now : ℤ) (r : Router) (packet : Memory) : Outcome Router :=
  if r.HelloMatches (OSPFHello.load (packet.advance bodyOffset)) then
    let ip := ntohl (packet.load32 12)
    (helloLists packet r.routerId).bind fun listed =>
      (r.interface.recvHello r.routerId r.uninit now ip (helloFields packet)
        listed).map fun inter => { r with interface := inter }
  else
    .ok r

end Router
end OspfLite
