import OspfLite.Interface.Election
import OspfLite.LinkState.Lsdb

/-!
# The router process

The state of one receive thread: the configuration, the area with its link
state database, and the interface the thread serves.  The log is no part of
the source; it records what the process sends and decides.
-/

namespace OspfLite

/-! ## Packets -/

/-- The type bytes of `OSPFType`. -/
def typeHello : UInt8 := 1
def typeDd : UInt8 := 2
def typeLsr : UInt8 := 3
def typeLsu : UInt8 := 4
def typeLsAck : UInt8 := 5

/-- `sizeof(iphdr)`. -/
def ipHeaderSize : ℕ := 20

/-- `sizeof(OSPFHeader)`. -/
def ospfHeaderSize : ℕ := 24

/-- The offset of the OSPF body behind the start of the IP header. -/
def bodyOffset : ℕ := ipHeaderSize + ospfHeaderSize

/-- The bytes of the receive buffer behind the start of the IP header. -/
def frameSize : ℕ := 1500

/-- ALLSPFRouters, 224.0.0.5 in host order. -/
def allSpfRouters : UInt32 := 0xe0000005

/-- ALLDRouters, 224.0.0.6 in host order. -/
def allDRouters : UInt32 := 0xe0000006

/-- One round of the carry loop of `ospf_checksum`. -/
def foldCarry (sum : UInt32) : UInt32 :=
  (sum &&& (0xffff : UInt32)) + (sum >>> (16 : UInt32))

/-- The loop `while (sum >> 16)`; two rounds bring any 32-bit sum below
`0x10000`. -/
def foldCarries (sum : UInt32) : UInt32 :=
  if sum >>> (16 : UInt32) = 0 then sum
  else if foldCarry sum >>> (16 : UInt32) = 0 then foldCarry sum
  else foldCarry (foldCarry sum)

/-- `ospf_checksum`. -/
def ospfChecksum (data : Memory) (len : ℕ) : UInt16 :=
  let sum := (List.range (len / 2)).foldl
    (fun sum i => sum + (data.load16 (2 * i)).toUInt32) 0
  let sum :=
    if len % 2 = 1 then sum + (data (len - 1)).toUInt32 else sum
  ~~~(foldCarries sum).toUInt16

/-- An OSPF packet as it arrives, behind an IP header.  Of the IP header the
receiver reads the protocol and the addresses. -/
def ipDatagram (src dst : UInt32) (packet : List UInt8) : Memory :=
  Memory.ofList ([0x45, 0] ++
    store16 (htons (UInt16.ofNat (ipHeaderSize + packet.length))) ++
    [0, 0, 0, 0, 1, 89, 0, 0] ++ store32 (htonl src) ++ store32 (htonl dst) ++
    packet)

/-! ## The record -/

/-- What the process does to the outside, and what it decides. -/
inductive LogEntry where
  /-- `sendto` with the OSPF packet. -/
  | sent (dst : UInt32) (packet : List UInt8)
  /-- A handler has raised an event that restarts the exchange with the
  neighbor at `ip`. -/
  | raised (ip : UInt32) (event : NeighborEvent)
  /-- `event_negotiation_done` has filled the summary list. -/
  | negotiated (ip : UInt32) (summary : List LSAHeader)
  /-- A Database Description packet with these headers was accepted. -/
  | accepted (ip : UInt32) (headers : List LSAHeader)
deriving DecidableEq, Repr

/-- The process: `myconfig`, the area and the interface of the thread, with
the other interfaces of the area before and after it. -/
structure Router where
  routerId : UInt32
  ospfOptions : UInt8
  lsSequenceCnt : UInt32
  areaId : UInt32
  lsdb : LSDB
  interfacesBefore : List Interface
  interface : Interface
  interfacesAfter : List Interface
  uninit : Uninit
  log : List LogEntry
deriving DecidableEq, Repr

namespace Router

/-- A process that has just been started. -/
def new (routerId lsSequenceCnt areaId : UInt32) (uninit : Uninit)
    (interfacesBefore : List Interface) (interface : Interface)
    (interfacesAfter : List Interface) : Router where
  routerId := routerId
  ospfOptions := 0x2
  lsSequenceCnt := lsSequenceCnt
  areaId := areaId
  lsdb := LSDB.empty
  interfacesBefore := interfacesBefore
  interface := interface
  interfacesAfter := interfacesAfter
  uninit := uninit
  log := []

/-- `area->interfaces`. -/
def interfaces (r : Router) : List Interface :=
  r.interfacesBefore ++ r.interface :: r.interfacesAfter

def addLog (r : Router) (entry : LogEntry) : Router :=
  { r with log := r.log ++ [entry] }

/-- The neighbor `find_neighbor` points to. -/
def findNeighbor (r : Router) (ip : UInt32) : Option Neighbor :=
  r.interface.findNeighbor ip

/-- Apply `f` to the record `find_neighbor` points to. -/
def modifyNeighbor (r : Router) (ip : UInt32) (f : Neighbor → Neighbor) :
    Router :=
  { r with interface := r.interface.modifyNeighbor ip f }

/-- The packet `send_ospf_packet` assembles.  The authentication words are
written as zero for authentication type 0, the only type supported. -/
def ospfPacket (r : Router) (auType : UInt32) (type : UInt8)
    (data : List UInt8) : List UInt8 :=
  let length : UInt16 := UInt16.ofNat (data.length + ospfHeaderSize)
  let fixed := [2, type] ++ store16 (htons length) ++
    store32 (htonl r.routerId) ++ store32 (htonl r.areaId)
  let rest := store16 auType.toUInt16 ++ store32 0 ++ store32 0 ++ data
  let checksum := ospfChecksum (Memory.ofList (fixed ++ store16 0 ++ rest))
    (data.length + ospfHeaderSize)
  fixed ++ store16 checksum ++ rest

/-- `send_ospf_packet` through the given interface. -/
def sendOspfPacketFrom (r : Router) (inter : Interface) (dst : UInt32)
    (type : UInt8) (data : List UInt8) : Router :=
  r.addLog (.sent dst (r.ospfPacket inter.auType type data))

/-- `send_ospf_packet` through the interface of the thread. -/
def sendOspfPacket (r : Router) (dst : UInt32) (type : UInt8)
    (data : List UInt8) : Router :=
  r.sendOspfPacketFrom r.interface dst type data

end Router

/-! ## The layers around a body -/

/-- The OSPF packet behind the IP header. -/
theorem ipDatagram_advance (src dst : UInt32) (packet : List UInt8) :
    (ipDatagram src dst packet).advance ipHeaderSize =
      Memory.ofList packet :=
  Memory.advance_ofList_append _ _ _ rfl

/-- The source address `recv_ospf_packet_thread` reads. -/
theorem ipDatagram_src (src dst : UInt32) (packet : List UInt8) :
    (ipDatagram src dst packet).load32 12 = htonl src :=
  Memory.load32_of_drop rfl

namespace Router

variable (r : Router) (auType : UInt32) (type : UInt8) (data : List UInt8)

/-- The body behind the OSPF header. -/
theorem ospfPacket_advance :
    (Memory.ofList (r.ospfPacket auType type data)).advance
      ospfHeaderSize = Memory.ofList data := by
  simp only [ospfPacket, ← List.append_assoc]
  exact Memory.advance_ofList_append _ data _ rfl

theorem length_ospfPacket (r : Router) (auType : UInt32) (type : UInt8)
    (data : List UInt8) :
    (r.ospfPacket auType type data).length =
      ospfHeaderSize + data.length := by
  simp only [ospfPacket, List.length_append, List.length_cons,
    List.length_nil, length_store16, length_store32, ospfHeaderSize]
  omega

/-- `packet_length` as it lies in the header. -/
theorem ospfPacket_length :
    (Memory.ofList (r.ospfPacket auType type data)).load16 2 =
      htons (UInt16.ofNat (data.length + ospfHeaderSize)) :=
  Memory.load16_of_drop rfl

/-- `packet_length` as the receiver reads it. -/
theorem ipDatagram_ospfPacket_length (src dst : UInt32)
    (hdata : data.length + ospfHeaderSize < 65536) :
    (ntohs ((ipDatagram src dst (r.ospfPacket auType type data)).load16
      22)).toNat = data.length + ospfHeaderSize := by
  have hload : (ipDatagram src dst (r.ospfPacket auType type data)).load16
      22 = (Memory.ofList (r.ospfPacket auType type data)).load16 2 := by
    rw [← ipDatagram_advance src dst]
    rfl
  rw [hload, ospfPacket_length, ntohs_htons, UInt16.toNat_ofNat']
  exact Nat.mod_eq_of_lt hdata

/-- The type byte of the header. -/
theorem ospfPacket_type :
    (r.ospfPacket auType type data)[1]? = some type := rfl

theorem ipDatagram_ospfPacket_advance (src dst : UInt32) :
    (ipDatagram src dst (r.ospfPacket auType type data)).advance
      bodyOffset = Memory.ofList data := by
  rw [bodyOffset, ← Memory.advance_advance, ipDatagram_advance,
    ospfPacket_advance]

end Router

end OspfLite
