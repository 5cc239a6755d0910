import OspfLite.Router.PacketChecksum
import OspfLite.Router.PacketWalks

/-!
# The Hello sender

The packet that a round of `send_ospf_hello_packet_thread` puts on the segment,
and what the Hello branch of another router reads in it.
-/

namespace OspfLite

/-- Byte order is a bijection. -/
theorem htonl_inj {x y : UInt32} : htonl x = htonl y ↔ x = y := by
  constructor
  · intro h
    rw [← htonl_htonl x, h, htonl_htonl]
  · exact congrArg htonl

/-! ## Frames on the segment -/

/-- A frame that brings an OSPF packet from one address to another: of the IP
header only the protocol and the addresses are given, and what lies behind the
packet in the receive buffer is left open. -/
structure Conveys (packet : Memory) (src dst : UInt32)
    (bytes : List UInt8) : Prop where
  protocol : packet 9 = 89
  src : packet.load32 12 = htonl src
  dst : packet.load32 16 = htonl dst
  bytes : ∀ i < bytes.length,
    packet (ipHeaderSize + i) = Memory.ofList bytes i

namespace Conveys

variable {packet : Memory} {src dst : UInt32} {bytes : List UInt8}

/-- A byte of the packet. -/
theorem byte (h : Conveys packet src dst bytes) {k : ℕ} (i : ℕ)
    (hk : k + i < bytes.length) :
    packet (ipHeaderSize + k + i) = Memory.ofList bytes (k + i) := by
  rw [Nat.add_assoc]
  exact h.bytes (k + i) hk

theorem load16 (h : Conveys packet src dst bytes) {k : ℕ}
    (hk : k + 2 ≤ bytes.length) :
    packet.load16 (ipHeaderSize + k) = (Memory.ofList bytes).load16 k := by
  simp only [Memory.load16, h.byte 1 (k := k) (by omega),
    h.bytes k (by omega)]

theorem load32 (h : Conveys packet src dst bytes) {k : ℕ}
    (hk : k + 4 ≤ bytes.length) :
    packet.load32 (ipHeaderSize + k) = (Memory.ofList bytes).load32 k := by
  simp only [Memory.load32, h.byte 1 (k := k) (by omega),
    h.byte 2 (k := k) (by omega), h.byte 3 (k := k) (by omega),
    h.bytes k (by omega)]

end Conveys

/-- The datagram that `sendto` makes of a packet. -/
theorem conveys_ipDatagram (src dst : UInt32) (bytes : List UInt8) :
    Conveys (ipDatagram src dst bytes) src dst bytes where
  protocol := rfl
  src := ipDatagram_src src dst _
  dst := Memory.load32_of_drop rfl
  bytes := by
    intro i _
    rw [← ipDatagram_advance src dst bytes, Memory.advance_apply]

namespace Router

/-! ## The OSPF header in a frame -/

section Header

variable (r : Router) (auType : UInt32) (type : UInt8) (data : List UInt8)

theorem ospfPacket_version :
    Memory.ofList (r.ospfPacket auType type data) 0 = 2 := rfl

theorem ospfPacket_typeByte :
    Memory.ofList (r.ospfPacket auType type data) 1 = type := rfl

theorem ospfPacket_routerId :
    (Memory.ofList (r.ospfPacket auType type data)).load32 4 =
      htonl r.routerId :=
  Memory.load32_of_drop rfl

theorem ospfPacket_areaId :
    (Memory.ofList (r.ospfPacket auType type data)).load32 8 =
      htonl r.areaId :=
  Memory.load32_of_drop rfl

theorem ospfPacket_auType :
    (Memory.ofList (r.ospfPacket auType type data)).load16 14 =
      auType.toUInt16 :=
  Memory.load16_of_drop rfl

/-! Who takes the packet in. -/

variable {r auType type data} {q : Router} {packet : Memory}
  {src dst : UInt32}

section Reading

variable (h : Conveys packet src dst (r.ospfPacket auType type data))

include h

/-- A word of the OSPF header. -/
theorem load32_of_conveys {k : ℕ} (hk : k + 4 ≤ ospfHeaderSize) :
    packet.load32 (ipHeaderSize + k) =
      (Memory.ofList (r.ospfPacket auType type data)).load32 k := by
  apply h.load32
  rw [length_ospfPacket]
  omega

theorem load16_of_conveys {k : ℕ} (hk : k + 2 ≤ ospfHeaderSize) :
    packet.load16 (ipHeaderSize + k) =
      (Memory.ofList (r.ospfPacket auType type data)).load16 k := by
  apply h.load16
  rw [length_ospfPacket]
  omega

theorem byte_of_conveys {k : ℕ} (hk : k < ospfHeaderSize) :
    packet (ipHeaderSize + k) =
      Memory.ofList (r.ospfPacket auType type data) k := by
  apply h.bytes
  rw [length_ospfPacket]
  omega

theorem type_of_conveys : packet 21 = type :=
  (byte_of_conveys h (k := 1) (by decide)).trans
    (ospfPacket_typeByte _ _ _ _)

/-- Every other router of the area with the same authentication type takes in
what is sent to all of them; what is sent to the DRs, only these. -/
theorem admits_iff_of_conveys
    (hdst : dst = allSpfRouters ∨ dst = allDRouters) :
    q.Admits packet ↔
      src ≠ q.interface.ipInterfaceAddress ∧ r.areaId = q.areaId ∧
        auType.toUInt16.toUInt32 = q.interface.auType ∧
        (dst = allDRouters →
          q.interface.state = .dr ∨ q.interface.state = .backup) := by
  have hversion : packet 20 = 2 :=
    (byte_of_conveys h (k := 0) (by decide)).trans
      (ospfPacket_version _ _ _ _)
  have harea : packet.load32 28 = htonl r.areaId :=
    (load32_of_conveys h (k := 8) (by decide)).trans
      (ospfPacket_areaId _ _ _ _)
  have hauth : packet.load16 34 = auType.toUInt16 :=
    (load16_of_conveys h (k := 14) (by decide)).trans
      (ospfPacket_auType _ _ _ _)
  have hgroup : htonl dst = htonl allSpfRouters ∨
      htonl dst = htonl allDRouters :=
    hdst.imp (congrArg htonl) (congrArg htonl)
  rw [Admits, h.src, h.dst, hversion, harea, hauth, ne_eq, htonl_inj,
    htonl_inj, htonl_inj, htonl_inj, htonl_inj]
  constructor
  · rintro ⟨-, -, haddr, -, hid, hroles, hau⟩
    exact ⟨haddr, hid, hau, hroles⟩
  · rintro ⟨haddr, hid, hau, hroles⟩
    exact ⟨Or.inr hdst, h.protocol, haddr, rfl, hid, hroles, hau⟩

end Reading

end Header

/-! ## The thread -/

/-- `myconfig.hello_interval`. -/
def configHelloInterval : UInt32 := 10

/-- `myconfig.dead_interval`. -/
def configDeadInterval : UInt32 := 40

/-- The bytes of the buffer in which the thread assembles its packet. -/
def helloBufferSize : ℕ := 1480

/-- The ids a Hello lists: those of the neighbors that are not DOWN. -/
def helloNeighbors (r : Router) : List UInt32 :=
  (r.interface.neighbors.filter fun n => decide (n.state ≠ .down)).map
    Neighbor.id

/-- The `OSPFHello` the thread fills in.  Options and priority are constants
there, the intervals come from `myconfig`. -/
def helloFixed (r : Router) : List UInt8 :=
  store32 (htonl r.interface.ipInterfaceMask) ++
    store16 (htons configHelloInterval.toUInt16) ++ [0x02, 1] ++
    store32 (htonl configDeadInterval) ++
    store32 (htonl r.interface.dr) ++ store32 (htonl r.interface.bdr)

/-- The Hello behind the OSPF header. -/
def helloBody (r : Router) : List UInt8 :=
  r.helloFixed ++ r.helloNeighbors.flatMap fun id => store32 (htonl id)

/-- The packet of one round of `send_ospf_hello_packet_thread`. -/
def helloPacket (r : Router) : List UInt8 :=
  r.ospfPacket r.interface.auType typeHello r.helloBody

/-- The packet fits the buffer it is assembled in. -/
def HelloFits (r : Router) : Prop :=
  r.helloPacket.length ≤ helloBufferSize

instance (r : Router) : Decidable r.HelloFits :=
  inferInstanceAs (Decidable (_ ≤ _))

variable {r q : Router} {packet : Memory}

theorem length_helloBody (r : Router) :
    r.helloBody.length = OSPFHello.size + 4 * r.helloNeighbors.length := by
  have hids : ∀ ids : List UInt32,
      (ids.flatMap fun id => store32 (htonl id)).length = 4 * ids.length := by
    intro ids
    simp [List.length_flatMap, Nat.mul_comm]
  rw [helloBody, List.length_append, hids]
  rfl

theorem length_helloPacket (r : Router) :
    r.helloPacket.length =
      ospfHeaderSize + OSPFHello.size + 4 * r.helloNeighbors.length := by
  rw [helloPacket, length_ospfPacket, length_helloBody, Nat.add_assoc]

/-- There is room for 359 neighbors. -/
theorem helloFits_iff : r.HelloFits ↔ r.helloNeighbors.length ≤ 359 := by
  rw [HelloFits, length_helloPacket, helloBufferSize, ospfHeaderSize,
    OSPFHello.size]
  omega

theorem mem_helloNeighbors {id : UInt32} :
    id ∈ r.helloNeighbors ↔
      ∃ n ∈ r.interface.neighbors, n.state ≠ .down ∧ n.id = id := by
  simp [helloNeighbors, and_assoc]

theorem length_helloNeighbors_le (r : Router) :
    r.helloNeighbors.length ≤ r.interface.neighbors.length := by
  rw [helloNeighbors, List.length_map]
  exact List.length_filter_le _ _

/-! ## What another router reads in it -/

/-- The ids lie behind the fixed part. -/
theorem advance_helloPacket (r : Router) :
    (Memory.ofList r.helloPacket).advance
      (ospfHeaderSize + OSPFHello.size) = Memory.ofList
        ((r.helloNeighbors.flatMap fun id => store32 (htonl id)) ++ []) := by
  rw [← Memory.advance_advance, helloPacket, ospfPacket_advance, helloBody,
    List.append_nil]
  exact Memory.advance_ofList_append _ _ _ rfl

/-- The ids are read back in order. -/
theorem ids_helloPacket (r : Router) :
    (List.range r.helloNeighbors.length).map (fun i =>
      ntohl ((Memory.ofList r.helloPacket).load32
        (ospfHeaderSize + OSPFHello.size + 4 * i))) = r.helloNeighbors := by
  have hids := @Memory.map_load_flatMap_store UInt32
    (fun p => ntohl (p.load32 0)) (fun id => store32 (htonl id)) 4
    (fun _ => rfl)
    (fun id rest => by rw [Memory.load32_store32, ntohl_htonl])
    r.helloNeighbors []
  rw [← advance_helloPacket] at hids
  simpa only [Memory.load32_advance, Nat.add_zero] using hids

section Reception

variable (h : Conveys packet r.interface.ipInterfaceAddress allSpfRouters
  r.helloPacket)

include h

/-- The word of the frame that lies at an offset of the packet. -/
theorem load32_of_conveys_hello {k : ℕ} (hk : k + 4 ≤ 44) :
    packet.load32 (ipHeaderSize + k) =
      (Memory.ofList r.helloPacket).load32 k := by
  apply h.load32
  rw [length_helloPacket, ospfHeaderSize, OSPFHello.size]
  omega

theorem load16_of_conveys_hello {k : ℕ} (hk : k + 2 ≤ 44) :
    packet.load16 (ipHeaderSize + k) =
      (Memory.ofList r.helloPacket).load16 k := by
  apply h.load16
  rw [length_helloPacket, ospfHeaderSize, OSPFHello.size]
  omega

theorem byte_of_conveys_hello {k : ℕ} (hk : k < 44) :
    packet (ipHeaderSize + k) = Memory.ofList r.helloPacket k := by
  apply h.bytes
  rw [length_helloPacket, ospfHeaderSize, OSPFHello.size]
  omega

theorem type_of_conveys_hello : packet 21 = typeHello :=
  type_of_conveys h

/-- Who takes the frame in: every other router of the area with the same
authentication type. -/
theorem admits_hello_iff :
    q.Admits packet ↔
      r.interface.ipInterfaceAddress ≠ q.interface.ipInterfaceAddress ∧
        r.areaId = q.areaId ∧
        r.interface.auType.toUInt16.toUInt32 = q.interface.auType := by
  have hne : allSpfRouters ≠ allDRouters := by decide
  rw [admits_iff_of_conveys h (Or.inl rfl)]
  simp only [hne, false_imp_iff, and_true]

/-- The Hello behind the header. -/
theorem load_of_conveys_hello :
    OSPFHello.load (packet.advance bodyOffset) =
      { helloInterval := htons configHelloInterval.toUInt16
        options := 0x02
        rtrPri := 1
        routerDeadInterval := htonl configDeadInterval
        designatedRouter := htonl r.interface.dr
        backupDesignatedRouter := htonl r.interface.bdr } := by
  have hinterval : (Memory.ofList r.helloPacket).load16 28 =
      htons configHelloInterval.toUInt16 := Memory.load16_of_drop rfl
  have hdead : (Memory.ofList r.helloPacket).load32 32 =
      htonl configDeadInterval := Memory.load32_of_drop rfl
  have hdr : (Memory.ofList r.helloPacket).load32 36 =
      htonl r.interface.dr := Memory.load32_of_drop rfl
  have hbdr : (Memory.ofList r.helloPacket).load32 40 =
      htonl r.interface.bdr := Memory.load32_of_drop rfl
  have hoptions : Memory.ofList r.helloPacket 30 = 0x02 := rfl
  have hpri : Memory.ofList r.helloPacket 31 = 1 := rfl
  rw [← load16_of_conveys_hello h (by omega)] at hinterval
  rw [← byte_of_conveys_hello h (by omega)] at hoptions hpri
  rw [← load32_of_conveys_hello h (by omega)] at hdead hdr hbdr
  simp only [OSPFHello.load, OSPFHello.mk.injEq]
  exact ⟨hinterval, hoptions, hpri, hdead, hdr, hbdr⟩

theorem helloFields_of_conveys_hello :
    helloFields packet =
      { id := r.routerId
        dr := r.interface.dr
        bdr := r.interface.bdr
        pri := 1
        options := 0x02 } := by
  have hid : packet.load32 24 = htonl r.routerId :=
    (load32_of_conveys_hello h (k := 4) (by omega)).trans
      (ospfPacket_routerId _ _ _ _)
  rw [helloFields, load_of_conveys_hello h, hid]
  simp only [ntohl_htonl]

/-- The search for an id finds what is listed. -/
theorem helloLists_of_conveys_hello (hfits : r.HelloFits)
    (routerId : UInt32) :
    helloLists packet routerId =
      .ok (decide (routerId ∈ r.helloNeighbors)) := by
  have hcount := helloFits_iff.mp hfits
  have hstart : bodyOffset + OSPFHello.size =
      ipHeaderSize + (ospfHeaderSize + OSPFHello.size) := rfl
  have hlength : (ntohs (packet.load16 22)).toNat =
      ospfHeaderSize + OSPFHello.size + 4 * r.helloNeighbors.length := by
    have hload : packet.load16 22 =
        htons (UInt16.ofNat (r.helloBody.length + ospfHeaderSize)) :=
      (load16_of_conveys_hello h (k := 2) (by omega)).trans
        (ospfPacket_length _ _ _ _)
    rw [hload, ntohs_htons, UInt16.toNat_ofNat', length_helloBody,
      OSPFHello.size, ospfHeaderSize, Nat.mod_eq_of_lt (by omega)]
    omega
  have hsteps : pointerSteps (bodyOffset + OSPFHello.size)
      (ipHeaderSize + (ntohs (packet.load16 22)).toNat) 4 =
        some r.helloNeighbors.length := by
    rw [PointerLoop.pointerSteps_eq_some_iff (by omega), hlength, hstart]
    omega
  have hword : ∀ i < r.helloNeighbors.length,
      packet.load32 (bodyOffset + OSPFHello.size + 4 * i) =
        (Memory.ofList r.helloPacket).load32
          (ospfHeaderSize + OSPFHello.size + 4 * i) := by
    intro i hi
    rw [hstart, Nat.add_assoc]
    apply h.load32
    rw [length_helloPacket]
    omega
  simp only [helloLists, hsteps]
  congr 1
  rw [Bool.eq_iff_iff, decide_eq_true_iff, List.any_eq_true]
  constructor
  · rintro ⟨i, hi, hfound⟩
    rw [List.mem_range] at hi
    rw [decide_eq_true_iff, hword i hi] at hfound
    rw [← r.ids_helloPacket, List.mem_map]
    exact ⟨i, List.mem_range.mpr hi, by rw [hfound, ntohl_htonl]⟩
  · intro hlisted
    rw [← r.ids_helloPacket, List.mem_map] at hlisted
    obtain ⟨i, hi, hid⟩ := hlisted
    refine ⟨i, hi, ?_⟩
    rw [decide_eq_true_iff, hword i (List.mem_range.mp hi), ← hid]
    exact (htonl_htonl _).symm

end Reception

/-! ## The round trip -/

/-- What another router learns from the Hello that a router sends in the state
`r`. -/
def helloSaid (r : Router) : HelloFields where
  id := r.routerId
  dr := r.interface.dr
  bdr := r.interface.bdr
  pri := 1
  options := 0x02

/-- The Hello that `r` sends is neither dropped nor discarded by `q`: the two
are different routers of one area with the same authentication type, and `q`
has the options and intervals that the sender writes. -/
structure Hears (q r : Router) : Prop where
  address : r.interface.ipInterfaceAddress ≠ q.interface.ipInterfaceAddress
  area : r.areaId = q.areaId
  auType : r.interface.auType.toUInt16.toUInt32 = q.interface.auType
  options : q.ospfOptions = 0x02
  helloInterval :
    q.interface.helloInterval.toUInt16 = configHelloInterval.toUInt16
  deadInterval : q.interface.routerDeadInterval = configDeadInterval

instance (q r : Router) : Decidable (q.Hears r) :=
  decidable_of_iff
    (r.interface.ipInterfaceAddress ≠ q.interface.ipInterfaceAddress ∧
      r.areaId = q.areaId ∧
      r.interface.auType.toUInt16.toUInt32 = q.interface.auType ∧
      q.ospfOptions = 0x02 ∧
      q.interface.helloInterval.toUInt16 = configHelloInterval.toUInt16 ∧
      q.interface.routerDeadInterval = configDeadInterval)
    ⟨fun ⟨ha, hr, hu, ho, hh, hd⟩ => ⟨ha, hr, hu, ho, hh, hd⟩,
      fun ⟨ha, hr, hu, ho, hh, hd⟩ => ⟨ha, hr, hu, ho, hh, hd⟩⟩

/-- The Hello branch, on what the sender meant. -/
def takeHello (now : ℤ) (q r : Router) : Outcome Router :=
  (q.interface.recvHello q.routerId q.uninit now
    r.interface.ipInterfaceAddress r.helloSaid
    (decide (q.routerId ∈ r.helloNeighbors))).map fun inter =>
      { q with interface := inter }

theorem helloMatches_of_conveys_hello
    (h : Conveys packet r.interface.ipInterfaceAddress allSpfRouters
      r.helloPacket) :
    q.HelloMatches (OSPFHello.load (packet.advance bodyOffset)) ↔
      q.ospfOptions = 0x02 ∧
        q.interface.helloInterval.toUInt16 = configHelloInterval.toUInt16 ∧
        q.interface.routerDeadInterval = configDeadInterval := by
  have hinj : ∀ x y : UInt16, htons x = htons y ↔ y = x := fun x y =>
    ⟨fun h => by rw [← htons_htons y, ← h, htons_htons], fun h => h ▸ rfl⟩
  rw [load_of_conveys_hello h, HelloMatches, hinj, htonl_inj,
    eq_comm (a := (0x02 : UInt8)), eq_comm (a := configDeadInterval)]

section Step

variable (h : Conveys packet r.interface.ipInterfaceAddress allSpfRouters
  r.helloPacket)

include h

/-- A router that hears the sender takes its Hello in. -/
theorem step_of_hears (now : ℤ) (hears : q.Hears r) (hfits : r.HelloFits) :
    q.step (.frame now packet) = q.takeHello now r := by
  have hsrc : ntohl (packet.load32 12) = r.interface.ipInterfaceAddress := by
    rw [h.src, ntohl_htonl]
  rw [Router.step, recvOspfPacket,
    if_pos ((admits_hello_iff h).mpr
      ⟨hears.address, hears.area, hears.auType⟩),
    if_pos (type_of_conveys_hello h), recvHello,
    if_pos ((helloMatches_of_conveys_hello h).mpr
      ⟨hears.options, hears.helloInterval, hears.deadInterval⟩),
    helloLists_of_conveys_hello h hfits, Outcome.bind_ok, hsrc,
    helloFields_of_conveys_hello h, takeHello, helloSaid]

/-- A router that does not is left as it is. -/
theorem step_of_not_hears (now : ℤ) (hears : ¬q.Hears r) :
    q.step (.frame now packet) = .ok q := by
  rw [Router.step, recvOspfPacket]
  by_cases hadmits : q.Admits packet
  · obtain ⟨haddress, harea, hauth⟩ := (admits_hello_iff h).mp hadmits
    rw [if_pos hadmits, if_pos (type_of_conveys_hello h), recvHello, if_neg]
    intro hmatch
    obtain ⟨hoptions, hhello, hdead⟩ :=
      (helloMatches_of_conveys_hello h).mp hmatch
    exact hears ⟨haddress, harea, hauth, hoptions, hhello, hdead⟩
  · rw [if_neg hadmits]

end Step

/-- Whatever the rest of the frame holds, handling the frame that brings a
Hello is handling what the sender has put into it, and a router that does not
hear the sender is left as it is. -/
theorem hello_roundTrip (now : ℤ) (q r : Router) (packet : Memory)
    (hfits : r.HelloFits)
    (h : Conveys packet r.interface.ipInterfaceAddress allSpfRouters
      r.helloPacket) :
    q.step (.frame now packet) =
      if q.Hears r then q.takeHello now r else .ok q := by
  by_cases hears : q.Hears r
  · rw [step_of_hears h now hears hfits, if_pos hears]
  · rw [step_of_not_hears h now hears, if_neg hears]

/-- The router 2 has heard of the router 1, and of one that is DOWN. -/
def listingRouter : Router :=
  { boot 2 0 ⟨0, 0, 0, false, false, false⟩ [] 0x0a000002 0xffffff00 with
    interface :=
      { Interface.new 0x0a000002 0xffffff00 with
        neighbors :=
          [{ Neighbor.new ⟨0, 0, 0, false, false, false⟩ 0x0a000003 with
              id := 3 },
            { Neighbor.new ⟨0, 0, 0, false, false, false⟩ 0x0a000001 with
              state := .init, id := 1 }] } }

/-- The Hello that lists the router 1 reaches it just after its start. -/
theorem hello_roundTrip_listing :
    listingRouter.helloNeighbors = [1] ∧
      (boot 1 0 ⟨0, 0, 0, false, false, false⟩ [] 0x0a000001
          0xffffff00).step
        (.frame 0 (ipDatagram 0x0a000002 allSpfRouters
          listingRouter.helloPacket)) =
      (boot 1 0 ⟨0, 0, 0, false, false, false⟩ [] 0x0a000001
        0xffffff00).takeHello 0 listingRouter := by
  have hears : (boot 1 0 ⟨0, 0, 0, false, false, false⟩ [] 0x0a000001
      0xffffff00).Hears listingRouter := by
    decide +kernel
  have hstep := hello_roundTrip 0
    (boot 1 0 ⟨0, 0, 0, false, false, false⟩ [] 0x0a000001 0xffffff00)
    listingRouter _ (by decide +kernel) (conveys_ipDatagram _ _ _)
  rw [if_pos hears] at hstep
  exact ⟨by decide +kernel, hstep⟩

end Router
end OspfLite
