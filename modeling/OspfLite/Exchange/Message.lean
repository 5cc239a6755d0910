import OspfLite.Router.Description

/-!
# What a Database Description packet says

A packet reduced to the flags, the number and the headers its receiver decodes,
and the proof that a packet that was assembled from a message is decoded to
that message.
-/

namespace OspfLite

/-- A header as the other side decodes it: `LSAHeader::hton` loses the age. -/
def LSAHeader.ageless (h : LSAHeader) : LSAHeader := { h with lsAge := 0 }

theorem LSAHeader.ageless_eq_self {h : LSAHeader} :
    h.ageless = h ↔ h.lsAge = 0 := by
  obtain ⟨age, options, lsType, id, adv, seq, sum, length⟩ := h
  simp [ageless, eq_comm]

/-- The fields by which a packet is recognised as a duplicate. -/
structure DdFlags where
  init : Bool
  more : Bool
  master : Bool
  seqNum : UInt32
deriving DecidableEq, Repr

/-- A Database Description packet as its receiver reads it, in host order. -/
structure DdMessage extends DdFlags where
  headers : List LSAHeader
deriving DecidableEq, Repr

namespace DdMessage

/-- The message that the raw fields and headers of a packet stand for. -/
structure Decodes (m : DdMessage) (dd : OSPFDD) (raw : List LSAHeader) :
    Prop where
  init : dd.bI = m.init
  more : dd.bM = m.more
  master : dd.bMs = m.master
  seqNum : ntohl dd.ddSeqNum = m.seqNum
  headers : raw.map LSAHeader.ddDecode = m.headers

/-- The body of a packet with the message. -/
def Encodes (m : DdMessage) (data : List UInt8) : Prop :=
  ∃ dd raw, data = OSPFDD.store dd ++ raw.flatMap LSAHeader.store ∧
    raw.length ≤ ddCapacity ∧ m.Decodes dd raw

/-- A DD packet that is decoded to the message, whatever addresses it
travels under. -/
def SaidBy (m : DdMessage) (packet : List UInt8) : Prop :=
  ∃ dd raw, m.Decodes dd raw ∧ ∀ src dst,
    OSPFDD.load ((ipDatagram src dst packet).advance bodyOffset) = dd ∧
      ddHeaders (ipDatagram src dst packet) = some raw

end DdMessage

/-! ## Loading what was stored -/

namespace OSPFDD

@[simp] theorem length_store (dd : OSPFDD) : dd.store.length = size := rfl

/-- The flag byte of `store`, bit by bit. -/
theorem flag_bits (bMs bM bI : Bool) (other : UInt8) :
    let byte := (UInt8.ofNat (bMs.toNat + 2 * bM.toNat + 4 * bI.toNat +
      8 * (other.toNat % 32))).toNat
    decide (byte % 2 = 1) = bMs ∧ decide (byte / 2 % 2 = 1) = bM ∧
      decide (byte / 4 % 2 = 1) = bI := by
  have hbyte : (UInt8.ofNat (bMs.toNat + 2 * bM.toNat + 4 * bI.toNat +
      8 * (other.toNat % 32))).toNat =
        bMs.toNat + 2 * bM.toNat + 4 * bI.toNat + 8 * (other.toNat % 32) := by
    rw [UInt8.toNat_ofNat']
    apply Nat.mod_eq_of_lt
    have := bMs.toNat_le
    have := bM.toNat_le
    have := bI.toNat_le
    omega
  simp only [hbyte]
  cases bMs <;> cases bM <;> cases bI <;>
    simp only [Bool.toNat_true, Bool.toNat_false, decide_eq_true_eq,
      decide_eq_false_iff_not] <;>
    omega

end OSPFDD

namespace DdMessage

variable {m : DdMessage} {data : List UInt8}

/-- The fields at the head of the body are those of the message. -/
theorem Decodes.load_store {dd : OSPFDD} {raw : List LSAHeader}
    (h : m.Decodes dd raw) (rest : List UInt8) :
    m.Decodes (OSPFDD.load (Memory.ofList (dd.store ++ rest))) raw := by
  obtain ⟨hms, hm, hi⟩ := OSPFDD.flag_bits dd.bMs dd.bM dd.bI dd.bOther
  have hseq : (OSPFDD.load (Memory.ofList (dd.store ++ rest))).ddSeqNum =
      dd.ddSeqNum := Memory.load32_of_drop rfl
  exact
    { init := hi.trans h.init
      more := hm.trans h.more
      master := hms.trans h.master
      seqNum := by rw [hseq, h.seqNum]
      headers := h.headers }

end DdMessage

/-! ## Packets that say a message -/

/-- The header loop over the body of a packet meets its end, and loads the
headers that were stored. -/
theorem ddHeaders_ospfPacket (r : Router) (auType : UInt32) (dd : OSPFDD)
    (raw : List LSAHeader) (hraw : raw.length ≤ ddCapacity)
    (src dst : UInt32) :
    ddHeaders (ipDatagram src dst (r.ospfPacket auType typeDd
      (dd.store ++ raw.flatMap LSAHeader.store))) = some raw := by
  let packet := r.ospfPacket auType typeDd
    (dd.store ++ raw.flatMap LSAHeader.store)
  have hsum : (raw.flatMap LSAHeader.store).length = 20 * raw.length := by
    simp [List.length_flatMap, LSAHeader.size, Nat.mul_comm]
  have hcap : raw.length ≤ 50 := hraw
  have hbytes : (dd.store ++ raw.flatMap LSAHeader.store).length =
      8 + 20 * raw.length := by
    rw [List.length_append, OSPFDD.length_store, hsum, OSPFDD.size]
  have hlength : (ntohs ((ipDatagram src dst packet).load16 22)).toNat =
      32 + 20 * raw.length := by
    rw [Router.ipDatagram_ospfPacket_length _ _ _ _ _ _
      (by rw [hbytes, ospfHeaderSize]; omega), hbytes, ospfHeaderSize]
    omega
  have hsteps : pointerSteps (bodyOffset + OSPFDD.size)
      (ipHeaderSize + (32 + 20 * raw.length)) LSAHeader.size =
        some raw.length := by
    rw [pointerSteps, bodyOffset, ipHeaderSize, ospfHeaderSize, OSPFDD.size,
      LSAHeader.size, if_pos (by omega)]
    congr 1
    omega
  have hbody : ∀ i, (ipDatagram src dst packet).advance
      (bodyOffset + OSPFDD.size + LSAHeader.size * i) =
        (Memory.ofList (raw.flatMap LSAHeader.store)).advance
          (LSAHeader.size * i) := by
    intro i
    rw [← Memory.advance_advance, ← Memory.advance_advance,
      Router.ipDatagram_ospfPacket_advance,
      Memory.advance_ofList_append dd.store _ OSPFDD.size rfl]
  rw [ddHeaders, hlength, hsteps]
  simp only [Option.map_some, Option.some.injEq]
  change (List.range raw.length).map (fun i => LSAHeader.load
    ((ipDatagram src dst packet).advance _)) = raw
  simp only [hbody]
  simpa using Memory.map_load_flatMap_store LSAHeader.length_store
    LSAHeader.load_store raw []

namespace DdMessage

/-- A packet assembled from a body with the message says the message. -/
theorem Encodes.saidBy {m : DdMessage} {data : List UInt8}
    (h : m.Encodes data) (r : Router) (auType : UInt32) :
    m.SaidBy (r.ospfPacket auType typeDd data) := by
  obtain ⟨dd, raw, rfl, hraw, hdecodes⟩ := h
  refine ⟨_, raw, hdecodes.load_store (raw.flatMap LSAHeader.store),
    fun src dst => ⟨?_, ddHeaders_ospfPacket r auType dd raw hraw src dst⟩⟩
  rw [Router.ipDatagram_ospfPacket_advance]

/-- A body with the message has the length of its headers. -/
theorem Encodes.length {m : DdMessage} {data : List UInt8}
    (h : m.Encodes data) :
    data.length = OSPFDD.size + LSAHeader.size * m.headers.length ∧
      m.headers.length ≤ ddCapacity := by
  obtain ⟨dd, raw, rfl, hraw, hdecodes⟩ := h
  have hlen : m.headers.length = raw.length := by
    rw [← hdecodes.headers, List.length_map]
  rw [hlen]
  simp [List.length_flatMap, Nat.mul_comm, hraw]

end DdMessage

/-- A header sent through `hton` is decoded without its age. -/
theorem LSAHeader.ddDecode_hton (h : LSAHeader) :
    (LSAHeader.hton h).ddDecode = h.ageless := by
  have hage : ntohs (LSAHeader.hton h).lsAge = 0 := by
    rw [hton_lsAge]
    decide
  obtain ⟨age, options, lsType, id, adv, seq, sum, length⟩ := h
  rw [ddDecode, hage]
  simp only [hton, ntohl_htonl, ntohs_htons, ageless]

end OspfLite
