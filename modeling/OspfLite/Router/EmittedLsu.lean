import OspfLite.Router.Update
import OspfLite.Lib.Lists

/-!
# The LSU of `update_lsas`

`update_lsas` adds up lengths and counts apart from the bytes it writes, and
takes the checksum before it raises the age.  The loop of the LSU handler
nevertheless finds in the packet exactly the LSAs that were put into it.
-/

namespace OspfLite
namespace Router

/-! ## Sealed LSAs -/

/-- The header in front of an LSA that `update_lsas` has written. -/
def sealedHeader (infTransDelay : UInt32) (header : LSAHeader)
    (body : List UInt8) : LSAHeader :=
  let headerNet := LSAHeader.hton header
  { headerNet with
    lsChecksum := htons (lsaChecksum
      (Memory.ofList (headerNet.store ++ body)) (ntohs headerNet.length))
    lsAge := htons
      ((ntohs headerNet.lsAge).toUInt32 + infTransDelay).toUInt16 }

variable {infTransDelay : UInt32} {header : LSAHeader} {body : List UInt8}

theorem sealLsa_eq :
    sealLsa infTransDelay header body =
      (sealedHeader infTransDelay header body).store ++ body := rfl

theorem length_sealLsa :
    (sealLsa infTransDelay header body).length =
      LSAHeader.size + body.length := by
  rw [sealLsa_eq, List.length_append, LSAHeader.length_store]

/-- The raw header a receiver loads. -/
theorem load_sealLsa (rest : List UInt8) :
    LSAHeader.load (Memory.ofList
      (sealLsa infTransDelay header body ++ rest)) =
        sealedHeader infTransDelay header body := by
  rw [sealLsa_eq, List.append_assoc, LSAHeader.load_store]

/-- The header a receiver decodes: every field but the age and the checksum is
the one that was encoded. -/
theorem lsaHeaderHost_sealLsa (rest : List UInt8) :
    lsaHeaderHost (Memory.ofList
      (sealLsa infTransDelay header body ++ rest)) =
        { header with
          lsAge := 0
          lsChecksum := lsaChecksum
            (Memory.ofList ((LSAHeader.hton header).store ++ body))
            header.length } := by
  rw [lsaHeaderHost, load_sealLsa]
  obtain ⟨age, options, lsType, id, adv, seq, sum, length⟩ := header
  rw [LSAHeader.ntoh, ← LSAHeader.ntoh_lsAge (sealedHeader infTransDelay
    ⟨age, options, lsType, id, adv, seq, sum, length⟩ body)]
  simp only [sealedHeader, LSAHeader.hton, LSAHeader.ntoh, ntohl_htonl,
    ntohs_htons]

/-- A header keeps its bytes elsewhere when the age and the checksum are
replaced. -/
theorem store_apply_eq (h : LSAHeader) (age sum : UInt16)
    (xs ys : List UInt8) {i : ℕ} (hlow : 2 ≤ i) (hhigh : i < LSAHeader.size)
    (hsum : i ≠ 16) (hsum' : i ≠ 17) :
    Memory.ofList ({ h with lsChecksum := sum, lsAge := age }.store ++ xs) i =
      Memory.ofList (h.store ++ ys) i := by
  obtain ⟨age, options, lsType, id, adv, seq, sum, length⟩ := h
  rw [LSAHeader.size] at hhigh
  interval_cases i <;> first | rfl | contradiction

/-- The age and the checksum of a header have no part in the checksum of the
LSA. -/
theorem lsaChecksum_store (h : LSAHeader) (age sum : UInt16)
    (body : List UInt8) (length : UInt16) :
    lsaChecksum (Memory.ofList
        ({ h with lsChecksum := sum, lsAge := age }.store ++ body)) length =
      lsaChecksum (Memory.ofList (h.store ++ body)) length := by
  apply lsaChecksum_congr
  intro i hlow _ hsum hsum'
  by_cases hi : i < LSAHeader.size
  · exact store_apply_eq h age sum body body hlow hi hsum hsum'
  · obtain ⟨j, rfl⟩ := Nat.exists_eq_add_of_le (not_lt.mp hi)
    exact (Memory.ofList_append_apply _ body j).trans
      (Memory.ofList_append_apply h.store body j).symm

/-- The receiver's checksum test passes: the age and the checksum field, which
differ from the bytes the checksum was taken over, do not matter. -/
theorem checksumOk_sealLsa
    (hlength : header.length.toNat = LSAHeader.size + body.length)
    (rest : List UInt8) :
    ChecksumOk (Memory.ofList
      (sealLsa infTransDelay header body ++ rest)) := by
  have hsame : lsaChecksum
      (Memory.ofList (sealLsa infTransDelay header body ++ rest))
        header.length =
      lsaChecksum (Memory.ofList ((LSAHeader.hton header).store ++ body))
        header.length := by
    apply lsaChecksum_congr
    intro i hlow hhigh hsum hsum'
    by_cases hi : i < LSAHeader.size
    · rw [sealLsa_eq, List.append_assoc, sealedHeader]
      exact store_apply_eq _ _ _ _ _ hlow hi hsum hsum'
    · obtain ⟨j, rfl⟩ := Nat.exists_eq_add_of_le (not_lt.mp hi)
      have hj : j < body.length := by omega
      have hsealed : (sealLsa infTransDelay header body ++ rest).drop
          LSAHeader.size = body ++ rest := by
        rw [sealLsa_eq, List.append_assoc]
        exact List.drop_left' rfl
      have hplain : ((LSAHeader.hton header).store ++ body).drop
          LSAHeader.size = body := List.drop_left' rfl
      rw [Memory.ofList_apply_eq_drop, Memory.ofList_apply_eq_drop, hsealed,
        hplain, Memory.ofList, Memory.ofList, List.getD_eq_getElem?_getD,
        List.getElem?_append_left hj, ← List.getD_eq_getElem?_getD]
  have hnet : ntohs (LSAHeader.hton header).length = header.length :=
    ntohs_htons header.length
  rw [ChecksumOk, load_sealLsa]
  change htons (lsaChecksum _ (ntohs (LSAHeader.hton header).length)) =
    htons (lsaChecksum _ (ntohs (LSAHeader.hton header).length))
  rw [hnet, hsame]

/-! ## The walk of the receiver -/

/-- The LSU loop over `num` LSAs from an offset on: the offsets it visits, and
the one behind the last LSA. -/
def lsaWalk (packet : Memory) : ℕ → ℕ → List ℕ × ℕ
  | 0, offset => ([], offset)
  | num + 1, offset =>
      let rest := lsaWalk packet num (offset +
        (ntohs (LSAHeader.load (packet.advance offset)).length).toNat)
      (offset :: rest.1, rest.2)

/-- The walk of the LSU loop over a received packet. -/
def lsuWalk (packet : Memory) : List ℕ × ℕ :=
  lsaWalk packet (lsuCount (packet.load32 bodyOffset)) (bodyOffset + 4)

/-- The walk visits the pointers of the loop. -/
theorem lsaPointers_eq (packet : Memory) (num offset : ℕ) :
    lsaPointers num (packet.advance offset) =
      (lsaWalk packet num offset).1.map packet.advance := by
  induction num generalizing offset with
  | zero => rfl
  | succ num ih =>
      rw [lsaPointers, Memory.advance_advance, ih, lsaWalk, List.map_cons]

theorem lsuPointers_eq (packet : Memory) :
    lsuPointers packet = (lsuWalk packet).1.map packet.advance :=
  lsaPointers_eq packet _ _

/-- The length field of an LSA counts the bytes of the LSA. -/
def LengthCounts (lsa : List UInt8) : Prop :=
  ∀ rest, (ntohs (LSAHeader.load (Memory.ofList (lsa ++ rest))).length).toNat =
    lsa.length

/-- Over LSAs that lie one after the other, the walk visits each of them in
order and ends behind the last.  What it is for bytes to lie at a pointer is
left open. -/
theorem lsaWalk_spec_of {P : Memory → List UInt8 → Prop}
    (hleft : ∀ p xs ys, P p (xs ++ ys) → P p xs)
    (hright : ∀ p xs ys, P p (xs ++ ys) → P (p.advance xs.length) ys)
    {packet : Memory} {lsas : List (List UInt8)}
    (hlengths : ∀ lsa ∈ lsas, ∀ p, P p lsa →
      (ntohs (LSAHeader.load p).length).toNat = lsa.length)
    {offset : ℕ} (hbytes : P (packet.advance offset) lsas.flatten) :
    (lsaWalk packet lsas.length offset).2 = offset + lsas.flatten.length ∧
      List.Forall₂ (fun visited lsa => P (packet.advance visited) lsa)
        (lsaWalk packet lsas.length offset).1 lsas := by
  induction lsas generalizing offset with
  | nil => exact ⟨rfl, .nil⟩
  | cons lsa lsas ih =>
      rw [List.flatten_cons] at hbytes
      have hfirst := hleft _ _ _ hbytes
      have hlength := hlengths lsa List.mem_cons_self _ hfirst
      have hnext := hright _ _ _ hbytes
      rw [Memory.advance_advance] at hnext
      obtain ⟨hstop, hvisits⟩ := ih
        (fun l hl => hlengths l (List.mem_cons_of_mem _ hl)) hnext
      rw [List.length_cons, lsaWalk, hlength]
      constructor
      · rw [hstop, List.flatten_cons, List.length_append, Nat.add_assoc]
      · exact .cons hfirst hvisits

/-- The walk over LSAs that were written one after the other. -/
theorem lsaWalk_spec {packet : Memory} {lsas : List (List UInt8)}
    (hlengths : ∀ lsa ∈ lsas, LengthCounts lsa) {offset : ℕ}
    (hbytes : packet.advance offset = Memory.ofList lsas.flatten) :
    (lsaWalk packet lsas.length offset).2 = offset + lsas.flatten.length ∧
      List.Forall₂
        (fun visited lsa =>
          ∃ rest, packet.advance visited = Memory.ofList (lsa ++ rest))
        (lsaWalk packet lsas.length offset).1 lsas := by
  apply lsaWalk_spec_of
    (P := fun p bytes => ∃ rest, p = Memory.ofList (bytes ++ rest))
  · rintro p xs ys ⟨rest, rfl⟩
    exact ⟨ys ++ rest, by rw [List.append_assoc]⟩
  · rintro p xs ys ⟨rest, rfl⟩
    refine ⟨rest, ?_⟩
    rw [List.append_assoc]
    exact Memory.advance_ofList_append _ _ _ rfl
  · rintro lsa hlsa p ⟨rest, rfl⟩
    exact hlengths lsa hlsa rest
  · exact ⟨[], by rw [List.append_nil, hbytes]⟩

/-! ## The LSAs of `update_lsas` -/

/-- `links_num` is the number of link records between the fixed part and the
end of a Router LSA. -/
def RouterLayout (data : Memory) : Prop :=
  (lsaHeaderHost data).lsType = lsaRouter ∧
    (lsaHeaderHost data).length.toNat = LSARouter.linksOffset +
      LSARouterLink.size * (ntohs (data.load16 22)).toNat

/-- The words after the mask, up to the end of a Network LSA, are the ids of
the FULL neighbors in list order. -/
def NetworkLayout (inter : Interface) (data : Memory) : Prop :=
  (lsaHeaderHost data).lsType = lsaNetwork ∧
    ∃ count, (lsaHeaderHost data).length.toNat =
        LSANetwork.routersOffset + 4 * count ∧
      (List.range count).map (fun i =>
          ntohl (data.load32 (LSANetwork.routersOffset + 4 * i))) =
        (inter.neighbors.filter fun n => decide (n.state = .full)).map
          Neighbor.id

/-- An LSA its receiver reads as it was meant, whatever follows it. -/
structure WellWritten (inter : Interface) (lsa : List UInt8) : Prop where
  length : LengthCounts lsa
  checksum : ∀ rest, ChecksumOk (Memory.ofList (lsa ++ rest))
  layout : ∀ rest, RouterLayout (Memory.ofList (lsa ++ rest)) ∨
    NetworkLayout inter (Memory.ofList (lsa ++ rest))

/-- The LSAs `update_lsas` puts into the LSU. -/
def emittedLsas (r : Router) : List (List UInt8) :=
  r.updateOwnNetworkLsa.2 ++ r.updateOwnNetworkLsa.1.updateOwnRouterLsa.2

theorem updateLsas_of_silent {r : Router} (h : r.emittedLsas = []) :
    r.updateLsas = r.updateOwnNetworkLsa.1.updateOwnRouterLsa.1 :=
  if_pos h

theorem updateLsas_of_emits {r : Router} (h : r.emittedLsas ≠ []) :
    r.updateLsas =
      r.updateOwnNetworkLsa.1.updateOwnRouterLsa.1.sendOspfPacket
        r.updateOwnNetworkLsa.1.updateOwnRouterLsa.1.segmentAddress typeLsu
        (lsuData r.emittedLsas) :=
  if_neg h

/-- The size of the buffer the LSU is assembled in. -/
def lsuBufferSize : ℕ := 1024

theorem lengthCounts_sealLsa
    (hlength : header.length.toNat = LSAHeader.size + body.length) :
    LengthCounts (sealLsa infTransDelay header body) := by
  intro rest
  have hnet : ntohs (LSAHeader.hton header).length = header.length :=
    ntohs_htons header.length
  rw [load_sealLsa, length_sealLsa, ← hlength]
  exact congrArg UInt16.toNat hnet

theorem length_routerBody (lsa : LSARouter) :
    lsa.encodeBody.length = 4 + LSARouterLink.size * lsa.links.length := by
  have hlinks : (lsa.links.flatMap LSARouterLink.encode).length =
      LSARouterLink.size * lsa.links.length := by
    simp [List.length_flatMap, LSARouterLink.encode, LSARouterLink.size,
      Nat.mul_comm]
  rw [LSARouter.encodeBody, List.length_append, hlinks]
  rfl

theorem length_networkBody (lsa : LSANetwork) :
    lsa.encodeBody.length = 4 + 4 * lsa.attachedRouters.length := by
  have hrouters : (lsa.attachedRouters.flatMap fun router =>
      store32 (htonl router)).length = 4 * lsa.attachedRouters.length := by
    simp [List.length_flatMap, Nat.mul_comm]
  rw [LSANetwork.encodeBody, List.length_append, hrouters, length_store32]

/-- A Router LSA on the wire is well written if its length fits its field. -/
theorem wellWritten_router (inter : Interface) {lsa : LSARouter}
    (htype : lsa.header.lsType = lsaRouter)
    (hlength : lsa.header.length.toNat =
      LSARouter.linksOffset + LSARouterLink.size * lsa.links.length)
    (hlinks : lsa.linksNum.toNat = lsa.links.length) :
    WellWritten inter
      (sealLsa infTransDelay lsa.header lsa.encodeBody) := by
  have hbody : lsa.header.length.toNat =
      LSAHeader.size + lsa.encodeBody.length := by
    rw [hlength, length_routerBody, LSARouter.linksOffset]
    omega
  refine ⟨lengthCounts_sealLsa hbody, checksumOk_sealLsa hbody, ?_⟩
  intro rest
  have hnum : (Memory.ofList (sealLsa infTransDelay lsa.header
      lsa.encodeBody ++ rest)).load16 22 = htons lsa.linksNum :=
    Memory.load16_of_drop rfl
  left
  rw [RouterLayout, lsaHeaderHost_sealLsa, hnum, ntohs_htons, hlinks]
  exact ⟨htype, hlength⟩

/-- A Network LSA on the wire is well written if its length fits its field and
its routers are the FULL neighbors. -/
theorem wellWritten_network {inter : Interface} {lsa : LSANetwork}
    (htype : lsa.header.lsType = lsaNetwork)
    (hlength : lsa.header.length.toNat =
      LSANetwork.routersOffset + 4 * lsa.attachedRouters.length)
    (hrouters : lsa.attachedRouters =
      (inter.neighbors.filter fun n => decide (n.state = .full)).map
        Neighbor.id) :
    WellWritten inter
      (sealLsa infTransDelay lsa.header lsa.encodeBody) := by
  have hbody : lsa.header.length.toNat =
      LSAHeader.size + lsa.encodeBody.length := by
    rw [hlength, length_networkBody, LSANetwork.routersOffset]
    omega
  refine ⟨lengthCounts_sealLsa hbody, checksumOk_sealLsa hbody, ?_⟩
  intro rest
  right
  rw [NetworkLayout, lsaHeaderHost_sealLsa]
  refine ⟨htype, lsa.attachedRouters.length, hlength, ?_⟩
  have hwords : (Memory.ofList (sealLsa infTransDelay lsa.header
      lsa.encodeBody ++ rest)).advance LSANetwork.routersOffset =
        Memory.ofList (lsa.attachedRouters.flatMap
          (fun router => store32 (htonl router)) ++ rest) := by
    rw [sealLsa_eq, LSANetwork.encodeBody]
    simp only [← List.append_assoc]
    rw [List.append_assoc]
    exact Memory.advance_ofList_append _ _ _ rfl
  have hload := @Memory.map_load_flatMap_store UInt32
    (fun p => ntohl (p.load32 0)) (fun router => store32 (htonl router)) 4
    (fun _ => rfl)
    (fun router rest => by rw [Memory.load32_store32, ntohl_htonl])
    lsa.attachedRouters rest
  rw [← hrouters, ← hload, ← hwords]
  simp

/-- Every LSA in the LSU is the sealed form of a generated one. -/
theorem mem_emittedLsas {r : Router} {lsa : List UInt8}
    (h : lsa ∈ r.emittedLsas) :
    (∃ delay, lsa = sealLsa delay r.generateNetworkLsa.header
        r.generateNetworkLsa.encodeBody) ∨
      ∃ delay, lsa = sealLsa delay
        r.updateOwnNetworkLsa.1.generateRouterLsa.header
        r.updateOwnNetworkLsa.1.generateRouterLsa.encodeBody := by
  have hflood : ∀ (q : Router) flag header body,
      lsa ∈ (q.floodOwnLsa flag header body).2 →
        lsa = sealLsa q.interface.infTransDelay header body := by
    intro q flag header body hmem
    cases flag with
    | true => exact List.mem_singleton.mp hmem
    | false => exact absurd hmem List.not_mem_nil
  rcases List.mem_append.mp h with hnetwork | hrouter
  · rw [updateOwnNetworkLsa] at hnetwork
    split_ifs at hnetwork
    · exact Or.inl ⟨_, hflood _ _ _ _ hnetwork⟩
    · exact absurd hnetwork List.not_mem_nil
  · exact Or.inr ⟨_, hflood _ _ _ _ hrouter⟩

theorem length_emittedLsas_le (r : Router) : r.emittedLsas.length ≤ 2 := by
  have hflood : ∀ (q : Router) flag header body,
      (q.floodOwnLsa flag header body).2.length ≤ 1 := by
    intro q flag header body
    cases flag <;> simp [floodOwnLsa]
  have hnetwork : r.updateOwnNetworkLsa.2.length ≤ 1 := by
    rw [updateOwnNetworkLsa]
    split_ifs
    · exact hflood _ _ _ _
    · exact Nat.zero_le 1
  have hrouter : r.updateOwnNetworkLsa.1.updateOwnRouterLsa.2.length ≤ 1 :=
    hflood _ _ _ _
  rw [emittedLsas, List.length_append]
  omega

/-- As long as the data fits the buffer, no length or count overflows. -/
theorem wellWritten_of_fits {r : Router}
    (hfits : (lsuData r.emittedLsas).length ≤ lsuBufferSize)
    {lsa : List UInt8} (h : lsa ∈ r.emittedLsas) :
    WellWritten r.interface lsa := by
  have hle : lsa.length < 1024 := by
    have hpart : lsa.length ≤ r.emittedLsas.flatten.length := by
      rw [List.length_flatten]
      exact List.le_sum_of_mem (List.mem_map_of_mem h)
    rw [lsuData, List.length_append, length_store32, lsuBufferSize] at hfits
    omega
  rcases mem_emittedLsas h with ⟨delay, rfl⟩ | ⟨delay, rfl⟩
  · apply wellWritten_network rfl _ rfl
    rw [length_sealLsa, length_networkBody, LSAHeader.size] at hle
    change (UInt16.ofNat (LSANetwork.routersOffset + 4 *
      r.generateNetworkLsa.attachedRouters.length)).toNat = _
    rw [UInt16.toNat_ofNat', LSANetwork.routersOffset, LSAHeader.size]
    omega
  · rw [length_sealLsa, length_routerBody, LSAHeader.size,
      LSARouterLink.size] at hle
    apply wellWritten_router _ rfl
    · change (UInt16.ofNat (LSARouter.linksOffset + LSARouterLink.size *
        r.updateOwnNetworkLsa.1.generateRouterLsa.links.length)).toNat = _
      rw [UInt16.toNat_ofNat', LSARouter.linksOffset, LSAHeader.size,
        LSARouterLink.size]
      omega
    · change (UInt16.ofNat
        r.updateOwnNetworkLsa.1.generateRouterLsa.links.length).toNat = _
      rw [UInt16.toNat_ofNat']
      omega

/-! ## The packet -/

/-- What the receiver of the LSU finds: as many rounds as `num` says, over the
LSAs that were put into the packet, up to the end of the payload; and each LSA
passes the checksum test and has the layout of its kind. -/
structure ReceiverAccepts (r : Router) (packet : Memory) : Prop where
  rounds : lsuCount (packet.load32 bodyOffset) =
    (ntohl (packet.load32 bodyOffset)).toNat
  visits : (lsuWalk packet).1.length =
    (ntohl (packet.load32 bodyOffset)).toNat
  lsas : List.Forall₂
    (fun offset lsa => (packet.advance offset).take lsa.length = lsa)
    (lsuWalk packet).1 r.emittedLsas
  stop : (lsuWalk packet).2 =
    ipHeaderSize + (ntohs (packet.load16 22)).toNat
  checksum : ∀ offset ∈ (lsuWalk packet).1,
    ChecksumOk (packet.advance offset)
  layout : ∀ offset ∈ (lsuWalk packet).1,
    RouterLayout (packet.advance offset) ∨
      NetworkLayout r.interface (packet.advance offset)

/-- The count survives the conversions. -/
theorem lsuCount_htonl {count : ℕ} (h : count < 2147483648) :
    lsuCount (htonl (UInt32.ofNat count)) = count ∧
      (ntohl (htonl (UInt32.ofNat count))).toNat = count := by
  have hnat : (UInt32.ofNat count).toNat = count := by
    rw [UInt32.toNat_ofNat']
    omega
  rw [lsuCount, ntohl_htonl, toInt_toInt32 (by omega), hnat]
  exact ⟨Int.toNat_natCast count, rfl⟩

/-- The count in an LSU. -/
theorem ipDatagram_lsu_num (r : Router) (auType src dst num : UInt32)
    (lsas : List UInt8) :
    (ipDatagram src dst (r.ospfPacket auType typeLsu
      (store32 num ++ lsas))).load32 bodyOffset = num := by
  have hbody := ipDatagram_ospfPacket_advance r auType typeLsu
    (store32 num ++ lsas) src dst
  have hload := congrArg (fun p => Memory.load32 p 0) hbody
  simpa only [Memory.load32_advance, Nat.add_zero, Memory.load32_store32]
    using hload

/-- The LSAs of an LSU begin behind `num`. -/
theorem ipDatagram_lsu_advance (r : Router) (auType src dst num : UInt32)
    (lsas : List UInt8) :
    (ipDatagram src dst (r.ospfPacket auType typeLsu
      (store32 num ++ lsas))).advance (bodyOffset + 4) =
        Memory.ofList lsas := by
  rw [← Memory.advance_advance, ipDatagram_ospfPacket_advance]
  exact Memory.advance_ofList_append _ _ _ rfl

/-- The walk of the receiver over an LSU. -/
theorem lsuWalk_ospfPacket (r : Router) (auType src dst num : UInt32)
    (lsas : List UInt8) :
    lsuWalk (ipDatagram src dst
        (r.ospfPacket auType typeLsu (store32 num ++ lsas))) =
      lsaWalk (ipDatagram src dst
        (r.ospfPacket auType typeLsu (store32 num ++ lsas))) (lsuCount num)
          (bodyOffset + 4) := by
  rw [lsuWalk, ipDatagram_lsu_num]

/-- The LSU with the LSAs of `update_lsas`, whatever addresses it travels
under. -/
theorem receiverAccepts_of_fits {r : Router}
    (hfits : (lsuData r.emittedLsas).length ≤ lsuBufferSize) (q : Router)
    (auType src dst : UInt32) :
    r.ReceiverAccepts (ipDatagram src dst
      (q.ospfPacket auType typeLsu (lsuData r.emittedLsas))) := by
  let packet := ipDatagram src dst
    (q.ospfPacket auType typeLsu (lsuData r.emittedLsas))
  have hnum : packet.load32 bodyOffset =
      htonl (UInt32.ofNat r.emittedLsas.length) :=
    ipDatagram_lsu_num q auType src dst _ _
  have htwo := length_emittedLsas_le r
  obtain ⟨hrounds, hcount⟩ :=
    @lsuCount_htonl r.emittedLsas.length (by omega)
  have hlsas : packet.advance (bodyOffset + 4) =
      Memory.ofList r.emittedLsas.flatten :=
    ipDatagram_lsu_advance q auType src dst _ _
  obtain ⟨hstop, hvisits⟩ := lsaWalk_spec
    (fun lsa hlsa => (wellWritten_of_fits hfits hlsa).length) hlsas
  have hwalk : lsuWalk packet =
      lsaWalk packet r.emittedLsas.length (bodyOffset + 4) := by
    rw [← hrounds]
    exact lsuWalk_ospfPacket q auType src dst _ _
  have hwritten : ∀ offset ∈ (lsuWalk packet).1, ∃ lsa rest,
      WellWritten r.interface lsa ∧
        packet.advance offset = Memory.ofList (lsa ++ rest) := by
    intro offset hoffset
    rw [hwalk] at hoffset
    obtain ⟨lsa, hlsa, rest, hrest⟩ := exists_mem_of_forall₂ hvisits hoffset
    exact ⟨lsa, rest, wellWritten_of_fits hfits hlsa, hrest⟩
  have hlength : (ntohs (packet.load16 22)).toNat =
      (lsuData r.emittedLsas).length + ospfHeaderSize := by
    apply ipDatagram_ospfPacket_length
    rw [lsuBufferSize] at hfits
    rw [ospfHeaderSize]
    omega
  refine
    { rounds := by rw [hnum, hrounds, hcount]
      visits := ?_
      lsas := ?_
      stop := ?_
      checksum := ?_
      layout := ?_ }
  · rw [hnum, hcount, hwalk]
    exact hvisits.length_eq
  · rw [hwalk]
    refine hvisits.imp ?_
    rintro offset lsa ⟨rest, hrest⟩
    rw [hrest, Memory.take_ofList_append]
  · rw [hwalk, hstop, hlength, lsuData, List.length_append, length_store32,
      bodyOffset]
    omega
  · intro offset hoffset
    obtain ⟨lsa, rest, hlsa, hrest⟩ := hwritten offset hoffset
    rw [hrest]
    exact hlsa.checksum rest
  · intro offset hoffset
    obtain ⟨lsa, rest, hlsa, hrest⟩ := hwritten offset hoffset
    rw [hrest]
    exact hlsa.layout rest

/-- For every area and database for which the LSAs fit the buffer,
`update_lsas` either sends nothing or one LSU that its receiver accepts,
whatever addresses it travels under. -/
theorem updateLsas_accepted (r : Router)
    (hfits : (lsuData r.emittedLsas).length ≤ lsuBufferSize) :
    (r.emittedLsas = [] ∧ r.updateLsas.log = r.log) ∨
      ∃ dst packet, r.updateLsas.log = r.log ++ [.sent dst packet] ∧
        ∀ src dst', r.ReceiverAccepts (ipDatagram src dst' packet) := by
  obtain ⟨lsdb, count, headers, horig⟩ := r.updateOwnNetworkLsa_originates.trans
    (updateOwnRouterLsa_originates r.updateOwnNetworkLsa.1)
  have hlog : r.updateOwnNetworkLsa.1.updateOwnRouterLsa.1.log = r.log := by
    rw [horig]
  by_cases hnone : r.emittedLsas = []
  · left
    exact ⟨hnone, by rw [updateLsas_of_silent hnone, hlog]⟩
  · right
    let q := r.updateOwnNetworkLsa.1.updateOwnRouterLsa.1
    refine ⟨q.segmentAddress, q.ospfPacket q.interface.auType typeLsu
      (lsuData r.emittedLsas), ?_, ?_⟩
    · rw [updateLsas_of_emits hnone, ← hlog]
      rfl
    · intro src dst'
      exact receiverAccepts_of_fits hfits q q.interface.auType src dst'

/-- A DR with a FULL neighbor originates both kinds. -/
def originatingRouter : Router :=
  new 0x01010101 initialSequenceNumber 0 ⟨0, 0, 0, false, false, false⟩ []
    { Interface.new 0x0a000001 0xffffff00 with
      state := .dr
      dr := 0x0a000001
      neighbors :=
        [{ Neighbor.new ⟨0, 0, 0, false, false, false⟩ 0x0a000002 with
            state := .full, id := 0x02020202 }] } []

/-- The DR above sends one LSU, with both kinds. -/
theorem updateLsas_accepted_bothKinds :
    ∃ dst packet, originatingRouter.updateLsas.log =
        originatingRouter.log ++ [.sent dst packet] ∧
      ∀ src dst', originatingRouter.ReceiverAccepts
        (ipDatagram src dst' packet) :=
  (updateLsas_accepted originatingRouter (by decide +kernel)).resolve_left
    fun hsilent => absurd hsilent.1 (by decide +kernel)

end Router
end OspfLite
