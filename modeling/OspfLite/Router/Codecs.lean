import OspfLite.Exchange.Message
import OspfLite.Router.EmittedLsu
import OspfLite.Router.Request

/-!
# Headers and LSAs written and read again

A header is written by `LSAHeader::hton` and read by `LSAHeader::ntoh` or by
the loop of the DD handler.  An LSA is written in the reply to a Link State
Request and read by `install_router_lsa` or `install_network_lsa`.
-/

namespace OspfLite

/-! ## Headers -/

namespace LSAHeader

/-- `ntoh` returns what `hton` was given, both decoders read the same header
from the bytes at `data`, and a header sent in a DD packet arrives as it
was. -/
structure CodecsAgree (h : LSAHeader) (data : Memory) : Prop where
  roundTrip : ntoh (hton h) = h
  decoders : ntoh (load data) = (load data).ddDecode
  unchanged : ∀ rest,
    (load (Memory.ofList ((hton h).store ++ rest))).ddDecode = h

/-- The two decoders differ in the age only. -/
theorem ntoh_eq_ageless (h : LSAHeader) : ntoh h = h.ddDecode.ageless := by
  have hage := h.ntoh_lsAge
  obtain ⟨age, options, lsType, id, adv, seq, sum, length⟩ := h
  rw [ageless, ← hage]
  rfl

theorem ddDecode_lsAge_eq_zero_iff (h : LSAHeader) :
    h.ddDecode.lsAge = 0 ↔ h.lsAge = 0 := by
  have hzero : htons 0 = 0 := rfl
  constructor
  · intro hage
    have hage' : htons h.lsAge = 0 := hage
    rw [← htons_htons h.lsAge, hage', hzero]
  · intro hage
    rw [ddDecode, hage]
    rfl

end LSAHeader

/-- The codecs agree on a header and on 20 bytes exactly if both have
age 0. -/
theorem codecsAgree_iff (h : LSAHeader) (data : Memory) :
    h.CodecsAgree data ↔ h.lsAge = 0 ∧ data.load16 0 = 0 := by
  have hround : LSAHeader.ntoh (LSAHeader.hton h) = h.ageless := by
    rw [LSAHeader.ntoh_hton, LSAHeader.ageless]
  have hdecoders : LSAHeader.ntoh (LSAHeader.load data) =
        (LSAHeader.load data).ddDecode ↔ data.load16 0 = 0 := by
    rw [LSAHeader.ntoh_eq_ageless, LSAHeader.ageless_eq_self]
    exact LSAHeader.ddDecode_lsAge_eq_zero_iff _
  constructor
  · intro hagree
    exact ⟨LSAHeader.ageless_eq_self.mp (hround ▸ hagree.roundTrip),
      hdecoders.mp hagree.decoders⟩
  · rintro ⟨hage, hwire⟩
    have hsame := LSAHeader.ageless_eq_self.mpr hage
    refine ⟨hround.trans hsame, hdecoders.mpr hwire, fun rest => ?_⟩
    rw [LSAHeader.load_store, LSAHeader.ddDecode_hton, hsame]

/-- The header of a Router LSA as it was originated, with age 1. -/
theorem age_one_lost :
    ¬LSAHeader.CodecsAgree
        ⟨1, 2, lsaRouter, 0x01010101, 0x01010101, 0x80000001, 0x1234, 36⟩
        (Memory.ofList [0, 1, 2, 1, 1, 1, 1, 1, 1, 1, 1, 1, 0x80, 0, 0, 1,
          0x12, 0x34, 0, 36]) := by
  intro hagree
  have hage := congrArg LSAHeader.lsAge hagree.roundTrip
  rw [LSAHeader.ntoh_lsAge] at hage
  exact absurd hage (by decide)

/-! ## Router LSAs -/

namespace LSAHeader

/-- `ntoh` undoes itself, but for the age. -/
theorem ntoh_ntoh (h : LSAHeader) (sum : UInt16) :
    ntoh { ntoh h with lsChecksum := sum } =
      { h with lsAge := 0, lsChecksum := ntohs sum } := by
  have hage := ntoh_lsAge { ntoh h with lsChecksum := sum }
  obtain ⟨age, options, lsType, id, adv, seq, oldSum, length⟩ := h
  rw [← hage]
  simp only [ntoh, ntohl, ntohs, htonl_htonl, htons_htons]

theorem ntoh_ntoh_eq_ageless (h : LSAHeader) : ntoh (ntoh h) = h.ageless := by
  have hage := h.ntoh.ntoh_lsAge
  obtain ⟨age, options, lsType, id, adv, seq, sum, length⟩ := h
  rw [ageless, ← hage]
  simp only [ntoh, ntohl, ntohs, htonl_htonl, htons_htons]

theorem ntoh_with_checksum (h : LSAHeader) (sum : UInt16) :
    ntoh { h with lsAge := 0, lsChecksum := sum } =
      { ntoh h with lsChecksum := ntohs sum } := by
  obtain ⟨age, options, lsType, id, adv, seq, oldSum, length⟩ := h
  simp only [ntoh, ntohl, toUInt16_htonl_toUInt32]

end LSAHeader

/-- A link is read as it was written. -/
theorem LSARouterLink.decode_encode (link : LSARouterLink)
    (rest : List UInt8) :
    decode (Memory.ofList (link.encode ++ rest)) = link := by
  have hid : (Memory.ofList (link.encode ++ rest)).load32 0 =
      htonl link.linkId := Memory.load32_of_drop rfl
  have hdata : (Memory.ofList (link.encode ++ rest)).load32 4 =
      htonl link.linkData := Memory.load32_of_drop rfl
  have hmetric : (Memory.ofList (link.encode ++ rest)).load16 10 =
      htons link.metric := Memory.load16_of_drop rfl
  rw [decode, hid, hdata, hmetric, ntohl_htonl, ntohl_htonl, ntohs_htons]
  rfl

namespace LSARouter

/-- The flags of the byte behind the header. -/
theorem flag_bits (bV bE bB : Bool) :
    let byte := (UInt8.ofNat (0 + 32 * bV.toNat + 64 * bE.toNat +
      128 * bB.toNat)).toNat
    decide (byte / 32 % 2 = 1) = bV ∧ decide (byte / 64 % 2 = 1) = bE ∧
      decide (byte / 128 % 2 = 1) = bB := by
  cases bV <;> cases bE <;> cases bB <;> decide

/-- The checksum the reply carries. -/
def replyChecksum (lsa : LSARouter) : UInt16 :=
  lsaChecksum
    (Memory.ofList ((LSAHeader.ntoh lsa.header).store ++ lsa.encodeBody))
    (htons (LSAHeader.ntoh lsa.header).length)

variable {lsa : LSARouter}

theorem replyBytes_eq (lsa : LSARouter) :
    lsa.replyBytes =
      { LSAHeader.ntoh lsa.header with
        lsChecksum := htons lsa.replyChecksum }.store ++ lsa.encodeBody :=
  rfl

/-- The entry that the receiver of the reply stores. -/
def received (lsa : LSARouter) : LSARouter :=
  { lsa with
    header :=
      { lsa.header with lsAge := 0, lsChecksum := lsa.replyChecksum } }

/-- The entry that `install_router_lsa` makes of a header and a body. -/
theorem decode_store (headerNet : LSAHeader)
    (hnum : lsa.linksNum.toNat = lsa.links.length) (hzero0 : lsa.zero0 = 0)
    (hzero1 : lsa.zero1 = 0) (rest : List UInt8) :
    decode (Memory.ofList (headerNet.store ++ (lsa.encodeBody ++ rest))) =
      { lsa with header := LSAHeader.ntoh headerNet } := by
  obtain ⟨hv, he, hb⟩ := flag_bits lsa.bV lsa.bE lsa.bB
  have hheader := LSAHeader.load_store headerNet (lsa.encodeBody ++ rest)
  have hflags : Memory.ofList (headerNet.store ++ (lsa.encodeBody ++ rest))
      20 = UInt8.ofNat (0 + 32 * lsa.bV.toNat + 64 * lsa.bE.toNat +
        128 * lsa.bB.toNat) := by
    rw [encodeBody, encodeFixed, hzero0]
    rfl
  have hcount : (Memory.ofList (headerNet.store ++
      (lsa.encodeBody ++ rest))).load16 22 = htons lsa.linksNum :=
    Memory.load16_of_drop rfl
  have hlinks : ∀ i, (Memory.ofList (headerNet.store ++
      (lsa.encodeBody ++ rest))).advance (linksOffset +
        LSARouterLink.size * i) =
      (Memory.ofList (lsa.links.flatMap LSARouterLink.encode ++
        rest)).advance (LSARouterLink.size * i) := by
    intro i
    rw [← Memory.advance_advance, encodeBody, List.append_assoc,
      ← List.append_assoc, Memory.advance_ofList_append _ _ linksOffset rfl]
  have hsize : ∀ link : LSARouterLink,
      link.encode.length = LSARouterLink.size := fun _ => rfl
  have hload := Memory.map_load_flatMap_store hsize
    LSARouterLink.decode_encode lsa.links rest
  rw [decode, hheader, hflags, hcount, hv, he, hb, ntohs_htons, hnum]
  simp only [hlinks]
  rw [hload, hzero0, hzero1]

/-- The entry that `install_router_lsa` makes of the bytes of a reply. -/
theorem decode_replyBytes (hnum : lsa.linksNum.toNat = lsa.links.length)
    (hzero0 : lsa.zero0 = 0) (hzero1 : lsa.zero1 = 0) (rest : List UInt8) :
    decode (Memory.ofList (lsa.replyBytes ++ rest)) = lsa.received := by
  rw [replyBytes_eq, List.append_assoc, decode_store _ hnum hzero0 hzero1,
    LSAHeader.ntoh_ntoh, ntohs_htons, received]

/-- The stored entry is written as the same bytes. -/
theorem replyBytes_received (lsa : LSARouter) :
    lsa.received.replyBytes = lsa.replyBytes := by
  have hnet : LSAHeader.ntoh lsa.received.header =
      { LSAHeader.ntoh lsa.header with
        lsChecksum := ntohs lsa.replyChecksum } :=
    LSAHeader.ntoh_with_checksum _ _
  have hbody : lsa.received.encodeBody = lsa.encodeBody := rfl
  have hsum : lsa.received.replyChecksum = lsa.replyChecksum := by
    rw [replyChecksum, hnet, hbody]
    exact Router.lsaChecksum_store (LSAHeader.ntoh lsa.header) _ _ _ _
  rw [replyBytes_eq, hsum, hnet, hbody]
  rfl

/-- What the entry stored for a received Router LSA has in common with the
sender's. -/
structure SurvivesTransfer (lsa stored : LSARouter) : Prop where
  lsType : stored.header.lsType = lsa.header.lsType
  options : stored.header.options = lsa.header.options
  linkStateId : stored.header.linkStateId = lsa.header.linkStateId
  advertisingRouter :
    stored.header.advertisingRouter = lsa.header.advertisingRouter
  lsSeqNum : stored.header.lsSeqNum = lsa.header.lsSeqNum
  length : stored.header.length = lsa.header.length
  flags : stored.bV = lsa.bV ∧ stored.bE = lsa.bE ∧ stored.bB = lsa.bB
  linksNum : stored.linksNum = lsa.linksNum
  links : stored.links = lsa.links
  bytes : stored.replyBytes.drop 2 = lsa.replyBytes.drop 2

end LSARouter

/-- A Router LSA that is consistent in itself is stored by the receiver of the
reply as it is in the sender's database, whatever follows it in the packet. -/
theorem routerLsa_roundTrip (lsa : LSARouter)
    (hnum : lsa.linksNum.toNat = lsa.links.length)
    (hlength : lsa.header.length.toNat = 24 + 12 * lsa.linksNum.toNat)
    (hzero : lsa.zero0 = 0 ∧ lsa.zero1 = 0) (lsdb : LSDB)
    (rest : List UInt8) :
    lsa.replyBytes.length = lsa.header.length.toNat ∧
      ∃ stored, (lsdb.installRouterLsa
          (Memory.ofList (lsa.replyBytes ++ rest))).findRouterLsa
            lsa.header.linkStateId lsa.header.advertisingRouter =
              some stored ∧
        lsa.SurvivesTransfer stored := by
  have hdecode := LSARouter.decode_replyBytes hnum hzero.1 hzero.2 rest
  have hsize : lsa.replyBytes.length = lsa.header.length.toNat := by
    rw [LSARouter.replyBytes_eq, List.length_append, LSAHeader.length_store,
      Router.length_routerBody, hlength, hnum, LSAHeader.size,
      LSARouterLink.size]
    omega
  refine ⟨hsize, lsa.received, ?_, ?_⟩
  · rw [LSDB.findRouterLsa, LSDB.installRouterLsa, hdecode]
    exact KeyedList.lookup_insert_self _ _
  · exact ⟨rfl, rfl, rfl, rfl, rfl, rfl, ⟨rfl, rfl, rfl⟩, rfl, rfl,
      congrArg (List.drop 2) lsa.replyBytes_received⟩

/-- A Router LSA with a transit link and a stub link. -/
def twoLinkLsa : LSARouter where
  header := ⟨7, 2, lsaRouter, 0x01010101, 0x01010101, 0x80000003, 0x1234, 48⟩
  zero0 := 0
  bV := false
  bE := true
  bB := true
  zero1 := 0
  linksNum := 2
  links := [⟨0x0a000001, 0x0a000001, 2, 0, 1⟩,
    ⟨0x0a000100, 0xffffff00, 3, 0, 10⟩]

theorem routerLsa_roundTrip_twoLinks :
    twoLinkLsa.replyBytes.length = twoLinkLsa.header.length.toNat ∧
      ∃ stored, (LSDB.empty.installRouterLsa
          (Memory.ofList (twoLinkLsa.replyBytes ++ []))).findRouterLsa
            twoLinkLsa.header.linkStateId
            twoLinkLsa.header.advertisingRouter = some stored ∧
        twoLinkLsa.SurvivesTransfer stored :=
  routerLsa_roundTrip twoLinkLsa rfl rfl ⟨rfl, rfl⟩ LSDB.empty []

/-! ## Network LSAs -/

namespace LSANetwork

variable {lsa : LSANetwork}

/-- The entry that the receiver of the reply stores: its mask is what was in
the memory before. -/
def received (lsa : LSANetwork) (uninitMask : UInt32) : LSANetwork :=
  { lsa with header := lsa.header.ageless, networkMask := uninitMask }

/-- The entry that `install_network_lsa` makes of a header and a body. -/
theorem decode_store {headerNet : LSAHeader}
    (hlength : (LSAHeader.ntoh headerNet).length.toNat =
      24 + 4 * lsa.attachedRouters.length)
    (uninitMask : UInt32) (rest : List UInt8) :
    decode uninitMask (Memory.ofList
        (headerNet.store ++ (lsa.encodeBody ++ rest))) =
      some { lsa with
        header := LSAHeader.ntoh headerNet
        networkMask := uninitMask } := by
  have hheader := LSAHeader.load_store headerNet (lsa.encodeBody ++ rest)
  have hsteps : pointerSteps routersOffset
      (LSAHeader.ntoh headerNet).length.toNat 4 =
        some lsa.attachedRouters.length := by
    rw [hlength, pointerSteps, routersOffset, LSAHeader.size,
      if_pos (by omega)]
    congr 1
    omega
  have hbytes : headerNet.store ++ (lsa.encodeBody ++ rest) =
      (headerNet.store ++ store32 (htonl lsa.networkMask)) ++
        (lsa.attachedRouters.flatMap
          (fun router => store32 (htonl router)) ++ rest) := by
    simp only [encodeBody, List.append_assoc]
  have hwords := Memory.advance_ofList_append
    (headerNet.store ++ store32 (htonl lsa.networkMask))
    (lsa.attachedRouters.flatMap
      (fun router => store32 (htonl router)) ++ rest) routersOffset rfl
  have hload := @Memory.map_load_flatMap_store UInt32
    (fun p => ntohl (p.load32 0)) (fun router => store32 (htonl router)) 4
    (fun _ => rfl)
    (fun router rest => by rw [Memory.load32_store32, ntohl_htonl])
    lsa.attachedRouters rest
  rw [← hwords, ← hbytes] at hload
  simp only [Memory.advance_advance, Memory.load32_advance, Nat.add_zero]
    at hload
  rw [decode, hheader]
  simp only [hsteps, hload, Option.map_some]

/-- The entry that `install_network_lsa` makes of the bytes of a reply. -/
theorem decode_replyBytes
    (hlength : lsa.header.length.toNat =
      24 + 4 * lsa.attachedRouters.length)
    (uninitMask : UInt32) (rest : List UInt8) :
    decode uninitMask (Memory.ofList (lsa.replyBytes ++ rest)) =
      some (lsa.received uninitMask) := by
  have hheader := LSAHeader.ntoh_ntoh_eq_ageless lsa.header
  have hnet : (LSAHeader.ntoh (LSAHeader.ntoh lsa.header)).length.toNat =
      24 + 4 * lsa.attachedRouters.length := by
    rw [hheader]
    exact hlength
  rw [replyBytes, List.append_assoc, decode_store hnet, hheader, received]

/-- What the entry stored for a received Network LSA has in common with the
sender's. -/
structure SurvivesTransfer (lsa stored : LSANetwork) : Prop where
  lsType : stored.header.lsType = lsa.header.lsType
  options : stored.header.options = lsa.header.options
  linkStateId : stored.header.linkStateId = lsa.header.linkStateId
  advertisingRouter :
    stored.header.advertisingRouter = lsa.header.advertisingRouter
  lsSeqNum : stored.header.lsSeqNum = lsa.header.lsSeqNum
  length : stored.header.length = lsa.header.length
  networkMask : stored.networkMask = lsa.networkMask
  attachedRouters : stored.attachedRouters = lsa.attachedRouters

/-- The receiver of the reply installs an entry that agrees with the
sender's. -/
def Transfers (lsa : LSANetwork) (lsdb : LSDB) (uninitMask : UInt32)
    (rest : List UInt8) : Prop :=
  ∃ after stored, lsdb.installNetworkLsa uninitMask
      (Memory.ofList (lsa.replyBytes ++ rest)) = some after ∧
    after.findNetworkLsa lsa.header.linkStateId
      lsa.header.advertisingRouter = some stored ∧
    lsa.SurvivesTransfer stored

/-- What the receiver of the reply installs. -/
theorem exists_installed
    (hlength : lsa.header.length.toNat = 24 + 4 * lsa.attachedRouters.length)
    (lsdb : LSDB) (uninitMask : UInt32) (rest : List UInt8) :
    ∃ after, lsdb.installNetworkLsa uninitMask
        (Memory.ofList (lsa.replyBytes ++ rest)) = some after ∧
      after.findNetworkLsa lsa.header.linkStateId
        lsa.header.advertisingRouter = some (lsa.received uninitMask) := by
  refine ⟨{ lsdb with
    networkLsas := KeyedList.insert LSANetwork.key lsdb.networkLsas
      (lsa.received uninitMask) }, ?_, ?_⟩
  · rw [LSDB.installNetworkLsa, decode_replyBytes hlength, Option.map_some]
  · exact KeyedList.lookup_insert_self lsdb.networkLsas
      (lsa.received uninitMask)

theorem Transfers.uninitMask_eq
    (hlength : lsa.header.length.toNat = 24 + 4 * lsa.attachedRouters.length)
    {lsdb : LSDB} {uninitMask : UInt32} {rest : List UInt8}
    (h : lsa.Transfers lsdb uninitMask rest) :
    uninitMask = lsa.networkMask := by
  obtain ⟨after, stored, hafter, hfind, hsurvives⟩ := h
  obtain ⟨after', hafter', hfind'⟩ :=
    exists_installed hlength lsdb uninitMask rest
  rw [hafter, Option.some.injEq] at hafter'
  rw [← hafter', hfind, Option.some.injEq] at hfind'
  rw [← hsurvives.networkMask, hfind']
  rfl

end LSANetwork

/-- A Network LSA is stored by the receiver of the reply as it is in the
sender's database exactly if the memory of the new entry holds the mask
already. -/
theorem networkLsa_roundTrip_iff (lsa : LSANetwork)
    (hlength : lsa.header.length.toNat =
      24 + 4 * lsa.attachedRouters.length)
    (lsdb : LSDB) (uninitMask : UInt32) (rest : List UInt8) :
    lsa.Transfers lsdb uninitMask rest ↔ uninitMask = lsa.networkMask := by
  constructor
  · exact fun h => h.uninitMask_eq hlength
  · intro hmask
    obtain ⟨after, hafter, hfind⟩ :=
      LSANetwork.exists_installed hlength lsdb uninitMask rest
    exact ⟨after, _, hafter, hfind,
      ⟨rfl, rfl, rfl, rfl, rfl, rfl, hmask, rfl⟩⟩

/-- A Network LSA with two attached routers. -/
def twoRouterLsa : LSANetwork where
  header := ⟨7, 2, lsaNetwork, 0x0a000001, 0x01010101, 0x80000002, 0x1234, 32⟩
  networkMask := 0xffffff00
  attachedRouters := [0x01010101, 0x02020202]

theorem networkLsa_roundTrip_iff_twoRouters :
    twoRouterLsa.Transfers LSDB.empty 0xffffff00 [] ↔
      0xffffff00 = twoRouterLsa.networkMask :=
  networkLsa_roundTrip_iff twoRouterLsa rfl LSDB.empty 0xffffff00 []

/-- Where the new entry lies in cleared memory, its mask is zero. -/
theorem network_mask_lost : ¬twoRouterLsa.Transfers LSDB.empty 0 [] := by
  intro h
  have hlength : twoRouterLsa.header.length.toNat =
      24 + 4 * twoRouterLsa.attachedRouters.length := rfl
  have hmask := h.uninitMask_eq hlength
  simp [twoRouterLsa] at hmask

end OspfLite
