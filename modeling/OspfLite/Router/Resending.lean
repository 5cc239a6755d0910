import OspfLite.Router.RetransSender

/-!
# What retransmissions are read as

The buffer grows over a round and is sent after every LSA, so the first LSA is
in every LSU of the round.  An LSA alone is read as it is meant if its header
is the same in both byte orders.
-/

namespace OspfLite

/-! ## Counting -/

/-- The LSUs of a round name 1, 2, 3 and so on LSAs. -/
theorem sum_lsuCount_fills (lsas : List (List UInt8)) {count : ℕ}
    {buffer : RetransBuffer}
    (hnum : buffer.num = htonl (UInt32.ofNat count))
    (hbound : count + lsas.length < 2147483648) :
    2 * ((buffer.fills lsas).map fun b => Router.lsuCount b.num).sum =
      lsas.length * (2 * count + lsas.length + 1) := by
  induction lsas generalizing count buffer with
  | nil => simp [RetransBuffer.fills]
  | cons lsa lsas ih =>
      rw [List.length_cons] at hbound ⊢
      have hnext : (buffer.append lsa).num =
          htonl (UInt32.ofNat (count + 1)) := by
        rw [RetransBuffer.append, hnum, ntohl_htonl, UInt32.ofNat_add]
        rfl
      have hread : Router.lsuCount (buffer.append lsa).num = count + 1 := by
        rw [hnext]
        exact (Router.lsuCount_htonl (by omega)).1
      have hrest := ih hnext (by omega)
      rw [RetransBuffer.fills, List.map_cons, List.sum_cons, hread,
        Nat.mul_add, hrest]
      ring

variable {lsdb : LSDB}

theorem length_retransLsa (infTransDelay : UInt32) (header : LSAHeader)
    (body : List UInt8) :
    (retransLsa infTransDelay header body).length =
      LSAHeader.size + body.length := by
  rw [retransLsa, List.length_append, LSAHeader.length_store]

/-- What fits is on the list. -/
theorem LSDB.fitting_subset (lsdb : LSDB) (infTransDelay : UInt32)
    (offset : ℕ) (list : List LSAHeader) :
    lsdb.fitting infTransDelay offset list ⊆ list := by
  induction list generalizing offset with
  | nil => exact List.Subset.refl _
  | cons listed rest ih =>
      rw [fitting]
      split_ifs
      · exact List.nil_subset _
      · exact List.cons_subset_cons listed (ih _)

/-- As every LSA takes its room in the buffer, few of them fit. -/
theorem length_fitting_le {list : List LSAHeader}
    (hlist : ∀ listed ∈ list, lsdb.listedLsa listed ≠ none)
    (infTransDelay : UInt32) (offset : ℕ) :
    20 * (lsdb.fitting infTransDelay offset list).length ≤ 1044 - offset := by
  induction list generalizing offset with
  | nil => exact Nat.zero_le _
  | cons listed rest ih =>
      rw [LSDB.fitting]
      split_ifs with hstop
      · exact Nat.zero_le _
      · rw [not_or, Router.lsuBufferSize] at hstop
        obtain ⟨lsa, hlsa⟩ :=
          Option.ne_none_iff_exists'.mp (hlist listed List.mem_cons_self)
        have hbytes :
            20 ≤ (lsdb.retransBytes infTransDelay listed).length := by
          rw [LSDB.retransBytes, hlsa, Option.elim_some, length_retransLsa,
            LSAHeader.size]
          omega
        have hrest := ih (fun l hl => hlist l (List.mem_cons_of_mem _ hl))
          (offset + (lsdb.retransBytes infTransDelay listed).length)
        rw [List.length_cons]
        omega

/-! ## One LSA -/

/-- The words behind the mask fill a Network LSA. -/
def NetworkWords (data : Memory) : Prop :=
  (lsaHeaderHost data).lsType = lsaNetwork ∧
    ∃ count, (lsaHeaderHost data).length.toNat =
      LSANetwork.routersOffset + 4 * count

namespace LSDB

/-- What lies at `data` is read as the instance of the listed LSA in the
database, well formed and with its checksum. -/
structure Resends (lsdb : LSDB) (data : Memory) (listed : LSAHeader) :
    Prop where
  identity : (lsaHeaderHost data).SameLsa listed
  seqNum : ∃ stored ∈ lsdb.findInstance listed,
    (lsaHeaderHost data).lsSeqNum = stored.lsSeqNum
  checksum : ChecksumOk data
  layout : Router.RouterLayout data ∨ NetworkWords data

/-- What the thread finds is what is stored under the key of the header. -/
theorem listedLsa_spec {listed header : LSAHeader} {body : List UInt8}
    (h : lsdb.listedLsa listed = some (header, body)) :
    lsdb.findInstance listed = some header ∧ header.key = listed.key ∧
      (listed.lsType = lsaRouter ∨ listed.lsType = lsaNetwork ∧
        ∃ count, body.length = 4 + 4 * count) := by
  have hne : lsaNetwork ≠ lsaRouter := by decide
  rw [listedLsa] at h
  rw [findInstance, findHeader]
  by_cases hrouter : listed.lsType = lsaRouter
  · rw [if_pos hrouter] at h
    obtain ⟨lsa, hfind, hlsa⟩ := Option.map_eq_some_iff.mp h
    obtain ⟨rfl, rfl⟩ := Prod.mk.inj hlsa
    have hkey : lsa.key = listed.key :=
      KeyedList.key_of_lookup hfind
    rw [if_pos hrouter, hfind]
    exact ⟨rfl, hkey, Or.inl hrouter⟩
  · rw [if_neg hrouter] at h
    by_cases hnetwork : listed.lsType = lsaNetwork
    · rw [if_pos hnetwork] at h
      obtain ⟨lsa, hfind, hlsa⟩ := Option.map_eq_some_iff.mp h
      obtain ⟨rfl, rfl⟩ := Prod.mk.inj hlsa
      have hkey : lsa.key = listed.key :=
        KeyedList.key_of_lookup hfind
      rw [if_neg hrouter, if_pos hnetwork, hfind]
      exact ⟨rfl, hkey, Or.inr ⟨hnetwork, _, Router.length_networkBody lsa⟩⟩
    · rw [if_neg hnetwork] at h
      cases h

/-- The thread finds what is in the database. -/
theorem listedLsa_ne_none {listed : LSAHeader}
    (h : lsdb.findInstance listed ≠ none) : lsdb.listedLsa listed ≠ none := by
  rw [findInstance, findHeader] at h
  rw [listedLsa]
  split_ifs at h ⊢ with hrouter hnetwork
  · rw [Ne, Option.map_eq_none_iff] at h ⊢
    exact h
  · rw [Ne, Option.map_eq_none_iff] at h ⊢
    exact h
  · exact absurd rfl h

end LSDB

/-- An LSA of the given type that is the same in both byte orders: its id, its
advertising router and its sequence number are, its length read backwards is
its size, and its checksum read backwards is the one of its bytes in host
order. -/
structure SameInBothOrders (type : UInt8) (header : LSAHeader)
    (body : List UInt8) : Prop where
  lsType : header.lsType = type
  linkStateId : ntohl header.linkStateId = header.linkStateId
  advertisingRouter :
    ntohl header.advertisingRouter = header.advertisingRouter
  lsSeqNum : ntohl header.lsSeqNum = header.lsSeqNum
  length : (ntohs header.length).toNat = LSAHeader.size + body.length
  checksum : header.lsChecksum = htons (lsaChecksum
    (Memory.ofList (header.store ++ body)) (ntohs header.length))
  links : type = lsaRouter → body.length =
    4 + LSARouterLink.size * (ntohs ((Memory.ofList body).load16 2)).toNat

/-- The raw header a receiver loads. -/
theorem load_retransLsa (infTransDelay : UInt32) (header : LSAHeader)
    (body : List UInt8) :
    ∃ age, LSAHeader.load (Memory.ofList
      (retransLsa infTransDelay header body)) =
        { header with lsAge := age } :=
  ⟨_, by rw [retransLsa, LSAHeader.load_store]⟩

/-- The fields a receiver decodes from a raw header, but for the age. -/
theorem lsaHeaderHost_fields {data : Memory} {raw : LSAHeader} {age : UInt16}
    (hload : LSAHeader.load data = { raw with lsAge := age }) :
    (lsaHeaderHost data).lsType = raw.lsType ∧
      (lsaHeaderHost data).linkStateId = ntohl raw.linkStateId ∧
      (lsaHeaderHost data).advertisingRouter = ntohl raw.advertisingRouter ∧
      (lsaHeaderHost data).lsSeqNum = ntohl raw.lsSeqNum ∧
      (lsaHeaderHost data).length = ntohs raw.length := by
  obtain ⟨age', options, lsType, id, adv, seq, sum, length⟩ := raw
  rw [lsaHeaderHost, hload]
  simp only [LSAHeader.ntoh, and_self]

/-- The checksum of what is written is that of the LSA with its own age. -/
theorem lsaChecksum_retransLsa (infTransDelay : UInt32) (header : LSAHeader)
    (body : List UInt8) (length : UInt16) :
    lsaChecksum (Memory.ofList (retransLsa infTransDelay header body))
        length =
      lsaChecksum (Memory.ofList (header.store ++ body)) length :=
  Router.lsaChecksum_store header _ header.lsChecksum body length

/-- The word in which a Router LSA counts its links. -/
theorem load16_retransLsa (infTransDelay : UInt32) (header : LSAHeader)
    (body : List UInt8) :
    (Memory.ofList (retransLsa infTransDelay header body)).load16 22 =
      (Memory.ofList body).load16 2 := by
  have hbody : (Memory.ofList (retransLsa infTransDelay header
      body)).advance LSAHeader.size = Memory.ofList body :=
    Memory.advance_ofList_append _ _ _ rfl
  rw [← hbody, Memory.load16_advance, LSAHeader.size]

/-- Of the layout of what is read, only the number of links is in question. -/
theorem layout_iff_links {data : Memory} {body : List UInt8} {type : UInt8}
    (htype : (lsaHeaderHost data).lsType = type)
    (hlength : (lsaHeaderHost data).length.toNat =
      LSAHeader.size + body.length)
    (hwords : data.load16 22 = (Memory.ofList body).load16 2)
    (hkind : type = lsaRouter ∨ type = lsaNetwork ∧
      ∃ count, body.length = 4 + 4 * count) :
    Router.RouterLayout data ∨ NetworkWords data ↔
      (type = lsaRouter → body.length = 4 + LSARouterLink.size *
        (ntohs ((Memory.ofList body).load16 2)).toNat) := by
  have hne : lsaRouter ≠ lsaNetwork := by decide
  rw [Router.RouterLayout, NetworkWords, htype, hlength, hwords,
    LSARouter.linksOffset, LSANetwork.routersOffset]
  generalize ntohs ((Memory.ofList body).load16 2) = links
  constructor
  · rintro (⟨-, hlinks⟩ | ⟨hnetwork, -⟩) hrouter
    · omega
    · exact absurd (hrouter.symm.trans hnetwork) hne
  · intro hlinks
    rcases hkind with hrouter | ⟨hnetwork, count, hcount⟩
    · have hbody := hlinks hrouter
      exact Or.inl ⟨hrouter, by omega⟩
    · exact Or.inr ⟨hnetwork, count, by omega⟩

/-- An LSA that is sent alone is read as the listed one, up to its end, if and
only if it is the same in both byte orders. -/
theorem resends_retransLsa_iff {listed header : LSAHeader}
    {body : List UInt8}
    (hlisted : lsdb.listedLsa listed = some (header, body))
    (infTransDelay : UInt32) :
    ((ntohs header.length).toNat = LSAHeader.size + body.length ∧
        lsdb.Resends (Memory.ofList
          (retransLsa infTransDelay header body)) listed) ↔
      SameInBothOrders listed.lsType header body := by
  obtain ⟨hfind, hkey, hkind⟩ := LSDB.listedLsa_spec hlisted
  obtain ⟨hid, hadv⟩ := Prod.mk.inj hkey
  obtain ⟨age, hload⟩ := load_retransLsa infTransDelay header body
  have hsum := lsaChecksum_retransLsa infTransDelay header body
    (ntohs header.length)
  have hwords := load16_retransLsa infTransDelay header body
  generalize retransLsa infTransDelay header body = lsa at *
  obtain ⟨htype, hhostId, hhostAdv, hhostSeq, hhostLength⟩ :=
    lsaHeaderHost_fields hload
  have hchecks : ChecksumOk (Memory.ofList lsa) ↔ header.lsChecksum =
      htons (lsaChecksum (Memory.ofList (header.store ++ body))
        (ntohs header.length)) := by
    rw [← hsum, ChecksumOk, hload]
    rfl
  constructor
  · rintro ⟨hlength, ⟨htype', hid', hadv'⟩, ⟨stored, hstored, hseq⟩, hcheck,
      hlayout⟩
    rw [hfind, Option.mem_some_iff] at hstored
    subst hstored
    rw [hhostId] at hid'
    rw [hhostAdv] at hadv'
    rw [hhostSeq] at hseq
    rw [layout_iff_links htype' (by rw [hhostLength, hlength]) hwords
      hkind] at hlayout
    exact ⟨htype.symm.trans htype', hid'.trans hid.symm,
      hadv'.trans hadv.symm, hseq, hlength, hchecks.mp hcheck, hlayout⟩
  · intro h
    have htype' : (lsaHeaderHost (Memory.ofList lsa)).lsType =
        listed.lsType := htype.trans h.lsType
    refine ⟨h.length, ⟨⟨htype', ?_, ?_⟩, ⟨header, hfind, ?_⟩,
      hchecks.mpr h.checksum, ?_⟩⟩
    · rw [hhostId, h.linkStateId, hid]
    · rw [hhostAdv, h.advertisingRouter, hadv]
    · rw [hhostSeq, h.lsSeqNum]
    · rw [layout_iff_links htype' (by rw [hhostLength, h.length]) hwords
        hkind]
      exact h.links

/-! ## A round -/

namespace Router

variable {r : Router} {n : Neighbor}

/-- Sending is all that a round does. -/
theorem foldl_sendOspfPacket (dst : UInt32) (type : UInt8)
    (datas : List (List UInt8)) (r : Router) :
    datas.foldl (fun r data => r.sendOspfPacket dst type data) r =
      { r with
        log := r.log ++ datas.map fun data =>
          .sent dst (r.ospfPacket r.interface.auType type data) } := by
  induction datas generalizing r with
  | nil => rw [List.foldl_nil, List.map_nil, List.append_nil]
  | cons data datas ih =>
      rw [List.foldl_cons, ih, sendOspfPacket, sendOspfPacketFrom, addLog,
        List.map_cons, List.append_assoc]
      rfl

/-- The headers on the list of the neighbor whose LSAs fit into one round. -/
def fittingHeaders (r : Router) (n : Neighbor) : List LSAHeader :=
  r.lsdb.fitting r.interface.infTransDelay RetransBuffer.empty.offset
    n.linkStateRetransmissionList

/-- A round for the neighbor sends LSUs in which a receiver, whatever addresses
they travel under, finds the instances of the LSAs that fit, each of them once,
and nothing behind them. -/
def RetransmitsOnce (r : Router) (n : Neighbor) : Prop :=
  ∃ packets : List (List UInt8), r.retransmit n.ip =
      .ok { r with log := r.log ++ packets.map (.sent n.ip) } ∧
    ∀ src dst,
      (∀ packet ∈ packets, (lsuWalk (ipDatagram src dst packet)).2 =
        ipHeaderSize + packet.length) ∧
      ∃ order, order.Perm (r.fittingHeaders n) ∧
        List.Forall₂ r.lsdb.Resends
          (packets.flatMap fun packet =>
            lsuPointers (ipDatagram src dst packet)) order

/-- The packets of a round. -/
def retransPackets (r : Router) (n : Neighbor) : List (List UInt8) :=
  (RetransBuffer.empty.fills ((r.fittingHeaders n).map
    (r.lsdb.retransBytes r.interface.infTransDelay))).map fun buffer =>
      r.ospfPacket r.interface.auType typeLsu buffer.data

/-- What a round does if all headers of the list are in the database. -/
theorem retransmit_eq (hn : r.findNeighbor n.ip = some n)
    (hup : n.state ≠ .down)
    (hlist : ∀ listed ∈ n.linkStateRetransmissionList,
      r.lsdb.listedLsa listed ≠ none) :
    r.retransmit n.ip =
      .ok { r with log := r.log ++ (r.retransPackets n).map (.sent n.ip) } := by
  simp only [retransmit, hn, if_neg hup]
  rw [retransLoop_eq hlist, Outcome.map_ok, foldl_sendOspfPacket,
    retransPackets, List.map_map, List.map_map]
  rfl

/-- The LSAs in the LSUs of a round, counted with repetition. -/
theorem length_retransPointers (src dst : UInt32)
    (hlist : ∀ listed ∈ n.linkStateRetransmissionList,
      r.lsdb.listedLsa listed ≠ none) :
    2 * ((r.retransPackets n).flatMap fun packet =>
      lsuPointers (ipDatagram src dst packet)).length =
        (r.fittingHeaders n).length * ((r.fittingHeaders n).length + 1) := by
  have hbound := length_fitting_le hlist r.interface.infTransDelay
    RetransBuffer.empty.offset
  have hfew : (r.fittingHeaders n).length ≤ 1044 := by
    rw [fittingHeaders]
    omega
  have hstart : RetransBuffer.empty.num = htonl (UInt32.ofNat 0) := by decide
  have hsum := sum_lsuCount_fills ((r.fittingHeaders n).map
    (r.lsdb.retransBytes r.interface.infTransDelay)) hstart
    (by rw [List.length_map]; omega)
  rw [List.length_map, Nat.mul_zero, Nat.zero_add] at hsum
  rw [← hsum, retransPackets, List.flatMap_map, List.length_flatMap]
  congr 2
  refine List.map_congr_left fun buffer _ => ?_
  rw [RetransBuffer.data, lsuPointers_ospfPacket, length_lsaPointers]

/-- The only LSU of a round in which one LSA fits. -/
def onlyLsu (r : Router) (listed : LSAHeader) : List UInt8 :=
  r.ospfPacket r.interface.auType typeLsu (store32 (htonl 1) ++
    r.lsdb.retransBytes r.interface.infTransDelay listed)

theorem retransPackets_singleton {listed : LSAHeader}
    (h : r.fittingHeaders n = [listed]) :
    r.retransPackets n = [r.onlyLsu listed] := by
  have hnum : htonl (ntohl 0 + 1) = htonl 1 := by decide
  rw [retransPackets, h, List.map_cons, List.map_nil, onlyLsu, ← hnum]
  rfl

/-- The receiver of that LSU finds the listed LSA, up to the end of the packet,
if and only if the LSA is the same in both byte orders. -/
theorem onlyLsu_read_iff {listed header : LSAHeader} {body : List UInt8}
    (hlisted : r.lsdb.listedLsa listed = some (header, body))
    (src dst : UInt32) :
    ((lsuWalk (ipDatagram src dst (r.onlyLsu listed))).2 =
        ipHeaderSize + (r.onlyLsu listed).length ∧
      List.Forall₂ r.lsdb.Resends
        (lsuPointers (ipDatagram src dst (r.onlyLsu listed))) [listed]) ↔
      SameInBothOrders listed.lsType header body := by
  have hbytes : r.lsdb.retransBytes r.interface.infTransDelay listed =
      retransLsa r.interface.infTransDelay header body := by
    rw [LSDB.retransBytes, hlisted, Option.elim_some]
  have hone : lsuCount (htonl 1) = 1 := (lsuCount_htonl (by decide)).1
  obtain ⟨age, hload⟩ :=
    load_retransLsa r.interface.infTransDelay header body
  have hlength := length_retransLsa r.interface.infTransDelay header body
  rw [← resends_retransLsa_iff hlisted r.interface.infTransDelay, onlyLsu,
    hbytes, lsuWalk_ospfPacket, lsuPointers_ospfPacket, hone]
  refine and_congr ?_ ?_
  · rw [lsaWalk, lsaWalk, ipDatagram_lsu_advance, hload, length_ospfPacket,
      List.length_append, hlength, length_store32, bodyOffset]
    generalize ntohs header.length = length
    omega
  · rw [lsaPointers, lsaPointers, List.forall₂_cons]
    exact and_iff_left .nil

/-- What is read of a round that retransmits once is read of its packets. -/
theorem RetransmitsOnce.reads (h : r.RetransmitsOnce n)
    (hn : r.findNeighbor n.ip = some n) (hup : n.state ≠ .down)
    (hlist : ∀ listed ∈ n.linkStateRetransmissionList,
      r.lsdb.listedLsa listed ≠ none) (src dst : UInt32) :
    (∀ packet ∈ r.retransPackets n,
      (lsuWalk (ipDatagram src dst packet)).2 =
        ipHeaderSize + packet.length) ∧
    ∃ order, order.Perm (r.fittingHeaders n) ∧
      List.Forall₂ r.lsdb.Resends
        ((r.retransPackets n).flatMap fun packet =>
          lsuPointers (ipDatagram src dst packet)) order := by
  obtain ⟨packets, hround, hread⟩ := h
  rw [retransmit_eq hn hup hlist, Except.ok.injEq] at hround
  have hinjective : Function.Injective (LogEntry.sent n.ip) := by
    intro a b hab
    exact (LogEntry.sent.inj hab).2
  have hpackets : r.retransPackets n = packets :=
    List.map_injective_iff.mpr hinjective
      (List.append_cancel_left (congrArg log hround))
  rw [hpackets]
  exact hread src dst

/-- No round retransmits more than one LSA once. -/
theorem RetransmitsOnce.few (h : r.RetransmitsOnce n)
    (hn : r.findNeighbor n.ip = some n) (hup : n.state ≠ .down)
    (hlist : ∀ listed ∈ n.linkStateRetransmissionList,
      r.lsdb.listedLsa listed ≠ none) :
    (r.fittingHeaders n).length ≤ 1 := by
  obtain ⟨-, order, hperm, hread⟩ := h.reads hn hup hlist 0 0
  have hcount := length_retransPointers (n := n) (r := r) 0 0 hlist
  rw [hread.length_eq, hperm.length_eq] at hcount
  by_contra hmany
  have hmore : (r.fittingHeaders n).length * 3 ≤
      (r.fittingHeaders n).length * ((r.fittingHeaders n).length + 1) :=
    Nat.mul_le_mul_left _ (by omega)
  omega

/-- A round retransmits every LSA that fits once, as its receiver reads it, if
and only if at most one LSA fits, and that one is the same in both byte
orders. -/
theorem retransmitsOnce_iff (hn : r.findNeighbor n.ip = some n)
    (hup : n.state ≠ .down)
    (hlist : ∀ listed ∈ n.linkStateRetransmissionList,
      r.lsdb.findInstance listed ≠ none) :
    r.RetransmitsOnce n ↔
      (r.fittingHeaders n).length ≤ 1 ∧
        ∀ listed ∈ r.fittingHeaders n, ∀ lsa ∈ r.lsdb.listedLsa listed,
          SameInBothOrders listed.lsType lsa.1 lsa.2 := by
  have hlisted : ∀ listed ∈ n.linkStateRetransmissionList,
      r.lsdb.listedLsa listed ≠ none := fun listed hmem =>
    LSDB.listedLsa_ne_none (hlist listed hmem)
  constructor
  · intro h
    have hfew := h.few hn hup hlisted
    refine ⟨hfew, fun listed hmem lsa hlsa => ?_⟩
    have hsingle := eq_singleton_of_mem hfew hmem
    obtain ⟨htile, order, hperm, hread⟩ := h.reads hn hup hlisted 0 0
    rw [hsingle, List.perm_singleton] at hperm
    rw [retransPackets_singleton hsingle] at htile hread
    rw [List.flatMap_singleton, hperm] at hread
    exact (onlyLsu_read_iff hlsa 0 0).mp
      ⟨htile _ List.mem_cons_self, hread⟩
  · rintro ⟨hfew, hsame⟩
    refine ⟨r.retransPackets n, retransmit_eq hn hup hlisted,
      fun src dst => ?_⟩
    cases hfitting : r.fittingHeaders n with
    | nil =>
        have hnone : r.retransPackets n = [] := by
          rw [retransPackets, hfitting]
          rfl
        rw [hnone]
        exact ⟨fun packet hmem => (List.not_mem_nil hmem).elim, [],
          List.Perm.refl _, .nil⟩
    | cons listed rest =>
        have hmem : listed ∈ r.fittingHeaders n := by
          rw [hfitting]
          exact List.mem_cons_self
        have hsingle := eq_singleton_of_mem hfew hmem
        rw [← hfitting, hsingle]
        obtain ⟨lsa, hlsa⟩ := Option.ne_none_iff_exists'.mp
          (hlisted listed (LSDB.fitting_subset _ _ _ _ hmem))
        obtain ⟨htile, hread⟩ := (onlyLsu_read_iff hlsa src dst).mpr
          (hsame listed hmem lsa hlsa)
        rw [retransPackets_singleton hsingle, List.flatMap_singleton]
        refine ⟨fun packet hpacket => ?_, [listed], List.Perm.refl _, hread⟩
        rw [List.mem_singleton.mp hpacket]
        exact htile

/-- The DR that has just sent its own LSAs has their headers on the list of
its neighbor. -/
theorem ownLsas_listed :
    ∃ n ∈ originatingRouter.updateLsas.findNeighbor 0x0a000002,
      n.ip = 0x0a000002 ∧ n.state ≠ .down ∧
        (∀ listed ∈ n.linkStateRetransmissionList,
          originatingRouter.updateLsas.lsdb.findInstance listed ≠ none) ∧
        (originatingRouter.updateLsas.fittingHeaders n).length = 2 := by
  decide +kernel

/-- The round of that DR for its neighbor. -/
theorem retransmitsOnce_iff_ownLsas :
    ∃ n ∈ originatingRouter.updateLsas.findNeighbor 0x0a000002,
      (originatingRouter.updateLsas.RetransmitsOnce n ↔
        (originatingRouter.updateLsas.fittingHeaders n).length ≤ 1 ∧
          ∀ listed ∈ originatingRouter.updateLsas.fittingHeaders n,
            ∀ lsa ∈ originatingRouter.updateLsas.lsdb.listedLsa listed,
              SameInBothOrders listed.lsType lsa.1 lsa.2) := by
  obtain ⟨n, hn, hip, hup, hlist, -⟩ := ownLsas_listed
  exact ⟨n, hn, retransmitsOnce_iff (hip.symm ▸ hn) hup hlist⟩

/-- Its Network LSA goes out in both LSUs of the round. -/
theorem own_lsas_sent_twice :
    ∃ n ∈ originatingRouter.updateLsas.findNeighbor 0x0a000002,
      n.state ≠ .down ∧
        (∀ listed ∈ n.linkStateRetransmissionList,
          originatingRouter.updateLsas.lsdb.findInstance listed ≠ none) ∧
        ¬originatingRouter.updateLsas.RetransmitsOnce n := by
  obtain ⟨n, hn, hip, hup, hlist, htwo⟩ := ownLsas_listed
  refine ⟨n, hn, hup, hlist, fun h => ?_⟩
  have hfew := h.few (hip.symm ▸ hn) hup fun listed hmem =>
    LSDB.listedLsa_ne_none (hlist listed hmem)
  rw [htwo] at hfew
  exact absurd hfew (by decide)

end Router
end OspfLite
