import OspfLite.Router.EmittedLsu
import OspfLite.Router.MapLaws

/-!
# The router's own LSAs

When `update_lsas` puts the Network LSA and the Router LSA of the router into
the LSU, by the instance the database holds and the sequence counter, and what
the database holds afterwards.
-/

namespace OspfLite

/-- A header generated with this sequence number is more recent.  A generated
header has age 1 and checksum 0. -/
def LSAHeader.Outdated (seqNum : UInt32) (old : LSAHeader) : Prop :=
  old.lsSeqNum < seqNum ∨
    (old.lsSeqNum = seqNum ∧ old.lsChecksum = 0 ∧ old.lsAge ≠ maxAge ∧
      maxAgeDiff < old.lsAge.toNat)

instance (seqNum : UInt32) (old : LSAHeader) :
    Decidable (old.Outdated seqNum) :=
  inferInstanceAs (Decidable (_ ∨ _ ∧ _ ∧ _ ∧ _))

/-- The comparison of a generated header with a stored one. -/
theorem lsaHeaderCmp_lt_zero_iff {h old : LSAHeader} (hage : h.lsAge = 1)
    (hsum : h.lsChecksum = 0) :
    lsaHeaderCmp h old < 0 ↔ old.Outdated h.lsSeqNum := by
  simp only [lsaHeaderCmp, LSAHeader.Outdated, hage, hsum, maxAge, maxAgeDiff,
    UInt32.lt_iff_toNat_lt, UInt16.lt_iff_toNat_lt, ← UInt32.toNat_inj,
    ← UInt16.toNat_inj, UInt16.toNat_ofNat, ne_eq]
  split_ifs <;> simp <;> omega

namespace LSDB

variable {lsdb : LSDB}

/-! ## The entry under the key of a generated LSA -/

/-- The generated Network LSA is new or newer than the entry. -/
theorem updateNetworkLsa_snd (lsdb : LSDB) (lsa : LSANetwork)
    (hage : lsa.header.lsAge = 1) (hsum : lsa.header.lsChecksum = 0) :
    (lsdb.updateNetworkLsa lsa).2 = true ↔
      ∀ old ∈ lsdb.findNetworkLsa lsa.header.linkStateId
          lsa.header.advertisingRouter,
        old.header.Outdated lsa.header.lsSeqNum := by
  rw [updateNetworkLsa]
  cases lsdb.findNetworkLsa lsa.header.linkStateId
      lsa.header.advertisingRouter with
  | none => simp
  | some old =>
      simp only [Option.mem_some_iff, forall_eq',
        ← lsaHeaderCmp_lt_zero_iff hage hsum]
      split_ifs with hcmp <;> simp [hcmp]

/-- The generated Router LSA is new or newer than the entry. -/
theorem updateRouterLsa_snd (lsdb : LSDB) (lsa : LSARouter)
    (hage : lsa.header.lsAge = 1) (hsum : lsa.header.lsChecksum = 0) :
    (lsdb.updateRouterLsa lsa).2 = true ↔
      ∀ old ∈ lsdb.findRouterLsa lsa.header.linkStateId
          lsa.header.advertisingRouter,
        old.header.Outdated lsa.header.lsSeqNum := by
  rw [updateRouterLsa]
  cases lsdb.findRouterLsa lsa.header.linkStateId
      lsa.header.advertisingRouter with
  | none => simp
  | some old =>
      simp only [Option.mem_some_iff, forall_eq',
        ← lsaHeaderCmp_lt_zero_iff hage hsum]
      split_ifs with hcmp <;> simp [hcmp]

/-- A Router LSA that goes into the LSU is the entry under its key
afterwards. -/
theorem findRouterLsa_updateRouterLsa {lsa : LSARouter}
    (h : (lsdb.updateRouterLsa lsa).2 = true) :
    (lsdb.updateRouterLsa lsa).1.findRouterLsa lsa.header.linkStateId
      lsa.header.advertisingRouter = some lsa := by
  rw [updateRouterLsa] at h ⊢
  cases hfind : lsdb.findRouterLsa lsa.header.linkStateId
      lsa.header.advertisingRouter with
  | none =>
      have hnone : KeyedList.lookup LSARouter.key lsdb.routerLsas lsa.key =
          none := hfind
      simp only [findRouterLsa]
      change KeyedList.lookup LSARouter.key (lsdb.routerLsas ++ [lsa])
        lsa.key = some lsa
      rw [KeyedList.lookup_append, hnone, KeyedList.lookup_singleton,
        if_pos rfl, Option.none_or]
  | some old =>
      simp only [hfind] at h ⊢
      split_ifs at h ⊢
      exact KeyedList.lookup_insert_self lsdb.routerLsas lsa

/-- A Network LSA that goes into the LSU is the entry under its key afterwards
if there was none; otherwise there is none afterwards. -/
theorem findNetworkLsa_updateNetworkLsa {lsa : LSANetwork}
    (h : (lsdb.updateNetworkLsa lsa).2 = true) :
    (lsdb.updateNetworkLsa lsa).1.findNetworkLsa lsa.header.linkStateId
        lsa.header.advertisingRouter =
      if lsdb.findNetworkLsa lsa.header.linkStateId
          lsa.header.advertisingRouter = none then some lsa else none := by
  rw [updateNetworkLsa] at h ⊢
  cases hfind : lsdb.findNetworkLsa lsa.header.linkStateId
      lsa.header.advertisingRouter with
  | none =>
      have hnone : KeyedList.lookup LSANetwork.key lsdb.networkLsas lsa.key =
          none := hfind
      rw [if_pos rfl]
      change KeyedList.lookup LSANetwork.key (lsdb.networkLsas ++ [lsa])
        lsa.key = some lsa
      rw [KeyedList.lookup_append, hnone, KeyedList.lookup_singleton,
        if_pos rfl, Option.none_or]
  | some old =>
      rw [if_neg (Option.some_ne_none old)]
      simp only [hfind] at h ⊢
      split_ifs at h ⊢
      exact KeyedList.lookup_erase_self lsdb.networkLsas lsa.key

/-- A Network LSA leaves the Router LSAs alone. -/
theorem updateNetworkLsa_routerLsas (lsdb : LSDB) (lsa : LSANetwork) :
    (lsdb.updateNetworkLsa lsa).1.routerLsas = lsdb.routerLsas := by
  rw [updateNetworkLsa]
  cases lsdb.findNetworkLsa lsa.header.linkStateId
      lsa.header.advertisingRouter with
  | none => rfl
  | some old =>
      simp only
      split_ifs <;> rfl

/-- A Router LSA leaves the Network LSAs alone. -/
theorem updateRouterLsa_networkLsas (lsdb : LSDB) (lsa : LSARouter) :
    (lsdb.updateRouterLsa lsa).1.networkLsas = lsdb.networkLsas := by
  rw [updateRouterLsa]
  cases lsdb.findRouterLsa lsa.header.linkStateId
      lsa.header.advertisingRouter with
  | none => rfl
  | some old =>
      simp only
      split_ifs <;> rfl

end LSDB

namespace Router

/-! ## What goes into the LSU -/

/-- The sequence number of the next Router LSA: a DR generates its Network LSA
first. -/
def routerLsaSeqNum (r : Router) : UInt32 :=
  if r.interface.state = .dr then r.lsSequenceCnt + 1 else r.lsSequenceCnt

/-- The Network LSA goes into the LSU: the router is DR, and the instance in
the database, if any, is outdated. -/
def EmitsNetworkLsa (r : Router) : Prop :=
  r.interface.state = .dr ∧
    ∀ old ∈ r.lsdb.findNetworkLsa r.interface.ipInterfaceAddress r.routerId,
      old.header.Outdated r.lsSequenceCnt

/-- The Router LSA goes into the LSU. -/
def EmitsRouterLsa (r : Router) : Prop :=
  ∀ old ∈ r.lsdb.findRouterLsa r.routerId r.routerId,
    old.header.Outdated r.routerLsaSeqNum

instance (r : Router) : Decidable r.EmitsNetworkLsa :=
  inferInstanceAs (Decidable (_ ∧ ∀ old ∈ r.lsdb.findNetworkLsa _ _, _))

instance (r : Router) : Decidable r.EmitsRouterLsa :=
  inferInstanceAs (Decidable (∀ old ∈ r.lsdb.findRouterLsa _ _, _))

/-- What the block of a Network LSA hands on to the block of the Router
LSA. -/
theorem updateOwnNetworkLsa_fst (r : Router) :
    r.updateOwnNetworkLsa.1.routerId = r.routerId ∧
      r.updateOwnNetworkLsa.1.lsdb.routerLsas = r.lsdb.routerLsas ∧
      r.updateOwnNetworkLsa.1.lsSequenceCnt = r.routerLsaSeqNum := by
  obtain ⟨lsdb, count, headers, horig⟩ := r.updateOwnNetworkLsa_originates
  refine ⟨by rw [horig], ?_, ?_⟩
  · rw [updateOwnNetworkLsa]
    split_ifs
    · rw [floodOwnLsa_lsdb]
      exact LSDB.updateNetworkLsa_routerLsas _ _
    · rfl
  · rw [updateOwnNetworkLsa, routerLsaSeqNum]
    split_ifs
    · rw [floodOwnLsa]
      split_ifs <;> rfl
    · rfl

theorem floodOwnLsa_snd (r : Router) (isFlooding : Bool) (header : LSAHeader)
    (body : List UInt8) :
    (r.floodOwnLsa isFlooding header body).2 =
      if isFlooding then [sealLsa r.interface.infTransDelay header body]
      else [] := by
  cases isFlooding <;> rfl

/-- The flag of the Network LSA block, which a DR enters. -/
theorem updateNetworkLsa_snd_iff {r : Router}
    (hdr : r.interface.state = .dr) :
    (r.lsdb.updateNetworkLsa r.generateNetworkLsa).2 = true ↔
      r.EmitsNetworkLsa :=
  (LSDB.updateNetworkLsa_snd r.lsdb r.generateNetworkLsa rfl rfl).trans
    (and_iff_right hdr).symm

/-- The Network LSA in the LSU. -/
theorem updateOwnNetworkLsa_snd (r : Router) :
    r.updateOwnNetworkLsa.2 =
      if r.EmitsNetworkLsa then
        [sealLsa r.interface.infTransDelay r.generateNetworkLsa.header
          r.generateNetworkLsa.encodeBody]
      else [] := by
  by_cases hdr : r.interface.state = .dr
  · rw [updateOwnNetworkLsa, if_pos hdr]
    simp only [floodOwnLsa_snd, updateNetworkLsa_snd_iff hdr]
    rfl
  · rw [updateOwnNetworkLsa, if_neg hdr, if_neg fun h => hdr h.1]

/-- The flag of the Router LSA block. -/
theorem updateRouterLsa_snd_iff (r : Router) :
    (r.updateOwnNetworkLsa.1.lsdb.updateRouterLsa
        r.updateOwnNetworkLsa.1.generateRouterLsa).2 = true ↔
      r.EmitsRouterLsa := by
  obtain ⟨hid, hrouter, hseq⟩ := r.updateOwnNetworkLsa_fst
  have hflag := LSDB.updateRouterLsa_snd r.updateOwnNetworkLsa.1.lsdb
    r.updateOwnNetworkLsa.1.generateRouterLsa rfl rfl
  rw [hflag, EmitsRouterLsa, ← hseq, ← hid, LSDB.findRouterLsa,
    LSDB.findRouterLsa, ← hrouter]
  rfl

/-- The Router LSA that `update_lsas` generates is newer exactly when it goes
into the LSU. -/
theorem emitsRouterLsa_iff (r : Router) :
    r.EmitsRouterLsa ↔
      ∀ old ∈ r.lsdb.findRouterLsa r.routerId r.routerId,
        lsaHeaderCmp r.updateOwnNetworkLsa.1.generateRouterLsa.header
          old.header < 0 := by
  have hseq : r.updateOwnNetworkLsa.1.generateRouterLsa.header.lsSeqNum =
      r.routerLsaSeqNum := r.updateOwnNetworkLsa_fst.2.2
  rw [EmitsRouterLsa, ← hseq]
  exact forall₂_congr fun old _ => (lsaHeaderCmp_lt_zero_iff rfl rfl).symm

/-- The Router LSA in the LSU. -/
theorem updateOwnRouterLsa_snd (r : Router) :
    r.updateOwnNetworkLsa.1.updateOwnRouterLsa.2 =
      if r.EmitsRouterLsa then
        [sealLsa r.updateOwnNetworkLsa.1.interface.infTransDelay
          r.updateOwnNetworkLsa.1.generateRouterLsa.header
          r.updateOwnNetworkLsa.1.generateRouterLsa.encodeBody]
      else [] := by
  rw [updateOwnRouterLsa]
  simp only [floodOwnLsa_snd, r.updateRouterLsa_snd_iff]
  rfl

/-- The LSU is empty exactly when neither LSA goes into it. -/
theorem emittedLsas_eq_nil_iff (r : Router) :
    r.emittedLsas = [] ↔ ¬r.EmitsNetworkLsa ∧ ¬r.EmitsRouterLsa := by
  rw [emittedLsas, updateOwnNetworkLsa_snd, updateOwnRouterLsa_snd,
    List.append_eq_nil_iff]
  simp

/-- The headers of the LSAs in the LSU, as they stand in the database and on
the retransmission lists. -/
def emittedHeaders (r : Router) : List LSAHeader :=
  (if r.EmitsNetworkLsa then [r.generateNetworkLsa.header] else []) ++
    (if r.EmitsRouterLsa then
      [r.updateOwnNetworkLsa.1.generateRouterLsa.header] else [])

theorem floodOwnLsa_interface (r : Router) (isFlooding : Bool)
    (header : LSAHeader) (body : List UInt8) :
    (r.floodOwnLsa isFlooding header body).1.interface =
      r.interface.pushAll (if isFlooding then [header] else []) := by
  cases isFlooding with
  | true => rfl
  | false => exact r.interface.pushAll_nil.symm

/-- `update_lsas` puts the headers of the LSU on the retransmission lists. -/
theorem updateLsas_interface_eq (r : Router) :
    r.updateLsas.interface = r.interface.pushAll r.emittedHeaders := by
  have hsent : r.updateLsas.interface =
      r.updateOwnNetworkLsa.1.updateOwnRouterLsa.1.interface := by
    rw [updateLsas]
    split_ifs <;> rfl
  have hnetwork : r.updateOwnNetworkLsa.1.interface =
      r.interface.pushAll
        (if r.EmitsNetworkLsa then [r.generateNetworkLsa.header] else []) := by
    by_cases hdr : r.interface.state = .dr
    · rw [updateOwnNetworkLsa, if_pos hdr]
      simp only [floodOwnLsa_interface, updateNetworkLsa_snd_iff hdr]
      rfl
    · rw [updateOwnNetworkLsa, if_neg hdr, if_neg fun h => hdr h.1,
        Interface.pushAll_nil]
  have hrouter : r.updateOwnNetworkLsa.1.updateOwnRouterLsa.1.interface =
      r.updateOwnNetworkLsa.1.interface.pushAll
        (if r.EmitsRouterLsa then
          [r.updateOwnNetworkLsa.1.generateRouterLsa.header] else []) := by
    rw [updateOwnRouterLsa]
    simp only [floodOwnLsa_interface, r.updateRouterLsa_snd_iff]
    rfl
  rw [hsent, hrouter, hnetwork, Interface.pushAll_pushAll, emittedHeaders]

/-- `update_lsas` appends the headers of the LSU for a FULL neighbor. -/
theorem findNeighbor_updateLsas {r : Router} {ip : UInt32} {n : Neighbor}
    (hfind : r.findNeighbor ip = some n) :
    r.updateLsas.findNeighbor ip = some (n.pushAll r.emittedHeaders) := by
  have hsame : ((fun m : Neighbor => decide (m.ip = ip)) ∘
      Neighbor.pushAll r.emittedHeaders) = fun m => decide (m.ip = ip) := by
    funext m
    rw [Function.comp_apply, m.pushAll_ip]
  change r.interface.neighbors.find? _ = some n at hfind
  rw [findNeighbor, Interface.findNeighbor, updateLsas_interface_eq,
    Interface.pushAll, List.find?_map, hsame, hfind]
  rfl

end Router

end OspfLite
