import OspfLite.Router.Codecs
import OspfLite.Router.Instances

/-!
# LSAs on their way

An LSA of either kind as `update_lsas` makes and sends it, and what
`install_router_lsa` and `install_network_lsa` make of its bytes.
-/

namespace OspfLite

/-- An LSA that the program originates. -/
inductive OwnLsa where
  | router (lsa : LSARouter)
  | network (lsa : LSANetwork)
deriving DecidableEq, Repr

namespace OwnLsa

def header : OwnLsa → LSAHeader
  | router lsa => lsa.header
  | network lsa => lsa.header

/-- What follows the header on the wire. -/
def body : OwnLsa → List UInt8
  | router lsa => lsa.encodeBody
  | network lsa => lsa.encodeBody

/-- The bytes in the LSU of `update_lsas`. -/
def wire (infTransDelay : UInt32) (lsa : OwnLsa) : List UInt8 :=
  Router.sealLsa infTransDelay lsa.header lsa.body

/-- The type is that of the kind, and the length and the number of links are
those of the body. -/
def Consistent : OwnLsa → Prop
  | router lsa =>
      lsa.header.lsType = lsaRouter ∧
        lsa.header.length.toNat =
          LSARouter.linksOffset + LSARouterLink.size * lsa.links.length ∧
        lsa.linksNum.toNat = lsa.links.length ∧
        lsa.zero0 = 0 ∧ lsa.zero1 = 0
  | network lsa =>
      lsa.header.lsType = lsaNetwork ∧
        lsa.header.length.toNat =
          LSANetwork.routersOffset + 4 * lsa.attachedRouters.length

/-- The checksum on the wire. -/
def checksum (lsa : OwnLsa) : UInt16 :=
  lsaChecksum (Memory.ofList ((LSAHeader.hton lsa.header).store ++ lsa.body))
    lsa.header.length

/-- The header as a receiver reads it. -/
def receivedHeader (lsa : OwnLsa) : LSAHeader :=
  { lsa.header with lsAge := 0, lsChecksum := lsa.checksum }

/-- The LSA as a receiver stores it. -/
def received (uninitMask : UInt32) : OwnLsa → OwnLsa
  | router lsa =>
      router { lsa with header := (router lsa).receivedHeader }
  | network lsa =>
      network { lsa with
        header := (network lsa).receivedHeader
        networkMask := uninitMask }

variable {lsa : OwnLsa} {delay mask : UInt32}

@[simp] theorem header_received (mask : UInt32) (lsa : OwnLsa) :
    (lsa.received mask).header = lsa.receivedHeader := by
  cases lsa <;> rfl

/-! ## What the receiver checks -/

theorem lsaHeaderHost_wire (delay : UInt32) (lsa : OwnLsa)
    (rest : List UInt8) :
    lsaHeaderHost (Memory.ofList (lsa.wire delay ++ rest)) =
      lsa.receivedHeader :=
  Router.lsaHeaderHost_sealLsa rest

theorem Consistent.length_header (h : lsa.Consistent) :
    lsa.header.length.toNat = LSAHeader.size + lsa.body.length := by
  cases lsa with
  | router lsa =>
      rw [header, body, h.2.1, Router.length_routerBody,
        LSARouter.linksOffset]
      omega
  | network lsa =>
      rw [header, body, h.2, Router.length_networkBody,
        LSANetwork.routersOffset]
      omega

theorem Consistent.lengthCounts (h : lsa.Consistent) (delay : UInt32) :
    Router.LengthCounts (lsa.wire delay) :=
  Router.lengthCounts_sealLsa h.length_header

theorem Consistent.checksumOk (h : lsa.Consistent) (delay : UInt32)
    (rest : List UInt8) :
    ChecksumOk (Memory.ofList (lsa.wire delay ++ rest)) :=
  Router.checksumOk_sealLsa h.length_header rest

/-- Both kinds are stored. -/
theorem Consistent.storable (h : lsa.Consistent) : lsa.header.Storable := by
  cases lsa with
  | router lsa => exact Or.inl h.1
  | network lsa => exact Or.inr h.1

theorem Consistent.typeOk (h : lsa.Consistent) :
    lsa.receivedHeader.TypeOk := by
  have htype : lsa.receivedHeader.lsType = lsa.header.lsType := rfl
  rw [LSAHeader.TypeOk, htype]
  rcases h.storable with hrouter | hnetwork
  · rw [hrouter]
    decide
  · rw [hnetwork]
    decide

/-- What is stored is as consistent as what was sent. -/
theorem Consistent.received (h : lsa.Consistent) (mask : UInt32) :
    (lsa.received mask).Consistent := by
  cases lsa with
  | router lsa => exact h
  | network lsa => exact h

end OwnLsa

/-! ## Step 5 d -/

namespace LSDB

variable {lsdb : LSDB} {lsa : OwnLsa} {delay mask : UInt32}

/-- Replace whatever is stored under the key of the LSA. -/
def put (lsdb : LSDB) : OwnLsa → LSDB
  | .router lsa =>
      { lsdb with
        routerLsas := KeyedList.insert LSARouter.key lsdb.routerLsas lsa }
  | .network lsa =>
      { lsdb with
        networkLsas := KeyedList.insert LSANetwork.key lsdb.networkLsas lsa }

/-- The LSAs of both kinds that are stored. -/
def Stores (lsdb : LSDB) : OwnLsa → Prop
  | .router lsa => lsa ∈ lsdb.routerLsas
  | .network lsa => lsa ∈ lsdb.networkLsas

/-- The LSA that is found under the key of another one of its kind. -/
def findLike (lsdb : LSDB) (header : LSAHeader) : Option OwnLsa :=
  if header.lsType = lsaRouter then
    (lsdb.findRouterLsa header.linkStateId header.advertisingRouter).map
      .router
  else if header.lsType = lsaNetwork then
    (lsdb.findNetworkLsa header.linkStateId header.advertisingRouter).map
      .network
  else
    none

theorem findInstance_eq (lsdb : LSDB) (header : LSAHeader) :
    lsdb.findInstance header = (lsdb.findLike header).map OwnLsa.header := by
  rw [findInstance, findHeader, findLike]
  split_ifs
  · rw [Option.map_map]
    rfl
  · rw [Option.map_map]
    rfl
  · rfl

/-- What is found is stored under the key. -/
theorem findLike_spec {header : LSAHeader}
    (h : lsdb.findLike header = some lsa) :
    lsdb.Stores lsa ∧ lsa.header.key = header.key := by
  rw [findLike] at h
  split_ifs at h
  · obtain ⟨own, hown, rfl⟩ := Option.map_eq_some_iff.mp h
    exact ⟨List.mem_of_find?_eq_some hown,
      @KeyedList.key_of_lookup _ _ _ LSARouter.key _ _ _ hown⟩
  · obtain ⟨own, hown, rfl⟩ := Option.map_eq_some_iff.mp h
    exact ⟨List.mem_of_find?_eq_some hown,
      @KeyedList.key_of_lookup _ _ _ LSANetwork.key _ _ _ hown⟩

section Stores

variable {lsdb' : LSDB} {other : OwnLsa}

/-- One Router LSA has been stored. -/
theorem stores_router {own : LSARouter} (h : lsdb'.Stores other)
    (hrouter : ∀ x ∈ lsdb'.routerLsas, x ∈ lsdb.routerLsas ∨ x = own)
    (hnetwork : lsdb'.networkLsas = lsdb.networkLsas) :
    lsdb.Stores other ∨ other = .router own := by
  cases other with
  | router other =>
      exact (hrouter other h).imp_right (congrArg OwnLsa.router)
  | network other =>
      left
      rw [Stores, ← hnetwork]
      exact h

/-- One Network LSA has been stored. -/
theorem stores_network {own : LSANetwork} (h : lsdb'.Stores other)
    (hnetwork : ∀ x ∈ lsdb'.networkLsas, x ∈ lsdb.networkLsas ∨ x = own)
    (hrouter : lsdb'.routerLsas = lsdb.routerLsas) :
    lsdb.Stores other ∨ other = .network own := by
  cases other with
  | router other =>
      left
      rw [Stores, ← hrouter]
      exact h
  | network other =>
      exact (hnetwork other h).imp_right (congrArg OwnLsa.network)

/-- An entry that is there after an insertion. -/
theorem mem_insert {α : Type} {key : α → LsaKey} {l : List α} {a b : α}
    (h : b ∈ KeyedList.insert key l a) : b ∈ l ∨ b = a := by
  rcases List.mem_append.mp h with hold | hnew
  · exact Or.inl (List.mem_filter.mp hold).1
  · exact Or.inr (List.mem_singleton.mp hnew)

/-- What is stored afterwards was stored before, or is what was put. -/
theorem stores_put (h : (lsdb.put lsa).Stores other) :
    other = lsa ∨ lsdb.Stores other := by
  cases lsa with
  | router lsa => exact (stores_router h (fun _ => mem_insert) rfl).symm
  | network lsa => exact (stores_network h (fun _ => mem_insert) rfl).symm

/-- The same for the two chains of `update_lsas`. -/
theorem stores_updateRouterLsa {own : LSARouter}
    (h : (lsdb.updateRouterLsa own).1.Stores other) :
    lsdb.Stores other ∨
      (lsdb.updateRouterLsa own).2 = true ∧ other = .router own := by
  rw [updateRouterLsa] at h ⊢
  cases hfind : lsdb.findRouterLsa own.header.linkStateId
      own.header.advertisingRouter with
  | none =>
      simp only [hfind, true_and] at h ⊢
      refine stores_router h (fun x hx => ?_) rfl
      exact (List.mem_append.mp hx).imp_right List.mem_singleton.mp
  | some old =>
      simp only [hfind] at h ⊢
      split_ifs at h ⊢
      · simp only [true_and]
        exact stores_router h (fun _ => mem_insert) rfl
      · exact Or.inl h

theorem stores_updateNetworkLsa {own : LSANetwork}
    (h : (lsdb.updateNetworkLsa own).1.Stores other) :
    lsdb.Stores other ∨
      (lsdb.updateNetworkLsa own).2 = true ∧ other = .network own := by
  rw [updateNetworkLsa] at h ⊢
  cases hfind : lsdb.findNetworkLsa own.header.linkStateId
      own.header.advertisingRouter with
  | none =>
      simp only [hfind, true_and] at h ⊢
      refine stores_network h (fun x hx => ?_) rfl
      exact (List.mem_append.mp hx).imp_right List.mem_singleton.mp
  | some old =>
      simp only [hfind] at h ⊢
      split_ifs at h ⊢
      · simp only [true_and]
        exact stores_network h
          (fun x hx => Or.inl (List.mem_filter.mp hx).1) rfl
      · exact Or.inl h

end Stores

/-- The database as a map, after an LSA has been put into it. -/
theorem findLike_put (h : lsa.Consistent) (header : LSAHeader) :
    (lsdb.put lsa).findLike header =
      if header.SameLsa lsa.header then some lsa
      else lsdb.findLike header := by
  have hsame : header.SameLsa lsa.header ↔
      header.lsType = lsa.header.lsType ∧ header.key = lsa.header.key := by
    rw [LSAHeader.SameLsa, LSAHeader.key, LSAHeader.key, Prod.mk.injEq]
  have hne : lsaRouter ≠ lsaNetwork := by decide
  rw [findLike, findLike]
  cases lsa with
  | router lsa =>
      have hinsert : (lsdb.put (.router lsa)).findRouterLsa
          header.linkStateId header.advertisingRouter =
            if header.key = lsa.key then some lsa
            else lsdb.findRouterLsa header.linkStateId
              header.advertisingRouter :=
        KeyedList.lookup_insert lsdb.routerLsas lsa header.key
      have hkind : (OwnLsa.router lsa).header.lsType = lsaRouter := h.1
      rw [hinsert]
      simp only [hsame, hkind]
      by_cases hrouter : header.lsType = lsaRouter
      · simp only [hrouter, if_true, true_and]
        exact apply_ite _ _ _ _
      · simp only [hrouter, if_false, false_and]
        rfl
  | network lsa =>
      have hinsert : (lsdb.put (.network lsa)).findNetworkLsa
          header.linkStateId header.advertisingRouter =
            if header.key = lsa.key then some lsa
            else lsdb.findNetworkLsa header.linkStateId
              header.advertisingRouter :=
        KeyedList.lookup_insert lsdb.networkLsas lsa header.key
      have hkind : (OwnLsa.network lsa).header.lsType = lsaNetwork := h.1
      rw [hinsert]
      simp only [hsame, hkind]
      by_cases hnetwork : header.lsType = lsaNetwork
      · simp only [hnetwork, hne.symm, if_true, if_false, true_and]
        exact apply_ite _ _ _ _
      · simp only [hnetwork, if_false, false_and]
        rfl

/-- Put LSAs into the database as their receiver stores them. -/
def putAll (mask : UInt32) (lsas : List OwnLsa) (lsdb : LSDB) : LSDB :=
  lsas.foldl (fun lsdb lsa => lsdb.put (lsa.received mask)) lsdb

/-- An LSA that none of them is an instance of stays as it is. -/
theorem findLike_putAll_of_ne {lsas : List OwnLsa}
    (hconsistent : ∀ lsa ∈ lsas, lsa.Consistent) {header : LSAHeader}
    (hne : ∀ lsa ∈ lsas, ¬header.SameLsa lsa.header) (lsdb : LSDB) :
    (lsdb.putAll mask lsas).findLike header = lsdb.findLike header := by
  induction lsas generalizing lsdb with
  | nil => rfl
  | cons lsa lsas ih =>
      obtain ⟨hlsa, hrest⟩ := List.forall_mem_cons.mp hconsistent
      obtain ⟨hfirst, hothers⟩ := List.forall_mem_cons.mp hne
      have hother : ¬header.SameLsa (lsa.received mask).header := by
        rw [OwnLsa.header_received]
        exact hfirst
      rw [putAll, List.foldl_cons]
      refine (ih hrest hothers _).trans ?_
      rw [findLike_put (hlsa.received mask), if_neg hother]

/-- Each of them is found afterwards. -/
theorem findLike_putAll {lsas : List OwnLsa}
    (hconsistent : ∀ lsa ∈ lsas, lsa.Consistent)
    (hdistinct : lsas.Pairwise fun a b => a.header.lsType ≠ b.header.lsType)
    (hmem : lsa ∈ lsas) (lsdb : LSDB) :
    (lsdb.putAll mask lsas).findLike lsa.header =
      some (lsa.received mask) := by
  induction lsas generalizing lsdb with
  | nil => cases hmem
  | cons other lsas ih =>
      obtain ⟨hother, hrest⟩ := List.forall_mem_cons.mp hconsistent
      obtain ⟨hfirst, hothers⟩ := List.pairwise_cons.mp hdistinct
      rw [putAll, List.foldl_cons]
      rcases List.mem_cons.mp hmem with rfl | hlater
      · have hne : ∀ later ∈ lsas, ¬lsa.header.SameLsa later.header :=
          fun later hlater hsame => hfirst later hlater hsame.1
        have hself : lsa.header.SameLsa (lsa.received mask).header := by
          rw [OwnLsa.header_received]
          exact ⟨rfl, rfl, rfl⟩
        refine (findLike_putAll_of_ne hrest hne _).trans ?_
        rw [findLike_put (hother.received mask), if_pos hself]
      · exact ih hrest hothers hlater _

/-- What step 5 d makes of an LSA on the wire. -/
theorem install_wire (h : lsa.Consistent) (lsdb : LSDB) (delay mask : UInt32)
    (rest : List UInt8) :
    lsdb.install mask (Memory.ofList (lsa.wire delay ++ rest)) =
      .ok (lsdb.put (lsa.received mask)) := by
  have hheader := lsa.lsaHeaderHost_wire delay rest
  have hbytes : lsa.wire delay ++ rest =
      (Router.sealedHeader delay lsa.header lsa.body).store ++
        (lsa.body ++ rest) := by
    rw [OwnLsa.wire, Router.sealLsa_eq, List.append_assoc]
  have hntoh : LSAHeader.ntoh
      (Router.sealedHeader delay lsa.header lsa.body) =
        lsa.receivedHeader := by
    rw [← hheader, hbytes, lsaHeaderHost, LSAHeader.load_store]
  cases lsa with
  | router lsa =>
      obtain ⟨htype, -, hnum, hzero0, hzero1⟩ := h
      have hrouter : (lsaHeaderHost (Memory.ofList
          ((OwnLsa.router lsa).wire delay ++ rest))).lsType = lsaRouter := by
        rw [hheader]
        exact htype
      have hdecode := LSARouter.decode_store
        (Router.sealedHeader delay lsa.header lsa.encodeBody) hnum hzero0
        hzero1 rest
      rw [install, if_pos hrouter, installRouterLsa, hbytes]
      simp only [OwnLsa.header, OwnLsa.body] at hntoh ⊢
      rw [hdecode, hntoh]
      rfl
  | network lsa =>
      obtain ⟨htype, hlength⟩ := h
      have hnetwork : (lsaHeaderHost (Memory.ofList
          ((OwnLsa.network lsa).wire delay ++ rest))).lsType =
            lsaNetwork := by
        rw [hheader]
        exact htype
      have hdecode := @LSANetwork.decode_store lsa
        (Router.sealedHeader delay lsa.header lsa.encodeBody)
      rw [install_of_network hnetwork, installNetworkLsa, hbytes]
      simp only [OwnLsa.header, OwnLsa.body] at hntoh ⊢
      rw [hntoh] at hdecode
      rw [hdecode hlength]
      rfl

end LSDB

namespace Router

variable {r : Router} {lsa : OwnLsa}

/-! ## The LSAs of `update_lsas` -/

/-- The LSAs that go into the LSU. -/
def emitted (r : Router) : List OwnLsa :=
  (if r.EmitsNetworkLsa then [.network r.generateNetworkLsa] else []) ++
    if r.EmitsRouterLsa then
      [.router r.updateOwnNetworkLsa.1.generateRouterLsa]
    else []

theorem emittedLsas_eq (r : Router) :
    r.emittedLsas = r.emitted.map (OwnLsa.wire r.interface.infTransDelay) := by
  have hdelay : r.updateOwnNetworkLsa.1.interface.infTransDelay =
      r.interface.infTransDelay := by
    obtain ⟨_, _, _, horig⟩ := r.updateOwnNetworkLsa_originates
    rw [horig]
    rfl
  rw [Router.emittedLsas, emitted, updateOwnNetworkLsa_snd,
    updateOwnRouterLsa_snd, hdelay]
  split_ifs <;> rfl

theorem emittedHeaders_eq (r : Router) :
    r.emittedHeaders = r.emitted.map OwnLsa.header := by
  rw [emittedHeaders, emitted]
  split_ifs <;> rfl

/-- Of a kind there is one LSA at most. -/
theorem emitted_pairwise (r : Router) :
    r.emitted.Pairwise fun a b => a.header.lsType ≠ b.header.lsType := by
  have hne : lsaNetwork ≠ lsaRouter := by decide
  rw [emitted]
  split_ifs
  · exact List.pairwise_pair.mpr hne
  · exact List.pairwise_singleton _ _
  · exact List.pairwise_singleton _ _
  · exact List.Pairwise.nil

theorem mem_emitted :
    lsa ∈ r.emitted ↔
      (r.EmitsNetworkLsa ∧ lsa = .network r.generateNetworkLsa) ∨
        r.EmitsRouterLsa ∧
          lsa = .router r.updateOwnNetworkLsa.1.generateRouterLsa := by
  rw [emitted, List.mem_append]
  refine or_congr ?_ ?_
  · split_ifs with h <;> simp [h]
  · split_ifs with h <;> simp [h]

/-- As long as the data fits the buffer, no length or count overflows. -/
theorem consistent_of_fits
    (hfits : (lsuData r.emittedLsas).length ≤ lsuBufferSize)
    (h : lsa ∈ r.emitted) : lsa.Consistent := by
  have hsize : LSAHeader.size + lsa.body.length ≤ 1020 := by
    have hwire : lsa.wire r.interface.infTransDelay ∈ r.emittedLsas := by
      rw [emittedLsas_eq]
      exact List.mem_map_of_mem h
    have hpart : (lsa.wire r.interface.infTransDelay).length ≤
        r.emittedLsas.flatten.length := by
      rw [List.length_flatten]
      exact List.le_sum_of_mem (List.mem_map_of_mem hwire)
    rw [OwnLsa.wire, length_sealLsa] at hpart
    rw [lsuData, List.length_append, length_store32, lsuBufferSize] at hfits
    omega
  rcases mem_emitted.mp h with ⟨-, rfl⟩ | ⟨-, rfl⟩
  · rw [OwnLsa.body, length_networkBody, LSAHeader.size] at hsize
    refine ⟨rfl, ?_⟩
    change (UInt16.ofNat (LSANetwork.routersOffset + 4 *
      r.generateNetworkLsa.attachedRouters.length)).toNat = _
    rw [UInt16.toNat_ofNat', LSANetwork.routersOffset, LSAHeader.size]
    omega
  · rw [OwnLsa.body, length_routerBody, LSAHeader.size,
      LSARouterLink.size] at hsize
    refine ⟨rfl, ?_, ?_, rfl, rfl⟩
    · change (UInt16.ofNat (LSARouter.linksOffset + LSARouterLink.size *
        r.updateOwnNetworkLsa.1.generateRouterLsa.links.length)).toNat = _
      rw [UInt16.toNat_ofNat', LSARouter.linksOffset, LSAHeader.size,
        LSARouterLink.size]
      omega
    · change (UInt16.ofNat
        r.updateOwnNetworkLsa.1.generateRouterLsa.links.length).toNat = _
      rw [UInt16.toNat_ofNat']
      omega

/-! ## The LSU -/

/-- The LSU that `update_lsas` sends. -/
def ownLsu (r : Router) : List UInt8 :=
  r.ospfPacket r.interface.auType typeLsu (lsuData r.emittedLsas)

theorem emitted_eq_nil_iff : r.emitted = [] ↔ r.emittedLsas = [] := by
  rw [emittedLsas_eq, List.map_eq_nil_iff]

/-- `update_lsas` sends one LSU. -/
theorem updateLsas_log (hemits : r.emitted ≠ []) :
    r.updateLsas.log = r.log ++ [.sent r.segmentAddress r.ownLsu] := by
  obtain ⟨lsdb, count, headers, horig⟩ :=
    r.updateOwnNetworkLsa_originates.trans
      (updateOwnRouterLsa_originates r.updateOwnNetworkLsa.1)
  rw [updateLsas_of_emits (mt emitted_eq_nil_iff.mpr hemits), horig]
  rfl

end Router
end OspfLite
