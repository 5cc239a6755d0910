import OspfLite.Router.OwnIdentity

/-!
# What the database holds

The searches of the database after it has been written to, by step 5 d of the
LSU handler and by `update_lsas`.
-/

namespace OspfLite

/-- The type is one of the two that the database stores. -/
def LSAHeader.Storable (header : LSAHeader) : Prop :=
  header.lsType = lsaRouter ∨ header.lsType = lsaNetwork

instance (header : LSAHeader) : Decidable header.Storable :=
  inferInstanceAs (Decidable (_ ∨ _))

/-- What identifies an LSA that can be stored. -/
theorem LSAHeader.storable_sameLsa_iff {header h : LSAHeader} {type : UInt8}
    (hheader : header.lsType = type)
    (htype : type = lsaRouter ∨ type = lsaNetwork) :
    header.Storable ∧ SameLsa header h ↔
      h.lsType = type ∧
        (header.linkStateId, header.advertisingRouter) = h.key := by
  rw [SameLsa, Storable, hheader, key, Prod.mk.injEq]
  exact ⟨fun hsame => ⟨hsame.2.1.symm, hsame.2.2⟩,
    fun hkey => ⟨htype, hkey.1.symm, hkey.2⟩⟩

namespace LSDB

variable {lsdb after : LSDB} {mask : UInt32} {data : Memory}

/-! ## Installation -/

theorem findRouterLsa_install (h : lsdb.install mask data = .ok after)
    (id adv : UInt32) :
    after.findRouterLsa id adv =
      if (lsaHeaderHost data).lsType = lsaRouter ∧
          (id, adv) = (lsaHeaderHost data).key then
        some (LSARouter.decode data)
      else lsdb.findRouterLsa id adv := by
  by_cases hrouter : (lsaHeaderHost data).lsType = lsaRouter
  · rw [install, if_pos hrouter, Except.ok.injEq] at h
    simp only [hrouter, true_and]
    rw [← h]
    exact KeyedList.lookup_insert _ _ _
  · rw [if_neg fun hkey => hrouter hkey.1]
    rw [install, if_neg hrouter] at h
    split_ifs at h
    · obtain ⟨lsa, -, rfl⟩ :=
        Option.map_eq_some_iff.mp (Outcome.ofOption_eq_ok.mp h)
      rfl
    · exact Except.ok.inj h ▸ rfl

theorem findNetworkLsa_install (h : lsdb.install mask data = .ok after)
    (id adv : UInt32) :
    after.findNetworkLsa id adv =
      if (lsaHeaderHost data).lsType = lsaNetwork ∧
          (id, adv) = (lsaHeaderHost data).key then
        LSANetwork.decode mask data
      else lsdb.findNetworkLsa id adv := by
  by_cases hnetwork : (lsaHeaderHost data).lsType = lsaNetwork
  · rw [install_of_network hnetwork] at h
    obtain ⟨lsa, hlsa, rfl⟩ :=
      Option.map_eq_some_iff.mp (Outcome.ofOption_eq_ok.mp h)
    have hkey : lsa.key = (lsaHeaderHost data).key :=
      congrArg LSAHeader.key (LSANetwork.header_of_decode hlsa)
    simp only [hnetwork, true_and, hlsa]
    rw [← hkey]
    exact KeyedList.lookup_insert _ _ _
  · rw [if_neg fun hkey => hnetwork hkey.1]
    rw [install] at h
    split_ifs at h
    · exact Except.ok.inj h ▸ rfl
    · exact Except.ok.inj h ▸ rfl

/-- The instance of an LSA after step 5 d. -/
theorem findInstance_install (h : lsdb.install mask data = .ok after)
    (header : LSAHeader) :
    after.findInstance header =
      if header.Storable ∧ LSAHeader.SameLsa header (lsaHeaderHost data) then
        some (lsaHeaderHost data)
      else lsdb.findInstance header := by
  rw [findInstance, findInstance, findHeader, findHeader,
    findRouterLsa_install h, findNetworkLsa_install h]
  by_cases hrouter : header.lsType = lsaRouter
  · rw [if_pos hrouter, if_pos hrouter]
    simp only [LSAHeader.storable_sameLsa_iff hrouter (Or.inl rfl)]
    split_ifs <;> rfl
  by_cases hnetwork : header.lsType = lsaNetwork
  · rw [if_neg hrouter, if_pos hnetwork, if_neg hrouter, if_pos hnetwork]
    simp only [LSAHeader.storable_sameLsa_iff hnetwork (Or.inr rfl)]
    split_ifs with hkey
    · rw [install_of_network hkey.1, Outcome.ofOption_eq_ok] at h
      obtain ⟨lsa, hlsa, -⟩ := Option.map_eq_some_iff.mp h
      rw [hlsa, Option.map_some, LSANetwork.header_of_decode hlsa]
    · rfl
  · have hnot : ¬header.Storable := not_or.mpr ⟨hrouter, hnetwork⟩
    rw [if_neg hrouter, if_neg hnetwork, if_neg hrouter, if_neg hnetwork,
      if_neg fun h => hnot h.1]

/-! ## Origination -/

theorem findRouterLsa_updateRouterLsa_eq (lsdb : LSDB) (lsa : LSARouter)
    (id adv : UInt32) :
    (lsdb.updateRouterLsa lsa).1.findRouterLsa id adv =
      if (lsdb.updateRouterLsa lsa).2 = true ∧ (id, adv) = lsa.key then
        some lsa
      else lsdb.findRouterLsa id adv := by
  rw [updateRouterLsa]
  cases hfind : lsdb.findRouterLsa lsa.header.linkStateId
      lsa.header.advertisingRouter with
  | none =>
      simp only [true_and]
      exact KeyedList.lookup_push hfind _
  | some old =>
      by_cases hcmp : lsaHeaderCmp lsa.header old.header < 0
      · simp only [if_pos hcmp, true_and]
        exact KeyedList.lookup_insert _ _ _
      · simp only [if_neg hcmp, Bool.false_eq_true, false_and, if_false]

theorem findNetworkLsa_updateNetworkLsa_eq (lsdb : LSDB) (lsa : LSANetwork)
    (id adv : UInt32) :
    (lsdb.updateNetworkLsa lsa).1.findNetworkLsa id adv =
      if (lsdb.updateNetworkLsa lsa).2 = true ∧ (id, adv) = lsa.key then
        if lsdb.findNetworkLsa id adv = none then some lsa else none
      else lsdb.findNetworkLsa id adv := by
  rw [updateNetworkLsa]
  cases hfind : lsdb.findNetworkLsa lsa.header.linkStateId
      lsa.header.advertisingRouter with
  | none =>
      simp only [true_and]
      have hpush : KeyedList.lookup LSANetwork.key
          (lsdb.networkLsas ++ [lsa]) (id, adv) =
            if (id, adv) = lsa.key then some lsa
            else KeyedList.lookup LSANetwork.key lsdb.networkLsas (id, adv) :=
        KeyedList.lookup_push hfind (id, adv)
      refine hpush.trans ?_
      split_ifs with hkey hnone
      · rfl
      · rw [findNetworkLsa, hkey] at hnone
        exact absurd hfind hnone
      · rfl
  | some old =>
      by_cases hcmp : lsaHeaderCmp lsa.header old.header < 0
      · simp only [if_pos hcmp, true_and]
        refine (KeyedList.lookup_erase lsdb.networkLsas lsa.key
          (id, adv)).trans ?_
        split_ifs with hkey hnone
        · have hold : KeyedList.lookup LSANetwork.key lsdb.networkLsas
              lsa.key = some old := hfind
          rw [findNetworkLsa, hkey, hold] at hnone
          cases hnone
        · rfl
        · rfl
      · simp only [if_neg hcmp, Bool.false_eq_true, false_and, if_false]

end LSDB

namespace Router

variable (r : Router) (id adv : UInt32)

/-- The Router LSA under a key after `update_lsas`. -/
theorem findRouterLsa_updateLsas :
    r.updateLsas.lsdb.findRouterLsa id adv =
      if r.EmitsRouterLsa ∧ (id, adv) = (r.routerId, r.routerId) then
        some r.updateOwnNetworkLsa.1.generateRouterLsa
      else r.lsdb.findRouterLsa id adv := by
  obtain ⟨hid, hrouter, -⟩ := r.updateOwnNetworkLsa_fst
  have hkey : r.updateOwnNetworkLsa.1.generateRouterLsa.key =
      (r.routerId, r.routerId) := by
    rw [← hid]
    rfl
  rw [updateLsas_lsdb, LSDB.findRouterLsa_updateRouterLsa_eq, hkey,
    LSDB.findRouterLsa, hrouter]
  simp only [r.updateRouterLsa_snd_iff]
  rfl

/-- The Network LSA under a key after `update_lsas`: where one is replaced,
none is left. -/
theorem findNetworkLsa_updateLsas :
    r.updateLsas.lsdb.findNetworkLsa id adv =
      if r.EmitsNetworkLsa ∧
          (id, adv) = (r.interface.ipInterfaceAddress, r.routerId) then
        if r.lsdb.findNetworkLsa id adv = none then some r.generateNetworkLsa
        else none
      else r.lsdb.findNetworkLsa id adv := by
  have hrouter : r.updateLsas.lsdb.findNetworkLsa id adv =
      r.updateOwnNetworkLsa.1.lsdb.findNetworkLsa id adv := by
    rw [updateLsas_lsdb, LSDB.findNetworkLsa, LSDB.findNetworkLsa,
      LSDB.updateRouterLsa_networkLsas]
  rw [hrouter]
  by_cases hdr : r.interface.state = .dr
  · rw [updateOwnNetworkLsa, if_pos hdr]
    simp only [floodOwnLsa_lsdb, LSDB.findNetworkLsa_updateNetworkLsa_eq,
      updateNetworkLsa_snd_iff hdr]
    rfl
  · rw [updateOwnNetworkLsa, if_neg hdr, if_neg fun h => hdr h.1.1]

end Router
end OspfLite
