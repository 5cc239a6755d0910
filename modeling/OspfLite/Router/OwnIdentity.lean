import OspfLite.Router.OwnLsas

/-!
# Two identities of one instance

`update_lsas` stores an LSA before its checksum is computed and sends it
afterwards.  The checksum is never zero, so to `lsa_header_cmp` the instance on
the wire is always newer than the one in the database.
-/

namespace OspfLite

/-- With a checksum, a header is newer than without. -/
theorem lsaHeaderCmp_checksum {h : LSAHeader} (hsum : h.lsChecksum = 0)
    {checksum : UInt16} (hchecksum : checksum ≠ 0) :
    lsaHeaderCmp { h with lsAge := 0, lsChecksum := checksum } h = -1 := by
  have hlow : ¬checksum < 0 := UInt16.not_lt_zero
  simp [lsaHeaderCmp, hsum, hchecksum]

namespace Router

/-- Every LSA in the LSU, decoded, is the instance in the database, so that an
echo of it is not found newer. -/
def OneIdentity (r : Router) : Prop :=
  ∀ lsa ∈ r.emittedLsas, ∀ rest,
    (∃ stored ∈ r.updateLsas.lsdb.findInstance
        (lsaHeaderHost (Memory.ofList (lsa ++ rest))),
      lsaHeaderCmp (lsaHeaderHost (Memory.ofList (lsa ++ rest))) stored = 0) ∧
    ¬r.updateLsas.NewOrNewer (lsaHeaderHost (Memory.ofList (lsa ++ rest)))

/-- The header a receiver decodes is newer than the generated one. -/
theorem lsaHeaderHost_sealLsa_newer (delay : UInt32) {header : LSAHeader}
    (hsum : header.lsChecksum = 0) (body rest : List UInt8) :
    lsaHeaderCmp
      (lsaHeaderHost (Memory.ofList (sealLsa delay header body ++ rest)))
      header = -1 := by
  rw [lsaHeaderHost_sealLsa]
  exact lsaHeaderCmp_checksum hsum (lsaChecksum_ne_zero _ _)

variable {r : Router}

/-- The database copy of a Router LSA that has gone into the LSU. -/
theorem findRouterLsa_of_emits (h : r.EmitsRouterLsa) :
    r.updateLsas.lsdb.findRouterLsa r.routerId r.routerId =
      some r.updateOwnNetworkLsa.1.generateRouterLsa := by
  have hfind := LSDB.findRouterLsa_updateRouterLsa
    (r.updateRouterLsa_snd_iff.mpr h)
  rw [updateLsas_lsdb]
  rw [← r.updateOwnNetworkLsa_fst.1]
  exact hfind

/-- The database copy, if there is one, of a Network LSA that has gone into
the LSU. -/
theorem findNetworkLsa_of_emits (h : r.EmitsNetworkLsa) :
    r.updateLsas.lsdb.findNetworkLsa r.interface.ipInterfaceAddress
        r.routerId =
      if r.lsdb.findNetworkLsa r.interface.ipInterfaceAddress r.routerId =
          none then some r.generateNetworkLsa else none := by
  have hflag : (r.lsdb.updateNetworkLsa r.generateNetworkLsa).2 = true :=
    (LSDB.updateNetworkLsa_snd r.lsdb r.generateNetworkLsa rfl rfl).mpr h.2
  have hlsdb : r.updateLsas.lsdb.networkLsas =
      (r.lsdb.updateNetworkLsa r.generateNetworkLsa).1.networkLsas := by
    rw [updateLsas_lsdb, LSDB.updateRouterLsa_networkLsas,
      updateOwnNetworkLsa, if_pos h.1]
    simp only [floodOwnLsa_lsdb]
  rw [LSDB.findNetworkLsa, hlsdb]
  exact LSDB.findNetworkLsa_updateNetworkLsa hflag

/-- No LSA in the LSU has the identity of its database copy: the one on the
wire is newer. -/
theorem lsaHeaderCmp_of_emitted {lsa : List UInt8} (h : lsa ∈ r.emittedLsas)
    (rest : List UInt8) {stored : LSAHeader}
    (hstored : stored ∈ r.updateLsas.lsdb.findInstance
      (lsaHeaderHost (Memory.ofList (lsa ++ rest)))) :
    lsaHeaderCmp (lsaHeaderHost (Memory.ofList (lsa ++ rest))) stored =
      -1 := by
  rw [emittedLsas, updateOwnNetworkLsa_snd, updateOwnRouterLsa_snd] at h
  rcases List.mem_append.mp h with hnetwork | hrouter
  · split_ifs at hnetwork with hemits
    · rw [List.mem_singleton] at hnetwork
      subst hnetwork
      have hfind := findNetworkLsa_of_emits hemits
      rw [lsaHeaderHost_sealLsa] at hstored
      change stored ∈ (r.updateLsas.lsdb.findNetworkLsa
        r.interface.ipInterfaceAddress r.routerId).map LSANetwork.header
          at hstored
      rw [hfind] at hstored
      split_ifs at hstored
      · cases hstored
        exact lsaHeaderHost_sealLsa_newer _ rfl _ _
      · cases hstored
    · cases hnetwork
  · split_ifs at hrouter with hemits
    · rw [List.mem_singleton] at hrouter
      subst hrouter
      have hfind := findRouterLsa_of_emits hemits
      rw [← r.updateOwnNetworkLsa_fst.1] at hfind
      rw [lsaHeaderHost_sealLsa] at hstored
      change stored ∈ (r.updateLsas.lsdb.findRouterLsa
        r.updateOwnNetworkLsa.1.routerId
        r.updateOwnNetworkLsa.1.routerId).map LSARouter.header at hstored
      rw [hfind] at hstored
      cases hstored
      exact lsaHeaderHost_sealLsa_newer _ rfl _ _
    · cases hrouter

/-- An LSU with an LSA in it gives that LSA a second identity. -/
theorem not_oneIdentity_of_emits (h : r.emittedLsas ≠ []) :
    ¬r.OneIdentity := by
  obtain ⟨lsa, hlsa⟩ := List.exists_mem_of_ne_nil _ h
  intro hone
  obtain ⟨⟨stored, hstored, hcmp⟩, -⟩ := hone lsa hlsa []
  rw [lsaHeaderCmp_of_emitted hlsa [] hstored] at hcmp
  exact absurd hcmp (by decide)

/-- The LSAs that `update_lsas` originates have one identity only when it
originates none: the router is not DR or its Network LSA in the database is not
outdated, and there is a Router LSA in the database that is not outdated. -/
theorem oneIdentity_iff (r : Router) :
    r.OneIdentity ↔ ¬r.EmitsNetworkLsa ∧ ¬r.EmitsRouterLsa := by
  rw [← emittedLsas_eq_nil_iff]
  constructor
  · intro h
    by_contra hemits
    exact not_oneIdentity_of_emits hemits h
  · intro hnone lsa hlsa
    rw [hnone] at hlsa
    cases hlsa

/-- The first LSAs of a DR. -/
theorem first_lsas_have_two_identities : ¬originatingRouter.OneIdentity :=
  not_oneIdentity_of_emits (by decide +kernel)

end Router
end OspfLite
