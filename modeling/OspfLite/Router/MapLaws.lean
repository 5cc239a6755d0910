import OspfLite.Router.Originate
import OspfLite.Lib.Runs

/-!
# The database is a map

`find_router_lsa` and `find_network_lsa` return the first match, and nothing
checks that there is no second one.  Every insertion first erases or first
looks up its key, so there never is, and the database obeys the laws of a
finite map.
-/

namespace OspfLite
namespace LSDB

/-- No two entries of one kind have the same key. -/
structure KeysUnique (lsdb : LSDB) : Prop where
  router : KeyedList.Unique LSARouter.key lsdb.routerLsas
  network : KeyedList.Unique LSANetwork.key lsdb.networkLsas

theorem keysUnique_empty : empty.KeysUnique :=
  ⟨KeyedList.unique_nil, KeyedList.unique_nil⟩

variable {lsdb : LSDB}

/-! ## Distinct keys -/

theorem KeysUnique.installRouterLsa (h : lsdb.KeysUnique) (data : Memory) :
    (lsdb.installRouterLsa data).KeysUnique :=
  ⟨h.router.insert _, h.network⟩

theorem KeysUnique.installNetworkLsa (h : lsdb.KeysUnique)
    {uninitMask : UInt32} {data : Memory} {after : LSDB}
    (hinstall : lsdb.installNetworkLsa uninitMask data = some after) :
    after.KeysUnique := by
  obtain ⟨lsa, -, rfl⟩ := Option.map_eq_some_iff.mp hinstall
  exact ⟨h.router, h.network.insert _⟩

theorem KeysUnique.removeRouterLsa (h : lsdb.KeysUnique)
    (linkStateId advertisingRouter : UInt32) :
    (lsdb.removeRouterLsa linkStateId advertisingRouter).KeysUnique :=
  ⟨h.router.erase _, h.network⟩

theorem KeysUnique.removeNetworkLsa (h : lsdb.KeysUnique)
    (linkStateId advertisingRouter : UInt32) :
    (lsdb.removeNetworkLsa linkStateId advertisingRouter).KeysUnique :=
  ⟨h.router, h.network.erase _⟩

/-- A Network LSA is appended only after the search for its key has failed. -/
theorem KeysUnique.updateNetworkLsa (h : lsdb.KeysUnique)
    (lsa : LSANetwork) : (lsdb.updateNetworkLsa lsa).1.KeysUnique := by
  rw [LSDB.updateNetworkLsa]
  cases hfind : lsdb.findNetworkLsa lsa.header.linkStateId
      lsa.header.advertisingRouter with
  | none => exact ⟨h.router, h.network.push hfind⟩
  | some old =>
      simp only
      split_ifs
      · exact h.removeNetworkLsa _ _
      · exact h

/-- A Router LSA is appended after the search for its key has failed or its
key has been erased. -/
theorem KeysUnique.updateRouterLsa (h : lsdb.KeysUnique)
    (lsa : LSARouter) : (lsdb.updateRouterLsa lsa).1.KeysUnique := by
  rw [LSDB.updateRouterLsa]
  cases hfind : lsdb.findRouterLsa lsa.header.linkStateId
      lsa.header.advertisingRouter with
  | none => exact ⟨h.router.push hfind, h.network⟩
  | some old =>
      simp only
      split_ifs
      · exact ⟨h.router.insert lsa, h.network⟩
      · exact h

end LSDB

namespace Router

@[simp] theorem floodOwnLsa_lsdb (r : Router) (isFlooding : Bool)
    (header : LSAHeader) (body : List UInt8) :
    (r.floodOwnLsa isFlooding header body).1.lsdb = r.lsdb := by
  cases isFlooding <;> rfl

/-- What `update_lsas` leaves in the database. -/
theorem updateLsas_lsdb (r : Router) :
    r.updateLsas.lsdb =
      (r.updateOwnNetworkLsa.1.lsdb.updateRouterLsa
        r.updateOwnNetworkLsa.1.generateRouterLsa).1 := by
  have hrouter : r.updateOwnNetworkLsa.1.updateOwnRouterLsa.1.lsdb =
      (r.updateOwnNetworkLsa.1.lsdb.updateRouterLsa
        r.updateOwnNetworkLsa.1.generateRouterLsa).1 := by
    rw [updateOwnRouterLsa, floodOwnLsa_lsdb]
  rw [← hrouter, updateLsas]
  split_ifs <;> rfl

theorem updateOwnNetworkLsa_keysUnique {r : Router}
    (h : r.lsdb.KeysUnique) : r.updateOwnNetworkLsa.1.lsdb.KeysUnique := by
  rw [updateOwnNetworkLsa]
  split_ifs
  · rw [floodOwnLsa_lsdb]
    exact h.updateNetworkLsa _
  · exact h

theorem updateLsas_keysUnique {r : Router} (h : r.lsdb.KeysUnique) :
    r.updateLsas.lsdb.KeysUnique := by
  rw [updateLsas_lsdb]
  exact (updateOwnNetworkLsa_keysUnique h).updateRouterLsa _

end Router

namespace LSDB

variable {lsdb : LSDB}

/-! ## Runs of database operations -/

/-- The operations on the database.  `update_lsas` is called by a router
whose other fields may be anything. -/
inductive Operation where
  | installRouterLsa (data : Memory)
  | installNetworkLsa (uninitMask : UInt32) (data : Memory)
  | removeRouterLsa (linkStateId advertisingRouter : UInt32)
  | removeNetworkLsa (linkStateId advertisingRouter : UInt32)
  | updateLsas (caller : Router)

/-- Execute one operation. -/
def operate (lsdb : LSDB) : Operation → Outcome LSDB
  | .installRouterLsa data => .ok (lsdb.installRouterLsa data)
  | .installNetworkLsa uninitMask data =>
      .ofOption .endlessLoop (lsdb.installNetworkLsa uninitMask data)
  | .removeRouterLsa id adv => .ok (lsdb.removeRouterLsa id adv)
  | .removeNetworkLsa id adv => .ok (lsdb.removeNetworkLsa id adv)
  | .updateLsas caller => .ok { caller with lsdb := lsdb }.updateLsas.lsdb

/-- The length field of a Network LSA counts whole attached routers. -/
def WholeRouters (data : Memory) : Prop :=
  ∃ k, (LSAHeader.ntoh (LSAHeader.load data)).length.toNat = 24 + 4 * k

/-- The data an operation is given has whole attached routers. -/
def Operation.WellFormed : Operation → Prop
  | .installNetworkLsa _ data => WholeRouters data
  | _ => True

/-- A Network LSA with whole attached routers is decoded and installed. -/
theorem exists_installed {data : Memory} (h : WholeRouters data)
    (uninitMask : UInt32) (lsdb : LSDB) :
    ∃ lsa, LSANetwork.decode uninitMask data = some lsa ∧
      lsdb.installNetworkLsa uninitMask data =
        some { lsdb with
          networkLsas :=
            KeyedList.insert LSANetwork.key lsdb.networkLsas lsa } := by
  obtain ⟨k, hk⟩ := h
  have hsteps : pointerSteps LSANetwork.routersOffset
      (LSAHeader.ntoh (LSAHeader.load data)).length.toNat 4 = some k := by
    rw [hk, pointerSteps, LSANetwork.routersOffset, LSAHeader.size]
    rw [if_pos (by omega)]
    congr 1
    omega
  refine ⟨_, by rw [LSANetwork.decode, hsteps, Option.map_some], ?_⟩
  rw [LSDB.installNetworkLsa, LSANetwork.decode, hsteps, Option.map_some,
    Option.map_some]

/-- Without whole attached routers the installation never ends. -/
theorem installNetworkLsa_eq_none {data : Memory} (h : ¬WholeRouters data)
    (uninitMask : UInt32) (lsdb : LSDB) :
    lsdb.installNetworkLsa uninitMask data = none := by
  have hsteps : pointerSteps LSANetwork.routersOffset
      (LSAHeader.ntoh (LSAHeader.load data)).length.toNat 4 = none := by
    rw [pointerSteps, LSANetwork.routersOffset, LSAHeader.size]
    refine if_neg fun hwhole => h
      ⟨((LSAHeader.ntoh (LSAHeader.load data)).length.toNat - 24) / 4, ?_⟩
    omega
  rw [LSDB.installNetworkLsa, LSANetwork.decode, hsteps, Option.map_none,
    Option.map_none]

/-- One operation completes and keeps the keys distinct. -/
theorem operate_spec (h : lsdb.KeysUnique) {operation : Operation}
    (hwell : operation.WellFormed) :
    ∃ after, lsdb.operate operation = .ok after ∧ after.KeysUnique := by
  cases operation with
  | installRouterLsa data => exact ⟨_, rfl, h.installRouterLsa data⟩
  | installNetworkLsa uninitMask data =>
      obtain ⟨lsa, -, hinstall⟩ := exists_installed hwell uninitMask lsdb
      exact ⟨_, Outcome.ofOption_eq_ok.mpr hinstall,
        h.installNetworkLsa hinstall⟩
  | removeRouterLsa id adv => exact ⟨_, rfl, h.removeRouterLsa id adv⟩
  | removeNetworkLsa id adv => exact ⟨_, rfl, h.removeNetworkLsa id adv⟩
  | updateLsas caller => exact ⟨_, rfl, Router.updateLsas_keysUnique h⟩

/-! ## The laws of a map -/

/-- The effect of an operation on searches for entries of one kind: `key` now
gives `entry`, every other key what it gave before. -/
def Rebinds {α : Type} (before after : UInt32 → UInt32 → Option α)
    (key : LsaKey) (entry : Option α) : Prop :=
  after key.1 key.2 = entry ∧
    ∀ id adv, (id, adv) ≠ key → after id adv = before id adv

/-- The laws of a map, for installing and removing entries of both kinds. -/
structure IsMap (lsdb : LSDB) : Prop where
  keysUnique : lsdb.KeysUnique
  installRouterLsa : ∀ data,
    Rebinds lsdb.findRouterLsa (lsdb.installRouterLsa data).findRouterLsa
        (LSARouter.decode data).key (some (LSARouter.decode data)) ∧
      (lsdb.installRouterLsa data).findNetworkLsa = lsdb.findNetworkLsa
  installNetworkLsa : ∀ uninitMask data, WholeRouters data →
    ∃ lsa after, LSANetwork.decode uninitMask data = some lsa ∧
      lsdb.installNetworkLsa uninitMask data = some after ∧
      Rebinds lsdb.findNetworkLsa after.findNetworkLsa lsa.key (some lsa) ∧
      after.findRouterLsa = lsdb.findRouterLsa
  removeRouterLsa : ∀ id adv,
    Rebinds lsdb.findRouterLsa (lsdb.removeRouterLsa id adv).findRouterLsa
        (id, adv) none ∧
      (lsdb.removeRouterLsa id adv).findNetworkLsa = lsdb.findNetworkLsa
  removeNetworkLsa : ∀ id adv,
    Rebinds lsdb.findNetworkLsa (lsdb.removeNetworkLsa id adv).findNetworkLsa
        (id, adv) none ∧
      (lsdb.removeNetworkLsa id adv).findRouterLsa = lsdb.findRouterLsa

/-- Distinct keys are all the laws need. -/
theorem KeysUnique.isMap (h : lsdb.KeysUnique) : lsdb.IsMap where
  keysUnique := h
  installRouterLsa data :=
    ⟨⟨KeyedList.lookup_insert_self _ _,
      fun _ _ hne => KeyedList.lookup_insert_of_ne hne _⟩, rfl⟩
  installNetworkLsa uninitMask data hdata := by
    obtain ⟨lsa, hdecode, hinstall⟩ := exists_installed hdata uninitMask lsdb
    exact ⟨lsa, _, hdecode, hinstall,
      ⟨KeyedList.lookup_insert_self _ _,
        fun _ _ hne => KeyedList.lookup_insert_of_ne hne _⟩, rfl⟩
  removeRouterLsa id adv :=
    ⟨⟨KeyedList.lookup_erase_self _ _,
      fun _ _ hne => KeyedList.lookup_erase_of_ne hne _⟩, rfl⟩
  removeNetworkLsa id adv :=
    ⟨⟨KeyedList.lookup_erase_self _ _,
      fun _ _ hne => KeyedList.lookup_erase_of_ne hne _⟩, rfl⟩

/-- Every sequence of operations on an empty database, with whole attached
routers in every Network LSA that is installed, completes and leaves a
map. -/
theorem isMap_of_run (operations : List Operation)
    (hwell : ∀ operation ∈ operations, operation.WellFormed) :
    ∃ lsdb, runFrom operate empty operations = .ok lsdb ∧ lsdb.IsMap := by
  obtain ⟨lsdb, hrun, hunique⟩ := exists_runFrom
    (fun _ _ h hwell => operate_spec h hwell) keysUnique_empty
    (along_of_forall hwell empty)
  exact ⟨lsdb, hrun, hunique.isMap⟩

/-- The bytes of an LSA without links or attached routers. -/
def shortLsa (lsType : UInt8) (id lsSeqNum : UInt32) : Memory :=
  Memory.ofList ((LSAHeader.hton
    ⟨1, 2, lsType, id, id, lsSeqNum, 0, 24⟩).store ++ [0, 0, 0, 0])

/-- The router 1.1.1.1 is DR. -/
def drCaller : Router :=
  Router.new 0x01010101 initialSequenceNumber 0 ⟨0, 0, 0, false, false, false⟩
    [] { Interface.new 0x0a000001 0xffffff00 with state := .dr } []

/-- Two Router LSAs and a Network LSA are installed, the first one a second
time with a greater number; then the router originates its own LSAs, twice,
and two of the others are removed. -/
theorem isMap_of_run_installRemove :
    ∃ lsdb, runFrom operate empty
        [.installRouterLsa (shortLsa lsaRouter 0x02020202 0x80000001),
          .installNetworkLsa 0xffffff00
            (shortLsa lsaNetwork 0x0a000002 0x80000002),
          .installRouterLsa (shortLsa lsaRouter 0x03030303 0x80000001),
          .installRouterLsa (shortLsa lsaRouter 0x02020202 0x80000005),
          .updateLsas drCaller,
          .updateLsas { drCaller with lsSequenceCnt := 0x80000003 },
          .removeNetworkLsa 0x0a000002 0x0a000002,
          .removeRouterLsa 0x03030303 0x03030303] = .ok lsdb ∧
      lsdb.IsMap :=
  isMap_of_run _ (by
    simp only [List.forall_mem_cons, List.not_mem_nil, false_implies,
      implies_true, and_true]
    exact ⟨trivial, ⟨0, by decide +kernel⟩, trivial, trivial, trivial, trivial,
      trivial, trivial⟩)

end LSDB
end OspfLite
