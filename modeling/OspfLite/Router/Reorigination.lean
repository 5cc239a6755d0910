import OspfLite.Router.OwnLsas

/-!
# Objects of the database

The database is a list of pointers, and `update_lsas` deletes every object it
has allocated.  Here the objects get an identity: which pointers the database
holds, and which objects have been deleted.  A deleted object is taken to keep
its contents.
-/

namespace OspfLite

/-- An object behind a pointer. -/
structure LsaObject (α : Type) where
  address : ℕ
  value : α
deriving DecidableEq, Repr

/-- The key of an object with a Router LSA. -/
abbrev LsaObject.routerKey (o : LsaObject LSARouter) : LsaKey := o.value.key

/-- The key of an object with a Network LSA. -/
abbrev LsaObject.networkKey (o : LsaObject LSANetwork) : LsaKey := o.value.key

/-- The two lists of pointers, the objects deleted so far, and the address the
next `new` returns. -/
structure ObjectLsdb where
  routerLsas : List (LsaObject LSARouter)
  networkLsas : List (LsaObject LSANetwork)
  deleted : List ℕ
  next : ℕ
deriving DecidableEq, Repr

namespace ObjectLsdb

/-- What the objects contain. -/
def values (db : ObjectLsdb) : LSDB where
  routerLsas := db.routerLsas.map LsaObject.value
  networkLsas := db.networkLsas.map LsaObject.value

/-- `delete` of the object just allocated. -/
def deleteNew (db : ObjectLsdb) : ObjectLsdb :=
  { db with deleted := db.deleted ++ [db.next], next := db.next + 1 }

/-- The block of `update_lsas` for a Network LSA, from `new` to `delete`. -/
def updateNetworkLsa (db : ObjectLsdb) (lsa : LSANetwork) : ObjectLsdb :=
  let created : LsaObject LSANetwork := ⟨db.next, lsa⟩
  match KeyedList.lookup LsaObject.networkKey db.networkLsas lsa.key with
  | none => { db with networkLsas := db.networkLsas ++ [created] }.deleteNew
  | some old =>
      if lsaHeaderCmp lsa.header old.value.header < 0 then
        { db with
          networkLsas := KeyedList.erase LsaObject.networkKey db.networkLsas
            lsa.key }.deleteNew
      else
        db.deleteNew

/-- The block for a Router LSA. -/
def updateRouterLsa (db : ObjectLsdb) (lsa : LSARouter) : ObjectLsdb :=
  let created : LsaObject LSARouter := ⟨db.next, lsa⟩
  match KeyedList.lookup LsaObject.routerKey db.routerLsas lsa.key with
  | none => { db with routerLsas := db.routerLsas ++ [created] }.deleteNew
  | some old =>
      if lsaHeaderCmp lsa.header old.value.header < 0 then
        { db with
          routerLsas := KeyedList.erase LsaObject.routerKey db.routerLsas
            lsa.key ++ [created] }.deleteNew
      else
        db.deleteNew

/-! ## The objects contain what the database holds -/

theorem findNetworkLsa_values (db : ObjectLsdb) (key : LsaKey) :
    db.values.findNetworkLsa key.1 key.2 =
      (KeyedList.lookup LsaObject.networkKey db.networkLsas key).map
        LsaObject.value :=
  KeyedList.lookup_map LsaObject.value db.networkLsas key

theorem findRouterLsa_values (db : ObjectLsdb) (key : LsaKey) :
    db.values.findRouterLsa key.1 key.2 =
      (KeyedList.lookup LsaObject.routerKey db.routerLsas key).map
        LsaObject.value :=
  KeyedList.lookup_map LsaObject.value db.routerLsas key

/-- The block on objects does to their contents what the block on values
does. -/
theorem values_updateNetworkLsa (db : ObjectLsdb) (lsa : LSANetwork) :
    (db.updateNetworkLsa lsa).values =
      (db.values.updateNetworkLsa lsa).1 := by
  have hfind := db.findNetworkLsa_values lsa.key
  change db.values.findNetworkLsa lsa.header.linkStateId
    lsa.header.advertisingRouter = _ at hfind
  rw [LSDB.updateNetworkLsa, hfind, updateNetworkLsa]
  cases KeyedList.lookup LsaObject.networkKey db.networkLsas lsa.key with
  | none => simp [values, deleteNew]
  | some old =>
      simp only [Option.map_some]
      split_ifs
      · simp only [values, deleteNew, LSDB.removeNetworkLsa,
          KeyedList.erase_map]
        rfl
      · rfl

theorem values_updateRouterLsa (db : ObjectLsdb) (lsa : LSARouter) :
    (db.updateRouterLsa lsa).values = (db.values.updateRouterLsa lsa).1 := by
  have hfind := db.findRouterLsa_values lsa.key
  change db.values.findRouterLsa lsa.header.linkStateId
    lsa.header.advertisingRouter = _ at hfind
  rw [LSDB.updateRouterLsa, hfind, updateRouterLsa]
  cases KeyedList.lookup LsaObject.routerKey db.routerLsas lsa.key with
  | none => simp [values, deleteNew]
  | some old =>
      simp only [Option.map_some]
      split_ifs
      · simp only [values, deleteNew, LSDB.removeRouterLsa,
          KeyedList.erase_map, List.map_append]
        rfl
      · rfl

/-! ## What is left under the key -/

variable {db : ObjectLsdb}

/-- A Router LSA that has gone into the LSU is the only entry under its key,
and has been deleted. -/
theorem under_updateRouterLsa {lsa : LSARouter}
    (h : ∀ old ∈ KeyedList.lookup LsaObject.routerKey db.routerLsas lsa.key,
      lsaHeaderCmp lsa.header old.value.header < 0) :
    KeyedList.under LsaObject.routerKey (db.updateRouterLsa lsa).routerLsas
        lsa.key = [⟨db.next, lsa⟩] ∧
      db.next ∈ (db.updateRouterLsa lsa).deleted := by
  have hcreated : KeyedList.under LsaObject.routerKey
      [⟨db.next, lsa⟩] lsa.key = [⟨db.next, lsa⟩] :=
    KeyedList.under_singleton_self _
  rw [updateRouterLsa]
  cases hold : KeyedList.lookup LsaObject.routerKey db.routerLsas lsa.key with
  | none =>
      simp [deleteNew, KeyedList.under_append, hcreated,
        KeyedList.under_of_lookup_eq_none hold]
  | some old =>
      simp [h old hold, deleteNew, KeyedList.under_append, hcreated]

/-- A Network LSA that has gone into the LSU is the only entry under its key,
and has been deleted, if there was no entry before; otherwise there is none
left. -/
theorem under_updateNetworkLsa {lsa : LSANetwork}
    (h : ∀ old ∈ KeyedList.lookup LsaObject.networkKey db.networkLsas
        lsa.key, lsaHeaderCmp lsa.header old.value.header < 0) :
    KeyedList.under LsaObject.networkKey
        (db.updateNetworkLsa lsa).networkLsas lsa.key =
        (if KeyedList.lookup LsaObject.networkKey db.networkLsas lsa.key =
          none then [⟨db.next, lsa⟩] else []) ∧
      db.next ∈ (db.updateNetworkLsa lsa).deleted := by
  have hcreated : KeyedList.under LsaObject.networkKey
      [⟨db.next, lsa⟩] lsa.key = [⟨db.next, lsa⟩] :=
    KeyedList.under_singleton_self _
  rw [updateNetworkLsa]
  cases hold : KeyedList.lookup LsaObject.networkKey db.networkLsas
      lsa.key with
  | none =>
      simp [deleteNew, KeyedList.under_append, hcreated,
        KeyedList.under_of_lookup_eq_none hold]
  | some old => simp [h old hold, deleteNew]

/-- Objects stay deleted. -/
theorem deleted_subset_updateRouterLsa (db : ObjectLsdb) (lsa : LSARouter) :
    db.deleted ⊆ (db.updateRouterLsa lsa).deleted := by
  rw [updateRouterLsa]
  cases KeyedList.lookup LsaObject.routerKey db.routerLsas lsa.key with
  | none => simp [deleteNew]
  | some old =>
      simp only
      split_ifs <;> simp [deleteNew]

/-- A Router LSA leaves the pointers to Network LSAs alone. -/
theorem networkLsas_updateRouterLsa (db : ObjectLsdb) (lsa : LSARouter) :
    (db.updateRouterLsa lsa).networkLsas = db.networkLsas := by
  rw [updateRouterLsa]
  cases KeyedList.lookup LsaObject.routerKey db.routerLsas lsa.key with
  | none => rfl
  | some old =>
      simp only
      split_ifs <;> rfl

end ObjectLsdb

/-! ## The process -/

/-- The process with the objects of its database. -/
structure Process where
  router : Router
  objects : ObjectLsdb
  contents : objects.values = router.lsdb

namespace Process

/-- The objects after the block of the Network LSA. -/
def networkObjects (p : Process) : ObjectLsdb :=
  if p.router.interface.state = .dr then
    p.objects.updateNetworkLsa p.router.generateNetworkLsa
  else
    p.objects

theorem values_networkObjects (p : Process) :
    p.networkObjects.values = p.router.updateOwnNetworkLsa.1.lsdb := by
  rw [networkObjects, Router.updateOwnNetworkLsa]
  split_ifs
  · rw [ObjectLsdb.values_updateNetworkLsa, p.contents,
      Router.floodOwnLsa_lsdb]
  · exact p.contents

/-- `update_lsas(interface)`, with the objects it allocates and deletes. -/
def updateLsas (p : Process) : Process where
  router := p.router.updateLsas
  objects := p.networkObjects.updateRouterLsa
    p.router.updateOwnNetworkLsa.1.generateRouterLsa
  contents := by
    rw [ObjectLsdb.values_updateRouterLsa, values_networkObjects,
      Router.updateLsas_lsdb]

/-- The database keeps the Network LSA that has gone into the LSU: it is the
only entry under its key, and its object has not been deleted. -/
def KeepsNetworkLsa (p : Process) : Prop :=
  p.router.updateOwnNetworkLsa.2 ≠ [] →
    ∃ o, KeyedList.under LsaObject.networkKey p.updateLsas.objects.networkLsas
        p.router.generateNetworkLsa.key = [o] ∧
      o.value = p.router.generateNetworkLsa ∧
      o.address ∉ p.updateLsas.objects.deleted

/-- The same for the Router LSA. -/
def KeepsRouterLsa (p : Process) : Prop :=
  p.router.updateOwnNetworkLsa.1.updateOwnRouterLsa.2 ≠ [] →
    ∃ o, KeyedList.under LsaObject.routerKey p.updateLsas.objects.routerLsas
        p.router.updateOwnNetworkLsa.1.generateRouterLsa.key = [o] ∧
      o.value = p.router.updateOwnNetworkLsa.1.generateRouterLsa ∧
      o.address ∉ p.updateLsas.objects.deleted

variable {p : Process}

/-- The Network LSA is never kept: its object is deleted, or the database has
lost it. -/
theorem not_keepsNetworkLsa (h : p.router.EmitsNetworkLsa) :
    ¬p.KeepsNetworkLsa := by
  have hnewer : ∀ old ∈ KeyedList.lookup LsaObject.networkKey
      p.objects.networkLsas p.router.generateNetworkLsa.key,
      lsaHeaderCmp p.router.generateNetworkLsa.header old.value.header <
        0 := by
    intro old hold
    have hfind := p.objects.findNetworkLsa_values
      p.router.generateNetworkLsa.key
    rw [p.contents, Option.mem_def.mp hold] at hfind
    exact (lsaHeaderCmp_lt_zero_iff rfl rfl).mpr (h.2 _ hfind)
  obtain ⟨hunder, hdeleted⟩ := ObjectLsdb.under_updateNetworkLsa hnewer
  intro hkeeps
  obtain ⟨o, ho, -, halive⟩ := hkeeps (by
    rw [Router.updateOwnNetworkLsa_snd, if_pos h]
    exact List.cons_ne_nil _ _)
  have hobjects : p.networkObjects =
      p.objects.updateNetworkLsa p.router.generateNetworkLsa := if_pos h.1
  rw [updateLsas, ObjectLsdb.networkLsas_updateRouterLsa, hobjects,
    hunder] at ho
  -- a database that has lost the entry has no object at all
  split_ifs at ho
  rw [List.cons.injEq] at ho
  refine halive (ObjectLsdb.deleted_subset_updateRouterLsa _ _ ?_)
  rw [hobjects, ← ho.1]
  exact hdeleted

/-- The Router LSA is never kept: its object is deleted. -/
theorem not_keepsRouterLsa (h : p.router.EmitsRouterLsa) :
    ¬p.KeepsRouterLsa := by
  have hnewer : ∀ old ∈ KeyedList.lookup LsaObject.routerKey
      p.networkObjects.routerLsas
        p.router.updateOwnNetworkLsa.1.generateRouterLsa.key,
      lsaHeaderCmp p.router.updateOwnNetworkLsa.1.generateRouterLsa.header
        old.value.header < 0 := by
    intro old hold
    have hfind := p.networkObjects.findRouterLsa_values
      p.router.updateOwnNetworkLsa.1.generateRouterLsa.key
    rw [p.values_networkObjects, Option.mem_def.mp hold] at hfind
    have hall := (LSDB.updateRouterLsa_snd _ _ rfl rfl).mp
      (p.router.updateRouterLsa_snd_iff.mpr h)
    exact (lsaHeaderCmp_lt_zero_iff rfl rfl).mpr (hall _ hfind)
  obtain ⟨hunder, hdeleted⟩ := ObjectLsdb.under_updateRouterLsa hnewer
  intro hkeeps
  obtain ⟨o, ho, -, halive⟩ := hkeeps (by
    rw [Router.updateOwnRouterLsa_snd, if_pos h]
    exact List.cons_ne_nil _ _)
  rw [updateLsas, hunder, List.cons.injEq] at ho
  apply halive
  rw [updateLsas, ← ho.1]
  exact hdeleted

/-- After `update_lsas` the database keeps the LSAs that have gone into the
LSU exactly when there are none: the Network LSA in the database is not
outdated, or the router is not DR, and its Router LSA in the database is not
outdated. -/
theorem keepsOwnLsas_iff (p : Process) :
    p.KeepsNetworkLsa ∧ p.KeepsRouterLsa ↔
      ¬p.router.EmitsNetworkLsa ∧ ¬p.router.EmitsRouterLsa := by
  constructor
  · rintro ⟨hnetwork, hrouter⟩
    exact ⟨fun h => not_keepsNetworkLsa h hnetwork,
      fun h => not_keepsRouterLsa h hrouter⟩
  · rintro ⟨hnetwork, hrouter⟩
    constructor
    · intro h
      rw [Router.updateOwnNetworkLsa_snd, if_neg hnetwork] at h
      exact absurd rfl h
    · intro h
      rw [Router.updateOwnRouterLsa_snd, if_neg hrouter] at h
      exact absurd rfl h

/-- A DR with a FULL neighbor, before its first origination. -/
def originating : Process where
  router := Router.originatingRouter
  objects := ⟨[], [], [], 0⟩
  contents := rfl

/-- The second origination of a DR leaves the database without the Network LSA
it has just flooded. -/
theorem second_network_lsa_lost :
    ¬(originating.updateLsas.KeepsNetworkLsa ∧
      originating.updateLsas.KeepsRouterLsa) ∧
    originating.updateLsas.router.updateOwnNetworkLsa.2 ≠ [] ∧
    originating.updateLsas.updateLsas.objects.networkLsas = [] :=
  ⟨fun h => not_keepsNetworkLsa (by decide +kernel) h.1,
    by decide +kernel, by decide +kernel⟩

end Process

end OspfLite
