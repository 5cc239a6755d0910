import OspfLite.LinkState.Ageing
import OspfLite.Router.MapLaws
import OspfLite.Router.Moves

/-!
# The process beside its ageing thread

Whatever a step of the process does to the database, it does by installing,
removing and appending LSAs.  What it stores is a second old at most, so no LSA
in the database ever gets near MaxAge.
-/

namespace OspfLite

/-! ## Changes of the database -/

/-- The handlers install and remove LSAs, and append new LSAs of their own. -/
def LsdbStep.ByHandler : LsdbStep → Prop
  | .tick => False
  | .pushRouter lsa => lsa.header.lsAge = 1
  | .pushNetwork lsa => lsa.header.lsAge = 1
  | _ => True

namespace LSDB

variable {lsdb lsdb' lsdb'' : LSDB}

/-- What the handlers can make of the database. -/
def Becomes (lsdb lsdb' : LSDB) : Prop :=
  ∃ steps : List LsdbStep, (∀ i ∈ steps, i.ByHandler) ∧
    runFrom step lsdb steps = .ok lsdb'

theorem becomes_refl (lsdb : LSDB) : lsdb.Becomes lsdb :=
  ⟨[], by simp, rfl⟩

theorem Becomes.trans (h : lsdb.Becomes lsdb') (h' : lsdb'.Becomes lsdb'') :
    lsdb.Becomes lsdb'' := by
  obtain ⟨steps, hsteps, hrun⟩ := h
  obtain ⟨steps', hsteps', hrun'⟩ := h'
  refine ⟨steps ++ steps', List.forall_mem_append.mpr ⟨hsteps, hsteps'⟩, ?_⟩
  rw [runFrom_append, hrun, Outcome.bind_ok, hrun']

theorem becomes_of_step {i : LsdbStep} (hi : i.ByHandler)
    (h : lsdb.step i = .ok lsdb') : lsdb.Becomes lsdb' := by
  refine ⟨[i], by simpa using hi, ?_⟩
  rw [runFrom_cons, h]
  rfl

/-- Step 5 d of the LSU handler. -/
theorem becomes_install {mask : UInt32} {data : Memory}
    (h : lsdb.install mask data = .ok lsdb') : lsdb.Becomes lsdb' := by
  rw [install] at h
  split_ifs at h
  · exact becomes_of_step (i := .installRouter data) trivial h
  · exact becomes_of_step (i := .installNetwork mask data) trivial h
  · exact Except.ok.inj h ▸ lsdb.becomes_refl

/-- The database part of `update_lsas` for a Router LSA. -/
theorem becomes_updateRouterLsa (lsdb : LSDB) {lsa : LSARouter}
    (hage : lsa.header.lsAge = 1) :
    lsdb.Becomes (lsdb.updateRouterLsa lsa).1 := by
  rw [updateRouterLsa]
  cases lsdb.findRouterLsa lsa.header.linkStateId
      lsa.header.advertisingRouter with
  | none => exact becomes_of_step (i := .pushRouter lsa) hage rfl
  | some old =>
      simp only
      split_ifs
      · have hremove : lsdb.Becomes (lsdb.removeRouterLsa
            lsa.header.linkStateId lsa.header.advertisingRouter) :=
          becomes_of_step (i := .removeRouter lsa.header.linkStateId
            lsa.header.advertisingRouter) trivial rfl
        exact hremove.trans (becomes_of_step (i := .pushRouter lsa) hage rfl)
      · exact lsdb.becomes_refl

/-- The database part of `update_lsas` for a Network LSA. -/
theorem becomes_updateNetworkLsa (lsdb : LSDB) {lsa : LSANetwork}
    (hage : lsa.header.lsAge = 1) :
    lsdb.Becomes (lsdb.updateNetworkLsa lsa).1 := by
  rw [updateNetworkLsa]
  cases lsdb.findNetworkLsa lsa.header.linkStateId
      lsa.header.advertisingRouter with
  | none => exact becomes_of_step (i := .pushNetwork lsa) hage rfl
  | some old =>
      simp only
      split_ifs
      · exact becomes_of_step (i := .removeNetwork lsa.header.linkStateId
          lsa.header.advertisingRouter) trivial rfl
      · exact lsdb.becomes_refl

end LSDB

namespace Router

variable {r r' : Router} {src : UInt32} {data : Memory} {s s' : LsuState}

theorem becomes_updateLsas (r : Router) :
    r.lsdb.Becomes r.updateLsas.lsdb := by
  have hnetwork : r.lsdb.Becomes r.updateOwnNetworkLsa.1.lsdb := by
    rw [updateOwnNetworkLsa]
    split_ifs
    · rw [floodOwnLsa_lsdb]
      exact r.lsdb.becomes_updateNetworkLsa rfl
    · exact r.lsdb.becomes_refl
  rw [updateLsas_lsdb]
  exact hnetwork.trans (LSDB.becomes_updateRouterLsa _ rfl)

/-- A round of the LSU loop installs one LSA at most. -/
theorem becomes_lsuRound (h : lsuRound src s data = .ok s') :
    s.router.lsdb.Becomes s'.router.lsdb := by
  rcases lsuRound_cases h with
    rfl | ⟨-, -, -, ⟨-, haccept⟩ | ⟨-, same, hreject⟩⟩
  · exact LSDB.becomes_refl _
  · exact LSDB.becomes_install (acceptLsa_lsdb haccept)
  · rcases rejectLsa_lsdb hreject with hsame | hinstall
    · rw [hsame]
      exact LSDB.becomes_refl _
    · exact LSDB.becomes_install hinstall

/-- An accepted Database Description packet can end in `update_lsas`. -/
theorem becomes_acceptedDd {ip : UInt32} {dd : OSPFDD}
    {headers : List LSAHeader} {m n popped : Neighbor}
    (hfind : r.findNeighbor ip = some m)
    (hfrom : Neighbor.AcceptedFrom r.lsdb m n)
    (hpopped : (n.takeIn r.lsdb dd headers).popAcknowledged = .ok popped) :
    r.lsdb.Becomes (((r.putNeighbor ip popped
      (r.acceptanceLog ip headers n)).concludeDd ip dd popped).replyDd
        ip).lsdb := by
  have hip := popped_ip hfind hfrom hpopped
  rw [concludeDd_putNeighbor hfind hip]
  split_ifs
  · have hfull := findNeighbor_putNeighbor hfind
      (popped.reachFull_ip.trans hip) (r.acceptanceLog ip headers n)
    rw [replyDd_eq (findNeighbor_updateLsas hfull)]
    exact becomes_updateLsas
      (r.putNeighbor ip popped.reachFull (r.acceptanceLog ip headers n))
  · rw [replyDd_eq (findNeighbor_putNeighbor hfind hip _)]
    exact r.lsdb.becomes_refl

/-- A step of the process does to the database what the handlers can do. -/
theorem becomes_step {step : Step} (h : r.step step = .ok r') :
    r.lsdb.Becomes r'.lsdb := by
  cases step_moves h with
  | recedes hrecedes =>
      obtain ⟨-, entries, -, hr'⟩ := hrecedes
      rw [hr']
      exact r.lsdb.becomes_refl
  | describes hadmits htype hheaders haccepted hpopped =>
      obtain ⟨m, hfind, hfrom⟩ := acceptedDd_spec haccepted
      exact becomes_acceptedDd hfind hfrom hpopped
  | updates hadmits htype hknown hrun =>
      have hrounds := runFrom_invariant
        (I := fun s : LsuState => r.lsdb.Becomes s.router.lsdb)
        (P := fun _ _ => True)
        (fun s data s' hs _ hs' => hs.trans (becomes_lsuRound hs'))
        r.lsdb.becomes_refl (along_of_forall (fun _ _ => trivial) _) hrun
      rw [sendLsack]
      split_ifs
      · exact hrounds
      · exact hrounds
  | acknowledges => exact r.lsdb.becomes_refl

end Router

/-! ## Ages -/

/-- The age is one that the ageing thread can bring about. -/
def LSAHeader.Young (h : LSAHeader) : Prop := h.lsAge.toNat ≤ 255

namespace LSAHeader

theorem Young.aged {h : LSAHeader} (hy : h.Young) : h.aged.Young := by
  rw [Young, aged_lsAge_toNat]
  rw [Young] at hy
  split_ifs <;> omega

/-- A received header has age 0. -/
theorem young_ntoh (h : LSAHeader) : (ntoh h).Young := by
  rw [Young, ntoh_lsAge]
  decide

theorem young_of_one {h : LSAHeader} (hage : h.lsAge = 1) : h.Young := by
  rw [Young, hage]
  decide

end LSAHeader

namespace LSDB

variable {lsdb lsdb' : LSDB}

/-- Every LSA in the database is young. -/
structure Young (lsdb : LSDB) : Prop where
  router : ∀ lsa ∈ lsdb.routerLsas, lsa.header.Young
  network : ∀ lsa ∈ lsdb.networkLsas, lsa.header.Young

theorem Young.tick (h : lsdb.Young) : lsdb.tick.Young := by
  constructor
  · exact List.forall_mem_map.mpr fun lsa hlsa => (h.router lsa hlsa).aged
  · exact List.forall_mem_map.mpr fun lsa hlsa => (h.network lsa hlsa).aged

theorem Young.step {i : LsdbStep} (h : lsdb.Young) (hi : i.ByHandler)
    (hstep : lsdb.step i = .ok lsdb') : lsdb'.Young := by
  cases i with
  | tick => exact absurd hi id
  | installRouter data =>
      rw [← Except.ok.inj hstep]
      exact ⟨forall_mem_push h.router (List.filter_subset_self _)
        (LSAHeader.young_ntoh _), h.network⟩
  | installNetwork uninitMask data =>
      obtain ⟨lsa, hlsa, rfl⟩ := Option.map_eq_some_iff.mp
        (Outcome.ofOption_eq_ok.mp hstep)
      refine ⟨h.router,
        forall_mem_push h.network (List.filter_subset_self _) ?_⟩
      rw [LSANetwork.header_of_decode hlsa]
      exact LSAHeader.young_ntoh _
  | pushRouter lsa =>
      rw [← Except.ok.inj hstep]
      exact ⟨forall_mem_push h.router (List.Subset.refl _)
        (LSAHeader.young_of_one hi), h.network⟩
  | pushNetwork lsa =>
      rw [← Except.ok.inj hstep]
      exact ⟨h.router, forall_mem_push h.network (List.Subset.refl _)
        (LSAHeader.young_of_one hi)⟩
  | removeRouter id adv =>
      rw [← Except.ok.inj hstep]
      exact ⟨fun lsa hlsa => h.router lsa (List.mem_of_mem_filter hlsa),
        h.network⟩
  | removeNetwork id adv =>
      rw [← Except.ok.inj hstep]
      exact ⟨h.router,
        fun lsa hlsa => h.network lsa (List.mem_of_mem_filter hlsa)⟩

theorem Young.becomes (h : lsdb.Young) (hb : lsdb.Becomes lsdb') :
    lsdb'.Young := by
  obtain ⟨steps, hsteps, hrun⟩ := hb
  exact runFrom_invariant (P := fun _ i => i.ByHandler)
    (fun _ _ _ hy hi hstep => hy.step hi hstep) h
    (along_of_forall hsteps lsdb) hrun

end LSDB

namespace Router

/-- The process beside its ageing thread: a step of the process, or a round of
the thread. -/
def stepAgeing (r : Router) : Step ⊕ Unit → Outcome Router
  | .inl step => r.step step
  | .inr () => .ok { r with lsdb := r.lsdb.tick }

end Router
end OspfLite
