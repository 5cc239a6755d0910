import OspfLite.Router.AgeingLsas
import OspfLite.Router.Instances

/-!
# Router LSAs are not lost

Whatever is received, a Router LSA stays in the database until one with the same
key takes its place, and the sequence number under a key never goes down.
-/

namespace OspfLite

/-- An instance that is taken for newer does not have a smaller sequence
number. -/
theorem lsSeqNum_le_of_newer {a b : LSAHeader} (h : lsaHeaderCmp a b < 0) :
    b.lsSeqNum ≤ a.lsSeqNum := by
  by_cases hne : a.lsSeqNum ≠ b.lsSeqNum
  · rw [lsaHeaderCmp, if_pos hne] at h
    split_ifs at h with hlt
    · exact absurd h (by decide)
    · exact UInt32.not_lt.mp hlt
  · rw [not_not.mp hne]
    exact UInt32.le_refl _

namespace LSDB

variable {lsdb lsdb' lsdb'' : LSDB}

/-- No Router LSA is lost, and the sequence number under a key does not go
down. -/
def RoutersGrow (lsdb lsdb' : LSDB) : Prop :=
  ∀ id adv old, lsdb.findRouterLsa id adv = some old →
    ∃ new, lsdb'.findRouterLsa id adv = some new ∧
      old.header.lsSeqNum ≤ new.header.lsSeqNum

theorem routersGrow_of_eq (h : lsdb'.routerLsas = lsdb.routerLsas) :
    lsdb.RoutersGrow lsdb' := by
  intro id adv old hold
  refine ⟨old, ?_, UInt32.le_refl _⟩
  rw [findRouterLsa, h]
  exact hold

theorem routersGrow_refl (lsdb : LSDB) : lsdb.RoutersGrow lsdb :=
  routersGrow_of_eq rfl

theorem RoutersGrow.trans (h : lsdb.RoutersGrow lsdb')
    (h' : lsdb'.RoutersGrow lsdb'') : lsdb.RoutersGrow lsdb'' := by
  intro id adv a ha
  obtain ⟨b, hb, hab⟩ := h id adv a ha
  obtain ⟨c, hc, hbc⟩ := h' id adv b hb
  exact ⟨c, hc, UInt32.le_trans hab hbc⟩

/-- One Router LSA at most is put under its key. -/
theorem routersGrow_of_bind {C : Prop} [Decidable C] {own : LSARouter}
    (heq : ∀ id adv, lsdb'.findRouterLsa id adv =
      if C ∧ (id, adv) = own.key then some own
      else lsdb.findRouterLsa id adv)
    (hle : C → ∀ old ∈ lsdb.findRouterLsa own.header.linkStateId
      own.header.advertisingRouter,
        old.header.lsSeqNum ≤ own.header.lsSeqNum) :
    lsdb.RoutersGrow lsdb' := by
  intro id adv old hold
  rw [heq]
  split_ifs with hkey
  · obtain ⟨hC, hkey⟩ := hkey
    obtain ⟨rfl, rfl⟩ := Prod.mk.inj hkey
    exact ⟨own, rfl, hle hC old hold⟩
  · exact ⟨old, hold, UInt32.le_refl _⟩

/-- Installing an LSA: a Router LSA has to be no older. -/
theorem routersGrow_install {mask : UInt32} {data : Memory}
    (hinstall : lsdb.install mask data = .ok lsdb')
    (hle : (lsaHeaderHost data).lsType = lsaRouter →
      ∀ old ∈ lsdb.findRouterLsa (lsaHeaderHost data).linkStateId
        (lsaHeaderHost data).advertisingRouter,
          old.header.lsSeqNum ≤ (lsaHeaderHost data).lsSeqNum) :
    lsdb.RoutersGrow lsdb' :=
  @routersGrow_of_bind _ _ _ _ (LSARouter.decode data)
    (findRouterLsa_install hinstall) hle

theorem routersGrow_updateRouterLsa (lsdb : LSDB) (own : LSARouter) :
    lsdb.RoutersGrow (lsdb.updateRouterLsa own).1 := by
  refine routersGrow_of_bind (lsdb.findRouterLsa_updateRouterLsa_eq own)
    fun hflag old hold => ?_
  rw [updateRouterLsa, hold] at hflag
  by_cases hcmp : lsaHeaderCmp own.header old.header < 0
  · exact lsSeqNum_le_of_newer hcmp
  · simp [if_neg hcmp] at hflag

/-- The age is no sequence number. -/
theorem routersGrow_tick (lsdb : LSDB) : lsdb.RoutersGrow lsdb.tick := by
  have haged : ∀ header : LSAHeader, header.aged.key = header.key ∧
      header.aged.lsSeqNum = header.lsSeqNum := by
    intro header
    rw [LSAHeader.aged]
    split_ifs
    · exact ⟨rfl, rfl⟩
    · exact ⟨rfl, rfl⟩
  intro id adv old hold
  have hlookup := @KeyedList.lookup_map _ _ _ LSARouter.key _
    (fun lsa : LSARouter => { lsa with header := lsa.header.aged })
    lsdb.routerLsas (id, adv)
  have hkeys : (fun lsa : LSARouter => LSARouter.key
      { lsa with header := lsa.header.aged }) = LSARouter.key :=
    funext fun lsa => (haged lsa.header).1
  rw [hkeys] at hlookup
  refine ⟨{ old with header := old.header.aged }, ?_, ?_⟩
  · refine hlookup.trans ?_
    change Option.map _ (lsdb.findRouterLsa id adv) = _
    rw [hold]
    rfl
  · rw [(haged old.header).2]
    exact UInt32.le_refl _

end LSDB

namespace Router

variable {r r' : Router} {src : UInt32} {data : Memory} {s s' : LsuState}

/-- A round of the LSU loop. -/
theorem lsuRound_routersGrow (h : lsuRound src s data = .ok s') :
    s.router.lsdb.RoutersGrow s'.router.lsdb := by
  rcases lsuRound_cases h with
    rfl | ⟨-, -, -, ⟨hnew, haccept⟩ | ⟨-, same, hreject⟩⟩
  · exact LSDB.routersGrow_refl _
  · apply LSDB.routersGrow_install (acceptLsa_lsdb haccept)
    intro htype old hold
    apply lsSeqNum_le_of_newer
    apply hnew
    rw [LSDB.findInstance, LSDB.findHeader, if_pos htype]
    exact Option.mem_map_of_mem _ hold
  · rcases rejectLsa_cases hreject with
      ⟨-, hrouter⟩ | ⟨-, t, lsdb, -, hrouter, hlsdb⟩
    · rw [hrouter]
      exact LSDB.routersGrow_refl _
    · rw [hrouter]
      rcases hlsdb with rfl | ⟨htype, hinstall⟩
      · exact LSDB.routersGrow_refl _
      · apply LSDB.routersGrow_install hinstall
        intro hrouter
        rw [htype] at hrouter
        exact absurd hrouter (by decide)

theorem updateLsas_routersGrow (r : Router) :
    r.lsdb.RoutersGrow r.updateLsas.lsdb := by
  rw [updateLsas_lsdb]
  refine LSDB.RoutersGrow.trans (LSDB.routersGrow_of_eq ?_)
    (LSDB.routersGrow_updateRouterLsa _ _)
  exact r.updateOwnNetworkLsa_fst.2.1

/-- The induction over what a step does to the database: rounds of the LSU
loop, or one `update_lsas`. -/
theorem step_lsdb {R : LSDB → LSDB → Prop} {step : Step}
    (hrefl : ∀ lsdb, R lsdb lsdb)
    (htrans : ∀ lsdb lsdb' lsdb'', R lsdb lsdb' → R lsdb' lsdb'' →
      R lsdb lsdb'')
    (hround : ∀ src data s s', lsuRound src s data = .ok s' →
      R s.router.lsdb s'.router.lsdb)
    (hupdate : ∀ t : Router, R t.lsdb t.updateLsas.lsdb)
    (h : r.step step = .ok r') : R r.lsdb r'.lsdb := by
  cases step_moves h with
  | recedes hrecedes =>
      obtain ⟨-, entries, -, hr'⟩ := hrecedes
      rw [hr']
      exact hrefl r.lsdb
  | @describes _ packet headers n popped hadmits htype hheaders haccepted
      hpopped =>
      obtain ⟨m, hfind, hfrom⟩ := acceptedDd_spec haccepted
      have hip := popped_ip hfind hfrom hpopped
      rw [concludeDd_putNeighbor hfind hip]
      split_ifs
      · have hfull := findNeighbor_putNeighbor hfind
          (popped.reachFull_ip.trans hip)
            (r.acceptanceLog (ntohl (packet.load32 12)) headers n)
        rw [replyDd_eq (findNeighbor_updateLsas hfull)]
        exact hupdate (r.putNeighbor _ popped.reachFull _)
      · rw [replyDd_eq (findNeighbor_putNeighbor hfind hip _)]
        exact hrefl r.lsdb
  | updates hadmits htype hknown hrun =>
      have hrounds := runFrom_invariant
        (I := fun s : LsuState => R r.lsdb s.router.lsdb)
        (P := fun _ _ => True)
        (fun s data s' hs _ hs' => htrans _ _ _ hs (hround _ _ _ _ hs'))
        (hrefl r.lsdb) (along_of_forall (fun _ _ => trivial) _) hrun
      rw [sendLsack]
      split_ifs
      · exact hrounds
      · exact hrounds
  | acknowledges => exact hrefl r.lsdb

theorem stepAgeing_routersGrow {a : Step ⊕ Unit}
    (h : r.stepAgeing a = .ok r') : r.lsdb.RoutersGrow r'.lsdb := by
  rcases a with step | _
  · exact step_lsdb LSDB.routersGrow_refl (fun _ _ _ => LSDB.RoutersGrow.trans)
      (fun _ _ _ _ => lsuRound_routersGrow) updateLsas_routersGrow h
  · exact Except.ok.inj h ▸ r.lsdb.routersGrow_tick

/-- Whatever is received, and whenever the ageing thread runs, a Router LSA
that is in the database can only give way to one whose sequence number is not
smaller. -/
theorem routersGrow_of_run (r : Router) (steps : List (Step ⊕ Unit)) :
    Throughout stepAgeing (fun t => r.lsdb.RoutersGrow t.lsdb) r steps := by
  intro js t _ hrun
  exact runFrom_invariant (I := fun t : Router => r.lsdb.RoutersGrow t.lsdb)
    (P := fun _ _ => True)
    (fun _ _ _ hs _ hs' => hs.trans (stepAgeing_routersGrow hs'))
    r.lsdb.routersGrow_refl (along_of_forall (fun _ _ => trivial) _) hrun

end Router
end OspfLite
