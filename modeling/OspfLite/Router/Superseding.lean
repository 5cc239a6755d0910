import OspfLite.Router.Instances
import OspfLite.Router.Backing

/-!
# Superseding the own LSAs

`ls_sequence_cnt` numbers the LSAs that `update_lsas` generates, and nothing
but `update_lsas` advances it.  An LSU can install an LSA under one of the
router's own keys with any sequence number; while the counter is behind it,
what `update_lsas` generates is discarded.
-/

namespace OspfLite

namespace Router

variable {r r' : Router} {ip : UInt32} {packet data : Memory} {src : UInt32}
  {s s' : LsuState} {n : Neighbor} {dd : OSPFDD} {headers : List LSAHeader}

/-- What the next `update_lsas` generates is newer than what the database
holds, so that it goes into the LSU; the Router LSA is installed. -/
structure CanSupersede (r : Router) : Prop where
  router : ∀ old ∈ r.lsdb.findRouterLsa r.routerId r.routerId,
    lsaHeaderCmp r.updateOwnNetworkLsa.1.generateRouterLsa.header
      old.header < 0
  network : r.interface.state = .dr →
    ∀ old ∈ r.lsdb.findNetworkLsa r.interface.ipInterfaceAddress r.routerId,
      lsaHeaderCmp r.generateNetworkLsa.header old.header < 0
  flooded : r.emittedLsas =
    (if r.interface.state = .dr then
      [sealLsa r.interface.infTransDelay r.generateNetworkLsa.header
        r.generateNetworkLsa.encodeBody]
    else []) ++
      [sealLsa r.updateOwnNetworkLsa.1.interface.infTransDelay
        r.updateOwnNetworkLsa.1.generateRouterLsa.header
        r.updateOwnNetworkLsa.1.generateRouterLsa.encodeBody]
  installed : r.updateLsas.lsdb.findRouterLsa r.routerId r.routerId =
    some r.updateOwnNetworkLsa.1.generateRouterLsa

/-- The router can supersede its LSAs exactly when they go into the LSU. -/
theorem canSupersede_iff (r : Router) :
    r.CanSupersede ↔
      r.EmitsRouterLsa ∧ (r.interface.state = .dr → r.EmitsNetworkLsa) := by
  constructor
  · intro h
    refine ⟨r.emitsRouterLsa_iff.mpr h.router, fun hdr => ⟨hdr, ?_⟩⟩
    intro old hold
    exact (lsaHeaderCmp_lt_zero_iff rfl rfl).mp (h.network hdr old hold)
  · rintro ⟨hrouter, hnetwork⟩
    have hiff : r.EmitsNetworkLsa ↔ r.interface.state = .dr :=
      ⟨fun h => h.1, hnetwork⟩
    refine ⟨r.emitsRouterLsa_iff.mp hrouter, ?_, ?_,
      findRouterLsa_of_emits hrouter⟩
    · intro hdr old hold
      exact (lsaHeaderCmp_lt_zero_iff rfl rfl).mpr
        ((hnetwork hdr).2 old hold)
    · rw [emittedLsas, updateOwnNetworkLsa_snd, updateOwnRouterLsa_snd,
        if_pos hrouter]
      simp only [hiff]

/-! ## The counter is ahead -/

/-- The sequence counter has passed the own LSAs in the database, and can go
on. -/
structure CounterAhead (r : Router) : Prop where
  router : ∀ old ∈ r.lsdb.findRouterLsa r.routerId r.routerId,
    old.header.lsSeqNum < r.lsSequenceCnt
  network : ∀ old ∈ r.lsdb.findNetworkLsa r.interface.ipInterfaceAddress
      r.routerId, old.header.lsSeqNum < r.lsSequenceCnt
  room : r.lsSequenceCnt < 0xffffffff

/-- What the own LSAs are numbered and found by. -/
def numbering (r : Router) : UInt32 × UInt32 × UInt32 :=
  (r.lsSequenceCnt, r.routerId, r.interface.ipInterfaceAddress)

theorem CounterAhead.of_same (h : r.CounterAhead)
    (hnumbering : r'.numbering = r.numbering) (hlsdb : r'.lsdb = r.lsdb) :
    r'.CounterAhead := by
  simp only [numbering, Prod.mk.injEq] at hnumbering
  obtain ⟨hcount, hid, haddress⟩ := hnumbering
  constructor
  · rw [hlsdb, hid, hcount]
    exact h.router
  · rw [hlsdb, hid, hcount, haddress]
    exact h.network
  · rw [hcount]
    exact h.room

/-- The next number is greater. -/
theorem lt_succ_of_lt_max {a : UInt32} (h : a < 0xffffffff) : a < a + 1 := by
  rw [UInt32.lt_iff_toNat_lt] at h ⊢
  have hmax : (0xffffffff : UInt32).toNat = 4294967295 := rfl
  rw [UInt32.toNat_add, UInt32.toNat_one]
  omega

/-- While the counter is ahead, the router can supersede its LSAs. -/
theorem CounterAhead.canSupersede (h : r.CounterAhead) : r.CanSupersede := by
  rw [canSupersede_iff]
  constructor
  · intro old hold
    have hlt := h.router old hold
    left
    rw [routerLsaSeqNum]
    split_ifs
    · exact UInt32.lt_trans hlt (lt_succ_of_lt_max h.room)
    · exact hlt
  · intro hdr
    exact ⟨hdr, fun old hold => Or.inl (h.network old hold)⟩

/-! ## What keeps the counter ahead -/

/-- `update_lsas` advances the counter once for each LSA. -/
theorem updateLsas_lsSequenceCnt (r : Router) :
    r.updateLsas.lsSequenceCnt = r.routerLsaSeqNum + 1 := by
  have hcount : r.updateOwnNetworkLsa.1.updateOwnRouterLsa.1.lsSequenceCnt =
      r.updateOwnNetworkLsa.1.lsSequenceCnt + 1 := by
    rw [updateOwnRouterLsa, floodOwnLsa]
    split_ifs <;> rfl
  rw [← r.updateOwnNetworkLsa_fst.2.2, ← hcount, updateLsas]
  split_ifs <;> rfl

/-- The identity and the address stay. -/
theorem updateLsas_numbering (r : Router) :
    r.updateLsas.numbering =
      (r.routerLsaSeqNum + 1, r.routerId, r.interface.ipInterfaceAddress) := by
  rw [numbering, updateLsas_lsSequenceCnt]
  obtain ⟨r', entries, ⟨_, _, _, rfl⟩, heq, -⟩ := r.updateLsas_eq
  rw [heq]
  rfl

/-- There are numbers for the LSAs of one more `update_lsas`, and for what
comes after. -/
def HasNumbers (r : Router) : Prop :=
  r.lsSequenceCnt.toNat + (if r.interface.state = .dr then 2 else 1) <
    4294967295

instance (r : Router) : Decidable r.HasNumbers :=
  inferInstanceAs (Decidable (_ < _))

/-- The numbers of an `update_lsas` that has numbers left. -/
theorem HasNumbers.lt (h : r.HasNumbers) :
    r.lsSequenceCnt < r.routerLsaSeqNum + 1 ∧
      r.routerLsaSeqNum < r.routerLsaSeqNum + 1 ∧
      r.routerLsaSeqNum + 1 < 0xffffffff := by
  have hmax : (0xffffffff : UInt32).toNat = 4294967295 := rfl
  rw [HasNumbers] at h
  simp only [routerLsaSeqNum, UInt32.lt_iff_toNat_lt, hmax]
  split_ifs at h ⊢
  · rw [UInt32.toNat_add, UInt32.toNat_add, UInt32.toNat_one]
    omega
  · rw [UInt32.toNat_add, UInt32.toNat_one]
    omega

/-- With numbers left, `update_lsas` keeps the counter ahead. -/
theorem CounterAhead.updateLsas (h : r.CounterAhead) (hroom : r.HasNumbers) :
    r.updateLsas.CounterAhead := by
  obtain ⟨hcount, hnext, hmax⟩ := hroom.lt
  obtain ⟨hrouter, -⟩ := r.canSupersede_iff.mp h.canSupersede
  have hnumbering := r.updateLsas_numbering
  simp only [numbering, Prod.mk.injEq] at hnumbering
  obtain ⟨hcnt, hid, haddress⟩ := hnumbering
  constructor
  · rw [hid, hcnt, findRouterLsa_of_emits hrouter]
    intro old hold
    rw [← Option.some.inj hold]
    have hseq : r.updateOwnNetworkLsa.1.generateRouterLsa.header.lsSeqNum =
        r.routerLsaSeqNum := r.updateOwnNetworkLsa_fst.2.2
    rw [hseq]
    exact hnext
  · rw [hid, hcnt, haddress, findNetworkLsa_updateLsas]
    intro old hold
    split_ifs at hold
    · rw [← Option.some.inj hold]
      exact hcount
    · cases hold
    · exact UInt32.lt_trans (h.network old hold) hcount
  · rw [hcnt]
    exact hmax

/-- The LSA has one of the keys of the router's own LSAs. -/
def HasOwnKey (r : Router) (header : LSAHeader) : Prop :=
  (header.lsType = lsaRouter ∧ header.key = (r.routerId, r.routerId)) ∨
    (header.lsType = lsaNetwork ∧
      header.key = (r.interface.ipInterfaceAddress, r.routerId))

instance (r : Router) (header : LSAHeader) :
    Decidable (r.HasOwnKey header) :=
  inferInstanceAs (Decidable (_ ∧ _ ∨ _ ∧ _))

/-- An LSA of the router itself that step 5 lets through has a sequence number
the counter has passed. -/
def OwnLsasPassed (_src : UInt32) (s : LsuState) (data : Memory) : Prop :=
  s.badLsReq = false → ChecksumOk data → (lsaHeaderHost data).TypeOk →
    s.router.NewOrNewer (lsaHeaderHost data) →
    s.router.HasOwnKey (lsaHeaderHost data) →
    (lsaHeaderHost data).lsSeqNum < s.router.lsSequenceCnt

instance (src : UInt32) (s : LsuState) (data : Memory) :
    Decidable (OwnLsasPassed src s data) :=
  inferInstanceAs (Decidable (_ → _ → _ → _ → _ → _))

/-- Installing an LSA that is not the router's own, or which the counter has
passed. -/
theorem CounterAhead.install (h : r.CounterAhead)
    (hpassed : r.HasOwnKey (lsaHeaderHost data) →
      (lsaHeaderHost data).lsSeqNum < r.lsSequenceCnt)
    (hinstall : r.lsdb.install r.uninit.networkMask data = .ok r'.lsdb)
    (hnumbering : r'.numbering = r.numbering) : r'.CounterAhead := by
  simp only [numbering, Prod.mk.injEq] at hnumbering
  obtain ⟨hcount, hid, haddress⟩ := hnumbering
  constructor
  · rw [hid, hcount, LSDB.findRouterLsa_install hinstall]
    intro old hold
    split_ifs at hold with hown
    · rw [← Option.some.inj hold]
      exact hpassed (Or.inl ⟨hown.1, hown.2.symm⟩)
    · exact h.router old hold
  · rw [hid, hcount, haddress, LSDB.findNetworkLsa_install hinstall]
    intro old hold
    split_ifs at hold with hown
    · rw [LSANetwork.header_of_decode hold]
      exact hpassed (Or.inr ⟨hown.1, hown.2.symm⟩)
    · exact h.network old hold
  · rw [hcount]
    exact h.room

/-- What step 8 installs is not newer than what is there. -/
theorem CounterAhead.passed_of_not_newer (h : r.CounterAhead)
    (hnewer : ¬r.NewOrNewer (lsaHeaderHost data))
    (hown : r.HasOwnKey (lsaHeaderHost data)) :
    (lsaHeaderHost data).lsSeqNum < r.lsSequenceCnt := by
  simp only [NewOrNewer, not_forall] at hnewer
  obtain ⟨stored, hstored, hcmp⟩ := hnewer
  refine UInt32.lt_of_le_of_lt (lsSeqNum_le_of_not_newer hcmp) ?_
  rcases hown with ⟨htype, hkey⟩ | ⟨htype, hkey⟩
  · obtain ⟨hid, hadv⟩ := Prod.mk.inj hkey
    rw [LSDB.findInstance, LSDB.findHeader, if_pos htype, hid, hadv] at hstored
    obtain ⟨old, hold, rfl⟩ := Option.map_eq_some_iff.mp hstored
    exact h.router old hold
  · obtain ⟨hid, hadv⟩ := Prod.mk.inj hkey
    have hrouter := LSAHeader.ne_router_of_network htype
    rw [LSDB.findInstance, LSDB.findHeader, if_neg hrouter, if_pos htype, hid,
      hadv] at hstored
    obtain ⟨old, hold, rfl⟩ := Option.map_eq_some_iff.mp hstored
    exact h.network old hold

/-! ## Steps -/

theorem acceptLsa_numbering (h : acceptLsa src data s = .ok s') :
    s'.router.numbering = s.router.numbering := by
  obtain ⟨lsdb, -, rfl⟩ := Outcome.map_eq_ok.mp h
  have haddress : (s.router.floodingLsa data src
      s.router.interface).1.ipInterfaceAddress =
        s.router.interface.ipInterfaceAddress := by
    by_cases hexternal : (lsaHeaderHost data).lsType = lsaAsExternal
    · rw [floodingLsa, if_pos hexternal]
    · rw [floodingLsa_fst _ _ _ hexternal]
  rw [numbering, numbering, ← haddress]
  rfl

theorem acceptLsa_state (h : acceptLsa src data s = .ok s') :
    s'.router.interface.state = s.router.interface.state := by
  obtain ⟨lsdb, -, rfl⟩ := Outcome.map_eq_ok.mp h
  change (s.router.floodingLsa data src s.router.interface).1.state = _
  by_cases hexternal : (lsaHeaderHost data).lsType = lsaAsExternal
  · rw [floodingLsa, if_pos hexternal]
  · rw [floodingLsa_fst _ _ _ hexternal]

theorem rejectLsa_numbering {same : Bool}
    (h : rejectLsa src data same s = .ok s') :
    s'.router.numbering = s.router.numbering := by
  rcases rejectLsa_cases h with
    ⟨-, hrouter⟩ | ⟨-, r, lsdb, rfl | rfl, hrouter, -⟩ <;>
  · rw [hrouter]
    rfl

/-- A round of the LSU loop. -/
theorem CounterAhead.lsuRound (h : s.router.CounterAhead)
    (hpassed : OwnLsasPassed src s data)
    (hs' : lsuRound src s data = .ok s') : s'.router.CounterAhead := by
  rcases lsuRound_cases hs' with
    rfl | ⟨hbad, hsum, htype, ⟨hnew, haccept⟩ | ⟨hnew, same, hreject⟩⟩
  · exact h
  · exact h.install (hpassed hbad hsum htype hnew) (acceptLsa_lsdb haccept)
      (acceptLsa_numbering haccept)
  · have hnumbering := rejectLsa_numbering hreject
    rcases rejectLsa_lsdb hreject with hsame | hinstall
    · exact h.of_same hnumbering hsame
    · exact h.install (h.passed_of_not_newer hnew) hinstall hnumbering

/-- Handling an accepted Database Description packet. -/
theorem CounterAhead.acceptedDd {m popped : Neighbor} (h : r.CounterAhead)
    (hfind : r.findNeighbor ip = some m)
    (hfrom : Neighbor.AcceptedFrom r.lsdb m n)
    (hpopped : (n.takeIn r.lsdb dd headers).popAcknowledged = .ok popped)
    (hroom : n.Completes dd headers → r.HasNumbers) :
    (((r.putNeighbor ip popped
      (r.acceptanceLog ip headers n)).concludeDd ip dd popped).replyDd
        ip).CounterAhead := by
  have hip := popped_ip hfind hfrom hpopped
  rw [concludeDd_putNeighbor hfind hip]
  split_ifs with hdone
  · have hnumbers : (r.putNeighbor ip popped.reachFull
        (r.acceptanceLog ip headers n)).HasNumbers :=
      hroom ((Neighbor.completes_iff hfrom.state hpopped).mpr hdone)
    have hput : (r.putNeighbor ip popped.reachFull
        (r.acceptanceLog ip headers n)).CounterAhead := h.of_same rfl rfl
    have hfull := findNeighbor_putNeighbor hfind
      (popped.reachFull_ip.trans hip) (r.acceptanceLog ip headers n)
    rw [replyDd_eq (findNeighbor_updateLsas hfull)]
    exact (hput.updateLsas hnumbers).of_same rfl rfl
  · rw [replyDd_eq (findNeighbor_putNeighbor hfind hip _)]
    exact h.of_same rfl rfl

theorem recedes_numbering (h : r.Recedes r') :
    r'.numbering = r.numbering ∧ r'.lsdb = r.lsdb := by
  obtain ⟨⟨base, hbase, hinter⟩, entries, -, hr'⟩ := h
  have haddress : r'.interface.ipInterfaceAddress =
      r.interface.ipInterfaceAddress := by
    rw [hinter.address]
    rcases hbase with rfl | ⟨ip, rfl⟩
    · rfl
    · rw [Interface.ensureNeighbor]
      split_ifs <;> rfl
  constructor
  · rw [numbering, numbering, haddress, hr']
  · rw [hr']

/-- When an exchange is concluded, the sequence numbers do not run out. -/
def ConcludesWithNumbers (r : Router) (_ip : UInt32) (dd : OSPFDD)
    (headers : List LSAHeader) (n : Neighbor) : Prop :=
  n.Completes dd headers → r.HasNumbers

instance (r : Router) (ip : UInt32) (dd : OSPFDD) (headers : List LSAHeader)
    (n : Neighbor) : Decidable (r.ConcludesWithNumbers ip dd headers n) :=
  inferInstanceAs (Decidable (n.Completes dd headers → _))

/-- No LSA that is installed catches up with the counter, and the counter does
not run out. -/
def CounterStaysAhead (r : Router) (step : Step) : Prop :=
  r.EachLsuRound OwnLsasPassed step ∧
    r.EachAcceptedDd ConcludesWithNumbers step

instance (r : Router) (step : Step) : Decidable (r.CounterStaysAhead step) :=
  inferInstanceAs (Decidable (_ ∧ _))

/-- The counter stays ahead with every step that meets the condition. -/
theorem CounterAhead.step {step : Step} (h : r.CounterAhead)
    (hcond : r.CounterStaysAhead step) (hr' : r.step step = .ok r') :
    r'.CounterAhead := by
  cases step_moves hr' with
  | recedes hrecedes =>
      obtain ⟨hnumbering, hlsdb⟩ := recedes_numbering hrecedes
      exact h.of_same hnumbering hlsdb
  | describes hadmits htype hheaders haccepted hpopped =>
      obtain ⟨m, hm, hfrom⟩ := acceptedDd_spec haccepted
      exact h.acceptedDd hm hfrom hpopped
        (hcond.2 hadmits htype _ hheaders _ haccepted)
  | updates hadmits htype hknown hrun =>
      have hrounds := runFrom_invariant
        (I := fun s : LsuState => s.router.CounterAhead)
        (fun s data s' hs hround hs' => hs.lsuRound hround hs') h
        (hcond.1 hadmits htype hknown) hrun
      rw [sendLsack]
      split_ifs
      · exact hrounds.of_same rfl rfl
      · exact hrounds
  | acknowledges => exact h.of_same rfl rfl

/-! ## Runs -/

theorem boot_counterAhead (routerId areaId : UInt32) (uninit : Uninit)
    (loopbacks : List (UInt32 × UInt32)) (address mask : UInt32) :
    (boot routerId areaId uninit loopbacks address mask).CounterAhead := by
  constructor
  · intro old hold
    cases hold
  · intro old hold
    cases hold
  · change initialSequenceNumber < 0xffffffff
    decide

/-- In every run of the process in which no LSA is installed that catches up
with the sequence counter, and the counter does not run out, the router can
supersede its own LSAs in every state. -/
theorem canSupersede_of_run (routerId areaId : UInt32) (uninit : Uninit)
    (loopbacks : List (UInt32 × UInt32)) (address mask : UInt32)
    (steps : List Step)
    (hcond : Along step CounterStaysAhead
      (boot routerId areaId uninit loopbacks address mask) steps) :
    Throughout step CanSupersede
      (boot routerId areaId uninit loopbacks address mask) steps := by
  intro js t hsteps hjs
  have hahead : t.CounterAhead := runFrom_invariant (I := CounterAhead)
    (fun r step r' h hstep hr' => h.step hstep hr')
    (boot_counterAhead routerId areaId uninit loopbacks address mask)
    (along_of_beginning hcond hsteps) hjs
  exact hahead.canSupersede

/-- The run in which 1.1.1.1 becomes DR and concludes an exchange. -/
theorem canSupersede_of_run_peerExchange :
    Throughout step CanSupersede
      (boot 0x01010101 0 ⟨0, 0, 0, false, false, false⟩ [] 0x0a000001
        0xffffff00)
      ([.waitingTimeout, .timers 0] ++ peerExchange) :=
  canSupersede_of_run _ _ _ _ _ _ _ (by decide +kernel)

/-! ## The converse for one round -/

/-- The number of the next LSA of the kind. -/
def nextSeqNum (r : Router) (header : LSAHeader) : UInt32 :=
  if header.lsType = lsaRouter then r.routerLsaSeqNum else r.lsSequenceCnt

/-- Of age 0, a received LSA is outdated by its number only. -/
theorem not_outdated_of_received {number : UInt32}
    (h : ¬(lsaHeaderHost data).lsSeqNum < number) :
    ¬(lsaHeaderHost data).Outdated number := by
  rintro (hlt | ⟨-, -, -, hage⟩)
  · exact h hlt
  · rw [lsaHeaderHost, LSAHeader.ntoh_lsAge] at hage
    exact absurd hage (by decide)

/-- A Router LSA of the router itself that has caught up is not replaced. -/
theorem not_emitsRouterLsa_of_accept (h : acceptLsa src data s = .ok s')
    (htype : (lsaHeaderHost data).lsType = lsaRouter)
    (hkey : (lsaHeaderHost data).key = (s.router.routerId, s.router.routerId))
    (hnext : ¬(lsaHeaderHost data).lsSeqNum < s.router.routerLsaSeqNum) :
    ¬s'.router.EmitsRouterLsa := by
  obtain ⟨hcount, hid, -⟩ : _ ∧ _ ∧ _ := by
    simpa only [numbering, Prod.mk.injEq] using acceptLsa_numbering h
  have hfind : s'.router.lsdb.findRouterLsa s'.router.routerId
      s'.router.routerId = some (LSARouter.decode data) := by
    rw [hid, LSDB.findRouterLsa_install (acceptLsa_lsdb h),
      if_pos ⟨htype, hkey.symm⟩]
  intro hemits
  refine not_outdated_of_received ?_ (hemits _ hfind)
  rwa [routerLsaSeqNum, hcount, acceptLsa_state h]

/-- Nor is a Network LSA. -/
theorem not_emitsNetworkLsa_of_accept (h : acceptLsa src data s = .ok s')
    (htype : (lsaHeaderHost data).lsType = lsaNetwork)
    (hkey : (lsaHeaderHost data).key =
      (s.router.interface.ipInterfaceAddress, s.router.routerId))
    (hnext : ¬(lsaHeaderHost data).lsSeqNum < s.router.lsSequenceCnt) :
    ¬s'.router.EmitsNetworkLsa := by
  obtain ⟨hcount, hid, haddress⟩ : _ ∧ _ ∧ _ := by
    simpa only [numbering, Prod.mk.injEq] using acceptLsa_numbering h
  have hinstall := acceptLsa_lsdb h
  rw [LSDB.install_of_network htype] at hinstall
  obtain ⟨lsa, hlsa, -⟩ :=
    Option.map_eq_some_iff.mp (Outcome.ofOption_eq_ok.mp hinstall)
  have hfind : s'.router.lsdb.findNetworkLsa
      s'.router.interface.ipInterfaceAddress s'.router.routerId =
        some lsa := by
    rw [hid, haddress, LSDB.findNetworkLsa_install (acceptLsa_lsdb h),
      if_pos ⟨htype, hkey.symm⟩, hlsa]
  rintro ⟨-, hemits⟩
  have houtdated := hemits _ hfind
  rw [LSANetwork.header_of_decode hlsa, hcount] at houtdated
  exact not_outdated_of_received hnext houtdated

/-- A round of the LSU loop that lets an LSA of the router itself through ends
the property, if the LSA has caught up with the one that would supersede
it. -/
theorem not_canSupersede_of_lsuRound (hround : lsuRound src s data = .ok s')
    (hnot : ¬OwnLsasPassed src s data)
    (hdr : (lsaHeaderHost data).lsType = lsaNetwork →
      s.router.interface.state = .dr)
    (hnext : ¬(lsaHeaderHost data).lsSeqNum <
      s.router.nextSeqNum (lsaHeaderHost data)) :
    ¬s'.router.CanSupersede := by
  simp only [OwnLsasPassed, Classical.not_imp] at hnot
  obtain ⟨hbad, hsum, htypeOk, hnew, hown, -⟩ := hnot
  rw [lsuRound, hbad, if_neg Bool.false_ne_true,
    lsuStep_of_new hsum htypeOk hnew] at hround
  rw [canSupersede_iff]
  rintro ⟨hrouter, hnetwork⟩
  rcases hown with ⟨htype, hkey⟩ | ⟨htype, hkey⟩
  · rw [nextSeqNum, if_pos htype] at hnext
    exact not_emitsRouterLsa_of_accept hround htype hkey hnext hrouter
  · rw [nextSeqNum, if_neg (LSAHeader.ne_router_of_network htype)] at hnext
    exact not_emitsNetworkLsa_of_accept hround htype hkey hnext
      (hnetwork ((acceptLsa_state hround).trans (hdr htype)))

/-- A Router LSA of 1.1.1.1 from before a restart. -/
def formerLsu : List UInt8 :=
  lsuData [sealLsa 1
    ⟨1, 2, lsaRouter, 0x01010101, 0x01010101, 0x80000010, 0, 24⟩
    [0, 0, 0, 0]]

/-- Once the peer has returned the former Router LSA, the router cannot
supersede it. -/
theorem former_lsa_not_superseded :
    ¬Throughout step CanSupersede
      (boot 0x01010101 0 ⟨0, 0, 0, false, false, false⟩ [] 0x0a000001
        0xffffff00)
      [.frame 0 (fromPeer typeHello peerHello),
        .frame 0 (fromPeer typeDd peerDd),
        .frame 0 (fromPeer typeLsu formerLsu)] := by
  have hreached : ∃ t, runFrom step
      (boot 0x01010101 0 ⟨0, 0, 0, false, false, false⟩ [] 0x0a000001
        0xffffff00)
      [.frame 0 (fromPeer typeHello peerHello),
        .frame 0 (fromPeer typeDd peerDd),
        .frame 0 (fromPeer typeLsu formerLsu)] = .ok t ∧
      ¬t.EmitsRouterLsa :=
    Outcome.exists_of_completesWith (by decide +kernel)
  obtain ⟨t, hrun, hnot⟩ := hreached
  exact not_throughout_of_run hrun fun h =>
    hnot (t.canSupersede_iff.mp h).1

end Router
end OspfLite
