import OspfLite.Router.Moves
import OspfLite.Router.Instances
import OspfLite.Router.FloodingInVain

/-!
# Packets from routers that are not adjacent

LSR and LSAck branches turn away a neighbor below EXCHANGE, the LSU branch
does not; and all three assert that the source is a neighbor.
-/

namespace OspfLite

namespace KeyedList

variable {α κ : Type*} [DecidableEq κ] {key : α → κ}

/-- Inserting changes nothing only where the entry is the last one, and the
only one under its key. -/
theorem insert_eq_self_iff {l : List α} {a : α} :
    insert key l a = l ↔
      ∃ before, l = before ++ [a] ∧ ∀ b ∈ before, key b ≠ key a := by
  constructor
  · intro h
    refine ⟨erase key l (key a), h.symm, fun b hb => ?_⟩
    simpa [erase] using (List.mem_filter.mp hb).2
  · rintro ⟨before, rfl, hne⟩
    have hkeep : before.filter (fun b => decide (key b ≠ key a)) = before :=
      List.filter_eq_self.mpr fun b hb => decide_eq_true (hne b hb)
    rw [insert, erase, List.filter_append, hkeep]
    simp

end KeyedList

/-- The received Network LSA is the last one stored, and the only one under
its key. -/
def LSDB.EndsWith (lsdb : LSDB) (mask : UInt32) (data : Memory) : Prop :=
  ∃ before lsa, LSANetwork.decode mask data = some lsa ∧
    lsdb.networkLsas = before ++ [lsa] ∧ ∀ b ∈ before, b.key ≠ lsa.key

/-- Installing a Network LSA changes nothing where it is the last one
stored. -/
theorem LSDB.install_eq_self_iff {lsdb : LSDB} {mask : UInt32}
    {data : Memory}
    (hnetwork : (lsaHeaderHost data).lsType = lsaNetwork) :
    lsdb.install mask data = .ok lsdb ↔ lsdb.EndsWith mask data := by
  rw [install_of_network hnetwork, Outcome.ofOption_eq_ok, installNetworkLsa,
    Option.map_eq_some_iff]
  constructor
  · rintro ⟨lsa, hlsa, heq⟩
    obtain ⟨before, hbefore, hne⟩ :=
      KeyedList.insert_eq_self_iff.mp (congrArg networkLsas heq)
    exact ⟨before, lsa, hlsa, hbefore, hne⟩
  · rintro ⟨before, lsa, hlsa, hbefore, hne⟩
    refine ⟨lsa, hlsa, ?_⟩
    rw [KeyedList.insert_eq_self_iff.mpr ⟨before, hbefore, hne⟩]

namespace Router

/-- Nothing has been changed and nothing has been sent; an event may have been
raised in vain. -/
def Untouched (r r' : Router) : Prop :=
  ∃ entries, r' = { r with log := r.log ++ entries } ∧
    ∀ entry ∈ entries, ∃ ip event, entry = .raised ip event

variable {r r' : Router} {src : UInt32} {data packet : Memory}
  {acks : List UInt8} {s s' : LsuState} {now : ℤ}

theorem untouched_refl (r : Router) : r.Untouched r :=
  ⟨[], by rw [List.append_nil], by simp⟩

/-- Where packets have been sent at most, an untouched router has sent none. -/
theorem Untouched.eq_of_sent (h : r.Untouched r') {entries : List LogEntry}
    (hlog : r'.log = r.log ++ entries)
    (hsent : ∀ entry ∈ entries, ∃ dst packet, entry = .sent dst packet) :
    r' = r := by
  obtain ⟨raised, hr', hraised⟩ := h
  have hsame : entries = raised := by
    rw [hr'] at hlog
    exact (List.append_cancel_left hlog).symm
  have hnone : raised = [] := by
    rw [List.eq_nil_iff_forall_not_mem]
    intro entry hentry
    obtain ⟨ip, event, hraise⟩ := hraised entry hentry
    obtain ⟨dst, packet, hsend⟩ := hsent entry (hsame ▸ hentry)
    rw [hraise] at hsend
    cases hsend
  rw [hr', hnone, List.append_nil]

/-- A packet that was sent is noticed. -/
theorem not_untouched_sendOspfPacket (h : r.Untouched r') (dst : UInt32)
    (type : UInt8) (bytes : List UInt8) :
    ¬r.Untouched (r'.sendOspfPacket dst type bytes) := by
  intro hsend
  obtain ⟨raised, rfl, -⟩ := h
  obtain ⟨raised', heq, hraised⟩ := hsend
  have hlog := congrArg log heq
  simp only [sendOspfPacket, sendOspfPacketFrom, addLog,
    List.append_assoc] at hlog
  have hmem := List.append_cancel_left hlog
  obtain ⟨ip, event, hraise⟩ := hraised _
    (hmem ▸ List.mem_append_right _ (List.mem_singleton_self _))
  cases hraise

/-! ## LSAs without effect -/

/-- Step 6 finds the LSA on the request list of the sender, and the loop is
left. -/
def BadRequest (r : Router) (src : UInt32) (data : Memory) : Prop :=
  ChecksumOk data ∧ (lsaHeaderHost data).TypeOk ∧
    ¬r.NewOrNewer (lsaHeaderHost data) ∧ r.Requested src (lsaHeaderHost data)

instance (r : Router) (src : UInt32) (data : Memory) :
    Decidable (r.BadRequest src data) :=
  inferInstanceAs (Decidable (_ ∧ _ ∧ ¬_ ∧ _))

/-- The LSA is put into the acknowledgment unless it is sent back: it is new or
newer, and a BDR has it from the DR. -/
def Acked (r : Router) (src : UInt32) (data : Memory) : Prop :=
  ChecksumOk data ∧ (lsaHeaderHost data).TypeOk ∧
    r.NewOrNewer (lsaHeaderHost data) ∧
    (r.interface.state = .backup → src = htonl r.interface.dr)

instance (r : Router) (src : UInt32) (data : Memory) :
    Decidable (r.Acked src data) :=
  inferInstanceAs (Decidable (_ ∧ _ ∧ _ ∧ (_ → _)))

/-- An LSA that passes the checks has no effect if it is neither a Router nor
a Network LSA, and is flooded in vain; or, being no newer than the database
copy, if it has been requested, or if it is not waited for and, as a Network
LSA, already the last one stored. -/
def Idle (r : Router) (src : UInt32) (data : Memory) : Prop :=
  ChecksumOk data → (lsaHeaderHost data).TypeOk →
    if r.NewOrNewer (lsaHeaderHost data) then
      (lsaHeaderHost data).lsType ≠ lsaRouter ∧
        (lsaHeaderHost data).lsType ≠ lsaNetwork ∧
        r.FloodsInVain src (lsaHeaderHost data)
    else
      r.Requested src (lsaHeaderHost data) ∨
        ((∃ stored ∈ r.lsdb.findInstance (lsaHeaderHost data),
            lsaHeaderCmp (lsaHeaderHost data) stored = 0) →
          ∀ n ∈ r.findNeighbor (ntohl src), n.Unlisted (lsaHeaderHost data)) ∧
        ((lsaHeaderHost data).lsType = lsaNetwork →
          r.lsdb.EndsWith r.uninit.networkMask data)

/-- The LSAs the loop comes to. -/
def visited (r : Router) (src : UInt32) : List Memory → List Memory
  | [] => []
  | data :: rest =>
      data :: if r.BadRequest src data then [] else visited r src rest

/-- No LSA of the packet has an effect, and none is acknowledged. -/
def WithoutEffect (r : Router) (src : UInt32) (pointers : List Memory) :
    Prop :=
  (∀ data ∈ r.visited src pointers, r.Idle src data) ∧
    ((∃ data ∈ r.visited src pointers, r.BadRequest src data) ∨
      ∀ data ∈ r.visited src pointers, ¬r.Acked src data)

/-! ## One round -/

/-- A round for an LSA that passes the checks. -/
theorem lsuStep_of_checks (hsum : ChecksumOk data)
    (htype : (lsaHeaderHost data).TypeOk) (s : LsuState) :
    lsuStep src data s =
      if s.router.NewOrNewer (lsaHeaderHost data) then
        acceptLsa src data s
      else
        rejectLsa src data
          (decide (∃ stored ∈ s.router.lsdb.findInstance (lsaHeaderHost data),
            lsaHeaderCmp (lsaHeaderHost data) stored = 0)) s := by
  have hage := ntoh_lsAge_ne_maxAge data
  simp only [lsuStep, hsum, htype, hage, not_true_eq_false, if_false,
    false_and]

theorem lsuStep_of_not_checks
    (h : ¬(ChecksumOk data ∧ (lsaHeaderHost data).TypeOk)) (s : LsuState) :
    lsuStep src data s = .ok s := by
  rw [lsuStep]
  by_cases hsum : ChecksumOk data
  · rw [if_neg (not_not.mpr hsum), if_pos fun htype => h ⟨hsum, htype⟩]
  · rw [if_pos hsum]

/-- Dropping entries that are not there. -/
theorem modifyNeighbor_purge_of_none {header : LSAHeader}
    (h : ∀ n ∈ r.findNeighbor (ntohl src), n.Unlisted header) :
    r.modifyNeighbor (ntohl src) (Neighbor.purgeRetransmissions header) =
      r := by
  rw [modifyNeighbor, Interface.modifyNeighbor_of_id]
  exact fun n hn => Neighbor.purge_eq_self_iff.mpr (h n hn)

/-- A round without effect. -/
theorem lsuStep_of_idle (hidle : r.Idle src data)
    (hnot : ¬r.BadRequest src data) :
    lsuStep src data ⟨r, acks, false⟩ =
      .ok ⟨r, if r.Acked src data then acks ++ data.take LSAHeader.size
        else acks, false⟩ := by
  by_cases hchecks : ChecksumOk data ∧ (lsaHeaderHost data).TypeOk
  · obtain ⟨hsum, htype⟩ := hchecks
    have heffect := hidle hsum htype
    rw [lsuStep_of_checks hsum htype]
    by_cases hnew : r.NewOrNewer (lsaHeaderHost data)
    · rw [if_pos hnew] at heffect ⊢
      obtain ⟨hrouter, hnetwork, hvain⟩ := heffect
      have hinstall : r.lsdb.install r.uninit.networkMask data =
          .ok r.lsdb := by
        rw [LSDB.install, if_neg hrouter, if_neg hnetwork]
      simp only [acceptLsa, purge_floodArea_eq_self_iff.mpr hvain, hinstall,
        Outcome.map_ok, Acknowledges, floodArea_snd_of_inVain hvain, Acked,
        hsum, htype, hnew, true_and]
    · rw [if_neg hnew] at heffect ⊢
      have hrequested : ¬r.Requested src (lsaHeaderHost data) :=
        fun h => hnot ⟨hsum, htype, hnew, h⟩
      obtain ⟨hsame, hlast⟩ := heffect.resolve_left hrequested
      have hsettle : settleOlder data ⟨r, acks, false⟩ =
          .ok ⟨r, acks, false⟩ := by
        by_cases hnetwork : (lsaHeaderHost data).lsType = lsaNetwork
        · have hinstall := (LSDB.install_eq_self_iff hnetwork).mpr
            (hlast hnetwork)
          simp only [settleOlder, if_pos hnetwork, hinstall, Outcome.map_ok]
        · rw [settleOlder, if_neg hnetwork]
      rw [if_neg fun h : r.Acked src data => hnew h.2.2.1, rejectLsa,
        if_neg hrequested]
      split_ifs with hcmp
      · rw [modifyNeighbor_purge_of_none (hsame (of_decide_eq_true hcmp))]
        exact hsettle
      · exact hsettle
  · rw [lsuStep_of_not_checks hchecks,
      if_neg fun h : r.Acked src data => hchecks ⟨h.1, h.2.1⟩]

/-- Below EXCHANGE a bad request is raised in vain. -/
theorem lsuStep_of_badRequest
    (hlow : ∀ n ∈ r.findNeighbor (ntohl src), n.state < .exchange)
    (hbad : r.BadRequest src data) :
    lsuStep src data ⟨r, acks, false⟩ =
      .ok ⟨r.addLog (.raised (ntohl src) .badLsReq), acks, true⟩ := by
  obtain ⟨hsum, htype, hnew, hrequested⟩ := hbad
  have hvain : r.modifyNeighbor (ntohl src)
      (fun n => n.eventBadLsReq.1) = r := by
    rw [modifyNeighbor, Interface.modifyNeighbor_of_id]
    intro n hn
    rw [Neighbor.eventBadLsReq, Neighbor.restartExchange,
      if_neg (not_le.mpr (hlow n hn))]
  rw [lsuStep_of_checks hsum htype, if_neg hnew, rejectLsa,
    if_pos hrequested, eventBadLsReq, hvain]

/-- Installing a new instance of a Router or Network LSA changes the
database. -/
theorem install_ne_self (hnew : r.NewOrNewer (lsaHeaderHost data))
    (h : r.lsdb.install r.uninit.networkMask data = .ok r.lsdb) :
    (lsaHeaderHost data).lsType ≠ lsaRouter ∧
      (lsaHeaderHost data).lsType ≠ lsaNetwork := by
  constructor
  · intro hrouter
    have hfind := LSDB.findRouterLsa_install h
      (lsaHeaderHost data).linkStateId (lsaHeaderHost data).advertisingRouter
    rw [if_pos ⟨hrouter, rfl⟩] at hfind
    have hcmp := hnew (lsaHeaderHost data) (by
      rw [Option.mem_def, LSDB.findInstance, LSDB.findHeader, if_pos hrouter,
        hfind]
      rfl)
    rw [lsaHeaderCmp_self] at hcmp
    exact absurd hcmp (lt_irrefl _)
  · intro hnetwork
    have hfind := LSDB.findNetworkLsa_install h
      (lsaHeaderHost data).linkStateId (lsaHeaderHost data).advertisingRouter
    rw [if_pos ⟨hnetwork, rfl⟩] at hfind
    obtain ⟨before, lsa, hlsa, -⟩ := (LSDB.install_eq_self_iff hnetwork).mp h
    have hrouter := LSAHeader.ne_router_of_network hnetwork
    have hcmp := hnew (lsaHeaderHost data) (by
      rw [Option.mem_def, LSDB.findInstance, LSDB.findHeader,
        if_neg hrouter, if_pos hnetwork, hfind, hlsa, Option.map_some,
        LSANetwork.header_of_decode hlsa])
    rw [lsaHeaderCmp_self] at hcmp
    exact absurd hcmp (lt_irrefl _)

/-- What an untouched router has in common with the first. -/
theorem Untouched.same (h : r.Untouched r') :
    r'.lsdb = r.lsdb ∧ r'.interface = r.interface := by
  obtain ⟨entries, rfl, -⟩ := h
  exact ⟨rfl, rfl⟩

/-- An accepted LSA that leaves everything as it is. -/
theorem idle_of_acceptLsa (hnew : r.NewOrNewer (lsaHeaderHost data))
    (hs' : acceptLsa src data ⟨r, acks, false⟩ = .ok s')
    (h : r.Untouched s'.router) :
    (lsaHeaderHost data).lsType ≠ lsaRouter ∧
      (lsaHeaderHost data).lsType ≠ lsaNetwork ∧
      r.FloodsInVain src (lsaHeaderHost data) := by
  obtain ⟨lsdb, hinstall, rfl⟩ := Outcome.map_eq_ok.mp hs'
  obtain ⟨entries, hsent, hlog⟩ := r.floodArea_sent data src
  have heq := h.eq_of_sent hlog fun entry hentry => by
    obtain ⟨dst, auType, body, hentry⟩ := hsent entry hentry
    exact ⟨dst, _, hentry⟩
  have hlsdb : lsdb = r.lsdb := h.same.1
  subst hlsdb
  obtain ⟨hrouter, hnetwork⟩ := install_ne_self hnew hinstall
  exact ⟨hrouter, hnetwork, purge_floodArea_eq_self_iff.mp heq⟩

/-- Step 8 leaves the database as it is only where the Network LSA is the last
one stored. -/
theorem endsWith_of_settleOlder (hs' : settleOlder data s = .ok s')
    (h : s'.router.lsdb = s.router.lsdb)
    (hnetwork : (lsaHeaderHost data).lsType = lsaNetwork) :
    s.router.lsdb.EndsWith s.router.uninit.networkMask data := by
  rw [settleOlder, if_pos hnetwork] at hs'
  obtain ⟨lsdb, hinstall, rfl⟩ := Outcome.map_eq_ok.mp hs'
  rw [← LSDB.install_eq_self_iff hnetwork, hinstall]
  exact congrArg Except.ok h

/-- A rejected LSA that leaves everything as it is. -/
theorem idle_of_rejectLsa {same : Bool}
    (hrequested : ¬r.Requested src (lsaHeaderHost data))
    (hs' : rejectLsa src data same ⟨r, acks, false⟩ = .ok s')
    (h : r.Untouched s'.router) :
    (same = true → ∀ n ∈ r.findNeighbor (ntohl src),
        n.Unlisted (lsaHeaderHost data)) ∧
      ((lsaHeaderHost data).lsType = lsaNetwork →
        r.lsdb.EndsWith r.uninit.networkMask data) := by
  obtain ⟨hlsdb, hinter⟩ := h.same
  rw [rejectLsa, if_neg hrequested] at hs'
  split_ifs at hs' with hsame
  · refine ⟨fun _ n hn => ?_, endsWith_of_settleOlder hs' hlsdb⟩
    obtain ⟨lsdb, rfl, -⟩ := settleOlder_cases hs'
    have hfind : (r.interface.modifyNeighbor (ntohl src)
        (Neighbor.purgeRetransmissions (lsaHeaderHost data))).findNeighbor
          (ntohl src) = (r.interface.findNeighbor (ntohl src)).map
            (Neighbor.purgeRetransmissions (lsaHeaderHost data)) :=
      Interface.findNeighbor_modifyNeighbor fun _ hip => hip
    have hkept : r.interface.modifyNeighbor (ntohl src)
        (Neighbor.purgeRetransmissions (lsaHeaderHost data)) =
          r.interface := hinter
    have hfound : r.interface.findNeighbor (ntohl src) = some n := hn
    rw [hkept, hfound, Option.map_some, Option.some.injEq] at hfind
    exact Neighbor.purge_eq_self_iff.mp hfind.symm
  · exact ⟨fun h => absurd h hsame, endsWith_of_settleOlder hs' hlsdb⟩

/-- A round that leaves everything as it is, is one without effect. -/
theorem idle_of_untouched
    (hs' : lsuStep src data ⟨r, acks, false⟩ = .ok s')
    (h : r.Untouched s'.router) : r.Idle src data := by
  intro hsum htype
  rw [lsuStep_of_checks hsum htype] at hs'
  by_cases hnew : r.NewOrNewer (lsaHeaderHost data)
  · rw [if_pos hnew] at hs' ⊢
    exact idle_of_acceptLsa hnew hs' h
  · rw [if_neg hnew] at hs' ⊢
    by_cases hrequested : r.Requested src (lsaHeaderHost data)
    · exact Or.inl hrequested
    · obtain ⟨hpurged, hlast⟩ := idle_of_rejectLsa hrequested hs' h
      exact Or.inr ⟨fun hsame => hpurged (decide_eq_true hsame), hlast⟩

/-! ## The rounds of a packet -/

/-- Before a `break` a round is carried out. -/
theorem lsuRound_eq (r : Router) (src : UInt32) (acks : List UInt8)
    (data : Memory) :
    lsuRound src ⟨r, acks, false⟩ data =
      lsuStep src data ⟨r, acks, false⟩ := by
  rw [lsuRound, if_neg Bool.false_ne_true]

/-- After the `break` nothing is done any more. -/
theorem throughout_of_badLsReq {P : LsuState → Prop}
    (hbad : s.badLsReq = true) (hs : P s) (pointers : List Memory) :
    Throughout (lsuRound src) P s pointers := by
  intro js t _ hrun
  rw [runFrom_lsuRound_of_badLsReq hbad, Except.ok.injEq] at hrun
  exact hrun ▸ hs

/-- The loop over LSAs without effect. -/
theorem run_of_idle
    (hlow : ∀ n ∈ r.findNeighbor (ntohl src), n.state < .exchange)
    (pointers : List Memory) (acks : List UInt8)
    (hidle : ∀ data ∈ r.visited src pointers, r.Idle src data) :
    Throughout (lsuRound src) (fun s => r.Untouched s.router)
        ⟨r, acks, false⟩ pointers ∧
      ∃ s, runFrom (lsuRound src) ⟨r, acks, false⟩ pointers = .ok s ∧
        r.Untouched s.router ∧
        (s.badLsReq = true ↔
          ∃ data ∈ r.visited src pointers, r.BadRequest src data) ∧
        (s.lsackData = [] ↔
          acks = [] ∧ ∀ data ∈ r.visited src pointers,
            ¬r.Acked src data) := by
  induction pointers generalizing acks with
  | nil =>
      exact ⟨throughout_nil.mpr r.untouched_refl, _, rfl, r.untouched_refl,
        by simp [visited], by simp [visited]⟩
  | cons data pointers ih =>
      have hfirst := hidle data List.mem_cons_self
      by_cases hbad : r.BadRequest src data
      · have hround := (lsuRound_eq r src acks data).trans
          (lsuStep_of_badRequest hlow hbad)
        have hraised : r.Untouched
            (r.addLog (.raised (ntohl src) .badLsReq)) :=
          ⟨[_], rfl, fun entry hentry =>
            ⟨_, _, List.mem_singleton.mp hentry⟩⟩
        have hacked : ¬r.Acked src data := fun h => hbad.2.2.1 h.2.2.1
        refine ⟨?_, ⟨r.addLog (.raised (ntohl src) .badLsReq), acks, true⟩,
          ?_, hraised, ?_, ?_⟩
        · exact throughout_cons_of_ok r.untouched_refl hround
            (throughout_of_badLsReq rfl hraised pointers)
        · rw [runFrom_cons, hround, Outcome.bind_ok,
            runFrom_lsuRound_of_badLsReq rfl]
        · simp [visited, hbad]
        · simp [visited, hbad, hacked]
      · have hround := (lsuRound_eq r src acks data).trans
          (lsuStep_of_idle hfirst hbad)
        have hvisited : r.visited src (data :: pointers) =
            data :: r.visited src pointers := by
          rw [visited, if_neg hbad]
        rw [hvisited, List.forall_mem_cons] at hidle
        obtain ⟨hthrough, s, hrun, huntouched, hbreaks, hacks⟩ :=
          ih (if r.Acked src data then acks ++ data.take LSAHeader.size
            else acks) hidle.2
        refine ⟨?_, s, ?_, huntouched, ?_, ?_⟩
        · exact throughout_cons_of_ok r.untouched_refl hround hthrough
        · rw [runFrom_cons, hround, Outcome.bind_ok, hrun]
        · rw [hbreaks, hvisited]
          simp [hbad]
        · rw [hacks, hvisited, List.forall_mem_cons]
          by_cases hacked : r.Acked src data
          · have hsome : data.take LSAHeader.size ≠ [] := by
              simp [Memory.take, LSAHeader.size]
            simp [hacked, hsome]
          · simp [hacked]

/-- A loop that leaves everything as it is goes over LSAs without effect. -/
theorem idle_of_run {pointers : List Memory}
    (hthrough : Throughout (lsuRound src) (fun s => r.Untouched s.router)
      ⟨r, acks, false⟩ pointers)
    (hrun : runFrom (lsuRound src) ⟨r, acks, false⟩ pointers = .ok s) :
    ∀ data ∈ r.visited src pointers, r.Idle src data := by
  induction pointers generalizing acks with
  | nil => exact fun data hdata => by cases hdata
  | cons data pointers ih =>
      obtain ⟨s', hs', hrest⟩ := Outcome.bind_eq_ok.mp hrun
      have hnext := (throughout_cons.mp hthrough).2 s' hs'
      rw [lsuRound_eq] at hs'
      have hidle : r.Idle src data := idle_of_untouched hs' hnext.head
      rw [visited, List.forall_mem_cons]
      refine ⟨hidle, ?_⟩
      split_ifs with hbad
      · exact fun data hdata => by cases hdata
      · rw [lsuStep_of_idle hidle hbad, Except.ok.injEq] at hs'
        subst hs'
        exact ih hnext hrest

/-! ## Packets -/

/-- The source of the packet is not a neighbor in EXCHANGE or above. -/
def NotAdjacent (r : Router) (packet : Memory) : Prop :=
  ∀ n ∈ r.findNeighbor (ntohl (packet.load32 12)), n.state < .exchange

instance (r : Router) (packet : Memory) : Decidable (r.NotAdjacent packet) :=
  inferInstanceAs (Decidable (∀ n ∈ r.findNeighbor _, _))

/-- The handling completes, with nothing changed and nothing sent; and no LSA
of an LSU changes anything in its course. -/
structure HandledUntouched (r : Router) (now : ℤ) (packet : Memory) :
    Prop where
  completes : ∃ r', r.recvOspfPacket now packet = .ok r' ∧ r.Untouched r'
  rounds : packet 21 = typeLsu →
    Throughout (lsuRound (packet.load32 12))
      (fun s => r.Untouched s.router) ⟨r, [], false⟩ (lsuPointers packet)

/-- The dispatch on the three types. -/
theorem recvOspfPacket_of_type (hadmits : r.Admits packet)
    (htype : packet 21 = typeLsr ∨ packet 21 = typeLsu ∨
      packet 21 = typeLsAck) (now : ℤ) :
    r.recvOspfPacket now packet =
      if packet 21 = typeLsr then r.recvLsr packet
      else if packet 21 = typeLsu then r.recvLsu packet
      else r.recvLsAck packet := by
  have hhello : packet 21 ≠ typeHello := by
    rcases htype with h | h | h <;> rw [h] <;> decide
  have hdd : packet 21 ≠ typeDd := by
    rcases htype with h | h | h <;> rw [h] <;> decide
  rw [recvOspfPacket, if_pos hadmits, if_neg hhello, if_neg hdd]
  by_cases hlsr : packet 21 = typeLsr
  · rw [if_pos hlsr, if_pos hlsr]
  by_cases hlsu : packet 21 = typeLsu
  · rw [if_neg hlsr, if_neg hlsr, if_pos hlsu, if_pos hlsu]
  · rw [if_neg hlsr, if_neg hlsr, if_neg hlsu, if_neg hlsu,
      if_pos ((htype.resolve_left hlsr).resolve_left hlsu)]

/-- An unknown source is an assertion failure. -/
theorem recvOspfPacket_of_unknown (hadmits : r.Admits packet)
    (htype : packet 21 = typeLsr ∨ packet 21 = typeLsu ∨
      packet 21 = typeLsAck)
    (hnone : r.findNeighbor (ntohl (packet.load32 12)) = none) (now : ℤ) :
    r.recvOspfPacket now packet = .error .assertion := by
  rw [recvOspfPacket_of_type hadmits htype]
  simp only [recvLsr, recvLsu, recvLsAck, hnone, ite_self]

/-- A neighbor below EXCHANGE is turned away, but for its LSUs. -/
theorem recvOspfPacket_of_low {n : Neighbor} (hadmits : r.Admits packet)
    (htype : packet 21 = typeLsr ∨ packet 21 = typeLsAck)
    (hfind : r.findNeighbor (ntohl (packet.load32 12)) = some n)
    (hlow : n.state < .exchange) (now : ℤ) :
    r.recvOspfPacket now packet = .ok r := by
  have hturned : n.state ≠ .exchange ∧ n.state ≠ .loading ∧
      n.state ≠ .full := by
    refine ⟨hlow.ne, ?_, ?_⟩ <;> intro h <;> rw [h] at hlow <;>
      exact absurd hlow (by decide)
  rcases htype with hlsr | hack
  · rw [recvOspfPacket_of_type hadmits (Or.inl hlsr), if_pos hlsr, recvLsr]
    simp only [hfind]
    rw [if_pos hturned]
  · have hlsr : packet 21 ≠ typeLsr := by
      rw [hack]
      decide
    have hlsu : packet 21 ≠ typeLsu := by
      rw [hack]
      decide
    rw [recvOspfPacket_of_type hadmits (Or.inr (Or.inr hack)), if_neg hlsr,
      if_neg hlsu, recvLsAck]
    simp only [hfind]
    rw [if_pos hlow]

/-- An LSU is acknowledged unless a bad request has left the loop. -/
theorem untouched_sendLsack_iff (h : r.Untouched s.router) :
    r.Untouched (sendLsack s) ↔ s.badLsReq = true ∨ s.lsackData = [] := by
  rw [sendLsack]
  split_ifs with hsend
  · refine iff_of_false (not_untouched_sendOspfPacket h _ _ _) ?_
    rintro (hbad | hnone)
    · rw [hsend.1] at hbad
      cases hbad
    · exact hsend.2 hnone
  · refine iff_of_true h ?_
    by_cases hbad : s.badLsReq = true
    · exact Or.inl hbad
    · exact Or.inr (by_contra fun hne =>
        hsend ⟨Bool.eq_false_of_not_eq_true hbad, hne⟩)

/-- Which LSUs of a neighbor below EXCHANGE are handled without effect. -/
theorem handledUntouched_lsu_iff (hadmits : r.Admits packet)
    (hlsu : packet 21 = typeLsu) (hlow : r.NotAdjacent packet)
    (hknown : r.findNeighbor (ntohl (packet.load32 12)) ≠ none) :
    r.HandledUntouched now packet ↔
      r.WithoutEffect (packet.load32 12) (lsuPointers packet) := by
  have hlsr : packet 21 ≠ typeLsr := by
    rw [hlsu]
    decide
  have hrecv : r.recvOspfPacket now packet =
      (runFrom (lsuRound (packet.load32 12)) ⟨r, [], false⟩
        (lsuPointers packet)).map sendLsack := by
    rw [recvOspfPacket_of_type hadmits (Or.inr (Or.inl hlsu)), if_neg hlsr,
      if_pos hlsu, recvLsu_eq, if_neg hknown]
  constructor
  · rintro ⟨⟨r', hr', huntouched⟩, hrounds⟩
    rw [hrecv] at hr'
    obtain ⟨s, hrun, rfl⟩ := Outcome.map_eq_ok.mp hr'
    have hidle := idle_of_run (hrounds hlsu) hrun
    obtain ⟨-, s', hrun', hs', hbreaks, hacks⟩ :=
      run_of_idle hlow _ [] hidle
    rw [hrun, Except.ok.injEq] at hrun'
    subst hrun'
    rw [untouched_sendLsack_iff hs', hbreaks, hacks] at huntouched
    exact ⟨hidle, huntouched.imp_right fun h => h.2⟩
  · rintro ⟨hidle, hquiet⟩
    obtain ⟨hthrough, s, hrun, hs, hbreaks, hacks⟩ :=
      run_of_idle hlow _ [] hidle
    refine ⟨⟨sendLsack s, by rw [hrecv, hrun, Outcome.map_ok], ?_⟩,
      fun _ => hthrough⟩
    rw [untouched_sendLsack_iff hs, hbreaks, hacks]
    exact hquiet.imp_right fun h => ⟨rfl, h⟩

/-- A packet from a router that is not adjacent is handled without effect
exactly when the router is a known neighbor, and its LSU, if it is one, carries
no LSA that has an effect. -/
theorem handledUntouched_iff (r : Router) (now : ℤ) (packet : Memory)
    (hadmits : r.Admits packet)
    (htype : packet 21 = typeLsr ∨ packet 21 = typeLsu ∨
      packet 21 = typeLsAck)
    (hlow : r.NotAdjacent packet) :
    r.HandledUntouched now packet ↔
      r.findNeighbor (ntohl (packet.load32 12)) ≠ none ∧
        (packet 21 = typeLsu →
          r.WithoutEffect (packet.load32 12) (lsuPointers packet)) := by
  by_cases hknown : r.findNeighbor (ntohl (packet.load32 12)) = none
  · refine iff_of_false ?_ fun h => h.1 hknown
    rintro ⟨⟨r', hr', -⟩, -⟩
    rw [recvOspfPacket_of_unknown hadmits htype hknown] at hr'
    cases hr'
  by_cases hlsu : packet 21 = typeLsu
  · rw [handledUntouched_lsu_iff hadmits hlsu hlow hknown]
    exact ⟨fun h => ⟨hknown, fun _ => h⟩, fun h => h.2 hlsu⟩
  · obtain ⟨n, hfind⟩ := Option.ne_none_iff_exists'.mp hknown
    have hother : packet 21 = typeLsr ∨ packet 21 = typeLsAck :=
      htype.imp_right fun h => h.resolve_left hlsu
    refine iff_of_true ⟨⟨r, ?_, r.untouched_refl⟩, fun h => absurd h hlsu⟩
      ⟨hknown, fun h => absurd h hlsu⟩
    exact recvOspfPacket_of_low hadmits hother hfind (hlow n hfind) now

/-- A request from a router that has not said Hello. -/
theorem not_handledUntouched_of_stranger :
    ¬(boot 0x01010101 0 ⟨0, 0, 0, false, false, false⟩ [] 0x0a000001
      0xffffff00).HandledUntouched 0 (fromPeer typeLsr []) := by
  rw [handledUntouched_iff _ 0 _ (by decide +kernel) (by decide +kernel)
    (by decide +kernel)]
  exact fun h => h.1 (by decide +kernel)

/-- The peer has said Hello and no more; its LSU is installed. -/
theorem outsider_writes_database :
    ¬∀ (steps : List Step) (r : Router) (packet : Memory),
      runFrom step (boot 0x01010101 0 ⟨0, 0, 0, false, false, false⟩ []
          0x0a000001 0xffffff00) steps = .ok r →
        r.Admits packet →
        (packet 21 = typeLsr ∨ packet 21 = typeLsu ∨
          packet 21 = typeLsAck) →
        r.NotAdjacent packet →
        ∃ r', r.recvOspfPacket 0 packet = .ok r' ∧ r.Untouched r' := by
  have hreached : ∃ t, runFrom step
      (boot 0x01010101 0 ⟨0, 0, 0, false, false, false⟩ [] 0x0a000001
        0xffffff00)
      [.frame 0 (fromPeer typeHello peerHello)] = .ok t ∧
      t.Admits (fromPeer typeLsu peerLsu) ∧
      t.NotAdjacent (fromPeer typeLsu peerLsu) ∧
      (t.recvOspfPacket 0 (fromPeer typeLsu peerLsu)).completesWith
        (fun r' => r'.lsdb ≠ t.lsdb) = true :=
    Outcome.exists_of_completesWith (by decide +kernel)
  obtain ⟨t, hrun, hadmits, hlow, hwrites⟩ := hreached
  intro h
  obtain ⟨r', hr', huntouched⟩ :=
    h _ t _ hrun hadmits (by decide +kernel) hlow
  obtain ⟨r'', hr'', hlsdb⟩ := Outcome.exists_of_completesWith hwrites
  rw [hr', Except.ok.injEq] at hr''
  exact hlsdb (hr'' ▸ huntouched.same.1)

end Router
end OspfLite
