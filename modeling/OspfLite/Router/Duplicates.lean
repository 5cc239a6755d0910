import OspfLite.Router.KeyFrames
import OspfLite.Router.Moves

/-!
# Duplicate LSAs

A neighbor that sends an LSA again, because the acknowledgment was lost, should
get another one.  The handler puts accepted LSAs into the LSAck only; of a
duplicate it takes the entry off the retransmission list at most.
-/

namespace OspfLite
namespace Router

variable {r r' : Router} {src : UInt32} {data packet : Memory}
  {s s' : LsuState}

/-! ## What should happen -/

/-- The LSA is the same instance as the database copy. -/
def Duplicate (r : Router) (data : Memory) : Prop :=
  ChecksumOk data ∧ ∃ stored ∈ r.lsdb.findInstance (lsaHeaderHost data),
    lsaHeaderCmp (lsaHeaderHost data) stored = 0

instance (r : Router) (data : Memory) : Decidable (r.Duplicate data) :=
  inferInstanceAs (Decidable (_ ∧
    ∃ stored ∈ r.lsdb.findInstance (lsaHeaderHost data), _))

/-- The retransmission list of the sender holds an entry for the LSA. -/
def Awaited (r : Router) (src : UInt32) (header : LSAHeader) : Prop :=
  ∃ n ∈ r.findNeighbor (ntohl src), ∃ entry ∈ n.linkStateRetransmissionList,
    LSAHeader.SameLsa entry header

instance (r : Router) (src : UInt32) (header : LSAHeader) :
    Decidable (r.Awaited src header) :=
  inferInstanceAs (Decidable (∃ n ∈ r.findNeighbor (ntohl src),
    ∃ entry ∈ n.linkStateRetransmissionList, _))

/-- Step 7 a: the duplicate stands for an acknowledgment of the sender, and its
entry is removed. -/
def ImpliedAck (src : UInt32) (s : LsuState) (data : Memory) : Prop :=
  s.router.Awaited src (lsaHeaderHost data) ∧
    ∀ s', lsuRound src s data = .ok s' →
      ¬s'.router.Awaited src (lsaHeaderHost data)

/-- The body of an LSAck has the header among its headers. -/
def Carries (body headerNet : List UInt8) : Prop :=
  ∃ pre post, body = pre ++ headerNet ++ post ∧ LSAHeader.size ∣ pre.length

/-- Between two states an LSAck with the header has been sent to the neighbor
or to a group address. -/
def LsackSent (src : UInt32) (headerNet : List UInt8) (r r' : Router) : Prop :=
  ∃ entries, r'.log = r.log ++ entries ∧
    ∃ dst bytes, .sent dst bytes ∈ entries ∧ bytes[1]? = some typeLsAck ∧
      Carries (bytes.drop ospfHeaderSize) headerNet ∧
      (dst = ntohl src ∨ dst = allSpfRouters ∨ dst = allDRouters)

/-- The sender takes part in an exchange, and nothing is requested of it. -/
def FromServed (r : Router) (packet : Memory) : Prop :=
  ∃ n, r.findNeighbor (ntohl (packet.load32 12)) = some n ∧
    .exchange ≤ n.state ∧ n.linkStateRequestList = []

/-- Every duplicate in an LSU of such a neighbor stands for an acknowledgment or
is acknowledged. -/
def AnswersDuplicates (r : Router) (packet : Memory) : Prop :=
  r.FromServed packet →
    Along (lsuRound (packet.load32 12))
      (fun s data => s.router.Duplicate data →
        ImpliedAck (packet.load32 12) s data ∨
          ∃ r', r.recvLsu packet = .ok r' ∧
            LsackSent (packet.load32 12) (data.take LSAHeader.size) r r')
      ⟨r, [], false⟩ (lsuPointers packet)

/-! ## One round -/

/-- Steps 5 b to 5 e put the LSA into the acknowledgment. -/
def AcksRound (src : UInt32) (s : LsuState) (data : Memory) : Prop :=
  ChecksumOk data ∧ (lsaHeaderHost data).TypeOk ∧
    s.router.NewOrNewer (lsaHeaderHost data) ∧
    ((s.router.floodArea data src).1.purge
      (lsaHeaderHost data)).Acknowledges src (s.router.floodArea data src).2

instance (src : UInt32) (s : LsuState) (data : Memory) :
    Decidable (AcksRound src s data) :=
  inferInstanceAs (Decidable (_ ∧ _ ∧ _ ∧ _))

/-- The LSA, if it is a Network LSA, has whole attached routers. -/
def WholeLsa (data : Memory) : Prop :=
  ChecksumOk data → (lsaHeaderHost data).lsType = lsaNetwork →
    LSDB.WholeRouters data

/-- Nothing is requested of the sender, and no round has been broken off. -/
def Unrequested (src : UInt32) (s : LsuState) : Prop :=
  s.badLsReq = false ∧
    ∀ n ∈ s.router.findNeighbor (ntohl src), n.linkStateRequestList = []

theorem Unrequested.not_requested (h : Unrequested src s)
    (header : LSAHeader) : ¬s.router.Requested src header := by
  rintro ⟨n, hn, entry, hentry, -⟩
  rw [h.2 n hn] at hentry
  cases hentry

/-- Such a round is one of steps 5 b to 5 e, one of steps 7 and 8, or
skipped. -/
theorem Unrequested.round_cases (h : Unrequested src s) (data : Memory) :
    (¬(ChecksumOk data ∧ (lsaHeaderHost data).TypeOk) ∧
        lsuRound src s data = .ok s) ∨
      (ChecksumOk data ∧ (lsaHeaderHost data).TypeOk ∧
        s.router.NewOrNewer (lsaHeaderHost data) ∧
        lsuRound src s data = acceptLsa src data s) ∨
      (ChecksumOk data ∧ (lsaHeaderHost data).TypeOk ∧
        ¬s.router.NewOrNewer (lsaHeaderHost data) ∧
        lsuRound src s data = settleOlder data { s with
          router :=
            if s.router.Duplicate data then
              s.router.modifyNeighbor (ntohl src)
                (Neighbor.purgeRetransmissions (lsaHeaderHost data))
            else s.router }) := by
  have hround : lsuRound src s data = lsuStep src data s := by
    rw [lsuRound, h.1, if_neg Bool.false_ne_true]
  rw [hround]
  by_cases hok : ChecksumOk data ∧ (lsaHeaderHost data).TypeOk
  · by_cases hnew : s.router.NewOrNewer (lsaHeaderHost data)
    · exact Or.inr (Or.inl ⟨hok.1, hok.2, hnew,
        lsuStep_of_new hok.1 hok.2 hnew⟩)
    · refine Or.inr (Or.inr ⟨hok.1, hok.2, hnew, ?_⟩)
      rw [lsuStep_of_old hok.1 hok.2 hnew, rejectLsa,
        if_neg (h.not_requested _)]
      by_cases hsame : ∃ stored ∈ s.router.lsdb.findInstance
          (lsaHeaderHost data), lsaHeaderCmp (lsaHeaderHost data) stored = 0
      · rw [if_pos (decide_eq_true hsame), if_pos ⟨hok.1, hsame⟩]
      · rw [if_neg (by simpa using hsame), if_neg fun hdup => hsame hdup.2]
  · refine Or.inl ⟨hok, ?_⟩
    rcases lsuStep_cases src data s with ⟨-, hstep⟩ | ⟨hsum, htype, -⟩ |
      ⟨hsum, htype, -⟩
    · exact hstep
    · exact absurd ⟨hsum, htype⟩ hok
    · exact absurd ⟨hsum, htype⟩ hok

/-- The sender after the purge of step 7. -/
theorem findNeighbor_purge (header : LSAHeader) (ip : UInt32) :
    (r.modifyNeighbor ip
      (Neighbor.purgeRetransmissions header)).findNeighbor ip =
        (r.findNeighbor ip).map (Neighbor.purgeRetransmissions header) :=
  Interface.findNeighbor_modifyNeighbor fun _ hm => hm

/-- What a round leaves in the acknowledgment. -/
theorem lsuRound_lsackData (h : lsuRound src s data = .ok s') :
    s'.lsackData = s.lsackData ++
      if s.badLsReq = false ∧ AcksRound src s data then
        data.take LSAHeader.size
      else [] := by
  have hsame : ¬(s.badLsReq = false ∧ AcksRound src s data) →
      s'.lsackData = s.lsackData →
        s'.lsackData = s.lsackData ++
          if s.badLsReq = false ∧ AcksRound src s data then
            data.take LSAHeader.size
          else [] := by
    intro hnot hlist
    rw [if_neg hnot, List.append_nil, hlist]
  rw [lsuRound] at h
  split_ifs at h with hbad
  · refine hsame (fun hacks => ?_) (by rw [Except.ok.inj h])
    rw [hacks.1] at hbad
    cases hbad
  have hbreak := Bool.eq_false_of_not_eq_true hbad
  rcases lsuStep_cases src data s with ⟨hskip, hstep⟩ |
    ⟨hsum, htype, hnew, hstep⟩ | ⟨-, -, hold, same, hstep⟩
  · rw [hstep] at h
    exact hsame (fun hacks => hskip ⟨hacks.2.1, hacks.2.2.1⟩)
      (by rw [Except.ok.inj h])
  · rw [hstep] at h
    obtain ⟨lsdb, -, rfl⟩ := Outcome.map_eq_ok.mp h
    simp only [AcksRound, hbreak, hsum, htype, hnew, true_and]
    split_ifs
    · rfl
    · exact (List.append_nil _).symm
  · rw [hstep] at h
    refine hsame (fun hacks => hold hacks.2.2.2.1) ?_
    rw [rejectLsa] at h
    split_ifs at h
    · rw [← Except.ok.inj h]
    · obtain ⟨lsdb, rfl, -⟩ := settleOlder_cases h
      rfl
    · obtain ⟨lsdb, rfl, -⟩ := settleOlder_cases h
      rfl

/-- A round requests nothing. -/
theorem Unrequested.round (h : Unrequested src s)
    (hs' : lsuRound src s data = .ok s') : Unrequested src s' := by
  rcases h.round_cases data with ⟨-, hround⟩ | ⟨-, -, -, hround⟩ |
    ⟨-, -, -, hround⟩
  · rw [hround, Except.ok.injEq] at hs'
    exact hs' ▸ h
  · rw [hround] at hs'
    have hlists := acceptLsa_forall₂
      (R := fun n m : Neighbor => m.ip = n.ip ∧
        (n.linkStateRequestList = [] → m.linkStateRequestList = []))
      (fun n _ => by
        obtain ⟨added, requests, -, hsub, hflood⟩ :=
          Neighbor.flood_eq (lsaHeaderHost data) src n
        rw [hflood]
        refine ⟨rfl, fun hnil => ?_⟩
        rw [hnil] at hsub
        exact List.sublist_nil.mp hsub)
      (fun n _ => ⟨rfl, id⟩) hs'
    obtain ⟨lsdb, -, rfl⟩ := Outcome.map_eq_ok.mp hs'
    refine ⟨rfl, fun m hm => ?_⟩
    obtain ⟨n, hn, -, hnil⟩ := exists_find_of_forall₂
      (fun _ _ hR => hR.1) hlists hm
    exact hnil (h.2 n hn)
  · rw [hround] at hs'
    obtain ⟨lsdb, rfl, -⟩ := settleOlder_cases hs'
    refine ⟨h.1, fun m hm => ?_⟩
    split_ifs at hm with hdup
    · have hfind := findNeighbor_purge (r := s.router)
        (lsaHeaderHost data) (ntohl src)
      obtain ⟨n, hn, rfl⟩ := Option.map_eq_some_iff.mp (hfind.symm.trans hm)
      exact h.2 n hn
    · exact h.2 m hm

/-- A round adds the LSA to the acknowledgment or does not, and requests
nothing. -/
theorem Unrequested.step (h : Unrequested src s)
    (hs' : lsuRound src s data = .ok s') :
    Unrequested src s' ∧ s'.lsackData = s.lsackData ++
      if AcksRound src s data then data.take LSAHeader.size else [] := by
  have hdata := lsuRound_lsackData hs'
  simp only [h.1, true_and] at hdata
  exact ⟨h.round hs', hdata⟩

/-- A round finishes unless the LSA is a Network LSA without whole attached
routers. -/
theorem Unrequested.exists_iff (h : Unrequested src s) (data : Memory) :
    (∃ s', lsuRound src s data = .ok s') ↔ WholeLsa data := by
  rcases h.round_cases data with ⟨hskip, hround⟩ |
    ⟨hsum, -, -, hround⟩ | ⟨hsum, -, -, hround⟩
  · rw [hround]
    refine iff_of_true ⟨s, rfl⟩ fun hsum hnetwork => absurd ⟨hsum, ?_⟩ hskip
    rw [LSAHeader.TypeOk, hnetwork]
    decide
  · rw [hround, exists_acceptLsa_iff, WholeLsa, imp_iff_right hsum]
  · rw [hround, exists_settleOlder_iff, WholeLsa, imp_iff_right hsum]

/-- A duplicate for which the sender is awaited takes its entry off the
list. -/
theorem Unrequested.impliedAck_iff (h : Unrequested src s)
    (hdup : s.router.Duplicate data) :
    ImpliedAck src s data ↔
      s.router.Awaited src (lsaHeaderHost data) := by
  rw [ImpliedAck, and_iff_left_iff_imp]
  rintro - s' hs' ⟨m, hm, entry, hentry, hsame⟩
  obtain ⟨stored, hstored, hcmp⟩ := hdup.2
  have hold : ¬s.router.NewOrNewer (lsaHeaderHost data) := by
    intro hnew
    have hlt := hnew stored hstored
    rw [hcmp] at hlt
    exact absurd hlt (lt_irrefl 0)
  have htype : (lsaHeaderHost data).TypeOk := by
    rw [Option.mem_def, LSDB.findInstance, LSDB.findHeader] at hstored
    split_ifs at hstored with hrouter hnetwork
    · rw [LSAHeader.TypeOk, hrouter]
      decide
    · rw [LSAHeader.TypeOk, hnetwork]
      decide
  rcases h.round_cases data with ⟨hskip, -⟩ | ⟨-, -, hnew, -⟩ |
    ⟨-, -, -, hround⟩
  · exact hskip ⟨hdup.1, htype⟩
  · exact hold hnew
  · rw [hround, if_pos hdup] at hs'
    obtain ⟨lsdb, rfl, -⟩ := settleOlder_cases hs'
    have hfind := findNeighbor_purge (r := s.router)
      (lsaHeaderHost data) (ntohl src)
    obtain ⟨n, -, rfl⟩ := Option.map_eq_some_iff.mp (hfind.symm.trans hm)
    have hkept := (List.mem_filter.mp hentry).2
    rw [Neighbor.matchesId_of_sameLsa hsame] at hkept
    cases hkept

/-! ## The rounds of an LSU -/

/-- The header has been put into the acknowledgment in some round. -/
def AckedInRun (src : UInt32) (headerNet : List UInt8) (s : LsuState)
    (pointers : List Memory) : Prop :=
  Sometime (lsuRound src) (fun t data => AcksRound src t data ∧
    data.take LSAHeader.size = headerNet) s pointers

theorem Unrequested.run_exists_iff (h : Unrequested src s)
    (pointers : List Memory) :
    (∃ t, runFrom (lsuRound src) s pointers = .ok t) ↔
      ∀ data ∈ pointers, WholeLsa data := by
  induction pointers generalizing s with
  | nil => simp
  | cons data pointers ih =>
      rw [List.forall_mem_cons, ← h.exists_iff data]
      constructor
      · rintro ⟨t, ht⟩
        obtain ⟨s', hs', hrest⟩ := Outcome.bind_eq_ok.mp ht
        exact ⟨⟨s', hs'⟩, (ih (h.step hs').1).mp ⟨t, hrest⟩⟩
      · rintro ⟨⟨s', hs'⟩, hwhole⟩
        obtain ⟨t, ht⟩ := (ih (h.step hs').1).mpr hwhole
        exact ⟨t, by rw [runFrom_cons, hs', Outcome.bind_ok, ht]⟩

/-- What the rounds leave in the acknowledgment: the headers put into it, one
behind the other. -/
theorem Unrequested.run_acks (h : Unrequested src s) {pointers : List Memory}
    {t : LsuState} (hrun : runFrom (lsuRound src) s pointers = .ok t) :
    t.badLsReq = false ∧
      ∃ headers : List (List UInt8),
        t.lsackData = s.lsackData ++ headers.flatten ∧
        (∀ c ∈ headers, c.length = LSAHeader.size) ∧
        ∀ c, c ∈ headers ↔ AckedInRun src c s pointers := by
  induction pointers generalizing s with
  | nil =>
      rw [runFrom_nil, Except.ok.injEq] at hrun
      refine ⟨hrun ▸ h.1, [], by simp [hrun], by simp, fun c => ?_⟩
      exact iff_of_false List.not_mem_nil id
  | cons data pointers ih =>
      obtain ⟨s', hs', hrest⟩ := Outcome.bind_eq_ok.mp hrun
      obtain ⟨hnext, hdata⟩ := h.step hs'
      obtain ⟨hbreak, headers, hacks, hlen, hmem⟩ := ih hnext hrest
      have hcons : ∀ c, AckedInRun src c s (data :: pointers) ↔
          (AcksRound src s data ∧ data.take LSAHeader.size = c) ∨
            AckedInRun src c s' pointers := by
        intro c
        rw [AckedInRun, sometime_cons]
        refine or_congr_right ⟨?_, fun hsome => ⟨s', hs', hsome⟩⟩
        rintro ⟨s'', hs'', hsome⟩
        rw [hs', Except.ok.injEq] at hs''
        exact hs'' ▸ hsome
      refine ⟨hbreak, ?_⟩
      rw [hacks, hdata]
      by_cases hthis : AcksRound src s data
      · refine ⟨data.take LSAHeader.size :: headers, ?_, ?_, fun c => ?_⟩
        · rw [if_pos hthis, List.flatten_cons, List.append_assoc]
        · rw [List.forall_mem_cons]
          exact ⟨by simp [Memory.take], hlen⟩
        · rw [List.mem_cons, hmem, hcons, eq_comm]
          exact or_congr_left (iff_and_self.mpr fun _ => hthis)
      · refine ⟨headers, ?_, hlen, fun c => ?_⟩
        · rw [if_neg hthis, List.append_nil]
        · rw [hmem, hcons, or_iff_right fun h => hthis h.1]

/-- The rounds send LSUs at most. -/
theorem runFrom_lsuRound_log {pointers : List Memory} {t : LsuState}
    (hrun : runFrom (lsuRound src) s pointers = .ok t) :
    ∃ entries, t.router.log = s.router.log ++ entries ∧
      ∀ dst bytes, .sent dst bytes ∈ entries →
        bytes[1]? = some typeLsu := by
  refine runFrom_invariant (P := fun _ _ => True)
    (I := fun t => ∃ entries, t.router.log = s.router.log ++ entries ∧
      ∀ dst bytes, .sent dst bytes ∈ entries → bytes[1]? = some typeLsu)
    ?_ ⟨[], (List.append_nil _).symm, by simp⟩
    (along_of_forall (p := fun _ => True) (fun _ _ => trivial) s) hrun
  rintro u data u' ⟨entries, hlog, hlsus⟩ - hu'
  obtain ⟨added, hlog', hadded⟩ := lsuRound_log hu'
  refine ⟨entries ++ added, by rw [hlog', hlog, List.append_assoc], ?_⟩
  intro dst bytes hsent
  rcases List.mem_append.mp hsent with hbefore | hnow
  · exact hlsus dst bytes hbefore
  · rcases hadded _ hnow with ⟨dst', auType, body, heq⟩ | hraised
    · rw [(LogEntry.sent.inj heq).2, ospfPacket_type]
    · cases hraised

/-- The body of a packet. -/
theorem ospfPacket_drop (r : Router) (auType : UInt32) (type : UInt8)
    (body : List UInt8) :
    (r.ospfPacket auType type body).drop ospfHeaderSize = body := rfl

/-- What is sent in between is what has been added to the log. -/
theorem lsackSent_iff {headerNet : List UInt8} {entries : List LogEntry}
    (hlog : r'.log = r.log ++ entries) :
    LsackSent src headerNet r r' ↔
      ∃ dst bytes, .sent dst bytes ∈ entries ∧ bytes[1]? = some typeLsAck ∧
        Carries (bytes.drop ospfHeaderSize) headerNet ∧
        (dst = ntohl src ∨ dst = allSpfRouters ∨ dst = allDRouters) := by
  constructor
  · rintro ⟨entries', hlog', hsent⟩
    rw [hlog, List.append_cancel_left_eq] at hlog'
    rwa [hlog']
  · exact fun hsent => ⟨entries, hlog, hsent⟩

/-- Nothing fits into an empty body. -/
theorem not_carries_nil {headerNet : List UInt8}
    (hlen : headerNet.length = LSAHeader.size) : ¬Carries [] headerNet := by
  rintro ⟨pre, post, hsplit, -⟩
  have hzero := congrArg List.length hsplit
  simp only [List.length_nil, List.length_append, hlen,
    LSAHeader.size] at hzero
  omega

theorem segmentAddress_cases (r : Router) :
    r.segmentAddress = allSpfRouters ∨ r.segmentAddress = allDRouters := by
  rw [segmentAddress]
  split_ifs
  · exact Or.inl rfl
  · exact Or.inr rfl

/-- The LSAck at the end carries the headers put into it. -/
theorem lsackSent_sendLsack_iff {pointers : List Memory} {t : LsuState}
    (h : Unrequested src ⟨r, [], false⟩)
    (hrun : runFrom (lsuRound src) ⟨r, [], false⟩ pointers = .ok t)
    {headerNet : List UInt8} (hlen : headerNet.length = LSAHeader.size) :
    LsackSent src headerNet r (sendLsack t) ↔
      AckedInRun src headerNet ⟨r, [], false⟩ pointers := by
  obtain ⟨hbreak, headers, hacks, hsizes, hmem⟩ := h.run_acks hrun
  obtain ⟨entries, hlog, hlsus⟩ := runFrom_lsuRound_log hrun
  have hcarries : Carries t.lsackData headerNet ↔ headerNet ∈ headers := by
    rw [Carries, hacks, List.nil_append]
    exact exists_aligned_iff (by decide) hsizes hlen
  have hnotAck : ∀ dst bytes, .sent dst bytes ∈ entries →
      bytes[1]? ≠ some typeLsAck := by
    intro dst bytes hsent hack
    rw [hlsus dst bytes hsent] at hack
    exact absurd (Option.some.inj hack) (by decide)
  rw [← hmem, ← hcarries]
  by_cases hnone : t.lsackData = []
  · rw [sendLsack, if_neg fun hsend => hsend.2 hnone, lsackSent_iff hlog,
      hnone]
    refine iff_of_false ?_ (not_carries_nil hlen)
    rintro ⟨dst, bytes, hsent, hack, -⟩
    exact hnotAck dst bytes hsent hack
  · rw [sendLsack, if_pos ⟨hbreak, hnone⟩]
    have hlog' : (t.router.sendOspfPacket t.router.segmentAddress typeLsAck
        t.lsackData).log = r.log ++ (entries ++
          [.sent t.router.segmentAddress
            (t.router.ospfPacket t.router.interface.auType typeLsAck
              t.lsackData)]) := by
      rw [← List.append_assoc, ← hlog]
      rfl
    rw [lsackSent_iff hlog']
    constructor
    · rintro ⟨dst, bytes, hsent, hack, hbody, -⟩
      rw [List.mem_append, List.mem_singleton] at hsent
      rcases hsent with hbefore | hlast
      · exact absurd hack (hnotAck dst bytes hbefore)
      · rwa [(LogEntry.sent.inj hlast).2, ospfPacket_drop] at hbody
    · intro hbody
      refine ⟨_, _, List.mem_append_right _ (List.mem_singleton_self _),
        ospfPacket_type _ _ _ _, ?_, Or.inr t.router.segmentAddress_cases⟩
      rwa [ospfPacket_drop]

/-! ## Duplicates in a run of the process -/

/-- Every duplicate in an LSU of such a neighbor is one whose entry is on the
retransmission list of the neighbor, or comes with another LSA of the packet
that has the same header and is accepted and acknowledged. -/
def DuplicatesCovered (r : Router) (packet : Memory) : Prop :=
  r.FromServed packet →
    Along (lsuRound (packet.load32 12))
      (fun s data => s.router.Duplicate data →
        s.router.Awaited (packet.load32 12) (lsaHeaderHost data) ∨
          ((∀ lsa ∈ lsuPointers packet, WholeLsa lsa) ∧
            AckedInRun (packet.load32 12) (data.take LSAHeader.size)
              ⟨r, [], false⟩ (lsuPointers packet)))
      ⟨r, [], false⟩ (lsuPointers packet)

theorem FromServed.unrequested (h : r.FromServed packet) :
    Unrequested (packet.load32 12) ⟨r, [], false⟩ := by
  obtain ⟨n, hn, -, hnil⟩ := h
  refine ⟨rfl, fun m hm => ?_⟩
  rw [Option.mem_def, hn, Option.some.injEq] at hm
  rw [← hm, hnil]

/-- When the LSU has been handled, a header is in the LSAck if it has been put
there in some round. -/
theorem FromServed.exists_lsackSent_iff (h : r.FromServed packet)
    {headerNet : List UInt8} (hlen : headerNet.length = LSAHeader.size) :
    (∃ r', r.recvLsu packet = .ok r' ∧
        LsackSent (packet.load32 12) headerNet r r') ↔
      (∀ lsa ∈ lsuPointers packet, WholeLsa lsa) ∧
        AckedInRun (packet.load32 12) headerNet ⟨r, [], false⟩
          (lsuPointers packet) := by
  have hknown : r.findNeighbor (ntohl (packet.load32 12)) ≠ none := by
    obtain ⟨n, hn, -⟩ := h
    simp [hn]
  rw [recvLsu_eq, if_neg hknown,
    ← h.unrequested.run_exists_iff (lsuPointers packet)]
  constructor
  · rintro ⟨r', hrecv, hsent⟩
    obtain ⟨t, hrun, rfl⟩ := Outcome.map_eq_ok.mp hrecv
    exact ⟨⟨t, hrun⟩,
      (lsackSent_sendLsack_iff h.unrequested hrun hlen).mp hsent⟩
  · rintro ⟨⟨t, hrun⟩, hacked⟩
    exact ⟨sendLsack t, Outcome.map_eq_ok.mpr ⟨t, hrun, rfl⟩,
      (lsackSent_sendLsack_iff h.unrequested hrun hlen).mpr hacked⟩

theorem answersDuplicates_iff (r : Router) (packet : Memory) :
    r.AnswersDuplicates packet ↔ r.DuplicatesCovered packet := by
  refine forall_congr' fun hserved => ?_
  refine along_iff_of_invariant (fun s data s' hs _ hs' => (hs.step hs').1)
    (fun s data hs => ?_) hserved.unrequested
  refine forall_congr' fun hdup => or_congr (hs.impliedAck_iff hdup) ?_
  exact hserved.exists_lsackSent_iff (by simp [Memory.take])

/-- A condition on the handling of an LSU, as a condition on a step of the
process. -/
def EachLsu (P : Router → Memory → Prop) (r : Router) : Step → Prop
  | .frame _ packet => r.Admits packet → packet 21 = typeLsu → P r packet
  | _ => True

theorem eachLsu_congr {P Q : Router → Memory → Prop}
    (h : ∀ r packet, P r packet ↔ Q r packet) (r : Router) (step : Step) :
    EachLsu P r step ↔ EachLsu Q r step := by
  cases step with
  | frame now packet =>
      exact imp_congr_right fun _ => imp_congr_right fun _ => h r packet
  | _ => exact Iff.rfl

/-- What is asked of an LSU with one LSA. -/
theorem DuplicatesCovered.of_one (h : r.DuplicatesCovered packet)
    (hserved : r.FromServed packet)
    (hone : lsuCount (packet.load32 bodyOffset) = 1)
    (hdup : r.Duplicate (packet.advance (bodyOffset + 4))) :
    r.Awaited (packet.load32 12)
        (lsaHeaderHost (packet.advance (bodyOffset + 4))) ∨
      AcksRound (packet.load32 12) ⟨r, [], false⟩
        (packet.advance (bodyOffset + 4)) := by
  have hround := h hserved
  rw [lsuPointers, hone, lsaPointers, lsaPointers, along_cons, AckedInRun,
    sometime_cons] at hround
  rcases hround.1 hdup with hawaited | ⟨-, hthis | ⟨s', -, hnone⟩⟩
  · exact Or.inl hawaited
  · exact Or.inr hthis.1
  · exact hnone.elim

theorem fromServed_fromPeer {body : List UInt8} {n : Neighbor}
    (hn : n ∈ r.findNeighbor 0x0a000002) (hstate : .exchange ≤ n.state)
    (hnil : n.linkStateRequestList = []) :
    r.FromServed (fromPeer typeLsu body) :=
  ⟨n, by rw [fromPeer_src, ntohl_htonl]; exact hn, hstate, hnil⟩

end Router
end OspfLite
