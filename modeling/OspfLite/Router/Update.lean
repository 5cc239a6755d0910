import OspfLite.Router.Flooding
import OspfLite.Lib.Runs

/-!
# Link State Updates

The LSU branch of `recv_ospf_packet_thread`: the loop over the LSAs of the
packet and the steps of each round, numbered as in the source.
-/

namespace OspfLite

namespace Router

/-- Raise `event_bad_ls_req` for the neighbor at `ip`. -/
def eventBadLsReq (r : Router) (ip : UInt32) : Router :=
  (r.modifyNeighbor ip fun n => n.eventBadLsReq.1).addLog
    (.raised ip .badLsReq)

end Router

/-- The local variables of the LSU branch that outlive a round: what has been
written to `lsack_data`, and `bad_ls_req`. -/
structure LsuState where
  router : Router
  lsackData : List UInt8
  badLsReq : Bool
deriving DecidableEq, Repr

/-- Step 1: `ls_checksum` is the checksum of the LSA. -/
def ChecksumOk (data : Memory) : Prop :=
  (LSAHeader.load data).lsChecksum =
    htons (lsaChecksum data (htons (LSAHeader.load data).length))

instance (data : Memory) : Decidable (ChecksumOk data) :=
  inferInstanceAs (Decidable (_ = _))

/-- Step 2: the type is one of the five. -/
def LSAHeader.TypeOk (header : LSAHeader) : Prop :=
  1 ≤ header.lsType ∧ header.lsType ≤ 5

instance (header : LSAHeader) : Decidable header.TypeOk :=
  inferInstanceAs (Decidable (_ ∧ _))

/-- `neighbor_loading_or_exchange` of step 4. -/
def Interface.LoadingOrExchange (inter : Interface) : Prop :=
  ∃ n ∈ inter.neighbors, n.state = .exchange ∨ n.state = .loading

instance (inter : Interface) : Decidable inter.LoadingOrExchange :=
  inferInstanceAs (Decidable (∃ n ∈ inter.neighbors, _ ∨ _))

/-- `remove_if` on a retransmission list, with the predicate of the
handler. -/
def Neighbor.purgeRetransmissions (header : LSAHeader) (n : Neighbor) :
    Neighbor :=
  { n with
    linkStateRetransmissionList :=
      n.linkStateRetransmissionList.filter fun lsa =>
        !header.matchesId lsa }

namespace LSDB

/-- Step 5 of the handler: the instance in the database.  Types other than
Router and Network are never looked up. -/
def findInstance (lsdb : LSDB) (header : LSAHeader) : Option LSAHeader :=
  lsdb.findHeader header.lsType header.linkStateId header.advertisingRouter

/-- Step 5 d: install an LSA of type Router or Network. -/
def install (lsdb : LSDB) (uninitMask : UInt32) (data : Memory) :
    Outcome LSDB :=
  let header := lsaHeaderHost data
  if header.lsType = lsaRouter then
    .ok (lsdb.installRouterLsa data)
  else if header.lsType = lsaNetwork then
    .ofOption .endlessLoop (lsdb.installNetworkLsa uninitMask data)
  else
    .ok lsdb

variable {lsdb : LSDB} {mask : UInt32} {data : Memory}

/-- Step 5 d for a Network LSA. -/
theorem install_of_network
    (hnetwork : (lsaHeaderHost data).lsType = lsaNetwork) :
    lsdb.install mask data =
      .ofOption .endlessLoop (lsdb.installNetworkLsa mask data) := by
  rw [install, if_neg (LSAHeader.ne_router_of_network hnetwork),
    if_pos hnetwork]

end LSDB

namespace Router

/-- Step 5 c: drop the LSA from the retransmission lists of the neighbors of
the receiving interface. -/
def purge (r : Router) (header : LSAHeader) : Router :=
  { r with
    interface :=
      { r.interface with
        neighbors :=
          r.interface.neighbors.map (Neighbor.purgeRetransmissions header) } }

/-- Step 5 e: whether the LSA is put into the acknowledgment. -/
def Acknowledges (r : Router) (src : UInt32) (flooded : Bool) : Prop :=
  flooded = false ∧
    (r.interface.state = .backup → src = htonl r.interface.dr)

instance (r : Router) (src : UInt32) (flooded : Bool) :
    Decidable (r.Acknowledges src flooded) :=
  inferInstanceAs (Decidable (_ ∧ (_ → _)))

/-- Steps 5 b to 5 e, for an LSA that is new or newer than the database
copy. -/
def acceptLsa (src : UInt32) (data : Memory) (s : LsuState) :
    Outcome LsuState :=
  let header := lsaHeaderHost data
  let flooded := s.router.floodArea data src
  let purged := flooded.1.purge header
  (purged.lsdb.install purged.uninit.networkMask data).map fun lsdb =>
    { router := { purged with lsdb := lsdb }
      lsackData :=
        if purged.Acknowledges src flooded.2 then
          s.lsackData ++ data.take LSAHeader.size
        else
          s.lsackData
      badLsReq := false }

/-- Step 6: the sending neighbor's request list holds the LSA. -/
def Requested (r : Router) (src : UInt32) (header : LSAHeader) : Prop :=
  ∃ n, r.findNeighbor (ntohl src) = some n ∧
    ∃ h ∈ n.linkStateRequestList, header.matchesId h = true

instance (r : Router) (src : UInt32) (header : LSAHeader) :
    Decidable (r.Requested src header) :=
  decidable_of_iff
    (((r.findNeighbor (ntohl src)).elim false fun n =>
      n.linkStateRequestList.any header.matchesId) = true) (by
    cases h : r.findNeighbor (ntohl src) <;> simp [Requested, h])

/-- Step 8 for a Network LSA installs the received instance; for a Router LSA
nothing is done. -/
def settleOlder (data : Memory) (s : LsuState) : Outcome LsuState :=
  let header := lsaHeaderHost data
  if header.lsType = lsaNetwork then
    (s.router.lsdb.install s.router.uninit.networkMask data).map fun lsdb =>
      { s with router := { s.router with lsdb := lsdb } }
  else
    .ok s

/-- Steps 6 to 8, for an LSA that is not newer than the database copy.
`same` says that both are the same instance. -/
def rejectLsa (src : UInt32) (data : Memory) (same : Bool) (s : LsuState) :
    Outcome LsuState :=
  let header := lsaHeaderHost data
  if s.router.Requested src header then
    .ok { s with
      router := s.router.eventBadLsReq (ntohl src)
      badLsReq := true }
  else if same then
    settleOlder data { s with
      router := s.router.modifyNeighbor (ntohl src)
        (Neighbor.purgeRetransmissions header) }
  else
    settleOlder data s

/-- Step 5: the LSA goes on to steps 5 b to 5 e. -/
def NewOrNewer (r : Router) (header : LSAHeader) : Prop :=
  ∀ stored ∈ r.lsdb.findInstance header, lsaHeaderCmp header stored < 0

instance (r : Router) (header : LSAHeader) :
    Decidable (r.NewOrNewer header) :=
  inferInstanceAs
    (Decidable (∀ stored ∈ r.lsdb.findInstance header, _))

/-- One round of the LSU loop, for the LSA at `data`. -/
def lsuStep (src : UInt32) (data : Memory) (s : LsuState) :
    Outcome LsuState :=
  let header := lsaHeaderHost data
  if ¬ChecksumOk data then
    .ok s
  else if ¬header.TypeOk then
    .ok s
  else if header.lsAge = maxAge ∧ ¬s.router.interface.LoadingOrExchange then
    .ok { s with
      router := s.router.sendOspfPacket (ntohl src) typeLsAck
        (data.take LSAHeader.size) }
  else if s.router.NewOrNewer header then
    acceptLsa src data s
  else
    rejectLsa src data
      (decide (∃ stored ∈ s.router.lsdb.findInstance header,
        lsaHeaderCmp header stored = 0)) s

/-- The LSU loop: the pointer advances by the length field of the LSA, and
`bad_ls_req` leaves the loop. -/
def lsuLoop (src : UInt32) : ℕ → Memory → LsuState → Outcome LsuState
  | 0, _, s => .ok s
  | num + 1, data, s =>
      (lsuStep src data s).bind fun s' =>
        if s'.badLsReq then
          .ok s'
        else
          lsuLoop src num
            (data.advance (ntohs (LSAHeader.load data).length).toNat) s'

/-- The acknowledgment after the loop. -/
def sendLsack (s : LsuState) : Router :=
  if s.badLsReq = false ∧ s.lsackData ≠ [] then
    s.router.sendOspfPacket s.router.segmentAddress typeLsAck s.lsackData
  else
    s.router

/-- The number of rounds of the LSU loop: the count is stored in an `int`. -/
def lsuCount (num : UInt32) : ℕ := (ntohl num).toInt32.toInt.toNat

/-- The LSU branch of `recv_ospf_packet_thread`. -/
def recvLsu (r : Router) (packet : Memory) : Outcome Router :=
  let src := packet.load32 12
  match r.findNeighbor (ntohl src) with
  | none => .error .assertion
  | some _ =>
      (lsuLoop src (lsuCount (packet.load32 bodyOffset))
        (packet.advance (bodyOffset + 4)) ⟨r, [], false⟩).map sendLsack

/-! ## One round -/

/-- A received LSA never has age MaxAge, as its age is decoded as zero. -/
theorem ntoh_lsAge_ne_maxAge (data : Memory) :
    (lsaHeaderHost data).lsAge ≠ maxAge := by
  rw [LSAHeader.ntoh_lsAge]
  decide

/-- A round with an LSA that is not newer than the database copy. -/
theorem lsuStep_of_old {src : UInt32} {data : Memory} {s : LsuState}
    (hsum : ChecksumOk data) (htype : (lsaHeaderHost data).TypeOk)
    (hold : ¬s.router.NewOrNewer (lsaHeaderHost data)) :
    lsuStep src data s = rejectLsa src data
      (decide (∃ stored ∈ s.router.lsdb.findInstance (lsaHeaderHost data),
        lsaHeaderCmp (lsaHeaderHost data) stored = 0)) s := by
  simp only [lsuStep, hsum, htype, ntoh_lsAge_ne_maxAge data, hold,
    not_true_eq_false, if_false, false_and]

/-- A round with an LSA that is new or newer than the database copy. -/
theorem lsuStep_of_new {src : UInt32} {data : Memory} {s : LsuState}
    (hsum : ChecksumOk data) (htype : (lsaHeaderHost data).TypeOk)
    (hnew : s.router.NewOrNewer (lsaHeaderHost data)) :
    lsuStep src data s = acceptLsa src data s := by
  simp only [lsuStep, hsum, htype, ntoh_lsAge_ne_maxAge data, hnew,
    not_true_eq_false, if_false, if_true, false_and]

/-- The LSU loop round as a whole: which of the two exits behind step 5 is
taken. -/
theorem lsuStep_cases (src : UInt32) (data : Memory) (s : LsuState) :
    (¬(ChecksumOk data ∧ (lsaHeaderHost data).TypeOk) ∧
        lsuStep src data s = .ok s) ∨
      (ChecksumOk data ∧ (lsaHeaderHost data).TypeOk ∧
        s.router.NewOrNewer (lsaHeaderHost data) ∧
        lsuStep src data s = acceptLsa src data s) ∨
      (ChecksumOk data ∧ (lsaHeaderHost data).TypeOk ∧
        ¬s.router.NewOrNewer (lsaHeaderHost data) ∧
        ∃ same, lsuStep src data s = rejectLsa src data same s) := by
  by_cases hsum : ChecksumOk data
  · by_cases htype : (lsaHeaderHost data).TypeOk
    · by_cases hnew :
        s.router.NewOrNewer (lsaHeaderHost data)
      · exact Or.inr (Or.inl ⟨hsum, htype, hnew,
          lsuStep_of_new hsum htype hnew⟩)
      · exact Or.inr (Or.inr ⟨hsum, htype, hnew, _,
          lsuStep_of_old hsum htype hnew⟩)
    · exact Or.inl ⟨fun h => htype h.2, by simp [lsuStep, hsum, htype]⟩
  · exact Or.inl ⟨fun h => hsum h.1, by simp [lsuStep, hsum]⟩

/-- Flooding and purging leave the database to step 5 d. -/
theorem acceptLsa_lsdb {src : UInt32} {data : Memory} {s s' : LsuState}
    (h : acceptLsa src data s = .ok s') :
    s.router.lsdb.install s.router.uninit.networkMask data =
      .ok s'.router.lsdb := by
  obtain ⟨lsdb, hinstall, rfl⟩ := Outcome.map_eq_ok.mp h
  exact hinstall

/-- What flooding and purging do to the neighbors of the receiving interface.
AS-external LSAs are not flooded. -/
theorem acceptLsa_forall₂ {src : UInt32} {data : Memory} {s s' : LsuState}
    {R : Neighbor → Neighbor → Prop}
    (hflood : ∀ n ∈ s.router.interface.neighbors,
      R n ((n.flood (lsaHeaderHost data) src).1.purgeRetransmissions
        (lsaHeaderHost data)))
    (hpurge : ∀ n ∈ s.router.interface.neighbors,
      R n (n.purgeRetransmissions (lsaHeaderHost data)))
    (h : acceptLsa src data s = .ok s') :
    List.Forall₂ R s.router.interface.neighbors
      s'.router.interface.neighbors := by
  obtain ⟨lsdb, -, rfl⟩ := Outcome.map_eq_ok.mp h
  change List.Forall₂ R s.router.interface.neighbors
    ((s.router.floodingLsa data src s.router.interface).1.neighbors.map
      (Neighbor.purgeRetransmissions (lsaHeaderHost data)))
  rw [List.forall₂_map_right_iff]
  by_cases hexternal : (lsaHeaderHost data).lsType = lsaAsExternal
  · rw [floodingLsa, if_pos hexternal]
    exact List.forall₂_same.mpr hpurge
  · rw [floodingLsa_fst s.router src _ hexternal, List.forall₂_map_right_iff]
    exact List.forall₂_same.mpr hflood

/-- What step 8 leaves: the database, or what the received instance makes of
it if it is of a Network LSA. -/
theorem settleOlder_cases {data : Memory} {s s' : LsuState}
    (h : settleOlder data s = .ok s') :
    ∃ lsdb, s' = { s with router := { s.router with lsdb := lsdb } } ∧
      (lsdb = s.router.lsdb ∨
        (lsaHeaderHost data).lsType = lsaNetwork ∧
          s.router.lsdb.install s.router.uninit.networkMask data =
            .ok lsdb) := by
  rw [settleOlder] at h
  split_ifs at h with hnetwork
  · obtain ⟨lsdb, hinstall, rfl⟩ := Outcome.map_eq_ok.mp h
    exact ⟨lsdb, rfl, Or.inr ⟨hnetwork, hinstall⟩⟩
  · rw [Except.ok.injEq] at h
    exact ⟨s.router.lsdb, h.symm, Or.inl rfl⟩

/-- Steps 6 to 8 as a whole: the exchange starts over, or step 8 follows,
behind the purge of step 7 or without it. -/
theorem rejectLsa_cases {src : UInt32} {data : Memory} {same : Bool}
    {s s' : LsuState} (h : rejectLsa src data same s = .ok s') :
    (s.router.Requested src (lsaHeaderHost data) ∧
        s'.router = s.router.eventBadLsReq (ntohl src)) ∨
      (¬s.router.Requested src (lsaHeaderHost data) ∧
        ∃ r lsdb, (r = s.router ∨
            r = s.router.modifyNeighbor (ntohl src)
              (Neighbor.purgeRetransmissions (lsaHeaderHost data))) ∧
          s'.router = { r with lsdb := lsdb } ∧
          (lsdb = s.router.lsdb ∨
            (lsaHeaderHost data).lsType = lsaNetwork ∧
              s.router.lsdb.install s.router.uninit.networkMask data =
                .ok lsdb)) := by
  rw [rejectLsa] at h
  split_ifs at h with hrequested
  · rw [Except.ok.injEq] at h
    exact Or.inl ⟨hrequested, h ▸ rfl⟩
  · obtain ⟨lsdb, rfl, hlsdb⟩ := settleOlder_cases h
    exact Or.inr ⟨hrequested, _, lsdb, Or.inr rfl, rfl, hlsdb⟩
  · obtain ⟨lsdb, rfl, hlsdb⟩ := settleOlder_cases h
    exact Or.inr ⟨hrequested, _, lsdb, Or.inl rfl, rfl, hlsdb⟩

/-- Of a rejected LSA, step 8 can install the received instance. -/
theorem rejectLsa_lsdb {src : UInt32} {data : Memory} {same : Bool}
    {s s' : LsuState} (h : rejectLsa src data same s = .ok s') :
    s'.router.lsdb = s.router.lsdb ∨
      s.router.lsdb.install s.router.uninit.networkMask data =
        .ok s'.router.lsdb := by
  rcases rejectLsa_cases h with
    ⟨-, hrouter⟩ | ⟨-, _, lsdb, -, hrouter, hlsdb | ⟨-, hinstall⟩⟩
  · rw [hrouter]
    exact Or.inl rfl
  · rw [hrouter]
    exact Or.inl hlsdb
  · rw [hrouter]
    exact Or.inr hinstall

/-! ## The loop as a run -/

/-- The pointers the LSU loop would visit without a `break`. -/
def lsaPointers : ℕ → Memory → List Memory
  | 0, _ => []
  | num + 1, data =>
      data :: lsaPointers num
        (data.advance (ntohs (LSAHeader.load data).length).toNat)

/-- A round as a step of a run: after the `break` nothing happens any
more. -/
def lsuRound (src : UInt32) (s : LsuState) (data : Memory) :
    Outcome LsuState :=
  if s.badLsReq then .ok s else lsuStep src data s

/-- A round as a whole: it leaves the state as it is, or takes one of the two
exits behind step 5. -/
theorem lsuRound_cases {src : UInt32} {data : Memory} {s s' : LsuState}
    (h : lsuRound src s data = .ok s') :
    s' = s ∨
      (s.badLsReq = false ∧ ChecksumOk data ∧ (lsaHeaderHost data).TypeOk ∧
        ((s.router.NewOrNewer (lsaHeaderHost data) ∧
            acceptLsa src data s = .ok s') ∨
          (¬s.router.NewOrNewer (lsaHeaderHost data) ∧
            ∃ same, rejectLsa src data same s = .ok s'))) := by
  rw [lsuRound] at h
  split_ifs at h with hbad
  · exact Or.inl (Except.ok.inj h).symm
  · have hbreak := Bool.eq_false_of_not_eq_true hbad
    rcases lsuStep_cases src data s with ⟨-, hstep⟩ |
      ⟨hsum, htype, hnew, hstep⟩ | ⟨hsum, htype, hold, same, hstep⟩
    · rw [hstep] at h
      exact Or.inl (Except.ok.inj h).symm
    · rw [hstep] at h
      exact Or.inr ⟨hbreak, hsum, htype, Or.inl ⟨hnew, h⟩⟩
    · rw [hstep] at h
      exact Or.inr ⟨hbreak, hsum, htype, Or.inr ⟨hold, same, h⟩⟩

/-- After the `break` the rest of the rounds is empty. -/
theorem runFrom_lsuRound_of_badLsReq {src : UInt32} {s : LsuState}
    (hbad : s.badLsReq = true) (pointers : List Memory) :
    runFrom (lsuRound src) s pointers = .ok s := by
  induction pointers with
  | nil => rfl
  | cons data pointers ih =>
      rw [runFrom_cons, lsuRound, if_pos hbad, Outcome.bind_ok, ih]

/-- The LSU loop is the run over its pointers. -/
theorem lsuLoop_eq_runFrom (src : UInt32) (num : ℕ) (data : Memory)
    {s : LsuState} (hs : s.badLsReq = false) :
    lsuLoop src num data s =
      runFrom (lsuRound src) s (lsaPointers num data) := by
  induction num generalizing data s with
  | zero => rfl
  | succ num ih =>
      rw [lsuLoop, lsaPointers, runFrom_cons, lsuRound, hs,
        if_neg Bool.false_ne_true]
      cases lsuStep src data s with
      | error fault => rfl
      | ok s' =>
          cases hbad : s'.badLsReq with
          | true =>
              simp [hbad, runFrom_lsuRound_of_badLsReq hbad]
          | false => simp [hbad, ih _ hbad]

/-- The rounds of an LSU: the pointers it visits. -/
def lsuPointers (packet : Memory) : List Memory :=
  lsaPointers (lsuCount (packet.load32 bodyOffset))
    (packet.advance (bodyOffset + 4))

/-- The LSU branch as a run over its rounds. -/
theorem recvLsu_eq (r : Router) (packet : Memory) :
    r.recvLsu packet =
      if r.findNeighbor (ntohl (packet.load32 12)) = none then
        .error .assertion
      else
        (runFrom (lsuRound (packet.load32 12)) ⟨r, [], false⟩
          (lsuPointers packet)).map sendLsack := by
  rw [recvLsu, lsuPointers, ← lsuLoop_eq_runFrom _ _ _ rfl]
  cases r.findNeighbor (ntohl (packet.load32 12)) <;> simp

end Router

end OspfLite
