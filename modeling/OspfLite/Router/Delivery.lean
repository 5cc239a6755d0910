import OspfLite.Router.Acknowledging
import OspfLite.Router.LsuReads
import OspfLite.Router.Transfer

/-!
# The LSU of `update_lsas` arrives

A receiver that holds only older instances installs every LSA of the LSU.  When
none of its neighbors takes part in an exchange, it acknowledges them all in
one LSAck.
-/

namespace OspfLite

variable {n : Neighbor} {inter : Interface}

/-- A neighbor that takes part in no exchange is not flooded to. -/
theorem Neighbor.flood_of_quiet (header : LSAHeader) (src : UInt32)
    (h : ¬(n.state = .exchange ∨ n.state = .loading)) :
    n.flood header src = (n, false) := by
  rw [flood, if_neg h, ite_self]

theorem Interface.floodNeighbors_of_quiet (header : LSAHeader) (src : UInt32)
    (h : ¬inter.LoadingOrExchange) :
    inter.floodNeighbors header src = (inter, false) := by
  have hquiet : ∀ n ∈ inter.neighbors, n.flood header src = (n, false) :=
    fun n hn => n.flood_of_quiet header src fun hstate => h ⟨n, hn, hstate⟩
  have hmap : inter.neighbors.map (Neighbor.flood header src) =
      inter.neighbors.map fun n => (n, false) :=
    List.map_congr_left hquiet
  rw [floodNeighbors, hmap]
  simp [Function.comp_def]

namespace Router

variable {r r' q : Router} {src : UInt32} {data : Memory} {s : LsuState}
  {lsa : OwnLsa} {delay : UInt32} {rest : List UInt8}

/-! ## Without an exchange -/

/-- No neighbor takes part in an exchange. -/
def Quiet (r : Router) : Prop :=
  ∀ inter ∈ r.interfaces, ¬inter.LoadingOrExchange

instance (r : Router) : Decidable r.Quiet :=
  inferInstanceAs (Decidable (∀ inter ∈ r.interfaces, _))

theorem floodingLsa_of_quiet (r : Router) (data : Memory) (src : UInt32)
    (h : ¬inter.LoadingOrExchange) :
    r.floodingLsa data src inter = (inter, [], false) := by
  have hfloods : ¬FloodsOut inter src false := fun h => by cases h.1
  rw [floodingLsa]
  simp only [Interface.floodNeighbors_of_quiet _ src h, if_neg hfloods,
    ite_self]

/-- Step 5 b does nothing. -/
theorem Quiet.floodArea (h : r.Quiet) (data : Memory) (src : UInt32) :
    r.floodArea data src = (r, false) := by
  have hmany : ∀ inters, inters ⊆ r.interfaces →
      inters.map (r.floodingLsa data src) =
        inters.map fun inter => (inter, [], false) := fun inters hsub =>
    List.map_congr_left fun inter hinter =>
      r.floodingLsa_of_quiet data src (h inter (hsub hinter))
  have hthis := r.floodingLsa_of_quiet data src
    (h r.interface (List.mem_append_right _ List.mem_cons_self))
  have hbefore := hmany r.interfacesBefore (List.subset_append_left _ _)
  have hafter := hmany r.interfacesAfter
    (List.Subset.trans (List.subset_cons_self _ _)
      (List.subset_append_right _ _))
  have hsilent : ∀ inters : List Interface,
      (inters.flatMap fun _ => ([] : List LogEntry)) = [] := by
    intro inters
    rw [List.flatMap_eq_nil_iff]
    exact fun _ _ => rfl
  rw [Router.floodArea]
  simp only [hbefore, hafter, hthis, List.map_map, Function.comp_def,
    List.map_id', List.flatMap_map, hsilent, List.append_nil]

/-! ## One round -/

/-- What a round leaves when it has put an LSA into the database. -/
def LsuState.installed (src : UInt32) (data : Memory) (lsa : OwnLsa)
    (s : LsuState) : LsuState :=
  let flooded := s.router.floodArea data src
  let purged := flooded.1.purge lsa.receivedHeader
  { router :=
      { purged with
        lsdb := s.router.lsdb.put
          (lsa.received s.router.uninit.networkMask) }
    lsackData :=
      if purged.Acknowledges src flooded.2 then
        s.lsackData ++ data.take LSAHeader.size
      else s.lsackData
    badLsReq := false }

/-- A round with an LSA that is new or newer than the database copy. -/
theorem lsuRound_of_new (hconsistent : lsa.Consistent)
    (hbreak : s.badLsReq = false)
    (hnew : s.router.NewOrNewer lsa.receivedHeader) (src : UInt32)
    (delay : UInt32) (rest : List UInt8) :
    lsuRound src s (Memory.ofList (lsa.wire delay ++ rest)) =
      .ok (LsuState.installed src
        (Memory.ofList (lsa.wire delay ++ rest)) lsa s) := by
  have hheader := lsa.lsaHeaderHost_wire delay rest
  have hsum := hconsistent.checksumOk delay rest
  have htype := hconsistent.typeOk
  rw [← hheader] at htype hnew
  rw [lsuRound, hbreak, if_neg Bool.false_ne_true,
    lsuStep_of_new hsum htype hnew, acceptLsa, hheader]
  have hinstall := LSDB.install_wire hconsistent s.router.lsdb delay
    s.router.uninit.networkMask rest
  exact congrArg (Except.map _) hinstall

/-- Only the database changes, and the retransmission lists, from which entries
can be taken. -/
def Absorbs (r r' : Router) : Prop :=
  ∃ lsdb neighbors, r' = { r with
      lsdb := lsdb
      interface := { r.interface with neighbors := neighbors } } ∧
    List.Forall₂ (fun n n' => ∃ list,
      list.Sublist n.linkStateRetransmissionList ∧
        n' = { n with linkStateRetransmissionList := list })
      r.interface.neighbors neighbors

theorem absorbs_refl (r : Router) : r.Absorbs r :=
  ⟨r.lsdb, r.interface.neighbors, rfl,
    List.forall₂_same.mpr fun n _ =>
      ⟨n.linkStateRetransmissionList, List.Sublist.refl _, rfl⟩⟩

theorem Absorbs.trans {t : Router} (h : r.Absorbs q) (h' : q.Absorbs t) :
    r.Absorbs t := by
  obtain ⟨lsdb, neighbors, rfl, hlists⟩ := h
  obtain ⟨lsdb', neighbors', rfl, hlists'⟩ := h'
  refine ⟨lsdb', neighbors', rfl, forall₂_trans ?_ hlists hlists'⟩
  rintro n n' n'' ⟨list, hsub, rfl⟩ ⟨list', hsub', rfl⟩
  exact ⟨list', hsub'.trans hsub, rfl⟩

/-- No exchange is begun. -/
theorem Absorbs.quiet (h : r.Absorbs r') (hquiet : r.Quiet) : r'.Quiet := by
  obtain ⟨lsdb, neighbors, rfl, hlists⟩ := h
  intro inter hinter
  rcases List.mem_append.mp hinter with hbefore | hthis
  · exact hquiet inter (List.mem_append_left _ hbefore)
  rcases List.mem_cons.mp hthis with rfl | hafter
  · rintro ⟨n', hn', hstate⟩
    obtain ⟨n, hn, list, -, rfl⟩ := exists_mem_of_forall₂ hlists.flip hn'
    exact hquiet r.interface (List.mem_append_right _ List.mem_cons_self)
      ⟨n, hn, hstate⟩
  · exact hquiet inter
      (List.mem_append_right _ (List.mem_cons_of_mem _ hafter))

theorem Absorbs.acknowledges (h : r.Absorbs r')
    (hack : r.Acknowledges src false) : r'.Acknowledges src false := by
  obtain ⟨lsdb, neighbors, rfl, -⟩ := h
  exact hack

/-- Without an exchange the LSA is acknowledged, not sent on. -/
theorem installed_of_quiet (hquiet : s.router.Quiet)
    (hack : s.router.Acknowledges src false) (lsa : OwnLsa) :
    s.router.Absorbs (LsuState.installed src data lsa s).router ∧
      (LsuState.installed src data lsa s).lsackData =
        s.lsackData ++ data.take LSAHeader.size := by
  have hpurged : (s.router.purge lsa.receivedHeader).Acknowledges src
      false := hack
  rw [LsuState.installed]
  simp only [hquiet.floodArea, if_pos hpurged, and_true]
  refine ⟨_, _, rfl, ?_⟩
  rw [List.forall₂_map_right_iff]
  exact List.forall₂_same.mpr fun n _ => ⟨_, List.filter_sublist, rfl⟩

/-- What step 5 e keeps of an LSA. -/
theorem take_wire (delay : UInt32) (lsa : OwnLsa) (rest : List UInt8) :
    (Memory.ofList (lsa.wire delay ++ rest)).take LSAHeader.size =
      (sealedHeader delay lsa.header lsa.body).store := by
  rw [OwnLsa.wire, sealLsa_eq, List.append_assoc]
  exact Memory.take_ofList_append _ _

/-! ## The rounds of an LSU -/

/-- The rounds over LSAs of which the receiver holds older instances only.
Each of them is installed, and without an exchange each is acknowledged. -/
theorem exists_run_of_new {pointers : List Memory} {lsas : List OwnLsa}
    (hvisits : List.Forall₂ (fun data lsa =>
      Memory.StartsWith data (OwnLsa.wire delay lsa)) pointers lsas)
    (hconsistent : ∀ lsa ∈ lsas, lsa.Consistent)
    (hdistinct : lsas.Pairwise fun a b =>
      a.header.lsType ≠ b.header.lsType)
    (hbreak : s.badLsReq = false)
    (hnew : ∀ lsa ∈ lsas, s.router.NewOrNewer lsa.receivedHeader) :
    ∃ s', runFrom (lsuRound src) s pointers = .ok s' ∧
      s'.badLsReq = false ∧
      s'.router.lsdb =
        s.router.lsdb.putAll s.router.uninit.networkMask lsas ∧
      (s.router.Quiet → s.router.Acknowledges src false →
        s.router.Absorbs s'.router ∧
          s'.lsackData = s.lsackData ++ lsas.flatMap fun lsa =>
            (sealedHeader delay lsa.header lsa.body).store) := by
  induction hvisits generalizing s with
  | nil =>
      refine ⟨s, rfl, hbreak, rfl, fun _ _ => ⟨s.router.absorbs_refl, ?_⟩⟩
      rw [List.flatMap_nil, List.append_nil]
  | @cons data lsa pointers lsas hdata hvisits ih =>
      obtain ⟨rest, hrest⟩ := hdata.exists_agreeBelow lsaReach
      obtain ⟨hfirst, hothers⟩ := List.pairwise_cons.mp hdistinct
      have hlsa := hconsistent lsa List.mem_cons_self
      have hround := (lsuRound_of_reach hrest src s).trans
        (lsuRound_of_new hlsa hbreak (hnew lsa List.mem_cons_self) src delay
          rest)
      let s₁ := LsuState.installed src
        (Memory.ofList (lsa.wire delay ++ rest)) lsa s
      have hlater : ∀ other ∈ lsas,
          s₁.router.NewOrNewer other.receivedHeader := by
        intro other hother
        have hne : ¬other.receivedHeader.SameLsa
            (lsa.received s.router.uninit.networkMask).header := by
          rw [OwnLsa.header_received]
          exact fun hsame => hfirst other hother hsame.1.symm
        have hsame : s₁.router.lsdb.findInstance other.receivedHeader =
            s.router.lsdb.findInstance other.receivedHeader := by
          change (s.router.lsdb.put _).findInstance _ = _
          rw [LSDB.findInstance_eq, LSDB.findInstance_eq,
            LSDB.findLike_put (hlsa.received _), if_neg hne]
        rw [NewOrNewer, hsame]
        exact hnew other (List.mem_cons_of_mem _ hother)
      obtain ⟨s', hrun, hbreak', hlsdb, hafter⟩ :=
        @ih s₁ (fun other h => hconsistent other (List.mem_cons_of_mem _ h))
          hothers rfl hlater
      refine ⟨s', ?_, hbreak', hlsdb, ?_⟩
      · rw [runFrom_cons, hround]
        exact hrun
      · intro hquiet hack
        obtain ⟨hfirst, hwritten⟩ := @installed_of_quiet src
          (Memory.ofList (lsa.wire delay ++ rest)) s hquiet hack lsa
        obtain ⟨hrest, hdata⟩ :=
          hafter (hfirst.quiet hquiet) (hfirst.acknowledges hack)
        refine ⟨hfirst.trans hrest, ?_⟩
        rw [hdata, hwritten, take_wire, List.flatMap_cons,
          List.append_assoc]

/-! ## The LSU and its sender -/

/-- What `update_lsas` leaves alone decides what is taken in. -/
theorem updateLsas_admits {packet : Memory} :
    r.updateLsas.Admits packet ↔ r.Admits packet := by
  obtain ⟨t, entries, ⟨lsdb, count, headers, rfl⟩, heq, -⟩ := r.updateLsas_eq
  rw [heq]
  exact Iff.rfl

/-- The LSAs reach the database of the receiver. -/
structure Learns (r q q' : Router) : Prop where
  own : ∀ lsa ∈ r.emitted, q'.lsdb.findLike lsa.header =
    some (lsa.received q.uninit.networkMask)
  others : ∀ header : LSAHeader,
    (∀ lsa ∈ r.emitted, ¬header.SameLsa lsa.header) →
      q'.lsdb.findLike header = q.lsdb.findLike header

/-- The receiver holds older instances only. -/
def OlderThan (q r : Router) : Prop :=
  ∀ lsa ∈ r.emitted, ∀ stored ∈ q.lsdb.findInstance lsa.header,
    stored.lsSeqNum < lsa.header.lsSeqNum

instance (q r : Router) : Decidable (q.OlderThan r) :=
  inferInstanceAs (Decidable (∀ lsa ∈ r.emitted,
    ∀ stored ∈ q.lsdb.findInstance lsa.header, _))

theorem OlderThan.newOrNewer (h : q.OlderThan r) (hlsa : lsa ∈ r.emitted) :
    q.NewOrNewer lsa.receivedHeader := by
  intro stored hstored
  have hlt : stored.lsSeqNum < lsa.receivedHeader.lsSeqNum :=
    h lsa hlsa stored hstored
  have hne : lsa.receivedHeader.lsSeqNum ≠ stored.lsSeqNum :=
    (UInt32.ne_of_lt hlt).symm
  have hnot : ¬lsa.receivedHeader.lsSeqNum < stored.lsSeqNum :=
    UInt32.not_lt.mpr (UInt32.le_of_lt hlt)
  rw [lsaHeaderCmp]
  simp [hne, hnot]

/-- What the receiver makes of the LSU. -/
theorem exists_recvLsu {peer : Neighbor} {packet : Memory}
    (hfits : (lsuData r.emittedLsas).length ≤ lsuBufferSize)
    (hpeer : q.findNeighbor r.interface.ipInterfaceAddress = some peer)
    (hold : q.OlderThan r) {dst : UInt32}
    (hconveys : Conveys packet r.interface.ipInterfaceAddress dst r.ownLsu) :
    ∃ s : LsuState, q.recvLsu packet = .ok (sendLsack s) ∧
      r.Learns q s.router ∧ s.badLsReq = false ∧
      (q.Quiet → (q.interface.state = .backup →
          r.interface.ipInterfaceAddress = q.interface.dr) →
        q.Absorbs s.router ∧ s.lsackData = r.emitted.flatMap fun lsa =>
          (sealedHeader r.interface.infTransDelay lsa.header
            lsa.body).store) := by
  have hconsistent : ∀ lsa ∈ r.emitted, lsa.Consistent :=
    fun lsa hlsa => consistent_of_fits hfits hlsa
  have hlengths : ∀ lsa ∈ r.emittedLsas, LengthCounts lsa := by
    rw [emittedLsas_eq]
    intro lsa hlsa
    obtain ⟨own, hown, rfl⟩ := List.mem_map.mp hlsa
    exact (hconsistent own hown).lengthCounts _
  have hcount := length_emittedLsas_le r
  have hvisits := lsuPointers_of_conveys hlengths (by omega) hconveys
  rw [emittedLsas_eq, List.forall₂_map_right_iff] at hvisits
  have hsrc := hconveys.src
  obtain ⟨s, hrun, hbreak, hlsdb, hquiet⟩ :=
    @exists_run_of_new (packet.load32 12) ⟨q, [], false⟩ _ _ _ hvisits
      hconsistent r.emitted_pairwise rfl fun lsa hlsa => hold.newOrNewer hlsa
  refine ⟨s, ?_, ⟨?_, ?_⟩, hbreak, ?_⟩
  · rw [recvLsu_eq, hsrc, ntohl_htonl, hpeer, if_neg (Option.some_ne_none _),
      ← hsrc, hrun, Outcome.map_ok]
  · intro lsa hlsa
    rw [hlsdb]
    exact LSDB.findLike_putAll hconsistent r.emitted_pairwise hlsa _
  · intro header hne
    rw [hlsdb]
    exact LSDB.findLike_putAll_of_ne hconsistent hne _
  · intro hidle hback
    apply hquiet hidle
    refine ⟨rfl, fun hstate => ?_⟩
    rw [hsrc]
    exact congrArg htonl (hback hstate)

theorem recvOspfPacket_of_lsu {packet : Memory} (now : ℤ)
    (hadmits : q.Admits packet) (htype : packet 21 = typeLsu) :
    q.recvOspfPacket now packet = q.recvLsu packet := by
  rw [recvOspfPacket, if_pos hadmits, htype]
  rfl

theorem recvOspfPacket_of_lsack {packet : Memory} (now : ℤ)
    (hadmits : q.Admits packet) (htype : packet 21 = typeLsAck) :
    q.recvOspfPacket now packet = q.recvLsAck packet := by
  rw [recvOspfPacket, if_pos hadmits, htype]
  rfl

/-- The LSU reaches the database of whoever takes it in. -/
theorem exists_learns {peer : Neighbor} {dst : UInt32} {packet : Memory}
    (hfits : (lsuData r.emittedLsas).length ≤ lsuBufferSize)
    (hpeer : q.findNeighbor r.interface.ipInterfaceAddress = some peer)
    (hold : q.OlderThan r)
    (hconveys : Conveys packet r.interface.ipInterfaceAddress dst r.ownLsu)
    (hadmits : q.Admits packet) (now : ℤ) :
    ∃ q', q.recvOspfPacket now packet = .ok q' ∧ r.Learns q q' := by
  have htype := type_of_conveys hconveys
  obtain ⟨s, hrecv, hlearns, -⟩ := exists_recvLsu hfits hpeer hold hconveys
  refine ⟨sendLsack s, ?_, ?_⟩
  · rw [recvOspfPacket_of_lsu now hadmits htype]
    exact hrecv
  · have hlsdb : (sendLsack s).lsdb = s.router.lsdb := by
      rw [sendLsack]
      split_ifs <;> rfl
    refine ⟨fun lsa hlsa => ?_, fun header hne => ?_⟩
    · rw [hlsdb]
      exact hlearns.own lsa hlsa
    · rw [hlsdb]
      exact hlearns.others header hne

/-- Every router that knows the sender as a neighbor and holds only older
instances of its LSAs has them in its database when it has handled the LSU of
`update_lsas`, and the rest of the database is as it was. -/
theorem ownLsas_delivered {peer : Neighbor} (hemits : r.emitted ≠ [])
    (hfits : (lsuData r.emittedLsas).length ≤ lsuBufferSize)
    (hpeer : q.findNeighbor r.interface.ipInterfaceAddress = some peer)
    (hold : q.OlderThan r) :
    ∃ packet, r.updateLsas.log = r.log ++ [.sent r.segmentAddress packet] ∧
      ∀ now frame,
        Conveys frame r.interface.ipInterfaceAddress r.segmentAddress
          packet →
        q.Admits frame →
        ∃ q', q.recvOspfPacket now frame = .ok q' ∧ r.Learns q q' := by
  refine ⟨r.ownLsu, updateLsas_log hemits, ?_⟩
  intro now frame hconveys hadmits
  exact exists_learns hfits hpeer hold hconveys hadmits now

/-- The BDR of the segment of `originatingRouter`. -/
def receivingRouter : Router :=
  new 0x02020202 initialSequenceNumber 0 ⟨0, 0, 0, false, false, false⟩ []
    { Interface.new 0x0a000002 0xffffff00 with
      state := .backup
      dr := 0x0a000001
      bdr := 0x0a000002
      neighbors :=
        [{ Neighbor.new ⟨0, 0, 0, false, false, false⟩ 0x0a000001 with
            state := .full, id := 0x01010101 }] } []

/-- The BDR learns both LSAs of the DR. -/
theorem ownLsas_delivered_bothKinds :
    originatingRouter.emitted.length = 2 ∧
      ∃ packet, originatingRouter.updateLsas.log =
          originatingRouter.log ++
            [.sent originatingRouter.segmentAddress packet] ∧
        ∀ now frame,
          Conveys frame originatingRouter.interface.ipInterfaceAddress
            originatingRouter.segmentAddress packet →
          receivingRouter.Admits frame →
          ∃ q', receivingRouter.recvOspfPacket now frame = .ok q' ∧
            originatingRouter.Learns receivingRouter q' :=
  ⟨by decide +kernel,
    ownLsas_delivered (by decide +kernel) (by decide +kernel) rfl
      (by decide +kernel)⟩

/-! ## The LSAck -/

/-- The entries of a packet in which they were written one after the other. -/
theorem bodyEntries_of_conveys {α : Type} {load : Memory → α}
    {store : α → List UInt8} {size : ℕ} (hpos : 0 < size)
    (hsize : ∀ a, (store a).length = size)
    (hload : ∀ a rest, load (Memory.ofList (store a ++ rest)) = a)
    (hcongr : ∀ p q, Memory.AgreeBelow size p q → load p = load q)
    {as : List α} (hfits : size * as.length + ospfHeaderSize < 65536)
    {auType src dst : UInt32} {type : UInt8} {packet : Memory}
    (h : Conveys packet src dst
      (r.ospfPacket auType type (as.flatMap store))) :
    bodyEntries size load packet = some as := by
  have hdata : (as.flatMap store).length = size * as.length := by
    simp [List.length_flatMap, hsize, Nat.mul_comm]
  have hlength : (ntohs (packet.load16 22)).toNat =
      size * as.length + ospfHeaderSize := by
    have hload16 := load16_of_conveys h (k := 2) (by decide)
    change Memory.load16 _ 22 = _ at hload16
    rw [hload16, ospfPacket_length, ntohs_htons, UInt16.toNat_ofNat',
      hdata, Nat.mod_eq_of_lt hfits]
  have hsteps : pointerSteps bodyOffset (ipHeaderSize + (size * as.length +
      ospfHeaderSize)) size = some as.length := by
    rw [PointerLoop.pointerSteps_eq_some_iff hpos, bodyOffset]
    omega
  -- Each entry lies within the body.
  have hentries : ∀ i ∈ List.range as.length,
      load (packet.advance (bodyOffset + size * i)) =
        load ((Memory.ofList (as.flatMap store)).advance (size * i)) := by
    intro i hi
    rw [List.mem_range] at hi
    rw [← Memory.advance_advance]
    apply hcongr
    apply Memory.AgreeBelow.advance
    refine (body_of_conveys h).mono ?_
    rw [hdata, ← Nat.mul_succ]
    exact Nat.mul_le_mul_left size hi
  have hstored := Memory.map_load_flatMap_store hsize hload as []
  rw [List.append_nil] at hstored
  rw [bodyEntries, hlength, hsteps, Option.map_some,
    List.map_congr_left hentries, hstored]

/-- The handler of an LSAck takes the header of a sealed LSA for the one that
was put on the list. -/
theorem ackKeyNet_sealedHeader (delay : UInt32) (header : LSAHeader)
    (body : List UInt8) :
    (sealedHeader delay header body).ackKeyNet = header.ackKey := by
  -- the age and the checksum, which are not looked at, are left folded
  have hrest : ∀ (h : LSAHeader) (sum age : UInt16),
      { h with lsChecksum := sum, lsAge := age }.ackKeyNet = h.ackKeyNet :=
    fun _ _ _ => rfl
  rw [sealedHeader, hrest, LSAHeader.hton, LSAHeader.ackKeyNet]
  simp only [ntohl_htonl]
  rfl

/-- The LSAck for the LSAs of `update_lsas` takes them off the list again. -/
theorem foldl_ackStep_emitted (r : Router) {pending : List LSAHeader}
    (hclear : ∀ h ∈ pending, ∀ lsa ∈ r.emitted, ¬h.SameLsa lsa.header) :
    (r.emitted.map fun lsa => sealedHeader r.interface.infTransDelay
        lsa.header lsa.body).foldl ackStep
      (pending ++ r.emittedHeaders) = pending := by
  have hkeys : (r.emitted.map fun lsa => sealedHeader
      r.interface.infTransDelay lsa.header lsa.body).map
        LSAHeader.ackKeyNet = r.emittedHeaders.map LSAHeader.ackKey := by
    rw [emittedHeaders_eq, List.map_map, List.map_map]
    exact List.map_congr_left fun lsa _ =>
      ackKeyNet_sealedHeader _ lsa.header lsa.body
  rw [foldl_ackStep_eq, hkeys]
  apply foldl_eraseKey_append
  intro h hh hmem
  rw [emittedHeaders_eq, List.map_map] at hmem
  obtain ⟨lsa, hlsa, hkey⟩ := List.mem_map.mp hmem
  exact hclear h hh lsa hlsa (LSAHeader.sameLsa_iff_ackKey.mpr hkey.symm)

/-- The LSAck that a receiver sends. -/
theorem recvLsAck_emitted {m : Neighbor} {a dst : UInt32} {packet : Memory}
    (hrecord : r.findNeighbor a = some m) (hfull : m.state = .full)
    (hclear : ∀ pending ∈ m.linkStateRetransmissionList,
      ∀ lsa ∈ r.emitted, ¬pending.SameLsa lsa.header)
    (hconveys : Conveys packet a dst
      (q.ospfPacket q.interface.auType typeLsAck
        (r.emitted.flatMap fun lsa =>
          (sealedHeader r.interface.infTransDelay lsa.header
            lsa.body).store))) :
    r.updateLsas.recvLsAck packet =
      .ok (r.updateLsas.modifyNeighbor a fun _ => m) := by
  let headers := r.emitted.map fun lsa => sealedHeader
    r.interface.infTransDelay lsa.header lsa.body
  have hstored : (r.emitted.flatMap fun lsa => (sealedHeader
      r.interface.infTransDelay lsa.header lsa.body).store) =
        headers.flatMap LSAHeader.store := by
    rw [List.flatMap_map]
  have hcount : headers.length ≤ 2 := by
    rw [List.length_map, ← @List.length_map _ _ r.emitted
      (OwnLsa.wire r.interface.infTransDelay), ← emittedLsas_eq]
    exact length_emittedLsas_le r
  have hheaders : bodyEntries LSAHeader.size LSAHeader.load packet =
      some headers := by
    rw [hstored] at hconveys
    refine bodyEntries_of_conveys (by decide) LSAHeader.length_store
      LSAHeader.load_store (fun p q h => LSAHeader.load_congr h le_rfl) ?_
      hconveys
    rw [LSAHeader.size, ospfHeaderSize]
    omega
  have hsrc : ntohl (packet.load32 12) = a := by
    rw [hconveys.src, ntohl_htonl]
  have hfind := findNeighbor_updateLsas hrecord
  have hstate : ¬(m.pushAll r.emittedHeaders).state < .exchange := by
    rw [m.pushAll_state, hfull]
    decide
  rw [recvLsAck]
  have hrestored : { m.pushAll r.emittedHeaders with
      linkStateRetransmissionList := headers.foldl ackStep
        (m.pushAll r.emittedHeaders).linkStateRetransmissionList } = m := by
    rw [Neighbor.pushAll, if_pos hfull]
    simp only
    rw [foldl_ackStep_emitted r hclear]
  have hreplace : r.updateLsas.modifyNeighbor a (fun n =>
      { n with
        linkStateRetransmissionList :=
          headers.foldl ackStep n.linkStateRetransmissionList }) =
        r.updateLsas.modifyNeighbor a fun _ => m := by
    rw [modifyNeighbor_eq_putNeighbor hfind,
      modifyNeighbor_eq_putNeighbor hfind, hrestored]
  simp only [hsrc, hfind, hheaders, if_neg hstate, hreplace]

/-- A receiver that takes part in no exchange acknowledges what it has
installed, and its LSAck takes the LSAs off the retransmission list of the
sender, whose record of the receiver is then what it was before `update_lsas`.
A BDR does so only for the LSAs of the DR. -/
theorem ownLsas_acknowledged {peer m : Neighbor} (hemits : r.emitted ≠ [])
    (hfits : (lsuData r.emittedLsas).length ≤ lsuBufferSize)
    (hpeer : q.findNeighbor r.interface.ipInterfaceAddress = some peer)
    (hold : q.OlderThan r) (hquiet : q.Quiet)
    (hback : q.interface.state = .backup →
      r.interface.ipInterfaceAddress = q.interface.dr)
    (hrecord : r.findNeighbor q.interface.ipInterfaceAddress = some m)
    (hfull : m.state = .full)
    (hclear : ∀ pending ∈ m.linkStateRetransmissionList,
      ∀ lsa ∈ r.emitted, ¬pending.SameLsa lsa.header) :
    ∃ packet, r.updateLsas.log = r.log ++ [.sent r.segmentAddress packet] ∧
      ∀ now frame,
        Conveys frame r.interface.ipInterfaceAddress r.segmentAddress
          packet →
        q.Admits frame →
        ∃ t ack, q.recvOspfPacket now frame =
            .ok (t.addLog (.sent q.segmentAddress ack)) ∧
          q.Absorbs t ∧ r.Learns q t ∧
          ∀ now' frame',
            Conveys frame' q.interface.ipInterfaceAddress q.segmentAddress
              ack →
            r.Admits frame' →
            r.updateLsas.recvOspfPacket now' frame' =
              .ok (r.updateLsas.modifyNeighbor
                q.interface.ipInterfaceAddress fun _ => m) := by
  refine ⟨r.ownLsu, updateLsas_log hemits, ?_⟩
  intro now frame hconveys hadmits
  have htype := type_of_conveys hconveys
  obtain ⟨s, hrecv, hlearns, hbreak, hacked⟩ :=
    exists_recvLsu hfits hpeer hold hconveys
  obtain ⟨habsorbs, hdata⟩ := hacked hquiet hback
  have hsends : s.lsackData ≠ [] := by
    obtain ⟨lsa, hlsa⟩ := List.exists_mem_of_ne_nil _ hemits
    rw [hdata, ne_eq, List.flatMap_eq_nil_iff]
    intro hnone
    have hlength := congrArg List.length (hnone lsa hlsa)
    rw [LSAHeader.length_store] at hlength
    exact absurd hlength (by decide)
  refine ⟨s.router, q.ospfPacket q.interface.auType typeLsAck s.lsackData,
    ?_, habsorbs, hlearns, ?_⟩
  · have hsent : sendLsack s = s.router.addLog (.sent q.segmentAddress
        (q.ospfPacket q.interface.auType typeLsAck s.lsackData)) := by
      rw [sendLsack, if_pos ⟨hbreak, hsends⟩]
      obtain ⟨lsdb, neighbors, hrouter, -⟩ := habsorbs
      rw [hrouter]
      rfl
    rw [recvOspfPacket_of_lsu now hadmits htype, ← hsent]
    exact hrecv
  · intro now' frame' hconveys' hadmits'
    rw [recvOspfPacket_of_lsack now' (updateLsas_admits.mpr hadmits')
      (type_of_conveys hconveys')]
    rw [hdata] at hconveys'
    exact recvLsAck_emitted hrecord hfull hclear hconveys'

/-- The DR forgets the two LSAs when the BDR has acknowledged them. -/
theorem ownLsas_acknowledged_bothKinds :
    ∃ peer m, originatingRouter.findNeighbor 0x0a000002 = some m ∧
      receivingRouter.findNeighbor 0x0a000001 = some peer ∧
      ∃ packet, originatingRouter.updateLsas.log =
          originatingRouter.log ++
            [.sent originatingRouter.segmentAddress packet] ∧
        ∀ now frame,
          Conveys frame originatingRouter.interface.ipInterfaceAddress
            originatingRouter.segmentAddress packet →
          receivingRouter.Admits frame →
          ∃ t ack, receivingRouter.recvOspfPacket now frame =
              .ok (t.addLog (.sent receivingRouter.segmentAddress ack)) ∧
            receivingRouter.Absorbs t ∧
            originatingRouter.Learns receivingRouter t ∧
            ∀ now' frame',
              Conveys frame' receivingRouter.interface.ipInterfaceAddress
                receivingRouter.segmentAddress ack →
              originatingRouter.Admits frame' →
              originatingRouter.updateLsas.recvOspfPacket now' frame' =
                .ok (originatingRouter.updateLsas.modifyNeighbor
                  receivingRouter.interface.ipInterfaceAddress
                    fun _ => m) :=
  ⟨_, _, rfl, rfl,
    ownLsas_acknowledged (by decide +kernel) (by decide +kernel) rfl
      (by decide +kernel) (by decide +kernel) (fun _ => rfl) rfl rfl
      (fun _ h => absurd h List.not_mem_nil)⟩

end Router
end OspfLite
