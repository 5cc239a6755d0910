import OspfLite.Router.FloodingReach
import OspfLite.Router.Retransmission

/-!
# Entries for other LSAs

The lists of a neighbor hold headers of all types, and an LSA is identified by
its type, id and advertising router together.  The handler of an LSU matches
entries by id and advertising router only, so what it does to the entries of
the received LSA may also hit those of an LSA of another type.
-/

namespace OspfLite

namespace Neighbor

/-- The entries of a list that are for other LSAs than the header's. -/
def others (header : LSAHeader) (l : List LSAHeader) : List LSAHeader :=
  l.filter fun entry => !decide (LSAHeader.SameLsa entry header)

/-- Neither list has lost an entry for another LSA. -/
def KeepsOthers (header : LSAHeader) (before after : Neighbor) : Prop :=
  others header after.linkStateRetransmissionList =
      others header before.linkStateRetransmissionList ∧
    others header after.linkStateRequestList =
      others header before.linkStateRequestList

/-- The request that flooding answers for the neighbor is one for the LSA, or
one for a newer instance, which stays. -/
def FloodsByKey (header : LSAHeader) (n : Neighbor) : Prop :=
  n.state = .exchange ∨ n.state = .loading →
    ∀ entry ∈ n.linkStateRequestList.find? header.matchesId,
      LSAHeader.SameLsa entry header ∨ 0 < lsaHeaderCmp header entry

/-- The purge hits entries for the LSA only. -/
def PurgesByKey (header : LSAHeader) (n : Neighbor) : Prop :=
  ∀ entry ∈ n.linkStateRetransmissionList, header.matchesId entry = true →
    LSAHeader.SameLsa entry header

instance (header : LSAHeader) (n : Neighbor) :
    Decidable (n.FloodsByKey header) :=
  inferInstanceAs (Decidable (_ →
    ∀ entry ∈ n.linkStateRequestList.find? header.matchesId, _ ∨ _))

instance (header : LSAHeader) (n : Neighbor) :
    Decidable (n.PurgesByKey header) :=
  inferInstanceAs (Decidable
    (∀ entry ∈ n.linkStateRetransmissionList, _ → _))

variable {header : LSAHeader} {src : UInt32} {n : Neighbor}

theorem keepsOthers_refl (n : Neighbor) : n.KeepsOthers header n := ⟨rfl, rfl⟩

@[simp] theorem others_append_self (l added : List LSAHeader)
    (hadded : added ⊆ [header]) :
    others header (l ++ added) = others header l := by
  have hnone : added.filter
      (fun entry => !decide (LSAHeader.SameLsa entry header)) = [] := by
    rw [List.filter_eq_nil_iff]
    intro entry hentry
    rw [List.mem_singleton.mp (hadded hentry)]
    simp [LSAHeader.SameLsa]
  rw [others, List.filter_append, hnone, List.append_nil, others]

theorem others_purge_iff {l : List LSAHeader} :
    others header (l.filter fun entry => !header.matchesId entry) =
        others header l ↔
      ∀ entry ∈ l, header.matchesId entry = true →
        LSAHeader.SameLsa entry header := by
  rw [others, others, List.filter_filter, filter_eq_filter_iff]
  refine forall₂_congr fun entry _ => ?_
  by_cases hsame : LSAHeader.SameLsa entry header <;>
    by_cases hmatch : header.matchesId entry = true <;>
      simp [hsame, hmatch]

theorem others_eraseP_iff {l : List LSAHeader} :
    others header (l.eraseP header.matchesId) = others header l ↔
      ∀ entry ∈ l.find? header.matchesId,
        LSAHeader.SameLsa entry header := by
  rw [others, others, filter_eraseP_eq_iff]
  simp

/-- What flooding does to the two lists. -/
theorem flood_lists (header : LSAHeader) (src : UInt32) (n : Neighbor) :
    (∃ added, added ⊆ [header] ∧
      (n.flood header src).1.linkStateRetransmissionList =
        n.linkStateRetransmissionList ++ added) ∧
    (others header (n.flood header src).1.linkStateRequestList =
        others header n.linkStateRequestList ↔ n.FloodsByKey header) := by
  constructor
  · obtain ⟨added, requests, hadded, -, hflood⟩ := flood_eq header src n
    exact ⟨added, hadded, by rw [hflood]⟩
  by_cases hstate : n.state = .exchange ∨ n.state = .loading
  · have hlow : ¬n.state < .exchange := by
      rcases hstate with h | h <;> (rw [h]; decide)
    rw [FloodsByKey, imp_iff_right hstate]
    cases hfind : n.linkStateRequestList.find? header.matchesId with
    | none => simp [flood, hlow, hstate, hfind, pushRetransmission]
    | some entry =>
        have herase := @others_eraseP_iff header n.linkStateRequestList
        rw [hfind] at herase
        rcases lt_trichotomy (lsaHeaderCmp header entry) 0 with hlt | heq | hgt
        · by_cases hsrc : src = htonl n.ip <;>
            simp [flood, hlow, hstate, hfind, hlt, hlt.ne, hlt.le, hsrc,
              pushRetransmission, eraseRequest, herase]
        · simp [flood, hlow, hstate, hfind, heq, eraseRequest, herase]
        · simp [flood, hlow, hstate, hfind, hgt.ne', hgt.not_gt, hgt]
  · have hidle : (n.flood header src).1 = n := by
      rw [flood]
      split_ifs <;> rfl
    rw [hidle, FloodsByKey]
    exact iff_of_true rfl fun h => absurd h hstate

theorem keepsOthers_flood_iff :
    n.KeepsOthers header (n.flood header src).1 ↔ n.FloodsByKey header := by
  obtain ⟨⟨added, hadded, hlist⟩, hrequests⟩ := flood_lists header src n
  rw [KeepsOthers, hlist, others_append_self _ _ hadded, hrequests,
    and_iff_right rfl]

theorem keepsOthers_purge_iff :
    n.KeepsOthers header (n.purgeRetransmissions header) ↔
      n.PurgesByKey header := by
  rw [KeepsOthers, purgeRetransmissions, others_purge_iff, and_iff_left rfl]
  rfl

theorem keepsOthers_flood_purge_iff :
    n.KeepsOthers header
        ((n.flood header src).1.purgeRetransmissions header) ↔
      n.FloodsByKey header ∧ n.PurgesByKey header := by
  obtain ⟨⟨added, hadded, hlist⟩, hrequests⟩ := flood_lists header src n
  have hadded' : (added.filter fun entry => !header.matchesId entry) ⊆
      [header] := fun _ hentry => hadded (List.mem_of_mem_filter hentry)
  have hpurged : others header
      ((n.flood header src).1.linkStateRetransmissionList.filter
        fun entry => !header.matchesId entry) =
      others header (n.linkStateRetransmissionList.filter
        fun entry => !header.matchesId entry) := by
    rw [hlist, List.filter_append, others_append_self _ _ hadded']
  rw [KeepsOthers, purgeRetransmissions, hpurged, others_purge_iff, hrequests,
    and_comm]
  rfl

end Neighbor

namespace Router

variable {src : UInt32} {data : Memory} {s : LsuState}

/-- No list of any neighbor has lost an entry for another LSA. -/
def KeepOthers (header : LSAHeader) : List Interface → List Interface → Prop :=
  List.Forall₂ fun before after =>
    List.Forall₂ (Neighbor.KeepsOthers header) before.neighbors after.neighbors

/-- Step 6 as it should be: the request list of the sender holds an entry for
the LSA. -/
def RequestedByKey (r : Router) (src : UInt32) (header : LSAHeader) : Prop :=
  ∃ n, r.findNeighbor (ntohl src) = some n ∧
    ∃ entry ∈ n.linkStateRequestList, LSAHeader.SameLsa entry header

/-- A round restarts the exchange for an entry with the key of the LSA only,
and takes no entry with another key off a list of any neighbor. -/
def KeepsOtherLsas (src : UInt32) (s : LsuState) (data : Memory) : Prop :=
  s.badLsReq = false → ∀ s', lsuRound src s data = .ok s' →
    (s'.badLsReq = true →
      s.router.RequestedByKey src (lsaHeaderHost data)) ∧
    (s'.badLsReq = false →
      KeepOthers (lsaHeaderHost data) s.router.interfaces
        s'.router.interfaces)

/-- Flooding and the purge behind it hit entries for the LSA only. -/
def AcceptsByKey (r : Router) (header : LSAHeader) : Prop :=
  (header.lsType ≠ lsaAsExternal → ∀ inter ∈ r.interfaces,
      ∀ n ∈ inter.neighbors, n.FloodsByKey header) ∧
    ∀ n ∈ r.interface.neighbors, n.PurgesByKey header

instance (r : Router) (header : LSAHeader) :
    Decidable (r.AcceptsByKey header) :=
  inferInstanceAs (Decidable ((_ → ∀ inter ∈ r.interfaces, _) ∧ _))

/-- The round finds no entry of another type where it looks for the LSA. -/
def MatchesByKey (src : UInt32) (s : LsuState) (data : Memory) : Prop :=
  s.badLsReq = false → ChecksumOk data → (lsaHeaderHost data).TypeOk →
    (s.router.NewOrNewer (lsaHeaderHost data) →
      ((lsaHeaderHost data).lsType = lsaNetwork → LSDB.WholeRouters data) →
        s.router.AcceptsByKey (lsaHeaderHost data)) ∧
    (¬s.router.NewOrNewer (lsaHeaderHost data) →
      (s.router.Requested src (lsaHeaderHost data) →
        s.router.RequestedByKey src (lsaHeaderHost data)) ∧
      (¬s.router.Requested src (lsaHeaderHost data) →
        ((lsaHeaderHost data).lsType = lsaNetwork → LSDB.WholeRouters data) →
        (∃ stored ∈ s.router.lsdb.findInstance (lsaHeaderHost data),
          lsaHeaderCmp (lsaHeaderHost data) stored = 0) →
        ∀ n ∈ s.router.findNeighbor (ntohl src),
          n.PurgesByKey (lsaHeaderHost data)))

/-- An accepted LSA. -/
theorem acceptLsa_keepsOthers_iff :
    (∀ s', acceptLsa src data s = .ok s' →
        KeepOthers (lsaHeaderHost data) s.router.interfaces
          s'.router.interfaces) ↔
      (((lsaHeaderHost data).lsType = lsaNetwork →
          LSDB.WholeRouters data) →
        s.router.AcceptsByKey (lsaHeaderHost data)) := by
  rw [← exists_acceptLsa_iff src data s, forall_exists_index]
  refine forall₂_congr fun s' hs' => ?_
  rw [acceptLsa_interfaces hs', interfaces, KeepOthers, forall₂_around,
    AcceptsByKey]
  by_cases hexternal : (lsaHeaderHost data).lsType = lsaAsExternal
  · simp only [floodingLsa, hexternal, if_true, ne_eq, not_true_eq_false,
      false_implies, true_and, List.forall₂_map_right_iff, List.forall₂_same,
      Neighbor.keepsOthers_purge_iff, Neighbor.keepsOthers_refl,
      implies_true, and_true]
  · simp only [floodingLsa_fst s.router src _ hexternal,
      List.forall₂_map_right_iff, List.forall₂_same, List.map_map,
      Function.comp_apply, Neighbor.keepsOthers_flood_purge_iff,
      Neighbor.keepsOthers_flood_iff, ne_eq, hexternal, not_false_eq_true,
      forall_const, interfaces, List.mem_append, List.mem_cons]
    constructor
    · rintro ⟨hthis, hothers⟩
      refine ⟨?_, fun n hn => (hthis n hn).2⟩
      rintro inter (hinter | rfl | hinter) n hn
      · exact hothers inter (Or.inl hinter) n hn
      · exact (hthis n hn).1
      · exact hothers inter (Or.inr hinter) n hn
    · rintro ⟨hflood, hpurge⟩
      refine ⟨fun n hn => ⟨hflood _ (Or.inr (Or.inl rfl)) n hn,
        hpurge n hn⟩, ?_⟩
      rintro inter (hinter | hinter) n hn
      · exact hflood inter (Or.inl hinter) n hn
      · exact hflood inter (Or.inr (Or.inr hinter)) n hn

/-- Step 8 finishes unless it installs a Network LSA without whole attached
routers. -/
theorem exists_settleOlder_iff (data : Memory) (s : LsuState) :
    (∃ s', settleOlder data s = .ok s') ↔
      ((lsaHeaderHost data).lsType = lsaNetwork → LSDB.WholeRouters data) := by
  rw [settleOlder]
  split_ifs with hnetwork
  · exact exists_map_install_iff _ _ _ _
  · exact iff_of_true ⟨s, rfl⟩ fun h => absurd h hnetwork

/-- Step 8 is about the database only. -/
theorem settleOlder_frame {s' : LsuState} (h : settleOlder data s = .ok s') :
    s'.router.interfaces = s.router.interfaces ∧
      s'.badLsReq = s.badLsReq := by
  obtain ⟨lsdb, rfl, -⟩ := settleOlder_cases h
  exact ⟨rfl, rfl⟩

/-- What a change of the receiving interface means for all of them. -/
theorem keepOthers_interface_iff {header : LSAHeader} (r : Router)
    (inter : Interface) :
    KeepOthers header r.interfaces { r with interface := inter }.interfaces ↔
      List.Forall₂ (Neighbor.KeepsOthers header) r.interface.neighbors
        inter.neighbors := by
  have haround := @forall₂_around Interface
    (fun before after => List.Forall₂ (Neighbor.KeepsOthers header)
      before.neighbors after.neighbors)
    id r.interface inter r.interfacesBefore r.interfacesAfter
  simp only [List.map_id, id_eq, List.forall₂_same, Neighbor.keepsOthers_refl,
    implies_true, and_true] at haround
  exact haround

theorem keepOthers_refl {header : LSAHeader} (r : Router) :
    KeepOthers header r.interfaces r.interfaces :=
  (keepOthers_interface_iff r r.interface).mpr
    (List.forall₂_same.mpr fun n _ => Neighbor.keepsOthers_refl n)

/-- The purge of step 7. -/
theorem keepOthers_purge_iff {header : LSAHeader} {r : Router} {ip : UInt32} :
    KeepOthers header r.interfaces (r.modifyNeighbor ip
        (Neighbor.purgeRetransmissions header)).interfaces ↔
      ∀ n ∈ r.findNeighbor ip, n.PurgesByKey header := by
  rw [modifyNeighbor, keepOthers_interface_iff, Interface.modifyNeighbor,
    forall₂_modifyNeighbor_iff Neighbor.keepsOthers_refl]
  simp only [Neighbor.keepsOthers_purge_iff]
  rfl

/-- Step 8, whatever has become of the neighbors before. -/
theorem settleOlder_keepOthers_iff {P : Prop} {r : Router}
    (hbreak : s.badLsReq = false) :
    (∀ s', settleOlder data { s with router := r } = .ok s' →
        (s'.badLsReq = true → P) ∧
        (s'.badLsReq = false → KeepOthers (lsaHeaderHost data)
          s.router.interfaces s'.router.interfaces)) ↔
      (((lsaHeaderHost data).lsType = lsaNetwork →
          LSDB.WholeRouters data) →
        KeepOthers (lsaHeaderHost data) s.router.interfaces r.interfaces) := by
  rw [← exists_settleOlder_iff data { s with router := r },
    forall_exists_index]
  refine forall₂_congr fun s' hs' => ?_
  obtain ⟨hinterfaces, hsame⟩ := settleOlder_frame hs'
  rw [hsame, hinterfaces]
  simp [hbreak]

/-- An LSA that is not newer than the database copy. -/
theorem rejectLsa_keepOthers_iff {same : Bool} (hbreak : s.badLsReq = false) :
    (∀ s', rejectLsa src data same s = .ok s' →
        (s'.badLsReq = true →
          s.router.RequestedByKey src (lsaHeaderHost data)) ∧
        (s'.badLsReq = false → KeepOthers (lsaHeaderHost data)
          s.router.interfaces s'.router.interfaces)) ↔
      (s.router.Requested src (lsaHeaderHost data) →
        s.router.RequestedByKey src (lsaHeaderHost data)) ∧
      (¬s.router.Requested src (lsaHeaderHost data) →
        ((lsaHeaderHost data).lsType = lsaNetwork → LSDB.WholeRouters data) →
        same = true →
        ∀ n ∈ s.router.findNeighbor (ntohl src),
          n.PurgesByKey (lsaHeaderHost data)) := by
  rw [rejectLsa]
  by_cases hrequested : s.router.Requested src (lsaHeaderHost data)
  · rw [if_pos hrequested]
    simp only [Except.ok.injEq, forall_eq', hrequested, forall_const,
      Bool.true_eq_false, false_implies, and_true, not_true_eq_false]
  · rw [if_neg hrequested]
    simp only [hrequested, false_implies, true_and, not_false_eq_true,
      forall_const]
    cases same with
    | false =>
        rw [if_neg Bool.false_ne_true]
        refine iff_of_true ?_ fun _ h => by cases h
        exact (settleOlder_keepOthers_iff hbreak).mpr
          fun _ => keepOthers_refl s.router
    | true =>
        rw [if_pos rfl, settleOlder_keepOthers_iff hbreak,
          keepOthers_purge_iff]
        exact ⟨fun h hwhole _ => h hwhole, fun h hwhole => h hwhole rfl⟩

/-- The rounds that tell LSAs apart by their full key. -/
theorem keepsOtherLsas_iff (src : UInt32) (s : LsuState) (data : Memory) :
    KeepsOtherLsas src s data ↔ MatchesByKey src s data := by
  refine forall_congr' fun hbreak => ?_
  have hround : lsuRound src s data = lsuStep src data s := by
    rw [lsuRound, hbreak, if_neg Bool.false_ne_true]
  rw [hround]
  by_cases hok : ChecksumOk data ∧ (lsaHeaderHost data).TypeOk
  · rw [imp_iff_right hok.1, imp_iff_right hok.2]
    by_cases hnew : s.router.NewOrNewer (lsaHeaderHost data)
    · rw [lsuStep_of_new hok.1 hok.2 hnew, imp_iff_right hnew,
        ← acceptLsa_keepsOthers_iff]
      simp only [hnew, not_true_eq_false, false_implies, and_true]
      refine forall₂_congr fun s' hs' => ?_
      obtain ⟨lsdb, -, rfl⟩ := Outcome.map_eq_ok.mp hs'
      simp
    · rw [lsuStep_of_old hok.1 hok.2 hnew, rejectLsa_keepOthers_iff hbreak]
      simp only [hnew, not_false_eq_true, forall_const, false_implies,
        true_and, decide_eq_true_eq]
  · -- the LSA is skipped
    refine iff_of_true (fun s' hs' => ?_) fun hsum htype =>
      absurd ⟨hsum, htype⟩ hok
    rcases lsuStep_cases src data s with ⟨-, hstep⟩ | ⟨hsum, htype, -⟩ |
      ⟨hsum, htype, -⟩
    · rw [hstep, Except.ok.injEq] at hs'
      subst hs'
      refine ⟨fun hbad => ?_, fun _ => keepOthers_refl s.router⟩
      rw [hbreak] at hbad
      cases hbad
    · exact absurd ⟨hsum, htype⟩ hok
    · exact absurd ⟨hsum, htype⟩ hok

/-- In a run of the process, LSUs are handled without touching the entries of
other LSAs exactly when no round finds an entry of another type where it looks
for the LSA. -/
theorem other_lsas_kept_iff (r : Router) (steps : List Step) :
    Along step (EachLsuRound KeepsOtherLsas) r steps ↔
      Along step (EachLsuRound MatchesByKey) r steps :=
  along_congr (eachLsuRound_congr keepsOtherLsas_iff) r steps

/-! ## A lost request -/

/-- The DD packet in which the peer lists its Router LSA, with more to
follow. -/
def ownLsaDd : List UInt8 :=
  [5, 220, 2, 3, 0, 0, 0, 1] ++
    (LSAHeader.hton
      ⟨1, 2, lsaRouter, 0x02020202, 0x02020202, 0x80000001, 0, 24⟩).store

/-- The Network LSA of the peer for another segment, on which its address is
2.2.2.2. -/
def otherSegmentLsu : List UInt8 :=
  lsuData [sealLsa 1
    ⟨0, 2, lsaNetwork, 0x02020202, 0x02020202, 0x80000002, 0, 28⟩
    [255, 255, 255, 0, 2, 2, 2, 2]]

/-- The Router LSA of the peer is requested.  The Network LSA that arrives takes
the request off the list. -/
theorem request_lost_to_other_type :
    ¬Along step (EachLsuRound KeepsOtherLsas)
      (start 0x01010101 initialSequenceNumber 0
        ⟨0, 0, 0, false, false, false⟩ [] 0x0a000001 0xffffff00 [])
      [.frame 0 (fromPeer typeHello peerHello),
        .frame 0 (fromPeer typeDd peerDd),
        .frame 0 (fromPeer typeDd ownLsaDd),
        .frame 0 (fromPeer typeLsu otherSegmentLsu)] := by
  have hreached : ∃ t, runFrom step
      (start 0x01010101 initialSequenceNumber 0
        ⟨0, 0, 0, false, false, false⟩ [] 0x0a000001 0xffffff00 [])
      [.frame 0 (fromPeer typeHello peerHello),
        .frame 0 (fromPeer typeDd peerDd),
        .frame 0 (fromPeer typeDd ownLsaDd)] = .ok t ∧
      t.Admits (fromPeer typeLsu otherSegmentLsu) ∧
      t.findNeighbor 0x0a000002 ≠ none ∧
      t.NewOrNewer (lsaHeaderHost
        ((fromPeer typeLsu otherSegmentLsu).advance (bodyOffset + 4))) ∧
      ¬t.AcceptsByKey (lsaHeaderHost
        ((fromPeer typeLsu otherSegmentLsu).advance (bodyOffset + 4))) :=
    Outcome.exists_of_completesWith (by decide +kernel)
  obtain ⟨t, hrun, hadmits, hknown, hnewer, hother⟩ := hreached
  have hwhole : LSDB.WholeRouters
      ((fromPeer typeLsu otherSegmentLsu).advance (bodyOffset + 4)) :=
    ⟨1, by decide +kernel⟩
  apply not_along_of_prefix hrun
  intro h
  have hround := h.fromPeer hadmits hknown (by decide +kernel)
  rw [keepsOtherLsas_iff] at hround
  exact hother ((hround rfl (by decide +kernel) (by decide +kernel)).1 hnewer
    fun _ => hwhole)

end Router
end OspfLite
