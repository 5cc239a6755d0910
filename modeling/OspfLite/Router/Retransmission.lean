import OspfLite.Router.Receive
import OspfLite.Router.MapLaws
import OspfLite.Lib.Lists

/-!
# Flooded LSAs on the retransmission lists

An LSA that flooding has put on a retransmission list should stay there until
it is acknowledged.  The round that floods it also purges the lists of the
receiving interface, by a predicate that the new entry satisfies as well.
-/

namespace OspfLite
namespace Neighbor

/-- Flooding places the header on the list of the neighbor. -/
def Places (header : LSAHeader) (src : UInt32) (n : Neighbor) : Prop :=
  (n.state = .exchange ∨ n.state = .loading) ∧
    ∀ entry ∈ n.linkStateRequestList.find? header.matchesId,
      lsaHeaderCmp header entry < 0 ∧ src ≠ htonl n.ip

instance (header : LSAHeader) (src : UInt32) (n : Neighbor) :
    Decidable (n.Places header src) :=
  inferInstanceAs (Decidable ((_ ∨ _) ∧
    ∀ entry ∈ n.linkStateRequestList.find? header.matchesId, _))

/-- The list holds no entry for an earlier instance of the LSA. -/
def NoEarlier (header : LSAHeader) (n : Neighbor) : Prop :=
  ∀ entry ∈ n.linkStateRetransmissionList,
    LSAHeader.SameLsa entry header → ¬lsaHeaderCmp header entry < 0

instance (header : LSAHeader) (n : Neighbor) :
    Decidable (n.NoEarlier header) :=
  inferInstanceAs (Decidable
    (∀ entry ∈ n.linkStateRetransmissionList, _ → ¬_))

/-- What becomes of a neighbor in a round: where flooding has placed the
header, it is still on the list, and no earlier instance is. -/
def Retained (header : LSAHeader) (src : UInt32) (before after : Neighbor) :
    Prop :=
  (before.flood header src).2 = true →
    header ∈ after.linkStateRetransmissionList ∧ after.NoEarlier header

variable {header : LSAHeader} {src : UInt32} {n : Neighbor}

/-- The flag of a round of the flooding loop, and the list it belongs to. -/
theorem flood_spec (header : LSAHeader) (src : UInt32) (n : Neighbor) :
    ((n.flood header src).2 = true ↔ n.Places header src) ∧
      (n.Places header src →
        (n.flood header src).1.linkStateRetransmissionList =
          n.linkStateRetransmissionList ++ [header]) := by
  by_cases hstate : n.state = .exchange ∨ n.state = .loading
  · have hlow : ¬n.state < .exchange := by
      rcases hstate with h | h <;> (rw [h]; decide)
    cases hfind : n.linkStateRequestList.find? header.matchesId with
    | none => simp [flood, Places, hlow, hstate, hfind, pushRetransmission]
    | some entry =>
        rcases lt_trichotomy (lsaHeaderCmp header entry) 0 with hlt | heq | hgt
        · by_cases hsrc : src = htonl n.ip <;>
            simp [flood, Places, hlow, hstate, hfind, hlt, hlt.ne, hsrc,
              pushRetransmission, eraseRequest]
        · simp [flood, Places, hlow, hstate, hfind, heq]
        · simp [flood, Places, hlow, hstate, hfind, hgt.ne', hgt.not_gt]
  · simp [flood, Places, hstate]

/-- Where nothing is purged, the header stays, and it depends on the list
before whether an earlier instance is left. -/
theorem retained_flood_iff :
    n.Retained header src (n.flood header src).1 ↔
      (n.Places header src → n.NoEarlier header) := by
  obtain ⟨hflag, hlist⟩ := flood_spec header src n
  rw [Retained, hflag]
  apply forall_congr'
  intro hplaces
  rw [NoEarlier, hlist hplaces]
  constructor
  · intro h entry hentry
    exact h.2 entry (List.mem_append_left _ hentry)
  · intro h
    constructor
    · exact List.mem_append_right _ (List.mem_singleton_self _)
    intro entry hentry hsame
    rcases List.mem_append.mp hentry with hold | hnew
    · exact h entry hold hsame
    · rw [List.mem_singleton.mp hnew, lsaHeaderCmp_self]
      exact lt_irrefl 0

/-- The purge takes the header away wherever flooding has placed it. -/
theorem retained_purge_iff {m : Neighbor} :
    n.Retained header src (m.purgeRetransmissions header) ↔
      ¬n.Places header src := by
  rw [Retained, (flood_spec header src n).1]
  refine forall_congr' fun hplaces => iff_false_intro ?_
  rintro ⟨hmem, -⟩
  have hkept := (List.mem_filter.mp hmem).2
  simp [LSAHeader.matchesId] at hkept

end Neighbor

namespace Router

/-- The handler finds the LSA new or newer than the database copy. -/
def FindsNewer (r : Router) (data : Memory) : Prop :=
  ChecksumOk data ∧ (lsaHeaderHost data).TypeOk ∧
    r.NewOrNewer (lsaHeaderHost data)

/-- When the handling of an LSA that is found new or newer has finished, every
neighbor of the area is as it should be. -/
def RetainsRound (src : UInt32) (s : LsuState) (data : Memory) : Prop :=
  s.badLsReq = false → s.router.FindsNewer data →
    (lsaHeaderHost data).lsType ≠ lsaAsExternal →
    ∀ s', lsuRound src s data = .ok s' →
      List.Forall₂ (fun before after => List.Forall₂
          (Neighbor.Retained (lsaHeaderHost data) src)
          before.neighbors after.neighbors)
        s.router.interfaces s'.router.interfaces

/-- Flooding places the LSA on no list of the receiving interface, and on the
other interfaces only where there is no entry for an earlier instance. -/
def PlacesApart (src : UInt32) (r : Router) (header : LSAHeader) : Prop :=
  (∀ n ∈ r.interface.neighbors, ¬n.Places header src) ∧
    ∀ inter ∈ r.interfacesBefore ++ r.interfacesAfter,
      ∀ n ∈ inter.neighbors, n.Places header src → n.NoEarlier header

instance (src : UInt32) (r : Router) (header : LSAHeader) :
    Decidable (r.PlacesApart src header) :=
  inferInstanceAs (Decidable (_ ∧ ∀ inter ∈ _, _))

/-- The interfaces after a round that accepts the LSA. -/
theorem acceptLsa_interfaces {src : UInt32} {data : Memory} {s s' : LsuState}
    (h : acceptLsa src data s = .ok s') :
    s'.router.interfaces =
      s.router.interfacesBefore.map
          (fun inter => (s.router.floodingLsa data src inter).1) ++
        { (s.router.floodingLsa data src s.router.interface).1 with
          neighbors :=
            (s.router.floodingLsa data src s.router.interface).1.neighbors.map
              (Neighbor.purgeRetransmissions (lsaHeaderHost data)) } ::
        s.router.interfacesAfter.map
          (fun inter => (s.router.floodingLsa data src inter).1) := by
  obtain ⟨lsdb, -, rfl⟩ := Outcome.map_eq_ok.mp h
  simp only [interfaces, purge, floodArea, List.map_map]
  rfl

/-- Step 5 d finishes unless the LSA is a Network LSA without whole attached
routers. -/
theorem exists_install_iff (lsdb : LSDB) (mask : UInt32) (data : Memory) :
    (∃ after, lsdb.install mask data = .ok after) ↔
      ((lsaHeaderHost data).lsType = lsaNetwork → LSDB.WholeRouters data) := by
  by_cases hnetwork : (lsaHeaderHost data).lsType = lsaNetwork
  · rw [LSDB.install_of_network hnetwork]
    simp only [hnetwork, forall_const, Outcome.ofOption_eq_ok]
    constructor
    · rintro ⟨after, hafter⟩
      by_contra hwhole
      rw [LSDB.installNetworkLsa_eq_none hwhole] at hafter
      cases hafter
    · intro hwhole
      obtain ⟨_, -, hinstall⟩ := LSDB.exists_installed hwhole mask lsdb
      exact ⟨_, hinstall⟩
  · refine iff_of_true ?_ fun h => absurd h hnetwork
    rw [LSDB.install, if_neg hnetwork]
    split_ifs
    · exact ⟨_, rfl⟩
    · exact ⟨_, rfl⟩

/-- A step that goes on with the installed database finishes when the
installation does. -/
theorem exists_map_install_iff {α : Type} (lsdb : LSDB) (mask : UInt32)
    (data : Memory) (f : LSDB → α) :
    (∃ s', (lsdb.install mask data).map f = .ok s') ↔
      ((lsaHeaderHost data).lsType = lsaNetwork → LSDB.WholeRouters data) := by
  rw [← exists_install_iff lsdb mask data]
  constructor
  · rintro ⟨s', hs'⟩
    obtain ⟨after, hafter, -⟩ := Outcome.map_eq_ok.mp hs'
    exact ⟨after, hafter⟩
  · rintro ⟨after, hafter⟩
    exact ⟨_, Outcome.map_eq_ok.mpr ⟨after, hafter, rfl⟩⟩

/-- An accepted LSA is installed, and the round finishes, unless it is a
Network LSA without whole attached routers. -/
theorem exists_acceptLsa_iff (src : UInt32) (data : Memory) (s : LsuState) :
    (∃ s', acceptLsa src data s = .ok s') ↔
      ((lsaHeaderHost data).lsType = lsaNetwork → LSDB.WholeRouters data) :=
  exists_map_install_iff _ _ _ _

/-- The condition for a round to leave the retransmission lists as they should
be. -/
def PlacesApartRound (src : UInt32) (s : LsuState) (data : Memory) : Prop :=
  s.badLsReq = false → s.router.FindsNewer data →
    (lsaHeaderHost data).lsType ≠ lsaAsExternal →
    ((lsaHeaderHost data).lsType = lsaNetwork → LSDB.WholeRouters data) →
    s.router.PlacesApart src (lsaHeaderHost data)

/-- The rounds that leave the retransmission lists as they should be. -/
theorem retainsRound_iff (src : UInt32) (s : LsuState) (data : Memory) :
    RetainsRound src s data ↔ PlacesApartRound src s data := by
  apply forall_congr'
  intro hbreak
  apply forall_congr'
  intro hnewer
  apply forall_congr'
  intro hinternal
  have hround : lsuRound src s data = acceptLsa src data s := by
    rw [lsuRound, hbreak, if_neg Bool.false_ne_true]
    rcases lsuStep_cases src data s with ⟨hbad, -⟩ | ⟨-, -, -, hstep⟩ |
      ⟨-, -, hold, -⟩
    · exact absurd ⟨hnewer.1, hnewer.2.1⟩ hbad
    · exact hstep
    · exact absurd hnewer.2.2 hold
  rw [hround, ← exists_acceptLsa_iff src data s, forall_exists_index]
  apply forall_congr'
  intro s'
  apply forall_congr'
  intro hs'
  rw [acceptLsa_interfaces hs', interfaces, forall₂_around, PlacesApart]
  simp only [floodingLsa_fst s.router src _ hinternal,
    List.forall₂_map_right_iff, List.forall₂_same, List.map_map,
    Function.comp_apply, Neighbor.retained_purge_iff,
    Neighbor.retained_flood_iff]

/-- In a run of the process, every LSA that is found new or newer stays on the
lists where flooding has placed it, without earlier instances beside it,
exactly when no such LSA is placed on the receiving interface, and none beside
an earlier instance on another one. -/
theorem flooded_retained_iff (r : Router) (steps : List Step) :
    Along step (EachLsuRound RetainsRound) r steps ↔
      Along step (EachLsuRound PlacesApartRound) r steps :=
  along_congr (eachLsuRound_congr retainsRound_iff) r steps

/-! ## A lost entry -/

/-- The router 2.2.2.2 on the same segment, as the sender of packets. -/
def peer : Router :=
  new 0x02020202 initialSequenceNumber 0 ⟨0, 0, 0, false, false, false⟩ []
    (Interface.new 0x0a000002 0xffffff00) []

/-- A packet from the peer to 10.0.0.1. -/
def fromPeer (type : UInt8) (data : List UInt8) : Memory :=
  ipDatagram 0x0a000002 0x0a000001 (peer.ospfPacket 0 type data)

theorem fromPeer_src (type : UInt8) (data : List UInt8) :
    (fromPeer type data).load32 12 = htonl 0x0a000002 :=
  ipDatagram_src _ _ _

theorem fromPeer_type (type : UInt8) (data : List UInt8) :
    fromPeer type data 21 = type := rfl

/-- What a condition on the rounds says of an LSU of the peer with one LSA. -/
theorem EachLsuRound.fromPeer {P : UInt32 → LsuState → Memory → Prop}
    {t : Router} {now : ℤ} {data : List UInt8}
    (h : EachLsuRound P t (.frame now (fromPeer typeLsu data)))
    (hadmits : t.Admits (Router.fromPeer typeLsu data))
    (hknown : t.findNeighbor 0x0a000002 ≠ none)
    (hone : lsuCount ((Router.fromPeer typeLsu data).load32 bodyOffset) = 1) :
    P (htonl 0x0a000002) ⟨t, [], false⟩
      ((Router.fromPeer typeLsu data).advance (bodyOffset + 4)) := by
  have hround := h hadmits (fromPeer_type _ _)
    (by rwa [fromPeer_src, ntohl_htonl])
  rw [lsuPointers, hone, fromPeer_src] at hround
  exact hround.1

/-- The peer declares itself DR and lists the router 1.1.1.1. -/
def peerHello : List UInt8 :=
  store32 (htonl 0xffffff00) ++ store16 (htons 10) ++ [2, 1] ++
    store32 (htonl 40) ++ store32 (htonl 0x0a000002) ++ store32 0 ++
    store32 (htonl 0x01010101)

/-- The first DD packet of the peer. -/
def peerDd : List UInt8 := [5, 220, 2, 7, 0, 0, 0, 0]

/-- The Router LSA of the peer, without links. -/
def peerLsu : List UInt8 :=
  lsuData [sealLsa 1
    ⟨1, 2, lsaRouter, 0x02020202, 0x02020202, 0x80000001, 0, 24⟩
    [0, 0, 0, 0]]

/-- The router 1.1.1.1 reaches EXCHANGE with its DR and receives an LSA from
it; the entry that flooding has placed is gone when the LSA has been
handled. -/
theorem flooded_lsa_lost_after_exchange :
    ¬Along step (EachLsuRound RetainsRound)
      (start 0x01010101 initialSequenceNumber 0
        ⟨0, 0, 0, false, false, false⟩ [] 0x0a000001 0xffffff00 [])
      [.frame 0 (fromPeer typeHello peerHello),
        .frame 0 (fromPeer typeDd peerDd),
        .frame 0 (fromPeer typeLsu peerLsu)] := by
  have hreached : ∃ t, runFrom step
      (start 0x01010101 initialSequenceNumber 0
        ⟨0, 0, 0, false, false, false⟩ [] 0x0a000001 0xffffff00 [])
      [.frame 0 (fromPeer typeHello peerHello),
        .frame 0 (fromPeer typeDd peerDd)] = .ok t ∧
      t.Admits (fromPeer typeLsu peerLsu) ∧
      t.findNeighbor 0x0a000002 ≠ none ∧
      t.NewOrNewer (lsaHeaderHost
        ((fromPeer typeLsu peerLsu).advance (bodyOffset + 4))) ∧
      ¬t.PlacesApart (htonl 0x0a000002) (lsaHeaderHost
        ((fromPeer typeLsu peerLsu).advance (bodyOffset + 4))) :=
    Outcome.exists_of_completesWith (by decide +kernel)
  obtain ⟨t, hrun, hadmits, hknown, hnewer, hplaces⟩ := hreached
  apply not_along_of_prefix hrun
  intro h
  have hround := h.fromPeer hadmits hknown (by decide +kernel)
  rw [retainsRound_iff] at hround
  exact hplaces (hround rfl ⟨by decide +kernel, by decide +kernel, hnewer⟩
    (by decide +kernel) (fun h => absurd h (by decide +kernel)))

end Router
end OspfLite
