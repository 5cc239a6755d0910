import OspfLite.Router.Retransmission

/-!
# Flooding in vain

When `flooding_lsa` sends an LSA on, and when the flooding of step 5 b and the
purge of step 5 c leave the router as it was: both by the lists of the
neighbors before the packet.
-/

namespace OspfLite
namespace Neighbor

/-- No request of the neighbor is taken off: outside EXCHANGE and LOADING none
is looked at, and else the first one for the LSA is for a newer instance. -/
def SparesRequests (header : LSAHeader) (n : Neighbor) : Prop :=
  n.state = .exchange ∨ n.state = .loading →
    ∀ entry ∈ n.linkStateRequestList.find? header.matchesId,
      0 < lsaHeaderCmp header entry

instance (header : LSAHeader) (n : Neighbor) :
    Decidable (n.SparesRequests header) :=
  inferInstanceAs (Decidable
    (_ → ∀ entry ∈ n.linkStateRequestList.find? header.matchesId, _))

/-- Flooding passes over the neighbor: outside EXCHANGE and LOADING, or because
of a request for a newer instance. -/
def PassedOver (header : LSAHeader) (n : Neighbor) : Prop :=
  n.state = .exchange ∨ n.state = .loading →
    ∃ entry ∈ n.linkStateRequestList.find? header.matchesId,
      0 < lsaHeaderCmp header entry

instance (header : LSAHeader) (n : Neighbor) :
    Decidable (n.PassedOver header) :=
  inferInstanceAs (Decidable
    (_ → ∃ entry ∈ n.linkStateRequestList.find? header.matchesId, _))

/-- The LSA is not on the retransmission list. -/
def Unlisted (header : LSAHeader) (n : Neighbor) : Prop :=
  ∀ entry ∈ n.linkStateRetransmissionList, header.matchesId entry = false

instance (header : LSAHeader) (n : Neighbor) :
    Decidable (n.Unlisted header) :=
  inferInstanceAs (Decidable (∀ entry ∈ n.linkStateRetransmissionList, _))

variable {header : LSAHeader} {src : UInt32} {n : Neighbor}

/-- Erasing a request that has been found changes the list. -/
theorem eraseRequest_ne {entry : LSAHeader}
    (hfind : n.linkStateRequestList.find? header.matchesId = some entry) :
    (n.eraseRequest header).linkStateRequestList ≠
      n.linkStateRequestList := by
  intro h
  exact List.eraseP_eq_self_iff.mp h entry (List.mem_of_find?_eq_some hfind)
    (List.find?_some hfind)

/-- What flooding leaves of the request list. -/
theorem flood_requests_eq_self_iff :
    (n.flood header src).1.linkStateRequestList = n.linkStateRequestList ↔
      n.SparesRequests header := by
  by_cases hstate : n.state = .exchange ∨ n.state = .loading
  · have hlow : ¬n.state < .exchange := by
      rcases hstate with h | h <;> (rw [h]; decide)
    cases hfind : n.linkStateRequestList.find? header.matchesId with
    | none => simp [flood, SparesRequests, hlow, hstate, hfind,
        pushRetransmission]
    | some entry =>
        have hne := eraseRequest_ne hfind
        simp only [flood, SparesRequests, hlow, hstate, hfind, if_false,
          if_true, forall_const, Option.mem_some_iff, forall_eq']
        rcases lt_trichotomy (lsaHeaderCmp header entry) 0 with hlt | heq | hgt
        · refine iff_of_false ?_ hlt.not_gt
          rw [if_neg hlt.ne, if_pos hlt]
          split_ifs
          · exact hne
          · exact hne
        · rw [if_pos heq]
          exact iff_of_false hne heq.not_gt
        · rw [if_neg hgt.ne', if_neg hgt.not_gt]
          exact iff_of_true rfl hgt
  · refine iff_of_true ?_ fun h => absurd h hstate
    rw [flood]
    split_ifs <;> rfl

/-- A neighbor that flooding passes over keeps its requests, and the header is
not placed on its list. -/
theorem passedOver_iff (src : UInt32) :
    n.PassedOver header ↔
      n.SparesRequests header ∧ ¬n.Places header src := by
  by_cases hstate : n.state = .exchange ∨ n.state = .loading
  · simp only [PassedOver, SparesRequests, Places, hstate, forall_const,
      true_and]
    cases n.linkStateRequestList.find? header.matchesId with
    | none => simp
    | some entry =>
        simp only [Option.mem_some_iff, exists_eq_left', forall_eq']
        exact ⟨fun h => ⟨h, fun hlt => h.not_gt hlt.1⟩, fun h => h.1⟩
  · exact iff_of_true (fun h => absurd h hstate)
      ⟨fun h => absurd h hstate, fun h => hstate h.1⟩

/-- Where nothing is placed, flooding leaves the retransmission list alone. -/
theorem flood_retransmissions_of_not_places
    (h : ¬n.Places header src) :
    (n.flood header src).1.linkStateRetransmissionList =
      n.linkStateRetransmissionList := by
  by_cases hstate : n.state = .exchange ∨ n.state = .loading
  · have hlow : ¬n.state < .exchange := by
      rcases hstate with h | h <;> (rw [h]; decide)
    rw [Places, and_iff_right hstate] at h
    cases hfind : n.linkStateRequestList.find? header.matchesId with
    | none => simp [hfind] at h
    | some entry =>
        simp only [hfind, Option.mem_some_iff, forall_eq', not_and,
          not_not] at h
        simp only [flood, hlow, hstate, hfind, if_false, if_true]
        split_ifs with heq hlt hsrc
        · rfl
        · rfl
        · exact absurd (h hlt) hsrc
        · rfl
  · rw [flood]
    split_ifs <;> rfl

/-- Flooding changes nothing but the two lists. -/
theorem flood_eq_of_lists {requests retransmissions : List LSAHeader}
    (hrequests : (n.flood header src).1.linkStateRequestList = requests)
    (hlist : (n.flood header src).1.linkStateRetransmissionList =
      retransmissions) :
    (n.flood header src).1 =
      { n with
        linkStateRequestList := requests
        linkStateRetransmissionList := retransmissions } := by
  obtain ⟨added, left, -, -, hflood⟩ := flood_eq header src n
  rw [← hrequests, ← hlist, hflood]

/-- Flooding leaves the neighbor as it is exactly when it passes over it. -/
theorem flood_eq_self_iff (src : UInt32) :
    (n.flood header src).1 = n ↔ n.PassedOver header := by
  rw [passedOver_iff src]
  constructor
  · intro h
    refine ⟨flood_requests_eq_self_iff.mp (congrArg linkStateRequestList h),
      fun hplaces => ?_⟩
    have hlist := (flood_spec header src n).2 hplaces
    rw [h] at hlist
    simp at hlist
  · rintro ⟨hkeeps, hplaces⟩
    exact flood_eq_of_lists (flood_requests_eq_self_iff.mpr hkeeps)
      (flood_retransmissions_of_not_places hplaces)

/-- Purging leaves a list without the LSA as it is. -/
theorem filter_eq_self_iff_unlisted :
    n.linkStateRetransmissionList.filter (fun lsa => !header.matchesId lsa) =
        n.linkStateRetransmissionList ↔
      n.Unlisted header := by
  simp [Unlisted, List.filter_eq_self]

theorem purge_eq_self_iff :
    n.purgeRetransmissions header = n ↔ n.Unlisted header := by
  rw [← filter_eq_self_iff_unlisted]
  constructor
  · exact congrArg linkStateRetransmissionList
  · intro h
    rw [purgeRetransmissions, h]

/-- What flooding has placed is purged again, with everything else for the
LSA. -/
theorem purge_flood_retransmissions (header : LSAHeader) (src : UInt32)
    (n : Neighbor) :
    ((n.flood header src).1.purgeRetransmissions
        header).linkStateRetransmissionList =
      n.linkStateRetransmissionList.filter
        fun lsa => !header.matchesId lsa := by
  rw [purgeRetransmissions]
  by_cases hplaces : n.Places header src
  · have hself : header.matchesId header = true := by
      simp [LSAHeader.matchesId]
    simp [(flood_spec header src n).2 hplaces, hself]
  · simp [flood_retransmissions_of_not_places hplaces]

/-- Flooding and purging leave the neighbor as it is exactly when no request is
taken off and the LSA is not on its list. -/
theorem purge_flood_eq_self_iff (src : UInt32) :
    (n.flood header src).1.purgeRetransmissions header = n ↔
      n.Unlisted header ∧ n.SparesRequests header := by
  have hlist := purge_flood_retransmissions header src n
  constructor
  · intro h
    constructor
    · rw [← filter_eq_self_iff_unlisted, ← hlist, h]
    · have hrequests := congrArg linkStateRequestList h
      exact flood_requests_eq_self_iff.mp hrequests
  · rintro ⟨hunlisted, hkeeps⟩
    rw [filter_eq_self_iff_unlisted.mpr hunlisted] at hlist
    have hkept : (n.flood header src).1.linkStateRetransmissionList.filter
        (fun lsa => !header.matchesId lsa) =
          n.linkStateRetransmissionList := hlist
    rw [flood_eq_of_lists (flood_requests_eq_self_iff.mpr hkeeps) rfl,
      purgeRetransmissions, hkept]

end Neighbor

namespace Router

/-- `flooding_lsa` makes a copy for the interface, and returns 0. -/
def SendsOn (header : LSAHeader) (src : UInt32) (inter : Interface) : Prop :=
  header.lsType ≠ lsaAsExternal ∧
    (∃ n ∈ inter.neighbors, n.Places header src) ∧
    src ≠ htonl inter.dr ∧ src ≠ htonl inter.bdr ∧ inter.state ≠ .backup

instance (header : LSAHeader) (src : UInt32) (inter : Interface) :
    Decidable (SendsOn header src inter) :=
  inferInstanceAs (Decidable
    (_ ∧ (∃ n ∈ inter.neighbors, n.Places header src) ∧ _))

theorem floodingLsa_copies_iff (r : Router) (data : Memory) (src : UInt32)
    (inter : Interface) :
    (r.floodingLsa data src inter).2.2 = true ↔
      SendsOn (lsaHeaderHost data) src inter := by
  have hadded : ((inter.neighbors.map
      (Neighbor.flood (lsaHeaderHost data) src)).any Prod.snd = true) ↔
        ∃ n ∈ inter.neighbors, n.Places (lsaHeaderHost data) src := by
    simp only [List.any_map, List.any_eq_true, Function.comp_apply,
      (Neighbor.flood_spec _ _ _).1]
  by_cases hexternal : (lsaHeaderHost data).lsType = lsaAsExternal
  · simp [floodingLsa, SendsOn, hexternal]
  · have hout : SendsOn (lsaHeaderHost data) src inter ↔
        FloodsOut (inter.floodNeighbors (lsaHeaderHost data) src).1 src
          (inter.floodNeighbors (lsaHeaderHost data) src).2 := by
      rw [SendsOn, ← hadded, and_iff_right hexternal]
      exact Iff.rfl
    rw [hout]
    simp only [floodingLsa, if_neg hexternal]
    split_ifs with hcopies
    · exact iff_of_true rfl hcopies
    · exact iff_of_false (fun h => by cases h) hcopies

/-- Flooding the LSA and purging it again has no effect: it is on no
retransmission list of the receiving interface; and unless it is external,
flooding takes no request off there and sends nothing, and passes over the
neighbors of the other interfaces. -/
def FloodsInVain (r : Router) (src : UInt32) (header : LSAHeader) : Prop :=
  (∀ n ∈ r.interface.neighbors, n.Unlisted header) ∧
    (header.lsType ≠ lsaAsExternal →
      (∀ n ∈ r.interface.neighbors, n.SparesRequests header) ∧
        ¬SendsOn header src r.interface ∧
        ∀ inter ∈ r.interfacesBefore ++ r.interfacesAfter,
          ∀ n ∈ inter.neighbors, n.PassedOver header)

instance (r : Router) (src : UInt32) (header : LSAHeader) :
    Decidable (r.FloodsInVain src header) :=
  inferInstanceAs (Decidable
    (_ ∧ (_ → _ ∧ _ ∧ ∀ inter ∈ r.interfacesBefore ++ r.interfacesAfter, _)))

variable {r : Router} {data : Memory} {src : UInt32}

/-- What is sent on through the interface. -/
theorem floodingLsa_sent_eq_nil_iff (r : Router) (data : Memory)
    (src : UInt32) (inter : Interface) :
    (r.floodingLsa data src inter).2.1 = [] ↔
      ¬SendsOn (lsaHeaderHost data) src inter := by
  rw [← floodingLsa_copies_iff r]
  simp only [floodingLsa]
  split_ifs <;> simp

/-- An LSA that is not external changes the neighbors of the interface
only. -/
theorem floodingLsa_fst_eq_self_iff {inter : Interface}
    (hinternal : (lsaHeaderHost data).lsType ≠ lsaAsExternal) :
    (r.floodingLsa data src inter).1 = inter ↔
      ∀ n ∈ inter.neighbors, n.PassedOver (lsaHeaderHost data) := by
  simp only [floodingLsa_fst r src inter hinternal,
    ← Neighbor.flood_eq_self_iff src]
  rw [← map_eq_self_iff]
  constructor
  · exact congrArg Interface.neighbors
  · intro h
    rw [h]

/-- The receiving interface after the purge. -/
theorem purge_floodingLsa_eq_self_iff {inter : Interface}
    (hinternal : (lsaHeaderHost data).lsType ≠ lsaAsExternal) :
    { (r.floodingLsa data src inter).1 with
        neighbors := (r.floodingLsa data src inter).1.neighbors.map
          (Neighbor.purgeRetransmissions (lsaHeaderHost data)) } = inter ↔
      (∀ n ∈ inter.neighbors, n.Unlisted (lsaHeaderHost data)) ∧
        ∀ n ∈ inter.neighbors, n.SparesRequests (lsaHeaderHost data) := by
  simp only [floodingLsa_fst r src inter hinternal, List.map_map,
    Function.comp_def, ← forall₂_and,
    ← Neighbor.purge_flood_eq_self_iff src]
  rw [← map_eq_self_iff]
  constructor
  · exact congrArg Interface.neighbors
  · intro h
    rw [h]

/-- A part of the area that flooding leaves as it is, without sending. -/
theorem map_floodingLsa_eq_self_iff {inters : List Interface} :
    (inters.map (r.floodingLsa data src)).map Prod.fst = inters ∧
        (inters.map (r.floodingLsa data src)).flatMap
          (fun flooded => flooded.2.1) = [] ↔
      ∀ inter ∈ inters, (r.floodingLsa data src inter).1 = inter ∧
        (r.floodingLsa data src inter).2.1 = [] := by
  rw [List.map_map, map_eq_self_iff, List.flatMap_eq_nil_iff,
    List.forall_mem_map, ← forall₂_and]
  exact Iff.rfl

/-- Flooding and purging leave the router as it is where each interface is
left as it is, and nothing is sent. -/
theorem purge_floodArea_eq_self_iff_interfaces {header : LSAHeader} :
    (r.floodArea data src).1.purge header = r ↔
      { (r.floodingLsa data src r.interface).1 with
          neighbors := (r.floodingLsa data src r.interface).1.neighbors.map
            (Neighbor.purgeRetransmissions header) } = r.interface ∧
        (r.floodingLsa data src r.interface).2.1 = [] ∧
        ∀ inter ∈ r.interfacesBefore ++ r.interfacesAfter,
          (r.floodingLsa data src inter).1 = inter ∧
            (r.floodingLsa data src inter).2.1 = [] := by
  rw [List.forall_mem_append, ← map_floodingLsa_eq_self_iff,
    ← map_floodingLsa_eq_self_iff]
  constructor
  · intro h
    have hlog := congrArg log h
    simp only [purge, floodArea, List.append_assoc, List.append_right_eq_self,
      List.append_eq_nil_iff] at hlog
    obtain ⟨hbefore, hthis, hafter⟩ := hlog
    exact ⟨congrArg interface h, hthis,
      ⟨congrArg interfacesBefore h, hbefore⟩,
      ⟨congrArg interfacesAfter h, hafter⟩⟩
  · rintro ⟨hthis, hsent, ⟨hbefore, hquiet⟩, ⟨hafter, hquiet'⟩⟩
    simp only [purge, floodArea, hbefore, hafter, hquiet, hquiet', hsent,
      hthis, List.append_nil]

/-- Flooding and purging leave the router as it is exactly when they are in
vain. -/
theorem purge_floodArea_eq_self_iff :
    (r.floodArea data src).1.purge (lsaHeaderHost data) = r ↔
      r.FloodsInVain src (lsaHeaderHost data) := by
  rw [purge_floodArea_eq_self_iff_interfaces, FloodsInVain]
  simp only [floodingLsa_sent_eq_nil_iff]
  by_cases hexternal : (lsaHeaderHost data).lsType = lsaAsExternal
  · have hquiet : ∀ inter, ¬SendsOn (lsaHeaderHost data) src inter :=
      fun inter h => h.1 hexternal
    have hsame : ∀ inter, (r.floodingLsa data src inter).1 = inter := by
      intro inter
      rw [floodingLsa, if_pos hexternal]
    simp only [hsame, hquiet, not_false_eq_true, and_self, implies_true,
      and_true, hexternal, ne_eq, not_true_eq_false, false_imp_iff]
    constructor
    · intro h n hn
      have hmap := map_eq_self_iff.mp (congrArg Interface.neighbors h)
      exact Neighbor.purge_eq_self_iff.mp (hmap n hn)
    · intro h
      rw [map_eq_self_iff.mpr fun n hn =>
        Neighbor.purge_eq_self_iff.mpr (h n hn)]
  · rw [purge_floodingLsa_eq_self_iff hexternal, and_assoc,
      forall_prop_of_true hexternal]
    simp only [floodingLsa_fst_eq_self_iff hexternal]
    -- Where every neighbor is passed over, nothing is sent on.
    have hpassed : ∀ inter : Interface,
        (∀ n ∈ inter.neighbors, n.PassedOver (lsaHeaderHost data)) →
          ¬SendsOn (lsaHeaderHost data) src inter := by
      intro inter h hsends
      obtain ⟨-, ⟨n, hn, hplaces⟩, -⟩ := hsends
      exact ((Neighbor.passedOver_iff src).mp (h n hn)).2 hplaces
    refine and_congr Iff.rfl (and_congr Iff.rfl (and_congr Iff.rfl ?_))
    exact forall₂_congr fun inter _ =>
      and_iff_left_of_imp (hpassed inter)

/-- Flooding in vain is reported as such. -/
theorem floodArea_snd_of_inVain
    (h : r.FloodsInVain src (lsaHeaderHost data)) :
    (r.floodArea data src).2 = false := by
  rw [← Bool.not_eq_true]
  intro hsent
  have hsends := (floodingLsa_copies_iff r data src r.interface).mp hsent
  exact (h.2 hsends.1).2.1 hsends

end Router
end OspfLite
