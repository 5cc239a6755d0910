import OspfLite.Interface.ElectionLoop
import OspfLite.Lib.KeyedList

/-!
# What an election sees

The views of the neighbors on which an election depends, and the events that
change them.  An election has seen the views it leaves behind.
-/

namespace OspfLite
namespace Neighbor

/-- What the election depends on: the priority of an eligible neighbor and
whether it declares itself DR or BDR. -/
def electionView (n : Neighbor) : Option (UInt32 × UInt8 × Bool × Bool) :=
  if n.Eligible then
    some (n.ip, n.pri, decide (n.dr = n.ip), decide (n.bdr = n.ip))
  else
    none

theorem electionView_ip {n : Neighbor}
    {v : UInt32 × UInt8 × Bool × Bool} (h : n.electionView = some v) :
    v.1 = n.ip := by
  rw [electionView] at h
  split_ifs at h
  rw [← Option.some.inj h]

end Neighbor

/-- The set of what an election over the neighbors depends on. -/
def electionViews (neighbors : List Neighbor) :
    Set (UInt32 × UInt8 × Bool × Bool) :=
  { v | ∃ n ∈ neighbors, n.electionView = some v }

namespace Interface

/-- No two neighbors have the same address. -/
def AddressesUnique (inter : Interface) : Prop :=
  KeyedList.Unique Neighbor.ip inter.neighbors

/-- The interface has a role for which elections are held. -/
def Elected (inter : Interface) : Prop :=
  inter.state = .dr ∨ inter.state = .backup ∨ inter.state = .drOther

instance (inter : Interface) : Decidable inter.Elected :=
  inferInstanceAs (Decidable (_ ∨ _ ∨ _))

/-- The neighbors the most recent election has seen; before the first
election there are none. -/
def seenNeighbors (inter : Interface) : List Neighbor :=
  inter.electionSaw.getD []

/-- The most recent election has seen what an election would see now. -/
def ElectionCurrent (inter : Interface) : Prop :=
  inter.Elected →
    electionViews inter.neighbors = electionViews inter.seenNeighbors

variable {inter next : Interface} {ip : UInt32} {n m : Neighbor}

/-! ## Views -/

/-- With distinct addresses, a view belongs to the neighbor found at its
address. -/
theorem mem_electionViews_iff (hunique : inter.AddressesUnique)
    {v : UInt32 × UInt8 × Bool × Bool} :
    v ∈ electionViews inter.neighbors ↔
      (inter.findNeighbor v.1).bind Neighbor.electionView = some v := by
  rw [Option.bind_eq_some_iff]
  constructor
  · rintro ⟨n, hn, hview⟩
    refine ⟨n, ?_, hview⟩
    rw [Neighbor.electionView_ip hview]
    exact hunique.lookup_of_mem hn
  · rintro ⟨n, hn, hview⟩
    exact ⟨n, List.mem_of_find?_eq_some hn, hview⟩

theorem AddressesUnique.of_map_eq (hunique : inter.AddressesUnique)
    (hmap : next.neighbors.map Neighbor.ip =
      inter.neighbors.map Neighbor.ip) : next.AddressesUnique := by
  rw [AddressesUnique, KeyedList.Unique, hmap]
  exact hunique

/-- Replacing the neighbor at an address keeps the views exactly when it keeps
the view of this neighbor. -/
theorem electionViews_modifyNeighbor_iff (hunique : inter.AddressesUnique)
    (hn : inter.findNeighbor ip = some n) (hm : m.ip = ip) :
    electionViews (inter.modifyNeighbor ip fun _ => m).neighbors =
        electionViews inter.neighbors ↔
      m.electionView = n.electionView := by
  have hunique' : (inter.modifyNeighbor ip fun _ => m).AddressesUnique :=
    hunique.of_map_eq (map_ip_modifyNeighbor fun _ _ => hm)
  have hfind : ∀ k, (inter.modifyNeighbor ip fun _ => m).findNeighbor k =
      if k = ip then some m else inter.findNeighbor k := by
    intro k
    rw [findNeighbor, Interface.modifyNeighbor,
      find_modifyNeighbor fun _ _ => hm]
    split_ifs with hk
    · rw [hk, ← findNeighbor, hn]
      rfl
    · rw [← findNeighbor, Option.map_id, id]
  simp only [Set.ext_iff, mem_electionViews_iff hunique,
    mem_electionViews_iff hunique', hfind]
  constructor
  · intro h
    apply Option.ext
    intro v
    constructor
    · intro hv
      have hip : v.1 = ip := (Neighbor.electionView_ip hv).trans hm
      simpa [hip, hn] using (h v).mp (by simpa [hip] using hv)
    · intro hv
      have hip : v.1 = ip :=
        (Neighbor.electionView_ip hv).trans (findNeighbor_ip hn)
      simpa [hip, hn] using (h v).mpr (by simpa [hip, hn] using hv)
  · intro h v
    by_cases hip : v.1 = ip
    · simp [hip, hn, h]
    · simp [hip]

end Interface

/-! ## Events that keep the view -/

namespace Neighbor

variable {n m : Neighbor} {inter : Interface}

/-- The view is made of the eligibility by state and of what a candidate
carries. -/
theorem electionView_congr
    (hstate : .twoWay ≤ m.state ↔ .twoWay ≤ n.state)
    (hcandidate : m.candidate = n.candidate) :
    m.electionView = n.electionView := by
  simp only [candidate, Candidate.mk.injEq] at hcandidate
  obtain ⟨hip, -, hpri, hdr, hbdr⟩ := hcandidate
  have helig : m.Eligible ↔ n.Eligible := by
    rw [Eligible, Eligible, hstate, hpri]
  by_cases h : n.Eligible
  · rw [electionView, electionView, if_pos h, if_pos (helig.mpr h), hip, hpri,
      hdr, hbdr]
  · rw [electionView, electionView, if_neg h, if_neg (mt helig.mp h)]

/-- A neighbor below 2WAY is not seen by an election. -/
theorem electionView_of_lt (h : n.state < .twoWay) :
    n.electionView = none :=
  if_neg fun helig => absurd helig.1 (not_le.mpr h)

theorem electionView_eq_none_iff_not_eligible :
    n.electionView = none ↔ ¬n.Eligible := by
  simp [electionView]

/-- A neighbor in 2WAY or above is not seen exactly when its priority is
zero. -/
theorem electionView_eq_none_iff (h : .twoWay ≤ n.state) :
    n.electionView = none ↔ n.pri = 0 := by
  simp [electionView, Eligible, h]

@[simp] theorem clearLists_candidate (n : Neighbor) :
    n.clearLists.1.candidate = n.candidate := by
  by_cases h : n.lsrSenderCreated = true <;>
    simp [clearLists, joinRetransSender, joinLsrSender, h, candidate]

@[simp] theorem restartEmptyDdSender_candidate (n : Neighbor) :
    n.restartEmptyDdSender.1.candidate = n.candidate := by
  by_cases h : n.isEmptyDdSenderRunning = true <;>
    simp [restartEmptyDdSender, joinEmptyDdSender, createEmptyDdSender,
      candidate, h]

theorem eventAdjOk_candidate (inter : Interface) (n : Neighbor) :
    (n.eventAdjOk inter).1.candidate = n.candidate := by
  rw [eventAdjOk]
  split_ifs
  · rw [restartEmptyDdSender_candidate]
    rfl
  · rfl
  · rfl
  · exact clearLists_candidate { n with state := .twoWay }
  · rfl

/-- `event_adj_ok` moves a neighbor between 2WAY and the states above. -/
theorem eventAdjOk_twoWay_le (inter : Interface) (n : Neighbor) :
    .twoWay ≤ (n.eventAdjOk inter).1.state ↔ .twoWay ≤ n.state := by
  rw [eventAdjOk_state]
  split_ifs with hlow
  · exact Iff.rfl
  · have hle : NeighborState.twoWay ≤ n.state := not_lt.mp hlow
    exact iff_of_true (hle.trans (le_max_left _ _)) hle
  · exact iff_of_true le_rfl (not_lt.mp hlow)

theorem eventAdjOk_eligible (inter : Interface) (n : Neighbor) :
    (n.eventAdjOk inter).1.Eligible ↔ n.Eligible := by
  have hpri := congrArg Candidate.pri (n.eventAdjOk_candidate inter)
  rw [Eligible, Eligible, eventAdjOk_twoWay_le,
    show (n.eventAdjOk inter).1.pri = n.pri from hpri]

/-- `event_adj_ok` makes no difference to an election. -/
theorem eventAdjOk_electionView (inter : Interface) (n : Neighbor) :
    (n.eventAdjOk inter).1.electionView = n.electionView :=
  electionView_congr (n.eventAdjOk_twoWay_le inter)
    (n.eventAdjOk_candidate inter)

end Neighbor

namespace Interface

variable {inter next : Interface} {routerId : UInt32} {ip : UInt32}
  {n : Neighbor}

/-- An election has seen what another one would see now. -/
def SeesCurrent (inter : Interface) : Prop :=
  electionViews inter.neighbors = electionViews inter.seenNeighbors

/-- The views of neighbors that have been changed one by one without changing
their views. -/
theorem electionViews_map {f : Neighbor → Neighbor}
    (hf : ∀ n, (f n).electionView = n.electionView)
    (neighbors : List Neighbor) :
    electionViews (neighbors.map f) = electionViews neighbors := by
  ext v
  simp [electionViews, hf]

/-- An election sees the neighbors it leaves behind. -/
theorem callElection_seesCurrent (h : inter.callElection routerId = .ok next) :
    next.settleState.SeesCurrent ∧
      next.settleState.neighbors.map Neighbor.ip =
        inter.neighbors.map Neighbor.ip := by
  obtain ⟨⟨passes, elected⟩, hrun, rfl⟩ := Outcome.map_eq_ok.mp h
  have hloop := electionLoop_runElection inter routerId
  rw [hrun] at hloop
  obtain ⟨dr, bdr, rfl⟩ := electionLoop_frame hloop
  have hfinish : (inter.finishElection (inter.setRoles dr bdr)).SeesCurrent ∧
      (inter.finishElection (inter.setRoles dr bdr)).neighbors.map
        Neighbor.ip = inter.neighbors.map Neighbor.ip := by
    rw [finishElection]
    split_ifs
    · refine ⟨electionViews_map (fun n => n.eventAdjOk_electionView _) _, ?_⟩
      simp only [adjOkAll, List.map_map]
      exact List.map_congr_left fun n _ =>
        n.eventAdjOk_ip _
    · exact ⟨rfl, rfl⟩
  rw [settleState]
  split_ifs <;> exact hfinish

/-- An interface event holds an election, or leaves the interface as it
is. -/
theorem handle_cases {event : Event} (hevent : event ≠ .interfaceUp)
    (h : inter.handle routerId event = .ok next) :
    (next.SeesCurrent ∧ next.neighbors.map Neighbor.ip =
        inter.neighbors.map Neighbor.ip) ∨
      (next = inter ∧ (event = .neighborChange → ¬inter.Elected)) := by
  by_cases hcalls : inter.CallsElection event
  · rw [handle_of_callsElection hcalls] at h
    obtain ⟨elected, helected, rfl⟩ := Outcome.map_eq_ok.mp h
    obtain ⟨timer, timeout, hafter⟩ := settleAfter_eq event elected
    rw [hafter]
    exact Or.inl (callElection_seesCurrent helected)
  · rw [handle_of_not_callsElection hevent hcalls, Except.ok.injEq] at h
    refine Or.inr ⟨h.symm, ?_⟩
    rintro rfl
    exact hcalls

end Interface
end OspfLite
