import OspfLite.Router.Flooding
import OspfLite.Lib.Lists

/-!
# The reach of flooding

Which neighbors flooding has to reach is stated on its own, by the neighbor
state, the sender of the LSA and the requests pending for it.  Then the
neighbor loop of `flooding_lsa` is compared with it.
-/

namespace OspfLite
namespace Neighbor

/-! ## The requirement -/

/-- The request list entry is for the same LSA, and the received instance is
the same or newer. -/
def Satisfies (header entry : LSAHeader) : Prop :=
  LSAHeader.SameLsa entry header ∧ lsaHeaderCmp header entry ≤ 0

instance (header entry : LSAHeader) : Decidable (Satisfies header entry) :=
  inferInstanceAs (Decidable (_ ∧ _))

/-- A neighbor in EXCHANGE or LOADING has shown that it holds the same or a
newer instance. -/
def Holds (header : LSAHeader) (n : Neighbor) : Prop :=
  (n.state = .exchange ∨ n.state = .loading) ∧
    ∃ entry ∈ n.linkStateRequestList,
      LSAHeader.SameLsa entry header ∧ 0 ≤ lsaHeaderCmp header entry

instance (header : LSAHeader) (n : Neighbor) : Decidable (n.Holds header) :=
  inferInstanceAs (Decidable (_ ∧ _))

/-- The neighbor has to acknowledge the LSA: it takes part in the exchange, it
is not the sender, and it does not hold the LSA already. -/
def MustAcknowledge (header : LSAHeader) (src : UInt32) (n : Neighbor) :
    Prop :=
  .exchange ≤ n.state ∧ src ≠ htonl n.ip ∧ ¬n.Holds header

instance (header : LSAHeader) (src : UInt32) (n : Neighbor) :
    Decidable (n.MustAcknowledge header src) :=
  inferInstanceAs (Decidable (_ ∧ _ ∧ _))

/-- The neighbor after flooding as required: requests the received instance
satisfies are dropped, the header is appended where it must be acknowledged,
and nothing else changes. -/
def requiredFlood (header : LSAHeader) (src : UInt32) (n : Neighbor) :
    Neighbor :=
  { n with
    linkStateRequestList := n.linkStateRequestList.filter fun entry =>
      !decide (Satisfies header entry)
    linkStateRetransmissionList :=
      if n.MustAcknowledge header src then
        n.linkStateRetransmissionList ++ [header]
      else
        n.linkStateRetransmissionList }

/-! ## The comparison -/

/-- No pending request is satisfied by the received instance. -/
def NoneSatisfied (header : LSAHeader) (n : Neighbor) : Prop :=
  ∀ entry ∈ n.linkStateRequestList, ¬Satisfies header entry

/-- The condition under which the loop treats the neighbor as required.  In
EXCHANGE and LOADING the loop goes by the first request with the same id and
advertising router, whatever its type. -/
def FloodedAsRequired (header : LSAHeader) (src : UInt32) (n : Neighbor) :
    Prop :=
  if n.state < .exchange then
    n.NoneSatisfied header
  else if n.state = .exchange ∨ n.state = .loading then
    match n.linkStateRequestList.find? header.matchesId with
    | none => src ≠ htonl n.ip
    | some entry =>
        if 0 < lsaHeaderCmp header entry then
          n.NoneSatisfied header ∧
            (src = htonl n.ip ∨ ∃ e ∈ n.linkStateRequestList,
              LSAHeader.SameLsa e header)
        else
          LSAHeader.SameLsa entry header ∧
            n.linkStateRequestList.countP
              (fun e => decide (Satisfies header e)) = 1 ∧
            (lsaHeaderCmp header entry = 0 ∨ src = htonl n.ip ∨
              ∀ e ∈ n.linkStateRequestList, LSAHeader.SameLsa e header →
                lsaHeaderCmp header e < 0)
  else
    src = htonl n.ip ∧ n.NoneSatisfied header

variable {header : LSAHeader} {src : UInt32} {n : Neighbor}

/-- The retransmission list has been left alone although `P` asks for the
header, or the other way round, or it is right. -/
theorem self_eq_ite_append {P : Prop} [Decidable P] {l : List LSAHeader} :
    (l = if P then l ++ [header] else l) ↔ ¬P := by
  by_cases hP : P <;> simp [hP]

theorem append_eq_ite_append {P : Prop} [Decidable P] {l : List LSAHeader} :
    (l ++ [header] = if P then l ++ [header] else l) ↔ P := by
  by_cases hP : P <;> simp [hP]

/-- The two lists flooding may change decide whether a record is the required
one. -/
theorem eq_requiredFlood_iff {m : Neighbor}
    (hm : m = { n with
      linkStateRequestList := m.linkStateRequestList
      linkStateRetransmissionList := m.linkStateRetransmissionList }) :
    m = n.requiredFlood header src ↔
      m.linkStateRequestList = n.linkStateRequestList.filter
          (fun entry => !decide (Satisfies header entry)) ∧
        m.linkStateRetransmissionList =
          if n.MustAcknowledge header src then
            n.linkStateRetransmissionList ++ [header]
          else n.linkStateRetransmissionList := by
  constructor
  · rintro rfl
    exact ⟨rfl, rfl⟩
  · rintro ⟨hrequests, hretransmissions⟩
    rw [hm, hrequests, hretransmissions]
    rfl

theorem requests_eq_filter_iff :
    n.linkStateRequestList = n.linkStateRequestList.filter
        (fun entry => !decide (Satisfies header entry)) ↔
      n.NoneSatisfied header := by
  rw [eq_filter_not_iff]
  simp [NoneSatisfied]

/-- Leaving the record alone is right when no request is satisfied and no
acknowledgment is needed. -/
theorem self_eq_requiredFlood_iff :
    n = n.requiredFlood header src ↔
      n.NoneSatisfied header ∧ ¬n.MustAcknowledge header src := by
  rw [eq_requiredFlood_iff rfl, requests_eq_filter_iff, self_eq_ite_append]

/-- In EXCHANGE and LOADING the sender, and a neighbor that asks for nothing
but older instances, decide about the acknowledgment. -/
theorem mustAcknowledge_iff (hstate : n.state = .exchange ∨
      n.state = .loading) :
    n.MustAcknowledge header src ↔
      src ≠ htonl n.ip ∧ ∀ e ∈ n.linkStateRequestList,
        LSAHeader.SameLsa e header → lsaHeaderCmp header e < 0 := by
  have hle : NeighborState.exchange ≤ n.state := by
    rcases hstate with h | h
    · exact h.ge
    · rw [h]
      decide
  simp only [MustAcknowledge, Holds, hle, hstate, true_and, not_exists,
    not_and, not_le]

/-- An entry for the same LSA is one the loop would find. -/
theorem matchesId_of_sameLsa {entry : LSAHeader}
    (h : LSAHeader.SameLsa entry header) : header.matchesId entry = true := by
  simp [LSAHeader.matchesId, h.2.1, h.2.2]

/-- Erasing the request the loop has found is right when it is satisfied and
no other one is. -/
theorem eraseRequest_eq_filter_iff {entry : LSAHeader}
    (hfind : n.linkStateRequestList.find? header.matchesId = some entry)
    (hcmp : lsaHeaderCmp header entry ≤ 0) :
    (n.eraseRequest header).linkStateRequestList =
        n.linkStateRequestList.filter
          (fun entry => !decide (Satisfies header entry)) ↔
      LSAHeader.SameLsa entry header ∧
        n.linkStateRequestList.countP
          (fun e => decide (Satisfies header e)) = 1 := by
  rw [eraseRequest, eraseP_eq_filter_iff hfind, decide_eq_true_iff,
    Satisfies, and_iff_left hcmp]

/-- The three ways the loop goes on after it has found a request. -/
theorem flood_found_eq_requiredFlood_iff {entry : LSAHeader}
    (hstate : n.state = .exchange ∨ n.state = .loading)
    (hfind : n.linkStateRequestList.find? header.matchesId = some entry) :
    (n.flood header src).1 = n.requiredFlood header src ↔
      n.FloodedAsRequired header src := by
  have hlow : ¬n.state < .exchange := by
    rcases hstate with h | h <;> (rw [h]; decide)
  have hmem := List.mem_of_find?_eq_some hfind
  have hmust : n.MustAcknowledge header src ↔ _ := mustAcknowledge_iff hstate
  simp only [flood, FloodedAsRequired, hlow, hstate, hfind, if_false, if_true]
  rcases lt_trichotomy (lsaHeaderCmp header entry) 0 with hlt | heq | hgt
  · have herase := eraseRequest_eq_filter_iff hfind hlt.le
    simp only [hlt, hlt.ne, not_lt.mpr hlt.le, if_false, if_true, false_or]
    by_cases hsrc : src = htonl n.ip
    · have hno : ¬n.MustAcknowledge header src := fun h => h.2.1 hsrc
      simp only [hsrc, if_true, true_or, and_true]
      rw [eq_requiredFlood_iff rfl, herase, ← hsrc]
      exact and_iff_left (self_eq_ite_append.mpr hno)
    · simp only [hsrc, if_false, false_or]
      rw [eq_requiredFlood_iff rfl]
      rw [← and_assoc, ← herase]
      refine and_congr Iff.rfl ?_
      exact append_eq_ite_append.trans (hmust.trans (and_iff_right hsrc))
  · have herase := eraseRequest_eq_filter_iff hfind heq.le
    simp only [heq, lt_irrefl, if_true, if_false, true_or, and_true]
    rw [eq_requiredFlood_iff rfl, herase]
    refine and_iff_left_of_imp fun h => self_eq_ite_append.mpr ?_
    rw [hmust]
    intro hmust
    have hlt := hmust.2 entry hmem h.1
    rw [heq] at hlt
    exact lt_irrefl 0 hlt
  · simp only [hgt, hgt.ne', hgt.not_gt, if_false, if_true]
    rw [self_eq_requiredFlood_iff]
    apply and_congr_right
    intro hnone
    rw [hmust]
    constructor
    · intro h
      by_contra hno
      obtain ⟨hsrc, hother⟩ := not_or.mp hno
      exact h ⟨hsrc, fun e he hsame => absurd ⟨e, he, hsame⟩ hother⟩
    · rintro (hsrc | ⟨e, he, hsame⟩) ⟨hne, hall⟩
      · exact hne hsrc
      · exact hnone e he ⟨hsame, (hall e he hsame).le⟩

/-- The neighbor loop of `flooding_lsa` treats a neighbor as required exactly
under the condition. -/
theorem flood_eq_requiredFlood_iff (header : LSAHeader) (src : UInt32)
    (n : Neighbor) :
    (n.flood header src).1 = n.requiredFlood header src ↔
      n.FloodedAsRequired header src := by
  by_cases hlow : n.state < .exchange
  · have hmust : ¬n.MustAcknowledge header src :=
      fun h => absurd h.1 (not_le.mpr hlow)
    simp only [flood, FloodedAsRequired, hlow, if_true,
      self_eq_requiredFlood_iff, hmust, not_false_eq_true, and_true]
  by_cases hstate : n.state = .exchange ∨ n.state = .loading
  · cases hfind : n.linkStateRequestList.find? header.matchesId with
    | some entry => exact flood_found_eq_requiredFlood_iff hstate hfind
    | none =>
        have hdifferent : ∀ e ∈ n.linkStateRequestList,
            ¬LSAHeader.SameLsa e header := by
          intro e he hsame
          exact List.find?_eq_none.mp hfind e he (matchesId_of_sameLsa hsame)
        simp only [flood, FloodedAsRequired, hlow, hstate, hfind, if_false,
          if_true]
        rw [eq_requiredFlood_iff rfl]
        have hrequests := (requests_eq_filter_iff (n := n)).mpr
          fun e he h => hdifferent e he h.1
        refine (and_iff_right hrequests).trans
          (append_eq_ite_append.trans ((mustAcknowledge_iff hstate).trans ?_))
        exact and_iff_left fun e he hsame => absurd hsame (hdifferent e he)
  · have hmust : n.MustAcknowledge header src ↔ src ≠ htonl n.ip := by
      simp only [MustAcknowledge, Holds, hstate, false_and,
        not_false_eq_true, and_true, not_lt.mp hlow, true_and]
    simp only [flood, FloodedAsRequired, hlow, hstate, if_false,
      self_eq_requiredFlood_iff, hmust, not_not]
    exact and_comm

end Neighbor

namespace Router

/-- On every interface, `flooding_lsa` leaves the neighbors as required
exactly when each of them meets the condition. -/
theorem floodingLsa_eq_requiredFlood_iff (r : Router) (data : Memory)
    (src : UInt32) (inter : Interface)
    (hinternal : (lsaHeaderHost data).lsType ≠ lsaAsExternal) :
    (r.floodingLsa data src inter).1 =
        { inter with
          neighbors := inter.neighbors.map
            (Neighbor.requiredFlood (lsaHeaderHost data) src) } ↔
      ∀ n ∈ inter.neighbors,
        n.FloodedAsRequired (lsaHeaderHost data) src := by
  rw [floodingLsa_fst r src inter hinternal, Interface.mk.injEq]
  simp only [true_and, and_true, List.map_inj_left,
    Neighbor.flood_eq_requiredFlood_iff]

/-- A Router LSA of 3.3.3.3 as 10.0.0.2 sends it. -/
def floodedLsa : Memory :=
  Memory.ofList [0, 1, 2, 1, 3, 3, 3, 3, 3, 3, 3, 3, 128, 0, 0, 1, 0, 0, 0, 24,
    0, 0, 0, 0]

/-- The interface of a DR with two neighbors that are FULL. -/
def floodedInterface : Interface :=
  { Interface.new 0x0a000001 0xffffff00 with
    state := .dr
    dr := 0x0a000001
    neighbors :=
      [{ Neighbor.new ⟨0, 0, 0, false, false, false⟩ 0x0a000002 with
          state := .full },
        { Neighbor.new ⟨0, 0, 0, false, false, false⟩ 0x0a000003 with
          state := .full }] }

/-- The comparison for the LSA and the interface above. -/
theorem floodingLsa_eq_requiredFlood_iff_fullNeighbors :
    ((new 0x01010101 initialSequenceNumber 0 ⟨0, 0, 0, false, false, false⟩
          [] floodedInterface []).floodingLsa floodedLsa (htonl 0x0a000002)
        floodedInterface).1 =
      { floodedInterface with
        neighbors := floodedInterface.neighbors.map
          (Neighbor.requiredFlood (lsaHeaderHost floodedLsa)
            (htonl 0x0a000002)) } ↔
      ∀ n ∈ floodedInterface.neighbors,
        n.FloodedAsRequired (lsaHeaderHost floodedLsa) (htonl 0x0a000002) :=
  floodingLsa_eq_requiredFlood_iff _ _ _ _ (by decide +kernel)

/-- The second neighbor has to acknowledge the LSA, and the loop passes it
over because it is FULL. -/
theorem flooding_passes_over_full_neighbor :
    ((new 0x01010101 initialSequenceNumber 0 ⟨0, 0, 0, false, false, false⟩
          [] floodedInterface []).floodingLsa floodedLsa (htonl 0x0a000002)
        floodedInterface).1 ≠
      { floodedInterface with
        neighbors := floodedInterface.neighbors.map
          (Neighbor.requiredFlood (lsaHeaderHost floodedLsa)
            (htonl 0x0a000002)) } := by
  decide +kernel

end Router
end OspfLite
