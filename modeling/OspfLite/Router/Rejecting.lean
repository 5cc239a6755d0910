import OspfLite.Router.Answering

/-!
# Rejected Database Description packets

Which packets EXCHANGE should let through, and which ones it does.  The options
are compared with the field that has just been overwritten, and a header of a
bad type does not end the handling of the packet.
-/

namespace OspfLite
namespace Neighbor

/-- The flags and the number are those expected in EXCHANGE: the packet does
not open an exchange, comes from the side that has the role, and is the next
one. -/
def FitsRole (n : Neighbor) (dd : OSPFDD) : Prop :=
  dd.bI = false ∧ dd.bMs = n.isMaster ∧
    ntohl dd.ddSeqNum = if n.isMaster then n.ddSeqNum + 1 else n.ddSeqNum

/-- The E and NP bits are those of the options recorded before. -/
def SameOptions (n : Neighbor) (dd : OSPFDD) : Prop :=
  dd.options &&& comparedOptions = n.options &&& comparedOptions

/-- The packet lists whole headers, each of a type from 1 to 5. -/
def GoodHeaders (headers : Option (List LSAHeader)) : Prop :=
  ∃ listed ∈ headers, ∀ h ∈ listed, ¬BadType h

/-- The packet is one to accept in EXCHANGE. -/
def Acceptable (n : Neighbor) (dd : OSPFDD)
    (headers : Option (List LSAHeader)) : Prop :=
  n.FitsRole dd ∧ n.SameOptions dd ∧ GoodHeaders headers

instance (n : Neighbor) (dd : OSPFDD) : Decidable (n.FitsRole dd) :=
  inferInstanceAs (Decidable (_ ∧ _ ∧ _ = _))

instance (n : Neighbor) (dd : OSPFDD) : Decidable (n.SameOptions dd) :=
  inferInstanceAs (Decidable (_ = _))

instance (headers : Option (List LSAHeader)) :
    Decidable (GoodHeaders headers) :=
  inferInstanceAs (Decidable (∃ listed ∈ headers, ∀ h ∈ listed, _))

instance (n : Neighbor) (dd : OSPFDD) (headers : Option (List LSAHeader)) :
    Decidable (n.Acceptable dd headers) :=
  inferInstanceAs (Decidable (_ ∧ _ ∧ _))

variable {n : Neighbor} {dd : OSPFDD}

@[simp] theorem recordDd_state (dd : OSPFDD) (n : Neighbor) :
    (n.recordDd dd).state = n.state := by
  obtain ⟨seqNum, h⟩ := n.recordDd_eq dd
  rw [h]

@[simp] theorem recordDd_isMaster (dd : OSPFDD) (n : Neighbor) :
    (n.recordDd dd).isMaster = n.isMaster := by
  obtain ⟨seqNum, h⟩ := n.recordDd_eq dd
  rw [h]

@[simp] theorem recordDd_ddSeqNum (dd : OSPFDD) (n : Neighbor) :
    (n.recordDd dd).ddSeqNum = n.ddSeqNum := by
  obtain ⟨seqNum, h⟩ := n.recordDd_eq dd
  rw [h]

@[simp] theorem recordDd_options (dd : OSPFDD) (n : Neighbor) :
    (n.recordDd dd).options = dd.options := by
  obtain ⟨seqNum, h⟩ := n.recordDd_eq dd
  rw [h]

/-- In EXCHANGE a packet that repeats none goes through exactly if it fits the
role: after the options have been recorded they agree. -/
theorem ddVerdict_exchange (hstate : n.state = .exchange) (routerId : UInt32)
    (lsdb : LSDB) (dd : OSPFDD) :
    (n.recordDd dd).ddVerdict routerId lsdb false dd =
      if n.FitsRole dd then .accept (n.recordDd dd) else .mismatch := by
  simp only [ddVerdict, recordDd_state, hstate, recordDd_options,
    recordDd_isMaster, recordDd_ddSeqNum, ne_eq, not_true_eq_false,
    if_false, Bool.false_eq_true]
  generalize n.recordDd dd = noticed
  by_cases hfits : n.FitsRole dd
  · rw [if_pos hfits]
    obtain ⟨hopening, hside, hnum⟩ := hfits
    generalize ntohl dd.ddSeqNum = seqNum at *
    cases hmaster : n.isMaster <;>
      simp [hopening, hside, hnum, hmaster]
  · rw [if_neg hfits]
    rw [FitsRole] at hfits
    generalize ntohl dd.ddSeqNum = seqNum at *
    cases hmaster : n.isMaster <;> cases hside : dd.bMs <;>
      simp_all

@[simp] theorem clearLists_ddSeqNum (n : Neighbor) :
    n.clearLists.1.ddSeqNum = n.ddSeqNum := by
  by_cases h : n.lsrSenderCreated = true <;>
    simp [clearLists, joinRetransSender, joinLsrSender, h]

@[simp] theorem restartEmptyDdSender_ddSeqNum (n : Neighbor) :
    n.restartEmptyDdSender.1.ddSeqNum = n.ddSeqNum := by
  by_cases h : n.isEmptyDdSenderRunning = true <;>
    simp [restartEmptyDdSender, joinEmptyDdSender, createEmptyDdSender, h]

/-- What `event_seq_number_mismatch` leaves of a neighbor in EXCHANGE. -/
theorem eventSeqNumberMismatch_spec (hstate : n.state = .exchange) :
    n.eventSeqNumberMismatch.1.state = .exStart ∧
      n.eventSeqNumberMismatch.1.lists = ([], [], []) ∧
      n.eventSeqNumberMismatch.1.ddSeqNum = n.ddSeqNum := by
  obtain ⟨hstart, hlists, -⟩ := restartExchange_spec hstate.ge
  refine ⟨hstart, hlists, ?_⟩
  rw [eventSeqNumberMismatch, restartExchange, if_pos hstate.ge]
  simp

end Neighbor

namespace Router

variable {r : Router} {ip : UInt32} {dd : OSPFDD} {n : Neighbor}
  {headers : Option (List LSAHeader)}

/-- Acceptable packets get through to the reply, and no other ones; of any
other packet the flags, the number and the options are recorded, and then
`event_seq_number_mismatch` is all that happens. -/
structure AllOrNothing (r : Router) (ip : UInt32) (dd : OSPFDD)
    (headers : Option (List LSAHeader)) (n : Neighbor) : Prop where
  accepted : r.acceptedDd ip dd ≠ none ↔ n.Acceptable dd headers
  rejected : ¬n.Acceptable dd headers →
    r.handleDd ip dd headers =
      .ok ((r.modifyNeighbor ip fun _ => n.recordDd dd).eventSeqNumberMismatch
        ip)

/-- The record a packet is handled with in EXCHANGE. -/
theorem beginDd_of_exchange (hstate : n.state = .exchange)
    (inter : Interface) : n.beginDd inter dd = n.recordDd dd := by
  have hnot : (n.recordDd dd).state ≠ .init := by
    rw [Neighbor.recordDd_state, hstate]
    decide
  rw [Neighbor.beginDd, if_neg hnot]

/-- What gets through in EXCHANGE. -/
theorem acceptedDd_exchange (hn : r.findNeighbor ip = some n)
    (hstate : n.state = .exchange) (hnew : ¬n.IsDuplicate dd) :
    r.acceptedDd ip dd =
      if n.FitsRole dd then some (n.recordDd dd) else none := by
  rw [acceptedDd, hn, Option.bind_some, beginDd_of_exchange hstate,
    decide_eq_false hnew, Neighbor.ddVerdict_exchange hstate]
  split_ifs <;> rfl

/-- A packet that does not fit the role is rejected. -/
theorem handleDd_of_not_fits (hn : r.findNeighbor ip = some n)
    (hstate : n.state = .exchange) (hnew : ¬n.IsDuplicate dd)
    (hfits : ¬n.FitsRole dd) (headers : Option (List LSAHeader)) :
    r.handleDd ip dd headers =
      .ok ((r.modifyNeighbor ip fun _ => n.recordDd dd).eventSeqNumberMismatch
        ip) := by
  rw [handleDd_eq hn]
  simp only [beginDd_of_exchange hstate, decide_eq_false hnew,
    Neighbor.ddVerdict_exchange hstate, if_neg hfits]

/-- In EXCHANGE the handling of a packet that repeats none is all or nothing
if and only if a packet that fits the role has the options recorded before and
headers of good types. -/
theorem allOrNothing_iff (hn : r.findNeighbor ip = some n)
    (hstate : n.state = .exchange) (hnew : ¬n.IsDuplicate dd) :
    (r.AllOrNothing ip dd headers n ↔
      (n.FitsRole dd → n.SameOptions dd ∧ Neighbor.GoodHeaders headers)) ∧
    (n.recordDd dd).eventSeqNumberMismatch.1.state = .exStart ∧
    (n.recordDd dd).eventSeqNumberMismatch.1.lists = ([], [], []) ∧
    (n.recordDd dd).eventSeqNumberMismatch.1.ddSeqNum = n.ddSeqNum := by
  have heffect := Neighbor.eventSeqNumberMismatch_spec
    ((n.recordDd_state dd).trans hstate)
  rw [Neighbor.recordDd_ddSeqNum] at heffect
  refine ⟨?_, heffect⟩
  constructor
  · intro h hfits
    have haccepted : r.acceptedDd ip dd ≠ none := by
      rw [acceptedDd_exchange hn hstate hnew, if_pos hfits]
      exact Option.some_ne_none _
    exact (h.accepted.mp haccepted).2
  · intro hcond
    constructor
    · rw [acceptedDd_exchange hn hstate hnew, Neighbor.Acceptable]
      by_cases hfits : n.FitsRole dd
      · simp [hfits, hcond hfits]
      · simp [hfits]
    · intro hnot
      refine handleDd_of_not_fits hn hstate hnew (fun hfits => ?_) headers
      exact hnot ⟨hfits, hcond hfits⟩

/-- The next packet of the master. -/
theorem allOrNothing_iff_nextDd :
    ((routerWith (exchangingNeighbor true)).AllOrNothing 0x0a000002
        (masterDd 1) (some []) (exchangingNeighbor true) ↔
      ((exchangingNeighbor true).FitsRole (masterDd 1) →
        (exchangingNeighbor true).SameOptions (masterDd 1) ∧
          Neighbor.GoodHeaders (some []))) ∧
    ((exchangingNeighbor true).recordDd
      (masterDd 1)).eventSeqNumberMismatch.1.state = .exStart ∧
    ((exchangingNeighbor true).recordDd
      (masterDd 1)).eventSeqNumberMismatch.1.lists = ([], [], []) ∧
    ((exchangingNeighbor true).recordDd
      (masterDd 1)).eventSeqNumberMismatch.1.ddSeqNum =
        (exchangingNeighbor true).ddSeqNum :=
  allOrNothing_iff rfl rfl (by decide +kernel)

/-- The next packet of the master with the E bit cleared is accepted, and so is
one with a header of type 0: the exchange is restarted, but the other header is
requested and the reply is sent. -/
theorem mismatching_packets_accepted :
    ¬(routerWith (exchangingNeighbor true)).AllOrNothing 0x0a000002
        { masterDd 1 with options := 0 } (some [])
        (exchangingNeighbor true) ∧
    ¬(routerWith (exchangingNeighbor true)).AllOrNothing 0x0a000002
        (masterDd 1) (some [foreignHeader 1 0, foreignHeader 1 lsaRouter])
        (exchangingNeighbor true) ∧
    ∃ r', (routerWith (exchangingNeighbor true)).handleDd 0x0a000002
        (masterDd 1)
        (some [foreignHeader 1 0, foreignHeader 1 lsaRouter]) = .ok r' ∧
      ∃ m' ∈ r'.findNeighbor 0x0a000002, m'.state = .exStart ∧
        m'.linkStateRequestList =
          [(foreignHeader 1 lsaRouter).ddDecode] ∧
        ∃ entry ∈ r'.log, entry =
          .sent 0x0a000002 (r'.ospfPacket 0 typeDd m'.lastSendDdData) := by
  refine ⟨fun h => ?_, fun h => ?_,
    Outcome.exists_of_completesWith (by decide +kernel)⟩
  · exact absurd (h.accepted.mp (by decide +kernel)) (by decide +kernel)
  · exact absurd (h.accepted.mp (by decide +kernel)) (by decide +kernel)

end Router
end OspfLite
