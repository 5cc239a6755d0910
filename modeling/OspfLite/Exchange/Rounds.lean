import OspfLite.Exchange.Party
import OspfLite.Lib.Lists

/-!
# The rounds of an exchange

The messages of the two sides, round by round, and where a party is after a
number of rounds.  The router with the higher id leads: the other one takes it
for the master and follows its numbers.
-/

namespace OspfLite

/-! ## Messages -/

/-- The headers of the summary list that go into packet `k`. -/
def ddChunk (own : List LSAHeader) (k : ℕ) : List LSAHeader :=
  ((own.drop (ddCapacity * k)).take ddCapacity).map LSAHeader.ageless

/-- Whether more packets follow packet `k`. -/
def ddMore (own : List LSAHeader) (k : ℕ) : Bool :=
  decide (ddCapacity < (own.drop (ddCapacity * k)).length)

/-- The messages a party has accepted when it sends packet `k`, the opening
one not counted: a follower has to hear the leader first. -/
def ddHeard (isMaster : Bool) (k : ℕ) : ℕ := if isMaster then k else k + 1

/-- The messages of a party with the database `own`, for which the other side
is the master or is not: the opening one, and then the packets. -/
def ddMessage (own : List LSAHeader) (isMaster : Bool) : ℕ → DdMessage
  | 0 => ⟨⟨true, true, true, 0⟩, []⟩
  | k + 1 =>
      ⟨⟨false, ddMore own k, !isMaster, UInt32.ofNat (ddHeard isMaster k)⟩,
        ddChunk own k⟩

/-- The summary list after the packet before has been acknowledged. -/
theorem drop_length_ddChunk (own : List LSAHeader) (k : ℕ) :
    (own.drop (ddCapacity * k)).drop (ddChunk own k).length =
      own.drop (ddCapacity * (k + 1)) := by
  rw [ddChunk, List.length_map, List.length_take, List.drop_drop]
  by_cases hshort : (own.drop (ddCapacity * k)).length ≤ ddCapacity
  · rw [min_eq_right hshort, List.length_drop]
    rw [List.length_drop] at hshort
    rw [List.drop_eq_nil_of_le (by omega), List.drop_eq_nil_of_le]
    rw [Nat.mul_succ]
    omega
  · rw [min_eq_left (by omega), Nat.mul_succ]

theorem length_ddChunk_le (own : List LSAHeader) (k : ℕ) :
    (ddChunk own k).length ≤ (own.drop (ddCapacity * k)).length := by
  rw [ddChunk, List.length_map, List.length_take]
  exact min_le_right _ _

/-- What the packets up to packet `k` have brought. -/
theorem take_append_ddChunk (own : List LSAHeader) (k : ℕ) :
    (own.take (ddCapacity * k)).map LSAHeader.ageless ++ ddChunk own k =
      (own.take (ddCapacity * (k + 1))).map LSAHeader.ageless := by
  rw [ddChunk, ← List.map_append, ← List.take_add, Nat.mul_succ]

/-- No more packets follow once the list has been sent. -/
theorem ddMore_eq_false {own : List LSAHeader} {k : ℕ} :
    ddMore own k = false ↔ own.length ≤ ddCapacity * (k + 1) := by
  rw [ddMore, decide_eq_false_iff_not, List.length_drop, Nat.mul_succ]
  omega

theorem mem_ddChunk {own : List LSAHeader} {k : ℕ} {h : LSAHeader}
    (hmem : h ∈ ddChunk own k) : ∃ h' ∈ own, h = h'.ageless := by
  obtain ⟨h', hmem', rfl⟩ := List.mem_map.mp hmem
  exact ⟨h', List.mem_of_mem_drop (List.mem_of_mem_take hmem'), rfl⟩

/-- A database of LSAs of the five types gives messages without bad types. -/
theorem ddMessage_types {own : List LSAHeader}
    (htypes : ∀ h ∈ own, ¬Neighbor.BadType h) (isMaster : Bool) (x : ℕ) :
    ∀ h ∈ (ddMessage own isMaster x).headers, ¬Neighbor.BadType h := by
  intro h hmem
  cases x with
  | zero => cases hmem
  | succ k =>
      obtain ⟨h', hmem', rfl⟩ := mem_ddChunk hmem
      exact htypes h' hmem'

/-! ## One accepted message -/

namespace Party

variable {p : Party} {m : DdMessage} {own other : List LSAHeader} {k : ℕ}

/-- Accepting a message with the expected number brings out packet `k`, if the
packets before it have now been acknowledged. -/
theorem accept?_eq (htypes : ∀ h ∈ m.headers, ¬Neighbor.BadType h)
    (hack : p.acknowledged ≤ p.summary.length)
    (hdrop : p.summary.drop p.acknowledged = own.drop (ddCapacity * k))
    (hstate : p.state = .exchange)
    (hseq : (if p.isMaster then m.seqNum else p.ddSeqNum) =
      UInt32.ofNat k) :
    p.accept? m = some
      ({ p with
          ddSeqNum := UInt32.ofNat (ddHeard p.isMaster k)
          summary := own.drop (ddCapacity * k)
          lastSent := some (ddMessage own p.isMaster (k + 1))
          accepted := p.accepted ++ m.headers
          state := if m.more = false ∧ own.length ≤ ddCapacity * k then .full
            else .exchange },
        some (ddMessage own p.isMaster (k + 1))) := by
  have hnumber : (if p.isMaster then m.seqNum else p.ddSeqNum + 1) =
      UInt32.ofNat (ddHeard p.isMaster k) := by
    cases hmaster : p.isMaster with
    | true => simpa [hmaster, ddHeard] using hseq
    | false =>
        have hk : p.ddSeqNum = UInt32.ofNat k := by simpa [hmaster] using hseq
        simp [hk, ddHeard, UInt32.ofNat_add]
  have hadvance : p.toDdRecord.acknowledge m =
      { p.toDdRecord with
        ddSeqNum := UInt32.ofNat (ddHeard p.isMaster k)
        summary := own.drop (ddCapacity * k)
        state := if m.more = false ∧ own.length ≤ ddCapacity * k then .full
          else .exchange } := by
    have hsummary : (p.toDdRecord.follow m).dropAcknowledged.summary =
        own.drop (ddCapacity * k) := hdrop
    have hover : m.more = false ∧
        (p.toDdRecord.follow m).dropAcknowledged.summary = [] ↔
          m.more = false ∧ own.length ≤ ddCapacity * k := by
      rw [hsummary, List.drop_eq_nil_iff]
    rw [← hnumber, ← hdrop, DdRecord.acknowledge, DdRecord.finish]
    simp only [hover]
    simp only [DdRecord.advance, DdRecord.dropAcknowledged, DdRecord.follow,
      hstate]
    cases p.isMaster with
    | true => rfl
    | false => rfl
  have hreply : (p.accept m).lastSent =
      some (ddMessage own p.isMaster (k + 1)) := by
    rw [accept, DdRecord.answer, DdRecord.reply, hadvance]
    rfl
  refine accept?_eq_some.mpr ⟨⟨htypes, hack⟩, ?_, hreply⟩
  rw [accept, DdRecord.answer, DdRecord.reply, hadvance]
  rfl

/-! ## Where a party is -/

/-- The router ids decide whether the other side is the master. -/
def Ranked (isMaster : Bool) (p : Party) : Prop :=
  if isMaster then p.routerId < p.peerId else p.peerId < p.routerId

/-- A party in EXSTART that has heard nothing yet that it accepted. -/
structure Waiting (own : List LSAHeader) (isMaster : Bool) (p : Party) :
    Prop where
  ranked : p.Ranked isMaster
  state : p.state = .exStart
  ddSeqNum : p.ddSeqNum = 0
  lastSent : p.lastSent = none
  headers : p.headers = own
  snapshot : p.snapshot = none
  accepted : p.accepted = []

/-- A party that has sent packet `k` last: what it has accepted is what the
packets of the other side have brought so far, and it is FULL only when
neither side has more to send. -/
structure Exchanging (own other : List LSAHeader) (isMaster : Bool) (k : ℕ)
    (p : Party) : Prop where
  ranked : p.Ranked isMaster
  isMaster_eq : p.isMaster = isMaster
  ddSeqNum : p.ddSeqNum = UInt32.ofNat (ddHeard isMaster k)
  summary : p.summary = own.drop (ddCapacity * k)
  lastSent : p.lastSent = some (ddMessage own isMaster (k + 1))
  snapshot : p.snapshot = some own
  accepted : p.accepted =
    (other.take (ddCapacity * ddHeard isMaster k)).map LSAHeader.ageless
  phase : p.state = .exchange ∧ p.lastReceived =
      (ddMessage other (!isMaster) (ddHeard isMaster k)).toDdFlags ∨
    p.state = .full ∧ 0 < ddHeard isMaster k ∧
      other.length ≤ ddCapacity * ddHeard isMaster k ∧
      own.length ≤ ddCapacity * k

/-- Where a party is after having sent the given number of messages, the
opening one included. -/
def At (own other : List LSAHeader) (isMaster : Bool) :
    ℕ → Party → Prop
  | 0 => Waiting own isMaster
  | k + 1 => Exchanging own other isMaster k

theorem Exchanging.state_eq {isMaster : Bool}
    (h : p.Exchanging own other isMaster k) :
    p.state = .exchange ∨ p.state = .full :=
  h.phase.imp And.left And.left

theorem Exchanging.state_of_ne_full {isMaster : Bool}
    (h : p.Exchanging own other isMaster k) (hfull : p.state ≠ .full) :
    p.state = .exchange :=
  h.state_eq.resolve_right hfull

/-- Before it is FULL, a party remembers the message it has answered. -/
theorem Exchanging.lastReceived_eq {isMaster : Bool}
    (h : p.Exchanging own other isMaster k) (hstate : p.state = .exchange) :
    p.lastReceived =
      (ddMessage other (!isMaster) (ddHeard isMaster k)).toDdFlags := by
  rcases h.phase with ⟨-, hlast⟩ | ⟨hfull, -⟩
  · exact hlast
  · rw [hstate] at hfull
    cases hfull

/-- A FULL party stays where it is, whatever it hears. -/
theorem Exchanging.hear_of_full {isMaster : Bool}
    (h : p.Exchanging own other isMaster k) (hfull : p.state = .full)
    (m : DdMessage) :
    (p.heard m).Exchanging own other isMaster k := by
  rcases h.phase with ⟨hstate, -⟩ | hphase
  · rw [hfull] at hstate
    cases hstate
  · exact { h with phase := Or.inr hphase }

/-- A repetition of the message heard last changes nothing. -/
theorem Exchanging.hear_duplicate {isMaster : Bool}
    (h : p.Exchanging own other isMaster k) {m : DdMessage}
    (hdup : m.toDdFlags = p.lastReceived) :
    (p.heard m).Exchanging own other isMaster k := by
  have hsame : p.heard m = p := by
    rw [heard, DdRecord.hear, hdup]
  rw [hsame]
  exact h

/-- Messages in succession differ in their flags. -/
theorem ddMessage_succ_flags (own : List LSAHeader) (isMaster : Bool) (x : ℕ) :
    (ddMessage own isMaster (x + 1)).toDdFlags ≠
      (ddMessage own isMaster x).toDdFlags := by
  intro heq
  cases x with
  | zero => exact absurd (congrArg DdFlags.init heq) Bool.false_ne_true
  | succ k =>
      have hseq : UInt32.ofNat (ddHeard isMaster k + 1) =
          UInt32.ofNat (ddHeard isMaster k) := by
        have hnum := congrArg DdFlags.seqNum heq
        cases isMaster <;> exact hnum
      rw [UInt32.ofNat_add] at hseq
      simp at hseq

/-- The headers of the next message continue those accepted so far. -/
theorem accepted_append (other : List LSAHeader) (isMaster : Bool) (x : ℕ) :
    (other.take (ddCapacity * x)).map LSAHeader.ageless ++
        (ddMessage other isMaster (x + 1)).headers =
      (other.take (ddCapacity * (x + 1))).map LSAHeader.ageless :=
  take_append_ddChunk other x

/-- Only a packet says that no more packets follow, and then none does. -/
theorem length_of_more_eq_false {other : List LSAHeader} {isMaster : Bool}
    {x : ℕ} (hmore : (ddMessage other isMaster x).more = false) :
    0 < x ∧ other.length ≤ ddCapacity * x := by
  cases x with
  | zero => cases hmore
  | succ k => exact ⟨Nat.succ_pos k, ddMore_eq_false.mp hmore⟩

/-- A party that has taken in the message after which it sends packet `k`: the
packets before it are acknowledged, and the headers of the message bring what
has been accepted up to date. -/
structure Ready (own other : List LSAHeader) (isMaster : Bool) (k : ℕ)
    (m : DdMessage) (p : Party) : Prop where
  ranked : p.Ranked isMaster
  isMaster_eq : p.isMaster = isMaster
  state : p.state = .exchange
  snapshot : p.snapshot = some own
  message : m = ddMessage other (!isMaster) (ddHeard isMaster k)
  lastReceived : p.lastReceived = m.toDdFlags
  acknowledged : p.acknowledged ≤ p.summary.length
  remaining : p.summary.drop p.acknowledged = own.drop (ddCapacity * k)
  seqNum : (if isMaster then m.seqNum else p.ddSeqNum) = UInt32.ofNat k
  accepted : p.accepted ++ m.headers =
    (other.take (ddCapacity * ddHeard isMaster k)).map LSAHeader.ageless

/-- Where an accepted message takes a party. -/
theorem Ready.exists_accept? {isMaster : Bool} {m : DdMessage}
    (h : p.Ready own other isMaster k m)
    (htypes : ∀ h ∈ other, ¬Neighbor.BadType h) :
    ∃ p', p.accept? m = some (p', some (ddMessage own isMaster (k + 1))) ∧
      p'.Exchanging own other isMaster k := by
  have hmaster := h.isMaster_eq
  subst hmaster
  have hgood : ∀ h ∈ m.headers, ¬Neighbor.BadType h := by
    rw [h.message]
    exact ddMessage_types htypes _ _
  have haccept :=
    accept?_eq hgood h.acknowledged h.remaining h.state h.seqNum
  refine ⟨_, haccept,
    { ranked := h.ranked
      isMaster_eq := rfl
      ddSeqNum := rfl
      summary := rfl
      lastSent := rfl
      snapshot := h.snapshot
      accepted := h.accepted
      phase := ?_ }⟩
  by_cases hover : m.more = false ∧ own.length ≤ ddCapacity * k
  · have hmore := hover.1
    rw [h.message] at hmore
    obtain ⟨hpos, hlength⟩ := length_of_more_eq_false hmore
    exact Or.inr ⟨if_pos hover, hpos, hlength, hover.2⟩
  · refine Or.inl ⟨if_neg hover, ?_⟩
    rw [← h.message]
    exact h.lastReceived

/-- The first message that is accepted settles the roles and brings out the
first packet. -/
theorem Waiting.first {isMaster : Bool}
    (h : p.Waiting own isMaster) (htypes : ∀ h ∈ other, ¬Neighbor.BadType h) :
    ∃ p', p.receive (ddMessage other (!isMaster) (ddHeard isMaster 0)) =
        some (p', some (ddMessage own isMaster 1)) ∧
      p'.Exchanging own other isMaster 0 := by
  have hverdict : p.verdict
      (ddMessage other (!isMaster) (ddHeard isMaster 0)) =
        .negotiate isMaster 0 := by
    have hranked := h.ranked
    rw [verdict, h.state]
    cases isMaster with
    | true => exact if_pos ⟨rfl, rfl, rfl, hranked⟩
    | false =>
        have hfirst : ¬(false = true ∧ ddMore other 0 = true ∧
            false = true ∧ p.routerId < p.peerId) := fun hno => by
          cases hno.1
        have hecho : (0 : UInt32) = p.ddSeqNum := h.ddSeqNum.symm
        refine (if_neg hfirst).trans ?_
        rw [← hecho]
        exact if_pos ⟨rfl, rfl, rfl, hranked⟩
  obtain ⟨m, hm⟩ : ∃ m, m =
    ddMessage other (!isMaster) (ddHeard isMaster 0) := ⟨_, rfl⟩
  rw [← hm] at hverdict ⊢
  have hack : ((p.heard m).negotiate isMaster 0).acknowledged = 0 := by
    rw [negotiate, heard, DdRecord.acknowledged]
    simp only [DdRecord.hear, h.lastSent]
  have hready :
      ((p.heard m).negotiate isMaster 0).Ready own other isMaster 0 m :=
    { ranked := h.ranked
      isMaster_eq := rfl
      state := rfl
      snapshot := congrArg some h.headers
      message := hm
      lastReceived := rfl
      acknowledged := hack ▸ Nat.zero_le _
      remaining := by
        rw [hack]
        exact h.headers
      seqNum := by
        rw [hm]
        cases isMaster <;> rfl
      accepted := by
        rw [negotiate, heard, h.accepted, hm]
        cases isMaster <;> rfl }
  obtain ⟨p', haccept, hp'⟩ := hready.exists_accept? htypes
  refine ⟨p', ?_, hp'⟩
  rw [receive, hverdict]
  exact (if_pos h.snapshot).trans haccept

/-- The next message of the other side carries the number that is due. -/
theorem Exchanging.verdict_next {isMaster : Bool}
    (h : p.Exchanging own other isMaster k) (hstate : p.state = .exchange) :
    p.verdict (ddMessage other (!isMaster) (ddHeard isMaster k + 1)) =
      .accept := by
  obtain ⟨m, hm⟩ : ∃ m, m =
    ddMessage other (!isMaster) (ddHeard isMaster k + 1) := ⟨_, rfl⟩
  have hflags : m.init = false ∧ m.master = isMaster := by
    rw [hm]
    exact ⟨rfl, Bool.not_not isMaster⟩
  have hnew : m.toDdFlags ≠ p.lastReceived := by
    rw [h.lastReceived_eq hstate, hm]
    exact ddMessage_succ_flags _ _ _
  have hexpected : m.seqNum =
      (if p.isMaster then p.ddSeqNum + 1 else p.ddSeqNum) := by
    rw [hm, h.isMaster_eq, h.ddSeqNum]
    cases isMaster with
    | true => exact UInt32.ofNat_add k 1
    | false => rfl
  rw [← hm]
  simp only [verdict, hstate]
  rw [if_neg hnew, if_neg (by simp [hflags.1]),
    if_pos ⟨hflags.2.trans h.isMaster_eq.symm, hexpected⟩]

/-- Once it has been heard, the party is ready to take it in. -/
theorem Exchanging.ready_next {isMaster : Bool}
    (h : p.Exchanging own other isMaster k) (hstate : p.state = .exchange) :
    (p.heard (ddMessage other (!isMaster) (ddHeard isMaster k + 1))).Ready
      own other isMaster (k + 1)
      (ddMessage other (!isMaster) (ddHeard isMaster k + 1)) := by
  obtain ⟨m, hm⟩ : ∃ m, m =
    ddMessage other (!isMaster) (ddHeard isMaster k + 1) := ⟨_, rfl⟩
  have hnumber : m.seqNum = UInt32.ofNat (k + 1) := by
    rw [hm]
    cases isMaster <;> rfl
  have hack : (p.heard m).acknowledged = (ddChunk own k).length := by
    have hsent : (p.heard m).lastSent = some (ddMessage own isMaster (k + 1)) :=
      h.lastSent
    rw [DdRecord.acknowledged, hsent]
    rfl
  have hsummary : (p.heard m).summary = own.drop (ddCapacity * k) := h.summary
  rw [← hm]
  exact
    { ranked := h.ranked
      isMaster_eq := h.isMaster_eq
      state := hstate
      snapshot := h.snapshot
      message := by
        rw [hm]
        cases isMaster <;> rfl
      lastReceived := rfl
      acknowledged := by
        rw [hack, hsummary]
        exact length_ddChunk_le own k
      remaining := by
        rw [hack, hsummary]
        exact drop_length_ddChunk own k
      seqNum := by
        cases isMaster with
        | true => exact hnumber
        | false => exact h.ddSeqNum
      accepted := by
        have hprevious : (p.heard m).accepted =
            (other.take (ddCapacity * ddHeard isMaster k)).map
              LSAHeader.ageless := h.accepted
        rw [hprevious, hm, accepted_append]
        cases isMaster <;> rfl }

/-- The next message of the other side is accepted, and brings out the next
packet. -/
theorem Exchanging.next {isMaster : Bool}
    (h : p.Exchanging own other isMaster k)
    (htypes : ∀ h ∈ other, ¬Neighbor.BadType h)
    (hstate : p.state = .exchange) :
    ∃ p', p.receive (ddMessage other (!isMaster) (ddHeard isMaster k + 1)) =
        some (p', some (ddMessage own isMaster (k + 2))) ∧
      p'.Exchanging own other isMaster (k + 1) := by
  obtain ⟨p', haccept, hp'⟩ := (h.ready_next hstate).exists_accept? htypes
  refine ⟨p', ?_, hp'⟩
  have hsnapshot : p.snapshot ≠ none := by
    rw [h.snapshot]
    exact Option.some_ne_none own
  rw [receive, h.verdict_next hstate]
  exact (if_neg hsnapshot).trans haccept

/-- A FULL party resends its last message or does nothing. -/
theorem Exchanging.receive_of_full {isMaster : Bool}
    (h : p.Exchanging own other isMaster k) (hfull : p.state = .full)
    (m : DdMessage) :
    ∃ p' out, p.receive m = some (p', out) ∧
      p'.Exchanging own other isMaster k ∧
      (out = none ∨
        isMaster = true ∧ out = some (ddMessage own isMaster (k + 1))) := by
  have hp' := h.hear_of_full hfull m
  by_cases hagain : m.toDdFlags = p.lastReceived ∧ p.isMaster = true
  · have hverdict : p.verdict m = .resend := by
      simp only [verdict, hfull]
      exact if_pos hagain
    refine ⟨p.heard m, some (ddMessage own isMaster (k + 1)), ?_, hp',
      Or.inr ⟨h.isMaster_eq.symm.trans hagain.2, rfl⟩⟩
    rw [receive, hverdict, h.lastSent]
    rfl
  · have hverdict : p.verdict m = .ignore := by
      simp only [verdict, hfull]
      exact if_neg hagain
    refine ⟨p.heard m, none, ?_, hp', Or.inl rfl⟩
    rw [receive, hverdict]

/-- A party that hears the last message again resends its own if the other
side is the master, and does nothing otherwise. -/
theorem Exchanging.receive_duplicate {isMaster : Bool}
    (h : p.Exchanging own other isMaster k) (hstate : p.state = .exchange)
    {m : DdMessage} (hdup : m.toDdFlags = p.lastReceived) :
    ∃ p', p.receive m = some (p',
        if isMaster then some (ddMessage own isMaster (k + 1)) else none) ∧
      p'.Exchanging own other isMaster k := by
  refine ⟨p.heard m, ?_, h.hear_duplicate hdup⟩
  have hverdict : p.verdict m =
      if isMaster then .resend else .ignore := by
    simp only [verdict, hstate]
    rw [if_pos hdup, h.isMaster_eq]
  rw [receive, hverdict]
  cases isMaster with
  | true =>
      rw [h.lastSent]
      rfl
  | false => rfl

/-- The leader ignores the opening message of the follower. -/
theorem Waiting.receive_opening (h : p.Waiting own false)
    (other : List LSAHeader) :
    ∃ p', p.receive (ddMessage other true 0) = some (p', none) ∧
      p'.Waiting own false := by
  have hranked : p.peerId < p.routerId := h.ranked
  have hverdict : p.verdict (ddMessage other true 0) = .ignore := by
    rw [verdict, h.state]
    refine (if_neg fun hlead => UInt32.lt_asymm hlead.2.2.2 hranked).trans
      (if_neg fun hecho => ?_)
    exact Bool.noConfusion hecho.1
  refine ⟨p.heard (ddMessage other true 0), ?_, { h with }⟩
  rw [receive, hverdict]

/-- An end that is still in EXSTART has sent opening messages only. -/
theorem At.eq_zero_of_exStart {isMaster : Bool} {x : ℕ}
    (h : p.At own other isMaster x) (hstate : p.state = .exStart) :
    x = 0 ∧ p.emptyMessage = ddMessage own isMaster 0 := by
  cases x with
  | zero =>
      have hzero : ntohl p.ddSeqNum = 0 := by
        rw [Waiting.ddSeqNum h]
        decide
      rw [emptyMessage, hzero]
      exact ⟨rfl, rfl⟩
  | succ k =>
      rcases Exchanging.state_eq h with hexchange | hfull
      · rw [hstate] at hexchange
        cases hexchange
      · rw [hstate] at hfull
        cases hfull

theorem At.state_ne_init {isMaster : Bool} {x : ℕ}
    (h : p.At own other isMaster x) : p.state ≠ .init := by
  cases x with
  | zero =>
      rw [Waiting.state h]
      decide
  | succ k =>
      rcases Exchanging.state_eq h with hstate | hstate
      · rw [hstate]
        decide
      · rw [hstate]
        decide

/-- The next message takes a party that is not FULL one round further. -/
theorem At.advance {isMaster : Bool} {x : ℕ}
    (h : p.At own other isMaster x)
    (htypes : ∀ h ∈ other, ¬Neighbor.BadType h) (hfull : p.state ≠ .full) :
    ∃ p', p.receive (ddMessage other (!isMaster) (ddHeard isMaster x)) =
        some (p', some (ddMessage own isMaster (x + 1))) ∧
      p'.At own other isMaster (x + 1) := by
  cases x with
  | zero => exact Waiting.first h htypes
  | succ k =>
      have hk : p.Exchanging own other isMaster k := h
      have hheard : ddHeard isMaster (k + 1) = ddHeard isMaster k + 1 := by
        cases isMaster <;> rfl
      rw [hheard]
      exact hk.next htypes (hk.state_of_ne_full hfull)

/-- A FULL party resends its last message or does nothing. -/
theorem At.receive_of_full {isMaster : Bool} {x : ℕ}
    (h : p.At own other isMaster x) (hfull : p.state = .full)
    (m : DdMessage) :
    ∃ p' out, p.receive m = some (p', out) ∧
      p'.At own other isMaster x ∧
      (out = none ∨
        isMaster = true ∧ out = some (ddMessage own isMaster x)) := by
  cases x with
  | zero =>
      rw [Waiting.state h] at hfull
      cases hfull
  | succ k => exact Exchanging.receive_of_full h hfull m

/-! ## Leader and follower -/

/-- The leader that receives the last answer it has had stays where it is; the
next answer takes it one round further, unless it is FULL. -/
theorem At.leader_receive {l x : ℕ} (h : p.At own other false l)
    (htypes : ∀ h ∈ other, ¬Neighbor.BadType h)
    (hx : x = l ∨ x = l + 1) :
    ∃ p' out, p.receive (ddMessage other true x) = some (p', out) ∧
      (p'.At own other false l ∧ out = none ∨
        x = l + 1 ∧ p'.At own other false (l + 1) ∧
          out = some (ddMessage own false (l + 1))) := by
  by_cases hfull : p.state = .full
  · obtain ⟨p', out, hreceive, hp', hout | ⟨hno, -⟩⟩ :=
      h.receive_of_full hfull (ddMessage other true x)
    · exact ⟨p', out, hreceive, Or.inl ⟨hp', hout⟩⟩
    · cases hno
  rcases hx with rfl | rfl
  · cases x with
    | zero =>
        obtain ⟨p', hreceive, hp'⟩ := Waiting.receive_opening h other
        exact ⟨p', none, hreceive, Or.inl ⟨hp', rfl⟩⟩
    | succ k =>
        have hk : p.Exchanging own other false k := h
        have hstate := hk.state_of_ne_full hfull
        obtain ⟨p', hreceive, hp'⟩ :=
          hk.receive_duplicate hstate (hk.lastReceived_eq hstate).symm
        exact ⟨p', none, hreceive, Or.inl ⟨hp', rfl⟩⟩
  · obtain ⟨p', hreceive, hp'⟩ := h.advance htypes hfull
    exact ⟨p', _, hreceive, Or.inr ⟨rfl, hp', rfl⟩⟩

/-- The follower that receives the last message it has answered stays where it
is and may answer again; the next message takes it one round further, unless
it is FULL. -/
theorem At.follower_receive {f x : ℕ} (h : p.At own other true f)
    (htypes : ∀ h ∈ other, ¬Neighbor.BadType h)
    (hx : x + 1 = f ∨ x = f) :
    ∃ p' out, p.receive (ddMessage other false x) = some (p', out) ∧
      (p'.At own other true f ∧
          (out = none ∨ out = some (ddMessage own true f)) ∨
        x = f ∧ p'.At own other true (f + 1) ∧
          out = some (ddMessage own true (f + 1))) := by
  by_cases hfull : p.state = .full
  · obtain ⟨p', out, hreceive, hp', hout⟩ :=
      h.receive_of_full hfull (ddMessage other false x)
    exact ⟨p', out, hreceive, Or.inl ⟨hp', hout.imp_right And.right⟩⟩
  rcases hx with rfl | rfl
  · have hk : p.Exchanging own other true x := h
    have hstate := hk.state_of_ne_full hfull
    obtain ⟨p', hreceive, hp'⟩ :=
      hk.receive_duplicate hstate (hk.lastReceived_eq hstate).symm
    exact ⟨p', _, hreceive, Or.inl ⟨hp', Or.inr rfl⟩⟩
  · obtain ⟨p', hreceive, hp'⟩ := h.advance htypes hfull
    exact ⟨p', _, hreceive, Or.inr ⟨rfl, hp', rfl⟩⟩

end Party

end OspfLite
