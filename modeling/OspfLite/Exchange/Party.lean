import OspfLite.Exchange.Message

/-!
# A party to the exchange

One side of a Database Description exchange with messages in place of packets:
what a router remembers about the exchange with one neighbor, and what it does
when a message arrives.  The reactions that would raise
`event_seq_number_mismatch` are left out.
-/

namespace OspfLite

/-- The part of a neighbor record that the exchange works on. -/
structure DdRecord where
  peerId : UInt32
  state : NeighborState
  isMaster : Bool
  ddSeqNum : UInt32
  lastReceived : DdFlags
  lastSent : Option DdMessage
  summary : List LSAHeader
deriving DecidableEq, Repr

namespace DdRecord

/-- The record after a message has been noticed. -/
def hear (d : DdRecord) (m : DdMessage) : DdRecord :=
  { d with lastReceived := m.toDdFlags }

/-- The headers of the message sent last. -/
def acknowledged (d : DdRecord) : ℕ :=
  match d.lastSent with
  | none => 0
  | some m => m.headers.length

/-- The next message to send. -/
def reply (d : DdRecord) : DdMessage where
  init := false
  more := decide (ddCapacity < d.summary.length)
  master := !d.isMaster
  seqNum := d.ddSeqNum
  headers := (d.summary.take ddCapacity).map LSAHeader.ageless

/-- Under a master the number of an accepted message is taken over. -/
def follow (d : DdRecord) (m : DdMessage) : DdRecord :=
  { d with ddSeqNum := if d.isMaster then m.seqNum else d.ddSeqNum }

/-- An accepted message acknowledges the headers sent last. -/
def dropAcknowledged (d : DdRecord) : DdRecord :=
  { d with summary := d.summary.drop d.acknowledged }

/-- The exchange is over when neither side has more to send. -/
def finish (d : DdRecord) (m : DdMessage) : DdRecord :=
  { d with
    state := if m.more = false ∧ d.summary = [] then .full else d.state }

/-- A master moves on to the next number. -/
def advance (d : DdRecord) : DdRecord :=
  { d with ddSeqNum := if d.isMaster then d.ddSeqNum else d.ddSeqNum + 1 }

/-- The record after an accepted message, before the reply. -/
def acknowledge (d : DdRecord) (m : DdMessage) : DdRecord :=
  ((d.follow m).dropAcknowledged.finish m).advance

/-- The record after the reply has been sent. -/
def answer (d : DdRecord) : DdRecord :=
  { d with lastSent := some d.reply }

end DdRecord

/-- A router in the exchange with one neighbor: its database, and what it has
taken from it and accepted so far. -/
structure Party extends DdRecord where
  routerId : UInt32
  headers : List LSAHeader
  snapshot : Option (List LSAHeader)
  accepted : List LSAHeader
deriving DecidableEq, Repr

namespace Party

/-- The message of the empty DD packet; its number is not converted. -/
def emptyMessage (p : Party) : DdMessage where
  init := true
  more := true
  master := true
  seqNum := ntohl p.ddSeqNum
  headers := []

/-- The party after a message has been noticed. -/
def heard (p : Party) (m : DdMessage) : Party :=
  { p with toDdRecord := p.toDdRecord.hear m }

/-- `event_negotiation_done`, with the roles settled. -/
def negotiate (p : Party) (isMaster : Bool) (seqNum : UInt32) : Party :=
  { p with
    isMaster := isMaster
    ddSeqNum := seqNum
    summary := p.headers
    snapshot := some p.headers
    state := .exchange }

/-- Take in a message that fits, and answer it. -/
def accept (p : Party) (m : DdMessage) : Party :=
  { p with
    toDdRecord := (p.toDdRecord.acknowledge m).answer
    accepted := p.accepted ++ m.headers }

/-- `accept`, if the message has no header of a bad type and acknowledges no
more than there is. -/
def accept? (p : Party) (m : DdMessage) :
    Option (Party × Option DdMessage) :=
  if (∀ h ∈ m.headers, ¬Neighbor.BadType h) ∧
      p.acknowledged ≤ p.summary.length then
    some (p.accept m, (p.accept m).lastSent)
  else
    none

/-- What is done with a message. -/
inductive Verdict where
  | ignore
  | resend
  | refuse
  | negotiate (isMaster : Bool) (seqNum : UInt32)
  | accept
deriving DecidableEq, Repr

/-- The chain of states. -/
def verdict (p : Party) (m : DdMessage) : Verdict :=
  match p.state with
  | .down | .attempt | .init | .twoWay => .ignore
  | .exStart =>
      if m.init = true ∧ m.more = true ∧ m.master = true ∧
          p.routerId < p.peerId then
        .negotiate true m.seqNum
      else if m.init = false ∧ m.master = false ∧ m.seqNum = p.ddSeqNum ∧
          p.peerId < p.routerId then
        .negotiate false p.ddSeqNum
      else
        .ignore
  | .exchange =>
      if m.toDdFlags = p.lastReceived then
        if p.isMaster then .resend else .ignore
      else if m.init = true then
        .refuse
      else if m.master = p.isMaster ∧
          m.seqNum = (if p.isMaster then p.ddSeqNum + 1 else p.ddSeqNum) then
        .accept
      else
        .refuse
  | .loading | .full =>
      if m.toDdFlags = p.lastReceived ∧ p.isMaster = true then .resend
      else .ignore

/-- The reaction to a message: the party afterwards, and what it sends.
Without a result the router would restart the exchange, negotiate a second
time, or accept a message before it has negotiated. -/
def receive (p : Party) (m : DdMessage) :
    Option (Party × Option DdMessage) :=
  match p.verdict m with
  | .ignore => some (p.heard m, none)
  | .resend => p.lastSent.map fun sent => (p.heard m, some sent)
  | .refuse => none
  | .negotiate isMaster seqNum =>
      if p.snapshot = none then
        ((p.heard m).negotiate isMaster seqNum).accept? m
      else
        none
  | .accept => if p.snapshot = none then none else (p.heard m).accept? m

theorem state_of_verdict_negotiate {p : Party} {m : DdMessage}
    {isMaster : Bool} {seqNum : UInt32}
    (h : p.verdict m = .negotiate isMaster seqNum) : p.state = .exStart := by
  cases hstate : p.state with
  | exStart => rfl
  | exchange | loading | full =>
      simp only [verdict, hstate] at h
      split_ifs at h
  | _ =>
      simp only [verdict, hstate] at h
      cases h

theorem state_of_verdict_accept {p : Party} {m : DdMessage}
    (h : p.verdict m = .accept) : p.state = .exchange := by
  cases hstate : p.state with
  | exchange => rfl
  | exStart | loading | full =>
      simp only [verdict, hstate] at h
      split_ifs at h
  | _ =>
      simp only [verdict, hstate] at h
      cases h

/-- When a message is accepted, and with which result. -/
theorem accept?_eq_some {p p' : Party} {m : DdMessage}
    {out : Option DdMessage} :
    p.accept? m = some (p', out) ↔
      ((∀ h ∈ m.headers, ¬Neighbor.BadType h) ∧
        p.acknowledged ≤ p.summary.length) ∧
      p.accept m = p' ∧ (p.accept m).lastSent = out := by
  rw [accept?]
  split_ifs with hfits
  · rw [Option.some.injEq, Prod.mk.injEq]
    exact (and_iff_right hfits).symm
  · exact iff_of_false nofun fun h => hfits h.1

end Party

end OspfLite
