import OspfLite.Lib.EraseKeys
import OspfLite.Router.Request

/-!
# Acknowledged retransmissions

An LSAck should take off the list the entries it acknowledges the instance of.
The handler compares type, id and advertising router only, and takes off one
entry for each header.
-/

namespace OspfLite

/-- What the handler of an LSAck compares. -/
def LSAHeader.ackKey (h : LSAHeader) : UInt8 × UInt32 × UInt32 :=
  (h.lsType, h.linkStateId, h.advertisingRouter)

/-- The same of a header in network order. -/
def LSAHeader.ackKeyNet (headerNet : LSAHeader) : UInt8 × UInt32 × UInt32 :=
  (headerNet.lsType, ntohl headerNet.linkStateId,
    ntohl headerNet.advertisingRouter)

theorem LSAHeader.sameLsa_iff_ackKey {a b : LSAHeader} :
    a.SameLsa b ↔ a.ackKey = b.ackKey := by
  rw [SameLsa, ackKey, ackKey, Prod.mk.injEq, Prod.mk.injEq]

/-- A header of an LSAck in host order, its age read as `age` says:
`LSAHeader::ntoh` converts it as 32 bits, where the field has 16. -/
def LSAHeader.readAck (age : LSAHeader → UInt16) (headerNet : LSAHeader) :
    LSAHeader :=
  { headerNet.ntoh with lsAge := age headerNet }

theorem LSAHeader.ackKey_readAck (age : LSAHeader → UInt16)
    (headerNet : LSAHeader) :
    (headerNet.readAck age).ackKey = headerNet.ackKeyNet := by
  rw [readAck, ntoh, ackKey, ackKeyNet]

/-- Some header of the LSAck is the same instance as the entry. -/
def Acknowledged (age : LSAHeader → UInt16) (headers : List LSAHeader)
    (entry : LSAHeader) : Prop :=
  ∃ h ∈ headers, entry.SameLsa (h.readAck age) ∧
    lsaHeaderCmp (h.readAck age) entry = 0

instance (age : LSAHeader → UInt16) (headers : List LSAHeader)
    (entry : LSAHeader) : Decidable (Acknowledged age headers entry) :=
  inferInstanceAs (Decidable (∃ h ∈ headers, _))

/-- The entries to go are, of those for the same LSA, the first ones, and as
many as the LSAck has headers for it. -/
def AcknowledgedFirst (age : LSAHeader → UInt16) (headers : List LSAHeader)
    (entries : List LSAHeader) : Prop :=
  ∀ pre entry post, entries = pre ++ entry :: post →
    (Acknowledged age headers entry ↔
      pre.countP (fun e => decide (e.SameLsa entry)) <
        headers.countP fun h => decide (entry.SameLsa (h.readAck age)))

namespace Router

variable {r : Router} {packet : Memory}

theorem ackStep_eq_eraseKey (entries : List LSAHeader)
    (headerNet : LSAHeader) :
    ackStep entries headerNet =
      eraseKey LSAHeader.ackKey entries headerNet.ackKeyNet := by
  rw [ackStep, eraseKey, LSAHeader.ackKeyNet]
  generalize ntohl headerNet.linkStateId = id
  generalize ntohl headerNet.advertisingRouter = advertisingRouter
  refine congrArg (List.eraseP · entries) (funext fun e => ?_)
  refine decide_eq_decide.mpr ?_
  rw [LSAHeader.ackKey, Prod.mk.injEq, Prod.mk.injEq]

theorem foldl_ackStep_eq (headers entries : List LSAHeader) :
    headers.foldl ackStep entries =
      (headers.map LSAHeader.ackKeyNet).foldl
        (eraseKey LSAHeader.ackKey) entries := by
  rw [List.foldl_map]
  exact List.foldl_ext _ _ _ fun l h _ => ackStep_eq_eraseKey l h

/-- The loop takes off the acknowledged entries exactly when they are the first
of their kind. -/
theorem foldl_ackStep_eq_filter_iff (age : LSAHeader → UInt16)
    (headers entries : List LSAHeader) :
    headers.foldl ackStep entries =
        entries.filter (fun e => !decide (Acknowledged age headers e)) ↔
      AcknowledgedFirst age headers entries := by
  rw [foldl_ackStep_eq, foldl_eraseKey_eq_filter_iff]
  refine forall₄_congr fun pre entry post _ => ?_
  rw [decide_eq_true_eq, List.countP_map]
  simp only [LSAHeader.sameLsa_iff_ackKey, LSAHeader.ackKey_readAck,
    Function.comp_def, eq_comm]

/-- After the handler, the retransmission list of the sender is the one before
it without the entries whose instance is acknowledged. -/
def AckRemovesExactly (age : LSAHeader → UInt16) (r : Router)
    (packet : Memory) (n : Neighbor) (headers : List LSAHeader) : Prop :=
  ∃ r' n', r.recvLsAck packet = .ok r' ∧
    r'.findNeighbor (ntohl (packet.load32 12)) = some n' ∧
    n'.linkStateRetransmissionList =
      n.linkStateRetransmissionList.filter fun e =>
        !decide (Acknowledged age headers e)

/-- What the handler leaves on the list of the sender. -/
theorem exists_recvLsAck {n : Neighbor} {headers : List LSAHeader}
    (hfind : r.findNeighbor (ntohl (packet.load32 12)) = some n)
    (hstate : .exchange ≤ n.state)
    (hheaders : bodyEntries LSAHeader.size LSAHeader.load packet =
      some headers) :
    ∃ r' n', r.recvLsAck packet = .ok r' ∧
      r'.findNeighbor (ntohl (packet.load32 12)) = some n' ∧
      n'.linkStateRetransmissionList =
        headers.foldl ackStep n.linkStateRetransmissionList := by
  generalize hip : ntohl (packet.load32 12) = ip at hfind
  let f : Neighbor → Neighbor := fun n =>
    { n with
      linkStateRetransmissionList :=
        headers.foldl ackStep n.linkStateRetransmissionList }
  have hfound : (r.modifyNeighbor ip f).findNeighbor ip = some (f n) :=
    (Interface.findNeighbor_modifyNeighbor (f := f) fun m hm => hm).trans
      (congrArg (Option.map f) hfind)
  refine ⟨r.modifyNeighbor ip f, f n, ?_, hfound, rfl⟩
  rw [recvLsAck]
  simp only [hip, hfind, hheaders]
  exact if_neg (not_lt.mpr hstate)

/-- An LSAck removes exactly the acknowledged instances when they are the first
entries for their LSA, one for each header. -/
theorem ackRemovesExactly_iff (age : LSAHeader → UInt16) {n : Neighbor}
    {headers : List LSAHeader}
    (hfind : r.findNeighbor (ntohl (packet.load32 12)) = some n)
    (hstate : .exchange ≤ n.state)
    (hheaders : bodyEntries LSAHeader.size LSAHeader.load packet =
      some headers) :
    AckRemovesExactly age r packet n headers ↔
      AcknowledgedFirst age headers n.linkStateRetransmissionList := by
  obtain ⟨r', n', hrecv, hfound, hleft⟩ :=
    exists_recvLsAck hfind hstate hheaders
  rw [← foldl_ackStep_eq_filter_iff, ← hleft]
  constructor
  · rintro ⟨r'', n'', hrecv', hfound', hlist⟩
    rw [hrecv, Except.ok.injEq] at hrecv'
    rw [← hrecv', hfound, Option.some.injEq] at hfound'
    rw [hfound', hlist]
  · intro hlist
    exact ⟨r', n', hrecv, hfound, hlist⟩

/-- An instance of the Router LSA of 1.1.1.1. -/
def pendingHeader (lsSeqNum : UInt32) : LSAHeader :=
  ⟨0, 2, lsaRouter, 0x01010101, 0x01010101, lsSeqNum, 0x1234, 36⟩

/-- The neighbor to which the second instance has been flooded. -/
def awaitingNeighbor : Neighbor :=
  { Neighbor.new ⟨0, 0, 0, false, false, false⟩ 0x0a000002 with
    state := .full
    id := 0x02020202
    linkStateRetransmissionList := [pendingHeader 0x80000002] }

def awaitingRouter : Router :=
  new 0x01010101 initialSequenceNumber 0 ⟨0, 0, 0, false, false, false⟩ []
    { Interface.new 0x0a000001 0xffffff00 with
      neighbors := [awaitingNeighbor] } []

/-- The LSAck in which the neighbor acknowledges an instance. -/
def lsackOf (lsSeqNum : UInt32) : Memory :=
  ipDatagram 0x0a000002 0x0a000001
    ({ awaitingRouter with routerId := 0x02020202 }.ospfPacket 0 typeLsAck
      (pendingHeader lsSeqNum).hton.store)

/-- The acknowledgment of the pending instance. -/
theorem ackRemovesExactly_iff_pending :
    AckRemovesExactly (fun h => ntohs h.lsAge) awaitingRouter
        (lsackOf 0x80000002) awaitingNeighbor
        [(pendingHeader 0x80000002).hton] ↔
      AcknowledgedFirst (fun h => ntohs h.lsAge)
        [(pendingHeader 0x80000002).hton] [pendingHeader 0x80000002] :=
  ackRemovesExactly_iff _ (by decide +kernel) (by decide) (by decide +kernel)

/-- The late acknowledgment of the first instance takes the second off the
list. -/
theorem older_ack_removes_newer :
    ∃ (r : Router) (packet : Memory) (n : Neighbor)
      (headers : List LSAHeader),
      r.findNeighbor (ntohl (packet.load32 12)) = some n ∧
      .exchange ≤ n.state ∧
      bodyEntries LSAHeader.size LSAHeader.load packet = some headers ∧
      ∀ age, ¬AckRemovesExactly age r packet n headers := by
  have hfind : awaitingRouter.findNeighbor
      (ntohl ((lsackOf 0x80000001).load32 12)) = some awaitingNeighbor := by
    decide +kernel
  have hheaders : bodyEntries LSAHeader.size LSAHeader.load
      (lsackOf 0x80000001) = some [(pendingHeader 0x80000001).hton] := by
    decide +kernel
  refine ⟨awaitingRouter, lsackOf 0x80000001, awaitingNeighbor, _, hfind,
    by decide, hheaders, ?_⟩
  rintro age ⟨r', n', hrecv, hfound, hlist⟩
  obtain ⟨r'', n'', hrecv', hfound', hleft⟩ :=
    exists_recvLsAck hfind (by decide) hheaders
  rw [hrecv, Except.ok.injEq] at hrecv'
  rw [← hrecv', hfound, Option.some.injEq] at hfound'
  have hnone : [(pendingHeader 0x80000001).hton].foldl ackStep
      awaitingNeighbor.linkStateRetransmissionList = [] := by
    decide +kernel
  rw [← hfound', hlist, hnone, List.filter_eq_nil_iff] at hleft
  -- the other instance is not acknowledged, whatever its age
  have hacked := hleft (pendingHeader 0x80000002) List.mem_cons_self
  simp only [Bool.not_eq_true', decide_eq_false_iff_not, not_not] at hacked
  obtain ⟨h, hh, -, hcmp⟩ := hacked
  rw [List.mem_singleton] at hh
  have hread : ((pendingHeader 0x80000001).hton.ntoh).lsSeqNum =
      0x80000001 := by
    decide +kernel
  have hseq : (h.readAck age).lsSeqNum = 0x80000001 := by
    rw [hh]
    exact hread
  have hne : (0x80000001 : UInt32) ≠
      (pendingHeader 0x80000002).lsSeqNum := by
    decide
  rw [lsaHeaderCmp, hseq, if_pos hne] at hcmp
  exact absurd hcmp (by decide)

end Router
end OspfLite
