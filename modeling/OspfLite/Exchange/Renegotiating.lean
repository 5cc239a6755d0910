import OspfLite.Router.Repeating
import OspfLite.Exchange.Message

/-!
# Negotiating an exchange again

The empty packet of the side with the higher id carries `dd_seq_num` in host
order; the other side decodes it, and sends it back in network order.
-/

namespace OspfLite
namespace Neighbor

/-- What the peer decodes of an empty packet. -/
def emptyMessage (n : Neighbor) : DdMessage where
  init := true
  more := true
  master := true
  seqNum := ntohl n.ddSeqNum
  headers := []

theorem emptyDd_encodes (mtu : UInt16) (n : Neighbor) :
    n.emptyMessage.Encodes (n.emptyDd mtu) := by
  refine ⟨⟨htons mtu, 0x02, true, true, true, 0, n.ddSeqNum⟩, [], ?_,
    Nat.zero_le _, ?_⟩
  · rw [emptyDd, List.flatMap_nil, List.append_nil]
  · rw [emptyMessage]
    exact ⟨rfl, rfl, rfl, by simp only, rfl⟩

/-- What the peer decodes of a reply. -/
def replyMessage (n : Neighbor) : DdMessage where
  init := false
  more := decide (ddCapacity < n.databaseSummaryList.length)
  master := !n.isMaster
  seqNum := n.ddSeqNum
  headers := (n.databaseSummaryList.take ddCapacity).map LSAHeader.ageless

theorem ddReply_encodes (mtu : UInt16) (options ddOther : UInt8)
    (n : Neighbor) :
    n.replyMessage.Encodes (n.ddReply mtu options ddOther) := by
  refine ⟨_, (n.databaseSummaryList.take ddCapacity).map LSAHeader.hton,
    by rw [ddReply, List.flatMap_map], ?_, rfl, rfl, rfl, ?_, ?_⟩
  · rw [List.length_map]
    exact List.length_take_le _ _
  · exact ntohl_htonl n.ddSeqNum
  · rw [List.map_map]
    exact List.map_congr_left fun h _ => h.ddDecode_hton

variable {n m : Neighbor} {dd : OSPFDD} {inter : Interface}

/-- In EXSTART the packet is recorded, and nothing else. -/
theorem beginDd_of_exStart (hstate : m.state = .exStart) (inter : Interface)
    (dd : OSPFDD) : m.beginDd inter dd = m.recordDd dd := by
  have hnot : (m.recordDd dd).state ≠ .init := by
    rw [recordDd_state, hstate]
    decide
  rw [beginDd, if_neg hnot]

/-- The empty packet of a neighbor with the higher id makes it the master. -/
theorem ddVerdict_opening (hstate : n.state = .exStart)
    (hI : dd.bI = true) (hM : dd.bM = true) (hMs : dd.bMs = true)
    {routerId : UInt32} (hid : routerId < n.id) (lsdb : LSDB) (dup : Bool) :
    n.ddVerdict routerId lsdb dup dd =
      .accept { n with
        isMaster := true
        ddSeqNum := ntohl dd.ddSeqNum
        databaseSummaryList := lsdb.headers
        state := .exchange } := by
  simp only [ddVerdict, hstate, eventNegotiationDone, if_true]
  rw [if_pos ⟨hI, hM, hMs, hid⟩]

/-- A reply of a neighbor with the lower id is taken up if its number is the
one that was sent. -/
theorem ddVerdict_echo (hstate : n.state = .exStart)
    (hI : dd.bI = false) (hMs : dd.bMs = false)
    {routerId : UInt32} (hid : n.id < routerId) (lsdb : LSDB) (dup : Bool) :
    (∃ n', n.ddVerdict routerId lsdb dup dd = .accept n') ↔
      ntohl dd.ddSeqNum = n.ddSeqNum := by
  generalize hseq : ntohl dd.ddSeqNum = seqNum
  by_cases hnum : seqNum = n.ddSeqNum
  · simp [ddVerdict, hstate, hI, hMs, hseq, hnum, hid]
  · simp [ddVerdict, hstate, hI, hseq, hnum]

/-- A packet without headers that has the number of the record changes
nothing. -/
theorem takeIn_nil (hmaster : n.isMaster = true)
    (hnum : n.ddSeqNum = ntohl dd.ddSeqNum) (lsdb : LSDB) :
    n.takeIn lsdb dd [] = n := by
  have hfollow : n.follow dd = n := by
    rw [follow, if_pos hmaster, ← hnum]
  have htypes : n.afterTypes [] = n := by
    rw [afterTypes, if_neg]
    rintro ⟨h, hmem, -⟩
    cases hmem
  simp only [takeIn, hfollow, htypes, List.foldl_nil]

theorem numberReply_of_isMaster (hmaster : n.isMaster = true) :
    n.numberReply = n := by
  rw [numberReply, if_pos hmaster]

end Neighbor

namespace Router

variable {r : Router} {ip : UInt32} {dd : OSPFDD} {m n : Neighbor}

/-- The record with which the empty packet of a neighbor in EXSTART with the
higher id is accepted. -/
theorem acceptedDd_opening (hm : r.findNeighbor ip = some m)
    (hstate : m.state = .exStart) (hI : dd.bI = true) (hM : dd.bM = true)
    (hMs : dd.bMs = true) (hid : r.routerId < m.id) :
    ∃ n, r.acceptedDd ip dd = some n ∧ n.isMaster = true ∧
      n.ddSeqNum = ntohl dd.ddSeqNum ∧
      n.databaseSummaryList = r.lsdb.headers ∧
      n.lastSendDdDataLen = m.lastSendDdDataLen := by
  obtain ⟨seqNum, hrecord⟩ := m.recordDd_eq dd
  have hstart : (m.recordDd dd).state = .exStart := by
    rw [Neighbor.recordDd_state, hstate]
  have hhigher : r.routerId < (m.recordDd dd).id := by
    rw [hrecord]
    exact hid
  have hlen : (m.recordDd dd).lastSendDdDataLen = m.lastSendDdDataLen := by
    rw [hrecord]
  rw [acceptedDd, hm, Option.bind_some,
    Neighbor.beginDd_of_exStart hstate]
  simp only [Neighbor.ddVerdict_opening hstart hI hM hMs hhigher]
  exact ⟨_, rfl, rfl, rfl, rfl, hlen⟩

/-- The number decides over the reply of a neighbor in EXSTART with the lower
id. -/
theorem acceptedDd_echo (hm : r.findNeighbor ip = some m)
    (hstate : m.state = .exStart) (hI : dd.bI = false)
    (hMs : dd.bMs = false) (hid : m.id < r.routerId) :
    r.acceptedDd ip dd ≠ none ↔ ntohl dd.ddSeqNum = m.ddSeqNum := by
  obtain ⟨seqNum, hrecord⟩ := m.recordDd_eq dd
  have hstart : (m.recordDd dd).state = .exStart := by
    rw [Neighbor.recordDd_state, hstate]
  have hlower : (m.recordDd dd).id < r.routerId := by
    rw [hrecord]
    exact hid
  have hecho := Neighbor.ddVerdict_echo hstart hI hMs hlower r.lsdb
    (decide (m.IsDuplicate dd))
  rw [Neighbor.recordDd_ddSeqNum] at hecho
  rw [← hecho, acceptedDd, hm, Option.bind_some,
    Neighbor.beginDd_of_exStart hstate]
  generalize (m.recordDd dd).ddVerdict r.routerId r.lsdb
    (decide (m.IsDuplicate dd)) dd = verdict
  cases verdict <;> simp

/-- While the sender has more to describe, an accepted packet is answered and
has no other effect. -/
theorem handleDd_of_more {popped : Neighbor} {headers : List LSAHeader}
    (h : r.acceptedDd ip dd = some n) (hM : dd.bM = true)
    (hpopped : (n.takeIn r.lsdb dd headers).popAcknowledged = .ok popped) :
    r.handleDd ip dd (some headers) =
      .ok (r.putNeighbor ip
        (popped.reply r.interface.mtu r.ospfOptions r.uninit.ddOther)
        (r.acceptanceLog ip headers n ++
          [.sent ip (r.replyPacket popped)])) := by
  obtain ⟨m, hm, hfrom⟩ := acceptedDd_spec h
  have hip := popped_ip hm hfrom hpopped
  have hmore : ¬(dd.bM = false ∧ popped.databaseSummaryList = [] ∧
      popped.state = .exchange) := by
    rw [hM]
    exact fun hdone => Bool.noConfusion hdone.1
  rw [handleDd_of_accepted h, hpopped, Outcome.map_ok,
    concludeDd_putNeighbor hm hip, if_neg hmore,
    replyDd_eq (findNeighbor_putNeighbor hm hip _),
    putNeighbor_putNeighbor hip]
  rfl

/-! ## The negotiation -/

/-- The empty packet that the process `a` sends to its neighbor at `ipB` is
answered by the process `b` at that address, for which `a` is the neighbor at
`ipA`, with a packet that `a` accepts. -/
def Renegotiates (a b : Router) (ipA ipB : UInt32) : Prop :=
  ∃ sent b' entries reply,
    a.sendEmptyDd ipB = a.addLog (.sent ipB sent) ∧
      b.recvDd (ipDatagram ipA ipB sent) = .ok b' ∧
      b'.log = b.log ++ entries ++ [.sent ipA reply] ∧
      a.acceptedDd ipB (OSPFDD.load
        ((ipDatagram ipB ipA reply).advance bodyOffset)) ≠ none

variable {a b : Router} {ipA ipB : UInt32} {na nb : Neighbor}

/-- The empty packet is sent while the neighbor is in EXSTART. -/
theorem sendEmptyDd_eq (hna : a.findNeighbor ipB = some na)
    (hstate : na.state = .exStart) (hstop : na.emptyDdSenderStop = false) :
    a.sendEmptyDd ipB = a.addLog (.sent ipB
      (a.ospfPacket a.interface.auType typeDd
        (na.emptyDd a.interface.mtu))) := by
  simp only [sendEmptyDd, hna, hstate, hstop, and_self, if_true]
  rw [sendOspfPacket, sendOspfPacketFrom, findNeighbor_ip hna]

/-- The empty packet of the master is answered with the number it carries,
unless more headers are dropped for it than the new summary list has. -/
theorem recvDd_empty (hnb : b.findNeighbor ipA = some nb)
    (hstate : nb.state = .exStart) (hid : b.routerId < nb.id) (a : Router)
    (na : Neighbor) (ipB : UInt32) (mtu : UInt16) :
    ∃ n entries, n.isMaster = true ∧ n.ddSeqNum = ntohl na.ddSeqNum ∧
      b.recvDd (ipDatagram ipA ipB (a.ospfPacket a.interface.auType typeDd
          (na.emptyDd mtu))) =
        if nb.acknowledgedCount ≤ b.lsdb.headers.length then
          .ok (b.putNeighbor ipA
            (n.reply b.interface.mtu b.ospfOptions b.uninit.ddOther)
            (entries ++ [.sent ipA (b.replyPacket n)]))
        else .error .popFront := by
  obtain ⟨dd, raw, hdecodes, hload⟩ :=
    (na.emptyDd_encodes mtu).saidBy a a.interface.auType
  obtain ⟨hdd, hheaders⟩ := hload ipA ipB
  have hraw : raw = [] := List.map_eq_nil_iff.mp hdecodes.headers
  obtain ⟨n, haccepted, hmaster, hnum, hsummary, hlen⟩ :=
    acceptedDd_opening hnb hstate hdecodes.init hdecodes.more hdecodes.master
      hid
  have hcount : n.acknowledgedCount = nb.acknowledgedCount := by
    rw [Neighbor.acknowledgedCount, Neighbor.acknowledgedCount, hlen]
  have htaken := Neighbor.takeIn_nil hmaster hnum b.lsdb
  refine ⟨{ n with
      databaseSummaryList :=
        n.databaseSummaryList.drop n.acknowledgedCount },
    b.acceptanceLog ipA [] n, hmaster, hnum.trans hdecodes.seqNum, ?_⟩
  rw [recvDd, hdd, hheaders, hraw, ipDatagram_src, ntohl_htonl, ← hsummary,
    ← hcount]
  by_cases hfits : n.acknowledgedCount ≤ n.databaseSummaryList.length
  · rw [if_pos hfits, handleDd_of_more haccepted hdecodes.more]
    rw [htaken, Neighbor.popAcknowledged, if_pos hfits]
  · rw [if_neg hfits, handleDd_of_accepted haccepted, htaken,
      Neighbor.popAcknowledged, if_neg hfits]
    rfl

/-- The reply of a slave is taken up if and only if it has the number of the
record. -/
theorem acceptedDd_reply (hna : a.findNeighbor ipB = some na)
    (hstate : na.state = .exStart) (hid : na.id < a.routerId) {n : Neighbor}
    (hmaster : n.isMaster = true) (b : Router) (ipA : UInt32) :
    a.acceptedDd ipB (OSPFDD.load
        ((ipDatagram ipB ipA (b.replyPacket n)).advance bodyOffset)) ≠ none ↔
      n.ddSeqNum = na.ddSeqNum := by
  obtain ⟨dd, raw, hdecodes, hload⟩ :=
    (n.ddReply_encodes b.interface.mtu b.ospfOptions b.uninit.ddOther).saidBy
      b b.interface.auType
  have hMs : dd.bMs = false := by
    rw [hdecodes.master, Neighbor.replyMessage, hmaster]
    rfl
  rw [replyPacket, Neighbor.numberReply_of_isMaster hmaster,
    (hload ipB ipA).1, acceptedDd_echo hna hstate hdecodes.init hMs hid,
    hdecodes.seqNum]
  rfl

/-- A negotiation that succeeds has echoed the number. -/
theorem Renegotiates.echoed (h : a.Renegotiates b ipA ipB)
    (hna : a.findNeighbor ipB = some na) (hstartA : na.state = .exStart)
    (hstop : na.emptyDdSenderStop = false) (hhigher : na.id < a.routerId)
    (hnb : b.findNeighbor ipA = some nb) (hstartB : nb.state = .exStart)
    (hlower : b.routerId < nb.id) :
    ntohl na.ddSeqNum = na.ddSeqNum ∧
      nb.acknowledgedCount ≤ b.lsdb.headers.length := by
  obtain ⟨sent, b', entries', reply, hsent, hb', hlog, haccepted⟩ := h
  obtain ⟨n, entries, hmaster, hnum, hrecv⟩ := recvDd_empty hnb hstartB
    hlower a na ipB a.interface.mtu
  have hpacket : sent = a.ospfPacket a.interface.auType typeDd
      (na.emptyDd a.interface.mtu) := by
    have hlogs := congrArg log
      (hsent.symm.trans (sendEmptyDd_eq hna hstartA hstop))
    simpa [addLog] using hlogs
  rw [hpacket, hrecv] at hb'
  by_cases hfits : nb.acknowledgedCount ≤ b.lsdb.headers.length
  · rw [if_pos hfits, Except.ok.injEq] at hb'
    rw [← hb', putNeighbor, ← List.append_assoc] at hlog
    have hlast := List.append_inj_right' hlog rfl
    simp only [List.cons.injEq, LogEntry.sent.injEq, true_and,
      and_true] at hlast
    rw [← hlast, acceptedDd_reply hna hstartA hhigher hmaster, hnum]
      at haccepted
    exact ⟨haccepted, hfits⟩
  · rw [if_neg hfits] at hb'
    cases hb'

/-- An exchange is negotiated again if and only if the number of the master
reads the same in both byte orders, and the slave does not drop more headers
from its new summary list than the list has. -/
theorem renegotiates_iff (hna : a.findNeighbor ipB = some na)
    (hstartA : na.state = .exStart) (hstop : na.emptyDdSenderStop = false)
    (hhigher : na.id < a.routerId) (hnb : b.findNeighbor ipA = some nb)
    (hstartB : nb.state = .exStart) (hlower : b.routerId < nb.id) :
    a.Renegotiates b ipA ipB ↔
      ntohl na.ddSeqNum = na.ddSeqNum ∧
        nb.acknowledgedCount ≤ b.lsdb.headers.length := by
  constructor
  · intro h
    exact h.echoed hna hstartA hstop hhigher hnb hstartB hlower
  · rintro ⟨hsame, hfits⟩
    obtain ⟨n, entries, hmaster, hnum, hrecv⟩ := recvDd_empty hnb hstartB
      hlower a na ipB a.interface.mtu
    have haccepted := (acceptedDd_reply hna hstartA hhigher hmaster b
      ipA).mpr (hnum.trans hsame)
    rw [if_pos hfits] at hrecv
    refine ⟨_, _, entries, _, sendEmptyDd_eq hna hstartA hstop, hrecv, ?_,
      haccepted⟩
    rw [putNeighbor, List.append_assoc]

/-- A packet from the router 1.1.1.1 to the peer. -/
def toPeer (type : UInt8) (data : List UInt8) : Memory :=
  ipDatagram 0x0a000001 0x0a000002
    ((boot 0x01010101 0 ⟨0, 0, 0, false, false, false⟩ [] 0x0a000001
      0xffffff00).ospfPacket 0 type data)

/-- A Hello that accepts the peer as DR and lists it. -/
def helloToPeer : List UInt8 :=
  store32 (htonl 0xffffff00) ++ store16 (htons 10) ++ [2, 1] ++
    store32 (htonl 40) ++ store32 (htonl 0x0a000002) ++ store32 0 ++
    store32 (htonl 0x02020202)

/-- The peer comes up and hears the router 1.1.1.1. -/
def peerNegotiation : List Step :=
  [.waitingTimeout, .timers 0, .frame 0 (toPeer typeHello helloToPeer)]

/-- The first negotiation of two routers, with the number 0. -/
theorem renegotiates_iff_firstRun :
    ∃ a b,
      runFrom step (boot 0x02020202 0 ⟨0, 0, 0, false, false, false⟩ []
        0x0a000002 0xffffff00) peerNegotiation = .ok a ∧
      runFrom step (boot 0x01010101 0 ⟨0, 0, 0, false, false, false⟩ []
        0x0a000001 0xffffff00)
        [.frame 0 (fromPeer typeHello peerHello)] = .ok b ∧
      ∃ na ∈ a.findNeighbor 0x0a000001, ∃ nb ∈ b.findNeighbor 0x0a000002,
        (a.Renegotiates b 0x0a000002 0x0a000001 ↔
          ntohl na.ddSeqNum = na.ddSeqNum ∧
            nb.acknowledgedCount ≤ b.lsdb.headers.length) := by
  have ha : ∃ a, runFrom step (boot 0x02020202 0
      ⟨0, 0, 0, false, false, false⟩ [] 0x0a000002 0xffffff00)
      peerNegotiation = .ok a ∧
      ∃ na ∈ a.findNeighbor 0x0a000001, na.state = .exStart ∧
        na.emptyDdSenderStop = false ∧ na.id < a.routerId :=
    Outcome.exists_of_completesWith (by decide +kernel)
  have hb : ∃ b, runFrom step (boot 0x01010101 0
      ⟨0, 0, 0, false, false, false⟩ [] 0x0a000001 0xffffff00)
      [.frame 0 (fromPeer typeHello peerHello)] = .ok b ∧
      ∃ nb ∈ b.findNeighbor 0x0a000002, nb.state = .exStart ∧
        b.routerId < nb.id :=
    Outcome.exists_of_completesWith (by decide +kernel)
  obtain ⟨a, hruna, na, hna, hstartA, hstop, hhigher⟩ := ha
  obtain ⟨b, hrunb, nb, hnb, hstartB, hlower⟩ := hb
  exact ⟨a, b, hruna, hrunb, na, hna, nb, hnb,
    renegotiates_iff hna hstartA hstop hhigher hnb hstartB hlower⟩

/-- A packet of the slave with the number 0, and more to follow. -/
def slaveToPeer : List UInt8 := [5, 220, 2, 2, 0, 0, 0, 0]

/-- The peer has sent its first numbered packet when a packet restarts the
exchange: now it holds the number 1, and its empty packet is answered with
another. -/
theorem restart_not_negotiated :
    ∃ a b,
      runFrom step (boot 0x02020202 0 ⟨0, 0, 0, false, false, false⟩ []
        0x0a000002 0xffffff00)
        (peerNegotiation ++ [.frame 0 (toPeer typeDd slaveToPeer),
          .frame 0 (toPeer typeDd (peerOpeningDd 1))]) = .ok a ∧
      runFrom step (boot 0x01010101 0 ⟨0, 0, 0, false, false, false⟩ []
        0x0a000001 0xffffff00)
        [.frame 0 (fromPeer typeHello peerHello)] = .ok b ∧
      (∃ na ∈ a.findNeighbor 0x0a000001, na.state = .exStart ∧
        na.emptyDdSenderStop = false ∧ na.id < a.routerId) ∧
      (∃ nb ∈ b.findNeighbor 0x0a000002, nb.state = .exStart ∧
        b.routerId < nb.id) ∧
      ¬a.Renegotiates b 0x0a000002 0x0a000001 := by
  have ha : ∃ a, runFrom step (boot 0x02020202 0
      ⟨0, 0, 0, false, false, false⟩ [] 0x0a000002 0xffffff00)
      (peerNegotiation ++ [.frame 0 (toPeer typeDd slaveToPeer),
        .frame 0 (toPeer typeDd (peerOpeningDd 1))]) = .ok a ∧
      ∃ na ∈ a.findNeighbor 0x0a000001, (na.state = .exStart ∧
        na.emptyDdSenderStop = false ∧ na.id < a.routerId) ∧
        ntohl na.ddSeqNum ≠ na.ddSeqNum :=
    Outcome.exists_of_completesWith (by decide +kernel)
  have hb : ∃ b, runFrom step (boot 0x01010101 0
      ⟨0, 0, 0, false, false, false⟩ [] 0x0a000001 0xffffff00)
      [.frame 0 (fromPeer typeHello peerHello)] = .ok b ∧
      ∃ nb ∈ b.findNeighbor 0x0a000002, nb.state = .exStart ∧
        b.routerId < nb.id :=
    Outcome.exists_of_completesWith (by decide +kernel)
  obtain ⟨a, hruna, na, hna, hopening, hchanged⟩ := ha
  obtain ⟨b, hrunb, nb, hnb, hstartB, hlower⟩ := hb
  refine ⟨a, b, hruna, hrunb, ⟨na, hna, hopening⟩,
    ⟨nb, hnb, hstartB, hlower⟩, fun h => ?_⟩
  obtain ⟨hstartA, hstop, hhigher⟩ := hopening
  exact hchanged
    (h.echoed hna hstartA hstop hhigher hnb hstartB hlower).1

end Router
end OspfLite
