import OspfLite.Router.Originate

/-!
# Database Description packets

The DD branch of `recv_ospf_packet_thread` and the sender of empty DD packets.
-/

namespace OspfLite

/-- `OSPFDD`, as the raw fields lie in the packet. -/
structure OSPFDD where
  interfaceMtu : UInt16
  options : UInt8
  bMs : Bool
  bM : Bool
  bI : Bool
  bOther : UInt8
  ddSeqNum : UInt32
deriving DecidableEq, Repr

namespace OSPFDD

/-- `sizeof(OSPFDD)`. -/
def size : ℕ := 8

def load (p : Memory) : OSPFDD where
  interfaceMtu := p.load16 0
  options := p 2
  bMs := decide ((p 3).toNat % 2 = 1)
  bM := decide ((p 3).toNat / 2 % 2 = 1)
  bI := decide ((p 3).toNat / 4 % 2 = 1)
  bOther := UInt8.ofNat ((p 3).toNat / 8)
  ddSeqNum := p.load32 4

def store (dd : OSPFDD) : List UInt8 :=
  store16 dd.interfaceMtu ++
    [dd.options, UInt8.ofNat (dd.bMs.toNat + 2 * dd.bM.toNat +
      4 * dd.bI.toNat + 8 * (dd.bOther.toNat % 32))] ++
    store32 dd.ddSeqNum

end OSPFDD

/-- The size of the buffer a DD packet is assembled in. -/
def ddBufferSize : ℕ := 1024

/-- The number of headers that fit into one DD packet. -/
def ddCapacity : ℕ := (ddBufferSize - OSPFDD.size) / LSAHeader.size

/-- The field by field decoding of a header in the DD branch. -/
def LSAHeader.ddDecode (h : LSAHeader) : LSAHeader where
  lsAge := ntohs h.lsAge
  options := h.options
  lsType := h.lsType
  linkStateId := ntohl h.linkStateId
  advertisingRouter := ntohl h.advertisingRouter
  lsSeqNum := ntohl h.lsSeqNum
  lsChecksum := ntohs h.lsChecksum
  length := ntohs h.length

/-- The header pointers of the DD branch, loaded.  Without a result the loops
never meet their end. -/
def ddHeaders (packet : Memory) : Option (List LSAHeader) :=
  let start := bodyOffset + OSPFDD.size
  let stop := ipHeaderSize + (ntohs (packet.load16 22)).toNat
  (pointerSteps start stop LSAHeader.size).map fun n =>
    (List.range n).map fun i =>
      LSAHeader.load (packet.advance (start + LSAHeader.size * i))

namespace Neighbor

/-- `is_dumplicated`: the packet repeats the flags and the number of the last
one received. -/
def IsDuplicate (n : Neighbor) (dd : OSPFDD) : Prop :=
  ntohl dd.ddSeqNum = n.lastRecvDdSeqNum ∧ dd.bI = n.lastRecvDdI ∧
    dd.bM = n.lastRecvDdM ∧ dd.bMs = n.lastRecvDdMs

instance (n : Neighbor) (dd : OSPFDD) : Decidable (n.IsDuplicate dd) :=
  inferInstanceAs (Decidable (_ ∧ _ ∧ _ ∧ _))

/-- Record the flags and the number of a packet, and its options. -/
def recordDd (n : Neighbor) (dd : OSPFDD) : Neighbor :=
  { n with
    lastRecvDdSeqNum := ntohl dd.ddSeqNum
    lastRecvDdI := dd.bI
    lastRecvDdM := dd.bM
    lastRecvDdMs := dd.bMs
    options := dd.options }

/-- `OPTION_E | OPTION_NP`. -/
def comparedOptions : UInt8 := 0x0a

/-- What the chain of states under `DD_BEGIN` does with a packet. -/
inductive DdVerdict where
  | ignore
  | resend
  | mismatch
  | accept (n : Neighbor)

/-- The chain under `DD_BEGIN`, for a neighbor that is not in INIT. -/
def ddVerdict (routerId : UInt32) (lsdb : LSDB) (isDuplicate : Bool)
    (dd : OSPFDD) (n : Neighbor) : DdVerdict :=
  let seqNum := ntohl dd.ddSeqNum
  match n.state with
  | .down | .attempt | .init | .twoWay => .ignore
  | .exStart =>
      if dd.bI = true ∧ dd.bM = true ∧ dd.bMs = true ∧ routerId < n.id then
        .accept ({ n with isMaster := true
                          ddSeqNum := seqNum }.eventNegotiationDone lsdb)
      else if dd.bI = false ∧ dd.bMs = false ∧ seqNum = n.ddSeqNum ∧
          n.id < routerId then
        .accept ({ n with isMaster := false }.eventNegotiationDone lsdb)
      else
        .ignore
  | .exchange =>
      if isDuplicate then
        if n.isMaster then .resend else .ignore
      else if dd.options &&& comparedOptions ≠
          n.options &&& comparedOptions then
        .mismatch
      else if dd.bI = true then
        .mismatch
      else if n.isMaster then
        if dd.bMs = false ∨ seqNum ≠ n.ddSeqNum + 1 then .mismatch
        else .accept n
      else
        if dd.bMs = true ∨ seqNum ≠ n.ddSeqNum then .mismatch
        else .accept n
  | .loading | .full =>
      if isDuplicate ∧ n.isMaster then .resend else .ignore

/-- One round of the request loop. -/
def requestStep (lsdb : LSDB) (requests : List LSAHeader)
    (headerNet : LSAHeader) : List LSAHeader :=
  let header := headerNet.ddDecode
  if header.lsType = lsaRouter then
    match lsdb.findRouterLsa header.linkStateId
        header.advertisingRouter with
    | none => requests ++ [header]
    | some lsa =>
        if lsaHeaderCmp header lsa.header < 0 then requests ++ [header]
        else requests
  else if header.lsAge = 2 then
    -- the source compares the age with `LSA_NETWORK`, not the type
    match lsdb.findNetworkLsa header.linkStateId
        header.advertisingRouter with
    | none => requests ++ [header]
    | some lsa =>
        if lsaHeaderCmp header lsa.header < 0 then requests ++ [header]
        else requests
  else
    requests

/-- The headers whose type the first loop objects to. -/
def BadType (h : LSAHeader) : Prop := ¬(1 ≤ h.lsType ∧ h.lsType ≤ 5)

instance (h : LSAHeader) : Decidable (BadType h) :=
  inferInstanceAs (Decidable (¬(_ ∧ _)))

/-- `cnt`, the number of headers the previous packet carried. -/
def acknowledgedCount (n : Neighbor) : ℕ :=
  if n.lastSendDdDataLen = 0 then 0
  else (n.lastSendDdDataLen.toNat - OSPFDD.size) / LSAHeader.size

/-- Drop the headers of the previous packet from the summary list. -/
def popAcknowledged (n : Neighbor) : Outcome Neighbor :=
  if n.acknowledgedCount ≤ n.databaseSummaryList.length then
    .ok { n with
      databaseSummaryList :=
        n.databaseSummaryList.drop n.acknowledgedCount }
  else
    .error .popFront

/-- The record after the reply has been numbered: a master moves on to the
next number. -/
def numberReply (n : Neighbor) : Neighbor :=
  if n.isMaster then n else { n with ddSeqNum := n.ddSeqNum + 1 }

/-- The DD packet sent in reply. -/
def ddReply (mtu : UInt16) (options ddOther : UInt8) (n : Neighbor) :
    List UInt8 :=
  OSPFDD.store
    { interfaceMtu := htons mtu
      options := options
      bMs := !n.isMaster
      bM := decide (ddCapacity < n.databaseSummaryList.length)
      bI := false
      bOther := ddOther
      ddSeqNum := htonl n.ddSeqNum } ++
    (n.databaseSummaryList.take ddCapacity).flatMap fun header =>
      (LSAHeader.hton header).store

/-- Keep a copy of the packet just sent. -/
def recordReply (data : List UInt8) (n : Neighbor) : Neighbor :=
  { n with
    lastSendDdData := data
    lastSendDdDataLen := UInt32.ofNat data.length }

/-- The packet of `send_empty_dd_packet_thread`; the number is stored without
conversion. -/
def emptyDd (mtu : UInt16) (n : Neighbor) : List UInt8 :=
  OSPFDD.store
    { interfaceMtu := htons mtu
      options := 0x02
      bMs := true
      bM := true
      bI := true
      bOther := 0
      ddSeqNum := n.ddSeqNum }

end Neighbor

namespace Router

/-- Raise `event_seq_number_mismatch` for the neighbor at `ip`. -/
def eventSeqNumberMismatch (r : Router) (ip : UInt32) : Router :=
  (r.modifyNeighbor ip fun n => n.eventSeqNumberMismatch.1).addLog
    (.raised ip .seqNumberMismatch)

/-- The type loop: every header of a bad type raises the event, and the loop
goes on. -/
def checkTypes (ip : UInt32) (headers : List LSAHeader) (r : Router) :
    Router :=
  headers.foldl
    (fun r h => if Neighbor.BadType h then r.eventSeqNumberMismatch ip else r)
    r

/-- The end of the branch: number, build, send and keep the reply. -/
def replyDd (ip : UInt32) (r : Router) : Router :=
  let numbered := r.modifyNeighbor ip Neighbor.numberReply
  match numbered.findNeighbor ip with
  | none => numbered
  | some n =>
      let data := n.ddReply r.interface.mtu r.ospfOptions r.uninit.ddOther
      (numbered.sendOspfPacket n.ip typeDd data).modifyNeighbor ip
        (Neighbor.recordReply data)

/-- The part of the branch behind the chain of states, for a packet with a
matching number. -/
def acceptDd (ip : UInt32) (dd : OSPFDD) (headers : List LSAHeader)
    (r : Router) : Outcome Router :=
  let numbered := r.modifyNeighbor ip fun n =>
    if n.isMaster then { n with ddSeqNum := ntohl dd.ddSeqNum } else n
  let checked := numbered.checkTypes ip headers
  let requested := (checked.modifyNeighbor ip fun n =>
    { n with
      linkStateRequestList := headers.foldl
        (Neighbor.requestStep checked.lsdb) n.linkStateRequestList }).addLog
    (.accepted ip (headers.map LSAHeader.ddDecode))
  match requested.findNeighbor ip with
  | none => .ok requested
  | some n =>
      n.popAcknowledged.map fun popped =>
        let popped' := requested.modifyNeighbor ip fun _ => popped
        if dd.bM = false ∧ popped.databaseSummaryList = [] then
          (popped'.eventExchangeDone ip).replyDd ip
        else
          popped'.replyDd ip

/-- Send the last DD packet again. -/
def resendDd (r : Router) (n : Neighbor) : Router :=
  r.sendOspfPacket n.ip typeDd
    (n.lastSendDdData.take n.lastSendDdDataLen.toNat)

/-- What the branch does with a DD packet of the neighbor at `ip`. -/
def handleDd (ip : UInt32) (dd : OSPFDD) (headers : Option (List LSAHeader))
    (r : Router) : Outcome Router :=
  match r.findNeighbor ip with
  | none => .ok r
  | some n =>
      let noticed := n.recordDd dd
      -- from INIT the chain is entered a second time, in EXSTART or 2WAY
      let begun := if noticed.state = .init then
        noticed.event2wayReceived r.interface else noticed
      let r := r.modifyNeighbor ip fun _ => begun
      match begun.ddVerdict r.routerId r.lsdb (decide (n.IsDuplicate dd))
          dd with
      | .ignore => .ok r
      | .resend => .ok (r.resendDd begun)
      | .mismatch => .ok (r.eventSeqNumberMismatch ip)
      | .accept n' =>
          let negotiated := r.modifyNeighbor ip fun _ => n'
          let logged := if begun.state = .exStart then
            negotiated.addLog (.negotiated ip n'.databaseSummaryList)
            else negotiated
          match headers with
          | none => .error .endlessLoop
          | some headers => logged.acceptDd ip dd headers

/-- The DD branch of `recv_ospf_packet_thread`. -/
def recvDd (r : Router) (packet : Memory) : Outcome Router :=
  r.handleDd (ntohl (packet.load32 12))
    (OSPFDD.load (packet.advance bodyOffset)) (ddHeaders packet)

/-- One round of `send_empty_dd_packet_thread`. -/
def sendEmptyDd (ip : UInt32) (r : Router) : Router :=
  match r.findNeighbor ip with
  | none => r
  | some n =>
      if n.state = .exStart ∧ n.emptyDdSenderStop = false then
        r.sendOspfPacket n.ip typeDd (n.emptyDd r.interface.mtu)
      else
        r

end Router
end OspfLite
