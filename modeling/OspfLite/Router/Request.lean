import OspfLite.Router.Update
import OspfLite.Lib.Lists

/-!
# Link State Requests and acknowledgments

The LSR and LSAck branches of `recv_ospf_packet_thread`.
-/

namespace OspfLite

/-- `OSPFLsr`, one entry of a request, in host order. -/
structure OSPFLsr where
  lsType : UInt32
  linkStateId : UInt32
  advertisingRouter : UInt32
deriving DecidableEq, Repr

namespace OSPFLsr

/-- `sizeof(OSPFLsr)`. -/
def size : ℕ := 12

def load (p : Memory) : OSPFLsr where
  lsType := ntohl (p.load32 0)
  linkStateId := ntohl (p.load32 4)
  advertisingRouter := ntohl (p.load32 8)

end OSPFLsr

/-- The entries between the start of the body and the end of the packet. -/
def bodyEntries {α : Type} (size : ℕ) (load : Memory → α)
    (packet : Memory) : Option (List α) :=
  let stop := ipHeaderSize + (ntohs (packet.load16 22)).toNat
  (pointerSteps bodyOffset stop size).map fun n =>
    (List.range n).map fun i => load (packet.advance (bodyOffset + size * i))

/-- The entries between the start of the body and the end of the receive
buffer. -/
def bufferEntries {α : Type} (size : ℕ) (load : Memory → α)
    (packet : Memory) : List α :=
  (List.range ((frameSize - bodyOffset) / size)).map fun i =>
    load (packet.advance (bodyOffset + size * i))

/-- A Router LSA in the reply to a request: `LSAHeader::ntoh` stands where
`hton` is meant, and the checksum is taken over the bytes written. -/
def LSARouter.replyBytes (lsa : LSARouter) : List UInt8 :=
  let headerNet := LSAHeader.ntoh lsa.header
  let checksum := lsaChecksum
    (Memory.ofList (headerNet.store ++ lsa.encodeBody))
    (htons headerNet.length)
  { headerNet with lsChecksum := htons checksum }.store ++ lsa.encodeBody

/-- A Network LSA in the reply, with its checksum as it was received. -/
def LSANetwork.replyBytes (lsa : LSANetwork) : List UInt8 :=
  (LSAHeader.ntoh lsa.header).store ++ lsa.encodeBody

/-- What one request adds to the reply; without a result the LSA is not in
the database. -/
def LSDB.answer (lsdb : LSDB) (lsr : OSPFLsr) : Option (List UInt8) :=
  if lsr.lsType = 1 then
    (lsdb.findRouterLsa lsr.linkStateId lsr.advertisingRouter).map
      LSARouter.replyBytes
  else if lsr.lsType = 2 then
    (lsdb.findNetworkLsa lsr.linkStateId lsr.advertisingRouter).map
      LSANetwork.replyBytes
  else
    some []

namespace Router

/-- `lsu->num` after `count` rounds of `htons(ntohs(lsu->num) + 1)`: the
conversions are the 16-bit ones. -/
def lsrReplyNum (count : ℕ) : UInt32 :=
  (htons (UInt16.ofNat count)).toUInt32

/-- The body of the reply. -/
def lsrReply (lsas : List (List UInt8)) : List UInt8 :=
  store32 (lsrReplyNum lsas.length) ++ lsas.flatten

/-- The LSR branch of `recv_ospf_packet_thread`. -/
def recvLsr (r : Router) (packet : Memory) : Outcome Router :=
  let ip := ntohl (packet.load32 12)
  match r.findNeighbor ip with
  | none => .error .assertion
  | some n =>
      if n.state ≠ .exchange ∧ n.state ≠ .loading ∧ n.state ≠ .full then
        .ok r
      else
        match bodyEntries OSPFLsr.size OSPFLsr.load packet with
        | none =>
            -- past its end, only a request that cannot be met ends the loop
            if ∃ lsr ∈ bufferEntries OSPFLsr.size OSPFLsr.load packet,
                r.lsdb.answer lsr = none then
              .ok (r.eventBadLsReq ip)
            else
              .error .endlessLoop
        | some requests =>
            match requests.mapM r.lsdb.answer with
            | none => .ok (r.eventBadLsReq ip)
            | some lsas => .ok (r.sendOspfPacket n.ip typeLsu (lsrReply lsas))

/-- The LSR branch as a whole: the state stays, an LSU is sent, or a request
cannot be met. -/
theorem recvLsr_cases {r r' : Router} {packet : Memory}
    (h : r.recvLsr packet = .ok r') :
    r' = r ∨
      (∃ ip lsas, r' = r.sendOspfPacket ip typeLsu (lsrReply lsas)) ∨
      ((∃ lsr ∈ (bodyEntries OSPFLsr.size OSPFLsr.load packet).getD
          (bufferEntries OSPFLsr.size OSPFLsr.load packet),
        r.lsdb.answer lsr = none) ∧
        r' = r.eventBadLsReq (ntohl (packet.load32 12))) := by
  rw [recvLsr] at h
  cases hfind : r.findNeighbor (ntohl (packet.load32 12)) with
  | none => simp [hfind] at h
  | some n =>
      simp only [hfind] at h
      split at h
      · exact Or.inl (Except.ok.inj h).symm
      · cases hentries : bodyEntries OSPFLsr.size OSPFLsr.load packet with
        | none =>
            simp only [hentries] at h
            split_ifs at h with hunknown
            exact Or.inr (Or.inr ⟨hunknown, (Except.ok.inj h).symm⟩)
        | some requests =>
            simp only [hentries] at h
            cases hanswer : requests.mapM r.lsdb.answer with
            | none =>
                simp only [hanswer, Except.ok.injEq] at h
                exact Or.inr
                  (Or.inr ⟨mapM_eq_none_iff.mp hanswer, h.symm⟩)
            | some lsas =>
                simp only [hanswer, Except.ok.injEq] at h
                exact Or.inr (Or.inl ⟨n.ip, lsas, h.symm⟩)

/-- One round of the LSAck loop: erase the first entry for the acknowledged
LSA. -/
def ackStep (retransmissions : List LSAHeader) (headerNet : LSAHeader) :
    List LSAHeader :=
  retransmissions.eraseP fun lsa =>
    decide (lsa.lsType = headerNet.lsType ∧
      lsa.linkStateId = ntohl headerNet.linkStateId ∧
      lsa.advertisingRouter = ntohl headerNet.advertisingRouter)

/-- Acknowledgments only take entries off the list. -/
theorem foldl_ackStep_sublist (headers retransmissions : List LSAHeader) :
    (headers.foldl ackStep retransmissions).Sublist retransmissions := by
  induction headers generalizing retransmissions with
  | nil => exact List.Sublist.refl _
  | cons header headers ih => exact (ih _).trans List.eraseP_sublist

/-- The LSAck branch of `recv_ospf_packet_thread`. -/
def recvLsAck (r : Router) (packet : Memory) : Outcome Router :=
  let ip := ntohl (packet.load32 12)
  match r.findNeighbor ip with
  | none => .error .assertion
  | some n =>
      if n.state < .exchange then
        .ok r
      else
        match bodyEntries LSAHeader.size LSAHeader.load packet with
        | none => .error .endlessLoop
        | some headers =>
            .ok (r.modifyNeighbor ip fun n =>
              { n with
                linkStateRetransmissionList :=
                  headers.foldl ackStep n.linkStateRetransmissionList })

/-- The LSAck branch as a whole. -/
theorem recvLsAck_cases {r r' : Router} {packet : Memory}
    (h : r.recvLsAck packet = .ok r') :
    r' = r ∨
      ∃ n headers, r.findNeighbor (ntohl (packet.load32 12)) = some n ∧
        NeighborState.exchange ≤ n.state ∧
        bodyEntries LSAHeader.size LSAHeader.load packet = some headers ∧
        r' = r.modifyNeighbor (ntohl (packet.load32 12)) fun n =>
          { n with
            linkStateRetransmissionList :=
              headers.foldl ackStep n.linkStateRetransmissionList } := by
  rw [recvLsAck] at h
  cases hfind : r.findNeighbor (ntohl (packet.load32 12)) with
  | none => simp [hfind] at h
  | some n =>
      simp only [hfind] at h
      split_ifs at h with hstate
      · exact Or.inl (Except.ok.inj h).symm
      · cases hheaders : bodyEntries LSAHeader.size LSAHeader.load packet with
        | none => simp [hheaders] at h
        | some headers =>
            simp only [hheaders, Except.ok.injEq] at h
            exact Or.inr
              ⟨n, headers, rfl, not_lt.mp hstate, rfl, h.symm⟩

end Router
end OspfLite
