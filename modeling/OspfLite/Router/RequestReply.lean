import OspfLite.Router.EmittedLsu
import OspfLite.Router.Request

/-!
# The reply to a Link State Request

What the receiver of the LSU reads in it.  The number of LSAs is counted with
the 16-bit conversions and read with the 32-bit one.
-/

namespace OspfLite

/-! ## Requests that can be met -/

namespace LSDB

/-- The LSA a request names: its header, and what follows it on the wire. -/
def requestedLsa (lsdb : LSDB) (lsr : OSPFLsr) :
    Option (LSAHeader × List UInt8) :=
  if lsr.lsType = 1 then
    (lsdb.findRouterLsa lsr.linkStateId lsr.advertisingRouter).map fun lsa =>
      (lsa.header, lsa.encodeBody)
  else if lsr.lsType = 2 then
    (lsdb.findNetworkLsa lsr.linkStateId lsr.advertisingRouter).map fun lsa =>
      (lsa.header, lsa.encodeBody)
  else
    none

/-- The request names a Router or Network LSA in the database. -/
def Meets (lsdb : LSDB) (lsr : OSPFLsr) : Prop :=
  lsdb.requestedLsa lsr ≠ none

instance (lsdb : LSDB) (lsr : OSPFLsr) : Decidable (lsdb.Meets lsr) :=
  inferInstanceAs (Decidable (_ ≠ _))

/-- The handler notices that a request cannot be met if it is for one of the
two types. -/
theorem answer_eq_none_iff (lsdb : LSDB) (lsr : OSPFLsr) :
    lsdb.answer lsr = none ↔
      (lsr.lsType = 1 ∨ lsr.lsType = 2) ∧ ¬lsdb.Meets lsr := by
  rw [answer, Meets, requestedLsa]
  by_cases hrouter : lsr.lsType = 1
  · simp [hrouter]
  · by_cases hnetwork : lsr.lsType = 2 <;> simp [hrouter, hnetwork]

/-- What lies at `data` is the LSA the request names: the header, but for the
age and the checksum, and the bytes that follow it; and it passes the checksum
test. -/
structure Carries (lsdb : LSDB) (data : Memory) (lsr : OSPFLsr) : Prop where
  lsa : ∃ header body, lsdb.requestedLsa lsr = some (header, body) ∧
    lsaHeaderHost data =
      { header with
        lsAge := (lsaHeaderHost data).lsAge
        lsChecksum := (lsaHeaderHost data).lsChecksum } ∧
    (data.advance LSAHeader.size).take body.length = body
  checksum : ChecksumOk data

end LSDB

namespace Router

/-! ## The count -/

theorem length_lsaPointers (num : ℕ) (data : Memory) :
    (lsaPointers num data).length = num := by
  induction num generalizing data with
  | zero => rfl
  | succ num ih => rw [lsaPointers, List.length_cons, ih]

/-- The count has moved to the upper half of the word. -/
theorem lsuCount_lsrReplyNum {count : ℕ} (hcount : count < 32768) :
    lsuCount (lsrReplyNum count) = 65536 * count := by
  have hnum : (htons (UInt16.ofNat count)).toUInt32.toNat =
      count / 256 + count % 256 * 256 + 0 * 65536 + 0 * 16777216 := by
    rw [UInt16.toNat_toUInt32, toNat_htons, UInt16.toNat_ofNat']
    omega
  have hread : (ntohl (lsrReplyNum count)).toNat = 65536 * count := by
    rw [ntohl, lsrReplyNum, toNat_htonl_of_bytes (by omega) (by omega)
      (by omega) hnum]
    omega
  rw [lsuCount, toInt_toInt32 (by omega), hread, Int.toNat_natCast]

/-- The LSAs the receiver of an LSU looks for. -/
theorem lsuPointers_ospfPacket (r : Router) (auType src dst num : UInt32)
    (lsas : List UInt8) :
    lsuPointers (ipDatagram src dst
        (r.ospfPacket auType typeLsu (store32 num ++ lsas))) =
      lsaPointers (lsuCount num) (Memory.ofList lsas) := by
  rw [lsuPointers_eq, lsuWalk_ospfPacket, ← lsaPointers_eq,
    ipDatagram_lsu_advance]

/-! ## The reply -/

/-- The requests of a packet are fewer than the length field has room for. -/
theorem length_bodyEntries_lt {packet : Memory} {requests : List OSPFLsr}
    (h : bodyEntries OSPFLsr.size OSPFLsr.load packet = some requests) :
    requests.length < 32768 := by
  obtain ⟨n, hsteps, rfl⟩ := Option.map_eq_some_iff.mp h
  have hlength : (ntohs (packet.load16 22)).toNat < 65536 :=
    (ntohs (packet.load16 22)).toNat_lt
  rw [pointerSteps] at hsteps
  split_ifs at hsteps
  rw [Option.some.injEq, bodyOffset, ipHeaderSize, ospfHeaderSize,
    OSPFLsr.size] at hsteps
  rw [List.length_map, List.length_range]
  omega

/-- The reply fits the buffer it is assembled in. -/
def ReplyFits (lsdb : LSDB) (requests : List OSPFLsr) : Prop :=
  (lsrReply (requests.filterMap lsdb.answer)).length ≤ lsuBufferSize

/-- An LSU is sent in which the receiver, whatever addresses it travels under,
finds exactly the requested LSAs in their order. -/
def AnswersExactly (r : Router) (packet : Memory)
    (requests : List OSPFLsr) : Prop :=
  ∃ reply, r.recvLsr packet =
      .ok (r.addLog (.sent (ntohl (packet.load32 12)) reply)) ∧
    ∀ src dst, List.Forall₂ (fun data lsr => r.lsdb.Carries data lsr)
      (lsuPointers (ipDatagram src dst reply)) requests

/-- Requests that can all be met are answered exactly, if the reply fits; if
one cannot be met, no LSU is sent and `event_bad_ls_req` is raised. -/
structure AnsweredAsAsked (r : Router) (packet : Memory)
    (requests : List OSPFLsr) : Prop where
  met : (∀ lsr ∈ requests, r.lsdb.Meets lsr) → ReplyFits r.lsdb requests →
    r.AnswersExactly packet requests
  unmet : (∃ lsr ∈ requests, ¬r.lsdb.Meets lsr) →
    r.recvLsr packet = .ok (r.eventBadLsReq (ntohl (packet.load32 12)))

variable {r : Router} {packet : Memory} {n : Neighbor}
  {requests : List OSPFLsr}

/-- What the branch does with a request it takes up. -/
theorem recvLsr_eq
    (hn : r.findNeighbor (ntohl (packet.load32 12)) = some n)
    (hstate : NeighborState.exchange ≤ n.state)
    (hrequests :
      bodyEntries OSPFLsr.size OSPFLsr.load packet = some requests) :
    r.recvLsr packet =
      match requests.mapM r.lsdb.answer with
      | none => .ok (r.eventBadLsReq (ntohl (packet.load32 12)))
      | some lsas => .ok (r.addLog (.sent (ntohl (packet.load32 12))
          (r.ospfPacket r.interface.auType typeLsu (lsrReply lsas)))) := by
  have htaken : ¬(n.state ≠ .exchange ∧ n.state ≠ .loading ∧
      n.state ≠ .full) := by
    cases hs : n.state <;> rw [hs] at hstate <;> revert hstate <;> decide
  have hip : n.ip = ntohl (packet.load32 12) := Interface.findNeighbor_ip hn
  cases hlsas : requests.mapM r.lsdb.answer <;>
    simp only [recvLsr, hn, if_neg htaken, hrequests, hlsas, sendOspfPacket,
      sendOspfPacketFrom, hip]

/-- An exact answer answers no request: the receiver looks for 65536 LSAs in
place of every one. -/
theorem AnswersExactly.no_requests (h : r.AnswersExactly packet requests)
    (hn : r.findNeighbor (ntohl (packet.load32 12)) = some n)
    (hstate : NeighborState.exchange ≤ n.state)
    (hrequests :
      bodyEntries OSPFLsr.size OSPFLsr.load packet = some requests) :
    requests = [] := by
  obtain ⟨reply, hrecv, hcarries⟩ := h
  rw [recvLsr_eq hn hstate hrequests] at hrecv
  cases hanswers : requests.mapM r.lsdb.answer with
  | none =>
      rw [hanswers] at hrecv
      have hlog := congrArg (fun o => o.map log) hrecv
      simp [eventBadLsReq, addLog, modifyNeighbor, Except.map] at hlog
  | some lsas =>
      rw [hanswers] at hrecv
      have hlog := congrArg (fun o => o.map log) hrecv
      have hreply : r.ospfPacket r.interface.auType typeLsu
          (lsrReply lsas) = reply := by
        simpa [addLog, Except.map] using hlog
      have hcount := (forall₂_of_mapM_eq_some hanswers).length_eq
      have hbound := length_bodyEntries_lt hrequests
      have hread := (hcarries 0 0).length_eq
      rw [← hreply, lsrReply, lsuPointers_ospfPacket, length_lsaPointers,
        lsuCount_lsrReplyNum (by omega)] at hread
      exact List.length_eq_zero_iff.mp (by omega)

/-- A request for nothing is answered with nothing. -/
theorem answersExactly_nil
    (hn : r.findNeighbor (ntohl (packet.load32 12)) = some n)
    (hstate : NeighborState.exchange ≤ n.state)
    (hrequests : bodyEntries OSPFLsr.size OSPFLsr.load packet = some []) :
    r.AnswersExactly packet [] := by
  refine ⟨r.ospfPacket r.interface.auType typeLsu (lsrReply []),
    recvLsr_eq hn hstate hrequests, fun src dst => ?_⟩
  have hnone : lsuCount (lsrReplyNum ([] : List (List UInt8)).length) = 0 :=
    lsuCount_lsrReplyNum (by decide)
  rw [lsrReply, lsuPointers_ospfPacket, hnone]
  exact .nil

/-- The branch raises the event exactly if it notices a request it cannot
meet. -/
theorem recvLsr_eq_badLsReq_iff
    (hn : r.findNeighbor (ntohl (packet.load32 12)) = some n)
    (hstate : NeighborState.exchange ≤ n.state)
    (hrequests :
      bodyEntries OSPFLsr.size OSPFLsr.load packet = some requests) :
    r.recvLsr packet = .ok (r.eventBadLsReq (ntohl (packet.load32 12))) ↔
      ∃ lsr ∈ requests,
        (lsr.lsType = 1 ∨ lsr.lsType = 2) ∧ ¬r.lsdb.Meets lsr := by
  simp only [← LSDB.answer_eq_none_iff]
  rw [← mapM_eq_none_iff, recvLsr_eq hn hstate hrequests]
  cases hanswers : requests.mapM r.lsdb.answer with
  | none => exact iff_of_true rfl rfl
  | some lsas =>
      refine iff_of_false (fun h => ?_) (fun h => by cases h)
      have hlog := congrArg (fun o => o.map log) h
      simp [eventBadLsReq, addLog, modifyNeighbor, Except.map] at hlog

/-- A request of a neighbor in EXCHANGE or above is answered as it asks if and
only if it asks for nothing, where all of it can be met and fits the buffer,
and one of its Router or Network LSAs is missing, where something is. -/
theorem answeredAsAsked_iff
    (hn : r.findNeighbor (ntohl (packet.load32 12)) = some n)
    (hstate : NeighborState.exchange ≤ n.state)
    (hrequests :
      bodyEntries OSPFLsr.size OSPFLsr.load packet = some requests) :
    r.AnsweredAsAsked packet requests ↔
      ((∀ lsr ∈ requests, r.lsdb.Meets lsr) → ReplyFits r.lsdb requests →
        requests = []) ∧
      ((∃ lsr ∈ requests, ¬r.lsdb.Meets lsr) → ∃ lsr ∈ requests,
        (lsr.lsType = 1 ∨ lsr.lsType = 2) ∧ ¬r.lsdb.Meets lsr) := by
  constructor
  · intro h
    refine ⟨fun hmet hfits => ?_, fun hunmet => ?_⟩
    · exact (h.met hmet hfits).no_requests hn hstate hrequests
    · exact (recvLsr_eq_badLsReq_iff hn hstate hrequests).mp (h.unmet hunmet)
  · rintro ⟨hmet, hunmet⟩
    refine ⟨fun hall hfits => ?_, fun hsome => ?_⟩
    · obtain rfl := hmet hall hfits
      exact answersExactly_nil hn hstate hrequests
    · exact (recvLsr_eq_badLsReq_iff hn hstate hrequests).mpr (hunmet hsome)

/-- The router 1.1.1.1 has installed the Router LSA of 3.3.3.3. -/
def learningRouter : Router :=
  { originatingRouter with
    lsdb := LSDB.empty.installRouterLsa (Memory.ofList (sealLsa 1
      ⟨1, 2, lsaRouter, 0x03030303, 0x03030303, 0x80000001, 0, 24⟩
      [0, 0, 0, 0])) }

/-- A request of its FULL neighbor for that LSA. -/
def learntRequest : Memory :=
  ipDatagram 0x0a000002 0x0a000001
    ({ learningRouter with routerId := 0x02020202 }.ospfPacket 0 typeLsr
      (store32 (htonl 1) ++ store32 (htonl 0x03030303) ++
        store32 (htonl 0x03030303)))

/-- The one entry of the request. -/
def learntEntries : List OSPFLsr := [⟨1, 0x03030303, 0x03030303⟩]

theorem learntRequest_entries :
    bodyEntries OSPFLsr.size OSPFLsr.load learntRequest =
      some learntEntries := by
  decide +kernel

theorem learntRequest_neighbor :
    ∃ n ∈ learningRouter.findNeighbor (ntohl (learntRequest.load32 12)),
      NeighborState.exchange ≤ n.state := by
  decide +kernel

/-- The equivalence for that request. -/
theorem answeredAsAsked_iff_learntLsa :
    learningRouter.AnsweredAsAsked learntRequest learntEntries ↔
      ((∀ lsr ∈ learntEntries, learningRouter.lsdb.Meets lsr) →
        ReplyFits learningRouter.lsdb learntEntries → learntEntries = []) ∧
      ((∃ lsr ∈ learntEntries, ¬learningRouter.lsdb.Meets lsr) →
        ∃ lsr ∈ learntEntries, (lsr.lsType = 1 ∨ lsr.lsType = 2) ∧
          ¬learningRouter.lsdb.Meets lsr) := by
  obtain ⟨n, hn, hstate⟩ := learntRequest_neighbor
  exact answeredAsAsked_iff hn hstate learntRequest_entries

/-- That request is not answered exactly. -/
theorem learnt_lsa_not_answered :
    bodyEntries OSPFLsr.size OSPFLsr.load learntRequest =
        some learntEntries ∧
      (∃ n ∈ learningRouter.findNeighbor (ntohl (learntRequest.load32 12)),
        NeighborState.exchange ≤ n.state) ∧
      ¬learningRouter.AnsweredAsAsked learntRequest learntEntries := by
  refine ⟨learntRequest_entries, learntRequest_neighbor, fun h => ?_⟩
  obtain ⟨n, hn, hstate⟩ := learntRequest_neighbor
  have hmet : ∀ lsr ∈ learntEntries, learningRouter.lsdb.Meets lsr := by
    decide +kernel
  have hfits : ReplyFits learningRouter.lsdb learntEntries := by
    rw [ReplyFits]
    decide +kernel
  cases (h.met hmet hfits).no_requests hn hstate learntRequest_entries

end Router
end OspfLite
