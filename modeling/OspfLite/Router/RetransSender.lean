import OspfLite.Router.RequestReply

/-!
# The retransmission sender

One round of `retrans_sender_thread`.  It sends the buffer after every LSA, and
the header of an LSA goes out in host order, but for the age.
-/

namespace OspfLite

/-! ## The loop -/

/-- An LSA as the thread writes it. -/
def retransLsa (infTransDelay : UInt32) (header : LSAHeader)
    (body : List UInt8) : List UInt8 :=
  { header with
    lsAge := htons (header.lsAge.toUInt32 + infTransDelay).toUInt16 }.store ++
    body

/-- The buffer of the thread: `num` as it lies there, and what has been written
behind it. -/
structure RetransBuffer where
  num : UInt32
  written : List UInt8
deriving DecidableEq, Repr

namespace RetransBuffer

/-- The buffer at the start of a round. -/
def empty : RetransBuffer := ⟨0, []⟩

/-- `ptr - data`. -/
def offset (buffer : RetransBuffer) : ℕ := 4 + buffer.written.length

/-- What is sent. -/
def data (buffer : RetransBuffer) : List UInt8 :=
  store32 buffer.num ++ buffer.written

/-- `lsu->num = htonl(ntohl(lsu->num) + 1)`, and the bytes of an LSA. -/
def append (buffer : RetransBuffer) (lsa : List UInt8) : RetransBuffer where
  num := htonl (ntohl buffer.num + 1)
  written := buffer.written ++ lsa

end RetransBuffer

/-- One turn of the loop over the list; without a result it is left by a
`break`. -/
def retransStep (lsdb : LSDB) (infTransDelay : UInt32)
    (buffer : RetransBuffer) (lsaHeader : LSAHeader) :
    Outcome (Option RetransBuffer) :=
  if Router.lsuBufferSize < buffer.offset + lsaHeader.length.toNat then
    .ok none
  else if lsaHeader.lsType = lsaRouter then
    match lsdb.findRouterLsa lsaHeader.linkStateId
        lsaHeader.advertisingRouter with
    | none => .error .nullDereference
    | some lsa => .ok (some (buffer.append
        (retransLsa infTransDelay lsa.header lsa.encodeBody)))
  else if lsaHeader.lsType = lsaNetwork then
    if 900 ≤ buffer.offset then
      .ok none
    else
      match lsdb.findNetworkLsa lsaHeader.linkStateId
          lsaHeader.advertisingRouter with
      | none => .error .nullDereference
      | some lsa => .ok (some (buffer.append
          (retransLsa infTransDelay lsa.header lsa.encodeBody)))
  else
    -- other types are counted, and nothing is written
    .ok (some (buffer.append []))

/-- The loop: what it sends, in order. -/
def retransLoop (lsdb : LSDB) (infTransDelay : UInt32) :
    RetransBuffer → List LSAHeader → Outcome (List (List UInt8))
  | _, [] => .ok []
  | buffer, lsaHeader :: lsaHeaders =>
      (retransStep lsdb infTransDelay buffer lsaHeader).bind fun
        | none => .ok []
        | some buffer' =>
            (retransLoop lsdb infTransDelay buffer' lsaHeaders).map
              (buffer'.data :: ·)

namespace Router

/-- One round of the thread for the neighbor at `ip`; in DOWN it ends. -/
def retransmit (ip : UInt32) (r : Router) : Outcome Router :=
  match r.findNeighbor ip with
  | none => .ok r
  | some n =>
      if n.state = .down then
        .ok r
      else
        (retransLoop r.lsdb r.interface.infTransDelay .empty
          n.linkStateRetransmissionList).map
            (List.foldl (fun r data => r.sendOspfPacket n.ip typeLsu data) r)

end Router

/-! ## The LSAs that fit -/

namespace LSDB

/-- What the thread finds for a header of its list: the header and the body of
the LSA. -/
def listedLsa (lsdb : LSDB) (listed : LSAHeader) :
    Option (LSAHeader × List UInt8) :=
  if listed.lsType = lsaRouter then
    (lsdb.findRouterLsa listed.linkStateId listed.advertisingRouter).map
      fun lsa => (lsa.header, lsa.encodeBody)
  else if listed.lsType = lsaNetwork then
    (lsdb.findNetworkLsa listed.linkStateId listed.advertisingRouter).map
      fun lsa => (lsa.header, lsa.encodeBody)
  else
    none

/-- The bytes the thread writes for a header of its list. -/
def retransBytes (lsdb : LSDB) (infTransDelay : UInt32)
    (listed : LSAHeader) : List UInt8 :=
  (lsdb.listedLsa listed).elim [] fun lsa =>
    retransLsa infTransDelay lsa.1 lsa.2

/-- The headers of the list whose LSAs fit, one after the other from an offset
on. -/
def fitting (lsdb : LSDB) (infTransDelay : UInt32) :
    ℕ → List LSAHeader → List LSAHeader
  | _, [] => []
  | offset, listed :: rest =>
      if Router.lsuBufferSize < offset + listed.length.toNat ∨
          listed.lsType = lsaNetwork ∧ 900 ≤ offset then
        []
      else
        listed :: lsdb.fitting infTransDelay
          (offset + (lsdb.retransBytes infTransDelay listed).length) rest

end LSDB

/-- The buffer after each of the LSAs. -/
def RetransBuffer.fills : RetransBuffer → List (List UInt8) →
    List RetransBuffer
  | _, [] => []
  | buffer, lsa :: lsas =>
      buffer.append lsa :: (buffer.append lsa).fills lsas

variable {lsdb : LSDB} {infTransDelay : UInt32}

/-- A header with an entry in the database is passed over only where the LSA
does not fit. -/
theorem retransStep_eq (buffer : RetransBuffer) {listed : LSAHeader}
    (hlisted : lsdb.listedLsa listed ≠ none) :
    retransStep lsdb infTransDelay buffer listed =
      if Router.lsuBufferSize < buffer.offset + listed.length.toNat ∨
          listed.lsType = lsaNetwork ∧ 900 ≤ buffer.offset then
        .ok none
      else
        .ok (some
          (buffer.append (lsdb.retransBytes infTransDelay listed))) := by
  have hne : lsaRouter ≠ lsaNetwork := by decide
  rw [LSDB.listedLsa] at hlisted
  rw [retransStep, LSDB.retransBytes, LSDB.listedLsa]
  by_cases hlength :
      Router.lsuBufferSize < buffer.offset + listed.length.toNat
  · rw [if_pos hlength, if_pos (Or.inl hlength)]
  by_cases hrouter : listed.lsType = lsaRouter
  · cases hfind : lsdb.findRouterLsa listed.linkStateId
      listed.advertisingRouter with
    | none => simp [hrouter, hfind] at hlisted
    | some lsa => simp [hlength, hrouter, hne]
  by_cases hnetwork : listed.lsType = lsaNetwork
  · cases hfind : lsdb.findNetworkLsa listed.linkStateId
      listed.advertisingRouter with
    | none => simp [hnetwork, hne.symm, hfind] at hlisted
    | some lsa =>
        by_cases hoffset : 900 ≤ buffer.offset <;>
          simp [hlength, hnetwork, hne.symm, hoffset]
  · simp [hrouter, hnetwork] at hlisted

/-- The loop sends the buffer after every LSA that fits. -/
theorem retransLoop_eq {list : List LSAHeader}
    (hlist : ∀ listed ∈ list, lsdb.listedLsa listed ≠ none)
    (buffer : RetransBuffer) :
    retransLoop lsdb infTransDelay buffer list =
      .ok ((buffer.fills ((lsdb.fitting infTransDelay buffer.offset
        list).map (lsdb.retransBytes infTransDelay))).map
          RetransBuffer.data) := by
  induction list generalizing buffer with
  | nil => rfl
  | cons listed rest ih =>
      rw [retransLoop, retransStep_eq buffer (hlist listed List.mem_cons_self),
        LSDB.fitting]
      split_ifs with hstop
      · rfl
      · have hoffset : (buffer.append
            (lsdb.retransBytes infTransDelay listed)).offset =
              buffer.offset +
                (lsdb.retransBytes infTransDelay listed).length := by
          rw [RetransBuffer.offset, RetransBuffer.append,
            List.length_append, ← Nat.add_assoc]
          rfl
        rw [Outcome.bind_ok]
        simp only
        rw [ih (fun l hl => hlist l (List.mem_cons_of_mem _ hl)), hoffset]
        rfl

end OspfLite
