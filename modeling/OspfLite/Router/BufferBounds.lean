import OspfLite.Router.PacketWalks
import OspfLite.Router.Duplicates
import OspfLite.Router.Codecs
import OspfLite.Router.OwnLsas
import OspfLite.Router.Backing
import OspfLite.Router.FloodingInVain

/-!
# The assembly buffers

Four packets are assembled without a look at the room that is left: the reply
to a Link State Request, the acknowledgment of an LSU, the copy of an LSA that
is flooded, and the LSU with the LSAs of the router.
-/

namespace OspfLite

/-! ## The size of the LSAs in a reply -/

theorem LSARouter.length_replyBytes (lsa : LSARouter) :
    lsa.replyBytes.length = 24 + 12 * lsa.links.length := by
  rw [replyBytes_eq, List.length_append, LSAHeader.length_store,
    Router.length_routerBody, LSAHeader.size, LSARouterLink.size]
  omega

theorem LSANetwork.length_replyBytes (lsa : LSANetwork) :
    lsa.replyBytes.length = 24 + 4 * lsa.attachedRouters.length := by
  rw [replyBytes, List.length_append, LSAHeader.length_store,
    Router.length_networkBody, LSAHeader.size]
  omega

/-- What a request adds to the reply, by the entry in the database. -/
def LSDB.replySize (lsdb : LSDB) (lsr : OSPFLsr) : ℕ :=
  if lsr.lsType = 1 then
    (lsdb.findRouterLsa lsr.linkStateId lsr.advertisingRouter).elim 0
      fun lsa => 24 + 12 * lsa.links.length
  else if lsr.lsType = 2 then
    (lsdb.findNetworkLsa lsr.linkStateId lsr.advertisingRouter).elim 0
      fun lsa => 24 + 4 * lsa.attachedRouters.length
  else
    0

theorem LSDB.length_answer (lsdb : LSDB) (lsr : OSPFLsr) :
    (lsdb.answer lsr).elim 0 List.length = lsdb.replySize lsr := by
  rw [answer, replySize]
  split_ifs
  · cases lsdb.findRouterLsa lsr.linkStateId lsr.advertisingRouter with
    | none => rfl
    | some lsa => exact lsa.length_replyBytes
  · cases lsdb.findNetworkLsa lsr.linkStateId lsr.advertisingRouter with
    | none => rfl
    | some lsa => exact lsa.length_replyBytes
  · rfl

namespace Router

variable {r : Router} {packet : Memory} {src : UInt32} {data : Memory}
  {s s' : LsuState}

/-! ## The reply to a Link State Request -/

/-- The entry of an LSR at a position. -/
def lsrEntry (packet : Memory) (i : ℕ) : OSPFLsr :=
  OSPFLsr.load (packet.advance (bodyOffset + OSPFLsr.size * i))

/-- What `lsu_data` holds after some rounds of the LSR loop. -/
def lsrWritten (lsdb : LSDB) (packet : Memory) (rounds : ℕ) : List UInt8 :=
  lsrReply ((List.range rounds).filterMap fun i =>
    lsdb.answer (lsrEntry packet i))

/-- The bytes written after some rounds: the count, and an LSA for each
request. -/
theorem length_lsrWritten (lsdb : LSDB) (packet : Memory) (rounds : ℕ) :
    (lsrWritten lsdb packet rounds).length =
      4 + ((List.range rounds).map fun i =>
        lsdb.replySize (lsrEntry packet i)).sum := by
  rw [lsrWritten, lsrReply, List.length_append, length_store32,
    length_flatten_filterMap]
  simp only [LSDB.length_answer]

/-- The reply that is sent is what the buffer holds when the loop ends. -/
theorem lsrReply_eq_lsrWritten {lsdb : LSDB} {requests : List OSPFLsr}
    {lsas : List (List UInt8)}
    (hrequests :
      bodyEntries OSPFLsr.size OSPFLsr.load packet = some requests)
    (hlsas : requests.mapM lsdb.answer = some lsas) :
    lsrReply lsas = lsrWritten lsdb packet requests.length ∧
      (lsrLoop lsdb packet).GoesOn requests.length := by
  obtain ⟨n, hsteps, rfl⟩ := Option.map_eq_some_iff.mp hrequests
  have hstop : bodyOffset + OSPFLsr.size * n = packetEnd packet :=
    (PointerLoop.pointerSteps_eq_some_iff (by decide)).mp hsteps
  have hsize : OSPFLsr.size = 12 := rfl
  rw [List.length_map, List.length_range]
  constructor
  · rw [lsrWritten, ← filterMap_of_mapM_eq_some hlsas, List.filterMap_map]
    rfl
  · intro j hj
    constructor
    · change bodyOffset + OSPFLsr.size * j ≠ packetEnd packet
      rw [hsize] at hstop ⊢
      omega
    · intro hexit
      have hnone : ((List.range n).map fun i => OSPFLsr.load
          (packet.advance (bodyOffset + OSPFLsr.size * i))).mapM
            lsdb.answer = none :=
        mapM_eq_none_iff.mpr ⟨_, List.mem_map_of_mem (List.mem_range.mpr hj),
          hexit⟩
      rw [hlsas] at hnone
      cases hnone

/-! ## The copy of a flooded LSA -/

theorem length_floodData (data : Memory) (header : LSAHeader) :
    (floodData data header).length = 4 + header.length.toNat := by
  simp [floodData, Memory.take]

/-! ## The acknowledgment of an LSU -/

/-- The round puts the LSA into the acknowledgment: it is new or newer, it is
not sent back, and a BDR has it from the DR. -/
def PutsAck (src : UInt32) (s : LsuState) (data : Memory) : Prop :=
  s.badLsReq = false ∧ s.router.FindsNewer data ∧
    ¬SendsOn (lsaHeaderHost data) src s.router.interface ∧
    (s.router.interface.state = .backup →
      src = htonl s.router.interface.dr)

instance (src : UInt32) (s : LsuState) (data : Memory) :
    Decidable (PutsAck src s data) :=
  inferInstanceAs (Decidable (_ ∧ (_ ∧ _ ∧ _) ∧ ¬_ ∧ (_ → _)))

theorem putsAck_iff :
    PutsAck src s data ↔ s.badLsReq = false ∧ AcksRound src s data := by
  have hback : (s.router.floodArea data src).2 = false ↔
      ¬SendsOn (lsaHeaderHost data) src s.router.interface := by
    rw [← floodingLsa_copies_iff s.router, Bool.not_eq_true]
    exact Iff.rfl
  have hkept : ((s.router.floodArea data src).1.purge
      (lsaHeaderHost data)).interface.state = s.router.interface.state ∧
        ((s.router.floodArea data src).1.purge
          (lsaHeaderHost data)).interface.dr = s.router.interface.dr := by
    change (s.router.floodingLsa data src s.router.interface).1.state = _ ∧
      (s.router.floodingLsa data src s.router.interface).1.dr = _
    rw [floodingLsa]
    split_ifs
    · exact ⟨rfl, rfl⟩
    · simp only
      split_ifs <;> exact ⟨rfl, rfl⟩
  rw [PutsAck, AcksRound, Acknowledges, hback, hkept.1, hkept.2, FindsNewer,
    and_assoc, and_assoc]

/-- The bytes that a round adds to the list. -/
theorem length_lsackData (h : lsuRound src s data = .ok s') :
    s'.lsackData.length =
      s.lsackData.length + if PutsAck src s data then 20 else 0 := by
  rw [lsuRound_lsackData h, List.length_append]
  simp only [putsAck_iff]
  split_ifs
  · simp [Memory.take, LSAHeader.size]
  · rfl

/-! ## The LSU with the LSAs of the router -/

/-- The LSU of `update_lsas` carries a Network LSA with the FULL neighbors and
a Router LSA with the interfaces. -/
theorem length_lsuData_emittedLsas (r : Router) :
    (lsuData r.emittedLsas).length =
      4 + (if r.EmitsNetworkLsa then
          24 + 4 * r.interface.neighbors.countP fun n =>
            decide (n.state = .full)
        else 0) +
        if r.EmitsRouterLsa then 24 + 12 * r.interfaces.length else 0 := by
  have hlinks : r.updateOwnNetworkLsa.1.generateRouterLsa.links.length =
      r.interfaces.length := by
    obtain ⟨lsdb, count, headers, horig⟩ := r.updateOwnNetworkLsa_originates
    rw [horig]
    simp [generateRouterLsa, interfaces]
  have hattached : r.generateNetworkLsa.attachedRouters.length =
      r.interface.neighbors.countP fun n => decide (n.state = .full) := by
    simp [generateNetworkLsa, List.countP_eq_length_filter]
  rw [lsuData, List.length_append, length_store32, emittedLsas,
    updateOwnNetworkLsa_snd, updateOwnRouterLsa_snd]
  split_ifs <;>
    simp only [List.flatten_append, List.flatten_cons, List.flatten_nil,
      List.length_append, List.length_nil, length_sealLsa, length_networkBody,
      length_routerBody, hlinks, hattached, LSAHeader.size,
      LSARouterLink.size] <;>
    omega

/-! ## The four buffers -/

/-- The size of `lsack_data`. -/
def lsackBufferSize : ℕ := 1024

/-- The LSR branch goes through the requests. -/
def ServesLsr (r : Router) (packet : Memory) : Prop :=
  r.Admits packet ∧ packet 21 = typeLsr ∧
    ∃ n ∈ r.findNeighbor (ntohl (packet.load32 12)),
      NeighborState.exchange ≤ n.state

instance (r : Router) (packet : Memory) : Decidable (r.ServesLsr packet) :=
  inferInstanceAs (Decidable (_ ∧ _ ∧ ∃ n ∈ r.findNeighbor _, _))

/-- The LSU branch goes through the LSAs. -/
def ServesLsu (r : Router) (packet : Memory) : Prop :=
  r.Admits packet ∧ packet 21 = typeLsu ∧
    r.findNeighbor (ntohl (packet.load32 12)) ≠ none

/-- What the loop over the LSAs of an LSU assembles fits, in every state of
the loop: the headers to acknowledge, and each copy of an LSA. -/
structure LsuBuffersFit (src : UInt32) (s : LsuState)
    (pointers : List Memory) : Prop where
  lsack : Throughout (lsuRound src)
    (fun s => s.lsackData.length ≤ lsackBufferSize) s pointers
  copies : Along (lsuRound src) (fun s data =>
    s.badLsReq = false → s.router.FindsNewer data →
      ∀ inter ∈ s.router.interfaces,
        (s.router.floodingLsa data src inter).2.2 = true →
          (floodData data (lsaHeaderHost data)).length ≤ lsuBufferSize)
    s pointers

/-- What that takes: at most 51 LSAs are acknowledged, and no LSA of more than
1020 bytes is sent on. -/
structure LsuRoom (src : UInt32) (s : LsuState) (pointers : List Memory) :
    Prop where
  lsack : s.lsackData.length +
    20 * countAlong (lsuRound src) (PutsAck src) s pointers ≤ 1024
  copies : Along (lsuRound src) (fun s data =>
    s.badLsReq = false → s.router.FindsNewer data →
      (∃ inter ∈ s.router.interfaces,
        SendsOn (lsaHeaderHost data) src inter) →
          (lsaHeaderHost data).length ≤ 1020)
    s pointers

/-- The copies of one LSA. -/
theorem copies_fit_iff (r : Router) (src : UInt32) (data : Memory) :
    (∀ inter ∈ r.interfaces, (r.floodingLsa data src inter).2.2 = true →
        (floodData data (lsaHeaderHost data)).length ≤ lsuBufferSize) ↔
      ((∃ inter ∈ r.interfaces, SendsOn (lsaHeaderHost data) src inter) →
        (lsaHeaderHost data).length ≤ 1020) := by
  have hfits : (floodData data (lsaHeaderHost data)).length ≤
      lsuBufferSize ↔ (lsaHeaderHost data).length ≤ 1020 := by
    rw [length_floodData, lsuBufferSize, UInt16.le_iff_toNat_le]
    change _ ↔ (lsaHeaderHost data).length.toNat ≤ 1020
    omega
  simp only [floodingLsa_copies_iff, hfits, forall_exists_index, and_imp]

theorem lsuBuffersFit_iff (src : UInt32) (s : LsuState)
    (pointers : List Memory) :
    LsuBuffersFit src s pointers ↔ LsuRoom src s pointers := by
  have hlsack : Throughout (lsuRound src)
      (fun s => s.lsackData.length ≤ lsackBufferSize) s pointers ↔
        s.lsackData.length +
          20 * countAlong (lsuRound src) (PutsAck src) s pointers ≤ 1024 :=
    throughout_le_iff_countAlong (fun _ _ _ => length_lsackData) s pointers
  have hcopies := fun (s : LsuState) (data : Memory) =>
    imp_congr_right fun (_ : s.badLsReq = false) =>
      imp_congr_right fun (_ : s.router.FindsNewer data) =>
        copies_fit_iff s.router src data
  constructor
  · intro h
    exact ⟨hlsack.mp h.lsack, (along_congr hcopies s pointers).mp h.copies⟩
  · intro h
    exact ⟨hlsack.mpr h.lsack, (along_congr hcopies s pointers).mpr h.copies⟩

/-- The packets that are assembled fit their buffers: at every time the reply
to an LSR, what is assembled for an LSU, and the LSU of `update_lsas`. -/
structure AssembledPacketsFit (r : Router) (packet : Memory) : Prop where
  reply : r.ServesLsr packet →
    ∀ rounds, (lsrLoop r.lsdb packet).GoesOn rounds →
      (lsrWritten r.lsdb packet rounds).length ≤ lsuBufferSize
  lsu : r.ServesLsu packet →
    LsuBuffersFit (packet.load32 12) ⟨r, [], false⟩ (lsuPointers packet)
  originated : (lsuData r.emittedLsas).length ≤ lsuBufferSize

/-- What that takes: the LSAs that are requested are not too large together,
there is room for what the LSU brings about, and there are not too many
interfaces and FULL neighbors. -/
structure RoomFor (r : Router) (packet : Memory) : Prop where
  reply : r.ServesLsr packet →
    ∀ rounds, (lsrLoop r.lsdb packet).GoesOn rounds →
      ((List.range rounds).map fun i =>
        r.lsdb.replySize (lsrEntry packet i)).sum ≤ 1020
  lsu : r.ServesLsu packet →
    LsuRoom (packet.load32 12) ⟨r, [], false⟩ (lsuPointers packet)
  originated :
    (if r.EmitsNetworkLsa then
        24 + 4 * r.interface.neighbors.countP fun n =>
          decide (n.state = .full)
      else 0) +
      (if r.EmitsRouterLsa then 24 + 12 * r.interfaces.length else 0) ≤ 1020

/-- Then the reply that the handler sends fits. -/
theorem AssembledPacketsFit.lsrReply_fits (h : r.AssembledPacketsFit packet)
    (hserves : r.ServesLsr packet) {requests : List OSPFLsr}
    {lsas : List (List UInt8)}
    (hrequests :
      bodyEntries OSPFLsr.size OSPFLsr.load packet = some requests)
    (hlsas : requests.mapM r.lsdb.answer = some lsas) :
    (lsrReply lsas).length ≤ lsuBufferSize := by
  obtain ⟨hwritten, hon⟩ := lsrReply_eq_lsrWritten hrequests hlsas
  rw [hwritten]
  exact h.reply hserves _ hon

/-- An LSR of the peer that asks 29 times for the Router LSA of 1.1.1.1. -/
def repeatedRequest : Memory :=
  fromPeer typeLsr (List.replicate 29 (store32 (htonl 1) ++
    store32 (htonl 0x01010101) ++ store32 (htonl 0x01010101))).flatten

end Router
end OspfLite
