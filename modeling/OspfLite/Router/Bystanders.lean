import OspfLite.Router.Addresses
import OspfLite.Router.StaleElection

/-!
# Steps that leave the segment alone

What a router knows about a neighbor from its Hellos, and the roles it has
settled, change by Hellos and by the timers only.  Every other step leaves them
as they are, and what it sends are packets of the router's own.
-/

namespace OspfLite
namespace Neighbor

/-- What the Hellos of a neighbor have left in its record. -/
def heard (n : Neighbor) : Candidate × ℤ := (n.candidate, n.lastRecvHelloTime)

/-- To Hellos and elections the two records are the same. -/
structure Alike (n n' : Neighbor) : Prop where
  heard : n'.heard = n.heard
  down : n'.state = .down ↔ n.state = .down
  init : n'.state = .init ↔ n.state = .init
  twoWay : .twoWay ≤ n'.state ↔ .twoWay ≤ n.state
  loading : n'.state = .loading → n.state = .loading

/-- There is an adjacency in both records or in neither. -/
structure Bystands (n n' : Neighbor) : Prop extends Alike n n' where
  exStart : .exStart ≤ n'.state ↔ .exStart ≤ n.state

variable {n n' n'' : Neighbor}

theorem alike_refl (n : Neighbor) : n.Alike n :=
  ⟨rfl, Iff.rfl, Iff.rfl, Iff.rfl, fun hl => hl⟩

theorem Alike.trans (h : n.Alike n') (h' : n'.Alike n'') : n.Alike n'' :=
  ⟨h'.heard.trans h.heard, h'.down.trans h.down, h'.init.trans h.init,
    h'.twoWay.trans h.twoWay, fun hl => h.loading (h'.loading hl)⟩

theorem bystands_refl (n : Neighbor) : n.Bystands n := ⟨n.alike_refl, Iff.rfl⟩

theorem Bystands.trans (h : n.Bystands n') (h' : n'.Bystands n'') :
    n.Bystands n'' :=
  ⟨h.toAlike.trans h'.toAlike, h'.exStart.trans h.exStart⟩

theorem Alike.candidate (h : n.Alike n') : n'.candidate = n.candidate :=
  congrArg Prod.fst h.heard

theorem Alike.ip (h : n.Alike n') : n'.ip = n.ip :=
  congrArg Candidate.ip h.candidate

theorem alike_of_state (hheard : n'.heard = n.heard)
    (hstate : n'.state = n.state) : n.Alike n' := by
  refine ⟨hheard, ?_, ?_, ?_, ?_⟩
  · rw [hstate]
  · rw [hstate]
  · rw [hstate]
  · rw [hstate]
    exact fun hl => hl

/-- From 2WAY on the states differ in the exchange only. -/
theorem alike_of_twoWay (hheard : n'.heard = n.heard)
    (h : .twoWay ≤ n.state) (h' : .twoWay ≤ n'.state)
    (hloading : n'.state = .loading → n.state = .loading) :
    n.Alike n' := by
  have hlow : ∀ s < NeighborState.twoWay, ∀ m : Neighbor,
      .twoWay ≤ m.state → ¬m.state = s := by
    rintro s hs m hm rfl
    exact absurd hm (not_le.mpr hs)
  exact ⟨hheard,
    iff_of_false (hlow _ (by decide) n' h') (hlow _ (by decide) n h),
    iff_of_false (hlow _ (by decide) n' h') (hlow _ (by decide) n h),
    iff_of_true h' h, hloading⟩

theorem bystands_of_state (hheard : n'.heard = n.heard)
    (hstate : n'.state = n.state) : n.Bystands n' :=
  ⟨alike_of_state hheard hstate, by rw [hstate]⟩

/-- From EXSTART on there is an adjacency. -/
theorem bystands_of_exStart (hheard : n'.heard = n.heard)
    (h : .exStart ≤ n.state) (h' : .exStart ≤ n'.state)
    (hloading : n'.state = .loading → n.state = .loading) :
    n.Bystands n' := by
  have hlow : NeighborState.twoWay ≤ .exStart := by decide
  exact ⟨alike_of_twoWay hheard (hlow.trans h) (hlow.trans h') hloading,
    iff_of_true h' h⟩

@[simp] theorem clearLists_heard (n : Neighbor) :
    n.clearLists.1.heard = n.heard := by
  by_cases h : n.lsrSenderCreated = true <;>
    simp [clearLists, joinRetransSender, joinLsrSender, h, heard, candidate]

@[simp] theorem restartEmptyDdSender_heard (n : Neighbor) :
    n.restartEmptyDdSender.1.heard = n.heard := by
  by_cases h : n.isEmptyDdSenderRunning = true <;>
    simp [restartEmptyDdSender, joinEmptyDdSender, createEmptyDdSender,
      heard, candidate, h]

theorem eventAdjOk_heard (inter : Interface) (n : Neighbor) :
    (n.eventAdjOk inter).1.heard = n.heard := by
  rw [eventAdjOk]
  split_ifs
  · rw [restartEmptyDdSender_heard]
    rfl
  · rfl
  · rfl
  · exact clearLists_heard { n with state := .twoWay }
  · rfl

/-! ## The handlers -/

theorem eventAdjOk_alike (inter : Interface) (n : Neighbor) :
    n.Alike (n.eventAdjOk inter).1 := by
  by_cases h : .twoWay ≤ n.state
  · refine alike_of_twoWay (n.eventAdjOk_heard inter) h
      ((n.eventAdjOk_twoWay_le inter).mpr h) ?_
    rw [eventAdjOk_state]
    generalize n.state = s
    split_ifs
    · exact fun hl => hl
    · cases s <;> decide
    · exact fun hl => absurd hl (by decide)
  · apply alike_of_state (n.eventAdjOk_heard inter)
    rw [eventAdjOk_state, if_pos (not_le.mp h)]

theorem restartExchange_bystands (n : Neighbor) :
    n.Bystands n.restartExchange.1 := by
  rw [restartExchange]
  split_ifs with hstate
  · have hafter : ({ n with state := .exStart } : Neighbor).clearLists.1
        |>.restartEmptyDdSender.1.state = .exStart := by
      simp only [restartEmptyDdSender_state, clearLists_state]
    have hlow : NeighborState.exStart ≤ .exchange := by decide
    refine bystands_of_exStart ?_ (hlow.trans hstate) (le_of_eq hafter.symm) ?_
    · rw [restartEmptyDdSender_heard, clearLists_heard]
      rfl
    · rw [hafter]
      exact fun hl => absurd hl (by decide)
  · exact bystands_refl n

theorem flood_bystands (header : LSAHeader) (src : UInt32) (n : Neighbor) :
    n.Bystands (n.flood header src).1 := by
  obtain ⟨_, _, -, -, h⟩ := flood_eq header src n
  rw [h]
  exact bystands_of_state rfl rfl

theorem pushAll_bystands (headers : List LSAHeader) (n : Neighbor) :
    n.Bystands (n.pushAll headers) := by
  rw [pushAll]
  split_ifs
  · exact bystands_of_state rfl rfl
  · exact bystands_refl n

theorem reply_bystands (mtu : UInt16) (options ddOther : UInt8) (n : Neighbor) :
    n.Bystands (n.reply mtu options ddOther) := by
  apply bystands_of_state _ (reply_state mtu options ddOther)
  rw [reply, recordReply, numberReply]
  split_ifs <;> rfl

/-- Before the chain of states, a neighbor in INIT is taken for one that lists
the router. -/
theorem beginDd_bystands (inter : Interface) (dd : OSPFDD) (n : Neighbor) :
    n.Bystands (n.beginDd inter dd) ∨
      (n.event2wayReceived inter).Bystands (n.beginDd inter dd) := by
  obtain ⟨seqNum, hrecord⟩ := n.recordDd_eq dd
  rw [beginDd, hrecord, event2wayReceived, event2wayReceived]
  by_cases hinit : n.state = .init
  · right
    simp only [if_pos hinit]
    split_ifs
    · exact bystands_of_state rfl rfl
    · exact bystands_of_state rfl rfl
  · left
    rw [if_neg hinit]
    exact bystands_of_state rfl rfl

/-- In the chain the state moves between EXSTART and EXCHANGE. -/
theorem accepted_bystands {routerId : UInt32} {lsdb : LSDB} {dup : Bool}
    {dd : OSPFDD} {n n' : Neighbor}
    (h : n.ddVerdict routerId lsdb dup dd = .accept n') : n.Bystands n' := by
  rcases ddVerdict_accept h with ⟨-, rfl⟩ | ⟨hstate, _, _, rfl⟩
  · exact bystands_refl _
  · refine bystands_of_exStart rfl (le_of_eq hstate.symm) ?_
      fun hl => by cases hl
    exact show NeighborState.exStart ≤ .exchange by decide

/-- Taking in an accepted packet, up to the pop of the summary list. -/
theorem popped_bystands {lsdb : LSDB} {dd : OSPFDD} {headers : List LSAHeader}
    {n popped : Neighbor}
    (h : (n.takeIn lsdb dd headers).popAcknowledged = .ok popped) :
    n.Bystands popped := by
  obtain ⟨-, rfl⟩ := popAcknowledged_eq_ok.mp h
  obtain ⟨seqNum, hfollow⟩ := n.follow_eq dd
  have hchecked : (n.follow dd).Bystands
      ((n.follow dd).afterTypes headers) := by
    rw [afterTypes]
    split_ifs
    · exact restartExchange_bystands _
    · exact bystands_refl _
  have hfollowed : n.Bystands (n.follow dd) := by
    rw [hfollow]
    exact bystands_of_state rfl rfl
  exact (hfollowed.trans hchecked).trans (bystands_of_state rfl rfl)

theorem reachFull_bystands {n : Neighbor} (h : n.state = .exchange) :
    n.Bystands n.reachFull := by
  refine bystands_of_exStart rfl ?_ ?_ fun hl => by cases hl
  · rw [h]
    decide
  · exact show NeighborState.exStart ≤ .full by decide

end Neighbor

/-! ## Interfaces and routers -/

namespace Interface

/-- The interface has changed in its records only, and not to Hellos and
elections. -/
structure Alike (inter inter' : Interface) : Prop where
  rest : inter' = { inter with neighbors := inter'.neighbors }
  bystand : List.Forall₂ Neighbor.Bystands inter.neighbors inter'.neighbors

variable {inter inter' inter'' : Interface} {ip : UInt32}

theorem alike_refl (inter : Interface) : inter.Alike inter :=
  ⟨rfl, List.forall₂_same.mpr fun n _ => Neighbor.bystands_refl n⟩

theorem Alike.neighbors (h : inter.Alike inter') :
    List.Forall₂ Neighbor.Alike inter.neighbors inter'.neighbors :=
  h.bystand.imp fun _ _ hn => hn.toAlike

theorem Alike.trans (h : inter.Alike inter') (h' : inter'.Alike inter'') :
    inter.Alike inter'' := by
  refine ⟨?_, forall₂_trans (fun _ _ _ hab hbc => hab.trans hbc) h.bystand
    h'.bystand⟩
  rw [h'.rest, h.rest]

theorem alike_modifyNeighbor {f : Neighbor → Neighbor}
    (hf : ∀ n, inter.findNeighbor ip = some n → n.Bystands (f n)) :
    inter.Alike (inter.modifyNeighbor ip f) :=
  ⟨rfl, forall₂_modifyNeighbor Neighbor.bystands_refl hf⟩

theorem alike_map {f : Neighbor → Neighbor}
    (hf : ∀ n : Neighbor, n.Bystands (f n)) :
    inter.Alike { inter with neighbors := inter.neighbors.map f } := by
  refine ⟨rfl, ?_⟩
  rw [List.forall₂_map_right_iff]
  exact List.forall₂_same.mpr fun n _ => hf n

theorem Alike.auType (h : inter.Alike inter') :
    inter'.auType = inter.auType := by
  rw [h.rest]

theorem Alike.addresses (h : inter.Alike inter') :
    inter'.neighbors.map Neighbor.ip = inter.neighbors.map Neighbor.ip :=
  Router.addresses_of_forall₂ (R := Neighbor.Alike) (fun _ _ hn => hn.ip)
    h.neighbors

end Interface

namespace Router

/-- The authentication types of the interfaces. -/
def auTypes (r : Router) : List UInt32 :=
  r.interfacesBefore.map Interface.auType ++
    r.interface.auType :: r.interfacesAfter.map Interface.auType

/-- A packet that the router can put on the segment besides its Hellos: one
with its own ids and the authentication type of one of its interfaces, and if
it is a Database Description packet, one for a neighbor. -/
def MaySend (r : Router) (dst : UInt32) (bytes : List UInt8) : Prop :=
  ∃ inter ∈ r.interfaces, ∃ type data,
    bytes = r.ospfPacket inter.auType type data ∧
      (type = typeDd ∧ dst ∈ r.addresses ∨ type = typeLsu ∨
        type = typeLsAck)

/-- To Hellos and elections the router is the same, and it has sent what it
can send. -/
structure Bystands (r r' : Router) : Prop where
  routerId : r'.routerId = r.routerId
  areaId : r'.areaId = r.areaId
  ospfOptions : r'.ospfOptions = r.ospfOptions
  uninit : r'.uninit = r.uninit
  interface : r.interface.Alike r'.interface
  auTypes : r'.auTypes = r.auTypes
  log : ∃ entries, r'.log = r.log ++ entries ∧
    ∀ dst bytes, .sent dst bytes ∈ entries → r.MaySend dst bytes

variable {r r' r'' : Router} {ip : UInt32} {packet : Memory}

theorem mem_auTypes {auType : UInt32} :
    auType ∈ r.auTypes ↔ ∃ inter ∈ r.interfaces, inter.auType = auType := by
  rw [← List.mem_map, interfaces, List.map_append, List.map_cons, auTypes]

theorem interface_mem_interfaces (r : Router) : r.interface ∈ r.interfaces :=
  List.mem_append_right _ List.mem_cons_self

/-- What one router can send, so can another one with the same ids,
authentication types and neighbors. -/
theorem MaySend.of_eq {dst : UInt32} {bytes : List UInt8}
    (h : r'.MaySend dst bytes) (hid : r'.routerId = r.routerId)
    (harea : r'.areaId = r.areaId) (hauTypes : r'.auTypes = r.auTypes)
    (haddresses : r'.addresses ⊆ r.addresses) : r.MaySend dst bytes := by
  obtain ⟨inter, hinter, type, data, rfl, htype⟩ := h
  have hmem : inter.auType ∈ r.auTypes :=
    hauTypes ▸ mem_auTypes.mpr ⟨inter, hinter, rfl⟩
  obtain ⟨other, hother, hsame⟩ := mem_auTypes.mp hmem
  refine ⟨other, hother, type, data, ?_, htype.imp_left fun hdd =>
    ⟨hdd.1, haddresses hdd.2⟩⟩
  rw [ospfPacket, ospfPacket, hid, harea, hsame]

theorem bystands_refl (r : Router) : r.Bystands r :=
  ⟨rfl, rfl, rfl, rfl, r.interface.alike_refl, rfl, [], by simp, by simp⟩

theorem Bystands.addresses (h : r.Bystands r') :
    r'.addresses = r.addresses := h.interface.addresses

theorem Bystands.trans (h : r.Bystands r') (h' : r'.Bystands r'') :
    r.Bystands r'' := by
  obtain ⟨entries, hlog, hsent⟩ := h.log
  obtain ⟨entries', hlog', hsent'⟩ := h'.log
  refine ⟨h'.routerId.trans h.routerId, h'.areaId.trans h.areaId,
    h'.ospfOptions.trans h.ospfOptions, h'.uninit.trans h.uninit,
    h.interface.trans h'.interface, h'.auTypes.trans h.auTypes,
    entries ++ entries', ?_, ?_⟩
  · rw [hlog', hlog, List.append_assoc]
  · intro dst bytes hmem
    rcases List.mem_append.mp hmem with hold | hnew
    · exact hsent dst bytes hold
    · exact (hsent' dst bytes hnew).of_eq h.routerId h.areaId h.auTypes
        (h.addresses ▸ List.Subset.refl _)

theorem bystands_modifyNeighbor {f : Neighbor → Neighbor}
    (hf : ∀ n, r.findNeighbor ip = some n → n.Bystands (f n)) :
    r.Bystands (r.modifyNeighbor ip f) :=
  ⟨rfl, rfl, rfl, rfl, Interface.alike_modifyNeighbor hf, rfl, [], by
    rw [List.append_nil]
    rfl, by simp⟩

/-- An entry of the log that is no packet, or a packet that can be sent. -/
theorem bystands_addLog {entry : LogEntry}
    (hentry : ∀ dst bytes, entry = .sent dst bytes → r.MaySend dst bytes) :
    r.Bystands (r.addLog entry) :=
  ⟨rfl, rfl, rfl, rfl, r.interface.alike_refl, rfl, [entry], rfl,
    fun dst bytes hmem => hentry dst bytes (List.mem_singleton.mp hmem).symm⟩

theorem bystands_sendLsu (dst : UInt32) (data : List UInt8) :
    r.Bystands (r.sendOspfPacket dst typeLsu data) := by
  apply bystands_addLog
  rintro dst' bytes h
  obtain ⟨rfl, rfl⟩ := LogEntry.sent.inj h
  exact ⟨_, r.interface_mem_interfaces, _, _, rfl, Or.inr (Or.inl rfl)⟩

theorem bystands_sendLsack (dst : UInt32) (data : List UInt8) :
    r.Bystands (r.sendOspfPacket dst typeLsAck data) := by
  apply bystands_addLog
  rintro dst' bytes h
  obtain ⟨rfl, rfl⟩ := LogEntry.sent.inj h
  exact ⟨_, r.interface_mem_interfaces, _, _, rfl, Or.inr (Or.inr rfl)⟩

theorem bystands_sendDd {dst : UInt32} (hdst : dst ∈ r.addresses)
    (data : List UInt8) :
    r.Bystands (r.sendOspfPacket dst typeDd data) := by
  apply bystands_addLog
  rintro dst' bytes h
  obtain ⟨rfl, rfl⟩ := LogEntry.sent.inj h
  exact ⟨_, r.interface_mem_interfaces, _, _, rfl, Or.inl ⟨rfl, hdst⟩⟩

/-! ## The branches -/

/-- An event that restarts the exchange. -/
theorem restart_bystands (ip : UInt32) (event : NeighborEvent) (r : Router) :
    r.Bystands ((r.modifyNeighbor ip fun n => n.restartExchange.1).addLog
      (.raised ip event)) := by
  apply (bystands_modifyNeighbor fun n _ => n.restartExchange_bystands).trans
  exact bystands_addLog fun _ _ h => by cases h

theorem putNeighbor_bystands {m n : Neighbor} {entries : List LogEntry}
    (hfind : r.findNeighbor ip = some m) (halike : m.Bystands n)
    (hsent : ∀ dst bytes, .sent dst bytes ∈ entries → r.MaySend dst bytes) :
    r.Bystands (r.putNeighbor ip n entries) := by
  refine ⟨rfl, rfl, rfl, rfl, ?_, rfl, entries, rfl, hsent⟩
  apply Interface.alike_modifyNeighbor
  intro n' hn'
  rw [show n' = m from Option.some.inj (hn'.symm.trans hfind)]
  exact halike

theorem Originates.bystands (h : r.Originates r') : r.Bystands r' := by
  obtain ⟨lsdb, count, headers, rfl⟩ := h
  exact ⟨rfl, rfl, rfl, rfl,
    Interface.alike_map fun n => n.pushAll_bystands headers, rfl, [],
    by simp, by simp⟩

theorem updateLsas_bystands (r : Router) : r.Bystands r.updateLsas := by
  have horig : r.Bystands r.updateOwnNetworkLsa.1.updateOwnRouterLsa.1 :=
    (r.updateOwnNetworkLsa_originates.trans
      (updateOwnRouterLsa_originates _)).bystands
  rw [updateLsas]
  split_ifs
  · exact horig
  · exact horig.trans (bystands_sendLsu _ _)

theorem recvLsr_bystands (h : r.recvLsr packet = .ok r') :
    r.Bystands r' := by
  rcases recvLsr_cases h with rfl | ⟨_, _, rfl⟩ | ⟨-, rfl⟩
  · exact bystands_refl _
  · exact bystands_sendLsu _ _
  · exact restart_bystands _ _ r

theorem recvLsAck_bystands (h : r.recvLsAck packet = .ok r') :
    r.Bystands r' := by
  rcases recvLsAck_cases h with rfl | ⟨_, _, -, -, -, rfl⟩
  · exact bystands_refl _
  · exact bystands_modifyNeighbor fun n _ => Neighbor.bystands_of_state rfl rfl

/-- Flooding sends LSUs. -/
theorem floodingLsa_maySend {data : Memory} {src : UInt32}
    {inter : Interface} {dst : UInt32} {bytes : List UInt8}
    (hinter : inter ∈ r.interfaces)
    (h : .sent dst bytes ∈ (r.floodingLsa data src inter).2.1) :
    r.MaySend dst bytes := by
  simp only [floodingLsa] at h
  split_ifs at h
  · cases h
  · obtain ⟨rfl, rfl⟩ := LogEntry.sent.inj (List.mem_singleton.mp h)
    exact ⟨inter, hinter, _, _, rfl, Or.inr (Or.inl rfl)⟩
  · cases h

theorem floodingLsa_alike (r : Router) (data : Memory) (src : UInt32)
    (inter : Interface) :
    inter.Alike (r.floodingLsa data src inter).1 := by
  by_cases hexternal : (lsaHeaderHost data).lsType = lsaAsExternal
  · rw [floodingLsa, if_pos hexternal]
    exact inter.alike_refl
  · rw [floodingLsa_fst r src inter hexternal]
    exact Interface.alike_map fun n => n.flood_bystands _ _

theorem acceptLsa_bystands {src : UInt32} {data : Memory} {s s' : LsuState}
    (h : acceptLsa src data s = .ok s') :
    s.router.Bystands s'.router := by
  obtain ⟨lsdb, -, rfl⟩ := Outcome.map_eq_ok.mp h
  have hauType : ∀ inter : Interface,
      (s.router.floodingLsa data src inter).1.auType = inter.auType :=
    fun inter => (floodingLsa_alike _ _ _ _).auType
  refine ⟨rfl, rfl, rfl, rfl, ?_, ?_, _, by
    simp only [purge, floodArea, List.append_assoc]
    rfl, ?_⟩
  · exact (floodingLsa_alike _ _ _ _).trans
      (Interface.alike_map fun n => Neighbor.bystands_of_state rfl rfl)
  · simp only [auTypes, purge, floodArea, List.map_map, Function.comp_def,
      hauType]
  · intro dst bytes hmem
    simp only [List.mem_append, List.mem_flatMap, List.mem_map] at hmem
    rcases hmem with ⟨_, ⟨inter, hinter, rfl⟩, hmem⟩ | hmem |
      ⟨_, ⟨inter, hinter, rfl⟩, hmem⟩
    · exact floodingLsa_maySend (List.mem_append_left _ hinter) hmem
    · exact floodingLsa_maySend s.router.interface_mem_interfaces hmem
    · exact floodingLsa_maySend
        (List.mem_append_right _ (List.mem_cons_of_mem _ hinter)) hmem

theorem rejectLsa_bystands {src : UInt32} {data : Memory} {same : Bool}
    {s s' : LsuState} (h : rejectLsa src data same s = .ok s') :
    s.router.Bystands s'.router := by
  rcases rejectLsa_cases h with
    ⟨-, hrouter⟩ | ⟨-, r, lsdb, rfl | rfl, hrouter, -⟩
  · rw [hrouter]
    exact restart_bystands _ _ _
  · rw [hrouter]
    exact ⟨rfl, rfl, rfl, rfl, Interface.alike_refl _, rfl, [], by simp,
      by simp⟩
  · rw [hrouter]
    have hpurge : s.router.Bystands (s.router.modifyNeighbor (ntohl src)
        (Neighbor.purgeRetransmissions (lsaHeaderHost data))) :=
      bystands_modifyNeighbor fun n _ => Neighbor.bystands_of_state rfl rfl
    exact ⟨rfl, rfl, rfl, rfl, hpurge.interface, hpurge.auTypes, hpurge.log⟩

theorem lsuRound_bystands {src : UInt32} {data : Memory} {s s' : LsuState}
    (h : lsuRound src s data = .ok s') : s.router.Bystands s'.router := by
  rcases lsuRound_cases h with
    rfl | ⟨-, -, -, ⟨-, haccept⟩ | ⟨-, same, hreject⟩⟩
  · exact bystands_refl _
  · exact acceptLsa_bystands haccept
  · exact rejectLsa_bystands hreject

theorem recvLsu_bystands (h : r.recvLsu packet = .ok r') :
    r.Bystands r' := by
  rw [recvLsu_eq] at h
  split_ifs at h
  obtain ⟨s, hrun, rfl⟩ := Outcome.map_eq_ok.mp h
  have hrounds : r.Bystands s.router := runFrom_invariant
    (I := fun s => r.Bystands s.router) (P := fun _ _ => True)
    (fun _ _ _ hs _ hs' => hs.trans (lsuRound_bystands hs'))
    (bystands_refl r) (along_of_forall (fun _ _ => trivial) _) hrun
  rw [sendLsack]
  split_ifs
  · exact hrounds.trans (bystands_sendLsack _ _)
  · exact hrounds

theorem mem_addresses {n : Neighbor} (h : r.findNeighbor ip = some n) :
    ip ∈ r.addresses :=
  List.mem_map.mpr ⟨n, List.mem_of_find?_eq_some h, findNeighbor_ip h⟩

theorem replyDd_bystands {n : Neighbor} (hfind : r.findNeighbor ip = some n) :
    r.Bystands (r.replyDd ip) := by
  rw [replyDd_eq hfind]
  apply putNeighbor_bystands hfind (n.reply_bystands _ _ _)
  intro dst bytes hmem
  obtain ⟨rfl, rfl⟩ := LogEntry.sent.inj (List.mem_singleton.mp hmem)
  exact ⟨_, r.interface_mem_interfaces, _, _, rfl,
    Or.inl ⟨rfl, mem_addresses hfind⟩⟩

theorem sendEmptyDd_bystands (ip : UInt32) (r : Router) :
    r.Bystands (r.sendEmptyDd ip) := by
  rw [sendEmptyDd]
  cases hfind : r.findNeighbor ip with
  | none => exact bystands_refl r
  | some n =>
      simp only
      split_ifs
      · apply bystands_sendDd
        rw [findNeighbor_ip hfind]
        exact mem_addresses hfind
      · exact bystands_refl r

/-- The part of the DD branch behind the chain of states. -/
theorem acceptDd_bystands {n : Neighbor} {dd : OSPFDD}
    {headers : List LSAHeader} (hfind : r.findNeighbor ip = some n)
    (h : r.acceptDd ip dd headers = .ok r') : r.Bystands r' := by
  rw [acceptDd_eq hfind] at h
  obtain ⟨popped, hpopped, rfl⟩ := Outcome.map_eq_ok.mp h
  have halike := Neighbor.popped_bystands hpopped
  have hip : popped.ip = ip := halike.ip.trans (findNeighbor_ip hfind)
  rw [concludeDd_putNeighbor hfind hip]
  have hnothing : ∀ dst bytes, LogEntry.sent dst bytes ∉
      (headers.filter fun h => decide (Neighbor.BadType h)).map
          (fun _ => LogEntry.raised ip .seqNumberMismatch) ++
        [.accepted ip (headers.map LSAHeader.ddDecode)] := by
    intro dst bytes hmem
    rcases List.mem_append.mp hmem with hraised | haccepted
    · obtain ⟨_, -, hraised⟩ := List.mem_map.mp hraised
      cases hraised
    · cases List.mem_singleton.mp haccepted
  split_ifs with hdone
  · have hfull : popped.reachFull.ip = ip := hip
    refine ((putNeighbor_bystands hfind
      (halike.trans (Neighbor.reachFull_bystands hdone.2.2))
      fun dst bytes hmem => absurd hmem (hnothing dst bytes)).trans
        (updateLsas_bystands _)).trans ?_
    exact replyDd_bystands (findNeighbor_updateLsas
      (findNeighbor_putNeighbor hfind hfull _))
  · exact (putNeighbor_bystands hfind halike
      fun dst bytes hmem => absurd hmem (hnothing dst bytes)).trans
        (replyDd_bystands (findNeighbor_putNeighbor hfind hip _))

/-- The chain of states and what is behind it. -/
theorem verdict_bystands {m begun : Neighbor} {dd : OSPFDD}
    {headers : Option (List LSAHeader)}
    (hfind : r.findNeighbor ip = some m) (hip : begun.ip = ip)
    (hbegun : m.beginDd r.interface dd = begun)
    (h : r.handleDd ip dd headers = .ok r') :
    (r.modifyNeighbor ip fun _ => begun).Bystands r' := by
  rw [handleDd_eq hfind] at h
  simp only [hbegun] at h
  have hfound : (r.modifyNeighbor ip fun _ => begun).findNeighbor ip =
      some begun := by
    rw [modifyNeighbor_eq_putNeighbor hfind]
    exact findNeighbor_putNeighbor hfind hip []
  cases hverdict : begun.ddVerdict r.routerId r.lsdb
      (decide (m.IsDuplicate dd)) dd with
  | ignore =>
      rw [hverdict, Except.ok.injEq] at h
      exact h ▸ bystands_refl _
  | resend =>
      rw [hverdict, Except.ok.injEq] at h
      rw [← h, resendDd, hip]
      exact bystands_sendDd (mem_addresses hfound) _
  | mismatch =>
      rw [hverdict, Except.ok.injEq] at h
      exact h ▸ restart_bystands _ _ _
  | accept n =>
      simp only [hverdict] at h
      have halike := Neighbor.accepted_bystands hverdict
      have hnip : n.ip = ip := halike.ip.trans hip
      cases headers with
      | none => cases h
      | some headers =>
          have hnegotiated : (r.modifyNeighbor ip fun _ => begun).Bystands
              ((r.modifyNeighbor ip fun _ => begun).modifyNeighbor ip
                fun _ => n) :=
            bystands_modifyNeighbor fun k hk => by
              rw [Option.some.inj (hk.symm.trans hfound)]
              exact halike
          have hfound' : ((r.modifyNeighbor ip fun _ => begun).modifyNeighbor
              ip fun _ => n).findNeighbor ip = some n := by
            rw [modifyNeighbor_eq_putNeighbor hfound]
            exact findNeighbor_putNeighbor hfound hnip []
          simp only at h
          split_ifs at h
          · refine hnegotiated.trans ((bystands_addLog fun _ _ h => ?_).trans
              (acceptDd_bystands hfound' h))
            cases h
          · exact hnegotiated.trans (acceptDd_bystands hfound' h)

/-- A Database Description packet can make the router count a neighbor in INIT
as one that lists it; for the rest it changes nothing to Hellos. -/
theorem recvDd_bystands (h : r.recvDd packet = .ok r') :
    r.Bystands r' ∨
      (r.modifyNeighbor (ntohl (packet.load32 12))
        (Neighbor.event2wayReceived r.interface)).Bystands r' := by
  rw [recvDd] at h
  generalize ntohl (packet.load32 12) = ip at h ⊢
  generalize OSPFDD.load (packet.advance bodyOffset) = dd at h
  cases hfind : r.findNeighbor ip with
  | none =>
      rw [handleDd, hfind, Except.ok.injEq] at h
      exact Or.inl (h ▸ bystands_refl _)
  | some m =>
      have hmip := findNeighbor_ip hfind
      rcases m.beginDd_bystands r.interface dd with halike | halike
      · left
        refine Bystands.trans ?_ (verdict_bystands hfind
          (halike.ip.trans hmip) rfl h)
        apply bystands_modifyNeighbor
        intro n hn
        rw [Option.some.inj (hn.symm.trans hfind)]
        exact halike
      · right
        have hip : ∀ n : Neighbor,
            (n.event2wayReceived r.interface).ip = n.ip := fun n =>
          congrArg Candidate.ip (n.event2wayReceived_candidate r.interface)
        have hbegun : r.modifyNeighbor ip (fun _ => m.beginDd r.interface dd) =
            (r.modifyNeighbor ip
              (Neighbor.event2wayReceived r.interface)).modifyNeighbor ip
                fun _ => m.beginDd r.interface dd := by
          have hinter := @Interface.modifyNeighbor_modifyNeighbor r.interface
            ip _ (fun n hn => (hip n).trans hn)
            fun _ => m.beginDd r.interface dd
          simp only [Router.modifyNeighbor, hinter]
        have hverdict := verdict_bystands hfind
          ((halike.ip.trans (hip m)).trans hmip) rfl h
        rw [hbegun] at hverdict
        refine Bystands.trans ?_ hverdict
        apply bystands_modifyNeighbor
        intro n hn
        have hn' : (r.interface.modifyNeighbor ip
            (Neighbor.event2wayReceived r.interface)).findNeighbor ip =
              some n := hn
        rw [Interface.findNeighbor_modifyNeighbor
          fun n hn => (hip n).trans hn] at hn'
        obtain ⟨k, hk, rfl⟩ := Option.map_eq_some_iff.mp hn'
        rw [Option.some.inj (hk.symm.trans hfind)]
        exact halike

/-! ## All steps -/

/-- What a completed step has done, as far as Hellos and elections go. -/
inductive Effect (r : Router) : Step → Router → Prop where
  | timers {now : ℤ} {r' : Router} (h : r.timers now = .ok r') :
      Effect r (.timers now) r'
  | hello {now : ℤ} {packet : Memory} {r' : Router}
      (hadmits : r.Admits packet) (htype : packet 21 = typeHello)
      (h : r.recvHello now packet = .ok r') : Effect r (.frame now packet) r'
  | dd {now : ℤ} {packet : Memory} {r' : Router} (hadmits : r.Admits packet)
      (htype : packet 21 = typeDd)
      (h : (r.modifyNeighbor (ntohl (packet.load32 12))
        (Neighbor.event2wayReceived r.interface)).Bystands r') :
      Effect r (.frame now packet) r'
  | waitingTimeout :
      Effect r .waitingTimeout
        { r with interface := { r.interface with waitingTimeout := true } }
  | bystands {step : Step} {r' : Router} (h : r.Bystands r') :
      Effect r step r'

theorem step_effect {step : Step} (h : r.step step = .ok r') :
    r.Effect step r' := by
  cases step with
  | timers now => exact .timers h
  | waitingTimeout =>
      rw [Router.step, Except.ok.injEq] at h
      exact h ▸ .waitingTimeout
  | emptyDd ip =>
      rw [Router.step, Except.ok.injEq] at h
      exact h ▸ .bystands (sendEmptyDd_bystands ip r)
  | emptyDdSenderEnds ip =>
      rw [Router.step, Except.ok.injEq] at h
      exact h ▸ .bystands (bystands_modifyNeighbor fun n _ =>
        Neighbor.bystands_of_state rfl rfl)
  | frame now packet =>
      rw [Router.step, recvOspfPacket] at h
      split_ifs at h with hadmits hhello hdd hlsr hlsu hlsack
      · exact .hello hadmits hhello h
      · rcases recvDd_bystands h with hby | hby
        · exact .bystands hby
        · exact .dd hadmits hdd hby
      · exact .bystands (recvLsr_bystands h)
      · exact .bystands (recvLsu_bystands h)
      · exact .bystands (recvLsAck_bystands h)
      all_goals
        rw [Except.ok.injEq] at h
        exact h ▸ .bystands (bystands_refl r)

end Router

end OspfLite
