import OspfLite.Exchange.Party

/-!
# The router plays a party

The Database Description branch, reading packets and writing packets, does
what the party with the same record does with the messages.
-/

namespace OspfLite

/-! ## What the log says about the exchange -/

namespace LogEntry

/-- The headers accepted from the neighbor at `ip`. -/
def acceptedFrom (ip : UInt32) : LogEntry → List LSAHeader
  | .accepted ip' headers => if ip' = ip then headers else []
  | _ => []

/-- The summary list filled for the neighbor at `ip`. -/
def snapshotFor (ip : UInt32) : LogEntry → Option (List LSAHeader)
  | .negotiated ip' summary => if ip' = ip then some summary else none
  | _ => none

/-- The DD packet sent to the router at `ip`. -/
def ddPacketTo (ip : UInt32) : LogEntry → Option (List UInt8)
  | .sent dst packet =>
      if dst = ip ∧ packet[1]? = some typeDd then some packet else none
  | _ => none

end LogEntry

namespace Router

/-- The headers accepted from the neighbor at `ip`, in order. -/
def acceptedFrom (ip : UInt32) (r : Router) : List LSAHeader :=
  r.log.flatMap (LogEntry.acceptedFrom ip)

/-- The snapshot taken by the latest `event_negotiation_done` for the neighbor
at `ip`. -/
def snapshotFor (ip : UInt32) (r : Router) : Option (List LSAHeader) :=
  (r.log.filterMap (LogEntry.snapshotFor ip)).getLast?

/-- Between `r` and `r'` the router has sent these DD packets to `ip`. -/
def Emits (ip : UInt32) (r r' : Router) (packets : List (List UInt8)) :
    Prop :=
  ∃ entries, r'.log = r.log ++ entries ∧
    entries.filterMap (LogEntry.ddPacketTo ip) = packets

variable {ip : UInt32} {r r' r'' : Router} {packets : List (List UInt8)}

theorem ddPacketTo_sent (ip : UInt32) (r : Router) (auType : UInt32)
    (data : List UInt8) :
    (LogEntry.sent ip (r.ospfPacket auType typeDd data)).ddPacketTo ip =
      some (r.ospfPacket auType typeDd data) :=
  if_pos ⟨rfl, ospfPacket_type _ _ _ _⟩

theorem emits_of_log_eq (h : r'.log = r.log) : r.Emits ip r' [] :=
  ⟨[], by rw [h, List.append_nil], rfl⟩

theorem emits_of_entry {entry : LogEntry} (h : r'.log = r.log ++ [entry]) :
    r.Emits ip r' (entry.ddPacketTo ip).toList := by
  refine ⟨[entry], h, ?_⟩
  cases hentry : entry.ddPacketTo ip <;> simp [hentry]

theorem Emits.trans {packets' : List (List UInt8)} (h : r.Emits ip r' packets)
    (h' : r'.Emits ip r'' packets') :
    r.Emits ip r'' (packets ++ packets') := by
  obtain ⟨entries, hlog, rfl⟩ := h
  obtain ⟨entries', hlog', rfl⟩ := h'
  exact ⟨entries ++ entries', by rw [hlog', hlog, List.append_assoc],
    List.filterMap_append⟩

/-- The packets sent in between are determined. -/
theorem Emits.unique {packets' : List (List UInt8)}
    (h : r.Emits ip r' packets) (h' : r.Emits ip r' packets') :
    packets = packets' := by
  obtain ⟨entries, hlog, rfl⟩ := h
  obtain ⟨entries', hlog', rfl⟩ := h'
  rw [hlog, List.append_cancel_left_eq] at hlog'
  rw [hlog']

/-- `update_lsas` sends no DD packet. -/
theorem emits_updateLsas (ip : UInt32) (r : Router) :
    r.Emits ip r.updateLsas [] := by
  obtain ⟨r', entries, ⟨_, _, _, rfl⟩, heq, hentries⟩ := r.updateLsas_eq
  refine ⟨entries, by rw [heq], ?_⟩
  apply List.filterMap_eq_nil_iff.mpr
  intro entry hentry
  obtain ⟨dst, packet, rfl, htype⟩ := hentries entry hentry
  rw [LogEntry.ddPacketTo, if_neg]
  rintro ⟨-, hdd⟩
  rw [htype] at hdd
  exact absurd hdd (by decide)

end Router

/-! ## Records -/

namespace Neighbor

/-- The neighbor record holds what the party remembers. -/
structure Matches (n : Neighbor) (d : DdRecord) : Prop where
  id : n.id = d.peerId
  state : n.state = d.state
  isMaster : n.isMaster = d.isMaster
  ddSeqNum : n.ddSeqNum = d.ddSeqNum
  lastReceived : DdFlags.mk n.lastRecvDdI n.lastRecvDdM n.lastRecvDdMs
    n.lastRecvDdSeqNum = d.lastReceived
  nothingSent : d.lastSent = none → n.lastSendDdDataLen = 0
  lastSent : ∀ m, d.lastSent = some m → m.Encodes n.lastSendDdData ∧
    n.lastSendDdDataLen = UInt32.ofNat n.lastSendDdData.length
  summary : n.databaseSummaryList = d.summary

variable {n : Neighbor} {d : DdRecord} {m : DdMessage} {dd : OSPFDD}
  {raw : List LSAHeader}

theorem recordDd_ip (n : Neighbor) (dd : OSPFDD) :
    (n.recordDd dd).ip = n.ip := by
  rw [Neighbor.recordDd]

theorem Matches.recordDd (h : n.Matches d) (hm : m.Decodes dd raw) :
    (n.recordDd dd).Matches (d.hear m) := by
  have hflags : DdFlags.mk dd.bI dd.bM dd.bMs (ntohl dd.ddSeqNum) =
      m.toDdFlags := by
    rw [hm.init, hm.more, hm.master, hm.seqNum]
  rw [Neighbor.recordDd, DdRecord.hear]
  exact { h with lastReceived := hflags }

/-- The duplicate test of the source compares all the flags. -/
theorem Matches.isDuplicate (h : n.Matches d) (hm : m.Decodes dd raw) :
    n.IsDuplicate dd ↔ m.toDdFlags = d.lastReceived := by
  rw [← h.lastReceived, IsDuplicate, hm.init, hm.more, hm.master, hm.seqNum]
  obtain ⟨⟨init, more, master, seqNum⟩, headers⟩ := m
  simp only [DdFlags.mk.injEq]
  tauto

/-- `lastSendDdDataLen` is the length of the data kept. -/
theorem Matches.lastSendDdDataLen (h : n.Matches d) {m : DdMessage}
    (hm : d.lastSent = some m) :
    n.lastSendDdDataLen.toNat = n.lastSendDdData.length ∧
      n.lastSendDdData.length = 8 + 20 * m.headers.length := by
  obtain ⟨hencodes, hlen⟩ := h.lastSent m hm
  obtain ⟨hsize, hcap⟩ := hencodes.length
  have hcap' : m.headers.length ≤ 50 := hcap
  have hsize' : n.lastSendDdData.length = 8 + 20 * m.headers.length := hsize
  refine ⟨?_, hsize'⟩
  rw [hlen, UInt32.toNat_ofNat']
  omega

/-- `cnt` counts the headers of the packet sent last. -/
theorem Matches.acknowledgedCount (h : n.Matches d) :
    n.acknowledgedCount = d.acknowledged := by
  rw [Neighbor.acknowledgedCount, DdRecord.acknowledged]
  cases hsent : d.lastSent with
  | none => rw [if_pos (h.nothingSent hsent)]
  | some m =>
      obtain ⟨hlen, hsize⟩ := h.lastSendDdDataLen hsent
      have hne : n.lastSendDdDataLen ≠ 0 := by
        intro hzero
        rw [hzero, UInt32.toNat_zero] at hlen
        omega
      rw [if_neg hne, hlen, hsize, OSPFDD.size, LSAHeader.size]
      dsimp only
      omega

/-- The packet kept is sent again in full. -/
theorem Matches.take_lastSend (h : n.Matches d) {m : DdMessage}
    (hm : d.lastSent = some m) :
    m.Encodes (n.lastSendDdData.take n.lastSendDdDataLen.toNat) := by
  rw [(h.lastSendDdDataLen hm).1, List.take_length]
  exact (h.lastSent m hm).1

/-- The reply of the source encodes the reply of the party. -/
theorem Matches.ddReply (h : n.Matches d) (mtu : UInt16)
    (options ddOther : UInt8) :
    d.reply.Encodes (n.ddReply mtu options ddOther) := by
  refine ⟨
    { interfaceMtu := htons mtu
      options := options
      bMs := !n.isMaster
      bM := decide (ddCapacity < n.databaseSummaryList.length)
      bI := false
      bOther := ddOther
      ddSeqNum := htonl n.ddSeqNum },
    (d.summary.take ddCapacity).map LSAHeader.hton, ?_, ?_, ?_⟩
  · rw [Neighbor.ddReply, h.summary, List.flatMap_map]
  · rw [List.length_map, List.length_take]
    exact min_le_left _ _
  · exact
      { init := rfl
        more := by rw [DdRecord.reply, ← h.summary]
        master := by rw [DdRecord.reply, ← h.isMaster]
        seqNum := by rw [DdRecord.reply, ← h.ddSeqNum, ntohl_htonl]
        headers := by
          rw [DdRecord.reply, List.map_map]
          exact List.map_congr_left fun h _ => h.ddDecode_hton }

theorem Matches.follow (h : n.Matches d) (hm : m.Decodes dd raw) :
    (if n.isMaster then { n with ddSeqNum := ntohl dd.ddSeqNum }
      else n).Matches (d.follow m) := by
  rw [DdRecord.follow]
  by_cases hmaster : d.isMaster = true
  · rw [if_pos hmaster, if_pos (h.isMaster.trans hmaster)]
    exact { h with ddSeqNum := hm.seqNum }
  · rw [if_neg hmaster, if_neg (by rwa [h.isMaster])]
    exact h

theorem Matches.numberReply (h : n.Matches d) :
    n.numberReply.Matches d.advance := by
  rw [Neighbor.numberReply, DdRecord.advance]
  by_cases hmaster : d.isMaster = true
  · rw [if_pos hmaster, if_pos (h.isMaster.trans hmaster)]
    exact h
  · rw [if_neg hmaster, if_neg (by rwa [h.isMaster])]
    exact { h with ddSeqNum := congrArg (· + 1) h.ddSeqNum }

/-- Where the list is long enough, the acknowledged headers are dropped. -/
theorem Matches.popAcknowledged (h : n.Matches d)
    (hack : d.acknowledged ≤ d.summary.length) :
    ∃ popped, n.popAcknowledged = .ok popped ∧ popped.ip = n.ip ∧
      popped.Matches d.dropAcknowledged := by
  rw [Neighbor.popAcknowledged, h.acknowledgedCount, h.summary,
    if_pos hack]
  exact ⟨_, rfl, rfl, { h with summary := rfl }⟩

/-- The reply is kept. -/
theorem Matches.recordReply (h : n.Matches d) (mtu : UInt16)
    (options ddOther : UInt8) :
    (n.recordReply (n.ddReply mtu options ddOther)).Matches d.answer := by
  have hlast : ∀ m, some d.reply = some m →
      m.Encodes (n.ddReply mtu options ddOther) ∧
        UInt32.ofNat (n.ddReply mtu options ddOther).length =
          UInt32.ofNat (n.ddReply mtu options ddOther).length := by
    intro m hm
    rw [← Option.some.inj hm]
    exact ⟨h.ddReply mtu options ddOther, rfl⟩
  rw [Neighbor.recordReply, DdRecord.answer]
  exact { h with
    nothingSent := fun hnone => by cases hnone
    lastSent := hlast }

end Neighbor

/-! ## The router -/

namespace Router

/-- Towards the neighbor at `ip` the router is where the party is. -/
structure Plays (ip : UInt32) (r : Router) (p : Party) : Prop where
  record : ∃ n, r.findNeighbor ip = some n ∧ n.Matches p.toDdRecord
  routerId : r.routerId = p.routerId
  headers : p.snapshot = none → r.lsdb.headers = p.headers
  snapshot : r.snapshotFor ip = p.snapshot
  accepted : r.acceptedFrom ip = p.accepted
  noMismatch : ∀ ip', LogEntry.raised ip' .seqNumberMismatch ∉ r.log

variable {ip : UInt32} {r r' : Router} {p : Party} {d : DdRecord}
  {m : DdMessage} {dd : OSPFDD} {raw : List LSAHeader}

/-- A change of the record. -/
theorem Plays.modifyNeighbor {f : Neighbor → Neighbor} (h : r.Plays ip p)
    (hip : ∀ n, n.ip = ip → (f n).ip = ip)
    (hf : ∀ n, r.findNeighbor ip = some n → n.Matches p.toDdRecord →
      (f n).Matches d) :
    (r.modifyNeighbor ip f).Plays ip { p with toDdRecord := d } := by
  obtain ⟨n, hfind, hn⟩ := h.record
  refine ⟨⟨f n, ?_, hf n hfind hn⟩, h.routerId, h.headers, h.snapshot,
    h.accepted, h.noMismatch⟩
  rw [findNeighbor, Router.modifyNeighbor,
    Interface.findNeighbor_modifyNeighbor hip]
  exact congrArg (Option.map f) hfind

/-- A new entry of the log. -/
theorem Plays.addLog (h : r.Plays ip p) (entry : LogEntry)
    (hraised : ∀ ip', entry ≠ .raised ip' .seqNumberMismatch) :
    (r.addLog entry).Plays ip
      { p with
        snapshot := (entry.snapshotFor ip).or p.snapshot
        accepted := p.accepted ++ entry.acceptedFrom ip } := by
  refine ⟨h.record, h.routerId,
    fun hnone => h.headers (Option.or_eq_none_iff.mp hnone).2, ?_, ?_, ?_⟩
  · rw [← h.snapshot, snapshotFor, snapshotFor, Router.addLog,
      List.filterMap_append, List.getLast?_append]
    cases hentry : entry.snapshotFor ip <;> simp [hentry]
  · rw [← h.accepted, acceptedFrom, acceptedFrom, Router.addLog,
      List.flatMap_append, List.flatMap_singleton]
  · intro ip' hmem
    rcases List.mem_append.mp hmem with hold | hnew
    · exact h.noMismatch ip' hold
    · exact hraised ip' (List.mem_singleton.mp hnew).symm

/-- A packet that is sent is no news about the exchange. -/
theorem Plays.addLog_sent (h : r.Plays ip p) (dst : UInt32)
    (packet : List UInt8) : (r.addLog (.sent dst packet)).Plays ip p := by
  simpa [LogEntry.acceptedFrom, LogEntry.snapshotFor] using
    h.addLog (.sent dst packet) (by simp)

theorem Plays.addLog_accepted (h : r.Plays ip p) (headers : List LSAHeader) :
    (r.addLog (.accepted ip headers)).Plays ip
      { p with accepted := p.accepted ++ headers } := by
  simpa [LogEntry.acceptedFrom, LogEntry.snapshotFor] using
    h.addLog (.accepted ip headers) (by simp)

theorem Plays.addLog_negotiated (h : r.Plays ip p)
    (summary : List LSAHeader) :
    (r.addLog (.negotiated ip summary)).Plays ip
      { p with snapshot := some summary } := by
  simpa [LogEntry.acceptedFrom, LogEntry.snapshotFor] using
    h.addLog (.negotiated ip summary) (by simp)

theorem Plays.append_sent (h : r.Plays ip p) {entries : List LogEntry}
    (hsent : ∀ entry ∈ entries, ∃ dst packet, entry = .sent dst packet) :
    ({ r with log := r.log ++ entries }).Plays ip p := by
  induction entries generalizing r with
  | nil => simpa using h
  | cons entry entries ih =>
      obtain ⟨dst, packet, rfl⟩ := hsent entry List.mem_cons_self
      have hrest := ih (h.addLog_sent dst packet)
        fun entry hentry => hsent entry (List.mem_cons_of_mem _ hentry)
      simpa [Router.addLog] using hrest

/-- Originating an LSA concerns the retransmission lists only, once the
snapshot has been taken. -/
theorem Plays.originates (h : r.Plays ip p) (hsnapshot : p.snapshot ≠ none)
    (horig : r.Originates r') : r'.Plays ip p := by
  obtain ⟨lsdb, count, headers, rfl⟩ := horig
  obtain ⟨n, hfind, hn⟩ := h.record
  refine ⟨⟨n.pushAll headers, ?_, ?_⟩, h.routerId,
    fun hnone => absurd hnone hsnapshot, h.snapshot, h.accepted, h.noMismatch⟩
  · have hmap : ∀ neighbors : List Neighbor,
        (neighbors.map (Neighbor.pushAll headers)).find?
          (fun n => decide (n.ip = ip)) =
            (neighbors.find? fun n => decide (n.ip = ip)).map
              (Neighbor.pushAll headers) := by
      intro neighbors
      rw [List.find?_map]
      simp
    exact (hmap r.interface.neighbors).trans
      (congrArg (Option.map (Neighbor.pushAll headers)) hfind)
  · rw [Neighbor.pushAll]
    split_ifs
    · exact { hn with }
    · exact hn

/-- `update_lsas` is no news about an exchange under way. -/
theorem Plays.updateLsas (h : r.Plays ip p) (hsnapshot : p.snapshot ≠ none) :
    r.updateLsas.Plays ip p ∧ r.Emits ip r.updateLsas [] := by
  refine ⟨?_, r.emits_updateLsas ip⟩
  obtain ⟨r', entries, horig, heq, hentries⟩ := r.updateLsas_eq
  rw [heq]
  apply (h.originates hsnapshot horig).append_sent
  intro entry hentry
  obtain ⟨dst, packet, hsent, -⟩ := hentries entry hentry
  exact ⟨dst, packet, hsent⟩

/-- `event_exchange_done` ends the exchange and is heard by others only. -/
theorem Plays.eventExchangeDone (h : r.Plays ip p)
    (hstate : p.state = .exchange) (hsnapshot : p.snapshot ≠ none) :
    (r.eventExchangeDone ip).Plays ip { p with state := .full } ∧
      r.Emits ip (r.eventExchangeDone ip) [] := by
  obtain ⟨n, hfind, hn⟩ := h.record
  have hexchange : n.state = .exchange := hn.state.trans hstate
  have hmoved : (r.modifyNeighbor ip fun n => n.exchangeDoneState.1).Plays ip
      { p with state := .full } := by
    apply h.modifyNeighbor (d := { p.toDdRecord with state := .full })
    · intro n hip
      rw [Neighbor.exchangeDoneState]
      split_ifs <;> exact hip
    · intro n' _ hn'
      rw [Neighbor.exchangeDoneState, if_pos (hn'.state.trans hstate)]
      exact { hn' with state := rfl }
  have hdone : r.eventExchangeDone ip =
      (r.modifyNeighbor ip fun n => n.exchangeDoneState.1).updateLsas := by
    simp only [Router.eventExchangeDone, hfind]
    rw [if_pos]
    rw [Neighbor.exchangeDoneState, if_pos hexchange]
  rw [hdone]
  exact hmoved.updateLsas hsnapshot

/-- A DD packet is sent to the neighbor. -/
theorem Plays.sendDd (h : r.Plays ip p) {data : List UInt8}
    (hdata : m.Encodes data) :
    (r.sendOspfPacket ip typeDd data).Plays ip p ∧
      ∃ packet, r.Emits ip (r.sendOspfPacket ip typeDd data) [packet] ∧
        m.SaidBy packet := by
  refine ⟨h.addLog_sent ip _, r.ospfPacket r.interface.auType typeDd data,
    ⟨[.sent ip _], rfl, ?_⟩, hdata.saidBy r r.interface.auType⟩
  rw [List.filterMap_cons_some (ddPacketTo_sent ip r _ data),
    List.filterMap_nil]

/-- The end of the branch numbers the next message, sends it and keeps it. -/
theorem Plays.replyDd (h : r.Plays ip p) :
    (r.replyDd ip).Plays ip
        { p with toDdRecord := p.toDdRecord.advance.answer } ∧
      ∃ packet, r.Emits ip (r.replyDd ip) [packet] ∧
        p.toDdRecord.advance.reply.SaidBy packet := by
  have hnumbered : (r.modifyNeighbor ip Neighbor.numberReply).Plays ip
      { p with toDdRecord := p.toDdRecord.advance } := by
    apply h.modifyNeighbor
    · intro n hip
      rw [Neighbor.numberReply]
      split_ifs <;> exact hip
    · intro n _ hn
      exact hn.numberReply
  obtain ⟨n, hfind, hn⟩ := hnumbered.record
  have hip : n.ip = ip := Interface.findNeighbor_ip hfind
  simp only [Router.replyDd, hfind, hip]
  obtain ⟨hsent, packet, hemits, hsaid⟩ := hnumbered.sendDd (hn.ddReply _ _ _)
  refine ⟨?_, packet, hemits, hsaid⟩
  apply hsent.modifyNeighbor
  · intro n' hip'
    exact hip'
  · intro n' hfind' _
    have hsame : n' = n := Option.some.inj (hfind'.symm.trans hfind)
    rw [hsame]
    exact hn.recordReply _ _ _

/-- Headers of good types pass the type loop. -/
theorem checkTypes_eq (h : ∀ header ∈ raw, ¬Neighbor.BadType header)
    (r : Router) : r.checkTypes ip raw = r := by
  induction raw with
  | nil => rfl
  | cons header raw ih =>
      rw [Router.checkTypes, List.foldl_cons,
        if_neg (h header List.mem_cons_self)]
      exact ih fun header' hmem => h header' (List.mem_cons_of_mem _ hmem)

/-- The acknowledged headers are gone: end the exchange where it is over, and
reply. -/
theorem Plays.answerDd {popped : Neighbor} (h : r.Plays ip p)
    (hstate : p.state = .exchange) (hsnapshot : p.snapshot ≠ none)
    (hmore : dd.bM = m.more) (hip : popped.ip = ip)
    (hpopped : popped.Matches p.toDdRecord.dropAcknowledged) :
    let dropped := r.modifyNeighbor ip fun _ => popped
    let r' := if dd.bM = false ∧ popped.databaseSummaryList = [] then
      (dropped.eventExchangeDone ip).replyDd ip else dropped.replyDd ip
    r'.Plays ip { p with
        toDdRecord :=
          (p.toDdRecord.dropAcknowledged.finish m).advance.answer } ∧
      ∃ packet, r.Emits ip r' [packet] ∧
        (p.toDdRecord.dropAcknowledged.finish m).advance.reply.SaidBy
          packet := by
  intro dropped
  have hdropped : dropped.Plays ip
      { p with toDdRecord := p.toDdRecord.dropAcknowledged } :=
    h.modifyNeighbor (fun _ _ => hip) (fun _ _ _ => hpopped)
  rw [hmore, hpopped.summary, DdRecord.finish]
  by_cases hover : m.more = false ∧ p.toDdRecord.dropAcknowledged.summary = []
  · rw [if_pos hover, if_pos hover]
    obtain ⟨hdone, hquiet⟩ := hdropped.eventExchangeDone hstate hsnapshot
    obtain ⟨hplays, packet, hemits, hsaid⟩ := hdone.replyDd
    exact ⟨hplays, packet, hquiet.trans hemits, hsaid⟩
  · rw [if_neg hover, if_neg hover]
    exact hdropped.replyDd

/-- The part of the branch behind the chain of states accepts the message. -/
theorem Plays.acceptDd (h : r.Plays ip p) (hstate : p.state = .exchange)
    (hsnapshot : p.snapshot ≠ none) (hm : m.Decodes dd raw)
    (htypes : ∀ header ∈ m.headers, ¬Neighbor.BadType header)
    (hack : p.acknowledged ≤ p.summary.length) :
    ∃ r' packet, r.acceptDd ip dd raw = .ok r' ∧ r'.Plays ip (p.accept m) ∧
      r.Emits ip r' [packet] ∧
      (p.toDdRecord.acknowledge m).reply.SaidBy packet := by
  have hnumbered : (r.modifyNeighbor ip fun n =>
      if n.isMaster then { n with ddSeqNum := ntohl dd.ddSeqNum }
      else n).Plays ip { p with toDdRecord := p.toDdRecord.follow m } := by
    apply h.modifyNeighbor
    · intro n hip
      split_ifs <;> exact hip
    · intro n _ hn
      exact hn.follow hm
  have hraw : ∀ header ∈ raw, ¬Neighbor.BadType header := fun header hmem =>
    htypes header.ddDecode (hm.headers ▸ List.mem_map_of_mem hmem)
  have hrequested := (hnumbered.modifyNeighbor (d := p.toDdRecord.follow m)
    (f := fun n => { n with
      linkStateRequestList := raw.foldl (Neighbor.requestStep r.lsdb)
        n.linkStateRequestList })
    (fun n hip => hip)
    (fun n _ hn => { hn with })).addLog_accepted m.headers
  obtain ⟨n, hfind, hn⟩ := hrequested.record
  obtain ⟨popped, hpop, hip, hpopped⟩ := hn.popAcknowledged hack
  obtain ⟨hplays, packet, hemits, hsaid⟩ := hrequested.answerDd hstate
    hsnapshot hm.more (hip.trans (Interface.findNeighbor_ip hfind)) hpopped
  refine ⟨_, packet, ?_, hplays, (emits_of_entry rfl).trans hemits, hsaid⟩
  simp only [Router.acceptDd, checkTypes_eq hraw, hm.headers]
  simp only [Router.modifyNeighbor] at hfind ⊢
  simp only [hfind, hpop, Outcome.map_ok]

/-- `event_negotiation_done`: the roles are settled and the summary list is
filled. -/
theorem Plays.negotiate {n : Neighbor} (h : r.Plays ip p)
    (hstate : p.state = .exStart) (hsnapshot : p.snapshot = none)
    (hip : n.ip = ip) (hn : n.Matches p.toDdRecord) (isMaster : Bool)
    (seqNum : UInt32) :
    let n' := { n with
      isMaster := isMaster
      ddSeqNum := seqNum }.eventNegotiationDone r.lsdb
    ((r.modifyNeighbor ip fun _ => n').addLog
      (.negotiated ip n'.databaseSummaryList)).Plays ip
        (p.negotiate isMaster seqNum) := by
  intro n'
  have hn' : n' = { n with
      isMaster := isMaster
      ddSeqNum := seqNum
      databaseSummaryList := p.headers
      state := .exchange } := by
    simp only [n', Neighbor.eventNegotiationDone]
    rw [if_pos (hn.state.trans hstate), h.headers hsnapshot]
  have hip' : n'.ip = ip := by rw [hn', hip]
  have hsummary : n'.databaseSummaryList = p.headers := by rw [hn']
  have hmatches : n'.Matches { p.toDdRecord with
      isMaster := isMaster
      ddSeqNum := seqNum
      summary := p.headers
      state := .exchange } := by
    rw [hn']
    exact { hn with
      state := rfl
      isMaster := rfl
      ddSeqNum := rfl
      summary := rfl }
  rw [hsummary]
  exact (h.modifyNeighbor (fun _ _ => hip')
    (fun _ _ _ => hmatches)).addLog_negotiated p.headers

/-! ## The branch -/

/-- A message that is accepted in the chain of states. -/
theorem Plays.acceptDd? (h : r.Plays ip p) (hstate : p.state = .exchange)
    (hsnapshot : p.snapshot ≠ none) (hm : m.Decodes dd raw) {p' : Party}
    {out : Option DdMessage} (haccept : p.accept? m = some (p', out)) :
    ∃ r' packets, r.acceptDd ip dd raw = .ok r' ∧ r'.Plays ip p' ∧
      r.Emits ip r' packets ∧
      List.Forall₂ DdMessage.SaidBy out.toList packets := by
  obtain ⟨⟨htypes, hack⟩, rfl, rfl⟩ := Party.accept?_eq_some.mp haccept
  obtain ⟨r', packet, hok, hplays, hemits, hsaid⟩ :=
    h.acceptDd hstate hsnapshot hm htypes hack
  exact ⟨r', [packet], hok, hplays, hemits, List.forall₂_cons.mpr
    ⟨hsaid, List.Forall₂.nil⟩⟩

/-- The packet kept is sent again. -/
theorem Plays.resendDd {n : Neighbor} (h : r.Plays ip p) (hip : n.ip = ip)
    (hn : n.Matches p.toDdRecord) (hm : p.lastSent = some m) :
    (r.resendDd n).Plays ip p ∧
      ∃ packets, r.Emits ip (r.resendDd n) packets ∧
        List.Forall₂ DdMessage.SaidBy [m] packets := by
  rw [Router.resendDd, hip]
  obtain ⟨hplays, packet, hemits, hsaid⟩ := h.sendDd (hn.take_lastSend hm)
  exact ⟨hplays, [packet], hemits, List.forall₂_cons.mpr
    ⟨hsaid, List.Forall₂.nil⟩⟩

/-- The chain of states decides on the record what the party decides. -/
theorem ddVerdict_eq {noticed : Neighbor} (isDuplicate : Bool)
    (hn : noticed.Matches (p.toDdRecord.hear m)) (hm : m.Decodes dd raw)
    (hoptions : dd.options = noticed.options)
    (hdup : isDuplicate = true ↔ m.toDdFlags = p.lastReceived) (lsdb : LSDB) :
    noticed.ddVerdict p.routerId lsdb isDuplicate dd =
      match p.verdict m with
      | .ignore => .ignore
      | .resend => .resend
      | .refuse => .mismatch
      | .negotiate isMaster seqNum => .accept ({ noticed with
          isMaster := isMaster
          ddSeqNum := seqNum }.eventNegotiationDone lsdb)
      | .accept => .accept noticed := by
  have hid : noticed.id = p.peerId := hn.id
  have hs : noticed.state = p.state := hn.state
  have hmaster : noticed.isMaster = p.isMaster := hn.isMaster
  have hseq : noticed.ddSeqNum = p.ddSeqNum := hn.ddSeqNum
  cases hstate : p.state with
  | exStart =>
      rw [hstate] at hs
      simp only [Neighbor.ddVerdict, Party.verdict, hstate, hs, hm.init,
        hm.more, hm.master, hm.seqNum, hid, hseq]
      split_ifs <;> rfl
  | exchange =>
      rw [hstate] at hs
      simp only [Neighbor.ddVerdict, Party.verdict, hstate, hs, hdup,
        hm.init, hm.master, hm.seqNum, hmaster, hseq, hoptions, ne_eq,
        not_true_eq_false, if_false]
      cases p.isMaster <;> cases m.master <;> simp only [] <;> split_ifs <;>
        simp_all
  | loading | full =>
      rw [hstate] at hs
      simp only [Neighbor.ddVerdict, Party.verdict, hstate, hs, hdup,
        hmaster]
      split_ifs <;> rfl
  | _ =>
      rw [hstate] at hs
      simp only [Neighbor.ddVerdict, Party.verdict, hstate, hs]

/-- The Database Description branch does what the party does.  INIT, from
which the chain of states is entered a second time, is left out. -/
theorem Plays.handleDd (h : r.Plays ip p) (hinit : p.state ≠ .init)
    (hm : m.Decodes dd raw) {p' : Party} {out : Option DdMessage}
    (hreceive : p.receive m = some (p', out)) :
    ∃ r' packets, r.handleDd ip dd (some raw) = .ok r' ∧ r'.Plays ip p' ∧
      r.Emits ip r' packets ∧
      List.Forall₂ DdMessage.SaidBy out.toList packets := by
  obtain ⟨n, hfind, hn⟩ := h.record
  have hip : n.ip = ip := Interface.findNeighbor_ip hfind
  obtain ⟨noticed, hnoticedEq⟩ : ∃ noticed, noticed = n.recordDd dd :=
    ⟨_, rfl⟩
  have hnoticed : noticed.Matches (p.toDdRecord.hear m) :=
    hnoticedEq ▸ hn.recordDd hm
  have hnoticedIp : noticed.ip = ip := by
    rw [hnoticedEq, Neighbor.recordDd_ip, hip]
  have hoptions : dd.options = noticed.options := by
    rw [hnoticedEq, Neighbor.recordDd]
  obtain ⟨heard, hheardEq⟩ : ∃ heard, heard =
    r.modifyNeighbor ip fun _ => noticed := ⟨_, rfl⟩
  have hheard : heard.Plays ip (p.heard m) :=
    hheardEq ▸ h.modifyNeighbor (fun _ _ => hnoticedIp)
      (fun _ _ _ => hnoticed)
  have hquiet : r.Emits ip heard [] := emits_of_log_eq (by rw [hheardEq]; rfl)
  have hverdict := ddVerdict_eq (decide (n.IsDuplicate dd))
    hnoticed hm hoptions
    (decide_eq_true_iff.trans (hn.isDuplicate hm)) heard.lsdb
  simp only [Router.handleDd, hfind, ← hnoticedEq, hnoticed.state,
    if_neg (show (p.toDdRecord.hear m).state ≠ .init from hinit)]
  rw [← hheardEq, show heard.routerId = p.routerId from hheard.routerId,
    hverdict]
  rw [Party.receive] at hreceive
  cases hcase : p.verdict m with
  | ignore =>
      simp only [hcase, Option.some.injEq, Prod.mk.injEq] at hreceive
      obtain ⟨rfl, rfl⟩ := hreceive
      exact ⟨heard, [], rfl, hheard, hquiet, List.Forall₂.nil⟩
  | resend =>
      simp only [hcase] at hreceive
      obtain ⟨sent, hsent, heq⟩ := Option.map_eq_some_iff.mp hreceive
      cases heq
      obtain ⟨hplays, packets, hemits, hsaid⟩ :=
        hheard.resendDd hnoticedIp hnoticed hsent
      exact ⟨_, packets, rfl, hplays, hquiet.trans hemits, hsaid⟩
  | refuse => simp [hcase] at hreceive
  | negotiate isMaster seqNum =>
      have hstate := Party.state_of_verdict_negotiate hcase
      by_cases hsnapshot : p.snapshot = none
      · simp only [hcase, if_pos hsnapshot] at hreceive
        have hnegotiated := hheard.negotiate hstate hsnapshot hnoticedIp
          hnoticed isMaster seqNum
        obtain ⟨r', packets, hok, hplays, hemits, hsaid⟩ :=
          hnegotiated.acceptDd? rfl (by simp [Party.negotiate]) hm hreceive
        refine ⟨r', packets, ?_, hplays,
          hquiet.trans ((emits_of_entry rfl).trans hemits), hsaid⟩
        simp only [if_pos (show (p.toDdRecord.hear m).state = .exStart from
          hstate)]
        exact hok
      · simp [hcase, hsnapshot] at hreceive
  | accept =>
      have hstate := Party.state_of_verdict_accept hcase
      by_cases hsnapshot : p.snapshot = none
      · simp [hcase, hsnapshot] at hreceive
      · simp only [hcase, if_neg hsnapshot] at hreceive
        have hsame : (heard.modifyNeighbor ip fun _ => noticed).Plays ip
            (p.heard m) :=
          hheard.modifyNeighbor (fun _ _ => hnoticedIp)
            (fun _ _ _ => hnoticed)
        obtain ⟨r', packets, hok, hplays, hemits, hsaid⟩ :=
          hsame.acceptDd? hstate hsnapshot hm hreceive
        refine ⟨r', packets, ?_, hplays,
          hquiet.trans ((emits_of_log_eq rfl).trans hemits), hsaid⟩
        simp only [if_neg (show (p.toDdRecord.hear m).state ≠ .exStart by
          rw [show (p.toDdRecord.hear m).state = .exchange from hstate]
          decide)]
        exact hok

/-- A DD packet of the neighbor, as it comes off the wire. -/
theorem Plays.recvDd (h : r.Plays ip p) (hinit : p.state ≠ .init)
    {packet : List UInt8} (hm : m.SaidBy packet) {p' : Party}
    {out : Option DdMessage} (hreceive : p.receive m = some (p', out))
    (dst : UInt32) :
    ∃ r' packets, r.recvDd (ipDatagram ip dst packet) = .ok r' ∧
      r'.Plays ip p' ∧ r.Emits ip r' packets ∧
      List.Forall₂ DdMessage.SaidBy out.toList packets := by
  obtain ⟨dd, raw, hdecodes, hload⟩ := hm
  obtain ⟨hdd, hraw⟩ := hload ip dst
  rw [Router.recvDd, ipDatagram_src, ntohl_htonl, hdd, hraw]
  exact h.handleDd hinit hdecodes hreceive

/-- The sender of empty DD packets sends nothing if it has been stopped, and
otherwise the empty message while the router is in EXSTART. -/
theorem Plays.sendEmptyDd (h : r.Plays ip p) :
    (r.sendEmptyDd ip).Plays ip p ∧
      ∃ out packets, r.Emits ip (r.sendEmptyDd ip) packets ∧
        List.Forall₂ DdMessage.SaidBy out packets ∧
        (out = [] ∧ (∀ n, r.findNeighbor ip = some n →
            ¬(n.state = .exStart ∧ n.emptyDdSenderStop = false)) ∨
          p.state = .exStart ∧ out = [p.emptyMessage]) := by
  obtain ⟨n, hfind, hn⟩ := h.record
  have hempty : p.emptyMessage.Encodes (n.emptyDd r.interface.mtu) :=
    ⟨_, [], (List.append_nil _).symm, Nat.zero_le _,
      { init := rfl
        more := rfl
        master := rfl
        seqNum := congrArg ntohl hn.ddSeqNum
        headers := rfl }⟩
  simp only [Router.sendEmptyDd, hfind]
  by_cases hsends : n.state = .exStart ∧ n.emptyDdSenderStop = false
  · rw [if_pos hsends, Interface.findNeighbor_ip hfind]
    obtain ⟨hplays, packet, hemits, hsaid⟩ := h.sendDd hempty
    exact ⟨hplays, [p.emptyMessage], [packet], hemits,
      List.forall₂_cons.mpr ⟨hsaid, List.Forall₂.nil⟩,
      Or.inr ⟨hn.state.symm.trans hsends.1, rfl⟩⟩
  · rw [if_neg hsends]
    refine ⟨h, [], [], emits_of_log_eq rfl, List.Forall₂.nil,
      Or.inl ⟨rfl, ?_⟩⟩
    intro n' hfind'
    rwa [← Option.some.inj hfind']

end Router

end OspfLite
