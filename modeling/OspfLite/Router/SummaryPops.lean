import OspfLite.Router.Moves
import OspfLite.Router.Retransmission
import OspfLite.Exchange.Refinement

/-!
# Headers taken off the summary list

A Database Description packet acknowledges the one sent before, and its
headers are taken off the summary list.  How many they are is reckoned from
the length of the last packet, which outlives an exchange that was restarted.
-/

namespace OspfLite

/-! ## What has been described -/

/-- The packet carries the header, whatever addresses it travels under. -/
def DescribesHeader (packet : List UInt8) (h : LSAHeader) : Prop :=
  ∃ raw, LSAHeader.hton h ∈ raw ∧
    ∀ src dst, ddHeaders (ipDatagram src dst packet) = some raw

/-- The DD packets sent to the neighbor at `ip` after one more entry of the
log; `event_negotiation_done` starts anew. -/
def noteDd (ip : UInt32) (packets : List (List UInt8)) (entry : LogEntry) :
    List (List UInt8) :=
  if entry.snapshotFor ip ≠ none then []
  else packets ++ (entry.ddPacketTo ip).toList

/-- The DD packets sent to the neighbor at `ip` since the latest
`event_negotiation_done`. -/
def describedTo (ip : UInt32) (log : List LogEntry) : List (List UInt8) :=
  log.foldl (noteDd ip) []

/-- Without another negotiation the packets stay. -/
theorem describedTo_subset {ip : UInt32} {entries : List LogEntry}
    (h : ∀ entry ∈ entries, entry.snapshotFor ip = none)
    (log : List LogEntry) :
    describedTo ip log ⊆ describedTo ip (log ++ entries) := by
  rw [describedTo, describedTo, List.foldl_append]
  generalize log.foldl (noteDd ip) [] = packets
  induction entries generalizing packets with
  | nil => exact List.Subset.refl _
  | cons entry entries ih =>
      rw [List.forall_mem_cons] at h
      rw [List.foldl_cons, noteDd, if_neg (not_not.mpr h.1)]
      exact List.Subset.trans (List.subset_append_left _ _) (ih h.2 _)

/-- Entries that say nothing of packets sent to the neighbor. -/
theorem foldl_noteDd_of_silent {ip : UInt32} {entries : List LogEntry}
    (h : ∀ entry ∈ entries,
      entry.snapshotFor ip = none ∧ entry.ddPacketTo ip = none)
    (packets : List (List UInt8)) :
    entries.foldl (noteDd ip) packets = packets := by
  induction entries with
  | nil => rfl
  | cons entry entries ih =>
      rw [List.forall_mem_cons] at h
      rw [List.foldl_cons, noteDd, if_neg (not_not.mpr h.1.1), h.1.2]
      simpa using ih h.2

theorem LogEntry.snapshotFor_sent (ip dst : UInt32) (packet : List UInt8) :
    (LogEntry.sent dst packet).snapshotFor ip = none :=
  rfl

theorem snapshotFor_of_plain {entry : LogEntry} (h : entry.Plain)
    (ip : UInt32) : entry.snapshotFor ip = none := by
  cases entry with
  | sent | raised => rfl
  | negotiated | accepted => exact h.elim

namespace Neighbor

/-- The headers that the next packet acknowledges are on the summary list, and
have been described. -/
def Described (packets : List (List UInt8)) (n : Neighbor) : Prop :=
  n.acknowledgedCount ≤ n.databaseSummaryList.length ∧
    ∀ h ∈ n.databaseSummaryList.take n.acknowledgedCount,
      ∃ packet ∈ packets, DescribesHeader packet h

/-- A change after which an exchange goes on as before, if at all. -/
structure KeepsSummary (n n' : Neighbor) : Prop where
  ip : n'.ip = n.ip
  exchange : n'.state = .exchange → n.state = .exchange ∧
    n'.databaseSummaryList = n.databaseSummaryList ∧
    n'.lastSendDdDataLen = n.lastSendDdDataLen

variable {n n' n'' : Neighbor}

theorem keepsSummary_refl (n : Neighbor) : n.KeepsSummary n :=
  ⟨rfl, fun h => ⟨h, rfl, rfl⟩⟩

theorem KeepsSummary.trans (h : n.KeepsSummary n')
    (h' : n'.KeepsSummary n'') : n.KeepsSummary n'' := by
  refine ⟨h'.ip.trans h.ip, fun hstate => ?_⟩
  obtain ⟨hstate', hsummary', hlen'⟩ := h'.exchange hstate
  obtain ⟨hbefore, hsummary, hlen⟩ := h.exchange hstate'
  exact ⟨hbefore, hsummary'.trans hsummary, hlen'.trans hlen⟩

theorem Recedes.keepsSummary (h : n.Recedes n') : n.KeepsSummary n' := by
  refine ⟨h.ip, fun hstate => ?_⟩
  rcases h.exchange with hkeep | hfall
  · exact ⟨hkeep.state ▸ hstate,
      congrArg (fun lists => lists.2.1) hkeep.lists, hkeep.dataLen⟩
  · have hlow := hfall.state
    rw [hstate] at hlow
    exact absurd hlow (lt_irrefl _)

theorem flood_keepsSummary (header : LSAHeader) (src : UInt32)
    (n : Neighbor) : n.KeepsSummary (n.flood header src).1 := by
  obtain ⟨_, _, -, -, hflood⟩ := flood_eq header src n
  rw [hflood]
  exact ⟨rfl, fun h => ⟨h, rfl, rfl⟩⟩

theorem pushAll_keepsSummary (headers : List LSAHeader) (n : Neighbor) :
    n.KeepsSummary (n.pushAll headers) := by
  rw [pushAll]
  split_ifs with hfull
  · exact ⟨rfl, fun h => ⟨h, rfl, rfl⟩⟩
  · exact keepsSummary_refl n

/-- What is kept stays described. -/
theorem Described.keepsSummary {packets packets' : List (List UInt8)}
    (hn : n.KeepsSummary n') (hpackets : packets ⊆ packets')
    (h : n.state = .exchange → n.Described packets)
    (hstate : n'.state = .exchange) : n'.Described packets' := by
  obtain ⟨hbefore, hsummary, hlen⟩ := hn.exchange hstate
  obtain ⟨hcount, hall⟩ := h hbefore
  have hsame : n'.acknowledgedCount = n.acknowledgedCount := by
    rw [acknowledgedCount, acknowledgedCount, hlen]
  rw [Described, hsame, hsummary]
  refine ⟨hcount, fun header hheader => ?_⟩
  obtain ⟨packet, hpacket, hdescribes⟩ := hall header hheader
  exact ⟨packet, hpackets hpacket, hdescribes⟩

end Neighbor

namespace Router

/-- In every exchange the headers that the next packet acknowledges have been
described. -/
def SummariesDescribed (r : Router) : Prop :=
  ∀ ip n, r.findNeighbor ip = some n → n.state = .exchange →
    n.Described (describedTo ip r.log)

/-- No exchange begins, and every exchange goes on as before, if at all. -/
structure KeepsSummaries (r r' : Router) : Prop where
  neighbors : ∀ ip n', r'.findNeighbor ip = some n' →
    n'.state = .exchange → ∃ n, r.findNeighbor ip = some n ∧
      n.KeepsSummary n'
  log : ∃ entries, (∀ entry ∈ entries, entry.Plain) ∧
    r'.log = r.log ++ entries

variable {r r' r'' : Router} {ip : UInt32} {n popped : Neighbor}
  {dd : OSPFDD} {headers : List LSAHeader} {src : UInt32} {data : Memory}
  {s s' : LsuState}

theorem keepsSummaries_refl (r : Router) : r.KeepsSummaries r :=
  ⟨fun _ n hn _ => ⟨n, hn, n.keepsSummary_refl⟩, [], by simp, by simp⟩

theorem KeepsSummaries.trans (h : r.KeepsSummaries r')
    (h' : r'.KeepsSummaries r'') : r.KeepsSummaries r'' := by
  constructor
  · intro ip n'' hn'' hstate
    obtain ⟨n', hn', hkeeps'⟩ := h'.neighbors ip n'' hn'' hstate
    obtain ⟨n, hn, hkeeps⟩ :=
      h.neighbors ip n' hn' (hkeeps'.exchange hstate).1
    exact ⟨n, hn, hkeeps.trans hkeeps'⟩
  · obtain ⟨entries, hplain, hlog⟩ := h.log
    obtain ⟨entries', hplain', hlog'⟩ := h'.log
    refine ⟨entries ++ entries', ?_, by rw [hlog', hlog, List.append_assoc]⟩
    intro entry hentry
    rcases List.mem_append.mp hentry with hold | hnew
    · exact hplain entry hold
    · exact hplain' entry hnew

theorem SummariesDescribed.keeps (h : r.SummariesDescribed)
    (hkeeps : r.KeepsSummaries r') : r'.SummariesDescribed := by
  intro ip n' hn' hstate
  obtain ⟨n, hn, hsame⟩ := hkeeps.neighbors ip n' hn' hstate
  obtain ⟨entries, hplain, hlog⟩ := hkeeps.log
  rw [hlog]
  exact Neighbor.Described.keepsSummary hsame
    (describedTo_subset (fun entry hentry =>
      snapshotFor_of_plain (hplain entry hentry) ip) r.log)
    (h ip n hn) hstate

/-- Changes entry by entry, with sent packets and raised events. -/
theorem keepsSummaries_of_forall₂ {entries : List LogEntry}
    (hneighbors : List.Forall₂ Neighbor.KeepsSummary r.interface.neighbors
      r'.interface.neighbors)
    (hplain : ∀ entry ∈ entries, entry.Plain)
    (hlog : r'.log = r.log ++ entries) : r.KeepsSummaries r' :=
  ⟨fun _ _ hn' _ => exists_find_of_forall₂ (fun _ _ h => h.ip) hneighbors hn',
    entries, hplain, hlog⟩

/-- Changing the record found. -/
theorem keepsSummaries_modifyNeighbor {f : Neighbor → Neighbor}
    (hf : ∀ n : Neighbor, n.KeepsSummary (f n)) :
    r.KeepsSummaries (r.modifyNeighbor ip f) := by
  have hlog : (r.modifyNeighbor ip f).log = r.log ++ [] :=
    (List.append_nil r.log).symm
  exact keepsSummaries_of_forall₂
    (forall₂_modifyNeighbor Neighbor.keepsSummary_refl fun n _ => hf n)
    (by simp) hlog

theorem keepsSummaries_addLog {entry : LogEntry} (h : entry.Plain) :
    r.KeepsSummaries (r.addLog entry) :=
  ⟨fun _ n hn _ => ⟨n, hn, n.keepsSummary_refl⟩, [entry], by simpa using h,
    rfl⟩

/-- A new neighbor is in no exchange. -/
theorem Recedes.keepsSummaries (h : r.Recedes r') :
    r.KeepsSummaries r' := by
  obtain ⟨⟨base, hbase, hinter⟩, entries, hplain, hr'⟩ := h
  refine ⟨?_, entries, hplain, by rw [hr']⟩
  intro ip n' hn' hstate
  have hforall : List.Forall₂ Neighbor.KeepsSummary base.neighbors
      r'.interface.neighbors :=
    hinter.neighbors.imp fun _ _ h => Neighbor.Recedes.keepsSummary h
  obtain ⟨n, hn, hkeeps⟩ := exists_find_of_forall₂ (fun _ _ h => h.ip)
    hforall hn'
  refine ⟨n, ?_, hkeeps⟩
  rcases hbase with rfl | ⟨new, rfl⟩
  · exact hn
  · rw [Interface.ensureNeighbor] at hn
    split_ifs at hn
    · rw [Interface.addNeighbor, List.find?_append,
        Option.or_eq_some_iff] at hn
      rcases hn with hold | ⟨-, hnew⟩
      · exact hold
      · have hsame : n = Neighbor.new r.uninit new :=
          List.mem_singleton.mp (List.mem_of_find?_eq_some hnew)
        have hbefore := (hkeeps.exchange hstate).1
        rw [hsame] at hbefore
        cases hbefore
    · exact hn

/-! ## Link State Updates -/

theorem acceptLsa_keepsSummaries (hs' : acceptLsa src data s = .ok s') :
    s.router.KeepsSummaries s'.router := by
  have hneighbors : List.Forall₂ Neighbor.KeepsSummary
      s.router.interface.neighbors s'.router.interface.neighbors := by
    refine acceptLsa_forall₂ (fun n _ => ?_) (fun n _ => ?_) hs'
    · exact (n.flood_keepsSummary _ src).trans ⟨rfl, fun h => ⟨h, rfl, rfl⟩⟩
    · exact ⟨rfl, fun h => ⟨h, rfl, rfl⟩⟩
  obtain ⟨entries, hplain, hlog⟩ := s.router.floodArea_log data src
  obtain ⟨lsdb, -, rfl⟩ := Outcome.map_eq_ok.mp hs'
  exact keepsSummaries_of_forall₂ hneighbors hplain hlog

theorem rejectLsa_keepsSummaries {same : Bool}
    (hs' : rejectLsa src data same s = .ok s') :
    s.router.KeepsSummaries s'.router := by
  rcases rejectLsa_cases hs' with
    ⟨-, hrouter⟩ | ⟨-, r, lsdb, hr, hrouter, -⟩
  · rw [hrouter]
    exact (restart_recedes (ntohl src) .badLsReq s.router).keepsSummaries
  · have hkeeps : s.router.KeepsSummaries r := by
      rcases hr with rfl | rfl
      · exact keepsSummaries_refl _
      · refine keepsSummaries_modifyNeighbor fun n => ?_
        exact ⟨rfl, fun h => ⟨h, rfl, rfl⟩⟩
    rw [hrouter]
    exact ⟨hkeeps.neighbors, hkeeps.log⟩

theorem lsuRound_keepsSummaries (hs' : lsuRound src s data = .ok s') :
    s.router.KeepsSummaries s'.router := by
  rcases lsuRound_cases hs' with
    rfl | ⟨-, -, -, ⟨-, haccept⟩ | ⟨-, same, hreject⟩⟩
  · exact keepsSummaries_refl _
  · exact acceptLsa_keepsSummaries haccept
  · exact rejectLsa_keepsSummaries hreject

/-! ## Accepted packets -/

/-- The headers to be popped are on the list, and have been described since
the latest negotiation. -/
def PopsDescribed (r : Router) (ip : UInt32) (dd : OSPFDD)
    (headers : List LSAHeader) (n : Neighbor) : Prop :=
  (n.takeIn r.lsdb dd headers).Described
    (describedTo ip (r.log ++ r.acceptanceLog ip headers n))

/-- Where a packet opens an exchange, or ends one by a header of a bad type,
the length of the last packet sent speaks of no headers. -/
def NothingStale (r : Router) (ip : UInt32) (_dd : OSPFDD)
    (headers : List LSAHeader) (n : Neighbor) : Prop :=
  r.Negotiates ip ∨ (∃ h ∈ headers, Neighbor.BadType h) →
    n.acknowledgedCount = 0

/-- What is logged on acceptance, but for the negotiation. -/
theorem acceptanceLog_eq (r : Router) (ip : UInt32)
    (headers : List LSAHeader) (n : Neighbor) :
    ∃ entries, r.acceptanceLog ip headers n =
        (if r.Negotiates ip then [.negotiated ip n.databaseSummaryList]
          else []) ++ entries ∧
      ∀ entry ∈ entries, ∀ ip',
        entry.snapshotFor ip' = none ∧ entry.ddPacketTo ip' = none := by
  refine ⟨_, List.append_assoc _ _ _, ?_⟩
  intro entry hentry ip'
  rcases List.mem_append.mp hentry with hraised | haccepted
  · obtain ⟨_, -, rfl⟩ := List.mem_map.mp hraised
    exact ⟨rfl, rfl⟩
  · rw [List.mem_singleton.mp haccepted]
    exact ⟨rfl, rfl⟩

/-- The negotiation is with the neighbor that has sent the packet. -/
theorem acceptanceLog_snapshotFor {ip' : UInt32} {entry : LogEntry}
    (hne : ip' ≠ ip) (hentry : entry ∈ r.acceptanceLog ip headers n) :
    entry.snapshotFor ip' = none := by
  obtain ⟨entries, heq, hsilent⟩ := r.acceptanceLog_eq ip headers n
  rw [heq] at hentry
  rcases List.mem_append.mp hentry with hnegotiated | hsilent'
  · split_ifs at hnegotiated
    · rw [List.mem_singleton.mp hnegotiated, LogEntry.snapshotFor,
        if_neg (Ne.symm hne)]
    · cases hnegotiated
  · exact (hsilent entry hsilent' ip').1

/-- A packet that opens an exchange finds nothing described in it. -/
theorem describedTo_of_negotiates (h : r.Negotiates ip)
    (headers : List LSAHeader) (n : Neighbor) :
    describedTo ip (r.log ++ r.acceptanceLog ip headers n) = [] := by
  obtain ⟨entries, heq, hsilent⟩ := r.acceptanceLog_eq ip headers n
  rw [heq, if_pos h, describedTo, List.foldl_append, List.foldl_append,
    foldl_noteDd_of_silent fun entry hentry => hsilent entry hentry ip]
  have hsnapshot : (LogEntry.negotiated ip n.databaseSummaryList).snapshotFor
      ip ≠ none := by
    rw [LogEntry.snapshotFor, if_pos rfl]
    exact Option.some_ne_none _
  rw [List.foldl_cons, noteDd, if_pos hsnapshot, List.foldl_nil]

/-- Within an exchange acceptance adds no packet and takes none away. -/
theorem describedTo_of_not_negotiates (h : ¬r.Negotiates ip)
    (headers : List LSAHeader) (n : Neighbor) :
    describedTo ip (r.log ++ r.acceptanceLog ip headers n) =
      describedTo ip r.log := by
  obtain ⟨entries, heq, hsilent⟩ := r.acceptanceLog_eq ip headers n
  rw [heq, if_neg h, describedTo, List.foldl_append, List.nil_append,
    foldl_noteDd_of_silent fun entry hentry => hsilent entry hentry ip]
  rfl

/-- Within an exchange a packet with good types is taken in without a change
to the summary list. -/
theorem takeIn_keepsSummary {m : Neighbor}
    (hfrom : Neighbor.AcceptedFrom r.lsdb m n) (hstate : m.state = .exchange)
    (hgood : ¬∃ header ∈ headers, Neighbor.BadType header) :
    (n.takeIn r.lsdb dd headers).state = .exchange ∧
      m.KeepsSummary (n.takeIn r.lsdb dd headers) := by
  obtain ⟨hsame, hlists, hlen⟩ := Neighbor.takeIn_of_goodTypes
    (fun h hmem hb => hgood ⟨h, hmem, hb⟩) r.lsdb dd n
  simp only [Neighbor.lists, Prod.mk.injEq] at hlists
  rcases hfrom.summary with ⟨-, hsummary, hdataLen⟩ | ⟨hlow, -⟩
  · exact ⟨hsame.trans hfrom.state, (n.takeIn_ip _ _ _).trans hfrom.ip,
      fun _ => ⟨hstate, hlists.2.1.trans hsummary, hlen.trans hdataLen⟩⟩
  · rw [hstate] at hlow
    exact absurd hlow (lt_irrefl _)

/-- Which accepted packets pop headers that have been described. -/
theorem popsDescribed_iff (h : r.SummariesDescribed)
    (haccepted : r.acceptedDd ip dd = some n) (headers : List LSAHeader) :
    r.PopsDescribed ip dd headers n ↔ r.NothingStale ip dd headers n := by
  obtain ⟨m, hm, hfrom⟩ := acceptedDd_spec haccepted
  have hcount :=
    Neighbor.takeIn_acknowledgedCount hfrom.state r.lsdb dd headers
  have hzero : n.acknowledgedCount = 0 → r.PopsDescribed ip dd headers n := by
    intro hnone
    rw [PopsDescribed, Neighbor.Described, hcount, hnone]
    exact ⟨Nat.zero_le _, fun header hheader => by cases hheader⟩
  rw [NothingStale]
  by_cases hbad : ∃ header ∈ headers, Neighbor.BadType header
  · -- the list has been cleared
    simp only [hbad, or_true, true_implies]
    refine ⟨fun hpops => ?_, hzero⟩
    have hlists :=
      (Neighbor.takeIn_of_badType hbad r.lsdb dd hfrom.state).2.1
    simp only [Neighbor.lists, Prod.mk.injEq] at hlists
    have hle := hpops.1
    rw [hcount, hlists.2.1] at hle
    exact Nat.le_zero.mp hle
  by_cases hnegotiates : r.Negotiates ip
  · -- the list has just been filled, and nothing of it has been sent
    simp only [hnegotiates, true_or, true_implies]
    refine ⟨fun hpops => ?_, hzero⟩
    obtain ⟨hle, hall⟩ := hpops
    rw [describedTo_of_negotiates hnegotiates] at hall
    by_contra hpos
    have hsome : (n.takeIn r.lsdb dd headers).databaseSummaryList.take
        (n.takeIn r.lsdb dd headers).acknowledgedCount ≠ [] := by
      rw [Ne, List.take_eq_nil_iff, hcount, ← List.length_eq_zero_iff]
      rw [hcount] at hle
      omega
    obtain ⟨header, hheader⟩ := List.exists_mem_of_ne_nil _ hsome
    obtain ⟨packet, hpacket, -⟩ := hall header hheader
    cases hpacket
  · -- the exchange goes on
    simp only [hbad, hnegotiates, or_false, false_implies, iff_true]
    have hstate : m.state = .exchange := by
      by_contra hne
      exact hnegotiates ⟨m, hm, hne⟩
    rw [PopsDescribed, describedTo_of_not_negotiates hnegotiates]
    obtain ⟨hafter, hkeeps⟩ := takeIn_keepsSummary hfrom hstate hbad
    exact Neighbor.Described.keepsSummary hkeeps (List.Subset.refl _)
      (h ip m hm) hafter

/-! ## The reply -/

/-- The body of a reply: as many headers of the summary list as fit. -/
theorem ddReply_eq (mtu : UInt16) (options ddOther : UInt8) (n : Neighbor) :
    ∃ dd, n.ddReply mtu options ddOther = OSPFDD.store dd ++
      ((n.databaseSummaryList.take ddCapacity).map LSAHeader.hton).flatMap
        LSAHeader.store :=
  ⟨_, by rw [Neighbor.ddReply, List.flatMap_map]⟩

/-- The size of the reply. -/
theorem length_ddReply (mtu : UInt16) (options ddOther : UInt8)
    (n : Neighbor) :
    (n.ddReply mtu options ddOther).length =
      8 + 20 * (n.databaseSummaryList.take ddCapacity).length := by
  obtain ⟨dd, hdata⟩ := ddReply_eq mtu options ddOther n
  have hbody : ∀ raw : List LSAHeader,
      (raw.flatMap LSAHeader.store).length = 20 * raw.length := by
    intro raw
    simp [List.length_flatMap, LSAHeader.size, Nat.mul_comm]
  rw [hdata, List.length_append, OSPFDD.length_store, hbody, List.length_map,
    OSPFDD.size]

/-- The next packet acknowledges the headers of the reply. -/
theorem acknowledgedCount_reply (mtu : UInt16) (options ddOther : UInt8)
    (n : Neighbor) :
    (n.reply mtu options ddOther).acknowledgedCount =
      (n.databaseSummaryList.take ddCapacity).length := by
  have hsummary : n.numberReply.databaseSummaryList =
      n.databaseSummaryList :=
    congrArg (fun lists => lists.2.1) n.numberReply_lists
  have hcap : (n.databaseSummaryList.take ddCapacity).length ≤ 50 :=
    List.length_take_le _ _
  have hlength := length_ddReply mtu options ddOther n.numberReply
  rw [hsummary] at hlength
  have hlen : (n.reply mtu options ddOther).lastSendDdDataLen =
      UInt32.ofNat (8 + 20 * (n.databaseSummaryList.take
        ddCapacity).length) := by
    rw [← hlength]
    rfl
  have hnat : (UInt32.ofNat (8 + 20 * (n.databaseSummaryList.take
      ddCapacity).length)).toNat =
        8 + 20 * (n.databaseSummaryList.take ddCapacity).length := by
    rw [UInt32.toNat_ofNat']
    omega
  have hne : UInt32.ofNat (8 + 20 * (n.databaseSummaryList.take
      ddCapacity).length) ≠ 0 := by
    intro hzero
    rw [hzero, UInt32.toNat_zero] at hnat
    omega
  rw [Neighbor.acknowledgedCount, hlen, if_neg hne, hnat, OSPFDD.size,
    LSAHeader.size]
  omega

/-- The reply describes the headers that the next packet will acknowledge. -/
theorem reply_described (r : Router) (auType : UInt32) (mtu : UInt16)
    (options ddOther : UInt8) (n : Neighbor) :
    (n.reply mtu options ddOther).Described
      [r.ospfPacket auType typeDd
        (n.numberReply.ddReply mtu options ddOther)] := by
  obtain ⟨dd, hdata⟩ := ddReply_eq mtu options ddOther n.numberReply
  have hnumbered : n.numberReply.databaseSummaryList =
      n.databaseSummaryList :=
    congrArg (fun lists => lists.2.1) n.numberReply_lists
  have hsummary : (n.reply mtu options ddOther).databaseSummaryList =
      n.databaseSummaryList := hnumbered
  have hcap : (n.databaseSummaryList.take ddCapacity).length ≤ ddCapacity :=
    List.length_take_le _ _
  rw [Neighbor.Described, acknowledgedCount_reply, hsummary]
  constructor
  · exact List.length_take_le' _ _
  · intro header hheader
    rw [List.length_take, ← List.take_eq_take_min] at hheader
    refine ⟨_, List.mem_singleton_self _,
      (n.databaseSummaryList.take ddCapacity).map LSAHeader.hton,
      List.mem_map_of_mem hheader, fun src dst => ?_⟩
    rw [hdata, hnumbered]
    exact ddHeaders_ospfPacket r auType dd _ (by rwa [List.length_map]) src
      dst

/-- Another neighbor is found as before. -/
theorem findNeighbor_putNeighbor_of_ne {ip' : UInt32} (hip : n.ip = ip)
    (hne : ip' ≠ ip) (entries : List LogEntry) :
    (r.putNeighbor ip n entries).findNeighbor ip' = r.findNeighbor ip' := by
  have hkeep : ∀ k : Neighbor, k.ip = ip → n.ip = ip := fun _ _ => hip
  rw [findNeighbor, putNeighbor, Interface.findNeighbor,
    Interface.modifyNeighbor, find_modifyNeighbor hkeep, if_neg hne,
    Option.map_id]
  rfl

/-- `update_lsas` leaves every exchange as it is. -/
theorem updateLsas_keepsSummaries (r : Router) :
    r.KeepsSummaries r.updateLsas := by
  obtain ⟨r', entries, ⟨_, _, _, rfl⟩, heq, hsent⟩ := r.updateLsas_eq
  have hplain : ∀ entry ∈ entries, entry.Plain := by
    intro entry hentry
    obtain ⟨_, _, rfl, -⟩ := hsent entry hentry
    trivial
  have hlog : r.updateLsas.log = r.log ++ entries := by rw [heq]
  refine keepsSummaries_of_forall₂ ?_ hplain hlog
  rw [updateLsas_interface_eq]
  change List.Forall₂ _ r.interface.neighbors
    (r.interface.neighbors.map (Neighbor.pushAll r.emittedHeaders))
  rw [List.forall₂_map_right_iff]
  exact List.forall₂_same.mpr fun n _ => n.pushAll_keepsSummary _

/-- The end of the branch leaves the exchanges of the other neighbors as they
are. -/
theorem concludeDd_keepsSummaries {m : Neighbor} {log : List LogEntry}
    (hfind : r.findNeighbor ip = some m) (hip : popped.ip = ip)
    (hr' : r' = (r.putNeighbor ip popped log).concludeDd ip dd popped) :
    ∃ k entries, r'.findNeighbor ip = some k ∧
      (∀ entry ∈ entries, entry.Plain) ∧
      r'.log = r.log ++ log ++ entries ∧
      ∀ ip' ≠ ip, ∀ n', r'.findNeighbor ip' = some n' →
        n'.state = .exchange →
          ∃ n, r.findNeighbor ip' = some n ∧ n.KeepsSummary n' := by
  have hother : ∀ {k : Neighbor}, k.ip = ip → ∀ ip' ≠ ip,
      (r.putNeighbor ip k log).findNeighbor ip' = r.findNeighbor ip' :=
    fun hk ip' hne => findNeighbor_putNeighbor_of_ne hk hne log
  rw [concludeDd_putNeighbor hfind hip] at hr'
  subst hr'
  split_ifs with hdone
  · have hip' := popped.reachFull_ip.trans hip
    have hfull := findNeighbor_putNeighbor hfind hip' log
    have hkeeps := updateLsas_keepsSummaries
      (r.putNeighbor ip popped.reachFull log)
    obtain ⟨entries, hplain, hlog⟩ := hkeeps.log
    refine ⟨_, entries, findNeighbor_updateLsas hfull, hplain, hlog, ?_⟩
    intro ip' hne n' hn' hstate
    rw [← hother hip' ip' hne]
    exact hkeeps.neighbors ip' n' hn' hstate
  · refine ⟨popped, [], findNeighbor_putNeighbor hfind hip log, by simp,
      (List.append_nil _).symm, ?_⟩
    intro ip' hne n' hn' hstate
    rw [hother hip ip' hne] at hn'
    exact ⟨n', hn', n'.keepsSummary_refl⟩

/-- After an accepted packet the summaries are described: the reply carries
what the next packet will acknowledge. -/
theorem acceptedDd_summariesDescribed {m : Neighbor}
    (h : r.SummariesDescribed) (hfind : r.findNeighbor ip = some m)
    (hip : popped.ip = ip) :
    (((r.putNeighbor ip popped (r.acceptanceLog ip headers n)).concludeDd ip
      dd popped).replyDd ip).SummariesDescribed := by
  obtain ⟨k, entries, hk, hplain, hlog, hothers⟩ :=
    concludeDd_keepsSummaries hfind hip (show (r.putNeighbor ip popped
      (r.acceptanceLog ip headers n)).concludeDd ip dd popped = _ from rfl)
  generalize (r.putNeighbor ip popped (r.acceptanceLog ip headers
    n)).concludeDd ip dd popped = c at hk hlog hothers ⊢
  have hreplied (mtu : UInt16) (options ddOther : UInt8) :
      (k.reply mtu options ddOther).ip = ip :=
    (k.reply_ip mtu options ddOther).trans (findNeighbor_ip hk)
  rw [replyDd_eq hk]
  intro ip' n' hn' hstate
  by_cases hne : ip' = ip
  · subst hne
    rw [findNeighbor_putNeighbor hk (hreplied _ _ _),
      Option.some.injEq] at hn'
    subst hn'
    obtain ⟨hcount, hall⟩ := reply_described c c.interface.auType
      c.interface.mtu c.ospfOptions c.uninit.ddOther k
    refine ⟨hcount, fun header hheader => ?_⟩
    obtain ⟨packet, hpacket, hdescribes⟩ := hall header hheader
    refine ⟨packet, ?_, hdescribes⟩
    rw [List.mem_singleton.mp hpacket, putNeighbor, describedTo,
      List.foldl_append]
    rw [List.foldl_cons, List.foldl_nil, noteDd,
      if_neg (not_not.mpr (LogEntry.snapshotFor_sent _ _ _)),
      ddPacketTo_sent]
    exact List.mem_append_right _ (List.mem_singleton_self _)
  · rw [findNeighbor_putNeighbor_of_ne (hreplied _ _ _) hne] at hn'
    obtain ⟨n₀, hn₀, hkeeps⟩ := hothers ip' hne n' hn' hstate
    have hquiet : ∀ entry ∈ r.acceptanceLog ip headers n ++ entries ++
        [.sent ip (c.ospfPacket c.interface.auType typeDd
          (k.numberReply.ddReply c.interface.mtu c.ospfOptions
            c.uninit.ddOther))], entry.snapshotFor ip' = none := by
      intro entry hentry
      rcases List.mem_append.mp hentry with hbefore | hsent
      · rcases List.mem_append.mp hbefore with haccepted | hconcluded
        · exact acceptanceLog_snapshotFor hne haccepted
        · exact snapshotFor_of_plain (hplain entry hconcluded) ip'
      · rw [List.mem_singleton.mp hsent]
        exact LogEntry.snapshotFor_sent _ _ _
    refine Neighbor.Described.keepsSummary hkeeps ?_ (h ip' n₀ hn₀) hstate
    have hsub := describedTo_subset hquiet r.log
    rw [putNeighbor, hlog]
    simpa only [List.append_assoc] using hsub

/-! ## Runs -/

/-- Every step leaves the summaries described. -/
theorem step_summariesDescribed {step : Step} (h : r.SummariesDescribed)
    (hr' : r.step step = .ok r') : r'.SummariesDescribed := by
  cases step_moves hr' with
  | recedes hrecedes => exact h.keeps hrecedes.keepsSummaries
  | describes hadmits htype hheaders haccepted hpopped =>
      obtain ⟨m, hm, hfrom⟩ := acceptedDd_spec haccepted
      exact acceptedDd_summariesDescribed h hm (popped_ip hm hfrom hpopped)
  | @updates _ _ s hadmits htype hknown hrun =>
      have hkeeps := runFrom_invariant
        (I := fun s => r.KeepsSummaries s.router) (P := fun _ _ => True)
        (fun s data s' hs _ hs' => hs.trans (lsuRound_keepsSummaries hs'))
        (keepsSummaries_refl r) (along_of_forall (fun _ _ => trivial) _) hrun
      apply h.keeps
      rw [sendLsack]
      split_ifs
      · exact hkeeps.trans (keepsSummaries_addLog trivial)
      · exact hkeeps
  | acknowledges hadmits htype hfind hstate =>
      exact h.keeps (keepsSummaries_modifyNeighbor fun n =>
        ⟨rfl, fun hexchange => ⟨hexchange, rfl, rfl⟩⟩)

/-- Where the summaries are described, a step pops described headers exactly
when it finds nothing stale. -/
theorem eachAcceptedDd_popsDescribed_iff (h : r.SummariesDescribed)
    (step : Step) :
    r.EachAcceptedDd PopsDescribed step ↔
      r.EachAcceptedDd NothingStale step := by
  cases step with
  | frame now packet =>
      exact forall₂_congr fun _ _ => forall₂_congr fun headers _ =>
        forall₂_congr fun n haccepted =>
          popsDescribed_iff h haccepted headers
  | _ => exact Iff.rfl

/-- When the process starts no exchange is going on. -/
theorem boot_summariesDescribed (routerId areaId : UInt32) (uninit : Uninit)
    (loopbacks : List (UInt32 × UInt32)) (address mask : UInt32) :
    (boot routerId areaId uninit loopbacks address mask).SummariesDescribed :=
  fun _ _ hfind => by cases hfind

/-- In every run of the process only headers are popped that have been
described since the latest negotiation, exactly when no packet that opens an
exchange, or that carries a header of a bad type, finds the length of an
earlier packet with headers. -/
theorem popsDescribed_along_iff (routerId areaId : UInt32) (uninit : Uninit)
    (loopbacks : List (UInt32 × UInt32)) (address mask : UInt32)
    (steps : List Step) :
    Along step (EachAcceptedDd PopsDescribed)
        (boot routerId areaId uninit loopbacks address mask) steps ↔
      Along step (EachAcceptedDd NothingStale)
        (boot routerId areaId uninit loopbacks address mask) steps :=
  along_iff_of_invariant (I := SummariesDescribed)
    (fun _ _ _ h _ hr' => step_summariesDescribed h hr')
    (fun _ step h => eachAcceptedDd_popsDescribed_iff h step)
    (boot_summariesDescribed routerId areaId uninit loopbacks address mask)

/-- A DD packet of the peer that opens an exchange with the sequence
number. -/
def peerOpeningDd (seqNum : UInt8) : List UInt8 :=
  [5, 220, 2, 7, 0, 0, 0, seqNum]

/-- Two packets of the peer have each restarted the exchange; the second time
a header had been described.  The next packet pops it from the new list. -/
theorem header_popped_unsent :
    ¬Along step (EachAcceptedDd PopsDescribed)
      (boot 0x01010101 0 ⟨0, 0, 0, false, false, false⟩ [] 0x0a000001
        0xffffff00)
      [.frame 0 (fromPeer typeHello peerHello),
        .frame 0 (fromPeer typeDd (peerOpeningDd 0)),
        .frame 0 (fromPeer typeLsu peerLsu),
        .frame 0 (fromPeer typeDd (peerOpeningDd 1)),
        .frame 0 (fromPeer typeDd (peerOpeningDd 2)),
        .frame 0 (fromPeer typeDd (peerOpeningDd 3)),
        .frame 0 (fromPeer typeDd (peerOpeningDd 4))] := by
  have hreached : ∃ t, runFrom step
      (boot 0x01010101 0 ⟨0, 0, 0, false, false, false⟩ [] 0x0a000001
        0xffffff00)
      [.frame 0 (fromPeer typeHello peerHello),
        .frame 0 (fromPeer typeDd (peerOpeningDd 0)),
        .frame 0 (fromPeer typeLsu peerLsu),
        .frame 0 (fromPeer typeDd (peerOpeningDd 1)),
        .frame 0 (fromPeer typeDd (peerOpeningDd 2)),
        .frame 0 (fromPeer typeDd (peerOpeningDd 3))] = .ok t ∧
      t.Admits (fromPeer typeDd (peerOpeningDd 4)) ∧
      ∃ n ∈ t.acceptedDd 0x0a000002
          (OSPFDD.load ((fromPeer typeDd
            (peerOpeningDd 4)).advance bodyOffset)),
        t.Negotiates 0x0a000002 ∧ n.acknowledgedCount ≠ 0 :=
    Outcome.exists_of_completesWith (by decide +kernel)
  obtain ⟨t, hrun, hadmits, n, haccepted, hnegotiates, hstale⟩ := hreached
  have hsrc : ntohl ((fromPeer typeDd (peerOpeningDd 4)).load32 12) =
      0x0a000002 := by
    decide +kernel
  have hheaders : ddHeaders (fromPeer typeDd (peerOpeningDd 4)) = some [] := by
    decide +kernel
  have hdescribed : t.SummariesDescribed :=
    runFrom_invariant (I := SummariesDescribed) (P := fun _ _ => True)
      (fun _ _ _ h _ hr' => step_summariesDescribed h hr')
      (boot_summariesDescribed _ _ _ _ _ _)
      (along_of_forall (fun _ _ => trivial) _) hrun
  refine not_along_of_prefix hrun fun hpops => ?_
  have hnothing := (eachAcceptedDd_popsDescribed_iff hdescribed _).mp hpops
    hadmits (by decide +kernel) [] hheaders n (by rwa [hsrc])
  rw [hsrc] at hnothing
  exact hstale (hnothing (Or.inl hnegotiates))

end Router
end OspfLite
