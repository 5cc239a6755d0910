import OspfLite.Router.Receding

/-!
# Accepted Database Description packets

The DD branch in one piece: which packets are accepted, and what the record of
the neighbor is when one has been taken in.
-/

namespace OspfLite
namespace Neighbor

/-- The record when the chain of states is entered for the last time. -/
def beginDd (inter : Interface) (dd : OSPFDD) (n : Neighbor) : Neighbor :=
  if (n.recordDd dd).state = .init then
    (n.recordDd dd).event2wayReceived inter
  else
    n.recordDd dd

/-- A slave takes over the number of the packet. -/
def follow (dd : OSPFDD) (n : Neighbor) : Neighbor :=
  if n.isMaster then { n with ddSeqNum := ntohl dd.ddSeqNum } else n

/-- The record after the type loop: one header of a bad type restarts the
exchange, and the next ones find it restarted. -/
def afterTypes (headers : List LSAHeader) (n : Neighbor) : Neighbor :=
  if ∃ h ∈ headers, BadType h then n.restartExchange.1 else n

/-- The record when the packet has been taken in, before the summary list is
popped. -/
def takeIn (lsdb : LSDB) (dd : OSPFDD) (headers : List LSAHeader)
    (n : Neighbor) : Neighbor :=
  let checked := (n.follow dd).afterTypes headers
  { checked with
    linkStateRequestList := headers.foldl (requestStep lsdb)
      checked.linkStateRequestList }

/-- The record after the reply to the packet. -/
def reply (mtu : UInt16) (options ddOther : UInt8) (n : Neighbor) :
    Neighbor :=
  n.numberReply.recordReply (n.numberReply.ddReply mtu options ddOther)

/-- The record after the transition of `event_exchange_done`. -/
def reachFull (n : Neighbor) : Neighbor := { n with state := .full }

@[simp] theorem reachFull_state (n : Neighbor) :
    n.reachFull.state = .full := rfl

@[simp] theorem reachFull_ip (n : Neighbor) : n.reachFull.ip = n.ip := rfl

@[simp] theorem reachFull_lists (n : Neighbor) :
    n.reachFull.lists = n.lists := rfl

variable {n : Neighbor} {dd : OSPFDD} {headers : List LSAHeader}

theorem follow_eq (dd : OSPFDD) (n : Neighbor) :
    ∃ seqNum, n.follow dd = { n with ddSeqNum := seqNum } := by
  by_cases hmaster : n.isMaster = true
  · exact ⟨_, by rw [follow, if_pos hmaster]⟩
  · exact ⟨n.ddSeqNum, by rw [follow, if_neg hmaster]⟩

@[simp] theorem follow_state (dd : OSPFDD) (n : Neighbor) :
    (n.follow dd).state = n.state := by
  obtain ⟨seqNum, h⟩ := n.follow_eq dd
  rw [h]

@[simp] theorem follow_lists (dd : OSPFDD) (n : Neighbor) :
    (n.follow dd).lists = n.lists := by
  obtain ⟨seqNum, h⟩ := n.follow_eq dd
  rw [h]
  rfl

@[simp] theorem follow_ip (dd : OSPFDD) (n : Neighbor) :
    (n.follow dd).ip = n.ip := by
  obtain ⟨seqNum, h⟩ := n.follow_eq dd
  rw [h]

@[simp] theorem follow_lastSendDdDataLen (dd : OSPFDD) (n : Neighbor) :
    (n.follow dd).lastSendDdDataLen = n.lastSendDdDataLen := by
  obtain ⟨seqNum, h⟩ := n.follow_eq dd
  rw [h]

@[simp] theorem numberReply_state (n : Neighbor) :
    n.numberReply.state = n.state := by
  rw [numberReply]
  split_ifs <;> rfl

@[simp] theorem numberReply_lists (n : Neighbor) :
    n.numberReply.lists = n.lists := by
  rw [numberReply]
  split_ifs <;> rfl

@[simp] theorem numberReply_ip (n : Neighbor) :
    n.numberReply.ip = n.ip := by
  rw [numberReply]
  split_ifs <;> rfl

variable (mtu : UInt16) (options ddOther : UInt8)

@[simp] theorem reply_state :
    (n.reply mtu options ddOther).state = n.state :=
  n.numberReply_state

@[simp] theorem reply_lists :
    (n.reply mtu options ddOther).lists = n.lists :=
  n.numberReply_lists

@[simp] theorem reply_ip : (n.reply mtu options ddOther).ip = n.ip :=
  n.numberReply_ip

/-- A restarted exchange is not restarted again. -/
theorem restartExchange_restartExchange (n : Neighbor) :
    n.restartExchange.1.restartExchange.1 = n.restartExchange.1 := by
  have hlow : n.restartExchange.1.state < .exchange := by
    rw [restartExchange]
    split_ifs with hstate
    · simp only [restartEmptyDdSender_state, clearLists_state]
      decide
    · exact not_le.mp hstate
  rw [restartExchange, if_neg (not_le.mpr hlow)]

@[simp] theorem clearLists_lastSendDdDataLen (n : Neighbor) :
    n.clearLists.1.lastSendDdDataLen = n.lastSendDdDataLen := by
  by_cases h : n.lsrSenderCreated = true <;>
    simp [clearLists, joinRetransSender, joinLsrSender, h]

@[simp] theorem restartEmptyDdSender_lastSendDdDataLen (n : Neighbor) :
    n.restartEmptyDdSender.1.lastSendDdDataLen = n.lastSendDdDataLen := by
  by_cases h : n.isEmptyDdSenderRunning = true <;>
    simp [restartEmptyDdSender, joinEmptyDdSender, createEmptyDdSender, h]

/-- Restarting the exchange clears the lists, but `last_send_dd_data_len`
stays as it is. -/
theorem restartExchange_spec (h : NeighborState.exchange ≤ n.state) :
    n.restartExchange.1.state = .exStart ∧
      n.restartExchange.1.lists = ([], [], []) ∧
      n.restartExchange.1.lastSendDdDataLen = n.lastSendDdDataLen := by
  rw [restartExchange, if_pos h]
  simp only [restartEmptyDdSender_state, clearLists_state,
    restartEmptyDdSender_lists, clearLists_lists,
    restartEmptyDdSender_lastSendDdDataLen, clearLists_lastSendDdDataLen,
    and_self]

@[simp] theorem afterTypes_ip (headers : List LSAHeader) (n : Neighbor) :
    (n.afterTypes headers).ip = n.ip := by
  rw [afterTypes]
  split_ifs
  · exact n.restartExchange_recedes.ip
  · rfl

@[simp] theorem takeIn_ip (lsdb : LSDB) (dd : OSPFDD)
    (headers : List LSAHeader) (n : Neighbor) :
    (n.takeIn lsdb dd headers).ip = n.ip := by
  rw [takeIn]
  simp only [afterTypes_ip, follow_ip]

/-! ## The requests -/

/-- The database lacks an instance as recent as the header, so the header is
put on the request list.  A header that is not one of a Router LSA is taken
for one of a Network LSA if its age is 2. -/
def Lacks (lsdb : LSDB) (header : LSAHeader) : Prop :=
  (header.lsType = lsaRouter ∧
      ∀ lsa ∈ lsdb.findRouterLsa header.linkStateId header.advertisingRouter,
        lsaHeaderCmp header lsa.header < 0) ∨
    (header.lsType ≠ lsaRouter ∧ header.lsAge = 2 ∧
      ∀ lsa ∈ lsdb.findNetworkLsa header.linkStateId
          header.advertisingRouter,
        lsaHeaderCmp header lsa.header < 0)

instance (lsdb : LSDB) (header : LSAHeader) : Decidable (Lacks lsdb header) :=
  inferInstanceAs (Decidable
    ((_ ∧ ∀ lsa ∈ lsdb.findRouterLsa _ _, _) ∨
      (_ ∧ _ ∧ ∀ lsa ∈ lsdb.findNetworkLsa _ _, _)))

/-- The headers of a packet that are put on the request list. -/
def wanted (lsdb : LSDB) (headers : List LSAHeader) : List LSAHeader :=
  (headers.map LSAHeader.ddDecode).filter fun h => decide (Lacks lsdb h)

theorem requestStep_eq (lsdb : LSDB) (requests : List LSAHeader)
    (headerNet : LSAHeader) :
    requestStep lsdb requests headerNet =
      if Lacks lsdb headerNet.ddDecode then
        requests ++ [headerNet.ddDecode]
      else requests := by
  rw [requestStep]
  generalize headerNet.ddDecode = header
  by_cases hrouter : header.lsType = lsaRouter
  · rw [if_pos hrouter]
    cases hfind : lsdb.findRouterLsa header.linkStateId
      header.advertisingRouter <;> simp [Lacks, hrouter, hfind]
  · rw [if_neg hrouter]
    by_cases hage : header.lsAge = 2
    · rw [if_pos hage]
      cases hfind : lsdb.findNetworkLsa header.linkStateId
        header.advertisingRouter <;> simp [Lacks, hrouter, hage, hfind]
    · simp [Lacks, hrouter, hage]

/-- The request loop appends the headers that are wanted. -/
theorem foldl_requestStep (lsdb : LSDB) (headers requests : List LSAHeader) :
    headers.foldl (requestStep lsdb) requests =
      requests ++ wanted lsdb headers := by
  induction headers generalizing requests with
  | nil => simp [wanted]
  | cons h headers ih =>
      rw [List.foldl_cons, ih, requestStep_eq]
      by_cases hlacks : Lacks lsdb h.ddDecode <;> simp [wanted, hlacks]

/-- Taking in a packet whose headers have good types. -/
theorem takeIn_of_goodTypes (hgood : ∀ h ∈ headers, ¬BadType h)
    (lsdb : LSDB) (dd : OSPFDD) (n : Neighbor) :
    (n.takeIn lsdb dd headers).state = n.state ∧
      (n.takeIn lsdb dd headers).lists =
        (n.linkStateRetransmissionList, n.databaseSummaryList,
          n.linkStateRequestList ++ wanted lsdb headers) ∧
      (n.takeIn lsdb dd headers).lastSendDdDataLen = n.lastSendDdDataLen := by
  have hnone : ¬∃ h ∈ headers, BadType h :=
    fun ⟨h, hmem, hbad⟩ => hgood h hmem hbad
  obtain ⟨seqNum, hfollow⟩ := n.follow_eq dd
  rw [takeIn, afterTypes, if_neg hnone, hfollow]
  simp only [foldl_requestStep, lists, and_self]

/-- Taking in a packet with a header of a bad type: the requests are appended
after the lists have been cleared. -/
theorem takeIn_of_badType (hbad : ∃ h ∈ headers, BadType h) (lsdb : LSDB)
    (dd : OSPFDD) (hstate : n.state = .exchange) :
    (n.takeIn lsdb dd headers).state = .exStart ∧
      (n.takeIn lsdb dd headers).lists = ([], [], wanted lsdb headers) ∧
      (n.takeIn lsdb dd headers).lastSendDdDataLen = n.lastSendDdDataLen := by
  obtain ⟨hstart, hlists, hlen⟩ := restartExchange_spec
    (n := n.follow dd) (by rw [follow_state, hstate])
  simp only [lists, Prod.mk.injEq] at hlists
  rw [takeIn, afterTypes, if_pos hbad]
  simp only [foldl_requestStep, lists, hstart, hlists, hlen,
    follow_lastSendDdDataLen, List.nil_append, and_self]

/-- The packet concludes the exchange: no header is of a bad type, and neither
side has more to send. -/
def Completes (dd : OSPFDD) (headers : List LSAHeader) (n : Neighbor) :
    Prop :=
  (∀ h ∈ headers, ¬BadType h) ∧ dd.bM = false ∧
    n.databaseSummaryList.length = n.acknowledgedCount

instance (dd : OSPFDD) (headers : List LSAHeader) (n : Neighbor) :
    Decidable (n.Completes dd headers) :=
  inferInstanceAs (Decidable (_ ∧ _ ∧ _))

/-- Popping the summary list leaves the address alone. -/
theorem popAcknowledged_eq_ok {popped : Neighbor} :
    n.popAcknowledged = .ok popped ↔
      n.acknowledgedCount ≤ n.databaseSummaryList.length ∧
        popped = { n with
          databaseSummaryList :=
            n.databaseSummaryList.drop n.acknowledgedCount } := by
  rw [popAcknowledged]
  split_ifs with h
  · rw [Except.ok.injEq]
    exact ⟨fun heq => ⟨h, heq.symm⟩, fun heq => heq.2.symm⟩
  · exact iff_of_false (fun heq => by cases heq) fun heq => h heq.1

/-- What a packet is accepted with: in EXCHANGE the record as it is, in
EXSTART one whose summary list has just been filled. -/
theorem ddVerdict_accept {routerId : UInt32} {lsdb : LSDB} {dup : Bool}
    {n' : Neighbor}
    (h : n.ddVerdict routerId lsdb dup dd = .accept n') :
    (n.state = .exchange ∧ n' = n) ∨
      (n.state = .exStart ∧ ∃ isMaster seqNum, n' =
        { n with
          isMaster := isMaster
          ddSeqNum := seqNum
          databaseSummaryList := lsdb.headers
          state := .exchange }) := by
  rw [ddVerdict] at h
  cases hstate : n.state with
  | down | attempt | init | twoWay => simp [hstate] at h
  | loading | full =>
      simp only [hstate] at h
      split_ifs at h
  | exStart =>
      simp only [hstate] at h
      split_ifs at h
      · rw [DdVerdict.accept.injEq] at h
        refine Or.inr ⟨rfl, true, ntohl dd.ddSeqNum, ?_⟩
        rw [← h, eventNegotiationDone]
        simp
      · rw [DdVerdict.accept.injEq] at h
        refine Or.inr ⟨rfl, false, n.ddSeqNum, ?_⟩
        rw [← h, eventNegotiationDone]
        simp
  | exchange =>
      simp only [hstate] at h
      split_ifs at h <;>
        exact Or.inl ⟨rfl, (DdVerdict.accept.inj h).symm⟩

theorem recordDd_eq (dd : OSPFDD) (n : Neighbor) :
    ∃ seqNum, n.recordDd dd =
      { n with
        lastRecvDdSeqNum := seqNum
        lastRecvDdI := dd.bI
        lastRecvDdM := dd.bM
        lastRecvDdMs := dd.bMs
        options := dd.options } :=
  ⟨_, rfl⟩

/-- Entering the chain leaves the exchange alone, but for INIT. -/
theorem beginDd_recedes (inter : Interface) (dd : OSPFDD) (n : Neighbor) :
    n.Recedes (n.beginDd inter dd) := by
  obtain ⟨seqNum, hrecord⟩ := n.recordDd_eq dd
  have hnoticed : n.Recedes (n.recordDd dd) := by
    rw [hrecord]
    exact ⟨rfl, Or.inl ⟨rfl, rfl, rfl⟩⟩
  rw [beginDd]
  split_ifs
  · exact hnoticed.trans (event2wayReceived_recedes inter _)
  · exact hnoticed

@[simp] theorem beginDd_lists (inter : Interface) (dd : OSPFDD)
    (n : Neighbor) : (n.beginDd inter dd).lists = n.lists := by
  obtain ⟨seqNum, hrecord⟩ := n.recordDd_eq dd
  rw [beginDd, hrecord, event2wayReceived]
  split_ifs <;> rfl

/-- A neighbor is in EXSTART either from before, or from INIT with the fields
of the exchange reset. -/
theorem beginDd_exStart {inter : Interface}
    (h : (n.beginDd inter dd).state = .exStart) :
    (n.state = .exStart ∧
        (n.beginDd inter dd).lastSendDdDataLen = n.lastSendDdDataLen) ∨
      (n.state = .init ∧ (n.beginDd inter dd).lastSendDdDataLen = 0) := by
  obtain ⟨seqNum, hrecord⟩ := n.recordDd_eq dd
  rw [beginDd, hrecord, event2wayReceived] at h ⊢
  by_cases hinit : n.state = .init
  · simp only [if_pos hinit] at h ⊢
    split_ifs at h ⊢
    exact Or.inr ⟨hinit, rfl⟩
  · simp only [if_neg hinit] at h ⊢
    exact Or.inl ⟨h, trivial⟩

/-- In EXCHANGE the record is only given the flags of the packet. -/
theorem beginDd_exchange {inter : Interface}
    (h : (n.beginDd inter dd).state = .exchange) :
    n.state = .exchange ∧
      (n.beginDd inter dd).lastSendDdDataLen = n.lastSendDdDataLen := by
  obtain ⟨seqNum, hrecord⟩ := n.recordDd_eq dd
  rw [beginDd, hrecord, event2wayReceived] at h ⊢
  by_cases hinit : n.state = .init
  · simp only [if_pos hinit] at h
    split_ifs at h
    all_goals cases h
  · simp only [if_neg hinit] at h ⊢
    exact ⟨h, trivial⟩

/-- A record `n` with which a packet of the neighbor with record `m` is
accepted. -/
structure AcceptedFrom (lsdb : LSDB) (m n : Neighbor) : Prop where
  ip : n.ip = m.ip
  state : n.state = .exchange
  retransmissions :
    n.linkStateRetransmissionList = m.linkStateRetransmissionList
  requests : n.linkStateRequestList = m.linkStateRequestList
  summary :
    (m.state = .exchange ∧ n.databaseSummaryList = m.databaseSummaryList ∧
        n.lastSendDdDataLen = m.lastSendDdDataLen) ∨
      (m.state < .exchange ∧ n.databaseSummaryList = lsdb.headers ∧
        n.lastSendDdDataLen =
          if m.state = .init then 0 else m.lastSendDdDataLen)

theorem acceptedFrom_of_accept {inter : Interface} {routerId : UInt32}
    {lsdb : LSDB} {dup : Bool} {n' : Neighbor}
    (h : (n.beginDd inter dd).ddVerdict routerId lsdb dup dd = .accept n') :
    AcceptedFrom lsdb n n' := by
  have hip := (n.beginDd_recedes inter dd).ip
  have hlists := n.beginDd_lists inter dd
  simp only [lists, Prod.mk.injEq] at hlists
  obtain ⟨hretrans, hsummary, hrequests⟩ := hlists
  rcases ddVerdict_accept h with ⟨hstate, rfl⟩ | ⟨hstate, _, _, rfl⟩
  · obtain ⟨hbefore, hlen⟩ := beginDd_exchange hstate
    exact ⟨hip, hstate, hretrans, hrequests, Or.inl ⟨hbefore, hsummary, hlen⟩⟩
  · refine ⟨hip, rfl, hretrans, hrequests, Or.inr ?_⟩
    rcases beginDd_exStart hstate with ⟨hbefore, hlen⟩ | ⟨hbefore, hlen⟩
    · rw [hbefore]
      exact ⟨by decide, rfl, hlen⟩
    · rw [hbefore]
      exact ⟨by decide, rfl, hlen⟩

/-- The count of headers to pop is not affected by taking in the packet. -/
theorem takeIn_acknowledgedCount (hstate : n.state = .exchange)
    (lsdb : LSDB) (dd : OSPFDD) (headers : List LSAHeader) :
    (n.takeIn lsdb dd headers).acknowledgedCount = n.acknowledgedCount := by
  have hlen : (n.takeIn lsdb dd headers).lastSendDdDataLen =
      n.lastSendDdDataLen := by
    by_cases hbad : ∃ h ∈ headers, BadType h
    · exact (takeIn_of_badType hbad lsdb dd hstate).2.2
    · exact (takeIn_of_goodTypes
        (fun h hmem hb => hbad ⟨h, hmem, hb⟩) lsdb dd n).2.2
  rw [acknowledgedCount, acknowledgedCount, hlen]

/-- The test at the end of the branch. -/
theorem completes_iff {lsdb : LSDB} {popped : Neighbor}
    (hstate : n.state = .exchange)
    (hpopped : (n.takeIn lsdb dd headers).popAcknowledged = .ok popped) :
    n.Completes dd headers ↔
      dd.bM = false ∧ popped.databaseSummaryList = [] ∧
        popped.state = .exchange := by
  obtain ⟨hle, rfl⟩ := popAcknowledged_eq_ok.mp hpopped
  have hcount := takeIn_acknowledgedCount hstate lsdb dd headers
  by_cases hbad : ∃ h ∈ headers, BadType h
  · have hstart := (takeIn_of_badType hbad lsdb dd hstate).1
    constructor
    · intro h
      obtain ⟨header, hmem, hb⟩ := hbad
      exact absurd hb (h.1 header hmem)
    · rintro ⟨-, -, hafter⟩
      rw [hstart] at hafter
      cases hafter
  · have hgood : ∀ h ∈ headers, ¬BadType h :=
      fun h hmem hb => hbad ⟨h, hmem, hb⟩
    obtain ⟨hsame, hlists, -⟩ := takeIn_of_goodTypes hgood lsdb dd n
    simp only [lists, Prod.mk.injEq] at hlists
    rw [hcount, hlists.2.1] at hle
    simp only [Completes, hcount, hlists.2.1, hsame, hstate,
      List.drop_eq_nil_iff, and_true]
    refine ⟨fun h => ⟨h.2.1, h.2.2.le⟩, fun h => ⟨?_, h.1, ?_⟩⟩
    · exact fun h hmem => hgood h hmem
    · exact le_antisymm h.2 hle

/-- With a count equal to the length of the list the pop succeeds. -/
theorem exists_popped_of_completes (h : n.Completes dd headers)
    (hstate : n.state = .exchange) (lsdb : LSDB) :
    ∃ popped, (n.takeIn lsdb dd headers).popAcknowledged = .ok popped := by
  obtain ⟨-, hlists, -⟩ := takeIn_of_goodTypes h.1 lsdb dd n
  simp only [lists, Prod.mk.injEq] at hlists
  refine ⟨_, popAcknowledged_eq_ok.mpr ⟨?_, rfl⟩⟩
  rw [takeIn_acknowledgedCount hstate, hlists.2.1, h.2.2]

end Neighbor

namespace Router

variable {r r' : Router} {ip : UInt32} {dd : OSPFDD} {n : Neighbor}
  {headers : List LSAHeader}

/-- The record with which a packet is accepted. -/
def acceptedDd (r : Router) (ip : UInt32) (dd : OSPFDD) : Option Neighbor :=
  (r.findNeighbor ip).bind fun n =>
    match (n.beginDd r.interface dd).ddVerdict r.routerId r.lsdb
        (decide (n.IsDuplicate dd)) dd with
    | .accept n' => some n'
    | _ => none

/-- The exchange begins with this packet. -/
def Negotiates (r : Router) (ip : UInt32) : Prop :=
  ∃ n ∈ r.findNeighbor ip, n.state ≠ .exchange

instance (r : Router) (ip : UInt32) : Decidable (r.Negotiates ip) :=
  inferInstanceAs (Decidable (∃ n ∈ r.findNeighbor ip, _))

/-- The record of the neighbor is replaced, and the log is extended. -/
def putNeighbor (r : Router) (ip : UInt32) (n : Neighbor)
    (entries : List LogEntry) : Router :=
  { r with
    interface := r.interface.modifyNeighbor ip fun _ => n
    log := r.log ++ entries }

/-- What the log says of an accepted packet. -/
def acceptanceLog (r : Router) (ip : UInt32) (headers : List LSAHeader)
    (n : Neighbor) : List LogEntry :=
  (if r.Negotiates ip then [.negotiated ip n.databaseSummaryList] else []) ++
    (headers.filter fun h => decide (Neighbor.BadType h)).map
      (fun _ => .raised ip .seqNumberMismatch) ++
    [.accepted ip (headers.map LSAHeader.ddDecode)]

/-- The end of the branch: the exchange is concluded if both sides have
nothing more to send. -/
def concludeDd (r : Router) (ip : UInt32) (dd : OSPFDD) (popped : Neighbor) :
    Router :=
  if dd.bM = false ∧ popped.databaseSummaryList = [] then
    r.eventExchangeDone ip
  else
    r

/-! ## The pieces of the branch -/

theorem findNeighbor_ip (h : r.findNeighbor ip = some n) : n.ip = ip :=
  Interface.findNeighbor_ip h

/-- The type loop restarts the exchange once, and reports every header. -/
theorem checkTypes_eq_afterTypes (ip : UInt32) (headers : List LSAHeader)
    (r : Router) :
    r.checkTypes ip headers =
      { r with
        interface := r.interface.modifyNeighbor ip
          (Neighbor.afterTypes headers)
        log := r.log ++
          (headers.filter fun h => decide (Neighbor.BadType h)).map
            fun _ => .raised ip .seqNumberMismatch } := by
  induction headers generalizing r with
  | nil =>
      have hnone : r.interface.modifyNeighbor ip (Neighbor.afterTypes []) =
          r.interface := r.interface.modifyNeighbor_of_id fun n _ => by
        simp [Neighbor.afterTypes]
      simp [checkTypes, hnone]
  | cons h headers ih =>
      rw [checkTypes, List.foldl_cons]
      change checkTypes ip headers _ = _
      by_cases hbad : Neighbor.BadType h
      · rw [if_pos hbad, ih, List.filter_cons_of_pos (by simpa using hbad)]
        have honce : (fun n => Neighbor.afterTypes headers
            (Neighbor.eventSeqNumberMismatch n).1) =
            Neighbor.afterTypes (h :: headers) := by
          funext n
          have hany : ∃ x ∈ h :: headers, Neighbor.BadType x :=
            ⟨h, List.mem_cons_self, hbad⟩
          rw [Neighbor.afterTypes, Neighbor.afterTypes, if_pos hany,
            Neighbor.eventSeqNumberMismatch,
            Neighbor.restartExchange_restartExchange, ite_self]
        simp only [eventSeqNumberMismatch, addLog, modifyNeighbor]
        rw [Interface.modifyNeighbor_modifyNeighbor, honce]
        · simp
        · intro n hn
          rw [← hn]
          exact n.restartExchange_recedes.ip
      · rw [if_neg hbad, ih, List.filter_cons_of_neg (by simpa using hbad)]
        have hsame : Neighbor.afterTypes (h :: headers) =
            Neighbor.afterTypes headers := by
          funext n
          simp [Neighbor.afterTypes, hbad]
        rw [hsame]

/-- The record put in place is found. -/
theorem findNeighbor_putNeighbor (hfind : r.findNeighbor ip = some n)
    {m : Neighbor} (hip : m.ip = ip) (entries : List LogEntry) :
    (r.putNeighbor ip m entries).findNeighbor ip = some m := by
  have hkeep : ∀ k : Neighbor, k.ip = ip → m.ip = ip := fun _ _ => hip
  have hfound : (r.interface.modifyNeighbor ip fun _ => m).findNeighbor ip =
      (r.interface.findNeighbor ip).map fun _ => m :=
    Interface.findNeighbor_modifyNeighbor hkeep
  change r.interface.findNeighbor ip = some n at hfind
  rw [hfind] at hfound
  exact hfound

theorem putNeighbor_putNeighbor {m : Neighbor} (hip : m.ip = ip)
    (k : Neighbor) (entries entries' : List LogEntry) :
    (r.putNeighbor ip m entries).putNeighbor ip k entries' =
      r.putNeighbor ip k (entries ++ entries') := by
  have htwo : (r.interface.modifyNeighbor ip fun _ => m).modifyNeighbor ip
      (fun _ => k) = r.interface.modifyNeighbor ip fun _ => k :=
    Interface.modifyNeighbor_modifyNeighbor (fun _ _ => hip) fun _ => k
  simp only [putNeighbor, htwo, List.append_assoc]

/-- Changing the record found is putting the changed one in place. -/
theorem modifyNeighbor_eq_putNeighbor (hfind : r.findNeighbor ip = some n)
    (f : Neighbor → Neighbor) :
    r.modifyNeighbor ip f = r.putNeighbor ip (f n) [] := by
  have hsame : r.interface.modifyNeighbor ip f =
      r.interface.modifyNeighbor ip fun _ => f n := by
    apply Interface.modifyNeighbor_congr
    intro m hm
    change r.interface.findNeighbor ip = some n at hfind
    rw [hfind, Option.some.injEq] at hm
    rw [hm]
  rw [modifyNeighbor, putNeighbor, hsame, List.append_nil]

theorem putNeighbor_self (hfind : r.findNeighbor ip = some n) :
    r.putNeighbor ip n [] = r := by
  have hput := modifyNeighbor_eq_putNeighbor hfind id
  rw [id_eq] at hput
  rw [← hput, modifyNeighbor,
    Interface.modifyNeighbor_of_id (f := id) fun _ _ => rfl]

theorem addLog_putNeighbor (entries : List LogEntry) (entry : LogEntry) :
    (r.putNeighbor ip n entries).addLog entry =
      r.putNeighbor ip n (entries ++ [entry]) := by
  simp [addLog, putNeighbor]

/-- The exchange is done only from EXCHANGE. -/
theorem eventExchangeDone_eq (hfind : r.findNeighbor ip = some n) :
    r.eventExchangeDone ip =
      if n.state = .exchange then
        (r.putNeighbor ip n.reachFull []).updateLsas
      else r := by
  rw [eventExchangeDone, hfind]
  simp only [modifyNeighbor_eq_putNeighbor hfind]
  by_cases hstate : n.state = .exchange
  · have hdone : n.exchangeDoneState = (n.reachFull, true) :=
      if_pos hstate
    rw [hdone, if_pos hstate, if_pos rfl]
  · have hdone : n.exchangeDoneState = (n, false) := if_neg hstate
    rw [hdone, if_neg hstate, if_neg Bool.false_ne_true,
      putNeighbor_self hfind]

/-- The exchange is concluded if neither side has more to send and no header
has restarted it. -/
theorem concludeDd_eq {popped : Neighbor}
    (hfind : r.findNeighbor ip = some popped) (dd : OSPFDD) :
    r.concludeDd ip dd popped =
      if dd.bM = false ∧ popped.databaseSummaryList = [] ∧
          popped.state = .exchange then
        (r.putNeighbor ip popped.reachFull []).updateLsas
      else r := by
  rw [concludeDd, eventExchangeDone_eq hfind, ← ite_and]
  simp only [and_assoc]

/-- The reply. -/
theorem replyDd_eq (hfind : r.findNeighbor ip = some n) :
    r.replyDd ip =
      r.putNeighbor ip
        (n.reply r.interface.mtu r.ospfOptions r.uninit.ddOther)
        [.sent ip (r.ospfPacket r.interface.auType typeDd
          (n.numberReply.ddReply r.interface.mtu r.ospfOptions
            r.uninit.ddOther))] := by
  have hip : n.numberReply.ip = ip := by
    rw [n.numberReply_ip, findNeighbor_ip hfind]
  have hnumbered := findNeighbor_putNeighbor hfind hip []
  rw [replyDd, modifyNeighbor_eq_putNeighbor hfind, hnumbered]
  simp only [sendOspfPacket, sendOspfPacketFrom, addLog_putNeighbor,
    List.nil_append]
  rw [modifyNeighbor_eq_putNeighbor
      (findNeighbor_putNeighbor hfind hip _),
    putNeighbor_putNeighbor hip, List.append_nil, hip]
  rfl

/-- The type loop, on the record found. -/
theorem checkTypes_eq_putNeighbor (hfind : r.findNeighbor ip = some n)
    (headers : List LSAHeader) :
    r.checkTypes ip headers =
      r.putNeighbor ip (n.afterTypes headers)
        ((headers.filter fun h => decide (Neighbor.BadType h)).map
          fun _ => .raised ip .seqNumberMismatch) := by
  have hput := modifyNeighbor_eq_putNeighbor hfind
    (Neighbor.afterTypes headers)
  have hinter := congrArg interface hput
  rw [checkTypes_eq_afterTypes, putNeighbor]
  change r.interface.modifyNeighbor ip _ = r.interface.modifyNeighbor ip _
    at hinter
  rw [hinter]

/-- The reply changes the record and the log only. -/
theorem replyDd_lsdb (r : Router) (ip : UInt32) :
    (r.replyDd ip).lsdb = r.lsdb := by
  rw [replyDd]
  split <;> rfl

/-- The end of the branch in one piece. -/
theorem concludeDd_putNeighbor {m popped : Neighbor}
    (hfind : r.findNeighbor ip = some m) (hip : popped.ip = ip)
    (entries : List LogEntry) (dd : OSPFDD) :
    (r.putNeighbor ip popped entries).concludeDd ip dd popped =
      if dd.bM = false ∧ popped.databaseSummaryList = [] ∧
          popped.state = .exchange then
        (r.putNeighbor ip popped.reachFull entries).updateLsas
      else r.putNeighbor ip popped entries := by
  rw [concludeDd_eq (findNeighbor_putNeighbor hfind hip entries),
    putNeighbor_putNeighbor hip, List.append_nil]

/-- What an accepted packet does, with the record of the neighbor in one
piece. -/
theorem acceptDd_eq (hfind : r.findNeighbor ip = some n) (dd : OSPFDD)
    (headers : List LSAHeader) :
    r.acceptDd ip dd headers =
      (n.takeIn r.lsdb dd headers).popAcknowledged.map fun popped =>
        ((r.putNeighbor ip popped
          ((headers.filter fun h => decide (Neighbor.BadType h)).map
              (fun _ => .raised ip .seqNumberMismatch) ++
            [.accepted ip (headers.map LSAHeader.ddDecode)])).concludeDd ip
          dd popped).replyDd ip := by
  have hip := findNeighbor_ip hfind
  have hfollow : (n.follow dd).ip = ip := by rw [n.follow_ip, hip]
  have hchecked : ((n.follow dd).afterTypes headers).ip = ip := by
    rw [Neighbor.afterTypes_ip, hfollow]
  have htaken : (n.takeIn r.lsdb dd headers).ip = ip := by
    rw [n.takeIn_ip, hip]
  have hnumbered : (r.modifyNeighbor ip fun n =>
      if n.isMaster then { n with ddSeqNum := ntohl dd.ddSeqNum } else n) =
        r.putNeighbor ip (n.follow dd) [] :=
    modifyNeighbor_eq_putNeighbor hfind _
  have htypes : (r.putNeighbor ip (n.follow dd) []).checkTypes ip headers =
      r.putNeighbor ip ((n.follow dd).afterTypes headers)
        ((headers.filter fun h => decide (Neighbor.BadType h)).map
          fun _ => .raised ip .seqNumberMismatch) := by
    rw [checkTypes_eq_putNeighbor
        (findNeighbor_putNeighbor hfind hfollow _),
      putNeighbor_putNeighbor hfollow, List.nil_append]
  have hrequested (entries : List LogEntry) (entry : LogEntry) :
      ((r.putNeighbor ip ((n.follow dd).afterTypes headers)
          entries).modifyNeighbor ip fun m =>
        { m with
          linkStateRequestList := headers.foldl
            (Neighbor.requestStep (r.putNeighbor ip
              ((n.follow dd).afterTypes headers) entries).lsdb)
            m.linkStateRequestList }).addLog entry =
      r.putNeighbor ip (n.takeIn r.lsdb dd headers) (entries ++ [entry]) := by
    rw [modifyNeighbor_eq_putNeighbor
        (findNeighbor_putNeighbor hfind hchecked _),
      putNeighbor_putNeighbor hchecked, addLog_putNeighbor, List.append_nil]
    rfl
  simp only [acceptDd, hnumbered, htypes, hrequested,
    findNeighbor_putNeighbor hfind htaken]
  refine congrArg (fun f => (n.takeIn r.lsdb dd
    headers).popAcknowledged.map f) (funext fun popped => ?_)
  rw [modifyNeighbor_eq_putNeighbor
      (findNeighbor_putNeighbor hfind htaken _),
    putNeighbor_putNeighbor htaken, List.append_nil, concludeDd]
  split_ifs <;> rfl

/-! ## The branch -/

/-- What the acceptance of a packet starts from. -/
theorem acceptedDd_spec (h : r.acceptedDd ip dd = some n) :
    ∃ m, r.findNeighbor ip = some m ∧ Neighbor.AcceptedFrom r.lsdb m n := by
  obtain ⟨m, hm, hverdict⟩ := Option.bind_eq_some_iff.mp h
  refine ⟨m, hm, ?_⟩
  split at hverdict
  · next n' haccept =>
    rw [Option.some.injEq] at hverdict
    exact hverdict ▸ Neighbor.acceptedFrom_of_accept haccept
  · cases hverdict

/-- An accepted packet that does not find the neighbor in EXCHANGE finds it in
EXSTART when the chain is entered for the last time. -/
theorem negotiates_iff {m n' : Neighbor} {dup : Bool}
    (hm : r.findNeighbor ip = some m)
    (haccept : (m.beginDd r.interface dd).ddVerdict r.routerId r.lsdb dup
      dd = .accept n') :
    (m.beginDd r.interface dd).state = .exStart ↔ r.Negotiates ip := by
  have hfound : r.Negotiates ip ↔ m.state ≠ .exchange := by
    simp [Negotiates, hm]
  rw [hfound]
  rcases Neighbor.ddVerdict_accept haccept with ⟨hstate, -⟩ | ⟨hstate, -⟩
  · have hbefore := (Neighbor.beginDd_exchange hstate).1
    rw [hstate, hbefore]
    decide
  · refine iff_of_true hstate ?_
    rcases Neighbor.beginDd_exStart hstate with ⟨h, -⟩ | ⟨h, -⟩
    · rw [h]
      decide
    · rw [h]
      decide

/-- The branch on the record found. -/
theorem handleDd_eq {m : Neighbor} (hm : r.findNeighbor ip = some m)
    (headers : Option (List LSAHeader)) :
    r.handleDd ip dd headers =
      let begun := m.beginDd r.interface dd
      let r' := r.modifyNeighbor ip fun _ => begun
      match begun.ddVerdict r.routerId r.lsdb (decide (m.IsDuplicate dd))
          dd with
      | .ignore => .ok r'
      | .resend => .ok (r'.resendDd begun)
      | .mismatch => .ok (r'.eventSeqNumberMismatch ip)
      | .accept n' =>
          let negotiated := r'.modifyNeighbor ip fun _ => n'
          let logged := if begun.state = .exStart then
            negotiated.addLog (.negotiated ip n'.databaseSummaryList)
            else negotiated
          match headers with
          | none => .error .endlessLoop
          | some headers => logged.acceptDd ip dd headers := by
  rw [handleDd, hm]
  rfl

/-- The record after the pop belongs to the same neighbor. -/
theorem popped_ip {m popped : Neighbor} (hm : r.findNeighbor ip = some m)
    (hfrom : Neighbor.AcceptedFrom r.lsdb m n)
    (hpopped : (n.takeIn r.lsdb dd headers).popAcknowledged = .ok popped) :
    popped.ip = ip := by
  obtain ⟨-, rfl⟩ := Neighbor.popAcknowledged_eq_ok.mp hpopped
  change (n.takeIn r.lsdb dd headers).ip = ip
  rw [n.takeIn_ip, hfrom.ip, findNeighbor_ip hm]

/-- Accepting a packet adds nothing to the retransmission list. -/
theorem popped_retransmissions_subset {m popped : Neighbor}
    (hfrom : Neighbor.AcceptedFrom r.lsdb m n)
    (hpopped : (n.takeIn r.lsdb dd headers).popAcknowledged = .ok popped) :
    popped.linkStateRetransmissionList ⊆ m.linkStateRetransmissionList := by
  obtain ⟨-, rfl⟩ := Neighbor.popAcknowledged_eq_ok.mp hpopped
  change (n.takeIn r.lsdb dd headers).linkStateRetransmissionList ⊆ _
  by_cases hbad : ∃ h ∈ headers, Neighbor.BadType h
  · have hlists :=
      (Neighbor.takeIn_of_badType hbad r.lsdb dd hfrom.state).2.1
    simp only [Neighbor.lists, Prod.mk.injEq] at hlists
    rw [hlists.1]
    exact List.nil_subset _
  · have hlists := (Neighbor.takeIn_of_goodTypes
      (fun h hmem hb => hbad ⟨h, hmem, hb⟩) r.lsdb dd n).2.1
    simp only [Neighbor.lists, Prod.mk.injEq] at hlists
    rw [hlists.1, hfrom.retransmissions]
    exact List.Subset.refl _

/-- Without whole headers the handling does not complete. -/
theorem handleDd_of_accepted_none (h : r.acceptedDd ip dd = some n) :
    r.handleDd ip dd none = .error .endlessLoop := by
  obtain ⟨m, hm, hverdict⟩ := Option.bind_eq_some_iff.mp h
  rw [handleDd_eq hm]
  split at hverdict
  · next haccept => simp only [haccept]
  · cases hverdict

/-- The handling of an accepted packet, with the record of the neighbor in one
piece. -/
theorem handleDd_of_accepted (h : r.acceptedDd ip dd = some n)
    (headers : List LSAHeader) :
    r.handleDd ip dd (some headers) =
      (n.takeIn r.lsdb dd headers).popAcknowledged.map fun popped =>
        ((r.putNeighbor ip popped (r.acceptanceLog ip headers n)).concludeDd
          ip dd popped).replyDd ip := by
  obtain ⟨m, hm, hverdict⟩ := Option.bind_eq_some_iff.mp h
  rw [handleDd_eq hm]
  split at hverdict
  · next n' haccept =>
    rw [Option.some.injEq] at hverdict
    subst hverdict
    have hfrom := Neighbor.acceptedFrom_of_accept haccept
    have hip : n'.ip = ip := hfrom.ip.trans (findNeighbor_ip hm)
    have hbegun : (m.beginDd r.interface dd).ip = ip :=
      (m.beginDd_recedes r.interface dd).ip.trans (findNeighbor_ip hm)
    have hlogged : (if (m.beginDd r.interface dd).state = .exStart then
          (r.putNeighbor ip n' []).addLog
            (.negotiated ip n'.databaseSummaryList)
        else r.putNeighbor ip n' []) =
        r.putNeighbor ip n' (if r.Negotiates ip then
          [.negotiated ip n'.databaseSummaryList] else []) := by
      simp only [negotiates_iff hm haccept]
      split_ifs <;> simp [addLog_putNeighbor]
    simp only [haccept]
    rw [modifyNeighbor_eq_putNeighbor hm,
      modifyNeighbor_eq_putNeighbor (findNeighbor_putNeighbor hm hbegun _),
      putNeighbor_putNeighbor hbegun, List.append_nil, hlogged,
      acceptDd_eq (findNeighbor_putNeighbor hm hip _)]
    simp only [putNeighbor_putNeighbor hip, acceptanceLog, List.append_assoc]
    rfl
  · cases hverdict

end Router
end OspfLite
