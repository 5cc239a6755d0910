import OspfLite.Router.SummaryPops

/-!
# The end of an exchange

A Database Description packet with the M bit clear says that its sender has
nothing more to describe.  The slave is done when it answers such a packet with
one of its own, the master when it receives such an answer to one.
-/

namespace OspfLite

/-- The M bit of a DD packet, as its receiver loads it. -/
def saysMore (packet : List UInt8) : Bool :=
  (OSPFDD.load ((Memory.ofList packet).advance ospfHeaderSize)).bM

theorem OSPFDD.load_store_bM (dd : OSPFDD) (rest : List UInt8) :
    (OSPFDD.load (Memory.ofList (dd.store ++ rest))).bM = dd.bM :=
  (OSPFDD.flag_bits dd.bMs dd.bM dd.bI dd.bOther).2.1

namespace Router

/-- The exchange with the neighbor at `ip` is over. -/
def IsFullWith (r : Router) (ip : UInt32) : Prop :=
  ∃ n ∈ r.findNeighbor ip, n.state = .full

/-- The latest DD packet the router has sent in the exchange with the neighbor
at `ip`, once the exchange has begun. -/
def ownLastDd (r : Router) (ip : UInt32) : Option (List UInt8) :=
  if r.Negotiates ip then none else (describedTo ip r.log).getLast?

/-- If the step answers with M = 0, it raises `event_exchange_done`, which
takes the neighbor to FULL. -/
def EndsAsSlave (r : Router) (step : Step) (ip : UInt32) : Prop :=
  ∀ r' reply, r.step step = .ok r' → r.Emits ip r' [reply] →
    saysMore reply = false → r'.IsFullWith ip

/-- The step raises `event_exchange_done`, and neither it nor a later step that
finds the neighbor in FULL sends a DD packet. -/
def EndsAsMaster (r : Router) (step : Step) (later : List Step)
    (ip : UInt32) : Prop :=
  ∃ r', r.step step = .ok r' ∧ r'.IsFullWith ip ∧
    ∀ steps t, steps <+: later →
      Along Router.step (fun s _ => s.IsFullWith ip) r' steps →
      runFrom Router.step r' steps = .ok t → r.Emits ip t []

/-- The exchange ends where it has to: at a packet with M = 0 and LSAs of
known types that the slave answers with M = 0, or that the master receives
after a packet of its own with M = 0. -/
def ExchangeEnds (r : Router) (step : Step) (later : List Step) : Prop :=
  EachAcceptedDd
    (fun r ip dd headers n =>
      (∀ h ∈ headers, ¬Neighbor.BadType h) → dd.bM = false →
        (n.isMaster = true → r.EndsAsSlave step ip) ∧
        (n.isMaster = false →
          (∃ last ∈ r.ownLastDd ip, saysMore last = false) →
            r.EndsAsMaster step later ip))
    r step

/-- A packet with M = 0 finds a slave with nothing left to describe, or with
more than the next packet holds, and a master whose last packet had M = 1. -/
def EndsNoEarlier (r : Router) (ip : UInt32) (dd : OSPFDD)
    (headers : List LSAHeader) (n : Neighbor) : Prop :=
  (∀ h ∈ headers, ¬Neighbor.BadType h) → dd.bM = false →
    (n.isMaster = true →
      n.databaseSummaryList.length ≤ n.acknowledgedCount ∨
        n.acknowledgedCount + ddCapacity < n.databaseSummaryList.length) ∧
    (n.isMaster = false → ∀ last ∈ r.ownLastDd ip, saysMore last = true)

variable {r r' : Router} {ip : UInt32} {packet : Memory} {dd : OSPFDD}
  {headers : List LSAHeader} {n popped : Neighbor}

/-! ## The reply -/

/-- M is set in the reply when the headers do not fit. -/
theorem saysMore_ddReply (r : Router) (auType : UInt32) (mtu : UInt16)
    (options ddOther : UInt8) (n : Neighbor) :
    saysMore (r.ospfPacket auType typeDd (n.ddReply mtu options ddOther)) =
      decide (ddCapacity < n.databaseSummaryList.length) := by
  rw [saysMore, ospfPacket_advance, Neighbor.ddReply]
  exact OSPFDD.load_store_bM _ _

/-- What is logged on acceptance says nothing of packets. -/
theorem emits_acceptance (r : Router) (ip : UInt32) (popped n : Neighbor)
    (headers : List LSAHeader) :
    r.Emits ip (r.putNeighbor ip popped (r.acceptanceLog ip headers n)) [] := by
  obtain ⟨entries, heq, hsilent⟩ := r.acceptanceLog_eq ip headers n
  refine ⟨_, rfl, List.filterMap_eq_nil_iff.mpr fun entry hentry => ?_⟩
  rw [heq] at hentry
  rcases List.mem_append.mp hentry with hnegotiated | hrest
  · split_ifs at hnegotiated
    · rw [List.mem_singleton.mp hnegotiated]
      rfl
    · cases hnegotiated
  · exact (hsilent entry hrest ip).2

/-- Concluding sends no DD packet, and reaches FULL when nothing is left. -/
theorem concludeDd_spec {m : Neighbor} {log : List LogEntry}
    (hm : r.findNeighbor ip = some m) (hip : popped.ip = ip)
    (hstate : popped.state = .exchange) (hmore : dd.bM = false)
    (hlog : r.Emits ip (r.putNeighbor ip popped log) []) :
    ∃ k, ((r.putNeighbor ip popped log).concludeDd ip dd
        popped).findNeighbor ip = some k ∧
      k.databaseSummaryList = popped.databaseSummaryList ∧
      (k.state = .full ↔ popped.databaseSummaryList = []) ∧
      r.Emits ip ((r.putNeighbor ip popped log).concludeDd ip dd popped)
        [] := by
  rw [concludeDd_putNeighbor hm hip]
  by_cases hdone : popped.databaseSummaryList = []
  · rw [if_pos ⟨hmore, hdone, hstate⟩]
    have hfull := findNeighbor_putNeighbor hm
      (popped.reachFull_ip.trans hip) log
    refine ⟨_, findNeighbor_updateLsas hfull, ?_, ?_, ?_⟩
    · rw [Neighbor.pushAll]
      split_ifs <;> rfl
    · rw [Neighbor.pushAll_state]
      exact iff_of_true popped.reachFull_state hdone
    · have hfull : r.Emits ip (r.putNeighbor ip popped.reachFull log) [] :=
        hlog
      exact hfull.trans (emits_updateLsas ip _)
  · rw [if_neg fun h => hdone h.2.1]
    refine ⟨popped, findNeighbor_putNeighbor hm hip log, rfl, ?_, hlog⟩
    refine iff_of_false ?_ hdone
    rw [hstate]
    decide

/-- The reply is the one DD packet sent, and leaves the state as it is. -/
theorem replyDd_spec (hfind : r.findNeighbor ip = some n) :
    ∃ reply, r.Emits ip (r.replyDd ip) [reply] ∧
      saysMore reply = decide (ddCapacity < n.databaseSummaryList.length) ∧
      ((r.replyDd ip).IsFullWith ip ↔ n.state = .full) := by
  have hsummary : n.numberReply.databaseSummaryList =
      n.databaseSummaryList :=
    congrArg (fun lists => lists.2.1) n.numberReply_lists
  have hemits (k : Neighbor) (data : List UInt8) : r.Emits ip
      (r.putNeighbor ip k
        [.sent ip (r.ospfPacket r.interface.auType typeDd data)])
      [r.ospfPacket r.interface.auType typeDd data] :=
    ⟨_, rfl, by rw [List.filterMap_cons_some (ddPacketTo_sent ip r _ _),
      List.filterMap_nil]⟩
  rw [replyDd_eq hfind]
  refine ⟨_, hemits _ _, ?_, ?_⟩
  · rw [saysMore_ddReply, hsummary]
  · rw [IsFullWith, findNeighbor_putNeighbor hfind
      ((n.reply_ip _ _ _).trans (findNeighbor_ip hfind))]
    simp

/-! ## A packet with M = 0 -/

/-- A packet with M = 0 and LSAs of known types is accepted from the neighbor,
with the record `n`. -/
structure AcceptsFinalDd (r : Router) (packet : Memory)
    (headers : List LSAHeader) (n : Neighbor) : Prop where
  admits : r.Admits packet
  type : packet 21 = typeDd
  loads : ddHeaders packet = some headers
  accepted : r.acceptedDd (ntohl (packet.load32 12))
    (OSPFDD.load (packet.advance bodyOffset)) = some n
  types : ∀ h ∈ headers, ¬Neighbor.BadType h
  final : (OSPFDD.load (packet.advance bodyOffset)).bM = false

variable {now : ℤ}

/-- Taking in the packet touches neither the state nor what is left. -/
theorem AcceptsFinalDd.takeIn_spec (h : r.AcceptsFinalDd packet headers n)
    {taken : Neighbor} (htaken : taken = n.takeIn r.lsdb
      (OSPFDD.load (packet.advance bodyOffset)) headers) :
    taken.state = .exchange ∧
      taken.databaseSummaryList = n.databaseSummaryList ∧
      taken.acknowledgedCount = n.acknowledgedCount := by
  obtain ⟨m, -, hfrom⟩ := acceptedDd_spec h.accepted
  obtain ⟨hstate, hlists, -⟩ := Neighbor.takeIn_of_goodTypes h.types r.lsdb
    (OSPFDD.load (packet.advance bodyOffset)) n
  simp only [Neighbor.lists, Prod.mk.injEq] at hlists
  subst htaken
  exact ⟨hstate.trans hfrom.state, hlists.2.1,
    Neighbor.takeIn_acknowledgedCount hfrom.state _ _ _⟩

/-- The step completes if the headers to be dropped are there. -/
theorem AcceptsFinalDd.exists_step (h : r.AcceptsFinalDd packet headers n)
    (now : ℤ) (hle : n.acknowledgedCount ≤ n.databaseSummaryList.length) :
    ∃ r', r.step (.frame now packet) = .ok r' := by
  rw [step_of_acceptedDd now h.admits h.type h.loads h.accepted]
  obtain ⟨taken, htaken⟩ : ∃ taken, taken = n.takeIn r.lsdb
    (OSPFDD.load (packet.advance bodyOffset)) headers := ⟨_, rfl⟩
  obtain ⟨-, hsummary, hcount⟩ := h.takeIn_spec htaken
  rw [← htaken, Neighbor.popAcknowledged, if_pos (by rwa [hsummary, hcount])]
  exact ⟨_, rfl⟩

/-- A reply has been sent in any case, and the neighbor is in FULL if no header
was left for it. -/
theorem AcceptsFinalDd.step_spec (h : r.AcceptsFinalDd packet headers n)
    (hr' : r.step (.frame now packet) = .ok r') :
    ∃ reply, r.Emits (ntohl (packet.load32 12)) r' [reply] ∧
      (saysMore reply = false ↔ n.databaseSummaryList.length ≤
        n.acknowledgedCount + ddCapacity) ∧
      (r'.IsFullWith (ntohl (packet.load32 12)) ↔
        n.databaseSummaryList.length ≤ n.acknowledgedCount) := by
  rw [step_of_acceptedDd now h.admits h.type h.loads h.accepted] at hr'
  obtain ⟨popped, hpopped, rfl⟩ := Outcome.map_eq_ok.mp hr'
  obtain ⟨m, hm, hfrom⟩ := acceptedDd_spec h.accepted
  have hip := popped_ip hm hfrom hpopped
  obtain ⟨hexchange, hlist, hcount⟩ := h.takeIn_spec rfl
  obtain ⟨-, heq⟩ := Neighbor.popAcknowledged_eq_ok.mp hpopped
  have hstate : popped.state = .exchange := by
    rw [heq]
    exact hexchange
  have hsummary : popped.databaseSummaryList =
      n.databaseSummaryList.drop n.acknowledgedCount := by
    rw [heq, hlist, hcount]
  obtain ⟨k, hk, hkept, hfull, hemits⟩ := concludeDd_spec hm hip hstate
    h.final (r.emits_acceptance _ popped n headers)
  obtain ⟨reply, hreply, hbit, hstays⟩ := replyDd_spec hk
  rw [hkept, hsummary, List.length_drop] at hbit
  refine ⟨reply, hemits.trans hreply, ?_, ?_⟩
  · rw [hbit, decide_eq_false_iff_not]
    omega
  · rw [hstays, hfull, hsummary, List.drop_eq_nil_iff]

/-- A slave that has nothing left is done; one that has more than fits says
so. -/
theorem AcceptsFinalDd.endsAsSlave_iff
    (h : r.AcceptsFinalDd packet headers n) :
    r.EndsAsSlave (.frame now packet) (ntohl (packet.load32 12)) ↔
      n.databaseSummaryList.length ≤ n.acknowledgedCount ∨
        n.acknowledgedCount + ddCapacity < n.databaseSummaryList.length := by
  constructor
  · intro hends
    by_contra hleft
    rw [not_or, not_le, not_lt] at hleft
    obtain ⟨r', hr'⟩ := h.exists_step now hleft.1.le
    obtain ⟨reply, hemits, hbit, hfull⟩ := h.step_spec hr'
    have hdone := hfull.mp (hends r' reply hr' hemits (hbit.mpr hleft.2))
    exact absurd hdone (not_le.mpr hleft.1)
  · intro hnone r' reply hr' hreply hmore
    obtain ⟨reply', hemits, hbit, hfull⟩ := h.step_spec hr'
    obtain rfl : reply = reply' := List.singleton_injective
      (hreply.unique hemits)
    have hfits := hbit.mp hmore
    exact hfull.mpr (hnone.resolve_right (not_lt.mpr hfits))

/-- A master replies, whether or not the exchange is over. -/
theorem AcceptsFinalDd.not_endsAsMaster
    (h : r.AcceptsFinalDd packet headers n) (later : List Step) :
    ¬r.EndsAsMaster (.frame now packet) later
      (ntohl (packet.load32 12)) := by
  rintro ⟨r', hr', -, hsilent⟩
  obtain ⟨reply, hemits, -⟩ := h.step_spec hr'
  have hnone := hsilent [] r' List.nil_prefix trivial rfl
  cases hnone.unique hemits

/-! ## Runs -/

theorem exchangeEnds_iff (r : Router) (step : Step) (later : List Step) :
    r.ExchangeEnds step later ↔ r.EachAcceptedDd EndsNoEarlier step := by
  cases step with
  | frame now packet =>
      refine forall₂_congr fun hadmits htype =>
        forall₂_congr fun headers hheaders =>
          forall₂_congr fun n haccepted =>
            forall₂_congr fun htypes hfinal => ?_
      have h : r.AcceptsFinalDd packet headers n :=
        ⟨hadmits, htype, hheaders, haccepted, htypes, hfinal⟩
      simp only [h.endsAsSlave_iff, h.not_endsAsMaster, imp_false,
        not_exists, not_and, Bool.not_eq_false]
  | _ => exact Iff.rfl

/-- In every run, with any peer, each exchange ends where it has to exactly
when no packet with M = 0 finds a slave with headers left that fit into one
packet, and none finds a master whose last packet had M = 0. -/
theorem exchangeEnds_along_iff (r : Router) (steps : List Step) :
    AlongRest step ExchangeEnds r steps ↔
      Along step (EachAcceptedDd EndsNoEarlier) r steps :=
  alongRest_iff_along exchangeEnds_iff r steps

/-! ## A reply too many -/

/-- The peer declares itself DR and lists the router 3.3.3.3. -/
def peerHelloToMaster : List UInt8 :=
  store32 (htonl 0xffffff00) ++ store16 (htons 10) ++ [2, 1] ++
    store32 (htonl 40) ++ store32 (htonl 0x0a000002) ++ store32 0 ++
    store32 (htonl 0x03030303)

/-- A DD packet of the peer as the slave, without headers and with M = 0. -/
def peerSlaveDd (seqNum : UInt8) : List UInt8 :=
  [5, 220, 2, 0, 0, 0, 0, seqNum]

/-- The router 3.3.3.3 is the master and has one LSA to describe, which it
does with M = 0.  When the peer has acknowledged that with M = 0, it sends
another DD packet. -/
theorem master_replies_when_done :
    ¬AlongRest step ExchangeEnds
      (boot 0x03030303 0 ⟨0, 0, 0, false, false, false⟩ [] 0x0a000001
        0xffffff00)
      [.frame 0 (fromPeer typeHello peerHelloToMaster),
        .frame 0 (fromPeer typeLsu peerLsu),
        .emptyDd 0x0a000002,
        .frame 0 (fromPeer typeDd (peerSlaveDd 0)),
        .frame 0 (fromPeer typeDd (peerSlaveDd 1))] := by
  have hreached : ∃ t, runFrom step
      (boot 0x03030303 0 ⟨0, 0, 0, false, false, false⟩ [] 0x0a000001
        0xffffff00)
      [.frame 0 (fromPeer typeHello peerHelloToMaster),
        .frame 0 (fromPeer typeLsu peerLsu),
        .emptyDd 0x0a000002,
        .frame 0 (fromPeer typeDd (peerSlaveDd 0))] = .ok t ∧
      t.Admits (fromPeer typeDd (peerSlaveDd 1)) ∧
      (∃ last ∈ t.ownLastDd 0x0a000002, saysMore last = false) ∧
      ∃ n ∈ t.acceptedDd 0x0a000002
          (OSPFDD.load ((fromPeer typeDd (peerSlaveDd 1)).advance
            bodyOffset)),
        n.isMaster = false :=
    Outcome.exists_of_completesWith (by decide +kernel)
  obtain ⟨t, hrun, hadmits, hlast, n, haccepted, hmaster⟩ := hreached
  rw [← ntohl_htonl 0x0a000002,
    ← fromPeer_src typeDd (peerSlaveDd 1)] at hlast haccepted
  have hfinal : t.AcceptsFinalDd (fromPeer typeDd (peerSlaveDd 1)) [] n :=
    ⟨hadmits, fromPeer_type _ _, by decide +kernel, haccepted, by simp,
      by decide +kernel⟩
  refine not_alongRest_of_prefix hrun fun hends => ?_
  have hmust := hends hadmits hfinal.type [] hfinal.loads n haccepted
    hfinal.types hfinal.final
  exact hfinal.not_endsAsMaster [] (hmust.2 hmaster hlast)

end Router
end OspfLite
