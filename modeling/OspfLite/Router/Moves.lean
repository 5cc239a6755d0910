import OspfLite.Router.Acceptance
import OspfLite.Router.OwnLsas

/-!
# What a step can do

A step of the process takes in a Database Description packet, handles an LSU,
takes acknowledged entries off a retransmission list, or leaves every exchange
as it is or ended.
-/

namespace OspfLite

/-- The log says neither that an exchange has begun nor that a packet has been
accepted. -/
def LogEntry.Plain : LogEntry → Prop
  | .sent _ _ => True
  | .raised _ _ => True
  | .negotiated _ _ => False
  | .accepted _ _ => False

namespace Router

/-- Of the state only the interface changes, where exchanges can end and a
neighbor can be added. -/
structure Recedes (r r' : Router) : Prop where
  interface : ∃ base, (base = r.interface ∨
    ∃ ip, base = r.interface.ensureNeighbor r.uninit ip) ∧
      base.Recedes r'.interface
  rest : ∃ entries, (∀ entry ∈ entries, entry.Plain) ∧
    r' = { r with interface := r'.interface, log := r.log ++ entries }

variable {r r' : Router} {ip : UInt32} {packet : Memory}

/-- A change of the interface alone. -/
theorem recedes_of_interface {next : Interface}
    (h : r.interface.Recedes next) :
    r.Recedes { r with interface := next } :=
  ⟨⟨r.interface, Or.inl rfl, h⟩, [], by simp, by simp⟩

/-- Sending a packet or raising an event. -/
theorem Recedes.addLog (h : r.Recedes r') {entry : LogEntry}
    (hentry : entry.Plain) : r.Recedes (r'.addLog entry) := by
  obtain ⟨hinter, entries, hplain, hr'⟩ := h
  refine ⟨hinter, entries ++ [entry], ?_, ?_⟩
  · intro e he
    rcases List.mem_append.mp he with hold | hnew
    · exact hplain e hold
    · rw [List.mem_singleton.mp hnew]
      exact hentry
  · rw [Router.addLog, hr', List.append_assoc]

theorem recedes_refl (r : Router) : r.Recedes r :=
  recedes_of_interface r.interface.recedes_refl

theorem recedes_modifyNeighbor {f : Neighbor → Neighbor}
    (hf : ∀ n, r.findNeighbor ip = some n → n.Recedes (f n)) :
    r.Recedes (r.modifyNeighbor ip f) :=
  recedes_of_interface (Interface.recedes_modifyNeighbor hf)

/-! ## The branches that only recede -/

theorem timers_recedes {now : ℤ} (h : r.timers now = .ok r') :
    r.Recedes r' := by
  obtain ⟨inter, hinter, rfl⟩ := Outcome.map_eq_ok.mp h
  obtain ⟨waited, hwaited, htimers⟩ := Outcome.bind_eq_ok.mp hinter
  exact recedes_of_interface ((Interface.waitingTimer_recedes hwaited).trans
    (Interface.inactivityTimers_recedes htimers))

theorem recvHello_recedes {now : ℤ} (h : r.recvHello now packet = .ok r') :
    r.Recedes r' := by
  rw [recvHello] at h
  split_ifs at h
  · obtain ⟨listed, -, hhello⟩ := Outcome.bind_eq_ok.mp h
    obtain ⟨inter, hinter, rfl⟩ := Outcome.map_eq_ok.mp hhello
    exact ⟨⟨_, Or.inr ⟨_, rfl⟩, Interface.recvHello_recedes hinter⟩, [],
      by simp, by simp⟩
  · rw [Except.ok.injEq] at h
    exact h ▸ recedes_refl r

/-- An event that restarts the exchange. -/
theorem restart_recedes (ip : UInt32) (event : NeighborEvent) (r : Router) :
    r.Recedes ((r.modifyNeighbor ip fun n => n.restartExchange.1).addLog
      (.raised ip event)) :=
  (recedes_modifyNeighbor fun n _ => n.restartExchange_recedes).addLog trivial

theorem recvLsr_recedes (h : r.recvLsr packet = .ok r') : r.Recedes r' := by
  rcases recvLsr_cases h with rfl | ⟨_, _, rfl⟩ | ⟨-, rfl⟩
  · exact recedes_refl _
  · exact (recedes_refl r).addLog trivial
  · exact restart_recedes _ _ r

/-- A Database Description packet that is not accepted. -/
theorem handleDd_recedes {dd : OSPFDD} {headers : Option (List LSAHeader)}
    (hnone : r.acceptedDd ip dd = none)
    (h : r.handleDd ip dd headers = .ok r') : r.Recedes r' := by
  cases hfind : r.findNeighbor ip with
  | none =>
      simp only [handleDd, hfind, Except.ok.injEq] at h
      exact h ▸ recedes_refl r
  | some m =>
      have hreplace : ∀ k, m.Recedes k →
          r.Recedes (r.modifyNeighbor ip fun _ => k) := by
        intro k hk
        apply recedes_modifyNeighbor
        intro n hn
        rw [hfind, Option.some.injEq] at hn
        exact hn ▸ hk
      have hbegun := m.beginDd_recedes r.interface dd
      rw [acceptedDd, hfind, Option.bind_some] at hnone
      rw [handleDd_eq hfind] at h
      cases hverdict : (m.beginDd r.interface dd).ddVerdict r.routerId r.lsdb
          (decide (m.IsDuplicate dd)) dd with
      | ignore =>
          simp only [hverdict, Except.ok.injEq] at h
          exact h ▸ hreplace _ hbegun
      | resend =>
          simp only [hverdict, Except.ok.injEq] at h
          exact h ▸ (hreplace _ hbegun).addLog trivial
      | mismatch =>
          simp only [hverdict, Except.ok.injEq] at h
          rw [← h, eventSeqNumberMismatch,
            modifyNeighbor_eq_putNeighbor hfind,
            modifyNeighbor_eq_putNeighbor (findNeighbor_putNeighbor hfind
              (hbegun.ip.trans (findNeighbor_ip hfind)) []),
            putNeighbor_putNeighbor
              (hbegun.ip.trans (findNeighbor_ip hfind))]
          have hrestart := hreplace _ (hbegun.trans
            (m.beginDd r.interface dd).restartExchange_recedes)
          rw [modifyNeighbor_eq_putNeighbor hfind] at hrestart
          exact hrestart.addLog trivial
      | accept n =>
          simp only [hverdict] at hnone
          cases hnone

/-! ## The inversion -/

/-- What a completed step has done. -/
inductive Moves (r : Router) : Step → Router → Prop where
  | recedes {step : Step} {r' : Router} (h : r.Recedes r') : Moves r step r'
  | describes {now : ℤ} {packet : Memory} {headers : List LSAHeader}
      {n popped : Neighbor} (hadmits : r.Admits packet)
      (htype : packet 21 = typeDd) (hheaders : ddHeaders packet = some headers)
      (haccepted : r.acceptedDd (ntohl (packet.load32 12))
        (OSPFDD.load (packet.advance bodyOffset)) = some n)
      (hpopped : (n.takeIn r.lsdb (OSPFDD.load (packet.advance bodyOffset))
        headers).popAcknowledged = .ok popped) :
      Moves r (.frame now packet)
        (((r.putNeighbor (ntohl (packet.load32 12)) popped
            (r.acceptanceLog (ntohl (packet.load32 12)) headers
              n)).concludeDd (ntohl (packet.load32 12))
            (OSPFDD.load (packet.advance bodyOffset)) popped).replyDd
          (ntohl (packet.load32 12)))
  | updates {now : ℤ} {packet : Memory} {s : LsuState}
      (hadmits : r.Admits packet) (htype : packet 21 = typeLsu)
      (hknown : r.findNeighbor (ntohl (packet.load32 12)) ≠ none)
      (hrun : runFrom (lsuRound (packet.load32 12)) ⟨r, [], false⟩
        (lsuPointers packet) = .ok s) :
      Moves r (.frame now packet) (sendLsack s)
  | acknowledges {now : ℤ} {packet : Memory} {headers : List LSAHeader}
      {n : Neighbor} (hadmits : r.Admits packet)
      (htype : packet 21 = typeLsAck)
      (hfind : r.findNeighbor (ntohl (packet.load32 12)) = some n)
      (hstate : NeighborState.exchange ≤ n.state)
      (hheaders : bodyEntries LSAHeader.size LSAHeader.load packet =
        some headers) :
      Moves r (.frame now packet)
        (r.modifyNeighbor (ntohl (packet.load32 12)) fun n =>
          { n with
            linkStateRetransmissionList :=
              headers.foldl ackStep n.linkStateRetransmissionList })

theorem recvDd_moves {now : ℤ} (hadmits : r.Admits packet)
    (htype : packet 21 = typeDd) (h : r.recvDd packet = .ok r') :
    r.Moves (.frame now packet) r' := by
  rw [recvDd] at h
  cases haccepted : r.acceptedDd (ntohl (packet.load32 12))
      (OSPFDD.load (packet.advance bodyOffset)) with
  | none => exact .recedes (handleDd_recedes haccepted h)
  | some n =>
      cases hheaders : ddHeaders packet with
      | none =>
          rw [hheaders, handleDd_of_accepted_none haccepted] at h
          cases h
      | some headers =>
          rw [hheaders, handleDd_of_accepted haccepted] at h
          obtain ⟨popped, hpopped, rfl⟩ := Outcome.map_eq_ok.mp h
          exact .describes hadmits htype hheaders haccepted hpopped

theorem recvLsu_moves {now : ℤ} (hadmits : r.Admits packet)
    (htype : packet 21 = typeLsu) (h : r.recvLsu packet = .ok r') :
    r.Moves (.frame now packet) r' := by
  rw [recvLsu_eq] at h
  split_ifs at h with hknown
  obtain ⟨s, hrun, rfl⟩ := Outcome.map_eq_ok.mp h
  exact .updates hadmits htype hknown hrun

theorem recvLsAck_moves {now : ℤ} (hadmits : r.Admits packet)
    (htype : packet 21 = typeLsAck) (h : r.recvLsAck packet = .ok r') :
    r.Moves (.frame now packet) r' := by
  rcases recvLsAck_cases h with
    rfl | ⟨n, headers, hfind, hstate, hheaders, rfl⟩
  · exact .recedes (recedes_refl _)
  · exact .acknowledges hadmits htype hfind hstate hheaders

theorem sendEmptyDd_recedes (ip : UInt32) (r : Router) :
    r.Recedes (r.sendEmptyDd ip) := by
  rw [sendEmptyDd]
  cases r.findNeighbor ip with
  | none => exact recedes_refl r
  | some n =>
      simp only
      split_ifs
      · exact (recedes_refl r).addLog trivial
      · exact recedes_refl r

/-- Every step that completes does one of these things. -/
theorem step_moves {step : Step} (h : r.step step = .ok r') :
    r.Moves step r' := by
  cases step with
  | timers now => exact .recedes (timers_recedes h)
  | waitingTimeout =>
      rw [Router.step, Except.ok.injEq] at h
      rw [← h]
      exact .recedes (recedes_of_interface
        ⟨rfl, r.interface.recedes_refl.neighbors⟩)
  | emptyDd ip =>
      rw [Router.step, Except.ok.injEq] at h
      exact h ▸ .recedes (sendEmptyDd_recedes ip r)
  | emptyDdSenderEnds ip =>
      rw [Router.step, Except.ok.injEq] at h
      rw [← h]
      exact .recedes (recedes_modifyNeighbor fun n _ =>
        ⟨rfl, Or.inl ⟨rfl, rfl, rfl⟩⟩)
  | frame now packet =>
      rw [Router.step, recvOspfPacket] at h
      split_ifs at h with hadmits hhello hdd hlsr hlsu hlsack
      · exact .recedes (recvHello_recedes h)
      · exact recvDd_moves hadmits hdd h
      · exact .recedes (recvLsr_recedes h)
      · exact recvLsu_moves hadmits hlsu h
      · exact recvLsAck_moves hadmits hlsack h
      all_goals
        rw [Except.ok.injEq] at h
        exact h ▸ .recedes (recedes_refl r)

/-- A condition on accepted Database Description packets, as a condition on a
step of the process. -/
def EachAcceptedDd
    (P : Router → UInt32 → OSPFDD → List LSAHeader → Neighbor → Prop)
    (r : Router) : Step → Prop
  | .frame _ packet =>
      r.Admits packet → packet 21 = typeDd →
        ∀ headers ∈ ddHeaders packet,
          ∀ n ∈ r.acceptedDd (ntohl (packet.load32 12))
              (OSPFDD.load (packet.advance bodyOffset)),
            P r (ntohl (packet.load32 12))
              (OSPFDD.load (packet.advance bodyOffset)) headers n
  | _ => True

instance (P : Router → UInt32 → OSPFDD → List LSAHeader → Neighbor → Prop)
    [∀ r ip dd headers n, Decidable (P r ip dd headers n)] (r : Router) :
    (step : Step) → Decidable (EachAcceptedDd P r step)
  | .frame _ packet => inferInstanceAs (Decidable
      (r.Admits packet → packet 21 = typeDd → ∀ headers ∈ ddHeaders packet,
        ∀ n ∈ r.acceptedDd _ _, P r _ _ headers n))
  | .timers _ => isTrue trivial
  | .waitingTimeout => isTrue trivial
  | .emptyDd _ => isTrue trivial
  | .emptyDdSenderEnds _ => isTrue trivial

/-- The step that handles an accepted packet. -/
theorem step_of_acceptedDd (now : ℤ) {headers : List LSAHeader}
    {n : Neighbor} (hadmits : r.Admits packet) (htype : packet 21 = typeDd)
    (hheaders : ddHeaders packet = some headers)
    (haccepted : r.acceptedDd (ntohl (packet.load32 12))
      (OSPFDD.load (packet.advance bodyOffset)) = some n) :
    r.step (.frame now packet) =
      (n.takeIn r.lsdb (OSPFDD.load (packet.advance bodyOffset))
        headers).popAcknowledged.map fun popped =>
          ((r.putNeighbor (ntohl (packet.load32 12)) popped
              (r.acceptanceLog (ntohl (packet.load32 12)) headers
                n)).concludeDd (ntohl (packet.load32 12))
              (OSPFDD.load (packet.advance bodyOffset)) popped).replyDd
            (ntohl (packet.load32 12)) := by
  have hhello : ¬packet 21 = typeHello := by
    rw [htype]
    decide
  rw [step, recvOspfPacket, if_pos hadmits, if_neg hhello, if_pos htype,
    recvDd, hheaders, handleDd_of_accepted haccepted]

/-- The step that handles a packet that concludes the exchange. -/
theorem step_of_completes (now : ℤ) {headers : List LSAHeader}
    {n : Neighbor} (hadmits : r.Admits packet) (htype : packet 21 = typeDd)
    (hheaders : ddHeaders packet = some headers)
    (haccepted : r.acceptedDd (ntohl (packet.load32 12))
      (OSPFDD.load (packet.advance bodyOffset)) = some n)
    (hcompletes :
      n.Completes (OSPFDD.load (packet.advance bodyOffset)) headers) :
    ∃ popped : Neighbor, popped.ip = ntohl (packet.load32 12) ∧
      r.step (.frame now packet) =
        .ok (((r.putNeighbor (ntohl (packet.load32 12)) popped.reachFull
            (r.acceptanceLog (ntohl (packet.load32 12)) headers
              n)).updateLsas).replyDd (ntohl (packet.load32 12))) := by
  obtain ⟨m, hm, hfrom⟩ := acceptedDd_spec haccepted
  obtain ⟨popped, hpopped⟩ :=
    Neighbor.exists_popped_of_completes hcompletes hfrom.state r.lsdb
  have hip := popped_ip hm hfrom hpopped
  refine ⟨popped, hip, ?_⟩
  rw [step_of_acceptedDd now hadmits htype hheaders haccepted, hpopped,
    Outcome.map_ok, concludeDd_putNeighbor hm hip,
    if_pos ((Neighbor.completes_iff hfrom.state hpopped).mp hcompletes)]

/-! ## Properties of all neighbors -/

/-- Every neighbor of every interface has the property. -/
def AllNeighbors (P : Neighbor → Prop) (r : Router) : Prop :=
  ∀ inter ∈ r.interfaces, ∀ n ∈ inter.neighbors, P n

instance (P : Neighbor → Prop) [DecidablePred P] (r : Router) :
    Decidable (r.AllNeighbors P) :=
  inferInstanceAs (Decidable (∀ inter ∈ r.interfaces, ∀ n ∈ _, P n))

variable {P : Neighbor → Prop} {src : UInt32} {data : Memory}
  {s s' : LsuState}

/-- The interface of the thread and the others. -/
theorem allNeighbors_iff :
    r.AllNeighbors P ↔
      (∀ n ∈ r.interface.neighbors, P n) ∧
        ∀ inter ∈ r.interfacesBefore ++ r.interfacesAfter,
          ∀ n ∈ inter.neighbors, P n := by
  simp only [AllNeighbors, interfaces, List.forall_mem_append,
    List.forall_mem_cons]
  exact and_left_comm

theorem AllNeighbors.find {n : Neighbor} (h : r.AllNeighbors P)
    (hfind : r.findNeighbor ip = some n) : P n :=
  (allNeighbors_iff.mp h).1 n (List.mem_of_find?_eq_some hfind)

/-- Changing the interface of the thread. -/
theorem AllNeighbors.setInterface (h : r.AllNeighbors P) {next : Interface}
    (hnext : ∀ n ∈ next.neighbors, P n) :
    { r with interface := next }.AllNeighbors P :=
  allNeighbors_iff.mpr ⟨hnext, (allNeighbors_iff.mp h).2⟩

theorem AllNeighbors.modifyNeighbor (h : r.AllNeighbors P)
    {f : Neighbor → Neighbor} (hf : ∀ n, P n → P (f n)) :
    (r.modifyNeighbor ip f).AllNeighbors P := by
  apply h.setInterface
  intro m hm
  rcases mem_modifyNeighbor hm with hold | ⟨n, hn, rfl⟩
  · exact (allNeighbors_iff.mp h).1 m hold
  · exact hf n ((allNeighbors_iff.mp h).1 n hn)

theorem AllNeighbors.putNeighbor (h : r.AllNeighbors P) {n : Neighbor}
    (hn : P n) (entries : List LogEntry) :
    (r.putNeighbor ip n entries).AllNeighbors P :=
  AllNeighbors.modifyNeighbor h fun _ _ => hn

/-- What receding neighbors and new ones keep. -/
theorem AllNeighbors.recedes (h : r.AllNeighbors P) (hmoves : r.Recedes r')
    (hnew : ∀ ip, P (Neighbor.new r.uninit ip))
    (hrecedes : ∀ n n', n.Recedes n' → P n → P n') : r'.AllNeighbors P := by
  obtain ⟨⟨base, hbase, hinter⟩, entries, -, hr'⟩ := hmoves
  have hall : ∀ n ∈ base.neighbors, P n := by
    rcases hbase with rfl | ⟨ip, rfl⟩
    · exact (allNeighbors_iff.mp h).1
    · rw [Interface.ensureNeighbor]
      split_ifs
      · intro n hn
        rcases List.mem_append.mp hn with hold | hadded
        · exact (allNeighbors_iff.mp h).1 n hold
        · exact List.mem_singleton.mp hadded ▸ hnew ip
      · exact (allNeighbors_iff.mp h).1
  rw [hr']
  exact h.setInterface
    (forall_mem_of_forall₂ hrecedes hinter.neighbors hall)

/-- What `update_lsas` keeps of the neighbors. -/
theorem AllNeighbors.updateLsas (h : r.AllNeighbors P)
    (hpush : ∀ n, P n → P (n.pushAll r.emittedHeaders)) :
    r.updateLsas.AllNeighbors P := by
  obtain ⟨r', entries, ⟨lsdb, count, headers, rfl⟩, heq, -⟩ := r.updateLsas_eq
  have hinter := r.updateLsas_interface_eq
  rw [heq] at hinter ⊢
  refine h.setInterface ?_
  intro m hm
  rw [hinter] at hm
  obtain ⟨n, hn, rfl⟩ := List.mem_map.mp hm
  exact hpush n ((allNeighbors_iff.mp h).1 n hn)

/-- What the end of an exchange keeps of the neighbors. -/
theorem AllNeighbors.concludeDd (h : r.AllNeighbors P) (dd : OSPFDD)
    (popped : Neighbor) (hdone : ∀ n, P n → P n.exchangeDoneState.1)
    (hpush : ∀ headers n, P n → P (n.pushAll headers)) :
    (r.concludeDd ip dd popped).AllNeighbors P := by
  rw [Router.concludeDd]
  split_ifs
  · rw [eventExchangeDone]
    cases r.findNeighbor ip with
    | none => exact h
    | some n =>
        simp only
        split_ifs
        · exact (h.modifyNeighbor hdone).updateLsas fun n hn => hpush _ n hn
        · exact h.modifyNeighbor hdone
  · exact h

/-- What a reply keeps of the neighbors. -/
theorem AllNeighbors.replyDd (h : r.AllNeighbors P)
    (hnumber : ∀ n, P n → P n.numberReply)
    (hrecord : ∀ data n, P n → P (n.recordReply data)) :
    (r.replyDd ip).AllNeighbors P := by
  have hnumbered : (r.modifyNeighbor ip Neighbor.numberReply).AllNeighbors
      P := h.modifyNeighbor hnumber
  rw [Router.replyDd]
  split
  · exact hnumbered
  · refine AllNeighbors.modifyNeighbor ?_ (hrecord _)
    exact hnumbered

/-- `flooding_lsa` on an interface. -/
theorem forall_floodingLsa {inter : Interface}
    (h : ∀ n ∈ inter.neighbors, P n)
    (hflood : ∀ n, P n → P (n.flood (lsaHeaderHost data) src).1) :
    ∀ n ∈ (r.floodingLsa data src inter).1.neighbors, P n := by
  by_cases hexternal : (lsaHeaderHost data).lsType = lsaAsExternal
  · rw [floodingLsa, if_pos hexternal]
    exact h
  · rw [floodingLsa_fst r src inter hexternal]
    intro m hm
    obtain ⟨n, hn, rfl⟩ := List.mem_map.mp hm
    exact hflood n (h n hn)

/-- `flooding_lsa` sends LSUs at most. -/
theorem floodingLsa_sent (r : Router) (data : Memory) (src : UInt32)
    (inter : Interface) :
    ∀ entry ∈ (r.floodingLsa data src inter).2.1, ∃ dst auType body,
      entry = .sent dst (r.ospfPacket auType typeLsu body) := by
  intro entry hentry
  by_cases hexternal : (lsaHeaderHost data).lsType = lsaAsExternal
  · rw [floodingLsa, if_pos hexternal] at hentry
    cases hentry
  · simp only [floodingLsa, if_neg hexternal] at hentry
    split_ifs at hentry
    · exact ⟨_, _, _, List.mem_singleton.mp hentry⟩
    · cases hentry

/-- Flooding sends LSUs at most. -/
theorem floodArea_sent (r : Router) (data : Memory) (src : UInt32) :
    ∃ entries, (∀ entry ∈ entries, ∃ dst auType body,
        entry = .sent dst (r.ospfPacket auType typeLsu body)) ∧
      (r.floodArea data src).1.log = r.log ++ entries := by
  refine ⟨_, ?_, (List.append_assoc _ _ _).trans (List.append_assoc _ _ _)⟩
  have hmany : ∀ inters : List Interface, ∀ entry ∈
      (inters.map (r.floodingLsa data src)).flatMap fun flooded =>
        flooded.2.1, ∃ dst auType body,
          entry = .sent dst (r.ospfPacket auType typeLsu body) := by
    intro inters entry hentry
    obtain ⟨flooded, hflooded, hin⟩ := List.mem_flatMap.mp hentry
    obtain ⟨inter, -, rfl⟩ := List.mem_map.mp hflooded
    exact r.floodingLsa_sent data src inter entry hin
  intro entry hentry
  rcases List.mem_append.mp hentry with hbefore | hrest
  · exact hmany _ entry hbefore
  · rcases List.mem_append.mp hrest with hthis | hafter
    · exact r.floodingLsa_sent data src _ entry hthis
    · exact hmany _ entry hafter

/-- Flooding says nothing of exchanges. -/
theorem floodArea_log (r : Router) (data : Memory) (src : UInt32) :
    ∃ entries, (∀ entry ∈ entries, entry.Plain) ∧
      (r.floodArea data src).1.log = r.log ++ entries := by
  obtain ⟨entries, hsent, hlog⟩ := r.floodArea_sent data src
  refine ⟨entries, fun entry hentry => ?_, hlog⟩
  obtain ⟨_, _, _, rfl⟩ := hsent entry hentry
  trivial

/-- A round floods, or restarts the exchange, at most. -/
theorem lsuRound_log (h : lsuRound src s data = .ok s') :
    ∃ entries, s'.router.log = s.router.log ++ entries ∧
      ∀ entry ∈ entries, (∃ dst auType body,
          entry = .sent dst (s.router.ospfPacket auType typeLsu body)) ∨
        entry = .raised (ntohl src) .badLsReq := by
  rcases lsuRound_cases h with
    rfl | ⟨-, -, -, ⟨-, haccept⟩ | ⟨-, same, hreject⟩⟩
  · exact ⟨[], (List.append_nil _).symm, by simp⟩
  · obtain ⟨lsdb, -, rfl⟩ := Outcome.map_eq_ok.mp haccept
    obtain ⟨entries, hsent, hlog⟩ := s.router.floodArea_sent data src
    exact ⟨entries, hlog, fun entry hentry => Or.inl (hsent entry hentry)⟩
  · rcases rejectLsa_cases hreject with
      ⟨-, hrouter⟩ | ⟨-, r, lsdb, hr, hrouter, -⟩
    · refine ⟨[.raised (ntohl src) .badLsReq], ?_, fun entry hentry =>
        Or.inr (List.mem_singleton.mp hentry)⟩
      rw [hrouter]
      rfl
    · refine ⟨[], ?_, by simp⟩
      rw [hrouter, List.append_nil]
      rcases hr with rfl | rfl <;> rfl

/-- What flooding and purging keep of the neighbors. -/
theorem AllNeighbors.acceptLsa (h : s.router.AllNeighbors P)
    (hflood : ∀ n, P n → P (n.flood (lsaHeaderHost data) src).1)
    (hpurge : ∀ n, P n → P (n.purgeRetransmissions (lsaHeaderHost data)))
    (hs' : acceptLsa src data s = .ok s') : s'.router.AllNeighbors P := by
  obtain ⟨lsdb, -, rfl⟩ := Outcome.map_eq_ok.mp hs'
  rw [allNeighbors_iff] at h ⊢
  constructor
  · intro m hm
    obtain ⟨n, hn, rfl⟩ := List.mem_map.mp hm
    exact hpurge n (forall_floodingLsa h.1 hflood n hn)
  · intro inter hinter
    simp only [purge, floodArea, List.map_map] at hinter
    rw [← List.map_append] at hinter
    obtain ⟨other, hother, rfl⟩ := List.mem_map.mp hinter
    exact forall_floodingLsa (h.2 other hother) hflood

/-- What a rejected LSA keeps of the neighbors. -/
theorem AllNeighbors.rejectLsa (h : s.router.AllNeighbors P)
    (hrestart : ∀ n, P n → P n.restartExchange.1)
    (hpurge : ∀ n, P n → P (n.purgeRetransmissions (lsaHeaderHost data)))
    {same : Bool} (hs' : rejectLsa src data same s = .ok s') :
    s'.router.AllNeighbors P := by
  rcases rejectLsa_cases hs' with
    ⟨-, hrouter⟩ | ⟨-, r, lsdb, rfl | rfl, hrouter, -⟩
  · rw [hrouter]
    exact h.modifyNeighbor hrestart
  · rw [hrouter]
    exact h
  · have hpurged : (s.router.modifyNeighbor (ntohl src)
        (Neighbor.purgeRetransmissions (lsaHeaderHost data))).AllNeighbors P :=
      h.modifyNeighbor hpurge
    rw [hrouter]
    exact hpurged

end Router
end OspfLite
