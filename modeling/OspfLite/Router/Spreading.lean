import OspfLite.Router.Growing
import OspfLite.Router.Hearing
import OspfLite.Router.LsuReads
import OspfLite.Router.Superseding
import OspfLite.Router.Transfer

/-!
# How LSAs spread

What a step does with LSAs: it originates its own by `update_lsas`, or it
stores and sends on those that an LSU has brought.  No other step sends an LSU,
but for the reply to a Link State Request.
-/

namespace OspfLite

/-- The log says that an LSU has been sent. -/
def LogEntry.IsLsu : LogEntry → Prop
  | .sent _ bytes => bytes[1]? = some typeLsu
  | _ => False

namespace Router

variable {r r' r'' : Router} {known : UInt32 → OwnLsa → Prop}
  {src delay : UInt32} {s s' : LsuState} {lsa : OwnLsa} {rest : List UInt8}
  {packet : Memory} {ip : UInt32}

/-! ## Storing and sending on -/

/-- Of LSAs, only known ones are stored and sent on, and the sequence counter
does not advance. -/
structure Relays (known : UInt32 → OwnLsa → Prop) (r r' : Router) : Prop where
  numbering : r'.numbering = r.numbering
  interfaces : r'.interfaces.length = r.interfaces.length
  grows : r.lsdb.RoutersGrow r'.lsdb
  stored : ∀ lsa, r'.lsdb.Stores lsa →
    r.lsdb.Stores lsa ∨
      ∃ delay own mask, known delay own ∧ lsa = own.received mask
  log : ∃ entries, r'.log = r.log ++ entries ∧ ∀ entry ∈ entries,
    entry.IsLsu → ∃ dst t auType delay own, known delay own ∧
      entry = .sent dst
        (ospfPacket t auType typeLsu (lsuData [own.wire delay]))

theorem relays_refl (known : UInt32 → OwnLsa → Prop) (r : Router) :
    r.Relays known r :=
  ⟨rfl, rfl, LSDB.routersGrow_refl _, fun _ h => Or.inl h, [],
    (List.append_nil _).symm, by simp⟩

theorem Relays.trans (h : r.Relays known r') (h' : r'.Relays known r'') :
    r.Relays known r'' := by
  obtain ⟨entries, hlog, hsent⟩ := h.log
  obtain ⟨entries', hlog', hsent'⟩ := h'.log
  refine ⟨h'.numbering.trans h.numbering, h'.interfaces.trans h.interfaces,
    h.grows.trans h'.grows, fun lsa hlsa => ?_, entries ++ entries', ?_, ?_⟩
  · rcases h'.stored lsa hlsa with hold | hnew
    · exact h.stored lsa hold
    · exact Or.inr hnew
  · rw [hlog', hlog, List.append_assoc]
  · exact List.forall_mem_append.mpr ⟨hsent, hsent'⟩

theorem Relays.mono {known' : UInt32 → OwnLsa → Prop}
    (h : r.Relays known r') (hsub : ∀ delay own, known delay own →
      known' delay own) : r.Relays known' r' := by
  obtain ⟨entries, hlog, hsent⟩ := h.log
  refine ⟨h.numbering, h.interfaces, h.grows, fun lsa hlsa => ?_, entries,
    hlog, ?_⟩
  · refine (h.stored lsa hlsa).imp_right ?_
    rintro ⟨delay, own, mask, hown, heq⟩
    exact ⟨delay, own, mask, hsub delay own hown, heq⟩
  · intro entry hentry hlsu
    obtain ⟨dst, t, auType, delay, own, hown, heq⟩ :=
      hsent entry hentry hlsu
    exact ⟨dst, t, auType, delay, own, hsub delay own hown, heq⟩

/-- No LSA is stored or sent. -/
abbrev KeepsLsas (r r' : Router) : Prop := r.Relays (fun _ _ => False) r'

/-- The database is left alone, and no LSU is sent. -/
theorem keepsLsas_of {entries : List LogEntry}
    (hnumbering : r'.numbering = r.numbering)
    (hinterfaces : r'.interfaces.length = r.interfaces.length)
    (hlsdb : r'.lsdb = r.lsdb) (hlog : r'.log = r.log ++ entries)
    (hentries : ∀ entry ∈ entries, ¬entry.IsLsu) : r.KeepsLsas r' :=
  ⟨hnumbering, hinterfaces,
    LSDB.routersGrow_of_eq (congrArg LSDB.routerLsas hlsdb),
    fun _ h => Or.inl (hlsdb ▸ h), entries, hlog,
    fun entry hentry hlsu => absurd hlsu (hentries entry hentry)⟩

/-- A step that recedes. -/
theorem Recedes.keepsLsas {entries : List LogEntry} (h : r.Recedes r')
    (hlog : r'.log = r.log ++ entries)
    (hentries : ∀ entry ∈ entries, ¬entry.IsLsu) : r.KeepsLsas r' := by
  obtain ⟨hnumbering, hlsdb⟩ := recedes_numbering h
  refine keepsLsas_of hnumbering ?_ hlsdb hlog hentries
  obtain ⟨_, -, hr'⟩ := h.rest
  rw [hr', Router.interfaces, Router.interfaces]
  simp

theorem keepsLsas_putNeighbor (r : Router) (ip : UInt32) (n : Neighbor)
    {entries : List LogEntry} (hentries : ∀ entry ∈ entries, ¬entry.IsLsu) :
    r.KeepsLsas (r.putNeighbor ip n entries) := by
  refine keepsLsas_of rfl ?_ rfl rfl hentries
  simp [Router.interfaces, putNeighbor]

/-! ## A round of the LSU loop -/

/-- What `flooding_lsa` sends is the LSA. -/
theorem floodingLsa_sent_data (r : Router) (data : Memory) (src : UInt32)
    (inter : Interface) :
    ∀ entry ∈ (r.floodingLsa data src inter).2.1, ∃ dst auType,
      entry = .sent dst (r.ospfPacket auType typeLsu
        (floodData data (lsaHeaderHost data))) := by
  intro entry hentry
  by_cases hexternal : (lsaHeaderHost data).lsType = lsaAsExternal
  · rw [floodingLsa, if_pos hexternal] at hentry
    cases hentry
  · simp only [floodingLsa, if_neg hexternal] at hentry
    split_ifs at hentry
    · exact ⟨_, _, List.mem_singleton.mp hentry⟩
    · cases hentry

/-- An LSA is sent on as it has come. -/
theorem floodData_wire (hlsa : lsa.Consistent) (delay : UInt32)
    (rest : List UInt8) :
    floodData (Memory.ofList (lsa.wire delay ++ rest))
        (lsaHeaderHost (Memory.ofList (lsa.wire delay ++ rest))) =
      lsuData [lsa.wire delay] := by
  have hlength : lsa.receivedHeader.length.toNat =
      (lsa.wire delay).length := by
    rw [OwnLsa.wire, length_sealLsa, ← hlsa.length_header]
    rfl
  rw [floodData, OwnLsa.lsaHeaderHost_wire, hlength,
    Memory.take_ofList_append, lsuData, List.flatten_singleton]
  rfl

/-- Flooding keeps the other LSAs. -/
theorem floodArea_relays (hlsa : lsa.Consistent) (hknown : known delay lsa)
    (r : Router) (src : UInt32) (rest : List UInt8) :
    ∃ entries, (r.floodArea (Memory.ofList (lsa.wire delay ++ rest))
        src).1.log = r.log ++ entries ∧ ∀ entry ∈ entries,
      ∃ dst t auType delay own, known delay own ∧ entry = .sent dst
        (ospfPacket t auType typeLsu (lsuData [own.wire delay])) := by
  have hsent : ∀ inter, ∀ entry ∈ (r.floodingLsa (Memory.ofList
      (lsa.wire delay ++ rest)) src inter).2.1,
      ∃ dst t auType delay own, known delay own ∧ entry = .sent dst
        (ospfPacket t auType typeLsu (lsuData [own.wire delay])) := by
    intro inter entry hentry
    obtain ⟨dst, auType, rfl⟩ := r.floodingLsa_sent_data _ src inter entry
      hentry
    rw [floodData_wire hlsa]
    exact ⟨dst, r, auType, delay, lsa, hknown, rfl⟩
  have hmany : ∀ inters : List Interface, ∀ entry ∈
      (inters.map (r.floodingLsa (Memory.ofList
        (lsa.wire delay ++ rest)) src)).flatMap fun flooded => flooded.2.1,
      ∃ dst t auType delay own, known delay own ∧ entry = .sent dst
        (ospfPacket t auType typeLsu (lsuData [own.wire delay])) := by
    intro inters entry hentry
    obtain ⟨flooded, hflooded, hin⟩ := List.mem_flatMap.mp hentry
    obtain ⟨inter, -, rfl⟩ := List.mem_map.mp hflooded
    exact hsent inter entry hin
  refine ⟨_, (List.append_assoc _ _ _).trans (List.append_assoc _ _ _), ?_⟩
  rw [List.forall_mem_append, List.forall_mem_append]
  exact ⟨hmany _, hsent _, hmany _⟩

/-- A round over a known LSA. -/
theorem lsuRound_relays (hlsa : lsa.Consistent) (hknown : known delay lsa)
    (h : lsuRound src s (Memory.ofList (lsa.wire delay ++ rest)) = .ok s') :
    s.router.Relays known s'.router := by
  have hput : ∀ {lsdb lsdb' : LSDB} {mask : UInt32} {other : OwnLsa},
      lsdb.install mask (Memory.ofList (lsa.wire delay ++ rest)) =
        .ok lsdb' → lsdb'.Stores other →
          lsdb.Stores other ∨
            ∃ delay own mask, known delay own ∧ other = own.received mask := by
    intro lsdb lsdb' mask other hinstall hstores
    rw [LSDB.install_wire hlsa, Except.ok.injEq] at hinstall
    rw [← hinstall] at hstores
    rcases LSDB.stores_put hstores with rfl | hold
    · exact Or.inr ⟨delay, lsa, mask, hknown, rfl⟩
    · exact Or.inl hold
  have hgrows := lsuRound_routersGrow h
  rcases lsuRound_cases h with
    rfl | ⟨-, -, -, ⟨-, haccept⟩ | ⟨-, same, hreject⟩⟩
  · exact relays_refl known _
  · obtain ⟨entries, hlog, hsent⟩ :=
      floodArea_relays hlsa hknown s.router src rest
    have hinstall := acceptLsa_lsdb haccept
    refine ⟨acceptLsa_numbering haccept, ?_, hgrows, fun _ => hput hinstall,
      entries, ?_, fun entry hentry _ => hsent entry hentry⟩
    · obtain ⟨lsdb, -, rfl⟩ := Outcome.map_eq_ok.mp haccept
      simp [Router.interfaces, purge, floodArea]
    · obtain ⟨lsdb, -, rfl⟩ := Outcome.map_eq_ok.mp haccept
      exact hlog
  · have hnumbering := rejectLsa_numbering hreject
    rcases rejectLsa_cases hreject with
      ⟨-, hrouter⟩ | ⟨-, t, lsdb, ht, hrouter, hlsdb⟩
    · rw [hrouter] at hnumbering ⊢
      refine (keepsLsas_of hnumbering ?_ rfl rfl ?_).mono
        fun _ _ => False.elim
      · simp [Router.interfaces, eventBadLsReq, modifyNeighbor, addLog]
      · rintro entry hentry
        rw [List.mem_singleton.mp hentry]
        exact id
    · refine ⟨hnumbering, ?_, hgrows, fun other hstores => ?_, [], ?_, by simp⟩
      · rw [hrouter]
        rcases ht with rfl | rfl <;>
          simp [Router.interfaces, modifyNeighbor]
      · rw [hrouter] at hstores
        rcases hlsdb with rfl | ⟨-, hinstall⟩
        · exact Or.inl hstores
        · exact hput hinstall hstores
      · rw [hrouter, List.append_nil]
        rcases ht with rfl | rfl <;> rfl

/-- Handling an LSU that brings known LSAs only. -/
theorem updates_relays {pointers : List Memory}
    (hpointers : ∀ data ∈ pointers, ∃ delay lsa,
      OwnLsa.Consistent lsa ∧ known delay lsa ∧
        Memory.StartsWith data (lsa.wire delay))
    (hrun : runFrom (lsuRound src) ⟨r, [], false⟩ pointers = .ok s) :
    r.Relays known (sendLsack s) := by
  have hrounds : r.Relays known s.router := by
    refine runFrom_invariant (I := fun s => r.Relays known s.router) ?_
      (relays_refl known r) (along_of_forall hpointers _) hrun
    rintro s data s' hs ⟨delay, lsa, hlsa, hknown, hstarts⟩ hround
    obtain ⟨rest, hrest⟩ := hstarts.exists_agreeBelow lsaReach
    rw [lsuRound_of_reach hrest] at hround
    exact hs.trans (lsuRound_relays hlsa hknown hround)
  rw [sendLsack]
  split_ifs
  · have hack : s.router.KeepsLsas (s.router.sendOspfPacket
        s.router.segmentAddress typeLsAck s.lsackData) := by
      refine keepsLsas_of rfl rfl rfl rfl fun entry hentry => ?_
      rw [List.mem_singleton.mp hentry, LogEntry.IsLsu, ospfPacket_type]
      decide
    exact hrounds.trans (hack.mono fun _ _ => False.elim)
  · exact hrounds

/-! ## Originating -/

/-- The database after `update_lsas`. -/
theorem updateLsas_stores (h : r.updateLsas.lsdb.Stores lsa) :
    r.lsdb.Stores lsa ∨ lsa ∈ r.emitted := by
  rw [updateLsas_lsdb] at h
  rw [mem_emitted]
  rcases LSDB.stores_updateRouterLsa h with hold | ⟨hflag, rfl⟩
  · by_cases hdr : r.interface.state = .dr
    · rw [updateOwnNetworkLsa, if_pos hdr, floodOwnLsa_lsdb] at hold
      rcases LSDB.stores_updateNetworkLsa hold with hstored | ⟨hflag, rfl⟩
      · exact Or.inl hstored
      · exact Or.inr (Or.inl ⟨(updateNetworkLsa_snd_iff hdr).mp hflag, rfl⟩)
    · rw [updateOwnNetworkLsa, if_neg hdr] at hold
      exact Or.inl hold
  · exact Or.inr (Or.inr ⟨r.updateRouterLsa_snd_iff.mp hflag, rfl⟩)

/-- What `update_lsas` sends. -/
theorem updateLsas_sent (r : Router) :
    ∃ entries, r.updateLsas.log = r.log ++ entries ∧ ∀ entry ∈ entries,
      entry = .sent r.segmentAddress r.ownLsu := by
  by_cases hemits : r.emitted = []
  · obtain ⟨lsdb, count, headers, horig⟩ :=
      r.updateOwnNetworkLsa_originates.trans
        (updateOwnRouterLsa_originates r.updateOwnNetworkLsa.1)
    refine ⟨[], ?_, by simp⟩
    rw [updateLsas_of_silent (emitted_eq_nil_iff.mp hemits), horig,
      List.append_nil]
  · exact ⟨_, updateLsas_log hemits, fun _ => List.mem_singleton.mp⟩

/-! ## All steps -/

/-- What a step does with LSAs. -/
inductive Spreads (known : UInt32 → OwnLsa → Prop) (r r' : Router) : Prop where
  | relays (h : r.Relays known r')
  | originates {t : Router} (hbefore : r.KeepsLsas t)
      (haddresses : t.addresses = r.addresses)
      (hafter : t.updateLsas.KeepsLsas r')

/-- No LSA is requested, and an LSU that is taken in brings known LSAs only. -/
def BringsKnown (known : UInt32 → OwnLsa → Prop) (r : Router) : Step → Prop
  | .frame _ packet =>
      r.Admits packet → packet 21 ≠ typeLsr ∧ (packet 21 = typeLsu →
        ∀ data ∈ lsuPointers packet, ∃ delay lsa,
          OwnLsa.Consistent lsa ∧ known delay lsa ∧
            Memory.StartsWith data (lsa.wire delay))
  | _ => True

/-- A Database Description packet that is not accepted. -/
theorem handleDd_keepsLsas {dd : OSPFDD} {headers : Option (List LSAHeader)}
    (hnone : r.acceptedDd ip dd = none)
    (h : r.handleDd ip dd headers = .ok r') : r.KeepsLsas r' := by
  have hrecedes := handleDd_recedes hnone h
  cases hfind : r.findNeighbor ip with
  | none =>
      simp only [handleDd, hfind, Except.ok.injEq] at h
      exact h ▸ relays_refl _ r
  | some m =>
      rw [acceptedDd, hfind, Option.bind_some] at hnone
      rw [handleDd_eq hfind] at h
      cases hverdict : (m.beginDd r.interface dd).ddVerdict r.routerId r.lsdb
          (decide (m.IsDuplicate dd)) dd with
      | ignore =>
          simp only [hverdict, Except.ok.injEq] at h
          refine @Recedes.keepsLsas r r' [] hrecedes ?_ (by simp)
          rw [← h, List.append_nil]
          rfl
      | resend =>
          simp only [hverdict, Except.ok.injEq] at h
          refine hrecedes.keepsLsas (by rw [← h]; rfl) fun entry hentry => ?_
          rw [List.mem_singleton.mp hentry, LogEntry.IsLsu, ospfPacket_type]
          decide
      | mismatch =>
          simp only [hverdict, Except.ok.injEq] at h
          refine hrecedes.keepsLsas (by rw [← h]; rfl) fun entry hentry => ?_
          rw [List.mem_singleton.mp hentry]
          exact id
      | accept n =>
          simp only [hverdict] at hnone
          cases hnone

/-- What the log says of an accepted packet. -/
theorem not_isLsu_acceptanceLog {headers : List LSAHeader} {n : Neighbor} :
    ∀ entry ∈ r.acceptanceLog ip headers n, ¬entry.IsLsu := by
  intro entry hentry
  rcases List.mem_append.mp hentry with hbefore | haccepted
  · rcases List.mem_append.mp hbefore with hnegotiated | hraised
    · split_ifs at hnegotiated
      · rw [List.mem_singleton.mp hnegotiated]
        exact id
      · cases hnegotiated
    · obtain ⟨_, -, rfl⟩ := List.mem_map.mp hraised
      exact id
  · rw [List.mem_singleton.mp haccepted]
    exact id

/-- The reply to a Database Description packet. -/
theorem replyDd_keepsLsas {n : Neighbor} (hfind : r.findNeighbor ip = some n) :
    r.KeepsLsas (r.replyDd ip) := by
  rw [replyDd_eq hfind]
  apply keepsLsas_putNeighbor
  intro entry hentry
  rw [List.mem_singleton.mp hentry, LogEntry.IsLsu, ospfPacket_type]
  decide

/-- A Database Description packet that is accepted. -/
theorem acceptedDd_spreads {m n popped : Neighbor} {dd : OSPFDD}
    {headers : List LSAHeader} (known : UInt32 → OwnLsa → Prop)
    (hfind : r.findNeighbor ip = some m)
    (hfrom : Neighbor.AcceptedFrom r.lsdb m n)
    (hpopped : (n.takeIn r.lsdb dd headers).popAcknowledged = .ok popped) :
    r.Spreads known (((r.putNeighbor ip popped
      (r.acceptanceLog ip headers n)).concludeDd ip dd popped).replyDd
        ip) := by
  have hip := popped_ip hfind hfrom hpopped
  rw [concludeDd_putNeighbor hfind hip]
  split_ifs
  · have hfull := findNeighbor_putNeighbor hfind
      (popped.reachFull_ip.trans hip) (r.acceptanceLog ip headers n)
    refine .originates
      (r.keepsLsas_putNeighbor ip popped.reachFull not_isLsu_acceptanceLog) ?_
      (replyDd_keepsLsas (findNeighbor_updateLsas hfull))
    exact addresses_putNeighbor (popped.reachFull_ip.trans hip) _
  · have hput := findNeighbor_putNeighbor hfind hip
      (r.acceptanceLog ip headers n)
    refine .relays (Relays.mono ?_ fun _ _ => False.elim)
    exact (r.keepsLsas_putNeighbor ip popped not_isLsu_acceptanceLog).trans
      (replyDd_keepsLsas hput)

/-- A change of the interface alone. -/
theorem Recedes.keepsLsas_of_log (h : r.Recedes r') (hlog : r'.log = r.log) :
    r.KeepsLsas r' :=
  @Recedes.keepsLsas r r' [] h (hlog.trans (List.append_nil _).symm) (by simp)

theorem recvHello_keepsLsas {now : ℤ} (h : r.recvHello now packet = .ok r') :
    r.KeepsLsas r' := by
  refine (recvHello_recedes h).keepsLsas_of_log ?_
  rw [recvHello] at h
  split_ifs at h
  · obtain ⟨listed, -, hhello⟩ := Outcome.bind_eq_ok.mp h
    obtain ⟨inter, -, rfl⟩ := Outcome.map_eq_ok.mp hhello
    rfl
  · rw [Except.ok.injEq] at h
    rw [h]

theorem recvDd_spreads (known : UInt32 → OwnLsa → Prop)
    (h : r.recvDd packet = .ok r') : r.Spreads known r' := by
  rw [recvDd] at h
  cases haccepted : r.acceptedDd (ntohl (packet.load32 12))
      (OSPFDD.load (packet.advance bodyOffset)) with
  | none =>
      exact .relays ((handleDd_keepsLsas haccepted h).mono
        fun _ _ => False.elim)
  | some n =>
      cases hheaders : ddHeaders packet with
      | none =>
          rw [hheaders, handleDd_of_accepted_none haccepted] at h
          cases h
      | some headers =>
          rw [hheaders, handleDd_of_accepted haccepted] at h
          obtain ⟨popped, hpopped, rfl⟩ := Outcome.map_eq_ok.mp h
          obtain ⟨m, hm, hfrom⟩ := acceptedDd_spec haccepted
          exact acceptedDd_spreads known hm hfrom hpopped

theorem sendEmptyDd_keepsLsas (ip : UInt32) (r : Router) :
    r.KeepsLsas (r.sendEmptyDd ip) := by
  have hrecedes := sendEmptyDd_recedes ip r
  rw [sendEmptyDd] at hrecedes ⊢
  cases hfind : r.findNeighbor ip with
  | none => exact relays_refl _ r
  | some n =>
      simp only [hfind] at hrecedes ⊢
      split_ifs at hrecedes ⊢
      · refine hrecedes.keepsLsas rfl fun entry hentry => ?_
        rw [List.mem_singleton.mp hentry, LogEntry.IsLsu, ospfPacket_type]
        decide
      · exact relays_refl _ r

theorem keepsLsas_modifyNeighbor (r : Router) (ip : UInt32)
    (f : Neighbor → Neighbor) : r.KeepsLsas (r.modifyNeighbor ip f) := by
  refine @keepsLsas_of _ _ [] rfl ?_ rfl (List.append_nil _).symm (by simp)
  simp [Router.interfaces, modifyNeighbor]

/-- What every step does with LSAs. -/
theorem step_spreads {step : Step} (hbrings : r.BringsKnown known step)
    (h : r.step step = .ok r') : r.Spreads known r' := by
  have hkeeps : ∀ t, r.KeepsLsas t → r.Spreads known t := fun t h =>
    .relays (h.mono fun _ _ => False.elim)
  cases step with
  | timers now =>
      refine hkeeps r' ((timers_recedes h).keepsLsas_of_log ?_)
      obtain ⟨inter, -, rfl⟩ := Outcome.map_eq_ok.mp h
      rfl
  | waitingTimeout =>
      rw [Router.step, Except.ok.injEq] at h
      rw [← h]
      refine hkeeps _ (@keepsLsas_of _ _ [] rfl ?_ rfl
        (List.append_nil _).symm (by simp))
      simp [Router.interfaces]
  | emptyDd ip =>
      rw [Router.step, Except.ok.injEq] at h
      exact h ▸ hkeeps _ (sendEmptyDd_keepsLsas ip r)
  | emptyDdSenderEnds ip =>
      rw [Router.step, Except.ok.injEq] at h
      exact h ▸ hkeeps _ (r.keepsLsas_modifyNeighbor ip _)
  | frame now packet =>
      rw [Router.step, recvOspfPacket] at h
      split_ifs at h with hadmits hhello hdd hlsr hlsu hlsack
      · exact hkeeps r' (recvHello_keepsLsas h)
      · exact recvDd_spreads known h
      · exact absurd hlsr (hbrings hadmits).1
      · rw [recvLsu_eq] at h
        split_ifs at h
        obtain ⟨s, hrun, rfl⟩ := Outcome.map_eq_ok.mp h
        exact .relays (updates_relays ((hbrings hadmits).2 hlsu) hrun)
      · rcases recvLsAck_cases h with rfl | ⟨n, headers, -, -, -, rfl⟩
        · exact hkeeps _ (relays_refl _ _)
        · exact hkeeps _ (r.keepsLsas_modifyNeighbor _ _)
      all_goals
        rw [Except.ok.injEq] at h
        exact h ▸ hkeeps _ (relays_refl _ r)

end Router
end OspfLite
