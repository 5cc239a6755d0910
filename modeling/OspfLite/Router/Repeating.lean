import OspfLite.Router.Rejecting

/-!
# Repeated Database Description packets

A packet that has been accepted is recognised when it comes again by the flags
and the number recorded of it.  From INIT the handler records them first, and
`event_2way_received` resets them before the packet is accepted.
-/

namespace OspfLite
namespace Neighbor

/-- What the test for a repeated packet looks at. -/
def lastRecvDd (n : Neighbor) : UInt32 × Bool × Bool × Bool :=
  (n.lastRecvDdSeqNum, n.lastRecvDdI, n.lastRecvDdM, n.lastRecvDdMs)

variable {n m : Neighbor} {dd : OSPFDD} {headers : List LSAHeader}
  {inter : Interface} {lsdb : LSDB} {popped concluded : Neighbor}

theorem isDuplicate_iff (n : Neighbor) (dd : OSPFDD) :
    n.IsDuplicate dd ↔
      n.lastRecvDd = (ntohl dd.ddSeqNum, dd.bI, dd.bM, dd.bMs) := by
  rw [IsDuplicate, lastRecvDd]
  simp only [Prod.mk.injEq, eq_comm]

@[simp] theorem recordDd_lastRecvDd (dd : OSPFDD) (n : Neighbor) :
    (n.recordDd dd).lastRecvDd =
      (ntohl dd.ddSeqNum, dd.bI, dd.bM, dd.bMs) := by
  rw [lastRecvDd, recordDd]

/-- A repeated packet changes nothing when it is recorded. -/
theorem recordDd_of_duplicate (hdup : n.IsDuplicate dd)
    (hoptions : n.options = dd.options) : n.recordDd dd = n := by
  obtain ⟨hseq, hI, hM, hMs⟩ := hdup
  rw [recordDd, hseq, hI, hM, hMs, ← hoptions]

/-- The record a packet is accepted with remembers the packet, unless the
handling of the packet has begun in INIT. -/
theorem lastRecvDd_of_accept {routerId : UInt32} {dup : Bool}
    (h : (m.beginDd inter dd).ddVerdict routerId lsdb dup dd = .accept n) :
    n.options = dd.options ∧
      n.lastRecvDd = if m.state = .init then (0, false, false, false)
        else (ntohl dd.ddSeqNum, dd.bI, dd.bM, dd.bMs) := by
  have hbegun : n.options = (m.beginDd inter dd).options ∧
      n.lastRecvDd = (m.beginDd inter dd).lastRecvDd ∧
      (m.beginDd inter dd).state ≠ .twoWay := by
    rcases ddVerdict_accept h with ⟨hstate, rfl⟩ | ⟨hstate, _, _, rfl⟩
    · rw [hstate]
      exact ⟨rfl, rfl, by decide⟩
    · rw [hstate]
      exact ⟨rfl, rfl, by decide⟩
  obtain ⟨hoptions, hlast, hstate⟩ := hbegun
  rw [hoptions, hlast]
  by_cases hinit : m.state = .init
  · rw [if_pos hinit]
    obtain ⟨seqNum, hrecord⟩ := m.recordDd_eq dd
    have hrecorded : (m.recordDd dd).state = .init := by
      rw [recordDd_state, hinit]
    rw [beginDd, if_pos hrecorded, event2wayReceived, if_pos hrecorded]
      at hstate ⊢
    rw [hrecord] at hstate ⊢
    split_ifs at hstate ⊢
    · exact ⟨rfl, rfl⟩
    · exact absurd rfl hstate
  · have hrecorded : (m.recordDd dd).state ≠ .init := by
      rw [recordDd_state]
      exact hinit
    rw [if_neg hinit, beginDd, if_neg hrecorded]
    exact ⟨recordDd_options dd m, recordDd_lastRecvDd dd m⟩

/-- Taking in a packet with good types leaves what has been recorded of the
packet alone. -/
theorem takeIn_lastRecvDd (hgood : ∀ h ∈ headers, ¬BadType h) (lsdb : LSDB)
    (dd : OSPFDD) (n : Neighbor) :
    (n.takeIn lsdb dd headers).options = n.options ∧
      (n.takeIn lsdb dd headers).lastRecvDd = n.lastRecvDd := by
  have hnone : ¬∃ h ∈ headers, BadType h :=
    fun ⟨h, hmem, hbad⟩ => hgood h hmem hbad
  obtain ⟨seqNum, hfollow⟩ := n.follow_eq dd
  rw [takeIn, afterTypes, if_neg hnone, hfollow]
  exact ⟨rfl, rfl⟩

/-- The reply is kept in full. -/
theorem reply_kept (mtu : UInt16) (options ddOther : UInt8) (n : Neighbor) :
    (n.reply mtu options ddOther).lastSendDdData.take
        (n.reply mtu options ddOther).lastSendDdDataLen.toNat =
      n.numberReply.ddReply mtu options ddOther := by
  have hcap : (n.numberReply.databaseSummaryList.take ddCapacity).length ≤
      50 := List.length_take_le _ _
  have hlength := Router.length_ddReply mtu options ddOther n.numberReply
  rw [reply, recordReply]
  apply List.take_of_length_le
  rw [UInt32.toNat_ofNat', hlength]
  omega

/-- From EXCHANGE on a repeated packet has the reply sent again, or is
ignored. -/
theorem ddVerdict_duplicate (hstate : NeighborState.exchange ≤ n.state)
    (routerId : UInt32) (lsdb : LSDB) (dd : OSPFDD) :
    n.ddVerdict routerId lsdb true dd =
      if n.isMaster then .resend else .ignore := by
  rw [ddVerdict]
  cases hs : n.state with
  | down | attempt | init | twoWay | exStart =>
      rw [hs] at hstate
      exact absurd hstate (by decide)
  | exchange => simp
  | loading | full => simp

/-- Any other packet is ignored when the exchange is over. -/
theorem ddVerdict_late (hstate : NeighborState.exchange ≤ n.state)
    (hne : n.state ≠ .exchange) (routerId : UInt32) (lsdb : LSDB)
    (dd : OSPFDD) : n.ddVerdict routerId lsdb false dd = .ignore := by
  rw [ddVerdict]
  cases hs : n.state with
  | down | attempt | init | twoWay => rfl
  | exStart =>
      rw [hs] at hstate
      exact absurd hstate (by decide)
  | exchange => exact absurd hs hne
  | loading | full => simp

@[simp] theorem numberReply_lastRecvDd (n : Neighbor) :
    n.numberReply.lastRecvDd = n.lastRecvDd := by
  rw [numberReply]
  split_ifs <;> rfl

@[simp] theorem numberReply_options (n : Neighbor) :
    n.numberReply.options = n.options := by
  rw [numberReply]
  split_ifs <;> rfl

end Neighbor

namespace Router

variable {r r' r'' : Router} {ip : UInt32} {dd : OSPFDD}
  {m m' n popped concluded : Neighbor} {before : Router}
  {headers : List LSAHeader}

/-- The reply is the last thing sent, and the neighbor keeps it. -/
theorem Answers.kept (h : Answers ip popped before concluded r')
    (hm' : r'.findNeighbor ip = some m') :
    r'.log.getLast? = some (.sent ip (r'.ospfPacket r'.interface.auType
      typeDd (m'.lastSendDdData.take m'.lastSendDdDataLen.toNat))) := by
  have hrecord := Option.some.inj (h.findNeighbor.symm.trans hm')
  rw [← hrecord, Neighbor.reply_kept, h.replied, putNeighbor,
    List.getLast?_concat]
  rfl

/-- The record after the reply remembers the same packet as the record with
which the packet was accepted. -/
theorem Answers.remembered (h : Answers ip popped before concluded r')
    (hm' : r'.findNeighbor ip = some m') :
    m'.options = popped.options ∧ m'.lastRecvDd = popped.lastRecvDd := by
  have hrecord := Option.some.inj (h.findNeighbor.symm.trans hm')
  have hconcluded : concluded.options = popped.options ∧
      concluded.lastRecvDd = popped.lastRecvDd := by
    rcases h.record with rfl | ⟨-, pushed, rfl⟩
    · exact ⟨rfl, rfl⟩
    · rw [Neighbor.pushAll]
      split_ifs <;> exact ⟨rfl, rfl⟩
  rw [← hrecord, ← hconcluded.1, ← hconcluded.2]
  exact ⟨concluded.numberReply_options, concluded.numberReply_lastRecvDd⟩

/-- A neighbor that is left in EXCHANGE or above remembers the packet as the
record does with which it was accepted, and has kept the reply. -/
theorem answered_spec (haccepted : r.acceptedDd ip dd = some n)
    (hr' : r.handleDd ip dd (some headers) = .ok r')
    (hm' : r'.findNeighbor ip = some m')
    (hstate : NeighborState.exchange ≤ m'.state) :
    m'.options = n.options ∧ m'.lastRecvDd = n.lastRecvDd ∧
      r'.log.getLast? = some (.sent ip (r'.ospfPacket r'.interface.auType
        typeDd (m'.lastSendDdData.take m'.lastSendDdDataLen.toNat))) := by
  obtain ⟨popped, before, concluded, hpopped, hanswers⟩ :=
    exists_answers haccepted hr'
  obtain ⟨m, -, hfrom⟩ := acceptedDd_spec haccepted
  obtain ⟨hoptions, hlast⟩ := hanswers.remembered hm'
  have hsame : m'.state = concluded.state := by
    rw [← Option.some.inj (hanswers.findNeighbor.symm.trans hm'),
      Neighbor.reply_state]
  obtain ⟨-, rfl⟩ := Neighbor.popAcknowledged_eq_ok.mp hpopped
  have hgood : ∀ h ∈ headers, ¬Neighbor.BadType h := by
    intro h hh hbad
    have hstart := (Neighbor.takeIn_of_badType ⟨h, hh, hbad⟩ r.lsdb dd
      hfrom.state).1
    rcases hanswers.record with hrec | ⟨hexchange, -⟩
    · rw [hsame, hrec] at hstate
      change _ ≤ (n.takeIn r.lsdb dd headers).state at hstate
      rw [hstart] at hstate
      exact absurd hstate (by decide)
    · change (n.takeIn r.lsdb dd headers).state = _ at hexchange
      rw [hstart] at hexchange
      cases hexchange
  obtain ⟨htaken, htaken'⟩ := Neighbor.takeIn_lastRecvDd hgood r.lsdb dd n
  exact ⟨hoptions.trans htaken, hlast.trans htaken', hanswers.kept hm'⟩

/-- The chain of states is entered with the packet recorded. -/
theorem beginDd_of_late (hstate : NeighborState.exchange ≤ m.state)
    (inter : Interface) : m.beginDd inter dd = m.recordDd dd := by
  have hnot : (m.recordDd dd).state ≠ .init := by
    rw [Neighbor.recordDd_state]
    intro hinit
    rw [hinit] at hstate
    exact absurd hstate (by decide)
  rw [Neighbor.beginDd, if_neg hnot]

/-- A repeated packet has no effect but for the reply of a slave. -/
theorem handleDd_of_duplicate (hm : r.findNeighbor ip = some m)
    (hstate : NeighborState.exchange ≤ m.state) (hdup : m.IsDuplicate dd)
    (hoptions : m.options = dd.options)
    (headers : Option (List LSAHeader)) :
    r.handleDd ip dd headers =
      .ok (if m.isMaster then r.resendDd m else r) := by
  have hsame : (r.modifyNeighbor ip fun _ => m) = r := by
    rw [modifyNeighbor_eq_putNeighbor hm, putNeighbor_self hm]
  rw [handleDd_eq hm]
  simp only [beginDd_of_late hstate, decide_eq_true hdup,
    Neighbor.recordDd_of_duplicate hdup hoptions,
    Neighbor.ddVerdict_duplicate hstate, hsame]
  cases m.isMaster <;> rfl

/-- A packet that repeats none does not leave the record as it was. -/
theorem handleDd_of_not_duplicate (hm : r.findNeighbor ip = some m)
    (hstate : NeighborState.exchange ≤ m.state) (hdup : ¬m.IsDuplicate dd)
    (hr' : r.handleDd ip dd (some headers) = .ok r') :
    r'.findNeighbor ip ≠ some m := by
  intro hback
  have hmip : m.ip = ip := findNeighbor_ip hm
  have hip : (m.recordDd dd).ip = ip := by
    obtain ⟨seqNum, hrecord⟩ := m.recordDd_eq dd
    rw [hrecord]
    exact hmip
  have hchanged : m.recordDd dd ≠ m := by
    intro hsame
    have hlast := m.recordDd_lastRecvDd dd
    rw [hsame] at hlast
    exact hdup ((m.isDuplicate_iff dd).mpr hlast)
  by_cases hexchange : m.state = .exchange
  · by_cases hfits : m.FitsRole dd
    · have haccepted : r.acceptedDd ip dd = some (m.recordDd dd) := by
        rw [acceptedDd_exchange hm hexchange hdup, if_pos hfits]
      obtain ⟨-, hlast, -⟩ := answered_spec haccepted hr' hback hstate
      rw [Neighbor.recordDd_lastRecvDd] at hlast
      exact hdup ((m.isDuplicate_iff dd).mpr hlast)
    · rw [handleDd_of_not_fits hm hexchange hdup hfits,
        Except.ok.injEq] at hr'
      have hrecorded := findNeighbor_putNeighbor hm hip []
      have hrestarted : r'.findNeighbor ip =
          some (m.recordDd dd).eventSeqNumberMismatch.1 := by
        rw [← hr', modifyNeighbor_eq_putNeighbor hm, eventSeqNumberMismatch,
          modifyNeighbor_eq_putNeighbor hrecorded, addLog_putNeighbor]
        exact findNeighbor_putNeighbor hrecorded
          ((m.recordDd dd).restartExchange_recedes.ip.trans hip) _
      rw [hrestarted, Option.some.injEq] at hback
      have hstart := (Neighbor.eventSeqNumberMismatch_spec
        ((m.recordDd_state dd).trans hexchange)).1
      rw [hback, hexchange] at hstart
      cases hstart
  · have hlate : (m.recordDd dd).state ≠ .exchange := by
      rwa [Neighbor.recordDd_state]
    rw [handleDd_eq hm] at hr'
    simp only [beginDd_of_late hstate, decide_eq_false hdup,
      Neighbor.ddVerdict_late ((m.recordDd_state dd).symm ▸ hstate) hlate,
      Except.ok.injEq] at hr'
    rw [← hr', modifyNeighbor_eq_putNeighbor hm,
      findNeighbor_putNeighbor hm hip, Option.some.injEq] at hback
    exact hchanged hback

/-- Handling the packet once more changes nothing; a slave sends its last reply
again, and a master sends nothing. -/
def RepeatHarmless (r : Router) (ip : UInt32) (dd : OSPFDD)
    (headers : Option (List LSAHeader)) : Prop :=
  ∃ m ∈ r.findNeighbor ip, ∃ reply,
    r.log.getLast? = some (.sent ip reply) ∧
      r.handleDd ip dd headers =
        .ok (if m.isMaster then r.addLog (.sent ip reply) else r)

/-- The record stays. -/
theorem RepeatHarmless.findNeighbor
    {headers : Option (List LSAHeader)}
    (h : r.RepeatHarmless ip dd headers)
    (hr' : r.handleDd ip dd headers = .ok r') :
    r'.findNeighbor ip = r.findNeighbor ip := by
  obtain ⟨m, -, reply, -, hrepeat⟩ := h
  rw [hr', Except.ok.injEq] at hrepeat
  rw [hrepeat]
  split_ifs <;> rfl

/-- A packet that has been accepted, and has left the neighbor in EXCHANGE or
above, is harmless when it is repeated if and only if its handling has not
begun in INIT, or its flags and its number are the ones that
`event_2way_received` resets the fields to. -/
theorem repeatHarmless_iff (hm : r.findNeighbor ip = some m)
    (haccepted : r.acceptedDd ip dd = some n)
    (hr' : r.handleDd ip dd (some headers) = .ok r')
    (hm' : r'.findNeighbor ip = some m')
    (hstate : NeighborState.exchange ≤ m'.state) :
    r'.RepeatHarmless ip dd (some headers) ↔
      (m.state = .init → ntohl dd.ddSeqNum = 0 ∧ dd.bI = false ∧
        dd.bM = false ∧ dd.bMs = false) := by
  obtain ⟨hoptions, hlast, hkept⟩ := answered_spec haccepted hr' hm' hstate
  have hbegun : n.options = dd.options ∧
      n.lastRecvDd = if m.state = .init then (0, false, false, false)
        else (ntohl dd.ddSeqNum, dd.bI, dd.bM, dd.bMs) := by
    obtain ⟨m₀, hm₀, hverdict⟩ := Option.bind_eq_some_iff.mp haccepted
    rw [hm, Option.some.injEq] at hm₀
    subst hm₀
    split at hverdict
    · next n' haccept =>
      rw [Option.some.injEq] at hverdict
      exact hverdict ▸ Neighbor.lastRecvDd_of_accept haccept
    · cases hverdict
  have hdup : m'.IsDuplicate dd ↔ (m.state = .init →
      ntohl dd.ddSeqNum = 0 ∧ dd.bI = false ∧ dd.bM = false ∧
        dd.bMs = false) := by
    rw [Neighbor.isDuplicate_iff, hlast, hbegun.2]
    by_cases hinit : m.state = .init
    · rw [if_pos hinit]
      simp only [hinit, forall_const, Prod.mk.injEq]
      exact ⟨fun h => ⟨h.1.symm, h.2.1.symm, h.2.2.1.symm, h.2.2.2.symm⟩,
        fun h => ⟨h.1.symm, h.2.1.symm, h.2.2.1.symm, h.2.2.2.symm⟩⟩
    · rw [if_neg hinit]
      exact iff_of_true rfl fun h => absurd h hinit
  rw [← hdup]
  constructor
  · rintro ⟨m₀, hm₀, reply, -, hrepeat⟩
    by_contra hnot
    refine handleDd_of_not_duplicate hm' hstate hnot hrepeat ?_
    split_ifs <;> exact hm'
  · intro h
    refine ⟨m', hm', _, hkept, ?_⟩
    rw [handleDd_of_duplicate hm' hstate h (hoptions.trans hbegun.1),
      resendDd, findNeighbor_ip hm']
    rfl

/-- The next packet of the master, which is answered in EXCHANGE. -/
theorem repeatHarmless_iff_nextDd :
    ∃ r', (routerWith (exchangingNeighbor true)).handleDd 0x0a000002
        (masterDd 1) (some []) = .ok r' ∧
      (r'.RepeatHarmless 0x0a000002 (masterDd 1) (some []) ↔
        ((exchangingNeighbor true).state = .init →
          ntohl (masterDd 1).ddSeqNum = 0 ∧ (masterDd 1).bI = false ∧
            (masterDd 1).bM = false ∧ (masterDd 1).bMs = false)) := by
  have hreached : ∃ r', (routerWith (exchangingNeighbor true)).handleDd
      0x0a000002 (masterDd 1) (some []) = .ok r' ∧
      ∃ m' ∈ r'.findNeighbor 0x0a000002, NeighborState.exchange ≤ m'.state :=
    Outcome.exists_of_completesWith (by decide +kernel)
  obtain ⟨r', hr', m', hm', hstate⟩ := hreached
  have hsome : (routerWith (exchangingNeighbor true)).acceptedDd 0x0a000002
      (masterDd 1) ≠ none := by decide +kernel
  obtain ⟨n, hn⟩ := Option.ne_none_iff_exists'.mp hsome
  exact ⟨r', hr', repeatHarmless_iff rfl hn hr' hm' hstate⟩

/-- A DD packet with which the peer opens an exchange. -/
def openingDd : OSPFDD := ⟨htons 1500, 2, true, true, true, 0, 0⟩

/-- A DR has heard the peer, but is not listed by it, when the peer opens the
exchange: the packet is accepted, and repeated it restarts the exchange. -/
theorem repeated_packet_restarts :
    ∃ r, runFrom step
        (boot 0x01010101 0 ⟨0, 0, 0, false, false, false⟩ [] 0x0a000001
          0xffffff00)
        [.waitingTimeout, .timers 0,
          .frame 0 (fromPeer typeHello (followerHello []))] = .ok r ∧
      r.acceptedDd 0x0a000002 openingDd ≠ none ∧
      ∃ r', r.handleDd 0x0a000002 openingDd (some []) = .ok r' ∧
        (∃ m' ∈ r'.findNeighbor 0x0a000002, m'.state = .exchange) ∧
        ¬r'.RepeatHarmless 0x0a000002 openingDd (some []) := by
  have hreached : ∃ r, runFrom step
      (boot 0x01010101 0 ⟨0, 0, 0, false, false, false⟩ [] 0x0a000001
        0xffffff00)
      [.waitingTimeout, .timers 0,
        .frame 0 (fromPeer typeHello (followerHello []))] = .ok r ∧
      r.acceptedDd 0x0a000002 openingDd ≠ none ∧
      (r.handleDd 0x0a000002 openingDd (some [])).completesWith (fun r' =>
        (∃ m' ∈ r'.findNeighbor 0x0a000002, m'.state = .exchange) ∧
        (r'.handleDd 0x0a000002 openingDd (some [])).completesWith
          (fun r'' => r''.findNeighbor 0x0a000002 ≠
            r'.findNeighbor 0x0a000002) = true) = true :=
    Outcome.exists_of_completesWith (by decide +kernel)
  obtain ⟨r, hrun, haccepted, hfirst⟩ := hreached
  obtain ⟨r', hr', hstate, hsecond⟩ := Outcome.exists_of_completesWith hfirst
  obtain ⟨r'', hr'', hchanged⟩ := Outcome.exists_of_completesWith hsecond
  exact ⟨r, hrun, haccepted, r', hr', hstate,
    fun h => hchanged (h.findNeighbor hr'')⟩

end Router
end OspfLite
