import OspfLite.Segment.Lsas

/-!
# Routers in step

A router is in step with another one when it has the Router LSA that the other
one has issued last.  On a segment that is left to itself the LSU of
`update_lsas` brings every router that knows the sender in step with it, and
they stay in step until the sender issues the next LSA.
-/

namespace OspfLite

namespace Router

variable {r r' q q' : Router} {known : UInt32 → OwnLsa → Prop}

/-- The router comes to `update_lsas` in the state `t`, and sends an LSU with
its Router LSA. -/
structure SendsFrom (r r' t : Router) : Prop where
  keeps : r.KeepsLsas t
  numbers : t.HasNumbers
  fits : t.LsuFits
  emits : t.EmitsRouterLsa
  counter : r'.lsSequenceCnt = t.updateLsas.lsSequenceCnt
  log : .sent t.segmentAddress t.ownLsu ∈ r'.log.drop r.log.length

/-- Whatever makes the counter move. -/
theorem Spreads.exists_sendsFrom (h : r.Spreads known r')
    (hissues : r'.lsSequenceCnt ≠ r.lsSequenceCnt) (hfits : r.LsuFits)
    (hnumbers : r.HasTwoNumbers) (hpassed : r.OwnPassed) :
    ∃ t, r.SendsFrom r' t := by
  cases h with
  | relays hrelays =>
      exact absurd (congrArg Prod.fst hrelays.numbering) hissues
  | @originates t hbefore haddresses hafter =>
      have hroom := hbefore.hasNumbers hnumbers
      have hemits := (hpassed.of_keepsLsas hbefore).emitsRouterLsa hroom
      have hne : t.emitted ≠ [] :=
        List.ne_nil_of_mem (mem_emitted.mpr (Or.inr ⟨hemits, rfl⟩))
      refine ⟨t, hbefore, hroom, hbefore.lsuFits haddresses hfits, hemits,
        congrArg Prod.fst hafter.numbering, ?_⟩
      obtain ⟨before, hlog, -⟩ := hbefore.log
      obtain ⟨after, hlog', -⟩ := hafter.log
      rw [hlog', updateLsas_log hne, hlog, List.append_assoc,
        List.append_assoc, List.drop_left]
      simp

/-- A round of the ageing thread does not. -/
theorem exists_sendsFrom_of_stepAgeing {a : Step ⊕ Unit}
    (hbrings : ∀ step, a = .inl step → r.BringsKnown known step)
    (hr : r.stepAgeing a = .ok r')
    (hissues : r'.lsSequenceCnt ≠ r.lsSequenceCnt) (hfits : r.LsuFits)
    (hnumbers : r.HasTwoNumbers) (hpassed : r.OwnPassed) :
    ∃ t, r.SendsFrom r' t := by
  rcases a with step | _
  · exact (step_spreads (hbrings step rfl) hr).exists_sendsFrom
      hissues hfits hnumbers hpassed
  · have hcount := congrArg lsSequenceCnt (Except.ok.inj hr)
    exact absurd hcount.symm hissues

/-- Who learns the LSAs of `update_lsas` has the latest Router LSA. -/
theorem Learns.upToDate (h : r.Learns q q') (hemits : r.EmitsRouterLsa) :
    q'.UpToDate r.routerId r.updateLsas.lsSequenceCnt := by
  obtain ⟨hid, -, hseq⟩ := r.updateOwnNetworkLsa_fst
  have hown : OwnLsa.router r.updateOwnNetworkLsa.1.generateRouterLsa ∈
      r.emitted := mem_emitted.mpr (Or.inr ⟨hemits, rfl⟩)
  have hfind := h.own _ hown
  have htype : r.updateOwnNetworkLsa.1.generateRouterLsa.header.lsType =
      lsaRouter := rfl
  rw [LSDB.findLike, OwnLsa.header, if_pos htype] at hfind
  obtain ⟨lsa, hlsa, heq⟩ := Option.map_eq_some_iff.mp hfind
  have hlsSeqNum : lsa.header.lsSeqNum = r.routerLsaSeqNum := by
    have hheader := congrArg OwnLsa.header heq
    rw [OwnLsa.header_received] at hheader
    exact (congrArg LSAHeader.lsSeqNum hheader).trans hseq
  exact upToDate_of_find (hid ▸ hlsa) hlsSeqNum

/-- If the entry is an LSU of the sender, the router takes it in. -/
def AdmitsLsu (r : Router) (src : UInt32) : LogEntry → Prop
  | .sent dst bytes =>
      bytes[1]? = some typeLsu → r.Admits (ipDatagram src dst bytes)
  | _ => True

instance (r : Router) (src : UInt32) : DecidablePred (AdmitsLsu r src)
  | .sent _ _ => inferInstanceAs (Decidable (_ → _))
  | .raised _ _ => .isTrue trivial
  | .negotiated _ _ => .isTrue trivial
  | .accepted _ _ => .isTrue trivial

end Router

namespace Segment

variable {ι : Type} {seg : Segment ι} {net net' : Net ι} {i j : ι}
  {published : ι → Set OwnLsa}

/-- The first router has the Router LSA of the second as the second has it
itself, but for the age and the checksum. -/
def InStep (seg : Segment ι) (net : Net ι) (i j : ι) : Prop :=
  ∃ a ∈ (net.node i).lsdb.findRouterLsa (seg.routerId j) (seg.routerId j),
    ∃ b ∈ (net.node j).lsdb.findRouterLsa (seg.routerId j) (seg.routerId j),
      (OwnLsa.router a).content = (OwnLsa.router b).content

instance (seg : Segment ι) (net : Net ι) (i j : ι) :
    Decidable (seg.InStep net i j) :=
  inferInstanceAs (Decidable (∃ a ∈ (net.node i).lsdb.findRouterLsa _ _,
    ∃ b ∈ (net.node j).lsdb.findRouterLsa _ _, _))

/-- What is stored as a Router LSA says that it is one. -/
theorem Ledger.lsType_router {lsa : LSARouter} (h : seg.Ledger published net)
    (hstored : (net.node i).lsdb.Stores (.router lsa)) :
    lsa.header.lsType = lsaRouter := by
  obtain ⟨own, hown, heq⟩ := h.stored i _ hstored
  obtain ⟨k, hk⟩ := Set.mem_iUnion.mp hown
  have hconsistent := h.consistent k own hk
  obtain ⟨⟨htype, -⟩, -⟩ := OwnLsa.header_eq_of_content heq
  cases own with
  | router own => exact htype.trans hconsistent.1
  | network own => cases heq

/-- What is found under the key of a router. -/
theorem Ledger.found {lsa : LSARouter} (h : seg.Ledger published net)
    (hid : Function.Injective seg.routerId)
    (hlsa : (net.node i).lsdb.findRouterLsa (seg.routerId j)
      (seg.routerId j) = some lsa) :
    (net.node i).lsdb.Stores (.router lsa) ∧
      lsa.header.lsType = lsaRouter ∧
      lsa.header.advertisingRouter = seg.routerId j ∧
      lsa.header.lsSeqNum < (net.node j).lsSequenceCnt ∧
      (net.node j).UpToDate (seg.routerId j) (net.node j).lsSequenceCnt := by
  have hkey := @KeyedList.key_of_lookup _ _ _ LSARouter.key _ _ _ hlsa
  have hadv : lsa.header.advertisingRouter = seg.routerId j :=
    congrArg Prod.snd hkey
  have hstored : (net.node i).lsdb.Stores (.router lsa) :=
    List.mem_of_find?_eq_some hlsa
  obtain ⟨k, own, hown, -, hkey', -⟩ := h.exists_published hstored
  obtain rfl := eq_of_hasOwnKey hid hkey' hadv
  refine ⟨hstored, h.lsType_router hstored, hadv,
    h.lsSeqNum_lt hid hstored hadv, ?_⟩
  rcases h.latest hid k with hnone | hlatest
  · rw [hnone] at hown
    exact absurd hown (Set.notMem_empty _)
  · exact hlatest

/-- Being in step is a matter of sequence numbers. -/
theorem Ledger.inStep_iff (h : seg.Ledger published net)
    (hid : Function.Injective seg.routerId) (i j : ι) :
    seg.InStep net i j ↔ (net.node i).UpToDate (seg.routerId j)
      (net.node j).lsSequenceCnt := by
  constructor
  · rintro ⟨a, ha, b, hb, heq⟩
    obtain ⟨-, -, -, -, b', hb', hcount⟩ := h.found hid hb
    rw [hb', Option.mem_some] at hb
    subst hb
    have hseq : a.header.lsSeqNum = b'.header.lsSeqNum :=
      (OwnLsa.header_eq_of_content heq).2
    exact ⟨a, ha, hseq ▸ hcount⟩
  · rintro ⟨a, ha, hcount⟩
    obtain ⟨hstored, htype, hadv, hlt, b, hb, hcount'⟩ := h.found hid ha
    obtain ⟨hstored', htype', hadv', hlt', -⟩ := h.found hid hb
    rw [UInt32.lt_iff_toNat_lt] at hlt hlt'
    have hseq : a.header.lsSeqNum = b.header.lsSeqNum :=
      UInt32.toNat_inj.mp (by omega)
    exact ⟨a, ha, b, hb, h.content_eq hid hstored hstored'
      (htype.trans htype'.symm) (hadv.trans hadv'.symm) hseq⟩

/-- What is in the log of a router can be taken in. -/
theorem closed_of_log {now : ℤ} {dst : UInt32} {bytes : List UInt8}
    {packet : Memory} (h : .sent dst bytes ∈ (net.node j).log)
    (hconveys : Conveys packet (seg.address j) dst bytes) :
    seg.Closed net (.act i (.inl (.frame now packet))) :=
  fun _ => ⟨j, dst, bytes, h, hconveys⟩

section Runs

variable [DecidableEq ι]

theorem nextAgeing_frame {now : ℤ} {packet : Memory} {q : Router}
    (h : (net.node i).recvOspfPacket now packet = .ok q) :
    nextAgeing net (.act i (.inl (.frame now packet))) =
      .ok (net.move i q) := by
  rw [nextAgeing, Network.next, Router.stepAgeing, Router.step, h,
    Outcome.map_ok]

/-! ## Staying in step -/

/-- Nobody loses a Router LSA. -/
theorem routersGrow_nextAgeing {e : AgeingEvent ι}
    (hnext : nextAgeing net e = .ok net') (i : ι) :
    (net.node i).lsdb.RoutersGrow (net'.node i).lsdb := by
  rcases Network.node_next hnext i with hsame | ⟨a, ha⟩
  · rw [hsame]
    exact LSDB.routersGrow_refl _
  · exact Router.stepAgeing_routersGrow ha

variable [Fintype ι]

/-- Routers that are in step stay in step, whatever is sent, delayed, repeated
or lost, until the router in question issues another LSA. -/
theorem inStep_of_run {es es' : List (AgeingEvent ι)}
    (hid : Function.Injective seg.routerId) (hfits : seg.LsusFit)
    (hlength : (es ++ es').length ≤ 10 ^ 9)
    (hclosed : Along nextAgeing seg.Closed seg.start (es ++ es'))
    (hrun : runFrom nextAgeing seg.start es = .ok net)
    (hrun' : runFrom nextAgeing net es' = .ok net')
    (hcount : (net'.node j).lsSequenceCnt = (net.node j).lsSequenceCnt)
    (h : seg.InStep net i j) : seg.InStep net' i j := by
  obtain ⟨hbefore, hafter⟩ := along_append.mp hclosed
  have hwhole : runFrom nextAgeing seg.start (es ++ es') = .ok net' := by
    rw [runFrom_append, hrun]
    exact hrun'
  rw [List.length_append] at hlength
  obtain ⟨_, hledger, -⟩ := ledger_of_run hfits (by omega) hbefore hrun
  obtain ⟨_, hledger', -⟩ := ledger_of_run hfits
    (by rw [List.length_append]; exact hlength) hclosed hwhole
  have hgrows : (net.node i).lsdb.RoutersGrow (net'.node i).lsdb :=
    runFrom_invariant (I := fun t : Net ι =>
        (net.node i).lsdb.RoutersGrow (t.node i).lsdb)
      (fun t e t' ht _ hnext => ht.trans (routersGrow_nextAgeing hnext i))
      (LSDB.routersGrow_refl _) (hafter net hrun) hrun'
  rw [hledger.inStep_iff hid] at h
  rw [hledger'.inStep_iff hid, hcount]
  exact h.grow hgrows

/-- When the two are in step, the smaller one takes in the LSU again. -/
theorem inStep_of_run_pair :
    ∃ net net' : Net Bool, pair.InStep net false true ∧
      Reaches nextAgeing pair.Closed net net' ∧
      pair.InStep net' false true := by
  have hperform : ∃ net, pair.perform pair.start pairCues = .ok net ∧
      pair.InStep net false true ∧
      (pair.perform net
        [.take false true 3, .own true (.timers 0)]).completesWith fun net' =>
          (net'.node true).lsSequenceCnt = (net.node true).lsSequenceCnt :=
    Outcome.exists_of_completesWith (by decide +kernel)
  obtain ⟨net, hnet, hinStep, hrepeats⟩ := hperform
  obtain ⟨net', hnet', hcount⟩ := Outcome.exists_of_completesWith hrepeats
  obtain ⟨es, hlength, halong, hrun⟩ := exists_run_of_perform hnet
  obtain ⟨es', hlength', halong', hrun'⟩ := exists_run_of_perform hnet'
  have htotal : (es ++ es').length ≤ 10 ^ 9 := by
    rw [List.length_append, hlength, hlength']
    decide
  exact ⟨net, net', hinStep, ⟨es', halong', hrun'⟩,
    inStep_of_run pair_routerId_injective pair_lsusFit htotal
      (along_append_of_run halong hrun halong') hrun hrun' hcount hinStep⟩

/-! ## Getting in step -/

/-- Whenever an event makes a router issue LSAs, the router has sent an LSU, and
every router that knows it as a neighbor is in step with it when it has taken in
that LSU next. -/
theorem delivered_of_run {es : List (AgeingEvent ι)} {e : AgeingEvent ι}
    (hid : Function.Injective seg.routerId) (hfits : seg.LsusFit)
    (hlength : es.length + 2 ≤ 10 ^ 9)
    (hclosed : Along nextAgeing seg.Closed seg.start (es ++ [e]))
    (hrun : runFrom nextAgeing seg.start es = .ok net)
    (hnext : nextAgeing net e = .ok net')
    (hissues : (net'.node j).lsSequenceCnt ≠ (net.node j).lsSequenceCnt) :
    ∃ dst bytes,
      .sent dst bytes ∈ (net'.node j).log.drop (net.node j).log.length ∧
      bytes[1]? = some typeLsu ∧
      ∀ i now packet, (net'.node i).findNeighbor (seg.address j) ≠ none →
        Conveys packet (seg.address j) dst bytes →
        (net'.node i).Admits packet →
        ∃ net'', nextAgeing net' (.act i (.inl (.frame now packet))) =
            .ok net'' ∧ seg.InStep net'' i j := by
  obtain ⟨hbefore, hlast⟩ := along_append.mp hclosed
  obtain ⟨published, hledger, hnumbers⟩ :=
    ledger_of_run hfits (by omega) hbefore hrun
  have hmoves : net'.node j ≠ net.node j :=
    fun hsame => hissues (congrArg Router.lsSequenceCnt hsame)
  have hclosed₁ := (hlast net hrun).1
  obtain ⟨a, hbrings, hr⟩ := hledger.moves hclosed₁ hnext hmoves
  obtain ⟨t, ht⟩ := Router.exists_sendsFrom_of_stepAgeing hbrings hr
    hissues (hledger.lsuFits hfits j) (hnumbers j) (hledger.ownPassed hid j)
  obtain ⟨-, hrouterId, haddress⟩ := hledger.identity ht.keeps
  have hlsu : t.ownLsu[1]? = some typeLsu := by
    rw [Router.ownLsu, Router.ospfPacket_type]
  refine ⟨t.segmentAddress, t.ownLsu, ht.log, hlsu, ?_⟩
  intro i now packet hknows hconveys hadmits
  have hij :=
    (hledger.orderly.next hclosed₁ hnext).ne_of_admits hconveys hadmits
  have hnode := Network.node_next_of_ne hnext hmoves hij
  obtain ⟨peer, hpeer⟩ := Option.ne_none_iff_exists'.mp hknows
  have hold := hledger.olderThan hid ht.keeps ht.numbers i
  rw [← hnode] at hold
  have hwithin := @closed_of_log _ seg net' i j now _ _ _
    (List.mem_of_mem_drop ht.log) hconveys
  rw [← haddress] at hpeer hconveys
  obtain ⟨q, hq, hlearns⟩ :=
    Router.exists_learns ht.fits.length_le hpeer hold hconveys hadmits now
  have htake := nextAgeing_frame hq
  have hrun' := runFrom_concat hrun hnext
  have hclosed' := along_concat hclosed hrun' hwithin
  have hrun'' := runFrom_concat hrun' htake
  obtain ⟨_, hledger', -⟩ := ledger_of_run hfits
    (by simp only [List.length_append, List.length_singleton]; omega)
    hclosed' hrun''
  refine ⟨_, htake, (hledger'.inStep_iff hid i j).mpr ?_⟩
  rw [Network.move_node_self, Network.move_node_of_ne _ _ (Ne.symm hij),
    ht.counter, ← hrouterId]
  exact hlearns.upToDate ht.emits

end Runs

/-- The router with the larger address becomes FULL and issues its LSAs. -/
theorem delivered_of_run_pair :
    ∃ net net' : Net Bool, ¬pair.InStep net false true ∧
      Reaches nextAgeing pair.Closed net net' ∧
      pair.InStep net' false true := by
  have hperform : ∃ net,
      pair.perform pair.start (pairCues.take 17) = .ok net ∧
      (pair.perform net [.take true false 3]).completesWith fun net' =>
        (net'.node true).lsSequenceCnt ≠ (net.node true).lsSequenceCnt ∧
        ¬pair.InStep net' false true ∧
        (net'.node false).findNeighbor (pair.address true) ≠ none ∧
        ∀ entry ∈ (net'.node true).log.drop (net.node true).log.length,
          (net'.node false).AdmitsLsu (pair.address true) entry :=
    Outcome.exists_of_completesWith (by decide +kernel)
  obtain ⟨net, hnet, hlast⟩ := hperform
  obtain ⟨net', hnet', hissues, hout, hknows, hadmits⟩ :=
    Outcome.exists_of_completesWith hlast
  obtain ⟨es, hlength, halong, hrun⟩ := exists_run_of_perform hnet
  obtain ⟨es', hlength', halong', hrun'⟩ := exists_run_of_perform hnet'
  obtain ⟨e, rfl⟩ := List.length_eq_one_iff.mp hlength'
  obtain ⟨dst, bytes, hsent, hlsu, hdelivered⟩ :=
    delivered_of_run (j := true) pair_routerId_injective pair_lsusFit
      (by rw [hlength]; decide) (along_append_of_run halong hrun halong') hrun
      (runFrom_singleton.mp hrun') hissues
  have hconveys := conveys_ipDatagram (pair.address true) dst bytes
  obtain ⟨net'', hnext, hinStep⟩ := hdelivered false 0 _ hknows hconveys
    (hadmits _ hsent hlsu)
  exact ⟨net', net'', hout, (reaches_refl net').next
    (closed_of_log (List.mem_of_mem_drop hsent) hconveys) hnext, hinStep⟩

end Segment
end OspfLite
