import OspfLite.Lib.Publications
import OspfLite.Router.Delivery
import OspfLite.Router.Issuing
import OspfLite.Segment.Closed

/-!
# The LSAs of a segment

On a segment that is left to itself every LSA in a database is a copy of one
that a router has put on the wire, and the sequence numbers tell the LSAs of a
router apart.
-/

namespace OspfLite
namespace Segment

variable {ι : Type} {seg : Segment ι} {net net' : Net ι} {i j : ι}
  {r r' : Router} {published : ι → Set OwnLsa} {news : Set OwnLsa}
  {lsa own : OwnLsa}

/-! ## The ledger -/

/-- What the routers have published, and that all LSAs on the segment are from
there. -/
structure Ledger (seg : Segment ι) (published : ι → Set OwnLsa)
    (net : Net ι) : Prop where
  orderly : seg.Orderly net
  interfaces : ∀ i, (net.node i).interfaces.length =
    (seg.router i).interfaces.length
  numbered : Numbered (fun own : OwnLsa => own.header.lsType)
    (fun own => own.header.lsSeqNum.toNat)
    (fun i => (net.node i).lsSequenceCnt.toNat) published
  consistent : ∀ i, ∀ own ∈ published i, own.Consistent
  key : ∀ i, ∀ own ∈ published i, (seg.router i).HasOwnKey own.header
  sent : ∀ i, ∀ own ∈ published i, (net.node i).HasSent own
  stored : ∀ i lsa, (net.node i).lsdb.Stores lsa →
    ∃ own ∈ ⋃ j, published j, lsa.content = own.content
  carried : ∀ i dst bytes, .sent dst bytes ∈ (net.node i).log →
    bytes[1]? = some typeLsu →
      Router.CarriesOnly (⋃ j, published j) bytes
  latest : Function.Injective seg.routerId → ∀ i, published i = ∅ ∨
    (net.node i).UpToDate (seg.routerId i) (net.node i).lsSequenceCnt

theorem start_ledger (seg : Segment ι) :
    seg.Ledger (fun _ => ∅) seg.start where
  orderly := start_orderly seg
  interfaces := fun _ => rfl
  numbered := .none _ _ _
  consistent := fun _ _ h => absurd h (Set.notMem_empty _)
  key := fun _ _ h => absurd h (Set.notMem_empty _)
  sent := fun _ _ h => absurd h (Set.notMem_empty _)
  stored := by
    intro i lsa h
    cases lsa with
    | router lsa => cases h
    | network lsa => cases h
  carried := fun _ _ _ h => absurd h List.not_mem_nil
  latest := fun _ _ => Or.inl rfl

/-- The router a key belongs to. -/
theorem routerId_of_hasOwnKey {header : LSAHeader}
    (h : (seg.router j).HasOwnKey header) :
    header.advertisingRouter = seg.routerId j := by
  rcases h with ⟨-, hkey⟩ | ⟨-, hkey⟩
  · exact congrArg Prod.snd hkey
  · exact congrArg Prod.snd hkey

theorem eq_of_hasOwnKey (hid : Function.Injective seg.routerId)
    {header : LSAHeader} (h : (seg.router i).HasOwnKey header)
    (hadv : header.advertisingRouter = seg.routerId j) : i = j := by
  apply hid
  rw [← routerId_of_hasOwnKey h, hadv]

/-- Every router has its own keys. -/
theorem Ledger.hasOwnKey_iff (h : seg.Ledger published net) (i : ι)
    (header : LSAHeader) :
    (net.node i).HasOwnKey header ↔ (seg.router i).HasOwnKey header := by
  have hsame := (h.orderly.sound.node i).same
  have hid : (net.node i).routerId = (seg.router i).routerId := hsame.routerId
  have haddress : (net.node i).interface.ipInterfaceAddress =
      (seg.router i).interface.ipInterfaceAddress := hsame.interface.address
  rw [Router.HasOwnKey, Router.HasOwnKey, hid, haddress]

/-! ## What the ledger tells -/

/-- A copy in a database, and the router that has published the LSA. -/
theorem Ledger.exists_published (h : seg.Ledger published net)
    (hstored : (net.node i).lsdb.Stores lsa) :
    ∃ j, ∃ own ∈ published j, lsa.content = own.content ∧
      (seg.router j).HasOwnKey lsa.header ∧
      lsa.header.lsSeqNum < (net.node j).lsSequenceCnt := by
  obtain ⟨own, hown, heq⟩ := h.stored i lsa hstored
  obtain ⟨j, hj⟩ := Set.mem_iUnion.mp hown
  obtain ⟨⟨htype, hid, hadv⟩, hseq⟩ := OwnLsa.header_eq_of_content heq
  refine ⟨j, own, hj, heq, ?_, ?_⟩
  · have hkey := h.key j own hj
    rw [Router.HasOwnKey, LSAHeader.key] at hkey ⊢
    rwa [htype, hid, hadv]
  · rw [hseq, UInt32.lt_iff_toNat_lt]
    exact h.numbered.lt j own hj

/-- No database holds an LSA of a router with a number that is still to
come. -/
theorem Ledger.lsSeqNum_lt (h : seg.Ledger published net)
    (hid : Function.Injective seg.routerId)
    (hstored : (net.node i).lsdb.Stores lsa)
    (hadv : lsa.header.advertisingRouter = seg.routerId j) :
    lsa.header.lsSeqNum < (net.node j).lsSequenceCnt := by
  obtain ⟨k, own, hown, -, hkey, hlt⟩ := h.exists_published hstored
  exact eq_of_hasOwnKey hid hkey hadv ▸ hlt

/-- Two instances with one number are copies of one LSA. -/
theorem Ledger.content_eq {a b : OwnLsa} (h : seg.Ledger published net)
    (hid : Function.Injective seg.routerId)
    (ha : (net.node i).lsdb.Stores a) (hb : (net.node j).lsdb.Stores b)
    (htype : a.header.lsType = b.header.lsType)
    (hadv : a.header.advertisingRouter = b.header.advertisingRouter)
    (hseq : a.header.lsSeqNum = b.header.lsSeqNum) :
    a.content = b.content := by
  obtain ⟨k, own, hown, heq, hkey, -⟩ := h.exists_published ha
  obtain ⟨l, own', hown', heq', hkey', -⟩ := h.exists_published hb
  obtain rfl := eq_of_hasOwnKey hid hkey
    (hadv.trans (routerId_of_hasOwnKey hkey'))
  obtain ⟨⟨htype₁, -⟩, hseq₁⟩ := OwnLsa.header_eq_of_content heq
  obtain ⟨⟨htype₂, -⟩, hseq₂⟩ := OwnLsa.header_eq_of_content heq'
  have hone : own = own' := by
    apply h.numbered.unique k own hown own' hown'
    · rw [← htype₁, ← htype₂, htype]
    · rw [← hseq₁, ← hseq₂, hseq]
  rw [heq, heq', hone]

/-- The counter of a router has passed its LSAs in its own database. -/
theorem Ledger.ownPassed (h : seg.Ledger published net)
    (hid : Function.Injective seg.routerId) (i : ι) :
    (net.node i).OwnPassed := by
  intro lsa hlsa hadv
  apply h.lsSeqNum_lt hid hlsa
  rw [hadv]
  exact (h.orderly.sound.node i).same.routerId

/-- A router that keeps its LSAs keeps its counter and what its keys are made
of. -/
theorem Ledger.identity {t : Router} (h : seg.Ledger published net)
    (ht : (net.node j).KeepsLsas t) :
    t.lsSequenceCnt = (net.node j).lsSequenceCnt ∧
      t.routerId = seg.routerId j ∧
      t.interface.ipInterfaceAddress = seg.address j := by
  have hnumbering := ht.numbering
  simp only [Router.numbering, Prod.mk.injEq] at hnumbering
  obtain ⟨hcount, hrouterId, haddress⟩ := hnumbering
  have hsame := (h.orderly.sound.node j).same
  exact ⟨hcount, hrouterId.trans hsame.routerId,
    haddress.trans (address_of_same hsame)⟩

/-- Everybody holds older instances of what a router is about to send. -/
theorem Ledger.olderThan {t : Router} (h : seg.Ledger published net)
    (hid : Function.Injective seg.routerId) (ht : (net.node j).KeepsLsas t)
    (hnumbers : t.HasNumbers) (i : ι) : (net.node i).OlderThan t := by
  obtain ⟨hcount, hrouterId, haddress⟩ := h.identity ht
  intro own hown header hheader
  rw [LSDB.findInstance_eq] at hheader
  obtain ⟨lsa, hlsa, rfl⟩ := Option.map_eq_some_iff.mp hheader
  obtain ⟨hstored, hkey⟩ := LSDB.findLike_spec hlsa
  have hown' : (seg.router j).HasOwnKey own.header := by
    have hkey' := Router.hasOwnKey_of_emitted hown
    rw [Router.HasOwnKey, hrouterId, haddress] at hkey'
    exact hkey'
  have hadv : lsa.header.advertisingRouter = seg.routerId j :=
    (congrArg Prod.snd hkey).trans (routerId_of_hasOwnKey hown')
  have hpassed := h.lsSeqNum_lt hid hstored hadv
  rw [← hcount] at hpassed
  exact UInt32.lt_of_lt_of_le hpassed
    (Router.lsSeqNum_of_emitted hnumbers hown).1

/-! ## Steps -/

/-- What has been published stays published. -/
theorem iUnion_subset_publish (published : ι → Set OwnLsa) (i : ι)
    (news : Set OwnLsa) :
    (⋃ j, published j) ∪ news ⊆ ⋃ j, publish published i news j := by
  rintro own (hold | hnew)
  · obtain ⟨j, hj⟩ := Set.mem_iUnion.mp hold
    exact Set.mem_iUnion.mpr ⟨j, Or.inl hj⟩
  · exact Set.mem_iUnion.mpr ⟨i, Or.inr ⟨rfl, hnew⟩⟩

/-- Nobody moves. -/
theorem Ledger.congr (h : seg.Ledger published net)
    (horderly : seg.Orderly net')
    (hsame : ∀ i, net'.node i = net.node i) : seg.Ledger published net' where
  orderly := horderly
  interfaces := by simpa only [hsame] using h.interfaces
  numbered := by simpa only [hsame] using h.numbered
  consistent := h.consistent
  key := h.key
  sent := by simpa only [hsame] using h.sent
  stored := by simpa only [hsame] using h.stored
  carried := by simpa only [hsame] using h.carried
  latest := by simpa only [hsame] using h.latest

/-- A router issues LSAs: they are entered in the ledger. -/
theorem Ledger.move (h : seg.Ledger published net)
    (hissues : (net.node i).Issues (⋃ j, published j) news r)
    (hgrows : (net.node i).lsdb.RoutersGrow r.lsdb)
    (horderly : seg.Orderly net') (hnode : net'.node i = r)
    (hothers : ∀ j, j ≠ i → net'.node j = net.node j) :
    seg.Ledger (publish published i news) net' := by
  have hsub := iUnion_subset_publish published i news
  obtain ⟨entries, hlog, hcarries⟩ := hissues.log
  subst hnode
  have hlogs : ∀ j, (net.node j).log ⊆ (net'.node j).log := by
    intro j
    by_cases hj : j = i
    · rw [hj, hlog]
      exact List.subset_append_left _ _
    · rw [hothers j hj]
      exact List.Subset.refl _
  refine ⟨horderly, fun j => ?_, ?_, ?_, ?_, ?_, fun j lsa hlsa => ?_,
    fun j dst bytes hmem htype => ?_, fun hid j => ?_⟩
  · by_cases hj : j = i
    · rw [hj, hissues.interfaces]
      exact h.interfaces i
    · rw [hothers j hj]
      exact h.interfaces j
  · refine h.numbered.publish (fun j => ?_) (fun own hown => ?_)
      hissues.kinds
    · by_cases hj : j = i
      · rw [hj]
        exact UInt32.le_iff_toNat_le.mp hissues.counter.1
      · rw [hothers j hj]
    · obtain ⟨hge, hlt⟩ := hissues.number own hown
      exact ⟨UInt32.le_iff_toNat_le.mp hge, UInt32.lt_iff_toNat_lt.mp hlt⟩
  · rintro j own (hold | ⟨rfl, hnew⟩)
    · exact h.consistent j own hold
    · exact hissues.consistent own hnew
  · rintro j own (hold | ⟨rfl, hnew⟩)
    · exact h.key j own hold
    · exact (h.hasOwnKey_iff j _).mp (hissues.key own hnew)
  · rintro j own (hold | ⟨rfl, hnew⟩)
    · exact (h.sent j own hold).mono (hlogs j)
    · exact hissues.sent own hnew
  · by_cases hj : j = i
    · subst hj
      rcases hissues.stored lsa hlsa with hold | ⟨own, hown, heq⟩
      · obtain ⟨own, hown, heq⟩ := h.stored j lsa hold
        exact ⟨own, hsub (Or.inl hown), heq⟩
      · exact ⟨own, hsub hown, heq⟩
    · rw [hothers j hj] at hlsa
      obtain ⟨own, hown, heq⟩ := h.stored j lsa hlsa
      exact ⟨own, hsub (Or.inl hown), heq⟩
  · have hold : .sent dst bytes ∈ (net.node j).log →
        Router.CarriesOnly (⋃ j, publish published i news j) bytes :=
      fun hmem => (h.carried j dst bytes hmem htype).mono
        fun own hown => hsub (Or.inl hown)
    by_cases hj : j = i
    · subst hj
      rw [hlog] at hmem
      rcases List.mem_append.mp hmem with hbefore | hnew
      · exact hold hbefore
      · exact (hcarries dst bytes hnew htype).mono hsub
    · rw [hothers j hj] at hmem
      exact hold hmem
  · by_cases hj : j = i
    · subst hj
      have hrouterId : (net'.node j).routerId = seg.routerId j :=
        (horderly.sound.node j).same.routerId
      rw [← hrouterId]
      rcases hissues.latest (h.ownPassed hid j) with ⟨rfl, hcount⟩ | hlatest
      · rw [publish_empty, hcount, hrouterId]
        exact (h.latest hid j).imp_right fun hold => hold.grow hgrows
      · exact Or.inr hlatest
    · rw [publish_of_ne hj, hothers j hj]
      exact h.latest hid j

/-- The LSUs that are taken in bring published LSAs only. -/
theorem Ledger.bringsKnown {now : ℤ} {packet : Memory}
    (h : seg.Ledger published net)
    (hwithin : seg.FromWithin net i (.inl (.frame now packet))) :
    (net.node i).BringsKnown (fun _ own => own ∈ ⋃ j, published j)
      (.frame now packet) := by
  intro hadmits
  obtain ⟨j, dst, bytes, hsent, hconveys⟩ := hwithin hadmits
  refine ⟨(h.orderly.type_of_sent hsent hconveys).2, fun htype data hdata => ?_⟩
  have hlsu : bytes[1]? = some typeLsu := by
    obtain ⟨inter, -, type, body, rfl, -⟩ := h.orderly.logged j dst bytes hsent
    rw [Router.ospfPacket_type, ← Router.type_of_conveys hconveys, htype]
  obtain ⟨t, auType, delay, lsas, hcount, hknown, rfl⟩ :=
    h.carried j dst bytes hsent hlsu
  have hconsistent : ∀ own ∈ lsas, own.Consistent := by
    intro own hown
    obtain ⟨k, hk⟩ := Set.mem_iUnion.mp (hknown own hown)
    exact h.consistent k own hk
  have hlengths : ∀ bytes ∈ lsas.map (OwnLsa.wire delay),
      Router.LengthCounts bytes := by
    intro bytes hbytes
    obtain ⟨own, hown, rfl⟩ := List.mem_map.mp hbytes
    exact (hconsistent own hown).lengthCounts delay
  have hvisits := Router.lsuPointers_of_conveys hlengths
    (by rw [List.length_map]; omega) hconveys
  rw [List.forall₂_map_right_iff] at hvisits
  obtain ⟨own, hown, hstarts⟩ := exists_mem_of_forall₂ hvisits hdata
  exact ⟨delay, own, hconsistent own hown, hknown own hown, hstarts⟩

/-- A Hello brings none. -/
theorem bringsKnown_of_brings {m : Router} {known : UInt32 → OwnLsa → Prop}
    {now : ℤ} {packet : Memory} (h : Brings m (.frame now packet))
    (r : Router) : r.BringsKnown known (.frame now packet) := by
  have htype : packet 21 = typeHello := Router.type_of_conveys_hello h
  intro _
  rw [htype]
  exact ⟨by decide, fun h => absurd h (by decide)⟩

/-- The LSUs of the routers fit their buffers, whoever is FULL. -/
def LsusFit [Fintype ι] (seg : Segment ι) : Prop :=
  ∀ i, 4 * Fintype.card ι + 12 * (seg.loopbacks i).length ≤ 964

theorem Ledger.lsuFits [Fintype ι] (h : seg.Ledger published net)
    (hfits : seg.LsusFit) (i : ι) : (net.node i).LsuFits := by
  have hlength := (h.orderly.sound.node i).length_neighbors_lt
  have hinterfaces : (seg.router i).interfaces.length =
      (seg.loopbacks i).length + 1 := by
    simp [router, Router.boot, Router.start, Router.new, Router.interfaces]
  have hroom := hfits i
  rw [Router.LsuFits, h.interfaces i, hinterfaces, Router.lsuBufferSize]
  omega

/-- A step of a router, or a round of its ageing thread. -/
theorem Ledger.issues [Fintype ι] {a : Router.Step ⊕ Unit}
    (h : seg.Ledger published net) (hfits : seg.LsusFit)
    (hnumbers : (net.node i).HasTwoNumbers)
    (hbrings : ∀ step, a = .inl step → (net.node i).BringsKnown
      (fun _ own => own ∈ ⋃ j, published j) step)
    (hr : (net.node i).stepAgeing a = .ok r) :
    ∃ news, (net.node i).Issues (⋃ j, published j) news r := by
  rcases a with step | _
  · exact (Router.step_spreads (hbrings step rfl) hr).issues
      (h.lsuFits hfits i) hnumbers
  · rw [Router.stepAgeing, Except.ok.injEq] at hr
    exact ⟨∅, hr ▸ Router.tick_issues _ (h.stored i)⟩

section Runs

variable [DecidableEq ι]

/-- What an event does to the sequence counters. -/
def Counts (net net' : Net ι) : Prop :=
  ∀ i, (net'.node i).lsSequenceCnt.toNat ≤
    (net.node i).lsSequenceCnt.toNat + 2

/-- What a router takes in when it moves. -/
theorem Ledger.moves {e : AgeingEvent ι} (h : seg.Ledger published net)
    (hclosed : seg.Closed net e) (hnext : nextAgeing net e = .ok net')
    (hne : net'.node i ≠ net.node i) :
    ∃ a : Router.Step ⊕ Unit,
      (∀ step, a = .inl step → (net.node i).BringsKnown
        (fun _ own => own ∈ ⋃ j, published j) step) ∧
      (net.node i).stepAgeing a = .ok (net'.node i) := by
  cases e with
  | send =>
      rw [nextAgeing, Network.next, Except.ok.injEq] at hnext
      exact absurd (hnext ▸ rfl) hne
  | act k a =>
      obtain ⟨rfl, hr⟩ := Network.step_of_act hnext hne
      refine ⟨a, fun step hstep => ?_, hr⟩
      subst hstep
      cases step with
      | frame now packet => exact h.bringsKnown hclosed
      | _ => trivial
  | hear k _ _ a =>
      obtain ⟨rfl, hr⟩ := Network.step_of_hear hnext hne
      obtain ⟨m, -, hbrings⟩ := hclosed
      refine ⟨a, fun step hstep => ?_, hr⟩
      subst hstep
      cases step with
      | frame now packet => exact bringsKnown_of_brings hbrings _
      | _ => trivial

/-- An event keeps a ledger. -/
theorem Ledger.next [Fintype ι] {e : AgeingEvent ι}
    (h : seg.Ledger published net) (hfits : seg.LsusFit)
    (hnumbers : ∀ i, (net.node i).HasTwoNumbers)
    (hclosed : seg.Closed net e) (hnext : nextAgeing net e = .ok net') :
    ∃ published', seg.Ledger published' net' ∧ Counts net net' := by
  have horderly := h.orderly.next hclosed hnext
  by_cases hmoves : ∃ i, net'.node i ≠ net.node i
  · obtain ⟨i, hi⟩ := hmoves
    obtain ⟨a, hbrings, hr⟩ := h.moves hclosed hnext hi
    obtain ⟨news, hissues⟩ := h.issues hfits (hnumbers i) hbrings hr
    have hothers : ∀ j, j ≠ i → net'.node j = net.node j :=
      fun j hj => Network.node_next_of_ne hnext hi hj
    refine ⟨_, h.move hissues (Router.stepAgeing_routersGrow hr) horderly rfl
      hothers, fun j => ?_⟩
    by_cases hj : j = i
    · subst hj
      exact hissues.counter.2
    · rw [hothers j hj]
      exact Nat.le_add_right _ 2
  · push Not at hmoves
    refine ⟨published, h.congr horderly hmoves, fun i => ?_⟩
    rw [hmoves i]
    exact Nat.le_add_right _ 2

/-- In a run of a billion events no sequence counter overflows. -/
theorem ledger_of_run [Fintype ι] {es : List (AgeingEvent ι)}
    (hfits : seg.LsusFit) (hlength : es.length ≤ 10 ^ 9)
    (hclosed : Along nextAgeing seg.Closed seg.start es)
    (hrun : runFrom nextAgeing seg.start es = .ok net) :
    ∃ published, seg.Ledger published net ∧
      ∀ i, (net.node i).HasTwoNumbers := by
  have hstart : initialSequenceNumber.toNat = 2147483649 := rfl
  have hcounted := runFrom_counted (k := 0)
    (I := fun k (net : Net ι) => k ≤ 10 ^ 9 → ∃ published,
      seg.Ledger published net ∧
        ∀ i, (net.node i).lsSequenceCnt.toNat ≤
          initialSequenceNumber.toNat + 2 * k)
    (fun k net e net' hinv hP hnext hk => ?_)
    (fun _ => ⟨_, start_ledger seg, fun i => le_rfl⟩) hclosed hrun
  · rw [Nat.zero_add] at hcounted
    obtain ⟨published, hledger, hcount⟩ := hcounted hlength
    refine ⟨published, hledger, fun i => ?_⟩
    have hle := hcount i
    rw [Router.HasTwoNumbers]
    omega
  · obtain ⟨published, hledger, hcount⟩ := hinv (by omega)
    have hnumbers : ∀ i, (net.node i).HasTwoNumbers := by
      intro i
      have hle := hcount i
      rw [Router.HasTwoNumbers]
      omega
    obtain ⟨published', hledger', hcounts⟩ :=
      hledger.next hfits hnumbers hP hnext
    refine ⟨published', hledger', fun i => ?_⟩
    have hle := hcount i
    have hstep := hcounts i
    omega

/-! ## Runs of two routers -/

/-- The two routers become FULL, and the one with the smaller address takes in
the LSU of the other one. -/
def pairCues : List (Cue Bool) :=
  [.say false, .hear true false 0, .say true, .hear false true 0,
    .say false, .hear true false 1,
    .own true .waitingTimeout, .own true (.timers 0),
    .own false .waitingTimeout, .own false (.timers 0),
    .say true, .hear false true 1, .say false, .hear true false 2,
    .own true (.emptyDd 0x0A000001), .own false (.emptyDd 0x0A000002),
    .take false true 0, .take true false 3, .take false true 4,
    .take false true 3]

theorem exists_copies_pair :
    ∃ es net, es.length ≤ 10 ^ 9 ∧
      Along nextAgeing pair.Closed pair.start es ∧
      runFrom nextAgeing pair.start es = .ok net ∧
      ∃ a ∈ (net.node false).lsdb.routerLsas,
        ∃ b ∈ (net.node true).lsdb.routerLsas,
          a.header.advertisingRouter = pair.routerId true ∧
            b.header.advertisingRouter = pair.routerId true ∧
            a.header.lsType = b.header.lsType ∧
            a.header.lsSeqNum = b.header.lsSeqNum := by
  have hperform : ∃ net, pair.perform pair.start pairCues = .ok net ∧
      ∃ a ∈ (net.node false).lsdb.routerLsas,
        ∃ b ∈ (net.node true).lsdb.routerLsas,
          a.header.advertisingRouter = pair.routerId true ∧
            b.header.advertisingRouter = pair.routerId true ∧
            a.header.lsType = b.header.lsType ∧
            a.header.lsSeqNum = b.header.lsSeqNum :=
    Outcome.exists_of_completesWith (by decide +kernel)
  obtain ⟨net, hnet, hcopies⟩ := hperform
  obtain ⟨es, hlength, halong, hrun⟩ := exists_run_of_perform hnet
  exact ⟨es, net, hlength ▸ by decide, halong, hrun, hcopies⟩

theorem pair_lsusFit : pair.LsusFit := by
  intro i
  decide +revert

theorem pair_routerId_injective : Function.Injective pair.routerId := by
  intro a b
  revert a b
  decide

/-! ## What is stored -/

/-- In every run, every LSA in a database is a copy of one that the router it
names has sent in an LSU of `update_lsas`, under a key of that router and with
a sequence number that its counter has passed. -/
theorem authentic_of_run [Fintype ι] {es : List (AgeingEvent ι)}
    (hfits : seg.LsusFit) (hlength : es.length ≤ 10 ^ 9)
    (hclosed : Along nextAgeing seg.Closed seg.start es)
    (hrun : runFrom nextAgeing seg.start es = .ok net)
    (hstored : (net.node i).lsdb.Stores lsa) :
    ∃ j own, (net.node j).HasSent own ∧ lsa.content = own.content ∧
      (seg.router j).HasOwnKey lsa.header ∧
      lsa.header.lsSeqNum < (net.node j).lsSequenceCnt := by
  obtain ⟨published, hledger, -⟩ :=
    ledger_of_run hfits hlength hclosed hrun
  obtain ⟨j, own, hown, heq, hkey, hlt⟩ := hledger.exists_published hstored
  exact ⟨j, own, hledger.sent j own hown, heq, hkey, hlt⟩

theorem authentic_of_run_pair :
    ∃ (net : Net Bool) (lsa : OwnLsa),
      (net.node false).lsdb.Stores lsa ∧
      lsa.header.advertisingRouter = pair.routerId true ∧
      ∃ j own, (net.node j).HasSent own ∧ lsa.content = own.content ∧
        (pair.router j).HasOwnKey lsa.header ∧
        lsa.header.lsSeqNum < (net.node j).lsSequenceCnt := by
  obtain ⟨es, net, hlength, halong, hrun, a, ha, -, -, hadv, -⟩ :=
    exists_copies_pair
  exact ⟨net, .router a, ha, hadv,
    authentic_of_run pair_lsusFit hlength halong hrun ha⟩

/-- In every run, two LSAs of one type and one router that have the same
sequence number are copies of one LSA, wherever they are stored. -/
theorem copies_of_run [Fintype ι] {es : List (AgeingEvent ι)}
    {a b : OwnLsa} (hid : Function.Injective seg.routerId)
    (hfits : seg.LsusFit) (hlength : es.length ≤ 10 ^ 9)
    (hclosed : Along nextAgeing seg.Closed seg.start es)
    (hrun : runFrom nextAgeing seg.start es = .ok net)
    (ha : (net.node i).lsdb.Stores a) (hb : (net.node j).lsdb.Stores b)
    (htype : a.header.lsType = b.header.lsType)
    (hadv : a.header.advertisingRouter = b.header.advertisingRouter)
    (hseq : a.header.lsSeqNum = b.header.lsSeqNum) :
    a.content = b.content := by
  obtain ⟨published, hledger, -⟩ :=
    ledger_of_run hfits hlength hclosed hrun
  exact hledger.content_eq hid ha hb htype hadv hseq

theorem copies_of_run_pair :
    ∃ (net : Net Bool) (a b : OwnLsa), (net.node false).lsdb.Stores a ∧
      (net.node true).lsdb.Stores b ∧ a.content = b.content := by
  obtain ⟨es, net, hlength, halong, hrun, a, ha, b, hb, hadv, hadv', htype,
    hseq⟩ := exists_copies_pair
  exact ⟨net, .router a, .router b, ha, hb,
    copies_of_run pair_routerId_injective pair_lsusFit hlength halong hrun ha
      hb htype (hadv.trans hadv'.symm) hseq⟩

end Runs

end Segment
end OspfLite
