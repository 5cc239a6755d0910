import OspfLite.Router.Superseding

/-!
# Which instance is the more recent one

`lsa_header_cmp` orders the instances of an LSA, so that an entry of the
database that is only ever replaced by newer instances never gets one of the
old ones back.  The order is the one of the protocol for sequence numbers of
the same sign.
-/

namespace OspfLite

namespace LSDB

/-- The entry of an LSA stays, or a strictly newer instance has taken its
place. -/
def ReplacesByNewer (header : LSAHeader) (before after : LSDB) : Prop :=
  ∀ old ∈ before.findInstance header, ∃ new ∈ after.findInstance header,
    new = old ∨ lsaHeaderCmp new old < 0

variable {header : LSAHeader} {before between after : LSDB}

theorem ReplacesByNewer.trans (h : before.ReplacesByNewer header between)
    (h' : between.ReplacesByNewer header after) :
    before.ReplacesByNewer header after := by
  intro old hold
  obtain ⟨mid, hmid, hcmp⟩ := h old hold
  obtain ⟨new, hnew, hcmp'⟩ := h' mid hmid
  refine ⟨new, hnew, ?_⟩
  rcases hcmp with rfl | hlt
  · exact hcmp'
  · rcases hcmp' with rfl | hlt'
    · exact Or.inr hlt
    · exact Or.inr (lsaHeaderCmp_trans hlt' hlt)

instance : IsTrans LSDB (ReplacesByNewer header) :=
  ⟨fun _ _ _ => ReplacesByNewer.trans⟩

/-- An instance that has been replaced is older than what comes after it. -/
theorem ReplacesByNewer.not_back (h : before.ReplacesByNewer header between)
    (h' : between.ReplacesByNewer header after) {old : LSAHeader}
    (hold : old ∈ before.findInstance header)
    (hreplaced : between.findInstance header ≠ some old) :
    after.findInstance header ≠ some old := by
  intro hback
  obtain ⟨mid, hmid, hcmp⟩ := h old hold
  obtain ⟨new, hnew, hcmp'⟩ := h' mid hmid
  have hnewer : lsaHeaderCmp mid old < 0 :=
    hcmp.resolve_left fun heq => hreplaced (heq ▸ hmid)
  have hsame : new = old := Option.some.inj (hnew.symm.trans hback)
  subst hsame
  rcases hcmp' with rfl | hlt
  · exact absurd hnewer (by rw [lsaHeaderCmp_self]; decide)
  · have hself := lsaHeaderCmp_trans hlt hnewer
    rw [lsaHeaderCmp_self] at hself
    exact absurd hself (by decide)

end LSDB

/-- Steps 5 and 5 d of the LSU handler replace the entry of an LSA by newer
instances only. -/
theorem Router.replacesByNewer_of_acceptLsa {src : UInt32} {data : Memory}
    {s s' : LsuState} (hnewer : s.router.NewOrNewer (lsaHeaderHost data))
    (h : acceptLsa src data s = .ok s') (header : LSAHeader) :
    s.router.lsdb.ReplacesByNewer header s'.router.lsdb := by
  intro old hold
  have hinstall := acceptLsa_lsdb h
  rw [LSDB.findInstance_install hinstall]
  by_cases hsame : header.Storable ∧
      LSAHeader.SameLsa header (lsaHeaderHost data)
  · rw [if_pos hsame]
    refine ⟨_, rfl, Or.inr (hnewer old ?_)⟩
    obtain ⟨-, htype, hid, hadv⟩ := hsame
    rw [LSDB.findInstance, ← htype, ← hid, ← hadv]
    exact hold
  · rw [if_neg hsame]
    exact ⟨old, hold, Or.inl rfl⟩

/-- The comparison is antisymmetric, and newer than newer is newer.  A database
whose entry is only ever replaced by newer instances does not return to an
instance that has been replaced, and step 5 of the LSU handler replaces entries
in no other way. -/
theorem lsaHeaderCmp_consistent :
    (∀ a b, lsaHeaderCmp a b = -lsaHeaderCmp b a) ∧
    (∀ a, lsaHeaderCmp a a = 0) ∧
    (∀ a b c, lsaHeaderCmp a b < 0 → lsaHeaderCmp b c < 0 →
      lsaHeaderCmp a c < 0) ∧
    (∀ (header : LSAHeader) (databases : List LSDB),
      databases.IsChain (LSDB.ReplacesByNewer header) →
      ∀ before between after,
        List.Sublist [before, between, after] databases →
        ∀ old ∈ before.findInstance header,
          between.findInstance header ≠ some old →
          after.findInstance header ≠ some old) ∧
    ∀ (src : UInt32) (data : Memory) (s s' : LsuState),
      s.router.NewOrNewer (lsaHeaderHost data) →
      Router.acceptLsa src data s = .ok s' →
      ∀ header, s.router.lsdb.ReplacesByNewer header s'.router.lsdb := by
  refine ⟨lsaHeaderCmp_swap, lsaHeaderCmp_self,
    fun _ _ _ => lsaHeaderCmp_trans, ?_,
    fun _ _ _ _ => Router.replacesByNewer_of_acceptLsa⟩
  intro header databases hchain before between after hsub old hold hreplaced
  have hpairs : List.Pairwise (LSDB.ReplacesByNewer header)
      [before, between, after] :=
    (List.isChain_iff_pairwise.mp hchain).sublist hsub
  simp only [List.pairwise_cons, List.mem_cons, List.not_mem_nil, or_false,
    forall_eq_or_imp, forall_eq] at hpairs
  exact hpairs.1.1.not_back hpairs.2.1 hold hreplaced

/-! ## The order of the protocol -/

namespace LSAHeader

/-- The sequence number as the protocol orders it, from `0x80000001` up to
`0x7fffffff`. -/
def signedSeqNum (h : LSAHeader) : ℤ := h.lsSeqNum.toInt32.toInt

/-- The more recent instance has the greater signed sequence number; among
equal ones the greater checksum, then an age of exactly `MAX_AGE`, then an age
that is smaller by `MAX_AGE_DIFF` at least. -/
def MoreRecent (a b : LSAHeader) : Prop :=
  b.signedSeqNum < a.signedSeqNum ∨
    (b.signedSeqNum = a.signedSeqNum ∧
      (b.lsChecksum < a.lsChecksum ∨
        (b.lsChecksum = a.lsChecksum ∧ b.lsAge ≠ maxAge ∧
          (a.lsAge = maxAge ∨
            a.lsAge.toNat + maxAgeDiff ≤ b.lsAge.toNat))))

instance (a b : LSAHeader) : Decidable (MoreRecent a b) :=
  inferInstanceAs (Decidable (_ ∨ _ ∧ (_ ∨ _ ∧ _ ∧ (_ ∨ _))))

/-- `lsa_header_cmp` comes to the result of the protocol. -/
def ComparedByProtocol (a b : LSAHeader) : Prop :=
  (lsaHeaderCmp a b < 0 ↔ MoreRecent a b) ∧
    (lsaHeaderCmp a b = 0 ↔ ¬MoreRecent a b ∧ ¬MoreRecent b a)

instance (a b : LSAHeader) : Decidable (ComparedByProtocol a b) :=
  inferInstanceAs (Decidable ((_ ↔ _) ∧ (_ ↔ _ ∧ _)))

/-- The sequence numbers have the same sign. -/
def SameSign (a b : LSAHeader) : Prop :=
  a.lsSeqNum < 0x80000000 ↔ b.lsSeqNum < 0x80000000

instance (a b : LSAHeader) : Decidable (SameSign a b) :=
  inferInstanceAs (Decidable (_ ↔ _))

theorem signedSeqNum_eq (h : LSAHeader) :
    h.signedSeqNum =
      if h.lsSeqNum < 0x80000000 then (h.lsSeqNum.toNat : ℤ)
      else h.lsSeqNum.toNat - 4294967296 := by
  have hhalf : (0x80000000 : UInt32).toNat = 2147483648 := rfl
  have hcond := BitVec.toInt_eq_toNat_cond h.lsSeqNum.toBitVec
  simp only [signedSeqNum, UInt32.lt_iff_toNat_lt, hhalf]
  change h.lsSeqNum.toBitVec.toInt = _
  rw [hcond]
  change (if 2 * h.lsSeqNum.toNat < 2 ^ 32 then (h.lsSeqNum.toNat : ℤ)
    else h.lsSeqNum.toNat - (2 ^ 32 : ℕ)) = _
  split_ifs <;> omega

/-- `lsa_header_cmp` takes the order of the unsigned numbers, which is the
order of the signed ones exactly between numbers of the same sign. -/
theorem lsaHeaderCmp_neg_iff_moreRecent (a b : LSAHeader) :
    (lsaHeaderCmp a b < 0 ↔ MoreRecent a b) ↔ SameSign a b := by
  have hhalf : (0x80000000 : UInt32).toNat = 2147483648 := rfl
  have ha := a.lsSeqNum.toNat_lt
  have hb := b.lsSeqNum.toNat_lt
  simp only [lsaHeaderCmp_neg_iff, MoreRecent, SameSign, signedSeqNum_eq,
    UInt32.lt_iff_toNat_lt, UInt16.lt_iff_toNat_lt, ← UInt16.toNat_inj,
    ne_eq, hhalf]
  split_ifs <;> omega

/-- Neither instance is newer exactly where the result is zero. -/
theorem lsaHeaderCmp_eq_zero_iff (a b : LSAHeader) :
    lsaHeaderCmp a b = 0 ↔ ¬lsaHeaderCmp a b < 0 ∧ ¬lsaHeaderCmp b a < 0 := by
  rw [lsaHeaderCmp_swap b a]
  omega

/-- Two instances are compared as the protocol does exactly if their sequence
numbers have the same sign. -/
theorem comparedByProtocol_iff (a b : LSAHeader) :
    ComparedByProtocol a b ↔ SameSign a b := by
  have hab := lsaHeaderCmp_neg_iff_moreRecent a b
  have hba := lsaHeaderCmp_neg_iff_moreRecent b a
  constructor
  · exact fun h => hab.mp h.1
  · intro h
    refine ⟨hab.mpr h, ?_⟩
    rw [lsaHeaderCmp_eq_zero_iff, hab.mpr h, hba.mpr h.symm]

end LSAHeader

/-! ## Successive instances -/

namespace Router

/-- The headers that `update_lsas` generates, in the order of their
numbers. -/
def generatedHeaders (r : Router) : List LSAHeader :=
  (if r.interface.state = .dr then [r.generateNetworkLsa.header] else []) ++
    [r.updateOwnNetworkLsa.1.generateRouterLsa.header]

/-- `update_lsas` is called in the second state for the next time after the
first one. -/
def NextOrigination (r r' : Router) : Prop :=
  r'.lsSequenceCnt = r.updateLsas.lsSequenceCnt

instance (r r' : Router) : Decidable (r.NextOrigination r') :=
  inferInstanceAs (Decidable (_ = _))

/-- The generated instances are numbered one after the other. -/
theorem generatedHeaders_seqNums {calls : List Router} {first : UInt32}
    (hfirst : ∀ r ∈ calls.head?, r.lsSequenceCnt = first)
    (hnext : calls.IsChain NextOrigination) :
    (calls.flatMap generatedHeaders).map LSAHeader.lsSeqNum =
      (List.range (calls.flatMap generatedHeaders).length).map
        fun i => first + UInt32.ofNat i := by
  induction calls generalizing first with
  | nil => rfl
  | cons r calls ih =>
      have hcount : r.lsSequenceCnt = first := hfirst r rfl
      have hrouter :
          r.updateOwnNetworkLsa.1.generateRouterLsa.header.lsSeqNum =
            r.routerLsaSeqNum := r.updateOwnNetworkLsa_fst.2.2
      have hcounted : ∀ r' ∈ calls.head?,
          r'.lsSequenceCnt = r.routerLsaSeqNum + 1 := by
        intro r' hr'
        rw [← r.updateLsas_lsSequenceCnt]
        exact (List.isChain_cons.mp hnext).1 r' hr'
      have hrest := ih hcounted (List.isChain_cons.mp hnext).2
      have hseqs : r.generatedHeaders.map LSAHeader.lsSeqNum =
          (List.range r.generatedHeaders.length).map
            (fun i => first + UInt32.ofNat i) ∧
          r.routerLsaSeqNum + 1 =
            first + UInt32.ofNat r.generatedHeaders.length := by
        rw [routerLsaSeqNum, hcount] at hrouter ⊢
        by_cases hdr : r.interface.state = .dr
        · rw [if_pos hdr] at hrouter ⊢
          rw [generatedHeaders, if_pos hdr]
          have hnetwork : r.generateNetworkLsa.header.lsSeqNum = first :=
            hcount
          refine ⟨?_, by rw [UInt32.add_assoc]; rfl⟩
          simp [List.range_succ, hrouter, hnetwork]
        · rw [if_neg hdr] at hrouter ⊢
          rw [generatedHeaders, if_neg hdr]
          refine ⟨?_, rfl⟩
          simp [hrouter]
      rw [List.flatMap_cons, List.map_append, hrest, List.length_append,
        List.range_add, List.map_append, List.map_map, hseqs.1, hseqs.2]
      refine congrArg (_ ++ ·) (List.map_congr_left fun i _ => ?_)
      rw [Function.comp_apply, UInt32.ofNat_add, UInt32.add_assoc]

/-- The number of the instance at a place of the sequence that starts with
`INITIAL_SEQUENCE_NUMBER`, up to `MAX_SEQUENCE_NUMBER`. -/
theorem signedSeqNum_of_place {h : LSAHeader} {i : ℕ} (hi : i < 4294967295)
    (hseq : h.lsSeqNum = initialSequenceNumber + UInt32.ofNat i) :
    h.signedSeqNum = (i : ℤ) - 2147483647 := by
  have hhalf : (0x80000000 : UInt32).toNat = 2147483648 := rfl
  have hfirst : initialSequenceNumber.toNat = 2147483649 := rfl
  have hnat := congrArg UInt32.toNat hseq
  rw [UInt32.toNat_add, hfirst, UInt32.toNat_ofNat'] at hnat
  simp only [LSAHeader.signedSeqNum_eq, UInt32.lt_iff_toNat_lt, hhalf]
  split_ifs <;> omega

end Router

/-- `lsa_header_cmp` decides as the protocol does exactly between instances
whose sequence numbers have the same sign; so of the instances that
`update_lsas` generates from `INITIAL_SEQUENCE_NUMBER` up to
`MAX_SEQUENCE_NUMBER`, a later one is newer than an earlier one exactly if the
counter has not passed from `0xffffffff` to zero between them. -/
theorem comparedByProtocol_iff_sameSign (a b : LSAHeader) :
    (a.ComparedByProtocol b ↔ a.SameSign b) ∧
    ∀ calls : List Router,
      (∀ r ∈ calls.head?, r.lsSequenceCnt = initialSequenceNumber) →
      calls.IsChain Router.NextOrigination →
      (calls.flatMap Router.generatedHeaders).length ≤ 4294967295 →
      (calls.flatMap Router.generatedHeaders).Pairwise fun earlier later =>
        lsaHeaderCmp later earlier < 0 ↔ later.SameSign earlier := by
  refine ⟨a.comparedByProtocol_iff b, ?_⟩
  intro calls hfirst hnext hlen
  have hseqs := Router.generatedHeaders_seqNums hfirst hnext
  have hplace : ∀ i (hi : i < (calls.flatMap
      Router.generatedHeaders).length),
      ((calls.flatMap Router.generatedHeaders).get ⟨i, hi⟩).signedSeqNum =
        (i : ℤ) - 2147483647 := by
    intro i hi
    refine Router.signedSeqNum_of_place (by omega) ?_
    have hget := List.getElem_of_eq hseqs (by rwa [List.length_map])
    rwa [List.getElem_map, List.getElem_map, List.getElem_range] at hget
  rw [List.pairwise_iff_getElem]
  intro i j hi hj hij
  have hearlier := hplace i hi
  have hlater := hplace j hj
  rw [List.get_eq_getElem] at hearlier hlater
  rw [← LSAHeader.lsaHeaderCmp_neg_iff_moreRecent]
  refine (iff_true_right (Or.inl ?_)).symm
  rw [hearlier, hlater]
  omega

/-- The first two calls after the start. -/
theorem comparedByProtocol_iff_sameSign_twoCalls :
    let first := Router.boot 0x01010101 0 ⟨0, 0, 0, false, false, false⟩ []
      0x0a000001 0xffffff00
    (first.generateNetworkLsa.header.ComparedByProtocol
        first.updateLsas.generateNetworkLsa.header ↔
      first.generateNetworkLsa.header.SameSign
        first.updateLsas.generateNetworkLsa.header) ∧
    ([first, first.updateLsas].flatMap Router.generatedHeaders).Pairwise
      fun earlier later =>
        lsaHeaderCmp later earlier < 0 ↔ later.SameSign earlier := by
  intro first
  obtain ⟨hcompared, hpairwise⟩ := comparedByProtocol_iff_sameSign
    first.generateNetworkLsa.header first.updateLsas.generateNetworkLsa.header
  refine ⟨hcompared, hpairwise _ ?_ ?_ ?_⟩
  · rintro r ⟨⟩
    rfl
  · exact List.isChain_pair.mpr rfl
  · exact Nat.le_of_ble_eq_true rfl

/-- The successor of `0xffffffff` is zero.  Both are numbers of the sequence,
and the successor is taken for the older one. -/
theorem zero_compared_older :
    ∃ a b : LSAHeader, a.SameLsa b ∧ a.lsSeqNum = b.lsSeqNum + 1 ∧
      a.MoreRecent b ∧ ¬lsaHeaderCmp a b < 0 ∧ ¬a.ComparedByProtocol b :=
  ⟨⟨1, 2, 1, 0x02020202, 0x02020202, 0, 0, 36⟩,
    ⟨1, 2, 1, 0x02020202, 0x02020202, 0xffffffff, 0, 36⟩, by decide +kernel⟩

end OspfLite
