import OspfLite.Router.BufferBounds
import OspfLite.Router.Spreading

/-!
# Issuing LSAs

The LSAs that a router puts on the wire in one step of the process beside its
ageing thread: which keys and sequence numbers they have, and that everything
else it stores or sends has been known before.
-/

namespace OspfLite
namespace OwnLsa

variable {lsa own : OwnLsa}

/-! ## Copies -/

/-- What all copies of an LSA have in common: everything but the age and the
checksum, and the mask of a Network LSA, which is not read from the packet. -/
def content : OwnLsa → OwnLsa
  | router lsa =>
      router { lsa with
        header := { lsa.header with lsAge := 0, lsChecksum := 0 } }
  | network lsa =>
      network { lsa with
        header := { lsa.header with lsAge := 0, lsChecksum := 0 }
        networkMask := 0 }

@[simp] theorem content_received (mask : UInt32) (lsa : OwnLsa) :
    (lsa.received mask).content = lsa.content := by
  cases lsa <;> rfl

@[simp] theorem header_content (lsa : OwnLsa) :
    lsa.content.header =
      { lsa.header with lsAge := 0, lsChecksum := 0 } := by
  cases lsa <;> rfl

/-- Copies have the same key and the same sequence number. -/
theorem header_eq_of_content (h : lsa.content = own.content) :
    lsa.header.SameLsa own.header ∧
      lsa.header.lsSeqNum = own.header.lsSeqNum := by
  have hheader := congrArg OwnLsa.header h
  simp only [header_content, LSAHeader.mk.injEq] at hheader
  obtain ⟨-, -, htype, hid, hadv, hseq, -⟩ := hheader
  exact ⟨⟨htype, hid, hadv⟩, hseq⟩

end OwnLsa

/-- A round of the ageing thread changes no LSA but for the age. -/
theorem LSDB.stores_tick {lsdb : LSDB} {lsa : OwnLsa}
    (h : lsdb.tick.Stores lsa) :
    ∃ old, lsdb.Stores old ∧ lsa.content = old.content := by
  have haged : ∀ header : LSAHeader,
      ({ header.aged with lsAge := 0, lsChecksum := 0 } : LSAHeader) =
        { header with lsAge := 0, lsChecksum := 0 } := by
    intro header
    rw [LSAHeader.aged]
    split_ifs <;> rfl
  cases lsa with
  | router lsa =>
      obtain ⟨old, hold, rfl⟩ := List.mem_map.mp h
      refine ⟨.router old, hold, ?_⟩
      simp only [OwnLsa.content, haged]
  | network lsa =>
      obtain ⟨old, hold, rfl⟩ := List.mem_map.mp h
      refine ⟨.network old, hold, ?_⟩
      simp only [OwnLsa.content, haged]

namespace Router

variable {r r' t : Router} {own : OwnLsa} {known : Set OwnLsa}

/-! ## The LSAs of one `update_lsas` -/

/-- Whatever becomes FULL, the LSU of `update_lsas` fits its buffer. -/
def LsuFits (r : Router) : Prop :=
  52 + 4 * r.interface.neighbors.length + 12 * r.interfaces.length ≤
    lsuBufferSize

theorem LsuFits.length_le (h : r.LsuFits) :
    (lsuData r.emittedLsas).length ≤ lsuBufferSize := by
  have hfull := @List.countP_le_length _
    (fun n : Neighbor => decide (n.state = .full)) r.interface.neighbors
  rw [LsuFits] at h
  rw [length_lsuData_emittedLsas]
  split_ifs <;> omega

/-- The keys of what goes into the LSU. -/
theorem hasOwnKey_of_emitted (h : own ∈ r.emitted) :
    r.HasOwnKey own.header := by
  have hid := r.updateOwnNetworkLsa_fst.1
  rcases mem_emitted.mp h with ⟨-, rfl⟩ | ⟨-, rfl⟩
  · exact Or.inr ⟨rfl, rfl⟩
  · exact Or.inl ⟨rfl, congrArg₂ Prod.mk hid hid⟩

theorem lsSequenceCnt_le_routerLsaSeqNum (hnumbers : r.HasNumbers) :
    r.lsSequenceCnt ≤ r.routerLsaSeqNum := by
  rw [HasNumbers] at hnumbers
  rw [routerLsaSeqNum]
  split_ifs at hnumbers ⊢
  · rw [UInt32.le_iff_toNat_le, UInt32.toNat_add, UInt32.toNat_one]
    omega
  · exact UInt32.le_refl _

/-- The sequence numbers of what goes into the LSU are those that the counter
passes. -/
theorem lsSeqNum_of_emitted (hnumbers : r.HasNumbers) (h : own ∈ r.emitted) :
    r.lsSequenceCnt ≤ own.header.lsSeqNum ∧
      own.header.lsSeqNum < r.updateLsas.lsSequenceCnt := by
  obtain ⟨hnetwork, hrouter, -⟩ := hnumbers.lt
  rw [updateLsas_lsSequenceCnt]
  rcases mem_emitted.mp h with ⟨-, rfl⟩ | ⟨-, rfl⟩
  · exact ⟨UInt32.le_refl _, hnetwork⟩
  · have hseq : r.updateOwnNetworkLsa.1.generateRouterLsa.header.lsSeqNum =
        r.routerLsaSeqNum := r.updateOwnNetworkLsa_fst.2.2
    rw [OwnLsa.header, hseq]
    exact ⟨lsSequenceCnt_le_routerLsaSeqNum hnumbers, hrouter⟩

/-- The counter takes two steps at most. -/
theorem toNat_updateLsas_le (r : Router) :
    r.updateLsas.lsSequenceCnt.toNat ≤ r.lsSequenceCnt.toNat + 2 := by
  rw [updateLsas_lsSequenceCnt, routerLsaSeqNum]
  split_ifs <;>
    simp only [UInt32.toNat_add, UInt32.toNat_one] <;>
    omega

/-- The LSA has been sent by `update_lsas`. -/
def HasSent (r : Router) (own : OwnLsa) : Prop :=
  ∃ t : Router, own ∈ t.emitted ∧
    .sent t.segmentAddress t.ownLsu ∈ r.log

theorem HasSent.mono (h : r.HasSent own) (hlog : r.log ⊆ r'.log) :
    r'.HasSent own := by
  obtain ⟨t, hown, hmem⟩ := h
  exact ⟨t, hown, hlog hmem⟩

/-! ## What a step issues -/

/-- The packet is an LSU that carries known LSAs only. -/
def CarriesOnly (known : Set OwnLsa) (bytes : List UInt8) : Prop :=
  ∃ t auType delay, ∃ lsas : List OwnLsa, lsas.length ≤ 2 ∧
    (∀ own ∈ lsas, own ∈ known) ∧
      bytes =
        ospfPacket t auType typeLsu (lsuData (lsas.map (OwnLsa.wire delay)))

theorem CarriesOnly.mono {known' : Set OwnLsa} {bytes : List UInt8}
    (h : CarriesOnly known bytes) (hsub : known ⊆ known') :
    CarriesOnly known' bytes := by
  obtain ⟨t, auType, delay, lsas, hcount, hknown, rfl⟩ := h
  exact ⟨t, auType, delay, lsas, hcount, fun own hown =>
    hsub (hknown own hown), rfl⟩

/-- The counter has passed all LSAs in the database that name the router. -/
def OwnPassed (r : Router) : Prop :=
  ∀ lsa, r.lsdb.Stores lsa → lsa.header.advertisingRouter = r.routerId →
    lsa.header.lsSeqNum < r.lsSequenceCnt

/-- So its Router LSA is sent. -/
theorem OwnPassed.emitsRouterLsa (h : r.OwnPassed) (hnumbers : r.HasNumbers) :
    r.EmitsRouterLsa := by
  intro old hold
  have hkey := @KeyedList.key_of_lookup _ _ _ LSARouter.key _ _ _ hold
  have hstored : r.lsdb.Stores (.router old) := List.mem_of_find?_eq_some hold
  exact Or.inl (UInt32.lt_of_lt_of_le
    (h _ hstored (congrArg Prod.snd hkey))
    (lsSequenceCnt_le_routerLsaSeqNum hnumbers))

/-- The database has the Router LSA that a router has generated last, as its
counter tells. -/
def UpToDate (r : Router) (id count : UInt32) : Prop :=
  ∃ lsa, r.lsdb.findRouterLsa id id = some lsa ∧
    count.toNat ≤ lsa.header.lsSeqNum.toNat + 1

theorem UpToDate.grow {id count : UInt32} (h : r.UpToDate id count)
    (hgrows : r.lsdb.RoutersGrow r'.lsdb) : r'.UpToDate id count := by
  obtain ⟨old, hold, hcount⟩ := h
  obtain ⟨new, hnew, hle⟩ := hgrows id id old hold
  rw [UInt32.le_iff_toNat_le] at hle
  exact ⟨new, hnew, by omega⟩

theorem upToDate_of_find {q : Router} {lsa : LSARouter} {id : UInt32}
    (h : q.lsdb.findRouterLsa id id = some lsa)
    (hseq : lsa.header.lsSeqNum = r.routerLsaSeqNum) :
    q.UpToDate id r.updateLsas.lsSequenceCnt := by
  refine ⟨lsa, h, ?_⟩
  rw [hseq, updateLsas_lsSequenceCnt, UInt32.toNat_add, UInt32.toNat_one]
  exact Nat.mod_le _ _

/-- The router issues the LSAs `news`.  Everything else that it stores or sends
has been known. -/
structure Issues (known news : Set OwnLsa) (r r' : Router) : Prop where
  routerId : r'.routerId = r.routerId
  address : r'.interface.ipInterfaceAddress = r.interface.ipInterfaceAddress
  interfaces : r'.interfaces.length = r.interfaces.length
  counter : r.lsSequenceCnt ≤ r'.lsSequenceCnt ∧
    r'.lsSequenceCnt.toNat ≤ r.lsSequenceCnt.toNat + 2
  consistent : ∀ own ∈ news, own.Consistent
  key : ∀ own ∈ news, r.HasOwnKey own.header
  number : ∀ own ∈ news, r.lsSequenceCnt ≤ own.header.lsSeqNum ∧
    own.header.lsSeqNum < r'.lsSequenceCnt
  kinds : ∀ a ∈ news, ∀ b ∈ news, a.header.lsType = b.header.lsType → a = b
  sent : ∀ own ∈ news, r'.HasSent own
  stored : ∀ lsa, r'.lsdb.Stores lsa → r.lsdb.Stores lsa ∨
    ∃ own ∈ known ∪ news, lsa.content = own.content
  log : ∃ entries, r'.log = r.log ++ entries ∧ ∀ dst bytes,
    .sent dst bytes ∈ entries → bytes[1]? = some typeLsu →
      CarriesOnly (known ∪ news) bytes
  latest : r.OwnPassed →
    (news = ∅ ∧ r'.lsSequenceCnt = r.lsSequenceCnt) ∨
      r'.UpToDate r'.routerId r'.lsSequenceCnt

/-- Nothing is issued. -/
theorem Relays.issues (h : r.Relays (fun _ own => own ∈ known) r') :
    r.Issues known ∅ r' := by
  have hnumbering := h.numbering
  simp only [Router.numbering, Prod.mk.injEq] at hnumbering
  obtain ⟨hcount, hid, haddress⟩ := hnumbering
  obtain ⟨entries, hlog, hsent⟩ := h.log
  refine ⟨hid, haddress, h.interfaces, hcount ▸ ⟨UInt32.le_refl _, by omega⟩,
    fun _ hown => absurd hown (Set.notMem_empty _),
    fun _ hown => absurd hown (Set.notMem_empty _),
    fun _ hown => absurd hown (Set.notMem_empty _),
    fun _ hown => absurd hown (Set.notMem_empty _),
    fun _ hown => absurd hown (Set.notMem_empty _), fun lsa hlsa => ?_,
    ⟨entries, hlog, fun dst bytes hentry htype => ?_⟩,
    fun _ => Or.inl ⟨rfl, hcount⟩⟩
  · refine (h.stored lsa hlsa).imp_right ?_
    rintro ⟨delay, own, mask, hown, rfl⟩
    exact ⟨own, Or.inl hown, own.content_received mask⟩
  · obtain ⟨dst', t, auType, delay, own, hown, heq⟩ :=
      hsent _ hentry htype
    obtain ⟨-, rfl⟩ := LogEntry.sent.inj heq
    exact ⟨t, auType, delay, [own], Nat.le_succ 1,
      fun _ hmem => List.mem_singleton.mp hmem ▸ Or.inl hown, rfl⟩

/-- The LSAs of `update_lsas` are issued. -/
theorem updateLsas_issues (known : Set OwnLsa) (hfits : r.LsuFits)
    (hnumbers : r.HasNumbers) :
    r.Issues known {own | own ∈ r.emitted} r.updateLsas := by
  have hnumbering := r.updateLsas_numbering
  simp only [numbering, Prod.mk.injEq] at hnumbering
  obtain ⟨-, hid, haddress⟩ := hnumbering
  obtain ⟨entries, hlog, hsent⟩ := r.updateLsas_sent
  have hcount : r.lsSequenceCnt ≤ r.updateLsas.lsSequenceCnt := by
    rw [updateLsas_lsSequenceCnt]
    exact UInt32.le_of_lt hnumbers.lt.1
  refine ⟨hid, haddress, ?_, ⟨hcount, r.toNat_updateLsas_le⟩,
    fun own hown => consistent_of_fits hfits.length_le hown,
    fun own hown => hasOwnKey_of_emitted hown,
    fun own hown => lsSeqNum_of_emitted hnumbers hown,
    fun a ha b hb heq => ?_, fun own hown => ⟨r, hown, ?_⟩,
    fun lsa hlsa => ?_, ⟨entries, hlog, fun dst bytes hentry _ => ?_⟩,
    fun hpassed => Or.inr ?_⟩
  · obtain ⟨t, entries, ⟨lsdb, count, headers, rfl⟩, heq, -⟩ :=
      r.updateLsas_eq
    rw [heq]
    simp [interfaces]
  · by_contra hne
    have hsymm : Std.Symm fun a b : OwnLsa =>
        a.header.lsType ≠ b.header.lsType := ⟨fun _ _ h => h.symm⟩
    exact r.emitted_pairwise.forall ha hb hne heq
  · rw [updateLsas_log (List.ne_nil_of_mem hown)]
    exact List.mem_append_right _ List.mem_cons_self
  · refine (updateLsas_stores hlsa).imp_right fun hmem => ?_
    exact ⟨lsa, Or.inr hmem, rfl⟩
  · obtain ⟨-, rfl⟩ := LogEntry.sent.inj (hsent _ hentry)
    refine ⟨r, r.interface.auType, r.interface.infTransDelay, r.emitted, ?_,
      fun _ hown => Or.inr hown, ?_⟩
    · have hle := length_emittedLsas_le r
      rwa [emittedLsas_eq, List.length_map] at hle
    · rw [ownLsu, emittedLsas_eq]
  · have hemits := hpassed.emitsRouterLsa hnumbers
    have hseq : r.updateOwnNetworkLsa.1.generateRouterLsa.header.lsSeqNum =
        r.routerLsaSeqNum := r.updateOwnNetworkLsa_fst.2.2
    rw [hid]
    exact upToDate_of_find (findRouterLsa_of_emits hemits) hseq

theorem KeepsLsas.no_lsu (h : r.KeepsLsas r') :
    ∃ entries, r'.log = r.log ++ entries ∧ ∀ dst bytes,
      .sent dst bytes ∈ entries → bytes[1]? ≠ some typeLsu := by
  obtain ⟨entries, hlog, hsent⟩ := h.log
  refine ⟨entries, hlog, fun dst bytes hentry htype => ?_⟩
  obtain ⟨_, _, _, _, _, hfalse, -⟩ := hsent _ hentry htype
  exact hfalse

theorem KeepsLsas.no_new {lsa : OwnLsa} (h : r.KeepsLsas r')
    (hstored : r'.lsdb.Stores lsa) : r.lsdb.Stores lsa := by
  rcases h.stored lsa hstored with hold | ⟨_, _, _, hfalse, -⟩
  · exact hold
  · exact hfalse.elim

theorem OwnPassed.of_keepsLsas (h : r.OwnPassed) (hkeeps : r.KeepsLsas t) :
    t.OwnPassed := by
  have hnumbering := hkeeps.numbering
  simp only [numbering, Prod.mk.injEq] at hnumbering
  obtain ⟨hcount, hid, -⟩ := hnumbering
  intro lsa hlsa hadv
  rw [hcount]
  exact h lsa (hkeeps.no_new hlsa) (hadv.trans hid)

/-- What comes before and after does not matter, as long as it is none of the
LSAs. -/
theorem Issues.of_keepsLsas {t' : Router} {news : Set OwnLsa}
    (hbefore : r.KeepsLsas t) (h : t.Issues known news t')
    (hafter : t'.KeepsLsas r') : r.Issues known news r' := by
  have hfirst := hbefore.numbering
  have hlast := hafter.numbering
  simp only [numbering, Prod.mk.injEq] at hfirst hlast
  obtain ⟨hcount, hid, haddress⟩ := hfirst
  obtain ⟨hcount', hid', haddress'⟩ := hlast
  obtain ⟨before, hlog, hsilent⟩ := hbefore.no_lsu
  obtain ⟨entries, hlog', hcarries⟩ := h.log
  obtain ⟨after, hlog'', hsilent'⟩ := hafter.no_lsu
  refine ⟨hid'.trans (h.routerId.trans hid),
    haddress'.trans (h.address.trans haddress),
    hafter.interfaces.trans (h.interfaces.trans hbefore.interfaces), ?_,
    h.consistent, fun own hown => ?_, fun own hown => ?_, h.kinds,
    fun own hown => ?_, fun lsa hlsa => ?_, ⟨before ++ entries ++ after, ?_,
    fun dst bytes hentry htype => ?_⟩, fun hpassed => ?_⟩
  · rw [hcount', ← hcount]
    exact h.counter
  · have hkey := h.key own hown
    rw [HasOwnKey, hid, haddress] at hkey
    exact hkey
  · rw [hcount', ← hcount]
    exact h.number own hown
  · apply (h.sent own hown).mono
    rw [hlog'']
    exact List.subset_append_left _ _
  · exact (h.stored lsa (hafter.no_new hlsa)).imp_left hbefore.no_new
  · rw [hlog'', hlog', hlog, List.append_assoc, List.append_assoc,
      List.append_assoc]
  · rcases List.mem_append.mp hentry with hmem | hmem
    · rcases List.mem_append.mp hmem with hmem | hmem
      · exact absurd htype (hsilent dst bytes hmem)
      · exact hcarries dst bytes hmem htype
    · exact absurd htype (hsilent' dst bytes hmem)
  · rw [hcount', hid', ← hcount]
    exact (h.latest (hpassed.of_keepsLsas hbefore)).imp_right fun hlatest =>
      hlatest.grow hafter.grows

/-- There are numbers for whatever the next step issues. -/
def HasTwoNumbers (r : Router) : Prop :=
  r.lsSequenceCnt.toNat + 2 < 4294967295

theorem KeepsLsas.hasNumbers (h : r.KeepsLsas t)
    (hnumbers : r.HasTwoNumbers) : t.HasNumbers := by
  have hcount : t.lsSequenceCnt = r.lsSequenceCnt :=
    congrArg Prod.fst h.numbering
  rw [HasTwoNumbers] at hnumbers
  rw [HasNumbers, hcount]
  split_ifs <;> omega

theorem KeepsLsas.lsuFits (h : r.KeepsLsas t)
    (haddresses : t.addresses = r.addresses) (hfits : r.LsuFits) :
    t.LsuFits := by
  have hlength : t.interface.neighbors.length =
      r.interface.neighbors.length := by
    have hmap := congrArg List.length haddresses
    simpa [addresses] using hmap
  rw [LsuFits, hlength, h.interfaces]
  exact hfits

/-- Every step issues LSAs or none. -/
theorem Spreads.issues (h : r.Spreads (fun _ own => own ∈ known) r')
    (hfits : r.LsuFits) (hnumbers : r.HasTwoNumbers) :
    ∃ news, r.Issues known news r' := by
  cases h with
  | relays hrelays => exact ⟨∅, hrelays.issues⟩
  | @originates t hbefore haddresses hafter =>
      exact ⟨_, .of_keepsLsas hbefore
        (updateLsas_issues known (hbefore.lsuFits haddresses hfits)
          (hbefore.hasNumbers hnumbers)) hafter⟩

/-- A round of the ageing thread issues nothing. -/
theorem tick_issues (known : Set OwnLsa) (hstored : ∀ lsa,
    r.lsdb.Stores lsa → ∃ own ∈ known, lsa.content = own.content) :
    r.Issues known ∅ { r with lsdb := r.lsdb.tick } := by
  have hnone : ∀ own, own ∉ (∅ : Set OwnLsa) := fun _ => Set.notMem_empty _
  refine ⟨rfl, rfl, rfl, ⟨UInt32.le_refl _, Nat.le_add_right _ 2⟩,
    fun own h => absurd h (hnone own), fun own h => absurd h (hnone own),
    fun own h => absurd h (hnone own), fun own h => absurd h (hnone own),
    fun own h => absurd h (hnone own), fun lsa hlsa => ?_,
    ⟨[], (List.append_nil _).symm, fun _ _ h => absurd h List.not_mem_nil⟩,
    fun _ => Or.inl ⟨rfl, rfl⟩⟩
  obtain ⟨old, hold, heq⟩ := LSDB.stores_tick hlsa
  obtain ⟨own, hown, hcopy⟩ := hstored old hold
  exact Or.inr ⟨own, Or.inl hown, heq.trans hcopy⟩

end Router
end OspfLite
