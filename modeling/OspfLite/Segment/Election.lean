import OspfLite.Router.Company
import OspfLite.Segment.Handshake

/-!
# Elections among routers that know each other

All routers of a segment take part, with the same priority, so the ids decide:
`M` comes first and `S` second.  How an election of one of them comes out
depends on whether it knows that `M` has declared itself DR.
-/

namespace OspfLite

/-- The router at the address has declared itself DR. -/
def Interface.DeclaresDr (inter : Interface) (a : UInt32) : Prop :=
  ∃ c, inter.saidBy a = some c ∧ c.dr = c.ip

namespace Segment

variable {ι : Type} (seg : Segment ι) (M S : ι)

/-- By their ids `M` comes first and `S` second.  The address 0, which stands
for nobody, is not in use. -/
structure Leads : Prop where
  ne : S ≠ M
  first : ∀ j, j ≠ M → seg.routerId j < seg.routerId M
  second : ∀ j, j ≠ M → j ≠ S → seg.routerId j < seg.routerId S
  nonzero : ∀ j, seg.address j ≠ 0

/-- The router `i` has the company of all others, and only `M` has declared
itself DR, only `S` BDR. -/
structure Sees (i : ι) (inter : Interface) : Prop where
  company : inter.Company
  address : inter.ipInterfaceAddress = seg.address i
  priority : inter.routerPriority = 1
  others : ∀ a c, inter.saidBy a = some c → ∃ j ≠ i, a = seg.address j ∧
    c.id = seg.routerId j ∧ c.pri = 1 ∧ (c.dr = a → j = M) ∧
      (c.bdr = a → j = S)
  all : ∀ j ≠ i, ∃ c, inter.saidBy (seg.address j) = some c

/-- So does the router itself, and nobody is BDR before `M` is DR. -/
structure Holds (i : ι) (inter : Interface) : Prop where
  dr : inter.dr = seg.address i → i = M
  bdr : inter.bdr = seg.address i →
    i = S ∧ inter.DeclaresDr (seg.address M)
  first : i = M → inter.dr ≠ seg.address i →
    ∀ c, inter.saidBy (seg.address S) = some c → c.bdr ≠ c.ip

/-- The router `i` knows that `M` is DR. -/
def Knows (i : ι) (inter : Interface) : Prop :=
  i = M ∨ inter.DeclaresDr (seg.address M)

/-- The roles that an election gives: those of `M` and `S`, when the router
knows that `M` is DR; before that both go to one of the two. -/
structure Assigns (i : ι) (inter : Interface) (dr bdr : UInt32) : Prop where
  known : seg.Knows M i inter → dr = seg.address M ∧ bdr = seg.address S
  unknown : ¬seg.Knows M i inter →
    bdr = dr ∧ (dr = seg.address M ∨ (i ≠ S ∧ dr = seg.address S))

variable {seg M S} {i j : ι} {inter : Interface} {c d b s : Candidate}

namespace Sees

/-- Who takes part in an election. -/
theorem exists_router (h : seg.Sees M S i inter)
    (hc : c ∈ inter.eligibleNeighbors) : ∃ j ≠ i,
      inter.saidBy (seg.address j) = some c ∧ c.ip = seg.address j ∧
      c.id = seg.routerId j ∧ c.pri = 1 ∧ (c.dr = c.ip → j = M) ∧
        (c.bdr = c.ip → j = S) := by
  have hsaid := h.company.mem_eligible_iff.mp hc
  obtain ⟨j, hne, hip, hid, hpri, hdr, hbdr⟩ := h.others c.ip c hsaid
  exact ⟨j, hne, hip ▸ hsaid, hip, hid, hpri, hdr, hbdr⟩

theorem mem_eligible (h : seg.Sees M S i inter)
    (hc : inter.saidBy (seg.address j) = some c) :
    c ∈ inter.eligibleNeighbors := by
  apply h.company.mem_eligible_iff.mpr
  rwa [Interface.saidBy_ip hc]

/-- The neighbor that has declared itself DR is `M`. -/
theorem of_rivalDr (h : seg.Sees M S i inter) (hd : inter.rivalDr = some d) :
    d.ip = seg.address M ∧ i ≠ M ∧
      inter.DeclaresDr (seg.address M) := by
  have hmem := List.argmax_mem (Option.mem_def.mpr hd)
  rw [List.mem_filter, decide_eq_true_eq] at hmem
  obtain ⟨j, hne, hsaid, hip, -, -, hdr, -⟩ := h.exists_router hmem.1
  obtain rfl := hdr hmem.2
  exact ⟨hip, hne.symm, d, hsaid, hmem.2⟩

theorem not_declaresDr (h : seg.Sees M S i inter)
    (hnone : inter.rivalDr = none) :
    ¬inter.DeclaresDr (seg.address M) := by
  rintro ⟨c, hsaid, hdr⟩
  rw [Interface.rivalDr, List.argmax_eq_none, List.filter_eq_nil_iff] at hnone
  exact hnone c (h.mem_eligible hsaid) (by simpa using hdr)

/-- The neighbor that comes first for BDR has not declared itself DR. -/
theorem of_rivalBdr (h : seg.Sees M S i inter)
    (hb : inter.rivalBdr = some b) : ∃ j ≠ i,
      inter.saidBy (seg.address j) = some b ∧ b.ip = seg.address j ∧
      b.dr ≠ b.ip ∧ b.id = seg.routerId j ∧ b.pri = 1 ∧
        (b.bdr = b.ip → j = S) := by
  have hmem := List.argmax_mem (Option.mem_def.mpr hb)
  rw [List.mem_filter, decide_eq_true_eq] at hmem
  obtain ⟨j, hne, hsaid, hip, hid, hpri, -, hbdr⟩ := h.exists_router hmem.1
  exact ⟨j, hne, hsaid, hip, hmem.2, hid, hpri, hbdr⟩

/-- It comes first. -/
theorem not_rivalBdr_lt (h : seg.Sees M S i inter)
    (hb : inter.rivalBdr = some b)
    (hc : inter.saidBy (seg.address j) = some c) (hdr : c.dr ≠ c.ip) :
    ¬b.bdrKey < c.bdrKey := by
  apply List.not_lt_of_mem_argmax _ (Option.mem_def.mpr hb)
  exact List.mem_filter.mpr ⟨h.mem_eligible hc, by simpa using hdr⟩

theorem exists_rivalBdr (h : seg.Sees M S i inter)
    (hc : inter.saidBy (seg.address j) = some c) (hdr : c.dr ≠ c.ip) :
    ∃ b, inter.rivalBdr = some b := by
  rw [← Option.ne_none_iff_exists']
  intro hnone
  exact hdr (Interface.rivalBdr_eq_none.mp hnone c (h.mem_eligible hc))

end Sees

/-- Among candidates of priority 1, of whom the first does not declare itself
BDR, the ids decide, unless the second does. -/
theorem bdrKey_lt (hc : c.bdr ≠ c.ip) (hpri : c.pri = 1) (hpri' : s.pri = 1)
    (hid : c.id < s.id) : c.bdrKey < s.bdrKey := by
  rw [Candidate.bdrKey_lt_iff]
  by_cases hs : s.bdr = s.ip
  · exact Or.inl ⟨hc, hs⟩
  · exact Or.inr ⟨iff_of_false hc hs, Or.inr ⟨hpri'.trans hpri.symm, hid⟩⟩

theorem Sees.exists_second (h : seg.Sees M S i inter)
    (hleads : seg.Leads M S) (hi : i ≠ S) :
    ∃ s, inter.saidBy (seg.address S) = some s ∧ s.dr ≠ s.ip ∧
      s.id = seg.routerId S ∧ s.pri = 1 := by
  obtain ⟨s, hs⟩ := h.all S hi.symm
  obtain ⟨k, -, hk, hid, hpri, hdr, -⟩ := h.others _ s hs
  obtain rfl := seg.address_injective hk
  refine ⟨s, hs, fun heq => hleads.ne (hdr ?_), hid, hpri⟩
  rw [heq, Interface.saidBy_ip hs]

/-- With `M` out of the way, `S` comes first for BDR. -/
theorem Sees.rivalBdr_eq_second (h : seg.Sees M S i inter)
    (hleads : seg.Leads M S) (hi : i ≠ S) (hknows : seg.Knows M i inter)
    (hb : inter.rivalBdr = some b) :
    inter.saidBy (seg.address S) = some b ∧ b.ip = seg.address S := by
  obtain ⟨j, hne, hsaid, hip, hdr, hid, hpri, hbdr⟩ := h.of_rivalBdr hb
  by_cases hj : j = S
  · exact hj ▸ ⟨hsaid, hip⟩
  · exfalso
    have hjM : j ≠ M := by
      rintro rfl
      rcases hknows with hi | ⟨c, hc, hdecl⟩
      · exact hne hi.symm
      · rw [hsaid, Option.some.injEq] at hc
        exact hdr (hc ▸ hdecl)
    obtain ⟨s, hs, hsdr, hsid, hspri⟩ := h.exists_second hleads hi
    refine h.not_rivalBdr_lt hb hs hsdr
      (bdrKey_lt (fun heq => hj (hbdr heq)) hpri hspri ?_)
    rw [hid, hsid]
    exact hleads.second j hjM hj

/-- The router itself, as a candidate. -/
theorem Sees.self_lt (h : seg.Sees M S i inter) (hc : c.pri = 1)
    (hbdr : inter.bdr ≠ seg.address i) (hid : seg.routerId i < c.id) :
    (inter.selfCandidate (seg.routerId i)).bdrKey < c.bdrKey := by
  apply bdrKey_lt _ _ hc hid
  · rw [Interface.selfCandidate, h.address]
    exact hbdr
  · rw [Interface.selfCandidate, h.priority]
    rfl

theorem Sees.lt_self (h : seg.Sees M S i inter) (hc : c.pri = 1)
    (hbdr : c.bdr ≠ c.ip) (hid : c.id < seg.routerId i) :
    c.bdrKey < (inter.selfCandidate (seg.routerId i)).bdrKey := by
  apply bdrKey_lt hbdr hc _ hid
  rw [Interface.selfCandidate, h.priority]
  rfl

theorem Sees.exists_first (h : seg.Sees M S i inter) (hi : i ≠ M)
    (hnot : ¬inter.DeclaresDr (seg.address M)) :
    ∃ c, inter.saidBy (seg.address M) = some c ∧ c.dr ≠ c.ip ∧
      c.id = seg.routerId M ∧ c.pri = 1 := by
  obtain ⟨c, hc⟩ := h.all M hi.symm
  obtain ⟨k, -, hk, hid, hpri, -⟩ := h.others _ c hc
  obtain rfl := seg.address_injective hk
  exact ⟨c, hc, fun heq => hnot ⟨c, hc, heq⟩, hid, hpri⟩

/-! ## How an election comes out -/

section Outcome

variable (h : seg.Sees M S i inter) (hholds : seg.Holds M S i inter)
  (hleads : seg.Leads M S)

include h hleads

/-- The Backup Designated Router of `M` is `S`. -/
theorem Sees.roleAddress_eq (hi : i = M) :
    Interface.roleAddress inter.rivalBdr = seg.address S := by
  have hiS : i ≠ S := fun heq => hleads.ne (heq.symm.trans hi)
  obtain ⟨s, hs, hdr, -⟩ := h.exists_second hleads hiS
  obtain ⟨b, hb⟩ := h.exists_rivalBdr hs hdr
  rw [hb]
  exact (h.rivalBdr_eq_second hleads hiS (Or.inl hi) hb).2

/-- A router that knows that `M` is DR gives way to `S`. -/
theorem Sees.lt_rivalBdr (hi : i ≠ M) (hiS : i ≠ S)
    (hbdr : inter.bdr ≠ seg.address i) (hknows : seg.Knows M i inter) :
    ¬inter.BeatsBdrs (seg.routerId i) := by
  intro hbeats
  obtain ⟨s, hs, hdr, hid, hpri⟩ := h.exists_second hleads hiS
  obtain ⟨b, hb⟩ := h.exists_rivalBdr hs hdr
  have hbS := (h.rivalBdr_eq_second hleads hiS hknows hb).1
  rw [hs, Option.some.injEq] at hbS
  subst hbS
  refine hbeats s (Option.mem_def.mpr hb) (h.self_lt hpri hbdr ?_)
  rw [hid]
  exact hleads.second i hi hiS

/-- One that does not gives way to `M`. -/
theorem Sees.lt_rivalBdr_of_unknown (hi : i ≠ M)
    (hbdr : inter.bdr ≠ seg.address i)
    (hnot : ¬inter.DeclaresDr (seg.address M)) :
    ¬inter.BeatsBdrs (seg.routerId i) := by
  intro hbeats
  obtain ⟨c, hc, hdr, hid, hpri⟩ := h.exists_first hi hnot
  obtain ⟨b, hb⟩ := h.exists_rivalBdr hc hdr
  refine hbeats b (Option.mem_def.mpr hb) (lt_of_lt_of_le
    (h.self_lt hpri hbdr ?_) (not_lt.mp (h.not_rivalBdr_lt hb hc hdr)))
  rw [hid]
  exact hleads.first i hi

/-- When `M` is out of the way, nobody comes before `S`. -/
theorem Sees.not_lt_second (hi : i = S) (hknows : seg.Knows M i inter)
    (hb : inter.rivalBdr = some b) :
    ¬(inter.selfCandidate (seg.routerId i)).bdrKey < b.bdrKey := by
  obtain ⟨j, hji, hsaid, -, hbdr, hid, hpri, hS⟩ := h.of_rivalBdr hb
  have hjM : j ≠ M := by
    rintro rfl
    rcases hknows with heq | ⟨c, hc, hdr⟩
    · exact hji heq.symm
    · rw [hsaid, Option.some.injEq] at hc
      exact hbdr (hc ▸ hdr)
  have hjS : j ≠ S := fun heq => hji (heq.trans hi.symm)
  apply lt_asymm
  apply h.lt_self hpri (fun heq => hjS (hS heq))
  rw [hid, hi]
  exact hleads.second j hjM hjS

/-- Nobody comes before `M`, before there is a BDR. -/
theorem Sees.not_lt_first (hi : i = M)
    (hquiet : ∀ c, inter.saidBy (seg.address S) = some c → c.bdr ≠ c.ip)
    (hb : inter.rivalBdr = some b) :
    ¬(inter.selfCandidate (seg.routerId i)).bdrKey < b.bdrKey := by
  obtain ⟨j, hji, hsaid, -, -, hid, hpri, hS⟩ := h.of_rivalBdr hb
  apply lt_asymm
  apply h.lt_self hpri
  · intro heq
    obtain rfl := hS heq
    exact hquiet b hsaid heq
  · rw [hid, hi]
    exact hleads.first j fun heq => hji (heq.trans hi.symm)

/-- As long as `M` is not known as DR, it comes first for BDR, or `S` does. -/
theorem Sees.rivalBdr_of_unknown (hi : i ≠ M)
    (hnot : ¬inter.DeclaresDr (seg.address M))
    (hb : inter.rivalBdr = some b) :
    b.ip = seg.address M ∨ (i ≠ S ∧ b.ip = seg.address S) := by
  obtain ⟨j, hji, -, hip, -, hid, hpri, hS⟩ := h.of_rivalBdr hb
  by_cases hjM : j = M
  · exact Or.inl (hjM ▸ hip)
  by_cases hjS : j = S
  · exact Or.inr ⟨fun heq => hji (hjS.trans heq.symm), hjS ▸ hip⟩
  obtain ⟨c, hc, hdr, hcid, hcpri⟩ := h.exists_first hi hnot
  refine absurd (bdrKey_lt (fun heq => hjS (hS heq)) hpri hcpri ?_)
    (h.not_rivalBdr_lt hb hc hdr)
  rw [hid, hcid]
  exact hleads.first j hjM

include hholds

/-- The roles that an election of a router in company gives. -/
theorem Sees.assigns {dr bdr : UInt32}
    (hsettles : inter.Settles (seg.routerId i) dr bdr) :
    seg.Assigns M S i inter dr bdr := by
  have hadd := h.address
  cases hsettles with
  | keepsDr hdr =>
      obtain rfl := hholds.dr (hdr.trans hadd)
      exact ⟨fun _ => ⟨hadd, h.roleAddress_eq hleads rfl⟩,
        fun hnot => absurd (Or.inl rfl) hnot⟩
  | losesDr hdr hd =>
      exact absurd (hholds.dr (hdr.trans hadd)) (h.of_rivalDr hd).2.1
  | backup hdr hd hbeats =>
      obtain ⟨hip, hne, hdecl⟩ := h.of_rivalDr hd
      refine ⟨fun hknows => ⟨hip, ?_⟩, fun hnot => absurd (Or.inr hdecl) hnot⟩
      by_contra hS
      have hiS : i ≠ S := fun heq => hS (hadd.trans (congrArg _ heq))
      exact h.lt_rivalBdr hleads hne hiS
        (fun heq => hiS (hholds.bdr heq).1) hknows hbeats
  | other hdr hd hb hlt =>
      obtain ⟨hip, hne, hdecl⟩ := h.of_rivalDr hd
      refine ⟨fun hknows => ⟨hip, ?_⟩, fun hnot => absurd (Or.inr hdecl) hnot⟩
      by_cases hi : i = S
      · exact absurd hlt (h.not_lt_second hleads hi hknows hb)
      · exact (h.rivalBdr_eq_second hleads hi hknows hb).2
  | becomesDr hdr hd hbeats =>
      have hnot := h.not_declaresDr hd
      have hi : i = M := by
        by_contra hi
        exact h.lt_rivalBdr_of_unknown hleads hi
          (fun heq => hnot (hholds.bdr heq).2) hnot hbeats
      exact ⟨fun _ => ⟨hadd.trans (congrArg _ hi), h.roleAddress_eq hleads hi⟩,
        fun hnot => absurd (Or.inl hi) hnot⟩
  | alone hdr hd hb hlt =>
      have hnot := h.not_declaresDr hd
      have hi : i ≠ M := fun hi => h.not_lt_first hleads hi
        (hholds.first hi fun heq => hdr (heq.trans hadd.symm)) hb hlt
      exact ⟨fun hknows => absurd hknows (not_or.mpr ⟨hi, hnot⟩),
        fun _ => ⟨rfl, h.rivalBdr_of_unknown hleads hi hnot hb⟩⟩

end Outcome

end Segment
end OspfLite
