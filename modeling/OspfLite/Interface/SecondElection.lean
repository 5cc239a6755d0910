import OspfLite.Interface.ElectionView
import OspfLite.Interface.Roles

/-!
# A second election

The loop of `call_election` repeats the election when the router has gained a
role.  It does not when the router has lost one, so an election that takes the
DR role from the router can leave the role of BDR to the next call.
-/

namespace OspfLite
namespace Interface

variable {inter next : Interface} {routerId : UInt32}

/-! ## The second call -/

/-- `event_adj_ok` makes no neighbor gain or lose its vote. -/
theorem eligibleNeighbors_map_eventAdjOk (saw : Interface)
    (neighbors : List Neighbor) :
    (((neighbors.map fun n : Neighbor => (n.eventAdjOk saw).1).filter
      fun n : Neighbor => decide n.Eligible).map Neighbor.candidate) =
      (neighbors.filter fun n => decide n.Eligible).map
        Neighbor.candidate := by
  rw [List.filter_map, List.map_map]
  have hvote : ((fun n : Neighbor => decide n.Eligible) ∘
      fun n : Neighbor => (n.eventAdjOk saw).1) =
        fun n : Neighbor => decide n.Eligible := by
    funext n
    exact decide_eq_decide.mpr (n.eventAdjOk_eligible saw)
  rw [hvote]
  exact List.map_congr_left fun n _ => n.eventAdjOk_candidate saw

theorem afterElection_finishElection (inter : Interface) (dr bdr : UInt32) :
    inter.AfterElection dr bdr
      (inter.finishElection (inter.setRoles dr bdr)) := by
  rw [finishElection]
  split_ifs
  · refine ⟨rfl, rfl, rfl, rfl, eligibleNeighbors_map_eventAdjOk _ _, ?_⟩
    simp only [adjOkAll, List.map_map]
    exact List.map_congr_left fun n _ => n.eventAdjOk_ip _
  · exact ⟨rfl, rfl, rfl, rfl, rfl, rfl⟩

/-- Two calls in a row complete, and the second leaves `dr` and `bdr` as it
has found them. -/
def RepeatsRoles (inter : Interface) (routerId : UInt32) : Prop :=
  ∃ first second, inter.callElection routerId = .ok first ∧
    first.callElection routerId = .ok second ∧
    second.dr = first.dr ∧ second.bdr = first.bdr

/-- An eligible neighbor that declares itself DR comes before the router,
which is DR. -/
def LosesDr (inter : Interface) (routerId : UInt32) : Prop :=
  inter.dr = inter.ipInterfaceAddress ∧
    ∃ c ∈ inter.eligibleNeighbors, c.dr = c.ip ∧
      c.Outranks (inter.selfCandidate routerId)

/-- Among the eligible neighbors that do not declare themselves DR one comes
before the router, which is not BDR. -/
def HasBackup (inter : Interface) (routerId : UInt32) : Prop :=
  ∃ c ∈ inter.eligibleNeighbors, c.dr ≠ c.ip ∧
    (c.bdr = c.ip ∨ c.Outranks (inter.selfCandidate routerId))

instance (inter : Interface) (routerId : UInt32) :
    Decidable (inter.LosesDr routerId) :=
  inferInstanceAs (Decidable (_ ∧ _))

instance (inter : Interface) (routerId : UInt32) :
    Decidable (inter.HasBackup routerId) :=
  inferInstanceAs (Decidable (∃ c ∈ inter.eligibleNeighbors, _))

theorem losesDr_iff :
    inter.LosesDr routerId ↔
      inter.dr = inter.ipInterfaceAddress ∧ ¬inter.BeatsDrs routerId := by
  rw [LosesDr]
  refine and_congr_right fun _ => ?_
  have hgt := exists_argmax_gt_iff (f := Candidate.drKey)
    (l := inter.eligibleNeighbors.filter fun c => decide (c.dr = c.ip))
    (x := (inter.selfCandidate routerId).drKey)
  simp only [BeatsDrs, rivalDr, Option.mem_def, not_forall, not_not,
    exists_prop, hgt, List.mem_filter, decide_eq_true_eq, and_assoc,
    Candidate.outranks_iff_drKey_lt]

/-- For a router that is not BDR, `HasBackup` is the comparison of the BDR
loop. -/
theorem hasBackup_iff (hbdr : inter.bdr ≠ inter.ipInterfaceAddress) :
    inter.HasBackup routerId ↔ ¬inter.BeatsBdrs routerId := by
  have hgt := exists_argmax_gt_iff (f := Candidate.bdrKey)
    (l := inter.eligibleNeighbors.filter fun c => decide (c.dr ≠ c.ip))
    (x := (inter.selfCandidate routerId).bdrKey)
  have hself : (inter.selfCandidate routerId).bdr ≠
      (inter.selfCandidate routerId).ip := hbdr
  have hkey : ∀ c : Candidate,
      (inter.selfCandidate routerId).bdrKey < c.bdrKey ↔
        c.bdr = c.ip ∨ c.Outranks (inter.selfCandidate routerId) := by
    intro c
    rw [Candidate.bdrKey_lt_iff]
    by_cases hc : c.bdr = c.ip <;> simp [hself, hc]
  simp only [HasBackup, BeatsBdrs, rivalBdr, Option.mem_def, not_forall,
    not_not, exists_prop, hgt, List.mem_filter, decide_eq_true_eq, and_assoc,
    ← hkey]

/-- Where the router does not lose the DR role, the second call settles as the
first. -/
theorem Settles.again {dr bdr : UInt32} (hfree : inter.AddressFree)
    (h : inter.Settles routerId dr bdr)
    (hkeeps : ¬inter.LosesDr routerId)
    (hnext : inter.AfterElection dr bdr next) :
    next.Settles routerId dr bdr := by
  have hd' := hnext.rivalDr_eq
  have hb' := hnext.rivalBdr_eq
  have haddr := hnext.address
  cases h with
  | keepsDr hdr hbeats =>
      have h := Settles.keepsDr (hnext.dr_eq.trans haddr.symm)
        (hnext.beatsDrs hbeats)
      rwa [hb', haddr] at h
  | losesDr hdr hd hlt =>
      refine absurd (losesDr_iff.mpr ⟨hdr, fun hbeats => ?_⟩) hkeeps
      exact hbeats _ hd hlt
  | backup hdr hd hbeats =>
      have hne : next.dr ≠ next.ipInterfaceAddress := by
        rw [hnext.dr_eq, haddr]
        exact rivalDr_ip_ne hfree hd
      have h := Settles.backup hne (hd'.trans hd)
        (hnext.beatsBdrs rfl hbeats)
      rwa [haddr] at h
  | other hdr hd hb hlt =>
      have hne : next.dr ≠ next.ipInterfaceAddress := by
        rw [hnext.dr_eq, haddr]
        exact rivalDr_ip_ne hfree hd
      exact .other hne (hd'.trans hd) (hb'.trans hb)
        ((hnext.bdrKey_self_le (rivalBdr_ip_ne hfree hb)).trans_lt hlt)
  | becomesDr hdr hd hbeats =>
      have hnone : inter.BeatsDrs routerId := by
        intro d hsome
        rw [Option.mem_def, hd] at hsome
        cases hsome
      have h := Settles.keepsDr (hnext.dr_eq.trans haddr.symm)
        (hnext.beatsDrs hnone)
      rwa [hb', haddr] at h
  | alone hdr hd hb hlt =>
      have hne : next.dr ≠ next.ipInterfaceAddress := by
        rw [hnext.dr_eq, haddr]
        exact rivalBdr_ip_ne hfree hb
      exact .alone hne (hd'.trans hd) (hb'.trans hb)
        ((hnext.bdrKey_self_le (rivalBdr_ip_ne hfree hb)).trans_lt hlt)

theorem repeatsRoles_of_settles {dr bdr dr' bdr' : UInt32}
    (hfree : inter.AddressFree) (hpri : inter.routerPriority ≠ 0)
    (h : inter.Settles routerId dr bdr)
    (hagain : (inter.finishElection (inter.setRoles dr bdr)).Settles routerId
      dr' bdr') :
    inter.RepeatsRoles routerId ↔ dr' = dr ∧ bdr' = bdr := by
  have hnext := afterElection_finishElection inter dr bdr
  have hlast := afterElection_finishElection
    (inter.finishElection (inter.setRoles dr bdr)) dr' bdr'
  have hfirst := h.callElection hfree hpri
  have hsecond := hagain.callElection (hnext.addressFree hfree)
    (by rwa [hnext.priority])
  constructor
  · rintro ⟨first, second, hcall, hcall', hdr, hbdr⟩
    rw [hfirst, Except.ok.injEq] at hcall
    rw [← hcall, hsecond, Except.ok.injEq] at hcall'
    rw [← hcall, ← hcall', hlast.dr_eq, hnext.dr_eq] at hdr
    rw [← hcall, ← hcall', hlast.bdr_eq, hnext.bdr_eq] at hbdr
    exact ⟨hdr, hbdr⟩
  · rintro ⟨hdr, hbdr⟩
    refine ⟨_, _, hfirst, hsecond, ?_, ?_⟩
    · rw [hlast.dr_eq, hnext.dr_eq, hdr]
    · rw [hlast.bdr_eq, hnext.bdr_eq, hbdr]

/-- After a call that has taken the DR role from the router, the next one
settles on the same DR, and on the router as BDR if it comes before the
others. -/
theorem AfterElection.settles_of_losesDr {d : Candidate} {bdr : UInt32}
    (hnext : inter.AfterElection d.ip bdr next) (hfree : inter.AddressFree)
    (hd : inter.rivalDr = some d) :
    (next.BeatsBdrs routerId →
        next.Settles routerId d.ip inter.ipInterfaceAddress) ∧
      (∀ b, inter.rivalBdr = some b → ¬next.BeatsBdrs routerId →
        next.Settles routerId d.ip b.ip) := by
  have hne : next.dr ≠ next.ipInterfaceAddress := by
    rw [hnext.dr_eq, hnext.address]
    exact rivalDr_ip_ne hfree hd
  have hd' := hnext.rivalDr_eq.trans hd
  constructor
  · intro hbeats
    have hagain := Settles.backup hne hd' hbeats
    rwa [hnext.address] at hagain
  · intro b hb hbeaten
    obtain ⟨c, hc, hlow⟩ := exists_of_not_beatsBdrs hbeaten
    have hcb : c = b :=
      Option.some.inj (hc.symm.trans (hnext.rivalBdr_eq.trans hb))
    exact hcb ▸ Settles.other hne hd' hc hlow

/-- The router has lost the DR role, and nobody else can be BDR. -/
theorem repeatsRoles_iff_of_rivalBdr_eq_none {d : Candidate}
    (hfree : inter.AddressFree) (hpri : inter.routerPriority ≠ 0)
    (hfirst : inter.Settles routerId d.ip (roleAddress inter.rivalBdr))
    (hd : inter.rivalDr = some d) (hb : inter.rivalBdr = none) :
    inter.RepeatsRoles routerId ↔ inter.ipInterfaceAddress = 0 := by
  have hnext := afterElection_finishElection inter d.ip
    (roleAddress inter.rivalBdr)
  have hbeats : (inter.finishElection (inter.setRoles d.ip
      (roleAddress inter.rivalBdr))).BeatsBdrs routerId := by
    intro b hsome
    rw [Option.mem_def, hnext.rivalBdr_eq, hb] at hsome
    cases hsome
  rw [repeatsRoles_of_settles hfree hpri hfirst
    ((hnext.settles_of_losesDr hfree hd).1 hbeats), hb]
  simp only [roleAddress, Option.map_none, Option.getD_none, true_and]

/-- The router has lost the DR role, and a neighbor has become BDR.  The second
call considers the router as well. -/
theorem repeatsRoles_iff_of_rivalBdr {d b : Candidate}
    (hfree : inter.AddressFree) (hpri : inter.routerPriority ≠ 0)
    (hfirst : inter.Settles routerId d.ip (roleAddress inter.rivalBdr))
    (hd : inter.rivalDr = some d) (hb : inter.rivalBdr = some b) :
    inter.RepeatsRoles routerId ↔ inter.HasBackup routerId := by
  have hrole : roleAddress inter.rivalBdr = b.ip := by
    rw [hb]
    rfl
  rw [hrole] at hfirst
  have hnext := afterElection_finishElection inter d.ip b.ip
  have hbdr := rivalBdr_ip_ne hfree hb
  have hsame : (inter.finishElection
      (inter.setRoles d.ip b.ip)).HasBackup routerId ↔
        inter.HasBackup routerId := by
    rw [HasBackup, HasBackup, hnext.eligible]
    simp only [Candidate.outranks_iff_drKey_lt, hnext.drKey_self]
  rw [← hsame, hasBackup_iff (by rwa [hnext.bdr_eq, hnext.address])]
  obtain ⟨hself, hother⟩ := hnext.settles_of_losesDr hfree hd
  by_cases hbeats : (inter.finishElection
      (inter.setRoles d.ip b.ip)).BeatsBdrs routerId
  · rw [repeatsRoles_of_settles hfree hpri hfirst (hself hbeats)]
    exact iff_of_false (fun h => hbdr h.2.symm) (not_not.mpr hbeats)
  · rw [repeatsRoles_of_settles hfree hpri hfirst (hother b hb hbeats)]
    exact iff_of_true ⟨rfl, rfl⟩ hbeats

/-- A router that has lost the DR role is a candidate for BDR in the second
call, which the first has not looked at. -/
theorem repeatsRoles_iff_of_losesDr (hfree : inter.AddressFree)
    (hpri : inter.routerPriority ≠ 0) (hloses : inter.LosesDr routerId) :
    inter.RepeatsRoles routerId ↔
      inter.HasBackup routerId ∨
        (inter.ipInterfaceAddress = 0 ∧
          ∀ c ∈ inter.eligibleNeighbors, c.dr = c.ip) := by
  obtain ⟨hdr, hbeaten⟩ := losesDr_iff.mp hloses
  obtain ⟨d, hd, hlt⟩ := exists_of_not_beatsDrs hbeaten
  have hfirst := Settles.losesDr hdr hd hlt
  cases hb : inter.rivalBdr with
  | none =>
      have hnobody := rivalBdr_eq_none.mp hb
      have hbackup : ¬inter.HasBackup routerId := by
        rintro ⟨c, hc, hnot, -⟩
        exact hnot (hnobody c hc)
      rw [repeatsRoles_iff_of_rivalBdr_eq_none hfree hpri hfirst hd hb]
      exact ⟨fun h => Or.inr ⟨h, hnobody⟩,
        fun h => (h.resolve_left hbackup).1⟩
  | some b =>
      have hsomebody : ¬∀ c ∈ inter.eligibleNeighbors, c.dr = c.ip := by
        rw [← rivalBdr_eq_none, hb]
        exact Option.some_ne_none b
      rw [repeatsRoles_iff_of_rivalBdr hfree hpri hfirst hd hb]
      exact ⟨Or.inl, fun h => h.resolve_right fun h => hsomebody h.2⟩

/-- The second call repeats the roles of the first unless the first takes the
DR role from the router and leaves it the best candidate for BDR. -/
theorem repeatsRoles_iff (hpri : 1 ≤ inter.routerPriority.toNat ∧
      inter.routerPriority.toNat ≤ 255)
    (hfree : inter.AddressFree) :
    inter.RepeatsRoles routerId ↔
      (inter.LosesDr routerId →
        inter.HasBackup routerId ∨
          (inter.ipInterfaceAddress = 0 ∧
            ∀ c ∈ inter.eligibleNeighbors, c.dr = c.ip)) := by
  have hne : inter.routerPriority ≠ 0 := by
    intro hzero
    simp [hzero] at hpri
  by_cases hloses : inter.LosesDr routerId
  · rw [repeatsRoles_iff_of_losesDr hfree hne hloses]
    exact ⟨fun h _ => h, fun h => h hloses⟩
  · refine iff_of_true ?_ fun h => absurd h hloses
    obtain ⟨dr, bdr, h⟩ := exists_settles inter routerId
    have hnext := afterElection_finishElection inter dr bdr
    exact (repeatsRoles_of_settles hfree hne h
      (h.again hfree hloses hnext)).mpr ⟨rfl, rfl⟩

/-- The DR of a segment on which a neighbor of higher priority has declared
itself DR as well, as after a partition has healed. -/
def healedSegment : Interface :=
  { new 0x0a000001 0xffffff00 with
    state := .dr
    dr := 0x0a000001
    neighbors :=
      [{ Neighbor.new ⟨0, 0, 0, false, false, false⟩ 0x0a000002 with
          state := .full, id := 0x02020202, pri := 2, dr := 0x0a000002 }] }

theorem repeatsRoles_iff_healedSegment :
    healedSegment.RepeatsRoles 0x01010101 ↔
      (healedSegment.LosesDr 0x01010101 →
        healedSegment.HasBackup 0x01010101 ∨
          (healedSegment.ipInterfaceAddress = 0 ∧
            ∀ c ∈ healedSegment.eligibleNeighbors, c.dr = c.ip)) :=
  repeatsRoles_iff ⟨by decide, by decide⟩ (by unfold AddressFree; decide)

/-- The first call leaves the segment without a BDR, the second makes the
router BDR. -/
theorem second_election_differs :
    ∃ inter : Interface, 1 ≤ inter.routerPriority.toNat ∧
      inter.routerPriority.toNat ≤ 255 ∧ inter.AddressFree ∧
      (inter.neighbors.map Neighbor.ip).Nodup ∧
      (inter.neighbors.map Neighbor.id).Nodup ∧
      ¬inter.RepeatsRoles 0x01010101 := by
  have hfree : healedSegment.AddressFree := by
    unfold AddressFree
    decide
  refine ⟨healedSegment, by decide, by decide, hfree, by decide, by decide, ?_⟩
  rw [repeatsRoles_iff_of_losesDr hfree (by decide) (by decide)]
  decide

end Interface
end OspfLite
