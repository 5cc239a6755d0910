import OspfLite.Interface.ElectionLoop

/-!
# How one election settles

`call_election` leaves `dr` and `bdr` in one of six ways, by whether the router
was DR before and by how it compares with its neighbors.  It needs one pass, or
two when the router has just gained a role.
-/

namespace OspfLite
namespace Interface

variable {inter next : Interface} {routerId : UInt32}

/-- No neighbor has the address of the interface. -/
def AddressFree (inter : Interface) : Prop :=
  ∀ n ∈ inter.neighbors, n.ip ≠ inter.ipInterfaceAddress

/-- An eligible neighbor does not have the address of the interface. -/
theorem AddressFree.ip_ne {c : Candidate} (h : inter.AddressFree)
    (hc : c ∈ inter.eligibleNeighbors) : c.ip ≠ inter.ipInterfaceAddress := by
  obtain ⟨n, hn, -, rfl⟩ := mem_eligibleNeighbors.mp hc
  exact h n hn

/-- A pass in which some candidate declares itself DR. -/
theorem electionPass_of_declared {noBdr : Bool} {d : Candidate}
    (hd : inter.declaredDr routerId noBdr = some d) :
    inter.electionPass routerId noBdr =
      .ok (inter.setRoles d.ip
        (((inter.electionForDrAndNdr routerId noBdr).2.map
          Candidate.ip).getD 0)) :=
  electionPass_eq_ok.mpr ⟨d, by rw [election_fst, hd, Option.some_or], rfl⟩

/-! ## What the neighbors bring along -/

/-- The neighbor that comes first among those that declare themselves DR. -/
def rivalDr (inter : Interface) : Option Candidate :=
  (inter.eligibleNeighbors.filter fun c => decide (c.dr = c.ip)).argmax
    Candidate.drKey

/-- The neighbor that comes first among those that do not. -/
def rivalBdr (inter : Interface) : Option Candidate :=
  (inter.eligibleNeighbors.filter fun c => decide (c.dr ≠ c.ip)).argmax
    Candidate.bdrKey

theorem rivalBdr_eq_none :
    inter.rivalBdr = none ↔ ∀ c ∈ inter.eligibleNeighbors, c.dr = c.ip := by
  simp [rivalBdr]

/-- The `bdr` field that goes with an elected BDR. -/
def roleAddress (elected : Option Candidate) : UInt32 :=
  (elected.map Candidate.ip).getD 0

/-- The router comes before the BDR candidates among its neighbors, of which
there may be none. -/
def BeatsBdrs (inter : Interface) (routerId : UInt32) : Prop :=
  ∀ b ∈ inter.rivalBdr,
    ¬(inter.selfCandidate routerId).bdrKey < b.bdrKey

/-- The router comes before the neighbors that declare themselves DR. -/
def BeatsDrs (inter : Interface) (routerId : UInt32) : Prop :=
  ∀ d ∈ inter.rivalDr, ¬(inter.selfCandidate routerId).drKey < d.drKey

/-- The BDR of a pass in which the router takes part, and is not DR. -/
theorem election_snd_of_not_dr (hpri : inter.routerPriority ≠ 0)
    (hdr : inter.dr ≠ inter.ipInterfaceAddress) :
    (inter.electionForDrAndNdr routerId false).2 =
      match inter.rivalBdr with
      | none => some (inter.selfCandidate routerId)
      | some b =>
          if (inter.selfCandidate routerId).bdrKey < b.bdrKey then some b
          else some (inter.selfCandidate routerId) := by
  have hself : (inter.selfCandidate routerId).dr ≠
      (inter.selfCandidate routerId).ip := hdr
  rw [election_snd, bdrCandidates, if_pos ⟨rfl, hpri⟩,
    List.filter_cons_of_pos (by simpa using hself), List.argmax_cons]
  rw [rivalBdr]
  cases (inter.eligibleNeighbors.filter
    fun c => decide (c.dr ≠ c.ip)).argmax Candidate.bdrKey <;> rfl

/-- The BDR of a pass in which the router is DR, or takes no part. -/
theorem election_snd_of_dr {noBdr : Bool}
    (hdr : inter.dr = inter.ipInterfaceAddress) :
    (inter.electionForDrAndNdr routerId noBdr).2 = inter.rivalBdr := by
  have hself : ¬(inter.selfCandidate routerId).dr ≠
      (inter.selfCandidate routerId).ip := not_not.mpr hdr
  rw [election_snd, bdrCandidates, rivalBdr]
  split_ifs
  · rw [List.filter_cons_of_neg (by simpa using hself)]
  · rfl

/-- The declared DR of a pass in which the router declares itself. -/
theorem declaredDr_of_dr (hpri : inter.routerPriority ≠ 0)
    (hdr : inter.dr = inter.ipInterfaceAddress) :
    inter.declaredDr routerId false =
      match inter.rivalDr with
      | none => some (inter.selfCandidate routerId)
      | some d =>
          if (inter.selfCandidate routerId).drKey < d.drKey then some d
          else some (inter.selfCandidate routerId) := by
  have hself : (inter.selfCandidate routerId).dr =
      (inter.selfCandidate routerId).ip := hdr
  rw [declaredDr, drCandidates_false, bdrCandidates, if_pos ⟨rfl, hpri⟩,
    List.filter_cons_of_pos (by simpa using hself), List.argmax_cons,
    rivalDr]
  cases (inter.eligibleNeighbors.filter
    fun c => decide (c.dr = c.ip)).argmax Candidate.drKey <;> rfl

/-! ## The router among them -/

/-- The roles have been settled, everything else that an election reads is as
before. -/
structure AfterElection (inter : Interface) (dr bdr : UInt32)
    (next : Interface) : Prop where
  dr_eq : next.dr = dr
  bdr_eq : next.bdr = bdr
  address : next.ipInterfaceAddress = inter.ipInterfaceAddress
  priority : next.routerPriority = inter.routerPriority
  eligible : next.eligibleNeighbors = inter.eligibleNeighbors
  addresses : next.neighbors.map Neighbor.ip =
    inter.neighbors.map Neighbor.ip

theorem afterElection_setRoles (inter : Interface) (dr bdr : UInt32) :
    inter.AfterElection dr bdr (inter.setRoles dr bdr) :=
  ⟨rfl, rfl, rfl, rfl, rfl, rfl⟩

namespace AfterElection

variable {dr bdr : UInt32}

theorem rivalDr_eq (h : inter.AfterElection dr bdr next) :
    next.rivalDr = inter.rivalDr := by
  rw [rivalDr, rivalDr, h.eligible]

theorem rivalBdr_eq (h : inter.AfterElection dr bdr next) :
    next.rivalBdr = inter.rivalBdr := by
  rw [rivalBdr, rivalBdr, h.eligible]

theorem addressFree (h : inter.AfterElection dr bdr next)
    (hfree : inter.AddressFree) : next.AddressFree := by
  intro n hn
  have hmem := List.mem_map_of_mem (f := Neighbor.ip) hn
  rw [h.addresses] at hmem
  obtain ⟨m, hm, hip⟩ := List.mem_map.mp hmem
  rw [← hip, h.address]
  exact hfree m hm

theorem drKey_self (h : inter.AfterElection dr bdr next) :
    (next.selfCandidate routerId).drKey =
      (inter.selfCandidate routerId).drKey := by
  rw [Candidate.drKey, Candidate.drKey, selfCandidate, selfCandidate,
    h.priority]

theorem beatsDrs (h : inter.AfterElection dr bdr next)
    (hbeats : inter.BeatsDrs routerId) : next.BeatsDrs routerId := by
  intro d hd
  rw [h.drKey_self]
  exact hbeats d (h.rivalDr_eq ▸ hd)

/-- A router that is not BDR any more is no better a candidate for it. -/
theorem bdrKey_self_le (h : inter.AfterElection dr bdr next)
    (hbdr : bdr ≠ inter.ipInterfaceAddress) :
    (next.selfCandidate routerId).bdrKey ≤
      (inter.selfCandidate routerId).bdrKey := by
  rw [Candidate.bdrKey, Candidate.bdrKey, Prod.Lex.toLex_le_toLex]
  have hnot : decide ((next.selfCandidate routerId).bdr =
      (next.selfCandidate routerId).ip) = false := by
    simp [selfCandidate, h.bdr_eq, h.address, hbdr]
  rw [hnot]
  by_cases hself : inter.bdr = inter.ipInterfaceAddress
  · exact Or.inl (by simp [selfCandidate, hself])
  · exact Or.inr ⟨by simp [selfCandidate, hself], h.drKey_self.le⟩

/-- A router that is BDR is the better candidate for it. -/
theorem bdrKey_self_ge (h : inter.AfterElection dr bdr next)
    (hbdr : bdr = inter.ipInterfaceAddress) :
    (inter.selfCandidate routerId).bdrKey ≤
      (next.selfCandidate routerId).bdrKey := by
  rw [Candidate.bdrKey, Candidate.bdrKey, Prod.Lex.toLex_le_toLex]
  by_cases hself : inter.bdr = inter.ipInterfaceAddress
  · exact Or.inr ⟨by simp [selfCandidate, hself, h.bdr_eq, h.address, hbdr],
      h.drKey_self.ge⟩
  · exact Or.inl (by
      simp [selfCandidate, hself, h.bdr_eq, h.address, hbdr])

theorem beatsBdrs (h : inter.AfterElection dr bdr next)
    (hbdr : bdr = inter.ipInterfaceAddress)
    (hbeats : inter.BeatsBdrs routerId) : next.BeatsBdrs routerId := by
  intro b hb hlt
  exact hbeats b (h.rivalBdr_eq ▸ hb) ((h.bdrKey_self_ge hbdr).trans_lt hlt)

end AfterElection

/-! ## The roles of one call -/

/-- How one call of `call_election` leaves `dr` and `bdr`, by what the router
was before and by how it compares with its neighbors. -/
inductive Settles (inter : Interface) (routerId : UInt32) :
    UInt32 → UInt32 → Prop where
  | keepsDr (hdr : inter.dr = inter.ipInterfaceAddress)
      (hbeats : inter.BeatsDrs routerId) :
      Settles inter routerId inter.ipInterfaceAddress
        (roleAddress inter.rivalBdr)
  | losesDr (hdr : inter.dr = inter.ipInterfaceAddress) {d : Candidate}
      (hd : inter.rivalDr = some d)
      (hlt : (inter.selfCandidate routerId).drKey < d.drKey) :
      Settles inter routerId d.ip (roleAddress inter.rivalBdr)
  | backup (hdr : inter.dr ≠ inter.ipInterfaceAddress) {d : Candidate}
      (hd : inter.rivalDr = some d) (hbeats : inter.BeatsBdrs routerId) :
      Settles inter routerId d.ip inter.ipInterfaceAddress
  | other (hdr : inter.dr ≠ inter.ipInterfaceAddress) {d b : Candidate}
      (hd : inter.rivalDr = some d) (hb : inter.rivalBdr = some b)
      (hlt : (inter.selfCandidate routerId).bdrKey < b.bdrKey) :
      Settles inter routerId d.ip b.ip
  | becomesDr (hdr : inter.dr ≠ inter.ipInterfaceAddress)
      (hd : inter.rivalDr = none) (hbeats : inter.BeatsBdrs routerId) :
      Settles inter routerId inter.ipInterfaceAddress
        (roleAddress inter.rivalBdr)
  | alone (hdr : inter.dr ≠ inter.ipInterfaceAddress) {b : Candidate}
      (hd : inter.rivalDr = none) (hb : inter.rivalBdr = some b)
      (hlt : (inter.selfCandidate routerId).bdrKey < b.bdrKey) :
      Settles inter routerId b.ip b.ip

/-- The BDR of a pass in which the router beats the other candidates. -/
theorem election_snd_of_beats (hpri : inter.routerPriority ≠ 0)
    (hdr : inter.dr ≠ inter.ipInterfaceAddress)
    (hbeats : inter.BeatsBdrs routerId) :
    (inter.electionForDrAndNdr routerId false).2 =
      some (inter.selfCandidate routerId) := by
  rw [election_snd_of_not_dr hpri hdr]
  cases hb : inter.rivalBdr with
  | none => rfl
  | some b => exact if_neg (hbeats b hb)

/-- The BDR of a pass in which a neighbor beats the router. -/
theorem election_snd_of_lt (hpri : inter.routerPriority ≠ 0)
    (hdr : inter.dr ≠ inter.ipInterfaceAddress) {b : Candidate}
    (hb : inter.rivalBdr = some b)
    (hlt : (inter.selfCandidate routerId).bdrKey < b.bdrKey) :
    (inter.electionForDrAndNdr routerId false).2 = some b := by
  rw [election_snd_of_not_dr hpri hdr, hb]
  exact if_pos hlt

theorem declaredDr_of_beats (hpri : inter.routerPriority ≠ 0)
    (hdr : inter.dr = inter.ipInterfaceAddress)
    (hbeats : inter.BeatsDrs routerId) :
    inter.declaredDr routerId false =
      some (inter.selfCandidate routerId) := by
  rw [declaredDr_of_dr hpri hdr]
  cases hd : inter.rivalDr with
  | none => rfl
  | some d => exact if_neg (hbeats d hd)

theorem rivalDr_ip_ne (hfree : inter.AddressFree) {d : Candidate}
    (hd : inter.rivalDr = some d) : d.ip ≠ inter.ipInterfaceAddress :=
  hfree.ip_ne (List.mem_of_mem_filter (List.argmax_mem hd))

theorem rivalBdr_ip_ne (hfree : inter.AddressFree) {b : Candidate}
    (hb : inter.rivalBdr = some b) : b.ip ≠ inter.ipInterfaceAddress :=
  hfree.ip_ne (List.mem_of_mem_filter (List.argmax_mem hb))

theorem exists_of_not_beatsBdrs (h : ¬inter.BeatsBdrs routerId) :
    ∃ b, inter.rivalBdr = some b ∧
      (inter.selfCandidate routerId).bdrKey < b.bdrKey := by
  simpa [BeatsBdrs] using h

theorem exists_of_not_beatsDrs (h : ¬inter.BeatsDrs routerId) :
    ∃ d, inter.rivalDr = some d ∧
      (inter.selfCandidate routerId).drKey < d.drKey := by
  simpa [BeatsDrs] using h

/-! ## The loop -/

/-- The loop ends with these roles, after one pass or two. -/
def LoopSettles (inter : Interface) (routerId dr bdr : UInt32) : Prop :=
  ∃ passes, electionLoop routerId electionFuel inter false =
    some (.ok (passes, inter.setRoles dr bdr)) ∧ passes ≤ 2

/-- The last pass of a call that finds the router DR. -/
theorem electionLoop_of_declared
    (hdr : inter.dr = inter.ipInterfaceAddress) {d : Candidate}
    (hd : inter.declaredDr routerId false = some d) (fuel : ℕ)
    (hbdr : inter.ipInterfaceAddress = roleAddress inter.rivalBdr →
      inter.bdr = inter.ipInterfaceAddress) :
    electionLoop routerId (fuel + 1) inter false =
      some (.ok (1, inter.setRoles d.ip (roleAddress inter.rivalBdr))) := by
  have hpass := electionPass_of_declared hd
  rw [election_snd_of_dr hdr] at hpass
  exact electionLoop_stop fuel hpass (fun _ => hdr) hbdr

/-- The last pass of a call that makes the router BDR. -/
theorem electionLoop_of_backup (hfree : inter.AddressFree)
    (hpri : inter.routerPriority ≠ 0)
    (hdr : inter.dr ≠ inter.ipInterfaceAddress) {d : Candidate}
    (hd : inter.rivalDr = some d) (hbeats : inter.BeatsBdrs routerId)
    (hbdr : inter.bdr = inter.ipInterfaceAddress) (fuel : ℕ) :
    electionLoop routerId (fuel + 1) inter false =
      some (.ok (1, inter.setRoles d.ip inter.ipInterfaceAddress)) := by
  have hdeclared : inter.declaredDr routerId false = some d :=
    (declaredDr_of_not_declaring hdr).trans hd
  have hpass := electionPass_of_declared hdeclared
  rw [election_snd_of_beats hpri hdr hbeats] at hpass
  exact electionLoop_stop fuel hpass
    (fun hgain => absurd hgain.symm (rivalDr_ip_ne hfree hd)) fun _ => hbdr

/-- The loop when the router is DR.  It takes no part in the election of the
BDR, but where its address is 0, which stands for no BDR as well, it may seem
to become BDR. -/
theorem loopSettles_of_dr (hdr : inter.dr = inter.ipInterfaceAddress)
    {d : Candidate} (hd : inter.declaredDr routerId false = some d)
    (hagain : inter.ipInterfaceAddress = roleAddress inter.rivalBdr →
      electionLoop routerId 3
          (inter.setRoles d.ip (roleAddress inter.rivalBdr)) false =
        some (.ok (1, inter.setRoles d.ip (roleAddress inter.rivalBdr)))) :
    inter.LoopSettles routerId d.ip (roleAddress inter.rivalBdr) := by
  by_cases hgain : inter.ipInterfaceAddress = roleAddress inter.rivalBdr ∧
      inter.bdr ≠ inter.ipInterfaceAddress
  · have hpass := electionPass_of_declared hd
    rw [election_snd_of_dr hdr] at hpass
    exact ⟨2, electionLoop_gain_bdr 3 hpass (fun _ => hdr) hgain.1.symm
      hgain.2 (hagain hgain.1), le_rfl⟩
  · refine ⟨1, electionLoop_of_declared hdr hd 3 fun hrole => ?_,
      one_le_two⟩
    by_contra hold
    exact hgain ⟨hrole, hold⟩

/-- The loop when the router keeps the DR role. -/
theorem loopSettles_of_keepsDr (hpri : inter.routerPriority ≠ 0)
    (hdr : inter.dr = inter.ipInterfaceAddress)
    (hbeats : inter.BeatsDrs routerId) :
    inter.LoopSettles routerId inter.ipInterfaceAddress
      (roleAddress inter.rivalBdr) := by
  refine loopSettles_of_dr hdr (declaredDr_of_beats hpri hdr hbeats)
    fun hgain => ?_
  have hd' := @declaredDr_of_beats
    (inter.setRoles inter.ipInterfaceAddress (roleAddress inter.rivalBdr))
    routerId hpri rfl hbeats
  exact electionLoop_of_declared rfl hd' 2 fun _ => hgain.symm

/-- The loop when a neighbor takes the DR role from the router. -/
theorem loopSettles_of_losesDr (hfree : inter.AddressFree)
    (hpri : inter.routerPriority ≠ 0)
    (hdr : inter.dr = inter.ipInterfaceAddress) {d : Candidate}
    (hrival : inter.rivalDr = some d)
    (hlt : (inter.selfCandidate routerId).drKey < d.drKey) :
    inter.LoopSettles routerId d.ip (roleAddress inter.rivalBdr) := by
  have hd : inter.declaredDr routerId false = some d := by
    rw [declaredDr_of_dr hpri hdr, hrival]
    exact if_pos hlt
  refine loopSettles_of_dr hdr hd fun hgain => ?_
  have hnobody : (inter.setRoles d.ip
      (roleAddress inter.rivalBdr)).BeatsBdrs routerId := by
    intro b hb
    have hb' : inter.rivalBdr = some b := hb
    rw [hb'] at hgain
    exact absurd hgain.symm (rivalBdr_ip_ne hfree hb')
  have hagain := @electionLoop_of_backup
    (inter.setRoles d.ip (roleAddress inter.rivalBdr)) routerId hfree
    hpri (rivalDr_ip_ne hfree hrival) d hrival hnobody hgain.symm 2
  rw [hagain, setRoles_setRoles, ← hgain, setRoles_ipInterfaceAddress]

/-- The loop when the router is, or becomes, BDR. -/
theorem loopSettles_of_beats (hfree : inter.AddressFree)
    (hpri : inter.routerPriority ≠ 0)
    (hdr : inter.dr ≠ inter.ipInterfaceAddress) {d : Candidate}
    (hd : inter.rivalDr = some d) (hbeats : inter.BeatsBdrs routerId) :
    inter.LoopSettles routerId d.ip inter.ipInterfaceAddress := by
  by_cases hbdr : inter.bdr = inter.ipInterfaceAddress
  · exact ⟨1, electionLoop_of_backup hfree hpri hdr hd hbeats hbdr 3,
      one_le_two⟩
  · have hne := rivalDr_ip_ne hfree hd
    have hdeclared : inter.declaredDr routerId false = some d :=
      (declaredDr_of_not_declaring hdr).trans hd
    have hpass := electionPass_of_declared hdeclared
    rw [election_snd_of_beats hpri hdr hbeats] at hpass
    have hagain := @electionLoop_of_backup
      (inter.setRoles d.ip inter.ipInterfaceAddress) routerId hfree
      hpri hne d hd
      ((afterElection_setRoles inter _ _).beatsBdrs rfl hbeats) rfl 2
    exact ⟨2, electionLoop_gain_bdr 3 hpass (fun h => absurd h.symm hne) rfl
      hbdr hagain, le_rfl⟩

/-- Without a declared DR the elected BDR becomes DR. -/
theorem election_fst_of_no_dr (hdr : inter.dr ≠ inter.ipInterfaceAddress)
    (hd : inter.rivalDr = none) :
    (inter.electionForDrAndNdr routerId false).1 =
      (inter.electionForDrAndNdr routerId false).2 := by
  have hnone : inter.declaredDr routerId false = none :=
    (declaredDr_of_not_declaring hdr).trans hd
  rw [election_fst, hnone, Option.none_or]

/-- The loop when the router becomes DR: in the second pass, in which it is no
candidate for BDR, it stays so. -/
theorem loopSettles_of_becomesDr (hpri : inter.routerPriority ≠ 0)
    (hdr : inter.dr ≠ inter.ipInterfaceAddress)
    (hd : inter.rivalDr = none) (hbeats : inter.BeatsBdrs routerId) :
    inter.LoopSettles routerId inter.ipInterfaceAddress
      (roleAddress inter.rivalBdr) := by
  have hself := election_snd_of_beats hpri hdr hbeats
  have hpass := electionPass_eq_ok.mpr
    ⟨_, (election_fst_of_no_dr hdr hd).trans hself, rfl⟩
  rw [hself] at hpass
  have hnil : (inter.eligibleNeighbors.filter
      fun c => decide (c.dr = c.ip)) = [] := List.argmax_eq_none.mp hd
  have hdeclared := @declaredDr_of_declaring
    (inter.setRoles inter.ipInterfaceAddress inter.ipInterfaceAddress)
    routerId hpri rfl
  have hrivals : (inter.setRoles inter.ipInterfaceAddress
      inter.ipInterfaceAddress).eligibleNeighbors =
        inter.eligibleNeighbors := rfl
  rw [hrivals, hnil, List.nil_append, List.argmax_singleton] at hdeclared
  have hagain := electionPass_of_declared hdeclared
  rw [@election_snd_of_dr (inter.setRoles inter.ipInterfaceAddress
    inter.ipInterfaceAddress) routerId true rfl] at hagain
  exact ⟨2, electionLoop_gain_dr 3 hpass rfl hdr
    (electionLoop_stop 2 hagain (fun _ => rfl) fun _ => rfl), le_rfl⟩

/-- The loop ends as `Settles` says. -/
theorem Settles.loopSettles {dr bdr : UInt32} (hfree : inter.AddressFree)
    (hpri : inter.routerPriority ≠ 0) (h : inter.Settles routerId dr bdr) :
    inter.LoopSettles routerId dr bdr := by
  cases h with
  | keepsDr hdr hbeats => exact loopSettles_of_keepsDr hpri hdr hbeats
  | losesDr hdr hd hlt => exact loopSettles_of_losesDr hfree hpri hdr hd hlt
  | backup hdr hd hbeats => exact loopSettles_of_beats hfree hpri hdr hd hbeats
  | becomesDr hdr hd hbeats =>
      exact loopSettles_of_becomesDr hpri hdr hd hbeats
  | @other hdr d b hd hb hlt =>
      have hdeclared : inter.declaredDr routerId false = some d :=
        (declaredDr_of_not_declaring hdr).trans hd
      have hpass := electionPass_of_declared hdeclared
      rw [election_snd_of_lt hpri hdr hb hlt] at hpass
      exact ⟨1, electionLoop_stop 3 hpass
        (fun h => absurd h.symm (rivalDr_ip_ne hfree hd))
        (fun h => absurd h.symm (rivalBdr_ip_ne hfree hb)), one_le_two⟩
  | alone hdr hd hb hlt =>
      have hne := rivalBdr_ip_ne hfree hb
      have hbdr := election_snd_of_lt hpri hdr hb hlt
      have hpass := electionPass_eq_ok.mpr
        ⟨_, (election_fst_of_no_dr hdr hd).trans hbdr, rfl⟩
      rw [hbdr] at hpass
      exact ⟨1, electionLoop_stop 3 hpass (fun h => absurd h.symm hne)
        (fun h => absurd h.symm hne), one_le_two⟩

/-- Without a BDR the field is 0, which is nobody's address. -/
theorem roleAddress_rivalBdr_ne (hfree : inter.AddressFree)
    (haddr : inter.ipInterfaceAddress ≠ 0) :
    roleAddress inter.rivalBdr ≠ inter.ipInterfaceAddress := by
  cases hb : inter.rivalBdr with
  | none => exact haddr.symm
  | some b => exact rivalBdr_ip_ne hfree hb

/-- The router does not become both. -/
theorem Settles.not_both {dr bdr : UInt32} (hfree : inter.AddressFree)
    (haddr : inter.ipInterfaceAddress ≠ 0)
    (h : inter.Settles routerId dr bdr) :
    ¬(dr = inter.ipInterfaceAddress ∧ bdr = inter.ipInterfaceAddress) := by
  rintro ⟨hdr, hbdr⟩
  cases h with
  | keepsDr | becomesDr => exact roleAddress_rivalBdr_ne hfree haddr hbdr
  | losesDr _ hd | backup _ hd | other _ hd =>
      exact rivalDr_ip_ne hfree hd hdr
  | alone _ _ hb => exact rivalBdr_ip_ne hfree hb hdr

/-- Every call settles in one of these ways. -/
theorem exists_settles (inter : Interface) (routerId : UInt32) :
    ∃ dr bdr, inter.Settles routerId dr bdr := by
  by_cases hdr : inter.dr = inter.ipInterfaceAddress
  · by_cases hbeats : inter.BeatsDrs routerId
    · exact ⟨_, _, .keepsDr hdr hbeats⟩
    · obtain ⟨d, hd, hlt⟩ := exists_of_not_beatsDrs hbeats
      exact ⟨_, _, .losesDr hdr hd hlt⟩
  · by_cases hbeats : inter.BeatsBdrs routerId
    · cases hd : inter.rivalDr with
      | none => exact ⟨_, _, .becomesDr hdr hd hbeats⟩
      | some d => exact ⟨_, _, .backup hdr hd hbeats⟩
    · obtain ⟨b, hb, hlt⟩ := exists_of_not_beatsBdrs hbeats
      cases hd : inter.rivalDr with
      | none => exact ⟨_, _, .alone hdr hd hb hlt⟩
      | some d => exact ⟨_, _, .other hdr hd hb hlt⟩

theorem Settles.callElection {dr bdr : UInt32} (hfree : inter.AddressFree)
    (hpri : inter.routerPriority ≠ 0) (h : inter.Settles routerId dr bdr) :
    inter.callElection routerId =
      .ok (inter.finishElection (inter.setRoles dr bdr)) := by
  obtain ⟨passes, hloop, -⟩ := h.loopSettles hfree hpri
  have hrun := electionLoop_runElection inter routerId
  rw [hloop, Option.some.injEq] at hrun
  rw [Interface.callElection, ← hrun, Outcome.map_ok]

end Interface
end OspfLite
