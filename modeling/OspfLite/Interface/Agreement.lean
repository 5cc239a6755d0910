import OspfLite.Interface.Election
import OspfLite.Lib.GreatestKey

/-!
# The election computes a maximum

The BDR loop and the DR loop are scans for the greatest key: first whether a
candidate declares itself BDR, then its priority, then its id.  With distinct
ids the result depends on the set of candidates only, so routers that see the
same candidates elect the same pair.
-/

namespace OspfLite
namespace Candidate

/-- The order among candidates for DR: `(pri, id)`. -/
def drKey (c : Candidate) : ℕ ×ₗ ℕ :=
  toLex (c.pri.toNat, c.id.toNat)

/-- The order among candidates for BDR: `(declares itself BDR, pri, id)`. -/
def bdrKey (c : Candidate) : Bool ×ₗ ℕ ×ₗ ℕ :=
  toLex (decide (c.bdr = c.ip), c.drKey)

theorem outranks_iff_drKey_lt (a b : Candidate) :
    a.Outranks b ↔ b.drKey < a.drKey := by
  rw [Outranks, drKey, drKey, Prod.Lex.toLex_lt_toLex]
  simp only [UInt8.lt_iff_toNat_lt, UInt32.lt_iff_toNat_lt,
    ← UInt8.toNat_inj]
  constructor
  · rintro (h | ⟨h, h'⟩)
    · exact Or.inl h
    · exact Or.inr ⟨h.symm, h'⟩
  · rintro (h | ⟨h, h'⟩)
    · exact Or.inl h
    · exact Or.inr ⟨h.symm, h'⟩

theorem bdrKey_lt_iff (a b : Candidate) :
    b.bdrKey < a.bdrKey ↔
      (b.bdr ≠ b.ip ∧ a.bdr = a.ip) ∨
        ((b.bdr = b.ip ↔ a.bdr = a.ip) ∧ a.Outranks b) := by
  rw [outranks_iff_drKey_lt, bdrKey, bdrKey, Prod.Lex.toLex_lt_toLex]
  by_cases hb : b.bdr = b.ip <;> by_cases ha : a.bdr = a.ip <;>
    simp [hb, ha]

theorem id_eq_of_drKey_eq {a b : Candidate} (h : a.drKey = b.drKey) :
    a.id = b.id := by
  have hpair := congrArg ofLex h
  simp only [drKey, ofLex_toLex, Prod.mk.injEq] at hpair
  exact UInt32.toNat_inj.mp hpair.2

theorem id_eq_of_bdrKey_eq {a b : Candidate} (h : a.bdrKey = b.bdrKey) :
    a.id = b.id := by
  have hpair := congrArg ofLex h
  simp only [bdrKey, ofLex_toLex, Prod.mk.injEq] at hpair
  exact id_eq_of_drKey_eq hpair.2

/-- The BDR loop is a scan for the greatest `bdrKey` among the candidates
that do not declare themselves DR. -/
theorem foldl_bdrStep (candidates : List Candidate) :
    candidates.foldl bdrStep none =
      (candidates.filter fun c => decide (c.dr ≠ c.ip)).argmax bdrKey := by
  apply foldl_eq_argmax
  · intro best c hc
    simp [bdrStep, not_not.mp hc]
  · intro c hc
    simp [bdrStep, hc]
  · intro b c hc
    have hlt := bdrKey_lt_iff c b
    by_cases hb : b.bdr = b.ip
    · by_cases hc' : c.bdr = c.ip <;> simp [bdrStep, hc, hb, hc', hlt]
    · by_cases hc' : c.bdr = c.ip <;> simp [bdrStep, hc, hb, hc', hlt]

/-- The DR loop is a scan for the greatest `drKey` among the candidates that
declare themselves DR. -/
theorem foldl_drStep (candidates : List Candidate) :
    candidates.foldl drStep none =
      (candidates.filter fun c => decide (c.dr = c.ip)).argmax drKey := by
  apply foldl_eq_argmax
  · intro best c hc
    simp [drStep, hc]
  · intro c hc
    simp [drStep, hc]
  · intro d c hc
    simp [drStep, hc, outranks_iff_drKey_lt]

/-- Distinct ids give distinct keys. -/
theorem eq_of_id_eq {candidates : List Candidate}
    (hids : (candidates.map Candidate.id).Nodup) {a b : Candidate}
    (ha : a ∈ candidates) (hb : b ∈ candidates) (h : a.id = b.id) : a = b :=
  List.inj_on_of_nodup_map hids ha hb h

end Candidate

namespace Interface

/-! ## Candidates -/

section Candidates

variable {inter : Interface} {routerId : UInt32} {noBdr : Bool}
  {c : Candidate}

theorem mem_eligibleNeighbors :
    c ∈ inter.eligibleNeighbors ↔
      ∃ n ∈ inter.neighbors, n.Eligible ∧ n.candidate = c := by
  simp [eligibleNeighbors, and_assoc]

theorem mem_bdrCandidates :
    c ∈ inter.bdrCandidates routerId noBdr ↔
      (noBdr = false ∧ inter.routerPriority ≠ 0 ∧
        c = inter.selfCandidate routerId) ∨
      c ∈ inter.eligibleNeighbors := by
  by_cases h : noBdr = false ∧ inter.routerPriority ≠ 0
  · simp [bdrCandidates, h]
  · rw [bdrCandidates, if_neg h]
    constructor
    · exact Or.inr
    · rintro (⟨hno, hpri, -⟩ | hc)
      · exact absurd ⟨hno, hpri⟩ h
      · exact hc

theorem mem_drCandidates :
    c ∈ inter.drCandidates routerId noBdr ↔
      (inter.routerPriority ≠ 0 ∧ c = inter.selfCandidate routerId) ∨
      c ∈ inter.eligibleNeighbors := by
  cases noBdr <;> by_cases h : inter.routerPriority = 0 <;>
    simp [drCandidates, bdrCandidates, h, or_comm]

end Candidates

/-- The hypotheses of the election: `router_priority` fits the eight bits of
`pri`, and no two candidates share an id or an address. -/
structure Electable (inter : Interface) (routerId : UInt32) : Prop where
  priority : inter.routerPriority.toNat ≤ 255
  ids : ((inter.bdrCandidates routerId false).map Candidate.id).Nodup
  ips : ((inter.bdrCandidates routerId false).map Candidate.ip).Nodup

@[simp] theorem drCandidates_false (inter : Interface) (routerId : UInt32) :
    inter.drCandidates routerId false = inter.bdrCandidates routerId false := by
  simp [drCandidates]

theorem selfCandidate_pri {inter : Interface} {routerId : UInt32}
    (h : inter.Electable routerId) :
    (inter.selfCandidate routerId).pri.toNat = inter.routerPriority.toNat := by
  have hpri := h.priority
  simp only [selfCandidate, UInt32.toNat_toUInt8]
  omega

/-- The elected BDR is the greatest candidate that does not declare itself
DR. -/
theorem election_bdr_greatest {inter : Interface} {routerId : UInt32}
    (h : inter.Electable routerId) :
    IsGreatestBy Candidate.bdrKey (fun c => c.dr ≠ c.ip)
      (inter.bdrCandidates routerId false)
      (inter.electionForDrAndNdr routerId false).2 := by
  simp only [electionForDrAndNdr, Candidate.foldl_bdrStep]
  apply isGreatestBy_argmax
  intro a ha b hb hkey
  exact Candidate.eq_of_id_eq h.ids ha hb (Candidate.id_eq_of_bdrKey_eq hkey)

/-- The elected DR is the greatest candidate that declares itself DR, or the
BDR when there is none. -/
theorem election_dr_greatest {inter : Interface} {routerId : UInt32}
    (h : inter.Electable routerId) :
    ∃ declared,
      IsGreatestBy Candidate.drKey (fun c => c.dr = c.ip)
        (inter.bdrCandidates routerId false) declared ∧
      (inter.electionForDrAndNdr routerId false).1 =
        declared.or (inter.electionForDrAndNdr routerId false).2 := by
  refine ⟨((inter.bdrCandidates routerId false).filter
    fun c => decide (c.dr = c.ip)).argmax Candidate.drKey, ?_, ?_⟩
  · apply isGreatestBy_argmax
    intro a ha b hb hkey
    exact Candidate.eq_of_id_eq h.ids ha hb (Candidate.id_eq_of_drKey_eq hkey)
  · simp only [electionForDrAndNdr, drCandidates_false,
      Candidate.foldl_drStep]
    cases ((inter.bdrCandidates routerId false).filter
      fun c => decide (c.dr = c.ip)).argmax Candidate.drKey <;> rfl

/-- Routers with the same candidates elect the same pair. -/
theorem election_eq_of_same_candidates {inter inter' : Interface}
    {routerId routerId' : UInt32} (h : inter.Electable routerId)
    (h' : inter'.Electable routerId')
    (hsame : ∀ c, c ∈ inter'.bdrCandidates routerId' false ↔
      c ∈ inter.bdrCandidates routerId false) :
    inter'.electionForDrAndNdr routerId' false =
      inter.electionForDrAndNdr routerId false := by
  have hbdr :=
    (election_bdr_greatest h').unique hsame (election_bdr_greatest h)
  obtain ⟨declared, hdeclared, hdr⟩ := election_dr_greatest h
  obtain ⟨declared', hdeclared', hdr'⟩ := election_dr_greatest h'
  have heq := hdeclared'.unique hsame hdeclared
  apply Prod.ext
  · rw [hdr, hdr', heq, hbdr]
  · exact hbdr

/-- Permuting the neighbor list permutes the candidates. -/
theorem bdrCandidates_perm {inter : Interface} {neighbors : List Neighbor}
    (hperm : neighbors.Perm inter.neighbors) (routerId : UInt32)
    (noBdr : Bool) :
    (({ inter with neighbors := neighbors } : Interface).bdrCandidates
      routerId noBdr).Perm (inter.bdrCandidates routerId noBdr) := by
  have heligible :
      (({ inter with neighbors := neighbors } :
        Interface).eligibleNeighbors).Perm inter.eligibleNeighbors :=
    (hperm.filter _).map _
  simp only [bdrCandidates]
  split
  · exact heligible.cons _
  · exact heligible

theorem Electable.of_perm {inter : Interface} {routerId : UInt32}
    (h : inter.Electable routerId) {neighbors : List Neighbor}
    (hperm : neighbors.Perm inter.neighbors) :
    ({ inter with neighbors := neighbors } : Interface).Electable
      routerId where
  priority := h.priority
  ids := (((bdrCandidates_perm hperm routerId false).map _).nodup_iff).mpr
    h.ids
  ips := (((bdrCandidates_perm hperm routerId false).map _).nodup_iff).mpr
    h.ips

/-- Agreement and order independence of the election.  The candidates are the
router itself, if its priority is not zero, and the neighbors in 2WAY or above
with a priority other than zero. -/
theorem electionForDrAndNdr_agreement (inter : Interface) (routerId : UInt32)
    (h : inter.Electable routerId) :
    (inter.selfCandidate routerId).pri.toNat = inter.routerPriority.toNat ∧
    (∀ c, c ∈ inter.bdrCandidates routerId false ↔
      (inter.routerPriority ≠ 0 ∧ c = inter.selfCandidate routerId) ∨
        ∃ n ∈ inter.neighbors,
          (.twoWay ≤ n.state ∧ n.pri ≠ 0) ∧ n.candidate = c) ∧
    IsGreatestBy Candidate.bdrKey (fun c => c.dr ≠ c.ip)
      (inter.bdrCandidates routerId false)
      (inter.electionForDrAndNdr routerId false).2 ∧
    (∃ declared,
      IsGreatestBy Candidate.drKey (fun c => c.dr = c.ip)
        (inter.bdrCandidates routerId false) declared ∧
      (inter.electionForDrAndNdr routerId false).1 =
        declared.or (inter.electionForDrAndNdr routerId false).2) ∧
    (∀ neighbors : List Neighbor, neighbors.Perm inter.neighbors →
      ({ inter with neighbors := neighbors } : Interface).electionForDrAndNdr
        routerId false = inter.electionForDrAndNdr routerId false) ∧
    (∀ (inter' : Interface) (routerId' : UInt32),
      inter'.Electable routerId' →
      (∀ c, c ∈ inter'.bdrCandidates routerId' false ↔
        c ∈ inter.bdrCandidates routerId false) →
      inter'.electionForDrAndNdr routerId' false =
        inter.electionForDrAndNdr routerId false) := by
  refine ⟨selfCandidate_pri h, fun c => ?_, election_bdr_greatest h,
    election_dr_greatest h, ?_, ?_⟩
  · rw [mem_bdrCandidates, mem_eligibleNeighbors, and_iff_right rfl]
    exact Iff.rfl
  · intro neighbors hperm
    exact election_eq_of_same_candidates h (h.of_perm hperm)
      fun c => (bdrCandidates_perm hperm routerId false).mem_iff
  · intro inter' routerId' h' hsame
    exact election_eq_of_same_candidates h h' hsame

/-- A segment with the router itself and one neighbor, both eligible. -/
def twoRouterSegment : Interface :=
  { Interface.new 0x0a000001 0xffffff00 with
    neighbors := [{ Neighbor.new ⟨0, 0, 0, false, false, false⟩ 0x0a000002 with
      state := .twoWay
      id := 0x02020202
      pri := 1 }] }

theorem electionForDrAndNdr_agreement_twoRouterSegment :
    twoRouterSegment.Electable 0x08080808 ∧
      IsGreatestBy Candidate.bdrKey (fun c => c.dr ≠ c.ip)
        (twoRouterSegment.bdrCandidates 0x08080808 false)
        (twoRouterSegment.electionForDrAndNdr 0x08080808 false).2 :=
  have h : twoRouterSegment.Electable 0x08080808 :=
    ⟨by decide, by decide, by decide⟩
  ⟨h, (electionForDrAndNdr_agreement twoRouterSegment 0x08080808 h).2.2.1⟩

end Interface
end OspfLite
