import OspfLite.Router.Settled
import OspfLite.Segment.Agreement

/-!
# The adjacencies of a segment

The routers of a segment that know both roles have adjacencies with exactly
those routers for which one of the two has a role.  So two of them always agree
on whether there is an adjacency between them.
-/

namespace OspfLite
namespace Segment

variable {ι : Type} {seg : Segment ι} {M S : ι} {net net' : Net ι} {i j : ι}
  {r : Router}

/-- The router has, or is building, an adjacency with the neighbor at the
address. -/
def CountsAdjacent (r : Router) (address : UInt32) : Prop :=
  ∃ n ∈ r.interface.neighbors, n.ip = address ∧ .exStart ≤ n.state

/-- The router has ended WAITING, and it is the first one or has heard that
that one is DR. -/
def Informed (seg : Segment ι) (M i : ι) (r : Router) : Prop :=
  r.interface.state ≠ .waiting ∧ (i = M ∨ seg.HasHeard M r)

/-- The test whether there is to be an adjacency, when both roles are
known. -/
theorem adjacent_iff (h : seg.Settling M S net)
    (hinformed : seg.Informed M i (net.node i)) :
    (net.node i).interface.Adjacent (seg.address j) ↔
      i = M ∨ i = S ∨ j = M ∨ j = S := by
  have hroles : (net.node i).interface.dr = seg.address M ∧
      (net.node i).interface.bdr = seg.address S := by
    rcases h.roles i with ⟨hwaiting, -⟩ | ⟨-, hassigns⟩
    · exact absurd hwaiting hinformed.1
    · apply hassigns.known
      rw [Knows, h.declaresDr_iff]
      exact hinformed.2
  have hsame := (h.sound.node i).same
  have htype : (net.node i).interface.type = .broadcast :=
    hsame.interface.type
  simp only [Interface.Adjacent, htype, hroles.1, hroles.2,
    address_of_same hsame, seg.address_injective.eq_iff, reduceCtorEq,
    false_or, @eq_comm _ M, @eq_comm _ S]

section Runs

variable [DecidableEq ι]

/-- In every run the neighbors of every router are settled. -/
theorem settled_of_reaches (h : Reaches next Allowed seg.start net) (i : ι) :
    (net.node i).interface.AllSettled := by
  obtain ⟨es, halong, hrun⟩ := h
  refine runFrom_invariant
    (I := fun net : Net ι => ∀ i, (net.node i).interface.AllSettled)
    (fun _ _ _ h _ hnext i => ?_) (fun i n hn => ?_) halong hrun i
  · rcases Network.node_next hnext i with hsame | ⟨a, ha⟩
    · exact hsame ▸ h i
    · exact Router.step_settled (h i) ha
  · cases hn

/-- What a run adds to what could be reached before. -/
theorem reaches_of_run {es : List (Event ι)} (hformed : seg.Formed net)
    (hsteady : Along next Steady net es)
    (hrun : runFrom next net es = .ok net') :
    Reaches next Allowed seg.start net' :=
  runFrom_invariant (fun _ _ _ h hP hnext => h.next hP.allowed hnext)
    hformed.reached hsteady hrun

variable [Fintype ι]

/-- Once the routers have met, a router that knows both roles has an adjacency
with another one if and only if one of the two has a role, and if the other one
knows both roles too, it agrees. -/
theorem adjacencies_of_run {es : List (Event ι)}
    (hcard : Fintype.card ι ≤ 360) (hleads : seg.Leads M S)
    (hformed : seg.Formed net) (hsteady : Along next Steady net es)
    (hrun : runFrom next net es = .ok net') (hne : i ≠ j)
    (hi : seg.Informed M i (net'.node i)) :
    (CountsAdjacent (net'.node i) (seg.address j) ↔
        i = M ∨ i = S ∨ j = M ∨ j = S) ∧
      (seg.Informed M j (net'.node j) →
        (CountsAdjacent (net'.node i) (seg.address j) ↔
          CountsAdjacent (net'.node j) (seg.address i))) := by
  have h := settling_of_run hcard hleads hformed hsteady hrun
  have hreach := reaches_of_run hformed hsteady hrun
  have hcounts : ∀ i j, i ≠ j → seg.Informed M i (net'.node i) →
      (CountsAdjacent (net'.node i) (seg.address j) ↔
        i = M ∨ i = S ∨ j = M ∨ j = S) := by
    intro i j hne hi
    rw [← adjacent_iff h hi]
    have hsettled := settled_of_reaches hreach i
    constructor
    · rintro ⟨n, hn, hip, hstate⟩
      exact hip ▸ (hsettled n hn).adjacent hstate
    · intro hadj
      obtain ⟨c, hc⟩ := h.all i j hne.symm
      have hcip := Interface.saidBy_ip hc
      obtain ⟨n, hn, rfl⟩ := Interface.mem_of_saidBy hc
      have hip : n.ip = seg.address j := hcip
      refine ⟨n, hn, hip, ?_⟩
      have htwo := (h.company i).twoWay n hn
      have hnot : n.state ≠ .twoWay := fun heq =>
        (hsettled n hn).twoWay heq (hip.symm ▸ hadj)
      generalize n.state = s at htwo hnot
      revert htwo hnot
      cases s <;> decide
  refine ⟨hcounts i j hne hi, fun hj => ?_⟩
  rw [hcounts i j hne hi, hcounts j i hne.symm hj]
  tauto

theorem adjacencies_of_run_pair :
    ∃ net : Net Bool, CountsAdjacent (net.node true) 0x0A000001 := by
  obtain ⟨net, net', hformed, ⟨es, hsteady, hrun⟩, hended⟩ :=
    exists_ended_pair
  exact ⟨net', (adjacencies_of_run (by decide) pair_leads hformed hsteady hrun
    (show true ≠ false by decide) ⟨hended true, Or.inl rfl⟩).1.mpr
      (Or.inl rfl)⟩

end Runs

end Segment
end OspfLite
