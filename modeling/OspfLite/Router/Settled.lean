import OspfLite.Router.Adjacency
import OspfLite.Router.Bidirectional

/-!
# Adjacencies and the steps of the process

Whatever the router takes in, its neighbors stay settled: there is an
adjacency with those for which there is to be one, and with no others.
-/

namespace OspfLite
namespace Neighbor

variable {n n' : Neighbor} {inter : Interface}

/-- What counts for an adjacency is the same in both records. -/
theorem Settled.bystands {inter' : Interface} (h : n.Settled inter)
    (hby : n.Bystands n')
    (hadj : ∀ ip, inter'.Adjacent ip ↔ inter.Adjacent ip) :
    n'.Settled inter' := by
  have hip : n'.ip = n.ip := hby.ip
  constructor
  · intro htwo
    rw [hadj, hip]
    apply h.twoWay
    refine le_antisymm (not_lt.mp fun hlt => ?_)
      (hby.twoWay.mp (le_of_eq htwo.symm))
    have hlow : n.state < .exStart := by
      rw [← not_le, ← hby.exStart, htwo]
      decide
    generalize n.state = s at hlt hlow
    revert hlt hlow
    cases s <;> decide
  · rw [hby.exStart, hadj, hip]
    exact h.adjacent

theorem eventInactivityTimer_settled (inter : Interface) (n : Neighbor) :
    n.eventInactivityTimer.1.Settled inter := by
  apply settled_of_lt
  rw [eventInactivityTimer_state]
  decide

end Neighbor

namespace Interface

variable {inter next : Interface} {routerId : UInt32} {uninit : Uninit}
  {now : ℤ} {ip : UInt32} {fields : HelloFields} {listed : Bool}

/-- That the neighbors are settled, as an invariant. -/
theorem invariant_settled (routerId : UInt32) :
    Invariant routerId AllSettled where
  alike := by
    intro inter next halike h
    refine forall_mem_of_forall₂ (fun n n' hby hn => ?_) halike.bystand h
    refine hn.bystands hby fun ip => ?_
    rw [halike.rest]
    exact Iff.rfl
  elects := by
    intro inter next helects h
    have hsettled := finishElection_setRoles_settled h next.dr next.bdr
    obtain ⟨hconfig, -, hdr, hbdr⟩ :=
      finishElection_spec inter next.dr next.bdr
    refine hsettled.congr helects.records fun ip => ?_
    simp only [Adjacent, helects.config.type, helects.config.address,
      hconfig.type, hconfig.address, hdr, hbdr]
  expires := by
    intro inter i n hn h m hm
    rcases List.mem_or_eq_of_mem_set hm with hold | rfl
    · exact (h m hold).congr rfl Iff.rfl
    · exact n.eventInactivityTimer_settled _
  timeout := fun _ h => h.congr rfl fun _ => Iff.rfl

/-- Taking in a Hello leaves the neighbors settled. -/
theorem AllSettled.heardHello (h : inter.AllSettled) (uninit : Uninit)
    (now : ℤ) (ip : UInt32) (fields : HelloFields) (listed : Bool) :
    (inter.heardHello uninit now ip fields listed).AllSettled := by
  have hold : (inter.helloNeighbor uninit ip).Settled inter := by
    rw [helloNeighbor]
    cases hfind : inter.findNeighbor ip with
    | some n => exact h n (List.mem_of_find?_eq_some hfind)
    | none =>
        apply Neighbor.settled_of_lt
        exact show NeighborState.down < .twoWay by decide
  generalize hk : inter.helloNeighbor uninit ip = k at hold
  have hhello := (Neighbor.handle_settled hold LSDB.empty now .helloReceived).1
  have hwritten : ((k.eventHelloReceived now).writeHello fields).Settled
      inter := hhello.congr rfl Iff.rfl
  have hrest : ∀ a, (inter.ensureNeighbor uninit ip).Adjacent a ↔
      inter.Adjacent a := by
    intro a
    rw [ensureNeighbor]
    split_ifs
    · exact Iff.rfl
    · exact Iff.rfl
  have hnew : (inter.heardNeighbor uninit now ip fields listed).Settled
      inter := by
    rw [heardNeighbor, hk]
    split_ifs
    · have hensured := hwritten.congr rfl (hrest _)
      have htwo := (Neighbor.handle_settled hensured LSDB.empty now
        .twoWayReceived).1
      exact htwo.congr rfl (hrest _).symm
    · exact (Neighbor.handle_settled hwritten LSDB.empty now
        .oneWayReceived).1
  rw [heardHello_rest]
  intro n hn
  rcases mem_heardHello hn with hin | rfl
  · exact (h n hin).congr rfl Iff.rfl
  · exact hnew.congr rfl Iff.rfl

end Interface

namespace Router

variable {r r' : Router}

/-- Every step keeps the neighbors settled. -/
theorem step_settled {step : Step} (h : r.interface.AllSettled)
    (hstep : r.step step = .ok r') : r'.interface.AllSettled := by
  refine step_keeps (Interface.invariant_settled r.routerId) h ?_ hstep
  cases step with
  | frame now packet =>
      intro _
      refine ⟨fun _ listed _ => h.heardHello _ _ _ _ _, fun _ => ?_⟩
      exact h.modifyNeighbor fun n hn =>
        (Neighbor.handle_settled hn r.lsdb now .twoWayReceived).1
  | _ => trivial

end Router
end OspfLite
