import OspfLite.Segment.Settling

/-!
# Agreement on the Designated Router

The routers of a segment have met while all of them were WAITING.  From then
on, whatever else they receive and in whichever order they end WAITING, only
the first router by id is ever DR, only the second one BDR, and a router that
has ended WAITING and has heard that the first one is DR has both roles right.
-/

namespace OspfLite
namespace Segment

variable {ι : Type} {seg : Segment ι} {M S : ι} {net net' : Net ι} {i j : ι}
  {inter : Interface} {r r' m : Router}

/-! ## Before the routers have met -/

/-- The interface is WAITING and has no roles, or it holds elections. -/
def Phase (inter : Interface) : Prop :=
  (inter.state = .waiting ∧ inter.dr = 0 ∧ inter.bdr = 0) ∨ inter.Elected

theorem Phase.of_waiting (h : Phase inter)
    (hwaiting : inter.state = .waiting) : inter.dr = 0 ∧ inter.bdr = 0 := by
  rcases h with ⟨-, hroles⟩ | helected
  · exact hroles
  · rw [Interface.Elected, hwaiting] at helected
    exact absurd helected (by decide)

theorem phase_step {a : Router.Step} (h : Phase r.interface)
    (hr' : r.step a = .ok r') : Phase r'.interface :=
  Router.step_roles (P := fun state dr bdr =>
    (state = .waiting ∧ dr = 0 ∧ bdr = 0) ∨
      (state = .dr ∨ state = .backup ∨ state = .drOther))
    (fun _ _ _ hrole => Or.inr hrole) h hr'

theorem not_waiting_step {a : Router.Step}
    (h : r.interface.state ≠ .waiting) (hr' : r.step a = .ok r') :
    r'.interface.state ≠ .waiting := by
  refine Router.step_roles (P := fun state _ _ => state ≠ .waiting)
    (fun state _ _ hrole => ?_) h hr'
  rcases hrole with rfl | rfl | rfl
  · decide
  · decide
  · decide

theorem phase_preserves :
    Network.Preserves Router.step id NoHello Brings
      (fun _ (_ : ι) r => Phase r.interface)
      (fun _ m => Phase m.interface) where
  mono := fun _ _ _ _ _ h => h
  send := fun _ _ _ h => h
  act := fun _ _ _ _ _ h hr' => phase_step h hr'
  hear := fun _ _ _ _ _ _ _ _ _ _ h hr' => phase_step h hr'

/-- The router has heard from `M` that it is DR. -/
def HasHeard (seg : Segment ι) (M : ι) (r : Router) : Prop :=
  ∃ n ∈ r.interface.neighbors, n.ip = seg.address M ∧ n.dr = seg.address M

theorem Settling.declaresDr_iff (h : seg.Settling M S net) :
    (net.node i).interface.DeclaresDr (seg.address M) ↔
      seg.HasHeard M (net.node i) := by
  constructor
  · rintro ⟨c, hc, hdr⟩
    have hip := Interface.saidBy_ip hc
    obtain ⟨n, hn, rfl⟩ := Interface.mem_of_saidBy hc
    exact ⟨n, hn, hip, hdr.trans hip⟩
  · rintro ⟨n, hn, hip, hdr⟩
    have hfind := (h.sound.node i).unique.find hn
    rw [hip] at hfind
    exact ⟨n.candidate, Option.map_eq_some_iff.mpr ⟨n, hfind, rfl⟩,
      hdr.trans hip.symm⟩

section Runs

variable [DecidableEq ι]

/-- A router does not return to WAITING, and while it is WAITING it has not
declared anything. -/
structure Phases (net : Net ι) : Prop where
  bounded : net.Bounded
  phase : net.Sound (fun _ _ r => Phase r.interface)
    (fun _ m => Phase m.interface)
  persists : ∀ i,
    net.Persists (fun m => m.interface.state ≠ .waiting) id i

theorem Phases.next {e : Event ι} (h : Phases net)
    (hallowed : Allowed net e) (hnext : next net e = .ok net') :
    Phases net' := by
  refine ⟨h.bounded.next hallowed hnext,
    h.phase.next phase_preserves hallowed hnext,
    fun i => (h.persists i).next (fun hD => ?_) hnext⟩
  rcases Network.node_next hnext i with hsame | ⟨a, ha⟩
  · rwa [hsame]
  · exact not_waiting_step hD ha

theorem phases_of_reaches (h : Reaches next Allowed seg.start net) :
    Phases net := by
  obtain ⟨es, halong, hrun⟩ := h
  refine runFrom_invariant (fun _ _ _ h hallowed hnext => h.next hallowed hnext)
    ?_ halong hrun
  refine ⟨fun _ _ => le_rfl, ⟨fun i => Or.inl ⟨rfl, rfl, rfl⟩, ?_⟩,
    fun i => ⟨List.Pairwise.nil, ?_⟩⟩
  · intro i m hm
    cases hm
  · intro m hm
    cases hm

/-- All routers have met while they are WAITING, and the Hellos that are still
to be heard list those they are for. -/
structure Formed (seg : Segment ι) (net : Net ι) : Prop where
  reached : Reaches next Allowed seg.start net
  waiting : ∀ i, (net.node i).interface.state = .waiting
  met : ∀ i j, j ≠ i → CountsTwoWay (net.node i) (seg.address j)
  listed : ∀ i j, j ≠ i →
    net.ToCome (fun m => seg.routerId i ∈ m.helloNeighbors) i j

/-- Nobody has declared anything. -/
theorem Formed.undeclared (h : seg.Formed net) :
    ∀ i, ∀ m ∈ net.sent i, m.interface.dr = 0 ∧ m.interface.bdr = 0 := by
  intro i m hm
  have hphases := phases_of_reaches h.reached
  refine (hphases.phase.message i m hm).of_waiting ?_
  by_contra hnot
  exact (hphases.persists i).node m hm hnot (h.waiting i)

theorem Formed.settling (h : seg.Formed net) (hleads : seg.Leads M S) :
    seg.Settling M S net := by
  obtain ⟨es, halong, hrun⟩ := h.reached
  have hsound := sound_of_run halong hrun
  have hphases := phases_of_reaches h.reached
  have hzero := h.undeclared
  refine ⟨hsound, fun i => ⟨(hsound.node i).unique, fun n hn => ?_,
      fun n hn => ?_⟩, fun i j hne => ?_, h.listed,
    fun i => Or.inl ⟨h.waiting i,
      (hphases.phase.node i).of_waiting (h.waiting i)⟩,
    fun j m hm hdr => ?_, fun j m hm hbdr => ?_, ⟨?_, fun m hm hdr => ?_⟩,
    fun i hdecl => ?_⟩
  · obtain ⟨j, hne, hip, -⟩ := (hsound.node i).exists_router hn
    obtain ⟨n', hn', hip', htwo⟩ := h.met i j hne
    have hsame : n' = n := by
      have hfind := (hsound.node i).unique.find hn
      have hfind' := (hsound.node i).unique.find hn'
      rw [hip', ← hip, hfind, Option.some.injEq] at hfind'
      exact hfind'.symm
    exact hsame ▸ htwo
  · obtain ⟨j, -, -, -, hpri, -⟩ := (hsound.node i).knows.neighbors n hn
    exact hpri
  · obtain ⟨n, hn, hip, -⟩ := h.met i j hne
    have hfind := (hsound.node i).unique.find hn
    rw [hip] at hfind
    exact ⟨n.candidate, Option.map_eq_some_iff.mpr ⟨n, hfind, rfl⟩⟩
  · exact absurd (hdr.symm.trans (hzero j m hm).1) (hleads.nonzero j)
  · exact absurd (hbdr.symm.trans (hzero j m hm).2) (hleads.nonzero j)
  · refine List.pairwise_of_forall_mem_list fun m hm _ _ hdr => ?_
    exact absurd (hdr.symm.trans (hzero M m hm).1) (hleads.nonzero M)
  · exact absurd (hdr.symm.trans (hzero M m hm).1) (hleads.nonzero M)
  · obtain ⟨c, hc, hdr⟩ := hdecl
    have hip := Interface.saidBy_ip hc
    obtain ⟨n, hn, rfl⟩ := Interface.mem_of_saidBy hc
    obtain ⟨j, -, -, -, -, m, hm, hsaid, -⟩ :=
      (hsound.node i).knows.neighbors n hn
    exact absurd (hip.symm.trans (hdr.symm.trans (hsaid.trans
      (hzero j m hm).1))) (hleads.nonzero M)

theorem settling_of_run [Fintype ι] {es : List (Event ι)}
    (hcard : Fintype.card ι ≤ 360) (hleads : seg.Leads M S)
    (hformed : seg.Formed net) (hsteady : Along next Steady net es)
    (hrun : runFrom next net es = .ok net') : seg.Settling M S net' :=
  runFrom_invariant (fun _ _ _ h hP hnext => h.next hcard hleads hP hnext)
    (hformed.settling hleads) hsteady hrun

theorem phases_of_run {es : List (Event ι)} (hformed : seg.Formed net)
    (hsteady : Along next Steady net es)
    (hrun : runFrom next net es = .ok net') : Phases net' :=
  runFrom_invariant (fun _ _ _ h hP hnext => h.next hP.allowed hnext)
    (phases_of_reaches hformed.reached) hsteady hrun

/-! ## Two routers -/

/-- There is a time at which no neighbor has been silent for too long. -/
theorem exists_timely (inter : Interface) : ∃ now, inter.Timely now := by
  obtain ⟨now, hnow⟩ := (List.finite_toSet (inter.neighbors.map fun n =>
    n.lastRecvHelloTime + (inter.routerDeadInterval.toNat : ℤ))).bddBelow
  exact ⟨now, fun n hn => hnow (List.mem_map.mpr ⟨n, hn, rfl⟩)⟩

/-- A router can end WAITING at any time. -/
theorem exists_ended [Fintype ι] {net₀ : Net ι}
    (hcard : Fintype.card ι ≤ 360) (hleads : seg.Leads M S)
    (h : seg.Settling M S net) (hreach : Reaches next Steady net₀ net) (i : ι)
    (hwaiting : (net.node i).interface.state = .waiting) :
    ∃ net', Reaches next Steady net₀ net' ∧
      (net'.node i).interface.state ≠ .waiting ∧
      ∀ k, k ≠ i → net'.node k = net.node k := by
  generalize hr : ({ net.node i with
    interface := { (net.node i).interface with
      waitingTimeout := true } } : Router) = r
  have hfirst : next net (.act i .waitingTimeout) = .ok (net.move i r) := by
    rw [← hr]
    rfl
  have hsteady : Steady net (.act i .waitingTimeout) := by
    refine ⟨trivial, trivial, fun k a heq => ?_⟩
    cases heq
    trivial
  have hnode : (net.move i r).node i = r := Network.move_node_self _ _ _
  have h' := h.next hcard hleads hsteady hfirst
  have hmember := h'.sound.node i
  rw [hnode] at hmember
  have hsense := seg.heard_sensible (net.move i r).sent i
  rw [← address_of_same hmember.same] at hsense
  have hcalls : r.interface.CallsElection .waitTimer := by
    rw [← hr]
    exact hwaiting
  obtain ⟨now, htimely⟩ := exists_timely r.interface
  obtain ⟨waited, hwaited⟩ := hmember.knows.exists_handle r.routerId
    hsense (show Interface.Event.waitTimer ≠
      .interfaceUp by decide)
  have helects : Interface.Elects r.routerId r.interface waited := by
    rcases Interface.handle_elects (by decide) hwaited with
      ⟨-, helects⟩ | ⟨hnot, -⟩
    · exact helects
    · exact absurd hcalls hnot
  have htimer : r.interface.waitingTimer? r.routerId = .ok waited := by
    rw [Interface.waitingTimer?, if_pos ⟨hcalls, by rw [← hr]⟩]
    exact hwaited
  have hstep : r.step (.timers now) = .ok { r with interface := waited } := by
    rw [Router.step, Router.timers, htimer, Outcome.bind_ok,
      (htimely.of_forall₂ helects.config helects.neighbors).inactivityTimers,
      Outcome.map_ok]
  have hsecond : next (net.move i r) (.act i (.timers now)) =
      .ok ((net.move i r).move i { r with interface := waited }) := by
    rw [next, Network.next, hnode, hstep, Outcome.map_ok]
  have hsteady' : Steady (net.move i r) (.act i (.timers now)) := by
    refine ⟨trivial, trivial, fun k a heq => ?_⟩
    cases heq
    rw [hnode]
    exact htimely
  refine ⟨_, (hreach.next hsteady hfirst).next hsteady' hsecond, ?_,
    fun k hk => ?_⟩
  · rw [Network.move_node_self]
    change waited.state ≠ .waiting
    rw [helects.state]
    split_ifs
    · decide
    · decide
    · decide
  · rw [Network.move_node_of_ne _ _ hk, Network.move_node_of_ne _ _ hk]

end Runs

theorem pair_leads : pair.Leads true false where
  ne := by decide
  first := by
    intro j
    revert j
    decide
  second := by
    intro j
    revert j
    decide
  nonzero := by
    intro j
    revert j
    decide

/-- While a router is WAITING, its Hellos declare nothing. -/
theorem undeclared_of_reaches [DecidableEq ι]
    (h : Reaches next Greets seg.start net) (hzero : seg.address i ≠ 0)
    (hwaiting : (net.node i).interface.state = .waiting) :
    (net.node i).interface.dr ≠ seg.address i ∧
      (net.node i).interface.bdr ≠ seg.address i := by
  obtain ⟨es, halong, hrun⟩ := h
  have hphases : Phases net :=
    phases_of_reaches ⟨es, along_mono (fun _ _ h => h.1) halong, hrun⟩
  obtain ⟨hdr, hbdr⟩ := (hphases.phase.node i).of_waiting hwaiting
  rw [hdr, hbdr]
  exact ⟨hzero.symm, hzero.symm⟩

/-- The Hello of a router that is WAITING leaves the one that hears it in
WAITING. -/
theorem exists_waitingGreeting [DecidableEq ι] [Fintype ι]
    (hcard : Fintype.card ι ≤ 360)
    (hreach : Reaches next Greets seg.start net) (hne : i ≠ j)
    (hzero : seg.address i ≠ 0)
    (hi : (net.node i).interface.state = .waiting)
    (hj : (net.node j).interface.state = .waiting) :
    ∃ s, Reaches next Greets seg.start (greeted net i j s) ∧
      seg.Lists s i ∧
      (seg.routerId j ∈ (net.node i).helloNeighbors →
        CountsTwoWay s (seg.address i)) ∧
      s.interface.state = .waiting := by
  obtain ⟨s, hreach', hlists, htwo, hwait⟩ := exists_greeting hcard hreach hne
  obtain ⟨hdr, hbdr⟩ := undeclared_of_reaches hreach hzero hi
  exact ⟨s, hreach', hlists, htwo, hwait hj hdr hbdr⟩

/-- Two routers can meet while they are WAITING. -/
theorem exists_formed_pair : ∃ net, pair.Formed net := by
  have hne : false ≠ true := by decide
  have hcard : Fintype.card Bool ≤ 360 := by decide
  have hzero := pair_leads.nonzero
  -- the first Hello
  obtain ⟨s₁, hreach₁, hlists₁, -, hs₁⟩ := exists_waitingGreeting hcard
    (reaches_refl pair.start) hne (hzero false) rfl rfl
  generalize hnet₁ : greeted pair.start false true s₁ = net₁ at hreach₁
  have htrue₁ : net₁.node true = s₁ := hnet₁ ▸ greeted_node_self _ _ _ _
  have hfalse₁ : net₁.node false = pair.router false :=
    hnet₁ ▸ greeted_node_of_ne hne _ _ _
  -- the answer
  obtain ⟨s₂, hreach₂, hlists₂, htwo₂, hs₂⟩ := exists_waitingGreeting hcard
    hreach₁ hne.symm (hzero true) (htrue₁ ▸ hs₁) (hfalse₁ ▸ rfl)
  rw [htrue₁] at htwo₂
  have hcome₂ := greeted_toCome (j := false)
    (D := fun m => pair.routerId false ∈ m.helloNeighbors)
    (htrue₁ ▸ hlists₁.mem_helloNeighbors) s₂
  generalize hnet₂ : greeted net₁ true false s₂ = net₂ at hreach₂ hcome₂
  have hfalse₂ : net₂.node false = s₂ := hnet₂ ▸ greeted_node_self _ _ _ _
  have htrue₂ : net₂.node true = s₁ :=
    (hnet₂ ▸ greeted_node_of_ne hne.symm _ _ _).trans htrue₁
  -- the second Hello of the first router
  obtain ⟨s₃, hreach₃, -, htwo₃, hs₃⟩ := exists_waitingGreeting hcard
    hreach₂ hne (hzero false) (hfalse₂ ▸ hs₂) (htrue₂ ▸ hs₁)
  rw [hfalse₂] at htwo₃
  have hcome₃ := greeted_toCome (j := true)
    (D := fun m => pair.routerId true ∈ m.helloNeighbors)
    (hfalse₂ ▸ hlists₂.mem_helloNeighbors) s₃
  replace hcome₂ := greeted_toCome_of_ne (j := true) hcome₂ hne.symm s₃
  generalize hnet₃ : greeted net₂ false true s₃ = net₃ at hreach₃ hcome₂ hcome₃
  have htrue₃ : net₃.node true = s₃ := hnet₃ ▸ greeted_node_self _ _ _ _
  have hfalse₃ : net₃.node false = s₂ :=
    (hnet₃ ▸ greeted_node_of_ne hne _ _ _).trans hfalse₂
  obtain ⟨es, halong, hrun⟩ := hreach₃
  refine ⟨net₃, ⟨es, along_mono (fun _ _ h => h.1) halong, hrun⟩, ?_, ?_, ?_⟩
  · rintro (_ | _)
    · exact hfalse₃ ▸ hs₂
    · exact htrue₃ ▸ hs₃
  · rintro (_ | _) (_ | _) hji
    · exact absurd rfl hji
    · exact hfalse₃ ▸ htwo₂ hlists₁.mem_helloNeighbors
    · exact htrue₃ ▸ htwo₃ hlists₂.mem_helloNeighbors
    · exact absurd rfl hji
  · rintro (_ | _) (_ | _) hji
    · exact absurd rfl hji
    · exact hcome₂
    · exact hcome₃
    · exact absurd rfl hji

/-- After they have met, both can end WAITING. -/
theorem exists_ended_pair :
    ∃ net net', pair.Formed net ∧ Reaches next Steady net net' ∧
      ∀ i, (net'.node i).interface.state ≠ .waiting := by
  have hcard : Fintype.card Bool ≤ 360 := by decide
  obtain ⟨net, hformed⟩ := exists_formed_pair
  obtain ⟨net₁, hreach₁, hended₁, hothers₁⟩ := exists_ended hcard pair_leads
    (hformed.settling pair_leads) (reaches_refl net) true (hformed.waiting true)
  have hfalse : (net₁.node false).interface.state = .waiting :=
    hothers₁ false (by decide) ▸ hformed.waiting false
  obtain ⟨es, hsteady, hrun⟩ := hreach₁
  have hsettling :=
    settling_of_run hcard pair_leads hformed hsteady hrun
  obtain ⟨net₂, hreach₂, hended₂, hothers₂⟩ := exists_ended hcard pair_leads
    hsettling ⟨es, hsteady, hrun⟩ false hfalse
  refine ⟨net, net₂, hformed, hreach₂, ?_⟩
  rintro (_ | _)
  · exact hended₂
  · exact hothers₂ true (by decide) ▸ hended₁

/-! ## Agreement -/

/-- Once the routers have met, nobody but the first is ever DR and nobody but
the second is ever BDR.  A router that has ended WAITING has both roles right
if it is the first or has heard that the first is DR; until then it takes one
of the two for both. -/
theorem agreement_of_run [Fintype ι] [DecidableEq ι] {es : List (Event ι)}
    (hcard : Fintype.card ι ≤ 360) (hleads : seg.Leads M S)
    (hformed : seg.Formed net) (hsteady : Along next Steady net es)
    (hrun : runFrom next net es = .ok net') (i : ι) :
    ((net'.node i).interface.dr = seg.address i → i = M) ∧
      ((net'.node i).interface.bdr = seg.address i → i = S) ∧
      ((net'.node i).interface.state ≠ .waiting →
        (i = M ∨ seg.HasHeard M (net'.node i) →
          (net'.node i).interface.dr = seg.address M ∧
            (net'.node i).interface.bdr = seg.address S) ∧
        (¬(i = M ∨ seg.HasHeard M (net'.node i)) →
          (net'.node i).interface.bdr = (net'.node i).interface.dr ∧
            ((net'.node i).interface.dr = seg.address M ∨
              (i ≠ S ∧ (net'.node i).interface.dr = seg.address S)))) := by
  have h := settling_of_run hcard hleads hformed hsteady hrun
  refine ⟨h.dr_self hleads, fun hbdr => (h.bdr_self hleads hbdr).1,
    fun hstate => ?_⟩
  rw [← h.declaresDr_iff]
  rcases h.roles i with ⟨hwaiting, -⟩ | ⟨-, hassigns⟩
  · exact absurd hwaiting hstate
  · exact ⟨hassigns.known, hassigns.unknown⟩

theorem agreement_of_run_pair :
    ∃ net : Net Bool, (net.node true).interface.state ≠ .waiting ∧
      (net.node false).interface.state ≠ .waiting ∧
      (net.node true).interface.dr = 0x0A000002 ∧
      (net.node true).interface.bdr = 0x0A000001 := by
  obtain ⟨net, net', hformed, ⟨es, hsteady, hrun⟩, hended⟩ :=
    exists_ended_pair
  have hagree := agreement_of_run (by decide) pair_leads hformed hsteady hrun
    true
  exact ⟨net', hended true, hended false,
    (hagree.2.2 (hended true)).1 (Or.inl rfl)⟩

/-- When the first router has ended WAITING, its next Hello puts the roles
right at every other router that has ended WAITING. -/
theorem converges_of_run [Fintype ι] [DecidableEq ι] {es : List (Event ι)}
    (hcard : Fintype.card ι ≤ 360) (hleads : seg.Leads M S)
    (hformed : seg.Formed net) (hsteady : Along next Steady net es)
    (hrun : runFrom next net es = .ok net')
    (hM : (net'.node M).interface.state ≠ .waiting) (hne : i ≠ M)
    (hi : (net'.node i).interface.state ≠ .waiting) {now : ℤ}
    {packet : Memory}
    (hbrings : Brings (net'.node M) (.frame now packet)) :
    ∃ r', (net'.node i).step (.frame now packet) = .ok r' ∧
      r'.interface.dr = seg.address M ∧ r'.interface.bdr = seg.address S := by
  have h := settling_of_run hcard hleads hformed hsteady hrun
  have hbounded := (phases_of_run hformed hsteady hrun).bounded
  have hdr : (net'.node M).interface.dr = seg.address M := by
    rcases h.roles M with ⟨hwaiting, -⟩ | ⟨-, hassigns⟩
    · exact absurd hwaiting hM
    · exact (hassigns.known (Or.inl rfl)).1
  -- the Hello has been sent
  have hsaid : seg.Settling M S (net'.say M (net'.node M)) :=
    h.next hcard hleads ⟨trivial, trivial, fun _ _ heq => by cases heq⟩
      (e := .send M) rfl
  have hm : ((net'.say M (net'.node M)).sent M)[(net'.sent M).length]? =
      some (net'.node M) := by simp
  obtain ⟨r', hr', -⟩ := Message.hear hcard ⟨_, h.sound.node i⟩
    ⟨_, h.sound.node M⟩ hne.symm hbrings
  obtain ⟨taken, hadvances, hheard⟩ := hsaid.advances_hear hcard hleads hm
    (hbounded i M) hbrings hne.symm hr'
  refine ⟨r', hr', ?_⟩
  rcases hadvances.roles hleads (hsaid.roles i) with
    ⟨hwaiting, -⟩ | ⟨-, hassigns⟩
  · exact absurd hwaiting (not_waiting_step hi hr')
  · apply hassigns.known
    right
    rw [Interface.DeclaresDr, hadvances.saidBy]
    exact hheard.mpr (Or.inl ⟨rfl, hdr⟩)

theorem converges_of_run_pair :
    ∃ net : Net Bool, (net.node false).interface.state ≠ .waiting ∧
      ∃ r', (net.node false).step (.frame 0 (ipDatagram
          (net.node true).interface.ipInterfaceAddress allSpfRouters
          (net.node true).helloPacket)) = .ok r' ∧
        r'.interface.dr = 0x0A000002 ∧ r'.interface.bdr = 0x0A000001 := by
  obtain ⟨net, net', hformed, ⟨es, hsteady, hrun⟩, hended⟩ :=
    exists_ended_pair
  exact ⟨net', hended false, converges_of_run (by decide) pair_leads hformed
    hsteady hrun (hended true) (show false ≠ true by decide) (hended false)
    (conveys_ipDatagram _ _ _)⟩

end Segment
end OspfLite
