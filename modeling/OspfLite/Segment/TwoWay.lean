import OspfLite.Segment.Handshake

/-!
# Who counts whom as bidirectional

A router counts another one as bidirectional only when it has a record there.
-/

namespace OspfLite
namespace Segment

variable {ι : Type} {seg : Segment ι} {net net' : Net ι}
  {sent : ι → List Router} {i j : ι} {r r' m : Router} {n : Neighbor}

/-- No router has a group address. -/
def Unicast (seg : Segment ι) : Prop :=
  ∀ i, seg.address i ≠ allSpfRouters ∧ seg.address i ≠ allDRouters

/-! ## Knowing each other -/

/-- A Database Description packet that a router takes in has been sent by the
router at its source address. -/
def DdSent (seg : Segment ι) (net : Net ι) : Event ι → Prop
  | .act i (.frame _ packet) =>
      (net.node i).Admits packet → packet 21 = typeDd →
        ∃ j dst bytes, .sent dst bytes ∈ (net.node j).log ∧
          Conveys packet (seg.address j) dst bytes
  | _ => True

/-- Who counts another router as bidirectional has a record there.  The first
two parts are what this rests on: the Hellos and the Database Description
packets that have been sent. -/
structure Acquainted (seg : Segment ι) (net : Net ι) : Prop where
  hellos : ∀ j, ∀ m ∈ net.sent j, m.addresses ⊆ (net.node j).addresses
  logged : ∀ j, (net.node j).Logged
  twoWay : ∀ i j, ∀ n ∈ (net.node i).interface.neighbors,
    .twoWay ≤ n.state → n.ip = seg.address j →
      seg.address i ∈ (net.node j).addresses

theorem start_acquainted (seg : Segment ι) : seg.Acquainted seg.start := by
  refine ⟨fun _ _ hm => ?_, fun _ _ _ hmem => ?_, fun _ _ n hn => ?_⟩
  · cases hm
  · cases hmem
  · cases hn

section Steps

variable [DecidableEq ι]

/-- One router makes a step. -/
theorem Acquainted.move {a : Router.Step} (h : seg.Acquainted net)
    (hmember : seg.Member net.sent i (net.node i))
    (hhello : ∀ now packet, a = .frame now packet →
      (net.node i).Admits packet → packet 21 = typeHello →
        helloLists packet (net.node i).routerId = .ok true →
          ∀ j, ntohl (packet.load32 12) = seg.address j →
            seg.address i ∈ (net.node j).addresses)
    (hdd : ∀ now packet, a = .frame now packet →
      (net.node i).Admits packet → packet 21 = typeDd →
        ∀ j, ntohl (packet.load32 12) = seg.address j →
          seg.address i ∈ (net.node j).addresses)
    (hr' : (net.node i).step a = .ok r') :
    seg.Acquainted (net.move i r') := by
  have hgrows : ∀ j, (net.node j).addresses ⊆
      ((net.move i r').node j).addresses := by
    intro j
    by_cases hj : j = i
    · rw [hj, Network.move_node_self]
      exact Router.step_addresses hr'
    · rw [Network.move_node_of_ne _ _ hj]
      exact List.Subset.refl _
  refine ⟨fun j m hm a ha => hgrows j (h.hellos j m hm ha), fun j => ?_,
    fun i' j n hn htwo hip => hgrows j ?_⟩
  · by_cases hj : j = i
    · rw [hj, Network.move_node_self]
      exact (h.logged i).step hr'
    · rw [Network.move_node_of_ne _ _ hj]
      exact h.logged j
  · by_cases hi : i' = i
    · rw [hi] at hn ⊢
      rw [Network.move_node_self] at hn
      have hknown := Router.step_twoWay
        (A := {a | ∀ j, a = seg.address j →
          seg.address i ∈ (net.node j).addresses})
        hmember.attempt (fun n hn htwo j hip => h.twoWay i j n hn htwo hip)
        hhello hdd hr'
      exact hknown n hn htwo j hip
    · rw [Network.move_node_of_ne _ _ hi] at hn
      exact h.twoWay i' j n hn htwo hip

/-- An event keeps what the routers know of each other. -/
theorem Acquainted.next [Fintype ι] {e : Event ι}
    (hid : Function.Injective seg.routerId) (hunicast : seg.Unicast)
    (hcard : Fintype.card ι ≤ 360)
    (h : seg.Acquainted net)
    (hsound : net.Sound (fun sent i r => seg.Member sent i r) seg.Message)
    (hallowed : Allowed net e) (hdd : seg.DdSent net e)
    (hnext : next net e = .ok net') : seg.Acquainted net' := by
  cases e with
  | send i =>
      rw [Segment.next, Network.next, Except.ok.injEq] at hnext
      subst hnext
      refine ⟨fun j m hm => ?_, h.logged, h.twoWay⟩
      by_cases hj : j = i
      · rw [hj, Network.say_sent_self] at hm
        rcases List.mem_append.mp hm with hold | hnew
        · exact hj ▸ h.hellos i m hold
        · rw [List.mem_singleton.mp hnew, hj]
          exact List.Subset.refl _
      · rw [Network.say_sent_of_ne _ _ hj] at hm
        exact h.hellos j m hm
  | act i a =>
      obtain ⟨r', hr', rfl⟩ := Outcome.map_eq_ok.mp hnext
      have hmember := hsound.node i
      refine h.move hmember ?_ ?_ hr'
      · rintro now packet rfl hadmits htype
        exact absurd htype (hallowed hadmits)
      · rintro now packet rfl hadmits htype j hsrc
        obtain ⟨k, dst, bytes, hsent, hconveys⟩ := hdd hadmits htype
        have hdst := (h.logged k dst bytes hsent).mem_addresses hconveys htype
        have hk : k = j := by
          apply seg.address_injective
          rw [← hsrc, hconveys.src, ntohl_htonl]
        have haddress : dst = seg.address i := by
          obtain ⟨n, hn, rfl⟩ := List.mem_map.mp hdst
          obtain ⟨l, -, hip, -⟩ := (hsound.node k).exists_router hn
          rcases hadmits.1 with hown | hall | hdr
          · rw [hconveys.dst, htonl_inj, address_of_same hmember.same] at hown
            exact hown
          · rw [hconveys.dst, htonl_inj, hip] at hall
            exact absurd hall (hunicast l).1
          · rw [hconveys.dst, htonl_inj, hip] at hdr
            exact absurd hdr (hunicast l).2
        rw [← hk, ← haddress]
        exact hdst
  | hear i j k a =>
      obtain ⟨r', hr', rfl⟩ := Outcome.map_eq_ok.mp hnext
      have hmember := hsound.node i
      obtain ⟨m, hm, hbrings⟩ := hallowed
      have hmem : m ∈ net.sent j := List.mem_of_getElem? hm
      obtain ⟨sent', hm'⟩ := hsound.message j m hmem
      have hmoved : seg.Acquainted (net.move i r') := by
        refine h.move hmember ?_ ?_ hr'
        · rintro now packet rfl hadmits htype hlists j' hsrc
          have hconveys : Conveys packet m.interface.ipInterfaceAddress
            allSpfRouters m.helloPacket := hbrings
          have hj : j = j' := by
            apply seg.address_injective
            rw [← hsrc, hconveys.src, ntohl_htonl, address_of_same hm'.same]
          rw [Router.helloLists_of_conveys_hello hconveys
            (hm'.helloFits hcard), Except.ok.injEq, decide_eq_true_iff,
            hmember.same.routerId] at hlists
          rw [← hj]
          exact h.hellos j m hmem (hm'.mem_addresses hid hlists)
        · rintro now packet rfl _ htype
          have hhello : packet 21 = typeHello :=
            Router.type_of_conveys_hello hbrings
          exact absurd (hhello.symm.trans htype) (by decide)
      exact ⟨hmoved.hellos, hmoved.logged, hmoved.twoWay⟩

end Steps

/-! ## Runs -/

section Runs

variable [DecidableEq ι] {es : List (Event ι)}

/-- In every run, the neighbors of a router are other routers of the segment,
each with one record, and the record holds what the neighbor has said in a
Hello. -/
theorem neighbors_of_run (hallowed : Along next Allowed seg.start es)
    (hrun : runFrom next seg.start es = .ok net) (i : ι) :
    (∀ n ∈ (net.node i).interface.neighbors, ∃ j ≠ i,
      n.ip = seg.address j ∧ n.id = seg.routerId j ∧ n.pri = 1 ∧
        ∃ m ∈ net.sent j, n.dr = m.interface.dr ∧
          n.bdr = m.interface.bdr) ∧
      (net.node i).addresses.Nodup := by
  have hmember := (sound_of_run hallowed hrun).node i
  exact ⟨hmember.knows.neighbors, hmember.unique⟩

theorem neighbors_of_run_pair :
    ∃ net : Net Bool, CountsTwoWay (net.node false) (pair.address true) ∧
      (∀ n ∈ (net.node false).interface.neighbors, ∃ j ≠ false,
        n.ip = pair.address j ∧ n.id = pair.routerId j ∧ n.pri = 1 ∧
          ∃ m ∈ net.sent j, n.dr = m.interface.dr ∧
            n.bdr = m.interface.bdr) ∧
      (net.node false).addresses.Nodup := by
  obtain ⟨net, ⟨es, halong, hrun⟩, htwo⟩ :=
    pair.exists_twoWay (by decide) (show false ≠ true by decide)
  exact ⟨net, htwo,
    neighbors_of_run (along_mono (fun _ _ h => h.1) halong) hrun false⟩

/-- In every run, the roles go to routers of the segment or to nobody. -/
theorem roles_of_run (hallowed : Along next Allowed seg.start es)
    (hrun : runFrom next seg.start es = .ok net) (i : ι) :
    ((net.node i).interface.dr = 0 ∨
        ∃ j, (net.node i).interface.dr = seg.address j) ∧
      ((net.node i).interface.bdr = 0 ∨
        ∃ j, (net.node i).interface.bdr = seg.address j) := by
  have hknows := ((sound_of_run hallowed hrun).node i).knows
  have hroles : ∀ a ∈ seg.addresses, a = 0 ∨ ∃ j, a = seg.address j := by
    rintro a (rfl | ⟨j, rfl⟩)
    · exact Or.inl rfl
    · exact Or.inr ⟨j, rfl⟩
  exact ⟨hroles _ hknows.dr, hroles _ hknows.bdr⟩

theorem roles_of_run_pair :
    ∃ net : Net Bool, CountsTwoWay (net.node false) (pair.address true) ∧
      ((net.node false).interface.dr = 0 ∨
        ∃ j, (net.node false).interface.dr = pair.address j) ∧
      ((net.node false).interface.bdr = 0 ∨
        ∃ j, (net.node false).interface.bdr = pair.address j) := by
  obtain ⟨net, ⟨es, halong, hrun⟩, htwo⟩ :=
    pair.exists_twoWay (by decide) (show false ≠ true by decide)
  exact ⟨net, htwo,
    roles_of_run (along_mono (fun _ _ h => h.1) halong) hrun false⟩

variable [Fintype ι]

/-- On a segment of 360 routers no Hello is ever too long for its buffer. -/
theorem hellos_fit_of_run (hcard : Fintype.card ι ≤ 360)
    (hallowed : Along next Allowed seg.start es)
    (hrun : runFrom next seg.start es = .ok net) (i : ι) :
    (net.node i).HelloFits ∧ ∀ m ∈ net.sent i, m.HelloFits := by
  have hsound := sound_of_run hallowed hrun
  refine ⟨(hsound.node i).helloFits hcard, fun m hm => ?_⟩
  obtain ⟨sent, hm'⟩ := hsound.message i m hm
  exact hm'.helloFits hcard

theorem hellos_fit_of_run_pair :
    ∃ net : Net Bool, CountsTwoWay (net.node false) (pair.address true) ∧
      (net.node false).HelloFits ∧ ∀ m ∈ net.sent false, m.HelloFits := by
  obtain ⟨net, ⟨es, halong, hrun⟩, htwo⟩ :=
    pair.exists_twoWay (by decide) (show false ≠ true by decide)
  exact ⟨net, htwo, hellos_fit_of_run (by decide)
    (along_mono (fun _ _ h => h.1) halong) hrun false⟩

/-- In every run, a router that counts another one as bidirectional is known
there. -/
theorem twoWay_of_run (hid : Function.Injective seg.routerId)
    (hunicast : seg.Unicast) (hcard : Fintype.card ι ≤ 360)
    (hallowed : Along next (fun net e => Allowed net e ∧ seg.DdSent net e)
      seg.start es)
    (hrun : runFrom next seg.start es = .ok net)
    (htwo : CountsTwoWay (net.node i) (seg.address j)) :
    ∃ n ∈ (net.node j).interface.neighbors,
      n.ip = seg.address i ∧ n.id = seg.routerId i := by
  have hboth : net.Sound (fun sent i r => seg.Member sent i r) seg.Message ∧
      seg.Acquainted net := runFrom_invariant
    (I := fun net => net.Sound (fun sent i r => seg.Member sent i r)
      seg.Message ∧ seg.Acquainted net)
    (fun _ _ _ h hP hnext =>
      ⟨h.1.next (member_preserves seg) hP.1 hnext,
        h.2.next hid hunicast hcard h.1 hP.1 hP.2 hnext⟩)
    ⟨start_sound seg, start_acquainted seg⟩ hallowed hrun
  obtain ⟨hsound, hacquainted⟩ := hboth
  obtain ⟨n, hn, hip, hstate⟩ := htwo
  have hmem := hacquainted.twoWay i j n hn hstate hip
  obtain ⟨k, hk, hkip⟩ := List.mem_map.mp hmem
  obtain ⟨l, -, hlip, hlid⟩ := (hsound.node j).exists_router hk
  have hl : l = i := seg.address_injective (hlip.symm.trans hkip)
  exact ⟨k, hk, hkip, hl ▸ hlid⟩

theorem twoWay_of_run_pair :
    ∃ net : Net Bool, CountsTwoWay (net.node false) (pair.address true) ∧
      ∃ n ∈ (net.node true).interface.neighbors,
        n.ip = pair.address false ∧ n.id = pair.routerId false := by
  obtain ⟨net, ⟨es, halong, hrun⟩, htwo⟩ :=
    pair.exists_twoWay (by decide) (show false ≠ true by decide)
  have hid : Function.Injective pair.routerId := by
    intro a b
    revert a b
    decide
  refine ⟨net, htwo, twoWay_of_run hid ?_ (by decide)
    (along_mono (fun _ e h => ⟨h.1, ?_⟩) halong) hrun htwo⟩
  · intro b
    cases b
    · exact ⟨by decide, by decide⟩
    · exact ⟨by decide, by decide⟩
  · cases e with
    | act i a => exact absurd rfl (h.2 i a)
    | _ => trivial

end Runs

end Segment
end OspfLite
