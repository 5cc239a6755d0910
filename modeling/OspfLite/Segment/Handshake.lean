import OspfLite.Segment.Basic

/-!
# Three Hellos

Whatever has happened on the segment before, three Hellos between two routers
make each of them count the other one as bidirectional, and no fault can keep
them from it.
-/

namespace OspfLite
namespace Segment

variable {ι : Type} {seg : Segment ι} {net : Net ι} {i j : ι}
  {r m : Router} {packet : Memory}

/-- The router counts a neighbor at the address as bidirectional. -/
def CountsTwoWay (r : Router) (address : UInt32) : Prop :=
  ∃ n ∈ r.interface.neighbors, n.ip = address ∧ .twoWay ≤ n.state

/-- The router has a record of `j` which its Hellos list. -/
def Lists (seg : Segment ι) (r : Router) (j : ι) : Prop :=
  ∃ n ∈ r.interface.neighbors, n.ip = seg.address j ∧
    n.id = seg.routerId j ∧ n.state ≠ .down

theorem Lists.mem_helloNeighbors (h : seg.Lists r j) :
    seg.routerId j ∈ r.helloNeighbors := by
  obtain ⟨n, hn, -, hid, hdown⟩ := h
  exact Router.mem_helloNeighbors.mpr ⟨n, hn, hdown, hid⟩

/-- A router takes in the Hello of another one.  Its own Hellos list the
sender from then on, and the sender counts as bidirectional if it lists the
router. -/
theorem Message.hear [Fintype ι] (hcard : Fintype.card ι ≤ 360)
    (h : seg.Message i r) (hm : seg.Message j m) (hne : j ≠ i) {now : ℤ}
    (hbrings : Brings m (.frame now packet)) :
    ∃ r', r.step (.frame now packet) = .ok r' ∧ seg.Message i r' ∧
      seg.Lists r' j ∧
      (seg.routerId i ∈ m.helloNeighbors →
        CountsTwoWay r' (seg.address j)) := by
  obtain ⟨sent, hr⟩ := h
  obtain ⟨sent', hm⟩ := hm
  -- the message is among those that have been sent
  have hmember : seg.Member (fun k => sent k ++ [m]) i r :=
    hr.mono fun k => List.subset_append_left _ _
  have hconveys : Conveys packet m.interface.ipInterfaceAddress allSpfRouters
    m.helloPacket := hbrings
  have hsaid : seg.Heard (fun k => sent k ++ [m]) i
      ⟨m.interface.ipInterfaceAddress, m.routerId, 1, m.interface.dr,
        m.interface.bdr⟩ :=
    ⟨j, hne, address_of_same hm.same, hm.same.routerId, rfl, m,
      List.mem_append_right _ List.mem_cons_self, rfl, rfl⟩
  have hsense := seg.heard_sensible (fun k => sent k ++ [m]) i
  rw [← address_of_same hr.same] at hsense
  obtain ⟨r', hr', n, hn, hip, hid, hdown, htwo⟩ :=
    Router.exists_step_hello now hmember.knows hsense hmember.attempt
      (hears_of_same hne hr.same hm.same) (hm.helloFits hcard) hconveys hsaid
  rw [address_of_same hm.same] at hip
  refine ⟨r', hr', ⟨_, hmember.step ?_ hr'⟩,
    ⟨n, hn, hip, hid.trans hm.same.routerId, hdown⟩, fun hlisted =>
      ⟨n, hn, hip, htwo (hr.same.routerId.symm ▸ hlisted)⟩⟩
  intro _ _
  rw [saidIn_of_brings hbrings]
  exact hsaid

variable [Fintype ι] [DecidableEq ι]

/-- After any run, a Hello of `i`, one of `j` and another one of `i` are taken
in without a fault, and leave the two bidirectional. -/
theorem threeHellos_of_run (hcard : Fintype.card ι ≤ 360)
    {es : List (Event ι)} (hallowed : Along next Allowed seg.start es)
    (hrun : runFrom next seg.start es = .ok net) (hne : i ≠ j)
    (t₁ t₂ t₃ : ℤ) {p₁ : Memory}
    (h₁ : Brings (net.node i) (.frame t₁ p₁)) :
    ∃ s, (net.node j).step (.frame t₁ p₁) = .ok s ∧
      ∀ p₂, Brings s (.frame t₂ p₂) →
        ∃ r, (net.node i).step (.frame t₂ p₂) = .ok r ∧
          ∀ p₃, Brings r (.frame t₃ p₃) →
            ∃ s', s.step (.frame t₃ p₃) = .ok s' ∧
              CountsTwoWay r (seg.address j) ∧
              CountsTwoWay s' (seg.address i) := by
  have hsound := sound_of_run hallowed hrun
  have hi : seg.Message i (net.node i) := ⟨_, hsound.node i⟩
  have hj : seg.Message j (net.node j) := ⟨_, hsound.node j⟩
  obtain ⟨s, hs, hsj, hlists, -⟩ := hj.hear hcard hi hne h₁
  refine ⟨s, hs, fun p₂ h₂ => ?_⟩
  obtain ⟨r, hr, hri, hlists', htwo⟩ := hi.hear hcard hsj hne.symm h₂
  refine ⟨r, hr, fun p₃ h₃ => ?_⟩
  obtain ⟨s', hs', -, -, htwo'⟩ := hsj.hear hcard hri hne h₃
  exact ⟨s', hs', htwo hlists.mem_helloNeighbors,
    htwo' hlists'.mem_helloNeighbors⟩

/-- Two routers on one segment. -/
def pair : Segment Bool where
  areaId := 0
  routerId := fun b => if b then 2 else 1
  address := fun b => if b then 0x0A000002 else 0x0A000001
  mask := fun _ => 0xFFFFFF00
  uninit := fun _ => ⟨0, 0, 0, false, false, false⟩
  loopbacks := fun _ => []
  address_injective := by
    intro a b
    revert a b
    decide

theorem threeHellos_of_run_pair :
    ∃ s, (pair.router true).step (.frame 0 (ipDatagram 0x0A000001
        allSpfRouters (pair.router false).helloPacket)) = .ok s ∧
      ∀ p₂, Brings s (.frame 1 p₂) →
        ∃ r, (pair.router false).step (.frame 1 p₂) = .ok r ∧
          ∀ p₃, Brings r (.frame 2 p₃) →
            ∃ s', s.step (.frame 2 p₃) = .ok s' ∧
              CountsTwoWay r 0x0A000002 ∧ CountsTwoWay s' 0x0A000001 :=
  threeHellos_of_run (by decide) (along_nil pair.start) rfl
    (show false ≠ true by decide) 0 1 2 (conveys_ipDatagram _ _ _)

/-! ## What can be reached -/

/-- Nothing happens but that Hellos are sent and heard. -/
def Greets (net : Net ι) (e : Event ι) : Prop :=
  Allowed net e ∧ ∀ i a, e ≠ .act i a

/-- The router `i` has sent a Hello, and `j` has moved to `s` by hearing it. -/
def greeted (net : Net ι) (i j : ι) (s : Router) : Net ι :=
  ((net.say i (net.node i)).move j s).note j i (net.sent i).length

omit [Fintype ι] in
theorem greeted_node_self (net : Net ι) (i j : ι) (s : Router) :
    (greeted net i j s).node j = s := by
  rw [greeted, Network.note_node, Network.move_node_self]

omit [Fintype ι] in
theorem greeted_node_of_ne {k : ι} (hne : k ≠ j) (net : Net ι) (i : ι)
    (s : Router) : (greeted net i j s).node k = net.node k := by
  rw [greeted, Network.note_node, Network.move_node_of_ne _ _ hne,
    Network.say_node]

omit [Fintype ι] in
/-- What is still to be heard behind the Hello. -/
theorem greeted_toCome {D : Router → Prop} (hD : D (net.node i)) (s : Router) :
    (greeted net i j s).ToCome D j i := by
  intro k m hk hm
  rw [greeted, Network.note_heard_self] at hk
  rw [greeted, Network.note_sent, Network.move_sent,
    Network.say_sent_self] at hm
  rw [List.getElem?_append_right hk] at hm
  exact List.mem_singleton.mp (List.mem_of_getElem? hm) ▸ hD

omit [Fintype ι] in
theorem greeted_toCome_of_ne {D : Router → Prop} {k l : ι}
    (h : net.ToCome D k l) (hne : l ≠ i) (s : Router) :
    (greeted net i j s).ToCome D k l := by
  intro k' m hk hm
  rw [greeted, Network.note_heard_of_ne _ _ _ _ (Or.inr hne)] at hk
  rw [greeted, Network.note_sent, Network.move_sent,
    Network.say_sent_of_ne _ _ hne] at hm
  exact h k' m hk hm

/-- A Hello can be sent and heard at any time. -/
theorem exists_greeting (hcard : Fintype.card ι ≤ 360)
    (hreach : Reaches next Greets seg.start net) (hne : i ≠ j) :
    ∃ s, Reaches next Greets seg.start (greeted net i j s) ∧
      seg.Lists s i ∧
      (seg.routerId j ∈ (net.node i).helloNeighbors →
        CountsTwoWay s (seg.address i)) ∧
      ((net.node j).interface.state = .waiting →
        (net.node i).interface.dr ≠ seg.address i →
        (net.node i).interface.bdr ≠ seg.address i →
          s.interface.state = .waiting) := by
  obtain ⟨es, halong, hrun⟩ := hreach
  have hsound := sound_of_run (along_mono (fun _ _ h => h.1) halong) hrun
  have hi := hsound.node i
  have hj := hsound.node j
  have hbrings : Brings (net.node i) (.frame 0 (ipDatagram
      (net.node i).interface.ipInterfaceAddress allSpfRouters
        (net.node i).helloPacket)) := conveys_ipDatagram _ _ _
  obtain ⟨s, hs, -, hlists, htwo⟩ :=
    Message.hear hcard ⟨_, hj⟩ ⟨_, hi⟩ hne hbrings
  generalize ipDatagram _ _ _ = packet at hbrings hs
  have hsent : Reaches next Greets seg.start (net.say i (net.node i)) :=
    Reaches.next (i := .send i) ⟨es, halong, hrun⟩
      ⟨trivial, fun _ _ h => by cases h⟩ rfl
  have hheard : next (net.say i (net.node i))
      (.hear j i (net.sent i).length (.frame 0 packet)) =
        .ok (greeted net i j s) := by
    rw [next, Network.next, Network.say_node, hs, Outcome.map_ok, greeted]
  have hgreets : Greets (net.say i (net.node i))
      (.hear j i (net.sent i).length (.frame 0 packet)) :=
    ⟨⟨net.node i, by simp, hbrings⟩, fun _ _ h => by cases h⟩
  refine ⟨s, hsent.next hgreets hheard, hlists, htwo,
    fun hwaiting hdr hbdr => ?_⟩
  rw [← address_of_same hi.same] at hdr hbdr
  exact Router.step_hello_waiting (hears_of_same hne hj.same hi.same)
    (hi.helloFits hcard) hbrings hdr hbdr hwaiting hs

/-- Two Hellos, one in each direction, suffice for the receiver of the second
one. -/
theorem exists_twoWay (seg : Segment ι) (hcard : Fintype.card ι ≤ 360)
    (hne : i ≠ j) :
    ∃ net, Reaches next Greets seg.start net ∧
      CountsTwoWay (net.node i) (seg.address j) := by
  obtain ⟨s, hreach, hlists, -⟩ :=
    exists_greeting hcard (reaches_refl seg.start) hne
  obtain ⟨r, hreach', -, htwo, -⟩ := exists_greeting hcard hreach hne.symm
  refine ⟨_, hreach', ?_⟩
  rw [greeted_node_self] at htwo ⊢
  exact htwo hlists.mem_helloNeighbors

end Segment
end OspfLite
