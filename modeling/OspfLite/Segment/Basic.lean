import OspfLite.Lib.Network
import OspfLite.Router.HelloSender
import OspfLite.Router.Bidirectional

/-!
# A broadcast segment

Any number of routers on one segment, each started by `main`.  Their Hellos can
be lost, delayed, repeated and reordered, and every other frame is arbitrary.
-/

namespace OspfLite

/-- The routers of a segment, as they are configured.  No two have the same
address. -/
structure Segment (ι : Type) where
  areaId : UInt32
  routerId : ι → UInt32
  address : ι → UInt32
  mask : ι → UInt32
  uninit : ι → Uninit
  loopbacks : ι → List (UInt32 × UInt32)
  address_injective : Function.Injective address

namespace Segment

/-- The states of the routers, and the states in which they sent Hellos. -/
abbrev Net (ι : Type) := Network ι Router Router

/-- A router sends a Hello, makes a step on its own, or takes in a Hello. -/
abbrev Event (ι : Type) := Network.Event ι Router.Step

/-- The frame brings the Hello that a router sends in the state `m`. -/
def Brings (m : Router) : Router.Step → Prop
  | .frame _ packet =>
      Conveys packet m.interface.ipInterfaceAddress allSpfRouters
        m.helloPacket
  | _ => False

/-- The step takes in no Hello: all Hellos come from the routers of the
segment. -/
def NoHello (net : Net ι) (i : ι) : Router.Step → Prop
  | .frame _ packet => (net.node i).Admits packet → packet 21 ≠ typeHello
  | _ => True

variable {ι : Type}

/-- What can happen on the segment. -/
def Allowed (net : Net ι) (e : Event ι) : Prop :=
  Network.Allowed NoHello Brings net e

variable (seg : Segment ι)

/-- A router when `main` has started it. -/
def router (i : ι) : Router :=
  Router.boot (seg.routerId i) seg.areaId (seg.uninit i) (seg.loopbacks i)
    (seg.address i) (seg.mask i)

/-- The segment when all routers have been started. -/
def start : Net ι := ⟨seg.router, fun _ => [], fun _ _ => 0⟩

/-- Nobody's address, and those of the routers. -/
def addresses : Set UInt32 := insert 0 (Set.range seg.address)

/-- What the router `i` can have heard of another one: who that is, and what
it declared in some Hello. -/
def Heard (sent : ι → List Router) (i : ι) (c : Candidate) : Prop :=
  ∃ j ≠ i, c.ip = seg.address j ∧ c.id = seg.routerId j ∧ c.pri = 1 ∧
    ∃ m ∈ sent j, c.dr = m.interface.dr ∧ c.bdr = m.interface.bdr

/-- A router of the segment, after any number of steps. -/
structure Member (sent : ι → List Router) (i : ι) (r : Router) : Prop where
  same : (seg.router i).SameRouter r
  unique : r.AddressesUnique
  knows : r.interface.Knows (seg.Heard sent i) seg.addresses
  attempt : ∀ n ∈ r.interface.neighbors, n.state ≠ .attempt

/-- A state in which a router has sent a Hello. -/
def Message (i : ι) (m : Router) : Prop := ∃ sent, seg.Member sent i m

variable {seg} {net net' : Net ι} {sent : ι → List Router} {i j : ι}
  {r r' m : Router} {n : Neighbor}

/-! ## What never changes -/

theorem address_of_same (h : (seg.router i).SameRouter r) :
    r.interface.ipInterfaceAddress = seg.address i :=
  h.interface.address

theorem priority_of_same (h : (seg.router i).SameRouter r) :
    r.interface.routerPriority = 1 :=
  h.interface.priority

/-- Every router hears the Hellos of every other one. -/
theorem hears_of_same (hne : j ≠ i) (hr : (seg.router i).SameRouter r)
    (hm : (seg.router j).SameRouter m) : r.Hears m := by
  refine ⟨?_, ?_, ?_, hr.ospfOptions, ?_, hr.interface.deadInterval⟩
  · rw [address_of_same hr, address_of_same hm]
    exact fun h => hne (seg.address_injective h)
  · exact hm.areaId.trans hr.areaId.symm
  · rw [hm.interface.auType, hr.interface.auType]
    rfl
  · rw [hr.interface.helloInterval]
    rfl

/-- What is heard of others is sensible. -/
theorem heard_sensible (seg : Segment ι) (sent : ι → List Router) (i : ι) :
    Interface.Sensible (seg.Heard sent i) seg.addresses (seg.address i) where
  zero := Set.mem_insert 0 _
  ip := by
    rintro c ⟨j, -, hip, -⟩
    exact hip ▸ Set.mem_insert_of_mem 0 (Set.mem_range_self j)
  ne := by
    rintro c ⟨j, hne, hip, -⟩ heq
    exact hne (seg.address_injective (hip.symm.trans heq))

/-! ## Invariants -/

/-- What a frame that brings a Hello says. -/
theorem saidIn_of_brings {now : ℤ} {packet : Memory}
    (h : Brings m (.frame now packet)) :
    Router.saidIn packet = ⟨m.interface.ipInterfaceAddress, m.routerId, 1,
      m.interface.dr, m.interface.bdr⟩ := by
  rw [Router.saidIn, Router.helloFields_of_conveys_hello h, h.src,
    ntohl_htonl]

theorem Member.step {a : Router.Step} (h : seg.Member sent i r)
    (hspoken : Router.SaysOnly (seg.Heard sent i) r a)
    (hr' : r.step a = .ok r') : seg.Member sent i r' := by
  have hsense := seg.heard_sensible sent i
  rw [← address_of_same h.same] at hsense
  exact ⟨h.same.trans (Router.step_sameRouter hr'), h.unique.step hr',
    Router.step_knows h.knows hsense hspoken hr',
    Router.step_attempt h.attempt hr'⟩

/-- What has been heard stays heard. -/
theorem Member.mono {sent' : ι → List Router} (h : seg.Member sent i r)
    (hsub : ∀ j, sent j ⊆ sent' j) : seg.Member sent' i r := by
  refine ⟨h.same, h.unique, ⟨h.knows.priority, h.knows.address, ?_,
    h.knows.dr, h.knows.bdr⟩, h.attempt⟩
  intro n hn
  obtain ⟨j, hne, hip, hid, hpri, m, hm, hdr, hbdr⟩ := h.knows.neighbors n hn
  exact ⟨j, hne, hip, hid, hpri, m, hsub j hm, hdr, hbdr⟩

/-- At the start no router knows of another. -/
theorem start_sound (seg : Segment ι) :
    seg.start.Sound (fun sent i r => seg.Member sent i r) seg.Message := by
  constructor
  · intro i
    have hnone : ∀ n, n ∉ (seg.router i).interface.neighbors := by
      intro n hn
      cases hn
    exact ⟨Router.sameRouter_refl _, Router.boot_addressesUnique _ _ _ _ _ _,
      ⟨show (1 : UInt32) ≠ 0 by decide,
        Set.mem_insert_of_mem 0 (Set.mem_range_self i),
        fun n hn => absurd hn (hnone n), Set.mem_insert 0 _,
        Set.mem_insert 0 _⟩,
      fun n hn => absurd hn (hnone n)⟩
  · intro i m hm
    cases hm

/-! ## The records -/

/-- Every record is that of another router. -/
theorem Member.exists_router (h : seg.Member sent i r)
    (hn : n ∈ r.interface.neighbors) :
    ∃ j ≠ i, n.ip = seg.address j ∧ n.id = seg.routerId j := by
  obtain ⟨j, hne, hip, hid, -⟩ := h.knows.neighbors n hn
  exact ⟨j, hne, hip, hid⟩

/-- There are fewer records than routers. -/
theorem Member.length_neighbors_lt [Fintype ι] (h : seg.Member sent i r) :
    r.interface.neighbors.length < Fintype.card ι := by
  classical
  have hsub : r.addresses.toFinset ⊆
      (Finset.univ.erase i).image seg.address := by
    intro a ha
    obtain ⟨n, hn, rfl⟩ := List.mem_map.mp (List.mem_toFinset.mp ha)
    obtain ⟨j, hne, hip, -⟩ := h.exists_router hn
    exact Finset.mem_image.mpr
      ⟨j, Finset.mem_erase.mpr ⟨hne, Finset.mem_univ j⟩, hip.symm⟩
  have hnodup : r.addresses.toFinset.card = r.interface.neighbors.length := by
    have hunique : r.addresses.Nodup := h.unique
    rw [List.toFinset_card_of_nodup hunique]
    exact List.length_map _
  have hlt : (Finset.univ.erase i).card < Fintype.card ι :=
    Finset.card_erase_lt_of_mem (Finset.mem_univ i)
  calc r.interface.neighbors.length
      = r.addresses.toFinset.card := hnodup.symm
    _ ≤ ((Finset.univ.erase i).image seg.address).card :=
        Finset.card_le_card hsub
    _ ≤ (Finset.univ.erase i).card := Finset.card_image_le
    _ < Fintype.card ι := hlt

/-- On a segment of 360 routers the Hellos fit. -/
theorem Member.helloFits [Fintype ι] (hcard : Fintype.card ι ≤ 360)
    (h : seg.Member sent i r) : r.HelloFits := by
  rw [Router.helloFits_iff]
  have hlength := h.length_neighbors_lt
  have hle := r.length_helloNeighbors_le
  omega

/-- A router whose id is listed has a record. -/
theorem Member.mem_addresses (hid : Function.Injective seg.routerId)
    (h : seg.Member sent j m) (hlisted : seg.routerId i ∈ m.helloNeighbors) :
    seg.address i ∈ m.addresses := by
  obtain ⟨n, hn, -, hnid⟩ := Router.mem_helloNeighbors.mp hlisted
  obtain ⟨k, -, hip, hkid⟩ := h.exists_router hn
  rw [hid (hnid.symm.trans hkid), ← hip]
  exact List.mem_map_of_mem hn

/-- Nothing is heard on a segment but what its routers have said. -/
theorem member_preserves (seg : Segment ι) :
    Network.Preserves Router.step id NoHello Brings
      (fun sent i r => seg.Member sent i r) seg.Message where
  mono := fun _ _ _ _ hextends h => h.mono fun j => (hextends j).subset
  send := fun sent _ _ h => ⟨sent, h⟩
  act := by
    intro net i a r hown h hr
    apply h.step _ hr
    cases a with
    | frame now packet =>
        intro hadmits htype
        exact absurd htype (hown hadmits)
    | _ => trivial
  hear := by
    rintro sent i j r a r' m hm ⟨sent', hmessage⟩ hbrings h hr'
    apply h.step _ hr'
    cases a with
    | frame now packet =>
        intro hadmits htype
        have hconveys : Conveys packet m.interface.ipInterfaceAddress
          allSpfRouters m.helloPacket := hbrings
        have hne : j ≠ i := by
          rintro rfl
          apply ((Router.admits_hello_iff hconveys).mp hadmits).1
          rw [address_of_same hmessage.same, address_of_same h.same]
        rw [saidIn_of_brings hbrings]
        exact ⟨j, hne, address_of_same hmessage.same,
          hmessage.same.routerId, rfl, m, hm, rfl, rfl⟩
    | _ => trivial

/-! ## Runs -/

section Runs

variable [DecidableEq ι]

/-- What an event does. -/
def next (net : Net ι) (e : Event ι) : Outcome (Net ι) :=
  Network.next Router.step id net e

theorem sound_of_run {es : List (Event ι)}
    (hallowed : Along next Allowed seg.start es)
    (hrun : runFrom next seg.start es = .ok net) :
    net.Sound (fun sent i r => seg.Member sent i r) seg.Message :=
  (start_sound seg).run (member_preserves seg) hallowed hrun

end Runs

end Segment
end OspfLite
