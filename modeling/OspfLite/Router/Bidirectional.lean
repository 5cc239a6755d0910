import OspfLite.Router.HelloSender
import OspfLite.Router.Hearing

/-!
# Bidirectional neighbors

What the records of the neighbors have in common is kept step by step, record
by record.  A neighbor is counted as bidirectional only on account of a Hello
that lists the router or of a Database Description packet, and a record is
never removed.
-/

namespace OspfLite

/-- What all records have in common after one of them has been changed. -/
theorem forall_modifyNeighbor {Q : Neighbor → Prop} {ip : UInt32}
    {f : Neighbor → Neighbor} {neighbors : List Neighbor}
    (h : ∀ n ∈ neighbors, Q n)
    (hf : ∀ n ∈ neighbors, n.ip = ip → Q n → Q (f n)) :
    ∀ n ∈ modifyNeighbor ip f neighbors, Q n := by
  induction neighbors with
  | nil => exact fun n hn => absurd hn List.not_mem_nil
  | cons m rest ih =>
      rw [List.forall_mem_cons] at h hf
      rw [modifyNeighbor]
      split_ifs with hm
      · exact List.forall_mem_cons.mpr ⟨hf.1 hm h.1, h.2⟩
      · exact List.forall_mem_cons.mpr ⟨h.1, ih h.2 hf.2⟩

namespace Neighbor

variable {n : Neighbor}

theorem eventInactivityTimer_state (n : Neighbor) :
    n.eventInactivityTimer.1.state = .down := by
  rw [eventInactivityTimer]
  split_ifs
  · exact clearLists_state { n with state := .down }
  · exact clearLists_state { n with state := .down }

theorem event2wayReceived_state (inter : Interface) (n : Neighbor) :
    (n.event2wayReceived inter).state = n.state ∨
      .twoWay ≤ (n.event2wayReceived inter).state := by
  rw [event2wayReceived]
  split_ifs
  · exact Or.inr (show NeighborState.twoWay ≤ .exStart by decide)
  · exact Or.inr le_rfl
  · exact Or.inl rfl

theorem not_attempt_of_twoWay (h : .twoWay ≤ n.state) :
    n.state ≠ .attempt := by
  intro hstate
  rw [hstate] at h
  exact absurd h (by decide)

theorem event2wayReceived_loading {inter : Interface}
    (h : (n.event2wayReceived inter).state = .loading) :
    n.state = .loading := by
  rw [event2wayReceived] at h
  split_ifs at h
  · cases h
  · exact h

/-- The states that are the same to Hellos tell ATTEMPT from all others. -/
theorem Alike.attempt {n' : Neighbor} (h : n.Alike n')
    (hn : n.state ≠ .attempt) : n'.state ≠ .attempt := by
  intro hattempt
  have hinit := h.init
  have hdown := h.down
  have htwo := h.twoWay
  rw [hattempt] at hinit hdown htwo
  generalize n.state = s at hn hinit hdown htwo
  revert hn hinit hdown htwo
  cases s <;> decide

end Neighbor

namespace Interface

variable {inter : Interface} {routerId : UInt32} {uninit : Uninit} {now : ℤ}
  {ip : UInt32} {fields : HelloFields}

/-- A Hello that lists the router leaves its source bidirectional. -/
theorem heardNeighbor_listed_state (now : ℤ) (fields : HelloFields)
    (h : (inter.helloNeighbor uninit ip).state ≠ .attempt) :
    .twoWay ≤ (inter.heardNeighbor uninit now ip fields true).state := by
  obtain ⟨hlow, hhigh⟩ := (inter.helloNeighbor uninit ip).afterHello_state
    (inter.ensureNeighbor uninit ip) now fields
  have hafter : inter.heardNeighbor uninit now ip fields true =
      (inter.helloNeighbor uninit ip).afterHello
        (inter.ensureNeighbor uninit ip) now fields := rfl
  rw [hafter]
  by_cases hstate : (inter.helloNeighbor uninit ip).state = .down ∨
      (inter.helloNeighbor uninit ip).state = .init
  · exact hlow hstate
  · rw [hhigh hstate]
    generalize (inter.helloNeighbor uninit ip).state = s at h hstate
    revert h hstate
    cases s <;> decide

/-- A Hello that does not leaves it in INIT. -/
theorem heardNeighbor_unlisted_state
    (h : (inter.helloNeighbor uninit ip).state ≠ .attempt) :
    (inter.heardNeighbor uninit now ip fields false).state = .init := by
  have hheard : (((inter.helloNeighbor uninit ip).eventHelloReceived
      now).writeHello fields).state =
        if (inter.helloNeighbor uninit ip).state = .down then .init
        else (inter.helloNeighbor uninit ip).state := by
    rw [Neighbor.writeHello, Neighbor.eventHelloReceived]
    split_ifs <;> rfl
  have hnone : inter.heardNeighbor uninit now ip fields false =
      (((inter.helloNeighbor uninit ip).eventHelloReceived
        now).writeHello fields).event1wayReceived.1 := rfl
  rw [hnone, Neighbor.event1wayReceived]
  split_ifs with htwo
  · simp only [Neighbor.joinEmptyDdSender, Neighbor.clearLists_state]
  · rw [hheard] at htwo ⊢
    generalize (inter.helloNeighbor uninit ip).state = s at h htwo
    revert h htwo
    cases s <;> decide

/-- A Hello does not lead to LOADING. -/
theorem heardNeighbor_loading {listed : Bool}
    (h : (inter.heardNeighbor uninit now ip fields listed).state =
      .loading) : (inter.helloNeighbor uninit ip).state = .loading := by
  have hheard : ∀ n : Neighbor,
      ((n.eventHelloReceived now).writeHello fields).state = .loading →
        n.state = .loading := by
    intro n hn
    rw [Neighbor.writeHello, Neighbor.eventHelloReceived] at hn
    split_ifs at hn
    exact hn
  rw [heardNeighbor] at h
  split_ifs at h
  · exact hheard _ (Neighbor.event2wayReceived_loading h)
  · rw [Neighbor.event1wayReceived] at h
    split_ifs at h
    · simp only [Neighbor.joinEmptyDdSender, Neighbor.clearLists_state] at h
      cases h
    · exact hheard _ h

/-- The record that a Hello meets is in a state that a record can be in, or
DOWN. -/
theorem helloNeighbor_state_ne {state : NeighborState} (uninit : Uninit)
    (ip : UInt32) (h : ∀ n ∈ inter.neighbors, n.state ≠ state)
    (hdown : .down ≠ state) :
    (inter.helloNeighbor uninit ip).state ≠ state := by
  rw [helloNeighbor]
  cases hfind : inter.findNeighbor ip with
  | some n => exact h n (List.mem_of_find?_eq_some hfind)
  | none => exact hdown

/-- A neighbor that declares nothing raises no event that counts in
WAITING. -/
theorem helloRaises_of_undeclared {event : Event} (hdr : fields.dr ≠ ip)
    (hbdr : fields.bdr ≠ ip)
    (h : inter.helloRaises uninit now ip fields = some event) :
    event = .neighborChange := by
  have hcandidate := (inter.helloNeighbor uninit ip).afterHello_candidate
    (inter.ensureNeighbor uninit ip) now fields
  simp only [Neighbor.candidate, Candidate.mk.injEq, helloNeighbor_ip]
    at hcandidate
  obtain ⟨hip, -, -, hafter, hafter'⟩ := hcandidate
  simp only [helloRaises, helloEvent, hip, hafter, hafter', hdr, hbdr,
    false_and, and_false, if_false] at h
  split_ifs at h <;> exact (Option.some.inj h).symm

theorem recvHello_waiting {listed : Bool} {next : Interface}
    (hwaiting : inter.state = .waiting) (hdr : fields.dr ≠ ip)
    (hbdr : fields.bdr ≠ ip)
    (h : inter.recvHello routerId uninit now ip fields listed = .ok next) :
    next.state = .waiting := by
  have hheard : (inter.heardHello uninit now ip fields listed).state =
      .waiting := by
    rw [heardHello_rest]
    exact hwaiting
  cases listed with
  | true =>
      rw [recvHello_listed] at h
      cases hraises : inter.helloRaises uninit now ip fields with
      | none =>
          rw [hraises, Except.ok.injEq] at h
          exact h ▸ hheard
      | some event =>
          obtain rfl := helloRaises_of_undeclared hdr hbdr hraises
          rw [hraises] at h
          have hhandle : (inter.heardHello uninit now ip fields true).handle
            routerId .neighborChange = .ok next := h
          rw [handle_of_not_callsElection (by decide), Except.ok.injEq]
            at hhandle
          · exact hhandle ▸ hheard
          · rw [CallsElection, hheard]
            decide
  | false =>
      rw [recvHello] at h
      simp only [findNeighbor_ensureNeighbor, Bool.false_eq_true, if_false,
        Except.ok.injEq] at h
      exact h ▸ hheard

/-- What the records have in common, as an invariant. -/
theorem invariant_records {Q : Neighbor → Prop} (routerId : UInt32)
    (hQ : ∀ n n', n.Alike n' → Q n → Q n')
    (hexpires : ∀ n, Q n → Q n.eventInactivityTimer.1) :
    Invariant routerId fun inter => ∀ n ∈ inter.neighbors, Q n where
  alike := fun _ _ halike h => forall_mem_of_forall₂ hQ halike.neighbors h
  elects := fun _ _ helects h => forall_mem_of_forall₂ hQ helects.neighbors h
  expires := by
    intro inter i n hn h m hm
    rcases List.mem_or_eq_of_mem_set hm with hold | rfl
    · exact h m hold
    · exact hexpires n (h n (List.mem_of_getElem? hn))
  timeout := fun _ h => h

/-- That there are records for certain addresses, as an invariant. -/
theorem invariant_addresses (routerId : UInt32) (A : List UInt32) :
    Invariant routerId fun inter =>
      A ⊆ inter.neighbors.map Neighbor.ip where
  alike := fun _ _ halike h => halike.addresses ▸ h
  elects := by
    intro inter next helects h
    rwa [Router.addresses_of_forall₂ (fun _ _ hn => hn.ip) helects.neighbors]
  expires := by
    intro inter i n hn h
    have hip : n.eventInactivityTimer.1.ip = n.ip :=
      congrArg Candidate.ip n.eventInactivityTimer_candidate
    obtain ⟨hi, hget⟩ := List.getElem?_eq_some_iff.mp hn
    have hsame : (inter.neighbors.set i n.eventInactivityTimer.1).map
        Neighbor.ip = inter.neighbors.map Neighbor.ip := by
      rw [List.map_set, hip, ← hget, ← List.getElem_map Neighbor.ip,
        List.set_getElem_self]
      rwa [List.length_map]
    exact hsame.symm ▸ h
  timeout := fun _ h => h

end Interface

namespace Router

variable {r r' : Router}

/-- What the records have in common is kept, when the record that a Hello
leaves behind has it too, and a Database Description packet does not destroy
it. -/
theorem step_records {Q : Neighbor → Prop} {step : Step}
    (hQ : ∀ n n', n.Alike n' → Q n → Q n')
    (hexpires : ∀ n, Q n → Q n.eventInactivityTimer.1)
    (h : ∀ n ∈ r.interface.neighbors, Q n)
    (hhello : ∀ now packet listed, step = .frame now packet →
      r.Admits packet → packet 21 = typeHello →
        helloLists packet r.routerId = .ok listed →
          Q (r.interface.heardNeighbor r.uninit now
            (ntohl (packet.load32 12)) (helloFields packet) listed))
    (hdd : ∀ now packet, step = .frame now packet →
      r.Admits packet → packet 21 = typeDd → ∀ n ∈ r.interface.neighbors,
        n.ip = ntohl (packet.load32 12) → Q n →
          Q (n.event2wayReceived r.interface))
    (hstep : r.step step = .ok r') : ∀ n ∈ r'.interface.neighbors, Q n := by
  refine step_keeps (Interface.invariant_records r.routerId hQ hexpires) h ?_
    hstep
  cases step with
  | frame now packet =>
      intro hadmits
      refine ⟨fun htype listed hlisted n hn => ?_, fun htype => ?_⟩
      · rcases Interface.mem_heardHello hn with hold | rfl
        · exact h n hold
        · exact hhello now packet listed rfl hadmits htype hlisted
      · exact forall_modifyNeighbor h (hdd now packet rfl hadmits htype)
  | _ => trivial

/-- No neighbor is ever in ATTEMPT. -/
theorem step_attempt {step : Step}
    (h : ∀ n ∈ r.interface.neighbors, n.state ≠ .attempt)
    (hstep : r.step step = .ok r') :
    ∀ n ∈ r'.interface.neighbors, n.state ≠ .attempt := by
  refine step_records (fun _ _ => Neighbor.Alike.attempt) ?_ h ?_ ?_ hstep
  · intro n _
    rw [Neighbor.eventInactivityTimer_state]
    decide
  · intro now packet listed _ _ _ _
    have hold := Interface.helloNeighbor_state_ne r.uninit
      (ntohl (packet.load32 12)) h (by decide)
    cases listed with
    | true =>
        exact Neighbor.not_attempt_of_twoWay
          (Interface.heardNeighbor_listed_state _ _ hold)
    | false =>
        rw [Interface.heardNeighbor_unlisted_state hold]
        decide
  · intro _ _ _ _ _ n _ _ hn
    rcases n.event2wayReceived_state r.interface with hsame | htwo
    · rwa [hsame]
    · exact Neighbor.not_attempt_of_twoWay htwo

/-- No neighbor is ever in LOADING. -/
theorem step_loading {step : Step}
    (h : ∀ n ∈ r.interface.neighbors, n.state ≠ .loading)
    (hstep : r.step step = .ok r') :
    ∀ n ∈ r'.interface.neighbors, n.state ≠ .loading := by
  refine step_records (fun _ _ halike hn hl => hn (halike.loading hl)) ?_ h
    ?_ ?_ hstep
  · intro n _
    rw [Neighbor.eventInactivityTimer_state]
    decide
  · intro now packet listed _ _ _ _ hl
    exact Interface.helloNeighbor_state_ne _ _ h (by decide)
      (Interface.heardNeighbor_loading hl)
  · intro _ _ _ _ _ n _ _ hn hl
    exact hn (Neighbor.event2wayReceived_loading hl)

/-- The records stay. -/
theorem step_addresses {step : Step} (hstep : r.step step = .ok r') :
    r.addresses ⊆ r'.addresses := by
  refine step_keeps (Interface.invariant_addresses r.routerId r.addresses)
    (List.Subset.refl _) ?_ hstep
  cases step with
  | frame now packet =>
      intro _
      refine ⟨fun _ listed _ => ?_, fun _ => ?_⟩
      · rw [Interface.heardHello_eq]
        have hip : (r.interface.heardNeighbor r.uninit now
            (ntohl (packet.load32 12)) (helloFields packet) listed).ip =
              ntohl (packet.load32 12) :=
          congrArg Candidate.ip (Interface.heardNeighbor_candidate _ _ _ _ _ _)
        have hmap : ∀ inter : Interface,
            (inter.modifyNeighbor (ntohl (packet.load32 12))
              fun _ => r.interface.heardNeighbor r.uninit now
                (ntohl (packet.load32 12)) (helloFields packet)
                listed).neighbors.map Neighbor.ip =
              inter.neighbors.map Neighbor.ip :=
          fun _ => map_ip_modifyNeighbor fun _ _ => hip
        dsimp only
        rw [hmap, Interface.ensureNeighbor]
        split_ifs
        · rw [Interface.addNeighbor, List.map_append]
          exact List.subset_append_left _ _
        · exact List.Subset.refl _
      · have hmap : (r.interface.modifyNeighbor (ntohl (packet.load32 12))
            (Neighbor.event2wayReceived r.interface)).neighbors.map
              Neighbor.ip = r.addresses :=
          map_ip_modifyNeighbor fun n hn => (congrArg Candidate.ip
            (n.event2wayReceived_candidate r.interface)).trans hn
        dsimp only
        rw [hmap]
        exact List.Subset.refl _
  | _ => trivial

/-- What has been sent can be sent afterwards. -/
theorem MaySend.step {step : Step} {dst : UInt32} {bytes : List UInt8}
    (h : r.MaySend dst bytes) (hstep : r.step step = .ok r') :
    r'.MaySend dst bytes := by
  have hsame := step_sameRouter hstep
  exact h.of_eq hsame.routerId.symm hsame.areaId.symm hsame.auTypes.symm
    (step_addresses hstep)

/-- A Database Description packet goes to a neighbor. -/
theorem MaySend.mem_addresses {src dst : UInt32} {bytes : List UInt8}
    {packet : Memory} (h : r.MaySend dst bytes)
    (hconveys : Conveys packet src dst bytes) (htype : packet 21 = typeDd) :
    dst ∈ r.addresses := by
  obtain ⟨inter, -, type, data, rfl, hsends⟩ := h
  have hbyte : packet 21 = type := by
    refine (hconveys.bytes 1 ?_).trans (ospfPacket_typeByte _ _ _ _)
    rw [length_ospfPacket, ospfHeaderSize]
    omega
  rw [hbyte] at htype
  subst htype
  rcases hsends with ⟨-, hdst⟩ | hlsu | hlsack
  · exact hdst
  · exact absurd hlsu (by decide)
  · exact absurd hlsack (by decide)

/-- Everything the log says has been sent can be sent. -/
def Logged (r : Router) : Prop :=
  ∀ dst bytes, .sent dst bytes ∈ r.log → r.MaySend dst bytes

theorem Logged.step {step : Step} (h : r.Logged)
    (hstep : r.step step = .ok r') : r'.Logged := by
  intro dst bytes hmem
  obtain ⟨entries, hlog, hsends⟩ := step_sends hstep
  rw [hlog] at hmem
  rcases List.mem_append.mp hmem with hold | hnew
  · exact (h dst bytes hold).step hstep
  · exact (hsends dst bytes hnew).step hstep

/-- A neighbor is counted as bidirectional only when a Hello from its address
lists the router, or a Database Description packet comes from there. -/
theorem step_twoWay {A : Set UInt32} {step : Step}
    (hattempt : ∀ n ∈ r.interface.neighbors, n.state ≠ .attempt)
    (h : ∀ n ∈ r.interface.neighbors, .twoWay ≤ n.state → n.ip ∈ A)
    (hhello : ∀ now packet, step = .frame now packet → r.Admits packet →
      packet 21 = typeHello → helloLists packet r.routerId = .ok true →
        ntohl (packet.load32 12) ∈ A)
    (hdd : ∀ now packet, step = .frame now packet → r.Admits packet →
      packet 21 = typeDd → ntohl (packet.load32 12) ∈ A)
    (hstep : r.step step = .ok r') :
    ∀ n ∈ r'.interface.neighbors, .twoWay ≤ n.state → n.ip ∈ A := by
  refine step_records (Q := fun n => .twoWay ≤ n.state → n.ip ∈ A)
    (fun n n' halike hn htwo => ?_) (fun n _ htwo => ?_) h ?_ ?_ hstep
  · rw [halike.ip]
    exact hn (halike.twoWay.mp htwo)
  · rw [Neighbor.eventInactivityTimer_state] at htwo
    exact absurd htwo (by decide)
  · intro now packet listed hframe hadmits htype hlisted htwo
    have hold := Interface.helloNeighbor_state_ne r.uninit
      (ntohl (packet.load32 12)) hattempt (by decide)
    cases listed with
    | true =>
        rw [show Neighbor.ip _ = _ from congrArg Candidate.ip
          (Interface.heardNeighbor_candidate _ _ _ _ _ _)]
        exact hhello now packet hframe hadmits htype hlisted
    | false =>
        rw [Interface.heardNeighbor_unlisted_state hold] at htwo
        exact absurd htwo (by decide)
  · intro now packet hframe hadmits htype n _ hip _ _
    have hsame : (n.event2wayReceived r.interface).ip = n.ip :=
      congrArg Candidate.ip (n.event2wayReceived_candidate r.interface)
    rw [hsame, hip]
    exact hdd now packet hframe hadmits htype

/-- A Hello that is heard is taken in without a fault.  Its sender is known
from then on, and bidirectional if it lists the router. -/
theorem exists_step_hello {P : Candidate → Prop} {S : Set UInt32} {m : Router}
    {packet : Memory} (now : ℤ) (h : r.interface.Knows P S)
    (hsense : Interface.Sensible P S r.interface.ipInterfaceAddress)
    (hattempt : ∀ n ∈ r.interface.neighbors, n.state ≠ .attempt)
    (hears : r.Hears m) (hfits : m.HelloFits)
    (hconveys : Conveys packet m.interface.ipInterfaceAddress allSpfRouters
      m.helloPacket)
    (hsaid : P ⟨m.interface.ipInterfaceAddress, m.routerId, 1,
      m.interface.dr, m.interface.bdr⟩) :
    ∃ r', r.step (.frame now packet) = .ok r' ∧
      ∃ n ∈ r'.interface.neighbors,
        n.ip = m.interface.ipInterfaceAddress ∧ n.id = m.routerId ∧
          n.state ≠ .down ∧
          (r.routerId ∈ m.helloNeighbors → .twoWay ≤ n.state) := by
  rw [step_of_hears hconveys now hears hfits, takeHello]
  generalize hlisted : decide (r.routerId ∈ m.helloNeighbors) = listed
  have hheard := h.heardHello r.uninit now m.helloSaid listed hsaid
  have hself := (r.interface.heardHello_rest r.uninit now
    m.interface.ipInterfaceAddress m.helloSaid listed)
  have hold := Interface.helloNeighbor_state_ne r.uninit
    m.interface.ipInterfaceAddress hattempt (by decide)
  obtain ⟨inter, hinter⟩ := Interface.exists_recvHello r.routerId
    fun event hevent => hheard.exists_handle _ (by rw [hself]; exact hsense)
      hevent
  rw [hinter]
  refine ⟨_, rfl, ?_⟩
  -- the record that the Hello leaves behind, up to what an election does
  have hrecord : ∃ n ∈ inter.neighbors, (r.interface.heardNeighbor r.uninit
      now m.interface.ipInterfaceAddress m.helloSaid listed).Alike n := by
    have hmem := r.interface.heardNeighbor_mem r.uninit now
      m.interface.ipInterfaceAddress m.helloSaid listed
    rcases Interface.recvHello_heard hinter with
      rfl | ⟨event, hevent, hhandle⟩
    · exact ⟨_, hmem, Neighbor.alike_refl _⟩
    · rcases Interface.handle_elects hevent hhandle with
        ⟨-, helects⟩ | ⟨-, rfl⟩
      · exact exists_mem_of_forall₂ helects.neighbors hmem
      · exact ⟨_, hmem, Neighbor.alike_refl _⟩
  obtain ⟨n, hn, halike⟩ := hrecord
  have hcandidate := halike.candidate.trans
    (Interface.heardNeighbor_candidate _ _ _ _ _ _)
  refine ⟨n, hn, congrArg Candidate.ip hcandidate,
    congrArg Candidate.id hcandidate, ?_, ?_⟩
  · rw [ne_eq, halike.down]
    cases listed with
    | true =>
        intro hdown
        have htwo := Interface.heardNeighbor_listed_state now m.helloSaid hold
        rw [hdown] at htwo
        exact absurd htwo (by decide)
    | false =>
        rw [Interface.heardNeighbor_unlisted_state hold]
        decide
  · intro hin
    rw [decide_eq_true hin] at hlisted
    rw [halike.twoWay, ← hlisted]
    exact Interface.heardNeighbor_listed_state _ _ hold

/-- A Hello that declares nothing does not end WAITING. -/
theorem step_hello_waiting {m : Router} {packet : Memory} {now : ℤ}
    (hears : r.Hears m) (hfits : m.HelloFits)
    (hconveys : Conveys packet m.interface.ipInterfaceAddress allSpfRouters
      m.helloPacket)
    (hdr : m.interface.dr ≠ m.interface.ipInterfaceAddress)
    (hbdr : m.interface.bdr ≠ m.interface.ipInterfaceAddress)
    (hwaiting : r.interface.state = .waiting)
    (hstep : r.step (.frame now packet) = .ok r') :
    r'.interface.state = .waiting := by
  rw [step_of_hears hconveys now hears hfits, takeHello] at hstep
  obtain ⟨inter, hinter, rfl⟩ := Outcome.map_eq_ok.mp hstep
  exact Interface.recvHello_waiting hwaiting hdr hbdr hinter

/-! ## Runs -/

/-- In every run of the process, every packet that has been sent besides the
Hellos carries the ids of the router and the authentication type of one of its
interfaces, and is a Database Description packet for a neighbor, an LSU or an
LSAck, so that no LSA is ever requested; and no neighbor is in ATTEMPT or in
LOADING. -/
theorem sent_of_run {routerId areaId : UInt32} {uninit : Uninit}
    {loopbacks : List (UInt32 × UInt32)} {address mask : UInt32}
    {steps : List Step}
    (hrun : runFrom Router.step
      (boot routerId areaId uninit loopbacks address mask) steps = .ok r) :
    (∀ dst bytes, .sent dst bytes ∈ r.log →
      ∃ inter ∈ r.interfaces, ∃ type data,
        bytes = r.ospfPacket inter.auType type data ∧
          (type = typeDd ∧ dst ∈ r.addresses ∨ type = typeLsu ∨
            type = typeLsAck)) ∧
      ∀ n ∈ r.interface.neighbors,
        n.state ≠ .attempt ∧ n.state ≠ .loading := by
  obtain ⟨hlogged, hattempt, hloading⟩ := runFrom_invariant
    (I := fun r => r.Logged ∧
      (∀ n ∈ r.interface.neighbors, n.state ≠ .attempt) ∧
        ∀ n ∈ r.interface.neighbors, n.state ≠ .loading)
    (P := fun _ _ => True)
    (fun _ _ _ h _ hstep => ⟨h.1.step hstep, step_attempt h.2.1 hstep,
      step_loading h.2.2 hstep⟩)
    ⟨fun _ _ hmem => (by cases hmem), fun _ hn => (by cases hn),
      fun _ hn => (by cases hn)⟩
    (along_of_forall (fun _ _ => trivial) _) hrun
  exact ⟨hlogged, fun n hn => ⟨hattempt n hn, hloading n hn⟩⟩

/-- A router that is DR and has heard a Hello of the router 3.3.3.3. -/
def declaringPeer : Router :=
  let peer := boot 0x02020202 0 ⟨0, 0, 0, false, false, false⟩ [] 0x0a000002
    0xffffff00
  { peer with
    interface := { peer.interface with
      dr := 0x0a000002
      neighbors := [{ Neighbor.new peer.uninit 0x0a000001 with
        id := 0x03030303
        state := .init }] } }

theorem sent_of_run_declaringPeer :
    ∃ r, runFrom step
        (boot 0x03030303 0 ⟨0, 0, 0, false, false, false⟩ [] 0x0a000001
          0xffffff00)
        [.frame 0 (ipDatagram 0x0a000002 allSpfRouters
            declaringPeer.helloPacket),
          .emptyDd 0x0a000002] = .ok r ∧
      r.log ≠ [] ∧
      (∀ dst bytes, .sent dst bytes ∈ r.log →
        ∃ inter ∈ r.interfaces, ∃ type data,
          bytes = r.ospfPacket inter.auType type data ∧
            (type = typeDd ∧ dst ∈ r.addresses ∨ type = typeLsu ∨
              type = typeLsAck)) ∧
        ∀ n ∈ r.interface.neighbors,
          n.state ≠ .attempt ∧ n.state ≠ .loading := by
  have hreached : ∃ r, runFrom step
      (boot 0x03030303 0 ⟨0, 0, 0, false, false, false⟩ [] 0x0a000001
        0xffffff00)
      [.frame 0 (ipDatagram 0x0a000002 allSpfRouters
          declaringPeer.helloPacket),
        .emptyDd 0x0a000002] = .ok r ∧ r.log ≠ [] :=
    Outcome.exists_of_completesWith (by decide +kernel)
  obtain ⟨r, hrun, hlog⟩ := hreached
  exact ⟨r, hrun, hlog, sent_of_run hrun⟩

end Router
end OspfLite
