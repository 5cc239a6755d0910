import OspfLite.Router.Receive
import OspfLite.Interface.ElectionView

/-!
# Stale elections

What an election depends on is compared, after every Hello and every round of
the timers, with what the most recent election has seen.  A Hello of a
neighbor that becomes bidirectional or ceases to be so raises no event, and
leaves the election behind.
-/

namespace OspfLite

/-! ## Hello packets -/

namespace Neighbor

variable {n : Neighbor}

/-- A Hello with these fields changes the priority of the neighbor, or what it
declares itself to be. -/
def Redeclares (n : Neighbor) (fields : HelloFields) : Prop :=
  n.pri ≠ fields.pri ∨ ¬(n.dr = n.ip ↔ fields.dr = n.ip) ∨
    ¬(n.bdr = n.ip ↔ fields.bdr = n.ip)

instance (n : Neighbor) (fields : HelloFields) :
    Decidable (n.Redeclares fields) :=
  inferInstanceAs (Decidable (_ ∨ _ ∨ _))

/-- The neighbor when a Hello that lists the router has been taken in. -/
def afterHello (inter : Interface) (now : ℤ) (fields : HelloFields)
    (n : Neighbor) : Neighbor :=
  ((n.eventHelloReceived now).writeHello fields).event2wayReceived inter

theorem eventHelloReceived_ip (now : ℤ) (n : Neighbor) :
    (n.eventHelloReceived now).ip = n.ip := by
  rw [eventHelloReceived]
  split_ifs <;> rfl

theorem event2wayReceived_candidate (inter : Interface) (n : Neighbor) :
    (n.event2wayReceived inter).candidate = n.candidate := by
  rw [event2wayReceived]
  split_ifs <;> rfl

/-- A neighbor is never bidirectional after `event_1way_received`. -/
theorem event1wayReceived_spec (n : Neighbor) :
    n.event1wayReceived.1.state < .twoWay ∧
      n.event1wayReceived.1.ip = n.ip := by
  rw [event1wayReceived]
  split_ifs with hstate
  · simp only [joinEmptyDdSender, clearLists_state, clearLists_ip]
    exact ⟨by decide, trivial⟩
  · exact ⟨not_le.mp hstate, rfl⟩

/-- What the election may see of the neighbor after a Hello that lists the
router. -/
theorem afterHello_candidate (inter : Interface) (now : ℤ)
    (fields : HelloFields) (n : Neighbor) :
    (n.afterHello inter now fields).candidate =
      ⟨n.ip, fields.id, fields.pri, fields.dr, fields.bdr⟩ := by
  rw [afterHello, event2wayReceived_candidate, candidate]
  simp [writeHello, eventHelloReceived_ip]

/-- A neighbor in DOWN or INIT becomes bidirectional. -/
theorem afterHello_state (inter : Interface) (now : ℤ)
    (fields : HelloFields) (n : Neighbor) :
    (n.state = .down ∨ n.state = .init →
        .twoWay ≤ (n.afterHello inter now fields).state) ∧
      (¬(n.state = .down ∨ n.state = .init) →
        (n.afterHello inter now fields).state = n.state) := by
  have hheard : (n.eventHelloReceived now).state =
      if n.state = .down then .init else n.state := by
    rw [eventHelloReceived]
    split_ifs <;> rfl
  have htwoWay : ∀ m : Neighbor, (m.state = .init →
      .twoWay ≤ (m.event2wayReceived inter).state) ∧
        (m.state ≠ .init → (m.event2wayReceived inter).state = m.state) := by
    intro m
    rw [event2wayReceived]
    split_ifs with hinit hadj
    · constructor
      · intro _
        exact show NeighborState.twoWay ≤ .exStart by decide
      · intro h
        exact absurd hinit h
    · constructor
      · intro _
        exact le_rfl
      · intro h
        exact absurd hinit h
    · constructor
      · intro h
        exact absurd h hinit
      · intro _
        rfl
  have hwritten : ((n.eventHelloReceived now).writeHello fields).state =
      if n.state = .down then .init else n.state := hheard
  obtain ⟨hinit, hother⟩ :=
    htwoWay ((n.eventHelloReceived now).writeHello fields)
  rw [hwritten] at hinit hother
  constructor
  · intro hlow
    refine hinit ?_
    rcases hlow with h | h <;> simp [h]
  · intro hhigh
    rw [not_or] at hhigh
    rw [if_neg hhigh.1] at hother
    exact hother hhigh.2

end Neighbor

namespace Interface

variable {inter next : Interface} {routerId : UInt32} {uninit : Uninit}
  {now : ℤ} {ip : UInt32} {fields : HelloFields} {n : Neighbor}

/-- Outside WAITING the chain of events comes down to one: a known neighbor
has changed its priority or its declarations. -/
theorem helloEvent_of_ne_waiting {state : InterfaceState}
    (hstate : state ≠ .waiting) (newNeighbor : Bool) (before after : Neighbor)
    (hip : after.ip = before.ip) :
    helloEvent state newNeighbor before after =
      if newNeighbor = false ∧ before.Redeclares
          ⟨after.id, after.dr, after.bdr, after.pri, after.options⟩ then
        some .neighborChange
      else
        none := by
  simp only [helloEvent, Neighbor.Redeclares, hip, hstate, and_false,
    if_false]
  cases newNeighbor <;> by_cases hpri : before.pri = after.pri <;>
    by_cases hdr : before.dr = before.ip <;>
    by_cases hdr' : after.dr = before.ip <;>
    by_cases hbdr : before.bdr = before.ip <;>
    by_cases hbdr' : after.bdr = before.ip <;>
    simp [hpri, hdr, hdr', hbdr, hbdr']

/-- The record a Hello from `ip` meets: the neighbor at this address, or a new
one. -/
def helloNeighbor (inter : Interface) (uninit : Uninit) (ip : UInt32) :
    Neighbor :=
  (inter.findNeighbor ip).getD (Neighbor.new uninit ip)

/-- The record is found when it has been added. -/
theorem findNeighbor_ensureNeighbor (inter : Interface) (uninit : Uninit)
    (ip : UInt32) :
    (inter.ensureNeighbor uninit ip).findNeighbor ip =
      some (inter.helloNeighbor uninit ip) := by
  rw [ensureNeighbor, helloNeighbor]
  cases hfind : inter.findNeighbor ip with
  | some n => exact hfind
  | none =>
      rw [if_pos rfl, findNeighbor, addNeighbor, List.find?_append,
        ← findNeighbor, hfind]
      simp [Neighbor.new]

theorem ensureNeighbor_state (inter : Interface) (uninit : Uninit)
    (ip : UInt32) :
    (inter.ensureNeighbor uninit ip).state = inter.state := by
  rw [ensureNeighbor]
  split_ifs <;> rfl

/-- A new neighbor is not seen by an election, and its address is new. -/
theorem ensureNeighbor_spec (hunique : inter.AddressesUnique)
    (uninit : Uninit) (ip : UInt32) :
    (inter.ensureNeighbor uninit ip).AddressesUnique ∧
      (inter.ensureNeighbor uninit ip).findNeighbor ip =
        some (inter.helloNeighbor uninit ip) ∧
      electionViews (inter.ensureNeighbor uninit ip).neighbors =
        electionViews inter.neighbors ∧
      (inter.ensureNeighbor uninit ip).state = inter.state ∧
      (inter.ensureNeighbor uninit ip).electionSaw = inter.electionSaw := by
  have hfound := inter.findNeighbor_ensureNeighbor uninit ip
  rw [ensureNeighbor] at hfound ⊢
  cases hfind : inter.findNeighbor ip with
  | some n =>
      rw [hfind] at hfound
      exact ⟨hunique, hfound, rfl, rfl, rfl⟩
  | none =>
      rw [hfind] at hfound
      have hnew : KeyedList.lookup Neighbor.ip inter.neighbors
          (Neighbor.new uninit ip).ip = none := hfind
      refine ⟨hunique.push hnew, hfound, ?_, rfl, rfl⟩
      · have hunseen : (Neighbor.new uninit ip).electionView = none :=
          Neighbor.electionView_of_lt
            (show NeighborState.down < .twoWay by decide)
        ext v
        simp [electionViews, addNeighbor, or_and_right, exists_or, hunseen]

/-- The condition under which a Hello leaves no election behind, on an
interface that holds elections: a Hello that lists the router finds the
neighbor bidirectional already, or with priority zero, or in INIT and changes
what it declares; a Hello that does not list the router finds a neighbor that
is not eligible. -/
def HelloKeepsElection (inter : Interface) (uninit : Uninit) (ip : UInt32)
    (fields : HelloFields) (listed : Bool) : Prop :=
  inter.Elected →
    if listed then
      ((inter.helloNeighbor uninit ip).state ≠ .down ∧
          (inter.helloNeighbor uninit ip).state ≠ .init) ∨
        fields.pri = 0 ∨
        ((inter.helloNeighbor uninit ip).state = .init ∧
          (inter.helloNeighbor uninit ip).Redeclares fields)
    else
      ¬(inter.helloNeighbor uninit ip).Eligible

/-- The interface when a Hello that lists the router has been taken in. -/
def helloTaken (inter : Interface) (uninit : Uninit) (now : ℤ) (ip : UInt32)
    (fields : HelloFields) : Interface :=
  (inter.ensureNeighbor uninit ip).modifyNeighbor ip fun _ =>
    (inter.helloNeighbor uninit ip).afterHello
      (inter.ensureNeighbor uninit ip) now fields

/-- The event such a Hello raises. -/
def helloRaises (inter : Interface) (uninit : Uninit) (now : ℤ)
    (ip : UInt32) (fields : HelloFields) : Option Event :=
  helloEvent inter.state
    (decide ((inter.helloNeighbor uninit ip).state = .down))
    ((inter.helloNeighbor uninit ip).eventHelloReceived now)
    ((inter.helloNeighbor uninit ip).afterHello
      (inter.ensureNeighbor uninit ip) now fields)

theorem helloNeighbor_ip (inter : Interface) (uninit : Uninit)
    (ip : UInt32) : (inter.helloNeighbor uninit ip).ip = ip := by
  rw [helloNeighbor]
  cases hfind : inter.findNeighbor ip with
  | some n => exact findNeighbor_ip hfind
  | none => rfl

theorem afterHello_ip (now : ℤ) (fields : HelloFields) :
    ((inter.helloNeighbor uninit ip).afterHello next now fields).ip = ip :=
  (congrArg Candidate.ip
    (Neighbor.afterHello_candidate next now fields _)).trans
    (helloNeighbor_ip inter uninit ip)

/-- The branch for a Hello that lists the router. -/
theorem recvHello_listed :
    inter.recvHello routerId uninit now ip fields true =
      match inter.helloRaises uninit now ip fields with
      | none => .ok (inter.helloTaken uninit now ip fields)
      | some event =>
          (inter.helloTaken uninit now ip fields).handle routerId event := by
  rw [recvHello, helloRaises, ← inter.ensureNeighbor_state uninit ip]
  simp only [findNeighbor_ensureNeighbor, if_true]
  rfl

/-- What has been seen, when the Hello has been taken in but no event has been
raised. -/
theorem helloTaken_spec (hunique : inter.AddressesUnique)
    (uninit : Uninit) (now : ℤ) (ip : UInt32) (fields : HelloFields) :
    (inter.helloTaken uninit now ip fields).AddressesUnique ∧
      (inter.helloTaken uninit now ip fields).state = inter.state ∧
      (inter.helloTaken uninit now ip fields).electionSaw =
        inter.electionSaw ∧
      (electionViews (inter.helloTaken uninit now ip fields).neighbors =
          electionViews inter.neighbors ↔
        ((inter.helloNeighbor uninit ip).afterHello
          (inter.ensureNeighbor uninit ip) now fields).electionView =
          (inter.helloNeighbor uninit ip).electionView) := by
  obtain ⟨hunique', hfind, hviews, hstate, hsaw⟩ :=
    ensureNeighbor_spec hunique uninit ip
  refine ⟨hunique'.of_map_eq
    (map_ip_modifyNeighbor fun _ _ => afterHello_ip now fields),
    hstate, hsaw, ?_⟩
  rw [← hviews]
  exact electionViews_modifyNeighbor_iff hunique' hfind
    (afterHello_ip now fields)

/-- A neighbor that changes neither its priority nor its declarations, and is
not new, keeps its view exactly when the condition holds. -/
theorem afterHello_electionView_iff (n : Neighbor)
    (hquiet : ¬(n.state ≠ .down ∧ n.Redeclares fields)) :
    (n.afterHello inter now fields).electionView = n.electionView ↔
      ((n.state ≠ .down ∧ n.state ≠ .init) ∨ fields.pri = 0 ∨
        (n.state = .init ∧ n.Redeclares fields)) := by
  obtain ⟨hlow, hhigh⟩ := n.afterHello_state inter now fields
  have hcandidate := n.afterHello_candidate inter now fields
  simp only [Neighbor.candidate, Candidate.mk.injEq] at hcandidate
  obtain ⟨hip, -, hpri, hdr, hbdr⟩ := hcandidate
  by_cases hstate : n.state = .down ∨ n.state = .init
  · -- the neighbor was not seen before, and has become bidirectional
    have hunseen : n.electionView = none := by
      refine Neighbor.electionView_of_lt ?_
      rcases hstate with h | h <;> (rw [h]; decide)
    rw [hunseen, Neighbor.electionView_eq_none_iff (hlow hstate), hpri]
    rcases hstate with h | h
    · simp [h]
    · have hsame : ¬n.Redeclares fields := fun hre => hquiet ⟨by simp [h], hre⟩
      simp [h, hsame]
  · -- its state is the same, and so is what it declares
    have hne := not_or.mp hstate
    have hsame : ¬n.Redeclares fields := fun hre => hquiet ⟨hne.1, hre⟩
    simp only [Neighbor.Redeclares, not_or, not_not] at hsame
    obtain ⟨hpri', hdr', hbdr'⟩ := hsame
    refine iff_of_true ?_ (Or.inl hne)
    simp only [Neighbor.electionView, Neighbor.Eligible, hhigh hstate, hip,
      hpri, hpri', hdr, hdr', hbdr, hbdr']

/-- On an interface that holds elections, a Hello that lists the router raises
an event exactly when a known neighbor declares something new. -/
theorem helloRaises_of_elected (helected : inter.Elected) (uninit : Uninit)
    (now : ℤ) (ip : UInt32) (fields : HelloFields) :
    inter.helloRaises uninit now ip fields =
      if (inter.helloNeighbor uninit ip).state ≠ .down ∧
          (inter.helloNeighbor uninit ip).Redeclares fields then
        some .neighborChange
      else
        none := by
  have hstate : inter.state ≠ .waiting := by
    rcases helected with h | h | h <;> (rw [h]; decide)
  have hcandidate := (inter.helloNeighbor uninit ip).afterHello_candidate
    (inter.ensureNeighbor uninit ip) now fields
  simp only [Neighbor.candidate, Candidate.mk.injEq] at hcandidate
  obtain ⟨hip, -, hpri, hdr, hbdr⟩ := hcandidate
  rw [helloRaises, helloEvent_of_ne_waiting hstate]
  · by_cases hdown : (inter.helloNeighbor uninit ip).state = .down
    · simp [hdown]
    · have hheard : ((inter.helloNeighbor uninit ip).eventHelloReceived
          now).candidate = (inter.helloNeighbor uninit ip).candidate := by
        rw [Neighbor.eventHelloReceived]
        simp only [hdown, if_false]
        rfl
      simp only [Neighbor.candidate, Candidate.mk.injEq] at hheard
      simp only [Neighbor.Redeclares, hpri, hdr, hbdr, hheard, hdown,
        decide_false, ne_eq, not_false_eq_true, true_and]
  · rw [hip, Neighbor.eventHelloReceived_ip]

theorem helloRaises_ne_interfaceUp {event : Event}
    (h : inter.helloRaises uninit now ip fields = some event) :
    event ≠ .interfaceUp := by
  rintro rfl
  rw [helloRaises, helloEvent] at h
  split_ifs at h <;> cases h

/-- A Hello that lists the router. -/
theorem recvHello_listed_iff (hunique : inter.AddressesUnique)
    (hcurrent : inter.ElectionCurrent) :
    (∀ next, inter.recvHello routerId uninit now ip fields true = .ok next →
        next.ElectionCurrent) ↔
      inter.HelloKeepsElection uninit ip fields true := by
  obtain ⟨-, hstate, hsaw, hviews⟩ :=
    helloTaken_spec hunique uninit now ip fields
  have htaken : (inter.helloTaken uninit now ip fields).Elected ↔
      inter.Elected := by rw [Elected, Elected, hstate]
  rw [recvHello_listed]
  by_cases helected : inter.Elected
  · have hraises := helloRaises_of_elected helected uninit now ip fields
    have hcond : inter.HelloKeepsElection uninit ip fields true ↔
        ((inter.helloNeighbor uninit ip).state ≠ .down ∧
            (inter.helloNeighbor uninit ip).state ≠ .init) ∨
          fields.pri = 0 ∨
          ((inter.helloNeighbor uninit ip).state = .init ∧
            (inter.helloNeighbor uninit ip).Redeclares fields) :=
      forall_prop_of_true helected
    rw [hcond]
    by_cases hchange : (inter.helloNeighbor uninit ip).state ≠ .down ∧
        (inter.helloNeighbor uninit ip).Redeclares fields
    · rw [if_pos hchange] at hraises
      simp only [hraises]
      refine iff_of_true ?_ ?_
      · intro next hnext
        rcases handle_cases (by decide) hnext with ⟨hsees, -⟩ | ⟨-, hnot⟩
        · exact fun _ => hsees
        · exact absurd (htaken.mpr helected) (hnot rfl)
      · by_cases hinit : (inter.helloNeighbor uninit ip).state = .init
        · exact Or.inr (Or.inr ⟨hinit, hchange.2⟩)
        · exact Or.inl ⟨hchange.1, hinit⟩
    · rw [if_neg hchange] at hraises
      simp only [hraises, Except.ok.injEq, forall_eq']
      have hcurrent' : (inter.helloTaken uninit now ip fields).ElectionCurrent ↔
          electionViews (inter.helloTaken uninit now ip fields).neighbors =
            electionViews inter.neighbors := by
        rw [hcurrent helected, seenNeighbors, ← hsaw]
        exact forall_prop_of_true (htaken.mpr helected)
      rw [hcurrent', hviews, afterHello_electionView_iff _ hchange]
  · refine iff_of_true ?_ fun h => absurd h helected
    have hquiet : (inter.helloTaken uninit now ip fields).ElectionCurrent :=
      fun h => absurd (htaken.mp h) helected
    cases hraises : inter.helloRaises uninit now ip fields with
    | none =>
        intro next hnext
        exact Except.ok.inj hnext ▸ hquiet
    | some event =>
        intro next hnext
        rcases handle_cases (helloRaises_ne_interfaceUp hraises) hnext with
          ⟨hsees, -⟩ | ⟨rfl, -⟩
        · exact fun _ => hsees
        · exact hquiet

/-- A Hello that does not list the router. -/
theorem recvHello_unlisted_iff (hunique : inter.AddressesUnique)
    (hcurrent : inter.ElectionCurrent) :
    (∀ next, inter.recvHello routerId uninit now ip fields false = .ok next →
        next.ElectionCurrent) ↔
      inter.HelloKeepsElection uninit ip fields false := by
  obtain ⟨hunique', hfind, hviews, hstate, hsaw⟩ :=
    ensureNeighbor_spec hunique uninit ip
  have hlost := Neighbor.event1wayReceived_spec
    (((inter.helloNeighbor uninit ip).eventHelloReceived now).writeHello
      fields)
  have hip : (((inter.helloNeighbor uninit ip).eventHelloReceived
      now).writeHello fields).event1wayReceived.1.ip = ip := by
    rw [hlost.2]
    exact (Neighbor.eventHelloReceived_ip now _).trans
      (helloNeighbor_ip inter uninit ip)
  have hreplace := electionViews_modifyNeighbor_iff hunique' hfind hip
  rw [hviews, Neighbor.electionView_of_lt hlost.1] at hreplace
  rw [recvHello]
  simp only [hfind, Bool.false_eq_true, if_false, Except.ok.injEq, forall_eq']
  by_cases helected : inter.Elected
  · have hcond : inter.HelloKeepsElection uninit ip fields false ↔
        ¬(inter.helloNeighbor uninit ip).Eligible :=
      forall_prop_of_true helected
    rw [hcond, ← Neighbor.electionView_eq_none_iff_not_eligible, eq_comm,
      ← hreplace, hcurrent helected, seenNeighbors, ← hsaw]
    refine forall_prop_of_true ?_
    rwa [Elected, Interface.modifyNeighbor, hstate]
  · refine iff_of_true (fun h => absurd ?_ helected) fun h => absurd h helected
    rwa [Elected, Interface.modifyNeighbor, hstate] at h

/-- A Hello in general. -/
theorem recvHello_iff (hunique : inter.AddressesUnique)
    (hcurrent : inter.ElectionCurrent) (routerId : UInt32) (now : ℤ)
    (listed : Bool) :
    (∀ next, inter.recvHello routerId uninit now ip fields listed =
        .ok next → next.ElectionCurrent) ↔
      inter.HelloKeepsElection uninit ip fields listed := by
  cases listed with
  | true => exact recvHello_listed_iff hunique hcurrent
  | false => exact recvHello_unlisted_iff hunique hcurrent

/-- An event leaves the addresses distinct. -/
theorem AddressesUnique.handle (hunique : inter.AddressesUnique)
    {event : Event} (hevent : event ≠ .interfaceUp)
    (h : inter.handle routerId event = .ok next) : next.AddressesUnique := by
  rcases handle_cases hevent h with ⟨-, hmap⟩ | ⟨rfl, -⟩
  · exact hunique.of_map_eq hmap
  · exact hunique

/-- A Hello leaves the addresses distinct. -/
theorem AddressesUnique.recvHello (hunique : inter.AddressesUnique)
    {listed : Bool}
    (h : inter.recvHello routerId uninit now ip fields listed = .ok next) :
    next.AddressesUnique := by
  cases listed with
  | true =>
      obtain ⟨hunique', -⟩ := helloTaken_spec hunique uninit now ip fields
      rw [recvHello_listed] at h
      cases hraises : inter.helloRaises uninit now ip fields with
      | none =>
          rw [hraises, Except.ok.injEq] at h
          exact h ▸ hunique'
      | some event =>
          rw [hraises] at h
          exact hunique'.handle (helloRaises_ne_interfaceUp hraises) h
  | false =>
      obtain ⟨hunique', hfind, -⟩ := ensureNeighbor_spec hunique uninit ip
      rw [Interface.recvHello] at h
      simp only [hfind, Bool.false_eq_true, if_false, Except.ok.injEq] at h
      rw [← h]
      apply hunique'.of_map_eq
      apply map_ip_modifyNeighbor
      intro _ _
      rw [(Neighbor.event1wayReceived_spec _).2]
      exact (Neighbor.eventHelloReceived_ip now _).trans
        (helloNeighbor_ip inter uninit ip)

/-! ## Timers -/

/-- What holds between the packets: distinct addresses, and no election left
behind. -/
structure UpToDate (inter : Interface) : Prop where
  unique : inter.AddressesUnique
  current : inter.ElectionCurrent

/-- An event raised for an interface that holds elections, or for one whose
neighbors were up to date, leaves them up to date. -/
theorem upToDate_handle (hunique : inter.AddressesUnique) {event : Event}
    (hevent : event ≠ .interfaceUp)
    (hcurrent : event = .neighborChange ∨ inter.ElectionCurrent)
    (h : inter.handle routerId event = .ok next) : next.UpToDate := by
  refine ⟨hunique.handle hevent h, ?_⟩
  rcases handle_cases hevent h with ⟨hsees, -⟩ | ⟨rfl, hnot⟩
  · exact fun _ => hsees
  · rcases hcurrent with hchange | hcurrent
    · intro helected
      exact absurd helected (hnot hchange)
    · exact hcurrent

/-- An expired neighbor causes an election. -/
theorem UpToDate.inactivityStep (h : inter.UpToDate) {i : ℕ}
    (hstep : inter.inactivityStep routerId now i = .ok next) :
    next.UpToDate := by
  rw [Interface.inactivityStep] at hstep
  cases hn : inter.neighbors[i]? with
  | none =>
      rw [hn, Except.ok.injEq] at hstep
      exact hstep ▸ h
  | some n =>
      simp only [hn] at hstep
      split_ifs at hstep
      · have hip : n.eventInactivityTimer.1.ip = n.ip := by
          rw [Neighbor.eventInactivityTimer]
          split_ifs <;> simp [Neighbor.joinEmptyDdSender]
        have hmap : (inter.neighbors.set i n.eventInactivityTimer.1).map
            Neighbor.ip = inter.neighbors.map Neighbor.ip := by
          obtain ⟨hi, hget⟩ := List.getElem?_eq_some_iff.mp hn
          rw [List.map_set, hip, ← hget, ← List.getElem_map Neighbor.ip,
            List.set_getElem_self]
          rwa [List.length_map]
        exact upToDate_handle (h.unique.of_map_eq hmap)
          (show Event.neighborChange ≠ .interfaceUp by decide) (Or.inl rfl)
          hstep
      · exact Except.ok.inj hstep ▸ h

/-- The timers cause the elections they have to. -/
theorem UpToDate.timers (h : inter.UpToDate)
    (hstep : (inter.waitingTimer? routerId).bind
      (Interface.inactivityTimers routerId now) = .ok next) :
    next.UpToDate := by
  obtain ⟨waited, hwaited, hrest⟩ := Outcome.bind_eq_ok.mp hstep
  have hwaited' : waited.UpToDate := by
    rw [waitingTimer?] at hwaited
    split_ifs at hwaited
    · exact upToDate_handle h.unique
        (show Event.waitTimer ≠ .interfaceUp by decide) (Or.inr h.current)
        hwaited
    · exact Except.ok.inj hwaited ▸ h
  exact runFrom_invariant (P := fun _ _ => True)
    (fun _ _ _ hi _ hs => hi.inactivityStep hs) hwaited'
    (along_of_forall (fun _ _ => trivial) _) hrest

end Interface

namespace Router

/-! ## Runs -/

/-- The steps of a run of Hello packets and timeouts. -/
inductive HelloStep where
  | timers (now : ℤ)
  | waitingTimeout
  | hello (now : ℤ) (packet : Memory)

/-- One step; a packet is a Hello that has passed the checks of the loop, or
is dropped. -/
def helloStep (r : Router) : HelloStep → Outcome Router
  | .timers now => r.timers now
  | .waitingTimeout => r.step .waitingTimeout
  | .hello now packet =>
      if r.Admits packet then r.recvHello now packet else .ok r

/-- However the step ends, the most recent election is not stale. -/
def CurrentAfter (r : Router) (step : HelloStep) : Prop :=
  ∀ next, r.helloStep step = .ok next → next.interface.ElectionCurrent

/-- A Hello that is taken in meets the condition. -/
def KeepsElection (r : Router) : HelloStep → Prop
  | .hello _ packet =>
      r.Admits packet →
        r.HelloMatches (OSPFHello.load (packet.advance bodyOffset)) →
        ∀ listed, helloLists packet r.routerId = .ok listed →
          r.interface.HelloKeepsElection r.uninit (ntohl (packet.load32 12))
            (helloFields packet) listed
  | _ => True

variable {r next : Router}

/-- The interface after a Hello that has not been discarded. -/
theorem recvHello_eq_ok {now : ℤ} {packet : Memory}
    (hmatches : r.HelloMatches
      (OSPFHello.load (packet.advance bodyOffset))) :
    r.recvHello now packet = .ok next ↔
      ∃ listed, helloLists packet r.routerId = .ok listed ∧
        ∃ inter, r.interface.recvHello r.routerId r.uninit now
            (ntohl (packet.load32 12)) (helloFields packet) listed =
              .ok inter ∧ { r with interface := inter } = next := by
  rw [recvHello, if_pos hmatches]
  simp only [Outcome.bind_eq_ok, Outcome.map_eq_ok]

/-- A step leaves the addresses distinct, and one that leaves no election
behind keeps the interface up to date. -/
theorem upToDate_helloStep (h : r.interface.UpToDate) {step : HelloStep}
    (hkeeps : r.KeepsElection step) (hstep : r.helloStep step = .ok next) :
    next.interface.UpToDate := by
  cases step with
  | timers now =>
      obtain ⟨inter, hinter, rfl⟩ := Outcome.map_eq_ok.mp hstep
      exact h.timers hinter
  | waitingTimeout =>
      rw [helloStep, Router.step, Except.ok.injEq] at hstep
      subst hstep
      exact ⟨h.unique, h.current⟩
  | hello now packet =>
      rw [helloStep] at hstep
      split_ifs at hstep with hadmits
      · by_cases hmatches : r.HelloMatches
          (OSPFHello.load (packet.advance bodyOffset))
        · obtain ⟨listed, hlisted, inter, hinter, rfl⟩ :=
            (recvHello_eq_ok hmatches).mp hstep
          exact ⟨h.unique.recvHello hinter,
            (Interface.recvHello_iff h.unique h.current _ _ listed).mpr
              (hkeeps hadmits hmatches listed hlisted) inter hinter⟩
        · rw [recvHello, if_neg hmatches, Except.ok.injEq] at hstep
          exact hstep ▸ h
      · exact Except.ok.inj hstep ▸ h

/-- On an interface that is up to date, a step leaves no election behind
exactly when it meets the condition. -/
theorem currentAfter_iff (h : r.interface.UpToDate) (step : HelloStep) :
    r.CurrentAfter step ↔ r.KeepsElection step := by
  constructor
  · intro hcurrent
    cases step with
    | timers now => trivial
    | waitingTimeout => trivial
    | hello now packet =>
        intro hadmits hmatches listed hlisted
        apply (Interface.recvHello_iff h.unique h.current r.routerId now
          listed).mp
        intro inter hinter
        apply hcurrent { r with interface := inter }
        rw [helloStep, if_pos hadmits, recvHello_eq_ok hmatches]
        exact ⟨listed, hlisted, inter, hinter, rfl⟩
  · intro hkeeps next hnext
    exact (upToDate_helloStep h hkeeps hnext).current

/-- In a run of Hello packets and timeouts, from a router without neighbors,
no election is ever stale exactly when every Hello meets the condition. -/
theorem elections_current_iff (r : Router)
    (hinit : r.interface.neighbors = [] ∧ r.interface.electionSaw = none)
    (steps : List HelloStep) :
    Along helloStep CurrentAfter r steps ↔
      Along helloStep KeepsElection r steps := by
  have hstart : r.interface.UpToDate := by
    constructor
    · rw [Interface.AddressesUnique, hinit.1]
      exact KeyedList.unique_nil
    · intro _
      rw [Interface.seenNeighbors, hinit.1, hinit.2]
      rfl
  apply along_iff_of_invariant (I := fun r => r.interface.UpToDate) _ _ hstart
  · intro r step next h hkeeps hstep
    exact upToDate_helloStep h hkeeps hstep
  · intro r step h
    exact currentAfter_iff h step

/-- The Hello of the neighbor 10.0.0.2, with the router ids it lists. -/
def neighborHello (listed : List UInt8) : Memory :=
  ipDatagram 0x0a000002 0xe0000005
    ((new 0x02020202 initialSequenceNumber 0 ⟨0, 0, 0, false, false, false⟩ []
      (Interface.new 0x0a000002 0xffffff00) []).ospfPacket 0 typeHello
      (store32 (htonl 0xffffff00) ++ store16 (htons 10) ++ [2, 1] ++
        store32 (htonl 40) ++ store32 (htonl 0x0a000002) ++ store32 0 ++
        listed))

/-- The router of the examples when it has come up. -/
def startedRouter : Router :=
  start 0x01010101 initialSequenceNumber 0 ⟨0, 0, 0, false, false, false⟩ []
    0x0a000001 0xffffff00 []

/-- The router, alone until its waiting time is over, elects itself DR; then
the first Hello of the neighbor already lists it. -/
def newNeighborSteps : List HelloStep :=
  [.waitingTimeout, .timers 0,
    .hello 0 (neighborHello (store32 (htonl 0x01010101)))]

/-- The equivalence for that run. -/
theorem elections_current_iff_newNeighbor :
    Along helloStep CurrentAfter startedRouter newNeighborSteps ↔
      Along helloStep KeepsElection startedRouter newNeighborSteps :=
  elections_current_iff startedRouter ⟨by decide, by decide⟩ _

/-- The neighbor becomes bidirectional with its first Hello, which raises no
event, and no election follows. -/
theorem election_stale_after_newNeighbor :
    ¬Along helloStep CurrentAfter startedRouter newNeighborSteps := by
  have hreached : ∃ t, runFrom helloStep startedRouter
      [.waitingTimeout, .timers 0] = .ok t ∧
      t.Admits (neighborHello (store32 (htonl 0x01010101))) ∧
      t.HelloMatches (OSPFHello.load
        ((neighborHello (store32 (htonl 0x01010101))).advance bodyOffset)) ∧
      helloLists (neighborHello (store32 (htonl 0x01010101))) t.routerId =
        .ok true ∧
      t.interface.Elected ∧
      (t.interface.helloNeighbor t.uninit (ntohl
        ((neighborHello (store32 (htonl 0x01010101))).load32 12))).state =
          .down ∧
      (helloFields (neighborHello (store32 (htonl 0x01010101)))).pri ≠ 0 :=
    Outcome.exists_of_completesWith (by decide +kernel)
  obtain ⟨t, hrun, hadmits, hmatches, hlists, helected, hdown, hpri⟩ :=
    hreached
  have hstart : startedRouter.interface.UpToDate :=
    ⟨KeyedList.unique_nil, fun _ => rfl⟩
  -- The timeouts before the Hello leave no election behind.
  have hquiet : t.interface.UpToDate := by
    refine runFrom_invariant (I := fun r => r.interface.UpToDate)
      (P := KeepsElection) (fun _ _ _ h hk hs => upToDate_helloStep h hk hs)
      hstart ?_ hrun
    exact ⟨trivial, fun _ _ => ⟨trivial, fun _ _ => trivial⟩⟩
  apply not_along_of_prefix hrun
  intro hcurrent
  have hkeeps := (currentAfter_iff hquiet _).mp hcurrent
  rcases hkeeps hadmits hmatches true hlists helected with
    ⟨hnot, -⟩ | hzero | ⟨hinit, -⟩
  · exact hnot hdown
  · exact hpri hzero
  · rw [hdown] at hinit
    cases hinit

end Router
end OspfLite
