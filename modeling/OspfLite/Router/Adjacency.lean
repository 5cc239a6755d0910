import OspfLite.Router.Hello
import OspfLite.Router.Originate
import OspfLite.Interface.ElectionLoop
import OspfLite.Neighbor.Joins

/-!
# Adjacencies

A neighbor stays in 2WAY as long as there is to be no adjacency with it, and
is in EXSTART or above only while there is to be one.  The roles on which this
depends change in an election only, and an election that changes them
re-examines every neighbor.
-/

namespace OspfLite

namespace Neighbor

/-- The state agrees with the test whether an adjacency should exist. -/
structure Settled (inter : Interface) (n : Neighbor) : Prop where
  twoWay : n.state = .twoWay → ¬inter.Adjacent n.ip
  adjacent : .exStart ≤ n.state → inter.Adjacent n.ip

variable {n : Neighbor} {inter : Interface}

/-- Below 2WAY nothing is required. -/
theorem settled_of_lt (h : n.state < .twoWay) : n.Settled inter where
  twoWay htwo := absurd h (by rw [htwo]; exact lt_irrefl _)
  adjacent hle := absurd (h.trans_le (by decide)) (not_lt.mpr hle)

theorem settled_of_adjacent (h : inter.Adjacent n.ip)
    (hstate : n.state ≠ .twoWay) : n.Settled inter :=
  ⟨fun htwo => absurd htwo hstate, fun _ => h⟩

theorem settled_of_twoWay (h : ¬inter.Adjacent n.ip)
    (hstate : n.state = .twoWay) : n.Settled inter where
  twoWay _ := h
  adjacent hle := absurd hle (by rw [hstate]; decide)

/-- Only the state and the address of the neighbor matter, and of the
interface only what the test reads. -/
theorem Settled.congr {n' : Neighbor} {inter' : Interface}
    (h : n.Settled inter) (hstate : n'.state = n.state)
    (hadj : inter'.Adjacent n'.ip ↔ inter.Adjacent n.ip) :
    n'.Settled inter' := by
  constructor
  · rw [hstate, hadj]
    exact h.twoWay
  · rw [hstate, hadj]
    exact h.adjacent

/-- Whatever its state was, a neighbor is settled after `event_adj_ok`. -/
theorem eventAdjOk_settled (inter : Interface) (n : Neighbor) :
    (n.eventAdjOk inter).1.Settled inter ∧
      (n.eventAdjOk inter).1.ip = n.ip := by
  have hstate := n.eventAdjOk_state inter
  have hip : (n.eventAdjOk inter).1.ip = n.ip := n.eventAdjOk_ip inter
  refine ⟨?_, hip⟩
  split_ifs at hstate with hlow hadj
  · exact settled_of_lt (hstate ▸ hlow)
  · refine settled_of_adjacent (hip ▸ hadj) (ne_of_gt ?_)
    rw [hstate]
    exact lt_max_of_lt_right (by decide)
  · exact settled_of_twoWay (hip ▸ hadj) hstate

/-- Every neighbor event keeps a settled neighbor settled, and none changes
its address. -/
theorem handle_settled (h : n.Settled inter) (lsdb : LSDB) (now : ℤ)
    (event : NeighborEvent) :
    (n.handle inter lsdb now event).1.Settled inter ∧
      (n.handle inter lsdb now event).1.ip = n.ip := by
  cases event with
  | helloReceived =>
      by_cases hdown : n.state = .down
      · simp only [handle, eventHelloReceived, hdown, if_true]
        exact ⟨settled_of_lt (show NeighborState.init < .twoWay by decide),
          trivial⟩
      · simp only [handle, eventHelloReceived, hdown, if_false]
        exact ⟨h.congr rfl Iff.rfl, trivial⟩
  | twoWayReceived =>
      by_cases hinit : n.state = .init
      · by_cases hadj : inter.Adjacent n.ip
        · simp only [handle, event2wayReceived, hinit, hadj, if_true]
          exact ⟨settled_of_adjacent hadj (by simp [resetDd]), rfl⟩
        · simp only [handle, event2wayReceived, hinit, hadj, if_true,
            if_false]
          exact ⟨settled_of_twoWay hadj rfl, trivial⟩
      · simp only [handle, event2wayReceived, hinit, if_false]
        exact ⟨h, trivial⟩
  | oneWayReceived =>
      by_cases hstate : NeighborState.twoWay ≤ n.state
      · simp only [handle, event1wayReceived, hstate, if_true]
        exact ⟨settled_of_lt (by simp [joinEmptyDdSender]; decide),
          by simp [joinEmptyDdSender]⟩
      · simp only [handle, event1wayReceived, hstate, if_false]
        exact ⟨h, trivial⟩
  | adjOk => exact eventAdjOk_settled inter n
  | negotiationDone =>
      by_cases hstate : n.state = .exStart
      · simp only [handle, eventNegotiationDone, hstate, if_true]
        exact ⟨settled_of_adjacent (h.adjacent (by rw [hstate]))
          (by simp), trivial⟩
      · simp only [handle, eventNegotiationDone, hstate, if_false]
        exact ⟨h, trivial⟩
  | exchangeDone =>
      by_cases hstate : n.state = .exchange
      · simp only [handle, exchangeDoneState, hstate, if_true]
        exact ⟨settled_of_adjacent
          (h.adjacent (by rw [hstate]; decide)) (by simp), trivial⟩
      · simp only [handle, exchangeDoneState, hstate, if_false]
        exact ⟨h, trivial⟩
  | loadingDone =>
      by_cases hstate : n.state = .loading
      · simp only [handle, loadingDoneState, hstate, if_true]
        exact ⟨settled_of_adjacent
          (h.adjacent (by rw [hstate]; decide)) (by simp), trivial⟩
      · simp only [handle, loadingDoneState, hstate, if_false]
        exact ⟨h, trivial⟩
  | seqNumberMismatch | badLsReq =>
      by_cases hstate : NeighborState.exchange ≤ n.state
      · simp only [handle, eventSeqNumberMismatch, eventBadLsReq,
          restartExchange, hstate, if_true]
        exact ⟨settled_of_adjacent
          (by simpa using h.adjacent (le_trans (by decide) hstate))
          (by simp), by simp⟩
      · simp only [handle, eventSeqNumberMismatch, eventBadLsReq,
          restartExchange, hstate, if_false]
        exact ⟨h, trivial⟩
  | inactivityTimer =>
      have hcleared : n.eventInactivityTimer.1.state = .down ∧
          n.eventInactivityTimer.1.ip = n.ip := by
        rw [eventInactivityTimer]
        split_ifs <;> simp [joinEmptyDdSender]
      exact ⟨settled_of_lt (by rw [handle, hcleared.1]; decide), hcleared.2⟩

end Neighbor

/-! ## Interface events -/

namespace Interface

/-- Every neighbor is settled. -/
def AllSettled (inter : Interface) : Prop :=
  ∀ n ∈ inter.neighbors, n.Settled inter

variable {inter next : Interface} {routerId : UInt32}

/-- Changes of fields the test does not read. -/
theorem AllSettled.congr (h : inter.AllSettled)
    (hneighbors : next.neighbors = inter.neighbors)
    (hadj : ∀ ip, next.Adjacent ip ↔ inter.Adjacent ip) :
    next.AllSettled := by
  intro n hn
  rw [hneighbors] at hn
  exact (h n hn).congr rfl (hadj n.ip)

/-- `event_adj_ok` for every neighbor settles all of them. -/
theorem allSettled_adjOkAll (inter : Interface) :
    inter.adjOkAll.AllSettled := by
  intro m hm
  obtain ⟨n, -, rfl⟩ := List.mem_map.mp hm
  exact (n.eventAdjOk_settled inter).1.congr rfl Iff.rfl

/-- An election keeps the neighbors settled: either it re-examines them, or
the roles it ends with are those it began with. -/
theorem finishElection_setRoles_settled (h : inter.AllSettled)
    (dr bdr : UInt32) :
    (inter.finishElection (inter.setRoles dr bdr)).AllSettled := by
  rw [finishElection]
  split_ifs with hchanged
  · exact allSettled_adjOkAll _
  · rw [not_or, not_ne_iff, not_ne_iff] at hchanged
    refine h.congr rfl ?_
    intro ip
    have hdr : inter.dr = dr := hchanged.1
    have hbdr : inter.bdr = bdr := hchanged.2
    simp only [Adjacent, setRoles, ← hdr, ← hbdr]

theorem settleState_settled (h : inter.AllSettled) :
    inter.settleState.AllSettled := by
  rw [settleState]
  split_ifs <;> exact h.congr rfl fun _ => Iff.rfl

/-- With a candidate, an election completes and leaves the neighbors
settled. -/
theorem exists_callElection_settled (h : inter.AllSettled)
    (hcandidate : inter.HasCandidate) (routerId : UInt32) :
    ∃ next, inter.callElection routerId = .ok next ∧
      next.settleState.AllSettled := by
  obtain ⟨passes, dr, bdr, hrun⟩ := exists_runElection hcandidate routerId
  refine ⟨_, by rw [callElection, hrun, Outcome.map_ok], ?_⟩
  exact settleState_settled (finishElection_setRoles_settled h dr bdr)

/-- Every interface event completes and keeps the neighbors settled. -/
theorem exists_handle_settled (h : inter.AllSettled) {event : Event}
    (hcandidate : inter.CallsElection event → inter.HasCandidate)
    (routerId : UInt32) :
    ∃ next, inter.handle routerId event = .ok next ∧ next.AllSettled := by
  by_cases hcalls : inter.CallsElection event
  · obtain ⟨next, hnext, hsettled⟩ :=
      exists_callElection_settled h (hcandidate hcalls) routerId
    obtain ⟨timer, timeout, hafter⟩ := settleAfter_eq event next
    refine ⟨next.settleAfter event, ?_, ?_⟩
    · rw [handle_of_callsElection hcalls, hnext, Outcome.map_ok]
    · rw [hafter]
      exact hsettled.congr rfl fun _ => Iff.rfl
  by_cases hevent : event = .interfaceUp
  · subst hevent
    refine ⟨_, rfl, ?_⟩
    rw [eventInterfaceUp]
    split_ifs <;> exact h.congr rfl fun _ => Iff.rfl
  · exact ⟨inter, handle_of_not_callsElection hevent hcalls routerId, h⟩

/-- Changing one neighbor keeps the others settled. -/
theorem AllSettled.modifyNeighbor (h : inter.AllSettled) {ip : UInt32}
    {f : Neighbor → Neighbor}
    (hf : ∀ n, n.Settled inter → (f n).Settled inter) :
    (inter.modifyNeighbor ip f).AllSettled := by
  intro m hm
  rcases mem_modifyNeighbor hm with hold | ⟨n, hn, rfl⟩
  · exact (h m hold).congr rfl Iff.rfl
  · exact (hf n (h n hn)).congr rfl Iff.rfl

end Interface

/-! ## Runs of events -/

namespace Router

/-- What happens to a router: an event of a neighbor or of the interface, a
Hello that sets fields of a neighbor, or a new neighbor. -/
inductive Occurrence where
  | neighborEvent (ip : UInt32) (event : NeighborEvent) (now : ℤ)
  | interfaceEvent (event : Interface.Event)
  | helloFields (ip : UInt32) (fields : HelloFields)
  | newNeighbor (ip : UInt32)

/-- The handler of a neighbor event, with `update_lsas` where the source calls
it. -/
def raise (r : Router) (ip : UInt32) (event : NeighborEvent) (now : ℤ) :
    Router :=
  match event with
  | .exchangeDone => r.eventExchangeDone ip
  | .loadingDone => r.eventLoadingDone ip
  | event =>
      r.modifyNeighbor ip fun n => (n.handle r.interface r.lsdb now event).1

/-- One occurrence. -/
def occur (r : Router) : Occurrence → Outcome Router
  | .neighborEvent ip event now => .ok (r.raise ip event now)
  | .interfaceEvent event =>
      (r.interface.handle r.routerId event).map fun inter =>
        { r with interface := inter }
  | .helloFields ip fields =>
      .ok (r.modifyNeighbor ip fun n => n.writeHello fields)
  | .newNeighbor ip =>
      .ok { r with
        interface := r.interface.addNeighbor (Neighbor.new r.uninit ip) }

/-- An election is called only while there is a candidate. -/
def HasCandidate (r : Router) : Occurrence → Prop
  | .interfaceEvent event =>
      r.interface.CallsElection event → r.interface.HasCandidate
  | _ => True

variable {r : Router}

/-- `update_lsas` leaves the neighbors settled. -/
theorem updateLsas_settled (h : r.interface.AllSettled) :
    r.updateLsas.interface.AllSettled := by
  obtain ⟨headers, hinter⟩ := r.updateLsas_interface
  rw [hinter]
  intro m hm
  obtain ⟨n, hn, rfl⟩ := List.mem_map.mp hm
  refine (h n hn).congr (n.pushAll_state headers) ?_
  rw [n.pushAll_ip headers]
  exact Iff.rfl

/-- A neighbor event keeps the neighbors settled. -/
theorem raise_settled (h : r.interface.AllSettled) (ip : UInt32)
    (event : NeighborEvent) (now : ℤ) :
    (r.raise ip event now).interface.AllSettled := by
  have hmodify : ∀ e : NeighborEvent,
      (r.modifyNeighbor ip fun n =>
        (n.handle r.interface r.lsdb now e).1).interface.AllSettled :=
    fun e => h.modifyNeighbor fun n hn =>
      (Neighbor.handle_settled hn r.lsdb now e).1
  cases event with
  | exchangeDone =>
      rw [raise, eventExchangeDone]
      cases r.findNeighbor ip with
      | none => exact h
      | some n =>
          simp only
          split_ifs
          · exact updateLsas_settled (hmodify .exchangeDone)
          · exact hmodify .exchangeDone
  | loadingDone =>
      rw [raise, eventLoadingDone]
      cases r.findNeighbor ip with
      | none => exact h
      | some n =>
          simp only
          split_ifs
          · exact updateLsas_settled (hmodify .loadingDone)
          · exact hmodify .loadingDone
  | _ => exact hmodify _

/-- Every occurrence completes and keeps the neighbors settled. -/
theorem exists_occur_settled (h : r.interface.AllSettled)
    {occurrence : Occurrence} (hcandidate : r.HasCandidate occurrence) :
    ∃ next, r.occur occurrence = .ok next ∧ next.interface.AllSettled := by
  cases occurrence with
  | neighborEvent ip event now => exact ⟨_, rfl, raise_settled h ip event now⟩
  | interfaceEvent event =>
      obtain ⟨inter, hinter, hsettled⟩ :=
        Interface.exists_handle_settled h hcandidate r.routerId
      exact ⟨_, by rw [occur, hinter, Outcome.map_ok], hsettled⟩
  | helloFields ip fields =>
      exact ⟨_, rfl, h.modifyNeighbor fun n hn => hn.congr rfl Iff.rfl⟩
  | newNeighbor ip =>
      refine ⟨_, rfl, ?_⟩
      intro m hm
      rcases List.mem_append.mp hm with hold | hnew
      · exact (h m hold).congr rfl Iff.rfl
      · rw [List.mem_singleton.mp hnew]
        exact Neighbor.settled_of_lt
          (show NeighborState.down < .twoWay by decide)

/-- In every run of events in which no election lacks a candidate, from a
state in which every neighbor is DOWN, each neighbor in 2WAY is one without
and each neighbor in EXSTART or above one with an adjacency. -/
theorem adjacency_of_run (r : Router)
    (hinit : ∀ n ∈ r.interface.neighbors, n.state = .down)
    (occurrences : List Occurrence)
    (hcandidates : Along occur HasCandidate r occurrences) :
    ∃ final, runFrom occur r occurrences = .ok final ∧
      ∀ n ∈ final.interface.neighbors,
        (n.state = .twoWay → ¬final.interface.Adjacent n.ip) ∧
        (.exStart ≤ n.state → final.interface.Adjacent n.ip) := by
  obtain ⟨final, hrun, hsettled⟩ := exists_runFrom
    (fun _ _ h hcandidate => exists_occur_settled h hcandidate)
    (fun n hn => Neighbor.settled_of_lt (by rw [hinit n hn]; decide))
    hcandidates
  exact ⟨final, hrun, fun n hn =>
    ⟨(hsettled n hn).twoWay, (hsettled n hn).adjacent⟩⟩

/-- A router becomes DR and then hears from a neighbor. -/
theorem adjacency_of_run_newNeighbor :
    ∃ final, runFrom occur
        (new 0x01010101 initialSequenceNumber 0 ⟨0, 0, 0, false, false, false⟩
          [] (Interface.new 0x0a000001 0xffffff00).eventInterfaceUp [])
        [.interfaceEvent .waitTimer, .newNeighbor 0x0a000002,
          .neighborEvent 0x0a000002 .helloReceived 0,
          .neighborEvent 0x0a000002 .twoWayReceived 0] = .ok final ∧
      ∀ n ∈ final.interface.neighbors,
        (n.state = .twoWay → ¬final.interface.Adjacent n.ip) ∧
        (.exStart ≤ n.state → final.interface.Adjacent n.ip) :=
  adjacency_of_run _ (fun _ hn => absurd hn List.not_mem_nil) _
    ⟨fun _ => Or.inl (by decide), fun _ _ => ⟨trivial, fun _ _ =>
      ⟨trivial, fun _ _ => ⟨trivial, fun _ _ => trivial⟩⟩⟩⟩

end Router
end OspfLite
