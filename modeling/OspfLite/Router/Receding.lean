import OspfLite.Router.Receive
import OspfLite.Interface.ElectionLoop
import OspfLite.Lib.Lists

/-!
# Events outside the exchange

Six events can end a database exchange, and none of them moves one on: either
the exchange stays as it is, or the neighbor falls below EXCHANGE and has its
lists cleared.
-/

namespace OspfLite
namespace Neighbor

/-- The three lists of the exchange. -/
def lists (n : Neighbor) :
    List LSAHeader × List LSAHeader × List LSAHeader :=
  (n.linkStateRetransmissionList, n.databaseSummaryList,
    n.linkStateRequestList)

/-- The exchange stays as it is. -/
structure KeepsExchange (n n' : Neighbor) : Prop where
  state : n'.state = n.state
  lists : n'.lists = n.lists
  dataLen : n'.lastSendDdDataLen = n.lastSendDdDataLen

/-- The neighbor ends below EXCHANGE: its lists are empty, or it was below
EXCHANGE before and has the same lists. -/
structure Falls (n n' : Neighbor) : Prop where
  state : n'.state < .exchange
  lists : n'.lists = ([], [], []) ∨
    (n.state < .exchange ∧ n'.lists = n.lists)

/-- What becomes of a neighbor outside the exchange. -/
structure Recedes (n n' : Neighbor) : Prop where
  ip : n'.ip = n.ip
  exchange : n.KeepsExchange n' ∨ n.Falls n'

variable {n n' n'' : Neighbor}

theorem recedes_refl (n : Neighbor) : n.Recedes n :=
  ⟨rfl, Or.inl ⟨rfl, rfl, rfl⟩⟩

theorem Recedes.trans (h : n.Recedes n') (h' : n'.Recedes n'') :
    n.Recedes n'' := by
  refine ⟨h'.ip.trans h.ip, ?_⟩
  rcases h.exchange with hkeep | hfall
  · rcases h'.exchange with hkeep' | hfall'
    · left
      exact ⟨hkeep'.state.trans hkeep.state, hkeep'.lists.trans hkeep.lists,
        hkeep'.dataLen.trans hkeep.dataLen⟩
    · right
      refine ⟨hfall'.state, ?_⟩
      rw [← hkeep.state, ← hkeep.lists]
      exact hfall'.lists
  · right
    rcases h'.exchange with hkeep' | hfall'
    · refine ⟨hkeep'.state ▸ hfall.state, ?_⟩
      rw [hkeep'.lists]
      exact hfall.lists
    · refine ⟨hfall'.state, ?_⟩
      rcases hfall'.lists with hempty | ⟨-, hsame⟩
      · exact Or.inl hempty
      · rw [hsame]
        exact hfall.lists

/-! ## The shared blocks -/

@[simp] theorem clearLists_lists (n : Neighbor) :
    n.clearLists.1.lists = ([], [], []) := by
  by_cases h : n.lsrSenderCreated = true <;>
    simp [clearLists, joinRetransSender, joinLsrSender, h, lists]

@[simp] theorem restartEmptyDdSender_lists (n : Neighbor) :
    n.restartEmptyDdSender.1.lists = n.lists := by
  by_cases h : n.isEmptyDdSenderRunning = true <;>
    simp [restartEmptyDdSender, joinEmptyDdSender, createEmptyDdSender, h,
      lists]

@[simp] theorem joinEmptyDdSender_lists (n : Neighbor) :
    n.joinEmptyDdSender.1.lists = n.lists := rfl

/-- Clearing the lists in a state below EXCHANGE. -/
theorem falls_of_cleared (hstate : n'.state < .exchange)
    (hlists : n'.lists = ([], [], [])) : n.Falls n' :=
  ⟨hstate, Or.inl hlists⟩

/-! ## The events -/

theorem eventHelloReceived_recedes (now : ℤ) (n : Neighbor) :
    n.Recedes (n.eventHelloReceived now) := by
  rw [eventHelloReceived]
  split_ifs with hdown
  · refine ⟨rfl, Or.inr ⟨show NeighborState.init < .exchange by decide,
      Or.inr ⟨?_, rfl⟩⟩⟩
    have hstate : n.state = .down := hdown
    rw [hstate]
    decide
  · exact ⟨rfl, Or.inl ⟨rfl, rfl, rfl⟩⟩

theorem writeHello_recedes (fields : HelloFields) (n : Neighbor) :
    n.Recedes (n.writeHello fields) :=
  ⟨rfl, Or.inl ⟨rfl, rfl, rfl⟩⟩

theorem event2wayReceived_recedes (inter : Interface) (n : Neighbor) :
    n.Recedes (n.event2wayReceived inter) := by
  rw [event2wayReceived]
  split_ifs with hinit hadj
  · refine ⟨rfl, Or.inr ⟨show NeighborState.exStart < .exchange by decide,
      Or.inr ⟨?_, rfl⟩⟩⟩
    rw [hinit]
    decide
  · refine ⟨rfl, Or.inr ⟨show NeighborState.twoWay < .exchange by decide,
      Or.inr ⟨?_, rfl⟩⟩⟩
    rw [hinit]
    decide
  · exact recedes_refl n

theorem event1wayReceived_recedes (n : Neighbor) :
    n.Recedes n.event1wayReceived.1 := by
  rw [event1wayReceived]
  split_ifs
  · refine ⟨by simp [joinEmptyDdSender], Or.inr (falls_of_cleared ?_ ?_)⟩
    · simp only [joinEmptyDdSender, clearLists_state]
      decide
    · exact clearLists_lists _
  · exact recedes_refl n

theorem eventAdjOk_recedes (inter : Interface) (n : Neighbor) :
    n.Recedes (n.eventAdjOk inter).1 := by
  refine ⟨n.eventAdjOk_ip inter, ?_⟩
  rw [eventAdjOk]
  split_ifs with htwo hadj hstart hadj
  · right
    refine ⟨?_, Or.inr ⟨by rw [htwo]; decide, ?_⟩⟩
    · rw [restartEmptyDdSender_state]
      exact show NeighborState.exStart < .exchange by decide
    · rw [restartEmptyDdSender_lists]
      rfl
  · exact Or.inl ⟨htwo.symm, rfl, rfl⟩
  · exact Or.inl ⟨rfl, rfl, rfl⟩
  · refine Or.inr (falls_of_cleared ?_ (clearLists_lists _))
    simp only [joinEmptyDdSender, clearLists_state]
    decide
  · exact Or.inl ⟨rfl, rfl, rfl⟩

theorem restartExchange_recedes (n : Neighbor) :
    n.Recedes n.restartExchange.1 := by
  rw [restartExchange]
  split_ifs
  · refine ⟨by simp, Or.inr (falls_of_cleared ?_ ?_)⟩
    · simp only [restartEmptyDdSender_state, clearLists_state]
      decide
    · simp only [restartEmptyDdSender_lists, clearLists_lists]
  · exact recedes_refl n

theorem eventInactivityTimer_recedes (n : Neighbor) :
    n.Recedes n.eventInactivityTimer.1 := by
  rw [eventInactivityTimer]
  split_ifs
  · refine ⟨by simp [joinEmptyDdSender], Or.inr (falls_of_cleared ?_ ?_)⟩
    · simp only [joinEmptyDdSender, clearLists_state]
      decide
    · exact clearLists_lists _
  · refine ⟨by simp, Or.inr (falls_of_cleared ?_ ?_)⟩
    · simp only [clearLists_state]
      decide
    · exact clearLists_lists _

end Neighbor

/-! ## Interfaces -/

namespace Interface

/-- What becomes of the neighbors of an interface outside the exchange. -/
structure Recedes (inter inter' : Interface) : Prop where
  address : inter'.ipInterfaceAddress = inter.ipInterfaceAddress
  neighbors : List.Forall₂ Neighbor.Recedes inter.neighbors inter'.neighbors

variable {inter inter' inter'' next : Interface} {routerId : UInt32}

theorem recedes_refl (inter : Interface) : inter.Recedes inter :=
  ⟨rfl, List.forall₂_same.mpr fun n _ => n.recedes_refl⟩

theorem Recedes.trans (h : inter.Recedes inter')
    (h' : inter'.Recedes inter'') : inter.Recedes inter'' :=
  ⟨h'.address.trans h.address,
    forall₂_trans (fun _ _ _ hab hbc => hab.trans hbc) h.neighbors
      h'.neighbors⟩

/-- Changing the record `find_neighbor` points to. -/
theorem recedes_modifyNeighbor {ip : UInt32} {f : Neighbor → Neighbor}
    (hf : ∀ n, inter.findNeighbor ip = some n → n.Recedes (f n)) :
    inter.Recedes (inter.modifyNeighbor ip f) :=
  ⟨rfl, forall₂_modifyNeighbor Neighbor.recedes_refl hf⟩

/-- An election changes the neighbors by `event_adj_ok` only. -/
theorem callElection_recedes (h : inter.callElection routerId = .ok next) :
    inter.Recedes next := by
  obtain ⟨⟨passes, elected⟩, hrun, rfl⟩ := Outcome.map_eq_ok.mp h
  have hloop := electionLoop_runElection inter routerId
  rw [hrun] at hloop
  obtain ⟨dr, bdr, rfl⟩ := electionLoop_frame hloop
  rw [finishElection]
  split_ifs
  · refine ⟨rfl, ?_⟩
    rw [adjOkAll, List.forall₂_map_right_iff]
    exact List.forall₂_same.mpr fun n _ => n.eventAdjOk_recedes _
  · exact ⟨rfl, inter.recedes_refl.neighbors⟩

theorem settleState_recedes (inter : Interface) :
    inter.Recedes inter.settleState := by
  rw [settleState]
  split_ifs <;> exact ⟨rfl, inter.recedes_refl.neighbors⟩

theorem handle_recedes {event : Event}
    (h : inter.handle routerId event = .ok next) : inter.Recedes next := by
  by_cases hcalls : inter.CallsElection event
  · rw [handle_of_callsElection hcalls] at h
    obtain ⟨elected, helected, rfl⟩ := Outcome.map_eq_ok.mp h
    obtain ⟨timer, timeout, hafter⟩ := settleAfter_eq event elected
    rw [hafter]
    have hsettled :=
      (callElection_recedes helected).trans elected.settleState_recedes
    exact ⟨hsettled.address, hsettled.neighbors⟩
  · by_cases hup : event = .interfaceUp
    · subst hup
      cases h
      rw [eventInterfaceUp]
      split_ifs <;> exact ⟨rfl, inter.recedes_refl.neighbors⟩
    · rw [handle_of_not_callsElection hup hcalls, Except.ok.injEq] at h
      exact h ▸ inter.recedes_refl

/-! ## Timers and Hellos -/

theorem inactivityStep_recedes {now : ℤ} {i : ℕ}
    (h : inter.inactivityStep routerId now i = .ok next) :
    inter.Recedes next := by
  rw [inactivityStep] at h
  cases hn : inter.neighbors[i]? with
  | none =>
      rw [hn, Except.ok.injEq] at h
      exact h ▸ inter.recedes_refl
  | some n =>
      simp only [hn] at h
      split_ifs at h
      · have hset : inter.Recedes { inter with
            neighbors := inter.neighbors.set i
              n.eventInactivityTimer.1 } := by
          refine ⟨rfl, forall₂_set Neighbor.recedes_refl hn ?_⟩
          exact n.eventInactivityTimer_recedes
        have hchange : Interface.handle routerId _ .neighborChange =
            .ok next := h
        exact hset.trans (handle_recedes hchange)
      · exact Except.ok.inj h ▸ inter.recedes_refl

theorem waitingTimer_recedes
    (h : inter.waitingTimer? routerId = .ok next) : inter.Recedes next := by
  rw [waitingTimer?] at h
  split_ifs at h
  · have hwait : inter.handle routerId .waitTimer = .ok next := h
    exact handle_recedes hwait
  · exact Except.ok.inj h ▸ inter.recedes_refl

theorem inactivityTimers_recedes {now : ℤ}
    (h : inter.inactivityTimers routerId now = .ok next) :
    inter.Recedes next :=
  runFrom_invariant (I := fun i => inter.Recedes i) (P := fun _ _ => True)
    (fun _ _ _ hi _ hs => hi.trans (inactivityStep_recedes hs))
    inter.recedes_refl (along_of_forall (fun _ _ => trivial) _) h

/-- A Hello adds a record if there is none, and then ends an exchange at
most. -/
theorem recvHello_recedes {uninit : Uninit} {now : ℤ} {ip : UInt32}
    {fields : HelloFields} {listed : Bool}
    (h : inter.recvHello routerId uninit now ip fields listed = .ok next) :
    (inter.ensureNeighbor uninit ip).Recedes next := by
  rw [recvHello] at h
  cases hfind : (inter.ensureNeighbor uninit ip).findNeighbor ip with
  | none => simp [hfind] at h
  | some n =>
      have hwritten : n.Recedes
          ((n.eventHelloReceived now).writeHello fields) :=
        (n.eventHelloReceived_recedes now).trans
          (Neighbor.writeHello_recedes fields _)
      have hreplace : ∀ m, n.Recedes m →
          (inter.ensureNeighbor uninit ip).Recedes
            ((inter.ensureNeighbor uninit ip).modifyNeighbor ip
              fun _ => m) := by
        intro m hm
        apply recedes_modifyNeighbor
        intro k hk
        rw [hfind, Option.some.injEq] at hk
        exact hk ▸ hm
      simp only [hfind] at h
      split_ifs at h
      · have htaken := hreplace _ (hwritten.trans
          (Neighbor.event2wayReceived_recedes
            (inter.ensureNeighbor uninit ip) _))
        split at h
        · exact Except.ok.inj h ▸ htaken
        · exact htaken.trans (handle_recedes h)
      · rw [Except.ok.injEq] at h
        exact h ▸ hreplace _ (hwritten.trans
          (Neighbor.event1wayReceived_recedes _))

end Interface
end OspfLite
