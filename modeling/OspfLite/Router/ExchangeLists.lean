import OspfLite.Router.Moves
import OspfLite.Router.Retransmission

/-!
# Lists of an exchange

Below EXCHANGE a neighbor should have nothing to retransmit, to describe or to
request.  A Database Description packet with a header of a bad type ends the
exchange and goes on being taken in.
-/

namespace OspfLite
namespace Neighbor

/-- Below EXCHANGE the three lists are empty. -/
def ListsBelong (n : Neighbor) : Prop :=
  n.state < .exchange → n.lists = ([], [], [])

instance (n : Neighbor) : Decidable n.ListsBelong :=
  inferInstanceAs (Decidable (_ → _))

variable {n n' : Neighbor}

theorem listsBelong_new (uninit : Uninit) (ip : UInt32) :
    (Neighbor.new uninit ip).ListsBelong :=
  fun _ => rfl

theorem ListsBelong.recedes (hn : n.Recedes n') (h : n.ListsBelong) :
    n'.ListsBelong := by
  intro hlow
  rcases hn.exchange with hkeep | hfall
  · rw [hkeep.lists]
    exact h (hkeep.state ▸ hlow)
  · rcases hfall.lists with hempty | ⟨hbefore, hsame⟩
    · exact hempty
    · rw [hsame]
      exact h hbefore

/-- Flooding passes over a neighbor below EXCHANGE. -/
theorem ListsBelong.flood (header : LSAHeader) (src : UInt32)
    (h : n.ListsBelong) : (n.flood header src).1.ListsBelong := by
  by_cases hlow : n.state < .exchange
  · rw [Neighbor.flood, if_pos hlow]
    exact h
  · intro hafter
    rw [flood_state] at hafter
    exact absurd hafter hlow

theorem ListsBelong.purgeRetransmissions (header : LSAHeader)
    (h : n.ListsBelong) : (n.purgeRetransmissions header).ListsBelong := by
  intro hlow
  have hlists := h hlow
  simp only [lists, Prod.mk.injEq] at hlists ⊢
  simp [Neighbor.purgeRetransmissions, hlists]

theorem ListsBelong.pushAll (headers : List LSAHeader) (h : n.ListsBelong) :
    (n.pushAll headers).ListsBelong := by
  by_cases hfull : n.state = .full
  · intro hlow
    rw [pushAll_state, hfull] at hlow
    exact absurd hlow (by decide)
  · rw [Neighbor.pushAll, if_neg hfull]
    exact h

end Neighbor

namespace Router

/-- The lists belong to an exchange. -/
abbrev ListsBelong (r : Router) : Prop :=
  r.AllNeighbors Neighbor.ListsBelong

variable {r r' : Router} {ip : UInt32} {n popped : Neighbor} {dd : OSPFDD}
  {headers : List LSAHeader}

/-- An LSU leaves the lists to their exchanges. -/
theorem lsuRound_listsBelong {src : UInt32} {data : Memory}
    {s s' : LsuState} (h : s.router.ListsBelong)
    (hs' : lsuRound src s data = .ok s') : s'.router.ListsBelong := by
  rcases lsuRound_cases hs' with
    rfl | ⟨-, -, -, ⟨-, haccept⟩ | ⟨-, same, hreject⟩⟩
  · exact h
  · exact h.acceptLsa (fun n hn => hn.flood _ src)
      (fun n hn => hn.purgeRetransmissions _) haccept
  · exact h.rejectLsa (fun n hn => hn.recedes n.restartExchange_recedes)
      (fun n hn => hn.purgeRetransmissions _) hreject

/-- A packet is taken in by a neighbor in EXCHANGE, or a header of a bad type
has ended the exchange and nothing is requested after that. -/
def RequestsInExchange (r : Router) (_ip : UInt32) (_dd : OSPFDD)
    (headers : List LSAHeader) (n : Neighbor) : Prop :=
  (∃ h ∈ headers, Neighbor.BadType h) → n.acknowledgedCount = 0 →
    ∀ h ∈ headers, ¬Neighbor.Lacks r.lsdb h.ddDecode

/-- The record after a packet with a header of a bad type: only the requests
are left. -/
theorem popped_of_badType (hstate : n.state = .exchange)
    (hbad : ∃ h ∈ headers, Neighbor.BadType h) :
    (n.takeIn r.lsdb dd headers).popAcknowledged = .ok popped ↔
      n.acknowledgedCount = 0 ∧ popped = n.takeIn r.lsdb dd headers := by
  obtain ⟨-, hlists, hlen⟩ :=
    Neighbor.takeIn_of_badType hbad r.lsdb dd hstate
  have hcount : (n.takeIn r.lsdb dd headers).acknowledgedCount =
      n.acknowledgedCount := by
    rw [Neighbor.acknowledgedCount, Neighbor.acknowledgedCount, hlen]
  simp only [Neighbor.lists, Prod.mk.injEq] at hlists
  rw [Neighbor.popAcknowledged_eq_ok, hcount, hlists.2.1, List.length_nil,
    Nat.le_zero]
  apply and_congr_right
  intro hzero
  rw [hzero, List.drop_nil, ← hlists.2.1]

/-- The record is as it should be. -/
theorem listsBelong_popped (hstate : n.state = .exchange)
    (hpopped : (n.takeIn r.lsdb dd headers).popAcknowledged = .ok popped)
    (h : r.RequestsInExchange ip dd headers n) : popped.ListsBelong := by
  by_cases hbad : ∃ h ∈ headers, Neighbor.BadType h
  · obtain ⟨hcount, rfl⟩ := (popped_of_badType hstate hbad).mp hpopped
    intro _
    rw [(Neighbor.takeIn_of_badType hbad r.lsdb dd hstate).2.1]
    have hnone : Neighbor.wanted r.lsdb headers = [] := by
      rw [Neighbor.wanted, List.filter_eq_nil_iff]
      intro header hheader
      obtain ⟨h', hmem, rfl⟩ := List.mem_map.mp hheader
      simpa using h hbad hcount h' hmem
    rw [hnone]
  · have hgood : ∀ h ∈ headers, ¬Neighbor.BadType h :=
      fun h hmem hb => hbad ⟨h, hmem, hb⟩
    obtain ⟨-, rfl⟩ := Neighbor.popAcknowledged_eq_ok.mp hpopped
    intro hlow
    have hafter := (Neighbor.takeIn_of_goodTypes hgood r.lsdb dd n).1
    change (n.takeIn r.lsdb dd headers).state < .exchange at hlow
    rw [hafter, hstate] at hlow
    exact absurd hlow (lt_irrefl _)

/-- A step that takes in no requests after it has ended an exchange leaves the
lists to their exchanges. -/
theorem step_listsBelong {step : Step} (h : r.ListsBelong)
    (hstep : r.EachAcceptedDd RequestsInExchange step)
    (hr' : r.step step = .ok r') : r'.ListsBelong := by
  cases step_moves hr' with
  | recedes hrecedes =>
      exact h.recedes hrecedes (Neighbor.listsBelong_new r.uninit)
        fun n n' hn hlists => hlists.recedes hn
  | describes hadmits htype hheaders haccepted hpopped =>
      obtain ⟨m, -, hfrom⟩ := acceptedDd_spec haccepted
      have hcond := hstep hadmits htype _ hheaders _ haccepted
      have hlists := listsBelong_popped hfrom.state hpopped hcond
      refine AllNeighbors.replyDd (AllNeighbors.concludeDd
        (h.putNeighbor hlists _) _ _ ?_ fun hs n hn => hn.pushAll hs) ?_ ?_
      · intro n hn
        rw [Neighbor.exchangeDoneState]
        split_ifs
        · exact fun hlow =>
            absurd hlow (show ¬NeighborState.full < .exchange by decide)
        · exact hn
      · intro n hn
        rw [Neighbor.ListsBelong, n.numberReply_state, n.numberReply_lists]
        exact hn
      · exact fun data n hn => hn
  | updates hadmits htype hknown hrun =>
      have hafter := runFrom_invariant (I := fun s => s.router.ListsBelong)
        (P := fun _ _ => True)
        (fun s data s' hs _ hs' => lsuRound_listsBelong hs hs') h
        (along_of_forall (fun _ _ => trivial) _) hrun
      rw [sendLsack]
      split_ifs
      · exact hafter
      · exact hafter
  | acknowledges hadmits htype hfind hstate =>
      refine h.modifyNeighbor fun n hn hlow => ?_
      have hlists := hn hlow
      simp only [Neighbor.lists, Prod.mk.injEq] at hlists ⊢
      refine ⟨?_, hlists.2⟩
      rw [hlists.1]
      exact List.foldl_fixed' (fun header => rfl) _

/-- A step that leaves the lists to their exchanges takes in no requests after
it has ended an exchange. -/
theorem requestsInExchange_of_step {step : Step}
    (h : ∀ r', r.step step = .ok r' → r'.ListsBelong) :
    r.EachAcceptedDd RequestsInExchange step := by
  cases step with
  | frame now packet =>
      intro hadmits htype headers hheaders n haccepted hbad hcount header
        hheader hlacks
      obtain ⟨m, hm, hfrom⟩ := acceptedDd_spec haccepted
      have hstep := step_of_acceptedDd now hadmits htype hheaders
        haccepted
      rw [(popped_of_badType hfrom.state hbad).mpr ⟨hcount, rfl⟩,
        Outcome.map_ok] at hstep
      have hafter := h _ hstep
      obtain ⟨hstate, hlists, -⟩ := Neighbor.takeIn_of_badType hbad r.lsdb
        (OSPFDD.load (packet.advance bodyOffset)) hfrom.state
      have hip : (n.takeIn r.lsdb (OSPFDD.load (packet.advance bodyOffset))
          headers).ip = ntohl (packet.load32 12) :=
        (n.takeIn_ip _ _ _).trans (hfrom.ip.trans (findNeighbor_ip hm))
      have hfound := findNeighbor_putNeighbor hm hip
        (r.acceptanceLog (ntohl (packet.load32 12)) headers n)
      have hstart : ¬(n.takeIn r.lsdb (OSPFDD.load (packet.advance
          bodyOffset)) headers).state = .exchange := by
        rw [hstate]
        decide
      rw [concludeDd_eq hfound, if_neg fun hdone => hstart hdone.2.2,
        replyDd_eq hfound, putNeighbor_putNeighbor hip] at hafter
      have hreply := hafter.find (findNeighbor_putNeighbor hm
        ((Neighbor.reply_ip _ _ _).trans hip) _)
      rw [Neighbor.ListsBelong, Neighbor.reply_state, Neighbor.reply_lists,
        hstate, hlists] at hreply
      have hnone := hreply (by decide)
      simp only [Prod.mk.injEq, true_and, Neighbor.wanted,
        List.filter_eq_nil_iff] at hnone
      exact hnone _ (List.mem_map_of_mem hheader) (by simpa using hlacks)
  | _ => trivial

/-- In every run of the process the lists belong to an exchange in every state
exactly when no packet with a header of a bad type, accepted with nothing to
acknowledge, lists an LSA that the database lacks. -/
theorem listsBelong_iff (routerId areaId : UInt32) (uninit : Uninit)
    (loopbacks : List (UInt32 × UInt32)) (address mask : UInt32)
    (steps : List Step) :
    Throughout step ListsBelong
        (boot routerId areaId uninit loopbacks address mask) steps ↔
      Along step (EachAcceptedDd RequestsInExchange)
        (boot routerId areaId uninit loopbacks address mask) steps := by
  refine throughout_iff_along (I := ListsBelong) (fun _ h => h)
    (fun _ _ _ h hstep hr' => step_listsBelong h hstep hr')
    (fun _ _ _ h => requestsInExchange_of_step h) ?_
  intro inter hinter n hn
  rw [boot_neighbors _ _ _ _ _ _ inter hinter] at hn
  cases hn

/-- The second DD packet of the peer: a header of type 0, and one of a Router
LSA. -/
def peerBadDd : List UInt8 :=
  [5, 220, 2, 1, 0, 0, 0, 1] ++
    (LSAHeader.hton ⟨1, 2, 0, 0, 0, 0, 0, 20⟩).store ++
    (LSAHeader.hton
      ⟨1, 2, lsaRouter, 0x03030303, 0x03030303, 0x80000001, 0, 24⟩).store

/-- In EXSTART, to which the first header has brought the neighbor back, there
is a request for the second. -/
theorem request_kept_below_exchange :
    ¬Throughout step ListsBelong
      (boot 0x01010101 0 ⟨0, 0, 0, false, false, false⟩ [] 0x0a000001
        0xffffff00)
      [.frame 0 (fromPeer typeHello peerHello),
        .frame 0 (fromPeer typeDd peerDd),
        .frame 0 (fromPeer typeDd peerBadDd)] := by
  have hreached : ∃ t, runFrom step
      (boot 0x01010101 0 ⟨0, 0, 0, false, false, false⟩ [] 0x0a000001
        0xffffff00)
      [.frame 0 (fromPeer typeHello peerHello),
        .frame 0 (fromPeer typeDd peerDd),
        .frame 0 (fromPeer typeDd peerBadDd)] = .ok t ∧ ¬t.ListsBelong :=
    Outcome.exists_of_completesWith (by decide +kernel)
  obtain ⟨t, hrun, hnot⟩ := hreached
  exact not_throughout_of_run hrun hnot

end Router
end OspfLite
