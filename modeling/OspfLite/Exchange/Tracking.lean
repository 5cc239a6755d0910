import OspfLite.Exchange.Pair

/-!
# The exchange runs in lock step

Whatever the channels do, the two routers stay in the rounds of a lock-step
exchange, and from this the properties of the exchange follow.
-/

namespace OspfLite

/-! ## One end -/

namespace Endpoint

theorem emitted_eq {e : Endpoint} {r' : Router}
    {packets : List (List UInt8)} (h : e.router.Emits e.peer r' packets) :
    e.emitted r' = packets := by
  obtain ⟨entries, hlog, hpackets⟩ := h
  rw [emitted, hlog, List.drop_left, hpackets]

/-- The router at this end is where a party is after `x` messages. -/
def IsAt (own other : List LSAHeader) (isMaster : Bool) (x : ℕ)
    (e : Endpoint) : Prop :=
  ∃ p, e.router.Plays e.peer p ∧ p.At own other isMaster x

/-- The packets say the messages with these numbers. -/
def Carry (own : List LSAHeader) (isMaster : Bool) (xs : List ℕ)
    (packets : List (List UInt8)) : Prop :=
  List.Forall₂ (fun x => (ddMessage own isMaster x).SaidBy) xs packets

variable {own other : List LSAHeader} {e : Endpoint}

/-- The empty DD sender sends the opening message, or nothing. -/
theorem IsAt.emptyDd {isMaster : Bool} {x : ℕ}
    (h : e.IsAt own other isMaster x) :
    ∃ r' packets, e.step .emptyDd = .ok ({ e with router := r' }, packets) ∧
      IsAt own other isMaster x { e with router := r' } ∧
      (packets = [] ∧ (∀ n, e.neighbor = some n →
          ¬(n.state = .exStart ∧ n.emptyDdSenderStop = false)) ∨
        Carry own isMaster [x] packets) := by
  obtain ⟨p, hplays, hat⟩ := h
  obtain ⟨hplays', out, packets, hemits, hsaid, hout⟩ := hplays.sendEmptyDd
  refine ⟨e.router.sendEmptyDd e.peer, packets, ?_, ⟨p, hplays', hat⟩, ?_⟩
  · rw [step, emitted_eq hemits]
  · rcases hout with ⟨rfl, hstopped⟩ | ⟨hstate, rfl⟩
    · exact Or.inl ⟨List.forall₂_nil_left_iff.mp hsaid, hstopped⟩
    · obtain ⟨hzero, hmessage⟩ := hat.eq_zero_of_exStart hstate
      subst hzero
      rw [hmessage, List.forall₂_cons_left_iff] at hsaid
      obtain ⟨packet, rest, hfirst, hrest, rfl⟩ := hsaid
      exact Or.inr (List.forall₂_cons.mpr
        ⟨hfirst, List.forall₂_nil_left_iff.mp hrest ▸ List.Forall₂.nil⟩)

/-- The delivery of a packet, as the party sees it. -/
theorem deliver_of_receive {p p' : Party} {m : DdMessage}
    {out : Option DdMessage} {packet : List UInt8}
    {rest : List (List UInt8)} (hplays : e.router.Plays e.peer p)
    (hinit : p.state ≠ .init) (hinbox : e.inbox = packet :: rest)
    (hsaid : m.SaidBy packet) (hreceive : p.receive m = some (p', out))
    (keep : Bool) :
    ∃ r' packets, e.step (.deliver keep) =
        .ok ({ e with
          router := r'
          inbox := if keep then packet :: rest else rest }, packets) ∧
      r'.Plays e.peer p' ∧
      List.Forall₂ DdMessage.SaidBy out.toList packets := by
  obtain ⟨r', packets, hok, hplays', hemits, hout⟩ :=
    hplays.recvDd hinit hsaid hreceive e.router.interface.ipInterfaceAddress
  refine ⟨r', packets, ?_, hplays', hout⟩
  rw [step, hinbox]
  simp only [hok, Outcome.map_ok, emitted_eq hemits]

theorem carry_singleton {isMaster : Bool} {x : ℕ}
    {packets : List (List UInt8)}
    (h : List.Forall₂ DdMessage.SaidBy
      (some (ddMessage own isMaster x)).toList packets) :
    Carry own isMaster [x] packets :=
  (List.forall₂_map_left_iff (f := ddMessage own isMaster)).mp h

/-- What is left of the numbers of the packets on the way after a delivery. -/
def afterDelivery (keep : Bool) (xs : List ℕ) : List ℕ :=
  if keep then xs else xs.tail

theorem afterDelivery_sublist (keep : Bool) (xs : List ℕ) :
    (afterDelivery keep xs).Sublist xs := by
  cases keep with
  | true => exact List.Sublist.refl xs
  | false => exact List.tail_sublist xs

theorem carry_afterDelivery {isMaster : Bool} {x : ℕ} {xs : List ℕ}
    {packet : List UInt8} {rest : List (List UInt8)}
    (h : Carry own isMaster (x :: xs) (packet :: rest)) (keep : Bool) :
    Carry own isMaster (afterDelivery keep (x :: xs))
      (if keep then packet :: rest else rest) := by
  cases keep with
  | true => exact h
  | false => exact (List.forall₂_cons.mp h).2

/-- A delivery at the leader. -/
theorem IsAt.deliver_leader {l x : ℕ} {xs : List ℕ}
    (h : e.IsAt own other false l)
    (htypes : ∀ h ∈ other, ¬Neighbor.BadType h)
    (hcarry : Carry other true (x :: xs) e.inbox) (hx : x = l ∨ x = l + 1)
    (keep : Bool) :
    ∃ e' packets, e.step (.deliver keep) = .ok (e', packets) ∧
      Carry other true (afterDelivery keep (x :: xs)) e'.inbox ∧
      (e'.IsAt own other false l ∧ packets = [] ∨
        x = l + 1 ∧ e'.IsAt own other false (l + 1) ∧
          Carry own false [l + 1] packets) := by
  obtain ⟨p, hplays, hat⟩ := h
  obtain ⟨packet, rest, hfirst, -, hinbox⟩ :=
    List.forall₂_cons_left_iff.mp hcarry
  obtain ⟨p', out, hreceive, hout⟩ := hat.leader_receive htypes hx
  obtain ⟨r', packets, hstep, hplays', hsaid⟩ := deliver_of_receive hplays
    hat.state_ne_init hinbox hfirst hreceive keep
  rw [hinbox] at hcarry
  refine ⟨_, packets, hstep, carry_afterDelivery hcarry keep, ?_⟩
  rcases hout with ⟨hat', rfl⟩ | ⟨hx', hat', rfl⟩
  · exact Or.inl ⟨⟨p', hplays', hat'⟩, List.forall₂_nil_left_iff.mp hsaid⟩
  · exact Or.inr ⟨hx', ⟨p', hplays', hat'⟩, carry_singleton hsaid⟩

/-- A delivery at the follower. -/
theorem IsAt.deliver_follower {f x : ℕ} {xs : List ℕ}
    (h : e.IsAt own other true f)
    (htypes : ∀ h ∈ other, ¬Neighbor.BadType h)
    (hcarry : Carry other false (x :: xs) e.inbox) (hx : x + 1 = f ∨ x = f)
    (keep : Bool) :
    ∃ e' packets, e.step (.deliver keep) = .ok (e', packets) ∧
      Carry other false (afterDelivery keep (x :: xs)) e'.inbox ∧
      (e'.IsAt own other true f ∧
          (packets = [] ∨ Carry own true [f] packets) ∨
        x = f ∧ e'.IsAt own other true (f + 1) ∧
          Carry own true [f + 1] packets) := by
  obtain ⟨p, hplays, hat⟩ := h
  obtain ⟨packet, rest, hfirst, -, hinbox⟩ :=
    List.forall₂_cons_left_iff.mp hcarry
  obtain ⟨p', out, hreceive, hout⟩ := hat.follower_receive htypes hx
  obtain ⟨r', packets, hstep, hplays', hsaid⟩ := deliver_of_receive hplays
    hat.state_ne_init hinbox hfirst hreceive keep
  rw [hinbox] at hcarry
  refine ⟨_, packets, hstep, carry_afterDelivery hcarry keep, ?_⟩
  rcases hout with ⟨hat', rfl | rfl⟩ | ⟨hx', hat', rfl⟩
  · exact Or.inl ⟨⟨p', hplays', hat'⟩,
      Or.inl (List.forall₂_nil_left_iff.mp hsaid)⟩
  · exact Or.inl ⟨⟨p', hplays', hat'⟩, Or.inr (carry_singleton hsaid)⟩
  · exact Or.inr ⟨hx', ⟨p', hplays', hat'⟩, carry_singleton hsaid⟩

/-- A delivery with nothing on the way. -/
theorem deliver_of_carry_nil {isMaster : Bool}
    (h : Carry other isMaster [] e.inbox) (keep : Bool) :
    e.step (.deliver keep) = .ok (e, []) := by
  rw [step, List.forall₂_nil_left_iff.mp h]

/-- Nothing is put on the way. -/
theorem carry_append_nil {isMaster : Bool} {xs : List ℕ}
    {packets : List (List UInt8)} (h : Carry own isMaster xs packets) :
    Carry own isMaster xs (packets ++ []) := by
  rwa [List.append_nil]

/-- The loss of a packet. -/
theorem carry_eraseIdx {isMaster : Bool} {xs : List ℕ}
    {packets : List (List UInt8)} (h : Carry own isMaster xs packets)
    (i : ℕ) : Carry own isMaster (xs.eraseIdx i) (packets.eraseIdx i) := by
  rw [List.eraseIdx_eq_take_drop_succ, List.eraseIdx_eq_take_drop_succ]
  exact List.rel_append (List.forall₂_take i h)
    (List.forall₂_drop (i + 1) h)

end Endpoint

/-! ## Both ends -/

open Endpoint

/-- The two ends, the leader first, are where the lock-step exchange is, and so
are the packets on their way. -/
structure Tracks (leads follows : List LSAHeader) (leader follower : Endpoint)
    (s : LockStep) : Prop where
  ordered : s.Ordered
  leaderAt : leader.IsAt leads follows false s.leader
  followerAt : follower.IsAt follows leads true s.follower
  toLeader : Carry follows true s.toLeader leader.inbox
  toFollower : Carry leads false s.toFollower follower.inbox

section Tracks

variable {leads follows : List LSAHeader} {leader follower : Endpoint}
  {s : LockStep}

/-- An event at the leader. -/
theorem Tracks.leader_step (h : Tracks leads follows leader follower s)
    (htypes : ∀ h ∈ follows, ¬Neighbor.BadType h) (event : EndpointEvent) :
    ∃ leader' packets s', leader.step event = .ok (leader', packets) ∧
      Tracks leads follows leader'
        { follower with inbox := follower.inbox ++ packets } s' := by
  cases event with
  | emptyDd =>
      obtain ⟨r', packets, hstep, hat, ⟨rfl, -⟩ | hsent⟩ :=
        h.leaderAt.emptyDd
      · exact ⟨_, [], s, hstep,
          { h with
            leaderAt := hat
            toFollower := carry_append_nil h.toFollower }⟩
      · exact ⟨_, packets, s.leaderSends, hstep,
          { ordered := h.ordered.leaderSends
            leaderAt := hat
            followerAt := h.followerAt
            toLeader := h.toLeader
            toFollower := List.rel_append h.toFollower hsent }⟩
  | deliver keep =>
      cases hxs : s.toLeader with
      | nil =>
          have hstep : leader.step (.deliver keep) = .ok (leader, []) :=
            deliver_of_carry_nil (hxs ▸ h.toLeader) keep
          exact ⟨leader, [], s, hstep,
            { h with toFollower := carry_append_nil h.toFollower }⟩
      | cons x xs =>
          have hcarry := h.toLeader
          rw [hxs] at hcarry
          have hlost :
              List.Sublist (afterDelivery keep (x :: xs)) s.toLeader := by
            rw [hxs]
            exact afterDelivery_sublist keep (x :: xs)
          obtain ⟨leader', packets, hstep, hinbox, hout⟩ :=
            h.leaderAt.deliver_leader htypes hcarry
              (h.ordered.toLeader_head hxs) keep
          rcases hout with ⟨hat, rfl⟩ | ⟨rfl, hat, hsent⟩
          · exact ⟨leader', [], _, hstep,
              { ordered := h.ordered.lose hlost
                  (List.Sublist.refl s.toFollower)
                leaderAt := hat
                followerAt := h.followerAt
                toLeader := hinbox
                toFollower := carry_append_nil h.toFollower }⟩
          · exact ⟨leader', packets, _, hstep,
              { ordered := (h.ordered.leaderAdvances hxs).lose hlost
                  (List.Sublist.refl _)
                leaderAt := hat
                followerAt := h.followerAt
                toLeader := hinbox
                toFollower := List.rel_append h.toFollower hsent }⟩
  | lose i =>
      exact ⟨_, [], _, rfl,
        { ordered := h.ordered.lose (s.toLeader.eraseIdx_sublist i)
            (List.Sublist.refl s.toFollower)
          leaderAt := h.leaderAt
          followerAt := h.followerAt
          toLeader := carry_eraseIdx h.toLeader i
          toFollower := carry_append_nil h.toFollower }⟩

/-- An event at the follower. -/
theorem Tracks.follower_step (h : Tracks leads follows leader follower s)
    (htypes : ∀ h ∈ leads, ¬Neighbor.BadType h) (event : EndpointEvent) :
    ∃ follower' packets s', follower.step event = .ok (follower', packets) ∧
      Tracks leads follows
        { leader with inbox := leader.inbox ++ packets } follower' s' := by
  cases event with
  | emptyDd =>
      obtain ⟨r', packets, hstep, hat, ⟨rfl, -⟩ | hsent⟩ :=
        h.followerAt.emptyDd
      · exact ⟨_, [], s, hstep,
          { h with
            followerAt := hat
            toLeader := carry_append_nil h.toLeader }⟩
      · exact ⟨_, packets, s.followerSends, hstep,
          { ordered := h.ordered.followerSends
            leaderAt := h.leaderAt
            followerAt := hat
            toLeader := List.rel_append h.toLeader hsent
            toFollower := h.toFollower }⟩
  | deliver keep =>
      cases hxs : s.toFollower with
      | nil =>
          have hstep : follower.step (.deliver keep) = .ok (follower, []) :=
            deliver_of_carry_nil (hxs ▸ h.toFollower) keep
          exact ⟨follower, [], s, hstep,
            { h with toLeader := carry_append_nil h.toLeader }⟩
      | cons x xs =>
          have hcarry := h.toFollower
          rw [hxs] at hcarry
          have hlost :
              List.Sublist (afterDelivery keep (x :: xs)) s.toFollower := by
            rw [hxs]
            exact afterDelivery_sublist keep (x :: xs)
          obtain ⟨follower', packets, hstep, hinbox, hout⟩ :=
            h.followerAt.deliver_follower htypes hcarry
              (h.ordered.toFollower_head hxs) keep
          rcases hout with ⟨hat, rfl | hsent⟩ | ⟨rfl, hat, hsent⟩
          · exact ⟨follower', [], _, hstep,
              { ordered := h.ordered.lose (List.Sublist.refl s.toLeader)
                  hlost
                leaderAt := h.leaderAt
                followerAt := hat
                toLeader := carry_append_nil h.toLeader
                toFollower := hinbox }⟩
          · exact ⟨follower', packets, _, hstep,
              { ordered :=
                  h.ordered.followerSends.lose (List.Sublist.refl _) hlost
                leaderAt := h.leaderAt
                followerAt := hat
                toLeader := List.rel_append h.toLeader hsent
                toFollower := hinbox }⟩
          · exact ⟨follower', packets, _, hstep,
              { ordered := (h.ordered.followerAdvances hxs).lose
                  (List.Sublist.refl _) hlost
                leaderAt := h.leaderAt
                followerAt := hat
                toLeader := List.rel_append h.toLeader hsent
                toFollower := hinbox }⟩
  | lose i =>
      exact ⟨_, [], _, rfl,
        { ordered := h.ordered.lose (List.Sublist.refl s.toLeader)
            (s.toFollower.eraseIdx_sublist i)
          leaderAt := h.leaderAt
          followerAt := h.followerAt
          toLeader := carry_append_nil h.toLeader
          toFollower := carry_eraseIdx h.toFollower i }⟩

end Tracks

/-- Both ends, whichever of them leads. -/
def Pair.Tracked (lefts rights : List LSAHeader) (p : Pair) : Prop :=
  (∃ s, Tracks lefts rights p.left p.right s) ∨
    ∃ s, Tracks rights lefts p.right p.left s

/-- Every event completes and keeps the two ends in lock step. -/
theorem Pair.Tracked.step {lefts rights : List LSAHeader} {p : Pair}
    (h : p.Tracked lefts rights)
    (hlefts : ∀ h ∈ lefts, ¬Neighbor.BadType h)
    (hrights : ∀ h ∈ rights, ¬Neighbor.BadType h)
    (action : Side × EndpointEvent) :
    ∃ p', p.step action = .ok p' ∧ p'.Tracked lefts rights := by
  obtain ⟨side, event⟩ := action
  rcases h with ⟨s, h⟩ | ⟨s, h⟩
  · cases side with
    | left =>
        obtain ⟨e, packets, s', hstep, h'⟩ := h.leader_step hrights event
        exact ⟨_, step_left hstep, Or.inl ⟨s', h'⟩⟩
    | right =>
        obtain ⟨e, packets, s', hstep, h'⟩ := h.follower_step hlefts event
        exact ⟨_, step_right hstep, Or.inl ⟨s', h'⟩⟩
  · cases side with
    | left =>
        obtain ⟨e, packets, s', hstep, h'⟩ := h.follower_step hrights event
        exact ⟨_, step_left hstep, Or.inr ⟨s', h'⟩⟩
    | right =>
        obtain ⟨e, packets, s', hstep, h'⟩ := h.leader_step hlefts event
        exact ⟨_, step_right hstep, Or.inr ⟨s', h'⟩⟩

/-! ## The beginning -/

namespace Endpoint

variable {own other : List LSAHeader} {e : Endpoint} {peerId : UInt32}

/-- The Router and Network LSAs of a database have no bad type. -/
theorem Starts.types (h : e.Starts peerId) :
    ∀ header ∈ e.router.lsdb.headers, ¬Neighbor.BadType header := by
  intro header hmem
  have htype : header.lsType = lsaRouter ∨ header.lsType = lsaNetwork := by
    rcases List.mem_append.mp hmem with hrouter | hnetwork
    · obtain ⟨lsa, hlsa, rfl⟩ := List.mem_map.mp hrouter
      exact Or.inl (h.routerLsas lsa hlsa)
    · obtain ⟨lsa, hlsa, rfl⟩ := List.mem_map.mp hnetwork
      exact Or.inr (h.networkLsas lsa hlsa)
  rw [Neighbor.BadType]
  rcases htype with htype | htype <;> rw [htype] <;> decide

theorem Starts.isAt (h : e.Starts peerId) {isMaster : Bool}
    (hranked : if isMaster then e.router.routerId < peerId
      else peerId < e.router.routerId) :
    e.IsAt e.router.lsdb.headers other isMaster 0 := by
  obtain ⟨n, hn, hid, hstate, -, hseq, hlastSeq, hlastI, hlastM, hlastMs,
    hlen⟩ := h.neighbor
  refine ⟨
    { peerId := peerId
      state := .exStart
      isMaster := n.isMaster
      ddSeqNum := 0
      lastReceived := ⟨false, false, false, 0⟩
      lastSent := none
      summary := n.databaseSummaryList
      routerId := e.router.routerId
      headers := e.router.lsdb.headers
      snapshot := none
      accepted := [] }, ?_, ?_⟩
  · refine
      { record := ⟨n, hn, ?_⟩
        routerId := rfl
        headers := fun _ => rfl
        snapshot := by rw [Router.snapshotFor, h.log]; rfl
        accepted := by rw [Router.acceptedFrom, h.log]; rfl
        noMismatch := by simp [h.log] }
    exact
      { id := hid
        state := hstate
        isMaster := rfl
        ddSeqNum := hseq
        lastReceived := by rw [hlastSeq, hlastI, hlastM, hlastMs]
        nothingSent := fun _ => hlen
        lastSent := fun m hm => by cases hm
        summary := rfl }
  · exact
      { ranked := hranked
        state := rfl
        ddSeqNum := rfl
        lastSent := rfl
        headers := rfl
        snapshot := rfl
        accepted := rfl }

end Endpoint

/-- At the beginning the two ends are in lock step. -/
theorem Pair.Starts.tracked {p : Pair} (h : p.Starts) :
    p.Tracked p.left.router.lsdb.headers p.right.router.lsdb.headers := by
  have hnone : ∀ own isMaster {inbox : List (List UInt8)}, inbox = [] →
      Carry own isMaster [] inbox := by
    rintro own isMaster inbox rfl
    exact List.Forall₂.nil
  rcases UInt32.lt_or_lt_of_ne h.ids with hlt | hlt
  · exact Or.inr ⟨LockStep.initial,
      { ordered := LockStep.ordered_initial
        leaderAt := h.right.isAt hlt
        followerAt := h.left.isAt hlt
        toLeader := hnone _ _ h.right.inbox
        toFollower := hnone _ _ h.left.inbox }⟩
  · exact Or.inl ⟨LockStep.initial,
      { ordered := LockStep.ordered_initial
        leaderAt := h.left.isAt hlt
        followerAt := h.right.isAt hlt
        toLeader := hnone _ _ h.left.inbox
        toFollower := hnone _ _ h.right.inbox }⟩

/-! ## What lock step gives -/

namespace Endpoint

variable {own other : List LSAHeader} {e : Endpoint} {isMaster : Bool}
  {x : ℕ}

theorem IsAt.not_mismatched (h : e.IsAt own other isMaster x) :
    ¬e.Mismatched := by
  obtain ⟨p, hplays, -⟩ := h
  rintro ⟨ip, hmem⟩
  exact hplays.noMismatch ip hmem

/-- The number of messages of the other side that have been accepted, the
opening one not counted. -/
def heard (isMaster : Bool) (x : ℕ) : ℕ := if isMaster then x - 1 else x

theorem IsAt.accepted_eq (h : e.IsAt own other isMaster x) :
    e.accepted =
      (other.take (ddCapacity * heard isMaster x)).map LSAHeader.ageless := by
  obtain ⟨p, hplays, hat⟩ := h
  rw [Endpoint.accepted, hplays.accepted]
  cases x with
  | zero =>
      rw [Party.Waiting.accepted hat]
      cases isMaster <;> rfl
  | succ k =>
      rw [Party.Exchanging.accepted hat]
      cases isMaster <;> rfl

theorem IsAt.snapshot_eq (h : e.IsAt own other isMaster x) (hx : 0 < x) :
    e.snapshot = some own := by
  obtain ⟨p, hplays, hat⟩ := h
  rw [Endpoint.snapshot, hplays.snapshot]
  cases x with
  | zero => exact absurd hx (lt_irrefl 0)
  | succ k => exact Party.Exchanging.snapshot hat

theorem IsAt.of_snapshot (h : e.IsAt own other isMaster x)
    {summary : List LSAHeader} (hsummary : e.snapshot = some summary) :
    summary = own := by
  cases x with
  | zero =>
      obtain ⟨p, hplays, hat⟩ := h
      rw [Endpoint.snapshot, hplays.snapshot,
        Party.Waiting.snapshot hat] at hsummary
      cases hsummary
  | succ k =>
      rw [h.snapshot_eq (Nat.succ_pos k)] at hsummary
      exact (Option.some.inj hsummary).symm

/-- A FULL end has heard all there was, and all it had was heard. -/
theorem IsAt.of_isFull (h : e.IsAt own other isMaster x)
    (hfull : e.IsFull) :
    0 < heard isMaster x ∧ other.length ≤ ddCapacity * heard isMaster x ∧
      own.length ≤ ddCapacity * (x - 1) := by
  obtain ⟨p, hplays, hat⟩ := h
  obtain ⟨n, hn, hstate⟩ := hfull
  obtain ⟨n', hn', hmatches⟩ := hplays.record
  have hsame : n' = n := Option.some.inj (hn'.symm.trans hn)
  subst hsame
  have hp : p.state = .full := hmatches.state.symm.trans hstate
  cases x with
  | zero =>
      have hwaiting := Party.Waiting.state hat
      rw [hp] at hwaiting
      cases hwaiting
  | succ k =>
      rcases Party.Exchanging.phase hat with ⟨hexchange, -⟩ | ⟨-, hphase⟩
      · rw [hp] at hexchange
        cases hexchange
      · cases isMaster <;> exact hphase

/-- The role and the number of an end in EXCHANGE or above. -/
theorem IsAt.of_exchange (h : e.IsAt own other isMaster x) {n : Neighbor}
    (hn : e.neighbor = some n) (hstate : .exchange ≤ n.state) :
    0 < x ∧ n.isMaster = isMaster ∧
      n.ddSeqNum = UInt32.ofNat (heard isMaster x) := by
  obtain ⟨p, hplays, hat⟩ := h
  obtain ⟨n', hn', hmatches⟩ := hplays.record
  have hsame : n' = n := Option.some.inj (hn'.symm.trans hn)
  subst hsame
  rw [hmatches.state] at hstate
  rw [hmatches.isMaster, hmatches.ddSeqNum]
  cases x with
  | zero =>
      rw [Party.Waiting.state hat] at hstate
      exact absurd hstate (by decide)
  | succ k =>
      refine ⟨Nat.succ_pos k, Party.Exchanging.isMaster_eq hat, ?_⟩
      rw [Party.Exchanging.ddSeqNum hat]
      cases isMaster <;> rfl

/-- What has been accepted is a prefix of the snapshot, where the other end has
taken one by the time something has been accepted. -/
theorem IsAt.acceptsPrefix {e' : Endpoint} {other' : List LSAHeader}
    {isMaster' : Bool} {x' : ℕ} (h : e.IsAt own other isMaster x)
    (h' : e'.IsAt other other' isMaster' x')
    (hx : 0 < heard isMaster x → 0 < x') :
    e.AcceptsPrefix LSAHeader.ageless e' := by
  rw [AcceptsPrefix, h.accepted_eq]
  rcases Nat.eq_zero_or_pos (heard isMaster x) with hzero | hpos
  · rw [hzero]
    exact List.nil_prefix
  · rw [h'.snapshot_eq (hx hpos), Option.getD_some]
    exact (List.take_prefix _ other).map _

/-- All of the snapshot has been accepted once the packets cover it. -/
theorem IsAt.hasAccepted {e' : Endpoint} {other' : List LSAHeader}
    {isMaster' : Bool} {x' : ℕ} (h : e.IsAt own other isMaster x)
    (h' : e'.IsAt other other' isMaster' x') (hx' : 0 < x')
    (hlength : other.length ≤ ddCapacity * heard isMaster x) :
    e.HasAccepted LSAHeader.ageless e' :=
  ⟨other, h'.snapshot_eq hx', by
    rw [h.accepted_eq, List.take_of_length_le hlength]⟩

end Endpoint

section Sound

variable {leads follows : List LSAHeader} {leader follower : Endpoint}
  {s : LockStep}

/-- The follower takes the leader for the master, and is on its number or the
one before. -/
theorem Tracks.serves (h : Tracks leads follows leader follower s) :
    follower.Serves leader := by
  intro n m hn hm hnstate hmstate
  obtain ⟨hf, hnmaster, hnseq⟩ := h.followerAt.of_exchange hn hnstate
  obtain ⟨hl, hmmaster, hmseq⟩ := h.leaderAt.of_exchange hm hmstate
  refine ⟨hnmaster, hmmaster, ?_⟩
  have hle := h.ordered.leader_le
  have hge := h.ordered.follower_le
  rw [hnseq, hmseq, heard, heard, if_neg Bool.false_ne_true, if_pos rfl]
  rcases Nat.lt_or_ge s.leader s.follower with hlt | heq
  · left
    congr 1
    omega
  · right
    rw [show s.leader = s.follower - 1 + 1 by omega, UInt32.ofNat_add]
    rfl

theorem Tracks.acceptsPrefix (h : Tracks leads follows leader follower s) :
    leader.AcceptsPrefix LSAHeader.ageless follower ∧
      follower.AcceptsPrefix LSAHeader.ageless leader := by
  have hle := h.ordered.leader_le
  have hge := h.ordered.follower_le
  constructor
  · apply h.leaderAt.acceptsPrefix h.followerAt
    intro hpos
    rw [heard, if_neg Bool.false_ne_true] at hpos
    omega
  · apply h.followerAt.acceptsPrefix h.leaderAt
    intro hpos
    rw [heard, if_pos rfl] at hpos
    omega

/-- When one end is FULL, both have accepted all there was. -/
theorem Tracks.complete (h : Tracks leads follows leader follower s)
    (hfull : leader.IsFull ∨ follower.IsFull) :
    leader.HasAccepted LSAHeader.ageless follower ∧
      follower.HasAccepted LSAHeader.ageless leader := by
  have hle := h.ordered.leader_le
  have hge := h.ordered.follower_le
  have hcovered : 0 < s.leader ∧
      follows.length ≤ ddCapacity * s.leader ∧
      leads.length ≤ ddCapacity * (s.follower - 1) := by
    rcases hfull with hfull | hfull
    · obtain ⟨hpos, hother, hown⟩ := h.leaderAt.of_isFull hfull
      rw [heard, if_neg Bool.false_ne_true] at hpos hother
      exact ⟨hpos, hother, hown.trans (Nat.mul_le_mul_left _ (by omega))⟩
    · obtain ⟨hpos, hother, hown⟩ := h.followerAt.of_isFull hfull
      rw [heard, if_pos rfl] at hpos hother
      exact ⟨by omega, hown.trans (Nat.mul_le_mul_left _ (by omega)), hother⟩
  obtain ⟨hpos, hfollows, hleads⟩ := hcovered
  exact ⟨h.leaderAt.hasAccepted h.followerAt (by omega) hfollows,
    h.followerAt.hasAccepted h.leaderAt hpos hleads⟩

end Sound

/-- In lock step the exchange goes well, but for the age of the headers. -/
theorem Pair.Tracked.soundUpTo {lefts rights : List LSAHeader} {p : Pair}
    (h : p.Tracked lefts rights) : p.SoundUpTo LSAHeader.ageless := by
  rcases h with ⟨s, h⟩ | ⟨s, h⟩
  · exact
      { noMismatch := ⟨h.leaderAt.not_mismatched, h.followerAt.not_mismatched⟩
        roles := Or.inr h.serves
        leftAccepts := h.acceptsPrefix.1
        rightAccepts := h.acceptsPrefix.2
        complete := h.complete }
  · exact
      { noMismatch := ⟨h.followerAt.not_mismatched, h.leaderAt.not_mismatched⟩
        roles := Or.inl h.serves
        leftAccepts := h.acceptsPrefix.2
        rightAccepts := h.acceptsPrefix.1
        complete := fun hfull => (h.complete hfull.symm).symm }

/-- The snapshots are those of the databases at the beginning. -/
theorem Pair.Tracked.of_snapshot {lefts rights : List LSAHeader} {p : Pair}
    (h : p.Tracked lefts rights) :
    (∀ summary, p.left.snapshot = some summary → summary = lefts) ∧
      ∀ summary, p.right.snapshot = some summary → summary = rights := by
  rcases h with ⟨s, h⟩ | ⟨s, h⟩
  · constructor
    · intro _
      exact h.leaderAt.of_snapshot
    · intro _
      exact h.followerAt.of_snapshot
  · constructor
    · intro _
      exact h.followerAt.of_snapshot
    · intro _
      exact h.leaderAt.of_snapshot

end OspfLite
