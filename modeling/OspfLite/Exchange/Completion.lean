import OspfLite.Exchange.Tracking

/-!
# Which exchanges go well

Every exchange goes well up to the age of the headers, which is lost on the
wire.  Where nothing is lost on the channels the exchange completes, and then
every header has gone over the wire: an exchange is sure to go well exactly
when no header has an age to lose.
-/

namespace OspfLite

open Endpoint

/-! ## Every run -/

namespace Pair

variable {p p' : Pair}

/-- Every run completes and keeps the two ends in lock step. -/
theorem Starts.exists_tracked (h : p.Starts)
    (actions : List (Side × EndpointEvent)) :
    ∃ p', runFrom step p actions = .ok p' ∧
      p'.Tracked p.left.router.lsdb.headers p.right.router.lsdb.headers :=
  exists_runFrom (P := fun _ _ => True)
    (fun _ action htracked _ =>
      htracked.step h.left.types h.right.types action)
    h.tracked (along_of_forall (fun _ _ => trivial) p)

/-- Every exchange goes well up to the age of the headers. -/
theorem Starts.soundUpTo_of_run (h : p.Starts)
    (actions : List (Side × EndpointEvent)) :
    ∃ p', runFrom step p actions = .ok p' ∧
      p'.SoundUpTo LSAHeader.ageless := by
  obtain ⟨p', hrun, htracked⟩ := h.exists_tracked actions
  exact ⟨p', hrun, htracked.soundUpTo⟩

end Pair

/-! ## Headers without age -/

/-- A list that keeps its headers without their ages has none to lose. -/
theorem map_ageless_eq_self {headers : List LSAHeader} :
    headers.map LSAHeader.ageless = headers ↔ ∀ h ∈ headers, h.lsAge = 0 := by
  have hmap := List.map_inj_left (l := headers) (f := LSAHeader.ageless)
    (g := id)
  rw [List.map_id] at hmap
  exact hmap.trans (forall₂_congr fun h _ => LSAHeader.ageless_eq_self)

/-! ## Runs without loss -/

namespace Endpoint

variable {own other : List LSAHeader} {e : Endpoint} {isMaster : Bool}
  {x : ℕ}

/-- An end that is not FULL moves on when the next message arrives. -/
theorem IsAt.advance (h : e.IsAt own other isMaster x)
    (htypes : ∀ h ∈ other, ¬Neighbor.BadType h) (hfull : ¬e.IsFull)
    (hcarry : Carry other (!isMaster) [ddHeard isMaster x] e.inbox) :
    ∃ e' packets, e.step (.deliver false) = .ok (e', packets) ∧
      e'.IsAt own other isMaster (x + 1) ∧ e'.inbox = [] ∧
      Carry own isMaster [x + 1] packets := by
  obtain ⟨p, hplays, hat⟩ := h
  have hstate : p.state ≠ .full := by
    intro hp
    obtain ⟨n, hn, hmatches⟩ := hplays.record
    exact hfull ⟨n, hn, hmatches.state.trans hp⟩
  obtain ⟨packet, rest, hfirst, hrest, hinbox⟩ :=
    List.forall₂_cons_left_iff.mp hcarry
  obtain ⟨p', hreceive, hat'⟩ := hat.advance htypes hstate
  obtain ⟨r', packets, hstep, hplays', hsaid⟩ := deliver_of_receive hplays
    hat.state_ne_init hinbox hfirst hreceive false
  exact ⟨_, packets, hstep, ⟨p', hplays', hat'⟩,
    List.forall₂_nil_left_iff.mp hrest, carry_singleton hsaid⟩

end Endpoint

/-- The leader has sent the message of its round, and nothing else is on the
way. -/
structure Loaded (leads follows : List LSAHeader) (leader follower : Endpoint)
    (l : ℕ) : Prop where
  leaderAt : leader.IsAt leads follows false l
  followerAt : follower.IsAt follows leads true l
  toLeader : leader.inbox = []
  toFollower : Carry leads false [l] follower.inbox

section Left

variable {leads follows : List LSAHeader} {p : Pair} {l : ℕ}

/-- Two deliveries make a round, with the left router leading. -/
theorem Loaded.round (h : Loaded leads follows p.left p.right l)
    (hleads : ∀ h ∈ leads, ¬Neighbor.BadType h)
    (hfollows : ∀ h ∈ follows, ¬Neighbor.BadType h)
    (hleft : ¬p.left.IsFull) (hright : ¬p.right.IsFull) :
    ∃ p', runFrom Pair.step p
        [(.right, .deliver false), (.left, .deliver false)] = .ok p' ∧
      Loaded leads follows p'.left p'.right (l + 1) := by
  obtain ⟨follower, answer, hstep, hfollower, hinbox, hanswer⟩ :=
    h.followerAt.advance hleads hright h.toFollower
  obtain ⟨left, hleftEq⟩ : ∃ left,
    left = { p.left with inbox := p.left.inbox ++ answer } := ⟨_, rfl⟩
  have hanswered : left.inbox = answer := by
    rw [hleftEq, h.toLeader, List.nil_append]
  have hleftAt : left.IsAt leads follows false l := by
    rw [hleftEq]
    exact h.leaderAt
  have hleftFull : ¬left.IsFull := by
    rw [hleftEq]
    exact hleft
  obtain ⟨leader, next, hstep', hleader, hempty, hnext⟩ :=
    hleftAt.advance hfollows hleftFull (hanswered ▸ hanswer)
  refine ⟨⟨leader, { follower with inbox := follower.inbox ++ next }⟩, ?_,
    hleader, hfollower, hempty, ?_⟩
  · have hfirst : p.step (.right, .deliver false) = .ok ⟨left, follower⟩ := by
      rw [hleftEq]
      exact Pair.step_right hstep
    have hsecond : Pair.step ⟨left, follower⟩ (.left, .deliver false) = _ :=
      Pair.step_left hstep'
    rw [runFrom_cons, hfirst, Outcome.bind_ok, runFrom_cons, hsecond]
    rfl
  · rw [hinbox, List.nil_append]
    exact hnext

/-- Without loss the exchange goes on until one end is FULL. -/
theorem Loaded.exists_rounds (h : Loaded leads follows p.left p.right 0)
    (hleads : ∀ h ∈ leads, ¬Neighbor.BadType h)
    (hfollows : ∀ h ∈ follows, ¬Neighbor.BadType h) (l : ℕ) :
    ∃ actions p', runFrom Pair.step p actions = .ok p' ∧
      ((p'.left.IsFull ∨ p'.right.IsFull) ∨
        Loaded leads follows p'.left p'.right l) := by
  induction l with
  | zero => exact ⟨[], p, rfl, Or.inr h⟩
  | succ l ih =>
      obtain ⟨actions, p₁, hrun, hprogress⟩ := ih
      by_cases hfull : p₁.left.IsFull ∨ p₁.right.IsFull
      · exact ⟨actions, p₁, hrun, Or.inl hfull⟩
      have hloaded := hprogress.resolve_left hfull
      rw [not_or] at hfull
      obtain ⟨p', hround, hp'⟩ :=
        hloaded.round hleads hfollows hfull.1 hfull.2
      refine ⟨actions ++ [(.right, .deliver false), (.left, .deliver false)],
        p', ?_, Or.inr hp'⟩
      rw [runFrom_append, hrun, Outcome.bind_ok, hround]

end Left

namespace Pair

variable {p : Pair}

/-- The leader begins by sending the opening message. -/
theorem Starts.exists_loaded (h : p.Starts)
    (hids : p.right.router.routerId < p.left.router.routerId) :
    ∃ p', p.step (.left, .emptyDd) = .ok p' ∧
      Loaded p.left.router.lsdb.headers p.right.router.lsdb.headers p'.left
        p'.right 0 := by
  obtain ⟨n, hn, -, hstate, hstop, -⟩ := h.left.neighbor
  have hat : p.left.IsAt p.left.router.lsdb.headers
      p.right.router.lsdb.headers false 0 := h.left.isAt hids
  obtain ⟨r', packets, hstep, hat', ⟨-, hstopped⟩ | hsent⟩ := hat.emptyDd
  · exact absurd ⟨hstate, hstop⟩ (hstopped n hn)
  · refine ⟨_, step_left hstep, hat', h.right.isAt hids, h.left.inbox, ?_⟩
    change Carry _ false [0] (p.right.inbox ++ packets)
    rw [h.right.inbox]
    exact hsent

/-- Without loss both sides come to accept all of the other one's snapshot,
the left one leading. -/
theorem Starts.exists_complete_of_lt (h : p.Starts)
    (hids : p.right.router.routerId < p.left.router.routerId) :
    ∃ actions p', runFrom step p actions = .ok p' ∧
      p'.left.HasAccepted LSAHeader.ageless p'.right ∧
      p'.right.HasAccepted LSAHeader.ageless p'.left := by
  obtain ⟨p₀, hfirst, hloaded⟩ := h.exists_loaded hids
  obtain ⟨actions, p', hrun, hprogress⟩ := hloaded.exists_rounds h.left.types
    h.right.types (p.left.router.lsdb.headers.length +
      p.right.router.lsdb.headers.length + 1)
  have hall : runFrom step p ((.left, .emptyDd) :: actions) = .ok p' := by
    rw [runFrom_cons, hfirst, Outcome.bind_ok, hrun]
  refine ⟨_, p', hall, ?_⟩
  rcases hprogress with hfull | hdone
  · obtain ⟨p'', hrun', hsound⟩ := h.soundUpTo_of_run
      ((.left, .emptyDd) :: actions)
    have hsame : p'' = p' := Except.ok.inj (hrun'.symm.trans hall)
    exact (hsame ▸ hsound).complete hfull
  · have hcapacity : ∀ n, n ≤ ddCapacity * n := fun n =>
      Nat.le_mul_of_pos_left n (by decide)
    refine ⟨hdone.leaderAt.hasAccepted hdone.followerAt (Nat.succ_pos _) ?_,
      hdone.followerAt.hasAccepted hdone.leaderAt (Nat.succ_pos _) ?_⟩
    · refine le_trans ?_ (hcapacity _)
      rw [heard, if_neg Bool.false_ne_true]
      omega
    · refine le_trans ?_ (hcapacity _)
      rw [heard, if_pos rfl]
      omega

/-! ## Either router leading -/

/-- The same pair seen from the other side. -/
def swap (p : Pair) : Pair := ⟨p.right, p.left⟩

end Pair

/-- The other side. -/
def Side.flip : Side → Side
  | .left => .right
  | .right => .left

namespace Pair

variable {p : Pair}

theorem step_swap (p : Pair) (side : Side) (event : EndpointEvent) :
    p.swap.step (side.flip, event) = (p.step (side, event)).map swap := by
  cases side with
  | left =>
      change (p.left.step event).map _ = ((p.left.step event).map _).map swap
      cases p.left.step event <;> rfl
  | right =>
      change (p.right.step event).map _ = ((p.right.step event).map _).map swap
      cases p.right.step event <;> rfl

theorem runFrom_swap (p : Pair) (actions : List (Side × EndpointEvent)) :
    runFrom step p.swap (actions.map fun a => (a.1.flip, a.2)) =
      (runFrom step p actions).map swap := by
  induction actions generalizing p with
  | nil => rfl
  | cons action actions ih =>
      rw [List.map_cons, runFrom_cons, runFrom_cons, step_swap]
      cases hstep : p.step action with
      | error fault => rfl
      | ok p' => exact ih p'

theorem Starts.swap (h : p.Starts) : p.swap.Starts :=
  ⟨h.right, h.left, h.ids.symm⟩

/-- Without loss both sides come to accept all of the other one's snapshot. -/
theorem Starts.exists_complete (h : p.Starts) :
    ∃ actions p', runFrom step p actions = .ok p' ∧
      p'.left.HasAccepted LSAHeader.ageless p'.right ∧
      p'.right.HasAccepted LSAHeader.ageless p'.left := by
  rcases UInt32.lt_or_lt_of_ne h.ids with hlt | hlt
  · obtain ⟨actions, p', hrun, hleft, hright⟩ :=
      h.swap.exists_complete_of_lt hlt
    refine ⟨actions.map fun a => (a.1.flip, a.2), p'.swap, ?_, hright, hleft⟩
    have hswap := runFrom_swap p.swap actions
    rw [hrun] at hswap
    exact hswap
  · exact h.exists_complete_of_lt hlt

end Pair

/-! ## The condition -/

/-- What has been accepted depends on the wire only through the snapshot. -/
theorem Endpoint.AcceptsPrefix.congr {wire wire' : LSAHeader → LSAHeader}
    {e other : Endpoint}
    (hwire : ∀ summary, other.snapshot = some summary →
      summary.map wire = summary.map wire')
    (h : e.AcceptsPrefix wire other) : e.AcceptsPrefix wire' other := by
  rw [AcceptsPrefix] at h ⊢
  cases hsnapshot : other.snapshot with
  | none => simpa [hsnapshot] using h
  | some summary =>
      rw [hsnapshot, Option.getD_some] at h
      rw [Option.getD_some, ← hwire summary hsnapshot]
      exact h

theorem Endpoint.HasAccepted.congr {wire wire' : LSAHeader → LSAHeader}
    {e other : Endpoint}
    (hwire : ∀ summary, other.snapshot = some summary →
      summary.map wire = summary.map wire')
    (h : e.HasAccepted wire other) : e.HasAccepted wire' other := by
  obtain ⟨summary, hsnapshot, haccepted⟩ := h
  exact ⟨summary, hsnapshot, haccepted.trans (hwire summary hsnapshot)⟩

/-- A side that has accepted all of a snapshot, and a prefix of it as it was,
shows that the snapshot had no ages. -/
theorem Endpoint.HasAccepted.ages {e other : Endpoint}
    (h : e.HasAccepted LSAHeader.ageless other)
    (hpre : e.AcceptsPrefix id other) {summary : List LSAHeader}
    (hsummary : ∀ s, other.snapshot = some s → s = summary) :
    ∀ header ∈ summary, header.lsAge = 0 := by
  obtain ⟨s, hsnapshot, haccepted⟩ := h
  have hs := hsummary s hsnapshot
  subst hs
  rw [AcceptsPrefix, hsnapshot, haccepted, Option.getD_some,
    List.map_id] at hpre
  exact map_ageless_eq_self.mp (hpre.eq_of_length (List.length_map _))

namespace Pair

/-- An exchange goes well in every run exactly when no header of the two
databases has an age to lose on the wire. -/
theorem sound_of_run_iff (p : Pair) (h : p.Starts) :
    (∀ actions, ∃ p', runFrom step p actions = .ok p' ∧ p'.Sound) ↔
      ∀ header ∈ p.left.router.lsdb.headers ++ p.right.router.lsdb.headers,
        header.lsAge = 0 := by
  constructor
  · intro hsound
    obtain ⟨actions, p', hrun, hleft, hright⟩ := h.exists_complete
    obtain ⟨p'', hrun', hsound'⟩ := hsound actions
    have hsame : p'' = p' := Except.ok.inj (hrun'.symm.trans hrun)
    subst hsame
    obtain ⟨p', hrun'', htracked⟩ := h.exists_tracked actions
    have hsame : p' = p'' := Except.ok.inj (hrun''.symm.trans hrun)
    subst hsame
    intro header hmem
    rcases List.mem_append.mp hmem with hmem | hmem
    · exact hright.ages hsound'.rightAccepts htracked.of_snapshot.1 header hmem
    · exact hleft.ages hsound'.leftAccepts htracked.of_snapshot.2 header hmem
  · intro hages actions
    obtain ⟨p', hrun, htracked⟩ := h.exists_tracked actions
    have hsound := htracked.soundUpTo
    obtain ⟨hlefts, hrights⟩ := List.forall_mem_append.mp hages
    have hleft : ∀ summary, p'.left.snapshot = some summary →
        summary.map LSAHeader.ageless = summary.map id := by
      intro summary hsummary
      rw [htracked.of_snapshot.1 summary hsummary, List.map_id]
      exact map_ageless_eq_self.mpr hlefts
    have hright : ∀ summary, p'.right.snapshot = some summary →
        summary.map LSAHeader.ageless = summary.map id := by
      intro summary hsummary
      rw [htracked.of_snapshot.2 summary hsummary, List.map_id]
      exact map_ageless_eq_self.mpr hrights
    exact ⟨p', hrun,
      { noMismatch := hsound.noMismatch
        roles := hsound.roles
        leftAccepts := hsound.leftAccepts.congr hright
        rightAccepts := hsound.rightAccepts.congr hleft
        complete := fun hfull =>
          ⟨(hsound.complete hfull).1.congr hright,
            (hsound.complete hfull).2.congr hleft⟩ }⟩

/-! ## An age that is lost -/

/-- A router in EXSTART with its only neighbor. -/
def endInExStart (routerId address peerId peer : UInt32)
    (routerLsas : List LSARouter) : Endpoint where
  router := { Router.new routerId initialSequenceNumber 0
      ⟨0, 0, 0, false, false, false⟩ []
      { Interface.new address 0xffffff00 with
        neighbors := [{ Neighbor.new ⟨0, 0, 0, false, false, false⟩ peer with
          id := peerId
          state := .exStart }] } [] with
    lsdb := { LSDB.empty with routerLsas := routerLsas } }
  peer := peer
  inbox := []

/-- The Router LSA of the router 1.1.1.1, without links. -/
def ownRouterLsa (age : UInt16) : LSARouter where
  header := ⟨age, 2, lsaRouter, 0x01010101, 0x01010101, 0x80000001, 0, 24⟩
  zero0 := 0
  bV := false
  bE := false
  bB := false
  zero1 := 0
  linksNum := 0
  links := []

/-- The routers 2.2.2.2 and 1.1.1.1 enter EXSTART, the latter with its Router
LSA at the given age. -/
def enteringExStart (age : UInt16) : Pair where
  left := endInExStart 0x02020202 0x0a000002 0x01010101 0x0a000001 []
  right := endInExStart 0x01010101 0x0a000001 0x02020202 0x0a000002
    [ownRouterLsa age]

theorem enteringExStart_starts (age : UInt16) :
    (enteringExStart age).Starts where
  left :=
    { neighbor := ⟨_, rfl, rfl, rfl, rfl, rfl, rfl, rfl, rfl, rfl, rfl⟩
      log := rfl
      inbox := rfl
      routerLsas := fun _ h => by cases h
      networkLsas := fun _ h => by cases h }
  right :=
    { neighbor := ⟨_, rfl, rfl, rfl, rfl, rfl, rfl, rfl, rfl, rfl, rfl⟩
      log := rfl
      inbox := rfl
      routerLsas := fun lsa h => by
        rw [List.mem_singleton.mp h]
        rfl
      networkLsas := fun _ h => by cases h }
  ids := by
    change (0x02020202 : UInt32) ≠ 0x01010101
    decide

/-- With an LSA of age 0 the exchange goes well in every run. -/
theorem sound_of_run_iff_enteringExStart :
    (∀ actions, ∃ p', runFrom step (enteringExStart 0) actions = .ok p' ∧
        p'.Sound) ↔
      ∀ header ∈ (enteringExStart 0).left.router.lsdb.headers ++
        (enteringExStart 0).right.router.lsdb.headers, header.lsAge = 0 :=
  sound_of_run_iff (enteringExStart 0) (enteringExStart_starts 0)

/-- With its Router LSA at age 1, as it is generated, the first two messages
are enough: the header that is accepted is not the one in the snapshot. -/
theorem accepted_header_not_in_snapshot :
    (enteringExStart 1).Starts ∧ ∃ p', runFrom step (enteringExStart 1)
        [(.left, .emptyDd), (.right, .deliver false),
          (.left, .deliver false)] = .ok p' ∧
      ¬p'.Sound := by
  refine ⟨enteringExStart_starts 1, ?_⟩
  obtain ⟨p', hrun, haccepted⟩ : ∃ p', runFrom step (enteringExStart 1)
      [(.left, .emptyDd), (.right, .deliver false),
        (.left, .deliver false)] = .ok p' ∧
      ¬p'.left.accepted <+: (p'.right.snapshot.getD []).map id :=
    Outcome.exists_of_completesWith (by decide +kernel)
  exact ⟨p', hrun, fun hsound => haccepted hsound.leftAccepts⟩

end Pair

end OspfLite
