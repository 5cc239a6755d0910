import OspfLite.Lib.Runs

/-!
# Processes on a broadcast channel

A family of processes that act on their own and put messages on a channel that
all of them hear.  A message can be lost, and it can be heard late and more than
once; an order among the messages of one sender is a condition on a run.
-/

namespace OspfLite

/-- The states of the processes, the messages each of them has sent, and the
position of the message the first has heard last from the second. -/
structure Network (ι σ μ : Type*) where
  node : ι → σ
  sent : ι → List μ
  heard : ι → ι → ℕ

namespace Network

/-- A process sends, acts on its own, or hears a message of another: the one
at a position of what that one has sent. -/
inductive Event (ι α : Type*) where
  | send (i : ι)
  | act (i : ι) (a : α)
  | hear (i j : ι) (k : ℕ) (a : α)

variable {ι σ μ α : Type*}

/-- What can happen: an act is one that the process can make on its own, and
what a process hears has been sent. -/
def Allowed (own : Network ι σ μ → ι → α → Prop) (carries : μ → α → Prop)
    (net : Network ι σ μ) : Event ι α → Prop
  | .send _ => True
  | .act i a => own net i a
  | .hear _ j k a => ∃ m, (net.sent j)[k]? = some m ∧ carries m a

/-- The messages of a sender are heard in the order in which they were sent. -/
def InOrder (net : Network ι σ μ) : Event ι α → Prop
  | .hear i j k _ => net.heard i j ≤ k
  | _ => True

variable [DecidableEq ι]

/-- A process puts a message on the channel. -/
def say (net : Network ι σ μ) (i : ι) (m : μ) : Network ι σ μ :=
  { net with sent := Function.update net.sent i (net.sent i ++ [m]) }

/-- A process moves to another state. -/
def move (net : Network ι σ μ) (i : ι) (s : σ) : Network ι σ μ :=
  { net with node := Function.update net.node i s }

/-- A process has heard the message at a position. -/
def note (net : Network ι σ μ) (i j : ι) (k : ℕ) : Network ι σ μ :=
  { net with
    heard := Function.update net.heard i (Function.update (net.heard i) j k) }

section Updates

variable (net : Network ι σ μ) (i j : ι) (k : ℕ) (m : μ) (s : σ)

@[simp] theorem say_node : (net.say i m).node = net.node := rfl

@[simp] theorem say_heard : (net.say i m).heard = net.heard := rfl

@[simp] theorem say_sent_self : (net.say i m).sent i = net.sent i ++ [m] :=
  Function.update_self _ _ _

theorem say_sent_of_ne {i j : ι} (h : j ≠ i) :
    (net.say i m).sent j = net.sent j :=
  Function.update_of_ne h _ _

@[simp] theorem move_sent : (net.move i s).sent = net.sent := rfl

@[simp] theorem move_heard : (net.move i s).heard = net.heard := rfl

@[simp] theorem move_node_self : (net.move i s).node i = s :=
  Function.update_self _ _ _

theorem move_node_of_ne {i j : ι} (h : j ≠ i) :
    (net.move i s).node j = net.node j :=
  Function.update_of_ne h _ _

@[simp] theorem note_node : (net.note i j k).node = net.node := rfl

@[simp] theorem note_sent : (net.note i j k).sent = net.sent := rfl

@[simp] theorem note_heard_self : (net.note i j k).heard i j = k := by
  simp [note]

theorem note_heard_of_ne {i' j' : ι} (h : i' ≠ i ∨ j' ≠ j) :
    (net.note i j k).heard i' j' = net.heard i' j' := by
  by_cases hi : i' = i
  · subst hi
    simp [note, Function.update_of_ne (h.resolve_left fun hne => hne rfl)]
  · simp [note, Function.update_of_ne hi]

end Updates

/-- What an event does, for processes with the given steps and messages. -/
def next (step : σ → α → Outcome σ) (message : σ → μ)
    (net : Network ι σ μ) : Event ι α → Outcome (Network ι σ μ)
  | .send i => .ok (net.say i (message (net.node i)))
  | .act i a => (step (net.node i) a).map (net.move i)
  | .hear i j k a =>
      (step (net.node i) a).map fun s => (net.move i s).note i j k

variable {step : σ → α → Outcome σ} {message : σ → μ}
  {own : Network ι σ μ → ι → α → Prop} {carries : μ → α → Prop}
  {net net' : Network ι σ μ} {e : Event ι α} {i j : ι} {s : σ}

/-- Nothing that was sent is taken back. -/
theorem sent_grows (h : net.next step message e = .ok net') (j : ι) :
    net.sent j <+: net'.sent j := by
  cases e with
  | send i =>
      rw [next, Except.ok.injEq] at h
      subst h
      by_cases hij : j = i
      · rw [hij, say_sent_self]
        exact List.prefix_append _ _
      · rw [say_sent_of_ne _ _ hij]
  | act | hear =>
      obtain ⟨s, -, rfl⟩ := Outcome.map_eq_ok.mp h
      exact List.prefix_rfl

/-- Every process makes a step at most. -/
theorem node_next (h : net.next step message e = .ok net') (j : ι) :
    net'.node j = net.node j ∨
      ∃ a, step (net.node j) a = .ok (net'.node j) := by
  cases e with
  | send i =>
      rw [next, Except.ok.injEq] at h
      exact Or.inl (h ▸ rfl)
  | act i a | hear i _ _ a =>
      obtain ⟨s, hs, rfl⟩ := Outcome.map_eq_ok.mp h
      by_cases hj : j = i
      · subst hj
        right
        refine ⟨a, ?_⟩
        simpa using hs
      · left
        simp [move_node_of_ne _ _ hj]

section Movers

variable {k : ℕ} {a : α}

/-- The process that moves in an act is the one that acts. -/
theorem step_of_act (h : net.next step message (.act i a) = .ok net')
    (hmoves : net'.node j ≠ net.node j) :
    j = i ∧ step (net.node j) a = .ok (net'.node j) := by
  obtain ⟨s, hs, rfl⟩ := Outcome.map_eq_ok.mp h
  have hj : j = i := by
    by_contra hne
    exact hmoves (move_node_of_ne _ _ hne)
  subst hj
  exact ⟨rfl, by simpa using hs⟩

theorem step_of_hear {i' : ι}
    (h : net.next step message (.hear i i' k a) = .ok net')
    (hmoves : net'.node j ≠ net.node j) :
    j = i ∧ step (net.node j) a = .ok (net'.node j) := by
  obtain ⟨s, hs, rfl⟩ := Outcome.map_eq_ok.mp h
  have hj : j = i := by
    by_contra hne
    exact hmoves (move_node_of_ne _ _ hne)
  subst hj
  exact ⟨rfl, by simpa using hs⟩

/-- One process moves at most. -/
theorem node_next_of_ne (h : net.next step message e = .ok net')
    (hmoves : net'.node j ≠ net.node j) (hne : i ≠ j) :
    net'.node i = net.node i := by
  by_contra hother
  cases e with
  | send =>
      rw [next, Except.ok.injEq] at h
      exact hmoves (h ▸ rfl)
  | act =>
      exact hne ((step_of_act h hother).1.trans (step_of_act h hmoves).1.symm)
  | hear =>
      exact hne
        ((step_of_hear h hother).1.trans (step_of_hear h hmoves).1.symm)

end Movers

/-! ## Invariants of processes and of messages -/

/-- Every process meets `L`, which may speak of what has been sent, and every
message meets `M`. -/
structure Sound (L : (ι → List μ) → ι → σ → Prop) (M : ι → μ → Prop)
    (net : Network ι σ μ) : Prop where
  node : ∀ i, L net.sent i (net.node i)
  message : ∀ i, ∀ m ∈ net.sent i, M i m

/-- The obligations for the two invariants: what a process says while it meets
`L` meets `M`, and the process keeps `L` when it acts on its own, and when it
hears a message that meets `M`. -/
structure Preserves (step : σ → α → Outcome σ) (message : σ → μ)
    (own : Network ι σ μ → ι → α → Prop) (carries : μ → α → Prop)
    (L : (ι → List μ) → ι → σ → Prop) (M : ι → μ → Prop) : Prop where
  mono : ∀ sent sent' i s, (∀ j, sent j <+: sent' j) → L sent i s →
    L sent' i s
  send : ∀ sent i s, L sent i s → M i (message s)
  act : ∀ net i a s, own net i a → L net.sent i (net.node i) →
    step (net.node i) a = .ok s → L net.sent i s
  hear : ∀ sent i j s a s', ∀ m ∈ sent j, M j m → carries m a →
    L sent i s → step s a = .ok s' → L sent i s'

variable {L : (ι → List μ) → ι → σ → Prop} {M : ι → μ → Prop}

/-- One process has moved. -/
theorem Sound.move (h : net.Sound L M) (hs : L net.sent i s) :
    (net.move i s).Sound L M := by
  refine ⟨fun j => ?_, h.message⟩
  by_cases hij : j = i
  · rw [hij, move_node_self]
    exact hs
  · rw [move_node_of_ne _ _ hij]
    exact h.node j

/-- One process has sent a message. -/
theorem Sound.say (h : net.Sound L M)
    (hmono : ∀ sent sent' i s, (∀ j, sent j <+: sent' j) → L sent i s →
      L sent' i s) {m : μ} (hm : M i m) : (net.say i m).Sound L M := by
  constructor
  · intro j
    refine hmono net.sent _ j _ (fun j => ?_) (h.node j)
    by_cases hij : j = i
    · rw [hij, say_sent_self]
      exact List.prefix_append _ _
    · rw [say_sent_of_ne _ _ hij]
  · intro j m' hm'
    by_cases hij : j = i
    · subst hij
      rw [say_sent_self] at hm'
      rcases List.mem_append.mp hm' with hold | hnew
      · exact h.message j m' hold
      · rw [List.mem_singleton.mp hnew]
        exact hm
    · rw [say_sent_of_ne _ _ hij] at hm'
      exact h.message j m' hm'

/-- An event keeps the invariants. -/
theorem Sound.next (h : net.Sound L M)
    (hkeeps : Preserves step message own carries L M)
    (hallowed : net.Allowed own carries e)
    (hnext : net.next step message e = .ok net') : net'.Sound L M := by
  cases e with
  | send i =>
      rw [Network.next, Except.ok.injEq] at hnext
      subst hnext
      exact h.say hkeeps.mono (hkeeps.send _ i _ (h.node i))
  | act i a =>
      obtain ⟨s, hs, rfl⟩ := Outcome.map_eq_ok.mp hnext
      exact h.move (hkeeps.act net i a s hallowed (h.node i) hs)
  | hear i j k a =>
      obtain ⟨s, hs, rfl⟩ := Outcome.map_eq_ok.mp hnext
      obtain ⟨m, hm, hcarries⟩ := hallowed
      have hmem : m ∈ net.sent j := List.mem_of_getElem? hm
      have hmoved := h.move (hkeeps.hear _ i j _ a s m hmem
        (h.message j m hmem) hcarries (h.node i) hs)
      exact ⟨hmoved.node, hmoved.message⟩

/-- The invariants hold after every run. -/
theorem Sound.run (h : net.Sound L M)
    (hkeeps : Preserves step message own carries L M) {es : List (Event ι α)}
    (hallowed : Along (Network.next step message)
      (Allowed own carries) net es)
    (hrun : runFrom (Network.next step message) net es = .ok net') :
    net'.Sound L M :=
  runFrom_invariant (fun _ _ _ h ha hn => h.next hkeeps ha hn) h hallowed hrun

/-- Nobody has heard more than has been sent. -/
def Bounded (net : Network ι σ μ) : Prop :=
  ∀ i j, net.heard i j ≤ (net.sent j).length

theorem Bounded.next (h : net.Bounded) (hallowed : net.Allowed own carries e)
    (hnext : net.next step message e = .ok net') : net'.Bounded := by
  intro i j
  have hgrows := (sent_grows hnext j).length_le
  cases e with
  | send i' =>
      rw [Network.next, Except.ok.injEq] at hnext
      subst hnext
      exact (h i j).trans hgrows
  | act i' a =>
      obtain ⟨s, -, rfl⟩ := Outcome.map_eq_ok.mp hnext
      exact h i j
  | hear i' j' k a =>
      obtain ⟨s, -, rfl⟩ := Outcome.map_eq_ok.mp hnext
      obtain ⟨m, hm, -⟩ := hallowed
      by_cases hsame : i = i' ∧ j = j'
      · obtain ⟨rfl, rfl⟩ := hsame
        rw [note_heard_self]
        obtain ⟨hk, -⟩ := List.getElem?_eq_some_iff.mp hm
        exact hk.le
      · rw [note_heard_of_ne _ _ _ _ (by tauto)]
        exact h i j

/-! ## What is still to be heard -/

/-- Everything that the first has not heard yet from the second meets `D`, and
so does what it has heard last. -/
def ToCome (D : μ → Prop) (net : Network ι σ μ) (i j : ι) : Prop :=
  ∀ k m, net.heard i j ≤ k → (net.sent j)[k]? = some m → D m

/-- Once a process has said something that meets `D`, it says nothing else,
and would not do so now. -/
structure Persists (D : μ → Prop) (message : σ → μ) (net : Network ι σ μ)
    (j : ι) : Prop where
  sent : (net.sent j).Pairwise fun m m' => D m → D m'
  node : ∀ m ∈ net.sent j, D m → D (message (net.node j))

variable {D : μ → Prop}

/-- What is still to be heard, after an event of a run in order. -/
theorem ToCome.next (h : net.ToCome D i j)
    (hspoken : D (message (net.node j))) (horder : net.InOrder e)
    (hnext : net.next step message e = .ok net') : net'.ToCome D i j := by
  intro k m hk hm
  cases e with
  | send i' =>
      rw [Network.next, Except.ok.injEq] at hnext
      subst hnext
      by_cases hj : j = i'
      · subst hj
        rw [say_sent_self] at hm
        rcases List.mem_append.mp (List.mem_of_getElem? hm) with hold | hnew
        · by_cases hlt : k < (net.sent j).length
          · rw [List.getElem?_append_left hlt] at hm
            exact h k m hk hm
          · rw [List.getElem?_append_right (not_lt.mp hlt)] at hm
            have hlast := List.mem_of_getElem? hm
            rw [List.mem_singleton.mp hlast]
            exact hspoken
        · rw [List.mem_singleton.mp hnew]
          exact hspoken
      · rw [say_sent_of_ne _ _ hj] at hm
        exact h k m hk hm
  | act i' a =>
      obtain ⟨s, -, rfl⟩ := Outcome.map_eq_ok.mp hnext
      exact h k m hk hm
  | hear i' j' k' a =>
      obtain ⟨s, -, rfl⟩ := Outcome.map_eq_ok.mp hnext
      refine h k m ?_ hm
      by_cases hsame : i = i' ∧ j = j'
      · obtain ⟨rfl, rfl⟩ := hsame
        rw [note_heard_self] at hk
        exact le_trans horder hk
      · rwa [note_heard_of_ne _ _ _ _ (by tauto)] at hk

/-- What has begun to be said is all that is still to be heard behind it. -/
theorem Persists.toCome_note (h : net.Persists D message j) {k : ℕ} {m : μ}
    (hm : (net.sent j)[k]? = some m) (hD : D m) (s : σ) :
    ((net.move i s).note i j k).ToCome D i j := by
  intro k' m' hk hm'
  rw [note_heard_self] at hk
  rw [note_sent, move_sent] at hm'
  rcases eq_or_lt_of_le hk with rfl | hlt
  · rw [hm] at hm'
    exact Option.some.inj hm' ▸ hD
  · obtain ⟨hk₁, rfl⟩ := List.getElem?_eq_some_iff.mp hm
    obtain ⟨hk₂, rfl⟩ := List.getElem?_eq_some_iff.mp hm'
    exact List.pairwise_iff_getElem.mp h.sent k k' hk₁ hk₂ hlt hD

/-- A process that keeps `D` when it moves goes on to say it. -/
theorem Persists.next (h : net.Persists D message j)
    (hkeeps : D (message (net.node j)) → D (message (net'.node j)))
    (hnext : net.next step message e = .ok net') :
    net'.Persists D message j := by
  cases e with
  | send i' =>
      rw [Network.next, Except.ok.injEq] at hnext
      subst hnext
      by_cases hj : j = i'
      · subst hj
        refine ⟨?_, fun m hm hD => ?_⟩
        · rw [say_sent_self, List.pairwise_append]
          refine ⟨h.sent, List.pairwise_singleton _ _, fun m hm m' hm' hD => ?_⟩
          rw [List.mem_singleton.mp hm']
          exact h.node m hm hD
        · rw [say_sent_self] at hm
          rcases List.mem_append.mp hm with hold | hnew
          · exact h.node m hold hD
          · exact List.mem_singleton.mp hnew ▸ hD
      · refine ⟨?_, fun m hm => ?_⟩
        · rw [say_sent_of_ne _ _ hj]
          exact h.sent
        · rw [say_sent_of_ne _ _ hj] at hm
          exact h.node m hm
  | act | hear =>
      obtain ⟨s, -, rfl⟩ := Outcome.map_eq_ok.mp hnext
      exact ⟨h.sent, fun m hm hD => hkeeps (h.node m hm hD)⟩

end Network
end OspfLite
