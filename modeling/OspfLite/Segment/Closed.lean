import OspfLite.Router.AgeingLsas
import OspfLite.Segment.Handshake

/-!
# A segment left to itself

The routers of a segment run beside their ageing threads, and every packet that
is taken in has been sent by one of them.  It can have been delayed, repeated
and overtaken; the rest of its IP header, and what lies behind it in the receive
buffer, are arbitrary.

`send_lsr_packet_thread` is never started, so there are no Link State Requests.
The copies of `retrans_sender_thread`, which leaves the headers in host order,
are not in the logs and do not take part.
-/

namespace OspfLite
namespace Segment

variable {ι : Type} {seg : Segment ι} {net net' : Net ι}
  {sent : ι → List Router} {i j : ι} {r r' m : Router}

/-- A router sends a Hello, makes a step on its own or takes in a Hello, or its
ageing thread makes a round. -/
abbrev AgeingEvent (ι : Type) := Network.Event ι (Router.Step ⊕ Unit)

/-- The frame brings the Hello that a router sends in the state `m`. -/
def BringsAgeing (m : Router) : Router.Step ⊕ Unit → Prop
  | .inl a => Brings m a
  | .inr () => False

/-- What is taken in has been sent by a router of the segment, as the log of
that router tells. -/
def FromWithin (seg : Segment ι) (net : Net ι) (i : ι) :
    Router.Step ⊕ Unit → Prop
  | .inl (.frame _ packet) =>
      (net.node i).Admits packet →
        ∃ j dst bytes, .sent dst bytes ∈ (net.node j).log ∧
          Conveys packet (seg.address j) dst bytes
  | _ => True

/-- What can happen on a segment that is left to itself. -/
def Closed (seg : Segment ι) (net : Net ι) (e : AgeingEvent ι) : Prop :=
  Network.Allowed (FromWithin seg) BringsAgeing net e

/-! ## The ageing threads -/

/-- The step takes in no Hello. -/
def NoHelloAgeing (net : Net ι) (i : ι) : Router.Step ⊕ Unit → Prop
  | .inl a => NoHello net i a
  | .inr () => True

/-- A round of the ageing thread is nothing to Hellos and elections. -/
theorem Member.tick (h : seg.Member sent i r) :
    seg.Member sent i { r with lsdb := r.lsdb.tick } :=
  ⟨h.same.trans ⟨rfl, rfl, rfl, rfl, r.interface.sameConfig_refl, rfl⟩,
    h.unique, h.knows, h.attempt⟩

theorem member_preserves_ageing (seg : Segment ι) :
    Network.Preserves Router.stepAgeing id NoHelloAgeing BringsAgeing
      (fun sent i r => seg.Member sent i r) seg.Message where
  mono := (member_preserves seg).mono
  send := (member_preserves seg).send
  act := by
    rintro net i (a | _) r hown h hr
    · exact (member_preserves seg).act net i a r hown h hr
    · exact Except.ok.inj hr ▸ h.tick
  hear := by
    rintro sent i j r (a | _) r' m hm hmessage hbrings h hr
    · exact (member_preserves seg).hear sent i j r a r' m hm hmessage hbrings
        h hr
    · exact hbrings.elim

theorem logged_stepAgeing {a : Router.Step ⊕ Unit} (h : r.Logged)
    (hr : r.stepAgeing a = .ok r') : r'.Logged := by
  rcases a with a | _
  · exact h.step hr
  · exact Except.ok.inj hr ▸ h

/-! ## Runs -/

/-- What holds in every state of a segment that is left to itself. -/
structure Orderly (seg : Segment ι) (net : Net ι) : Prop where
  sound : net.Sound (fun sent i r => seg.Member sent i r) seg.Message
  logged : ∀ i, (net.node i).Logged

theorem start_orderly (seg : Segment ι) : seg.Orderly seg.start :=
  ⟨start_sound seg, fun _ _ _ hmem => by cases hmem⟩

/-- The log of no router mentions a Hello or a Link State Request. -/
theorem Orderly.type_of_sent (h : seg.Orderly net) {dst : UInt32}
    {bytes : List UInt8} {packet : Memory}
    (hsent : .sent dst bytes ∈ (net.node j).log)
    (hconveys : Conveys packet (seg.address j) dst bytes) :
    packet 21 ≠ typeHello ∧ packet 21 ≠ typeLsr := by
  obtain ⟨inter, -, type, data, rfl, htype⟩ := h.logged j dst bytes hsent
  rw [Router.type_of_conveys hconveys]
  rcases htype with ⟨rfl, -⟩ | rfl | rfl
  · decide
  · decide
  · decide

/-- So all Hellos are heard from those who send them. -/
theorem Closed.noHello {e : AgeingEvent ι} (h : seg.Closed net e)
    (horderly : seg.Orderly net) :
    Network.Allowed NoHelloAgeing BringsAgeing net e := by
  cases e with
  | send => trivial
  | hear => exact h
  | act i a =>
      rcases a with a | _
      · cases a with
        | frame now packet =>
            intro hadmits
            obtain ⟨j, dst, bytes, hsent, hconveys⟩ := h hadmits
            exact (horderly.type_of_sent hsent hconveys).1
        | _ => trivial
      · trivial

/-- Nobody takes in its own packets. -/
theorem Orderly.ne_of_admits (h : seg.Orderly net) {dst : UInt32}
    {bytes : List UInt8} {packet : Memory}
    (hconveys : Conveys packet (seg.address j) dst bytes)
    (hadmits : (net.node i).Admits packet) : i ≠ j := by
  rintro rfl
  obtain ⟨-, -, hsrc, -⟩ := hadmits
  rw [hconveys.src, address_of_same (h.sound.node i).same] at hsrc
  exact hsrc rfl

section Runs

variable [DecidableEq ι]

/-- What an event does. -/
def nextAgeing (net : Net ι) (e : AgeingEvent ι) : Outcome (Net ι) :=
  Network.next Router.stepAgeing id net e

theorem Orderly.next {e : AgeingEvent ι} (h : seg.Orderly net)
    (hclosed : seg.Closed net e) (hnext : nextAgeing net e = .ok net') :
    seg.Orderly net' := by
  refine ⟨h.sound.next (member_preserves_ageing seg) (hclosed.noHello h) hnext,
    fun i => ?_⟩
  rcases Network.node_next hnext i with hsame | ⟨a, ha⟩
  · exact hsame ▸ h.logged i
  · exact logged_stepAgeing (h.logged i) ha

/-! ## Runs from cues -/

/-- What is to happen next: a router sends a Hello, hears the one at a place in
what another has sent, makes a step of its own, or takes in the packet at a
place in the log of another one. -/
inductive Cue (ι : Type) where
  | say (i : ι)
  | hear (i j : ι) (k : ℕ)
  | own (i : ι) (a : Router.Step)
  | take (i j : ι) (k : ℕ)

/-- The event, if it can happen. -/
def Cue.event (seg : Segment ι) (net : Net ι) :
    Cue ι → Option (AgeingEvent ι)
  | .say i => some (.send i)
  | .hear i j k =>
      (net.sent j)[k]?.map fun m => .hear i j k (.inl (.frame 0
        (ipDatagram m.interface.ipInterfaceAddress allSpfRouters
          m.helloPacket)))
  | .own _ (.frame _ _) => none
  | .own i a => some (.act i (.inl a))
  | .take i j k =>
      match (net.node j).log[k]? with
      | some (.sent dst bytes) => some (.act i (.inl (.frame 0
          (ipDatagram (seg.address j) dst bytes))))
      | _ => none

omit [DecidableEq ι] in
theorem closed_of_cue {c : Cue ι} {e : AgeingEvent ι}
    (h : c.event seg net = some e) : seg.Closed net e := by
  cases c with
  | say i => exact Option.some.inj h ▸ trivial
  | hear i j k =>
      obtain ⟨m, hm, rfl⟩ := Option.map_eq_some_iff.mp h
      exact ⟨m, hm, conveys_ipDatagram _ _ _⟩
  | own i a =>
      cases a with
      | frame => cases h
      | _ => exact Option.some.inj h ▸ trivial
  | take i j k =>
      rw [Cue.event] at h
      split at h
      · rename_i dst bytes hlog
        rw [Option.some.injEq] at h
        subst h
        exact fun _ => ⟨j, dst, bytes, List.mem_of_getElem? hlog,
          conveys_ipDatagram _ _ _⟩
      · cases h

/-- One cue after the other. -/
def perform (seg : Segment ι) (net : Net ι) : List (Cue ι) → Outcome (Net ι)
  | [] => .ok net
  | c :: cs =>
      match c.event seg net with
      | some e => (nextAgeing net e).bind fun net' => seg.perform net' cs
      | none => .error .nullDereference

/-- What can be performed can happen. -/
theorem exists_run_of_perform {cs : List (Cue ι)}
    (h : seg.perform net cs = .ok net') :
    ∃ es, es.length = cs.length ∧ Along nextAgeing seg.Closed net es ∧
      runFrom nextAgeing net es = .ok net' := by
  induction cs generalizing net with
  | nil => exact ⟨[], rfl, trivial, h⟩
  | cons c cs ih =>
      rw [perform] at h
      split at h
      · rename_i e he
        obtain ⟨t, ht, hrest⟩ := Outcome.bind_eq_ok.mp h
        obtain ⟨es, hlength, halong, hrun⟩ := ih hrest
        refine ⟨e :: es, by simp [hlength], ⟨closed_of_cue he, ?_⟩, ?_⟩
        · intro t' ht'
          rw [ht, Except.ok.injEq] at ht'
          exact ht' ▸ halong
        · rw [runFrom_cons, ht]
          exact hrun
      · cases h

end Runs

end Segment
end OspfLite
