import OspfLite.Segment.Election

/-!
# How the roles are settled

What holds of a segment from the time on when its routers have met: who has
which roles, what has been said of them, and what is still to be heard.  Every
event keeps it, as long as the Hellos of a router arrive in order and no
neighbor falls silent.
-/

namespace OspfLite
namespace Segment

variable {ι : Type} {seg : Segment ι} {M S : ι} {net net' : Net ι} {i j : ι}
  {inter taken after : Interface} {r r' m : Router}

/-! ## One router -/

/-- The router is WAITING and has no roles, or it has those that an election
gives. -/
def Roles (seg : Segment ι) (M S i : ι) (inter : Interface) : Prop :=
  (inter.state = .waiting ∧ inter.dr = 0 ∧ inter.bdr = 0) ∨
    (inter.Elected ∧ seg.Assigns M S i inter inter.dr inter.bdr)

theorem Assigns.congr {dr bdr : UInt32}
    (h : seg.Assigns M S i inter dr bdr)
    (hknows : seg.Knows M i inter ↔ seg.Knows M i after) :
    seg.Assigns M S i after dr bdr :=
  ⟨fun hk => h.known (hknows.mpr hk),
    fun hnot => h.unknown fun hk => hnot (hknows.mp hk)⟩

theorem knows_congr
    (h : ∀ a, after.saidBy a = inter.saidBy a) (seg : Segment ι) (M i : ι) :
    seg.Knows M i inter ↔ seg.Knows M i after := by
  rw [Knows, Knows, Interface.DeclaresDr, Interface.DeclaresDr, h]

/-- How a router comes from one interface to the next: a neighbor may have
said something, and an election may follow. -/
structure Advances (seg : Segment ι) (M S i : ι)
    (inter taken after : Interface) : Prop where
  sees : seg.Sees M S i taken
  holds : seg.Holds M S i taken
  state : taken.state = inter.state
  dr : taken.dr = inter.dr
  bdr : taken.bdr = inter.bdr
  step : (taken.Keeps after ∧
      (inter.Elected → (seg.Knows M i inter ↔ seg.Knows M i taken))) ∨
    Interface.Elects (seg.routerId i) taken after

namespace Advances

variable (h : seg.Advances M S i inter taken after)

include h

theorem neighbors :
    List.Forall₂ Neighbor.Alike taken.neighbors after.neighbors := by
  rcases h.step with ⟨hkeeps, -⟩ | helects
  · exact hkeeps.neighbors
  · exact helects.neighbors

theorem saidBy (a : UInt32) : after.saidBy a = taken.saidBy a :=
  Interface.saidBy_of_forall₂ h.neighbors a

/-- What an election gives. -/
theorem assigns (hleads : seg.Leads M S)
    (helects : Interface.Elects (seg.routerId i) taken after) :
    after.Elected ∧ seg.Assigns M S i after after.dr after.bdr := by
  constructor
  · rw [Interface.Elected, helects.state]
    split_ifs
    · exact Or.inl rfl
    · exact Or.inr (Or.inl rfl)
    · exact Or.inr (Or.inr rfl)
  · have hfree : taken.AddressFree := by
      intro n hn heq
      have hfind : taken.findNeighbor n.ip = some n :=
        KeyedList.Unique.lookup_of_mem h.sees.company.unique hn
      obtain ⟨j, hne, hip, -⟩ := h.sees.others n.ip n.candidate
        (Option.map_eq_some_iff.mpr ⟨n, hfind, rfl⟩)
      rw [heq, h.sees.address] at hip
      exact hne (seg.address_injective hip.symm)
    have hpri : taken.routerPriority ≠ 0 := by
      rw [h.sees.priority]
      decide
    exact (h.sees.assigns h.holds hleads (helects.settles hfree hpri)).congr
      (knows_congr h.saidBy seg M i)

theorem roles (hleads : seg.Leads M S) (hroles : seg.Roles M S i inter) :
    seg.Roles M S i after := by
  rcases h.step with ⟨hkeeps, hknows⟩ | helects
  · have hstate := hkeeps.state.trans h.state
    have hdr := hkeeps.dr.trans h.dr
    have hbdr := hkeeps.bdr.trans h.bdr
    rcases hroles with ⟨hwaiting, hdr₀, hbdr₀⟩ | ⟨helected, hassigns⟩
    · exact Or.inl ⟨hstate.trans hwaiting, hdr.trans hdr₀,
        hbdr.trans hbdr₀⟩
    · refine Or.inr ⟨?_, ?_⟩
      · rwa [Interface.Elected, hstate]
      · rw [hdr, hbdr]
        exact hassigns.congr ((hknows helected).trans
          (knows_congr h.saidBy seg M i))
  · exact Or.inr (h.assigns hleads helects)

/-- The first router, once it is DR, stays DR. -/
theorem dr_first (hleads : seg.Leads M S) (hi : i = M)
    (hdr : inter.dr = seg.address M) : after.dr = seg.address M := by
  rcases h.step with ⟨hkeeps, -⟩ | helects
  · exact (hkeeps.dr.trans h.dr).trans hdr
  · exact ((h.assigns hleads helects).2.known (Or.inl hi)).1

end Advances

/-! ## The segment -/

/-- What holds of the segment while the roles are settled. -/
structure Settling (seg : Segment ι) (M S : ι) (net : Net ι) : Prop where
  sound : net.Sound (fun sent i r => seg.Member sent i r) seg.Message
  company : ∀ i, (net.node i).interface.Company
  all : ∀ i, ∀ j ≠ i, ∃ c,
    (net.node i).interface.saidBy (seg.address j) = some c
  listed : ∀ i j, j ≠ i →
    net.ToCome (fun m => seg.routerId i ∈ m.helloNeighbors) i j
  roles : ∀ i, seg.Roles M S i (net.node i).interface
  saidDr : ∀ j, ∀ m ∈ net.sent j, m.interface.dr = seg.address j → j = M
  saidBdr : ∀ j, ∀ m ∈ net.sent j, m.interface.bdr = seg.address j →
    j = S ∧ ∃ m' ∈ net.sent M, m'.interface.dr = seg.address M
  persists : net.Persists (fun m => m.interface.dr = seg.address M) id M
  heard : ∀ i, (net.node i).interface.DeclaresDr (seg.address M) →
    net.ToCome (fun m => m.interface.dr = seg.address M) i M

namespace Settling

variable (h : seg.Settling M S net)

include h

/-- What is known of a neighbor is what it has sent. -/
theorem exists_sent {a : UInt32} {c : Candidate}
    (hc : (net.node i).interface.saidBy a = some c) :
    ∃ j ≠ i, a = seg.address j ∧ c.id = seg.routerId j ∧ c.pri = 1 ∧
      ∃ m ∈ net.sent j, c.dr = m.interface.dr ∧ c.bdr = m.interface.bdr := by
  have hip := Interface.saidBy_ip hc
  obtain ⟨n, hn, rfl⟩ := Interface.mem_of_saidBy hc
  obtain ⟨j, hne, hnip, hrest⟩ := (h.sound.node i).knows.neighbors n hn
  exact ⟨j, hne, hip.symm.trans hnip, hrest⟩

theorem sees (i : ι) : seg.Sees M S i (net.node i).interface := by
  have hmember := h.sound.node i
  refine ⟨h.company i, address_of_same hmember.same,
    priority_of_same hmember.same, fun a c hc => ?_, h.all i⟩
  obtain ⟨j, hne, ha, hid, hpri, m, hm, hdr, hbdr⟩ := h.exists_sent hc
  exact ⟨j, hne, ha, hid, hpri,
    fun heq => h.saidDr j m hm (hdr.symm.trans (heq.trans ha)),
    fun heq => (h.saidBdr j m hm (hbdr.symm.trans (heq.trans ha))).1⟩

/-- Who knows that `M` is DR has it from `M`. -/
theorem exists_declared
    (hdecl : (net.node i).interface.DeclaresDr (seg.address M)) :
    ∃ m ∈ net.sent M, m.interface.dr = seg.address M := by
  obtain ⟨c, hc, hcdr⟩ := hdecl
  obtain ⟨j, -, ha, -, -, m, hm, hdr, -⟩ := h.exists_sent hc
  obtain rfl := seg.address_injective ha
  exact ⟨m, hm, hdr.symm.trans (hcdr.trans (Interface.saidBy_ip hc))⟩

/-- Then `M` still is. -/
theorem dr_of_declared
    (hsaid : ∃ m ∈ net.sent M, m.interface.dr = seg.address M) :
    (net.node M).interface.dr = seg.address M := by
  obtain ⟨m, hm, hdr⟩ := hsaid
  exact h.persists.node m hm hdr

/-- The next Hello of a router lists all others. -/
theorem lists (hne : j ≠ i) :
    seg.routerId i ∈ (net.node j).helloNeighbors := by
  obtain ⟨c, hc⟩ := h.all j i hne.symm
  obtain ⟨n, hn, rfl⟩ := Interface.mem_of_saidBy hc
  obtain ⟨k, -, ha, hid, -⟩ := h.exists_sent hc
  obtain rfl := seg.address_injective ha
  refine Router.mem_helloNeighbors.mpr ⟨n, hn, ?_, hid⟩
  intro hdown
  have htwo := (h.company j).twoWay n hn
  rw [hdown] at htwo
  exact absurd htwo (by decide)

variable (hleads : seg.Leads M S)

include hleads

theorem dr_self (hdr : (net.node i).interface.dr = seg.address i) :
    i = M := by
  rcases h.roles i with ⟨-, hzero, -⟩ | ⟨-, hassigns⟩
  · exact absurd (hdr.symm.trans hzero) (hleads.nonzero i)
  · by_cases hknows : seg.Knows M i (net.node i).interface
    · have hM := (hassigns.known hknows).1
      exact seg.address_injective (hdr.symm.trans hM)
    · rcases (hassigns.unknown hknows).2 with hM | ⟨hi, hS⟩
      · exact seg.address_injective (hdr.symm.trans hM)
      · exact absurd (seg.address_injective (hdr.symm.trans hS)) hi

theorem bdr_self (hbdr : (net.node i).interface.bdr = seg.address i) :
    i = S ∧ (net.node i).interface.DeclaresDr (seg.address M) := by
  rcases h.roles i with ⟨-, -, hzero⟩ | ⟨-, hassigns⟩
  · exact absurd (hbdr.symm.trans hzero) (hleads.nonzero i)
  · by_cases hknows : seg.Knows M i (net.node i).interface
    · have hi := seg.address_injective
        (hbdr.symm.trans (hassigns.known hknows).2)
      refine ⟨hi, hknows.resolve_left fun heq => ?_⟩
      exact hleads.ne (hi.symm.trans heq)
    · obtain ⟨hsame, hM | ⟨hi, hS⟩⟩ := hassigns.unknown hknows
      · have hi := seg.address_injective (hbdr.symm.trans (hsame.trans hM))
        exact absurd (Or.inl hi) hknows
      · exact absurd (seg.address_injective
          (hbdr.symm.trans (hsame.trans hS))) hi

theorem holds (i : ι) : seg.Holds M S i (net.node i).interface := by
  refine ⟨h.dr_self hleads, h.bdr_self hleads,
    fun hi hdr c hc heq => ?_⟩
  obtain ⟨j, -, ha, -, -, m, hm, -, hbdr⟩ := h.exists_sent hc
  obtain rfl := seg.address_injective ha
  have hsaid : m.interface.bdr = seg.address S :=
    hbdr.symm.trans (heq.trans (Interface.saidBy_ip hc))
  have hM := h.dr_of_declared (h.saidBdr S m hm hsaid).2
  exact hdr (hi ▸ hM)

end Settling

/-! ## Steps -/

/-- What happens while the roles are settled: Hellos arrive in order, and no
neighbor falls silent.  Every other packet may arrive. -/
structure Steady (net : Net ι) (e : Event ι) : Prop where
  allowed : Allowed net e
  order : net.InOrder e
  timely : ∀ i a, e = .act i a → (net.node i).Timely a

/-- A step that takes in no Hello. -/
theorem Settling.advances_act {a : Router.Step} (h : seg.Settling M S net)
    (hleads : seg.Leads M S) (hsteady : Steady net (.act i a))
    (hr' : (net.node i).step a = .ok r') :
    seg.Advances M S i (net.node i).interface (net.node i).interface
      r'.interface := by
  have hstep := Router.step_company (h.company i) (hsteady.timely i a rfl)
    (fun now packet heq hadmits htype => by
      subst heq
      exact hsteady.allowed hadmits htype) hr'
  rw [(h.sound.node i).same.routerId] at hstep
  exact ⟨h.sees i, h.holds hleads i, rfl, rfl, rfl,
    hstep.imp_left fun hkeeps => ⟨hkeeps, fun _ => Iff.rfl⟩⟩

/-- What the Hello that `j` sends in the state `m` says. -/
def said (seg : Segment ι) (j : ι) (m : Router) : Candidate :=
  ⟨seg.address j, seg.routerId j, 1, m.interface.dr, m.interface.bdr⟩

section Hello

variable {k : ℕ} (h : seg.Settling M S net) (hleads : seg.Leads M S)
  (hm : (net.sent j)[k]? = some m) (horder : net.heard i j ≤ k)
  (hne : j ≠ i)
  (hupdates : Interface.Updates (seg.address j) (seg.said j m)
    (net.node i).interface taken)

include hupdates in
/-- Of `M` it can only become known that it is DR when it says so. -/
theorem declaresDr_iff_taken :
    taken.DeclaresDr (seg.address M) ↔
      (j = M ∧ m.interface.dr = seg.address M) ∨
        (j ≠ M ∧ (net.node i).interface.DeclaresDr (seg.address M)) := by
  rw [Interface.DeclaresDr, hupdates.saidBy]
  by_cases hj : j = M
  · subst hj
    simp [said]
  · rw [if_neg fun heq => hj (seg.address_injective heq).symm]
    simp [hj, Interface.DeclaresDr]

include h hm horder hupdates in
/-- Once it is known, it stays known. -/
theorem Settling.declaresDr_taken
    (hdecl : (net.node i).interface.DeclaresDr (seg.address M)) :
    taken.DeclaresDr (seg.address M) := by
  rw [declaresDr_iff_taken hupdates]
  by_cases hj : j = M
  · subst hj
    exact Or.inl ⟨rfl, h.heard i hdecl k m horder hm⟩
  · exact Or.inr ⟨hj, hdecl⟩

include h hm hne hupdates in
theorem Settling.sees_taken : seg.Sees M S i taken := by
  have hold := h.sees i
  have hmem := List.mem_of_getElem? hm
  refine ⟨hupdates.company, hupdates.config.address.trans hold.address,
    hupdates.config.priority.trans hold.priority, fun a c hc => ?_,
    fun l hl => ?_⟩
  · rw [hupdates.saidBy] at hc
    split_ifs at hc with ha
    · rw [← Option.some.inj hc, ha]
      exact ⟨j, hne, rfl, rfl, rfl, h.saidDr j m hmem,
        fun heq => (h.saidBdr j m hmem heq).1⟩
    · exact hold.others a c hc
  · rw [hupdates.saidBy]
    split_ifs
    · exact ⟨_, rfl⟩
    · exact hold.all l hl

include h hleads hm horder hupdates in
theorem Settling.holds_taken : seg.Holds M S i taken := by
  have hold := h.holds hleads i
  have hmem := List.mem_of_getElem? hm
  refine ⟨fun hdr => hold.dr (hupdates.dr.symm.trans hdr), fun hbdr => ?_,
    fun hi hdr c hc => ?_⟩
  · obtain ⟨hi, hdecl⟩ := hold.bdr (hupdates.bdr.symm.trans hbdr)
    exact ⟨hi, h.declaresDr_taken hm horder hupdates hdecl⟩
  · have hdr' : (net.node i).interface.dr ≠ seg.address i :=
      fun heq => hdr (hupdates.dr.trans heq)
    rw [hupdates.saidBy] at hc
    split_ifs at hc with hS
    · rw [← Option.some.inj hc]
      intro heq
      have hM := h.dr_of_declared (h.saidBdr j m hmem heq).2
      exact hdr' (hi ▸ hM)
    · exact hold.first hi hdr' c hc

end Hello

/-- A step that takes in the Hello of another router. -/
theorem Settling.advances_hear [Fintype ι] {k : ℕ} {now : ℤ}
    {packet : Memory} (hcard : Fintype.card ι ≤ 360)
    (h : seg.Settling M S net) (hleads : seg.Leads M S)
    (hm : (net.sent j)[k]? = some m) (horder : net.heard i j ≤ k)
    (hbrings : Brings m (.frame now packet)) (hne : j ≠ i)
    (hr' : (net.node i).step (.frame now packet) = .ok r') :
    ∃ taken, seg.Advances M S i (net.node i).interface taken r'.interface ∧
      (taken.DeclaresDr (seg.address M) ↔
        (j = M ∧ m.interface.dr = seg.address M) ∨
          (j ≠ M ∧ (net.node i).interface.DeclaresDr (seg.address M))) := by
  have hi := (h.sound.node i).same
  obtain ⟨sent', hm'⟩ := h.sound.message j m (List.mem_of_getElem? hm)
  obtain ⟨c, hc⟩ := h.all i j hne
  obtain ⟨n, hn, -⟩ := Option.map_eq_some_iff.mp hc
  have hlisted : (net.node i).routerId ∈ m.helloNeighbors := by
    rw [hi.routerId]
    exact h.listed i j hne k m horder hm
  have haddress := address_of_same hm'.same
  have hid : m.routerId = seg.routerId j := hm'.same.routerId
  rw [← haddress] at hn
  obtain ⟨taken, hupdates, hstep⟩ := Router.step_company_hello (h.company i)
    (hears_of_same hne hi hm'.same) (hm'.helloFits hcard) hbrings hlisted hn
    hr'
  rw [haddress, hid] at hupdates
  rw [haddress] at hstep hn
  rw [hi.routerId] at hstep
  have hsaid : Interface.Updates (seg.address j) (seg.said j m)
    (net.node i).interface taken := hupdates
  refine ⟨taken, ⟨h.sees_taken hm hne hsaid,
    h.holds_taken hleads hm horder hsaid, hsaid.state, hsaid.dr, hsaid.bdr,
    hstep.imp_left fun hquiet => ⟨?_, fun helected => ?_⟩⟩,
    declaresDr_iff_taken hsaid⟩
  · rw [hquiet.1]
    exact Interface.keeps_refl taken
  · -- what the Hello says of `M` is what was known before
    refine or_congr_right ?_
    rw [declaresDr_iff_taken hsaid]
    by_cases hj : j = M
    · subst hj
      have hip := Interface.findNeighbor_ip hn
      have hold : (net.node i).interface.DeclaresDr (seg.address j) ↔
          n.dr = seg.address j := by
        simp [Interface.DeclaresDr, Interface.saidBy, hn,
          Neighbor.candidate, hip]
      rw [hold, hquiet.2 helected]
      simp
    · simp [hj]

section Steps

variable [DecidableEq ι]

/-- A router puts what it declares into a Hello. -/
theorem Settling.say (h : seg.Settling M S net) (hleads : seg.Leads M S)
    (hsound : (net.say i (net.node i)).Sound
      (fun sent i r => seg.Member sent i r) seg.Message) :
    seg.Settling M S (net.say i (net.node i)) := by
  have hnext : Network.next Router.step id net
    (Network.Event.send i : Event ι) = .ok (net.say i (net.node i)) := rfl
  have horder : net.InOrder (Network.Event.send i : Event ι) := trivial
  have hsent : ∀ j, ∀ m ∈ (net.say i (net.node i)).sent j,
      m ∈ net.sent j ∨ (j = i ∧ m = net.node i) := by
    intro j m hm
    by_cases hj : j = i
    · rw [hj, Network.say_sent_self] at hm
      rcases List.mem_append.mp hm with hold | hnew
      · exact Or.inl (hj ▸ hold)
      · exact Or.inr ⟨hj, List.mem_singleton.mp hnew⟩
    · rw [Network.say_sent_of_ne _ _ hj] at hm
      exact Or.inl hm
  have hgrows : ∀ m ∈ net.sent M, m ∈ (net.say i (net.node i)).sent M :=
    fun m hm => (Network.sent_grows hnext M).subset hm
  refine ⟨hsound, h.company, h.all,
    fun i' j hne => (h.listed i' j hne).next (h.lists hne) horder
      hnext, h.roles, fun j m hm hdr => ?_, fun j m hm hbdr => ?_,
    h.persists.next (fun hD => hD) hnext,
    fun i' hdecl => (h.heard i' hdecl).next
      (h.dr_of_declared (h.exists_declared hdecl)) horder hnext⟩
  · rcases hsent j m hm with hold | ⟨rfl, rfl⟩
    · exact h.saidDr j m hold hdr
    · exact h.dr_self hleads hdr
  · rcases hsent j m hm with hold | ⟨rfl, rfl⟩
    · obtain ⟨hj, m', hm', hdr⟩ := h.saidBdr j m hold hbdr
      exact ⟨hj, m', hgrows m' hm', hdr⟩
    · obtain ⟨hj, hdecl⟩ := h.bdr_self hleads hbdr
      obtain ⟨m', hm', hdr⟩ := h.exists_declared hdecl
      exact ⟨hj, m', hgrows m' hm', hdr⟩

/-- A router has come from one interface to the next. -/
theorem Settling.advance {e : Event ι} (h : seg.Settling M S net)
    (hleads : seg.Leads M S) (hsteady : Steady net e)
    (hnext : Network.next Router.step id net e = .ok net')
    (hsound : net'.Sound (fun sent i r => seg.Member sent i r) seg.Message)
    (hsent : net'.sent = net.sent)
    (hnode : ∀ k, k ≠ i → net'.node k = net.node k)
    (hadvances : seg.Advances M S i (net.node i).interface taken
      (net'.node i).interface)
    (hheard : taken.DeclaresDr (seg.address M) →
      (net.node i).interface.DeclaresDr (seg.address M) ∨
        net'.ToCome (fun m => m.interface.dr = seg.address M) i M) :
    seg.Settling M S net' := by
  have hcompany := hadvances.sees.company.of_forall₂ hadvances.neighbors
  refine ⟨hsound, fun k => ?_, fun k j hne => ?_,
    fun k j hne => (h.listed k j hne).next (h.lists hne)
      hsteady.order hnext, fun k => ?_, ?_, ?_, ?_, fun k hdecl => ?_⟩
  · by_cases hk : k = i
    · exact hk ▸ hcompany
    · rw [hnode k hk]
      exact h.company k
  · by_cases hk : k = i
    · subst hk
      obtain ⟨c, hc⟩ := hadvances.sees.all j hne
      exact ⟨c, (hadvances.saidBy _).trans hc⟩
    · rw [hnode k hk]
      exact h.all k j hne
  · by_cases hk : k = i
    · subst hk
      exact hadvances.roles hleads (h.roles k)
    · rw [hnode k hk]
      exact h.roles k
  · rw [hsent]
    exact h.saidDr
  · rw [hsent]
    exact h.saidBdr
  · refine h.persists.next (fun hD => ?_) hnext
    by_cases hM : M = i
    · subst hM
      exact hadvances.dr_first hleads rfl hD
    · rw [hnode M hM]
      exact hD
  · have hstays : ∀ k, (net.node k).interface.DeclaresDr (seg.address M) →
        net'.ToCome (fun m => m.interface.dr = seg.address M) k M :=
      fun k hdecl => (h.heard k hdecl).next
        (h.dr_of_declared (h.exists_declared hdecl)) hsteady.order hnext
    by_cases hk : k = i
    · subst hk
      obtain ⟨c, hc, hdr⟩ := hdecl
      rw [hadvances.saidBy] at hc
      rcases hheard ⟨c, hc, hdr⟩ with hold | hnew
      · exact hstays k hold
      · exact hnew
    · rw [hnode k hk] at hdecl
      exact hstays k hdecl

/-- An event keeps what holds while the roles are settled. -/
theorem Settling.next [Fintype ι] {e : Event ι}
    (hcard : Fintype.card ι ≤ 360) (hleads : seg.Leads M S)
    (h : seg.Settling M S net) (hsteady : Steady net e)
    (hnext : next net e = .ok net') : seg.Settling M S net' := by
  have hsound := h.sound.next (member_preserves seg) hsteady.allowed hnext
  have hnext' : Network.next Router.step id net e = .ok net' := hnext
  cases e with
  | send i =>
      rw [Network.next, Except.ok.injEq] at hnext'
      subst hnext'
      exact h.say hleads hsound
  | act i a =>
      obtain ⟨r', hr', rfl⟩ := Outcome.map_eq_ok.mp hnext'
      apply h.advance hleads hsteady hnext hsound rfl
        (fun k hk => Network.move_node_of_ne _ _ hk)
      · rw [Network.move_node_self]
        exact h.advances_act hleads hsteady hr'
      · exact Or.inl
  | hear i j k a =>
      obtain ⟨r', hr', rfl⟩ := Outcome.map_eq_ok.mp hnext'
      obtain ⟨m, hm, hbrings⟩ := hsteady.allowed
      have hmoved : ((net.move i r').note i j k).node i = r' := by
        rw [Network.note_node, Network.move_node_self]
      have hothers : ∀ l, l ≠ i →
          ((net.move i r').note i j k).node l = net.node l :=
        fun l hl => Network.move_node_of_ne _ _ hl
      cases a with
      | frame now packet =>
          by_cases hne : j = i
          · -- its own Hello
            subst hne
            obtain ⟨sent', hm'⟩ := hsound.message j m
              (List.mem_of_getElem? hm)
            have hdeaf : ¬(net.node j).Hears m := by
              intro hears
              apply hears.address
              rw [address_of_same hm'.same,
                address_of_same (h.sound.node j).same]
            have hsame : r' = net.node j := by
              have hdrop := Router.step_of_not_hears hbrings now hdeaf
              rw [hr', Except.ok.injEq] at hdrop
              exact hdrop
            apply h.advance hleads hsteady hnext hsound rfl hothers
            · rw [hmoved, hsame]
              exact ⟨h.sees j, h.holds hleads j, rfl, rfl, rfl,
                Or.inl ⟨Interface.keeps_refl _, fun _ => Iff.rfl⟩⟩
            · exact Or.inl
          · obtain ⟨taken, hadvances, hheard⟩ := h.advances_hear hcard hleads
              hm hsteady.order hbrings hne hr'
            apply h.advance hleads hsteady hnext hsound rfl hothers
            · rw [hmoved]
              exact hadvances
            · intro hdecl
              rcases hheard.mp hdecl with ⟨rfl, hdr⟩ | ⟨-, hold⟩
              · exact Or.inr (h.persists.toCome_note hm hdr r')
              · exact Or.inl hold
      | _ => exact hbrings.elim

end Steps

end Segment
end OspfLite
