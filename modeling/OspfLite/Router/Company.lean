import OspfLite.Router.Bidirectional

/-!
# Routers in company

All neighbors of a router are bidirectional, and none of them falls silent.
Then what an election reads is what the neighbors have said last, and only a
Hello or the end of WAITING leads to an election.
-/

namespace OspfLite
namespace Interface

variable {inter next : Interface} {routerId : UInt32} {a ip : UInt32}
  {c : Candidate}

/-- What the neighbor at an address has said last. -/
def saidBy (inter : Interface) (a : UInt32) : Option Candidate :=
  (inter.findNeighbor a).map Neighbor.candidate

theorem saidBy_ip (h : inter.saidBy a = some c) : c.ip = a := by
  obtain ⟨n, hn, rfl⟩ := Option.map_eq_some_iff.mp h
  exact findNeighbor_ip hn

theorem mem_of_saidBy (h : inter.saidBy a = some c) :
    ∃ n ∈ inter.neighbors, n.candidate = c := by
  obtain ⟨n, hn, hc⟩ := Option.map_eq_some_iff.mp h
  exact ⟨n, List.mem_of_find?_eq_some hn, hc⟩

theorem saidBy_of_forall₂
    (h : List.Forall₂ Neighbor.Alike inter.neighbors next.neighbors)
    (a : UInt32) : next.saidBy a = inter.saidBy a := by
  rw [saidBy, saidBy, findNeighbor, findNeighbor]
  generalize inter.neighbors = l at h
  generalize next.neighbors = l' at h
  induction h with
  | nil => rfl
  | @cons n n' l l' halike _ ih =>
      by_cases hn : n.ip = a
      · have hn' : n'.ip = a := halike.ip.trans hn
        simp [hn, hn', halike.candidate]
      · have hn' : ¬n'.ip = a := fun h => hn (halike.ip.symm.trans h)
        simpa [hn, hn'] using ih

/-- The neighbors are bidirectional, and take part in elections. -/
structure Company (inter : Interface) : Prop where
  unique : inter.AddressesUnique
  twoWay : ∀ n ∈ inter.neighbors, .twoWay ≤ n.state
  priority : ∀ n ∈ inter.neighbors, n.pri = 1

namespace Company

/-- What an election reads. -/
theorem mem_eligible_iff (h : inter.Company) :
    c ∈ inter.eligibleNeighbors ↔ inter.saidBy c.ip = some c := by
  constructor
  · intro hc
    obtain ⟨n, hn, -, rfl⟩ := mem_eligibleNeighbors.mp hc
    have hfind : inter.findNeighbor n.ip = some n :=
      KeyedList.Unique.lookup_of_mem h.unique hn
    exact Option.map_eq_some_iff.mpr ⟨n, hfind, rfl⟩
  · intro hc
    obtain ⟨n, hn, rfl⟩ := mem_of_saidBy hc
    refine List.mem_map.mpr ⟨n, List.mem_filter.mpr ⟨hn, ?_⟩, rfl⟩
    have hpri : n.pri ≠ 0 := by
      rw [h.priority n hn]
      decide
    exact decide_eq_true ⟨h.twoWay n hn, hpri⟩

theorem of_forall₂ (h : inter.Company)
    (halike : List.Forall₂ Neighbor.Alike inter.neighbors next.neighbors) :
    next.Company := by
  refine ⟨h.unique.of_map_eq (Router.addresses_of_forall₂
      (fun _ _ hn => hn.ip) halike),
    forall_mem_of_forall₂ (fun _ _ hn htwo => hn.twoWay.mpr htwo) halike
      h.twoWay,
    forall_mem_of_forall₂ (fun _ _ hn hpri => ?_) halike h.priority⟩
  exact (congrArg Candidate.pri hn.candidate).trans hpri

end Company

/-- The records are the same to Hellos, and the roles are as before. -/
structure Keeps (inter next : Interface) : Prop where
  config : inter.SameConfig next
  neighbors : List.Forall₂ Neighbor.Alike inter.neighbors next.neighbors
  state : next.state = inter.state
  dr : next.dr = inter.dr
  bdr : next.bdr = inter.bdr

theorem keeps_refl (inter : Interface) : inter.Keeps inter :=
  ⟨inter.sameConfig_refl, inter.alike_refl.neighbors, rfl, rfl, rfl⟩

theorem Alike.keeps (h : inter.Alike next) : inter.Keeps next := by
  refine ⟨h.sameConfig, h.neighbors, ?_, ?_, ?_⟩
  · rw [h.rest]
  · rw [h.rest]
  · rw [h.rest]

/-! ## Timers -/

/-- At `now` no neighbor has been silent for the dead interval. -/
def Timely (inter : Interface) (now : ℤ) : Prop :=
  ∀ n ∈ inter.neighbors,
    now ≤ n.lastRecvHelloTime + inter.routerDeadInterval.toNat

instance (inter : Interface) (now : ℤ) : Decidable (inter.Timely now) :=
  inferInstanceAs (Decidable (∀ n ∈ _, _))

theorem Timely.of_forall₂ {now : ℤ} (h : inter.Timely now)
    (hconfig : inter.SameConfig next)
    (halike : List.Forall₂ Neighbor.Alike inter.neighbors next.neighbors) :
    next.Timely now := by
  rw [Timely, hconfig.deadInterval]
  refine forall_mem_of_forall₂ (fun n n' hn htime => ?_) halike h
  have hsame : n'.lastRecvHelloTime = n.lastRecvHelloTime :=
    congrArg Prod.snd hn.heard
  rw [hsame]
  exact htime

/-- Then the inactivity timers do nothing. -/
theorem Timely.inactivityTimers {now : ℤ} (h : inter.Timely now) :
    inter.inactivityTimers routerId now = .ok inter := by
  have hround : ∀ i, inter.inactivityStep routerId now i = .ok inter := by
    intro i
    rw [inactivityStep]
    cases hn : inter.neighbors[i]? with
    | none => rfl
    | some n =>
        have htime := h n (List.mem_of_getElem? hn)
        exact if_neg fun hexpired => absurd hexpired.2 (not_lt.mpr htime)
  rw [Interface.inactivityTimers]
  induction List.range inter.neighbors.length with
  | nil => rfl
  | cons i is ih => rw [runFrom_cons, hround, Outcome.bind_ok, ih]

theorem timers_company {now : ℤ} (h : inter.Timely now)
    (hnext : (inter.waitingTimer? routerId).bind
      (Interface.inactivityTimers routerId now) = .ok next) :
    inter.Keeps next ∨ Elects routerId inter next := by
  obtain ⟨waited, hwaited, hrest⟩ := Outcome.bind_eq_ok.mp hnext
  rw [waitingTimer?] at hwaited
  split_ifs at hwaited
  · have hhandle : inter.handle routerId .waitTimer = .ok waited := hwaited
    rcases handle_elects (by decide) hhandle with
      ⟨-, helects⟩ | ⟨-, rfl⟩
    · rw [(h.of_forall₂ helects.config helects.neighbors).inactivityTimers,
        Except.ok.injEq] at hrest
      exact Or.inr (hrest ▸ helects)
    · rw [h.inactivityTimers, Except.ok.injEq] at hrest
      exact Or.inl (hrest ▸ keeps_refl _)
  · rw [Except.ok.injEq] at hwaited
    subst hwaited
    rw [h.inactivityTimers, Except.ok.injEq] at hrest
    exact Or.inl (hrest ▸ keeps_refl _)

/-! ## Hellos -/

/-- The neighbor at an address has said something else, or the same again. -/
structure Updates (ip : UInt32) (said : Candidate) (inter taken : Interface) :
    Prop where
  config : inter.SameConfig taken
  state : taken.state = inter.state
  dr : taken.dr = inter.dr
  bdr : taken.bdr = inter.bdr
  company : taken.Company
  saidBy : ∀ a, taken.saidBy a =
    if a = ip then some said else inter.saidBy a

variable {uninit : Uninit} {now : ℤ} {fields : HelloFields}

/-- A Hello of a known neighbor that lists the router. -/
theorem Company.heardHello (h : inter.Company) (uninit : Uninit) (now : ℤ)
    {n : Neighbor} (hfind : inter.findNeighbor ip = some n)
    (hpri : fields.pri = 1) :
    Updates ip ⟨ip, fields.id, fields.pri, fields.dr, fields.bdr⟩ inter
      (inter.heardHello uninit now ip fields true) := by
  have hcandidate :=
    inter.heardNeighbor_candidate uninit now ip fields true
  have hip : (inter.heardNeighbor uninit now ip fields true).ip = ip :=
    congrArg Candidate.ip hcandidate
  have hensure : inter.ensureNeighbor uninit ip = inter := by
    rw [ensureNeighbor, if_neg]
    rw [hfind]
    exact Option.some_ne_none n
  have hattempt : (inter.helloNeighbor uninit ip).state ≠ .attempt :=
    helloNeighbor_state_ne _ _
      (fun n hn => Neighbor.not_attempt_of_twoWay (h.twoWay n hn)) (by decide)
  have htwo := heardNeighbor_listed_state now fields hattempt
  have hunique := (helloTaken_spec h.unique uninit now ip fields).1
  rw [heardHello_eq, hensure]
  refine ⟨⟨rfl, rfl, rfl, rfl, rfl, rfl, rfl⟩, rfl, rfl, rfl,
    ⟨?_, ?_, ?_⟩, fun a => ?_⟩
  · have hsame : inter.helloTaken uninit now ip fields = inter.modifyNeighbor
        ip fun _ => inter.heardNeighbor uninit now ip fields true := by
      rw [helloTaken, hensure, heardNeighbor, if_pos rfl, hensure]
    exact hsame ▸ hunique
  · exact forall_modifyNeighbor h.twoWay fun _ _ _ _ => htwo
  · exact forall_modifyNeighbor h.priority fun _ _ _ _ =>
      (congrArg Candidate.pri hcandidate).trans hpri
  · rw [Interface.saidBy, findNeighbor, Interface.modifyNeighbor,
      find_modifyNeighbor fun _ _ => hip]
    by_cases ha : a = ip
    · have hfind' : inter.neighbors.find? (fun n => decide (n.ip = ip)) =
          some n := hfind
      rw [if_pos ha, if_pos ha, ha, hfind', Option.map_some, Option.map_some,
        hcandidate]
    · rw [if_neg ha, if_neg ha, Option.map_id]
      rfl

/-- On an interface that holds elections, what a neighbor declares can only
change by an election. -/
theorem Company.recvHello (h : inter.Company) {n : Neighbor}
    (hfind : inter.findNeighbor ip = some n) (hpri : fields.pri = 1)
    (hnext : inter.recvHello routerId uninit now ip fields true = .ok next) :
    ∃ taken, Updates ip ⟨ip, fields.id, fields.pri, fields.dr, fields.bdr⟩
        inter taken ∧
      ((next = taken ∧
          (inter.Elected → (n.dr = ip ↔ fields.dr = ip))) ∨
        Elects routerId taken next) := by
  have hupdates := h.heardHello uninit now hfind hpri
  refine ⟨_, hupdates, ?_⟩
  have hhello : inter.helloNeighbor uninit ip = n := by
    rw [helloNeighbor, hfind]
    rfl
  have hnip := findNeighbor_ip hfind
  have hdown : n.state ≠ .down := by
    intro hdown
    have htwo := h.twoWay n (List.mem_of_find?_eq_some hfind)
    rw [hdown] at htwo
    exact absurd htwo (by decide)
  rw [recvHello_listed] at hnext
  by_cases helected : inter.Elected
  · rw [helloRaises_of_elected helected, hhello] at hnext
    split_ifs at hnext with hchange
    · right
      have hhandle : (inter.heardHello uninit now ip fields true).handle
        routerId .neighborChange = .ok next := hnext
      rcases handle_elects (by decide) hhandle with
        ⟨-, helects⟩ | ⟨hnot, -⟩
      · exact helects
      · refine absurd ?_ hnot
        have hstate := hupdates.state
        rwa [CallsElection, hstate]
    · left
      rw [Except.ok.injEq] at hnext
      have hsame : ¬n.Redeclares fields := fun hre => hchange ⟨hdown, hre⟩
      simp only [Neighbor.Redeclares, not_or, not_not, hnip] at hsame
      exact ⟨hnext.symm, fun _ => hsame.2.1⟩
  · cases hraises : inter.helloRaises uninit now ip fields with
    | none =>
        rw [hraises, Except.ok.injEq] at hnext
        exact Or.inl ⟨hnext.symm, fun h => absurd h helected⟩
    | some event =>
        rw [hraises] at hnext
        have hhandle : (inter.heardHello uninit now ip fields true).handle
          routerId event = .ok next := hnext
        rcases handle_elects (helloRaises_ne_interfaceUp hraises) hhandle with
          ⟨-, helects⟩ | ⟨-, rfl⟩
        · exact Or.inr helects
        · exact Or.inl ⟨rfl, fun h => absurd h helected⟩

end Interface

namespace Router

variable {r r' m : Router} {packet : Memory}

/-- No neighbor falls silent by the step. -/
def Timely (r : Router) : Step → Prop
  | .timers now => r.interface.Timely now
  | _ => True

instance (r : Router) : (step : Step) → Decidable (r.Timely step)
  | .timers now => inferInstanceAs (Decidable (r.interface.Timely now))
  | .frame _ _ => isTrue trivial
  | .waitingTimeout => isTrue trivial
  | .emptyDd _ => isTrue trivial
  | .emptyDdSenderEnds _ => isTrue trivial

/-- A step that takes in no Hello keeps the roles, or holds an election over
what the neighbors have said before. -/
theorem step_company {step : Step} (h : r.interface.Company)
    (htimely : r.Timely step)
    (hquiet : ∀ now packet, step = .frame now packet → r.Admits packet →
      packet 21 ≠ typeHello)
    (hstep : r.step step = .ok r') :
    r.interface.Keeps r'.interface ∨
      Interface.Elects r.routerId r.interface r'.interface := by
  cases step_effect hstep with
  | timers hr' =>
      obtain ⟨inter, hinter, rfl⟩ := Outcome.map_eq_ok.mp hr'
      exact Interface.timers_company htimely hinter
  | hello hadmits htype =>
      exact absurd htype (hquiet _ _ rfl hadmits)
  | @dd _ packet _ _ _ hby =>
      -- nobody is in INIT
      have hsame : r.interface.modifyNeighbor (ntohl (packet.load32 12))
          (Neighbor.event2wayReceived r.interface) = r.interface := by
        apply Interface.modifyNeighbor_of_id
        intro n hn
        rw [Neighbor.event2wayReceived, if_neg]
        intro hinit
        have htwo := h.twoWay n (List.mem_of_find?_eq_some hn)
        rw [hinit] at htwo
        exact absurd htwo (by decide)
      have hinter := hby.interface
      simp only [modifyNeighbor, hsame] at hinter
      exact Or.inl hinter.keeps
  | waitingTimeout =>
      exact Or.inl ⟨⟨rfl, rfl, rfl, rfl, rfl, rfl, rfl⟩,
        r.interface.alike_refl.neighbors, rfl, rfl, rfl⟩
  | bystands hby => exact Or.inl hby.interface.keeps

/-- The Hello of a known neighbor that lists the router. -/
theorem step_company_hello {now : ℤ} {n : Neighbor}
    (h : r.interface.Company) (hears : r.Hears m) (hfits : m.HelloFits)
    (hconveys : Conveys packet m.interface.ipInterfaceAddress allSpfRouters
      m.helloPacket)
    (hlisted : r.routerId ∈ m.helloNeighbors)
    (hfind : r.interface.findNeighbor m.interface.ipInterfaceAddress = some n)
    (hstep : r.step (.frame now packet) = .ok r') :
    ∃ taken, Interface.Updates m.interface.ipInterfaceAddress
        ⟨m.interface.ipInterfaceAddress, m.routerId, 1, m.interface.dr,
          m.interface.bdr⟩ r.interface taken ∧
      ((r'.interface = taken ∧ (r.interface.Elected →
          (n.dr = m.interface.ipInterfaceAddress ↔
            m.interface.dr = m.interface.ipInterfaceAddress))) ∨
        Interface.Elects r.routerId taken r'.interface) := by
  rw [step_of_hears hconveys now hears hfits, takeHello,
    decide_eq_true hlisted] at hstep
  obtain ⟨inter, hinter, rfl⟩ := Outcome.map_eq_ok.mp hstep
  exact h.recvHello hfind rfl hinter

end Router
end OspfLite
