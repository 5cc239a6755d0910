import OspfLite.Router.Bystanders
import OspfLite.Interface.Roles

/-!
# What a router takes from Hellos

A Hello and the timers can change what is known of the neighbors and the roles
that follow from it.  Of a neighbor only what it said is ever known, and a role
goes to the router itself or to one of its neighbors.
-/

namespace OspfLite

theorem Neighbor.eventInactivityTimer_candidate (n : Neighbor) :
    n.eventInactivityTimer.1.candidate = n.candidate := by
  rw [eventInactivityTimer]
  split_ifs
  · exact clearLists_candidate { n with state := .down }
  · exact clearLists_candidate { n with state := .down }

theorem Neighbor.event1wayReceived_candidate (n : Neighbor) :
    n.event1wayReceived.1.candidate = n.candidate := by
  rw [event1wayReceived]
  split_ifs
  · exact clearLists_candidate { n with state := .init }
  · rfl

namespace Interface

/-- What never changes of an interface. -/
structure SameConfig (inter next : Interface) : Prop where
  type : next.type = inter.type
  address : next.ipInterfaceAddress = inter.ipInterfaceAddress
  mask : next.ipInterfaceMask = inter.ipInterfaceMask
  helloInterval : next.helloInterval = inter.helloInterval
  deadInterval : next.routerDeadInterval = inter.routerDeadInterval
  priority : next.routerPriority = inter.routerPriority
  auType : next.auType = inter.auType

variable {inter next next' : Interface} {routerId : UInt32}

theorem sameConfig_refl (inter : Interface) : inter.SameConfig inter :=
  ⟨rfl, rfl, rfl, rfl, rfl, rfl, rfl⟩

theorem SameConfig.trans (h : inter.SameConfig next)
    (h' : next.SameConfig next') : inter.SameConfig next' :=
  ⟨h'.type.trans h.type, h'.address.trans h.address, h'.mask.trans h.mask,
    h'.helloInterval.trans h.helloInterval,
    h'.deadInterval.trans h.deadInterval, h'.priority.trans h.priority,
    h'.auType.trans h.auType⟩

theorem Alike.sameConfig (h : inter.Alike next) : inter.SameConfig next := by
  constructor <;> rw [h.rest]

/-! ## Elections -/

/-- An election has been held: the roles are settled, the state follows them,
and the neighbors are the same to Hellos. -/
structure Elects (routerId : UInt32) (inter next : Interface) : Prop where
  config : inter.SameConfig next
  records : next.neighbors =
    (inter.finishElection (inter.setRoles next.dr next.bdr)).neighbors
  called : inter.callElection routerId =
    .ok (inter.finishElection (inter.setRoles next.dr next.bdr))
  state : next.state =
    if inter.ipInterfaceAddress = next.dr then .dr
    else if inter.ipInterfaceAddress = next.bdr then .backup
    else .drOther

theorem finishElection_spec (inter : Interface) (dr bdr : UInt32) :
    inter.SameConfig (inter.finishElection (inter.setRoles dr bdr)) ∧
      List.Forall₂ Neighbor.Alike inter.neighbors
        (inter.finishElection (inter.setRoles dr bdr)).neighbors ∧
      (inter.finishElection (inter.setRoles dr bdr)).dr = dr ∧
      (inter.finishElection (inter.setRoles dr bdr)).bdr = bdr := by
  rw [finishElection]
  split_ifs
  · refine ⟨⟨rfl, rfl, rfl, rfl, rfl, rfl, rfl⟩, ?_, rfl, rfl⟩
    rw [adjOkAll, List.forall₂_map_right_iff]
    exact List.forall₂_same.mpr fun n _ => n.eventAdjOk_alike _
  · exact ⟨⟨rfl, rfl, rfl, rfl, rfl, rfl, rfl⟩,
      List.forall₂_same.mpr fun n _ => n.alike_refl, rfl, rfl⟩

theorem Elects.neighbors (h : Elects routerId inter next) :
    List.Forall₂ Neighbor.Alike inter.neighbors next.neighbors := by
  rw [h.records]
  exact (finishElection_spec inter next.dr next.bdr).2.1

theorem settleState_eq (inter : Interface) :
    inter.settleState = { inter with
      state :=
        if inter.ipInterfaceAddress = inter.dr then .dr
        else if inter.ipInterfaceAddress = inter.bdr then .backup
        else .drOther } := by
  rw [settleState]
  split_ifs <;> rfl

/-- An event holds an election, or leaves the interface as it is. -/
theorem handle_elects {event : Event} (hevent : event ≠ .interfaceUp)
    (h : inter.handle routerId event = .ok next) :
    (inter.CallsElection event ∧ Elects routerId inter next) ∨
      (¬inter.CallsElection event ∧ next = inter) := by
  by_cases hcalls : inter.CallsElection event
  · left
    rw [handle_of_callsElection hcalls] at h
    obtain ⟨called, hcalled, rfl⟩ := Outcome.map_eq_ok.mp h
    have hresult := hcalled
    obtain ⟨⟨passes, elected⟩, hrun, rfl⟩ := Outcome.map_eq_ok.mp hcalled
    have hloop := electionLoop_runElection inter routerId
    rw [hrun] at hloop
    obtain ⟨dr, bdr, rfl⟩ := electionLoop_frame hloop
    obtain ⟨hconfig, -, hdr, hbdr⟩ := finishElection_spec inter dr bdr
    obtain ⟨timer, timeout, hafter⟩ := settleAfter_eq event
      (inter.finishElection (inter.setRoles dr bdr))
    refine ⟨hcalls, ?_⟩
    rw [hafter, settleState_eq]
    refine ⟨⟨hconfig.type, hconfig.address, hconfig.mask,
      hconfig.helloInterval, hconfig.deadInterval, hconfig.priority,
      hconfig.auType⟩, ?_, ?_, ?_⟩
    · simp only [hdr, hbdr]
    · simp only [hdr, hbdr]
      exact hresult
    · simp only [hconfig.address]
  · rw [handle_of_not_callsElection hevent hcalls, Except.ok.injEq] at h
    exact Or.inr ⟨hcalls, h.symm⟩

/-- The roles are settled in one of the ways an election has. -/
theorem Elects.settles (h : Elects routerId inter next)
    (hfree : inter.AddressFree) (hpri : inter.routerPriority ≠ 0) :
    inter.Settles routerId next.dr next.bdr := by
  obtain ⟨dr, bdr, hsettles⟩ := exists_settles inter routerId
  have hcalled := hsettles.callElection hfree hpri
  rw [h.called, Except.ok.injEq] at hcalled
  obtain ⟨-, -, hdr, hbdr⟩ := finishElection_spec inter dr bdr
  obtain ⟨-, -, hdr', hbdr'⟩ := finishElection_spec inter next.dr next.bdr
  have hsame : next.dr = dr :=
    hdr'.symm.trans ((congrArg Interface.dr hcalled).trans hdr)
  have hsame' : next.bdr = bdr :=
    hbdr'.symm.trans ((congrArg Interface.bdr hcalled).trans hbdr)
  rw [hsame, hsame']
  exact hsettles

theorem exists_neighbor_of_rivalDr {d : Candidate}
    (h : inter.rivalDr = some d) :
    ∃ n ∈ inter.neighbors, n.Eligible ∧ n.candidate = d ∧ d.dr = d.ip := by
  have hmem := List.argmax_mem (Option.mem_def.mpr h)
  rw [List.mem_filter, decide_eq_true_eq] at hmem
  obtain ⟨n, hn, helig, hc⟩ := mem_eligibleNeighbors.mp hmem.1
  exact ⟨n, hn, helig, hc, hmem.2⟩

theorem exists_neighbor_of_rivalBdr {b : Candidate}
    (h : inter.rivalBdr = some b) :
    ∃ n ∈ inter.neighbors, n.Eligible ∧ n.candidate = b ∧ b.dr ≠ b.ip := by
  have hmem := List.argmax_mem (Option.mem_def.mpr h)
  rw [List.mem_filter, decide_eq_true_eq] at hmem
  obtain ⟨n, hn, helig, hc⟩ := mem_eligibleNeighbors.mp hmem.1
  exact ⟨n, hn, helig, hc, hmem.2⟩

/-- The roles go to the router, to its neighbors, or to nobody. -/
theorem Settles.mem {dr bdr : UInt32} {S : Set UInt32}
    (h : inter.Settles routerId dr bdr)
    (hself : inter.ipInterfaceAddress ∈ S) (hzero : 0 ∈ S)
    (hneighbors : ∀ n ∈ inter.neighbors, n.ip ∈ S) : dr ∈ S ∧ bdr ∈ S := by
  have hrivalDr : ∀ d, inter.rivalDr = some d → d.ip ∈ S := by
    intro d hd
    obtain ⟨n, hn, -, rfl, -⟩ := exists_neighbor_of_rivalDr hd
    exact hneighbors n hn
  have hrivalBdr : ∀ b, inter.rivalBdr = some b → b.ip ∈ S := by
    intro b hb
    obtain ⟨n, hn, -, rfl, -⟩ := exists_neighbor_of_rivalBdr hb
    exact hneighbors n hn
  have hrole : roleAddress inter.rivalBdr ∈ S := by
    cases hb : inter.rivalBdr with
    | none => exact hzero
    | some b => exact hrivalBdr b hb
  cases h with
  | keepsDr => exact ⟨hself, hrole⟩
  | losesDr _ hd => exact ⟨hrivalDr _ hd, hrole⟩
  | backup _ hd => exact ⟨hrivalDr _ hd, hself⟩
  | other _ hd hb => exact ⟨hrivalDr _ hd, hrivalBdr _ hb⟩
  | becomesDr => exact ⟨hself, hrole⟩
  | alone _ _ hb => exact ⟨hrivalBdr _ hb, hrivalBdr _ hb⟩

/-! ## What is known of the neighbors -/

/-- Of every neighbor only what `P` allows is known, and the roles are among
the addresses `S`. -/
structure Knows (P : Candidate → Prop) (S : Set UInt32)
    (inter : Interface) : Prop where
  priority : inter.routerPriority ≠ 0
  address : inter.ipInterfaceAddress ∈ S
  neighbors : ∀ n ∈ inter.neighbors, P n.candidate
  dr : inter.dr ∈ S
  bdr : inter.bdr ∈ S

variable {P : Candidate → Prop} {S : Set UInt32}

/-- What is known carries over to records that are the same to Hellos. -/
theorem forall_candidate {l l' : List Neighbor}
    (halike : List.Forall₂ Neighbor.Alike l l')
    (h : ∀ n ∈ l, P n.candidate) : ∀ n ∈ l', P n.candidate :=
  forall_mem_of_forall₂ (fun _ _ hab ha => hab.candidate ▸ ha) halike h

theorem Knows.alike (h : Knows P S inter) (halike : inter.Alike next) :
    Knows P S next := by
  have hconfig := halike.sameConfig
  refine ⟨hconfig.priority ▸ h.priority, hconfig.address ▸ h.address,
    forall_candidate halike.neighbors h.neighbors, ?_, ?_⟩
  · rw [halike.rest]
    exact h.dr
  · rw [halike.rest]
    exact h.bdr

/-- What an interface can know: of other routers with addresses among `S`. -/
structure Sensible (P : Candidate → Prop) (S : Set UInt32)
    (address : UInt32) : Prop where
  zero : 0 ∈ S
  ip : ∀ c, P c → c.ip ∈ S
  ne : ∀ c, P c → c.ip ≠ address

theorem Knows.addressFree (h : Knows P S inter)
    (hsense : Sensible P S inter.ipInterfaceAddress) : inter.AddressFree :=
  fun n hn => hsense.ne _ (h.neighbors n hn)

theorem Knows.elects (h : Knows P S inter)
    (hsense : Sensible P S inter.ipInterfaceAddress)
    (helects : Elects routerId inter next) : Knows P S next := by
  obtain ⟨hdr, hbdr⟩ :=
    (helects.settles (h.addressFree hsense) h.priority).mem h.address
      hsense.zero fun n hn => hsense.ip _ (h.neighbors n hn)
  exact ⟨helects.config.priority ▸ h.priority,
    helects.config.address ▸ h.address,
    forall_candidate helects.neighbors h.neighbors, hdr, hbdr⟩

/-- No event faults. -/
theorem Knows.exists_handle (h : Knows P S inter) (routerId : UInt32)
    (hsense : Sensible P S inter.ipInterfaceAddress) {event : Event}
    (hevent : event ≠ .interfaceUp) :
    ∃ next, inter.handle routerId event = .ok next := by
  by_cases hcalls : inter.CallsElection event
  · obtain ⟨dr, bdr, hsettles⟩ := inter.exists_settles routerId
    rw [handle_of_callsElection hcalls,
      hsettles.callElection (h.addressFree hsense) h.priority]
    exact ⟨_, rfl⟩
  · exact ⟨inter, handle_of_not_callsElection hevent hcalls routerId⟩

/-! ## Hellos -/

/-- The interface when a Hello has been taken in, before an event is raised
for it. -/
def heardHello (inter : Interface) (uninit : Uninit) (now : ℤ) (ip : UInt32)
    (fields : HelloFields) (listed : Bool) : Interface :=
  if listed then
    inter.helloTaken uninit now ip fields
  else
    (inter.ensureNeighbor uninit ip).modifyNeighbor ip fun _ =>
      (((inter.helloNeighbor uninit ip).eventHelloReceived
        now).writeHello fields).event1wayReceived.1

section Heard

variable {uninit : Uninit} {now : ℤ} {ip : UInt32} {fields : HelloFields}
  {listed : Bool}

/-- The Hello branch takes the Hello in and raises an event at most. -/
theorem recvHello_heard
    (h : inter.recvHello routerId uninit now ip fields listed = .ok next) :
    next = inter.heardHello uninit now ip fields listed ∨
      ∃ event, event ≠ .interfaceUp ∧
        (inter.heardHello uninit now ip fields listed).handle routerId event =
          .ok next := by
  rw [heardHello]
  cases listed with
  | true =>
      rw [recvHello_listed] at h
      rw [if_pos rfl]
      cases hraises : inter.helloRaises uninit now ip fields with
      | none =>
          rw [hraises, Except.ok.injEq] at h
          exact Or.inl h.symm
      | some event =>
          rw [hraises] at h
          exact Or.inr ⟨event, helloRaises_ne_interfaceUp hraises, h⟩
  | false =>
      rw [recvHello] at h
      simp only [findNeighbor_ensureNeighbor, Bool.false_eq_true, if_false,
        Except.ok.injEq] at h
      exact Or.inl h.symm

/-- Whether it completes is decided by that event. -/
theorem exists_recvHello (routerId : UInt32)
    (hheard : ∀ event, event ≠ .interfaceUp →
      ∃ next, (inter.heardHello uninit now ip fields listed).handle routerId
        event = .ok next) :
    ∃ next, inter.recvHello routerId uninit now ip fields listed =
      .ok next := by
  rw [heardHello] at hheard
  cases listed with
  | true =>
      rw [recvHello_listed]
      rw [if_pos rfl] at hheard
      cases hraises : inter.helloRaises uninit now ip fields with
      | none => exact ⟨_, rfl⟩
      | some event => exact hheard event (helloRaises_ne_interfaceUp hraises)
  | false =>
      rw [recvHello]
      simp only [findNeighbor_ensureNeighbor, Bool.false_eq_true, if_false]
      exact ⟨_, rfl⟩

/-- A record that has just been added is the one that is found. -/
theorem modifyNeighbor_append_new {f : Neighbor → Neighbor}
    {neighbors : List Neighbor} {n : Neighbor}
    (hnone : neighbors.find? (fun n => decide (n.ip = ip)) = none)
    (hn : n.ip = ip) :
    OspfLite.modifyNeighbor ip f (neighbors ++ [n]) = neighbors ++ [f n] := by
  induction neighbors with
  | nil => simp [OspfLite.modifyNeighbor, hn]
  | cons m rest ih =>
      rw [List.find?_eq_none] at hnone ih
      have hm : ¬m.ip = ip := by simpa using hnone m List.mem_cons_self
      rw [List.cons_append, OspfLite.modifyNeighbor, if_neg hm,
        ih fun k hk => hnone k (List.mem_cons_of_mem m hk), List.cons_append]

/-- A Hello meets the record of its source, which is added when there is
none. -/
theorem mem_ensureNeighbor_modifyNeighbor {after n : Neighbor}
    (h : n ∈ ((inter.ensureNeighbor uninit ip).modifyNeighbor ip
      fun _ => after).neighbors) : n ∈ inter.neighbors ∨ n = after := by
  rw [ensureNeighbor] at h
  split_ifs at h with hnone
  · have hnew : n ∈ inter.neighbors ++ [after] := by
      rw [← modifyNeighbor_append_new (f := fun _ => after) hnone
        (show (Neighbor.new uninit ip).ip = ip from rfl)]
      exact h
    rcases List.mem_append.mp hnew with hold | hnew
    · exact Or.inl hold
    · exact Or.inr (List.mem_singleton.mp hnew)
  · rcases mem_modifyNeighbor h with hold | ⟨_, -, rfl⟩
    · exact Or.inl hold
    · exact Or.inr rfl

/-- The record that a Hello leaves behind. -/
def heardNeighbor (inter : Interface) (uninit : Uninit) (now : ℤ)
    (ip : UInt32) (fields : HelloFields) (listed : Bool) : Neighbor :=
  if listed then
    (inter.helloNeighbor uninit ip).afterHello
      (inter.ensureNeighbor uninit ip) now fields
  else
    (((inter.helloNeighbor uninit ip).eventHelloReceived
      now).writeHello fields).event1wayReceived.1

theorem heardHello_eq (inter : Interface) (uninit : Uninit) (now : ℤ)
    (ip : UInt32) (fields : HelloFields) (listed : Bool) :
    inter.heardHello uninit now ip fields listed =
      (inter.ensureNeighbor uninit ip).modifyNeighbor ip
        fun _ => inter.heardNeighbor uninit now ip fields listed := by
  cases listed <;> rfl

theorem mem_heardHello {n : Neighbor}
    (h : n ∈ (inter.heardHello uninit now ip fields listed).neighbors) :
    n ∈ inter.neighbors ∨
      n = inter.heardNeighbor uninit now ip fields listed := by
  rw [heardHello_eq] at h
  exact mem_ensureNeighbor_modifyNeighbor h

/-- Afterwards the record holds what the Hello says. -/
theorem heardNeighbor_candidate (inter : Interface) (uninit : Uninit)
    (now : ℤ) (ip : UInt32) (fields : HelloFields) (listed : Bool) :
    (inter.heardNeighbor uninit now ip fields listed).candidate =
      ⟨ip, fields.id, fields.pri, fields.dr, fields.bdr⟩ := by
  have hip := inter.helloNeighbor_ip uninit ip
  rw [heardNeighbor]
  split_ifs
  · rw [Neighbor.afterHello_candidate, hip]
  · rw [Neighbor.event1wayReceived_candidate, Neighbor.candidate,
      Neighbor.writeHello]
    simp only [Neighbor.eventHelloReceived_ip, hip]

theorem heardNeighbor_mem (inter : Interface) (uninit : Uninit) (now : ℤ)
    (ip : UInt32) (fields : HelloFields) (listed : Bool) :
    inter.heardNeighbor uninit now ip fields listed ∈
      (inter.heardHello uninit now ip fields listed).neighbors := by
  have hip : (inter.heardNeighbor uninit now ip fields listed).ip = ip :=
    congrArg Candidate.ip (heardNeighbor_candidate _ _ _ _ _ _)
  have hfind : (inter.heardHello uninit now ip fields listed).findNeighbor
      ip = some (inter.heardNeighbor uninit now ip fields listed) := by
    rw [heardHello_eq, findNeighbor_modifyNeighbor fun _ _ => hip,
      findNeighbor_ensureNeighbor]
    rfl
  exact List.mem_of_find?_eq_some hfind

/-- Apart from the records, nothing is changed before the event. -/
theorem heardHello_rest (inter : Interface) (uninit : Uninit) (now : ℤ)
    (ip : UInt32) (fields : HelloFields) (listed : Bool) :
    inter.heardHello uninit now ip fields listed = { inter with
      neighbors :=
        (inter.heardHello uninit now ip fields listed).neighbors } := by
  rw [heardHello_eq, ensureNeighbor]
  split_ifs <;> rfl

end Heard

/-! ## Invariants of interfaces -/

/-- The obligations for an invariant of interfaces, apart from what comes in
by Hellos and Database Description packets. -/
structure Invariant (routerId : UInt32) (I : Interface → Prop) : Prop where
  alike : ∀ inter next, inter.Alike next → I inter → I next
  elects : ∀ inter next, Elects routerId inter next → I inter → I next
  expires : ∀ inter i n, inter.neighbors[i]? = some n → I inter →
    I { inter with
      neighbors := inter.neighbors.set i n.eventInactivityTimer.1 }
  timeout : ∀ inter, I inter → I { inter with waitingTimeout := true }

namespace Invariant

variable {I : Interface → Prop}

theorem handle (h : Invariant routerId I) (hI : I inter) {event : Event}
    (hevent : event ≠ .interfaceUp)
    (hnext : inter.handle routerId event = .ok next) : I next := by
  rcases handle_elects hevent hnext with ⟨-, helects⟩ | ⟨-, rfl⟩
  · exact h.elects _ _ helects hI
  · exact hI

theorem inactivityStep (h : Invariant routerId I) (hI : I inter) {now : ℤ}
    {i : ℕ} (hnext : inter.inactivityStep routerId now i = .ok next) :
    I next := by
  rw [Interface.inactivityStep] at hnext
  cases hn : inter.neighbors[i]? with
  | none =>
      rw [hn, Except.ok.injEq] at hnext
      exact hnext ▸ hI
  | some n =>
      simp only [hn] at hnext
      split_ifs at hnext
      · have hchange : Interface.handle routerId _ .neighborChange =
          .ok next := hnext
        exact h.handle (h.expires inter i n hn hI)
          (show Event.neighborChange ≠ .interfaceUp by decide) hchange
      · exact Except.ok.inj hnext ▸ hI

theorem timers (h : Invariant routerId I) (hI : I inter) {now : ℤ}
    (hnext : (inter.waitingTimer? routerId).bind
      (inactivityTimers routerId now) = .ok next) : I next := by
  obtain ⟨waited, hwaited, hrest⟩ := Outcome.bind_eq_ok.mp hnext
  have hwait : I waited := by
    rw [waitingTimer?] at hwaited
    split_ifs at hwaited
    · exact h.handle hI (show Event.waitTimer ≠ .interfaceUp by decide)
        hwaited
    · exact Except.ok.inj hwaited ▸ hI
  exact runFrom_invariant (P := fun _ _ => True)
    (fun _ _ _ hi _ hs => h.inactivityStep hi hs) hwait
    (along_of_forall (fun _ _ => trivial) _) hrest

end Invariant

/-- What never changes of an interface is an invariant. -/
theorem invariant_sameConfig (routerId : UInt32) (inter : Interface) :
    Invariant routerId inter.SameConfig where
  alike := fun _ _ halike h => h.trans halike.sameConfig
  elects := fun _ _ helects h => h.trans helects.config
  expires := fun _ _ _ _ h => ⟨h.type, h.address, h.mask, h.helloInterval,
    h.deadInterval, h.priority, h.auType⟩
  timeout := fun _ h => ⟨h.type, h.address, h.mask, h.helloInterval,
    h.deadInterval, h.priority, h.auType⟩

/-- What is known is an invariant. -/
theorem invariant_knows {address : UInt32} (routerId : UInt32)
    (hsense : Sensible P S address) :
    Invariant routerId fun inter =>
      Knows P S inter ∧ inter.ipInterfaceAddress = address where
  alike := fun _ _ halike h =>
    ⟨h.1.alike halike, halike.sameConfig.address.trans h.2⟩
  elects := fun _ _ helects h =>
    ⟨h.1.elects (h.2 ▸ hsense) helects, helects.config.address.trans h.2⟩
  expires := by
    intro inter i n hn h
    refine ⟨⟨h.1.priority, h.1.address, fun m hm => ?_, h.1.dr, h.1.bdr⟩, h.2⟩
    rcases List.mem_or_eq_of_mem_set hm with hold | rfl
    · exact h.1.neighbors m hold
    · rw [Neighbor.eventInactivityTimer_candidate]
      exact h.1.neighbors n (List.mem_of_getElem? hn)
  timeout := fun _ h =>
    ⟨⟨h.1.priority, h.1.address, h.1.neighbors, h.1.dr, h.1.bdr⟩, h.2⟩

theorem Knows.heardHello (h : Knows P S inter) (uninit : Uninit) (now : ℤ)
    {ip : UInt32} (fields : HelloFields) (listed : Bool)
    (hsaid : P ⟨ip, fields.id, fields.pri, fields.dr, fields.bdr⟩) :
    Knows P S (inter.heardHello uninit now ip fields listed) := by
  rw [heardHello_rest]
  refine ⟨h.priority, h.address, fun n hn => ?_, h.dr, h.bdr⟩
  rcases mem_heardHello hn with hold | rfl
  · exact h.neighbors n hold
  · rw [heardNeighbor_candidate]
    exact hsaid

end Interface

/-! ## The router -/

namespace Router

variable {r r' r'' : Router} {packet : Memory}

/-- What the step takes in by a Hello or a Database Description packet keeps
the property of interfaces. -/
def TakesIn (I : Interface → Prop) (r : Router) : Step → Prop
  | .frame now packet => r.Admits packet →
      (packet 21 = typeHello → ∀ listed,
        helloLists packet r.routerId = .ok listed →
          I (r.interface.heardHello r.uninit now (ntohl (packet.load32 12))
            (helloFields packet) listed)) ∧
      (packet 21 = typeDd →
        I (r.interface.modifyNeighbor (ntohl (packet.load32 12))
          (Neighbor.event2wayReceived r.interface)))
  | _ => True

/-- An invariant of interfaces is kept by every step. -/
theorem step_keeps {I : Interface → Prop} {step : Step}
    (hinv : Interface.Invariant r.routerId I) (hI : I r.interface)
    (htakes : TakesIn I r step) (hstep : r.step step = .ok r') :
    I r'.interface := by
  cases step_effect hstep with
  | timers hr' =>
      obtain ⟨inter, hinter, rfl⟩ := Outcome.map_eq_ok.mp hr'
      exact hinv.timers hI hinter
  | hello hadmits htype hr' =>
      rw [recvHello] at hr'
      split_ifs at hr'
      · obtain ⟨listed, hlisted, hhello⟩ := Outcome.bind_eq_ok.mp hr'
        obtain ⟨inter, hinter, rfl⟩ := Outcome.map_eq_ok.mp hhello
        have htaken := (htakes hadmits).1 htype listed hlisted
        rcases Interface.recvHello_heard hinter with
          rfl | ⟨event, hevent, hhandle⟩
        · exact htaken
        · exact hinv.handle htaken hevent hhandle
      · exact Except.ok.inj hr' ▸ hI
  | dd hadmits htype hby =>
      exact hinv.alike _ _ hby.interface ((htakes hadmits).2 htype)
  | waitingTimeout => exact hinv.timeout _ hI
  | bystands hby => exact hinv.alike _ _ hby.interface hI

/-- The state and the roles of the interface change by elections only. -/
theorem step_roles {P : InterfaceState → UInt32 → UInt32 → Prop} {step : Step}
    (hP : ∀ state dr bdr,
      state = .dr ∨ state = .backup ∨ state = .drOther → P state dr bdr)
    (h : P r.interface.state r.interface.dr r.interface.bdr)
    (hstep : r.step step = .ok r') :
    P r'.interface.state r'.interface.dr r'.interface.bdr := by
  have hinv : Interface.Invariant r.routerId
      fun inter => P inter.state inter.dr inter.bdr := by
    refine ⟨fun inter next halike h => ?_, fun inter next helects _ => ?_,
      fun _ _ _ _ h => h, fun _ h => h⟩
    · rw [halike.rest]
      exact h
    · apply hP
      rw [helects.state]
      split_ifs
      · exact Or.inl rfl
      · exact Or.inr (Or.inl rfl)
      · exact Or.inr (Or.inr rfl)
  refine step_keeps hinv h ?_ hstep
  cases step with
  | frame now packet =>
      intro _
      refine ⟨fun _ listed _ => ?_, fun _ => h⟩
      rw [Interface.heardHello_rest]
      exact h
  | _ => trivial

/-- What never changes of a router. -/
structure SameRouter (r r' : Router) : Prop where
  routerId : r'.routerId = r.routerId
  areaId : r'.areaId = r.areaId
  ospfOptions : r'.ospfOptions = r.ospfOptions
  uninit : r'.uninit = r.uninit
  interface : r.interface.SameConfig r'.interface
  auTypes : r'.auTypes = r.auTypes

theorem sameRouter_refl (r : Router) : r.SameRouter r :=
  ⟨rfl, rfl, rfl, rfl, r.interface.sameConfig_refl, rfl⟩

theorem SameRouter.trans (h : r.SameRouter r') (h' : r'.SameRouter r'') :
    r.SameRouter r'' :=
  ⟨h'.routerId.trans h.routerId, h'.areaId.trans h.areaId,
    h'.ospfOptions.trans h.ospfOptions, h'.uninit.trans h.uninit,
    h.interface.trans h'.interface, h'.auTypes.trans h.auTypes⟩

theorem Bystands.sameRouter (h : r.Bystands r') : r.SameRouter r' :=
  ⟨h.routerId, h.areaId, h.ospfOptions, h.uninit, h.interface.sameConfig,
    h.auTypes⟩

/-- An interface with the same configuration in place of the receiving one. -/
theorem sameRouter_of_interface {inter : Interface}
    (h : r.interface.SameConfig inter) :
    r.SameRouter { r with interface := inter } := by
  refine ⟨rfl, rfl, rfl, rfl, h, ?_⟩
  rw [auTypes, auTypes, h.auType]

theorem step_sameRouter {step : Step} (hstep : r.step step = .ok r') :
    r.SameRouter r' := by
  have hconfig : r.interface.SameConfig r'.interface := by
    refine step_keeps (r.interface.invariant_sameConfig r.routerId)
      r.interface.sameConfig_refl ?_ hstep
    cases step with
    | frame now packet =>
        intro _
        refine ⟨fun _ listed _ => ?_, fun _ => ?_⟩
        · rw [Interface.heardHello_rest]
          exact ⟨rfl, rfl, rfl, rfl, rfl, rfl, rfl⟩
        · exact ⟨rfl, rfl, rfl, rfl, rfl, rfl, rfl⟩
    | _ => trivial
  cases step_effect hstep with
  | timers hr' =>
      obtain ⟨inter, -, rfl⟩ := Outcome.map_eq_ok.mp hr'
      exact sameRouter_of_interface hconfig
  | hello _ _ hr' =>
      rw [recvHello] at hr'
      split_ifs at hr'
      · obtain ⟨listed, -, hhello⟩ := Outcome.bind_eq_ok.mp hr'
        obtain ⟨inter, -, rfl⟩ := Outcome.map_eq_ok.mp hhello
        exact sameRouter_of_interface hconfig
      · exact Except.ok.inj hr' ▸ sameRouter_refl r
  | dd _ _ hby =>
      exact ⟨hby.routerId, hby.areaId, hby.ospfOptions, hby.uninit, hconfig,
        hby.auTypes⟩
  | waitingTimeout => exact ⟨rfl, rfl, rfl, rfl, hconfig, rfl⟩
  | bystands hby => exact hby.sameRouter

/-- What a step sends. -/
theorem step_sends {step : Step} (hstep : r.step step = .ok r') :
    ∃ entries, r'.log = r.log ++ entries ∧
      ∀ dst bytes, .sent dst bytes ∈ entries → r.MaySend dst bytes := by
  have hnothing : ∀ inter : Interface, ∃ entries,
      { r with interface := inter }.log = r.log ++ entries ∧
        ∀ dst bytes, .sent dst bytes ∈ entries → r.MaySend dst bytes :=
    fun _ => ⟨[], by simp, by simp⟩
  cases step_effect hstep with
  | timers hr' =>
      obtain ⟨inter, -, rfl⟩ := Outcome.map_eq_ok.mp hr'
      exact hnothing inter
  | hello _ _ hr' =>
      rw [recvHello] at hr'
      split_ifs at hr'
      · obtain ⟨listed, -, hhello⟩ := Outcome.bind_eq_ok.mp hr'
        obtain ⟨inter, -, rfl⟩ := Outcome.map_eq_ok.mp hhello
        exact hnothing inter
      · exact Except.ok.inj hr' ▸ (bystands_refl r).log
  | @dd _ packet _ _ _ hby =>
      obtain ⟨entries, hlog, hsent⟩ := hby.log
      refine ⟨entries, hlog, fun dst bytes hmem =>
        (hsent dst bytes hmem).of_eq rfl rfl rfl ?_⟩
      have hsame : (r.interface.modifyNeighbor (ntohl (packet.load32 12))
          (Neighbor.event2wayReceived r.interface)).neighbors.map
            Neighbor.ip = r.addresses :=
        map_ip_modifyNeighbor fun n hn => (congrArg Candidate.ip
          (n.event2wayReceived_candidate r.interface)).trans hn
      exact hsame ▸ List.Subset.refl _
  | waitingTimeout => exact hnothing _
  | bystands hby => exact hby.log

/-- What the Hello in a frame says of its sender. -/
def saidIn (packet : Memory) : Candidate where
  ip := ntohl (packet.load32 12)
  id := (helloFields packet).id
  pri := (helloFields packet).pri
  dr := (helloFields packet).dr
  bdr := (helloFields packet).bdr

/-- The step takes in no Hello that says anything but what `P` allows. -/
def SaysOnly (P : Candidate → Prop) (r : Router) : Step → Prop
  | .frame _ packet =>
      r.Admits packet → packet 21 = typeHello → P (saidIn packet)
  | _ => True

variable {P : Candidate → Prop} {S : Set UInt32}

/-- A step keeps what is known sensible, as long as Hellos are. -/
theorem step_knows {step : Step} (h : r.interface.Knows P S)
    (hsense : Interface.Sensible P S r.interface.ipInterfaceAddress)
    (hspoken : SaysOnly P r step) (hstep : r.step step = .ok r') :
    r'.interface.Knows P S := by
  refine (step_keeps (Interface.invariant_knows r.routerId hsense)
    ⟨h, rfl⟩ ?_ hstep).1
  cases step with
  | frame now packet =>
      intro hadmits
      refine ⟨fun htype listed _ =>
          ⟨h.heardHello _ _ _ _ (hspoken hadmits htype), ?_⟩,
        fun _ => ⟨⟨h.priority, h.address, fun n hn => ?_, h.dr, h.bdr⟩, rfl⟩⟩
      · rw [Interface.heardHello_rest]
      · rcases mem_modifyNeighbor hn with hold | ⟨k, hk, rfl⟩
        · exact h.neighbors n hold
        · rw [Neighbor.event2wayReceived_candidate]
          exact h.neighbors k hk
  | _ => trivial

end Router
end OspfLite
