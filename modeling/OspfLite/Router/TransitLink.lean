import OspfLite.Router.StaleElection
import OspfLite.Router.Receding
import OspfLite.Router.Originate

/-!
# The link of an interface

The Router LSA describes an interface by a transit link as soon as a FULL
neighbor is DR or the router is DR itself, and by a stub link otherwise.  Which
events leave the link what it is, in terms of the addresses of the FULL
neighbors.
-/

namespace OspfLite
namespace Interface

variable {inter next next' : Interface} {routerId ip : UInt32}

/-- The addresses of the FULL neighbors. -/
def fullNeighbors (inter : Interface) : List UInt32 :=
  (inter.neighbors.filter fun n => decide (n.state = .full)).map Neighbor.ip

theorem mem_fullNeighbors :
    ip ∈ inter.fullNeighbors ↔
      ∃ n ∈ inter.neighbors, n.state = .full ∧ n.ip = ip := by
  simp [fullNeighbors, and_assoc]

/-- The link is a transit link. -/
def Transit (inter : Interface) : Prop :=
  inter.state ≠ .loopback ∧ inter.state ≠ .waiting ∧
    ∃ ip ∈ inter.fullNeighbors, inter.state = .dr ∨ ip = inter.dr

instance (inter : Interface) : Decidable inter.Transit :=
  inferInstanceAs (Decidable (_ ∧ _ ∧ ∃ ip ∈ inter.fullNeighbors, _ ∨ _))

/-- The link is a transit link thanks to the neighbor at `ip` alone. -/
def HangsOn (inter : Interface) (ip : UInt32) : Prop :=
  inter.Transit ∧
    ∀ a ∈ inter.fullNeighbors, inter.state = .dr ∨ a = inter.dr → a = ip

instance (inter : Interface) (ip : UInt32) :
    Decidable (inter.HangsOn ip) :=
  have : Decidable (∀ a ∈ inter.fullNeighbors,
      inter.state = .dr ∨ a = inter.dr → a = ip) := List.decidableBAll _ _
  inferInstanceAs (Decidable (_ ∧ _))

/-- The link is a transit link when `dr` has been elected. -/
def TransitUnder (inter : Interface) (dr : UInt32) : Prop :=
  ∃ ip ∈ inter.fullNeighbors, inter.ipInterfaceAddress = dr ∨ ip = dr

instance (inter : Interface) (dr : UInt32) :
    Decidable (inter.TransitUnder dr) :=
  inferInstanceAs (Decidable (∃ ip ∈ inter.fullNeighbors, _ ∨ _))

/-- The DR an election on the interface would come to. -/
def electedDr (inter : Interface) (routerId : UInt32) : Option UInt32 :=
  match inter.runElection routerId with
  | .ok r => some r.2.dr
  | .error _ => none

instance (inter : Interface) :
    (event : Event) → Decidable (inter.CallsElection event)
  | .interfaceUp => inferInstanceAs (Decidable False)
  | .waitTimer => inferInstanceAs (Decidable (_ = _))
  | .backupSeen => inferInstanceAs (Decidable (_ = _))
  | .neighborChange => inferInstanceAs (Decidable (_ ∨ _ ∨ _))

/-- The election that the event calls, if it calls one, leaves the link what
it is: a transit link through the same DR, or a stub link. -/
def ElectionKeepsLink (inter : Interface) (routerId : UInt32)
    (event : Event) : Prop :=
  inter.CallsElection event → ∀ dr ∈ inter.electedDr routerId,
    (inter.TransitUnder dr ↔ inter.Transit) ∧
      (inter.Transit → dr = inter.dr)

instance (inter : Interface) (routerId : UInt32) (event : Event) :
    Decidable (inter.ElectionKeepsLink routerId event) :=
  have : Decidable (∀ dr ∈ inter.electedDr routerId,
      (inter.TransitUnder dr ↔ inter.Transit) ∧
        (inter.Transit → dr = inter.dr)) := Option.decidableForallMem _
  inferInstanceAs (Decidable (_ → _))

/-! ## Links that stay the same -/

/-- The Router LSA describes both interfaces alike, and no neighbor has become
FULL. -/
structure KeepsLink (inter next : Interface) : Prop where
  link : ∀ tosNum, next.routerLink tosNum = inter.routerLink tosNum
  full : ∀ ip ∈ next.fullNeighbors, ip ∈ inter.fullNeighbors

theorem keepsLink_refl (inter : Interface) : inter.KeepsLink inter :=
  ⟨fun _ => rfl, fun _ h => h⟩

theorem KeepsLink.trans (h : inter.KeepsLink next)
    (h' : next.KeepsLink next') : inter.KeepsLink next' :=
  ⟨fun tosNum => (h'.link tosNum).trans (h.link tosNum),
    fun ip hip => h.full ip (h'.full ip hip)⟩

/-- What never changes while the process runs. -/
structure SameSegment (inter next : Interface) : Prop where
  address : next.ipInterfaceAddress = inter.ipInterfaceAddress
  mask : next.ipInterfaceMask = inter.ipInterfaceMask
  cost : next.cost = inter.cost
  loopback : next.state = .loopback ↔ inter.state = .loopback

/-- The test of `generate_router_lsa`. -/
theorem transit_iff (hloopback : inter.state ≠ .loopback) :
    inter.Transit ↔
      inter.state ≠ .waiting ∧ ∃ n ∈ inter.neighbors,
        n.state = .full ∧ (inter.state = .dr ∨ n.ip = inter.dr) := by
  simp only [Transit, hloopback, ne_eq, not_false_eq_true, true_and]
  apply and_congr_right
  intro _
  constructor
  · rintro ⟨ip, hip, hcounts⟩
    obtain ⟨n, hn, hfull, rfl⟩ := mem_fullNeighbors.mp hip
    exact ⟨n, hn, hfull, hcounts⟩
  · rintro ⟨n, hn, hfull, hcounts⟩
    exact ⟨n.ip, mem_fullNeighbors.mpr ⟨n, hn, hfull, rfl⟩, hcounts⟩

/-- The link depends on the kind of link and the DR. -/
theorem routerLink_congr (hsegment : inter.SameSegment next)
    (htransit : next.Transit ↔ inter.Transit)
    (hdr : inter.Transit → next.dr = inter.dr) (tosNum : UInt8) :
    next.routerLink tosNum = inter.routerLink tosNum := by
  by_cases hloopback : inter.state = .loopback
  · rw [routerLink, routerLink, if_pos hloopback,
      if_pos (hsegment.loopback.mpr hloopback), hsegment.address]
  · have hloopback' : next.state ≠ .loopback :=
      fun h => hloopback (hsegment.loopback.mp h)
    rw [routerLink, routerLink, if_neg hloopback, if_neg hloopback']
    by_cases hinter : inter.Transit
    · rw [if_pos ((transit_iff hloopback').mp (htransit.mpr hinter)),
        if_pos ((transit_iff hloopback).mp hinter), hdr hinter,
        hsegment.address, hsegment.cost]
    · rw [if_neg fun h => hinter (htransit.mp ((transit_iff hloopback').mpr
          h)), if_neg fun h => hinter ((transit_iff hloopback).mpr h),
        hsegment.address, hsegment.mask, hsegment.cost]

/-- A change of the neighbors alone, after which the neighbor at `ip` may not
be FULL any more. -/
structure Loses (ip : UInt32) (inter next : Interface) : Prop where
  segment : inter.SameSegment next
  state : next.state = inter.state
  dr : next.dr = inter.dr
  full : ∀ a ∈ next.fullNeighbors, a ∈ inter.fullNeighbors
  others : ∀ a ∈ inter.fullNeighbors, a = ip ∨ a ∈ next.fullNeighbors

/-- A link that does not hang on the neighbor stays a transit link without
it. -/
theorem Loses.transit_iff (h : Loses ip inter next)
    (hhangs : ¬inter.HangsOn ip) : next.Transit ↔ inter.Transit := by
  constructor
  · rintro ⟨hloopback, hwaiting, a, ha, hcounts⟩
    rw [h.state] at hloopback hwaiting hcounts
    rw [h.dr] at hcounts
    exact ⟨hloopback, hwaiting, a, h.full a ha, hcounts⟩
  · intro htransit
    obtain ⟨hloopback, hwaiting, -⟩ := id htransit
    have hother : ¬∀ a ∈ inter.fullNeighbors,
        inter.state = .dr ∨ a = inter.dr → a = ip :=
      fun hall => hhangs ⟨htransit, hall⟩
    push Not at hother
    obtain ⟨a, ha, hcounts, hne⟩ := hother
    refine ⟨by rwa [h.state], by rwa [h.state], a,
      (h.others a ha).resolve_left hne, ?_⟩
    rwa [h.state, h.dr]

theorem Loses.keepsLink (h : Loses ip inter next)
    (hhangs : ¬inter.HangsOn ip) : inter.KeepsLink next :=
  ⟨routerLink_congr h.segment (h.transit_iff hhangs) fun _ => h.dr, h.full⟩

/-- A change of the neighbors alone, with the same ones FULL. -/
structure KeepsFull (inter next : Interface) : Prop where
  segment : inter.SameSegment next
  state : next.state = inter.state
  dr : next.dr = inter.dr
  full : ∀ a, a ∈ next.fullNeighbors ↔ a ∈ inter.fullNeighbors

theorem KeepsFull.transit_iff (h : inter.KeepsFull next) :
    next.Transit ↔ inter.Transit := by
  simp only [Transit, h.state, h.dr, h.full]

theorem KeepsFull.keepsLink (h : inter.KeepsFull next) :
    inter.KeepsLink next :=
  ⟨routerLink_congr h.segment h.transit_iff fun _ => h.dr,
    fun a ha => (h.full a).mp ha⟩

theorem KeepsFull.hangsOn_iff (h : inter.KeepsFull next) :
    next.HangsOn ip ↔ inter.HangsOn ip := by
  simp only [HangsOn, h.transit_iff, h.state, h.dr, h.full]

theorem sameSegment_refl (inter : Interface) : inter.SameSegment inter :=
  ⟨rfl, rfl, rfl, Iff.rfl⟩

theorem keepsFull_refl (inter : Interface) : inter.KeepsFull inter :=
  ⟨inter.sameSegment_refl, rfl, rfl, fun _ => Iff.rfl⟩

theorem SameSegment.trans (h : inter.SameSegment next)
    (h' : next.SameSegment next') : inter.SameSegment next' :=
  ⟨h'.address.trans h.address, h'.mask.trans h.mask, h'.cost.trans h.cost,
    h'.loopback.trans h.loopback⟩

theorem KeepsFull.trans (h : inter.KeepsFull next)
    (h' : next.KeepsFull next') : inter.KeepsFull next' :=
  ⟨h.segment.trans h'.segment, h'.state.trans h.state, h'.dr.trans h.dr,
    fun a => (h'.full a).trans (h.full a)⟩

end Interface

/-! ## Neighbors -/

namespace Neighbor

/-- The neighbor is FULL if it was. -/
structure KeepsFull (n m : Neighbor) : Prop where
  ip : m.ip = n.ip
  full : m.state = .full ↔ n.state = .full

/-- The neighbor is not FULL if it was not, and may cease to be FULL if it is
the one at the address. -/
structure Loses (address : UInt32) (n m : Neighbor) : Prop where
  ip : m.ip = n.ip
  full : m.state = .full → n.state = .full
  others : n.state = .full → n.ip = address ∨ m.state = .full

variable {n m : Neighbor} {ip : UInt32}

theorem keepsFull_refl (n : Neighbor) : n.KeepsFull n := ⟨rfl, Iff.rfl⟩

theorem loses_refl (ip : UInt32) (n : Neighbor) : n.Loses ip n :=
  ⟨rfl, fun h => h, Or.inr⟩

/-- Outside an exchange no neighbor becomes FULL. -/
theorem Recedes.full (h : n.Recedes m) (hm : m.state = .full) :
    n.state = .full := by
  rcases h.exchange with hkeep | hfall
  · exact hkeep.state.symm.trans hm
  · have hlow := hfall.state
    rw [hm] at hlow
    exact absurd hlow (by decide)

theorem Recedes.loses (h : n.Recedes m) : n.Loses n.ip m :=
  ⟨h.ip, h.full, fun _ => Or.inl rfl⟩

/-- A neighbor that keeps its state. -/
theorem keepsFull_of_state (hip : m.ip = n.ip) (hstate : m.state = n.state) :
    n.KeepsFull m :=
  ⟨hip, by rw [hstate]⟩

end Neighbor

namespace Interface

variable {inter next : Interface} {routerId ip : UInt32} {uninit : Uninit}
  {now : ℤ} {fields : HelloFields}

/-- Neighbors that all stay FULL if they are. -/
theorem keepsFull_of_forall₂ {neighbors : List Neighbor}
    (h : List.Forall₂ Neighbor.KeepsFull inter.neighbors neighbors) :
    inter.KeepsFull { inter with neighbors := neighbors } := by
  refine ⟨⟨rfl, rfl, rfl, Iff.rfl⟩, rfl, rfl, fun a => ?_⟩
  simp only [mem_fullNeighbors]
  constructor
  · rintro ⟨m, hm, hfull, rfl⟩
    obtain ⟨n, hn, hsame⟩ := exists_mem_of_forall₂ h.flip hm
    exact ⟨n, hn, hsame.full.mp hfull, hsame.ip.symm⟩
  · rintro ⟨n, hn, hfull, rfl⟩
    obtain ⟨m, hm, hsame⟩ := exists_mem_of_forall₂ h hn
    exact ⟨m, hm, hsame.full.mpr hfull, hsame.ip⟩

/-- Neighbors that all stay FULL if they are, but for the one at `ip`. -/
theorem loses_of_forall₂ {neighbors : List Neighbor}
    (h : List.Forall₂ (Neighbor.Loses ip) inter.neighbors neighbors) :
    Loses ip inter { inter with neighbors := neighbors } := by
  refine ⟨⟨rfl, rfl, rfl, Iff.rfl⟩, rfl, rfl, fun a => ?_, fun a => ?_⟩
  · simp only [mem_fullNeighbors]
    rintro ⟨m, hm, hfull, rfl⟩
    obtain ⟨n, hn, hloses⟩ := exists_mem_of_forall₂ h.flip hm
    exact ⟨n, hn, hloses.full hfull, hloses.ip.symm⟩
  · simp only [mem_fullNeighbors]
    rintro ⟨n, hn, hfull, rfl⟩
    obtain ⟨m, hm, hloses⟩ := exists_mem_of_forall₂ h hn
    exact (hloses.others hfull).imp_right fun hfull' =>
      ⟨m, hm, hfull', hloses.ip⟩

/-- A change of the record found that leaves it FULL if it is. -/
theorem keepsFull_modifyNeighbor {f : Neighbor → Neighbor}
    (hf : ∀ n, inter.findNeighbor ip = some n → n.KeepsFull (f n)) :
    inter.KeepsFull (inter.modifyNeighbor ip f) :=
  keepsFull_of_forall₂ (forall₂_modifyNeighbor Neighbor.keepsFull_refl hf)

/-- A change of the record found outside an exchange. -/
theorem loses_modifyNeighbor {f : Neighbor → Neighbor}
    (hf : ∀ n, inter.findNeighbor ip = some n → n.Recedes (f n)) :
    Loses ip inter (inter.modifyNeighbor ip f) := by
  refine loses_of_forall₂ (forall₂_modifyNeighbor (Neighbor.loses_refl ip)
    fun n hn => ?_)
  have hloses := (hf n hn).loses
  have hip : n.ip = ip := findNeighbor_ip hn
  rwa [hip] at hloses

/-! ## Elections -/

/-- Behind an election the neighbors that count under the elected DR are FULL
if they were before. -/
theorem finishElection_full (inter : Interface) (dr bdr : UInt32) :
    (∀ a ∈ (inter.finishElection (inter.setRoles dr bdr)).fullNeighbors,
        a ∈ inter.fullNeighbors) ∧
      ∀ a ∈ inter.fullNeighbors, inter.ipInterfaceAddress = dr ∨ a = dr →
        a ∈ (inter.finishElection (inter.setRoles dr bdr)).fullNeighbors := by
  rw [finishElection]
  split_ifs
  · constructor
    · intro a ha
      obtain ⟨m, hm, hfull, rfl⟩ := mem_fullNeighbors.mp ha
      obtain ⟨n, hn, rfl⟩ := List.mem_map.mp hm
      rw [Neighbor.eventAdjOk_ip]
      exact mem_fullNeighbors.mpr
        ⟨n, hn, (n.eventAdjOk_recedes _).full hfull, rfl⟩
    · intro a ha hcounts
      obtain ⟨n, hn, hfull, rfl⟩ := mem_fullNeighbors.mp ha
      refine mem_fullNeighbors.mpr
        ⟨_, List.mem_map_of_mem hn, ?_, Neighbor.eventAdjOk_ip _ n⟩
      have hadjacent : Adjacent { inter.setRoles dr bdr with
          electionSaw := some inter.neighbors } n.ip := by
        rcases hcounts with hself | hnbr
        · exact Or.inr (Or.inr (Or.inr (Or.inl hself.symm)))
        · exact Or.inr (Or.inr (Or.inr (Or.inr (Or.inr (Or.inl hnbr.symm)))))
      have hlow : ¬n.state < .twoWay := by
        rw [hfull]
        decide
      rw [Neighbor.eventAdjOk_state, if_neg hlow, if_pos hadjacent, hfull]
      rfl
  · exact ⟨fun a ha => ha, fun a ha _ => ha⟩

/-- What `call_election` leaves alone, and the DR it sets. -/
theorem finishElection_frame (inter : Interface) (dr bdr : UInt32) :
    inter.SameSegment (inter.finishElection (inter.setRoles dr bdr)) ∧
      (inter.finishElection (inter.setRoles dr bdr)).dr = dr := by
  rw [finishElection]
  split_ifs <;> exact ⟨⟨rfl, rfl, rfl, Iff.rfl⟩, rfl⟩

/-- The state follows the address of the DR. -/
theorem settleState_spec (inter : Interface) :
    inter.settleState.state ≠ .loopback ∧
      inter.settleState.state ≠ .waiting ∧
      (inter.settleState.state = .dr ↔
        inter.ipInterfaceAddress = inter.dr) ∧
      ∃ state, inter.settleState = { inter with state := state } := by
  rw [settleState]
  split_ifs with hdr hbdr
  · exact ⟨by simp, by simp, by simp [hdr], _, rfl⟩
  · exact ⟨by simp, by simp, by simp [hdr], _, rfl⟩
  · exact ⟨by simp, by simp, by simp [hdr], _, rfl⟩

/-- An election has made the router at `dr` DR, and the state has followed. -/
structure SettledUnder (dr : UInt32) (inter next : Interface) : Prop where
  segment : inter.SameSegment next
  loopback : next.state ≠ .loopback
  waiting : next.state ≠ .waiting
  dr_eq : next.dr = dr
  state : next.state = .dr ↔ inter.ipInterfaceAddress = dr
  full : ∀ a ∈ next.fullNeighbors, a ∈ inter.fullNeighbors
  counted : ∀ a ∈ inter.fullNeighbors, inter.ipInterfaceAddress = dr ∨
    a = dr → a ∈ next.fullNeighbors

theorem SettledUnder.transit_iff {dr : UInt32}
    (h : SettledUnder dr inter next) :
    next.Transit ↔ inter.TransitUnder dr := by
  constructor
  · rintro ⟨-, -, a, ha, hcounts⟩
    rw [h.state, h.dr_eq] at hcounts
    exact ⟨a, h.full a ha, hcounts⟩
  · rintro ⟨a, ha, hcounts⟩
    refine ⟨h.loopback, h.waiting, a, h.counted a ha hcounts, ?_⟩
    rwa [h.state, h.dr_eq]

theorem SettledUnder.keepsLink {dr : UInt32}
    (h : SettledUnder dr inter next)
    (hunder : inter.TransitUnder dr ↔ inter.Transit)
    (hsame : inter.Transit → dr = inter.dr) : inter.KeepsLink next :=
  ⟨routerLink_congr h.segment (h.transit_iff.trans hunder)
    fun htransit => h.dr_eq.trans (hsame htransit), h.full⟩

/-- The end of an election that was called. -/
theorem settledUnder_settleAfter (hstarted : inter.state ≠ .loopback)
    (event : Event) (dr bdr : UInt32) :
    SettledUnder dr inter
      ((inter.finishElection (inter.setRoles dr bdr)).settleAfter event) := by
  obtain ⟨hdown, hup⟩ := inter.finishElection_full dr bdr
  obtain ⟨hsegment, hdr⟩ := inter.finishElection_frame dr bdr
  generalize inter.finishElection (inter.setRoles dr bdr) = finished at *
  obtain ⟨hloopback, hwaiting, hstate, state, hsettled⟩ :=
    finished.settleState_spec
  obtain ⟨timer, timeout, hafter⟩ := settleAfter_eq event finished
  rw [hdr, hsegment.address] at hstate
  rw [hafter]
  refine ⟨hsegment.trans ⟨?_, ?_, ?_, ?_⟩, hloopback, hwaiting, ?_, hstate,
    ?_, ?_⟩
  · rw [hsettled]
  · rw [hsettled]
  · rw [hsettled]
  · exact iff_of_false hloopback fun h => hstarted (hsegment.loopback.mp h)
  · rw [hsettled]
    exact hdr
  · rw [hsettled]
    exact hdown
  · rw [hsettled]
    exact hup

/-- No election is called on a loopback interface. -/
theorem ne_loopback_of_callsElection {event : Event}
    (hevent : event ≠ .interfaceUp) (hcalls : inter.CallsElection event) :
    inter.state ≠ .loopback := by
  cases event with
  | interfaceUp => exact absurd rfl hevent
  | waitTimer | backupSeen =>
      have hwait : inter.state = .waiting := hcalls
      rw [hwait]
      decide
  | neighborChange =>
      rcases hcalls with h | h | h <;> rw [h] <;> decide

/-- An election under whose result the link is what it was. -/
theorem handle_keepsLink {event : Event} (hevent : event ≠ .interfaceUp)
    (hkeeps : inter.ElectionKeepsLink routerId event)
    (h : inter.handle routerId event = .ok next) : inter.KeepsLink next := by
  by_cases hcalls : inter.CallsElection event
  · rw [handle_of_callsElection hcalls] at h
    obtain ⟨called, hcalled, rfl⟩ := Outcome.map_eq_ok.mp h
    obtain ⟨⟨passes, elected⟩, hrun, rfl⟩ := Outcome.map_eq_ok.mp hcalled
    have hloop := electionLoop_runElection inter routerId
    rw [hrun] at hloop
    obtain ⟨dr, bdr, rfl⟩ := electionLoop_frame hloop
    have helected : dr ∈ inter.electedDr routerId := by
      rw [electedDr, hrun]
      exact rfl
    obtain ⟨hunder, hsame⟩ := hkeeps hcalls dr helected
    have hstarted := ne_loopback_of_callsElection hevent hcalls
    exact (settledUnder_settleAfter hstarted event dr bdr).keepsLink hunder
      hsame
  · rw [handle_of_not_callsElection hevent hcalls, Except.ok.injEq] at h
    exact h ▸ inter.keepsLink_refl

/-! ## Hellos -/

/-- A new neighbor is in DOWN. -/
theorem ensureNeighbor_keepsFull (inter : Interface) (uninit : Uninit)
    (ip : UInt32) : inter.KeepsFull (inter.ensureNeighbor uninit ip) := by
  rw [ensureNeighbor]
  split_ifs
  · refine ⟨⟨rfl, rfl, rfl, Iff.rfl⟩, rfl, rfl, fun a => ?_⟩
    simp [fullNeighbors, addNeighbor, Neighbor.new]
  · exact inter.keepsFull_refl

/-- Taking in a Hello that lists the router makes no neighbor FULL. -/
theorem afterHello_keepsFull (next : Interface) (now : ℤ)
    (fields : HelloFields) (n : Neighbor) :
    n.KeepsFull (n.afterHello next now fields) := by
  have hrecedes : n.Recedes (n.afterHello next now fields) :=
    ((n.eventHelloReceived_recedes now).trans
      (Neighbor.writeHello_recedes fields _)).trans
        (Neighbor.event2wayReceived_recedes next _)
  refine ⟨hrecedes.ip, hrecedes.full, fun hfull => ?_⟩
  rw [(n.afterHello_state next now fields).2 (by rw [hfull]; decide), hfull]

theorem helloTaken_keepsFull (inter : Interface) (uninit : Uninit) (now : ℤ)
    (ip : UInt32) (fields : HelloFields) :
    inter.KeepsFull (inter.helloTaken uninit now ip fields) := by
  refine (inter.ensureNeighbor_keepsFull uninit ip).trans
    (keepsFull_modifyNeighbor fun n hn => ?_)
  rw [findNeighbor_ensureNeighbor, Option.some.injEq] at hn
  rw [← hn]
  exact afterHello_keepsFull _ now fields _

/-- A Hello leaves the link what it is: one that lists the router, if the
election that follows does; one that does not, if the link does not hang on the
neighbor that has sent it. -/
def HelloKeepsLink (inter : Interface) (routerId : UInt32) (uninit : Uninit)
    (now : ℤ) (ip : UInt32) (fields : HelloFields) (listed : Bool) : Prop :=
  if listed then
    ∀ event ∈ inter.helloRaises uninit now ip fields,
      (inter.helloTaken uninit now ip fields).ElectionKeepsLink routerId event
  else
    ¬inter.HangsOn ip

instance (inter : Interface) (routerId : UInt32) (uninit : Uninit) (now : ℤ)
    (ip : UInt32) (fields : HelloFields) (listed : Bool) :
    Decidable
      (inter.HelloKeepsLink routerId uninit now ip fields listed) :=
  inferInstanceAs (Decidable
    (ite _ (∀ event ∈ inter.helloRaises uninit now ip fields, _) _))

theorem recvHello_keepsLink {listed : Bool}
    (hkeeps : inter.HelloKeepsLink routerId uninit now ip fields listed)
    (h : inter.recvHello routerId uninit now ip fields listed = .ok next) :
    inter.KeepsLink next := by
  cases listed with
  | true =>
      rw [HelloKeepsLink, if_pos rfl] at hkeeps
      have htaken :=
        (inter.helloTaken_keepsFull uninit now ip fields).keepsLink
      rw [recvHello_listed] at h
      cases hraises : inter.helloRaises uninit now ip fields with
      | none =>
          rw [hraises, Except.ok.injEq] at h
          exact h ▸ htaken
      | some event =>
          rw [hraises] at h
          exact htaken.trans (handle_keepsLink
            (helloRaises_ne_interfaceUp hraises) (hkeeps event hraises) h)
  | false =>
      rw [HelloKeepsLink, if_neg Bool.false_ne_true] at hkeeps
      have hensured := inter.ensureNeighbor_keepsFull uninit ip
      rw [Interface.recvHello] at h
      simp only [findNeighbor_ensureNeighbor, Bool.false_eq_true, if_false,
        Except.ok.injEq] at h
      rw [← h]
      refine hensured.keepsLink.trans (Loses.keepsLink ?_
        (mt hensured.hangsOn_iff.mp hkeeps))
      refine loses_modifyNeighbor fun n hn => ?_
      rw [findNeighbor_ensureNeighbor, Option.some.injEq] at hn
      rw [← hn]
      exact (((inter.helloNeighbor uninit ip).eventHelloReceived_recedes
        now).trans (Neighbor.writeHello_recedes fields _)).trans
          (Neighbor.event1wayReceived_recedes _)

/-! ## Timers -/

/-- A round of the inactivity loop leaves the link what it is: the link does
not hang on a neighbor that is overdue, nor does the election that follows
change it. -/
def TimeoutKeepsLink (routerId : UInt32) (now : ℤ) (inter : Interface)
    (i : ℕ) : Prop :=
  ∀ n ∈ inter.neighbors[i]?, n.state ≠ .down →
    n.lastRecvHelloTime + inter.routerDeadInterval.toNat < now →
      ¬inter.HangsOn n.ip ∧
        { inter with
          neighbors := inter.neighbors.set i
            n.eventInactivityTimer.1 }.ElectionKeepsLink routerId
          .neighborChange

instance (routerId : UInt32) (now : ℤ) (inter : Interface) (i : ℕ) :
    Decidable (TimeoutKeepsLink routerId now inter i) :=
  inferInstanceAs (Decidable (∀ n ∈ inter.neighbors[i]?, _ → _ → _ ∧ _))

theorem inactivityStep_keepsLink {i : ℕ}
    (hkeeps : TimeoutKeepsLink routerId now inter i)
    (h : inter.inactivityStep routerId now i = .ok next) :
    inter.KeepsLink next := by
  rw [inactivityStep] at h
  cases hn : inter.neighbors[i]? with
  | none =>
      rw [hn, Except.ok.injEq] at h
      exact h ▸ inter.keepsLink_refl
  | some n =>
      simp only [hn] at h
      split_ifs at h with hoverdue
      · obtain ⟨hhangs, helection⟩ := hkeeps n hn hoverdue.1 hoverdue.2
        have hloses : Loses n.ip inter { inter with
            neighbors := inter.neighbors.set i n.eventInactivityTimer.1 } :=
          loses_of_forall₂ (forall₂_set (Neighbor.loses_refl n.ip) hn
            n.eventInactivityTimer_recedes.loses)
        have hchange : Interface.handle routerId _ .neighborChange =
            .ok next := h
        exact (hloses.keepsLink hhangs).trans (handle_keepsLink
          (show Event.neighborChange ≠ .interfaceUp by decide) helection
          hchange)
      · exact Except.ok.inj h ▸ inter.keepsLink_refl

/-- The timers leave the link what it is. -/
def TimersKeepLink (routerId : UInt32) (now : ℤ) (inter : Interface) :
    Prop :=
  (inter.waitingTimeout = true →
      inter.ElectionKeepsLink routerId .waitTimer) ∧
    ∀ waited, inter.waitingTimer? routerId = .ok waited →
      Along (inactivityStep routerId now) (TimeoutKeepsLink routerId now)
        waited (List.range waited.neighbors.length)

instance (routerId : UInt32) (now : ℤ) (inter : Interface) :
    Decidable (TimersKeepLink routerId now inter) :=
  inferInstanceAs (Decidable ((_ → _) ∧
    ∀ waited, inter.waitingTimer? routerId = .ok waited → Along _ _ _ _))

theorem timers_keepsLink (hkeeps : TimersKeepLink routerId now inter)
    (h : (inter.waitingTimer? routerId).bind
      (inactivityTimers routerId now) = .ok next) :
    inter.KeepsLink next := by
  obtain ⟨waited, hwaited, hrest⟩ := Outcome.bind_eq_ok.mp h
  have hwait : inter.KeepsLink waited := by
    rw [waitingTimer?] at hwaited
    split_ifs at hwaited with htimeout
    · have hhandle : inter.handle routerId .waitTimer = .ok waited := hwaited
      exact handle_keepsLink (show Event.waitTimer ≠ .interfaceUp by decide)
        (hkeeps.1 htimeout.2) hhandle
    · exact Except.ok.inj hwaited ▸ inter.keepsLink_refl
  exact runFrom_invariant (I := fun i => inter.KeepsLink i)
    (fun _ _ _ hi hround hs =>
      KeepsLink.trans hi (inactivityStep_keepsLink hround hs))
    hwait (hkeeps.2 waited hwaited) hrest

end Interface
end OspfLite
