import OspfLite.Router.TransitLink
import OspfLite.Router.Outsiders
import OspfLite.Router.Backing

/-!
# The links of the own Router LSA

The Router LSA is originated when an exchange is concluded, and at no other
time.  Which steps leave the links that it should have as they are.
-/

namespace OspfLite
namespace Router

/-- The links that `generate_router_lsa` would produce. -/
def routerLinks (r : Router) : List LSARouterLink :=
  r.interfaces.map fun inter => inter.routerLink r.uninit.tosNum

theorem generateRouterLsa_links (r : Router) :
    r.generateRouterLsa.links = r.routerLinks := rfl

/-- The Router LSA in the database and the links that it should have stay the
same, and no neighbor becomes FULL. -/
structure KeepsLinks (r r' : Router) : Prop where
  routerId : r'.routerId = r.routerId
  own : r'.lsdb.findRouterLsa r.routerId r.routerId =
    r.lsdb.findRouterLsa r.routerId r.routerId
  links : r'.routerLinks = r.routerLinks
  full : ∀ ip ∈ r'.interface.fullNeighbors, ip ∈ r.interface.fullNeighbors

variable {r r' r'' : Router} {ip src : UInt32} {packet data : Memory}
  {n : Neighbor} {dd : OSPFDD} {headers : List LSAHeader}
  {s s' : LsuState}

theorem keepsLinks_refl (r : Router) : r.KeepsLinks r :=
  ⟨rfl, rfl, rfl, fun _ h => h⟩

theorem KeepsLinks.trans (h : r.KeepsLinks r') (h' : r'.KeepsLinks r'') :
    r.KeepsLinks r'' := by
  refine ⟨h'.routerId.trans h.routerId, ?_, h'.links.trans h.links,
    fun ip hip => h.full ip (h'.full ip hip)⟩
  rw [← h.own, ← h.routerId]
  exact h'.own

/-- A change of the interface of the thread. -/
theorem keepsLinks_of_interface {next : Interface}
    (h : r.interface.KeepsLink next) :
    r.KeepsLinks { r with interface := next } := by
  refine ⟨rfl, rfl, ?_, h.full⟩
  simp only [routerLinks, interfaces, List.map_append, List.map_cons, h.link]

theorem keepsLinks_addLog (entry : LogEntry) :
    r.KeepsLinks (r.addLog entry) :=
  ⟨rfl, rfl, rfl, fun _ h => h⟩

theorem keepsLinks_modifyNeighbor {f : Neighbor → Neighbor}
    (hf : ∀ n, r.findNeighbor ip = some n → n.KeepsFull (f n)) :
    r.KeepsLinks (r.modifyNeighbor ip f) :=
  keepsLinks_of_interface (Interface.keepsFull_modifyNeighbor hf).keepsLink

theorem keepsLinks_putNeighbor {m : Neighbor}
    (hfind : r.findNeighbor ip = some n) (hm : n.KeepsFull m)
    (entries : List LogEntry) : r.KeepsLinks (r.putNeighbor ip m entries) := by
  have hput : r.KeepsLinks (r.modifyNeighbor ip fun _ => m) := by
    apply keepsLinks_modifyNeighbor
    intro k hk
    rw [hfind, Option.some.injEq] at hk
    exact hk ▸ hm
  exact ⟨rfl, rfl, hput.links, hput.full⟩

/-- An event that restarts the exchange with a neighbor on which the link does
not hang. -/
theorem keepsLinks_restart (hhangs : ¬r.interface.HangsOn ip)
    (event : NeighborEvent) :
    r.KeepsLinks ((r.modifyNeighbor ip fun n => n.restartExchange.1).addLog
      (.raised ip event)) := by
  refine KeepsLinks.trans (keepsLinks_of_interface ?_) (keepsLinks_addLog _)
  exact (Interface.loses_modifyNeighbor fun n _ =>
    n.restartExchange_recedes).keepsLink hhangs

/-! ## Database Description packets -/

theorem beginDd_keepsFull (inter : Interface) (dd : OSPFDD) (n : Neighbor) :
    n.KeepsFull (n.beginDd inter dd) := by
  have hrecedes := n.beginDd_recedes inter dd
  refine ⟨hrecedes.ip, hrecedes.full, fun hfull => ?_⟩
  obtain ⟨seqNum, hrecord⟩ := n.recordDd_eq dd
  have hinit : ¬(n.recordDd dd).state = .init := by
    rw [hrecord, hfull]
    decide
  rw [Neighbor.beginDd, if_neg hinit, hrecord, hfull]

/-- Only within an exchange does a packet not fit. -/
theorem ddVerdict_mismatch {routerId : UInt32} {lsdb : LSDB} {dup : Bool}
    (h : n.ddVerdict routerId lsdb dup dd = .mismatch) :
    n.state = .exchange := by
  rw [Neighbor.ddVerdict] at h
  cases hstate : n.state with
  | down | attempt | init | twoWay => simp [hstate] at h
  | exStart | loading | full =>
      simp only [hstate] at h
      split_ifs at h
  | exchange => rfl

/-- A packet that is not accepted leaves the links as they are. -/
theorem handleDd_keepsLinks {headers : Option (List LSAHeader)}
    (hnone : r.acceptedDd ip dd = none)
    (h : r.handleDd ip dd headers = .ok r') : r.KeepsLinks r' := by
  cases hfind : r.findNeighbor ip with
  | none =>
      simp only [handleDd, hfind, Except.ok.injEq] at h
      exact h ▸ keepsLinks_refl r
  | some m =>
      have hbegun := beginDd_keepsFull r.interface dd m
      have hip : (m.beginDd r.interface dd).ip = ip :=
        hbegun.ip.trans (findNeighbor_ip hfind)
      rw [acceptedDd, hfind, Option.bind_some] at hnone
      rw [handleDd_eq hfind] at h
      have hput := keepsLinks_putNeighbor hfind hbegun []
      cases hverdict : (m.beginDd r.interface dd).ddVerdict r.routerId r.lsdb
          (decide (m.IsDuplicate dd)) dd with
      | ignore =>
          simp only [hverdict, Except.ok.injEq] at h
          rw [← h, modifyNeighbor_eq_putNeighbor hfind]
          exact hput
      | resend =>
          simp only [hverdict, Except.ok.injEq] at h
          rw [← h, modifyNeighbor_eq_putNeighbor hfind]
          exact hput.trans (keepsLinks_addLog _)
      | mismatch =>
          simp only [hverdict, Except.ok.injEq] at h
          rw [← h, modifyNeighbor_eq_putNeighbor hfind,
            eventSeqNumberMismatch]
          have hexchange := ddVerdict_mismatch hverdict
          refine hput.trans (KeepsLinks.trans
            (keepsLinks_modifyNeighbor fun n hn => ?_) (keepsLinks_addLog _))
          rw [findNeighbor_putNeighbor hfind hip, Option.some.injEq] at hn
          have hrecedes := n.restartExchange_recedes
          refine ⟨hrecedes.ip, iff_of_false (mt hrecedes.full ?_) ?_⟩ <;>
            rw [← hn, hexchange] <;> decide
      | accept n =>
          simp only [hverdict] at hnone
          cases hnone

/-- The reply leaves the links as they are. -/
theorem replyDd_keepsLinks (hfind : r.findNeighbor ip = some n) :
    r.KeepsLinks (r.replyDd ip) := by
  rw [replyDd_eq hfind]
  exact keepsLinks_putNeighbor hfind
    (Neighbor.keepsFull_of_state (Neighbor.reply_ip _ _ _)
      (Neighbor.reply_state _ _ _)) _

/-- Neither the record with which a packet is accepted nor the one after it is
FULL. -/
theorem keepsFull_popped {m popped : Neighbor}
    (hfrom : Neighbor.AcceptedFrom r.lsdb m n)
    (hpopped : (n.takeIn r.lsdb dd headers).popAcknowledged = .ok popped) :
    m.KeepsFull popped := by
  obtain ⟨-, rfl⟩ := Neighbor.popAcknowledged_eq_ok.mp hpopped
  refine ⟨(n.takeIn_ip r.lsdb dd headers).trans hfrom.ip,
    iff_of_false ?_ ?_⟩
  · change (n.takeIn r.lsdb dd headers).state ≠ .full
    by_cases hbad : ∃ h ∈ headers, Neighbor.BadType h
    · rw [(Neighbor.takeIn_of_badType hbad r.lsdb dd hfrom.state).1]
      decide
    · rw [(Neighbor.takeIn_of_goodTypes
        (fun h hmem hb => hbad ⟨h, hmem, hb⟩) r.lsdb dd n).1, hfrom.state]
      decide
  · intro hfull
    rcases hfrom.summary with ⟨hstate, -⟩ | ⟨hlow, -⟩
    · rw [hfull] at hstate
      cases hstate
    · rw [hfull] at hlow
      exact absurd hlow (by decide)

/-! ## Requests and acknowledgments -/

/-- The LSR asks for an LSA that the database does not hold. -/
def RequestsUnknown (r : Router) (packet : Memory) : Prop :=
  ∃ lsr ∈ (bodyEntries OSPFLsr.size OSPFLsr.load packet).getD
      (bufferEntries OSPFLsr.size OSPFLsr.load packet),
    r.lsdb.answer lsr = none

instance (r : Router) (packet : Memory) :
    Decidable (r.RequestsUnknown packet) :=
  inferInstanceAs (Decidable (∃ lsr ∈ Option.getD _ _, _))

theorem recvLsr_keepsLinks
    (hhangs : r.RequestsUnknown packet →
      ¬r.interface.HangsOn (ntohl (packet.load32 12)))
    (h : r.recvLsr packet = .ok r') : r.KeepsLinks r' := by
  rcases recvLsr_cases h with rfl | ⟨_, _, rfl⟩ | ⟨hunknown, rfl⟩
  · exact keepsLinks_refl _
  · exact keepsLinks_addLog _
  · exact keepsLinks_restart (hhangs hunknown) _

/-! ## Link State Updates -/

/-- The LSA has been originated by another router. -/
def OriginatedElsewhere (_src : UInt32) (s : LsuState) (data : Memory) :
    Prop :=
  (lsaHeaderHost data).advertisingRouter ≠ s.router.routerId

instance (src : UInt32) (s : LsuState) (data : Memory) :
    Decidable (OriginatedElsewhere src s data) :=
  inferInstanceAs (Decidable (_ ≠ _))

/-- A bad request does not end an exchange with a neighbor on which the link
hangs. -/
def UpdateKeepsLink (src : UInt32) (s : LsuState) (data : Memory) : Prop :=
  s.router.BadRequest src data → ¬s.router.interface.HangsOn (ntohl src)

instance (src : UInt32) (s : LsuState) (data : Memory) :
    Decidable (UpdateKeepsLink src s data) :=
  inferInstanceAs (Decidable (_ → ¬_))

/-- Installing an LSA of another router leaves the own Router LSA alone. -/
theorem findRouterLsa_install_of_elsewhere {lsdb after : LSDB}
    {mask routerId : UInt32}
    (helsewhere : (lsaHeaderHost data).advertisingRouter ≠ routerId)
    (h : lsdb.install mask data = .ok after) :
    after.findRouterLsa routerId routerId =
      lsdb.findRouterLsa routerId routerId := by
  rw [LSDB.findRouterLsa_install h, if_neg]
  rintro ⟨-, hkey⟩
  exact helsewhere (Prod.mk.inj hkey).2.symm

theorem flood_keepsFull (header : LSAHeader) (src : UInt32) (n : Neighbor) :
    n.KeepsFull (n.flood header src).1 := by
  obtain ⟨_, _, -, -, hflood⟩ := Neighbor.flood_eq header src n
  rw [hflood]
  exact Neighbor.keepsFull_of_state rfl rfl

/-- Flooding leaves the links of an interface as they are. -/
theorem floodingLsa_keepsFull (r : Router) (data : Memory) (src : UInt32)
    (inter : Interface) :
    inter.KeepsFull (r.floodingLsa data src inter).1 := by
  by_cases hexternal : (lsaHeaderHost data).lsType = lsaAsExternal
  · rw [floodingLsa, if_pos hexternal]
    exact inter.keepsFull_refl
  · rw [floodingLsa_fst r src inter hexternal]
    apply Interface.keepsFull_of_forall₂
    rw [List.forall₂_map_right_iff]
    exact List.forall₂_same.mpr fun n _ => flood_keepsFull _ src n

theorem map_routerLink_flooded (r : Router) (data : Memory) (src : UInt32)
    (tosNum : UInt8) (inters : List Interface) :
    ((inters.map (r.floodingLsa data src)).map Prod.fst).map
        (fun inter => inter.routerLink tosNum) =
      inters.map fun inter => inter.routerLink tosNum := by
  rw [List.map_map, List.map_map]
  exact List.map_congr_left fun inter _ =>
    (r.floodingLsa_keepsFull data src inter).keepsLink.link tosNum

theorem acceptLsa_keepsLinks
    (helsewhere : OriginatedElsewhere src s data)
    (hs' : acceptLsa src data s = .ok s') :
    s.router.KeepsLinks s'.router := by
  have hinstall := acceptLsa_lsdb hs'
  obtain ⟨lsdb, -, rfl⟩ := Outcome.map_eq_ok.mp hs'
  have hflooded := s.router.floodingLsa_keepsFull data src
  have hpurged : Interface.KeepsFull
      (s.router.floodArea data src).1.interface
      ((s.router.floodArea data src).1.purge
        (lsaHeaderHost data)).interface := by
    apply Interface.keepsFull_of_forall₂
    rw [List.forall₂_map_right_iff]
    exact List.forall₂_same.mpr fun n _ =>
      Neighbor.keepsFull_of_state rfl rfl
  have hthis := (hflooded s.router.interface).trans hpurged
  refine ⟨rfl, findRouterLsa_install_of_elsewhere helsewhere hinstall, ?_,
    hthis.keepsLink.full⟩
  rw [routerLinks, routerLinks, interfaces, interfaces, List.map_append,
    List.map_append, List.map_cons, List.map_cons,
    ← s.router.map_routerLink_flooded data src _ s.router.interfacesBefore,
    ← s.router.map_routerLink_flooded data src _ s.router.interfacesAfter,
    ← hthis.keepsLink.link]
  rfl

theorem rejectLsa_keepsLinks {same : Bool}
    (helsewhere : OriginatedElsewhere src s data)
    (hhangs : s.router.Requested src (lsaHeaderHost data) →
      ¬s.router.interface.HangsOn (ntohl src))
    (hs' : rejectLsa src data same s = .ok s') :
    s.router.KeepsLinks s'.router := by
  rcases rejectLsa_cases hs' with
    ⟨hrequested, hrouter⟩ | ⟨-, r, lsdb, hr, hrouter, hlsdb⟩
  · rw [hrouter]
    exact keepsLinks_restart (hhangs hrequested) .badLsReq
  · have hkeeps : s.router.KeepsLinks r := by
      rcases hr with rfl | rfl
      · exact keepsLinks_refl _
      · refine keepsLinks_modifyNeighbor fun n _ => ?_
        exact Neighbor.keepsFull_of_state rfl rfl
    have hown : lsdb.findRouterLsa s.router.routerId s.router.routerId =
        s.router.lsdb.findRouterLsa s.router.routerId s.router.routerId := by
      rcases hlsdb with rfl | ⟨-, hinstall⟩
      · rfl
      · exact findRouterLsa_install_of_elsewhere helsewhere hinstall
    rw [hrouter]
    exact ⟨hkeeps.routerId, hown, hkeeps.links, hkeeps.full⟩

theorem lsuRound_keepsLinks (helsewhere : OriginatedElsewhere src s data)
    (hkeeps : UpdateKeepsLink src s data)
    (hs' : lsuRound src s data = .ok s') : s.router.KeepsLinks s'.router := by
  rcases lsuRound_cases hs' with
    rfl | ⟨-, hsum, htype, ⟨-, haccept⟩ | ⟨hnew, same, hreject⟩⟩
  · exact keepsLinks_refl _
  · exact acceptLsa_keepsLinks helsewhere haccept
  · exact rejectLsa_keepsLinks helsewhere
      (fun hrequested => hkeeps ⟨hsum, htype, hnew, hrequested⟩) hreject

/-! ## Conditions on a step -/

/-- A timeout, a Hello and an LSR leave the link of the interface what it
is. -/
def EventKeepsLink (r : Router) : Step → Prop
  | .timers now => Interface.TimersKeepLink r.routerId now r.interface
  | .frame now packet => r.Admits packet →
      (packet 21 = typeHello →
        r.HelloMatches (OSPFHello.load (packet.advance bodyOffset)) →
        ∀ listed, helloLists packet r.routerId = .ok listed →
          r.interface.HelloKeepsLink r.routerId r.uninit now
            (ntohl (packet.load32 12)) (helloFields packet) listed) ∧
      (packet 21 = typeLsr → r.RequestsUnknown packet →
        ¬r.interface.HangsOn (ntohl (packet.load32 12)))
  | _ => True

instance (r : Router) : (step : Step) → Decidable (r.EventKeepsLink step)
  | .timers now => inferInstanceAs
      (Decidable (Interface.TimersKeepLink r.routerId now r.interface))
  | .frame now packet => inferInstanceAs (Decidable (r.Admits packet →
      (_ → _ → ∀ listed, helloLists packet r.routerId = .ok listed →
        Interface.HelloKeepsLink _ _ _ now _ _ listed) ∧
      (_ → _ → ¬r.interface.HangsOn _)))
  | .waitingTimeout => isTrue trivial
  | .emptyDd _ => isTrue trivial
  | .emptyDdSenderEnds _ => isTrue trivial

/-- When an exchange is concluded, the Router LSA in the database, if there is
one, is older than the one that is generated. -/
def ConcludesWithRouterLsa (r : Router) (_ip : UInt32) (dd : OSPFDD)
    (headers : List LSAHeader) (n : Neighbor) : Prop :=
  n.Completes dd headers → r.EmitsRouterLsa

instance (r : Router) (ip : UInt32) (dd : OSPFDD) (headers : List LSAHeader)
    (n : Neighbor) :
    Decidable (r.ConcludesWithRouterLsa ip dd headers n) :=
  inferInstanceAs (Decidable (n.Completes dd headers → _))

/-- The link of the interface changes only when an exchange is concluded, and
then the Router LSA is installed. -/
def LinkChangesOriginate (r : Router) (step : Step) : Prop :=
  r.EventKeepsLink step ∧ r.EachAcceptedDd ConcludesWithRouterLsa step ∧
    r.EachLsuRound UpdateKeepsLink step

instance (r : Router) (step : Step) :
    Decidable (r.LinkChangesOriginate step) :=
  inferInstanceAs (Decidable (_ ∧ _ ∧ _))

/-! ## Steps -/

/-- The own Router LSA has the links that `generate_router_lsa` would produce;
it is in the database as soon as a neighbor is FULL. -/
structure LinksFollow (r : Router) : Prop where
  links : ∀ lsa ∈ r.lsdb.findRouterLsa r.routerId r.routerId,
    lsa.links = r.routerLinks
  originated : r.interface.fullNeighbors ≠ [] →
    r.lsdb.findRouterLsa r.routerId r.routerId ≠ none

theorem LinksFollow.keeps (h : r.LinksFollow) (hkeeps : r.KeepsLinks r') :
    r'.LinksFollow := by
  constructor
  · rw [hkeeps.routerId, hkeeps.own, hkeeps.links]
    exact h.links
  · intro hfull
    rw [hkeeps.routerId, hkeeps.own]
    obtain ⟨ip, hip⟩ := List.exists_mem_of_ne_nil _ hfull
    exact h.originated (List.ne_nil_of_mem (hkeeps.full ip hip))

/-- The own LSAs are pushed on lists, which is no change of a link. -/
theorem Originates.keepsFull (h : r.Originates r') :
    r.interface.KeepsFull r'.interface := by
  obtain ⟨_, _, headers, rfl⟩ := h
  apply Interface.keepsFull_of_forall₂
  rw [List.forall₂_map_right_iff]
  exact List.forall₂_same.mpr fun n _ => Neighbor.keepsFull_of_state
    (n.pushAll_ip headers) (n.pushAll_state headers)

/-- `update_lsas` leaves the links that the LSA should have as they are. -/
theorem updateLsas_routerLinks (r : Router) :
    r.updateLsas.routerLinks = r.routerLinks ∧
      r.updateLsas.routerId = r.routerId ∧
      r.updateOwnNetworkLsa.1.routerLinks = r.routerLinks := by
  have hlinks : ∀ r' : Router, r.Originates r' →
      r'.routerLinks = r.routerLinks := by
    intro r' horig
    have hkeeps := horig.keepsFull.keepsLink.link r.uninit.tosNum
    obtain ⟨_, _, headers, rfl⟩ := horig
    simp only [routerLinks, interfaces, List.map_append, List.map_cons]
    rw [hkeeps]
  obtain ⟨r', entries, horig, heq, -⟩ := r.updateLsas_eq
  refine ⟨?_, ?_, hlinks _ r.updateOwnNetworkLsa_originates⟩
  · rw [heq]
    exact hlinks r' horig
  · obtain ⟨_, _, _, rfl⟩ := horig
    rw [heq]

/-- Where `update_lsas` installs the Router LSA, the LSA has the right
links. -/
theorem updateLsas_linksFollow (h : r.EmitsRouterLsa) :
    r.updateLsas.LinksFollow ∧
      r.updateLsas.lsdb.findRouterLsa r.updateLsas.routerId
        r.updateLsas.routerId ≠ none := by
  obtain ⟨hlinks, hid, hnetwork⟩ := r.updateLsas_routerLinks
  have hfind := findRouterLsa_of_emits h
  have hsome : r.updateLsas.lsdb.findRouterLsa r.updateLsas.routerId
      r.updateLsas.routerId ≠ none := by
    rw [hid, hfind]
    exact Option.some_ne_none _
  refine ⟨⟨?_, fun _ => hsome⟩, hsome⟩
  rw [hid, hfind, hlinks]
  intro lsa hlsa
  rw [← Option.some.inj hlsa, generateRouterLsa_links, hnetwork]

/-- A step after which the links follow as they did before, or for the first
time. -/
structure LinksStep (r r' : Router) : Prop where
  follow : r'.LinksFollow
  routerId : r'.routerId = r.routerId
  persists : r.lsdb.findRouterLsa r.routerId r.routerId ≠ none →
    r'.lsdb.findRouterLsa r.routerId r.routerId ≠ none

theorem LinksFollow.step_of_keeps (h : r.LinksFollow)
    (hkeeps : r.KeepsLinks r') : r.LinksStep r' :=
  ⟨h.keeps hkeeps, hkeeps.routerId, fun hsome => by rwa [hkeeps.own]⟩

/-- Handling an accepted packet. -/
theorem acceptedDd_linksStep {m popped : Neighbor} (h : r.LinksFollow)
    (hfind : r.findNeighbor ip = some m)
    (hfrom : Neighbor.AcceptedFrom r.lsdb m n)
    (hpopped : (n.takeIn r.lsdb dd headers).popAcknowledged = .ok popped)
    (horiginates : r.ConcludesWithRouterLsa ip dd headers n) :
    r.LinksStep (((r.putNeighbor ip popped
      (r.acceptanceLog ip headers n)).concludeDd ip dd popped).replyDd
        ip) := by
  have hip := popped_ip hfind hfrom hpopped
  rw [concludeDd_putNeighbor hfind hip]
  split_ifs with hdone
  · have hemits : r.EmitsRouterLsa := horiginates
      ((Neighbor.completes_iff hfrom.state hpopped).mpr hdone)
    have hfull := findNeighbor_putNeighbor hfind
      (popped.reachFull_ip.trans hip) (r.acceptanceLog ip headers n)
    have hput : (r.putNeighbor ip popped.reachFull
        (r.acceptanceLog ip headers n)).EmitsRouterLsa := hemits
    obtain ⟨hfollow, hsome⟩ := updateLsas_linksFollow hput
    obtain ⟨-, hid, -⟩ := (r.putNeighbor ip popped.reachFull
      (r.acceptanceLog ip headers n)).updateLsas_routerLinks
    have hreply := replyDd_keepsLinks (findNeighbor_updateLsas hfull)
    refine ⟨hfollow.keeps hreply, hreply.routerId.trans hid, fun _ => ?_⟩
    have hown := hreply.own
    rw [hid] at hown hsome
    exact fun hnone => hsome (hown.symm.trans hnone)
  · have hput := keepsLinks_putNeighbor hfind
      (keepsFull_popped hfrom hpopped) (r.acceptanceLog ip headers n)
    exact h.step_of_keeps (hput.trans
      (replyDd_keepsLinks (findNeighbor_putNeighbor hfind hip _)))

/-- An LSU without LSAs of the router itself. -/
theorem recvLsu_keepsLinks
    (helsewhere : r.findNeighbor (ntohl (packet.load32 12)) ≠ none →
      Along (lsuRound (packet.load32 12))
        (OriginatedElsewhere (packet.load32 12)) ⟨r, [], false⟩
        (lsuPointers packet))
    (hkeeps : r.findNeighbor (ntohl (packet.load32 12)) ≠ none →
      Along (lsuRound (packet.load32 12))
        (UpdateKeepsLink (packet.load32 12)) ⟨r, [], false⟩
        (lsuPointers packet))
    (h : r.recvLsu packet = .ok r') : r.KeepsLinks r' := by
  rw [recvLsu_eq] at h
  split_ifs at h with hknown
  obtain ⟨s, hrun, rfl⟩ := Outcome.map_eq_ok.mp h
  have hrounds := runFrom_invariant (I := fun s => r.KeepsLinks s.router)
    (fun s data s' hs hround hs' =>
      KeepsLinks.trans hs (lsuRound_keepsLinks hround.1 hround.2 hs'))
    (keepsLinks_refl r)
    (along_and (helsewhere hknown) (hkeeps hknown)) hrun
  rw [sendLsack]
  split_ifs
  · exact hrounds.trans (keepsLinks_addLog _)
  · exact hrounds

theorem timers_keepsLinks {now : ℤ}
    (hkeeps : r.EventKeepsLink (.timers now))
    (h : r.timers now = .ok r') : r.KeepsLinks r' := by
  obtain ⟨inter, hinter, rfl⟩ := Outcome.map_eq_ok.mp h
  exact keepsLinks_of_interface (Interface.timers_keepsLink hkeeps hinter)

theorem recvHello_keepsLinks {now : ℤ} (hadmits : r.Admits packet)
    (htype : packet 21 = typeHello)
    (hkeeps : r.EventKeepsLink (.frame now packet))
    (h : r.recvHello now packet = .ok r') : r.KeepsLinks r' := by
  by_cases hmatches : r.HelloMatches
      (OSPFHello.load (packet.advance bodyOffset))
  · obtain ⟨listed, hlisted, inter, hinter, rfl⟩ :=
      (recvHello_eq_ok hmatches).mp h
    exact keepsLinks_of_interface (Interface.recvHello_keepsLink
      ((hkeeps hadmits).1 htype hmatches listed hlisted) hinter)
  · rw [recvHello, if_neg hmatches, Except.ok.injEq] at h
    exact h ▸ keepsLinks_refl r

theorem recvDd_linksStep {now : ℤ} (h : r.LinksFollow)
    (hadmits : r.Admits packet) (htype : packet 21 = typeDd)
    (horiginates :
      r.EachAcceptedDd ConcludesWithRouterLsa (.frame now packet))
    (hr' : r.recvDd packet = .ok r') : r.LinksStep r' := by
  rw [recvDd] at hr'
  cases haccepted : r.acceptedDd (ntohl (packet.load32 12))
      (OSPFDD.load (packet.advance bodyOffset)) with
  | none => exact h.step_of_keeps (handleDd_keepsLinks haccepted hr')
  | some n =>
      cases hheaders : ddHeaders packet with
      | none =>
          rw [hheaders, handleDd_of_accepted_none haccepted] at hr'
          cases hr'
      | some headers =>
          rw [hheaders, handleDd_of_accepted haccepted] at hr'
          obtain ⟨popped, hpopped, rfl⟩ := Outcome.map_eq_ok.mp hr'
          obtain ⟨m, hm, hfrom⟩ := acceptedDd_spec haccepted
          exact acceptedDd_linksStep h hm hfrom hpopped
            (horiginates hadmits htype headers hheaders n haccepted)

theorem recvLsAck_keepsLinks (h : r.recvLsAck packet = .ok r') :
    r.KeepsLinks r' := by
  rcases recvLsAck_cases h with rfl | ⟨n, headers, -, -, -, rfl⟩
  · exact keepsLinks_refl _
  · exact keepsLinks_modifyNeighbor fun n _ =>
      Neighbor.keepsFull_of_state rfl rfl

theorem sendEmptyDd_keepsLinks (ip : UInt32) (r : Router) :
    r.KeepsLinks (r.sendEmptyDd ip) := by
  rw [sendEmptyDd]
  cases r.findNeighbor ip with
  | none => exact keepsLinks_refl r
  | some n =>
      simp only
      split_ifs
      · exact keepsLinks_addLog _
      · exact keepsLinks_refl r

/-- The links follow after every step that meets the condition. -/
theorem step_linksStep {step : Step} (h : r.LinksFollow)
    (hcond : r.LinkChangesOriginate step)
    (helsewhere : r.EachLsuRound OriginatedElsewhere step)
    (hr' : r.step step = .ok r') : r.LinksStep r' := by
  obtain ⟨hkeeps, horiginates, hupdates⟩ := hcond
  cases step with
  | timers now => exact h.step_of_keeps (timers_keepsLinks hkeeps hr')
  | waitingTimeout =>
      rw [Router.step, Except.ok.injEq] at hr'
      rw [← hr']
      exact h.step_of_keeps (keepsLinks_of_interface
        (Interface.KeepsFull.keepsLink
          ⟨⟨rfl, rfl, rfl, Iff.rfl⟩, rfl, rfl, fun _ => Iff.rfl⟩))
  | emptyDd ip =>
      rw [Router.step, Except.ok.injEq] at hr'
      exact hr' ▸ h.step_of_keeps (sendEmptyDd_keepsLinks ip r)
  | emptyDdSenderEnds ip =>
      rw [Router.step, Except.ok.injEq] at hr'
      rw [← hr']
      exact h.step_of_keeps (keepsLinks_modifyNeighbor fun n _ =>
        Neighbor.keepsFull_of_state rfl rfl)
  | frame now packet =>
      rw [Router.step, recvOspfPacket] at hr'
      split_ifs at hr' with hadmits hhello hdd hlsr hlsu hlsack
      · exact h.step_of_keeps
          (recvHello_keepsLinks hadmits hhello hkeeps hr')
      · exact recvDd_linksStep h hadmits hdd horiginates hr'
      · exact h.step_of_keeps
          (recvLsr_keepsLinks ((hkeeps hadmits).2 hlsr) hr')
      · exact h.step_of_keeps (recvLsu_keepsLinks
          (helsewhere hadmits hlsu) (hupdates hadmits hlsu) hr')
      · exact h.step_of_keeps (recvLsAck_keepsLinks hr')
      all_goals
        rw [Except.ok.injEq] at hr'
        exact hr' ▸ h.step_of_keeps (keepsLinks_refl r)

/-! ## Runs -/

/-- From the state on in which some neighbor is FULL, the own Router LSA in the
database has the links that `generate_router_lsa` would produce. -/
def FollowsAdjacencies (r : Router) (steps : List Step) : Prop :=
  ∀ js ks t u, js ++ ks <+: steps → runFrom step r js = .ok t →
    (∃ n ∈ t.interface.neighbors, n.state = .full) →
    runFrom step t ks = .ok u →
    ∃ lsa, u.lsdb.findRouterLsa u.routerId u.routerId = some lsa ∧
      lsa.links = u.generateRouterLsa.links

/-- When the process starts there is no own Router LSA, and no neighbor. -/
theorem boot_linksFollow (routerId areaId : UInt32) (uninit : Uninit)
    (loopbacks : List (UInt32 × UInt32)) (address mask : UInt32) :
    (boot routerId areaId uninit loopbacks address mask).LinksFollow := by
  refine ⟨fun lsa hlsa => (by cases hlsa), fun hfull => absurd ?_ hfull⟩
  have hnone := boot_neighbors routerId areaId uninit loopbacks address mask
    _ (List.mem_append_right _ (List.mem_cons_self))
  rw [Interface.fullNeighbors, hnone]
  rfl

/-- In every run of the process in which no LSA of the router itself is
received, and the link of the interface changes only when an exchange is
concluded and the Router LSA is installed, the own Router LSA follows the
adjacencies. -/
theorem followsAdjacencies_of_run (routerId areaId : UInt32)
    (uninit : Uninit) (loopbacks : List (UInt32 × UInt32))
    (address mask : UInt32) (steps : List Step)
    (helsewhere : Along step (EachLsuRound OriginatedElsewhere)
      (boot routerId areaId uninit loopbacks address mask) steps)
    (hcond : Along step LinkChangesOriginate
      (boot routerId areaId uninit loopbacks address mask) steps) :
    FollowsAdjacencies (boot routerId areaId uninit loopbacks address mask)
      steps := by
  intro js ks t u hsteps hjs hfull hks
  obtain ⟨hbefore, hafter⟩ := along_append.mp
    (along_of_beginning (along_and hcond helsewhere) hsteps)
  have hfollow : t.LinksFollow := runFrom_invariant (I := LinksFollow)
    (fun r step r' h hstep hr' =>
      (step_linksStep h hstep.1 hstep.2 hr').follow)
    (boot_linksFollow routerId areaId uninit loopbacks address mask) hbefore
    hjs
  have hsome : t.lsdb.findRouterLsa t.routerId t.routerId ≠ none := by
    obtain ⟨n, hn, hstate⟩ := hfull
    exact hfollow.originated (List.ne_nil_of_mem
      (Interface.mem_fullNeighbors.mpr ⟨n, hn, hstate, rfl⟩))
  have hboth : u.LinksFollow ∧
      u.lsdb.findRouterLsa u.routerId u.routerId ≠ none :=
    runFrom_invariant (I := fun r => r.LinksFollow ∧
        r.lsdb.findRouterLsa r.routerId r.routerId ≠ none)
      (fun r step r' h hstep hr' => by
        have hlinks := step_linksStep h.1 hstep.1 hstep.2 hr'
        refine ⟨hlinks.follow, ?_⟩
        rw [hlinks.routerId]
        exact hlinks.persists h.2)
      ⟨hfollow, hsome⟩ (hafter t hjs) hks
  obtain ⟨lsa, hlsa⟩ := Option.ne_none_iff_exists'.mp hboth.2
  exact ⟨lsa, hlsa, hboth.1.links lsa hlsa⟩

/-- The run in which 1.1.1.1 becomes DR and concludes an exchange. -/
theorem followsAdjacencies_of_run_peerExchange :
    FollowsAdjacencies
      (boot 0x01010101 0 ⟨0, 0, 0, false, false, false⟩ [] 0x0a000001
        0xffffff00)
      ([.waitingTimeout, .timers 0] ++ peerExchange) :=
  followsAdjacencies_of_run _ _ _ _ _ _ _ (by decide +kernel)
    (by decide +kernel)

/-- When nothing more is heard of the peer, its inactivity timer ends the
adjacency; the Router LSA still has its transit link. -/
theorem transit_link_outlives_adjacency :
    Along step (EachLsuRound OriginatedElsewhere)
        (boot 0x01010101 0 ⟨0, 0, 0, false, false, false⟩ [] 0x0a000001
          0xffffff00)
        (([.waitingTimeout, .timers 0] ++ peerExchange) ++ [.timers 100]) ∧
      ¬FollowsAdjacencies
        (boot 0x01010101 0 ⟨0, 0, 0, false, false, false⟩ [] 0x0a000001
          0xffffff00)
        (([.waitingTimeout, .timers 0] ++ peerExchange) ++
          [.timers 100]) := by
  refine ⟨by decide +kernel, fun h => ?_⟩
  have hreached : ∃ t, runFrom step
      (boot 0x01010101 0 ⟨0, 0, 0, false, false, false⟩ [] 0x0a000001
        0xffffff00)
      ([.waitingTimeout, .timers 0] ++ peerExchange) = .ok t ∧
      (∃ n ∈ t.interface.neighbors, n.state = .full) ∧
      (t.step (.timers 100)).completesWith (fun u =>
        ∀ lsa ∈ u.lsdb.findRouterLsa u.routerId u.routerId,
          lsa.links ≠ u.generateRouterLsa.links) = true :=
    Outcome.exists_of_completesWith (by decide +kernel)
  obtain ⟨t, hrun, hfull, hstale⟩ := hreached
  obtain ⟨u, hu, hne⟩ := Outcome.exists_of_completesWith hstale
  obtain ⟨lsa, hlsa, hlinks⟩ := h _ _ t u List.prefix_rfl hrun hfull
    (by rw [runFrom_cons, hu]; rfl)
  exact hne lsa hlsa hlinks

end Router
end OspfLite
