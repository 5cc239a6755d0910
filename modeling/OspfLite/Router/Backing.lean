import OspfLite.Router.Moves
import OspfLite.Router.Instances
import OspfLite.Router.Retransmission

/-!
# Retransmissions and the database

The retransmission thread looks every header of its list up in the database
and uses what it finds without a test.  An entry without a database copy comes
from a DR that replaces its own Network LSA.
-/

namespace OspfLite
namespace LSDB

/-- The search of the retransmission thread finds the LSA. -/
def Holds (lsdb : LSDB) (header : LSAHeader) : Prop :=
  (header.lsType = lsaRouter →
      lsdb.findRouterLsa header.linkStateId header.advertisingRouter ≠ none) ∧
    (header.lsType = lsaNetwork →
      lsdb.findNetworkLsa header.linkStateId header.advertisingRouter ≠ none)

instance (lsdb : LSDB) (header : LSAHeader) : Decidable (lsdb.Holds header) :=
  inferInstanceAs (Decidable ((_ → _) ∧ (_ → _)))

variable {lsdb after : LSDB} {mask : UInt32} {data : Memory}
  {header : LSAHeader}

/-- The search depends on what is found only. -/
theorem Holds.mono (h : lsdb.Holds header)
    (hrouter : ∀ id adv, lsdb.findRouterLsa id adv ≠ none →
      after.findRouterLsa id adv ≠ none)
    (hnetwork : ∀ id adv, lsdb.findNetworkLsa id adv ≠ none →
      after.findNetworkLsa id adv ≠ none) : after.Holds header :=
  ⟨fun htype => hrouter _ _ (h.1 htype),
    fun htype => hnetwork _ _ (h.2 htype)⟩

/-- Installing an LSA keeps what the database holds. -/
theorem Holds.install (h : lsdb.Holds header)
    (hinstall : lsdb.install mask data = .ok after) : after.Holds header := by
  apply h.mono
  · intro id adv hold
    rw [findRouterLsa_install hinstall]
    split_ifs
    · exact Option.some_ne_none _
    · exact hold
  · intro id adv hold
    rw [findNetworkLsa_install hinstall]
    split_ifs with hkey
    · rw [install_of_network hkey.1, Outcome.ofOption_eq_ok] at hinstall
      obtain ⟨lsa, hlsa, -⟩ := Option.map_eq_some_iff.mp hinstall
      rw [hlsa]
      exact Option.some_ne_none _
    · exact hold

/-- The database holds the LSA that has just been installed. -/
theorem holds_of_install (hinstall : lsdb.install mask data = .ok after) :
    after.Holds (lsaHeaderHost data) := by
  constructor
  · intro htype
    rw [findRouterLsa_install hinstall, if_pos ⟨htype, rfl⟩]
    exact Option.some_ne_none _
  · intro htype
    rw [findNetworkLsa_install hinstall, if_pos ⟨htype, rfl⟩]
    rw [install_of_network htype, Outcome.ofOption_eq_ok] at hinstall
    obtain ⟨lsa, hlsa, -⟩ := Option.map_eq_some_iff.mp hinstall
    rw [hlsa]
    exact Option.some_ne_none _

end LSDB

namespace Neighbor

/-- The database holds every LSA on the retransmission list. -/
def Backed (lsdb : LSDB) (n : Neighbor) : Prop :=
  ∀ header ∈ n.linkStateRetransmissionList, lsdb.Holds header

instance (lsdb : LSDB) (n : Neighbor) : Decidable (n.Backed lsdb) :=
  inferInstanceAs (Decidable (∀ header ∈ n.linkStateRetransmissionList, _))

variable {n n' : Neighbor} {lsdb : LSDB} {header : LSAHeader}

theorem Backed.of_subset (h : n.Backed lsdb)
    (hsub : n'.linkStateRetransmissionList ⊆
      n.linkStateRetransmissionList) : n'.Backed lsdb :=
  fun header hheader => h header (hsub hheader)

theorem Backed.of_lists_eq (h : n.Backed lsdb) (hlists : n'.lists = n.lists) :
    n'.Backed lsdb := by
  apply h.of_subset
  have hsame : n'.linkStateRetransmissionList =
      n.linkStateRetransmissionList := congrArg Prod.fst hlists
  rw [hsame]
  exact List.Subset.refl _

theorem Backed.recedes (hn : n.Recedes n') (h : n.Backed lsdb) :
    n'.Backed lsdb := by
  rcases hn.exchange with hkeep | hfall
  · exact h.of_lists_eq hkeep.lists
  · rcases hfall.lists with hempty | ⟨-, hsame⟩
    · have hnil : n'.linkStateRetransmissionList = [] :=
        congrArg Prod.fst hempty
      apply h.of_subset
      rw [hnil]
      exact List.nil_subset _
    · exact h.of_lists_eq hsame

/-- Flooding appends the LSA that is flooded. -/
theorem Backed.flood (src : UInt32) (h : n.Backed lsdb)
    (hheader : lsdb.Holds header) : (n.flood header src).1.Backed lsdb := by
  obtain ⟨added, requests, hadded, -, hflood⟩ := flood_eq header src n
  intro entry hentry
  rw [hflood] at hentry
  rcases List.mem_append.mp hentry with hold | hnew
  · exact h entry hold
  · rw [List.mem_singleton.mp (hadded hnew)]
    exact hheader

theorem Backed.pushAll {headers : List LSAHeader} (h : n.Backed lsdb)
    (hheaders : ∀ header ∈ headers, lsdb.Holds header) :
    (n.pushAll headers).Backed lsdb := by
  intro entry hentry
  rw [Neighbor.pushAll] at hentry
  split_ifs at hentry
  · rcases List.mem_append.mp hentry with hold | hnew
    · exact h entry hold
    · exact hheaders entry hnew
  · exact h entry hentry

end Neighbor

namespace Router

/-- Every header on a retransmission list has its LSA in the database. -/
def RetransmissionsBacked (r : Router) : Prop :=
  r.AllNeighbors (Neighbor.Backed r.lsdb)

instance (r : Router) : Decidable r.RetransmissionsBacked :=
  inferInstanceAs (Decidable (r.AllNeighbors _))

variable {r r' : Router} {ip : UInt32} {n popped : Neighbor} {dd : OSPFDD}
  {headers : List LSAHeader} {src : UInt32} {data : Memory} {s s' : LsuState}

/-! ## Link State Updates -/

/-- An accepted LSA is installed after it has been flooded. -/
theorem acceptLsa_backed (h : s.router.RetransmissionsBacked)
    (hs' : acceptLsa src data s = .ok s') :
    s'.router.RetransmissionsBacked := by
  have hinstall := acceptLsa_lsdb hs'
  have hbefore : s.router.AllNeighbors (Neighbor.Backed s'.router.lsdb) :=
    fun inter hinter n hn header hheader =>
      (h inter hinter n hn header hheader).install hinstall
  refine hbefore.acceptLsa ?_ ?_ hs'
  · exact fun n hn => hn.flood src (LSDB.holds_of_install hinstall)
  · exact fun n hn => hn.of_subset List.filter_sublist.subset

/-- A rejected LSA takes nothing out of the database. -/
theorem rejectLsa_backed {same : Bool} (h : s.router.RetransmissionsBacked)
    (hs' : rejectLsa src data same s = .ok s') :
    s'.router.RetransmissionsBacked := by
  have hlsdb : ∀ header, s.router.lsdb.Holds header →
      s'.router.lsdb.Holds header := by
    intro header hheader
    rcases rejectLsa_lsdb hs' with hsame | hinstall
    · rw [hsame]
      exact hheader
    · exact hheader.install hinstall
  have hbefore : s.router.AllNeighbors (Neighbor.Backed s'.router.lsdb) :=
    fun inter hinter n hn header hheader =>
      hlsdb header (h inter hinter n hn header hheader)
  refine hbefore.rejectLsa ?_ ?_ hs'
  · exact fun n hn => hn.recedes n.restartExchange_recedes
  · exact fun n hn => hn.of_subset List.filter_sublist.subset

theorem lsuRound_backed (h : s.router.RetransmissionsBacked)
    (hs' : lsuRound src s data = .ok s') :
    s'.router.RetransmissionsBacked := by
  rcases lsuRound_cases hs' with
    rfl | ⟨-, -, -, ⟨-, haccept⟩ | ⟨-, same, hreject⟩⟩
  · exact h
  · exact acceptLsa_backed h haccept
  · exact rejectLsa_backed h hreject

/-! ## Origination -/

/-- `update_lsas` replaces the Network LSA of the router, which leaves none in
the database. -/
def ReplacesNetworkLsa (r : Router) : Prop :=
  r.interface.state = .dr ∧
    ∃ old ∈ r.lsdb.findNetworkLsa r.interface.ipInterfaceAddress r.routerId,
      old.header.Outdated r.lsSequenceCnt

instance (r : Router) : Decidable r.ReplacesNetworkLsa :=
  inferInstanceAs (Decidable (_ ∧ ∃ old ∈ r.lsdb.findNetworkLsa _ _, _))

/-- A Network LSA that goes into the LSU replaces one, or there is none. -/
theorem findNetworkLsa_of_not_replaces (h : ¬r.ReplacesNetworkLsa)
    (hemits : r.EmitsNetworkLsa) :
    r.lsdb.findNetworkLsa r.interface.ipInterfaceAddress r.routerId =
      none := by
  cases hfind : r.lsdb.findNetworkLsa r.interface.ipInterfaceAddress
      r.routerId with
  | none => rfl
  | some old =>
      exact absurd ⟨hemits.1, old, hfind, hemits.2 old hfind⟩ h

/-- Without a replacement `update_lsas` keeps what the database holds. -/
theorem holds_updateLsas (h : ¬r.ReplacesNetworkLsa) {header : LSAHeader}
    (hheader : r.lsdb.Holds header) : r.updateLsas.lsdb.Holds header := by
  apply hheader.mono
  · intro id adv hold
    rw [findRouterLsa_updateLsas]
    split_ifs
    · exact Option.some_ne_none _
    · exact hold
  · intro id adv hold
    rw [findNetworkLsa_updateLsas]
    by_cases hkey : r.EmitsNetworkLsa ∧
        (id, adv) = (r.interface.ipInterfaceAddress, r.routerId)
    · obtain ⟨rfl, rfl⟩ := Prod.mk.inj hkey.2
      exact absurd (findNetworkLsa_of_not_replaces h hkey.1) hold
    · rw [if_neg hkey]
      exact hold

/-- Without a replacement the database holds the LSAs of the LSU. -/
theorem holds_emittedHeaders (h : ¬r.ReplacesNetworkLsa) :
    ∀ header ∈ r.emittedHeaders, r.updateLsas.lsdb.Holds header := by
  intro header hheader
  rcases List.mem_append.mp hheader with hnetwork | hrouter
  · split_ifs at hnetwork with hemits
    · rw [List.mem_singleton.mp hnetwork]
      refine ⟨fun htype => absurd htype ?_, fun _ => ?_⟩
      · exact show ¬lsaNetwork = lsaRouter by decide
      · have hnone := findNetworkLsa_of_not_replaces h hemits
        have hfind := findNetworkLsa_of_emits hemits
        rw [if_pos hnone] at hfind
        exact fun hlost => Option.some_ne_none _ (hfind.symm.trans hlost)
    · cases hnetwork
  · split_ifs at hrouter with hemits
    · rw [List.mem_singleton.mp hrouter]
      refine ⟨fun _ => ?_, fun htype => absurd htype ?_⟩
      · have hfind := findRouterLsa_of_emits hemits
        rw [← r.updateOwnNetworkLsa_fst.1] at hfind
        exact fun hlost => Option.some_ne_none _ (hfind.symm.trans hlost)
      · exact show ¬lsaRouter = lsaNetwork by decide
    · cases hrouter

/-- Without a replacement `update_lsas` keeps the lists backed. -/
theorem updateLsas_backed (h : r.RetransmissionsBacked)
    (hkeeps : ¬r.ReplacesNetworkLsa) :
    r.updateLsas.RetransmissionsBacked := by
  have hbefore : r.AllNeighbors (Neighbor.Backed r.updateLsas.lsdb) :=
    fun inter hinter n hn header hheader =>
      holds_updateLsas hkeeps (h inter hinter n hn header hheader)
  exact hbefore.updateLsas fun n hn =>
    hn.pushAll (holds_emittedHeaders hkeeps)

/-- Replacing the Network LSA leaves its header on the list of a FULL neighbor
without a database copy. -/
theorem not_backed_updateLsas (hfull : n.state = .full)
    (hreplaces : r.ReplacesNetworkLsa) :
    ¬(n.pushAll r.emittedHeaders).Backed r.updateLsas.lsdb := by
  obtain ⟨hdr, old, hold, houtdated⟩ := hreplaces
  have hemits : r.EmitsNetworkLsa := by
    refine ⟨hdr, fun other hother => ?_⟩
    have hsame : some old = some other := hold.symm.trans hother
    rw [← Option.some.inj hsame]
    exact houtdated
  have hpushed : r.generateNetworkLsa.header ∈
      (n.pushAll r.emittedHeaders).linkStateRetransmissionList := by
    rw [Neighbor.pushAll, if_pos hfull, emittedHeaders, if_pos hemits]
    exact List.mem_append_right _ (List.mem_append_left _
      (List.mem_singleton_self _))
  have hlost := findNetworkLsa_of_emits hemits
  rw [if_neg (by rw [Option.mem_def.mp hold]; exact Option.some_ne_none _)]
    at hlost
  intro hbacked
  exact (hbacked _ hpushed).2 rfl hlost

/-! ## Runs -/

/-- A packet that concludes the exchange does not find the router about to
replace its Network LSA. -/
def ConcludesWithoutReplacing (r : Router) (_ip : UInt32) (dd : OSPFDD)
    (headers : List LSAHeader) (n : Neighbor) : Prop :=
  n.Completes dd headers → ¬r.ReplacesNetworkLsa

theorem RetransmissionsBacked.replyDd (h : r.RetransmissionsBacked) :
    (r.replyDd ip).RetransmissionsBacked := by
  rw [RetransmissionsBacked, replyDd_lsdb]
  exact AllNeighbors.replyDd h
    (fun n hn => hn.of_lists_eq n.numberReply_lists) fun data n hn => hn

theorem RetransmissionsBacked.putNeighbor (h : r.RetransmissionsBacked)
    (hn : n.Backed r.lsdb) (entries : List LogEntry) :
    (r.putNeighbor ip n entries).RetransmissionsBacked :=
  AllNeighbors.putNeighbor h hn entries

/-- A step that replaces no Network LSA keeps the lists backed. -/
theorem step_backed {step : Step} (h : r.RetransmissionsBacked)
    (hstep : r.EachAcceptedDd ConcludesWithoutReplacing step)
    (hr' : r.step step = .ok r') : r'.RetransmissionsBacked := by
  cases step_moves hr' with
  | recedes hrecedes =>
      have hlsdb : r'.lsdb = r.lsdb := by
        obtain ⟨-, entries, -, heq⟩ := hrecedes
        rw [heq]
      rw [RetransmissionsBacked, hlsdb]
      exact AllNeighbors.recedes h hrecedes
        (fun ip header hheader => absurd hheader List.not_mem_nil)
        fun n n' hn hbacked => hbacked.recedes hn
  | describes hadmits htype hheaders haccepted hpopped =>
      obtain ⟨m, hm, hfrom⟩ := acceptedDd_spec haccepted
      have hcond := hstep hadmits htype _ hheaders _ haccepted
      have hbacked : Neighbor.Backed r.lsdb _ :=
        (AllNeighbors.find h hm).of_subset
          (popped_retransmissions_subset hfrom hpopped)
      rw [concludeDd_putNeighbor hm (popped_ip hm hfrom hpopped)]
      split_ifs with hdone
      · have hconcludes :=
          (Neighbor.completes_iff hfrom.state hpopped).mpr hdone
        refine RetransmissionsBacked.replyDd (updateLsas_backed ?_ ?_)
        · exact h.putNeighbor
            (hbacked.of_lists_eq (Neighbor.reachFull_lists _)) _
        · exact hcond hconcludes
      · exact (h.putNeighbor hbacked _).replyDd
  | updates hadmits htype hknown hrun =>
      have hafter := runFrom_invariant
        (I := fun s => s.router.RetransmissionsBacked)
        (P := fun _ _ => True)
        (fun s data s' hs _ hs' => lsuRound_backed hs hs') h
        (along_of_forall (fun _ _ => trivial) _) hrun
      rw [sendLsack]
      split_ifs
      · exact hafter
      · exact hafter
  | acknowledges hadmits htype hfind hstate hheaders =>
      exact AllNeighbors.modifyNeighbor h fun n hn =>
        hn.of_subset (foldl_ackStep_sublist _ _).subset

/-- A step that keeps the lists backed replaces no Network LSA. -/
theorem concludesWithoutReplacing_of_step {step : Step}
    (h : ∀ r', r.step step = .ok r' → r'.RetransmissionsBacked) :
    r.EachAcceptedDd ConcludesWithoutReplacing step := by
  cases step with
  | frame now packet =>
      intro hadmits htype headers hheaders n haccepted hcompletes hreplaces
      obtain ⟨m, hm, -⟩ := acceptedDd_spec haccepted
      obtain ⟨popped, hip, hstep⟩ := step_of_completes now hadmits htype
        hheaders haccepted hcompletes
      have hfull := findNeighbor_putNeighbor hm
        (popped.reachFull_ip.trans hip)
        (r.acceptanceLog (ntohl (packet.load32 12)) headers n)
      have hpushed := findNeighbor_updateLsas hfull
      have hafter := h _ hstep
      rw [RetransmissionsBacked, replyDd_lsdb, replyDd_eq hpushed] at hafter
      have hreply := AllNeighbors.find hafter
        (findNeighbor_putNeighbor hpushed
          ((Neighbor.reply_ip _ _ _).trans (findNeighbor_ip hpushed)) _)
      have hput : (r.putNeighbor (ntohl (packet.load32 12)) popped.reachFull
          (r.acceptanceLog (ntohl (packet.load32 12)) headers
            n)).ReplacesNetworkLsa := hreplaces
      exact not_backed_updateLsas popped.reachFull_state hput
        (hreply.of_lists_eq (Neighbor.reply_lists _ _ _).symm)
  | _ => trivial

/-- In every run of the process the database holds the LSAs on the
retransmission lists in every state exactly when no exchange is concluded while
the router is DR and holds an older Network LSA of its own. -/
theorem retransmissionsBacked_iff (routerId areaId : UInt32)
    (uninit : Uninit) (loopbacks : List (UInt32 × UInt32))
    (address mask : UInt32) (steps : List Step) :
    Throughout step RetransmissionsBacked
        (boot routerId areaId uninit loopbacks address mask) steps ↔
      Along step (EachAcceptedDd ConcludesWithoutReplacing)
        (boot routerId areaId uninit loopbacks address mask) steps := by
  refine throughout_iff_along (I := RetransmissionsBacked) (fun _ h => h)
    (fun _ _ _ h hstep hr' => step_backed h hstep hr')
    (fun _ _ _ h => concludesWithoutReplacing_of_step h) ?_
  intro inter hinter n hn
  rw [boot_neighbors _ _ _ _ _ _ inter hinter] at hn
  cases hn

/-- A Hello of the peer that accepts 10.0.0.1 as DR. -/
def followerHello (listed : List UInt8) : List UInt8 :=
  store32 (htonl 0xffffff00) ++ store16 (htons 10) ++ [2, 1] ++
    store32 (htonl 40) ++ store32 (htonl 0x0a000001) ++ store32 0 ++ listed

/-- The DD packet with which the peer concludes the exchange. -/
def lastDd : List UInt8 := [5, 220, 2, 1, 0, 0, 0, 1]

/-- A full exchange with the peer, from a Hello that lists 1.1.1.1. -/
def peerExchange : List Step :=
  [.frame 0 (fromPeer typeHello (followerHello (store32 (htonl 0x01010101)))),
    .frame 0 (fromPeer typeDd peerDd), .frame 0 (fromPeer typeDd lastDd)]

/-- A second follower, the router 3.3.3.3 at 10.0.0.3. -/
def secondPeer : Router :=
  new 0x03030303 initialSequenceNumber 0 ⟨0, 0, 0, false, false, false⟩ []
    (Interface.new 0x0a000003 0xffffff00) []

/-- A packet from the second follower to 10.0.0.1. -/
def fromSecondPeer (type : UInt8) (data : List UInt8) : Memory :=
  ipDatagram 0x0a000003 0x0a000001 (secondPeer.ospfPacket 0 type data)

/-- A full exchange with the second follower. -/
def secondPeerExchange : List Step :=
  [.frame 0
      (fromSecondPeer typeHello (followerHello (store32 (htonl 0x01010101)))),
    .frame 0 (fromSecondPeer typeDd peerDd),
    .frame 0 (fromSecondPeer typeDd lastDd)]

/-- The DR concludes an exchange with each of its two neighbors: then the
header of its second Network LSA is on a retransmission list, and the database
holds none. -/
theorem second_network_lsa_not_backed :
    ¬Throughout step RetransmissionsBacked
      (boot 0x01010101 0 ⟨0, 0, 0, false, false, false⟩ [] 0x0a000001
        0xffffff00)
      ([.waitingTimeout, .timers 0] ++ peerExchange ++
        secondPeerExchange) := by
  have hreached : ∃ t, runFrom step
      (boot 0x01010101 0 ⟨0, 0, 0, false, false, false⟩ [] 0x0a000001
        0xffffff00)
      ([.waitingTimeout, .timers 0] ++ peerExchange ++
        secondPeerExchange) = .ok t ∧ ¬t.RetransmissionsBacked :=
    Outcome.exists_of_completesWith (by decide +kernel)
  obtain ⟨t, hrun, hnot⟩ := hreached
  exact not_throughout_of_run hrun hnot

end Router
end OspfLite
