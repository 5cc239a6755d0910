import OspfLite.Router.Moves
import OspfLite.Lib.KeyedList

/-!
# Addresses of the neighbors

`find_neighbor` returns the first neighbor with an address.  A neighbor is
added only after it has not been found, so there is never another one.
-/

namespace OspfLite
namespace Router

variable {r r' : Router} {ip : UInt32} {n popped : Neighbor} {dd : OSPFDD}
  {headers : List LSAHeader} {src : UInt32} {data : Memory}
  {s s' : LsuState}

/-- The addresses of the neighbors, in order. -/
def addresses (r : Router) : List UInt32 :=
  r.interface.neighbors.map Neighbor.ip

/-- No two neighbors have the same address. -/
def AddressesUnique (r : Router) : Prop :=
  KeyedList.Unique Neighbor.ip r.interface.neighbors

theorem AddressesUnique.of_eq (h : r.AddressesUnique)
    (haddresses : r'.addresses = r.addresses) : r'.AddressesUnique := by
  change r'.addresses.Nodup
  rw [haddresses]
  exact h

/-- Every neighbor is the one that is found. -/
theorem AddressesUnique.find (h : r.AddressesUnique)
    (hn : n ∈ r.interface.neighbors) : r.findNeighbor n.ip = some n :=
  KeyedList.Unique.lookup_of_mem h hn

/-- A change entry by entry that keeps the addresses. -/
theorem addresses_of_forall₂ {R : Neighbor → Neighbor → Prop}
    (hR : ∀ n n', R n n' → n'.ip = n.ip) {l l' : List Neighbor}
    (h : List.Forall₂ R l l') :
    l'.map Neighbor.ip = l.map Neighbor.ip := by
  induction h with
  | nil => rfl
  | cons hab _ ih => rw [List.map_cons, List.map_cons, hR _ _ hab, ih]

theorem addresses_putNeighbor (hip : n.ip = ip) (entries : List LogEntry) :
    (r.putNeighbor ip n entries).addresses = r.addresses :=
  map_ip_modifyNeighbor fun _ _ => hip

theorem addresses_updateLsas (r : Router) :
    r.updateLsas.addresses = r.addresses := by
  rw [addresses, updateLsas_interface_eq]
  change (r.interface.neighbors.map
    (Neighbor.pushAll r.emittedHeaders)).map Neighbor.ip = _
  rw [List.map_map]
  exact List.map_congr_left fun n _ => n.pushAll_ip _

theorem addresses_replyDd (hfind : r.findNeighbor ip = some n) :
    (r.replyDd ip).addresses = r.addresses := by
  rw [replyDd_eq hfind]
  exact addresses_putNeighbor
    ((Neighbor.reply_ip _ _ _).trans (findNeighbor_ip hfind)) _

/-- A neighbor is added when there is none with its address. -/
theorem AddressesUnique.recedes (h : r.AddressesUnique)
    (hmoves : r.Recedes r') : r'.AddressesUnique := by
  obtain ⟨⟨base, hbase, hinter⟩, -⟩ := hmoves
  have hunique : KeyedList.Unique Neighbor.ip base.neighbors := by
    rcases hbase with rfl | ⟨ip, rfl⟩
    · exact h
    · rw [Interface.ensureNeighbor]
      split_ifs with hnone
      · exact KeyedList.Unique.push h hnone
      · exact h
  change (r'.interface.neighbors.map Neighbor.ip).Nodup
  rw [addresses_of_forall₂ (fun _ _ h => h.ip) hinter.neighbors]
  exact hunique

theorem addresses_acceptLsa (h : acceptLsa src data s = .ok s') :
    s'.router.addresses = s.router.addresses := by
  refine addresses_of_forall₂ (fun _ _ hip => hip)
    (acceptLsa_forall₂ (fun n _ => ?_) (fun n _ => ?_) h)
  · obtain ⟨_, _, -, -, hflood⟩ := Neighbor.flood_eq (lsaHeaderHost data) src n
    rw [hflood]
    rfl
  · rfl

theorem addresses_rejectLsa {same : Bool}
    (h : rejectLsa src data same s = .ok s') :
    s'.router.addresses = s.router.addresses := by
  rcases rejectLsa_cases h with
    ⟨-, hrouter⟩ | ⟨-, r, lsdb, rfl | rfl, hrouter, -⟩
  · rw [hrouter]
    exact map_ip_modifyNeighbor fun n hn =>
      n.restartExchange_recedes.ip.trans hn
  · rw [hrouter]
    rfl
  · rw [hrouter]
    exact map_ip_modifyNeighbor fun n hn => hn

theorem addresses_lsuRound (h : lsuRound src s data = .ok s') :
    s'.router.addresses = s.router.addresses := by
  rcases lsuRound_cases h with
    rfl | ⟨-, -, -, ⟨-, haccept⟩ | ⟨-, same, hreject⟩⟩
  · rfl
  · exact addresses_acceptLsa haccept
  · exact addresses_rejectLsa hreject

/-- Handling an accepted Database Description packet. -/
theorem addresses_acceptedDd {m : Neighbor} {entries : List LogEntry}
    (hm : r.findNeighbor ip = some m) (hip : popped.ip = ip) :
    (((r.putNeighbor ip popped entries).concludeDd ip dd popped).replyDd
      ip).addresses = r.addresses := by
  rw [concludeDd_putNeighbor hm hip]
  split_ifs
  · have hfull := popped.reachFull_ip.trans hip
    rw [addresses_replyDd (findNeighbor_updateLsas
        (findNeighbor_putNeighbor hm hfull entries)), addresses_updateLsas,
      addresses_putNeighbor hfull]
  · rw [addresses_replyDd (findNeighbor_putNeighbor hm hip entries),
      addresses_putNeighbor hip]

/-- The addresses stay unique. -/
theorem AddressesUnique.step {step : Step} (h : r.AddressesUnique)
    (hr' : r.step step = .ok r') : r'.AddressesUnique := by
  cases step_moves hr' with
  | recedes hrecedes => exact h.recedes hrecedes
  | describes hadmits htype hheaders haccepted hpopped =>
      obtain ⟨m, hm, hfrom⟩ := acceptedDd_spec haccepted
      exact h.of_eq (addresses_acceptedDd hm (popped_ip hm hfrom hpopped))
  | @updates _ _ s hadmits htype hknown hrun =>
      have hrounds : s.router.addresses = r.addresses := runFrom_invariant
        (I := fun s => s.router.addresses = r.addresses)
        (P := fun _ _ => True)
        (fun s data s' hs _ hs' => (addresses_lsuRound hs').trans hs) rfl
        (along_of_forall (fun _ _ => trivial) _) hrun
      apply h.of_eq
      rw [sendLsack]
      split_ifs
      · exact hrounds
      · exact hrounds
  | acknowledges =>
      exact h.of_eq (map_ip_modifyNeighbor fun n hn => hn)

/-- When the process starts there is no neighbor. -/
theorem boot_addressesUnique (routerId areaId : UInt32) (uninit : Uninit)
    (loopbacks : List (UInt32 × UInt32)) (address mask : UInt32) :
    (boot routerId areaId uninit loopbacks address mask).AddressesUnique := by
  have hnone := boot_neighbors routerId areaId uninit loopbacks address mask
    _ (List.mem_append_right _ List.mem_cons_self)
  rw [AddressesUnique, hnone]
  exact KeyedList.unique_nil

end Router
end OspfLite
