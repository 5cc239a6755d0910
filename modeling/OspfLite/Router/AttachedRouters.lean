import OspfLite.Router.OwnLinks

/-!
# The two LSAs of a DR

The Router LSA of a DR links to its network, and the Network LSA lists the
routers attached to it.  The two generators go through the neighbors on their
own, and nothing compares what they come to.
-/

namespace OspfLite

/-! ## Transit links -/

namespace Interface

variable {inter : Interface} {tosNum : UInt8} {address : UInt32}

/-- The link of an interface is of type 2 exactly when it is a transit
link. -/
theorem routerLink_type_iff :
    (inter.routerLink tosNum).type = 2 ↔ inter.Transit := by
  by_cases hloopback : inter.state = .loopback
  · have htype : (inter.routerLink tosNum).type = 3 := by
      rw [routerLink, if_pos hloopback]
    rw [htype]
    exact iff_of_false (by decide) fun h => h.1 hloopback
  · rw [transit_iff hloopback, routerLink, if_neg hloopback]
    split_ifs with htransit
    · exact iff_of_true rfl htransit
    · exact iff_of_false (show (3 : UInt8) ≠ 2 by decide) htransit

/-- A transit link leads to the DR. -/
theorem Transit.routerLink_linkId (h : inter.Transit) :
    (inter.routerLink tosNum).linkId = inter.dr := by
  rw [routerLink, if_neg h.1, if_pos ((transit_iff h.1).mp h)]

/-- The interface has a transit link to the network whose DR has the
address. -/
def JoinsNetwork (inter : Interface) (address : UInt32) : Prop :=
  inter.Transit ∧ inter.dr = address

instance (inter : Interface) (address : UInt32) :
    Decidable (inter.JoinsNetwork address) :=
  inferInstanceAs (Decidable (_ ∧ _))

/-- What the Router LSA says of such an interface. -/
theorem joinsNetwork_iff (tosNum : UInt8) :
    inter.JoinsNetwork address ↔
      (inter.routerLink tosNum).type = 2 ∧
        (inter.routerLink tosNum).linkId = address := by
  rw [JoinsNetwork, routerLink_type_iff]
  apply and_congr_right
  intro htransit
  rw [htransit.routerLink_linkId]

/-- The ids of the FULL neighbors, in list order. -/
def fullIds (inter : Interface) : List UInt32 :=
  (inter.neighbors.filter fun n => decide (n.state = .full)).map Neighbor.id

theorem mem_fullIds {id : UInt32} :
    id ∈ inter.fullIds ↔
      ∃ n ∈ inter.neighbors, n.state = .full ∧ n.id = id := by
  simp [fullIds, and_assoc]

/-- A statement about the id of every FULL neighbor. -/
theorem forall_mem_fullIds {p : UInt32 → Prop} :
    (∀ id ∈ inter.fullIds, p id) ↔
      ∀ n ∈ inter.neighbors, n.state = .full → p n.id := by
  constructor
  · intro h n hn hfull
    exact h n.id (mem_fullIds.mpr ⟨n, hn, hfull, rfl⟩)
  · intro h id hid
    obtain ⟨n, hn, hfull, rfl⟩ := mem_fullIds.mp hid
    exact h n hn hfull

end Interface

namespace Router

variable {r : Router}

/-! ## What the LSAs should say -/

/-- The Router LSA has a transit link to the network of the interface. -/
def LinksToNetwork (r : Router) : Prop :=
  ∃ link ∈ r.generateRouterLsa.links,
    link.type = 2 ∧ link.linkId = r.interface.ipInterfaceAddress

/-- The Network LSA lists the router itself, every FULL neighbor exactly once,
and nobody else. -/
structure ListsAttached (r : Router) : Prop where
  self : r.routerId ∈ r.generateNetworkLsa.attachedRouters
  neighbors : ∀ n ∈ r.interface.neighbors, n.state = .full →
    r.generateNetworkLsa.attachedRouters.count n.id = 1
  others : ∀ id ∈ r.generateNetworkLsa.attachedRouters,
    id = r.routerId ∨ ∃ n ∈ r.interface.neighbors, n.state = .full ∧ n.id = id

/-- A network the Router LSA links to is one whose Network LSA lists the
router and its FULL neighbors. -/
def LsasAgree (r : Router) : Prop := r.LinksToNetwork → r.ListsAttached

/-! ## What they say -/

/-- The interfaces whose links lead to the network. -/
theorem linksToNetwork_iff :
    r.LinksToNetwork ↔ ∃ inter ∈ r.interfaces,
      inter.JoinsNetwork r.interface.ipInterfaceAddress := by
  simp only [LinksToNetwork, generateRouterLsa_links, routerLinks,
    List.mem_map, exists_exists_and_eq_and,
    Interface.joinsNetwork_iff r.uninit.tosNum]

/-- The Network LSA lists whom it should if some FULL neighbor goes by the id
of the router, and no two of them by the same one. -/
theorem listsAttached_iff :
    r.ListsAttached ↔
      r.routerId ∈ r.interface.fullIds ∧ r.interface.fullIds.Nodup := by
  constructor
  · intro h
    refine ⟨h.self, List.nodup_iff_count_eq_one.mpr ?_⟩
    exact Interface.forall_mem_fullIds.mpr h.neighbors
  · rintro ⟨hself, hnodup⟩
    refine ⟨hself, ?_, fun id hid => Or.inr (Interface.mem_fullIds.mp hid)⟩
    exact Interface.forall_mem_fullIds.mp
      (List.nodup_iff_count_eq_one.mp hnodup)

/-- No interface links to the network, or the FULL neighbors have different
ids and one of them has that of the router. -/
def NamesakeAttached (r : Router) : Prop :=
  (∃ inter ∈ r.interfaces,
      inter.JoinsNetwork r.interface.ipInterfaceAddress) →
    r.routerId ∈ r.interface.fullIds ∧ r.interface.fullIds.Nodup

instance (r : Router) : Decidable r.NamesakeAttached :=
  inferInstanceAs (Decidable ((∃ inter ∈ r.interfaces, _) → _ ∧ _))

/-- The two LSAs agree exactly when there is no transit link to the network,
or a FULL neighbor that passes for the router. -/
theorem lsasAgree_iff (r : Router) : r.LsasAgree ↔ r.NamesakeAttached := by
  rw [LsasAgree, NamesakeAttached, linksToNetwork_iff, listsAttached_iff]

/-- The router 1.1.1.1 has become DR, and the peer FULL: the Router LSA has a
transit link to a network whose Network LSA lists the peer alone. -/
theorem dr_not_attached :
    ∃ t, runFrom step
        (boot 0x01010101 0 ⟨0, 0, 0, false, false, false⟩ [] 0x0a000001
          0xffffff00)
        ([.waitingTimeout, .timers 0] ++ peerExchange) = .ok t ∧
      t.interface.state = .dr ∧
      t.generateNetworkLsa.attachedRouters = [0x02020202] ∧
      ¬t.LsasAgree := by
  have hreached : ∃ t, runFrom step
      (boot 0x01010101 0 ⟨0, 0, 0, false, false, false⟩ [] 0x0a000001
        0xffffff00)
      ([.waitingTimeout, .timers 0] ++ peerExchange) = .ok t ∧
      t.interface.state = .dr ∧
      t.generateNetworkLsa.attachedRouters = [0x02020202] ∧
      ¬t.NamesakeAttached :=
    Outcome.exists_of_completesWith (by decide +kernel)
  obtain ⟨t, hrun, hstate, hattached, hnone⟩ := hreached
  refine ⟨t, hrun, hstate, hattached, fun hagree => hnone ?_⟩
  rwa [LsasAgree, linksToNetwork_iff, listsAttached_iff] at hagree

end Router
end OspfLite
