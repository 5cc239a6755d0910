import OspfLite.Neighbor.Basic

/-!
# Interfaces

The interface record, the search for a neighbor by address and the test that
decides whether an adjacency with a neighbor should exist.
-/

namespace OspfLite

/-- `NetworkType`. -/
inductive NetworkType where
  | p2p
  | broadcast
  | nbma
  | p2mp
  | virtual
deriving DecidableEq, Repr

/-- `InterfaceState`. -/
inductive InterfaceState where
  | down
  | loopback
  | waiting
  | point2Point
  | drOther
  | backup
  | dr
deriving DecidableEq, Repr

/-- `Interface`.  `electionSaw` is no field of the source: it records the
neighbor list the most recent `call_election` worked on. -/
structure Interface where
  type : NetworkType
  state : InterfaceState
  ipInterfaceAddress : UInt32
  ipInterfaceMask : UInt32
  helloInterval : UInt32
  routerDeadInterval : UInt32
  infTransDelay : UInt32
  routerPriority : UInt32
  neighbors : List Neighbor
  dr : UInt32
  bdr : UInt32
  auType : UInt32
  mtu : UInt16
  waitingTimeout : Bool
  waitingTimer : ThreadHandle
  cost : UInt16
  electionSaw : Option (List Neighbor)
deriving DecidableEq, Repr

/-- Apply `f` to the first neighbor at `ip`, the one `find_neighbor` points
to. -/
def modifyNeighbor (ip : UInt32) (f : Neighbor → Neighbor) :
    List Neighbor → List Neighbor
  | [] => []
  | n :: rest =>
      if n.ip = ip then f n :: rest else n :: modifyNeighbor ip f rest

namespace Interface

/-- A new `Interface` to which `interface_init` has given its address and
mask. -/
def new (address mask : UInt32) : Interface where
  type := .broadcast
  state := .down
  ipInterfaceAddress := address
  ipInterfaceMask := mask
  helloInterval := 10
  routerDeadInterval := 40
  infTransDelay := 1
  routerPriority := 1
  neighbors := []
  dr := 0
  bdr := 0
  auType := 0
  mtu := 1500
  waitingTimeout := false
  waitingTimer := .unset
  cost := 1
  electionSaw := none

/-- `Interface::find_neighbor`. -/
def findNeighbor (inter : Interface) (ip : UInt32) : Option Neighbor :=
  inter.neighbors.find? fun n => decide (n.ip = ip)

/-- `Interface::add_neighbor`. -/
def addNeighbor (inter : Interface) (n : Neighbor) : Interface :=
  { inter with neighbors := inter.neighbors ++ [n] }

/-- Apply `f` to the record `find_neighbor` points to. -/
def modifyNeighbor (inter : Interface) (ip : UInt32)
    (f : Neighbor → Neighbor) : Interface :=
  { inter with neighbors := OspfLite.modifyNeighbor ip f inter.neighbors }

/-- The test of `event_2way_received` and `event_adj_ok`: should the router
form an adjacency with the neighbor at `ip`? -/
def Adjacent (inter : Interface) (ip : UInt32) : Prop :=
  inter.type = .p2p ∨ inter.type = .p2mp ∨ inter.type = .virtual ∨
    inter.dr = inter.ipInterfaceAddress ∨
    inter.bdr = inter.ipInterfaceAddress ∨
    inter.dr = ip ∨ inter.bdr = ip

instance (inter : Interface) (ip : UInt32) :
    Decidable (inter.Adjacent ip) :=
  inferInstanceAs (Decidable (_ ∨ _ ∨ _ ∨ _ ∨ _ ∨ _ ∨ _))

end Interface

/-- The entries of the changed list: old ones, and the image of one. -/
theorem mem_modifyNeighbor {ip : UInt32} {f : Neighbor → Neighbor}
    {m : Neighbor} {neighbors : List Neighbor}
    (h : m ∈ modifyNeighbor ip f neighbors) :
    m ∈ neighbors ∨ ∃ n ∈ neighbors, m = f n := by
  induction neighbors with
  | nil => cases h
  | cons n rest ih =>
      rw [modifyNeighbor] at h
      split_ifs at h
      · rcases List.mem_cons.mp h with rfl | hrest
        · exact Or.inr ⟨n, List.mem_cons_self, rfl⟩
        · exact Or.inl (List.mem_cons_of_mem n hrest)
      · rcases List.mem_cons.mp h with rfl | hrest
        · exact Or.inl List.mem_cons_self
        · rcases ih hrest with hold | ⟨k, hk, rfl⟩
          · exact Or.inl (List.mem_cons_of_mem n hold)
          · exact Or.inr ⟨k, List.mem_cons_of_mem n hk, rfl⟩

/-- A change that keeps the addresses carries every search over. -/
theorem exists_find_of_forall₂ {R : Neighbor → Neighbor → Prop}
    (hip : ∀ n n', R n n' → n'.ip = n.ip) {l l' : List Neighbor}
    {ip : UInt32} {n' : Neighbor} (h : List.Forall₂ R l l')
    (hfind : (l'.find? fun n => decide (n.ip = ip)) = some n') :
    ∃ n, (l.find? fun n => decide (n.ip = ip)) = some n ∧ R n n' := by
  induction h with
  | nil => cases hfind
  | @cons a b l l' hab _ ih =>
      by_cases ha : a.ip = ip
      · have hb : b.ip = ip := (hip a b hab).trans ha
        have hsame : b = n' := by simpa [hb] using hfind
        exact ⟨a, by simp [ha], hsame ▸ hab⟩
      · have hb : ¬b.ip = ip := fun h => ha ((hip a b hab).symm.trans h)
        obtain ⟨n, hn, hR⟩ := ih (by simpa [hb] using hfind)
        exact ⟨n, by simpa [ha] using hn, hR⟩

section ModifyNeighbor

variable {ip : UInt32} {f : Neighbor → Neighbor} {neighbors : List Neighbor}

/-- A change that keeps the address keeps the list of addresses. -/
theorem map_ip_modifyNeighbor (hf : ∀ n, n.ip = ip → (f n).ip = ip) :
    (modifyNeighbor ip f neighbors).map Neighbor.ip =
      neighbors.map Neighbor.ip := by
  induction neighbors with
  | nil => rfl
  | cons n rest ih =>
      rw [modifyNeighbor]
      split_ifs with hn
      · rw [List.map_cons, List.map_cons, hf n hn, hn]
      · rw [List.map_cons, List.map_cons, ih]

/-- The search for an address after a change at one address. -/
theorem find_modifyNeighbor (hf : ∀ n, n.ip = ip → (f n).ip = ip)
    (ip' : UInt32) :
    (modifyNeighbor ip f neighbors).find? (fun n => decide (n.ip = ip')) =
      (neighbors.find? fun n => decide (n.ip = ip')).map
        (if ip' = ip then f else id) := by
  induction neighbors with
  | nil => rfl
  | cons n rest ih =>
      by_cases hn : n.ip = ip
      · by_cases hip : ip' = ip
        · simp [modifyNeighbor, hn, hip, hf n hn]
        · simp [modifyNeighbor, hn, hip, hf n hn, Ne.symm hip]
      · by_cases hip : n.ip = ip'
        · have hne : ip' ≠ ip := fun h => hn (hip.trans h)
          simp [modifyNeighbor, hip, hne]
        · simpa [modifyNeighbor, hn, hip] using ih

/-- Two changes at an address are one. -/
theorem modifyNeighbor_modifyNeighbor (hf : ∀ n, n.ip = ip → (f n).ip = ip)
    (g : Neighbor → Neighbor) :
    modifyNeighbor ip g (modifyNeighbor ip f neighbors) =
      modifyNeighbor ip (fun n => g (f n)) neighbors := by
  induction neighbors with
  | nil => rfl
  | cons n rest ih =>
      by_cases hn : n.ip = ip
      · simp only [modifyNeighbor, if_pos hn, if_pos (hf n hn)]
      · simp only [modifyNeighbor, if_neg hn, ih]

/-- A change relates the lists entry by entry exactly when it relates the
record found. -/
theorem forall₂_modifyNeighbor_iff {R : Neighbor → Neighbor → Prop}
    (hrefl : ∀ n, R n n) :
    List.Forall₂ R neighbors (modifyNeighbor ip f neighbors) ↔
      ∀ n, neighbors.find? (fun n => decide (n.ip = ip)) = some n →
        R n (f n) := by
  induction neighbors with
  | nil => simp [modifyNeighbor]
  | cons n rest ih =>
      rw [modifyNeighbor]
      split_ifs with hip
      · simp [hip, hrefl]
      · simp [hip, hrefl, ih]

theorem forall₂_modifyNeighbor {R : Neighbor → Neighbor → Prop}
    (hrefl : ∀ n, R n n)
    (hf : ∀ n, neighbors.find? (fun n => decide (n.ip = ip)) = some n →
      R n (f n)) :
    List.Forall₂ R neighbors (modifyNeighbor ip f neighbors) :=
  (forall₂_modifyNeighbor_iff hrefl).mpr hf

/-- A change depends on what it does to the record found. -/
theorem modifyNeighbor_congr {g : Neighbor → Neighbor}
    (h : ∀ n, neighbors.find? (fun n => decide (n.ip = ip)) = some n →
      f n = g n) :
    modifyNeighbor ip f neighbors = modifyNeighbor ip g neighbors := by
  induction neighbors with
  | nil => rfl
  | cons n rest ih =>
      by_cases hn : n.ip = ip
      · rw [modifyNeighbor, modifyNeighbor, if_pos hn, if_pos hn,
          h n (by simp [hn])]
      · rw [modifyNeighbor, modifyNeighbor, if_neg hn, if_neg hn, ih]
        simpa [hn] using h

end ModifyNeighbor

namespace Interface

/-- After a change at an address, the search for it finds the changed
record. -/
theorem findNeighbor_modifyNeighbor {inter : Interface} {ip : UInt32}
    {f : Neighbor → Neighbor} (hf : ∀ n, n.ip = ip → (f n).ip = ip) :
    (inter.modifyNeighbor ip f).findNeighbor ip =
      (inter.findNeighbor ip).map f := by
  rw [findNeighbor, modifyNeighbor, find_modifyNeighbor hf, if_pos rfl]
  rfl

/-- Two changes at an address are one. -/
theorem modifyNeighbor_modifyNeighbor {inter : Interface} {ip : UInt32}
    {f : Neighbor → Neighbor} (hf : ∀ n, n.ip = ip → (f n).ip = ip)
    (g : Neighbor → Neighbor) :
    (inter.modifyNeighbor ip f).modifyNeighbor ip g =
      inter.modifyNeighbor ip fun n => g (f n) := by
  rw [modifyNeighbor, modifyNeighbor, modifyNeighbor,
    OspfLite.modifyNeighbor_modifyNeighbor hf]

/-- A change depends on what it does to the record found. -/
theorem modifyNeighbor_congr {inter : Interface} {ip : UInt32}
    {f g : Neighbor → Neighbor}
    (h : ∀ n, inter.findNeighbor ip = some n → f n = g n) :
    inter.modifyNeighbor ip f = inter.modifyNeighbor ip g := by
  rw [modifyNeighbor, modifyNeighbor, OspfLite.modifyNeighbor_congr h]

/-- A change that leaves the record found alone. -/
theorem modifyNeighbor_of_id {inter : Interface} {ip : UInt32}
    {f : Neighbor → Neighbor}
    (h : ∀ n, inter.findNeighbor ip = some n → f n = n) :
    inter.modifyNeighbor ip f = inter := by
  have hid : OspfLite.modifyNeighbor ip id inter.neighbors =
      inter.neighbors := by
    induction inter.neighbors with
    | nil => rfl
    | cons n rest ih =>
        rw [OspfLite.modifyNeighbor, ih]
        split_ifs <;> rfl
  rw [modifyNeighbor_congr h (g := id), modifyNeighbor, hid]

theorem findNeighbor_ip {inter : Interface} {ip : UInt32} {n : Neighbor}
    (h : inter.findNeighbor ip = some n) : n.ip = ip := by
  simpa using List.find?_some h

end Interface

end OspfLite
