import OspfLite.LinkState.Lsdb
import OspfLite.Lib.Stamps
import OspfLite.Lib.Lists
import OspfLite.Lib.Runs

/-!
# Ageing

The thread `lsdb_aging_thread` makes every stored LSA one second older with
each of its rounds.  It runs beside whatever is stored in the database and
removed from it, and takes no lock.
-/

namespace OspfLite

namespace LSAHeader

/-- One round of the thread for one LSA. -/
def aged (h : LSAHeader) : LSAHeader :=
  if h.lsAge < 0xff then { h with lsAge := h.lsAge + 1 } else h

end LSAHeader

/-- What the database goes through: a round of the ageing thread, the calls
that install and remove an LSA, and the `push_back` of `update_lsas`. -/
inductive LsdbStep where
  | tick
  | installRouter (data : Memory)
  | installNetwork (uninitMask : UInt32) (data : Memory)
  | pushRouter (lsa : LSARouter)
  | pushNetwork (lsa : LSANetwork)
  | removeRouter (linkStateId advertisingRouter : UInt32)
  | removeNetwork (linkStateId advertisingRouter : UInt32)

namespace LSDB

/-- One round of `lsdb_aging_thread`. -/
def tick (lsdb : LSDB) : LSDB where
  routerLsas := lsdb.routerLsas.map fun lsa =>
    { lsa with header := lsa.header.aged }
  networkLsas := lsdb.networkLsas.map fun lsa =>
    { lsa with header := lsa.header.aged }

/-- One step of the database. -/
def step (lsdb : LSDB) : LsdbStep → Outcome LSDB
  | .tick => .ok lsdb.tick
  | .installRouter data => .ok (lsdb.installRouterLsa data)
  | .installNetwork uninitMask data =>
      .ofOption .endlessLoop (lsdb.installNetworkLsa uninitMask data)
  | .pushRouter lsa =>
      .ok { lsdb with routerLsas := lsdb.routerLsas ++ [lsa] }
  | .pushNetwork lsa =>
      .ok { lsdb with networkLsas := lsdb.networkLsas ++ [lsa] }
  | .removeRouter id adv => .ok (lsdb.removeRouterLsa id adv)
  | .removeNetwork id adv => .ok (lsdb.removeNetworkLsa id adv)

end LSDB

/-! ## What has become of an LSA -/

/-- The header of an LSA that was stored with the given one and has been there
for a number of ticks: only the age has changed, and it has grown by a second
each tick, up to MaxAge. -/
structure LSAHeader.HasAged (h stored : LSAHeader) (ticks : ℕ) : Prop where
  rest : h = { stored with lsAge := h.lsAge }
  age : stored.lsAge ≤ maxAge →
    h.lsAge.toNat = min (stored.lsAge.toNat + ticks) maxAge.toNat

/-- The same, with what becomes of an age beyond MaxAge: it stays. -/
structure LSAHeader.KeepsPace (h stored : LSAHeader) (ticks : ℕ) : Prop where
  rest : h = { stored with lsAge := h.lsAge }
  age : h.lsAge.toNat = max stored.lsAge.toNat
    (min (stored.lsAge.toNat + ticks) maxAge.toNat)

/-- The age of the LSA goes on growing, or has come to its end. -/
def LSAHeader.CanAge (h : LSAHeader) : Prop :=
  h.lsAge < 0xff ∨ maxAge ≤ h.lsAge

instance (h : LSAHeader) : Decidable h.CanAge :=
  inferInstanceAs (Decidable (_ ∨ _))

namespace LSAHeader

variable {h stored : LSAHeader} {ticks : ℕ}

theorem keepsPace_now (h : LSAHeader) : h.KeepsPace h 0 :=
  ⟨rfl, by omega⟩

theorem KeepsPace.hasAged (hp : h.KeepsPace stored ticks) :
    h.HasAged stored ticks := by
  refine ⟨hp.rest, fun hle => ?_⟩
  have hage := hp.age
  rw [UInt16.le_iff_toNat_le] at hle
  omega

/-- The age after a round of the thread. -/
theorem aged_lsAge_toNat (h : LSAHeader) :
    h.aged.lsAge.toNat =
      if h.lsAge.toNat < 255 then h.lsAge.toNat + 1 else h.lsAge.toNat := by
  rw [aged]
  have hiff : h.lsAge < 0xff ↔ h.lsAge.toNat < 255 := UInt16.lt_iff_toNat_lt
  split_ifs with hlt hnat hnat
  · change (h.lsAge + 1).toNat = _
    rw [UInt16.toNat_add, UInt16.toNat_one]
    omega
  · exact absurd (hiff.mp hlt) hnat
  · exact absurd (hiff.mpr hnat) hlt
  · rfl

/-- Nothing but the age changes. -/
theorem aged_rest (h : LSAHeader) :
    h.aged = { h with lsAge := h.aged.lsAge } := by
  rw [aged]
  split_ifs <;> rfl

theorem canAge_iff :
    h.CanAge ↔ h.lsAge.toNat < 255 ∨ 3600 ≤ h.lsAge.toNat := by
  rw [CanAge, UInt16.lt_iff_toNat_lt, UInt16.le_iff_toNat_le]
  exact Iff.rfl

theorem rest_aged (hrest : h = { stored with lsAge := h.lsAge }) :
    h.aged = { stored with lsAge := h.aged.lsAge } := by
  rw [aged_rest]
  obtain ⟨age, options, lsType, id, adv, seq, sum, length⟩ := stored
  rw [hrest]

/-- An LSA that has kept pace so far does so with the next tick exactly if its
age can go on growing. -/
theorem KeepsPace.tick_iff (hp : h.KeepsPace stored ticks) :
    h.aged.KeepsPace stored (ticks + 1) ↔ h.CanAge := by
  have hage := hp.age
  have hmax : maxAge.toNat = 3600 := rfl
  have haged := h.aged_lsAge_toNat
  rw [canAge_iff]
  constructor
  · intro hnext
    have hnextAge := hnext.age
    split_ifs at haged <;> omega
  · intro hcan
    refine ⟨rest_aged hp.rest, ?_⟩
    split_ifs at haged <;> omega

/-- The same for what the age should be. -/
theorem KeepsPace.hasAged_tick_iff (hp : h.KeepsPace stored ticks) :
    h.aged.HasAged stored (ticks + 1) ↔ h.CanAge := by
  constructor
  · intro hnext
    have hage := hp.age
    have hmax : maxAge.toNat = 3600 := rfl
    have haged := h.aged_lsAge_toNat
    rw [canAge_iff]
    by_cases hle : stored.lsAge ≤ maxAge
    · have hnextAge := hnext.age hle
      split_ifs at haged <;> omega
    · rw [UInt16.le_iff_toNat_le] at hle
      omega
  · intro hcan
    exact (hp.tick_iff.mpr hcan).hasAged

end LSAHeader

/-! ## Both kinds of LSA -/

/-- How the header lies in a kind of LSA. -/
structure HeaderOf (α : Type) where
  get : α → LSAHeader
  set : α → LSAHeader → α
  get_set : ∀ a h, get (set a h) = h
  set_get : ∀ a, set a (get a) = a
  set_set : ∀ a h h', set (set a h) h' = set a h'

def LSARouter.headerOf : HeaderOf LSARouter where
  get := LSARouter.header
  set lsa header := { lsa with header := header }
  get_set _ _ := rfl
  set_get _ := rfl
  set_set _ _ _ := rfl

def LSANetwork.headerOf : HeaderOf LSANetwork where
  get := LSANetwork.header
  set lsa header := { lsa with header := header }
  get_set _ _ := rfl
  set_get _ := rfl
  set_set _ _ _ := rfl

namespace HeaderOf

variable {α : Type} (o : HeaderOf α)

/-- An LSA differs from what was stored in its header alone, and the two
headers stand in a relation. -/
structure Follows (R : LSAHeader → LSAHeader → ℕ → Prop) (a : α)
    (s : Stamp α) : Prop where
  rest : a = o.set s.stored (o.get a)
  header : R (o.get a) (o.get s.stored) s.ticks

variable {o} {a : α} {s : Stamp α} {R S : LSAHeader → LSAHeader → ℕ → Prop}

theorem follows_now (a : α) : o.Follows LSAHeader.KeepsPace a (.now a) :=
  ⟨(o.set_get a).symm, LSAHeader.keepsPace_now _⟩

/-- The thread changes the header alone. -/
theorem Follows.tick_iff (h : o.Follows R a s)
    (hheader : S (o.get a).aged (o.get s.stored) (s.ticks + 1) ↔
      (o.get a).CanAge) :
    o.Follows S (o.set a (o.get a).aged) s.tick ↔ (o.get a).CanAge := by
  rw [← hheader]
  constructor
  · intro hnext
    rw [← o.get_set a (o.get a).aged]
    exact hnext.header
  · intro hS
    refine ⟨?_, ?_⟩
    · rw [o.get_set, h.rest, o.set_set, o.get_set]
      rfl
    · rw [o.get_set]
      exact hS

/-- The key of an LSA does not change. -/
theorem Follows.key (h : o.Follows LSAHeader.KeepsPace a s) :
    (o.get a).key = (o.get s.stored).key := by
  rw [h.header.rest]
  rfl

end HeaderOf

/-! ## The database and its stamps -/

/-- A database, and for each entry what was stored and the number of ticks
since then. -/
structure AgedLsdb where
  lsdb : LSDB
  routerStamps : List (Stamp LSARouter)
  networkStamps : List (Stamp LSANetwork)

namespace AgedLsdb

/-- A database whose entries have just been stored. -/
def ofLsdb (lsdb : LSDB) : AgedLsdb where
  lsdb := lsdb
  routerStamps := lsdb.routerLsas.map .now
  networkStamps := lsdb.networkLsas.map .now

/-- The stamps of the Router LSAs after a step of the database. -/
def stampRouters (stamps : List (Stamp LSARouter)) :
    LsdbStep → List (Stamp LSARouter)
  | .tick => stamps.map .tick
  | .installRouter data =>
      KeyedList.insert (Stamp.keyOf LSARouter.key) stamps
        (.now (LSARouter.decode data))
  | .pushRouter lsa => stamps ++ [.now lsa]
  | .removeRouter id adv =>
      KeyedList.erase (Stamp.keyOf LSARouter.key) stamps (id, adv)
  | _ => stamps

/-- The stamps of the Network LSAs after a step of the database. -/
def stampNetworks (stamps : List (Stamp LSANetwork)) :
    LsdbStep → List (Stamp LSANetwork)
  | .tick => stamps.map .tick
  | .installNetwork uninitMask data =>
      match LSANetwork.decode uninitMask data with
      | some lsa =>
          KeyedList.insert (Stamp.keyOf LSANetwork.key) stamps (.now lsa)
      | none => stamps
  | .pushNetwork lsa => stamps ++ [.now lsa]
  | .removeNetwork id adv =>
      KeyedList.erase (Stamp.keyOf LSANetwork.key) stamps (id, adv)
  | _ => stamps

/-- A step of the database, with the stamps. -/
def step (s : AgedLsdb) (step : LsdbStep) : Outcome AgedLsdb :=
  (s.lsdb.step step).map fun lsdb =>
    { lsdb := lsdb
      routerStamps := stampRouters s.routerStamps step
      networkStamps := stampNetworks s.networkStamps step }

/-- Every entry of the database stands in a relation to its stamp. -/
structure Follows (R : LSAHeader → LSAHeader → ℕ → Prop) (s : AgedLsdb) :
    Prop where
  routers : List.Forall₂ (LSARouter.headerOf.Follows R) s.lsdb.routerLsas
    s.routerStamps
  networks : List.Forall₂ (LSANetwork.headerOf.Follows R) s.lsdb.networkLsas
    s.networkStamps

/-- No LSA has come to the end of its ageing before MaxAge. -/
def CanAge (s : AgedLsdb) : Prop := ∀ h ∈ s.lsdb.headers, h.CanAge

instance (s : AgedLsdb) : Decidable s.CanAge :=
  inferInstanceAs (Decidable (∀ h ∈ s.lsdb.headers, h.CanAge))

variable {s s' : AgedLsdb} {R S : LSAHeader → LSAHeader → ℕ → Prop}

theorem follows_ofLsdb (lsdb : LSDB) :
    (ofLsdb lsdb).Follows LSAHeader.KeepsPace :=
  ⟨Stamp.forall₂_now HeaderOf.follows_now _,
    Stamp.forall₂_now HeaderOf.follows_now _⟩

theorem canAge_iff :
    s.CanAge ↔ (∀ lsa ∈ s.lsdb.routerLsas, lsa.header.CanAge) ∧
      ∀ lsa ∈ s.lsdb.networkLsas, lsa.header.CanAge := by
  rw [CanAge, LSDB.headers, List.forall_mem_append, List.forall_mem_map,
    List.forall_mem_map]

/-- A round of the ageing thread. -/
theorem Follows.tick_iff (h : s.Follows R)
    (hheader : ∀ a stored ticks, R a stored ticks →
      (S a.aged stored (ticks + 1) ↔ a.CanAge))
    (hs' : s.step .tick = .ok s') : s'.Follows S ↔ s.CanAge := by
  rw [← Except.ok.inj hs', canAge_iff]
  have hrouters := Stamp.forall₂_tick_iff
    (fun a s ha => ha.tick_iff (S := S) (hheader _ _ _ ha.header)) h.routers
  have hnetworks := Stamp.forall₂_tick_iff
    (fun a s ha => ha.tick_iff (S := S) (hheader _ _ _ ha.header)) h.networks
  constructor
  · intro hnext
    exact ⟨hrouters.mp hnext.routers, hnetworks.mp hnext.networks⟩
  · intro hcan
    exact ⟨hrouters.mpr hcan.1, hnetworks.mpr hcan.2⟩

/-- Whatever is stored and removed, the entries keep pace with their
stamps. -/
theorem Follows.step (h : s.Follows LSAHeader.KeepsPace) {i : LsdbStep}
    (htick : i = .tick → s.CanAge) (hs' : s.step i = .ok s') :
    s'.Follows LSAHeader.KeepsPace := by
  have hrouterKey : ∀ a (st : Stamp LSARouter),
      LSARouter.headerOf.Follows LSAHeader.KeepsPace a st →
        a.key = st.keyOf LSARouter.key := fun a st ha => ha.key
  have hnetworkKey : ∀ a (st : Stamp LSANetwork),
      LSANetwork.headerOf.Follows LSAHeader.KeepsPace a st →
        a.key = st.keyOf LSANetwork.key := fun a st ha => ha.key
  cases i with
  | tick =>
      exact (h.tick_iff (fun _ _ _ hp => hp.tick_iff) hs').mpr (htick rfl)
  | installRouter data =>
      rw [← Except.ok.inj hs']
      exact ⟨Stamp.forall₂_insert hrouterKey h.routers
        (HeaderOf.follows_now _), h.networks⟩
  | installNetwork uninitMask data =>
      obtain ⟨lsdb, hlsdb, rfl⟩ := Outcome.map_eq_ok.mp hs'
      obtain ⟨lsa, hlsa, rfl⟩ := Option.map_eq_some_iff.mp
        (Outcome.ofOption_eq_ok.mp hlsdb)
      refine ⟨h.routers, ?_⟩
      rw [stampNetworks, hlsa]
      exact Stamp.forall₂_insert hnetworkKey h.networks
        (HeaderOf.follows_now _)
  | pushRouter lsa =>
      rw [← Except.ok.inj hs']
      exact ⟨Stamp.forall₂_push h.routers (HeaderOf.follows_now _),
        h.networks⟩
  | pushNetwork lsa =>
      rw [← Except.ok.inj hs']
      exact ⟨h.routers,
        Stamp.forall₂_push h.networks (HeaderOf.follows_now _)⟩
  | removeRouter id adv =>
      rw [← Except.ok.inj hs']
      exact ⟨Stamp.forall₂_erase hrouterKey h.routers _, h.networks⟩
  | removeNetwork id adv =>
      rw [← Except.ok.inj hs']
      exact ⟨h.routers, Stamp.forall₂_erase hnetworkKey h.networks _⟩

end AgedLsdb

/-! ## Copies of one instance -/

/-- The last criteria of `lsa_header_cmp`, for two ages in seconds. -/
def compareAges (x y : ℕ) : ℤ :=
  if maxAge.toNat ≤ x ∧ maxAge.toNat ≤ y then
    0
  else if maxAge.toNat ≤ x then
    -1
  else if maxAge.toNat ≤ y then
    1
  else if maxAgeDiff ≤ ((x : ℤ) - y).natAbs then
    if y < x then 1 else -1
  else
    0

/-- Two instances with the same sequence number and checksum are compared by
their ages. -/
theorem lsaHeaderCmp_of_ages {a b : LSAHeader} {x y : ℕ}
    (hseq : a.lsSeqNum = b.lsSeqNum) (hsum : a.lsChecksum = b.lsChecksum)
    (ha : a.lsAge.toNat = min x maxAge.toNat)
    (hb : b.lsAge.toNat = min y maxAge.toNat) :
    lsaHeaderCmp a b = compareAges x y := by
  have hmax : maxAge.toNat = 3600 := rfl
  rw [hmax] at ha hb
  simp only [lsaHeaderCmp, compareAges, hseq, hsum, ne_eq, not_true_eq_false,
    if_false, UInt16.lt_iff_toNat_lt, ← UInt16.toNat_inj, hmax, maxAgeDiff]
  split_ifs <;> omega

/-- A header in the database: as it is, as it was stored, and the number of
ticks since then. -/
structure LsaCopy where
  header : LSAHeader
  stored : LSAHeader
  ticks : ℕ

/-- The age the LSA was stored with and the seconds since then. -/
def LsaCopy.trueAge (c : LsaCopy) : ℕ := c.stored.lsAge.toNat + c.ticks

/-- The two are instances of one LSA, with the same sequence number and
checksum. -/
def LSAHeader.SameInstance (a b : LSAHeader) : Prop :=
  a.SameLsa b ∧ a.lsSeqNum = b.lsSeqNum ∧ a.lsChecksum = b.lsChecksum

namespace AgedLsdb

/-- The headers in the database. -/
def copies (s : AgedLsdb) : List LsaCopy :=
  List.zipWith (fun lsa stamp => ⟨lsa.header, stamp.stored.header,
      stamp.ticks⟩) s.lsdb.routerLsas s.routerStamps ++
    List.zipWith (fun lsa stamp => ⟨lsa.header, stamp.stored.header,
      stamp.ticks⟩) s.lsdb.networkLsas s.networkStamps

/-- Two copies of one instance are compared by their true ages. -/
def ComparedByAge (s t : AgedLsdb) : Prop :=
  ∀ c ∈ s.copies, ∀ d ∈ t.copies, c.stored.SameInstance d.stored →
    c.stored.lsAge ≤ maxAge → d.stored.lsAge ≤ maxAge →
      lsaHeaderCmp c.header d.header = compareAges c.trueAge d.trueAge

variable {s t : AgedLsdb} {R S : LSAHeader → LSAHeader → ℕ → Prop}

theorem Follows.imp (hRS : ∀ a stored ticks, R a stored ticks →
    S a stored ticks) (h : s.Follows R) : s.Follows S :=
  ⟨h.routers.imp fun _ _ ha => ⟨ha.rest, hRS _ _ _ ha.header⟩,
    h.networks.imp fun _ _ ha => ⟨ha.rest, hRS _ _ _ ha.header⟩⟩

/-- What holds of the entries and their stamps holds of the copies. -/
theorem Follows.copies (h : s.Follows R) :
    ∀ c ∈ s.copies, R c.header c.stored c.ticks := by
  rw [AgedLsdb.copies, List.forall_mem_append]
  constructor
  · exact forall_mem_zipWith
      (P := fun c : LsaCopy => R c.header c.stored c.ticks)
      (fun _ _ ha => ha.header) h.routers
  · exact forall_mem_zipWith
      (P := fun c : LsaCopy => R c.header c.stored c.ticks)
      (fun _ _ ha => ha.header) h.networks

/-- Where the LSAs have aged as they should, their copies are compared by
their true ages. -/
theorem Follows.comparedByAge (hs : s.Follows LSAHeader.HasAged)
    (ht : t.Follows LSAHeader.HasAged) : s.ComparedByAge t := by
  intro c hc d hd hsame hcAge hdAge
  have hcAged := hs.copies c hc
  have hdAged := ht.copies d hd
  refine lsaHeaderCmp_of_ages ?_ ?_ (hcAged.age hcAge) (hdAged.age hdAge)
  · rw [hcAged.rest, hdAged.rest]
    exact hsame.2.1
  · rw [hcAged.rest, hdAged.rest]
    exact hsame.2.2

end AgedLsdb

/-! ## Two databases -/

/-- Two databases, each with its own ageing thread. -/
structure AgedPair where
  first : AgedLsdb
  second : AgedLsdb

namespace AgedPair

/-- A step of either database. -/
def step (s : AgedPair) : LsdbStep ⊕ LsdbStep → Outcome AgedPair
  | .inl i => (s.first.step i).map fun first => { s with first := first }
  | .inr i => (s.second.step i).map fun second => { s with second := second }

/-- Every LSA has the age it should have, and otherwise what was stored; and
two copies of one instance are compared by their true ages. -/
structure AgesTruly (s : AgedPair) : Prop where
  first : s.first.Follows LSAHeader.HasAged
  second : s.second.Follows LSAHeader.HasAged
  compared : s.first.ComparedByAge s.second

/-- No round of an ageing thread finds an LSA whose age does not grow any more
although it is below MaxAge. -/
def TicksTell (s : AgedPair) : LsdbStep ⊕ LsdbStep → Prop
  | .inl .tick => s.first.CanAge
  | .inr .tick => s.second.CanAge
  | _ => True

/-- Either database keeps pace with its stamps. -/
structure KeepsPace (s : AgedPair) : Prop where
  first : s.first.Follows LSAHeader.KeepsPace
  second : s.second.Follows LSAHeader.KeepsPace

variable {s s' : AgedPair} {i : LsdbStep ⊕ LsdbStep}

theorem KeepsPace.agesTruly (h : s.KeepsPace) : s.AgesTruly := by
  have hfirst := h.first.imp fun _ _ _ hp => hp.hasAged
  have hsecond := h.second.imp fun _ _ _ hp => hp.hasAged
  exact ⟨hfirst, hsecond, hfirst.comparedByAge hsecond⟩

theorem KeepsPace.step (h : s.KeepsPace) (htell : s.TicksTell i)
    (hs' : s.step i = .ok s') : s'.KeepsPace := by
  cases i with
  | inl i =>
      obtain ⟨first, hfirst, rfl⟩ := Outcome.map_eq_ok.mp hs'
      refine ⟨h.first.step ?_ hfirst, h.second⟩
      rintro rfl
      exact htell
  | inr i =>
      obtain ⟨second, hsecond, rfl⟩ := Outcome.map_eq_ok.mp hs'
      refine ⟨h.first, h.second.step ?_ hsecond⟩
      rintro rfl
      exact htell

/-- A step that leaves every age as it should be finds no LSA at the end of its
ageing. -/
theorem KeepsPace.ticksTell (h : s.KeepsPace)
    (hnext : ∀ s', s.step i = .ok s' → s'.AgesTruly) : s.TicksTell i := by
  match i with
  | .inl .tick =>
      have hs' := (hnext _ rfl).first
      exact (h.first.tick_iff (fun _ _ _ hp => hp.hasAged_tick_iff) rfl).mp hs'
  | .inr .tick =>
      have hs' := (hnext _ rfl).second
      exact (h.second.tick_iff (fun _ _ _ hp => hp.hasAged_tick_iff) rfl).mp hs'
  | .inl (.installRouter _) | .inl (.installNetwork _ _)
  | .inl (.pushRouter _) | .inl (.pushNetwork _) | .inl (.removeRouter _ _)
  | .inl (.removeNetwork _ _) | .inr (.installRouter _)
  | .inr (.installNetwork _ _) | .inr (.pushRouter _)
  | .inr (.pushNetwork _) | .inr (.removeRouter _ _)
  | .inr (.removeNetwork _ _) => trivial

/-- In every interleaving of the rounds of the ageing threads with what is
stored and removed, the LSAs have the ages they should have exactly as long as
no round finds one with an age from 255 to below MaxAge. -/
theorem agesTruly_iff (first second : LSDB)
    (steps : List (LsdbStep ⊕ LsdbStep)) :
    Throughout step AgesTruly ⟨.ofLsdb first, .ofLsdb second⟩ steps ↔
      Along step TicksTell ⟨.ofLsdb first, .ofLsdb second⟩ steps :=
  throughout_iff_along (I := KeepsPace) (fun _ h => h.agesTruly)
    (fun _ _ _ h htell hs' => h.step htell hs')
    (fun _ _ h hnext => h.ticksTell hnext)
    ⟨AgedLsdb.follows_ofLsdb first, AgedLsdb.follows_ofLsdb second⟩

/-- A Router LSA without links, as it is received. -/
def plainRouterLsa : List UInt8 :=
  [0, 0, 2, 1, 2, 2, 2, 2, 2, 2, 2, 2, 128, 0, 0, 1, 0, 0, 0, 24, 0, 0, 0, 0]

/-- After 256 seconds an LSA that was stored with age 0 is 255 seconds old. -/
theorem age_stops_at_255 :
    ¬Throughout step AgesTruly ⟨.ofLsdb .empty, .ofLsdb .empty⟩
      (.inl (.installRouter (.ofList plainRouterLsa)) ::
        List.replicate 256 (.inl .tick)) := by
  have hreached : ∃ t, runFrom step ⟨.ofLsdb .empty, .ofLsdb .empty⟩
      (.inl (.installRouter (.ofList plainRouterLsa)) ::
        List.replicate 256 (.inl .tick)) = .ok t ∧
      ∃ c ∈ t.first.copies, c.stored.lsAge ≤ maxAge ∧
        c.header.lsAge.toNat = 255 ∧ c.trueAge = 256 :=
    Outcome.exists_of_completesWith (by decide +kernel)
  obtain ⟨t, hrun, c, hc, hle, hage, htrue⟩ := hreached
  refine not_throughout_of_run hrun fun h => ?_
  have haged := (h.first.copies c hc).age hle
  rw [LsaCopy.trueAge] at htrue
  rw [hage, htrue] at haged
  exact absurd haged (by decide)

end AgedPair
end OspfLite
