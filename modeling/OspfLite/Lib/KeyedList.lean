import Mathlib.Tactic

/-!
# Lists searched by key

A list whose entries carry a key, searched from the front, erased by key and
extended at the back.  As long as no key occurs twice, the three operations
obey the laws of a finite map, whatever the order of the entries.
-/

namespace OspfLite
namespace KeyedList

variable {α κ : Type*} [DecidableEq κ] (key : α → κ)

/-- The first entry under `k`. -/
def lookup (l : List α) (k : κ) : Option α :=
  l.find? fun a => decide (key a = k)

/-- The list without the entries under `k`. -/
def erase (l : List α) (k : κ) : List α :=
  l.filter fun a => decide (key a ≠ k)

/-- Replace whatever is stored under the key of `a`. -/
def insert (l : List α) (a : α) : List α :=
  erase key l (key a) ++ [a]

/-- All entries under `k`. -/
def under (l : List α) (k : κ) : List α :=
  l.filter fun a => decide (key a = k)

/-- No key occurs twice. -/
def Unique (l : List α) : Prop :=
  (l.map key).Nodup

variable {key}

@[simp] theorem lookup_nil (k : κ) : lookup key [] k = none := rfl

theorem lookup_eq_none_iff {l : List α} {k : κ} :
    lookup key l k = none ↔ ∀ a ∈ l, key a ≠ k := by
  simp [lookup, List.find?_eq_none]

/-- What is found under a key has that key. -/
theorem key_of_lookup {l : List α} {k : κ} {a : α}
    (h : lookup key l k = some a) : key a = k := by
  simpa using List.find?_some h

theorem lookup_append (l m : List α) (k : κ) :
    lookup key (l ++ m) k = (lookup key l k).or (lookup key m k) := by
  simp [lookup, List.find?_append]

theorem lookup_singleton (a : α) (k : κ) :
    lookup key [a] k = if key a = k then some a else none := by
  by_cases h : key a = k <;> simp [lookup, h]

@[simp] theorem lookup_erase_self (l : List α) (k : κ) :
    lookup key (erase key l k) k = none := by
  rw [lookup_eq_none_iff]
  intro a ha
  simpa [erase] using (List.mem_filter.mp ha).2

@[simp] theorem under_erase_self (l : List α) (k : κ) :
    under key (erase key l k) k = [] := by
  rw [under, List.filter_eq_nil_iff]
  intro a ha
  simpa [erase] using (List.mem_filter.mp ha).2

theorem under_append (l m : List α) (k : κ) :
    under key (l ++ m) k = under key l k ++ under key m k :=
  List.filter_append l m

@[simp] theorem under_singleton_self (a : α) :
    under key [a] (key a) = [a] := by
  simp [under]

/-- Where the search fails, there is no entry. -/
theorem under_of_lookup_eq_none {l : List α} {k : κ}
    (h : lookup key l k = none) : under key l k = [] := by
  rw [under, List.filter_eq_nil_iff]
  intro a ha
  simpa using lookup_eq_none_iff.mp h a ha

/-! ## Entries that contain values -/

/-- Searching the values and searching the entries find the same. -/
theorem lookup_map {β : Type*} (f : β → α) (l : List β) (k : κ) :
    lookup key (l.map f) k = (lookup (fun b => key (f b)) l k).map f :=
  List.find?_map

theorem erase_map {β : Type*} (f : β → α) (l : List β) (k : κ) :
    erase key (l.map f) k = (erase (fun b => key (f b)) l k).map f :=
  List.filter_map

/-! ## Searching after a change -/

/-- Erasing one key leaves the search for another as it was. -/
theorem lookup_erase_of_ne {k k' : κ} (hne : k' ≠ k) (l : List α) :
    lookup key (erase key l k) k' = lookup key l k' := by
  induction l with
  | nil => rfl
  | cons a l ih =>
      by_cases ha : key a = k
      · have hne' : key a ≠ k' := fun h => hne (h.symm.trans ha)
        have herase : erase key (a :: l) k = erase key l k := by
          simp [erase, ha]
        rw [herase, ih]
        simp [lookup, hne']
      · have herase : erase key (a :: l) k = a :: erase key l k := by
          simp [erase, ha]
        rw [herase]
        by_cases ha' : key a = k'
        · simp [lookup, ha']
        · simpa [lookup, ha'] using ih

/-- The entry just inserted is the one found. -/
@[simp] theorem lookup_insert_self (l : List α) (a : α) :
    lookup key (insert key l a) (key a) = some a := by
  rw [insert, lookup_append, lookup_erase_self, lookup_singleton]
  simp

/-- Inserting under one key leaves the search for another as it was. -/
theorem lookup_insert_of_ne {k : κ} {a : α} (hne : k ≠ key a)
    (l : List α) :
    lookup key (insert key l a) k = lookup key l k := by
  rw [insert, lookup_append, lookup_erase_of_ne hne, lookup_singleton,
    if_neg hne.symm]
  simp

theorem lookup_erase (l : List α) (k k' : κ) :
    lookup key (erase key l k) k' =
      if k' = k then none else lookup key l k' := by
  split_ifs with h
  · rw [h, lookup_erase_self]
  · exact lookup_erase_of_ne h l

theorem lookup_insert (l : List α) (a : α) (k : κ) :
    lookup key (insert key l a) k =
      if k = key a then some a else lookup key l k := by
  split_ifs with h
  · rw [h, lookup_insert_self]
  · exact lookup_insert_of_ne h l

/-- A `push_back` under a new key. -/
theorem lookup_push {l : List α} {a : α}
    (hnone : lookup key l (key a) = none) (k : κ) :
    lookup key (l ++ [a]) k = if k = key a then some a else lookup key l k := by
  rw [lookup_append, lookup_singleton]
  split_ifs with h h' h'
  · rw [← h, hnone, Option.none_or]
  · exact absurd h.symm h'
  · exact absurd h'.symm h
  · rw [Option.or_none]

/-- Where no key occurs twice, the search finds every entry under its own
key. -/
theorem Unique.lookup_of_mem {l : List α} (h : Unique key l) {a : α}
    (ha : a ∈ l) : lookup key l (key a) = some a := by
  induction l with
  | nil => cases ha
  | cons b l ih =>
      have hnodup := List.nodup_cons.mp h
      by_cases hb : key b = key a
      · rcases List.mem_cons.mp ha with rfl | hmem
        · simp [lookup]
        · exact absurd (hb ▸ List.mem_map_of_mem hmem) hnodup.1
      · rcases List.mem_cons.mp ha with rfl | hmem
        · exact absurd rfl hb
        · simpa [lookup, hb] using ih hnodup.2 hmem

omit [DecidableEq κ] in
@[simp] theorem unique_nil : Unique key ([] : List α) :=
  List.nodup_nil

theorem Unique.erase {l : List α} (h : Unique key l) (k : κ) :
    Unique key (erase key l k) :=
  h.sublist (List.filter_sublist.map key)

/-- A `push_back` keeps the keys distinct when the search for its key
fails. -/
theorem Unique.push {l : List α} (h : Unique key l) {a : α}
    (hnone : lookup key l (key a) = none) : Unique key (l ++ [a]) := by
  rw [Unique, List.map_append, List.map_singleton]
  refine List.Nodup.append h (List.nodup_singleton _) ?_
  rw [List.disjoint_singleton, List.mem_map]
  rintro ⟨b, hb, hkey⟩
  exact lookup_eq_none_iff.mp hnone b hb hkey

theorem Unique.insert {l : List α} (h : Unique key l) (a : α) :
    Unique key (insert key l a) :=
  (h.erase (key a)).push (lookup_erase_self l (key a))

end KeyedList
end OspfLite
