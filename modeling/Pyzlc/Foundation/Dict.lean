import Mathlib.Data.List.AList

/-!
# Insertion-ordered dictionaries

The dictionaries of the source language iterate in insertion order: storing under
a present key keeps its position, storing under an absent key appends.  Mathlib's
association lists carry the no-duplicate-keys proof; only the order-preserving
store is missing there.
-/

namespace Pyzlc.Foundation

universe u v

/-- A dictionary, by value, in iteration order. -/
abbrev Dict (κ : Type u) (ν : Type v) := AList fun _ : κ => ν

namespace Dict

variable {κ : Type u} {ν : Type v}

/-- The values in iteration order. -/
def values (dict : Dict κ ν) : List ν := dict.entries.map fun entry => entry.2

/-- Replace every value in place. -/
def mapValues {μ : Type*} (image : ν → μ) (dict : Dict κ ν) : Dict κ μ :=
  ⟨dict.entries.map fun entry => ⟨entry.1, image entry.2⟩, by
    rw [List.NodupKeys, List.keys, List.map_map]
    exact dict.nodupKeys⟩

variable [DecidableEq κ]

/-- Store a value: in place under a present key, at the end under a new one. -/
def set (dict : Dict κ ν) (key : κ) (value : ν) : Dict κ ν :=
  if present : key ∈ dict then
    dict.replace key value
  else
    ⟨dict.entries ++ [⟨key, value⟩], by
      have fresh : key ∉ dict.entries.keys := present
      rw [List.NodupKeys, List.keys, List.map_append, List.nodup_append]
      refine ⟨dict.nodupKeys, by simp, ?_⟩
      rintro other otherMem _ last rfl
      obtain rfl : other = key := List.mem_singleton.1 last
      exact fresh otherMem⟩

private theorem kreplace_cons_eq {key : κ} {value : ν}
    (entry : Sigma fun _ : κ => ν) (rest : List (Sigma fun _ : κ => ν))
    (same : key = entry.1) :
    (entry :: rest).kreplace key value = ⟨key, value⟩ :: rest :=
  List.lookmap_cons_some _ _ (by simp [same])

private theorem kreplace_cons_ne {key : κ} {value : ν}
    (entry : Sigma fun _ : κ => ν) (rest : List (Sigma fun _ : κ => ν))
    (different : key ≠ entry.1) :
    (entry :: rest).kreplace key value = entry :: rest.kreplace key value :=
  List.lookmap_cons_none _ _ (by simp [different])

private theorem dlookup_kreplace_self {key : κ} {value : ν} :
    ∀ {entries : List (Sigma fun _ : κ => ν)}, key ∈ entries.keys →
      (entries.kreplace key value).dlookup key = some value := by
  intro entries
  induction entries with
  | nil => simp
  | cons entry rest ih =>
      intro present
      by_cases same : key = entry.1
      · rw [kreplace_cons_eq _ _ same, List.dlookup_cons_eq]
      · have later : key ∈ rest.keys := by simpa [same] using present
        rw [kreplace_cons_ne _ _ same, List.dlookup_cons_ne _ _ same]
        exact ih later

private theorem dlookup_kreplace_ne {key other : κ} {value : ν} (different : other ≠ key) :
    ∀ entries : List (Sigma fun _ : κ => ν),
      (entries.kreplace key value).dlookup other = entries.dlookup other := by
  intro entries
  induction entries with
  | nil => simp [List.kreplace]
  | cons entry rest ih =>
      by_cases same : key = entry.1
      · have skip : other ≠ entry.1 := fun equal => different (equal.trans same.symm)
        rw [kreplace_cons_eq _ _ same, List.dlookup_cons_ne _ _ skip,
          List.dlookup_cons_ne _ _ different]
      · rw [kreplace_cons_ne _ _ same]
        by_cases found : other = entry.1
        · cases entry with
          | mk entryKey entryValue =>
              cases found
              rw [List.dlookup_cons_eq, List.dlookup_cons_eq]
        · rw [List.dlookup_cons_ne _ _ found, List.dlookup_cons_ne _ _ found, ih]

@[simp] theorem lookup_set_self (dict : Dict κ ν) (key : κ) (value : ν) :
    (dict.set key value).lookup key = some value := by
  unfold set
  split
  next present => exact dlookup_kreplace_self present
  next absent =>
    have missing : dict.entries.dlookup key = none := List.dlookup_eq_none.2 absent
    simp [AList.lookup, List.dlookup_append, missing]

theorem lookup_set_ne (dict : Dict κ ν) {key other : κ} (value : ν)
    (different : other ≠ key) :
    (dict.set key value).lookup other = dict.lookup other := by
  unfold set
  split
  next => exact dlookup_kreplace_ne different _
  next =>
    have missing : List.dlookup other [(⟨key, value⟩ : Sigma fun _ : κ => ν)] = none := by
      simp [different]
    simp [AList.lookup, List.dlookup_append, missing]

/-- What a store does to every lookup. -/
theorem lookup_set (dict : Dict κ ν) (key other : κ) (value : ν) :
    (dict.set key value).lookup other =
      if other = key then some value else dict.lookup other := by
  split
  next same => rw [same, lookup_set_self]
  next different => exact lookup_set_ne dict value different

@[simp] theorem mem_set (dict : Dict κ ν) (key other : κ) (value : ν) :
    other ∈ dict.set key value ↔ other = key ∨ other ∈ dict := by
  rw [← AList.lookup_isSome, ← AList.lookup_isSome, lookup_set]
  split <;> simp_all

/-- What an erasure does to every lookup. -/
theorem lookup_erase (dict : Dict κ ν) (key other : κ) :
    (AList.erase key dict).lookup other =
      if other = key then none else dict.lookup other := by
  split
  next same => rw [same, AList.lookup_erase]
  next different => exact AList.lookup_erase_ne different

theorem mem_iff_lookup {dict : Dict κ ν} {key : κ} :
    key ∈ dict ↔ ∃ value, dict.lookup key = some value := by
  rw [← AList.lookup_isSome, Option.isSome_iff_exists]

theorem mem_of_lookup {dict : Dict κ ν} {key : κ} {value : ν}
    (found : dict.lookup key = some value) : key ∈ dict :=
  mem_iff_lookup.2 ⟨value, found⟩

theorem mem_entries_iff {dict : Dict κ ν} {key : κ} {value : ν} :
    ⟨key, value⟩ ∈ dict.entries ↔ dict.lookup key = some value :=
  (AList.mem_lookup_iff (β := fun _ : κ => ν)).symm

theorem mem_values_iff {dict : Dict κ ν} {value : ν} :
    value ∈ dict.values ↔ ∃ key, dict.lookup key = some value := by
  simp only [values, List.mem_map]
  constructor
  · rintro ⟨⟨key, _⟩, member, rfl⟩
    exact ⟨key, mem_entries_iff.1 member⟩
  · rintro ⟨key, found⟩
    exact ⟨⟨key, value⟩, mem_entries_iff.2 found, rfl⟩

theorem lookup_mapValues {μ : Type*} (image : ν → μ) (dict : Dict κ ν) (key : κ) :
    (dict.mapValues image).lookup key = (dict.lookup key).map image := by
  cases dict with
  | mk entries nodupKeys =>
      show (entries.map fun entry =>
          (⟨entry.1, image entry.2⟩ : Sigma fun _ : κ => μ)).dlookup key =
        (entries.dlookup key).map image
      clear nodupKeys
      induction entries with
      | nil => rfl
      | cons entry rest ih =>
          cases entry with
          | mk entryKey entryValue =>
              by_cases same : key = entryKey
              · cases same
                rw [List.map_cons, List.dlookup_cons_eq, List.dlookup_cons_eq]
                rfl
              · rw [List.map_cons, List.dlookup_cons_ne _ _ same, List.dlookup_cons_ne _ _ same, ih]

end Dict

end Pyzlc.Foundation
