import Mathlib.Data.List.AList

/-!
# Maps with non-overwriting insertion

Association lists without duplicate keys, with the operations of an unordered
map: an insertion which leaves an existing entry alone, erasure, and the list
of values, whose order means nothing and which is therefore compared up to
permutation.
-/

namespace Fptn.UnorderedMap

variable {κ ν : Type} [DecidableEq κ]

/-- A finite map from keys to values. -/
abbrev Map (κ ν : Type) := AList fun _ : κ => ν

/-- Insert an entry unless its key is present. -/
def insert (key : κ) (value : ν) (map : Map κ ν) :
    Map κ ν :=
  if key ∈ map then map else AList.insert key value map

def values (map : Map κ ν) : List ν :=
  map.entries.map Sigma.snd

variable {map : Map κ ν} {key other : κ} {value : ν}

theorem lookup_insert (absent : map.lookup key = none) :
    (insert key value map).lookup key = some value := by
  rw [insert, if_neg (AList.lookup_eq_none.mp absent),
    AList.lookup_insert]

theorem lookup_insert_ne (different : other ≠ key) :
    (insert key value map).lookup other = map.lookup other := by
  unfold insert
  split
  · rfl
  · exact AList.lookup_insert_ne different

/-- Lookups after inserting a new key. -/
theorem lookup_insert_eq_some {found : ν}
    (absent : map.lookup key = none) :
    (insert key value map).lookup other = some found ↔
      other = key ∧ found = value ∨ map.lookup other = some found := by
  by_cases same : other = key
  · subst same
    rw [lookup_insert absent, absent]
    simp [eq_comm]
  · rw [lookup_insert_ne same]
    simp [same]

/-- Whatever is found was there, or has been inserted. -/
theorem lookup_of_insert {found : ν}
    (there : (insert key value map).lookup other = some found) :
    map.lookup other = some found ∨ found = value := by
  cases absent : map.lookup key with
  | none =>
      exact
        ((lookup_insert_eq_some absent).mp there).symm.imp id And.right
  | some stored =>
      have member : key ∈ map :=
        AList.lookup_isSome.mp (Option.isSome_iff_exists.mpr ⟨_, absent⟩)
      rw [insert, if_pos member] at there
      exact Or.inl there

theorem lookup_erase_eq_some {found : ν} :
    (map.erase key).lookup other = some found ↔
      other ≠ key ∧ map.lookup other = some found := by
  by_cases same : other = key
  · subst same
    simp
  · rw [AList.lookup_erase_ne same]
    simp [same]

theorem lookup_eq_some : map.lookup key = some value ↔
    ⟨key, value⟩ ∈ map.entries :=
  AList.mem_lookup_iff

theorem mem_values : value ∈ values map ↔
    ∃ key, map.lookup key = some value := by
  simp only [values, List.mem_map, lookup_eq_some]
  constructor
  · rintro ⟨⟨key, found⟩, member, rfl⟩
    exact ⟨key, member⟩
  · rintro ⟨key, member⟩
    exact ⟨⟨key, value⟩, member, rfl⟩

theorem values_insert (absent : map.lookup key = none) :
    values (insert key value map) = value :: values map := by
  have notMem : key ∉ map := AList.lookup_eq_none.mp absent
  rw [insert, if_neg notMem, values, AList.entries_insert_of_notMem notMem]
  rfl

theorem values_erase (found : map.lookup key = some value) :
    (values map).Perm (value :: values (map.erase key)) := by
  have member : key ∈ map.entries.keys :=
    AList.mem_keys.mp (AList.lookup_isSome.mp (by simp [found]))
  obtain ⟨stored, front, back, _, entries, erased⟩ :=
    List.exists_of_kerase member
  have same : stored = value := by
    have storedThere : map.lookup key = some stored := by
      rw [lookup_eq_some, entries]
      simp
    exact Option.some.inj (storedThere.symm.trans found)
  have erasedEntries : (map.erase key).entries = front ++ back := erased
  rw [values, values, entries, erasedEntries, same]
  simp only [List.map_append, List.map_cons]
  exact List.perm_middle

/-- Distinct keys hold distinct values when each value knows its key. -/
theorem values_nodup {keyOf : ν → κ}
    (keyed : ∀ key value, map.lookup key = some value →
      keyOf value = key) :
    (values map).Nodup := by
  have keysOf : (values map).map keyOf = map.entries.keys := by
    rw [values, List.map_map, List.keys]
    refine List.map_congr_left fun entry member => ?_
    exact keyed entry.1 entry.2 (lookup_eq_some.mpr member)
  have nodup : ((values map).map keyOf).Nodup := by
    rw [keysOf]
    exact map.keys_nodup
  exact nodup.of_map

end Fptn.UnorderedMap
