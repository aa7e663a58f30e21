import Fptn.Lib.UnorderedMap

/-!
# Pools of leased resources

A pool whose resources are either free or held, and an index from a resource's
key to its holder.  `Leased` says that nothing is lost or duplicated and that
the index is exact; it survives leasing a free resource and giving one back.
-/

namespace Fptn.LeasedPool

open Fptn.UnorderedMap

variable {α κ ν : Type} [DecidableEq κ]

/-- The free resources and those of the holders make up the pool. -/
structure Leased (key : α → κ) (pool free : List α) (owner : Map κ ν)
    (holders : List ν) (held : ν → α) : Prop where
  conserved : (free ++ holders.map held).Perm pool
  indexed : ∀ wanted holder, owner.lookup wanted = some holder ↔
    holder ∈ holders ∧ key (held holder) = wanted

variable {key : α → κ} {pool free : List α} {owner : Map κ ν}
  {holders : List ν} {held : ν → α}

theorem leased_start : Leased key pool pool ∅ ([] : List ν) held := by
  constructor
  · simp
  · simp

namespace Leased

theorem held_mem (leased : Leased key pool free owner holders held)
    {holder : ν} (member : holder ∈ holders) : held holder ∈ pool :=
  leased.conserved.mem_iff.mp
    (List.mem_append_right _ (List.mem_map_of_mem member))

/-- A resource of the pool is found with whoever holds it. -/
theorem lookup_key (leased : Leased key pool free owner holders held)
    (nodup : (pool.map key).Nodup) {resource : α}
    (member : resource ∈ pool) {holder : ν} :
    owner.lookup (key resource) = some holder ↔
      holder ∈ holders ∧ held holder = resource := by
  rw [leased.indexed]
  refine and_congr_right fun holds => ?_
  constructor
  · intro same
    exact List.inj_on_of_nodup_map nodup (leased.held_mem holds) member same
  · rintro rfl
    rfl

/-- Only what the holders hold matters. -/
theorem congr {other : ν → α}
    (leased : Leased key pool free owner holders held)
    (same : ∀ holder ∈ holders, other holder = held holder) :
    Leased key pool free owner holders other := by
  constructor
  · rw [List.map_congr_left same]
    exact leased.conserved
  · intro wanted holder
    rw [leased.indexed]
    refine and_congr_right fun member => ?_
    rw [same holder member]

/-- The order of the holders does not matter. -/
theorem perm {others : List ν}
    (leased : Leased key pool free owner holders held)
    (reordered : holders.Perm others) :
    Leased key pool free owner others held := by
  constructor
  · exact
      ((reordered.symm.map held).append_left free).trans leased.conserved
  · intro wanted holder
    rw [leased.indexed, reordered.mem_iff]

/-- The key of a free resource is not in the index. -/
theorem lookup_eq_none {front : List α} {resource : α}
    (leased : Leased key pool (front ++ [resource]) owner holders held)
    (nodup : (pool.map key).Nodup) :
    owner.lookup (key resource) = none := by
  rw [Option.eq_none_iff_forall_ne_some]
  intro holder found
  obtain ⟨member, same⟩ := (leased.indexed _ _).mp found
  have distinct :
      ((front ++ [resource] ++ holders.map held).map key).Nodup :=
    (leased.conserved.map key).nodup_iff.mpr nodup
  rw [List.map_append] at distinct
  have free : key resource ∈ (front ++ [resource]).map key := by
    simp
  have taken : key resource ∈ (holders.map held).map key :=
    same ▸ List.mem_map_of_mem (List.mem_map_of_mem member)
  exact List.disjoint_of_nodup_append distinct free taken

theorem acquire {front : List α} {resource : α} {holder : ν}
    (leased : Leased key pool (front ++ [resource]) owner holders held)
    (nodup : (pool.map key).Nodup) (takes : held holder = resource) :
    Leased key pool front (insert (key resource) holder owner)
      (holder :: holders) held := by
  subst takes
  constructor
  · refine List.Perm.trans ?_ leased.conserved
    simp
  · intro wanted other
    rw [lookup_insert_eq_some (leased.lookup_eq_none nodup),
      leased.indexed, List.mem_cons]
    constructor
    · rintro (⟨rfl, rfl⟩ | ⟨member, same⟩)
      · exact ⟨Or.inl rfl, rfl⟩
      · exact ⟨Or.inr member, same⟩
    · rintro ⟨rfl | member, same⟩
      · exact Or.inl ⟨same.symm, rfl⟩
      · exact Or.inr ⟨member, same⟩

theorem release {holder : ν}
    (leased : Leased key pool free owner (holder :: holders) held)
    (nodup : (pool.map key).Nodup) :
    Leased key pool (free ++ [held holder])
      (owner.erase (key (held holder))) holders held := by
  have distinct :
      ((free ++ (holder :: holders).map held).map key).Nodup :=
    (leased.conserved.map key).nodup_iff.mpr nodup
  have different : ∀ other ∈ holders,
      key (held other) ≠ key (held holder) := by
    rw [List.map_append, List.map_cons, List.map_cons] at distinct
    have tail := (List.nodup_append.mp distinct).2.1
    intro other member same
    refine (List.nodup_cons.mp tail).1 (same ▸ ?_)
    exact List.mem_map_of_mem (List.mem_map_of_mem member)
  constructor
  · refine List.Perm.trans ?_ leased.conserved
    simp
  · intro wanted other
    rw [lookup_erase_eq_some, leased.indexed, List.mem_cons]
    constructor
    · rintro ⟨notErased, rfl | member, same⟩
      · exact absurd same.symm notErased
      · exact ⟨member, same⟩
    · rintro ⟨member, rfl⟩
      exact ⟨different other member, Or.inr member, rfl⟩

end Leased

end Fptn.LeasedPool
