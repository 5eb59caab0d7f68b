/-
Module: OperationClasses.Proofs.Accessor.Reduction
Purpose: Reduction loses no runtime type: what some path of a field admits, a surviving path admits.
Main exports: Possible, Path.Compatible, Path.compatible_of_composite, mem_resolve_iff, compatible_iff_mem_resolve,
  covered_iff_reduce, mem_coveredTypes
-/
import OperationClasses.Accessor.Path
import OperationClasses.Fallible

namespace OperationClasses

/-- A value of a named type can have an object type at run time. -/
def Possible (s : Schema) (type t : String) : Prop :=
  ∃ types, s.runtimeTypes type = .ok types ∧ t ∈ types

/-- Every fragment around a selection applies to an object type. -/
def Path.Compatible (s : Schema) (p : Path) (t : String) : Prop :=
  ∃ types, p.compatible s = .ok types ∧ t ∈ types

/-! ### Chains of fragments -/

/-- The object types of a composite type can be told. -/
theorem Schema.runtimeTypes_of_composite {s : Schema} {name : String} {type : TypeDefinition}
    (known : s.find? name = some type) (composite : type.body.isComposite) :
    ∃ types, s.runtimeTypes name = .ok types := by
  obtain ⟨own, directives, body⟩ := type
  unfold runtimeTypes possibleTypes
  rw [known]
  cases body with
  | object | interface | union => exact ⟨_, rfl⟩
  | scalar | enum | input => cases composite

namespace Path

/-- Narrowing keeps the types that are possible for every condition. -/
theorem mem_narrow {s : Schema} {conditions : List String} {types narrowed : NameSet}
    (h : narrow s types conditions = .ok narrowed) {t : String} :
    t ∈ narrowed ↔ t ∈ types ∧ ∀ c ∈ conditions, Possible s c t := by
  induction conditions generalizing types with
  | nil =>
    cases h
    simp
  | cons c rest ih =>
    obtain ⟨admitted, hc, h⟩ := bind_ok h
    have admits : Possible s c t ↔ t ∈ admitted := by
      constructor
      · rintro ⟨types', h', ht⟩
        rw [hc] at h'
        cases h'
        exact ht
      · exact fun ht => ⟨admitted, hc, ht⟩
    rw [ih h, NameSet.mem_inter, List.forall_mem_cons, admits, and_assoc]

/-- A type is compatible with a path exactly if it is possible for the owner and for every condition. -/
theorem mem_compatible {s : Schema} {p : Path} {types : NameSet} (h : p.compatible s = .ok types)
    {t : String} : t ∈ types ↔ Possible s p.owner t ∧ ∀ c ∈ p.conditions, Possible s c t := by
  obtain ⟨own, hown, h⟩ := bind_ok h
  rw [mem_narrow h]
  constructor
  · rintro ⟨ht, rest⟩
    exact ⟨⟨own, hown, ht⟩, rest⟩
  · rintro ⟨⟨types', h', ht⟩, rest⟩
    rw [hown] at h'
    cases h'
    exact ⟨ht, rest⟩

/-- The types of a path are possible for its owner. -/
theorem Compatible.possible {s : Schema} {p : Path} {t : String} (h : p.Compatible s t) :
    Possible s p.owner t := by
  obtain ⟨types, hc, ht⟩ := h
  exact ((mem_compatible hc).1 ht).1

/-- The types that pass conditions on composite types can be told. -/
theorem narrow_of_composite {s : Schema} {conditions : List String}
    (composite : ∀ c ∈ conditions, ∃ type, s.find? c = some type ∧ type.body.isComposite)
    (types : NameSet) :
    ∃ narrowed, narrow s types conditions = .ok narrowed := by
  induction conditions generalizing types with
  | nil => exact ⟨types, rfl⟩
  | cons c rest ih =>
    obtain ⟨⟨type, known, isComposite⟩, composite⟩ := List.forall_mem_cons.1 composite
    obtain ⟨admitted, hc⟩ := Schema.runtimeTypes_of_composite known isComposite
    obtain ⟨narrowed, h⟩ := ih composite (types ∩ admitted)
    exact ⟨narrowed, by rw [narrow, hc, ← h]; rfl⟩

/-- The types that pass a chain of composite types can be told. -/
theorem compatible_of_composite {s : Schema} {p : Path}
    (composite : ∀ c ∈ p.chain, ∃ type, s.find? c = some type ∧ type.body.isComposite) :
    ∃ types, p.compatible s = .ok types := by
  obtain ⟨⟨type, known, isComposite⟩, composite⟩ := List.forall_mem_cons.1 composite
  obtain ⟨own, hown⟩ := Schema.runtimeTypes_of_composite known isComposite
  obtain ⟨narrowed, h⟩ := narrow_of_composite composite own
  exact ⟨narrowed, by rw [Path.compatible, hown, ← h]; rfl⟩

end Path

/-! ### Paths with their types -/

/-- The resolved paths are the given ones, each with its compatible types. -/
theorem compatible_of_mem_resolve {s : Schema} {paths : List Path} {resolved : List TypedPath}
    (h : TypedPath.resolve s paths = .ok resolved) {p : TypedPath} (hp : p ∈ resolved) :
    p.path ∈ paths ∧ p.path.compatible s = .ok p.types := by
  obtain ⟨path, hpath, h⟩ := mapM_ok_right h p hp
  obtain ⟨types, hc, h⟩ := bind_ok h
  cases h
  exact ⟨hpath, hc⟩

/-- A path is among the resolved ones with exactly its compatible types. -/
theorem mem_resolve_iff {s : Schema} {paths : List Path} {typed : List TypedPath}
    (resolved : TypedPath.resolve s paths = .ok typed) (p : TypedPath) :
    p ∈ typed ↔ p.path ∈ paths ∧ p.path.compatible s = .ok p.types := by
  constructor
  · exact compatible_of_mem_resolve resolved
  · rintro ⟨hp, told⟩
    obtain ⟨q, hq, same⟩ := mapM_ok_left resolved p.path hp
    rw [told] at same
    cases same
    exact hq

/-- A type is compatible with a given path exactly if it is among the types of that path resolved. -/
theorem compatible_iff_mem_resolve {s : Schema} {paths : List Path} {resolved : List TypedPath}
    (h : TypedPath.resolve s paths = .ok resolved) {t : String} :
    (∃ p ∈ paths, p.Compatible s t) ↔ ∃ p ∈ resolved, t ∈ p.types := by
  constructor
  · rintro ⟨path, hpath, types, hc, ht⟩
    obtain ⟨p, hp, h⟩ := mapM_ok_left h path hpath
    rw [hc] at h
    cases h
    exact ⟨_, hp, ht⟩
  · rintro ⟨p, hp, ht⟩
    obtain ⟨hpath, hc⟩ := compatible_of_mem_resolve h hp
    exact ⟨p.path, hpath, p.types, hc, ht⟩

/-! ### Reduction -/

/-- What was kept stays. -/
theorem mem_keepUncovered_of_kept {paths kept : List TypedPath} {p : TypedPath} (h : p ∈ kept) :
    p ∈ keepUncovered kept paths := by
  induction paths generalizing kept with
  | nil => exact h
  | cons q rest ih =>
    unfold keepUncovered
    split
    · exact ih h
    · exact ih (List.mem_append_left _ h)

/-- Whatever is kept was kept before or is one of the paths gone through. -/
theorem mem_of_mem_keepUncovered {paths kept : List TypedPath} {p : TypedPath}
    (h : p ∈ keepUncovered kept paths) : p ∈ kept ∨ p ∈ paths := by
  induction paths generalizing kept with
  | nil => exact Or.inl h
  | cons q rest ih =>
    unfold keepUncovered at h
    split at h
    · exact (ih h).imp id (List.mem_cons_of_mem _)
    · rcases ih h with h | h
      · rcases List.mem_append.1 h with h | h
        · exact Or.inl h
        · exact Or.inr (List.mem_cons.2 (Or.inl (List.mem_singleton.1 h)))
      · exact Or.inr (List.mem_cons_of_mem _ h)

/-- The types of every path gone through are types of one kept path. -/
theorem subset_of_keepUncovered {paths kept : List TypedPath} {p : TypedPath} (h : p ∈ paths) :
    ∃ k ∈ keepUncovered kept paths, ∀ t ∈ p.types, t ∈ k.types := by
  induction paths generalizing kept with
  | nil => exact absurd h List.not_mem_nil
  | cons q rest ih =>
    unfold keepUncovered
    split
    · rename_i covered
      rcases List.mem_cons.1 h with rfl | h
      · obtain ⟨k, hk, sub⟩ := List.any_eq_true.1 covered
        exact ⟨k, mem_keepUncovered_of_kept hk, NameSet.subset_iff.1 sub⟩
      · exact ih h
    · rcases List.mem_cons.1 h with rfl | h
      · refine ⟨p, mem_keepUncovered_of_kept ?_, fun t ht => ht⟩
        exact List.mem_append_right _ (List.mem_singleton.2 rfl)
      · exact ih h

/-- A path with some type is a candidate. -/
theorem types_nonempty_iff {p : TypedPath} : (!p.types.isEmpty) = true ↔ ∃ t, t ∈ p.types := by
  unfold NameSet.isEmpty
  cases h : p.types.toList with
  | nil =>
    constructor
    · simp
    · rintro ⟨t, ht⟩
      rw [← NameSet.mem_toList, h] at ht
      exact absurd ht List.not_mem_nil
  | cons t rest =>
    refine ⟨fun _ => ⟨t, ?_⟩, fun _ => rfl⟩
    rw [← NameSet.mem_toList, h]
    exact List.mem_cons_self

/-- A surviving path is one of the paths and has a type. -/
theorem mem_of_reduce {paths : List TypedPath} {p : TypedPath} (h : p ∈ reducePaths paths) :
    p ∈ paths ∧ ∃ t, t ∈ p.types := by
  rcases mem_of_mem_keepUncovered h with h | h
  · exact absurd h List.not_mem_nil
  · obtain ⟨hp, some⟩ := List.mem_filter.1 (List.mem_mergeSort.1 h)
    exact ⟨hp, types_nonempty_iff.1 some⟩

/-- The types of every path are types of one surviving path, if it has any. -/
theorem subset_of_reduce {paths : List TypedPath} {p : TypedPath} (hp : p ∈ paths) {t : String}
    (ht : t ∈ p.types) : ∃ k ∈ reducePaths paths, ∀ t ∈ p.types, t ∈ k.types := by
  apply subset_of_keepUncovered
  rw [List.mem_mergeSort]
  exact List.mem_filter.2 ⟨hp, types_nonempty_iff.2 ⟨t, ht⟩⟩

/-- A type of some path is a type of a surviving one, and the other way round. -/
theorem covered_iff_reduce {paths : List TypedPath} {t : String} :
    (∃ p ∈ reducePaths paths, t ∈ p.types) ↔ ∃ p ∈ paths, t ∈ p.types := by
  constructor
  · rintro ⟨p, hp, ht⟩
    exact ⟨p, (mem_of_reduce hp).1, ht⟩
  · rintro ⟨p, hp, ht⟩
    obtain ⟨k, hk, sub⟩ := subset_of_reduce hp ht
    exact ⟨k, hk, sub t ht⟩

/-- The covered types are those of the paths. -/
theorem mem_coveredTypes {paths : List TypedPath} {t : String} :
    t ∈ coveredTypes paths ↔ ∃ p ∈ paths, t ∈ p.types := by
  have gathered : ∀ covered : NameSet,
      t ∈ paths.foldl (fun covered p => covered ∪ p.types) covered
        ↔ t ∈ covered ∨ ∃ p ∈ paths, t ∈ p.types := by
    induction paths with
    | nil => simp
    | cons p rest ih =>
      intro covered
      rw [List.foldl_cons, ih, NameSet.mem_union, or_assoc]
      simp
  simpa [coveredTypes] using gathered ∅

end OperationClasses
