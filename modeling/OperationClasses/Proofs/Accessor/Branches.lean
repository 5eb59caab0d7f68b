/-
Module: OperationClasses.Proofs.Accessor.Branches
Purpose: Branches gather the types of the paths with their conversion, and share no type when accepted.
Main exports: mem_branchesOf_iff, firstOverlap_eq_none_iff, branchesOf_apart_iff, FieldAccess.branches_eq_ok_iff,
  FieldAccess.branches_eq_error
-/
import Mathlib.Data.List.Nodup
import Mathlib.Data.List.Pairwise
import OperationClasses.Accessor.FieldAccess
import OperationClasses.Proofs.Accessor.Reduction

namespace OperationClasses

/-! ### Gathering -/

/-- Adding types to a conversion gives it these types and leaves the others as they were. -/
theorem exists_mem_addToBranch {types : NameSet} {expression e t : String} {branches : List Branch} :
    (∃ b ∈ addToBranch types expression branches, b.expression = e ∧ t ∈ b.typenames)
      ↔ (e = expression ∧ t ∈ types) ∨ ∃ b ∈ branches, b.expression = e ∧ t ∈ b.typenames := by
  induction branches with
  | nil =>
    simp only [addToBranch, List.mem_singleton, exists_eq_left]
    constructor
    · rintro ⟨rfl, ht⟩
      exact Or.inl ⟨rfl, ht⟩
    · rintro (⟨rfl, ht⟩ | ⟨b, hb, _⟩)
      · exact ⟨rfl, ht⟩
      · exact absurd hb List.not_mem_nil
  | cons head rest ih =>
    unfold addToBranch
    split
    · rename_i same
      subst same
      simp only [List.mem_cons, exists_eq_or_imp, NameSet.mem_union]
      grind
    · simp only [List.mem_cons, exists_eq_or_imp, ih]
      grind

/-- Adding types to a conversion adds at most that conversion. -/
theorem mem_expressions_addToBranch {types : NameSet} {expression e : String} {branches : List Branch} :
    e ∈ (addToBranch types expression branches).map (·.expression)
      ↔ e = expression ∨ e ∈ branches.map (·.expression) := by
  induction branches with
  | nil => simp [addToBranch]
  | cons head rest ih =>
    unfold addToBranch
    split
    · rename_i same
      subst same
      simp
    · rw [List.map_cons, List.mem_cons, ih, List.map_cons, List.mem_cons]
      exact or_left_comm

/-- Each conversion keeps a single branch. -/
theorem nodup_addToBranch {types : NameSet} {expression : String} {branches : List Branch}
    (h : (branches.map (·.expression)).Nodup) :
    ((addToBranch types expression branches).map (·.expression)).Nodup := by
  induction branches with
  | nil => simp [addToBranch]
  | cons head rest ih =>
    rw [List.map_cons, List.nodup_cons] at h
    unfold addToBranch
    split
    · rename_i same
      subst same
      exact List.nodup_cons.2 h
    · rename_i other
      refine List.nodup_cons.2 ⟨fun again => ?_, ih h.2⟩
      rcases mem_expressions_addToBranch.1 again with same | again
      · exact other same
      · exact h.1 again

/-- The branches of paths serve a type with a conversion exactly if one of the paths does. -/
theorem exists_mem_branchesOf {paths : List TypedPath} {e t : String} :
    (∃ b ∈ branchesOf paths, b.expression = e ∧ t ∈ b.typenames)
      ↔ ∃ p ∈ paths, p.path.expression = e ∧ t ∈ p.types := by
  have gathered : ∀ branches : List Branch,
      (∃ b ∈ paths.foldl (fun branches p => addToBranch p.types p.path.expression branches) branches,
        b.expression = e ∧ t ∈ b.typenames)
      ↔ (∃ b ∈ branches, b.expression = e ∧ t ∈ b.typenames)
        ∨ ∃ p ∈ paths, p.path.expression = e ∧ t ∈ p.types := by
    induction paths with
    | nil => simp
    | cons p rest ih =>
      intro branches
      rw [List.foldl_cons, ih, exists_mem_addToBranch]
      simp only [List.mem_cons, exists_eq_or_imp, eq_comm (a := e)]
      rw [or_comm (a := p.path.expression = e ∧ t ∈ p.types), or_assoc]
  simpa [branchesOf] using gathered []

/-- Different branches have different conversions. -/
theorem nodup_branchesOf (paths : List TypedPath) : ((branchesOf paths).map (·.expression)).Nodup := by
  have gathered : ∀ branches : List Branch, (branches.map (·.expression)).Nodup →
      ((paths.foldl (fun branches p => addToBranch p.types p.path.expression branches) branches).map
        (·.expression)).Nodup := by
    induction paths with
    | nil => exact fun _ h => h
    | cons p rest ih => exact fun branches h => ih _ (nodup_addToBranch h)
  exact gathered [] List.nodup_nil

/-- Branches that have the same conversion are the same. -/
theorem eq_of_mem_branchesOf {paths : List TypedPath} {a b : Branch} (ha : a ∈ branchesOf paths)
    (hb : b ∈ branchesOf paths) (same : a.expression = b.expression) : a = b :=
  List.inj_on_of_nodup_map (nodup_branchesOf paths) ha hb same

/-- A branch serves exactly the types of the paths with its conversion. -/
theorem mem_branchesOf_iff {paths : List TypedPath} {b : Branch} (hb : b ∈ branchesOf paths)
    {t : String} : t ∈ b.typenames ↔ ∃ p ∈ paths, p.path.expression = b.expression ∧ t ∈ p.types := by
  rw [← exists_mem_branchesOf]
  constructor
  · exact fun ht => ⟨b, hb, rfl, ht⟩
  · rintro ⟨c, hc, same, ht⟩
    rwa [← eq_of_mem_branchesOf hc hb same]

/-- The conversions of branches are those of the paths. -/
theorem mem_expressions_branchesOf {paths : List TypedPath} {e : String} :
    e ∈ (branchesOf paths).map (·.expression) ↔ ∃ p ∈ paths, p.path.expression = e := by
  have gathered : ∀ branches : List Branch,
      e ∈ (paths.foldl (fun branches p => addToBranch p.types p.path.expression branches) branches).map (·.expression)
        ↔ e ∈ branches.map (·.expression) ∨ ∃ p ∈ paths, p.path.expression = e := by
    induction paths with
    | nil => simp
    | cons p rest ih =>
      intro branches
      rw [List.foldl_cons, ih, mem_expressions_addToBranch]
      simp only [List.mem_cons, exists_eq_or_imp, eq_comm (a := e)]
      rw [or_comm (a := p.path.expression = e), or_assoc]
  simpa [branchesOf] using gathered []

/-- A branch of paths that have types has one of them. -/
theorem exists_type_of_mem_branchesOf {paths : List TypedPath} (typed : ∀ p ∈ paths, ∃ t, t ∈ p.types) {b : Branch}
    (hb : b ∈ branchesOf paths) : ∃ t, t ∈ b.typenames := by
  obtain ⟨p, hp, same⟩ := mem_expressions_branchesOf.1 (List.mem_map_of_mem hb)
  obtain ⟨t, ht⟩ := typed p hp
  exact ⟨t, (mem_branchesOf_iff hb).2 ⟨p, hp, same, ht⟩⟩

/-! ### Overlaps -/

/-- Two branches share no type. -/
def Branch.Apart (a b : Branch) : Prop := ∀ t, t ∈ a.typenames → t ∉ b.typenames

instance : Std.Symm Branch.Apart := ⟨fun _ _ h t hb ha => h t ha hb⟩

/-- Two branches have no common type exactly if the set of common types is empty. -/
theorem Branch.isEmpty_inter_iff {a b : Branch} :
    (!(a.typenames ∩ b.typenames).isEmpty) = true ↔ ∃ t, t ∈ a.typenames ∧ t ∈ b.typenames := by
  rw [show (a.typenames ∩ b.typenames) = (TypedPath.mk default (a.typenames ∩ b.typenames)).types
    from rfl, types_nonempty_iff]
  simp

/-- No overlap is found exactly if no two branches share a type. -/
theorem firstOverlap_eq_none_iff {branches : List Branch} :
    firstOverlap branches = none ↔ branches.Pairwise Branch.Apart := by
  induction branches with
  | nil => simp [firstOverlap]
  | cons b rest ih =>
    rw [List.pairwise_cons, ← ih, firstOverlap]
    split
    · rename_i other found
      constructor
      · intro h
        cases h
      · rintro ⟨apart, _⟩
        have shared := List.find?_some found
        obtain ⟨t, hb, ho⟩ := Branch.isEmpty_inter_iff.1 shared
        exact absurd ho (apart other (List.mem_of_find?_eq_some found) t hb)
    · rename_i notFound
      refine ⟨fun h => ⟨fun other hother t hb ho => ?_, h⟩, And.right⟩
      exact List.find?_eq_none.1 notFound other hother (Branch.isEmpty_inter_iff.2 ⟨t, hb, ho⟩)

/-- The overlap that is found is that of two branches, one before the other, and has a type. -/
theorem firstOverlap_eq_some {branches : List Branch} {types : NameSet} (found : firstOverlap branches = some types) :
    ∃ b c, [b, c].Sublist branches ∧ types = b.typenames ∩ c.typenames ∧ ∃ t, t ∈ types := by
  induction branches with
  | nil => cases found
  | cons b rest ih =>
    rw [firstOverlap] at found
    split at found
    · rename_i c first
      cases found
      have later := List.mem_of_find?_eq_some first
      have overlap := List.find?_some first
      obtain ⟨t, hb, hc⟩ := Branch.isEmpty_inter_iff.1 overlap
      exact ⟨b, c, (List.singleton_sublist.2 later).cons_cons b, rfl, t, NameSet.mem_inter.2 ⟨hb, hc⟩⟩
    · obtain ⟨c, d, within, shared⟩ := ih found
      exact ⟨c, d, within.cons b, shared⟩

/-- Among branches that share no type, a type belongs to at most one. -/
theorem eq_of_pairwise_apart {branches : List Branch} (apart : branches.Pairwise Branch.Apart)
    {a b : Branch} (ha : a ∈ branches) (hb : b ∈ branches) {t : String} (hat : t ∈ a.typenames)
    (hbt : t ∈ b.typenames) : a = b := by
  by_contra other
  exact apart.forall ha hb other t hat hbt

/-- The branches of paths share no type exactly if no two paths with different conversions do. -/
theorem branchesOf_apart_iff {surviving : List TypedPath} :
    (branchesOf surviving).Pairwise Branch.Apart ↔ ¬ ∃ p ∈ surviving, ∃ q ∈ surviving,
      p.path.expression ≠ q.path.expression ∧ ∃ t, t ∈ p.types ∧ t ∈ q.types := by
  constructor
  · rintro apart ⟨p, hp, q, hq, differ, t, ht, ht'⟩
    obtain ⟨b, hb, same, hbt⟩ := exists_mem_branchesOf.2 ⟨p, hp, rfl, ht⟩
    obtain ⟨b', hb', same', hbt'⟩ := exists_mem_branchesOf.2 ⟨q, hq, rfl, ht'⟩
    rw [eq_of_pairwise_apart apart hb hb' hbt hbt', same'] at same
    exact differ same.symm
  · intro agree
    refine List.Nodup.pairwise_of_forall_ne ?_ fun b hb b' hb' other t ht ht' => ?_
    · exact List.Nodup.of_map _ (nodup_branchesOf surviving)
    · obtain ⟨p, hp, same, hpt⟩ := (mem_branchesOf_iff hb).1 ht
      obtain ⟨q, hq, same', hqt⟩ := (mem_branchesOf_iff hb').1 ht'
      refine agree ⟨p, hp, q, hq, fun expressions => other ?_, t, hpt, hqt⟩
      exact eq_of_mem_branchesOf hb hb' (by rw [← same, ← same', expressions])

/-! ### Branches of an accessor -/

theorem sortBranches_perm (branches : List Branch) : (sortBranches branches).Perm branches :=
  List.mergeSort_perm branches Branch.le

theorem mem_sortBranches {branches : List Branch} {b : Branch} :
    b ∈ sortBranches branches ↔ b ∈ branches := (sortBranches_perm branches).mem_iff

/-- An accessor has branches exactly if those of its surviving paths share no type. -/
theorem FieldAccess.branches_eq_ok {s : Schema} {a : FieldAccess} {branches : List Branch} :
    a.branches s = .ok branches ↔ ∃ surviving, a.reduced s = .ok surviving
      ∧ (branchesOf surviving).Pairwise Branch.Apart
        ∧ branches = sortBranches (branchesOf surviving) := by
  constructor
  · intro h
    obtain ⟨surviving, hr, h⟩ := bind_ok h
    refine ⟨surviving, hr, ?_⟩
    rw [← firstOverlap_eq_none_iff]
    dsimp only at h
    split at h
    · cases h
    · rename_i apart
      cases h
      exact ⟨apart, rfl⟩
  · rintro ⟨surviving, hr, apart, rfl⟩
    rw [← firstOverlap_eq_none_iff] at apart
    refine bind_eq_ok.2 ⟨surviving, hr, ?_⟩
    dsimp only
    rw [apart]
    rfl

/-- The branches of reduced paths can be told exactly if they share no type. -/
theorem FieldAccess.branches_eq_ok_iff {s : Schema} {a : FieldAccess} {surviving : List TypedPath}
    {branches : List Branch} (reduced : a.reduced s = .ok surviving) :
    a.branches s = .ok branches
      ↔ (branchesOf surviving).Pairwise Branch.Apart ∧ branches = sortBranches (branchesOf surviving) := by
  rw [branches_eq_ok]
  simp only [reduced, Except.ok.injEq, exists_eq_left']

/-- The branches of reduced paths fail exactly if the first overlap is found. -/
theorem FieldAccess.branches_eq_error {s : Schema} {a : FieldAccess} {surviving : List TypedPath}
    {fault : InvariantFault} (reduced : a.reduced s = .ok surviving) :
    a.branches s = .error fault ↔ ∃ types, firstOverlap (branchesOf surviving) = some types
      ∧ fault = .overlappingBranches a.name types.toList := by
  rw [branches, reduced]
  simp only [Bind.bind, Except.bind]
  cases firstOverlap (branchesOf surviving) with
  | none => simp [Pure.pure, Except.pure]
  | some types => simp [throw, throwThe, MonadExceptOf.throw, eq_comm]

end OperationClasses
