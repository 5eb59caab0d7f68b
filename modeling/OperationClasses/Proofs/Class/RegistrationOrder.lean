/-
Module: OperationClasses.Proofs.Class.RegistrationOrder
Purpose: The order in which classes were registered makes no difference to their order with dependencies first, nor to
  the failure to find one.
Main exports: Registry.sorted_eq, Registry.ofClasses, Registry.registration_order
-/
import OperationClasses.Proofs.Class.DependencyOrder

namespace OperationClasses

namespace Registry

variable {r r' : Registry} {cs ds : List ClassDefinition}

/-! ### The same classes -/

/-- Registries with the same classes have the same class under every name. -/
theorem find?_eq (same : ∀ c, c ∈ r.classes ↔ c ∈ r'.classes) (name : String) :
    r.find? name = r'.find? name := by
  cases found : r.find? name with
  | some c =>
    obtain rfl := name_of_find? found
    exact (find?_of_mem ((same c).1 (mem_classes_of_find? found))).symm
  | none =>
    cases found' : r'.find? name with
    | none => rfl
    | some c =>
      obtain rfl := name_of_find? found'
      rw [find?_of_mem ((same c).2 (mem_classes_of_find? found'))] at found
      cases found

/-- Registries with the same classes have the same names. -/
theorem names_perm (same : ∀ c, c ∈ r.classes ↔ c ∈ r'.classes) : r.names.Perm r'.names := by
  apply (List.perm_ext_iff_of_nodup r.nodup r'.nodup).2
  intro name
  show name ∈ r.names ↔ name ∈ r'.names
  rw [mem_names_iff, mem_names_iff, find?_eq same]

/-- Names in any order are visited in the same order. -/
theorem mergeSort_eq_of_perm {names names' : List String} (same : names.Perm names') :
    names.mergeSort (fun a b => decide (a ≤ b)) = names'.mergeSort fun a b => decide (a ≤ b) := by
  have perm := ((List.mergeSort_perm names fun a b => decide (a ≤ b)).trans same).trans
    (List.mergeSort_perm names' fun a b => decide (a ≤ b)).symm
  apply List.Perm.eq_of_pairwise _ (pairwise_le_mergeSort id names) (pairwise_le_mergeSort id names') perm
  exact fun a b _ _ before after => String.le_antisymm before after

/-! ### Two traversals -/

section Traversals

variable (found : ∀ name, r.find? name = r'.find? name)
include found

/-- A class has the same dependencies to visit, or the same one that is missing. -/
theorem edges_eq (c : ClassDefinition) : r.edges c = r'.edges c := by
  simp only [edges, found]

mutual

/-- Two traversals move in lockstep if the same classes are fresh, in whatever order they are kept. -/
theorem visit_eq (fresh fresh' path done : List String) (same : fresh.Perm fresh') (c : ClassDefinition) :
    r.visit fresh path done c = r'.visit fresh' path done c := by
  rw [visit, visit, edges_eq found]
  cases r'.edges c with
  | error fault => rfl
  | ok children =>
    have below := visitEach_eq fresh fresh' (path ++ [c.name]) done same children
    show (r.visitEach fresh (path ++ [c.name]) done children >>= _) = _
    rw [below]
    rfl
termination_by (fresh.length, 1, 0)

theorem visitEach_eq (fresh fresh' path done : List String) (same : fresh.Perm fresh')
    (children : List String) :
    r.visitEach fresh path done children = r'.visitEach fresh' path done children := by
  match children with
  | [] => rw [visitEach, visitEach]
  | child :: rest =>
    rw [visitEach, visitEach]
    split
    · exact visitEach_eq fresh fresh' path done same rest
    · by_cases isFresh : child ∈ fresh
      · rw [dif_pos isFresh, dif_pos (same.mem_iff.1 isFresh), found child]
        cases r'.find? child with
        | none => rfl
        | some c =>
          have smaller := length_erase_lt isFresh
          have first := visit_eq (fresh.erase child) (fresh'.erase child) path done (same.erase child) c
          show (r.visit _ path done c >>= _) = (r'.visit _ path done c >>= _)
          rw [first]
          congr 1
          funext more
          exact visitEach_eq fresh fresh' path more same rest
      · rw [dif_neg isFresh, dif_neg fun listed => isFresh (same.mem_iff.2 listed)]
termination_by (fresh.length, 0, children.length)
decreasing_by
  · exact Prod.Lex.left _ _ smaller
  · simp [Prod.lex_def]
  · simp [Prod.lex_def]

end

end Traversals

/-- Registries with the same classes list them in the same order, or fail to for the same reason. -/
theorem sorted_eq (same : ∀ c, c ∈ r.classes ↔ c ∈ r'.classes) : r.sorted = r'.sorted := by
  have found := find?_eq same
  have names := names_perm same
  have visited : r.sortedNames = r'.sortedNames := by
    rw [sortedNames, sortedNames, mergeSort_eq_of_perm names]
    exact visitEach_eq found r.names r'.names [] [] names _
  rw [sorted, sorted, visited, funext found]

/-! ### Registration -/

/-- The registry that classes lead to that are added one after the other. -/
def ofClasses (cs : List ClassDefinition) : Except InvariantFault Registry := cs.foldlM add empty

/-- Classes of new names are added one after the other. -/
theorem foldlM_add (r : Registry) (cs : List ClassDefinition) (distinct : ((r.classes ++ cs).map (·.name)).Nodup) :
    ∃ r', cs.foldlM add r = .ok r' ∧ r'.classes = r.classes ++ cs := by
  induction cs generalizing r with
  | nil => exact ⟨r, rfl, (List.append_nil _).symm⟩
  | cons c rest ih =>
    have free : c.name ∉ r.names := by
      rw [List.map_append, List.nodup_append] at distinct
      exact fun taken => distinct.2.2 _ taken c.name (by simp) rfl
    obtain ⟨next, added⟩ : ∃ next, r.add c = .ok next := ⟨_, dif_neg free⟩
    have classes := (add_eq_ok_iff.1 added).2
    have others : next.classes ++ rest = r.classes ++ c :: rest := by
      rw [classes, List.append_assoc]
      rfl
    obtain ⟨r', adds, all⟩ := ih next (by rwa [others])
    refine ⟨r', ?_, all.trans others⟩
    rw [List.foldlM_cons, added]
    exact adds

/-- **Registration order**: classes of different names can be registered in any two orders, and the two registries
    list them in the same order, each after its dependencies, or fail to for the same reason. -/
theorem registration_order (distinct : (cs.map (·.name)).Nodup) (same : cs.Perm ds) :
    ∃ r r', ofClasses cs = .ok r ∧ r.classes = cs ∧ ofClasses ds = .ok r' ∧ r'.classes = ds
      ∧ r.sorted = r'.sorted := by
  obtain ⟨r, adds, classes⟩ := foldlM_add empty cs distinct
  obtain ⟨r', adds', classes'⟩ := foldlM_add empty ds ((same.map _).nodup_iff.1 distinct)
  have members : ∀ c, c ∈ r.classes ↔ c ∈ r'.classes := by
    intro c
    rw [classes, classes']
    exact same.mem_iff
  exact ⟨r, r', adds, classes, adds', classes', sorted_eq members⟩

/-- An input class with one field for each class that it refers to. -/
def inputReferring (name : String) (referred : List String) : ClassDefinition :=
  .input ⟨name, name, referred.map fun d => ⟨d.toLower, d.toLower, d, "$value", some d⟩⟩

/-- Forward and backward, two input classes that refer to each other and one that refers to a class that is missing
    lead to the same failure. -/
theorem registration_order_backward :
    ∃ r r', ofClasses [inputReferring "Outer" ["Middle"], inputReferring "Middle" ["Outer"],
        inputReferring "Other" ["Missing"]] = .ok r
      ∧ ofClasses [inputReferring "Other" ["Missing"], inputReferring "Middle" ["Outer"],
        inputReferring "Outer" ["Middle"]] = .ok r'
      ∧ r.sorted = r'.sorted := by
  have distinct : ([inputReferring "Outer" ["Middle"], inputReferring "Middle" ["Outer"],
      inputReferring "Other" ["Missing"]].map (·.name)).Nodup := by decide
  obtain ⟨r, r', adds, -, adds', -, same⟩ := registration_order distinct (List.reverse_perm _).symm
  exact ⟨r, r', adds, adds', same⟩

end Registry

end OperationClasses
