/-
Module: OperationClasses.Proofs.Generation.Growth
Purpose: How a registry may grow: classes stay registered for what they were registered for, and what holds of all of
  them and of those that are added or replaced holds of all after that.
Main exports: Registry.all_of_add, Registry.all_of_replace, ClassRole, ClassDefinition.role, Registry.Grows,
  Registry.Supports, Registry.Supports.all
-/
import OperationClasses.Generation.Outputs
import OperationClasses.Proofs.Generation.Steps

namespace OperationClasses

namespace Registry

variable {r r' r'' : Registry} {c : ClassDefinition} {name : String}

/-! ### Lookups -/

theorem name_of_find? (h : r.find? name = some c) : c.name = name := by
  simpa using List.find?_some h

theorem mem_classes_of_find? (h : r.find? name = some c) : c ∈ r.classes :=
  List.mem_of_find?_eq_some h

/-- A class is found under its name. -/
theorem find?_of_mem (h : c ∈ r.classes) : r.find? c.name = some c := by
  obtain ⟨classes, nodup⟩ := r
  unfold find?
  induction classes with
  | nil => exact absurd h List.not_mem_nil
  | cons first rest ih =>
    rw [List.map_cons, List.nodup_cons] at nodup
    rcases List.mem_cons.1 h with rfl | h
    · simp
    · have differs : first.name ≠ c.name := by
        intro same
        exact nodup.1 (same ▸ List.mem_map_of_mem h)
      rw [List.find?_cons_of_neg (by simpa using differs)]
      exact ih nodup.2 h

/-- A name is taken exactly if it has a class. -/
theorem mem_names_iff : name ∈ r.names ↔ ∃ c, r.find? name = some c := by
  constructor
  · intro h
    obtain ⟨c, hc, rfl⟩ := List.mem_map.1 h
    exact ⟨c, find?_of_mem hc⟩
  · rintro ⟨c, h⟩
    exact List.mem_map.2 ⟨c, mem_classes_of_find? h, name_of_find? h⟩

/-- After classes are added, the old ones are found as before. -/
theorem find?_of_append {added : List ClassDefinition} (h : r'.classes = r.classes ++ added)
    (found : r.find? name = some c) : r'.find? name = some c := by
  unfold find? at found ⊢
  rw [h, List.find?_append, found]
  rfl

/-- A class that is put in place of the one of its name is found there. -/
theorem find?_replace (taken : c.name ∈ r.names) : (r.replace c).find? c.name = some c := by
  apply find?_of_mem
  obtain ⟨old, hold, same⟩ := List.mem_map.1 taken
  exact List.mem_map.2 ⟨old, hold, if_pos same⟩

/-- The other classes stay as they are. -/
theorem find?_replace_of_ne (differs : name ≠ c.name) : (r.replace c).find? name = r.find? name := by
  show (r.classes.map fun old => if old.name = c.name then c else old).find? _ = r.classes.find? _
  induction r.classes with
  | nil => rfl
  | cons first rest ih =>
    rw [List.map_cons, List.find?_cons, List.find?_cons, ih]
    by_cases same : first.name = c.name
    · rw [if_pos same, same, beq_false_of_ne differs.symm]
    · rw [if_neg same]

/-! ### Further classes -/

variable {x : ClassDefinition} {P : ClassDefinition → Prop}

/-- A class that was added is found under its name. -/
theorem find?_of_add (h : r.add c = .ok r') : r'.find? c.name = some c := by
  apply find?_of_mem
  rw [(add_eq_ok_iff.1 h).2]
  exact List.mem_append_right _ List.mem_cons_self

theorem mem_names_of_add (h : r.add c = .ok r') : name ∈ r'.names ↔ name ∈ r.names ∨ name = c.name := by
  simp [names, (add_eq_ok_iff.1 h).2]

/-- A class that is there after one was added was there before, or is the one that was added. -/
theorem mem_classes_of_add (h : r.add c = .ok r') (mem : x ∈ r'.classes) : x ∈ r.classes ∨ x = c := by
  rw [(add_eq_ok_iff.1 h).2] at mem
  simpa using mem

/-- A class that is there after one took a place was there before, or is the one that took it. -/
theorem mem_classes_of_replace (mem : x ∈ (r.replace c).classes) : x ∈ r.classes ∨ x = c := by
  obtain ⟨old, hold, rfl⟩ := List.mem_map.1 mem
  split
  · exact Or.inr rfl
  · exact Or.inl hold

/-- What holds of all classes and of a new one holds of all classes with the new one. -/
theorem all_of_add (added : r.add c = .ok r') (old : ∀ x ∈ r.classes, P x) (new : P c) : ∀ x ∈ r'.classes, P x := by
  intro x hx
  rcases mem_classes_of_add added hx with before | rfl
  · exact old x before
  · exact new

/-- What holds of all classes and of one that takes a place holds of all classes after that. -/
theorem all_of_replace (old : ∀ x ∈ r.classes, P x) (new : P c) : ∀ x ∈ (r.replace c).classes, P x := by
  intro x hx
  rcases mem_classes_of_replace hx with before | rfl
  · exact old x before
  · exact new

end Registry

/-! ### Growth -/

/-- What a class is for: something else than results, the values of a type below an operation, or the
    results of an operation, which are values of a type too. -/
inductive ClassRole where
  | support
  | leaf (type : String)
  | root (type : String)
deriving DecidableEq

/-- What a class is for. -/
def ClassDefinition.role : ClassDefinition → ClassRole
  | .enum _ => .support
  | .input _ => .support
  | .leaf c => .leaf c.typeName
  | .root c _ => .root c.typeName

theorem ClassDefinition.isLeafOf_iff {c : ClassDefinition} {type : String} :
    c.isLeafOf type ↔ c.role = .leaf type := by
  cases c <;> simp [isLeafOf, role]

/-- Classes stay under their names, and for what they are. -/
def Registry.Grows (r r' : Registry) : Prop :=
  ∀ name c, r.find? name = some c → ∃ c', r'.find? name = some c' ∧ c'.role = c.role

namespace Registry.Grows

variable {r r' r'' : Registry}

theorem refl : r.Grows r := fun _ c h => ⟨c, h, rfl⟩

theorem trans (h : r.Grows r') (h' : r'.Grows r'') : r.Grows r'' := by
  intro name c found
  obtain ⟨c', found', same⟩ := h name c found
  obtain ⟨c'', found'', same'⟩ := h' name c' found'
  exact ⟨c'', found'', same'.trans same⟩

/-- Adding classes is growth. -/
theorem of_append {added : List ClassDefinition} (h : r'.classes = r.classes ++ added) : r.Grows r' :=
  fun _ c found => ⟨c, find?_of_append h found, rfl⟩

theorem of_add {c : ClassDefinition} (h : r.add c = .ok r') : r.Grows r' := of_append (add_eq_ok_iff.1 h).2

/-- Putting a class in the place of one for the same is growth. -/
theorem replace {c old : ClassDefinition} (found : r.find? c.name = some old)
    (same : c.role = old.role) : r.Grows (r.replace c) := by
  intro name other h
  by_cases named : name = c.name
  · subst named
    rw [found] at h
    cases h
    exact ⟨c, find?_replace (mem_names_iff.2 ⟨old, found⟩), same⟩
  · exact ⟨other, by rw [find?_replace_of_ne named, h], rfl⟩

/-- The name that is found for a class of values of a type stays the one for them, once the class is
    there. -/
theorem leafName {wanted type : String} {c : ClassDefinition} (h : r.Grows r')
    (found : r'.find? (r.leafName wanted type) = some c) (leaf : c.isLeafOf type) :
    r'.leafName wanted type = r.leafName wanted type := by
  cases taken : r.find? wanted with
  | none =>
    have name : r.leafName wanted type = wanted := by rw [Registry.leafName, taken]
    rw [name] at found ⊢
    rw [Registry.leafName, found]
    exact if_pos leaf
  | some other =>
    obtain ⟨other', taken', same⟩ := h wanted other taken
    rw [Registry.leafName, Registry.leafName, taken, taken']
    simp only [ClassDefinition.isLeafOf_iff, same]

end Registry.Grows

/-! ### Classes for enums and variables -/

/-- Only classes that are not for results are added. -/
def Registry.Supports (r r' : Registry) : Prop :=
  ∃ added, r'.classes = r.classes ++ added ∧ ∀ c ∈ added, c.role = .support

namespace Registry.Supports

variable {r r' r'' : Registry}

theorem refl : r.Supports r := ⟨[], (List.append_nil _).symm, fun _ h => absurd h List.not_mem_nil⟩

theorem trans (h : r.Supports r') (h' : r'.Supports r'') : r.Supports r'' := by
  obtain ⟨added, classes, support⟩ := h
  obtain ⟨added', classes', support'⟩ := h'
  refine ⟨added ++ added', by rw [classes', classes, List.append_assoc], fun c hc => ?_⟩
  exact (List.mem_append.1 hc).elim (support c) (support' c)

theorem grows (h : r.Supports r') : r.Grows r' := by
  obtain ⟨added, classes, -⟩ := h
  exact .of_append classes

/-- What holds of all classes and of those that are not for results holds of all classes after such ones were
    added. -/
theorem all {P : ClassDefinition → Prop} (h : r.Supports r') (old : ∀ c ∈ r.classes, P c)
    (support : ∀ c, c.role = .support → P c) : ∀ c ∈ r'.classes, P c := by
  obtain ⟨added, classes, supports⟩ := h
  intro c hc
  rw [classes] at hc
  rcases List.mem_append.1 hc with hc | hc
  · exact old c hc
  · exact support c (supports c hc)

/-- Adding a class that is not for results. -/
theorem of_add {c : ClassDefinition} (h : r.add c = .ok r') (support : c.role = .support) :
    r.Supports r' :=
  ⟨[c], (add_eq_ok_iff.1 h).2, fun _ hc => by rwa [List.mem_singleton.1 hc]⟩

end Registry.Supports

end OperationClasses
