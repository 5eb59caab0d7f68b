/-
Module: OperationClasses.Generation.Occurrence
Purpose: The field selections of a selection set, each with the types it was reached through.
Main exports: Occurrence, collect, Schema.selectableType?
-/
import OperationClasses.Document.Resolved
import OperationClasses.Schema.Basic
import OperationClasses.Failure
import OperationClasses.Fallible

namespace OperationClasses

/-- The type of a field that can be selected on a type: a meta field or one of its own. -/
def Schema.selectableType? (s : Schema) (parent : TypeDefinition) (name : String) : Option TypeRef :=
  match s.metaField? parent name with
  | some field => some field.type
  | none => parent.fieldType? name

/-- One selection of a field: what was written, the type of the field, the type that its selection set is on,
    and the type conditions of the fragments around it, outermost first. -/
structure Occurrence where
  head : FieldHead
  type : TypeRef
  owner : String
  conditions : List String
  below : Option (List Resolved)
deriving Inhabited

/-- The response key of an occurrence. -/
def Occurrence.key (o : Occurrence) : String := o.head.responseKey

/-- The owner and the type conditions, outermost first. -/
def Occurrence.chain (o : Occurrence) : List String := o.owner :: o.conditions

/-- The type of a field, which must exist. -/
def fieldTypeOf (s : Schema) (parent : TypeDefinition) (name : String) :
    Except InvariantFault TypeRef :=
  match s.selectableType? parent name with
  | some type => return type
  | none => throw (.unknownField parent.name name)

/-- The type of a name, which must exist. -/
def typeNamed (s : Schema) (name : String) : Except InvariantFault TypeDefinition :=
  match s.find? name with
  | some t => return t
  | none => throw (.unknownType name)

theorem fieldTypeOf_eq_ok_iff {s : Schema} {parent : TypeDefinition} {name : String} {type : TypeRef} :
    fieldTypeOf s parent name = .ok type ↔ s.selectableType? parent name = some type := by
  unfold fieldTypeOf
  cases s.selectableType? parent name with
  | none => exact iff_of_false (by rintro ⟨⟩) (by rintro ⟨⟩)
  | some known => simp [pure, Except.pure]

theorem typeNamed_eq_ok_iff {s : Schema} {name : String} {type : TypeDefinition} :
    typeNamed s name = .ok type ↔ s.find? name = some type := by
  unfold typeNamed
  cases s.find? name with
  | none => exact iff_of_false (by rintro ⟨⟩) (by rintro ⟨⟩)
  | some known => simp [pure, Except.pure]

mutual

/-- The field selections of one member of a selection set. `parent` is the type that fields are looked up
    on, which is the last of the conditions if there are any. -/
def collect (s : Schema) (owner : String) (conditions : List String) (parent : TypeDefinition) :
    Resolved → Except InvariantFault (List Occurrence)
  | .leaf head => do return [⟨head, ← fieldTypeOf s parent head.name, owner, conditions, none⟩]
  | .nested head below => do
    return [⟨head, ← fieldTypeOf s parent head.name, owner, conditions, some below⟩]
  | .narrowed none below => collectAll s owner conditions parent below
  | .narrowed (some condition) below => do
    collectAll s owner (conditions ++ [condition]) (← typeNamed s condition) below
  | .missing name => throw (.unknownFragment name)
  | .cyclic name => throw (.fragmentCycle name)

/-- The field selections of a selection set in document order. -/
def collectAll (s : Schema) (owner : String) (conditions : List String) (parent : TypeDefinition) :
    List Resolved → Except InvariantFault (List Occurrence)
  | [] => return []
  | r :: rest => do
    let first ← collect s owner conditions parent r
    return first ++ (← collectAll s owner conditions parent rest)

end

/-- The field selections of a selection set on a type. -/
def occurrences (s : Schema) (owner : TypeDefinition) (selections : List Resolved) :
    Except InvariantFault (List Occurrence) :=
  collectAll s owner.name [] owner selections

/-!
### Size

What is selected below an occurrence is smaller than the selection set it comes from.
-/

/-- The size of what is selected below an occurrence. -/
def Occurrence.weightBelow (o : Occurrence) : Nat := Resolved.weightAll (o.below.getD [])

mutual

theorem weightBelow_lt_of_mem_collect (s : Schema) (owner : String) (conditions : List String)
    (parent : TypeDefinition) : ∀ (r : Resolved) (os : List Occurrence),
    collect s owner conditions parent r = .ok os → ∀ o ∈ os, o.weightBelow < r.weight
  | .leaf head, os, h, o, ho => by
    obtain ⟨t, _, h⟩ := bind_ok (by simpa only [collect] using h)
    cases h; simp at ho; subst ho
    simp [Occurrence.weightBelow, Resolved.weightAll, Resolved.weight]
  | .nested head below, os, h, o, ho => by
    obtain ⟨t, _, h⟩ := bind_ok (by simpa only [collect] using h)
    cases h; simp at ho; subst ho
    simp [Occurrence.weightBelow, Resolved.weight]
  | .narrowed none below, os, h, o, ho => by
    have := weightBelow_lt_of_mem_collectAll s owner conditions parent below os
      (by simpa only [collect] using h) o ho
    simp only [Resolved.weight]; omega
  | .narrowed (some condition) below, os, h, o, ho => by
    obtain ⟨t, _, h⟩ := bind_ok (by simpa only [collect] using h)
    have := weightBelow_lt_of_mem_collectAll s owner _ t below os h o ho
    simp only [Resolved.weight]; omega
  | .missing name, os, h, o, ho => by simp [collect, throw, throwThe, MonadExceptOf.throw] at h
  | .cyclic name, os, h, o, ho => by simp [collect, throw, throwThe, MonadExceptOf.throw] at h

theorem weightBelow_lt_of_mem_collectAll (s : Schema) (owner : String) (conditions : List String)
    (parent : TypeDefinition) : ∀ (rs : List Resolved) (os : List Occurrence),
    collectAll s owner conditions parent rs = .ok os → ∀ o ∈ os, o.weightBelow < Resolved.weightAll rs
  | [], os, h, o, ho => by cases h; simp at ho
  | r :: rest, os, h, o, ho => by
    obtain ⟨first, hf, h⟩ := bind_ok (by simpa only [collectAll] using h)
    obtain ⟨others, hr, h⟩ := bind_ok h
    cases h
    simp only [Resolved.weightAll]
    rcases List.mem_append.1 ho with ho | ho
    · have := weightBelow_lt_of_mem_collect s owner conditions parent r first hf o ho; omega
    · have := weightBelow_lt_of_mem_collectAll s owner conditions parent rest others hr o ho; omega

end

/-- What is selected below an occurrence is smaller than the selection set. -/
theorem weightBelow_lt {s : Schema} {owner : TypeDefinition} {selections : List Resolved}
    {os : List Occurrence} (h : occurrences s owner selections = .ok os) {o : Occurrence} (ho : o ∈ os) :
    o.weightBelow < Resolved.weightAll selections :=
  weightBelow_lt_of_mem_collectAll s owner.name [] owner selections os h o ho

end OperationClasses
