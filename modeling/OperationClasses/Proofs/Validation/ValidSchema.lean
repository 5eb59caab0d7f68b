/-
Module: OperationClasses.Proofs.Validation.ValidSchema
Purpose: Schemas whose types fit together, and what follows for the fields that can be selected.
Main exports: Schema.Valid, Schema.core?_of_fieldOf?, Schema.selectableType?_eq
-/
import OperationClasses.Generation.Occurrence
import OperationClasses.Validation.Merging

namespace OperationClasses

/-- What is asked of a valid schema: root types are object types, and fields, arguments and input fields
    are of known types that can stand there. The types of the meta fields are there too. -/
structure Schema.Valid (s : Schema) : Prop where
  /-- no two types share a name -/
  unique : (s.types.map (·.name)).Nodup
  /-- the root types are object types -/
  root : ∀ {kind name}, s.rootName kind = some name → ∃ t, s.find? name = some t ∧ t.isObject
  /-- fields are of output types -/
  output : ∀ {t f}, t ∈ s.types → f ∈ t.outputFields →
    ∃ u, s.core? f.type = some u ∧ (u.body.isLeaf ∨ u.body.isComposite)
  /-- input fields are of input types -/
  input : ∀ {t f}, t ∈ s.types → f ∈ t.inputFields → ∃ u, s.core? f.type = some u ∧ u.body.isInput
  /-- the type name is a text -/
  text : ∃ u, s.core? typenameField.type = some u ∧ u.body.isLeaf
  /-- the schema can be described -/
  description : ∀ f ∈ [schemaField, typeField], ∃ u, s.core? f.type = some u ∧ u.isObject

/-- Whether a schema is valid can be found out. -/
instance (s : Schema) : Decidable s.Valid :=
  decidable_of_iff ((s.types.map (·.name)).Nodup
      ∧ (∀ kind ∈ [OperationKind.query, .mutation, .subscription], ∀ name ∈ s.rootName kind,
        ∃ t ∈ s.find? name, t.isObject)
      ∧ (∀ t ∈ s.types, ∀ f ∈ t.outputFields, ∃ u ∈ s.core? f.type, u.body.isLeaf ∨ u.body.isComposite)
      ∧ (∀ t ∈ s.types, ∀ f ∈ t.inputFields, ∃ u ∈ s.core? f.type, u.body.isInput)
      ∧ (∃ u ∈ s.core? typenameField.type, u.body.isLeaf)
      ∧ ∀ f ∈ [schemaField, typeField], ∃ u ∈ s.core? f.type, u.isObject) <| by
    constructor
    · rintro ⟨unique, root, output, input, text, description⟩
      refine ⟨unique, fun {kind name} => root kind ?_ name, fun ht => output _ ht _, fun ht =>
        input _ ht _, text,
        description⟩
      cases kind <;> simp
    · rintro ⟨unique, root, output, input, text, description⟩
      exact ⟨unique, fun _ _ _ => root, fun _ ht _ => output ht, fun _ ht _ => input ht, text,
        description⟩

namespace Schema

variable {s : Schema} {name : String} {t : TypeDefinition}

/-- A type is found under its name. -/
theorem name_of_find? (h : s.find? name = some t) : t.name = name := by
  simpa using List.find?_some h

/-- A type that is found under some name is found under its own. -/
theorem find?_name (h : s.find? name = some t) : s.find? t.name = some t := by
  rwa [name_of_find? h]

theorem mem_types_of_find? (h : s.find? name = some t) : t ∈ s.types :=
  List.mem_of_find?_eq_some h

/-- An object type has selections below it. -/
theorem isComposite_of_isObject (h : t.isObject) : t.body.isComposite := by
  unfold TypeDefinition.isObject at h
  split at h
  · rename_i body
    rw [body]
    rfl
  · cases h

/-- A composite type has no selections of input fields. -/
theorem inputFields_of_isComposite (h : t.body.isComposite) : t.inputFields = [] := by
  unfold TypeDefinition.inputFields
  split
  · rename_i body
    rw [body] at h
    cases h
  · rfl

/-- The fields that can be selected on a composite type are those that it is checked for. -/
theorem selectableType?_eq (composite : t.body.isComposite) :
    s.selectableType? t name = (s.fieldOf? t name).map (·.type) := by
  unfold selectableType? fieldOf?
  rw [if_pos composite]
  cases s.metaField? t name with
  | some field => rfl
  | none =>
    simp only [TypeDefinition.fieldType?, inputFields_of_isComposite composite]
    cases t.outputFields.find? (·.name == name) <;> rfl

/-- A field that can be selected on a type of a valid schema is of an output type. -/
theorem Valid.core?_of_fieldOf? (valid : s.Valid) (mem : t ∈ s.types) {f : FieldDefinition}
    (h : s.fieldOf? t name = some f) :
    ∃ u, s.core? f.type = some u ∧ (u.body.isLeaf ∨ u.body.isComposite) := by
  unfold fieldOf? at h
  split at h
  · split at h
    · rename_i isMeta
      cases h
      unfold metaField? at isMeta
      split at isMeta
      · cases isMeta
        obtain ⟨u, known, leaf⟩ := valid.text
        exact ⟨u, known, Or.inl leaf⟩
      · split at isMeta
        · have described : f ∈ [schemaField, typeField] := by grind
          obtain ⟨u, known, object⟩ := valid.description f described
          exact ⟨u, known, Or.inr (isComposite_of_isObject object)⟩
        · cases isMeta
    · exact valid.output mem (List.mem_of_find?_eq_some h)
  · cases h

end Schema

end OperationClasses
