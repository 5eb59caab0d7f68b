/-
Module: OperationClasses.Proofs.Schema.TypeLayers
Purpose: A type reference is its named type and its layers: the layers of types are exactly those without two nullable
  ones next to each other, and signatures are wrapped in them as the type says.
Main exports: Layer.Separate, TypeRef.lists, TypeRef.signature, TypeRef.ofLayers, TypeRef.ofLayers_eq_some_iff,
  TypeRef.layers_round_trip
-/
import Mathlib.Logic.ExistsUnique
import OperationClasses.Layer

namespace OperationClasses

/-! ### Layers that a type can have -/

/-- Lists and nullable layers, of which no two nullable ones stand next to each other. -/
structure Layer.Separate (layers : List Layer) : Prop where
  known : ∀ layer ∈ layers, layer = .nullable ∨ layer = .list
  apart : ¬ [.nullable, .nullable] <:+: layers

namespace Layer.Separate

variable {outer : Layer} {layers : List Layer}

theorem nil : Layer.Separate [] where
  known _ absent := absurd absent List.not_mem_nil
  apart := by simp

/-- A further layer may stand around others unless it and the next one are nullable. -/
theorem cons (h : Layer.Separate layers) (known : outer = .nullable ∨ outer = .list)
    (apart : outer = .nullable → layers.head? ≠ some .nullable) : Layer.Separate (outer :: layers) where
  known := List.forall_mem_cons.2 ⟨known, h.known⟩
  apart := by
    intro adjacent
    rcases List.infix_cons_iff.1 adjacent with here | later
    · obtain ⟨rest, same⟩ := here
      cases same
      exact apart rfl rfl
    · exact h.apart later

theorem tail (h : Layer.Separate (outer :: layers)) : Layer.Separate layers where
  known := (List.forall_mem_cons.1 h.known).2
  apart adjacent := h.apart (List.infix_cons_iff.2 (Or.inr adjacent))

end Layer.Separate

namespace TypeRef

/-! ### What a type says of its values -/

/-- The number of lists around the named type. -/
def lists : TypeRef → Nat
  | .named _ _ => 0
  | .list item _ => item.lists + 1

/-- A signature whose value may be missing unless it is required. -/
def optionalUnless (required : Bool) (signature : String) : String :=
  if required then signature else "Optional[" ++ signature ++ "]"

/-- The signature of the values of a type, given that of the values of its named type. -/
def signature (core : String) : TypeRef → String
  | .named _ required => optionalUnless required core
  | .list item required => optionalUnless required ("List[" ++ item.signature core ++ "]")

/-! ### Types from layers -/

/-- The type with given layers around a named type, if layers of types are like that. -/
def ofLayers (core : String) : List Layer → Option TypeRef
  | [] => some (.named core true)
  | [.nullable] => some (.named core false)
  | .list :: rest => (ofLayers core rest).map (.list · true)
  | .nullable :: .list :: rest => (ofLayers core rest).map (.list · false)
  | _ => none

variable {type : TypeRef} {core : String} {layers : List Layer}

theorem ofLayers_layers (type : TypeRef) : ofLayers type.core type.layers = some type := by
  induction type with
  | named name required => cases required <;> rfl
  | list item required ih =>
    cases required
    · show (ofLayers item.core item.layers).map (TypeRef.list · false) = _
      rw [ih]
      rfl
    · show (ofLayers item.core item.layers).map (TypeRef.list · true) = _
      rw [ih]
      rfl

theorem core_layers_of_ofLayers (h : ofLayers core layers = some type) :
    type.core = core ∧ type.layers = layers := by
  fun_induction ofLayers core layers generalizing type with
  | case1 => cases h; exact ⟨rfl, rfl⟩
  | case2 => cases h; exact ⟨rfl, rfl⟩
  | case3 rest ih =>
    obtain ⟨item, made, rfl⟩ := Option.map_eq_some_iff.1 h
    obtain ⟨named, inner⟩ := ih made
    exact ⟨named, congrArg (Layer.list :: ·) inner⟩
  | case4 rest ih =>
    obtain ⟨item, made, rfl⟩ := Option.map_eq_some_iff.1 h
    obtain ⟨named, inner⟩ := ih made
    exact ⟨named, congrArg (fun rest => Layer.nullable :: .list :: rest) inner⟩
  | case5 => cases h

/-- The type that is made from a name and layers is the only one with that name and those layers. -/
theorem ofLayers_eq_some_iff : ofLayers core layers = some type ↔ type.core = core ∧ type.layers = layers := by
  constructor
  · exact core_layers_of_ofLayers
  · rintro ⟨rfl, rfl⟩
    exact ofLayers_layers type

/-! ### Layers of types -/

/-- A nullable layer of a type is followed by the end or by a list. -/
theorem separate_layers (type : TypeRef) : Layer.Separate type.layers := by
  induction type with
  | named name required =>
    cases required
    · exact Layer.Separate.nil.cons (Or.inl rfl) fun _ => by rintro ⟨⟩
    · exact .nil
  | list item required ih =>
    have inList : Layer.Separate (.list :: item.layers) := ih.cons (Or.inr rfl) (by rintro ⟨⟩)
    cases required
    · exact inList.cons (Or.inl rfl) fun _ => by rintro ⟨⟩
    · exact inList

/-- Separate layers are those of some type around any name. -/
theorem exists_ofLayers (separate : Layer.Separate layers) : ∃ type, ofLayers core layers = some type := by
  fun_induction ofLayers core layers with
  | case1 => exact ⟨_, rfl⟩
  | case2 => exact ⟨_, rfl⟩
  | case3 rest ih =>
    obtain ⟨item, made⟩ := ih separate.tail
    exact ⟨_, by rw [made]; rfl⟩
  | case4 rest ih =>
    obtain ⟨item, made⟩ := ih separate.tail.tail
    exact ⟨_, by rw [made]; rfl⟩
  | case5 layers some_ single inList inNullableList =>
    cases layers with
    | nil => exact absurd rfl some_
    | cons outer rest =>
      rcases separate.known outer List.mem_cons_self with rfl | rfl
      · cases rest with
        | nil => exact absurd rfl single
        | cons inner rest =>
          rcases separate.tail.known inner List.mem_cons_self with rfl | rfl
          · exact absurd ⟨[], rest, rfl⟩ separate.apart
          · exact absurd rfl (inNullableList rest)
      · exact absurd rfl (inList rest)

theorem listDepth_layers_eq (type : TypeRef) : listDepth type.layers = type.lists := by
  induction type with
  | named name required => cases required <;> rfl
  | list item required ih =>
    rw [lists, ← ih]
    cases required <;> simp [layers, listDepth]

theorem rewrap_layers (core : String) (type : TypeRef) : rewrap core type.layers = type.signature core := by
  induction type with
  | named name required => cases required <;> rfl
  | list item required ih =>
    rw [signature, ← ih]
    cases required <;> rfl

/-- **Type layers**: the layers of a type hold one list for each of its lists and no two nullable layers next to each
    other. A name and layers of that kind, and only such layers, are those of exactly one type, which can be found
    from them. A core signature that is wrapped in the layers of a type is the signature that the type says. -/
theorem layers_round_trip :
    (∀ type : TypeRef, type.layers.count .list = type.lists ∧ Layer.Separate type.layers
      ∧ ofLayers type.core type.layers = some type)
    ∧ (∀ core layers, Layer.Separate layers ↔ ∃! type : TypeRef, type.core = core ∧ type.layers = layers)
    ∧ ∀ (type : TypeRef) (core : String), rewrap core type.layers = type.signature core := by
  refine ⟨fun type => ⟨listDepth_layers_eq type, separate_layers type, ofLayers_layers type⟩, fun core layers => ?_,
    fun type core => rewrap_layers core type⟩
  simp only [← ofLayers_eq_some_iff]
  constructor
  · intro separate
    obtain ⟨type, made⟩ := exists_ofLayers separate
    refine ⟨type, made, fun other made' => ?_⟩
    exact Option.some.inj (made'.symm.trans made)
  · rintro ⟨type, made, -⟩
    exact (ofLayers_eq_some_iff.1 made).2 ▸ separate_layers type

/-- A nullable list of required lists of nullable values. -/
example : let type := TypeRef.list (.list (.named "String" false) true) false
    type.layers = [.nullable, .list, .list, .nullable]
      ∧ rewrap "str" type.layers = "Optional[List[List[Optional[str]]]]" := by decide

end TypeRef

end OperationClasses
