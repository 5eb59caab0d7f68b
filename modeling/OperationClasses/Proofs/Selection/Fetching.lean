/-
Module: OperationClasses.Proofs.Selection.Fetching
Purpose: Which fields a selection set fetches at any depth, told from the selections as they are written, and how the
  occurrences that were collected of the set lead to exactly these fields.
Main exports: Fetches, Shown, occurrences_shown, Occurrence.LeadsTo, Occurrence.LeadsTo.fetches
-/
import OperationClasses.Generation.Outputs
import OperationClasses.Proofs.Selection.Flattening

namespace OperationClasses

variable {s : Schema} {table available : List Fragment} {owner : String}

/-- Whether a field is the type name under its own name. -/
def FieldHead.isTypename (head : FieldHead) : Bool := head.name == typenameField.name && head.aliasName.isNone

/-- A selection set on a type fetches a field of some type, itself or through its fragments, or below a field that it
    fetches. The type name under its own name is not counted. -/
inductive Fetches (s : Schema) (table : List Fragment) : TypeDefinition → List Selection → TypeRef → Prop where
  | own {parent lookup : TypeDefinition} {selections : List Selection} {member : Selection} {x : SelectedField}
      {type : TypeRef} (reached : Reached s table parent selections lookup member) (field : member.field? = some x)
      (notTypename : ¬ x.head.isTypename) (known : s.selectableType? lookup x.head.name = some type) :
      Fetches s table parent selections type
  | deeper {parent lookup t : TypeDefinition} {selections inner : List Selection} {member : Selection}
      {x : SelectedField} {type inside : TypeRef} (reached : Reached s table parent selections lookup member)
      (field : member.field? = some x) (notTypename : ¬ x.head.isTypename)
      (known : s.selectableType? lookup x.head.name = some type) (named : s.core? type = some t)
      (composite : t.body.isComposite) (selected : x.below = some inner)
      (fetches : Fetches s table t inner inside) : Fetches s table parent selections inside

/-! ### What was collected -/

/-- Occurrences show the fields among some members: each of them one of the fields, and each field is shown. -/
structure Shown (s : Schema) (table : List Fragment) (owner : String)
    (among : TypeDefinition → Selection → Prop) (os : List Occurrence) : Prop where
  sound : ∀ o ∈ os, ∃ conditions lookup member x, among lookup member ∧ member.field? = some x
    ∧ Shows s table owner conditions lookup x o
  complete : ∀ {lookup member x}, among lookup member → member.field? = some x →
    ∃ o ∈ os, ∃ conditions, Shows s table owner conditions lookup x o

namespace Shown

variable {among among' : TypeDefinition → Selection → Prop} {os os' : List Occurrence}

/-- A field is shown by its own occurrence. -/
theorem self {conditions : List String} {parent : TypeDefinition} {first : Selection} {x : SelectedField}
    {o : Occurrence} (field : first.field? = some x) (shows : Shows s table owner conditions parent x o) :
    Shown s table owner (Within s table parent first) [o] where
  sound o' ho := by
    cases List.mem_singleton.1 ho
    exact ⟨conditions, parent, first, x, .self, field, shows⟩
  complete within field' := by
    obtain ⟨rfl, rfl⟩ := (within_field field).1 within
    rw [field] at field'
    cases field'
    exact ⟨o, List.mem_singleton.2 rfl, conditions, shows⟩

/-- What is shown depends on the fields among the members only. -/
theorem of_fields (h : Shown s table owner among os)
    (same : ∀ {lookup member x}, member.field? = some x → (among' lookup member ↔ among lookup member)) :
    Shown s table owner among' os where
  sound o ho := by
    obtain ⟨conditions, lookup, member, x, inside, field, shows⟩ := h.sound o ho
    exact ⟨conditions, lookup, member, x, (same field).2 inside, field, shows⟩
  complete inside field := h.complete ((same field).1 inside) field

/-- The occurrences of a first member and those of others show what both enclose. -/
theorem cons {parent : TypeDefinition} {first : Selection} {others : List Selection}
    (h : Shown s table owner (Within s table parent first) os)
    (h' : Shown s table owner (Reached s table parent others) os') :
    Shown s table owner (Reached s table parent (first :: others)) (os ++ os') where
  sound o ho := by
    rcases List.mem_append.1 ho with ho | ho
    · obtain ⟨conditions, lookup, member, x, inside, rest⟩ := h.sound o ho
      exact ⟨conditions, lookup, member, x, reached_cons.2 (Or.inl inside), rest⟩
    · obtain ⟨conditions, lookup, member, x, inside, rest⟩ := h'.sound o ho
      exact ⟨conditions, lookup, member, x, reached_cons.2 (Or.inr inside), rest⟩
  complete inside field := by
    rcases reached_cons.1 inside with inside | inside
    · obtain ⟨o, ho, shows⟩ := h.complete inside field
      exact ⟨o, List.mem_append_left _ ho, shows⟩
    · obtain ⟨o, ho, shows⟩ := h'.complete inside field
      exact ⟨o, List.mem_append_right _ ho, shows⟩

end Shown

mutual

/-- What was collected of a member are the fields that it encloses. -/
theorem collect_shown (available : List Fragment) (outer : List String) (parent : TypeDefinition)
    (first : Selection) (fewer : Subtable available table) {os : List Occurrence}
    (h : collect s owner outer parent (resolve table available first) = .ok os) :
    Shown s table owner (Within s table parent first) os := by
  match first with
  | .leaf head =>
    rw [resolve, collect] at h
    obtain ⟨type, known, h⟩ := bind_ok h
    cases h
    exact .self rfl ⟨rfl, fieldTypeOf_eq_ok_iff.1 known, rfl, rfl, available, fewer, rfl⟩
  | .nested head below =>
    rw [resolve, collect] at h
    obtain ⟨type, known, h⟩ := bind_ok h
    cases h
    exact .self rfl ⟨rfl, fieldTypeOf_eq_ok_iff.1 known, rfl, rfl, available, fewer, rfl⟩
  | .inline none directives inner =>
    rw [resolve, collect] at h
    refine (collectAll_shown available outer parent inner fewer h).of_fields fun field => ?_
    rw [within_inline, or_iff_right]
    · simp
    · rintro ⟨-, rfl⟩
      cases field
  | .inline (some condition) directives inner =>
    rw [resolve, collect] at h
    obtain ⟨type, known, h⟩ := bind_ok h
    refine (collectAll_shown available _ type inner fewer h).of_fields fun field => ?_
    rw [within_inline, or_iff_right]
    · simp [typeNamed_eq_ok_iff.1 known]
    · rintro ⟨-, rfl⟩
      cases field
  | .spread name directives =>
    cases offered : findFragment available name with
    | none =>
      rw [resolve_spread_of_absent offered] at h
      split at h <;> cases h
    | some f =>
      rw [resolve_spread offered, collect] at h
      obtain ⟨type, known, h⟩ := bind_ok h
      refine (collectAll_shown _ _ type f.selections (fewer.without name) h).of_fields fun field => ?_
      rw [within_spread, or_iff_right]
      · simp [fewer name f offered, typeNamed_eq_ok_iff.1 known]
      · rintro ⟨-, rfl⟩
        cases field
termination_by (available.length, sizeOf first)
decreasing_by
  · exact Prod.Lex.right _ (by simp only [Selection.inline.sizeOf_spec]; omega)
  · exact Prod.Lex.right _ (by simp only [Selection.inline.sizeOf_spec]; omega)
  · exact Prod.Lex.left _ _ (length_withoutFragment_lt offered)

theorem collectAll_shown (available : List Fragment) (outer : List String) (parent : TypeDefinition)
    (selections : List Selection) (fewer : Subtable available table) {os : List Occurrence}
    (h : collectAll s owner outer parent (resolveAll table available selections) = .ok os) :
    Shown s table owner (Reached s table parent selections) os := by
  match selections with
  | [] =>
    rw [resolveAll, collectAll] at h
    cases h
    exact ⟨fun _ absent => absurd absent List.not_mem_nil, fun reached => absurd reached not_reached_nil⟩
  | first :: others =>
    rw [resolveAll, collectAll] at h
    obtain ⟨own, collected, h⟩ := bind_ok h
    obtain ⟨later, collected', h⟩ := bind_ok h
    cases h
    exact (collect_shown available outer parent first fewer collected).cons
      (collectAll_shown available outer parent others fewer collected')
termination_by (available.length, sizeOf selections)

end

/-- What was collected of a selection set are the fields that are reached in it. -/
theorem occurrences_shown {parent : TypeDefinition} {selections : List Selection} (fewer : Subtable available table)
    {os : List Occurrence} (h : occurrences s parent (resolveAll table available selections) = .ok os) :
    Shown s table parent.name (Reached s table parent selections) os :=
  collectAll_shown available [] parent selections fewer h

/-! ### What occurrences lead to -/

/-- An occurrence leads to the type of its own field and to those of the fields that are collected below it, at any
    depth. The type name under its own name leads nowhere. -/
inductive Occurrence.LeadsTo (s : Schema) : Occurrence → TypeRef → Prop where
  | own {o : Occurrence} (notTypename : ¬ o.isTypename) : Occurrence.LeadsTo s o o.type
  | deeper {o inner : Occurrence} {t : TypeDefinition} {selections : List Resolved} {os : List Occurrence}
      {type : TypeRef} (notTypename : ¬ o.isTypename) (named : s.core? o.type = some t)
      (composite : t.body.isComposite) (selected : o.below = some selections)
      (occurs : occurrences s t selections = .ok os) (mem : inner ∈ os) (leads : Occurrence.LeadsTo s inner type) :
      Occurrence.LeadsTo s o type

section LeadsTo

variable {o : Occurrence} {type : TypeRef}

theorem Occurrence.not_leadsTo_of_isTypename (isTypename : o.isTypename) : ¬ o.LeadsTo s type := by
  rintro (notTypename | notTypename)
  · exact notTypename isTypename
  · exact notTypename isTypename

/-- An occurrence of a type without selections leads to that type only. -/
theorem Occurrence.leadsTo_iff_of_simple {t : TypeDefinition} (notTypename : ¬ o.isTypename)
    (named : s.core? o.type = some t) (simple : ¬ t.body.isComposite) : o.LeadsTo s type ↔ type = o.type := by
  constructor
  · rintro (_ | ⟨-, named', composite⟩)
    · rfl
    · rw [named] at named'
      cases named'
      exact absurd composite simple
  · rintro rfl
    exact .own notTypename

/-- An occurrence of a type with selections also leads to what the occurrences below it lead to. -/
theorem Occurrence.leadsTo_iff_of_composite {t : TypeDefinition} {selections : List Resolved} {os : List Occurrence}
    (notTypename : ¬ o.isTypename) (named : s.core? o.type = some t) (composite : t.body.isComposite)
    (selected : o.below = some selections) (occurs : occurrences s t selections = .ok os) :
    o.LeadsTo s type ↔ type = o.type ∨ ∃ inner ∈ os, inner.LeadsTo s type := by
  constructor
  · rintro (_ | ⟨-, named', -, selected', occurs', mem, leads⟩)
    · exact Or.inl rfl
    · rw [named] at named'
      cases named'
      rw [selected] at selected'
      cases selected'
      rw [occurs] at occurs'
      cases occurs'
      exact Or.inr ⟨_, mem, leads⟩
  · rintro (rfl | ⟨inner, mem, leads⟩)
    · exact .own notTypename
    · exact .deeper notTypename named composite selected occurs mem leads

end LeadsTo

/-- What an occurrence of a selection set leads to is fetched by the set. -/
theorem Occurrence.LeadsTo.fetches {o : Occurrence} {type : TypeRef} (h : o.LeadsTo s type) :
    ∀ {parent : TypeDefinition} {selections : List Selection} {available : List Fragment} {os : List Occurrence},
      Subtable available table → occurrences s parent (resolveAll table available selections) = .ok os → o ∈ os →
        Fetches s table parent selections type := by
  induction h with
  | own notTypename =>
    intro parent selections available os fewer occurs mem
    obtain ⟨_, lookup, member, x, reached, field, shows⟩ := (occurrences_shown fewer occurs).sound _ mem
    rw [Occurrence.isTypename, shows.head] at notTypename
    exact .own reached field notTypename shows.type
  | deeper notTypename named composite selected occursBelow memBelow _ ih =>
    intro parent selections available os fewer occurs mem
    obtain ⟨_, lookup, member, x, reached, field, shows⟩ := (occurrences_shown fewer occurs).sound _ mem
    obtain ⟨available', fewer', below⟩ := shows.below
    rw [selected] at below
    obtain ⟨inner, written, rfl⟩ := Option.map_eq_some_iff.1 below.symm
    rw [Occurrence.isTypename, shows.head] at notTypename
    exact .deeper reached field notTypename shows.type named composite written (ih fewer' occursBelow memBelow)

end OperationClasses
