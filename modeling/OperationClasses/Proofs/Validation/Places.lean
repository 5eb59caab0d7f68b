/-
Module: OperationClasses.Proofs.Validation.Places
Purpose: What is asked for at a place of a response is what execution meets there.
Main exports: Asked, Meets, Faultless.meets_root, Faultless.meets_below, Meets.mem_keys_iff
-/
import OperationClasses.Proofs.Selection.Response
import OperationClasses.Proofs.Validation.Plainness

namespace OperationClasses

variable {s : Schema} {d : Document} {given : String → Bool} {operation : Operation}
  {way : List (String × String)}

/-! ### Places in a response -/

/-- A selection set that is asked for at a place in the responses to an operation, told by the response
    keys that lead there, innermost first, each with the runtime type of the object that has it: that of
    the operation, and what an occurrence of the key that applies to the runtime type selects. -/
inductive Asked (s : Schema) (d : Document) (operation : Operation) :
    List (String × String) → TypeDefinition → List Resolved → Prop where
  | root {t : TypeDefinition} (type : s.rootType operation.kind = some t) :
      Asked s d operation [] t (resolveAll d.fragmentTable d.fragmentTable operation.selections)
  | under {way : List (String × String)} {object : String} {owner t : TypeDefinition}
      {selections inner : List Resolved} {os : List Occurrence} {o : Occurrence}
      (outer : Asked s d operation way owner selections)
      (occurs : occurrences s owner selections = .ok os) (mem : o ∈ os) (applies : o.AppliesTo s object)
      (type : s.core? o.type = some t) (composite : t.body.isComposite) (selected : o.below = some inner) :
      Asked s d operation ((object, o.key) :: way) t inner

/-- The selection sets that are asked for are those of the document. -/
theorem Asked.selected {owner : TypeDefinition} {selections : List Resolved}
    (h : Asked s d operation way owner selections) (mem : operation ∈ d.operations) :
    Selected s d owner selections := by
  induction h with
  | root type => exact .root mem type
  | under _ occurs mem _ type composite selected ih => exact .under ih occurs mem type composite selected

/-- An occurrence applies at a place to an object with a runtime type. -/
def AskedOf (s : Schema) (d : Document) (operation : Operation) (way : List (String × String))
    (object : String) (o : Occurrence) : Prop :=
  ∃ owner selections os, Asked s d operation way owner selections
    ∧ occurrences s owner selections = .ok os ∧ o ∈ os
    ∧ o.AppliesTo s object

/-- The fields that execution meets in selections for an object are the occurrences that apply to it at a
    place. -/
structure Meets (s : Schema) (d : Document) (given : String → Bool) (operation : Operation)
    (way : List (String × String)) (object : String) (selections : List Selection) : Prop where
  undirected : undirectedAll selections
  found : ∀ x ∈ gather s given object d.fragmentTable selections,
    ∃ o, AskedOf s d operation way object o ∧ Depicts d.fragmentTable x o
  asked : ∀ o, AskedOf s d operation way object o →
    ∃ x ∈ gather s given object d.fragmentTable selections, Depicts d.fragmentTable x o

section Meets

variable {object inside key : String} {selections : List Selection} {fields : List SelectedField}

/-- At the place of the response itself the selections of the operation are met. -/
theorem Faultless.meets_root (faultless : Faultless s d) (valid : s.Valid) (undirected : d.Undirected)
    (mem : operation ∈ d.operations) : Meets s d given operation [] object operation.selections := by
  have whole := undirected.operation operation mem
  obtain ⟨root, isRoot, -, -, fits⟩ := faultless.operation valid mem
  obtain ⟨os, occurs, gathers⟩ := fits.gathers (fun _ _ => id) undirected.inTable whole
  have gathers := gathers given object
  constructor
  · exact whole
  · intro x hx
    obtain ⟨o, ho, applies, depicts⟩ := gathers.found x hx
    exact ⟨o, ⟨root, _, os, .root isRoot, occurs, ho, applies⟩, depicts⟩
  · intro o asked
    obtain ⟨owner, others, os', asks, occurs', ho, applies⟩ := asked
    cases asks with
    | root type =>
      rw [isRoot] at type
      cases type
      rw [occurs] at occurs'
      cases occurs'
      exact gathers.asked o ho applies

/-- What an occurrence selects below it is what the field that it depicts does. -/
theorem Faultless.gathers_below (faultless : Faultless s d) (valid : s.Valid) (undirected : d.Undirected)
    (mem : operation ∈ d.operations) {f : SelectedField} {o : Occurrence} {below : List Selection}
    (asks : AskedOf s d operation way object o) (depicts : Depicts d.fragmentTable f o)
    (selected : f.below = some below) (whole : undirectedAll below) :
    ∃ t others os, s.core? o.type = some t ∧ t.body.isComposite ∧ o.below = some others
      ∧ occurrences s t others = .ok os ∧ Gathers s d.fragmentTable given inside below os := by
  obtain ⟨owner, others, os, asks, occurs, ho, -⟩ := asks
  obtain ⟨available, fewer, same⟩ := depicts.below
  rw [selected, Option.map_some] at same
  have stands : Occurs s d o := ⟨owner, others, os, asks.selected mem, occurs, ho⟩
  obtain ⟨_, _, _, readable⟩ := faultless.readable_of_occurs valid stands
  obtain ⟨t, type, composite⟩ := readable.composite _ same
  obtain ⟨t', type', fits⟩ := readable.type
  rw [type] at type'
  cases type'
  obtain ⟨_, same', fits⟩ := fits composite
  rw [same] at same'
  cases same'
  obtain ⟨os', occurs', gathers⟩ := fits.gathers fewer undirected.inTable whole
  exact ⟨t, _, os', type, composite, same, occurs', gathers given inside⟩

/-- Nothing is left out below the fields of a response key. -/
theorem Meets.undirected_below (undirected : d.Undirected)
    (outer : Meets s d given operation way object selections)
    (group : (key, fields) ∈ collectFields s d.fragmentTable given object selections)
    {f : SelectedField} (hf : f ∈ fields) {below : List Selection} (selected : f.below = some below) :
    undirectedAll below := by
  have met := ((mem_group_iff group).1 hf).1
  exact undirectedAll_of_mem_gather undirected.inTable outer.undirected met selected

/-- Nothing is left out of what the fields of a response key select together. -/
theorem Meets.undirected_mergedBelow (undirected : d.Undirected)
    (outer : Meets s d given operation way object selections)
    (group : (key, fields) ∈ collectFields s d.fragmentTable given object selections) :
    undirectedAll (mergedBelow fields) := by
  rw [undirectedAll_iff]
  intro member hm
  obtain ⟨f, hf, hm⟩ := List.mem_flatMap.1 hm
  cases selected : f.below with
  | none =>
    rw [selected] at hm
    exact absurd hm List.not_mem_nil
  | some below =>
    rw [selected] at hm
    exact undirectedAll_iff.1 (outer.undirected_below undirected group hf selected) member hm

/-- Below a field, at the place of the objects in its values, what the fields of its key select together
    is met. -/
theorem Faultless.meets_below (faultless : Faultless s d) (valid : s.Valid) (undirected : d.Undirected)
    (mem : operation ∈ d.operations) (outer : Meets s d given operation way object selections)
    (group : (key, fields) ∈ collectFields s d.fragmentTable given object selections) :
    Meets s d given operation ((object, key) :: way) inside (mergedBelow fields) := by
  have gathers : ∀ {f o below}, f ∈ fields → AskedOf s d operation way object o →
      Depicts d.fragmentTable f o → f.below = some below → ∃ t others os, s.core? o.type = some t
        ∧ t.body.isComposite ∧ o.below = some others ∧ occurrences s t others = .ok os
        ∧ Gathers s d.fragmentTable given inside below os := by
    intro f o below hf asks depicts selected
    have whole := outer.undirected_below undirected group hf selected
    exact faultless.gathers_below valid undirected mem asks depicts selected whole
  constructor
  · exact outer.undirected_mergedBelow undirected group
  · intro x hx
    obtain ⟨f, hf, below, selected, hx⟩ := mem_gather_mergedBelow.1 hx
    obtain ⟨met, sameKey⟩ := (mem_group_iff group).1 hf
    obtain ⟨o, asks, depicts⟩ := outer.found f met
    obtain ⟨t, others, os, type, composite, selected', occurs, gathers⟩ :=
      gathers hf asks depicts selected
    obtain ⟨o', ho', applies, depicts'⟩ := gathers.found x hx
    obtain ⟨owner, outer', os', asks, occurs', ho, applies'⟩ := asks
    have key_eq : o.key = key := (congrArg FieldHead.responseKey depicts.head).trans sameKey
    refine ⟨o', ⟨t, others, os, ?_, occurs, ho', applies⟩, depicts'⟩
    rw [← key_eq]
    exact .under asks occurs' ho applies' type composite selected'
  · intro o' asked
    obtain ⟨t, others, os, asks, occurs, ho', applies⟩ := asked
    cases asks with
    | @under _ _ owner _ outer' _ os' o asks occurs' ho applies' type composite selected =>
      have asksOf : AskedOf s d operation way object o :=
        ⟨owner, outer', os', asks, occurs', ho, applies'⟩
      obtain ⟨f, met, depicts⟩ := outer.asked o asksOf
      have sameKey : f.head.responseKey = o.key := congrArg FieldHead.responseKey depicts.head.symm
      have hf : f ∈ fields := (mem_group_iff group).2 ⟨met, sameKey⟩
      obtain ⟨available, -, same⟩ := depicts.below
      rw [selected] at same
      obtain ⟨below, selected', -⟩ := Option.map_eq_some_iff.1 same.symm
      obtain ⟨t', others', os'', type', -, same', occurs'', gathers⟩ :=
        gathers hf asksOf depicts selected'
      rw [type] at type'
      cases type'
      rw [selected] at same'
      cases same'
      rw [occurs] at occurs''
      cases occurs''
      obtain ⟨x, hx, depicts'⟩ := gathers.asked o' ho' applies
      exact ⟨x, mem_gather_mergedBelow.2 ⟨f, hf, below, selected', hx⟩, depicts'⟩

end Meets

/-- A selection set selects a response key for a runtime type: an occurrence with the key applies to the
    type. -/
def SelectsKey (s : Schema) (owner : TypeDefinition) (selections : List Resolved) (t key : String) :
    Prop :=
  ∃ os o, occurrences s owner selections = .ok os ∧ o ∈ os ∧ o.key = key ∧ o.AppliesTo s t

/-- An object has a key exactly if a selection set that is asked for at its place selects it. -/
theorem Meets.mem_keys_iff {t : TypeDefinition} {selections : List Selection}
    {members : List (String × Json)} {key : String}
    (meets : Meets s d given operation way t.name selections)
    (answers : Answers s d.fragmentTable given t selections members) :
    key ∈ members.map Prod.fst
      ↔ ∃ owner others, Asked s d operation way owner others ∧ SelectsKey s owner others t.name key := by
  rw [answers.mem_keys_iff, responseKeys, mem_collectFields_iff]
  constructor
  · intro present
    obtain ⟨x, hx, rfl⟩ := present
    obtain ⟨o, ⟨owner, others, os, asks, occurs, ho, applies⟩, depicts⟩ := meets.found x hx
    have sameKey : o.key = x.head.responseKey := congrArg FieldHead.responseKey depicts.head
    exact ⟨owner, others, asks, os, o, occurs, ho, sameKey, applies⟩
  · intro selects
    obtain ⟨owner, others, asks, os, o, occurs, ho, rfl, applies⟩ := selects
    obtain ⟨x, hx, depicts⟩ := meets.asked o ⟨owner, others, os, asks, occurs, ho, applies⟩
    exact ⟨x, hx, congrArg FieldHead.responseKey depicts.head.symm⟩

end OperationClasses
