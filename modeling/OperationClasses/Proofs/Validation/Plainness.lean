/-
Module: OperationClasses.Proofs.Validation.Plainness
Purpose: Selections that can be read and whose directives leave nothing out are plain, so that execution meets the
  fields that flattening finds.
Main exports: Document.Undirected, Resolved.AllFit.plain, Depicts, Gathers, Resolved.AllFit.gathers
-/
import OperationClasses.Proofs.Selection.Flattening
import OperationClasses.Proofs.Validation.Acceptance

namespace OperationClasses

/-! ### Directives -/

/-- Directives leave nothing out. -/
def keepsAll (directives : List Directive) : Bool :=
  directives.all fun d => d.name != "skip" && d.name != "include"

mutual

/-- No directive leaves out a member or anything inside it. -/
def Selection.undirected : Selection → Bool
  | .leaf head => keepsAll head.directives
  | .nested head below => keepsAll head.directives && undirectedAll below
  | .spread _ directives => keepsAll directives
  | .inline _ directives inner => keepsAll directives && undirectedAll inner

/-- No directive leaves out any member of a selection set or anything inside one. -/
def undirectedAll : List Selection → Bool
  | [] => true
  | first :: others => first.undirected && undirectedAll others

end

/-- No directive of a document leaves anything out. -/
structure Document.Undirected (d : Document) : Prop where
  operation : ∀ o ∈ d.operations, undirectedAll o.selections
  fragment : ∀ f ∈ d.fragments, undirectedAll f.selections

/-- Nothing is left out of a selection set if nothing is left out of its members. -/
theorem undirectedAll_iff {selections : List Selection} :
    undirectedAll selections ↔ ∀ member ∈ selections, member.undirected := by
  induction selections with
  | nil => simp [undirectedAll]
  | cons first others ih => rw [undirectedAll, Bool.and_eq_true_iff, ih, List.forall_mem_cons]

/-- The directives of a member leave nothing out if none inside it does. -/
theorem Selection.keepsAll_of_undirected {member : Selection} (h : member.undirected) :
    keepsAll member.directives := by
  cases member with
  | leaf | spread => exact h
  | nested | inline => exact (Bool.and_eq_true_iff.1 h).1

variable {s : Schema} {table available : List Fragment} {parent lookup : TypeDefinition}
  {first member : Selection} {selections : List Selection} {position : List Nat}
  {conditions : List String}

/-- Nothing is left out of what a member encloses. -/
theorem Encloses.undirected (h : Encloses s table parent first position conditions lookup member)
    (inTable : ∀ f ∈ table, undirectedAll f.selections) (undirected : first.undirected) :
    member.undirected := by
  induction h with
  | self => exact undirected
  | bare at_ _ ih | inline _ at_ _ ih =>
    exact ih (undirectedAll_iff.1 (Bool.and_eq_true_iff.1 undirected).2 _ (List.mem_of_getElem? at_))
  | spread found _ at_ _ ih =>
    have inside := inTable _ (List.mem_of_find?_eq_some found)
    exact ih (undirectedAll_iff.1 inside _ (List.mem_of_getElem? at_))

/-- Nothing is left out of the fragments of the table of a document without such directives. -/
theorem Document.Undirected.inTable {d : Document} (undirected : d.Undirected) :
    ∀ f ∈ d.fragmentTable, undirectedAll f.selections :=
  fun f hf => undirected.fragment f (Document.mem_fragments_of_mem_table hf)

/-- Nothing is left out below a field that execution meets. -/
theorem undirectedAll_of_mem_gather {given : String → Bool} {object : String} {x : SelectedField}
    {below : List Selection} (inTable : ∀ f ∈ table, undirectedAll f.selections)
    (undirected : undirectedAll selections) (h : x ∈ gather s given object table selections)
    (selected : x.below = some below) : undirectedAll below := by
  -- the type that fields are looked up on plays no part here
  obtain ⟨_, _, _, member, ⟨i, _, next, -, at_, inside⟩, field, -⟩ :=
    @Answered.stands s table given object default selections x (mem_gather_iff.1 h)
  have whole := inside.undirected inTable (undirectedAll_iff.1 undirected _ (List.mem_of_getElem? at_))
  cases member with
  | leaf head =>
    cases field
    cases selected
  | nested head inner =>
    cases field
    cases selected
    exact (Bool.and_eq_true_iff.1 whole).2
  | spread | inline => cases field

/-! ### Selections that can be read -/

/-- The members of selections that can be read can be read. -/
theorem Resolved.AllFit.of_mem (fits : Resolved.AllFit s parent (resolveAll table available selections))
    (mem : member ∈ selections) : (resolve table available member).Fits s parent := by
  induction selections with
  | nil => exact absurd mem List.not_mem_nil
  | cons first others ih =>
    rw [resolveAll] at fits
    rcases List.mem_cons.1 mem with rfl | mem
    · exact fits.1
    · exact ih fits.2 mem

/-- A spread that can be read is that of a fragment of the table, on a known composite type, whose
    selections can be read. -/
theorem Resolved.Fits.spread {name : String} {directives : List Directive}
    (fewer : Subtable available table)
    (fits : (resolve table available (.spread name directives)).Fits s parent) :
    ∃ f type, findFragment available name = some f ∧ findFragment table name = some f
      ∧ s.find? f.typeCondition = some type ∧ type.body.isComposite
      ∧ Resolved.AllFit s type (resolveAll table (withoutFragment available name) f.selections) := by
  rw [resolve] at fits
  split at fits
  · rename_i f found
    obtain ⟨type, known, composite, inner⟩ := fits
    exact ⟨f, type, found, fewer name f found, known, composite, inner⟩
  · split at fits <;> exact fits.elim

/-- What a member that can be read encloses can be read, with the fragments that are left there. -/
theorem Encloses.fits (h : Encloses s table parent first position conditions lookup member)
    (fewer : Subtable available table) (fits : (resolve table available first).Fits s parent) :
    ∃ left, Subtable left available ∧ (resolve table left member).Fits s lookup := by
  induction h generalizing available with
  | self => exact ⟨available, fun _ _ => id, fits⟩
  | bare at_ _ ih =>
    rw [resolve, Resolved.Fits] at fits
    exact ih fewer (fits.of_mem (List.mem_of_getElem? at_))
  | inline known at_ _ ih =>
    rw [resolve] at fits
    obtain ⟨type, known', -, fits⟩ := fits
    rw [known] at known'
    cases known'
    exact ih fewer (fits.of_mem (List.mem_of_getElem? at_))
  | @spread parent type lookup name directives f i next member position conditions found known at_ _ ih
    =>
    obtain ⟨g, type', -, found', known', -, fits⟩ := fits.spread fewer
    rw [found] at found'
    cases found'
    rw [known] at known'
    cases known'
    have part : Subtable (withoutFragment available name) available := Subtable.without
      (fun _ _ => id) name
    obtain ⟨left, sub, fits⟩ := ih (fewer.without name) (fits.of_mem (List.mem_of_getElem? at_))
    exact ⟨left, fun other f h => part other f (sub other f h), fits⟩

/-- The members that stand in selections that can be read can be read. -/
theorem Reached.fits (h : Reached s table parent selections lookup member)
    (fewer : Subtable available table)
    (fits : Resolved.AllFit s parent (resolveAll table available selections)) :
    ∃ left, Subtable left available ∧ (resolve table left member).Fits s lookup := by
  obtain ⟨_, _, i, _, next, -, at_, inside⟩ := h
  exact inside.fits fewer (fits.of_mem (List.mem_of_getElem? at_))

/-- Selections that can be read, and that no directive leaves anything out of, are plain, and spread no
    fragment that is not left. -/
theorem Resolved.AllFit.plain (fits : Resolved.AllFit s parent (resolveAll table available selections))
    (fewer : Subtable available table) (inTable : ∀ f ∈ table, undirectedAll f.selections)
    (undirected : undirectedAll selections) :
    Plain s table (Reached s table parent selections)
      ∧ Offers table available (Reached s table parent selections) := by
  have spreads : ∀ {lookup name directives},
    Reached s table parent selections lookup (.spread name directives) →
      ∃ left, Subtable left available ∧ ∃ f type, findFragment left name = some f
        ∧ findFragment table name = some f ∧ s.find? f.typeCondition = some type ∧ type.body.isComposite
        ∧ Resolved.AllFit s type (resolveAll table (withoutFragment left name) f.selections) := by
    intro lookup name directives reached
    obtain ⟨left, sub, fits⟩ := reached.fits fewer fits
    exact ⟨left, sub, fits.spread fun other f h => fewer other f (sub other f h)⟩
  refine ⟨⟨?_, ?_, ?_, ?_, ?_⟩, ?_⟩
  · intro lookup member x reached field
    obtain ⟨left, -, fits⟩ := reached.fits fewer fits
    cases member with
    | leaf | nested =>
      cases field
      rw [resolve] at fits
      obtain ⟨type, t, known, -⟩ := fits
      exact ⟨type, known⟩
    | spread | inline => cases field
  · intro lookup condition directives inner reached
    obtain ⟨left, -, fits⟩ := reached.fits fewer fits
    rw [resolve] at fits
    obtain ⟨type, known, composite, -⟩ := fits
    exact ⟨type, known, composite⟩
  · intro lookup name directives reached
    obtain ⟨left, -, f, type, -, found, known, composite, -⟩ := spreads reached
    exact ⟨f, type, found, known, composite⟩
  · -- inside a fragment its name is not left
    intro lookup name directives f type reached found known lookup' directives' again
    obtain ⟨left, sub, g, type', -, found', known', -, inner⟩ := spreads reached
    rw [found] at found'
    cases found'
    rw [known] at known'
    cases known'
    have part : Subtable (withoutFragment left name) table :=
      Subtable.without (fun other f h => fewer other f (sub other f h)) name
    obtain ⟨deeper, sub', fits⟩ := again.fits part inner
    obtain ⟨h, _, here, -⟩ := fits.spread fun other f h => part other f (sub' other f h)
    have absent := sub' name h here
    rw [findFragment_without_self] at absent
    cases absent
  · rintro lookup member ⟨_, _, i, _, next, -, at_, inside⟩ d hd
    have whole := inside.undirected inTable (undirectedAll_iff.1 undirected _ (List.mem_of_getElem? at_))
    simpa using List.all_eq_true.1 (Selection.keepsAll_of_undirected whole) d hd
  · intro lookup name directives reached
    obtain ⟨left, sub, f, -, here, found, -⟩ := spreads reached
    rw [found, sub name f here]

/-! ### Fields that execution meets -/

/-- Every fragment around an occurrence applies to an object type. -/
def Occurrence.AppliesTo (s : Schema) (o : Occurrence) (object : String) : Prop :=
  ∀ c ∈ o.conditions, Possible s c object

/-- An occurrence depicts a field: it has its name, alias and arguments and selects the same below it. -/
structure Depicts (table : List Fragment) (x : SelectedField) (o : Occurrence) : Prop where
  head : o.head = x.head
  below : ∃ available, Subtable available table ∧ o.below = x.below.map (resolveAll table available)

/-- The fields that execution meets in selections for an object type are the occurrences that apply to
    it. -/
structure Gathers (s : Schema) (table : List Fragment) (given : String → Bool) (object : String)
    (selections : List Selection) (os : List Occurrence) : Prop where
  found : ∀ x ∈ gather s given object table selections,
    ∃ o ∈ os, o.AppliesTo s object ∧ Depicts table x o
  asked : ∀ o ∈ os, o.AppliesTo s object →
    ∃ x ∈ gather s given object table selections, Depicts table x o

/-- Execution meets in selections that can be read what flattening finds in them. -/
theorem Resolved.AllFit.gathers
    (fits : Resolved.AllFit s parent (resolveAll table available selections))
    (fewer : Subtable available table) (inTable : ∀ f ∈ table, undirectedAll f.selections)
    (undirected : undirectedAll selections) :
    ∃ os, occurrences s parent (resolveAll table available selections) = .ok os
      ∧ ∀ given object, Gathers s table given object selections os := by
  obtain ⟨plain, offers⟩ := fits.plain fewer inTable undirected
  obtain ⟨placed, collected, places⟩ :=
    @collectAll_places s table parent.name available [] parent selections plain offers fewer
  refine ⟨_, collected, ?_⟩
  intro given object
  constructor
  · intro x hx
    obtain ⟨position, conditions, lookup, member, at_, field, all⟩ := plain.mem_gather_iff.1 hx
    obtain ⟨o, ho, shows⟩ := places.complete at_ field
    have applies : o.AppliesTo s object := by
      rwa [Occurrence.AppliesTo, shows.conditions]
    exact ⟨o, List.mem_map.2 ⟨_, ho, rfl⟩, applies, shows.head, shows.below⟩
  · intro o ho applies
    obtain ⟨p, hp, rfl⟩ := List.mem_map.1 ho
    obtain ⟨conditions, lookup, member, x, at_, field, shows⟩ := places.sound p hp
    rw [Occurrence.AppliesTo, shows.conditions] at applies
    have met : x ∈ gather s given object table selections :=
      plain.mem_gather_iff.2 ⟨p.1, conditions, lookup, member, at_, field, applies⟩
    exact ⟨x, met, shows.head, shows.below⟩

end OperationClasses
