/-
Module: OperationClasses.Proofs.Generation.Directives
Purpose: The directives of selections play no part in generation: without them, documents lead to the same classes up
  to the texts that are sent.
Main exports: Selection.bare, Document.bare, resolveAll_bare, accessors_bare, Generator.generate_bare,
  Generator.Ran.bare
-/
import OperationClasses.Proofs.Generation.Contribution
import OperationClasses.Proofs.Generation.QueryTexts
import OperationClasses.Proofs.Selection.Spreads

namespace OperationClasses

open Generation

variable {settings : Settings} {s : Schema}

/-! ### Selections without directives -/

/-- A selected field without its directives. -/
def FieldHead.bare (head : FieldHead) : FieldHead := { head with directives := [] }

mutual

/-- A selection without directives, at every depth. -/
def Selection.bare : Selection → Selection
  | .leaf head => .leaf head.bare
  | .nested head selections => .nested head.bare (bareAll selections)
  | .spread name _ => .spread name []
  | .inline condition _ selections => .inline condition [] (bareAll selections)

/-- Selections without directives. -/
def bareAll : List Selection → List Selection
  | [] => []
  | first :: rest => first.bare :: bareAll rest

end

/-- A document whose selections have no directives. -/
def Document.bare (d : Document) : Document := d.mapSelections bareAll

mutual

/-- A resolved selection without directives, at every depth. -/
def Resolved.bare : Resolved → Resolved
  | .leaf head => .leaf head.bare
  | .nested head below => .nested head.bare (Resolved.bareAll below)
  | .narrowed condition below => .narrowed condition (Resolved.bareAll below)
  | .missing name => .missing name
  | .cyclic name => .cyclic name

/-- Resolved selections without directives. -/
def Resolved.bareAll : List Resolved → List Resolved
  | [] => []
  | first :: rest => first.bare :: Resolved.bareAll rest

end

/-! ### Resolving them -/

section Fragments

variable (change : List Selection → List Selection) (fragments : List Fragment) (name : String)

theorem findFragment_mapSelections : findFragment (fragments.map (·.mapSelections change)) name
    = (findFragment fragments name).map (·.mapSelections change) := by
  rw [findFragment, List.find?_map]
  rfl

theorem withoutFragment_mapSelections : withoutFragment (fragments.map (·.mapSelections change)) name
    = (withoutFragment fragments name).map (·.mapSelections change) := by
  rw [withoutFragment, List.filter_map]
  rfl

theorem putFragment_mapSelections (f : Fragment) :
    putFragment (f.mapSelections change) (fragments.map (·.mapSelections change))
      = (putFragment f fragments).map (·.mapSelections change) := by
  induction fragments with
  | nil => rfl
  | cons first rest ih =>
    rw [List.map_cons, putFragment, putFragment, ih]
    show (if first.name = f.name then _ else _) = _
    split <;> rfl

/-- The table of a document with other selections has the same fragments with other selections. -/
theorem Document.fragmentTable_mapSelections (d : Document) :
    (d.mapSelections change).fragmentTable = d.fragmentTable.map (·.mapSelections change) := by
  have gathered : ∀ fragments table : List Fragment,
      (fragments.map (·.mapSelections change)).foldl (fun table f => putFragment f table)
          (table.map (·.mapSelections change))
        = (fragments.foldl (fun table f => putFragment f table) table).map (·.mapSelections change) := by
    intro fragments
    induction fragments with
    | nil => exact fun _ => rfl
    | cons first rest ih =>
      intro table
      rw [List.map_cons, List.foldl_cons, List.foldl_cons, putFragment_mapSelections, ih]
  rw [fragmentTable, fragments_mapSelections]
  exact gathered d.fragments []

end Fragments

mutual

/-- Selections without directives resolve to the same without directives. -/
theorem resolve_bare (table available : List Fragment) (member : Selection) :
    resolve (table.map (·.mapSelections bareAll)) (available.map (·.mapSelections bareAll)) member.bare
      = (resolve table available member).bare := by
  match member with
  | .leaf head => rw [Selection.bare, resolve, resolve, Resolved.bare]
  | .nested head selections =>
    rw [Selection.bare, resolve, resolve, Resolved.bare, resolveAll_bare]
  | .inline condition directives selections =>
    rw [Selection.bare, resolve, resolve, Resolved.bare, resolveAll_bare]
  | .spread name directives =>
    have mapped := findFragment_mapSelections bareAll available name
    rw [Selection.bare]
    cases found : findFragment available name with
    | some f =>
      rw [found] at mapped
      rw [resolve_spread found, resolve_spread mapped, withoutFragment_mapSelections, Resolved.bare,
        ← resolveAll_bare]
      rfl
    | none =>
      rw [found] at mapped
      rw [resolve_spread_of_absent found, resolve_spread_of_absent mapped, findFragment_mapSelections,
        Option.isSome_map]
      split <;> rw [Resolved.bare]
termination_by (available.length, sizeOf member)
decreasing_by
  · exact Prod.Lex.right _ (by simp only [Selection.nested.sizeOf_spec]; omega)
  · exact Prod.Lex.right _ (by simp only [Selection.inline.sizeOf_spec]; omega)
  · exact Prod.Lex.left _ _ (length_withoutFragment_lt found)

theorem resolveAll_bare (table available : List Fragment) (selections : List Selection) :
    resolveAll (table.map (·.mapSelections bareAll)) (available.map (·.mapSelections bareAll))
        (bareAll selections)
      = Resolved.bareAll (resolveAll table available selections) := by
  match selections with
  | [] => rw [bareAll, resolveAll, resolveAll, Resolved.bareAll]
  | first :: rest =>
    rw [bareAll, resolveAll, resolveAll, Resolved.bareAll, resolve_bare, resolveAll_bare]
termination_by (available.length, sizeOf selections)

end

/-! ### Values of a field -/

section

variable {wanted : String} {o : Occurrence} {t : TypeDefinition} (type : settings.schema.core? o.type = some t)
include type

/-- A value of a composite type gets the class of what is selected for it. -/
theorem coreOutput_selected (composite : t.body.isComposite) {below : List Resolved}
    (selected : o.below = some below) :
    coreOutput settings wanted o = (do
      let registry := (← get).registry
      let className := registry.leafName wanted t.name
      let existing := registry.find? className
      let (methods, dependencies) ← accessors settings className t below
      registerLeaf settings className t existing methods dependencies
      return ⟨className, className ++ "($raw_value)", some className⟩ : Generation TypedOutput) := by
  obtain ⟨head, type, owner, conditions, _⟩ := o
  cases selected
  rw [coreOutput]
  simp only [type]
  cases body : t.body with
  | object | interface | union => rfl
  | scalar | enum | input => rw [body] at composite; cases composite

/-- A composite type must have something selected. -/
theorem coreOutput_unselected (composite : t.body.isComposite) (selected : o.below = none) :
    coreOutput settings wanted o = throw (.invariant (.noSelections t.name)) := by
  obtain ⟨head, type, owner, conditions, _⟩ := o
  cases selected
  rw [coreOutput]
  simp only [type]
  cases body : t.body with
  | object | interface | union => rfl
  | scalar | enum | input => rw [body] at composite; cases composite

/-- A value of any other type is converted by its type alone. -/
theorem coreOutput_simple (simple : ¬ t.body.isComposite) :
    coreOutput settings wanted o = (match t.body with
      | .scalar => do
        let binding ← scalarBinding settings t.name
        return ⟨binding.signature, binding.deserialize, none⟩
      | .enum values => do
        let className ← enumClass t.name values
        return ⟨className, className ++ "($raw_value)", some className⟩
      | _ => throw (.unsupported (.notOutput t.name)) : Generation TypedOutput) := by
  rw [coreOutput]
  simp only [type]
  cases body : t.body with
  | object | interface | union => rw [body] at simple; exact absurd rfl simple
  | scalar | enum | input => rfl

end

/-! ### Reading them -/

/-- An occurrence of a field without directives. -/
def Occurrence.bare (o : Occurrence) : Occurrence :=
  { o with head := o.head.bare, below := o.below.map Resolved.bareAll }

mutual

/-- The field selections of selections without directives are the same without directives. -/
theorem collect_bare (owner : String) (conditions : List String) (parent : TypeDefinition) (r : Resolved) :
    collect s owner conditions parent r.bare
      = (collect s owner conditions parent r).map (List.map Occurrence.bare) := by
  match r with
  | .leaf head =>
    rw [Resolved.bare, collect, collect]
    cases h : fieldTypeOf s parent head.name <;> simp [FieldHead.bare, h] <;> rfl
  | .nested head below =>
    rw [Resolved.bare, collect, collect]
    cases h : fieldTypeOf s parent head.name <;> simp [FieldHead.bare, h] <;> rfl
  | .narrowed none below =>
    rw [Resolved.bare, collect, collect, collectAll_bare]
  | .narrowed (some condition) below =>
    rw [Resolved.bare, collect, collect]
    cases h : typeNamed s condition with
    | error fault => rfl
    | ok t => exact collectAll_bare owner _ t below
  | .missing name => rw [Resolved.bare, collect]; rfl
  | .cyclic name => rw [Resolved.bare, collect]; rfl

theorem collectAll_bare (owner : String) (conditions : List String) (parent : TypeDefinition)
    (rs : List Resolved) :
    collectAll s owner conditions parent (Resolved.bareAll rs)
      = (collectAll s owner conditions parent rs).map (List.map Occurrence.bare) := by
  match rs with
  | [] => rw [Resolved.bareAll, collectAll]; rfl
  | first :: rest =>
    rw [Resolved.bareAll, collectAll, collectAll, collect_bare, collectAll_bare]
    cases collect s owner conditions parent first with
    | error fault => rfl
    | ok os =>
      cases collectAll s owner conditions parent rest with
      | error fault => rfl
      | ok others => simp [Except.map, bind, Except.bind, pure, Except.pure]

end

mutual

/-- A selection set is read like the one without directives. -/
theorem accessors_bare (className : String) (owner : TypeDefinition) (selections : List Resolved) :
    accessors settings className owner (Resolved.bareAll selections)
      = accessors settings className owner selections := by
  have collects : occurrences settings.schema owner (Resolved.bareAll selections)
      = (occurrences settings.schema owner selections).map (List.map Occurrence.bare) :=
    collectAll_bare owner.name [] owner selections
  rw [accessors, accessors]
  split
  · rename_i fault failed
    rw [failed] at collects
    split
    · rename_i fault' failed'
      rw [failed'] at collects
      cases collects
      rfl
    · rename_i os collected
      rw [collected] at collects
      cases collects
  · rename_i os' collected'
    rw [collected'] at collects
    split
    · rename_i fault failed
      rw [failed] at collects
      cases collects
    · rename_i os collected
      rw [collected] at collects
      cases collects
      have smaller : ∀ o ∈ os, o.weightBelow < Resolved.weightAll selections := fun o ho =>
        weightBelow_lt collected ho
      rw [addOccurrences_bare className Accessors.empty os _ smaller]
termination_by (Resolved.weightAll selections, 2, 0)

theorem addOccurrences_bare (className : String) (found : Accessors) (os : List Occurrence) (bound : Nat)
    (smaller : ∀ o ∈ os, o.weightBelow < bound) {bound' : Nat}
    {smaller' : ∀ o ∈ os.map Occurrence.bare, o.weightBelow < bound'} :
    addOccurrences settings className found (os.map Occurrence.bare) bound' smaller'
      = addOccurrences settings className found os bound smaller := by
  match os with
  | [] =>
    show addOccurrences settings className found [] bound' smaller' = _
    rw [addOccurrences, addOccurrences]
  | o :: rest =>
    have shorter : o.weightBelow < bound := smaller o List.mem_cons_self
    show addOccurrences settings className found (o.bare :: rest.map Occurrence.bare) bound' smaller' = _
    rw [addOccurrences, addOccurrences, addOccurrence_bare className found o]
    congr 1
    funext added
    exact addOccurrences_bare className added rest bound _
termination_by (bound, 1, os.length)
decreasing_by
  · exact Prod.Lex.left _ _ shorter
  · simp [Prod.lex_def]

theorem addOccurrence_bare (className : String) (found : Accessors) (o : Occurrence) :
    addOccurrence settings className found o.bare = addOccurrence settings className found o := by
  rw [addOccurrence, addOccurrence]
  have reads := coreOutput_bare (className ++ "_" ++ o.suffix) o
  show (do
    let name ← named (Naming.accessorName o.key)
    let found ← found.claim className name o.key
    if o.isTypename then found.add className (.fixed name "str" typenameBody)
    else
      let core ← coreOutput settings (className ++ "_" ++ o.suffix) o.bare
      let typed ← o.wrapOutput core
      let found := { found with dependencies := found.dependencies ++ typed.dependency.toList }
      found.add className (o.method name typed)) = _
  rw [reads]
termination_by (o.weightBelow, 4, 0)

theorem coreOutput_bare (wanted : String) (o : Occurrence) :
    coreOutput settings wanted o.bare = coreOutput settings wanted o := by
  cases type : settings.schema.core? o.type with
  | none => rw [coreOutput, coreOutput, show o.bare.type = o.type from rfl, type]
  | some t =>
    by_cases composite : t.body.isComposite
    · cases selected : o.below with
      | none =>
        have unselected : o.bare.below = none := by rw [Occurrence.bare, selected]; rfl
        rw [coreOutput_unselected type composite selected,
          coreOutput_unselected (o := o.bare) type composite unselected]
      | some below =>
        have unmarked : o.bare.below = some (Resolved.bareAll below) := by rw [Occurrence.bare, selected]; rfl
        have reads := fun className => accessors_bare className t below
        rw [coreOutput_selected type composite selected,
          coreOutput_selected (o := o.bare) type composite unmarked]
        simp only [reads]
    · rw [coreOutput_simple type composite, coreOutput_simple (o := o.bare) type composite]
termination_by (o.weightBelow, 3, 0)
decreasing_by simp [Prod.lex_def, Occurrence.weightBelow, selected]

end

/-! ### Generating them -/

namespace Generator

variable {g g' : Generator} {ds : List Document}

/-- A document leads to what it leads to without directives: the same failure, or the same classes up to the texts
    that are sent. -/
theorem generate_bare (same : g.unsent = g'.unsent) (d : Document) :
    unsentOutcome (g'.generate d.bare) = unsentOutcome (g.generate d) := by
  refine generate_mapSelections same fun o _ className owner => ?_
  rw [Document.fragmentTable_mapSelections, resolveAll_bare, accessors_bare]

/-- So do documents that are generated one after the other. -/
theorem Ran.bare (h : g.Ran s ds) : ∃ g₀, Ran s (ds.map Document.bare) g₀ ∧ g₀.unsent = g.unsent := by
  induction h with
  | start schema => exact ⟨_, .start schema, rfl⟩
  | @bind ds g scalars before ih =>
    obtain ⟨g₀, ran, same⟩ := ih
    obtain ⟨settings, progress⟩ := unsent_eq_iff.1 same
    refine ⟨{ g₀ with settings := { g₀.settings with scalars := scalars } }, .bind ran, ?_⟩
    exact unsent_eq_iff.2 ⟨by rw [settings], progress⟩
  | @generate ds d g g' cs before ends ih =>
    obtain ⟨g₀, ran, same⟩ := ih
    have outcome := generate_bare same.symm d
    rw [ends] at outcome
    rcases ends₀ : g₀.generate d.bare with ⟨e | cs₀, g₁⟩
    · rw [ends₀] at outcome
      cases (Prod.mk.inj outcome).1
    · rw [ends₀] at outcome
      refine ⟨g₁, ?_, (Prod.mk.inj outcome).2⟩
      rw [List.map_append]
      exact .generate ran ends₀

end Generator

end OperationClasses
