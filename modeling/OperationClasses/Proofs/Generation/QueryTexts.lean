/-
Module: OperationClasses.Proofs.Generation.QueryTexts
Purpose: No step of a run looks at the query texts of the classes so far, so documents whose selections are read alike
  lead to the same classes up to their query texts.
Main exports: ClassDefinition.unsent, unsentOutcome, withoutTexts, Document.mapSelections, generate_mapSelections
-/
import OperationClasses.Proofs.Generation.Views

namespace OperationClasses

open Generation

variable {p p' : Progress}

/-! ### Query texts -/

/-- A class without the text that its operation sends. -/
def ClassDefinition.unsent : ClassDefinition → ClassDefinition
  | .root c operation => .root c { operation with queryText := "" }
  | other => other

@[simp] theorem ClassDefinition.name_unsent (c : ClassDefinition) : c.unsent.name = c.name := by
  cases c <;> rfl

@[simp] theorem ClassDefinition.isLeafOf_unsent (c : ClassDefinition) (type : String) :
    c.unsent.isLeafOf type = c.isLeafOf type := by
  cases c <;> rfl

/-- The classes without the texts that are sent. -/
def Registry.unsent (r : Registry) : Registry := r.map ClassDefinition.unsent ClassDefinition.name_unsent

/-- A progress without the texts that are sent. -/
def Progress.unsent (p : Progress) : Progress := { p with registry := p.registry.unsent }

/-- A generator without the texts that its operations send. -/
def Generator.unsent (g : Generator) : Generator := { g with progress := g.progress.unsent }

/-- What the generation of a document comes to, without the texts that are sent: a failure or the classes of the
    operations, and in either case the generator afterwards. -/
def unsentOutcome (out : Except Failure (List ClassDefinition) × Generator) :
    Except Failure (List ClassDefinition) × Generator :=
  (out.1.map (List.map ClassDefinition.unsent), out.2.unsent)

theorem Registry.unsent_eq_iff {r r' : Registry} : r.unsent = r'.unsent
    ↔ r.classes.map ClassDefinition.unsent = r'.classes.map ClassDefinition.unsent := by
  constructor
  · exact congrArg Registry.classes
  · intro h
    obtain ⟨classes, _⟩ := r
    obtain ⟨classes', _⟩ := r'
    simpa [unsent, map] using h

/-- No step of a run looks at texts. -/
def withoutTexts : ClassView where
  view := ClassDefinition.unsent
  name := ClassDefinition.name_unsent
  leaf := ClassDefinition.isLeafOf_unsent
  merge c c' methods dependencies same := by
    cases show ClassDefinition.leaf c = .leaf c' from same
    exact ⟨rfl, rfl⟩

/-- Two progresses are the same up to texts if their classes are, and all else is the same. -/
theorem Progress.unsent_eq_iff : p.unsent = p'.unsent ↔ withoutTexts.Same p p' := by
  constructor
  · intro h
    simp only [unsent, mk.injEq] at h
    obtain ⟨registry, enums, inputs, imports⟩ := h
    exact ⟨Registry.unsent_eq_iff.1 registry, enums, inputs, imports⟩
  · rintro ⟨classes, enums, inputs, imports⟩
    simp only [unsent, enums, inputs, imports, Registry.unsent_eq_iff.2 classes]

/-! ### Documents with other selections -/

section MapSelections

variable (change : List Selection → List Selection)

/-- An operation with other selections. -/
def Operation.mapSelections (o : Operation) : Operation := { o with selections := change o.selections }

/-- A fragment with other selections. -/
def Fragment.mapSelections (f : Fragment) : Fragment := { f with selections := change f.selections }

/-- A definition with other selections. -/
def Definition.mapSelections : Definition → Definition
  | .operation o => .operation (o.mapSelections change)
  | .fragment f => .fragment (f.mapSelections change)
  | .system definition => .system definition

/-- A document whose operations and fragments have other selections. -/
def Document.mapSelections (d : Document) : Document := ⟨d.definitions.map (·.mapSelections change)⟩

@[simp] theorem Document.operations_mapSelections (d : Document) :
    (d.mapSelections change).operations = d.operations.map (·.mapSelections change) := by
  simp only [operations, mapSelections, List.filterMap_map, List.map_filterMap]
  congr 1
  funext x
  cases x <;> rfl

@[simp] theorem Document.fragments_mapSelections (d : Document) :
    (d.mapSelections change).fragments = d.fragments.map (·.mapSelections change) := by
  simp only [fragments, mapSelections, List.filterMap_map, List.map_filterMap]
  congr 1
  funext x
  cases x <;> rfl

end MapSelections

/-! ### Documents that are read alike -/

/-- Two generators are the same up to texts if they were given the same and their progress is the same up to
    texts. -/
theorem Generator.unsent_eq_iff {g g' : Generator} :
    g.unsent = g'.unsent ↔ g.settings = g'.settings ∧ g.progress.unsent = g'.progress.unsent := by
  simp [unsent]

/-- A document with other selections that are read alike leads to the same, up to the texts that are sent. -/
theorem generate_mapSelections {g g' : Generator} {d : Document} {change : List Selection → List Selection}
    (same : g.unsent = g'.unsent)
    (reads : ∀ o ∈ d.operations, ∀ className owner,
      accessors g.settings className owner (resolveAll d.fragmentTable d.fragmentTable o.selections)
        = accessors g.settings className owner (resolveAll (d.mapSelections change).fragmentTable
          (d.mapSelections change).fragmentTable (change o.selections))) :
    unsentOutcome (g'.generate (d.mapSelections change)) = unsentOutcome (g.generate d) := by
  have alike : Alike withoutTexts (fun cs cs' => cs.map ClassDefinition.unsent = cs'.map ClassDefinition.unsent)
      (generateDocument g.settings d) (generateDocument g.settings (d.mapSelections change)) := by
    unfold generateDocument
    rw [Document.operations_mapSelections]
    -- the classes differ in what they send
    exact .mapM fun o ho => alike_generateOperation rfl rfl rfl (reads o ho) fun _ _ => rfl
  obtain ⟨settings, progress⟩ := Generator.unsent_eq_iff.1 same
  unfold unsentOutcome Generator.generate Generator.run
  rw [← settings]
  rcases alike g.progress g'.progress (Progress.unsent_eq_iff.1 progress) with
    ⟨e, q, q', fails, fails', left_⟩ | ⟨cs, cs', q, q', yields, yields', same, left_⟩
  · unfold Fails at fails fails'
    rw [fails, fails']
    simp [Generator.unsent, Except.map, Progress.unsent_eq_iff.2 left_, settings]
  · unfold Yields at yields yields'
    rw [yields, yields']
    simp [Generator.unsent, Except.map, Progress.unsent_eq_iff.2 left_, same, settings]

end OperationClasses
