/-
Module: OperationClasses.Proofs.Generation.StrictScalars
Purpose: A run that wants a binding for every scalar does what a lenient run does, until it meets a scalar without one.
Main exports: Settings.lenient, Settings.Unbound, Restricts, restricts_declaredVariable, restricts_accessors,
  restricts_generateDocument, strict_only_rejects
-/
import Mathlib
import OperationClasses.Proofs.Generation.VariableSteps
import OperationClasses.Proofs.Validation.ValidSchema

namespace OperationClasses

open Generation

variable {α β : Type} {settings : Settings} {p q : Progress}

/-- The settings without the demand that every scalar has a binding. -/
def Settings.lenient (settings : Settings) : Settings := { settings with strict := false }

/-- A scalar of the schema has neither a registered nor a built-in binding. -/
def Settings.Unbound (settings : Settings) (name : String) : Prop :=
  settings.schema.isScalar name ∧ settings.scalars.find? name = none ∧ builtinBinding? name = none

/-! ### Steps that do less -/

/-- A step does from every progress what another one does, or stops at a scalar without a binding. -/
def Restricts (settings : Settings) (m m' : Generation α) : Prop :=
  ∀ p, m.run.run p = m'.run.run p
    ∨ ∃ name q, settings.Unbound name ∧ Fails m p (.unsupported (.unbound name)) q

namespace Restricts

theorem refl (m : Generation α) : Restricts settings m m := fun _ => Or.inl rfl

/-- A sequence stops where its first step does, and otherwise goes on from where that one leads either way. -/
theorem bind {m m' : Generation α} {k k' : α → Generation β} (first : Restricts settings m m')
    (second : ∀ a, Restricts settings (k a) (k' a)) : Restricts settings (m >>= k) (m' >>= k') := by
  intro p
  rcases first p with same | ⟨name, q, unbound, fails⟩
  · rcases reached : m.run.run p with ⟨e | a, q⟩
    · left
      rw [run_bind, run_bind, ← same, reached]
    · rcases second a q with alike | ⟨name, r, unbound, fails⟩
      · left
        rw [run_bind, run_bind, ← same, reached]
        exact alike
      · right
        exact ⟨name, r, unbound, fails_bind_iff.2 (Or.inr ⟨a, q, reached, fails⟩)⟩
  · right
    exact ⟨name, q, unbound, fails_bind_iff.2 (Or.inl fails)⟩

/-- A sequence whose first step is the same either way. -/
theorem after (m : Generation α) {k k' : α → Generation β} (second : ∀ a, Restricts settings (k a) (k' a)) :
    Restricts settings (m >>= k) (m >>= k') :=
  (refl m).bind second

/-- A sequence whose second step is the same either way. -/
theorem then_same {m m' : Generation α} (first : Restricts settings m m') (k : α → Generation β) :
    Restricts settings (m >>= k) (m' >>= k) :=
  first.bind fun _ => refl _

theorem mapM {k k' : α → Generation β} (each : ∀ x, Restricts settings (k x) (k' x)) (xs : List α) :
    Restricts settings (xs.mapM k) (xs.mapM k') := by
  induction xs with
  | nil => exact refl _
  | cons x rest ih =>
    rw [List.mapM_cons, List.mapM_cons]
    exact (each x).bind fun y => ih.then_same _

end Restricts

/-! ### Scalars and variables -/

theorem Schema.isScalar_of_find? {s : Schema} {name : String} {type : TypeDefinition}
    (found : s.find? name = some type) (scalar : type.body = .scalar) : s.isScalar name := by
  obtain ⟨own, directives, body⟩ := type
  cases scalar
  unfold isScalar
  rw [found]

theorem Settings.unbound_of_knownBinding? {name : String} (scalar : settings.schema.isScalar name)
    (unknown : settings.knownBinding? name = none) : settings.Unbound name := by
  unfold knownBinding? at unknown
  cases registered : settings.scalars.find? name with
  | none =>
    rw [registered] at unknown
    exact ⟨scalar, registered, unknown⟩
  | some binding =>
    rw [registered] at unknown
    cases unknown

/-- Looking up the binding of a scalar is where strictness makes a difference. -/
theorem restricts_scalarBinding {name : String} (scalar : settings.schema.isScalar name) :
    Restricts settings (scalarBinding settings name) (scalarBinding settings.lenient name) := by
  have same : settings.lenient.knownBinding? name = settings.knownBinding? name := rfl
  unfold scalarBinding
  rw [same]
  split
  · exact .refl _
  · rename_i unknown
    have unbound := Settings.unbound_of_knownBinding? scalar unknown
    rw [if_neg (c := settings.lenient.strict = true) Bool.false_ne_true]
    split
    · intro p
      right
      exact ⟨name, p, unbound, fails_bind_iff.2 (Or.inl (fails_throw_iff.2 ⟨rfl, rfl⟩))⟩
    · exact .refl _

mutual

/-- Whatever is read of a variable's type, strictness only stops it. -/
theorem restricts_coreInput (available : List String) (name : String) :
    Restricts settings (coreInput settings available name) (coreInput settings.lenient available name) := by
  have same : settings.lenient.schema = settings.schema := rfl
  rw [coreInput, coreInput, same]
  split
  · rename_i found
    exact (restricts_scalarBinding (Schema.isScalar_of_find? found rfl)).then_same _
  · exact .refl _
  · exact (restricts_inputClassOf available name _).then_same _
  · exact .refl _
  · exact .refl _
termination_by (available.length, 2, 0)

theorem restricts_inputClassOf (available : List String) (name : String) (fields : List InputDefinition) :
    Restricts settings (inputClassOf settings available name fields)
      (inputClassOf settings.lenient available name fields) := by
  rw [inputClassOf, inputClassOf]
  refine .after _ fun p => ?_
  split
  · exact .refl _
  · refine .after _ fun className => .after _ fun _ => ?_
    split
    · rename_i listed
      have smaller := length_erase_lt listed
      exact (restricts_inputFields (available.erase name) fields).then_same _
    · exact .refl _
termination_by (available.length, 1, 0)
decreasing_by exact Prod.Lex.left _ _ smaller

theorem restricts_inputFields (available : List String) (fields : List InputDefinition) :
    Restricts settings (inputFields settings available fields) (inputFields settings.lenient available fields) := by
  match fields with
  | [] =>
    rw [inputFields, inputFields]
    exact .refl _
  | field :: rest =>
    rw [inputFields, inputFields]
    refine .after _ fun name => ?_
    refine (restricts_coreInput available field.type.core).bind fun core => ?_
    exact .after _ fun typed => (restricts_inputFields available rest).then_same _
termination_by (available.length, 3, fields.length)

end

theorem restricts_resolveInput (type : TypeRef) (name : String) :
    Restricts settings (resolveInput settings type name) (resolveInput settings.lenient type name) :=
  (restricts_coreInput settings.schema.inputNames type.core).then_same _

/-- Reading a declared variable. -/
theorem restricts_declaredVariable (v : VariableDeclaration) :
    Restricts settings (declaredVariable settings v) (declaredVariable settings.lenient v) := by
  have same : settings.lenient.schema = settings.schema := rfl
  unfold declaredVariable
  rw [same]
  split
  · exact .after _ fun name => (restricts_resolveInput v.type name).then_same _
  · exact .refl _

/-! ### Selection sets -/

mutual

/-- Whatever is selected, strictness only stops the reading of it. -/
theorem restricts_accessors (className : String) (owner : TypeDefinition) (selections : List Resolved) :
    Restricts settings (accessors settings className owner selections)
      (accessors settings.lenient className owner selections) := by
  rw [accessors, accessors]
  split
  · rename_i fault refused
    split
    · rename_i fault' refused'
      cases refused.symm.trans refused'
      exact .refl _
    · rename_i os collected
      cases refused.symm.trans collected
  · rename_i os collected
    split
    · rename_i fault refused
      cases collected.symm.trans refused
    · rename_i os' collected'
      cases collected.symm.trans collected'
      have smaller : ∀ o ∈ os, o.weightBelow < Resolved.weightAll selections := fun o ho => weightBelow_lt collected ho
      exact (restricts_addOccurrences className Accessors.empty os _ smaller).then_same _
termination_by (Resolved.weightAll selections, 2, 0)

theorem restricts_addOccurrences (className : String) (found : Accessors) (os : List Occurrence) (bound : Nat)
    (smaller : ∀ o ∈ os, o.weightBelow < bound) :
    Restricts settings (addOccurrences settings className found os bound smaller)
      (addOccurrences settings.lenient className found os bound smaller) := by
  match os with
  | [] =>
    rw [addOccurrences, addOccurrences]
    exact .refl _
  | o :: rest =>
    have shorter : o.weightBelow < bound := smaller o List.mem_cons_self
    rw [addOccurrences, addOccurrences]
    refine (restricts_addOccurrence className found o).bind fun added => ?_
    exact restricts_addOccurrences className added rest bound _
termination_by (bound, 1, os.length)
decreasing_by
  · exact Prod.Lex.left _ _ shorter
  · simp [Prod.lex_def]

theorem restricts_addOccurrence (className : String) (found : Accessors) (o : Occurrence) :
    Restricts settings (addOccurrence settings className found o)
      (addOccurrence settings.lenient className found o) := by
  rw [addOccurrence, addOccurrence]
  refine .after _ fun name => .after _ fun claimed => ?_
  split
  · exact .refl _
  · exact (restricts_coreOutput (className ++ "_" ++ o.suffix) o).then_same _
termination_by (o.weightBelow, 4, 0)

theorem restricts_coreOutput (wanted : String) (o : Occurrence) :
    Restricts settings (coreOutput settings wanted o) (coreOutput settings.lenient wanted o) := by
  have same : settings.lenient.schema = settings.schema := rfl
  rw [coreOutput, coreOutput, same]
  split
  · exact .refl _
  · rename_i type found
    split
    · rename_i scalar
      have named : type.name = o.type.core := Schema.name_of_find? found
      have isScalar : settings.schema.isScalar type.name := by
        rw [named]
        exact Schema.isScalar_of_find? found scalar
      exact (restricts_scalarBinding isScalar).then_same _
    · exact .refl _
    · exact .refl _
    · split
      · exact .refl _
      · rename_i below selected
        have smaller : Resolved.weightAll below = o.weightBelow := by
          simp [Occurrence.weightBelow, selected]
        refine .after _ fun p => ?_
        dsimp only
        exact (restricts_accessors _ type below).bind fun _ => .refl _
termination_by (o.weightBelow, 3, 0)
decreasing_by
  rw [smaller]
  simp [Prod.lex_def]

end

/-! ### Documents -/

/-- Generating the class of an operation. -/
theorem restricts_generateOperation (table : List Fragment) (o : Operation) :
    Restricts settings (generateOperation settings table o) (generateOperation settings.lenient table o) := by
  unfold generateOperation
  refine .after _ fun className => .after _ fun owner => ?_
  refine (Restricts.mapM restricts_declaredVariable o.declarations).bind fun parameters => ?_
  exact (restricts_accessors className owner _).then_same _

/-- Generating the classes of a document. -/
theorem restricts_generateDocument (d : Document) :
    Restricts settings (generateDocument settings d) (generateDocument settings.lenient d) :=
  Restricts.mapM (restricts_generateOperation d.fragmentTable) d.operations

/-- **Strict only rejects**: what a strict run makes of a document, a lenient run from the same progress makes of it as
    well, with the same classes in the same order and the same imports; and where only the strict run fails, it names
    a scalar of the schema for which there is neither a registered nor a built-in binding. -/
theorem strict_only_rejects (s : Schema) (scalars : ScalarTable) (progress : Progress) (d : Document) :
    let strict := (Generator.mk ⟨s, scalars, true⟩ progress).generate d
    let lenient := (Generator.mk ⟨s, scalars, false⟩ progress).generate d
    (∀ cs, strict.1 = .ok cs → lenient.1 = .ok cs ∧ lenient.2.progress = strict.2.progress)
    ∧ ∀ e cs, strict.1 = .error e → lenient.1 = .ok cs → ∃ name, e = .unsupported (.unbound name)
      ∧ s.isScalar name ∧ scalars.find? name = none ∧ builtinBinding? name = none := by
  intro strict lenient
  have restricts := @restricts_generateDocument ⟨s, scalars, true⟩ d progress
  rcases restricts with same | ⟨name, q, ⟨scalar, unregistered, unbuilt⟩, fails⟩
  · have outcome : strict.1 = lenient.1 := (congrArg Prod.fst same :)
    have progress : lenient.2.progress = strict.2.progress := ((congrArg Prod.snd same).symm :)
    refine ⟨fun cs succeeds => ⟨outcome.symm.trans succeeds, progress⟩, fun e cs fails succeeds => ?_⟩
    cases (fails.symm.trans outcome).trans succeeds
  · have refused : strict.1 = .error (.unsupported (.unbound name)) := (congrArg Prod.fst fails :)
    refine ⟨fun cs succeeds => ?_, fun e cs fails _ => ?_⟩
    · cases refused.symm.trans succeeds
    · cases refused.symm.trans fails
      exact ⟨name, rfl, scalar, unregistered, unbuilt⟩

/-! A schema with a scalar of its own, which one of two documents selects. -/

namespace Prices

def schema : Schema := ⟨[⟨"Query", [], .object []
    [⟨"price", [], .named "Money" true, []⟩, ⟨"name", [], .named "String" true, []⟩]⟩,
  ⟨"Money", [], .scalar⟩, ⟨"String", [], .scalar⟩], [], some "Query", none, none⟩

/-- A query of one field. -/
def select (field : String) : Document :=
  ⟨[.operation ⟨none, .query, some "Q", [], [], [.leaf ⟨none, field, [], []⟩]⟩]⟩

/-- What a new generator makes of a query of one field. -/
def outcome (strict : Bool) (field : String) : Except Failure (List ClassDefinition) × Generator :=
  (Generator.mk ⟨schema, .empty none, strict⟩ Progress.start).generate (select field)

end Prices

section

open Prices

/-- A strict run takes a query for a name as a lenient one does; one for a price it refuses for want of a binding. -/
theorem strict_only_rejects_prices :
    (∃ cs, (outcome true "name").1 = .ok cs ∧ (outcome false "name").1 = .ok cs
      ∧ (outcome false "name").2.progress = (outcome true "name").2.progress)
    ∧ (outcome true "price").1 = .error (.unsupported (.unbound "Money"))
    ∧ (∃ cs, (outcome false "price").1 = .ok cs)
    ∧ ∃ name, Failure.unsupported (.unbound "Money") = .unsupported (.unbound name) ∧ schema.isScalar name
      ∧ (ScalarTable.empty none).find? name = none ∧ builtinBinding? name = none := by
  have succeeds : ∀ {x : Except Failure (List ClassDefinition)}, x.toBool = true → ∃ cs, x = .ok cs := by
    rintro (e | cs) h
    · cases h
    · exact ⟨cs, rfl⟩
  obtain ⟨cs, named⟩ : ∃ cs, (outcome true "name").1 = .ok cs := succeeds (by cbv)
  obtain ⟨ds, priced⟩ : ∃ ds, (outcome false "price").1 = .ok ds := succeeds (by cbv)
  have refused : (outcome true "price").1 = .error (.unsupported (.unbound "Money")) := by cbv
  have names := strict_only_rejects schema (.empty none) Progress.start (select "name")
  have prices := strict_only_rejects schema (.empty none) Progress.start (select "price")
  exact ⟨⟨cs, named, names.1 cs named⟩, refused, ⟨ds, priced⟩, prices.2 _ ds refused priced⟩

end

end OperationClasses
