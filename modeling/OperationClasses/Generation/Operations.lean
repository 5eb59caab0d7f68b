/-
Module: OperationClasses.Generation.Operations
Purpose: The classes of the operations of a document.
Main exports: generateOperation, generate, Generator
-/
import OperationClasses.Generation.Inputs
import OperationClasses.Generation.Outputs
import OperationClasses.Document.UsedFragments
import OperationClasses.Document.Printer

namespace OperationClasses

open Generation

/-- The root type of a kind of operation, which the schema must have. -/
def rootTypeOf (s : Schema) (kind : OperationKind) : Generation TypeDefinition :=
  match s.rootType kind with
  | some t => return t
  | none => throw (.invariant (.unsupportedOperation kind.text))

/-- The variable that an operation declares, whose type the schema must have. -/
def declaredVariable (settings : Settings) (v : VariableDeclaration) : Generation Variable :=
  match settings.schema.core? v.type with
  | some _ => variableDefinition settings v.name v.type
  | none => throw (.invariant (.unknownVariableType v.name))

/-- Generates the class of an operation and the classes it refers to. -/
def generateOperation (settings : Settings) (table : List Fragment) (o : Operation) :
    Generation ClassDefinition := do
  let className ← named (Naming.operationClassName o.name)
  let owner ← rootTypeOf settings.schema o.kind
  let parameters ← o.declarations.mapM (declaredVariable settings)
  let (methods, dependencies) ←
    accessors settings className owner (resolveAll table table o.selections)
  let types ← invariant (settings.schema.runtimeTypes owner.name)
  let root := ClassDefinition.root
    ⟨className, owner.name, types.toList, methods, dependencies⟩
    { operationName := className
      kind := o.kind.text
      queryText := printDocument o (usedFragments table o.selections)
      parameters := parameters }
  register root
  return root

/-- Generates the classes of every operation of a document, in order. -/
def generateDocument (settings : Settings) (d : Document) : Generation (List ClassDefinition) :=
  d.operations.mapM (generateOperation settings d.fragmentTable)

/-- A generator: what it was given and what it has built. -/
structure Generator where
  settings : Settings
  progress : Progress
deriving Inhabited

namespace Generator

/-- A generator that has built nothing. -/
def start (settings : Settings) : Generator := ⟨settings, Progress.start⟩

/-- Runs a step of generation. -/
def run {α : Type} (g : Generator) (step : Settings → Generation α) : Except Failure α × Generator :=
  let (result, progress) := (step g.settings).run.run g.progress
  (result, { g with progress := progress })

/-- Generates the classes of a document. -/
def generate (g : Generator) (d : Document) : Except Failure (List ClassDefinition) × Generator :=
  g.run fun settings => generateDocument settings d

/-- Generates documents one after the other, up to the first one that fails. -/
def generateAll (g : Generator) : List Document → Except Failure Unit × Generator
  | [] => (.ok (), g)
  | d :: rest =>
    match g.generate d with
    | (.ok _, g) => g.generateAll rest
    | (.error e, g) => (.error e, g)

/-- All classes, each after those it refers to. -/
def sortedClasses (g : Generator) : Except InvariantFault (List ClassDefinition) :=
  g.progress.registry.sorted

/-- The import statements that the module needs. -/
def imports (g : Generator) : List String := g.progress.imports.toList

end Generator

end OperationClasses
