/-
Module: OperationClasses.CommandLine.Run
Purpose: What the command does: it loads a schema, declares and generates query files, and writes a module,
  and what it says on the way.
Main exports: Crash, Report, RunOutcome, Surroundings, Command.execute, runGenerate, runCommand
-/
import OperationClasses.CommandLine.Options
import OperationClasses.Files.ModuleFile
import OperationClasses.Files.Sources
import OperationClasses.Generation.Operations
import OperationClasses.Scalar.Reference

namespace OperationClasses

/-- Why the command ends without saying so. -/
inductive Crash where
  /-- the schema is none -/
  | schema
  /-- a class that is no converter was bound to a scalar -/
  | notAConverter
  /-- a converter was given relative to another module -/
  | relativeReference
  | read (fault : ReadFault)
  /-- a conversion has unknown holes -/
  | template
  | write (fault : WriteFault)
  /-- the module has a null character -/
  | nullCharacter
deriving DecidableEq, Repr, Inhabited

/-- What is said about a crash to those who look for its cause. -/
def Crash.message : Crash → String
  | .schema => "The schema cannot be built."
  | .notAConverter => "A class that is no converter was bound to a scalar."
  | .relativeReference => "A converter was given relative to another module."
  | .read fault => fault.message
  | .template => "A conversion has unknown holes."
  | .write .isDirectory => "A directory is where the module would have to be."
  | .write _ => "A file is where a directory would have to be."
  | .nullCharacter => "The module has a null character."

/-- Why the command ends early. -/
inductive Halt where
  | usage (fault : UsageFault)
  | failed (message : String)
  | crashed (crash : Crash)
deriving DecidableEq, Repr, Inhabited

/-- What a run of the command leaves: what it said, what it complained about, and its exit code. -/
structure Report where
  out : List String
  complaint : String
  exitCode : Nat
deriving DecidableEq, Repr, Inhabited

/-- How a run of the command ends. -/
inductive RunOutcome where
  | reported (report : Report)
  | crashed (crash : Crash)
deriving DecidableEq, Repr, Inhabited

/-- What the command finds around it beside its arguments and files. -/
structure Surroundings where
  /-- the directory that an archive is unpacked into -/
  unpacked : String
  /-- what a reference to a converter leads to -/
  referenced : String → Except Halt MemberValue
  /-- what replaces usual texts, by a directory of templates -/
  templates : FileTree → Option String → Templates

/-- What the command said so far, and the files as they are by now. -/
structure CommandState where
  said : List String
  files : FileTree
deriving Inhabited

/-- A step of the command, which says lines, may change files and may end early. What it did before it ended
    stays done. -/
abbrev Command := ExceptT Halt (StateM CommandState)

namespace Command

/-- Says lines. -/
def say (lines : List String) : Command Unit := modify fun state => { state with said := state.said ++ lines }

/-- Says lines if details are asked for. -/
def sayDetails (verbose : Bool) (lines : List String) : Command Unit := say (if verbose then lines else [])

/-- The files as they are by now. -/
def files : Command FileTree := return (← get).files

/-- Goes on with a result, or ends early. -/
def orHalt {ε α : Type} (halt : ε → Halt) : Except ε α → Command α
  | .ok a => pure a
  | .error e => throw (halt e)

/-- Takes a step on the files. -/
def onFiles {ε α : Type} (halt : ε → Halt) (step : FileStep ε α) : Command α := do
  let state ← get
  let (result, after) := step.run.run state.files
  set { state with files := after }
  orHalt halt result

/-- How a schema that cannot be loaded ends the command. -/
def loadHalt (fault : LoadFault) : Halt :=
  match fault.message with
  | some message => .failed message
  | none => .crashed .schema

/-- How a failure to generate classes ends the command. -/
def failureHalt : Failure → Halt
  | .template _ => .crashed .template
  | failure => .failed failure.message

/-- How a converter that cannot be found ends the command. -/
def referenceHalt : ReferenceFault → Halt
  | .relative _ => .crashed .relativeReference
  | fault => .usage (.converter fault.message)

/-- How a scalar that cannot be bound ends the command. -/
def bindingHalt (fault : ScalarFault) : Halt := .usage (.scalar fault.message)

/-- How a query that cannot be declared ends the command. -/
def declarationHalt (source : String) (fault : DeclarationFault) : Halt :=
  .failed ((fault.message source).getD (source ++ ": the query is invalid"))

/-- How a module that cannot be written ends the command. -/
def moduleHalt : ModuleFileFault → Halt
  | .render (.unwritable cause) => failureHalt cause
  | .render .nullCharacter => .crashed .nullCharacter
  | .render fault => .failed fault.message
  | .write fault => .crashed (.write fault)

/-- Binds the scalar before the first equals sign to the converter after it. -/
def bindScalar (w : Surroundings) (table : ScalarTable) (binding : String) : Except Halt ScalarTable := do
  let chars := binding.toList
  let name := String.ofList (chars.takeWhile (· != '='))
  let reference := String.ofList ((chars.dropWhile (· != '=')).drop 1)
  match (← w.referenced reference).converter? with
  | some converter => (table.bind name converter.binding).mapError bindingHalt
  | none =>
    let _ ← (table.bind name default).mapError bindingHalt
    throw (.crashed .notAConverter)

/-- Declares query files one after the other. -/
def declareFiles (verbose : Bool) (c : Container) : List FilePath → Command Container
  | [] => return c
  | p :: rest => do
    match ← orHalt (fun fault => .crashed (.read fault)) (c.declareFile (← files) p) with
    | (.error fault, _) => throw (declarationHalt p.text fault)
    | (.ok d, c) =>
      sayDetails verbose ["  " ++ p.name ++ ": " ++ ", ".intercalate d.operationNames]
      declareFiles verbose c rest

/-- The template of a name in a directory of templates. -/
def templateIn (t : FileTree) (directory : Option String) (name : String) : Option Template := do
  let p := (FilePath.read (← directory)).join [name ++ ".py.j2"]
  return Template.read (← (t.read p).toOption)

/-- The templates in a directory. -/
def templatesIn (t : FileTree) (directory : Option String) : Templates where
  enum := (templateIn t directory "enum").map Template.ofClass
  input := (templateIn t directory "input").map Template.ofClass
  leaf := (templateIn t directory "leaf").map Template.ofClass
  root := (templateIn t directory "root").map Template.ofClass
  module := (templateIn t directory "module").map Template.ofModule

/-- The number of classes of a kind. -/
def countOf (kind : String) (classes : List ClassDefinition) : String :=
  toString (classes.filter (·.kind == kind)).length

end Command

namespace Invocation

/-- The place where the module goes. -/
def place (i : Invocation) (t : FileTree) : Location := t.resolve (FilePath.read i.output)

/-- The scalars that are bound from the start. -/
def startTable (i : Invocation) (s : Schema) : ScalarTable :=
  if i.defaultScalars then ScalarTable.withDefaults (some s) else ScalarTable.empty (some s)

/-- How the module is written. -/
def renderOptions (i : Invocation) (w : Surroundings) (t : FileTree) : RenderOptions where
  templates := w.templates t i.templateDir
  headers := if i.header = "" then [] else [i.header]

end Invocation

namespace Command

/-- Loads the schema and generates the classes of all query files: the schema, the generator after that, and its
    classes in order. -/
def generateClasses (w : Surroundings) (i : Invocation) : Command (Schema × Generator × List ClassDefinition) := do
  let queries := queryFiles (← files) i.queries
  say ["Loading schema..."]
  let schema ← orHalt loadHalt (loadSchema (← files) w.unpacked i.schema)
  let table ← orHalt id (i.scalars.foldlM (bindScalar w) (i.startTable schema))
  let container ← declareFiles i.verbose ⟨schema, []⟩ queries
  say ["Generating classes for " ++ toString container.declarations.length ++ " query files..."]
  let (result, generator) := (Generator.start ⟨schema, table, i.strictScalars⟩).generateAll
    (container.declarations.map (·.document))
  orHalt failureHalt result
  let classes ← orHalt (fun fault => .failed fault.message) generator.sortedClasses
  return (schema, generator, classes)

/-- Says what was written: the number of classes of each kind, if details are asked for, and the place. -/
def announce (verbose : Bool) (place : String) (classes : List ClassDefinition) : Command Unit := do
  sayDetails verbose ["  Root classes: " ++ countOf "root" classes, "  Leaf classes: " ++ countOf "leaf" classes,
    "  Enum classes: " ++ countOf "enum" classes, "  Input classes: " ++ countOf "input" classes]
  say ["Done! Generated " ++ place]

/-- Writes the module of classes to a place, and says so. -/
def finish (w : Surroundings) (i : Invocation) (output : Location) (schema : Schema) (generator : Generator)
    (classes : List ClassDefinition) : Command Unit := do
  let t ← files
  onFiles moduleHalt (writeModule schema (i.renderOptions w t) generator.imports classes ⟨true, output⟩)
  announce i.verbose (t.textOfLocation output) classes

/-- Does what an invocation asks for. -/
def execute (w : Surroundings) (i : Invocation) : Command Unit := do
  let t ← files
  let output := i.place t
  sayDetails i.verbose ["Schema: " ++ t.textOfLocation (t.resolve (FilePath.read i.schema)),
    "Output: " ++ t.textOfLocation output]
  let (schema, generator, classes) ← generateClasses w i
  finish w i output schema generator classes

end Command

/-- A complaint. -/
def complaintText (message : String) : String := "Error: " ++ message ++ "\n"

/-- A complaint about the arguments of a command, below the lines on how to use it. -/
def usageText (command rest message : String) : String :=
  "Usage: " ++ command ++ " " ++ rest ++ "\nTry '" ++ command ++ " --help' for help.\n\n"
    ++ complaintText message

/-- What is said of wrong arguments of a command. -/
def UsageFault.complaint (command rest : String) (fault : UsageFault) : String :=
  if fault.showsUsage then usageText command rest fault.message else complaintText fault.message

/-- The outcome of a command that ended early. -/
def Halt.outcome (out : List String) : Halt → RunOutcome
  | .usage fault => .reported ⟨out, fault.complaint "main generate" "[OPTIONS]", 2⟩
  | .failed message => .reported ⟨out, complaintText message, 1⟩
  | .crashed crash => .crashed crash

/-- The outcome of a command that ended. -/
def Command.outcome (out : List String) : Except Halt Unit → RunOutcome
  | .ok () => .reported ⟨out, "", 0⟩
  | .error halt => halt.outcome out

/-- Runs the command that generates a module: how it ends, and the files after it. -/
def runGenerate (w : Surroundings) (t : FileTree) (arguments : List String) : RunOutcome × FileTree :=
  match Invocation.read t arguments with
  | .error fault => (Halt.outcome [] (.usage fault), t)
  | .ok i =>
    let (result, state) := (Command.execute w i).run.run ⟨[], t⟩
    (Command.outcome state.said result, state.files)

/-- The surroundings with nothing but what the library brings along. -/
def Surroundings.library (unpacked : String) : Surroundings where
  unpacked := unpacked
  referenced reference := ((loadConverter reference).map (·.value)).mapError Command.referenceHalt
  templates := Command.templatesIn

/-- What the program says about itself. -/
def helpText : String := "\n".intercalate [
  "Usage: main [OPTIONS] COMMAND [ARGS]...",
  "",
  "  Typed result classes for GraphQL operations.",
  "",
  "  Generate Python classes for the queries and mutations you write.",
  "",
  "Options:",
  "  --version  Show the version and exit.",
  "  --help     Show this message and exit.",
  "",
  "Commands:",
  "  generate  Generate result classes for GraphQL operations.",
  ""]

/-- The names of the options that stand before a command. -/
def outerOptions : List String := ["--version", "--help"]

/-- What is wrong with an argument where the name of a command should be. -/
inductive CommandFault where
  | option (fault : UsageFault)
  /-- a command that there is not, with the names that may have been meant -/
  | unknown (name : String) (similar : List String)
  | missing
deriving DecidableEq, Repr, Inhabited

/-- What is wrong with an argument where the name of a command should be. -/
def CommandFault.ofArgument (argument : String) : CommandFault :=
  match argument.toList with
  | '-' :: c :: _ =>
    let (name, value) := Arguments.nameAndValue argument
    if value.isSome && outerOptions.contains name then .option (.valueForbidden name)
    else if c = '-' then .option (.noOption outerOptions name)
    else .option (.unknownOption (CommandOption.letterName c) [])
  | _ => .unknown argument (Text.similarNames argument ["generate"])

/-- What is said of a missing or unknown command. -/
def CommandFault.complaint (fault : CommandFault) : String :=
  let command := "main"
  let rest := "[OPTIONS] COMMAND [ARGS]..."
  match fault with
  | .option fault => fault.complaint command rest
  | .unknown name similar =>
    usageText command rest ("No such command " ++ Text.quoted name ++ "." ++ suggestion similar)
  | .missing => usageText command rest "Missing command."

/-- How the program ends that cannot tell the command. -/
def CommandFault.outcome (fault : CommandFault) : RunOutcome := .reported ⟨[], fault.complaint, 2⟩

/-- The arguments of the command that generates a module, if it is asked for. Two hyphens may stand before
    its name. -/
def generateArguments : List String → Option (List String)
  | "generate" :: arguments => some arguments
  | "--" :: "generate" :: arguments => some arguments
  | _ => none

/-- How the program ends that is not asked for a command that it has. -/
def withoutCommand : List String → RunOutcome
  | [] => .reported ⟨[], helpText, 2⟩
  | ["--"] => CommandFault.missing.outcome
  | "--" :: other :: _ => (CommandFault.ofArgument other).outcome
  | other :: _ => (CommandFault.ofArgument other).outcome

/-- Runs the program with its arguments, the first of which names the command. -/
def runCommand (t : FileTree) (unpacked : String) (arguments : List String) : RunOutcome × FileTree :=
  match generateArguments arguments with
  | some rest => runGenerate (.library unpacked) t rest
  | none => (withoutCommand arguments, t)

end OperationClasses
