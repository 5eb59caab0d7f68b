/-
Module: OperationClasses.CommandLine.Options
Purpose: The options of the command that generates a module, and how they are read from its arguments.
Main exports: CommandOption, Invocation, UsageFault, UsageFault.message, Invocation.read
-/
import OperationClasses.Files.Tree
import OperationClasses.Text.Quoted
import OperationClasses.Text.Similarity

namespace OperationClasses

/-- An option of the command. -/
inductive CommandOption where
  | schema
  | queries
  | output
  | scalar
  | defaultScalars
  | strictScalars
  | header
  | templateDir
  | verbose
deriving DecidableEq, Repr, Inhabited

namespace CommandOption

/-- The options in the order in which missing ones are told. -/
def all : List CommandOption :=
  [.schema, .queries, .output, .scalar, .defaultScalars, .strictScalars, .header, .templateDir, .verbose]

/-- The name of an option. -/
def name : CommandOption → String
  | .schema => "--schema"
  | .queries => "--queries"
  | .output => "--output"
  | .scalar => "--scalar"
  | .defaultScalars => "--default-scalars"
  | .strictScalars => "--strict-scalars"
  | .header => "--header"
  | .templateDir => "--template-dir"
  | .verbose => "--verbose"

/-- The letter that an option may be given by. -/
def letter? : CommandOption → Option Char
  | .schema => some 's'
  | .queries => some 'q'
  | .output => some 'o'
  | .verbose => some 'v'
  | _ => none

/-- A letter as an option. -/
def letterName (c : Char) : String := String.ofList ['-', c]

/-- The names of an option. -/
def names (o : CommandOption) : List String := o.name :: (o.letter?.map letterName).toList

/-- Whether an option takes a value. -/
def takesValue : CommandOption → Bool
  | .defaultScalars => false
  | .strictScalars => false
  | .verbose => false
  | _ => true

/-- Whether an option must be given. -/
def isRequired : CommandOption → Bool
  | .schema => true
  | .queries => true
  | .output => true
  | _ => false

/-- The option of a name. -/
def ofName? (name : String) : Option CommandOption := all.find? (·.name = name)

/-- The option of a letter. -/
def ofLetter? (c : Char) : Option CommandOption := all.find? (·.letter? = some c)

/-- The names of an option as messages give them. -/
def shown (o : CommandOption) : String := " / ".intercalate (o.names.map fun n => "'" ++ n ++ "'")

end CommandOption

/-- What is wrong with the arguments of the command. -/
inductive UsageFault where
  /-- an option that there is not, with the names that may have been meant -/
  | unknownOption (name : String) (similar : List String)
  | valueMissing (name : String)
  | valueForbidden (name : String)
  | optionMissing (option : CommandOption)
  | extraArguments (arguments : List String)
  | missingPath (option : CommandOption) (path : String)
  | missingDirectory (option : CommandOption) (path : String)
  | fileForDirectory (option : CommandOption) (path : String)
  /-- a converter that cannot be found -/
  | converter (message : String)
  /-- a scalar that cannot be bound -/
  | scalar (message : String)
deriving DecidableEq, Repr, Inhabited

/-- The words that say which names may have been meant. -/
def suggestion : List String → String
  | [] => ""
  | [meant] => " Did you mean " ++ Text.quoted meant ++ "?"
  | several => " (Did you mean one of: " ++ ", ".intercalate (several.map Text.quoted) ++ "?)"

/-- Whether a complaint stands below the lines on how to use the command. One about the value of an option
    stands alone if the option has one too many or none. -/
def UsageFault.showsUsage : UsageFault → Bool
  | .valueMissing _ => false
  | .valueForbidden _ => false
  | _ => true

/-- The message of wrong arguments. -/
def UsageFault.message : UsageFault → String
  | .unknownOption name similar => "No such option " ++ Text.quoted name ++ "." ++ suggestion similar
  | .valueMissing name => "Option " ++ Text.quoted name ++ " requires an argument."
  | .valueForbidden name => "Option " ++ Text.quoted name ++ " does not take a value."
  | .optionMissing o => "Missing option " ++ o.shown ++ "."
  | .extraArguments [a] => "Got unexpected extra argument (" ++ a ++ ")"
  | .extraArguments as => "Got unexpected extra arguments (" ++ " ".intercalate as ++ ")"
  | .missingPath o path =>
    "Invalid value for " ++ o.shown ++ ": Path " ++ Text.quoted path ++ " does not exist."
  | .missingDirectory o path =>
    "Invalid value for " ++ o.shown ++ ": Directory " ++ Text.quoted path ++ " does not exist."
  | .fileForDirectory o path =>
    "Invalid value for " ++ o.shown ++ ": Directory " ++ Text.quoted path ++ " is a file."
  | .converter message => "Invalid value: " ++ message
  | .scalar message => "Invalid value for --scalar: " ++ message

/-- The fault of a name that no option has, where some names are known. -/
def UsageFault.noOption (known : List String) (name : String) : UsageFault :=
  .unknownOption name (Text.similarNames name known)

/-- Options with their values in order, and the arguments that belong to none. -/
structure Arguments where
  given : List (CommandOption × String)
  others : List String
deriving DecidableEq, Repr, Inhabited

namespace Arguments

/-- The arguments with one more option in front. -/
def withOption (o : CommandOption) (value : String) (a : Arguments) : Arguments :=
  { a with given := (o, value) :: a.given }

/-- The letters of an argument with one hyphen: options without values, up to one whose value is the rest
    or, if nothing is left, the next argument. -/
inductive Letters where
  | options (given : List CommandOption)
  | value (given : List CommandOption) (last : CommandOption) (value : String)
  | next (given : List CommandOption) (last : CommandOption) (name : String)
deriving Inhabited

/-- Reads the letters of an argument. -/
def letters (given : List CommandOption) : List Char → Except UsageFault Letters
  | [] => return .options given
  | c :: rest =>
    match CommandOption.ofLetter? c with
    | none => throw (.unknownOption (CommandOption.letterName c) [])
    | some o =>
      if !o.takesValue then letters (given ++ [o]) rest
      else if rest.isEmpty then return .next given o (CommandOption.letterName c)
      else return .value given o (String.ofList rest)

/-- The arguments with several options without values in front. -/
def withFlags (flags : List CommandOption) (a : Arguments) : Arguments :=
  flags.foldr (fun o a => a.withOption o "") a

/-- The name of an option that an argument gives, up to an equals sign, and the value after that. -/
def nameAndValue (argument : String) : String × Option String :=
  let chars := argument.toList
  let value := match chars.dropWhile (· != '=') with
    | [] => none
    | _ :: rest => some (String.ofList rest)
  (String.ofList (chars.takeWhile (· != '=')), value)

/-- The names of the options, with the one that asks for help. -/
def knownNames : List String := CommandOption.all.map (·.name) ++ ["--help"]

/-- Reads an argument, which may take the next one as its value: how it changes the arguments after it, and
    whether it takes the next one. -/
def step (argument : String) (next : Option String) :
    Except UsageFault ((Arguments → Arguments) × Bool) :=
  match argument.toList with
  | '-' :: c :: more =>
    let (name, value) := nameAndValue argument
    match CommandOption.ofName? name with
    | some o =>
      if o.takesValue then
        match value, next with
        | some v, _ => return (withOption o v, false)
        | none, some v => return (withOption o v, true)
        | none, none => throw (.valueMissing name)
      else if value.isSome then throw (.valueForbidden name)
      else return (withOption o "", false)
    | none =>
      if c = '-' then throw (.noOption knownNames name)
      else
        match letters [] (c :: more) with
        | .error fault => throw fault
        | .ok (.options given) => return (withFlags given, false)
        | .ok (.value given o v) => return (withFlags given ∘ withOption o v, false)
        | .ok (.next given o name) =>
          match next with
          | some v => return (withFlags given ∘ withOption o v, true)
          | none => throw (.valueMissing name)
  | _ => return (fun a => { a with others := argument :: a.others }, false)

/-- Reads arguments. After two hyphens nothing is an option. -/
def read (arguments : List String) : Except UsageFault Arguments :=
  match arguments with
  | [] => return ⟨[], []⟩
  | argument :: rest =>
    if argument = "--" then return ⟨[], rest⟩
    else
      match step argument rest.head? with
      | .error fault => throw fault
      | .ok (change, taken) => change <$> read (rest.drop (if taken then 1 else 0))
termination_by arguments.length
decreasing_by simp only [List.length_drop, List.length_cons]; omega

/-- The values of an option in order. -/
def values (a : Arguments) (o : CommandOption) : List String :=
  (a.given.filter (·.1 = o)).map (·.2)

/-- The value of an option that counts: the last one. -/
def value? (a : Arguments) (o : CommandOption) : Option String := (a.values o).getLast?

/-- The options that are given, each where it is given first. -/
def options (a : Arguments) : List CommandOption := a.given.map (·.1) |>.eraseDups

end Arguments

/-- Whether something stands at a path. A slash behind it asks for a directory. -/
def FileTree.exists (t : FileTree) (path : String) : Bool :=
  let p := FilePath.read path
  path != "" && (t.locate p).isSome && (path.toList.getLast? != some '/' || t.isDirectory p)

/-- What is wrong with the values of an option. -/
def optionFault (t : FileTree) (a : Arguments) (o : CommandOption) : Option UsageFault :=
  match o with
  | .schema => ((a.value? o).filter (!t.exists ·)).map (.missingPath o)
  | .queries => ((a.values o).find? (!t.exists ·)).map (.missingPath o)
  | .templateDir =>
    (a.value? o).bind fun path =>
      if !t.exists path then some (.missingDirectory o path)
      else if t.isDirectory (FilePath.read path) then none
      else some (.fileForDirectory o path)
  | _ => none

/-- What the command is asked to do. -/
structure Invocation where
  schema : String
  queries : List String
  output : String
  scalars : List String
  defaultScalars : Bool
  strictScalars : Bool
  header : String
  templateDir : Option String
  verbose : Bool
deriving DecidableEq, Repr, Inhabited

/-- The invocation that arguments ask for. -/
def Arguments.invocation (a : Arguments) : Invocation where
  schema := (a.value? .schema).getD ""
  queries := a.values .queries
  output := (a.value? .output).getD ""
  scalars := a.values .scalar
  defaultScalars := (a.value? .defaultScalars).isSome
  strictScalars := (a.value? .strictScalars).isSome
  header := (a.value? .header).getD ""
  templateDir := a.value? .templateDir
  verbose := (a.value? .verbose).isSome

/-- Reads arguments and checks them: given options first, in the order in which they are given, then
    missing ones, then arguments that belong to no option. -/
def Invocation.read (t : FileTree) (arguments : List String) : Except UsageFault Invocation := do
  let a ← Arguments.read arguments
  match a.options.findSome? (optionFault t a) with
  | some fault => throw fault
  | none => pure ()
  match CommandOption.all.find? fun o => o.isRequired && !a.options.contains o with
  | some missing => throw (.optionMissing missing)
  | none => pure ()
  if a.others.isEmpty then return a.invocation else throw (.extraArguments a.others)

end OperationClasses
