/-
Module: OperationClasses.Scalar.Reference
Purpose: References to converter classes by module and name, and the modules that come with the library.
Main exports: MemberValue, ModuleMember, ReferenceFault, loadConverter
-/
import OperationClasses.Scalar.Binding

namespace OperationClasses

/-- What a module may offer under a name. -/
inductive MemberValue where
  /-- a class, function or module, with the name it has and what it converts if it is a converter -/
  | named (ownName : String) (converter : Option Converter)
  /-- a value of a kind that has no name -/
  | nameless (kind : String)
deriving DecidableEq, Repr, Inhabited

/-- What a value converts, if it is a converter. -/
def MemberValue.converter? : MemberValue → Option Converter
  | .named _ converter => converter
  | .nameless _ => none

/-- Something that a module offers, by the name it is found by. -/
structure ModuleMember where
  name : String
  value : MemberValue
deriving DecidableEq, Repr, Inhabited

namespace ModuleMember

/-- A member that converts nothing. -/
def plain (name : String) : ModuleMember := ⟨name, .named name none⟩

/-- A member of a kind that has no name. -/
def ofKind (kind name : String) : ModuleMember := ⟨name, .nameless kind⟩

/-- A member that is a converter. -/
def ofConverter (c : Converter) : ModuleMember := ⟨c.name, .named c.name (some c)⟩

/-- A module inside the one that offers it. -/
def ofModule (parent name : String) : ModuleMember := ⟨name, .named (parent ++ "." ++ name) none⟩

end ModuleMember

/-- What every module offers about itself. -/
def moduleMembers : List ModuleMember :=
  ["__name__", "__doc__", "__package__", "__file__", "__cached__"].map (.ofKind "str")
    ++ ["__builtins__", "__dict__", "__annotations__"].map (.ofKind "dict")
    ++ [.ofKind "SourceFileLoader" "__loader__", .ofKind "ModuleSpec" "__spec__",
      ⟨"__class__", .named "module" none⟩]
    ++ ["__init__", "__new__", "__repr__", "__str__", "__dir__", "__eq__", "__ne__", "__lt__", "__le__",
      "__gt__", "__ge__", "__hash__", "__format__", "__getattribute__", "__setattr__", "__delattr__",
      "__init_subclass__", "__subclasshook__", "__reduce__", "__reduce_ex__", "__sizeof__",
      "__getstate__"].map .plain

/-- What a module offers about itself that holds other modules. -/
def packageMembers : List ModuleMember := .ofKind "list" "__path__" :: moduleMembers

/-- The converters that come with the library. -/
def converterMembers : List ModuleMember :=
  [dateTimeConverter, dateConverter, uuidConverter, jsonConverter].map .ofConverter
    ++ [.plain "ScalarConverter"]

/-- What the module for authentication offers. -/
def authMembers : List ModuleMember := ["Auth", "BearerAuth", "HeaderAuth"].map .plain

/-- What the module for execution offers. -/
def executorMembers : List ModuleMember := ["HttpExecutor", "QueryExecutor"].map .plain

/-- What the module for results offers. -/
def resultMembers : List ModuleMember :=
  ["ErrorResult", "OnlyErrors", "Query", "QueryResult", "UnexpectedObjectType"].map .plain
    ++ [⟨"SCALAR_TYPE", .named "Union" none⟩, ⟨"OBJECT_TYPE", .named "Dict" none⟩]

/-- The module that holds the converters, executors and results. -/
def runtimeModule : String := "gql_querygen.runtime"

/-- The modules that can be imported, and what they offer. -/
def libraryModules : List (String × List ModuleMember) := [
  ("gql_querygen", ["core", "cli", "runtime"].map (.ofModule "gql_querygen")
    ++ [.ofKind "str" "__version__"] ++ packageMembers),
  (runtimeModule, converterMembers ++ authMembers ++ executorMembers ++ resultMembers
    ++ ["auth", "converters", "executor", "result"].map (.ofModule runtimeModule)
    ++ [.ofKind "list" "__all__"] ++ packageMembers),
  (converterModule, converterMembers ++ ["_require_string", "date", "datetime", "UUID", "Any",
      "Protocol", "runtime_checkable"].map .plain ++ moduleMembers),
  ("gql_querygen.runtime.auth", authMembers
    ++ ["Dict", "Protocol", "runtime_checkable"].map .plain ++ moduleMembers),
  ("gql_querygen.runtime.executor", executorMembers
    ++ ["Auth", "Any", "Dict", "Optional", "Protocol", "runtime_checkable", "httpx", "logging"].map .plain
    ++ [.ofKind "Logger" "logger", .ofKind "set" "GRAPHQL_STATUS_CODES"] ++ moduleMembers),
  ("gql_querygen.runtime.result", resultMembers
    ++ ["Any", "ClassVar", "Dict", "List", "Optional", "Tuple", "Union"].map .plain ++ moduleMembers)]

/-- The modules that hold other modules. -/
def libraryPackages : List String := ["gql_querygen", runtimeModule]

/-- Why a reference leads to nothing. -/
inductive ReferenceFault where
  /-- it does not have the form of one -/
  | form (reference : String)
  /-- its module is not there -/
  | missingModule (name missing : String)
  /-- its module would be part of one that holds no others -/
  | notAPackage (name missing parent : String)
  /-- its module is given relative to another -/
  | relative (name : String)
  /-- its module does not offer the name -/
  | missingMember (module member : String)
deriving DecidableEq, Repr, Inhabited

/-- The message of a reference that leads to nothing. -/
def ReferenceFault.message : ReferenceFault → String
  | .form reference => "Expected module:Class, got " ++ Text.quoted reference
  | .missingModule name missing =>
    "Cannot import " ++ Text.quoted name ++ ": No module named " ++ Text.quoted missing
  | .notAPackage name missing parent =>
    "Cannot import " ++ Text.quoted name ++ ": No module named " ++ Text.quoted missing ++ "; "
      ++ Text.quoted parent ++ " is not a package"
  | .relative name =>
    "the 'package' argument is required to perform a relative import for " ++ Text.quoted name
  | .missingMember name member => Text.quoted name ++ " has no attribute " ++ Text.quoted member

/-- The first module on the way to a module that is not there, and the module that should hold it. -/
def firstMissing (parents : List String) : List String → Option (String × String)
  | [] => none
  | part :: rest =>
    let parent := ".".intercalate parents
    let name := ".".intercalate (parents ++ [part])
    if (libraryModules.lookup name).isSome then firstMissing (parents ++ [part]) rest
    else some (name, parent)

/-- What a module offers, if it can be imported. -/
def importModule (name : String) : Except ReferenceFault (List ModuleMember) :=
  if name.toList.head? = some '.' then throw (.relative name)
  else
    match firstMissing [] ((name.toList.splitOn '.').map String.ofList) with
    | some (missing, parent) =>
      throw (if parent = "" || libraryPackages.contains parent then .missingModule name missing
        else .notAPackage name missing parent)
    | none => return (libraryModules.lookup name).getD []

/-- What a reference leads to: a module before the first colon, and the name of a member after it. -/
def loadConverter (reference : String) : Except ReferenceFault ModuleMember := do
  let chars := reference.toList
  let moduleName := String.ofList (chars.takeWhile (· != ':'))
  let member := String.ofList ((chars.dropWhile (· != ':')).drop 1)
  if moduleName = "" || member = "" then throw (.form reference)
  else
    let members ← importModule moduleName
    match members.find? (·.name == member) with
    | some found => return found
    | none => throw (.missingMember moduleName member)

end OperationClasses
