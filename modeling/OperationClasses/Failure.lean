/-
Module: OperationClasses.Failure
Purpose: The causes for which the generation or the reading of classes stops.
Main exports: InvariantFault, TypeFault, Failure, Failure.message
-/
import OperationClasses.Conversion.Basic
import OperationClasses.Naming.Identifier

namespace OperationClasses

/-- A broken condition that documents accepted for a schema are meant to keep. -/
inductive InvariantFault where
  | unknownLayer (label : String)
  | unknownType (name : String)
  | notComposite (name : String)
  | unknownField (parent field : String)
  | unknownFragment (name : String)
  | fragmentCycle (name : String)
  | unsupportedOperation (kind : String)
  | unknownVariableType («variable» : String)
  | noSelections (type : String)
  | classTaken (name : String)
  | methodConflict (method owner : String)
  | mergeConflict (method owner : String)
  | pathsReduced (method : String)
  | differentRoots (method : String) (roots : List String)
  | overlappingBranches (method : String) (types : List String)
  | unknownDependency (owner dependency : String)
  | dependencyCycle (path : List String)
deriving DecidableEq, Repr, Inhabited

/-- The message of a broken condition. -/
def InvariantFault.message : InvariantFault → String
  | .unknownLayer label => "Unknown type wrapper: " ++ Text.quoted label
  | .unknownType name => "Schema has no type named " ++ Text.quoted name
  | .notComposite name => name ++ " is not a composite type"
  | .unknownField parent field => parent ++ " has no field named " ++ Text.quoted field
  | .unknownFragment name => "Unknown fragment " ++ Text.quoted name
  | .fragmentCycle name => "Fragment " ++ Text.quoted name ++ " contains itself"
  | .unsupportedOperation kind => "Schema does not support " ++ kind ++ " operations"
  | .unknownVariableType name => "Unknown type for variable $" ++ name
  | .noSelections type => "Field of type " ++ type ++ " has no selections"
  | .classTaken name => "A class named " ++ Text.quoted name ++ " is already registered"
  | .methodConflict method owner => "Cannot merge method " ++ Text.quoted method ++ " in " ++ owner
  | .mergeConflict method owner => "Cannot merge method " ++ Text.quoted method ++ " into " ++ owner
  | .pathsReduced method =>
    "Cannot merge paths into " ++ Text.quoted method ++ " after they were reduced"
  | .differentRoots method roots =>
    "Field access paths for " ++ Text.quoted method ++ " start from different types: "
      ++ Text.quotedList roots
  | .overlappingBranches method types =>
    "Some field access branches have overlapping types, but different field resolution expressions ("
      ++ Text.quoted method ++ " on " ++ ", ".intercalate types ++ ")"
  | .unknownDependency owner dependency =>
    owner ++ " depends on unknown class " ++ Text.quoted dependency
  | .dependencyCycle path => "Class dependency cycle: " ++ " -> ".intercalate path

/-- A type that has no counterpart in the generated module. -/
inductive TypeFault where
  /-- a type that variables cannot have -/
  | notInput (name : String)
  /-- a type that fields cannot have -/
  | notOutput (name : String)
  /-- a scalar without a binding, where every scalar needs one -/
  | unbound (name : String)
deriving DecidableEq, Repr, Inhabited

/-- The message of a type without a counterpart. -/
def TypeFault.message : TypeFault → String
  | .notInput name => name ++ " cannot be used as an input type"
  | .notOutput name => "Cannot map " ++ name ++ " to a Python type"
  | .unbound name => "No converter registered for custom scalar " ++ Text.quoted name

/-- The type that a fault is about. -/
def TypeFault.typeName : TypeFault → String
  | .notInput name => name
  | .notOutput name => name
  | .unbound name => name

/-- Why classes cannot be generated, or a generated one cannot be read. -/
inductive Failure where
  | invariant (fault : InvariantFault)
  | naming (fault : Naming.NamingFault)
  | unsupported (fault : TypeFault)
  | template (fault : Text.HoleError)
deriving DecidableEq, Repr, Inhabited

namespace Failure

/-- The failure of a conversion. -/
def ofConversion : ConversionFault → Failure
  | .unknownLayer label => .invariant (.unknownLayer label)
  | .template fault => .template fault

/-- The message of a failure. -/
def message : Failure → String
  | .invariant fault => fault.message
  | .naming fault => fault.message
  | .unsupported fault => fault.message
  | .template (.unknownName name) => Text.quoted name
  | .template (.misplaced place) =>
    "Invalid placeholder in string: line " ++ toString place.line ++ ", col " ++ toString place.column

end Failure

end OperationClasses
