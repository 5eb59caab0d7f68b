/-
Module: OperationClasses.Scalar.Binding
Purpose: How scalars are typed and converted: the fixed bindings, those of converter classes, and the
  table of bindings that a run uses.
Main exports: Binding, Converter, Converter.binding, builtinBinding?, genericBinding, ScalarTable
-/
import OperationClasses.Schema.Basic
import OperationClasses.Json.Basic
import OperationClasses.Text.Quoted

namespace OperationClasses

/-- How a scalar is typed and converted. `deserialize` is a template over the raw value and `serialize` one
    over the value; `imports` are the statements that the module then needs. -/
structure Binding where
  signature : String
  deserialize : String
  serialize : String
  imports : NameSet
deriving DecidableEq, Inhabited

/-- A binding that only casts the raw value. -/
def Binding.ofCast (signature : String) : Binding :=
  ⟨signature, "cast(" ++ signature ++ ", $raw_value)", "$value", ∅⟩

/-- The bindings of scalars that are known by name. -/
def builtinBindings : List (String × Binding) := [
  ("Boolean", .ofCast "bool"),
  ("Int", .ofCast "int"),
  ("Float", ⟨"float", "float($raw_value)", "$value", ∅⟩),
  ("String", .ofCast "str"),
  ("ID", .ofCast "str"),
  ("BigInt", ⟨"int", "int($raw_value)", "str($value)", ∅⟩),
  ("ISO8601Date",
    ⟨"date", "date.fromisoformat($raw_value)", "$value.isoformat()",
      NameSet.singleton "from datetime import date"⟩),
  ("ISO8601DateTime",
    ⟨"datetime", "datetime.fromisoformat($raw_value.replace(\"Z\", \"+00:00\"))",
      "$value.isoformat()", NameSet.singleton "from datetime import datetime"⟩)]

/-- The binding of a scalar that is known by name. -/
def builtinBinding? (name : String) : Option Binding := builtinBindings.lookup name

/-- The binding of a scalar that nobody binds. -/
def genericBinding : Binding := .ofCast "SCALAR_TYPE"

/-- A class that converts the values of a scalar: its name, its module, the type it converts to, and how
    that type is imported, if it needs to be. -/
structure Converter where
  name : String
  moduleName : String
  signature : String
  typeImport : Option String
deriving DecidableEq, Repr, Inhabited

/-- The binding that calls a converter class. -/
def Converter.binding (c : Converter) : Binding where
  signature := c.signature
  deserialize := c.name ++ ".deserialize($raw_value)"
  serialize := c.name ++ ".serialize($value)"
  imports := NameSet.ofList
    (("from " ++ c.moduleName ++ " import " ++ c.name) :: (c.typeImport.filter (· != "")).toList)

/-- The module of the converters that come with the library. -/
def converterModule : String := "gql_querygen.runtime.converters"

/-- Converts time stamps. -/
def dateTimeConverter : Converter :=
  ⟨"DateTimeConverter", converterModule, "datetime", some "from datetime import datetime"⟩

/-- Converts calendar dates. -/
def dateConverter : Converter :=
  ⟨"DateConverter", converterModule, "date", some "from datetime import date"⟩

/-- Converts unique identifiers. -/
def uuidConverter : Converter := ⟨"UUIDConverter", converterModule, "UUID", some "from uuid import UUID"⟩

/-- Passes JSON values through. -/
def jsonConverter : Converter := ⟨"JSONConverter", converterModule, "Any", some "from typing import Any"⟩

/-- The converters that are bound by default, with their scalars. -/
def defaultConverters : List (String × Converter) := [
  ("DateTime", dateTimeConverter), ("Date", dateConverter), ("UUID", uuidConverter),
  ("JSON", jsonConverter), ("JSONObject", jsonConverter)]

/-- Why a scalar cannot be bound. -/
inductive ScalarFault where
  | undefined (name : String)
deriving DecidableEq, Repr, Inhabited

/-- The message of a scalar that cannot be bound. -/
def ScalarFault.message : ScalarFault → String
  | .undefined name => "Schema does not define a scalar named " ++ Text.quoted name

/-- The bindings of a run. With a schema, only its scalars can be bound. -/
structure ScalarTable where
  schema : Option Schema
  bindings : List (String × Binding)
deriving Inhabited

namespace ScalarTable

/-- Whether the schema, if there is one, has a scalar of a name. -/
def admits (t : ScalarTable) (name : String) : Bool := t.schema.all (·.isScalar name)

/-- Binds a scalar, in place of any earlier binding. -/
def bind (t : ScalarTable) (name : String) (binding : Binding) : Except ScalarFault ScalarTable :=
  if t.admits name then return { t with bindings := setKey name binding t.bindings }
  else throw (.undefined name)

/-- A table without bindings. -/
def empty (schema : Option Schema) : ScalarTable := ⟨schema, []⟩

/-- A table with the default converters of the scalars that the schema defines. -/
def withDefaults (schema : Option Schema) : ScalarTable :=
  let table := empty schema
  { table with
    bindings := (defaultConverters.filter fun (name, _) => table.admits name).map
      fun (name, converter) => (name, converter.binding) }

/-- The binding of a scalar in the table. -/
def find? (t : ScalarTable) (name : String) : Option Binding := t.bindings.lookup name

/-- The import statements of all bindings of the table. -/
def imports (t : ScalarTable) : NameSet :=
  t.bindings.foldl (fun all (_, binding) => all ∪ binding.imports) ∅

end ScalarTable

end OperationClasses
