/-
Module: OperationClasses.Module.ClassText
Purpose: The text of each class of a module, and what is left of its accessors once they were written.
Main exports: ClassDefinition.text, ClassDefinition.written
-/
import OperationClasses.Class.Basic
import OperationClasses.Failure
import OperationClasses.Text.Lines
import OperationClasses.Text.Quoted

namespace OperationClasses

/-- A line inside `levels` blocks. -/
def indented (levels : Nat) (text : String) : String := Text.padding levels ++ text

/-- A parameter or attribute with its signature and, if it may be left out, its default. -/
def Variable.declared (v : Variable) : String :=
  v.name ++ ": " ++ v.signature ++ (if v.optional then " = None" else "")

/-- The entry of a dictionary that sends the value of a variable. -/
def Variable.entry (v : Variable) : String := Text.quoted v.graphqlName ++ ": " ++ v.serializer ++ ","

/-- An accessor as it is written. -/
structure WrittenMethod where
  name : String
  signature : String
  body : String
deriving DecidableEq, Repr, Inhabited

namespace Method

/-- Reads the signature of an accessor and then its body. -/
def write (s : Schema) (m : Method) : Except InvariantFault WrittenMethod := do
  let signature ← m.signature s
  let body ← m.body s
  return ⟨m.name, signature, body⟩

/-- The accessor after an attempt to write it. -/
def written (s : Schema) (m : Method) : Method :=
  match m.signature s with
  | .ok _ => (m.observe s .signature).observe s .body
  | .error _ => m.observe s .signature

/-- Accessors after an attempt to write them one after the other, which ends at the first that cannot be
    written. -/
def writtenEach (s : Schema) : List Method → List Method
  | [] => []
  | m :: rest =>
    match m.write s with
    | .ok _ => m.written s :: writtenEach s rest
    | .error _ => m.written s :: rest

end Method

/-- The lines of an accessor: a property after an empty line. -/
def WrittenMethod.lines (m : WrittenMethod) : List String :=
  ["", indented 1 "@property", indented 1 ("def " ++ m.name ++ "(self) -> " ++ m.signature ++ ":"),
    Text.indent 2 m.body]

/-- The attribute that lists the names of the types which the object of a class can have. -/
def possibleTypesLine (types : List String) : String :=
  indented 1 ("POSSIBLE_TYPES: ClassVar[Tuple[str, ...]] = " ++ Text.quotedTuple types)

/-- The first line of a class. -/
def classLine (name base : String) : String := "class " ++ name ++ "(" ++ base ++ "):"

/-- The lines of an enum class: its members. -/
def enumLines (name : String) (members : List (String × String)) : List String :=
  classLine name "enum.Enum" :: members.map fun (m, value) => indented 1 (m ++ " = " ++ Text.quoted value)

/-- The lines of an input class: its attributes and a method that writes them as a dictionary. -/
def inputLines (c : InputClass) : List String :=
  let arguments := Variable.sort c.arguments
  [classLine c.name "BaseModel", indented 1 "model_config = ConfigDict(frozen=True)", ""]
    ++ arguments.map (fun a => indented 1 a.declared)
    ++ ["", indented 1 "def serialize(self) -> Dict[str, Any]:"]
    ++ arguments.map (fun a => indented 2 (a.name ++ " = self." ++ a.name))
    ++ [indented 2 "return \x7b"]
    ++ arguments.map (fun a => indented 3 a.entry)
    ++ [indented 2 "\x7d"]

/-- The lines of a class for values below the result of an operation. -/
def leafLines (c : ObjectClass) (methods : List WrittenMethod) : List String :=
  [classLine c.name "QueryResult", possibleTypesLine c.possibleTypes] ++ methods.flatMap (·.lines)

/-- The lines that hand the variables of an operation to the executor. -/
def sentVariables (vs : List Variable) : List String :=
  if vs.isEmpty then [indented 3 "variables=None,"]
  else [indented 3 "variables=\x7b"] ++ vs.map (fun v => indented 4 v.entry) ++ [indented 3 "\x7d,"]

/-- The lines of the class of an operation: its text, a method that executes it, and its accessors. -/
def rootLines (c : ObjectClass) (operation : OperationDetails) (methods : List WrittenMethod) :
    List String :=
  let parameters := Variable.sort operation.parameters
  [classLine c.name "Query",
    indented 1 ("OPERATION_NAME: ClassVar[str] = " ++ Text.quoted operation.operationName),
    indented 1 ("QUERY_TEXT: ClassVar[str] = " ++ Text.quoted operation.queryText),
    possibleTypesLine c.possibleTypes, "",
    indented 1 "@classmethod", indented 1 "async def execute(", indented 2 "cls,",
    indented 2 "executor: QueryExecutor,", indented 2 "*,"]
    ++ parameters.map (fun v => indented 2 (v.declared ++ ","))
    ++ [indented 2 "options: Any = None,", indented 1 (") -> Union[" ++ c.name ++ ", OnlyErrors]:"),
      indented 2 ("\"\"\"Run the " ++ operation.operationName ++ " " ++ operation.kind ++ ".\"\"\""),
      indented 2 "raw_result = await executor.execute(", indented 3 "cls.QUERY_TEXT,",
      indented 3 "operation_name=cls.OPERATION_NAME,"]
    ++ sentVariables parameters
    ++ [indented 3 "options=options,", indented 2 ")", indented 2 "return cls.from_result(raw_result)"]
    ++ methods.flatMap (·.lines)

namespace ClassDefinition

/-- The lines of a class, if its members have names and its accessors can be written. -/
def lines (s : Schema) : ClassDefinition → Except Failure (List String)
  | .enum c => do return enumLines c.name (← c.members.mapError .naming)
  | .input c => return inputLines c
  | .leaf c => do return leafLines c (← (c.sortedMethods.mapM (Method.write s)).mapError .invariant)
  | .root c operation => do
    return rootLines c operation (← (c.sortedMethods.mapM (Method.write s)).mapError .invariant)

/-- The text of a class. -/
def text (s : Schema) (c : ClassDefinition) : Except Failure String := do
  return Text.trimEnd (Text.unlines (← c.lines s))

/-- The class after an attempt to write it. -/
def written (s : Schema) (c : ClassDefinition) : ClassDefinition :=
  let sorted := match c with
    | .leaf o => o.sortedMethods
    | .root o _ => o.sortedMethods
    | _ => []
  c.mapMethods fun methods => (Method.writtenEach s sorted).foldl (fun ms m => Method.put m ms) methods

end ClassDefinition

end OperationClasses
