/-
Module: OperationClasses.Proofs.Accessor.Body
Purpose: The text of an accessor body read as the statements it spells, and what these do for a runtime type.
Main exports: TypeTest, Statement, Statement.runAll, bodyText, Dispatch.statements, bodyText_statements,
  runAll_statements
-/
import OperationClasses.Accessor.Dispatch

namespace OperationClasses

/-! ### Tests -/

/-- A test of the runtime type as a body writes it. A single name in parentheses would be no list, so
    lists have none or several names. -/
inductive TypeTest where
  | equals (name : String)
  | differs (name : String)
  | among (names : List String) (several : names.length ≠ 1)
  | outside (names : List String) (several : names.length ≠ 1)

namespace TypeTest

/-- Names as they stand in a list. -/
def listText (names : List String) : String := ", ".intercalate (names.map Branch.quotedName)

/-- How a test is written. -/
def text : TypeTest → String
  | .equals name => "typename == " ++ Branch.quotedName name
  | .differs name => "typename != " ++ Branch.quotedName name
  | .among names _ => "typename in (" ++ listText names ++ ")"
  | .outside names _ => "typename not in (" ++ listText names ++ ")"

/-- Whether a runtime type passes a test. -/
def holds (typename : String) : TypeTest → Bool
  | .equals name => decide (typename = name)
  | .differs name => !decide (typename = name)
  | .among names _ => names.contains typename
  | .outside names _ => !names.contains typename

/-- The test that the runtime type is among names, or that it is not. -/
def ofNames (names : List String) (negated : Bool) : TypeTest :=
  match names with
  | [name] => if negated then .differs name else .equals name
  | [] => if negated then .outside [] Nat.zero_ne_one else .among [] Nat.zero_ne_one
  | a :: b :: rest =>
    have several : (a :: b :: rest).length ≠ 1 := by simp
    if negated then .outside (a :: b :: rest) several else .among (a :: b :: rest) several

end TypeTest

/-- The condition of a branch is the text of a test on its types. -/
theorem Branch.text_ofNames (b : Branch) (negated : Bool) :
    (TypeTest.ofNames b.typenames.toList negated).text = b.condition negated := by
  unfold Branch.condition
  match b.typenames.toList with
  | [] => cases negated <;> rfl
  | [name] => cases negated <;> rfl
  | first :: second :: rest => cases negated <;> rfl

/-- A type passes the test of a branch exactly if it is one of the types, or is not if the test is
    negated. -/
theorem TypeTest.holds_ofNames (names : List String) (negated : Bool) (t : String) :
    (ofNames names negated).holds t = (names.contains t != negated) := by
  match names with
  | [] => cases negated <;> rfl
  | [name] => cases negated <;> simp [ofNames, holds]
  | first :: second :: rest => cases negated <;> simp [ofNames, holds]

/-! ### Statements -/

/-- A statement of a body. Conversions are kept as they are written, and end the body. -/
inductive Statement where
  | comment (line : String)
  /-- notes the runtime type of the object -/
  | noteType
  /-- ends the body without a value if a test holds -/
  | leaveIf (test : TypeTest)
  /-- runs the conversion of the first test that holds; if none does, complains about the type of a
      field, or goes on if there is no field to name -/
  | choose (cases : List (TypeTest × String)) (complaint : Option String)
  | convert (expression : String)
  | leave

namespace Statement

/-- The tests and conversions of a choice, the first with its own keyword. -/
def choiceLines (keyword : String) : List (TypeTest × String) → List String
  | [] => []
  | (test, expression) :: rest =>
    (keyword ++ " " ++ test.text ++ ":") :: Text.indent 1 expression :: choiceLines "elif" rest

/-- The lines of a statement. -/
def lines : Statement → List String
  | .comment line => ["# " ++ line]
  | .noteType => ["typename = self.graphql_typename"]
  | .leaveIf test => ["if " ++ test.text ++ ":", "    return None"]
  | .choose cases complaint =>
    choiceLines "if" cases ++ complaint.elim [] fun field =>
      ["else:", "    raise self._unexpected_type(\"" ++ field ++ "\", typename)"]
  | .convert expression => [expression]
  | .leave => ["return None"]

/-- What statements do for a runtime type, or nothing if a test is made before the type is noted. A body
    that runs out of statements has no value. -/
def runAll (typename : String) (noted : Bool) : List Statement → Option Outcome
  | [] => some .nothing
  | .comment _ :: rest => runAll typename noted rest
  | .noteType :: rest => runAll typename true rest
  | .leaveIf test :: rest =>
    if noted then if test.holds typename then some .nothing else runAll typename noted rest else none
  | .choose cases complaint :: rest =>
    if noted then
      match cases.find? (·.1.holds typename), complaint with
      | some (_, expression), _ => some (.converts expression)
      | none, some _ => some .unexpected
      | none, none => runAll typename noted rest
    else none
  | .convert expression :: _ => some (.converts expression)
  | .leave :: _ => some .nothing

end Statement

/-- The text of a body. -/
def bodyText (body : List Statement) : String := Text.unlines (body.flatMap (·.lines))

/-! ### The statements of a choice by runtime type -/

namespace Dispatch

/-- The statements that spell a choice for a field. -/
def statements (field : String) : Dispatch → List Statement
  | .absent =>
    [.comment "The fragments this field is selected through rule out every possible",
      .comment "runtime type, so it never has a value.", .leave]
  | .always expression => [.convert expression]
  | .guarded b => [.noteType, .leaveIf (.ofNames b.typenames.toList true), .convert b.expression]
  | .cases branches exhaustive =>
    let tests := branches.map fun b => (TypeTest.ofNames b.typenames.toList false, b.expression)
    if exhaustive then [.noteType, .choose tests (some field)]
    else [.noteType, .choose tests none, .leave]

theorem choiceLines_statements (keyword : String) (branches : List Branch) :
    Statement.choiceLines keyword
      (branches.map fun b => (TypeTest.ofNames b.typenames.toList false, b.expression))
      = caseLines keyword branches := by
  induction branches generalizing keyword with
  | nil => rfl
  | cons b rest ih =>
    rw [List.map_cons, Statement.choiceLines, caseLines, Branch.text_ofNames, ih]

/-- The statements of a choice are written as the choice is. -/
theorem bodyText_statements (field : String) (d : Dispatch) :
    bodyText (d.statements field) = d.text field := by
  cases d with
  | absent => cbv
  | always expression => simp [bodyText, statements, Statement.lines, text, Text.unlines]
  | guarded b =>
    simp [bodyText, statements, Statement.lines, text, Branch.text_ofNames]
  | cases branches exhaustive =>
    cases exhaustive <;>
      simp [bodyText, statements, Statement.lines, text, choiceLines_statements]

/-- The first test that holds is that of the first branch with the type. -/
theorem find?_tests (branches : List Branch) (t : String) :
    (branches.map fun b => (TypeTest.ofNames b.typenames.toList false, b.expression)).find?
        (·.1.holds t)
      = (branches.find? fun b => t ∈ b.typenames).map fun b =>
        (TypeTest.ofNames b.typenames.toList false, b.expression) := by
  rw [List.find?_map]
  congr 2
  funext b
  simp [TypeTest.holds_ofNames, ← NameSet.mem_toList]

/-- The statements of a choice do what the choice does. -/
theorem runAll_statements (field t : String) (d : Dispatch) :
    Statement.runAll t false (d.statements field) = some (d.run t) := by
  cases d with
  | absent => rfl
  | always expression => rfl
  | guarded b =>
    by_cases ht : t ∈ b.typenames
    · simp [statements, Statement.runAll, run, TypeTest.holds_ofNames, ht, NameSet.mem_toList]
    · simp [statements, Statement.runAll, run, TypeTest.holds_ofNames, ht, NameSet.mem_toList]
  | cases branches exhaustive =>
    have first := find?_tests branches t
    cases exhaustive with
    | true =>
      simp only [statements, if_true, Statement.runAll, run]
      rw [first]
      cases branches.find? fun b => decide (t ∈ b.typenames) <;> rfl
    | false =>
      simp only [statements, Bool.false_eq_true, if_false, if_true, Statement.runAll, run]
      rw [first]
      cases branches.find? fun b => decide (t ∈ b.typenames) <;> rfl

end Dispatch

end OperationClasses
