/-
Module: OperationClasses.Module.Syntax.Expression
Purpose: Whether lexemes form expressions of a generated module, and which of them can be assigned to.
Main exports: Shape, Reads.expression, Reads.namedExpression, Reads.expressionList, Reads.target
-/
import OperationClasses.Module.Syntax.Reading

namespace OperationClasses

/-! ### What expressions can be assigned to -/

/-- What an expression is as far as assigning to it goes: a name, an attribute or item, one of these in
    parentheses, a list or tuple of what can be assigned to, or a mere value. Of a list, `starred` says
    whether one of its members takes what the others leave. -/
inductive Shape where
  | name
  | place
  | grouped
  | several (starred : Bool)
  | value
deriving DecidableEq, Repr, Inhabited

namespace Shape

/-- Whether an expression can stand before an equals sign. -/
def isTarget : Shape → Bool
  | .value => false
  | _ => true

/-- Whether an expression can be annotated or changed in place. -/
def isSingleTarget : Shape → Bool
  | .name => true
  | .place => true
  | .grouped => true
  | _ => false

/-- Whether what an expression names can be deleted. -/
def isDeletable : Shape → Bool
  | .several starred => !starred
  | s => s.isSingleTarget

/-- An expression in parentheses. -/
def inParentheses (s : Shape) : Shape := if s.isSingleTarget then .grouped else s

end Shape

/-- A member of a list of expressions, and whether a star stands before it. -/
structure Element where
  starred : Bool
  shape : Shape
deriving DecidableEq, Repr, Inhabited

namespace Shape

/-- What a list of expressions is. -/
def ofElements (elements : List Element) : Shape :=
  if elements.all (·.shape.isTarget) then
    .several (elements.any fun e => e.starred || e.shape = .several true)
  else .value

end Shape

/-! ### Parts of expressions -/

/-- An entry of a set or dictionary: a member, or a pair of a key and a value, or an expression whose members
    or pairs are all taken. -/
inductive DisplayEntry where
  | member
  | pair
  | allMembers
  | allPairs
deriving DecidableEq, Repr, Inhabited

namespace DisplayEntry

/-- Whether an entry belongs in a dictionary. -/
def isPaired : DisplayEntry → Bool
  | .pair => true
  | .allPairs => true
  | _ => false

/-- Whether an entry is a single one, which a comprehension repeats. -/
def isSingle : DisplayEntry → Bool
  | .member => true
  | .pair => true
  | _ => false

end DisplayEntry

/-- How far the arguments of a call have got: to those by position, to those by name, among which lists of
    arguments by position may stand, or to those by name among which dictionaries may stand. -/
inductive ArgumentPart where
  | positional
  | named
  | dictionaries
deriving DecidableEq, Repr, Inhabited

/-- What the parameters read so far say about those that follow: whether there are some, whether the mark
    after those without a name at the call has come, whether one had a default value, whether those left
    must be named at the call, and whether one of these has to come. -/
structure ParametersRead where
  some : Bool := false
  divided : Bool := false
  defaults : Bool := false
  keyed : Bool := false
  owed : Bool := false
deriving Repr

namespace Reads

/-- Reads an operator that compares two operands, if one comes next. -/
def comparisonOperator : Reads Bool := fun
  | .word "not" :: .word "in" :: rest => some (true, rest)
  | .word "is" :: .word "not" :: rest => some (true, rest)
  | .word "is" :: rest => some (true, rest)
  | .word "in" :: rest => some (true, rest)
  | .mark m :: rest =>
    if ["==", "!=", "<", ">", "<=", ">="].contains m then some (true, rest)
    else some (false, .mark m :: rest)
  | s => some (false, s)

/-- Reads an operator that computes with two operands, if one comes next. -/
def operator : Reads Bool := fun
  | .mark m :: rest =>
    if ["+", "-", "*", "/", "//", "%", "@", "&", "|", "^", "<<", ">>", "**"].contains m then
      some (true, rest)
    else some (false, .mark m :: rest)
  | s => some (false, s)

/-- The lexemes that may follow a list of expressions after its last comma. -/
def listEnds : List Lexeme := [.newline, .mark ")", .mark "=", .mark ":", .mark ";"]

/-- Whether a comprehension comes next. -/
def nextComprehension : Reads Bool := next [.word "for", .word "async"]

/-!
Every function below takes a bound on how deep it may go. Each level of nesting takes a fixed number of
steps and reads a lexeme, so a bound in proportion to the number of lexemes is never reached.
-/

mutual

/-- Reads an expression: an anonymous function, or a condition, or an alternative between two. -/
def expression (bound : Nat) : Reads Shape :=
  match bound with
  | 0 => failure
  | n + 1 => do
    if ← optionalKeyword "lambda" then
      parameterList n false (.mark ":") {}
      mark ":"
      let _ ← expression n
      return .value
    else
      let shape ← disjunction n
      if ← optionalKeyword "if" then
        let _ ← disjunction n
        keyword "else"
        let _ ← expression n
        return .value
      else return shape

/-- Reads an expression that may be given a name. -/
def namedExpression (bound : Nat) : Reads Shape :=
  match bound with
  | 0 => failure
  | n + 1 => do
    if ← nextNameAnd ":=" then
      name
      mark ":="
      let _ ← expression n
      return .value
    else expression n

/-- Reads conditions joined by `and` and `or`. -/
def disjunction (bound : Nat) : Reads Shape :=
  match bound with
  | 0 => failure
  | n + 1 => do
    let shape ← negation n
    if ← optionalOf [.word "or", .word "and"] then
      let _ ← disjunction n
      return .value
    else return shape

/-- Reads a condition, which may be negated. -/
def negation (bound : Nat) : Reads Shape :=
  match bound with
  | 0 => failure
  | n + 1 => do
    if ← optionalKeyword "not" then
      let _ ← negation n
      return .value
    else comparison n

/-- Reads operations with comparisons between them. -/
def comparison (bound : Nat) : Reads Shape :=
  match bound with
  | 0 => failure
  | n + 1 => do
    let shape ← operation n
    if ← comparisonOperator then
      let _ ← comparison n
      return .value
    else return shape

/-- Reads operands with operators between them. -/
def operation (bound : Nat) : Reads Shape :=
  match bound with
  | 0 => failure
  | n + 1 => do
    let shape ← operand n
    if ← operator then
      let _ ← operation n
      return .value
    else return shape

/-- Reads an operand with the signs before it. -/
def operand (bound : Nat) : Reads Shape :=
  match bound with
  | 0 => failure
  | n + 1 => do
    if ← optionalOf [.mark "+", .mark "-", .mark "~"] then
      let _ ← operand n
      return .value
    else if ← optionalKeyword "await" then
      let _ ← primary n
      return .value
    else primary n

/-- Reads a name, a literal or something in brackets, with the calls, items and attributes after it. -/
def primary (bound : Nat) : Reads Shape :=
  match bound with
  | 0 => failure
  | n + 1 => do trailers n (← atom n)

/-- Reads the calls, items and attributes that follow an expression. -/
def trailers (bound : Nat) (shape : Shape) : Reads Shape :=
  match bound with
  | 0 => failure
  | n + 1 => do
    if ← optionalMark "." then
      name
      trailers n .place
    else if ← optionalMark "(" then
      callArguments n
      trailers n .value
    else if ← optionalMark "[" then
      slices n
      trailers n .place
    else return shape

/-- Reads a name, a literal or something in brackets. -/
def atom (bound : Nat) : Reads Shape :=
  match bound with
  | 0 => failure
  | n + 1 => do
    match ← get with
    | .word w :: rest =>
      set rest
      if ["None", "True", "False"].contains w then return .value
      else if Naming.keywords.contains w then failure
      else return .name
    | .number _ :: rest =>
      set rest
      return .value
    | .text bytes _ :: rest =>
      set rest
      moreTexts bytes
      return .value
    | .mark "..." :: rest =>
      set rest
      return .value
    | .mark "(" :: rest =>
      set rest
      if ← next [.word "yield"] then
        yielded n
        mark ")"
        return .value
      else display n true
    | .mark "[" :: rest =>
      set rest
      display n false
    | .mark "\x7b" :: rest =>
      set rest
      entries n none
      mark "\x7d"
      return .value
    | _ => failure

/-- Reads the members of a tuple or list, or a comprehension, and the closing bracket. In parentheses one
    member without a comma stands for itself. -/
def display (bound : Nat) (parentheses : Bool) : Reads Shape :=
  match bound with
  | 0 => failure
  | n + 1 => do
    let close := if parentheses then ")" else "]"
    if ← optionalMark close then return .several false
    let first ← element n true
    if ← nextComprehension then
      if first.starred then failure
      comprehension n
      mark close
      return .value
    let (elements, comma) ← moreElements n true [.mark close] first
    mark close
    if comma || !parentheses then return .ofElements elements
    else if first.starred then failure
    else return first.shape.inParentheses

/-- Reads a member of a list of expressions. `named` says whether it may be given a name. -/
def element (bound : Nat) (named : Bool) : Reads Element :=
  match bound with
  | 0 => failure
  | n + 1 => do
    if ← optionalMark "*" then return ⟨true, ← operation n⟩
    else if named then return ⟨false, ← namedExpression n⟩
    else return ⟨false, ← expression n⟩

/-- Reads the members of a list that follow the first one, and says whether a comma does. A comma may stand
    before what ends the list. -/
def moreElements (bound : Nat) (named : Bool) (ends : List Lexeme) (first : Element) :
    Reads (List Element × Bool) :=
  match bound with
  | 0 => failure
  | n + 1 => do
    if ← optionalMark "," then
      if ← next ends then return ([first], true)
      else
        let (elements, _) ← moreElements n named ends (← element n named)
        return (first :: elements, true)
    else return ([first], false)

/-- Reads expressions separated by commas. -/
def expressionList (bound : Nat) : Reads Shape :=
  match bound with
  | 0 => failure
  | n + 1 => do
    let first ← element n false
    let (elements, comma) ← moreElements n false listEnds first
    return if comma || first.starred then .ofElements elements else first.shape

/-- Reads an entry of a set or dictionary. -/
def entry (bound : Nat) : Reads DisplayEntry :=
  match bound with
  | 0 => failure
  | n + 1 => do
    if ← optionalMark "**" then
      let _ ← operation n
      return .allPairs
    else if ← optionalMark "*" then
      let _ ← operation n
      return .allMembers
    else if ← nextNameAnd ":=" then
      let _ ← namedExpression n
      return .member
    else
      let _ ← expression n
      if ← optionalMark ":" then
        let _ ← expression n
        return .pair
      else return .member

/-- Reads the entries of a set or dictionary that are left, or a comprehension of one. `paired` says whether
    those before were pairs, as then all must be or none; a comprehension stands alone. -/
def entries (bound : Nat) (paired : Option Bool) : Reads Unit :=
  match bound with
  | 0 => failure
  | n + 1 => do
    if ← nextMark "\x7d" then return ()
    let e ← entry n
    if paired = some !e.isPaired then failure
    if paired.isNone && e.isSingle && (← nextComprehension) then comprehension n
    else if ← optionalMark "," then entries n (some e.isPaired)
    else return ()

/-- Reads the clauses of a comprehension. -/
def comprehension (bound : Nat) : Reads Unit :=
  match bound with
  | 0 => failure
  | n + 1 => do
    let _ ← optionalKeyword "async"
    keyword "for"
    targets n
    keyword "in"
    let _ ← disjunction n
    conditions n
    if ← nextComprehension then comprehension n else return ()

/-- Reads the conditions of a comprehension clause. -/
def conditions (bound : Nat) : Reads Unit :=
  match bound with
  | 0 => failure
  | n + 1 => do
    if ← optionalKeyword "if" then
      let _ ← disjunction n
      conditions n
    else return ()

/-- Reads something to assign to, which may have a star. -/
def target (bound : Nat) : Reads Unit :=
  match bound with
  | 0 => failure
  | n + 1 => do
    let _ ← optionalMark "*"
    if (← primary n).isTarget then return () else failure

/-- Reads what a loop assigns its items to. -/
def targets (bound : Nat) : Reads Unit :=
  match bound with
  | 0 => failure
  | n + 1 => do
    target n
    if ← optionalMark "," then
      if ← next [.word "in"] then return () else targets n
    else return ()

/-- Reads the arguments of a call and the closing parenthesis. A single argument may be a comprehension. -/
def callArguments (bound : Nat) : Reads Unit :=
  match bound with
  | 0 => failure
  | n + 1 => do
    if ← optionalMark ")" then return ()
    let starred ← nextMark "*"
    let part ← argument n .positional
    if part = .positional && !starred && (← nextComprehension) then
      comprehension n
      mark ")"
    else moreArguments n part

/-- Reads the arguments of a call that are left and the closing parenthesis. -/
def arguments (bound : Nat) (part : ArgumentPart) : Reads Unit :=
  match bound with
  | 0 => failure
  | n + 1 => do
    if ← optionalMark ")" then return ()
    moreArguments n (← argument n part)

/-- Reads what follows an argument of a call. -/
def moreArguments (bound : Nat) (part : ArgumentPart) : Reads Unit :=
  match bound with
  | 0 => failure
  | n + 1 => do
    if ← optionalMark "," then arguments n part else mark ")"

/-- Reads an argument of a call, after which those of the resulting part may come. -/
def argument (bound : Nat) (part : ArgumentPart) : Reads ArgumentPart :=
  match bound with
  | 0 => failure
  | n + 1 => do
    if ← optionalMark "**" then
      let _ ← expression n
      return .dictionaries
    else if ← optionalMark "*" then
      let _ ← expression n
      if part = .dictionaries then failure else return part
    else if ← nextNameAnd "=" then
      name
      mark "="
      let _ ← expression n
      return if part = .positional then .named else part
    else
      let _ ← namedExpression n
      if part = .positional then return part else failure

/-- Reads the slices of an item and the closing bracket. -/
def slices (bound : Nat) : Reads Unit :=
  match bound with
  | 0 => failure
  | n + 1 => do
    if ← optionalMark "*" then
      let _ ← expression n
    else slice n
    if ← optionalMark "," then
      if ← optionalMark "]" then return () else slices n
    else mark "]"

/-- Reads one slice: an expression, or up to three optional ones between colons. -/
def slice (bound : Nat) : Reads Unit :=
  match bound with
  | 0 => failure
  | n + 1 => do
    if ← nextNameAnd ":=" then
      let _ ← namedExpression n
    else
      let start ← if ← nextMark ":" then pure false else do
        let _ ← expression n
        pure true
      if ← optionalMark ":" then
        sliceEnd n
        if ← optionalMark ":" then sliceEnd n
      else if start then pure () else failure

/-- Reads an expression between the colons of a slice, if there is one. -/
def sliceEnd (bound : Nat) : Reads Unit :=
  match bound with
  | 0 => failure
  | n + 1 => do
    if ← next [.mark ":", .mark ",", .mark "]"] then return ()
    else
      let _ ← expression n

/-- Reads what follows the word that hands a value out of a function. -/
def yielded (bound : Nat) : Reads Unit :=
  match bound with
  | 0 => failure
  | n + 1 => do
    keyword "yield"
    if ← optionalKeyword "from" then
      let _ ← expression n
    else if ← next listEnds then return ()
    else
      let _ ← expressionList n

/-- Reads the parameters that are left after some have been read, up to a closing lexeme, which stays.
    `annotated` says that they may have types. -/
def parameterList (bound : Nat) (annotated : Bool) (close : Lexeme) (seen : ParametersRead) :
    Reads Unit :=
  match bound with
  | 0 => failure
  | n + 1 => do
    if ← next [close] then
      if seen.owed then failure else return ()
    else if ← optionalMark "**" then
      if seen.owed then failure
      name
      annotation n annotated false
      let _ ← optionalMark ","
      if ← next [close] then return () else failure
    else if ← optionalMark "*" then
      if seen.keyed then failure
      let bare ← nextMark ","
      if !bare then
        name
        annotation n annotated true
      if ← optionalMark "," then
        parameterList n annotated close { seen with keyed := true, owed := bare }
      else if ← next [close] then return () else failure
    else if ← optionalMark "/" then
      if seen.keyed || seen.divided || !seen.some then failure
      if ← optionalMark "," then parameterList n annotated close { seen with divided := true }
      else if ← next [close] then return () else failure
    else
      name
      annotation n annotated false
      let defaulted ← optionalMark "="
      if defaulted then
        let _ ← expression n
      if seen.defaults && !defaulted && !seen.keyed then failure
      if ← optionalMark "," then
        let defaults := seen.defaults || (defaulted && !seen.keyed)
        parameterList n annotated close { seen with some := true, owed := false, defaults }
      else if ← next [close] then return () else failure

/-- Reads the type of a parameter, if it may have one and does. That of the parameter that takes all further
    arguments may have a star. -/
def annotation (bound : Nat) (annotated starred : Bool) : Reads Unit :=
  match bound with
  | 0 => failure
  | n + 1 => do
    if !annotated then return ()
    if ← optionalMark ":" then
      if starred then
        let _ ← element n false
      else
        let _ ← expression n

end

end Reads

end OperationClasses
