/-
Module: OperationClasses.Module.Syntax.Pattern
Purpose: Whether lexemes form the patterns that a value is matched against.
Main exports: Reads.casePatterns
-/
import OperationClasses.Module.Syntax.Reading

namespace OperationClasses

namespace Reads

/-! ### Names and literals -/

/-- The name that takes no value. -/
def wildcard : Lexeme := .word "_"

/-- Reads the name that takes what a pattern matches. -/
def captureName : Reads Unit := do
  if ← next [wildcard] then failure
  name
  if ← next [.mark ".", .mark "(", .mark "="] then failure

/-- Reads the names after the dots of a dotted name, and says whether there are any. -/
def attributeNames (bound : Nat) : Reads Bool :=
  match bound with
  | 0 => failure
  | n + 1 => do
    if ← optionalMark "." then
      name
      let _ ← attributeNames n
      return true
    else return false

/-- Reads a number, and says whether it is imaginary. -/
def number : Reads Bool := fun
  | .number imaginary :: rest => some (imaginary, rest)
  | _ => none

/-- Reads a number with a sign, or a real and an imaginary part. -/
def numberPattern : Reads Unit := do
  let _ ← optionalMark "-"
  let first ← number
  if ← optionalOf [.mark "+", .mark "-"] then
    let second ← number
    if first || !second then failure

/-- Reads a literal, if one comes next, and says whether it did. -/
def literalPattern : Reads Bool := do
  match ← get with
  | .number _ :: _ =>
    numberPattern
    return true
  | .mark "-" :: _ =>
    numberPattern
    return true
  | .text bytes _ :: rest =>
    set rest
    moreTexts bytes
    return true
  | .word w :: rest =>
    if ["None", "True", "False"].contains w then
      set rest
      return true
    else return false
  | _ => return false

/-! ### Patterns -/

mutual

/-- Reads alternative patterns, to which a name may be given. -/
def pattern (bound : Nat) : Reads Unit :=
  match bound with
  | 0 => failure
  | n + 1 => do
    alternativePatterns n
    if ← optionalKeyword "as" then captureName

/-- Reads patterns with bars between them. -/
def alternativePatterns (bound : Nat) : Reads Unit :=
  match bound with
  | 0 => failure
  | n + 1 => do
    closedPattern n
    if ← optionalMark "|" then alternativePatterns n else return ()

/-- Reads a literal, a name, a class with patterns for its attributes, or patterns in brackets. -/
def closedPattern (bound : Nat) : Reads Unit :=
  match bound with
  | 0 => failure
  | n + 1 => do
    if ← literalPattern then return ()
    else if ← optional wildcard then return ()
    else if ← optionalMark "(" then
      if !(← nextMark ")") then openPatterns n [.mark ")"]
      mark ")"
    else if ← optionalMark "[" then
      memberPatterns n [.mark "]"]
      mark "]"
    else if ← optionalMark "\x7b" then
      mappingPatterns n
      mark "\x7d"
    else
      name
      let _ ← attributeNames n
      if ← optionalMark "(" then
        classPatterns n false
        mark ")"
      else if ← nextMark "=" then failure

/-- Reads a member of a sequence, and says whether it takes what the others leave. -/
def memberPattern (bound : Nat) : Reads Bool :=
  match bound with
  | 0 => failure
  | n + 1 => do
    if ← optionalMark "*" then
      if !(← optional wildcard) then captureName
      return true
    else
      pattern n
      return false

/-- Reads the members of a sequence that are left, up to one of the lexemes that end it, which stays. -/
def memberPatterns (bound : Nat) (ends : List Lexeme) : Reads Unit :=
  match bound with
  | 0 => failure
  | n + 1 => do
    if ← next ends then return ()
    let _ ← memberPattern n
    if ← optionalMark "," then memberPatterns n ends else return ()

/-- Reads a pattern or, if there is a comma, the members of a sequence. -/
def openPatterns (bound : Nat) (ends : List Lexeme) : Reads Unit :=
  match bound with
  | 0 => failure
  | n + 1 => do
    let starred ← memberPattern n
    if ← optionalMark "," then memberPatterns n ends
    else if starred then failure else return ()

/-- Reads the keys and patterns of a mapping that are left, up to the closing brace, which stays. A name for
    all other entries comes last. -/
def mappingPatterns (bound : Nat) : Reads Unit :=
  match bound with
  | 0 => failure
  | n + 1 => do
    if ← nextMark "\x7d" then return ()
    else if ← optionalMark "**" then
      captureName
      let _ ← optionalMark ","
    else
      if !(← literalPattern) then
        name
        if !(← attributeNames n) then failure
      mark ":"
      pattern n
      if ← optionalMark "," then mappingPatterns n else return ()

/-- Reads the patterns for the attributes of a class that are left, up to the closing parenthesis, which
    stays. `named` says that one with a name came before, after which none without may come. -/
def classPatterns (bound : Nat) (named : Bool) : Reads Unit :=
  match bound with
  | 0 => failure
  | n + 1 => do
    if ← nextMark ")" then return ()
    let named ←
      if ← nextNameAnd "=" then do
        name
        mark "="
        pure true
      else if named then failure else pure false
    pattern n
    if ← optionalMark "," then classPatterns n named else return ()

end

/-- Reads the patterns of a case, which end before its condition or its block. -/
def casePatterns (bound : Nat) : Reads Unit := openPatterns bound [.mark ":", .word "if"]

end Reads

end OperationClasses
