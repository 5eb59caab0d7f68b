/-
Module: OperationClasses.Module.Syntax.Statement
Purpose: Whether lexemes form the statements of a generated module.
Main exports: Reads.statement, Reads.statements
-/
import OperationClasses.Module.Syntax.Expression
import OperationClasses.Module.Syntax.Pattern

namespace OperationClasses

namespace Reads

/-- The marks that change what is assigned to. -/
def augmentedMarks : List String :=
  ["+=", "-=", "*=", "/=", "//=", "%=", "@=", "&=", "|=", "^=", ">>=", "<<=", "**="]

/-- Whether a statement ends here. -/
def atStatementEnd : Reads Bool := next [.newline, .mark ";"]

/-- Reads names with dots between them. -/
def dottedName (bound : Nat) : Reads Unit :=
  match bound with
  | 0 => failure
  | n + 1 => do
    name
    if ← optionalMark "." then dottedName n else return ()

/-- Reads the name that something is given here, if there is one. -/
def givenName : Reads Unit := do
  if ← optionalKeyword "as" then name

/-- Reads imported modules. -/
def importedModules (bound : Nat) : Reads Unit :=
  match bound with
  | 0 => failure
  | n + 1 => do
    dottedName n
    givenName
    if ← optionalMark "," then importedModules n else return ()

/-- Reads imported names; in parentheses a comma may follow the last. -/
def importedNames (bound : Nat) (parentheses : Bool) : Reads Unit :=
  match bound with
  | 0 => failure
  | n + 1 => do
    name
    givenName
    if ← optionalMark "," then
      if parentheses && (← next [.mark ")"]) then return () else importedNames n parentheses
    else return ()

/-- Reads the dots before the name of a module, and says whether there are any. -/
def leadingDots (bound : Nat) : Reads Bool :=
  match bound with
  | 0 => failure
  | n + 1 => do
    if ← optionalOf [.mark ".", .mark "..."] then
      let _ ← leadingDots n
      return true
    else return false

/-- Reads names separated by commas. -/
def nameList (bound : Nat) : Reads Unit :=
  match bound with
  | 0 => failure
  | n + 1 => do
    name
    if ← optionalMark "," then nameList n else return ()

/-- Reads a value to be assigned: expressions or what a function was sent. -/
def assigned (bound : Nat) : Reads Shape := do
  if ← next [.word "yield"] then
    yielded bound
    return .value
  else expressionList bound

/-- Reads further assignments after something that can be assigned to. -/
def moreAssignments (bound : Nat) (shape : Shape) : Reads Unit :=
  match bound with
  | 0 => failure
  | n + 1 => do
    if ← optionalMark "=" then
      if !shape.isTarget then failure
      moreAssignments n (← assigned n)
    else return ()

/-- Reads an expression as a statement, or an assignment. -/
def assignment (bound : Nat) : Reads Unit := do
  let shape ← assigned bound
  if ← optionalMark ":" then
    if shape.isSingleTarget then
      let _ ← expression bound
      if ← optionalMark "=" then
        let _ ← assigned bound
    else failure
  else
    match ← get with
    | .mark m :: rest =>
      if augmentedMarks.contains m then
        if shape.isSingleTarget then
          set rest
          let _ ← assigned bound
        else failure
      else moreAssignments bound shape
    | _ => return ()

/-- Reads a statement without a block. -/
def simpleStatement (bound : Nat) : Reads Unit := do
  match ← get with
  | .word w :: rest =>
    match w with
    | "pass" => set rest
    | "break" => set rest
    | "continue" => set rest
    | "return" =>
      set rest
      if ← atStatementEnd then return ()
      let _ ← expressionList bound
    | "raise" =>
      set rest
      if ← atStatementEnd then return ()
      let _ ← expression bound
      if ← optionalKeyword "from" then
        let _ ← expression bound
    | "del" =>
      set rest
      if !(← expressionList bound).isDeletable then failure
    | "assert" =>
      set rest
      let _ ← expression bound
      if ← optionalMark "," then
        let _ ← expression bound
    | "global" =>
      set rest
      nameList bound
    | "nonlocal" =>
      set rest
      nameList bound
    | "import" =>
      set rest
      importedModules bound
    | "from" =>
      set rest
      let dots ← leadingDots bound
      if !(dots && (← next [.word "import"])) then dottedName bound
      keyword "import"
      if ← optionalMark "*" then return ()
      else if ← optionalMark "(" then
        importedNames bound true
        mark ")"
      else importedNames bound false
    | _ => assignment bound
  | _ => assignment bound

/-- Reads statements on one line. -/
def statementLine (bound : Nat) : Reads Unit :=
  match bound with
  | 0 => failure
  | n + 1 => do
    simpleStatement n
    if ← optionalMark ";" then
      if ← optional .newline then return () else statementLine n
    else lexeme .newline

/-! ### What heads a block -/

/-- Reads a context manager, and what it is assigned to. -/
def contextManager (bound : Nat) : Reads Unit := do
  let _ ← expression bound
  if ← optionalKeyword "as" then target bound

/-- Reads the context managers of a block. In parentheses a comma may follow the last. -/
def contextManagers (bound : Nat) (parentheses : Bool) : Reads Unit :=
  match bound with
  | 0 => failure
  | n + 1 => do
    contextManager n
    if ← optionalMark "," then
      if parentheses && (← nextMark ")") then return () else contextManagers n parentheses
    else return ()

/-- Reads the context managers of a block up to its colon. Parentheses that reach to the colon may have
    managers in them that are assigned; otherwise they belong to an expression. -/
def contextHead (bound : Nat) : Reads Unit := do
  let inParentheses ← attempt do
    mark "("
    contextManagers bound true
    mark ")"
    if !(← nextMark ":") then failure
  if !inParentheses then contextManagers bound false

/-- Reads the value that cases are about: an expression or, if there is a comma, several. -/
def subject (bound : Nat) : Reads Unit := do
  let first ← element bound true
  let (_, comma) ← moreElements bound true [.mark ":"] first
  if first.starred && !comma then failure

/-- Reads a word that is no keyword but heads cases here, and what comes before the first of them. -/
def matchHead (bound : Nat) : Reads Unit := do
  keyword "match"
  subject bound
  mark ":"
  lexeme .newline
  lexeme .indent

/-! ### Statements with blocks -/

mutual

/-- Reads a statement. -/
def statement (bound : Nat) : Reads Unit :=
  match bound with
  | 0 => failure
  | n + 1 => do
    match ← get with
    | .mark "@" :: rest =>
      set rest
      let _ ← namedExpression n
      lexeme .newline
      decorated n
    | .word w :: rest =>
      match w with
      | "async" =>
        set rest
        if ← next [.word "def", .word "for", .word "with"] then statement n else failure
      | "def" =>
        set rest
        name
        mark "("
        parameterList n true (.mark ")") {}
        mark ")"
        if ← optionalMark "->" then
          let _ ← expression n
        block n
      | "class" =>
        set rest
        name
        if ← optionalMark "(" then arguments n .positional
        block n
      | "if" =>
        set rest
        let _ ← namedExpression n
        block n
        alternatives n
      | "while" =>
        set rest
        let _ ← namedExpression n
        block n
        otherwise n
      | "for" =>
        set rest
        targets n
        keyword "in"
        let _ ← expressionList n
        block n
        otherwise n
      | "with" =>
        set rest
        contextHead n
        block n
      | "try" =>
        set rest
        block n
        if ← optionalKeyword "finally" then block n
        else
          keyword "except"
          let starred ← optionalMark "*"
          handler n starred
          moreHandlers n starred
          otherwise n
          if ← optionalKeyword "finally" then block n
      | "match" =>
        if ← attempt (matchHead n) then
          cases n
          lexeme .dedent
        else statementLine n
      | _ => statementLine n
    | _ => statementLine n

/-- Reads what a decorator may stand before: more of them, a function or a class. -/
def decorated (bound : Nat) : Reads Unit :=
  match bound with
  | 0 => failure
  | n + 1 => do
    match ← get with
    | .mark "@" :: _ => statement n
    | .word "def" :: _ => statement n
    | .word "class" :: _ => statement n
    | .word "async" :: .word "def" :: _ => statement n
    | _ => failure

/-- Reads a colon and a block: statements on the same line, or an indented list of them. -/
def block (bound : Nat) : Reads Unit :=
  match bound with
  | 0 => failure
  | n + 1 => do
    mark ":"
    if ← optional .newline then
      lexeme .indent
      statement n
      statements n .dedent
      lexeme .dedent
    else statementLine n

/-- Reads statements up to a lexeme, which stays. -/
def statements (bound : Nat) (close : Lexeme) : Reads Unit :=
  match bound with
  | 0 => failure
  | n + 1 => do
    if ← next [close] then return ()
    else if (← get).isEmpty then return ()
    else
      statement n
      statements n close

/-- Reads the other cases of a condition. -/
def alternatives (bound : Nat) : Reads Unit :=
  match bound with
  | 0 => failure
  | n + 1 => do
    if ← optionalKeyword "elif" then
      let _ ← namedExpression n
      block n
      alternatives n
    else otherwise n

/-- Reads a last case, if there is one. -/
def otherwise (bound : Nat) : Reads Unit :=
  match bound with
  | 0 => failure
  | n + 1 => do
    if ← optionalKeyword "else" then block n else return ()

/-- Reads what a handler of a guarded block handles, and its block. One with a star handles something. -/
def handler (bound : Nat) (starred : Bool) : Reads Unit :=
  match bound with
  | 0 => failure
  | n + 1 => do
    if starred || !(← nextMark ":") then
      let _ ← expression n
      givenName
    block n

/-- Reads the further handlers of a guarded block. All have a star or none has. -/
def moreHandlers (bound : Nat) (starred : Bool) : Reads Unit :=
  match bound with
  | 0 => failure
  | n + 1 => do
    if ← optionalKeyword "except" then
      if (← optionalMark "*") != starred then failure
      handler n starred
      moreHandlers n starred
    else return ()

/-- Reads the cases for a value, at least one. -/
def cases (bound : Nat) : Reads Unit :=
  match bound with
  | 0 => failure
  | n + 1 => do
    keyword "case"
    casePatterns n
    if ← optionalKeyword "if" then
      let _ ← namedExpression n
    block n
    if ← next [.word "case"] then cases n else return ()

end

end Reads

end OperationClasses
