/-
Module: OperationClasses.Naming.Words
Purpose: The two spellings of a compound name: words joined by underscores, and capitalised words.
Main exports: underscore, camelize
-/
import OperationClasses.Text.Letters

namespace OperationClasses.Naming

/-- An ASCII capital. -/
def isCapital (c : Char) : Bool := c.isUpper

/-- An ASCII small letter. -/
def isSmall (c : Char) : Bool := c.isLower

/-- An ASCII capital or a digit: the characters of an acronym. -/
def isAcronymChar (c : Char) : Bool := isCapital c || Text.isDecimalDigit c

/-- An ASCII small letter or a digit: the characters of a plain word. -/
def isWordChar (c : Char) : Bool := isSmall c || Text.isDecimalDigit c

/-!
### Underscored names

A name is cut in two passes. The first cuts an acronym off the capitalised word that follows it, as in
`HTML_Url`; the second cuts where a plain word meets a capital, as in `inner_Html`.
-/

/-- Cuts before every capital that follows an acronym character and starts a word of its own. `previous`
    is the character before the rest. -/
def cutAcronyms (previous : Option Char) : List Char → List Char
  | [] => []
  | c :: rest =>
    if isCapital c && previous.any isAcronymChar && rest.head?.any isSmall then
      '_' :: c :: cutAcronyms (some c) rest
    else c :: cutAcronyms (some c) rest

/-- Cuts before every capital that follows a plain word. -/
def cutWords (previous : Option Char) : List Char → List Char
  | [] => []
  | c :: rest =>
    if isCapital c && previous.any isWordChar then '_' :: c :: cutWords (some c) rest
    else c :: cutWords (some c) rest

/-- A hyphen as an underscore, other characters in lower case. -/
def flatten (c : Char) : List Char := if c == '-' then ['_'] else Text.lowerChar c

/-- The underscored spelling of a word. A word with neither an ASCII capital nor a hyphen stays as
    it is. -/
def underscoreChars (word : List Char) : List Char :=
  if word.any fun c => isCapital c || c == '-' then
    (cutWords none (cutAcronyms none word)).flatMap flatten
  else word

/-- The underscored spelling of a name: `HTMLUrl` becomes `html_url`. -/
def underscore (word : String) : String := String.ofList (underscoreChars word.toList)

/-!
### Capitalised names

The plain word at the start is capitalised, and so is every word that follows an underscore, which
disappears. Words after an underscore are taken without regard to case.
-/

/-- A character of a word that follows an underscore: a letter of either case, a digit, or one of the
    four letters beyond ASCII that fold onto one. -/
def isFoldedWordChar (c : Char) : Bool :=
  isWordChar c || isCapital c || [0x130, 0x131, 0x17F, 0x212A].contains c.toNat

/-- Where the reading of a capitalised name stands. -/
inductive CamelState where
  /-- at the start of a word -/
  | wordStart
  /-- inside a word -/
  | inWord
  /-- after the end of a word, where characters are copied -/
  | outside
deriving DecidableEq, Repr, Inhabited

/-- Joins the words of a name: a word after an underscore starts with a capital and continues in lower
    case. -/
def joinWords : CamelState → List Char → List Char
  | _, [] => []
  | state, c :: rest =>
    if c == '_' then joinWords .wordStart rest
    else match state with
      | .outside => c :: joinWords .outside rest
      | .wordStart =>
        if isFoldedWordChar c then Text.titleChar c ++ joinWords .inWord rest
        else c :: joinWords .outside rest
      | .inWord =>
        if isFoldedWordChar c then Text.lowerChar c ++ joinWords .inWord rest
        else c :: joinWords .outside rest

/-- The capitalised spelling of a name: `some_name` becomes `SomeName`, and capitals inside the first
    word stay, as in `FooBar` for `fooBar`. -/
def camelizeChars : List Char → List Char
  | [] => []
  | c :: rest =>
    if isWordChar c then Text.titleChar c ++ joinWords .outside rest
    else joinWords .outside (c :: rest)

/-- The capitalised spelling of a name. -/
def camelize (term : String) : String := String.ofList (camelizeChars term.toList)

end OperationClasses.Naming
