/-
Module: OperationClasses.Transport.HostName
Purpose: Host names with characters beyond ASCII: which labels they may be made of, and how the labels are
  written in ASCII.
Main exports: HostName.labelFits, HostName.encode
-/
import OperationClasses.Text.CaseMap
import OperationClasses.Text.Composition
import OperationClasses.Transport.HostName.Characters
import OperationClasses.Transport.HostName.Punycode

namespace OperationClasses.HostName

/-- Whether a mark makes a consonant lose its vowel, so that it can join the next one. -/
def isVirama (c : Char) : Bool := Text.markClass c = 9

/-- Whether letters join across a place with the given characters before it in reverse and after it. -/
def joinsHere (before after : List Char) : Bool :=
  (before.dropWhile joinsAcross).head?.any joinsAfter
    && (after.dropWhile joinsAcross).head?.any joinsBefore

/-- Whether a character may stand where it does. Joiners ask for a virama or for letters that join,
    some signs for characters of their script beside them or in the label, and two rows of digits do not
    mix. -/
def fitsContext (label before : List Char) (c : Char) (after : List Char) : Bool :=
  match c.toNat with
  | 0x200C => before.head?.any isVirama || joinsHere before after
  | 0x200D => before.head?.any isVirama
  | 0xB7 => before.head? = some 'l' && after.head? = some 'l'
  | 0x375 => after.head?.any isGreek
  | 0x5F3 => before.head?.any isHebrew
  | 0x5F4 => before.head?.any isHebrew
  | 0x30FB => label.any fun d => d != c && isEastAsian d
  | n =>
    if 0x660 ≤ n ∧ n ≤ 0x669 then !label.any fun d => 0x6F0 ≤ d.toNat && d.toNat ≤ 0x6F9
    else if 0x6F0 ≤ n ∧ n ≤ 0x6F9 then !label.any fun d => 0x660 ≤ d.toNat && d.toNat ≤ 0x669
    else false

/-- Whether every character of a label may stand where it does, given those before in reverse. -/
def charactersFit (label : List Char) (before : List Char) : List Char → Bool
  | [] => true
  | c :: after =>
    (isHostChar c || fitsContext label before c after) && charactersFit label (c :: before) after

/-- The direction of the last character of a label that is no mark. -/
def lastDirection (directions : List Direction) : Option Direction :=
  (directions.reverse.dropWhile (· == .mark)).head?

/-- Whether the directions of the characters of a label go together. Only a label with letters or digits of
    a script written from right to left has to follow the rule: it begins with a letter, its other letters
    have the same direction, and it ends with such a letter or with digits, of one row. -/
def directionsFit (directions : List Direction) : Bool :=
  if !directions.any (fun d => d == .rightToLeft || d == .foreignDigit) then true
  else
    match directions.head? with
    | some .rightToLeft =>
      directions.all (· != .leftToRight)
        && !(directions.contains .digit && directions.contains .foreignDigit)
        && (lastDirection directions).any fun d => d == .rightToLeft || d == .digit || d == .foreignDigit
    | _ => false

/-- Whether a text can be a label of a host name. -/
def labelFits (label : List Char) : Bool :=
  !label.isEmpty && label.length ≤ 254 && charactersFit label [] label && Text.isComposed label
    && (label.drop 2).take 2 != ['-', '-'] && label.head? != some '-' && label.getLast? != some '-'
    && !label.head?.any isMark && directionsFit (label.map direction)

/-- The mark of a label that is written in ASCII although it holds other characters. -/
def encodedMark : List Char := "xn--".toList

/-- Whether a label in ASCII fits as it is: one with the mark if the label that it stands for does. -/
def asciiLabelFits (label : List Char) : Bool :=
  if encodedMark.isPrefixOf label then
    let digits := label.drop encodedMark.length
    !digits.isEmpty && digits.getLast? != some '-' && (Punycode.decode digits).any labelFits
  else labelFits label

/-- A label in ASCII, of at most 63 characters. -/
def encodeLabel (label : List Char) : Option (List Char) := do
  let encoded ←
    if label.all (·.toNat < 0x80) then if asciiLabelFits label then some label else none
    else if labelFits label then some (encodedMark ++ Punycode.encode label) else none
  if encoded.length ≤ 63 then some encoded else none

/-- The characters that part labels. -/
def isLabelEnd (c : Char) : Bool := ['.', '\u3002', '\uff0e', '\uff61'].contains c

/-- A host name in ASCII, without its capital letters. One point may stand behind the last label. -/
def encode (name : List Char) : Option String := do
  let name := Text.lowerAny name
  let labels := name.splitOnP isLabelEnd
  let ended := labels.getLast? = some []
  let encoded ← (if ended then labels.dropLast else labels).mapM encodeLabel
  let whole := List.intercalate ['.'] (if ended then encoded ++ [[]] else encoded)
  if name.length ≤ 254 && whole.length ≤ (if ended then 254 else 253) then some (String.ofList whole)
  else none

end OperationClasses.HostName
