/-
Module: OperationClasses.Text.Blank
Purpose: Which characters count as blank when a text is trimmed or a line is tested for content.
Main exports: isBlank, isBlankText, trimStart, trimEnd, trim
-/

namespace OperationClasses.Text

/-- White space in the broad sense: every character whose bidirectional class is a separator, the
    four information separators and the space separators, the no-break space included. -/
def isBlank (c : Char) : Bool :=
  let n := c.toNat
  (0x09 ≤ n && n ≤ 0x0D) || (0x1C ≤ n && n ≤ 0x20) || n == 0x85 || n == 0xA0 || n == 0x1680
    || (0x2000 ≤ n && n ≤ 0x200A) || n == 0x2028 || n == 0x2029 || n == 0x202F || n == 0x205F
    || n == 0x3000

/-- A text with no character other than blanks. The empty text is one. -/
def isBlankText (text : String) : Bool := text.toList.all isBlank

/-- The text without the blanks it starts with. -/
def trimStart (text : String) : String := String.ofList (text.toList.dropWhile isBlank)

/-- The characters without the longest run of characters in the class `drop` that they end with. -/
def dropEnd (drop : Char → Bool) (chars : List Char) : List Char :=
  (chars.reverse.dropWhile drop).reverse

/-- The text without the blanks it ends with. -/
def trimEnd (text : String) : String := String.ofList (dropEnd isBlank text.toList)

/-- The text without the blanks at either end. -/
def trim (text : String) : String := trimEnd (trimStart text)

/-- The text without the newlines it ends with. -/
def trimEndLines (text : String) : String := String.ofList (dropEnd (· == '\n') text.toList)

end OperationClasses.Text
