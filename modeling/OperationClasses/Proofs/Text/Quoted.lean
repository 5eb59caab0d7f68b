/-
Module: OperationClasses.Proofs.Text.Quoted
Purpose: A quoted text shows which text it quotes, whatever follows it.
Main exports: Text.hexNumber?_hexDigits, Text.unquotedChar_quotedChar, Text.quoted_append_inj
-/
import Mathlib.Data.Nat.Digits.Lemmas
import OperationClasses.Text.Quoted

namespace OperationClasses.Text

/-! ### Hexadecimal numbers -/

theorem hexDigitValue?_digitChar {k : Nat} (digit : k < 16) : hexDigitValue? k.digitChar = some k := by
  have all : ∀ k < 16, hexDigitValue? k.digitChar = some k := by decide
  exact all k digit

theorem hexDigits_length {width n : Nat} (wide : 0 < width) (fits : n < 16 ^ width) :
    (hexDigits width n).length = width := by
  have short : (Nat.toDigits 16 n).length ≤ width := (Nat.length_toDigits_le_iff (by decide) wide).2 fits
  simp only [hexDigits, List.length_append, List.length_replicate]
  omega

/-- The digits of a number spell it. -/
theorem foldlM_toDigits (n : Nat) :
    (Nat.toDigits 16 n).foldlM (fun n c => (hexDigitValue? c).map (16 * n + ·)) 0 = some n := by
  induction n using Nat.strongRecOn with
  | ind n ih =>
    rw [Nat.toDigits_eq_if (by decide)]
    split
    · rename_i digit
      simp [hexDigitValue?_digitChar digit]
    · have shorter := ih (n / 16) (by omega)
      have last : n % 16 < 16 := Nat.mod_lt n (by decide)
      simp [List.foldlM_append, shorter, hexDigitValue?_digitChar last, Nat.div_add_mod]

theorem foldlM_replicate_zero (k : Nat) :
    (List.replicate k '0').foldlM (fun n c => (hexDigitValue? c).map (16 * n + ·)) 0 = some 0 := by
  have zero : hexDigitValue? '0' = some 0 := by decide
  induction k with
  | zero => rfl
  | succ k ih => simpa [List.replicate_succ, zero] using ih

/-- A number that fits into a width is read back from that many digits. -/
theorem hexNumber?_hexDigits {width n : Nat} (wide : 0 < width) (fits : n < 16 ^ width) (rest : List Char) :
    hexNumber? width (hexDigits width n ++ rest) = some n := by
  have length := hexDigits_length wide fits
  rw [hexNumber?, if_neg (by simp [length]), List.take_left' length, hexDigits, List.foldlM_append,
    foldlM_replicate_zero]
  exact foldlM_toDigits n

/-! ### Characters -/

/-- The character that a number of so many digits stands for, and what follows the digits. -/
def numberedChar (width : Nat) (rest : List Char) : Option (Char × List Char) :=
  (hexNumber? width rest).map fun n => (Char.ofNat n, rest.drop width)

/-- The first character that the inside of a literal stands for, and what follows it. -/
def unquotedChar : List Char → Option (Char × List Char)
  | '\\' :: 'n' :: rest => some ('\n', rest)
  | '\\' :: 't' :: rest => some ('\t', rest)
  | '\\' :: 'r' :: rest => some ('\r', rest)
  | '\\' :: 'x' :: rest => numberedChar 2 rest
  | '\\' :: 'u' :: rest => numberedChar 4 rest
  | '\\' :: 'U' :: rest => numberedChar 8 rest
  | '\\' :: c :: rest => some (c, rest)
  | c :: rest => some (c, rest)
  | [] => none

theorem numberedChar_hexDigits {width : Nat} {c : Char} (wide : 0 < width) (fits : c.toNat < 16 ^ width)
    (rest : List Char) : numberedChar width (hexDigits width c.toNat ++ rest) = some (c, rest) := by
  rw [numberedChar, hexNumber?_hexDigits wide fits, List.drop_left' (hexDigits_length wide fits), Option.map_some,
    Char.ofNat_toNat]

/-- The two quotes of literals. -/
def IsQuote (quote : Char) : Prop := quote = '\'' ∨ quote = '"'

theorem isQuote_quoteFor (chars : List Char) : IsQuote (quoteFor chars) := by
  unfold quoteFor IsQuote
  split <;> simp

/-- What stands for a character in a literal is read back as that character, whatever follows. -/
theorem unquotedChar_quotedChar {quote : Char} (isQuote : IsQuote quote) (c : Char) (rest : List Char) :
    unquotedChar (quotedChar quote c ++ rest) = some (c, rest) := by
  unfold quotedChar
  split_ifs with escaped newline tab return' printable byte short
  · rcases isQuote with rfl | rfl <;> simp at escaped <;> rcases escaped with rfl | rfl <;> rfl
  · simp_all [unquotedChar]
  · simp_all [unquotedChar]
  · simp_all [unquotedChar]
  · simp only [Bool.or_eq_true, beq_iff_eq, not_or] at escaped
    unfold unquotedChar
    split <;> simp_all
  · exact numberedChar_hexDigits (by decide) (by omega) rest
  · exact numberedChar_hexDigits (by decide) (by omega) rest
  · have fits : c.toNat < 16 ^ 8 := c.val.toNat_lt
    exact numberedChar_hexDigits (by decide) fits rest

/-- Nothing that stands for a character begins like the end of the literal. -/
theorem quotedChar_append_ne {quote : Char} (isQuote : IsQuote quote) (c : Char) (rest after : List Char) :
    quotedChar quote c ++ rest ≠ quote :: after := by
  have notBackslash : '\\' ≠ quote := by rcases isQuote with rfl | rfl <;> decide
  unfold quotedChar
  split_ifs with escaped newline tab return' printable byte short <;>
    simp_all

/-! ### Texts -/

theorem flatMap_quotedChar_inj {quote : Char} (isQuote : IsQuote quote) {a b : List Char} {r r' : List Char}
    (same : a.flatMap (quotedChar quote) ++ quote :: r = b.flatMap (quotedChar quote) ++ quote :: r') :
    a = b ∧ r = r' := by
  induction a generalizing b with
  | nil =>
    cases b with
    | nil => simpa using same
    | cons d b =>
      rw [List.flatMap_cons, List.append_assoc] at same
      exact absurd same.symm (quotedChar_append_ne isQuote d _ _)
  | cons c a ih =>
    rw [List.flatMap_cons, List.append_assoc] at same
    cases b with
    | nil => exact absurd same (quotedChar_append_ne isQuote c _ _)
    | cons d b =>
      rw [List.flatMap_cons, List.append_assoc] at same
      have read := congrArg unquotedChar same
      rw [unquotedChar_quotedChar isQuote, unquotedChar_quotedChar isQuote] at read
      obtain ⟨rfl, later⟩ := Prod.mk.inj (Option.some.inj read)
      obtain ⟨rfl, rest⟩ := ih later
      exact ⟨rfl, rest⟩

theorem toList_quoted (text : String) :
    (quoted text).toList
      = quoteFor text.toList :: text.toList.flatMap (quotedChar (quoteFor text.toList)) ++ [quoteFor text.toList] := by
  simp [quoted]

/-- **Literals denote one text.** Two literals with something after each are the same only if they are of the same
    text and the same comes after them. -/
theorem quoted_append_inj {a b : String} {r r' : List Char}
    (same : (quoted a).toList ++ r = (quoted b).toList ++ r') : a = b ∧ r = r' := by
  simp only [toList_quoted, List.cons_append, List.append_assoc, List.nil_append, List.cons.injEq] at same
  obtain ⟨quote, chars⟩ := same
  rw [← quote] at chars
  obtain ⟨texts, rest⟩ := flatMap_quotedChar_inj (isQuote_quoteFor a.toList) chars
  exact ⟨String.toList_inj.1 texts, rest⟩

end OperationClasses.Text
