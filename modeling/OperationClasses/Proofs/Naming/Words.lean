/-
Module: OperationClasses.Proofs.Naming.Words
Purpose: What the capitalised spelling of a name keeps of its characters.
Main exports: Naming.Written, Naming.camelize_written, Naming.not_mem_camelize, Naming.letters_camelize
-/
import OperationClasses.Naming.Words

namespace OperationClasses

/-! ### Characters -/

namespace Text

/-- What holds of all characters with a number below a bound can be checked number by number. -/
theorem forall_char_of_lt {P : Char → Prop} {bound : Nat} (all : ∀ n < bound, P (Char.ofNat n)) (c : Char)
    (small : c.toNat < bound) : P c := by
  have := all c.toNat small
  rwa [Char.ofNat_toNat] at this

/-- No other character has an underscore for its lower-case form. -/
theorem not_mem_lowerChar {c : Char} (other : c ≠ '_') : '_' ∉ lowerChar c := by
  by_cases small : c.toNat < 0x100
  · refine forall_char_of_lt (P := fun c => c ≠ '_' → '_' ∉ lowerChar c) ?_ c small other
    decide +kernel
  · have big : ¬ c.toNat < 0x80 ∧ ¬ (0xC0 ≤ c.toNat ∧ c.toNat ≤ 0xDE ∧ c.toNat ≠ 0xD7) := by omega
    simp only [lowerChar, big, if_false]
    repeat' split
    all_goals simp [other.symm]

/-- No other character has an underscore for the form that starts a word. -/
theorem not_mem_titleChar {c : Char} (other : c ≠ '_') : '_' ∉ titleChar c := by
  by_cases small : c.toNat < 0x100
  · refine forall_char_of_lt (P := fun c => c ≠ '_' → '_' ∉ titleChar c) ?_ c small other
    decide +kernel
  · have big : c.toNat ≠ 0xDF ∧ ¬ c.toNat < 0x80 ∧ c.toNat ≠ 0xB5
        ∧ ¬ (0xE0 ≤ c.toNat ∧ c.toNat ≤ 0xFE ∧ c.toNat ≠ 0xF7) ∧ c.toNat ≠ 0xFF := by omega
    simp only [titleChar, upperChar, big, if_false]
    repeat' split
    all_goals simp [other.symm]

end Text

namespace Naming

/-! ### Words that are joined -/

/-- A name is written anew without its underscores: every other character stands as it is, or in the form
    that starts a word, or in lower case. -/
inductive Written : List Char → List Char → Prop where
  | nil : Written [] []
  | underscore {rest text : List Char} (tail : Written rest text) : Written ('_' :: rest) text
  | char {c : Char} {form rest text : List Char} (other : c ≠ '_')
      (cases : form = [c] ∨ form = Text.titleChar c ∨ form = Text.lowerChar c) (tail : Written rest text) :
      Written (c :: rest) (form ++ text)

theorem Written.keep {c : Char} {rest text : List Char} (other : c ≠ '_') (tail : Written rest text) :
    Written (c :: rest) (c :: text) := by
  have kept : Written (c :: rest) ([c] ++ text) := .char other (.inl rfl) tail
  exact kept

theorem joinWords_written (state : CamelState) (name : List Char) : Written name (joinWords state name) := by
  fun_induction joinWords state name with
  | case1 => exact .nil
  | case2 state c rest isUnderscore ih =>
    obtain rfl : c = '_' := beq_iff_eq.1 isUnderscore
    exact .underscore ih
  | case3 c rest other ih => exact .keep (by simpa using other) ih
  | case4 c rest other inWord ih => exact .char (by simpa using other) (.inr (.inl rfl)) ih
  | case5 c rest other inWord ih => exact .keep (by simpa using other) ih
  | case6 c rest other inWord ih => exact .char (by simpa using other) (.inr (.inr rfl)) ih
  | case7 c rest other inWord ih => exact .keep (by simpa using other) ih

/-- The capitalised spelling of a name is the name written anew. -/
theorem camelize_written (name : String) : Written name.toList (camelize name).toList := by
  rw [camelize, String.toList_ofList]
  cases name.toList with
  | nil => exact .nil
  | cons c rest =>
    rw [camelizeChars]
    split
    · rename_i isWord
      have other : c ≠ '_' := by
        rintro rfl
        exact absurd isWord (by decide)
      exact .char other (.inr (.inl rfl)) (joinWords_written _ rest)
    · exact joinWords_written _ (c :: rest)

/-- What is written anew has no underscores. -/
theorem Written.not_mem {name text : List Char} (h : Written name text) : '_' ∉ text := by
  induction h with
  | nil => exact List.not_mem_nil
  | underscore _ ih => exact ih
  | char other cases _ ih =>
    rw [List.mem_append, not_or]
    refine ⟨?_, ih⟩
    rcases cases with rfl | rfl | rfl
    · exact fun mem => other (List.mem_singleton.1 mem).symm
    · exact Text.not_mem_titleChar other
    · exact Text.not_mem_lowerChar other

/-- The capitalised spelling of a name has no underscores. -/
theorem not_mem_camelize (name : String) : '_' ∉ (camelize name).toList := (camelize_written name).not_mem

/-! ### Letters -/

/-- The characters of a name without regard to underscores and case. -/
def letters (name : List Char) : List Char := (name.filter (· != '_')).map Char.toLower

theorem letters_append (first second : List Char) :
    letters (first ++ second) = letters first ++ letters second := by
  simp [letters]

/-- The case of an ASCII character makes no difference. -/
theorem letters_case (c : Char) (ascii : c.toNat < 0x80) :
    letters (Text.titleChar c) = letters [c] ∧ letters (Text.lowerChar c) = letters [c] := by
  refine Text.forall_char_of_lt (P := fun c => letters (Text.titleChar c) = letters [c]
    ∧ letters (Text.lowerChar c) = letters [c]) ?_ c ascii
  decide +kernel

theorem Written.letters_eq {name text : List Char} (h : Written name text)
    (ascii : ∀ c ∈ name, c.toNat < 0x80) : letters text = letters name := by
  induction h with
  | nil => rfl
  | underscore _ ih => exact ih fun c hc => ascii c (List.mem_cons_of_mem _ hc)
  | @char c form rest text other cases _ ih =>
    obtain ⟨own, others⟩ := List.forall_mem_cons.1 ascii
    have first : letters form = letters [c] := by
      rcases cases with rfl | rfl | rfl
      · rfl
      · exact (letters_case c own).1
      · exact (letters_case c own).2
    rw [letters_append, first, ih others, ← letters_append]
    rfl

/-- The capitalised spelling of an ASCII name has the letters of the name. -/
theorem letters_camelize {name : String} (ascii : ∀ c ∈ name.toList, c.toNat < 0x80) :
    letters (camelize name).toList = letters name.toList := (camelize_written name).letters_eq ascii

end Naming

end OperationClasses
