/-
Module: OperationClasses.Proofs.Naming.Identifier
Purpose: Which identifiers a generated module can use, and what names they come from.
Main exports: Naming.Usable, Naming.DigitLed, Naming.freeName_least, Naming.safeIdentifier_madeFrom,
  Naming.usable_typeClassName_iff, Naming.usable_operationClassName_iff, Naming.usable_enumMembers
-/
import Mathlib
import OperationClasses.Document.Token
import OperationClasses.Naming.Identifier
import OperationClasses.Proofs.Naming.Words
import OperationClasses.Text.IdentifierChars

namespace OperationClasses.Naming

variable {name out : String} {taken : List String}

/-! ### Identifiers -/

/-- A text that is written like an identifier. -/
def isIdentifier (text : String) : Bool :=
  match text.toList with
  | [] => false
  | c :: rest => Text.isIdentifierStart c && rest.all Text.isIdentifierContinue

/-- A name that a generated module can give to something: it is written like an identifier, and is no
    keyword. -/
structure Usable (name : String) : Prop where
  written : isIdentifier name
  free : name ∉ keywords

/-- Whether a name is usable can be found out. -/
instance (name : String) : Decidable (Usable name) :=
  decidable_of_iff (isIdentifier name ∧ name ∉ keywords) ⟨fun h => ⟨h.1, h.2⟩, fun h => ⟨h.written, h.free⟩⟩

/-- Whether the first character of a name after its leading underscores is a digit, if there is one. -/
def lead (name : List Char) : Option Bool := (name.dropWhile (· == '_')).head?.map Char.isDigit

/-- The first character of a name after its leading underscores is a digit. -/
def DigitLed (name : String) : Prop := lead name.toList = some true

instance (name : String) : Decidable (DigitLed name) := inferInstanceAs (Decidable (lead _ = some true))

/-- Characters that the names of documents and schemas consist of. -/
def NameChars (name : List Char) : Prop := ∀ c ∈ name, Token.isNameChar c

theorem ascii_of_isNameChar {c : Char} (h : Token.isNameChar c) : c.toNat < 0x80 := by
  simp only [Token.isNameChar, Char.isAlphanum, Char.isAlpha, Char.isUpper, Char.isLower, Char.isDigit,
    Bool.or_eq_true, Bool.and_eq_true, decide_eq_true_eq, beq_iff_eq, UInt32.le_iff_toNat_le] at h
  rcases h with ((h | h) | h) | rfl
  · exact Nat.lt_of_le_of_lt h.2 (by decide)
  · exact Nat.lt_of_le_of_lt h.2 (by decide)
  · exact Nat.lt_of_le_of_lt h.2 (by decide)
  · decide

/-- What holds of the characters of names can be checked one by one. -/
theorem forall_isNameChar {P : Char → Prop} (all : ∀ n < 0x80, Token.isNameChar (Char.ofNat n) → P (Char.ofNat n))
    {c : Char} (h : Token.isNameChar c) : P c :=
  Text.forall_char_of_lt (P := fun c => Token.isNameChar c → P c) all c (ascii_of_isNameChar h) h

/-- Every character of a name may stand in an identifier, and all but the digits may start one. -/
theorem isIdentifierContinue_of_isNameChar {c : Char} (h : Token.isNameChar c) :
    Text.isIdentifierContinue c ∧ (Text.isIdentifierStart c ↔ ¬ c.isDigit) := by
  refine forall_isNameChar (P := fun c => Text.isIdentifierContinue c
    ∧ (Text.isIdentifierStart c ↔ ¬ c.isDigit)) ?_ h
  decide +kernel

/-- A text of such characters is written like an identifier unless it starts with a digit. -/
theorem isIdentifier_iff {c : Char} {rest : List Char} (chars : NameChars (c :: rest))
    (text : name.toList = c :: rest) : isIdentifier name ↔ ¬ c.isDigit := by
  obtain ⟨own, others⟩ := List.forall_mem_cons.1 chars
  have continued : rest.all Text.isIdentifierContinue :=
    List.all_eq_true.2 fun d hd => (isIdentifierContinue_of_isNameChar (others d hd)).1
  rw [isIdentifier, text]
  simp only [continued, Bool.and_true]
  exact (isIdentifierContinue_of_isNameChar own).2

/-! ### Underscores at the end -/

theorem rotateUnderscores_eq_some {name rotated : List Char} (h : rotateUnderscores name = some rotated) :
    ∃ c rest, name.dropWhile (· == '_') = c :: rest
      ∧ rotated = c :: rest ++ name.takeWhile (· == '_') := by
  unfold rotateUnderscores at h
  split at h
  · cases h
  · rename_i stripped some_
    cases h
    obtain ⟨c, rest, start⟩ := List.exists_cons_of_ne_nil some_
    exact ⟨c, rest, start, by rw [start]⟩

theorem lead_of_rotateUnderscores {name : List Char} (h : rotateUnderscores name = none) : lead name = none := by
  unfold rotateUnderscores at h
  split at h
  · rename_i nothing
    rw [lead, nothing]
    rfl
  · cases h

/-- A name with so many underscores after it. -/
def padded (name : String) (count : Nat) : String := String.ofList (name.toList ++ List.replicate count '_')

@[simp] theorem toList_padded (name : String) (count : Nat) :
    (padded name count).toList = name.toList ++ List.replicate count '_' := String.toList_ofList

@[simp] theorem padded_zero (name : String) : padded name 0 = name := by simp [padded]

theorem padded_push (name : String) (count : Nat) : padded (name.push '_') count = padded name (count + 1) := by
  rw [← String.toList_inj, toList_padded, toList_padded, String.toList_push, List.append_assoc]
  rfl

theorem padded_succ_ne (name : String) (count : Nat) : padded name (count + 1) ≠ name := by
  intro same
  have length := congrArg (·.toList.length) same
  simp at length

/-- The search for a name that is not taken stops at the least number of underscores that gives one, after as many
    steps as names are taken at most. -/
theorem freeName_least (taken : List String) (name : String) :
    ∃ k ≤ taken.length, freeName taken name = padded name k ∧ padded name k ∉ taken
      ∧ ∀ j < k, padded name j ∈ taken := by
  fun_induction freeName taken name with
  | case1 taken name isTaken ih =>
    obtain ⟨k, bound, found, free, least⟩ := ih
    rw [List.length_erase_of_mem isTaken] at bound
    have some_ := List.length_pos_of_mem isTaken
    rw [padded_push] at found free
    refine ⟨k + 1, by omega, found, fun mem => free ?_, fun j before => ?_⟩
    · exact (List.mem_erase_of_ne (padded_succ_ne name k)).2 mem
    · cases j with
      | zero => rwa [padded_zero]
      | succ j =>
        have passed := least j (by omega)
        rw [padded_push] at passed
        exact List.mem_of_mem_erase passed
  | case2 taken name free =>
    rw [← padded_zero name] at free
    exact ⟨0, Nat.zero_le _, (padded_zero name).symm, free, fun j before => absurd before (Nat.not_lt_zero j)⟩

/-- A name that is not taken is found by appending underscores. -/
theorem freeName_spec (taken : List String) (name : String) :
    (∃ k, (freeName taken name).toList = name.toList ++ List.replicate k '_') ∧ freeName taken name ∉ taken := by
  obtain ⟨k, -, found, free, -⟩ := freeName_least taken name
  rw [found]
  exact ⟨⟨k, toList_padded name k⟩, free⟩

/-- An identifier that was made from a name: it consists of characters of names, at least one, is no keyword, and
    is written like an identifier unless the name starts with a digit after its underscores. -/
structure MadeFrom (name out : String) : Prop where
  start : ∃ c rest, out.toList = c :: rest
  chars : NameChars out.toList
  free : out ∉ keywords
  written_iff : isIdentifier out ↔ ¬ DigitLed name

theorem MadeFrom.usable_iff (h : MadeFrom name out) : Usable out ↔ ¬ DigitLed name := by
  rw [← h.written_iff]
  exact ⟨fun usable => usable.written, fun written => ⟨written, h.free⟩⟩

/-- A name with its leading underscores at the end, and maybe more of them. -/
theorem rotated_spec {rotated : List Char} {k : Nat} (chars : NameChars name.toList)
    (found : rotateUnderscores name.toList = some rotated)
    (text : out.toList = rotated ++ List.replicate k '_') :
    (∃ c rest, out.toList = c :: rest) ∧ NameChars out.toList ∧ (isIdentifier out ↔ ¬ DigitLed name) := by
  obtain ⟨c, rest, start, rfl⟩ := rotateUnderscores_eq_some found
  have all : NameChars out.toList := by
    intro d hd
    rw [text, ← start, List.append_assoc, List.mem_append, List.mem_append] at hd
    rcases hd with hd | hd | hd
    · exact chars d ((List.dropWhile_sublist _).subset hd)
    · exact chars d ((List.takeWhile_sublist _).subset hd)
    · rw [List.eq_of_mem_replicate hd]
      decide
  rw [List.cons_append, List.cons_append] at text
  refine ⟨⟨_, _, text⟩, all, ?_⟩
  rw [isIdentifier_iff (text ▸ all) text, DigitLed, lead, start]
  simp

/-- An identifier is made from any name that has another character than underscores. -/
theorem safeIdentifier_madeFrom {reserved : List String} (chars : NameChars name.toList)
    (named : safeIdentifier reserved name = .ok out) : MadeFrom name out := by
  unfold safeIdentifier at named
  split at named
  · cases named
  · rename_i rotated found
    cases named
    obtain ⟨⟨k, text⟩, free⟩ := freeName_spec (keywords ++ reserved) (String.ofList rotated)
    rw [String.toList_ofList] at text
    obtain ⟨start, all, written⟩ := rotated_spec chars found text
    exact ⟨start, all, fun mem => free (List.mem_append_left _ mem), written⟩

/-- An identifier is none of the names that it must not take. -/
theorem safeIdentifier_not_mem {reserved : List String} (named : safeIdentifier reserved name = .ok out) :
    out ∉ reserved := by
  unfold safeIdentifier at named
  split at named
  · cases named
  · cases named
    exact fun mem => (freeName_spec _ _).2 (List.mem_append_right _ mem)

/-- A keyword has no underscores. -/
theorem not_mem_of_mem_keywords (mem : name ∈ keywords) : '_' ∉ name.toList := by
  have all : ∀ word ∈ keywords, '_' ∉ word.toList := by decide +kernel
  exact all name mem

/-- A name with its leading underscores at the end is a keyword only if it was one. -/
theorem rotated_mem_keywords_iff {rotated : List Char} (found : rotateUnderscores name.toList = some rotated) :
    String.ofList rotated ∈ keywords ↔ name ∈ keywords := by
  obtain ⟨c, rest, start, rfl⟩ := rotateUnderscores_eq_some found
  have split := List.takeWhile_append_dropWhile (p := (· == '_')) (l := name.toList)
  -- without underscores at either end, the name is as it was
  have same : name.toList.takeWhile (· == '_') = [] →
      String.ofList (c :: rest ++ name.toList.takeWhile (· == '_')) = name := by
    intro none_
    rw [none_, List.nil_append] at split
    rw [none_, List.append_nil, ← start, split, String.ofList_toList]
  have none_of_free : ∀ word : List Char, (∀ d ∈ name.toList.takeWhile (· == '_'), d ∈ word) → '_' ∉ word →
      name.toList.takeWhile (· == '_') = [] := by
    intro word within free
    refine List.eq_nil_iff_forall_not_mem.2 fun d hd => free ?_
    have isUnderscore := List.mem_takeWhile_imp (p := (· == '_')) hd
    exact beq_iff_eq.1 isUnderscore ▸ within d hd
  constructor
  · intro mem
    have free := not_mem_of_mem_keywords mem
    rw [String.toList_ofList] at free
    rwa [same (none_of_free _ (fun d hd => List.mem_append_right _ hd) free)] at mem
  · intro mem
    rwa [same (none_of_free _ (fun d hd => (List.takeWhile_sublist _).subset hd) (not_mem_of_mem_keywords mem))]

/-- The class name of a type is usable unless the name of the type is a keyword, or starts with a digit after
    its underscores. -/
theorem usable_typeClassName_iff (chars : NameChars name.toList) (named : typeClassName name = .ok out) :
    Usable out ↔ ¬ DigitLed name ∧ name ∉ keywords := by
  unfold typeClassName at named
  split at named
  · cases named
  · rename_i rotated found
    cases named
    have text : (String.ofList rotated).toList = rotated ++ List.replicate 0 '_' := by simp
    rw [← (rotated_spec chars found text).2.2, ← rotated_mem_keywords_iff found]
    exact ⟨fun usable => ⟨usable.written, usable.free⟩, fun h => ⟨h.1, h.2⟩⟩

/-! ### The underscored spelling -/

/-- Underscores are put before characters of a name, but not before another character than an underscore has
    come, or is `inside` already. -/
inductive Cut : Bool → List Char → List Char → Prop where
  | nil {inside : Bool} : Cut inside [] []
  | keep {inside : Bool} {c : Char} {rest out : List Char} (tail : Cut (inside || c != '_') rest out) :
      Cut inside (c :: rest) (c :: out)
  | cut {c : Char} {rest out : List Char} (tail : Cut true rest out) : Cut true (c :: rest) ('_' :: c :: out)

theorem cutAcronyms_cut {inside : Bool} {previous : Option Char} {name : List Char}
    (start : previous.any isAcronymChar → inside = true) : Cut inside name (cutAcronyms previous name) := by
  fun_induction cutAcronyms previous name generalizing inside with
  | case1 => exact .nil
  | case2 previous c rest cuts ih =>
    simp only [Bool.and_eq_true] at cuts
    rw [start cuts.1.2]
    exact .cut (ih fun _ => rfl)
  | case3 previous c rest _ ih =>
    refine .keep (ih fun acronym => ?_)
    have other : c ≠ '_' := by
      rintro rfl
      exact absurd acronym (by decide)
    simp [other]

theorem cutWords_cut {inside : Bool} {previous : Option Char} {name : List Char}
    (start : previous.any isWordChar → inside = true) : Cut inside name (cutWords previous name) := by
  fun_induction cutWords previous name generalizing inside with
  | case1 => exact .nil
  | case2 previous c rest cuts ih =>
    simp only [Bool.and_eq_true] at cuts
    rw [start cuts.2]
    exact .cut (ih fun _ => rfl)
  | case3 previous c rest _ ih =>
    refine .keep (ih fun word => ?_)
    have other : c ≠ '_' := by
      rintro rfl
      exact absurd word (by decide)
    simp [other]

/-- What holds of underscores and of all characters of a name holds of those of the cut name. -/
theorem Cut.forall_mem {inside : Bool} {name out : List Char} {P : Char → Prop} (h : Cut inside name out) (own : P '_')
    (all : ∀ c ∈ name, P c) : ∀ c ∈ out, P c := by
  induction h with
  | nil => exact all
  | keep _ ih =>
    obtain ⟨first, others⟩ := List.forall_mem_cons.1 all
    exact List.forall_mem_cons.2 ⟨first, ih others⟩
  | cut _ ih =>
    obtain ⟨first, others⟩ := List.forall_mem_cons.1 all
    exact List.forall_mem_cons.2 ⟨own, List.forall_mem_cons.2 ⟨first, ih others⟩⟩

theorem Cut.chars {inside : Bool} {name out : List Char} (h : Cut inside name out) (chars : NameChars name) :
    NameChars out := h.forall_mem (by decide) chars

/-- Cutting adds no other characters than underscores. -/
theorem Cut.filter {inside : Bool} {name out : List Char} {keeps : Char → Bool} (h : Cut inside name out)
    (drops : keeps '_' = false) : out.filter keeps = name.filter keeps := by
  induction h with
  | nil => rfl
  | keep _ ih => rw [List.filter_cons, List.filter_cons, ih]
  | cut _ ih => rw [List.filter_cons_of_neg (by simp [drops]), List.filter_cons, List.filter_cons, ih]

/-- Cutting does not change what a name starts with. -/
theorem Cut.lead {name out : List Char} (h : Cut false name out) : lead out = lead name := by
  generalize outside : false = inside at h
  induction h with
  | nil => rfl
  | @keep _ c _ _ _ ih =>
    by_cases isUnderscore : c = '_'
    · subst isUnderscore
      simpa [Naming.lead] using ih (by simp [← outside])
    · simp [Naming.lead, isUnderscore]
  | cut => cases outside

/-! ### Case -/

/-- A change of the characters of names that leaves underscores and digits as they are. -/
def KeepsShape (change : Char → List Char) (c : Char) : Prop :=
  ∃ d, change c = [d] ∧ Token.isNameChar d ∧ (d == '_') = (c == '_') ∧ d.isDigit = c.isDigit

theorem keepsShape_case {c : Char} (h : Token.isNameChar c) :
    KeepsShape flatten c ∧ KeepsShape Text.upperChar c := by
  have table : ∀ n < 0x80, Token.isNameChar (Char.ofNat n) →
      (flatten (Char.ofNat n) = [(Char.ofNat n).toLower] ∧ Token.isNameChar (Char.ofNat n).toLower
        ∧ ((Char.ofNat n).toLower == '_') = (Char.ofNat n == '_')
        ∧ (Char.ofNat n).toLower.isDigit = (Char.ofNat n).isDigit)
      ∧ Text.upperChar (Char.ofNat n) = [(Char.ofNat n).toUpper] ∧ Token.isNameChar (Char.ofNat n).toUpper
        ∧ ((Char.ofNat n).toUpper == '_') = (Char.ofNat n == '_')
        ∧ (Char.ofNat n).toUpper.isDigit = (Char.ofNat n).isDigit := by decide +kernel
  exact forall_isNameChar (P := fun c => KeepsShape flatten c ∧ KeepsShape Text.upperChar c)
    (fun n small isChar => ⟨⟨_, (table n small isChar).1⟩, _, (table n small isChar).2⟩) h

/-- Such a change of a name keeps what it starts with. -/
theorem flatMap_shape {change : Char → List Char} {name : List Char}
    (keeps : ∀ c ∈ name, KeepsShape change c) :
    NameChars (name.flatMap change) ∧ lead (name.flatMap change) = lead name := by
  induction name with
  | nil => exact ⟨fun _ h => absurd h List.not_mem_nil, rfl⟩
  | cons c rest ih =>
    obtain ⟨⟨d, changed, isChar, underscore, digit⟩, others⟩ := List.forall_mem_cons.1 keeps
    obtain ⟨chars, same⟩ := ih others
    rw [List.flatMap_cons, changed, List.singleton_append]
    refine ⟨List.forall_mem_cons.2 ⟨isChar, chars⟩, ?_⟩
    simp only [lead, List.dropWhile_cons, underscore] at same ⊢
    cases c == '_' with
    | true => exact same
    | false => simp [digit]

/-- The underscored spelling of a name consists of characters of names, and starts like the name. -/
theorem underscore_shape (chars : NameChars name.toList) :
    NameChars (underscore name).toList ∧ lead (underscore name).toList = lead name.toList := by
  rw [underscore, String.toList_ofList, underscoreChars]
  split
  · have first : Cut false name.toList (cutAcronyms none name.toList) := cutAcronyms_cut (by simp)
    have second : Cut false _ (cutWords none (cutAcronyms none name.toList)) := cutWords_cut (by simp)
    obtain ⟨flat, same⟩ := flatMap_shape fun c hc => (keepsShape_case (second.chars (first.chars chars) c hc)).1
    exact ⟨flat, same.trans (second.lead.trans first.lead)⟩
  · exact ⟨chars, rfl⟩

/-- A name in capitals consists of characters of names, and starts like the name. -/
theorem upper_shape (chars : NameChars name.toList) :
    NameChars (Text.upper name).toList ∧ lead (Text.upper name).toList = lead name.toList := by
  rw [Text.upper, String.toList_ofList]
  exact flatMap_shape fun c hc => (keepsShape_case (chars c hc)).2

/-- An identifier made from the underscored spelling of a name is usable unless the name starts with a digit
    after its underscores. -/
theorem usable_underscore_iff {reserved : List String} (chars : NameChars name.toList)
    (named : safeIdentifier reserved (underscore name) = .ok out) : Usable out ↔ ¬ DigitLed name := by
  obtain ⟨spelled, same⟩ := underscore_shape chars
  rw [(safeIdentifier_madeFrom spelled named).usable_iff, DigitLed, same, DigitLed]

/-- A name with another character than underscores starts with something after its underscores. -/
theorem lead_ne_none {name : List Char} (some_ : ∃ c ∈ name, c ≠ '_') : lead name ≠ none := by
  obtain ⟨c, mem, other⟩ := some_
  intro nothing
  rw [lead, Option.map_eq_none_iff, List.head?_eq_none_iff, List.dropWhile_eq_nil_iff] at nothing
  exact other (beq_iff_eq.1 (nothing c mem))

/-- A name with another character than underscores gives an identifier in its underscored spelling. -/
theorem exists_safeIdentifier_underscore (reserved : List String) (chars : NameChars name.toList)
    (some_ : ∃ c ∈ name.toList, c ≠ '_') : ∃ out, safeIdentifier reserved (underscore name) = .ok out := by
  unfold safeIdentifier
  split
  · rename_i nothing
    have same := (underscore_shape chars).2
    exact absurd (same.symm.trans (lead_of_rotateUnderscores nothing)) (lead_ne_none some_)
  · exact ⟨_, rfl⟩

/-! ### Names of results -/

/-- A name consists of characters of names. -/
theorem NameChars.of_isName (h : Token.isName name) : NameChars name.toList := by
  unfold Token.isName at h
  split at h
  · cases h
  · rename_i c rest text
    obtain ⟨start, others⟩ := Bool.and_eq_true_iff.1 h
    rw [text]
    refine List.forall_mem_cons.2 ⟨?_, List.all_eq_true.1 others⟩
    rcases Bool.or_eq_true_iff.1 start with letter | underscore
    · simp [Token.isNameChar, Char.isAlphanum, letter]
    · simp [Token.isNameChar, underscore]

theorem isIdentifier_of_capital {c : Char} {rest : List Char} (text : name.toList = c :: rest)
    (capital : isCapital c) (chars : NameChars name.toList) : isIdentifier name := by
  rw [isIdentifier_iff (text ▸ chars) text]
  have isChar : Token.isNameChar c := chars c (text ▸ List.mem_cons_self)
  refine forall_isNameChar (P := fun c => isCapital c → ¬ c.isDigit) ?_ isChar capital
  decide +kernel

/-- The class name of an operation is its name, which starts with a capital. -/
theorem operationClassName_spec {operation : Option String} (named : operationClassName operation = .ok out) :
    operation = some out ∧ ∃ c rest, out.toList = c :: rest ∧ isCapital c := by
  unfold operationClassName at named
  split at named
  · split at named
    · rename_i isOperation
      cases named
      unfold isOperationName at isOperation
      split at isOperation
      · cases isOperation
      · rename_i c rest start
        exact ⟨rfl, c, rest, start, (Bool.and_eq_true_iff.1 isOperation).1⟩
    · cases named
  · cases named

/-- The class name of an operation is usable but for the three keywords that start with a capital. -/
theorem usable_operationClassName_iff {operation : Option String}
    (chars : ∀ text, operation = some text → NameChars text.toList)
    (named : operationClassName operation = .ok out) : Usable out ↔ out ∉ ["False", "None", "True"] := by
  obtain ⟨own, c, rest, start, capital⟩ := operationClassName_spec named
  have written := isIdentifier_of_capital start capital (chars _ own)
  have keyword : out ∈ keywords ↔ out ∈ ["False", "None", "True"] := by
    have capitals : ∀ word ∈ keywords, word.toList.head?.any isCapital → word ∈ ["False", "None", "True"] := by
      decide +kernel
    have all : ∀ word ∈ ["False", "None", "True"], word ∈ keywords := by decide
    exact ⟨fun mem => capitals out mem (by simp [start, capital]), all out⟩
  rw [← keyword]
  exact ⟨fun usable => usable.free, fun free => ⟨written, free⟩⟩

/-- What is written anew from a name consists of characters of names. -/
theorem Written.chars {name text : List Char} (h : Written name text) (chars : NameChars name) :
    NameChars text := by
  induction h with
  | nil => exact chars
  | underscore _ ih => exact ih (List.forall_mem_cons.1 chars).2
  | @char c form _ _ _ cases _ ih =>
    obtain ⟨own, others⟩ := List.forall_mem_cons.1 chars
    have table : (Text.titleChar c).all Token.isNameChar ∧ (Text.lowerChar c).all Token.isNameChar :=
      forall_isNameChar (P := fun c => (Text.titleChar c).all Token.isNameChar
        ∧ (Text.lowerChar c).all Token.isNameChar) (by decide +kernel) own
    have first : NameChars form := by
      rcases cases with rfl | rfl | rfl
      · exact List.forall_mem_singleton.2 own
      · exact List.all_eq_true.1 table.1
      · exact List.all_eq_true.1 table.2
    exact fun d hd => (List.mem_append.1 hd).elim (first d) (ih others d)

/-- The capitalised spelling of a name consists of characters of names. -/
theorem camelize_chars (chars : NameChars name.toList) : NameChars (camelize name).toList :=
  (camelize_written name).chars chars

/-- A name that starts with a capital and has an underscore is usable. -/
theorem usable_of_capital {c : Char} {rest : List Char} (text : name.toList = c :: rest)
    (capital : isCapital c) (chars : NameChars name.toList) (underscore : '_' ∈ name.toList) : Usable name :=
  ⟨isIdentifier_of_capital text capital chars, fun mem => not_mem_of_mem_keywords mem underscore⟩

/-! ### Members of enums -/

theorem toList_number (k : Nat) : (toString k).toList = Nat.toDigits 10 k := Nat.toList_repr

theorem number_inj {k l : Nat} (same : toString k = toString l) : k = l := by
  have digits : Nat.toDigits 10 k = Nat.toDigits 10 l := by rw [← toList_number, ← toList_number, same]
  rw [← Nat.ofDigitChars_toDigits (b := 10) (n := k) (by decide) (by decide), digits,
    Nat.ofDigitChars_toDigits (by decide) (by decide)]

theorem isDigit_number {k : Nat} {d : Char} (h : d ∈ (toString k).toList) : d.isDigit :=
  Nat.isDigit_of_mem_toDigits (by decide) (by decide) (toList_number k ▸ h)

theorem numbered_ne {text : String} (none_ : !text.toList.any Char.isDigit) (base : String) (k : Nat) :
    base ++ toString k ≠ text := by
  rintro rfl
  obtain ⟨d, hd⟩ := List.exists_mem_of_ne_nil _ fun none_ => Nat.toDigits_ne_nil ((toList_number k).symm.trans none_)
  have ends : (base ++ toString k).toList.any Char.isDigit := by
    rw [String.toList_append]
    exact List.any_eq_true.2 ⟨d, List.mem_append_right _ hd, isDigit_number hd⟩
  rw [ends] at none_
  cases none_

/-- A name that ends with a number is no keyword. -/
theorem numbered_not_mem_keywords (base : String) (k : Nat) : base ++ toString k ∉ keywords := by
  have none_ : ∀ word ∈ keywords, !word.toList.any Char.isDigit := by decide +kernel
  exact fun mem => numbered_ne (none_ _ mem) base k rfl

/-- A usable name is usable with a number after it. -/
theorem Usable.numbered {base : String} (usable : Usable base) (k : Nat) : Usable (base ++ toString k) := by
  refine ⟨?_, numbered_not_mem_keywords base k⟩
  have written := usable.written
  have digits : (toString k).toList.all Text.isIdentifierContinue := by
    refine List.all_eq_true.2 fun d hd => (isIdentifierContinue_of_isNameChar ?_).1
    simp [Token.isNameChar, Char.isAlphanum, isDigit_number hd]
  unfold isIdentifier at written ⊢
  rw [String.toList_append]
  split at written
  · cases written
  · rename_i c rest text
    obtain ⟨first, others⟩ := Bool.and_eq_true_iff.1 written
    rw [text, List.cons_append]
    exact Bool.and_eq_true_iff.2 ⟨first, by rw [List.all_append, others, digits]; rfl⟩

/-- A number after an identifier makes no difference to whether it is usable, if it was no keyword. -/
theorem usable_numbered_iff {base : String} {c : Char} {rest : List Char} (text : base.toList = c :: rest)
    (chars : NameChars base.toList) (free : base ∉ keywords) (k : Nat) :
    Usable (base ++ toString k) ↔ Usable base := by
  have joined : (base ++ toString k).toList = c :: (rest ++ (toString k).toList) := by
    rw [String.toList_append, text, List.cons_append]
  have all : NameChars (base ++ toString k).toList := by
    intro d hd
    rw [String.toList_append] at hd
    rcases List.mem_append.1 hd with hd | hd
    · exact chars d hd
    · simp [Token.isNameChar, Char.isAlphanum, isDigit_number hd]
  have written : isIdentifier (base ++ toString k) ↔ isIdentifier base := by
    rw [isIdentifier_iff (joined ▸ all) joined, isIdentifier_iff (text ▸ chars) text]
  exact ⟨fun usable => ⟨written.1 usable.written, free⟩, fun usable => usable.numbered k⟩

theorem numberedName_eq (taken : List String) (base : String) (k : Nat) :
    ∃ j : Nat, numberedName taken base k = base ++ toString j := by
  fun_induction numberedName taken base k with
  | case1 taken k candidate isTaken ih => exact ih
  | case2 taken k candidate free => exact ⟨k, rfl⟩

/-- Every value has a member to be made from. -/
theorem exists_memberBase {value : String} (chars : NameChars value.toList) :
    ∃ base, memberBase value = .ok base ∧ MadeFrom value base := by
  have none_iff : value.toList.all (· == '_') ↔ lead value.toList = none := by
    simp [lead, List.dropWhile_eq_nil_iff]
  unfold memberBase
  split
  · rename_i underscores
    have text : ("VALUE" ++ value).toList = 'V' :: ("ALUE".toList ++ value.toList) := String.toList_append
    have all : NameChars ("VALUE" ++ value).toList := by
      intro d hd
      rw [String.toList_append] at hd
      refine (List.mem_append.1 hd).elim (fun hd => ?_) (chars d)
      have letters : "VALUE".toList.all Token.isNameChar := by decide +kernel
      exact List.all_eq_true.1 letters d hd
    refine ⟨_, rfl, ⟨'V', _, text⟩, all, fun mem => ?_, ?_⟩
    · have none_ : ∀ word ∈ keywords, word.toList.head? ≠ some 'V' := by decide +kernel
      exact none_ _ mem (by rw [text]; rfl)
    · rw [isIdentifier_iff (text ▸ all) text, DigitLed, none_iff.1 underscores]
      decide
  · rename_i other
    obtain ⟨flat, same⟩ := underscore_shape chars
    obtain ⟨capitals, same'⟩ := upper_shape flat
    cases named : safeIdentifier [] (Text.upper (underscore value)) with
    | ok base =>
      obtain ⟨start, chars, free, written⟩ := safeIdentifier_madeFrom capitals named
      rw [DigitLed, same', same, ← DigitLed] at written
      exact ⟨base, rfl, start, chars, free, written⟩
    | error fault =>
      refine absurd (none_iff.2 ?_) other
      rw [← same, ← same']
      unfold safeIdentifier at named
      split at named
      · rename_i nothing
        exact lead_of_rotateUnderscores nothing
      · cases named

/-- The members of an enum: every value has one, which is usable unless the value starts with a digit after its
    underscores. -/
theorem usable_enumMembers {values : List String} (chars : ∀ value ∈ values, NameChars value.toList) :
    ∃ members, enumMembers values = .ok members ∧ members.map (·.2) = values
      ∧ ∀ member ∈ members, Usable member.1 ↔ ¬ DigitLed member.2 := by
  suffices all : ∀ taken, ∃ members, enumMembersFrom taken values = .ok members ∧ members.map (·.2) = values
      ∧ ∀ member ∈ members, Usable member.1 ↔ ¬ DigitLed member.2 from all []
  induction values with
  | nil => exact fun taken => ⟨[], rfl, rfl, fun _ h => absurd h List.not_mem_nil⟩
  | cons value rest ih =>
    intro taken
    obtain ⟨own, others⟩ := List.forall_mem_cons.1 chars
    obtain ⟨base, made, from_⟩ := exists_memberBase own
    obtain ⟨c, tail, text⟩ := from_.start
    obtain ⟨members, read, values, all⟩ := ih others (memberName taken base :: taken)
    refine ⟨(memberName taken base, value) :: members, ?_, ?_, ?_⟩
    · rw [enumMembersFrom, made]
      simp [bind, Except.bind, read, pure, Except.pure]
    · rw [List.map_cons, values]
    · refine List.forall_mem_cons.2 ⟨?_, all⟩
      rw [← from_.usable_iff]
      unfold memberName
      split
      · obtain ⟨k, numbered⟩ := numberedName_eq taken base 2
        rw [numbered]
        exact usable_numbered_iff text from_.chars from_.free k
      · rfl

end OperationClasses.Naming
