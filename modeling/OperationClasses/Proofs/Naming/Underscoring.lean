/-
Module: OperationClasses.Proofs.Naming.Underscoring
Purpose: The underscored spelling of a name, made by two passes of substitutions over it: where it has an underscore
  depends on the characters next to that place alone.
Main exports: Naming.CutPattern, Naming.CutPattern.Substitutes, Naming.CutPattern.Cutter.substitutes_iff,
  Naming.acronymEnd, Naming.wordEnd, Naming.StartsWord, Naming.cutAtStarts, Naming.underscore_is_local
-/
import OperationClasses.Proofs.Naming.Identifier

namespace OperationClasses.Naming

/-! ### Passes of substitutions -/

/-- A pattern of two groups: a character of a class or, if it `repeats`, a run of such characters, and behind it one
    character of each of some classes. -/
structure CutPattern where
  before : Char → Bool
  repeats : Bool
  after : List (Char → Bool)

variable {p : CutPattern} {f : List Char → List Char} {text first second rest out word : List Char}
  {previous : Option Char} {c d e : Char}

namespace CutPattern

/-- One way in which a text begins with what a pattern describes: with its two groups, and `rest` behind them. -/
structure Fits (p : CutPattern) (text first second rest : List Char) : Prop where
  text_eq : text = first ++ second ++ rest
  nonempty : first ≠ []
  before : ∀ c ∈ first, p.before c
  single : p.repeats = false → first.length = 1
  after : List.Forall₂ (fun isIn c => isIn c = true) p.after second

/-- The match of a pattern at the start of a text. A run is taken as long as it can be, and given back character by
    character until the second group fits behind it. -/
structure Match (p : CutPattern) (text first second rest : List Char) : Prop where
  fits : p.Fits text first second rest
  greedy : ∀ first' second' rest', p.Fits text first' second' rest' → first'.length ≤ first.length

/-- What a pass over a text leaves, with an underscore between the two groups of every match. The search goes from left
    to right: a character where the pattern does not match is copied, and behind a match the search goes on with what is
    left of the text. -/
inductive Substitutes (p : CutPattern) : List Char → List Char → Prop where
  | nil : p.Substitutes [] []
  | copy {c : Char} {rest out : List Char} (none : ∀ first second rest', ¬ p.Fits (c :: rest) first second rest')
      (tail : p.Substitutes rest out) : p.Substitutes (c :: rest) (c :: out)
  | cut {text first second rest out : List Char} (found : p.Match text first second rest)
      (tail : p.Substitutes rest out) : p.Substitutes text (first ++ '_' :: second ++ out)

/-- A function puts the underscore in where the pattern fits, in whichever way it does, and copies a character where it does
    not. -/
structure Cutter (p : CutPattern) (f : List Char → List Char) : Prop where
  nil : f [] = []
  copy : ∀ {c rest}, (∀ first second rest', ¬ p.Fits (c :: rest) first second rest') → f (c :: rest) = c :: f rest
  cut : ∀ {text first second rest}, p.Fits text first second rest → f text = first ++ '_' :: second ++ f rest

/-- Where a pattern fits, it has a match. -/
theorem Fits.exists_match {first second rest : List Char} (fits : p.Fits text first second rest) :
    ∃ first second rest, p.Match text first second rest := by
  by_cases longer : ∃ first' second' rest', p.Fits text first' second' rest' ∧ first.length < first'.length
  · obtain ⟨first', second', rest', fits', more⟩ := longer
    exact fits'.exists_match
  · refine ⟨first, second, rest, fits, fun first' second' rest' fits' => Nat.le_of_not_lt fun more => ?_⟩
    exact longer ⟨first', second', rest', fits', more⟩
termination_by text.length - first.length
decreasing_by
  have := congrArg List.length fits'.text_eq
  rw [List.length_append, List.length_append] at this
  omega

theorem Cutter.substitutes (cutter : p.Cutter f) (text : List Char) : p.Substitutes text (f text) := by
  by_cases found : ∃ first second rest, p.Fits text first second rest
  · obtain ⟨_, _, _, fits⟩ := found
    obtain ⟨first, second, rest, isMatch⟩ := fits.exists_match
    rw [cutter.cut isMatch.fits]
    exact .cut isMatch (cutter.substitutes rest)
  · cases text with
    | nil =>
      rw [cutter.nil]
      exact .nil
    | cons c rest =>
      have none : ∀ first second rest', ¬ p.Fits (c :: rest) first second rest' :=
        fun first second rest' fits => found ⟨first, second, rest', fits⟩
      rw [cutter.copy none]
      exact .copy none (cutter.substitutes rest)
termination_by text.length
decreasing_by
  · have whole := congrArg List.length isMatch.fits.text_eq
    have := List.length_pos_of_ne_nil isMatch.fits.nonempty
    rw [List.length_append, List.length_append] at whole
    omega
  · exact Nat.lt_succ_self _

/-- Such a function computes what a pass leaves, and a pass leaves nothing else. -/
theorem Cutter.substitutes_iff (cutter : p.Cutter f) : p.Substitutes text out ↔ out = f text := by
  constructor
  · intro substitutes
    induction substitutes with
    | nil => exact cutter.nil.symm
    | copy none _ ih => rw [cutter.copy none, ih]
    | cut found _ ih => rw [cutter.cut found.fits, ih]
  · rintro rfl
    exact cutter.substitutes text

end CutPattern

/-! ### Classes of characters -/

/-- A capital is no character of a plain word. -/
theorem isWordChar_of_isCapital (h : isCapital c) : isWordChar c = false :=
  forall_isNameChar (P := fun c => isCapital c → isWordChar c = false) (by decide +kernel)
    (by simp [Token.isNameChar, Char.isAlphanum, Char.isAlpha, show c.isUpper from h]) h

/-- A small letter is no character of an acronym. -/
theorem isAcronymChar_of_isSmall (h : isSmall c) : isAcronymChar c = false :=
  forall_isNameChar (P := fun c => isSmall c → isAcronymChar c = false) (by decide +kernel)
    (by simp [Token.isNameChar, Char.isAlphanum, Char.isAlpha, show c.isLower from h]) h

theorem isSmall_of_isAcronymChar (h : isAcronymChar c) : isSmall c = false := by
  by_contra small
  rw [isAcronymChar_of_isSmall (eq_true_of_ne_false small)] at h
  cases h

theorem isCapital_of_isSmall (h : isSmall c) : isCapital c = false := by
  have other := isAcronymChar_of_isSmall h
  rw [isAcronymChar, Bool.or_eq_false_iff] at other
  exact other.1

/-! ### The first pass -/

/-- The end of an acronym: a run of capitals and digits, and behind it a capital with a small letter. -/
def acronymEnd : CutPattern := ⟨isAcronymChar, true, [isCapital, isSmall]⟩

/-- The character before a text makes no difference, unless an acronym ends there. -/
theorem cutAcronyms_eq_none
    (goesOn : previous.any isAcronymChar → text.head?.any isCapital → ¬ text.tail.head?.any isSmall) :
    cutAcronyms previous text = cutAcronyms none text := by
  cases text with
  | nil => rfl
  | cons c rest =>
    have uncut : ¬ (isCapital c && previous.any isAcronymChar && rest.head?.any isSmall) := by
      rw [Bool.and_eq_true, Bool.and_eq_true]
      exact fun ⟨⟨capital, acronym⟩, small⟩ => goesOn acronym (by simpa using capital) small
    rw [cutAcronyms, if_neg uncut, cutAcronyms, if_neg (by simp)]

/-- A run is copied up to where an acronym ends, is cut there, and what is behind the cut is as at the start of a text. -/
theorem cutAcronyms_run {run : List Char} (acronym : ∀ c ∈ run, isAcronymChar c) (capital : isCapital d)
    (small : isSmall e) (start : run = [] → previous.any isAcronymChar) :
    cutAcronyms previous (run ++ d :: e :: rest) = run ++ '_' :: d :: e :: cutAcronyms none rest := by
  induction run generalizing previous with
  | nil =>
    have behind : cutAcronyms (some e) rest = cutAcronyms none rest :=
      cutAcronyms_eq_none fun acronym => by simp [isAcronymChar_of_isSmall small] at acronym
    rw [List.nil_append, cutAcronyms, if_pos (by simp [capital, start rfl, small]), cutAcronyms,
      if_neg (by simp [isCapital_of_isSmall small]), behind]
    rfl
  | cons c run ih =>
    obtain ⟨own, others⟩ := List.forall_mem_cons.1 acronym
    have goesOn : (run ++ d :: e :: rest).head?.any isSmall = false := by
      cases run with
      | nil => exact isSmall_of_isAcronymChar (by simp [isAcronymChar, capital])
      | cons x run => exact isSmall_of_isAcronymChar (others x List.mem_cons_self)
    rw [List.cons_append, cutAcronyms, goesOn, Bool.and_false, if_neg Bool.false_ne_true,
      ih others fun _ => by simpa using own]
    rfl

theorem acronymEnd_cutter : acronymEnd.Cutter (cutAcronyms none) where
  nil := rfl
  copy := by
    intro c rest none
    rw [cutAcronyms, if_neg (by simp), cutAcronyms_eq_none]
    intro acronym capital small
    match rest with
    | d :: e :: rest =>
      refine none [c] [d, e] rest ⟨rfl, List.cons_ne_nil _ _, ?_, fun h => absurd h (by decide), ?_⟩
      · simpa [acronymEnd] using acronym
      · simpa [acronymEnd] using ⟨capital, small⟩
    | [d] => cases small
    | [] => cases capital
  cut := by
    rintro text first second rest ⟨rfl, nonempty, acronym, -, after⟩
    match second, after with
    | [d, e], .cons capital (.cons small .nil) =>
      have run : cutAcronyms none (first ++ d :: e :: rest) = first ++ '_' :: d :: e :: cutAcronyms none rest :=
        cutAcronyms_run acronym capital small fun empty => absurd empty nonempty
      simpa using run

/-! ### The second pass -/

/-- The end of a plain word: a small letter or a digit, and behind it a capital. -/
def wordEnd : CutPattern := ⟨isWordChar, false, [isCapital]⟩

/-- The character before a text makes no difference, unless a plain word ends there. -/
theorem cutWords_eq_none (goesOn : previous.any isWordChar → ¬ text.head?.any isCapital) :
    cutWords previous text = cutWords none text := by
  cases text with
  | nil => rfl
  | cons c rest =>
    have uncut : ¬ (isCapital c && previous.any isWordChar) := by
      rw [Bool.and_eq_true]
      exact fun ⟨capital, isWord⟩ => goesOn isWord (by simpa using capital)
    rw [cutWords, if_neg uncut, cutWords, if_neg (by simp)]

theorem wordEnd_cutter : wordEnd.Cutter (cutWords none) where
  nil := rfl
  copy := by
    intro c rest none
    rw [cutWords, if_neg (by simp), cutWords_eq_none]
    intro isWord capital
    match rest with
    | d :: rest =>
      refine none [c] [d] rest ⟨rfl, List.cons_ne_nil _ _, ?_, fun _ => rfl, ?_⟩
      · simpa [wordEnd] using isWord
      · simpa [wordEnd] using capital
    | [] => cases capital
  cut := by
    rintro text first second rest ⟨rfl, -, isWord, single, after⟩
    obtain ⟨c, rfl⟩ := List.length_eq_one_iff.1 (single rfl)
    match second, after with
    | [d], .cons capital .nil =>
      have own : isWordChar c := isWord c List.mem_cons_self
      have behind : cutWords (some d) rest = cutWords none rest :=
        cutWords_eq_none fun isWord => by simp [isWordChar_of_isCapital capital] at isWord
      change cutWords none (c :: d :: rest) = c :: '_' :: d :: cutWords none rest
      rw [cutWords, if_neg (by simp), cutWords, if_pos (by simp [own, show isCapital d from capital]), behind]

/-! ### Both passes -/

/-- A word starts at a place within a name if a capital stands there, either behind a small letter or a digit, or behind a
    capital or a digit and before a small letter. -/
def StartsWord (name : List Char) (i : Nat) : Prop :=
  0 < i ∧ name[i]?.any Char.isUpper
    ∧ ((name[i - 1]?.any fun c => c.isLower || c.isDigit)
      ∨ (name[i - 1]?.any fun c => c.isUpper || c.isDigit) ∧ name[i + 1]?.any Char.isLower)

instance (name : List Char) (i : Nat) : Decidable (StartsWord name i) :=
  inferInstanceAs (Decidable (_ ∧ _ ∧ (_ ∨ _ ∧ _)))

/-- A name with an underscore before every place where a word starts, and no other change. -/
def cutAtStarts (name : List Char) : List Char :=
  (name.mapIdx fun i c => if StartsWord name i then ['_', c] else [c]).flatten

/-- Both passes at one character. They put in one underscore where either of them would: what the first one put in is no
    character of a word, so that the second one does not cut there again. -/
theorem cutWords_cutAcronyms_cons :
    cutWords previous (cutAcronyms previous (c :: rest)) =
      (if isCapital c && (previous.any isWordChar || previous.any isAcronymChar && rest.head?.any isSmall)
        then ['_', c] else [c]) ++ cutWords (some c) (cutAcronyms (some c) rest) := by
  by_cases acronym : isCapital c && previous.any isAcronymChar && rest.head?.any isSmall
  · rw [cutAcronyms, if_pos acronym]
    simp only [Bool.and_eq_true] at acronym
    obtain ⟨⟨capital, behind⟩, small⟩ := acronym
    have here : cutWords previous ('_' :: c :: cutAcronyms (some c) rest)
        = '_' :: cutWords (some '_') (c :: cutAcronyms (some c) rest) := by
      rw [cutWords, if_neg (by simp [show isCapital '_' = false by decide])]
    rw [here, cutWords, if_neg (by simp [show isWordChar '_' = false by decide]), capital, behind, small]
    simp
  · rw [cutAcronyms, if_neg acronym, cutWords]
    cases capital : isCapital c
    · simp
    · have noAcronym : (previous.any isAcronymChar && rest.head?.any isSmall) = false := by
        simpa [capital] using acronym
      cases previous.any isWordChar <;> simp [noAcronym]

/-- Whether a word starts behind the first characters of an ASCII name, told by the last one of them. -/
theorem startsWord_length_iff {before : List Char} (ascii : ∀ c ∈ before, c.toNat < 0x80) :
    StartsWord (before ++ c :: rest) before.length
      ↔ isCapital c
        && (before.getLast?.any isWordChar || before.getLast?.any isAcronymChar && rest.head?.any isSmall) := by
  have own : (before ++ c :: rest)[before.length]? = some c := by simp
  have next : (before ++ c :: rest)[before.length + 1]? = rest.head? := by
    rw [List.getElem?_append_right (Nat.le_succ _)]
    simp [List.head?_eq_getElem?]
  rw [StartsWord, own, next]
  rcases List.eq_nil_or_concat' before with rfl | ⟨start, d, rfl⟩
  · simp
  · have digit : Text.isDecimalDigit d = d.isDigit := by
      rw [Text.isDecimalDigit, if_pos (ascii d (by simp))]
    have last : (start ++ [d] ++ c :: rest)[(start ++ [d]).length - 1]? = some d := by simp
    have small : Char.isLower = isSmall := rfl
    rw [last, List.getLast?_concat]
    simp [isCapital, isWordChar, isAcronymChar, digit, small]

/-- What is behind the first characters of an ASCII name is cut where words start in the name. -/
theorem cutWords_cutAcronyms_append {before : List Char} (ascii : ∀ c ∈ before ++ rest, c.toNat < 0x80) :
    cutWords before.getLast? (cutAcronyms before.getLast? rest)
      = (rest.mapIdx fun i c => if StartsWord (before ++ rest) (before.length + i) then ['_', c] else [c]).flatten := by
  induction rest generalizing before with
  | nil => rfl
  | cons c rest ih =>
    have here : StartsWord (before ++ c :: rest) before.length ↔ _ :=
      startsWord_length_iff fun c mem => ascii c (List.mem_append_left _ mem)
    have others : cutWords (before ++ [c]).getLast? (cutAcronyms (before ++ [c]).getLast? rest) = _ :=
      ih (by simpa using ascii)
    rw [List.getLast?_concat] at others
    rw [cutWords_cutAcronyms_cons, others, List.mapIdx_cons, List.flatten_cons]
    congr 1
    · simp [here]
    · simp [Nat.add_comm, Nat.add_left_comm]

/-- Both passes put an underscore before every place where a word starts. -/
theorem cutWords_cutAcronyms_eq (ascii : ∀ c ∈ word, c.toNat < 0x80) :
    cutWords none (cutAcronyms none word) = cutAtStarts word := by
  have all : cutWords [].getLast? (cutAcronyms [].getLast? word) = _ := cutWords_cutAcronyms_append ascii
  simpa [cutAtStarts] using all

/-- Both passes only put underscores before characters. -/
theorem exists_cut (word : List Char) :
    ∃ middle, Cut false word middle ∧ Cut false middle (cutWords none (cutAcronyms none word)) :=
  ⟨_, cutAcronyms_cut (by simp), cutWords_cut (by simp)⟩

theorem ascii_of_mem_cut (ascii : ∀ c ∈ word, c.toNat < 0x80) :
    ∀ c ∈ cutWords none (cutAcronyms none word), c.toNat < 0x80 := by
  obtain ⟨middle, first, second⟩ := exists_cut word
  exact second.forall_mem (by decide) (first.forall_mem (by decide) ascii)

/-- A name without capitals is not cut. -/
theorem cutWords_cutAcronyms_of_small (small : ∀ c ∈ word, ¬ isCapital c) :
    cutWords previous (cutAcronyms previous word) = word := by
  induction word generalizing previous with
  | nil => rfl
  | cons c rest ih =>
    obtain ⟨own, others⟩ := List.forall_mem_cons.1 small
    rw [cutWords_cutAcronyms_cons, if_neg (by simp [own]), ih others]
    rfl

/-! ### Case -/

/-- A character in lower case, with an underscore for a hyphen. -/
def lowered (c : Char) : Char := if c = '-' then '_' else c.toLower

/-- What becomes of an ASCII character in an underscored name. A letter or digit stays one, and what is neither a capital nor
    a hyphen stays as it is. None of them is left. -/
theorem lowered_spec (ascii : c.toNat < 0x80) :
    flatten c = [lowered c] ∧ (lowered c).isAlphanum = c.isAlphanum ∧ (c.isAlphanum → lowered c = c.toLower)
      ∧ (¬ (isCapital c ∨ c = '-') → lowered c = c) ∧ ¬ (isCapital (lowered c) ∨ lowered c = '-') :=
  Text.forall_char_of_lt (P := fun c => flatten c = [lowered c] ∧ (lowered c).isAlphanum = c.isAlphanum
    ∧ (c.isAlphanum → lowered c = c.toLower) ∧ (¬ (isCapital c ∨ c = '-') → lowered c = c)
    ∧ ¬ (isCapital (lowered c) ∨ lowered c = '-')) (by decide +kernel) c ascii

/-- Lowering keeps the letters and digits of an ASCII text. -/
theorem filter_map_lowered (ascii : ∀ c ∈ text, c.toNat < 0x80) :
    (text.map lowered).filter Char.isAlphanum = (text.filter Char.isAlphanum).map Char.toLower := by
  have same : text.filter (Char.isAlphanum ∘ lowered) = text.filter Char.isAlphanum :=
    List.filter_congr fun c mem => (lowered_spec (ascii c mem)).2.1
  rw [List.filter_map, same]
  refine List.map_congr_left fun c mem => ?_
  obtain ⟨mem, alphanum⟩ := List.mem_filter.1 mem
  exact (lowered_spec (ascii c mem)).2.2.1 alphanum

/-! ### The underscored spelling -/

theorem underscoreChars_of_plain (plain : ∀ c ∈ word, ¬ (isCapital c ∨ c = '-')) : underscoreChars word = word := by
  rw [underscoreChars, if_neg (by simpa using plain)]

/-- A name with neither a capital nor a hyphen is returned before the passes, which would not change it either. -/
theorem underscoreChars_eq (ascii : ∀ c ∈ word, c.toNat < 0x80) :
    underscoreChars word = (cutWords none (cutAcronyms none word)).map lowered := by
  by_cases plain : ∀ c ∈ word, ¬ (isCapital c ∨ c = '-')
  · rw [underscoreChars_of_plain plain,
      cutWords_cutAcronyms_of_small fun c mem capital => plain c mem (.inl capital)]
    have same : word.map lowered = word.map id :=
      List.map_congr_left fun c mem => (lowered_spec (ascii c mem)).2.2.2.1 (plain c mem)
    rw [same, List.map_id]
  · obtain ⟨c, mem, changed⟩ : ∃ c ∈ word, isCapital c ∨ c = '-' := by
      simpa only [not_forall, not_not, exists_prop] using plain
    have passed : (word.any fun c => isCapital c || c == '-') = true :=
      List.any_eq_true.2 ⟨c, mem, by simpa using changed⟩
    rw [underscoreChars, if_pos passed, List.map_eq_flatMap]
    exact List.flatMap_congr fun c mem => (lowered_spec (ascii_of_mem_cut ascii c mem)).1

/-- **Underscored names.** The underscored spelling of an ASCII name is what two passes leave of it, in lower case and with
    underscores for hyphens: a greedy one that cuts behind acronyms, and one over its result that cuts behind plain words.
    This is the name in lower case, with underscores for hyphens and one more underscore before every capital that stands
    behind a small letter or a digit, or behind a capital or a digit and before a small letter. It has the letters and
    digits of the name in their order, and is its own underscored spelling. -/
theorem underscore_is_local {name : String} (ascii : ∀ c ∈ name.toList, c.toNat < 0x80) :
    (∀ out, out = (underscore name).toList ↔ ∃ acronyms words, acronymEnd.Substitutes name.toList acronyms
        ∧ wordEnd.Substitutes acronyms words ∧ out = words.map lowered)
      ∧ (underscore name).toList = (cutAtStarts name.toList).map lowered
      ∧ (underscore name).toList.filter Char.isAlphanum = (name.toList.filter Char.isAlphanum).map Char.toLower
      ∧ underscore (underscore name) = underscore name := by
  have passes : (underscore name).toList = (cutWords none (cutAcronyms none name.toList)).map lowered := by
    rw [underscore, String.toList_ofList, underscoreChars_eq ascii]
  have allAscii := ascii_of_mem_cut ascii
  refine ⟨fun out => ?substitutions, ?rule, ?letters, ?again⟩
  case substitutions =>
    rw [passes]
    constructor
    · rintro rfl
      exact ⟨_, _, acronymEnd_cutter.substitutes _, wordEnd_cutter.substitutes _, rfl⟩
    · rintro ⟨acronyms, words, first, second, rfl⟩
      rw [wordEnd_cutter.substitutes_iff.1 second, acronymEnd_cutter.substitutes_iff.1 first]
  case rule => rw [passes, cutWords_cutAcronyms_eq ascii]
  case letters =>
    obtain ⟨middle, first, second⟩ := exists_cut name.toList
    rw [passes, filter_map_lowered allAscii, second.filter (by decide), first.filter (by decide)]
  case again =>
    have plain : ∀ c ∈ (underscore name).toList, ¬ (isCapital c ∨ c = '-') := by
      rw [passes]
      exact List.forall_mem_map.2 fun c mem => (lowered_spec (allAscii c mem)).2.2.2.2
    rw [underscore, underscoreChars_of_plain plain, String.ofList_toList]

/-- A name with runs of capitals and digits: a digit ends a word before a capital, and belongs to the acronym before a
    capitalised word. -/
theorem underscore_is_local_runs :
    underscore "XMLUrl2B4Go-60FPS" = "xml_url2_b4_go_60_fps"
      ∧ cutAtStarts "XMLUrl2B4Go-60FPS".toList = "XML_Url2_B4_Go-60_FPS".toList
      ∧ underscore (underscore "XMLUrl2B4Go-60FPS") = "xml_url2_b4_go_60_fps" := by
  have ascii : ∀ c ∈ "XMLUrl2B4Go-60FPS".toList, c.toNat < 0x80 := by simp
  obtain ⟨-, -, -, again⟩ := underscore_is_local ascii
  have spelled : underscore "XMLUrl2B4Go-60FPS" = "xml_url2_b4_go_60_fps" := by decide +kernel
  exact ⟨spelled, by decide +kernel, again.trans spelled⟩

end OperationClasses.Naming
