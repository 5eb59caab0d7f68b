/-
Module: OperationClasses.Proofs.Conversion.Phrases
Purpose: The phrases that conversions are written in, and what they read as: names, guards for a missing value,
  comprehensions on one line and on several, copies, and the lines of a body.
Main exports: Code.ReadsAs.name, Code.ReadsAs.unlessNone, Code.ReadsAs.each, Code.ReadsAs.eachOnLines,
  Code.ReadsAs.copy, Code.ReadsLines, Code.ReadsLines.guard
-/
import OperationClasses.Proofs.Conversion.Composition

namespace OperationClasses.Code

variable {flat : Bool} {text more : String} {trees others : List Tree} {base : State}

open State

/-! ### Words and spaces -/

theorem run_word {before word : List Char} (within : base.mode = .plain before)
    (chars : ∀ c ∈ word, Text.isIdentifierContinue c) :
    run flat base word = { base with mode := .plain (word.reverse ++ before) } := by
  induction word generalizing base before with
  | nil =>
    cases base
    cases within
    rfl
  | cons c rest ih =>
    obtain ⟨own, others⟩ := List.forall_mem_cons.1 chars
    have stepped : step flat base c = { base with mode := .plain (c :: before) } := by
      rw [step, within]
      exact if_pos own
    change run flat (step flat base c) rest = _
    rw [stepped, ih rfl others, List.reverse_cons, List.append_assoc]
    rfl

/-- An identifier reads as the word it is. -/
theorem ReadsAs.name (written : Naming.isIdentifier text) : ReadsAs flat text [.word text] := by
  obtain ⟨some_, chars⟩ : text.toList ≠ [] ∧ ∀ c ∈ text.toList, Text.isIdentifierContinue c := by
    unfold Naming.isIdentifier at written
    split at written
    · cases written
    · rename_i c rest chars
      obtain ⟨first, others⟩ := Bool.and_eq_true_iff.1 written
      rw [chars]
      refine ⟨List.cons_ne_nil c rest, List.forall_mem_cons.2 ⟨?_, List.all_eq_true.1 others⟩⟩
      rw [Text.isIdentifierContinue, first, Bool.true_or]
  obtain ⟨last, init, reversed⟩ := List.exists_cons_of_ne_nil (List.reverse_ne_nil_iff.2 some_)
  have word : String.ofList (last :: init).reverse = text := by
    rw [← reversed, List.reverse_reverse, String.ofList_toList]
  rw [ReadsAs, run_word rfl chars, List.append_nil, reversed]
  exact congrArg (fun word => resting.push (.word word)) word

/-- Two texts with a space between them read as what the one and then the other reads as. -/
theorem ReadsAs.space (h : ReadsAs flat text trees) (h' : ReadsAs flat more others) :
    ReadsAs flat (text ++ " " ++ more) (trees ++ others) := by
  have chars : (text ++ " " ++ more).toList = text.toList ++ ' ' :: more.toList := by simp
  rw [ReadsAs, chars, h.run_append rfl (by decide)]
  change (run flat (resting.add trees) more.toList).flush = _
  rw [h'.flush_run rfl, add_add]

/-! ### Brackets -/

/-- The state after an opening bracket. -/
def State.enter (s : State) (bracket : Char) : State := { s with items := .opened bracket :: s.items }

theorem close_trees {bracket : Char} (inside : List Tree) (items : List Item) :
    Item.close bracket inside (trees.map .tree ++ .opened bracket :: items)
      = some (.tree (.group bracket (trees.reverse ++ inside)) :: items) := by
  induction trees generalizing inside with
  | nil => simp [Item.close]
  | cons t rest ih => simp [Item.close, ih]

theorem close_enter {bracket : Char} :
    ((base.enter bracket).add trees).close bracket = base.add [.group bracket trees] := by
  have items : ((base.enter bracket).add trees).items
      = (trees.reverse.map Item.tree) ++ .opened bracket :: base.items := by
    simp [State.add, enter]
  rw [State.close, items, close_trees]
  simp [State.add, enter]

/-- The brackets of the phrases and what closes them. -/
def isPair (bracket closing : Char) : Prop := (bracket, closing) = ('(', ')') ∨ (bracket, closing) = ('[', ']')

theorem step_open {bracket closing : Char} (pair : isPair bracket closing) (rests : base.mode = .plain []) :
    step flat base bracket = base.enter bracket := by
  cases base
  cases rests
  rcases pair with pair | pair <;> cases pair <;> rfl

theorem step_close {bracket closing : Char} (pair : isPair bracket closing) (rests : base.mode = .plain []) :
    step flat ((base.enter bracket).add trees) closing = base.add [.group bracket trees] := by
  rw [← close_enter]
  cases base
  cases rests
  rcases pair with pair | pair <;> cases pair <;> rfl

theorem isBreak_closing {bracket closing : Char} (pair : isPair bracket closing) : isBreak closing := by
  rcases pair with pair | pair <;> cases pair <;> decide

/-- A text between brackets on one line is one piece. -/
theorem ReadsAs.run_group {bracket closing : Char} (h : ReadsAs flat text trees) (pair : isPair bracket closing)
    (rests : base.mode = .plain []) :
    run flat base (bracket :: (text.toList ++ [closing])) = base.add [.group bracket trees] := by
  have entered : (base.enter bracket).mode = .plain [] := rests
  change run flat (step flat base bracket) _ = _
  rw [step_open pair rests, h.run_append entered (isBreak_closing pair)]
  exact step_close pair rests

/-- A newline between brackets is a blank. -/
theorem step_newline {bracket : Char} (rests : base.mode = .plain []) :
    step flat ((base.enter bracket).add trees) '\n' = (base.enter bracket).add trees := by
  have opened : ((base.enter bracket).add trees).items.any Item.isOpened := by
    simp [State.add, enter, Item.isOpened]
  cases base
  cases rests
  exact if_pos opened

/-- Two texts between brackets, each of them indented on lines of its own, are one piece. -/
theorem ReadsAs.run_groupLines {bracket closing : Char} (h : ReadsAs true text trees) (h' : ReadsAs true more others)
    (pair : isPair bracket closing) (rests : base.mode = .plain []) :
    run true base (bracket :: '\n' :: ((Text.indent 1 text).toList ++ '\n' :: ((Text.indent 1 more).toList
      ++ ['\n', closing]))) = base.add [.group bracket (trees ++ others)] := by
  have entered (trees : List Tree) : ((base.enter bracket).add trees).mode = .plain [] := rests
  calc run true base (bracket :: '\n' :: ((Text.indent 1 text).toList ++ '\n' :: ((Text.indent 1 more).toList
          ++ ['\n', closing])))
      = run true (step true (step true base bracket) '\n') ((Text.indent 1 text).toList
          ++ '\n' :: ((Text.indent 1 more).toList ++ ['\n', closing])) := rfl
    _ = run true (base.enter bracket) (text.toList ++ '\n' :: ((Text.indent 1 more).toList ++ ['\n', closing])) := by
      have blank : step true ((base.enter bracket).add []) '\n' = (base.enter bracket).add [] := step_newline rests
      have nothing : (base.enter bracket).add [] = base.enter bracket := rfl
      have rests' : (base.enter bracket).mode = .plain [] := rests
      rw [step_open pair rests, ← nothing, blank, nothing, Code.run_append, h.run_indent rests',
        ← Code.run_append]
    _ = run true (step true ((base.enter bracket).add trees) '\n') ((Text.indent 1 more).toList ++ ['\n', closing]) :=
      h.run_append (entered []) (c := '\n') (by decide) _
    _ = run true ((base.enter bracket).add trees) (more.toList ++ ['\n', closing]) := by
      rw [step_newline rests, Code.run_append, h'.run_indent (entered trees), ← Code.run_append]
    _ = run true (step true (((base.enter bracket).add trees).add others) '\n') [closing] :=
      h'.run_append (entered trees) (c := '\n') (by decide) _
    _ = base.add [.group bracket (trees ++ others)] := by
      rw [add_add, step_newline rests]
      exact step_close pair rests

/-! ### The phrases -/

variable {binding element inner : String} {source body : List Tree}

/-- Some code unless a value is missing. -/
def Tree.unlessNone (source body : List Tree) : List Tree :=
  [.word "None", .word "if"] ++ source ++ [.word "is", .word "None", .word "else"] ++ body

/-- A list with one item for each item of a source. -/
def Tree.each (element : String) (source body : List Tree) : List Tree :=
  [.group '[' (body ++ ([.word "for", .word element, .word "in"] ++ source))]

/-- A list with the items of a source. -/
def Tree.copy (source : List Tree) : List Tree := [.word "list", .group '(' source]

theorem ReadsAs.unlessNone (h : ReadsAs flat binding source) (h' : ReadsAs flat inner body) :
    ReadsAs flat ("None if " ++ binding ++ " is None else " ++ inner) (Tree.unlessNone source body) := by
  have opens : ReadsAs flat "None if" [.word "None", .word "if"] := by rfl
  have closes : ReadsAs flat "is None else" [.word "is", .word "None", .word "else"] := by rfl
  have text : "None if " ++ binding ++ " is None else " ++ inner
      = "None if" ++ " " ++ binding ++ " " ++ "is None else" ++ " " ++ inner := by
    rw [← String.toList_inj]
    simp
  rw [text]
  exact ((opens.space h).space closes).space h'

/-- What a comprehension takes its items from. -/
theorem ReadsAs.clause (written : Naming.isIdentifier element) (h : ReadsAs flat binding source) :
    ReadsAs flat ("for " ++ element ++ " in " ++ binding) ([.word "for", .word element, .word "in"] ++ source) := by
  have opens : ReadsAs flat "for" [.word "for"] := by rfl
  have middle : ReadsAs flat "in" [.word "in"] := by rfl
  have text : "for " ++ element ++ " in " ++ binding
      = "for" ++ " " ++ element ++ " " ++ "in" ++ " " ++ binding := by
    rw [← String.toList_inj]
    simp
  rw [text]
  exact ((opens.space (.name written)).space middle).space h

theorem ReadsAs.each (written : Naming.isIdentifier element) (h : ReadsAs flat binding source)
    (h' : ReadsAs flat inner body) :
    ReadsAs flat ("[" ++ inner ++ " for " ++ element ++ " in " ++ binding ++ "]") (Tree.each element source body) := by
  have text : ("[" ++ inner ++ " for " ++ element ++ " in " ++ binding ++ "]").toList
      = '[' :: ((inner ++ " " ++ ("for " ++ element ++ " in " ++ binding)).toList ++ [']']) := by
    simp
  rw [ReadsAs, text, (h'.space (h.clause written)).run_group (.inr rfl) rfl]
  rfl

theorem ReadsAs.eachOnLines (written : Naming.isIdentifier element) (h : ReadsAs true binding source)
    (h' : ReadsAs true inner body) :
    ReadsAs true (Text.unlines ["[", Text.indent 1 inner, Text.indent 1 ("for " ++ element ++ " in " ++ binding), "]"])
      (Tree.each element source body) := by
  have text : (Text.unlines ["[", Text.indent 1 inner, Text.indent 1 ("for " ++ element ++ " in " ++ binding),
      "]"]).toList
      = '[' :: '\n' :: ((Text.indent 1 inner).toList ++ '\n' :: ((Text.indent 1 ("for " ++ element ++ " in "
        ++ binding)).toList ++ ['\n', ']'])) := by
    simp [Text.unlines]
  rw [ReadsAs, text, h'.run_groupLines (h.clause written) (.inr rfl) rfl]
  rfl

theorem ReadsAs.copy (h : ReadsAs flat binding source) :
    ReadsAs flat ("list(" ++ binding ++ ")") (Tree.copy source) := by
  have text : ("list(" ++ binding ++ ")").toList = "list".toList ++ '(' :: (binding.toList ++ [')']) := by simp
  have list_ : ReadsAs flat "list" [.word "list"] := by rfl
  rw [ReadsAs, text, list_.run_append rfl (by decide), h.run_group (.inl rfl) rfl, add_add]
  rfl

/-! ### Lines -/

/-- A text that reads as some lines, after any other lines. -/
def ReadsLines (flat : Bool) (text : String) (lines : List Line) : Prop :=
  ∀ earlier, (run flat { start with lines := earlier } text.toList).finish
    = { start with lines := lines.reverse ++ earlier }

theorem finish_stuck (stuck : base.mode = .stuck) : base.finish = base := by
  rw [finish, flush, stuck]
  dsimp only
  rw [stuck]

theorem ReadsLines.lines? {lines : List Line} (h : ReadsLines false text lines) : Code.lines? text = some lines := by
  have finished : (run false start text.toList).finish = { start with lines := lines.reverse ++ [] } := h []
  rw [Code.lines?, finished]
  simp [start]

/-- Lines without literals that span lines read the same when such literals are allowed. -/
theorem ReadsLines.of_flat {lines : List Line} (h : ReadsLines true text lines) : ReadsLines false text lines := by
  intro earlier
  have finished := h earlier
  have free : (run true { start with lines := earlier } text.toList).mode ≠ .stuck := by
    intro stuck
    rw [finish_stuck stuck] at finished
    rw [finished] at stuck
    cases stuck
  rw [run_of_flat free, finished]

/-- The trees of a line that is ended are its own. -/
theorem newline_add {lines : List Line} :
    (({ resting with lines } : State).add trees).newline = { start with lines := ⟨false, trees⟩ :: lines } := by
  have none_ : ¬ (({ resting with lines } : State).add trees).items.any Item.isOpened := by
    simp [State.add, resting, Item.isOpened]
  have own : ((({ resting with lines } : State).add trees).items.filterMap Item.tree?).reverse = trees := by
    have kept : trees.reverse.filterMap (Item.tree? ∘ Item.tree) = trees.reverse := List.filterMap_some
    simp only [State.add, resting, List.append_nil]
    rw [← List.map_reverse, List.filterMap_map, kept, List.reverse_reverse]
  rw [newline, if_neg none_, own]
  rfl

/-- A returned value is one line. -/
theorem ReadsLines.return (h : ReadsAs flat text trees) :
    ReadsLines flat ("return " ++ text) [⟨false, .word "return" :: trees⟩] := by
  intro earlier
  have chars : ("return " ++ text).toList = "return ".toList ++ text.toList := String.toList_append
  have begun : run flat { start with lines := earlier } "return ".toList
      = ({ resting with lines := earlier } : State).add [.word "return"] := rfl
  rw [chars, run_append, begun, State.finish, h.flush_run rfl, add_add]
  exact newline_add

/-- A guard is two lines before the lines that handle what is there. -/
theorem ReadsLines.guard {lines : List Line} (h : ReadsAs flat binding source) (h' : ReadsLines flat text lines) :
    ReadsLines flat ("if " ++ binding ++ " is None:\n    return None\n" ++ text)
      (⟨false, .word "if" :: source ++ [.word "is", .word "None", .mark ':']⟩
        :: ⟨true, [.word "return", .word "None"]⟩ :: lines) := by
  intro earlier
  have chars : ("if " ++ binding ++ " is None:\n    return None\n" ++ text).toList
      = "if ".toList ++ (binding.toList ++ ' ' :: ("is None:".toList ++ '\n' :: ("    return None\n".toList
        ++ text.toList))) := by
    simp
  have begun : run flat { start with lines := earlier } "if ".toList
      = ({ resting with lines := earlier } : State).add [.word "if"] := rfl
  have test (base : State) (rests : base.mode = .plain []) : run flat base " is None:".toList
      = base.add [.word "is", .word "None", .mark ':'] := by
    cases base
    cases rests
    rfl
  have returned (lines : List Line) : run flat { start with lines } "    return None\n".toList
      = { start with lines := ⟨true, [.word "return", .word "None"]⟩ :: lines } := rfl
  have ended (trees : List Tree) (rest : List Char) :
      run flat (({ resting with lines := earlier } : State).add trees) ('\n' :: rest)
        = run flat { start with lines := ⟨false, trees⟩ :: earlier } rest := by
    rw [← newline_add]
    rfl
  rw [chars, run_append, begun, h.run_append rfl (by decide), add_add]
  change (run flat _ (" is None:".toList ++ '\n' :: ("    return None\n".toList ++ text.toList))).finish = _
  rw [run_append, test _ rfl, add_add, ended, run_append, returned, h']
  simp

end OperationClasses.Code
