/-
Module: OperationClasses.Proofs.Conversion.Composition
Purpose: How the reading of a text follows from the readings of its pieces. A piece that is complete on its own line
  reads the same in the middle of any line, between any brackets, after any other lines, and with its lines
  indented.
Main exports: Code.run_inside, Code.ReadsAs.flush_run, Code.ReadsAs.run_append, Code.ReadsAs.run_indent
-/
import OperationClasses.Proofs.Conversion.Reading

namespace OperationClasses.Code

variable {flat : Bool} {s base : State} {c : Char}

/-! ### What reading never takes back -/

/-- Whether a reader is at the start of a line. -/
def Mode.isLineStart : Mode → Bool
  | .lineStart _ => true
  | _ => false

namespace State

/-- What has been ended stays so, and only the end of a line leads to the start of one. -/
structure Extends (s t : State) : Prop where
  lines : s.lines.length ≤ t.lines.length
  begun : s.mode.isLineStart = false → t.lines.length = s.lines.length → t.mode.isLineStart = false

theorem Extends.refl (s : State) : s.Extends s := ⟨Nat.le_refl _, fun begun _ => begun⟩

theorem Extends.trans {s t u : State} (h : s.Extends t) (h' : t.Extends u) : s.Extends u where
  lines := h.lines.trans h'.lines
  begun begun same := by
    have first := h.lines
    have second := h'.lines
    exact h'.begun (h.begun begun (by omega)) (by omega)

/-- A step inside a line. -/
theorem extends_on_line {s t : State} (lines : t.lines = s.lines)
    (begun : t.mode.isLineStart = false) : s.Extends t :=
  ⟨lines ▸ Nat.le_refl _, fun _ _ => begun⟩

theorem extends_flush (s : State) : s.Extends s.flush := by
  unfold flush
  split
  · exact extends_on_line rfl rfl
  · exact extends_on_line rfl rfl
  · exact .refl s

theorem extends_newline (s : State) : s.Extends s.newline := by
  unfold newline
  split
  · exact extends_on_line rfl rfl
  · exact ⟨Nat.le_succ _, fun _ same => absurd same (Nat.succ_ne_self _)⟩

theorem extends_close (s : State) (bracket : Char) : s.Extends (s.close bracket) := by
  unfold close
  split
  · exact ⟨Nat.le_refl _, fun begun _ => begun⟩
  · exact extends_on_line rfl rfl

theorem extends_delimiter (s : State) (c : Char) : s.Extends (s.delimiter c) := by
  unfold delimiter
  split
  · exact .refl s
  split
  · exact extends_newline s
  split
  · exact extends_on_line rfl rfl
  split
  · exact extends_on_line rfl rfl
  split
  · exact ⟨Nat.le_refl _, fun begun _ => begun⟩
  split
  · exact extends_close s _
  · exact extends_on_line rfl rfl

theorem extends_plainStep (s : State) (word : List Char) (c : Char) : s.Extends (s.plainStep word c) := by
  unfold plainStep
  repeat' split
  · exact extends_on_line rfl rfl
  · exact extends_on_line rfl rfl
  · exact (extends_flush s).trans (extends_on_line rfl rfl)
  · exact (extends_flush s).trans (extends_delimiter _ c)

theorem extends_quotedStep (s : State) (letters : List Char) (double long : Bool) (content : List Char)
    (closing : Nat) (escaped : Bool) (c : Char) :
    s.Extends (s.quotedStep flat letters double long content closing escaped c) := by
  unfold quotedStep
  repeat' split
  all_goals exact extends_on_line rfl rfl

end State

open State

theorem extends_step (s : State) (c : Char) : s.Extends (step flat s c) := by
  unfold step
  split
  · rename_i indented at_
    have outside (P : Prop) (begun : s.mode.isLineStart = false) : P := by
      rw [at_] at begun
      cases begun
    split
    · exact ⟨Nat.le_refl _, fun begun _ => outside _ begun⟩
    split
    · exact ⟨Nat.le_refl _, fun begun _ => outside _ begun⟩
    · have on := extends_plainStep { s with indented, mode := .plain [] } [] c
      exact ⟨on.lines, fun begun _ => outside _ begun⟩
  · exact extends_plainStep s _ c
  · split
    · exact extends_newline s
    · exact .refl s
  · repeat' split
    all_goals first | exact .refl s | exact extends_on_line rfl rfl
  · split
    · exact extends_on_line rfl rfl
    · exact extends_quotedStep ..
  · split
    · exact extends_on_line rfl rfl
    · exact (extends_flush s).trans (extends_plainStep _ _ c)
  · exact extends_quotedStep ..
  · exact .refl s

theorem extends_run (s : State) (text : List Char) : s.Extends (run flat s text) := by
  induction text generalizing s with
  | nil => exact .refl s
  | cons c rest ih => exact (extends_step s c).trans (ih (step flat s c))

/-- Reading has met nothing that it stops at, and the end of at most so many lines. -/
structure Clean (n : Nat) (s : State) : Prop where
  lines : s.lines.length ≤ n
  free : s.mode ≠ .stuck

theorem Clean.of_step {n : Nat} (h : Clean n (step flat s c)) : Clean n s where
  lines := (extends_step s c).lines.trans h.lines
  free stuck := h.free (by rw [step, stuck]; exact stuck)

theorem Clean.of_run {n : Nat} {text : List Char} (h : Clean n (run flat s text)) : Clean n s := by
  induction text generalizing s with
  | nil => exact h
  | cons c rest ih => exact (ih h).of_step

/-- Reading that ends no line leaves their number as it is. -/
theorem Clean.kept {text : List Char} (h : Clean s.lines.length (run flat s text)) :
    (run flat s text).lines.length = s.lines.length :=
  Nat.le_antisymm h.lines (extends_run s text).lines

/-! ### A text inside other code -/

/-- The state of a reader that has come to `s` from the middle of a line where it was at `base`. -/
def State.inside (base s : State) : State :=
  { lines := base.lines, indented := base.indented, items := s.items ++ base.items, mode := s.mode }

/-- The reader is in the first line that it reads, after its start. -/
structure Midline (s : State) : Prop where
  first : s.lines = []
  begun : s.mode.isLineStart = false

theorem close_append {bracket : Char} {trees : List Tree} {items out : List Item} (more : List Item)
    (h : Item.close bracket trees items = some out) :
    Item.close bracket trees (items ++ more) = some (out ++ more) := by
  induction items generalizing trees with
  | nil => cases h
  | cons item rest ih =>
    cases item with
    | tree t => exact ih h
    | opened own =>
      simp only [Item.close] at h
      split at h
      · rename_i same
        simp only [List.cons_append, Item.close, if_pos same]
        cases h
        rfl
      · cases h

theorem inside_flush (base s : State) : (base.inside s).flush = base.inside s.flush := by
  unfold flush
  simp only [inside]
  split <;> rfl

theorem inside_newline (clean : Clean 0 s.newline) : (base.inside s).newline = base.inside s.newline := by
  have opened : s.items.any Item.isOpened := by
    by_contra none_
    have := clean.lines
    rw [newline, if_neg none_] at this
    exact absurd this (Nat.not_succ_le_zero _)
  have opened' : (base.inside s).items.any Item.isOpened := by
    simp only [inside, List.any_append, opened, Bool.true_or]
  rw [newline, newline, if_pos opened, if_pos opened']
  rfl

theorem inside_close {bracket : Char} (clean : Clean 0 (s.close bracket)) :
    (base.inside s).close bracket = base.inside (s.close bracket) := by
  cases closed : Item.close bracket [] s.items with
  | none =>
    have stuck : (s.close bracket).mode = .stuck := by rw [close, closed]
    exact absurd stuck clean.free
  | some items =>
    have closed' : Item.close bracket [] (base.inside s).items = some (items ++ base.items) := close_append _ closed
    rw [close, close, closed, closed']
    rfl

theorem inside_delimiter (clean : Clean 0 (s.delimiter c)) :
    (base.inside s).delimiter c = base.inside (s.delimiter c) := by
  unfold delimiter at clean ⊢
  split
  · rfl
  split
  · rename_i space newline_
    rw [if_neg space, if_pos newline_] at clean
    exact inside_newline clean
  split
  · rfl
  split
  · rfl
  split
  · rfl
  rename_i space newline_ hash slash opening
  rw [if_neg space, if_neg newline_, if_neg hash, if_neg slash, if_neg opening] at clean
  split
  · rename_i bracket own
    rw [own] at clean
    exact inside_close clean
  · rfl

theorem inside_plainStep {word : List Char} (clean : Clean 0 (s.plainStep word c)) :
    (base.inside s).plainStep word c = base.inside (s.plainStep word c) := by
  unfold plainStep at clean ⊢
  split
  · rfl
  split
  · split
    · rfl
    · rw [inside_flush]
      rfl
  · rename_i continue_ quote
    rw [if_neg continue_, if_neg quote] at clean
    rw [inside_flush, inside_delimiter clean]

theorem inside_quotedStep {letters content : List Char} {double long escaped : Bool} {closing : Nat} :
    (base.inside s).quotedStep flat letters double long content closing escaped c
      = base.inside (s.quotedStep flat letters double long content closing escaped c) := by
  unfold quotedStep
  repeat' split
  all_goals rfl

/-- One step inside other code is the step that is made apart from it. -/
theorem step_inside (mid : Midline s) (clean : Clean 0 (step flat s c)) :
    step flat (base.inside s) c = base.inside (step flat s c) := by
  unfold step at clean ⊢
  have mode : (base.inside s).mode = s.mode := rfl
  rw [mode]
  cases at_ : s.mode with
  | lineStart indented =>
    have begun := mid.begun
    rw [at_] at begun
    cases begun
  | plain word =>
    rw [at_] at clean
    exact inside_plainStep clean
  | comment =>
    rw [at_] at clean
    dsimp only at clean ⊢
    split
    · rename_i newline_
      rw [if_pos newline_] at clean
      exact inside_newline clean
    · rfl
  | continued =>
    dsimp only
    repeat' split
    all_goals rfl
  | opening letters double two =>
    rw [at_] at clean
    cases two with
    | false =>
      dsimp only at clean ⊢
      split
      · rfl
      · exact inside_quotedStep
    | true =>
      dsimp only at clean ⊢
      split
      · rfl
      · rename_i other
        rw [if_neg other] at clean
        rw [inside_flush, inside_plainStep clean]
  | quoted letters double long content closing escaped => exact inside_quotedStep
  | stuck => rfl

theorem Midline.step (mid : Midline s) (clean : Clean 0 (step flat s c)) : Midline (step flat s c) where
  first := List.eq_nil_of_length_eq_zero (Nat.le_zero.1 clean.lines)
  begun := by
    refine (extends_step s c).begun mid.begun ?_
    rw [mid.first]
    exact Nat.le_zero.1 clean.lines

/-- Reading a text inside other code is reading it apart from that code. -/
theorem run_inside {text : List Char} (mid : Midline s) (clean : Clean 0 (run flat s text)) :
    run flat (base.inside s) text = base.inside (run flat s text) := by
  induction text generalizing s with
  | nil => rfl
  | cons c rest ih =>
    have later : Clean 0 (run flat (step flat s c) rest) := clean
    have clean' := later.of_run
    change run flat (step flat (base.inside s) c) rest = _
    rw [step_inside mid clean']
    exact ih (mid.step clean') clean

/-! ### Texts that are complete on their line -/

variable {text : String} {trees : List Tree}

theorem flush_eq_self (h : base.mode = .plain []) : base.flush = base := by
  rw [flush, h]

theorem inside_resting (h : base.mode = .plain []) : base.inside resting = base := by
  cases base
  cases h
  rfl

theorem inside_add (h : base.mode = .plain []) : base.inside (resting.add trees) = base.add trees := by
  cases base
  cases h
  simp [State.inside, State.add, resting]

theorem State.add_add (base : State) (trees more : List Tree) :
    (base.add trees).add more = base.add (trees ++ more) := by
  simp [State.add]

@[simp] theorem State.add_mode (base : State) (trees : List Tree) : (base.add trees).mode = base.mode := rfl

/-- A flushed state that is clean was clean before. -/
theorem Clean.of_flush {n : Nat} (h : Clean n s.flush) : Clean n s where
  lines := (extends_flush s).lines.trans h.lines
  free stuck := h.free (by rw [flush, stuck]; exact stuck)

theorem ReadsAs.clean (h : ReadsAs flat text trees) : Clean 0 (run flat resting text.toList) := by
  refine Clean.of_flush ?_
  rw [h]
  exact ⟨Nat.le_refl _, nofun⟩

/-- What a text reads as is added to any line that goes on with it. -/
theorem ReadsAs.flush_run (h : ReadsAs flat text trees) (rests : base.mode = .plain []) :
    (run flat base text.toList).flush = base.add trees := by
  have mid : Midline resting := ⟨rfl, rfl⟩
  calc (run flat base text.toList).flush
      = (run flat (base.inside resting) text.toList).flush := by rw [inside_resting rests]
    _ = base.inside (run flat resting text.toList).flush := by rw [run_inside mid h.clean, inside_flush]
    _ = base.add trees := by rw [h, inside_add rests]

/-- A character that ends what came before it: it goes on with no word and no literal. -/
def isBreak (c : Char) : Bool := !Text.isIdentifierContinue c && !TextLiteral.isQuote c

theorem not_quoteOf (h : isBreak c) (double : Bool) : c ≠ quoteOf double := by
  rintro rfl
  revert h
  cases double <;> decide

theorem step_flush (h : s.flush.mode = .plain []) (break_ : isBreak c) : step flat s.flush c = step flat s c := by
  have continues : ¬ Text.isIdentifierContinue c := by
    intro continues
    simp [isBreak, continues] at break_
  have quotes : ¬ TextLiteral.isQuote c := by
    intro quotes
    simp [isBreak, quotes] at break_
  have plain (t : State) (word : List Char) : t.plainStep word c = t.flush.delimiter c := by
    rw [plainStep, if_neg continues, if_neg quotes]
  have flushed : step flat s.flush c = s.flush.delimiter c := by
    rw [step, h]
    dsimp only
    rw [plain, flush_eq_self h]
  rw [flushed]
  cases at_ : s.mode with
  | plain word =>
    rw [step, at_]
    exact (plain s word).symm
  | opening letters double two =>
    cases two with
    | true =>
      rw [step, at_]
      dsimp only
      rw [if_neg (not_quoteOf break_ double), plain, flush_eq_self h]
    | false =>
      rw [flush, at_] at h
      cases at_.symm.trans h
  | _ =>
    rw [flush, at_] at h
    cases at_.symm.trans h

theorem run_append (s : State) (text rest : List Char) : run flat s (text ++ rest) = run flat (run flat s text) rest :=
  List.foldl_append ..

/-- After what a text reads as, reading goes on at any character that ends it. -/
theorem ReadsAs.run_append (h : ReadsAs flat text trees) (rests : base.mode = .plain []) (break_ : isBreak c)
    (rest : List Char) : run flat base (text.toList ++ c :: rest) = run flat (base.add trees) (c :: rest) := by
  have flushed := h.flush_run rests
  rw [Code.run_append]
  change run flat (step flat (run flat base text.toList) c) rest = run flat (step flat (base.add trees) c) rest
  rw [← flushed, step_flush (flushed ▸ rests) break_]

/-! ### Literals on one line -/

theorem quotedStep_of_flat {letters content : List Char} {double long escaped : Bool} {closing : Nat}
    (free : (s.quotedStep true letters double long content closing escaped c).mode ≠ .stuck) :
    s.quotedStep false letters double long content closing escaped c
      = s.quotedStep true letters double long content closing escaped c := by
  have inside : isNewline c = false := by
    by_contra newline_
    rw [Bool.not_eq_false] at newline_
    rw [quotedStep, newline_] at free
    exact free rfl
  simp only [quotedStep, inside, Bool.and_false, Bool.false_eq_true, if_false]

theorem step_of_flat (free : (step true s c).mode ≠ .stuck) : step false s c = step true s c := by
  cases at_ : s.mode with
  | opening letters double two =>
    cases two with
    | true => rw [step, step, at_]
    | false =>
      unfold step at free ⊢
      rw [at_] at free ⊢
      dsimp only at free ⊢
      split
      · rfl
      · rename_i other
        rw [if_neg other] at free
        exact quotedStep_of_flat free
  | quoted letters double long content closing escaped =>
    unfold step at free ⊢
    rw [at_] at free ⊢
    exact quotedStep_of_flat free
  | _ => rw [step, step, at_]

/-- A reader that does not stop at literals that span lines reads all that one that stops at them reads. -/
theorem run_of_flat {text : List Char} (free : (run true s text).mode ≠ .stuck) :
    run false s text = run true s text := by
  induction text generalizing s with
  | nil => rfl
  | cons c rest ih =>
    have later : Clean (run true (step true s c) rest).lines.length (run true (step true s c) rest) :=
      ⟨Nat.le_refl _, free⟩
    change run false (step false s c) rest = run true (step true s c) rest
    rw [step_of_flat later.of_run.free, ih free]

/-! ### Indentation -/

theorem newline_mode (clean : Clean s.lines.length s.newline) : s.newline.mode = .plain [] := by
  have opened : s.items.any Item.isOpened := by
    by_contra none_
    have := clean.lines
    rw [newline, if_neg none_] at this
    exact absurd this (Nat.not_succ_le_self _)
  rw [newline, if_pos opened]

theorem flush_lines (s : State) : s.flush.lines = s.lines := by
  unfold flush
  split <;> rfl

/-- After a newline that ends no line and is in no literal, a reader is between two pieces. -/
theorem newline_rests (begun : s.mode.isLineStart = false)
    (clean : Clean s.lines.length (step true s '\n')) : (step true s '\n').mode = .plain [] := by
  have plain (t : State) (word : List Char) (kept : t.lines = s.lines)
      (stepped : step true s '\n' = t.plainStep word '\n') : (step true s '\n').mode = .plain [] := by
    have ended : t.plainStep word '\n' = t.flush.newline := rfl
    rw [stepped, ended] at clean ⊢
    refine newline_mode ?_
    rwa [flush_lines, kept]
  have quoted (letters content : List Char) (double long escaped : Bool) (closing : Nat)
      (stepped : step true s '\n' = s.quotedStep true letters double long content closing escaped '\n') :
      (step true s '\n').mode = .plain [] := by
    rw [stepped] at clean
    exact absurd rfl clean.free
  cases at_ : s.mode with
  | lineStart indented =>
    rw [at_] at begun
    cases begun
  | plain word => exact plain s word rfl (by rw [step, at_])
  | comment =>
    have stepped : step true s '\n' = s.newline := by
      rw [step, at_]
      rfl
    rw [stepped] at clean ⊢
    exact newline_mode clean
  | continued =>
    rw [step, at_]
    rfl
  | opening letters double two =>
    have other : '\n' ≠ quoteOf double := not_quoteOf (by decide) double
    cases two with
    | false =>
      refine quoted letters [] double false false 0 ?_
      rw [step, at_]
      exact if_neg other
    | true =>
      refine plain s.flush [] (flush_lines s) ?_
      rw [step, at_]
      exact if_neg other
  | quoted letters double long content closing escaped =>
    exact quoted letters content double long escaped closing (by rw [step, at_])
  | stuck =>
    refine absurd ?_ clean.free
    rw [step, at_]
    exact at_

/-- Blanks between two pieces make no difference. -/
theorem run_replicate (rests : base.mode = .plain []) (k : Nat) : run flat base (List.replicate k ' ') = base := by
  induction k with
  | zero => rfl
  | succ k ih =>
    have stay : step flat base ' ' = base := by
      rw [step, rests]
      exact flush_eq_self rests
    rw [List.replicate_succ]
    change run flat (step flat base ' ') _ = base
    rw [stay, ih]

/-- A line with the blanks that indentation puts before it. -/
def indentedLine (line : List Char) : List Char :=
  if Text.isBlankText (String.ofList line) then line else List.replicate 4 ' ' ++ line

theorem run_indentedLine (rests : base.mode = .plain []) (line : List Char) :
    run flat base (indentedLine line) = run flat base line := by
  unfold indentedLine
  split
  · rfl
  · rw [run_append, run_replicate rests]

theorem toList_indent (text : String) :
    (Text.indent 1 text).toList = ['\n'].intercalate ((text.toList.splitOn '\n').map indentedLine) := by
  rw [Text.indent, Text.unlines, String.toList_intercalate, Text.lines, List.map_map, List.map_map]
  congr 1
  refine List.map_congr_left fun line _ => ?_
  simp only [Function.comp_apply, indentedLine]
  split
  · exact String.toList_ofList
  · rw [String.toList_append, String.toList_ofList]
    rfl

/-- Indenting the lines of a text makes no difference in the middle of a line, when the text ends no line and no
    literal spans lines. -/
theorem run_indentedLines {pieces : List (List Char)} (rests : base.mode = .plain [])
    (clean : Clean base.lines.length (run true base (['\n'].intercalate pieces))) :
    run true base (['\n'].intercalate (pieces.map indentedLine)) = run true base (['\n'].intercalate pieces) := by
  induction pieces generalizing base with
  | nil => rfl
  | cons line rest ih =>
    cases rest with
    | nil =>
      rw [List.map_singleton, List.intercalate_singleton, List.intercalate_singleton]
      exact run_indentedLine rests line
    | cons next rest =>
      rw [List.map_cons, List.map_cons, List.intercalate_cons_cons, List.intercalate_cons_cons, ← List.map_cons,
        List.append_assoc, List.append_assoc, run_append base (indentedLine line), run_append base line,
        run_indentedLine rests]
      rw [List.intercalate_cons_cons, List.append_assoc, run_append] at clean
      change run true (step true (run true base line) '\n') _ = run true (step true (run true base line) '\n') _
      have later : Clean base.lines.length
          (run true (step true (run true base line) '\n') (['\n'].intercalate (next :: rest))) := clean
      have clean' := later.of_run
      have same := clean'.of_step.kept
      have same' : (step true (run true base line) '\n').lines.length = base.lines.length :=
        Nat.le_antisymm clean'.lines (same ▸ (extends_step _ _).lines)
      refine ih (newline_rests ?_ (same ▸ clean')) (same' ▸ clean)
      exact (extends_run base line).begun (by rw [rests]; rfl) same

/-- What a text reads as is added to any line that goes on with it, also when its lines are indented. -/
theorem ReadsAs.run_indent (h : ReadsAs true text trees) (rests : base.mode = .plain []) :
    run true base (Text.indent 1 text).toList = run true base text.toList := by
  have clean : Clean base.lines.length (run true base text.toList) := by
    refine Clean.of_flush ?_
    rw [h.flush_run rests]
    exact ⟨Nat.le_refl _, by rw [State.add_mode, rests]; exact nofun⟩
  have whole_text : ['\n'].intercalate (text.toList.splitOn '\n') = text.toList := List.intercalate_splitOn _
  rw [toList_indent, run_indentedLines rests (whole_text.symm ▸ clean), whole_text]

end OperationClasses.Code
