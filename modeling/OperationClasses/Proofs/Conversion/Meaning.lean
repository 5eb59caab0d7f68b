/-
Module: OperationClasses.Proofs.Conversion.Meaning
Purpose: What the code of a conversion does: an independent evaluation of expressions and accessor bodies over the
  pieces they read as. Guards, comprehensions and copies are evaluated here; whatever else an expression says is up
  to the host that runs it.
Main exports: Code.Datum, Code.Host, Code.Expression, Code.Expression.eval, Code.Body, Code.Body.run,
  Code.Mentions, Code.eval_congr
-/
import OperationClasses.Proofs.Conversion.Phrases

namespace OperationClasses.Code

/-! ### Values, scopes and hosts -/

/-- A value: nothing, a list, or a value of any other kind. -/
inductive Datum (α : Type) where
  | none
  | list (items : List (Datum α))
  | other (value : α)
deriving Repr, Inhabited

/-- What the names in reach stand for. -/
abbrev Scope (α : Type) := String → Option (Datum α)

/-- Some code names something: as a word of its own, or inside a literal that is filled in. -/
inductive Mentions (name : String) : List Tree → Prop where
  | word {trees : List Tree} (mem : .word name ∈ trees) : Mentions name trees
  | filled {letters content : List Char} {double long : Bool} {trees : List Tree}
      (mem : .literal letters double long content ∈ trees) (fills : 'f' ∈ letters.map Char.toLower)
      (inside : name.toList <:+: content) : Mentions name trees
  | inside {bracket : Char} {inside trees : List Tree} (mem : .group bracket inside ∈ trees)
      (h : Mentions name inside) : Mentions name trees

/-- What runs the code. It evaluates the expressions that are no guards, comprehensions or copies, and nothing but
    the names that an expression mentions can make a difference to its value. -/
structure Host (α : Type) where
  /-- the value of an expression, if it has one -/
  value : List Tree → Scope α → Option (Datum α)
  /-- the items of a value that is no list -/
  items : α → Option (List (Datum α))
  /-- what calling a value with another one gives -/
  call : Datum α → Datum α → Option (Datum α)
  value_congr : ∀ trees σ σ', (∀ name, Mentions name trees → σ name = σ' name) → value trees σ = value trees σ'

/-! ### Expressions -/

/-- An expression as far as it is evaluated here. -/
inductive Expression where
  | other (trees : List Tree)
  | unlessNone (tested body : Expression)
  | each (element : String) (source body : Expression)
  | copy (source : Expression)
deriving Inhabited

namespace Tree

/-- Whether a piece can be part of an operand: names and their attributes, calls, subscripts and literals. -/
def isOperand : Tree → Bool
  | .word text => !Naming.keywords.contains text
  | .mark c => c == '.'
  | .literal .. => true
  | .group .. => true

/-- Whether a piece is a word. -/
def isWord (text : String) : Tree → Bool
  | .word own => own == text
  | _ => false

/-- Whether a piece is a mark. -/
def isMark (c : Char) : Tree → Bool
  | .mark own => own == c
  | _ => false

theorem isWord_of_isOperand {t : Tree} {text : String} (h : t.isOperand) (keyword : text ∈ Naming.keywords) :
    ¬ t.isWord text := by
  cases t with
  | word own =>
    intro same
    rw [isWord, beq_iff_eq] at same
    simp [isOperand, same, keyword] at h
  | _ => exact Bool.false_ne_true

theorem isMark_of_isOperand {t : Tree} {c : Char} (h : t.isOperand) (other : c ≠ '.') : ¬ t.isMark c := by
  cases t with
  | mark own =>
    intro same
    rw [isMark, beq_iff_eq] at same
    exact other (same ▸ beq_iff_eq.1 h)
  | _ => exact Bool.false_ne_true

end Tree

/-- Whether some pieces are an operand. -/
def isOperand (trees : List Tree) : Bool := !trees.isEmpty && trees.all Tree.isOperand

/-- Whether some pieces hold together after the starts of so many functions: no comma or colon outside the
    parameters of a function, and nothing that says where items come from. -/
def holdsTogether (functions : Nat) : List Tree → Bool
  | [] => functions == 0
  | t :: rest =>
    if t.isWord "lambda" then holdsTogether (functions + 1) rest
    else if t.isMark ',' then functions != 0 && holdsTogether functions rest
    else if t.isMark ':' then functions != 0 && holdsTogether (functions - 1) rest
    else !(t.isWord "for" || t.isWord "async" || t.isMark ';') && holdsTogether functions rest

/-- Whether some pieces are one expression, as far as this can make a difference to the code around them. -/
def isOne (trees : List Tree) : Bool := !trees.isEmpty && holdsTogether 0 trees

/-- What is tested and what comes then, if some pieces are a guard. -/
def unlessNone? : List Tree → Option (List Tree × List Tree)
  | .word "None" :: .word "if" :: test =>
    match test.dropWhile Tree.isOperand with
    | .word "is" :: .word "None" :: .word "else" :: body =>
      if isOperand (test.takeWhile Tree.isOperand) then some (test.takeWhile Tree.isOperand, body) else none
    | _ => none
  | _ => none

/-- The element, the source and the body of a comprehension, if some pieces are one. -/
def each? : List Tree → Option (String × List Tree × List Tree)
  | [.group '[' inside] =>
    match inside.dropWhile (!·.isWord "for") with
    | .word "for" :: .word element :: .word "in" :: source =>
      if isOperand source && isOne (inside.takeWhile (!·.isWord "for")) then
        some (element, source, inside.takeWhile (!·.isWord "for"))
      else none
    | _ => none
  | _ => none

/-- The source of a copy, if some pieces are one. -/
def copy? : List Tree → Option (List Tree)
  | [.word "list", .group '(' source] => if isOperand source then some source else none
  | _ => none

/-! What is found in some pieces is all that they consist of. -/

theorem unlessNone?_eq_some {trees tested body : List Tree} (h : unlessNone? trees = some (tested, body)) :
    trees = Tree.unlessNone tested body := by
  unfold unlessNone? at h
  split at h
  · rename_i test
    split at h
    · rename_i body' rest
      split at h
      · cases h
        have whole := List.takeWhile_append_dropWhile (p := Tree.isOperand) (l := test)
        rw [rest] at whole
        refine (congrArg (fun test => .word "None" :: .word "if" :: test) whole.symm).trans ?_
        simp [Tree.unlessNone]
      · cases h
    · cases h
  · cases h

theorem each?_eq_some {trees source body : List Tree} {element : String}
    (h : each? trees = some (element, source, body)) : trees = Tree.each element source body := by
  unfold each? at h
  split at h
  · rename_i inside
    split at h
    · rename_i element' source' rest
      split at h
      · cases h
        have whole := List.takeWhile_append_dropWhile (p := (!Tree.isWord "for" ·)) (l := inside)
        rw [rest] at whole
        exact congrArg (fun inside => [Tree.group '[' inside]) whole.symm
      · cases h
    · cases h
  · cases h

theorem copy?_eq_some {trees source : List Tree} (h : copy? trees = some source) : trees = Tree.copy source := by
  unfold copy? at h
  split at h
  · split at h
    · cases h
      rfl
    · cases h
  · cases h

/-! The parts of a phrase are smaller than it. -/

theorem parts_unlessNone (tested body : List Tree) : ∃ t rest, Tree.unlessNone tested body = t :: rest
    ∧ tested.Sublist rest ∧ body.Sublist rest := by
  refine ⟨_, _, rfl, ?_, List.IsSuffix.sublist ?_⟩
  · simp
  · exact ⟨.word "if" :: tested ++ [.word "is", .word "None", .word "else"], by simp⟩

theorem parts_each (element : String) (source body : List Tree) : ∃ inside,
    Tree.each element source body = [.group '[' inside] ∧ source.Sublist inside ∧ body.Sublist inside :=
  ⟨_, rfl, (List.sublist_append_right _ source).trans (List.sublist_append_right body _),
    List.sublist_append_left _ _⟩

theorem sizeOf_le_of_sublist {part trees : List Tree} (h : part.Sublist trees) : sizeOf part ≤ sizeOf trees := by
  induction h with
  | slnil => exact Nat.le_refl _
  | cons t _ ih =>
    simp only [List.cons.sizeOf_spec]
    omega
  | cons_cons t _ ih =>
    simp only [List.cons.sizeOf_spec]
    omega

theorem sizeOf_lt_of_sublist {t : Tree} {part trees : List Tree} (h : part.Sublist trees) :
    sizeOf part < sizeOf (t :: trees) := by
  have := sizeOf_le_of_sublist h
  simp only [List.cons.sizeOf_spec]
  omega

theorem sizeOf_lt_group {bracket : Char} {part inside trees : List Tree} (h : part.Sublist inside) :
    sizeOf part < sizeOf (.group bracket inside :: trees) := by
  have := sizeOf_le_of_sublist h
  simp only [List.cons.sizeOf_spec, Tree.group.sizeOf_spec]
  omega

theorem sizeOf_unlessNone (tested body : List Tree) :
    sizeOf tested < sizeOf (Tree.unlessNone tested body) ∧ sizeOf body < sizeOf (Tree.unlessNone tested body) := by
  obtain ⟨t, rest, whole, tested_part, body_part⟩ := parts_unlessNone tested body
  rw [whole]
  exact ⟨sizeOf_lt_of_sublist tested_part, sizeOf_lt_of_sublist body_part⟩

theorem sizeOf_each (element : String) (source body : List Tree) :
    sizeOf source < sizeOf (Tree.each element source body)
      ∧ sizeOf body < sizeOf (Tree.each element source body) := by
  obtain ⟨inside, whole, source_part, body_part⟩ := parts_each element source body
  rw [whole]
  exact ⟨sizeOf_lt_group source_part, sizeOf_lt_group body_part⟩

theorem sizeOf_copy (source : List Tree) : sizeOf source < sizeOf (Tree.copy source) := by
  have inside : sizeOf source < sizeOf [Tree.group '(' source] := sizeOf_lt_group (.refl source)
  refine Nat.lt_of_lt_of_le inside (sizeOf_le_of_sublist ?_)
  exact .cons _ (.refl _)

namespace Expression

/-- The expression that some pieces are. -/
def of (trees : List Tree) : Expression :=
  match _h : unlessNone? trees with
  | some (tested, body) => .unlessNone (of tested) (of body)
  | none =>
    match _h : each? trees with
    | some (element, source, body) => .each element (of source) (of body)
    | none =>
      match _h : copy? trees with
      | some source => .copy (of source)
      | none => .other trees
termination_by sizeOf trees
decreasing_by
  · rw [unlessNone?_eq_some _h]
    exact (sizeOf_unlessNone tested body).1
  · rw [unlessNone?_eq_some _h]
    exact (sizeOf_unlessNone tested body).2
  · rw [each?_eq_some _h]
    exact (sizeOf_each element source body).1
  · rw [each?_eq_some _h]
    exact (sizeOf_each element source body).2
  · rw [copy?_eq_some _h]
    exact sizeOf_copy source

end Expression

/-! ### Evaluation -/

/-- The items of a value. -/
def Host.itemsOf (host : Host α) : Datum α → Option (List (Datum α))
  | .none => none
  | .list items => some items
  | .other a => host.items a

/-- The value of some pieces that are no guard, comprehension or copy. A name that is in reach stands for its
    value. -/
def Host.evaluate (host : Host α) (trees : List Tree) (σ : Scope α) : Option (Datum α) :=
  match trees with
  | [.word name] =>
    if name = "None" then some .none
    else if Naming.Usable name then (σ name).or (host.value trees σ)
    else host.value trees σ
  | _ => host.value trees σ

/-- The value of an expression in a scope, if it has one. The source of a comprehension is evaluated outside of it,
    its body once for each item. -/
def Expression.eval (host : Host α) : Expression → Scope α → Option (Datum α)
  | .other trees, σ => host.evaluate trees σ
  | .unlessNone tested body, σ => do
    match ← tested.eval host σ with
    | .none => return .none
    | _ => body.eval host σ
  | .each element source body, σ => do
    let items ← host.itemsOf (← source.eval host σ)
    return .list (← items.mapM fun item => body.eval host (Function.update σ element (some item)))
  | .copy source, σ => do
    let value ← source.eval host σ
    match σ "list" with
    | none => return .list (← host.itemsOf value)
    | some callee => host.call callee value

/-! ### Bodies -/

/-- The body of an accessor: guards that return nothing for a missing value, then a value that is returned. -/
inductive Body where
  | value (returned : Expression)
  | guard (tested : Expression) (rest : Body)
deriving Inhabited

/-- The body that some lines are, if they are one. -/
def Body.of? : List Line → Option Body
  | [⟨false, .word "return" :: trees⟩] => if isOne trees then some (.value (.of trees)) else none
  | ⟨false, .word "if" :: test⟩ :: ⟨true, [.word "return", .word "None"]⟩ :: rest =>
    match test.dropWhile Tree.isOperand with
    | [.word "is", .word "None", .mark ':'] =>
      if isOperand (test.takeWhile Tree.isOperand) then
        (of? rest).map (.guard (.of (test.takeWhile Tree.isOperand)))
      else none
    | _ => none
  | _ => none

/-- The body that a text is, if it is one. -/
def body? (text : String) : Option Body := (lines? text).bind Body.of?

/-- The value that a body returns in a scope, if it has one. -/
def Body.run {α : Type} (host : Host α) : Body → Scope α → Option (Datum α)
  | .value returned, σ => returned.eval host σ
  | .guard tested rest, σ => do
    match ← tested.eval host σ with
    | .none => return .none
    | _ => rest.run host σ

/-! ### What a value depends on -/

variable {α : Type} {host : Host α} {σ σ' : Scope α} {name : String} {trees part : List Tree}

theorem Mentions.mono (h : Mentions name part) (sub : part ⊆ trees) : Mentions name trees := by
  cases h with
  | word mem => exact .word (sub mem)
  | filled mem fills inside => exact .filled (sub mem) fills inside
  | inside mem h => exact .inside (sub mem) h

theorem evaluate_congr (agree : ∀ name, Mentions name trees → σ name = σ' name) :
    host.evaluate trees σ = host.evaluate trees σ' := by
  have same := host.value_congr trees σ σ' agree
  unfold Host.evaluate
  split
  · rw [agree _ (.word List.mem_cons_self), same]
  · exact same

/-- The value of an expression depends on the names that it mentions only. -/
theorem eval_congr (agree : ∀ name, Mentions name trees → σ name = σ' name) :
    (Expression.of trees).eval host σ = (Expression.of trees).eval host σ' := by
  fun_induction Expression.of trees generalizing σ σ' with
  | case1 trees tested body found tested_ih body_ih =>
    obtain ⟨t, rest, whole, tested_part, body_part⟩ := parts_unlessNone tested body
    rw [unlessNone?_eq_some found, whole] at agree
    rw [Expression.eval, Expression.eval,
      tested_ih fun name h => agree name (h.mono (List.subset_cons_of_subset _ tested_part.subset)),
      body_ih fun name h => agree name (h.mono (List.subset_cons_of_subset _ body_part.subset))]
  | case2 trees no_guard element source body found source_ih body_ih =>
    obtain ⟨inside, whole, source_part, body_part⟩ := parts_each element source body
    rw [each?_eq_some found, whole] at agree
    have of_source (name : String) (h : Mentions name source) : σ name = σ' name :=
      agree name (.inside List.mem_cons_self (h.mono source_part.subset))
    have of_body (name : String) (h : Mentions name body) : σ name = σ' name :=
      agree name (.inside List.mem_cons_self (h.mono body_part.subset))
    have inner (item : Datum α) : (Expression.of body).eval host (Function.update σ element (some item))
        = (Expression.of body).eval host (Function.update σ' element (some item)) := by
      refine body_ih fun name h => ?_
      rcases eq_or_ne name element with rfl | other
      · rw [Function.update_self, Function.update_self]
      · rw [Function.update_of_ne other, Function.update_of_ne other]
        exact of_body name h
    rw [Expression.eval, Expression.eval, source_ih of_source, funext inner]
  | case3 trees no_guard no_each source found source_ih =>
    rw [copy?_eq_some found] at agree
    have list_ : σ "list" = σ' "list" := agree _ (.word List.mem_cons_self)
    rw [Expression.eval, Expression.eval, list_,
      source_ih fun name h => agree name (.inside (List.mem_cons_of_mem _ List.mem_cons_self) h)]
  | case4 trees no_guard no_each no_copy => exact evaluate_congr agree

/-! ### The phrases -/

variable {source body : List Tree} {element : String}

theorem isOperand_name (usable : Naming.Usable name) : isOperand [.word name] := by
  simp [isOperand, Tree.isOperand, usable.free]

theorem all_of_isOperand (operand : isOperand source) : ∀ t ∈ source, t.isOperand :=
  List.all_eq_true.1 (Bool.and_eq_true_iff.1 operand).2

theorem dropWhile_isOperand (operand : isOperand source) (rest : List Tree) :
    (source ++ .word "is" :: rest).dropWhile Tree.isOperand = .word "is" :: rest := by
  have stops : Tree.isOperand (.word "is") = false := by decide
  rw [List.dropWhile_append_of_pos (all_of_isOperand operand)]
  simp [stops]

theorem takeWhile_isOperand (operand : isOperand source) (rest : List Tree) :
    (source ++ .word "is" :: rest).takeWhile Tree.isOperand = source := by
  have stops : Tree.isOperand (.word "is") = false := by decide
  rw [List.takeWhile_append_of_pos (all_of_isOperand operand)]
  simp [stops]

/-- Operands hold together with anything. -/
theorem holdsTogether_append (operands : ∀ t ∈ source, t.isOperand) (functions : Nat) (rest : List Tree) :
    holdsTogether functions (source ++ rest) = holdsTogether functions rest := by
  induction source with
  | nil => rfl
  | cons t others ih =>
    obtain ⟨own, operands⟩ := List.forall_mem_cons.1 operands
    have word (text : String) (keyword : text ∈ Naming.keywords) : ¬ t.isWord text :=
      Tree.isWord_of_isOperand own keyword
    have mark (c : Char) (other : c ≠ '.') : ¬ t.isMark c := Tree.isMark_of_isOperand own other
    rw [List.cons_append, holdsTogether, if_neg (word "lambda" (by decide)), if_neg (mark ',' (by decide)),
      if_neg (mark ':' (by decide)), ih operands]
    simp [word "for" (by decide), word "async" (by decide), mark ';' (by decide)]

/-- What holds together does not say where items come from. -/
theorem not_for_of_holdsTogether {functions : Nat} (h : holdsTogether functions body) :
    ∀ t ∈ body, !t.isWord "for" := by
  induction body generalizing functions with
  | nil => exact List.forall_mem_nil _
  | cons t rest ih =>
    rw [holdsTogether] at h
    have other {text : String} (own : t.isWord text) (apart : text ≠ "for") : !t.isWord "for" := by
      cases t with
      | word own' =>
        rw [Tree.isWord, beq_iff_eq] at own
        simp [Tree.isWord, own, apart]
      | _ => rfl
    have mark {c : Char} (own : t.isMark c) : !t.isWord "for" := by
      cases t with
      | mark _ => rfl
      | _ => cases own
    refine List.forall_mem_cons.2 ?_
    split at h
    · rename_i own
      exact ⟨other own (by decide), ih h⟩
    split at h
    · rename_i own
      exact ⟨mark own, ih (Bool.and_eq_true_iff.1 h).2⟩
    split at h
    · rename_i own
      exact ⟨mark own, ih (Bool.and_eq_true_iff.1 h).2⟩
    · obtain ⟨own, h⟩ := Bool.and_eq_true_iff.1 h
      simp only [Bool.not_eq_true', Bool.or_eq_false_iff] at own
      exact ⟨by rw [own.1.1]; rfl, ih h⟩

theorem of_unlessNone (operand : isOperand source) :
    Expression.of (Tree.unlessNone source body) = .unlessNone (.of source) (.of body) := by
  have found : unlessNone? (Tree.unlessNone source body) = some (source, body) := by
    simp [Tree.unlessNone, unlessNone?, dropWhile_isOperand operand, takeWhile_isOperand operand, operand]
  rw [Expression.of]
  split
  · rename_i found'
    cases found.symm.trans found'
    rfl
  · rename_i none_
    cases found.symm.trans none_

theorem of_each (operand : isOperand source) (one : isOne body) :
    Expression.of (Tree.each element source body) = .each element (.of source) (.of body) := by
  have all := not_for_of_holdsTogether (Bool.and_eq_true_iff.1 one).2
  have found : each? (Tree.each element source body) = some (element, source, body) := by
    have rest : ∀ (rest : List Tree),
        (body ++ .word "for" :: rest).dropWhile (!Tree.isWord "for" ·) = .word "for" :: rest
        ∧ (body ++ .word "for" :: rest).takeWhile (!Tree.isWord "for" ·) = body := by
      intro rest
      have stops : (!Tree.isWord "for" (.word "for")) = false := by decide
      rw [List.dropWhile_append_of_pos all, List.takeWhile_append_of_pos all]
      simp [stops]
    simp [Tree.each, each?, rest, operand, one]
  rw [Expression.of]
  split
  · rename_i guard
    cases guard
  split
  · rename_i found'
    cases found.symm.trans found'
    rfl
  · rename_i none_
    cases found.symm.trans none_

theorem of_copy (operand : isOperand source) : Expression.of (Tree.copy source) = .copy (.of source) := by
  have found : copy? (Tree.copy source) = some source := if_pos operand
  rw [Expression.of]
  split
  · rename_i guard
    cases guard
  split
  · rename_i each_
    cases each_
  split
  · rename_i found'
    cases found.symm.trans found'
    rfl
  · rename_i none_
    cases found.symm.trans none_

theorem of_other (no_guard : unlessNone? trees = none) (no_each : each? trees = none) (no_copy : copy? trees = none) :
    Expression.of trees = .other trees := by
  rw [Expression.of]
  split
  · rename_i guard
    cases no_guard.symm.trans guard
  split
  · rename_i each_
    cases no_each.symm.trans each_
  split
  · rename_i copy_
    cases no_copy.symm.trans copy_
  · rfl

theorem of_name (name : String) : Expression.of [.word name] = .other [.word name] := by
  refine of_other ?_ rfl ?_
  · refine Option.eq_none_iff_forall_ne_some.2 fun found guard => ?_
    cases unlessNone?_eq_some guard
  · refine Option.eq_none_iff_forall_ne_some.2 fun found copy_ => ?_
    cases copy?_eq_some copy_

/-- A name stands for its value. -/
theorem eval_name {v : Datum α} (usable : Naming.Usable name) (holds : σ name = some v) :
    (Expression.of [.word name]).eval host σ = some v := by
  have other : name ≠ "None" := by
    rintro rfl
    exact usable.free (by decide)
  rw [of_name, Expression.eval, Host.evaluate, if_neg other, if_pos usable, holds]
  rfl

/-! ### The lines of a body -/

theorem Body.of?_value (one : isOne body) :
    Body.of? [⟨false, .word "return" :: body⟩] = some (.value (.of body)) := if_pos one

theorem Body.of?_guard {lines : List Line} (operand : isOperand source) :
    Body.of? (⟨false, .word "if" :: source ++ [.word "is", .word "None", .mark ':']⟩
        :: ⟨true, [.word "return", .word "None"]⟩ :: lines)
      = (Body.of? lines).map (.guard (.of source)) := by
  simp [Body.of?, dropWhile_isOperand operand, takeWhile_isOperand operand, operand]

end OperationClasses.Code
