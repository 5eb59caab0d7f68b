/-
Module: OperationClasses.Proofs.Conversion.Computation
Purpose: The conversion that the layers of a type ask for, and what the code of each of its steps computes: a guard,
  a comprehension, a copy, a returned value.
Main exports: TypeRef.convert, TypeRef.Conforms, Code.Binds, Code.Computes, Code.Returns
-/
import OperationClasses.Layer
import OperationClasses.Proofs.Conversion.Meaning

namespace OperationClasses

variable {α : Type}

/-! ### Conversions of values -/

namespace Code.Datum

/-- A conversion that gives nothing for nothing, where a value may be missing. -/
def orNone (required : Bool) (convert : Datum α → Option (Datum α)) : Datum α → Option (Datum α)
  | .none => if required then convert .none else some .none
  | v => convert v

/-- A conversion of the items of a list, in their order. -/
def mapItems (convert : Datum α → Option (Datum α)) : Datum α → Option (Datum α)
  | .list items => (items.mapM convert).map .list
  | _ => Option.none

end Code.Datum

open Code

namespace TypeRef

/-- The conversion of a value through the layers of a type, where `core` converts the values of the named type:
    nothing for nothing at a layer that may be null, item by item at a list. -/
def convert (core : Datum α → Option (Datum α)) : TypeRef → Datum α → Option (Datum α)
  | .named _ required, v => v.orNone required core
  | .list item required, v => v.orNone required (Datum.mapItems (item.convert core))

/-- A value has the layers of a type: it is there where it is required, and a list where the type has one. -/
def Conforms : TypeRef → Datum α → Prop
  | .named _ required, v => v = .none → ¬ required
  | .list item required, v => (v = .none ∧ ¬ required) ∨ ∃ items, v = .list items ∧ ∀ u ∈ items, item.Conforms u

end TypeRef

namespace Code

variable {flat : Bool} {host : Host α} {binding inner text element : String} {convert : Datum α → Option (Datum α)}

/-! ### Settings -/

/-- Where a text is evaluated: in which scopes, with which value to convert. -/
abbrev Setting (α : Type) := Scope α → Datum α → Prop

namespace Setting

/-- Where the value is there. -/
def present (here : Setting α) : Setting α := fun σ v => here σ v ∧ v ≠ .none

/-- Where the value is an item of a list, under a name of its own. -/
def itemOf (here : Setting α) (element : String) : Setting α := fun σ v =>
  ∃ τ items, here τ (.list items) ∧ v ∈ items ∧ σ = Function.update τ element (some v)

end Setting

variable {here : Setting α}

/-- A text is an operand that holds the value to convert. -/
def Binds (flat : Bool) (host : Host α) (here : Setting α) (binding : String) : Prop :=
  ∃ source, ReadsAs flat binding source ∧ isOperand source
    ∧ ∀ σ v, here σ v → (Expression.of source).eval host σ = some v

/-- A text is one expression, whose value is what a conversion gives for the value to convert. -/
def Computes (flat : Bool) (host : Host α) (here : Setting α) (text : String)
    (convert : Datum α → Option (Datum α)) : Prop :=
  ∃ trees, ReadsAs flat text trees ∧ isOne trees ∧ ∀ σ v, here σ v → (Expression.of trees).eval host σ = convert v

/-- A text is the body of an accessor, which returns what a conversion gives for the value to convert. -/
def Returns (flat : Bool) (host : Host α) (here : Setting α) (text : String)
    (convert : Datum α → Option (Datum α)) : Prop :=
  ∃ lines body, ReadsLines flat text lines ∧ Body.of? lines = some body
    ∧ ∀ σ v, here σ v → body.run host σ = convert v

theorem Binds.name (usable : Naming.Usable element) (holds : ∀ σ v, here σ v → σ element = some v) :
    Binds flat host here element :=
  ⟨_, .name usable.written, isOperand_name usable, fun σ v at_ => eval_name usable (holds σ v at_)⟩

theorem Binds.item (usable : Naming.Usable element) : Binds flat host (here.itemOf element) element := by
  refine .name usable ?_
  rintro σ v ⟨τ, items, -, -, rfl⟩
  exact Function.update_self ..

theorem Binds.mono {there : Setting α} (h : Binds flat host here binding) (sub : ∀ σ v, there σ v → here σ v) :
    Binds flat host there binding := by
  obtain ⟨source, reads, operand, value⟩ := h
  exact ⟨source, reads, operand, fun σ v at_ => value σ v (sub σ v at_)⟩

theorem Computes.mono {there : Setting α} (h : Computes flat host here text convert)
    (sub : ∀ σ v, there σ v → here σ v) : Computes flat host there text convert := by
  obtain ⟨trees, reads, one, computes⟩ := h
  exact ⟨trees, reads, one, fun σ v at_ => computes σ v (sub σ v at_)⟩

/-- Where the value is always there, nothing needs to be done about one that is missing. -/
theorem Computes.required (h : Computes flat host here.present text convert) (there : ∀ σ v, here σ v → v ≠ .none) :
    Computes flat host here text (Datum.orNone true convert) := by
  have same : Datum.orNone true convert = convert := by
    funext v
    cases v <;> rfl
  rw [same]
  exact h.mono fun σ v at_ => ⟨at_, there σ v at_⟩

/-! ### Expressions that hold together -/

theorem isOne_of_isOperand {source : List Tree} (operand : isOperand source) : isOne source := by
  have all := all_of_isOperand operand
  have together := holdsTogether_append all 0 []
  rw [List.append_nil] at together
  rw [isOne, together]
  exact Bool.and_eq_true_iff.2 ⟨(Bool.and_eq_true_iff.1 operand).1, rfl⟩

theorem isOne_unlessNone {source body : List Tree} (operand : isOperand source) (one : isOne body) :
    isOne (Tree.unlessNone source body) := by
  have rest : Tree.unlessNone source body = .word "None" :: .word "if" :: (source
      ++ .word "is" :: .word "None" :: .word "else" :: body) := by
    simp [Tree.unlessNone]
  have together := holdsTogether_append (all_of_isOperand operand) 0
    (.word "is" :: .word "None" :: .word "else" :: body)
  rw [rest]
  refine Eq.trans (b := holdsTogether 0 (source ++ .word "is" :: .word "None" :: .word "else" :: body)) rfl ?_
  rw [together]
  exact (Bool.and_eq_true_iff.1 one).2

theorem isOne_each {source body : List Tree} : isOne (Tree.each element source body) := rfl

theorem isOne_copy {source : List Tree} : isOne (Tree.copy source) := by rfl

/-! ### Steps of a conversion -/

/-- A guard gives nothing for nothing, and leaves what is there to what comes after it. -/
theorem Computes.unlessNone (bound : Binds flat host here binding)
    (rest : Computes flat host here.present inner convert) :
    Computes flat host here ("None if " ++ binding ++ " is None else " ++ inner) (Datum.orNone false convert) := by
  obtain ⟨source, source_reads, operand, holds⟩ := bound
  obtain ⟨body, body_reads, one, computes⟩ := rest
  refine ⟨Tree.unlessNone source body, source_reads.unlessNone body_reads, isOne_unlessNone operand one,
    fun σ v at_ => ?_⟩
  rw [of_unlessNone operand, Expression.eval, holds σ v at_]
  cases v with
  | none => rfl
  | list items => exact computes σ _ ⟨at_, fun missing => by cases missing⟩
  | other a => exact computes σ _ ⟨at_, fun missing => by cases missing⟩

theorem mapM_congr {f g : Datum α → Option (Datum α)} {items : List (Datum α)} (same : ∀ v ∈ items, f v = g v) :
    items.mapM f = items.mapM g := by
  induction items with
  | nil => rfl
  | cons v rest ih =>
    obtain ⟨own, others⟩ := List.forall_mem_cons.1 same
    rw [List.mapM_cons, List.mapM_cons, own, ih others]

/-- A comprehension converts the items of a list in their order. -/
theorem eval_each {source body : List Tree} {σ : Scope α} {items : List (Datum α)} (operand : isOperand source)
    (one : isOne body) (holds : (Expression.of source).eval host σ = some (.list items))
    (computes : ∀ v ∈ items, (Expression.of body).eval host (Function.update σ element (some v)) = convert v) :
    (Expression.of (Tree.each element source body)).eval host σ = Datum.mapItems convert (.list items) := by
  rw [of_each operand one, Expression.eval, holds, Datum.mapItems, ← mapM_congr computes,
    Option.map_eq_bind]
  rfl

/-- The values to convert are lists. -/
def Setting.Lists (here : Setting α) : Prop := ∀ σ v, here σ v → ∃ items, v = .list items

/-- What comes from pieces that read as a comprehension. -/
theorem Computes.of_each {source body : List Tree} (reads : ReadsAs flat text (Tree.each element source body))
    (operand : isOperand source) (one : isOne body) (lists : here.Lists)
    (holds : ∀ σ v, here σ v → (Expression.of source).eval host σ = some v)
    (computes : ∀ σ v, here.itemOf element σ v → (Expression.of body).eval host σ = convert v) :
    Computes flat host here text (Datum.mapItems convert) := by
  refine ⟨_, reads, isOne_each, fun σ v at_ => ?_⟩
  obtain ⟨items, rfl⟩ := lists σ v at_
  exact eval_each operand one (holds σ _ at_) fun u mem => computes _ u ⟨σ, items, at_, mem, rfl⟩

/-- A comprehension on one line converts the items of a list. -/
theorem Computes.each (written : Naming.isIdentifier element) (bound : Binds flat host here binding)
    (lists : here.Lists) (items : Computes flat host (here.itemOf element) inner convert) :
    Computes flat host here ("[" ++ inner ++ " for " ++ element ++ " in " ++ binding ++ "]")
      (Datum.mapItems convert) := by
  obtain ⟨source, source_reads, operand, holds⟩ := bound
  obtain ⟨body, body_reads, one, computes⟩ := items
  exact .of_each (.each written source_reads body_reads) operand one lists holds computes

/-- So does a comprehension on several lines. -/
theorem Computes.eachOnLines (written : Naming.isIdentifier element) (bound : Binds true host here binding)
    (lists : here.Lists) (items : Computes true host (here.itemOf element) inner convert) :
    Computes true host here
      (Text.unlines ["[", Text.indent 1 inner, Text.indent 1 ("for " ++ element ++ " in " ++ binding), "]"])
      (Datum.mapItems convert) := by
  obtain ⟨source, source_reads, operand, holds⟩ := bound
  obtain ⟨body, body_reads, one, computes⟩ := items
  exact .of_each (.eachOnLines written source_reads body_reads) operand one lists holds computes

/-- An operand computes the conversion that leaves the value to convert as it is. -/
theorem Binds.computes (bound : Binds flat host here binding) (same : ∀ σ v, here σ v → convert v = some v) :
    Computes flat host here binding convert := by
  obtain ⟨source, reads, operand, holds⟩ := bound
  exact ⟨source, reads, isOne_of_isOperand operand, fun σ v at_ => (holds σ v at_).trans (same σ v at_).symm⟩

/-- A text reads in one way only. -/
theorem ReadsAs.unique {trees others : List Tree} (h : ReadsAs flat text trees) (h' : ReadsAs flat text others) :
    trees = others := by
  have same : resting.add trees = resting.add others := h.symm.trans h'
  have items := congrArg State.items same
  simpa [State.add, resting, List.map_inj_right] using items

/-- A conversion whose text is the operand it converts leaves the value as it is. -/
theorem Computes.same (computes : Computes flat host here binding convert) (bound : Binds flat host here binding) :
    ∀ σ v, here σ v → convert v = some v := by
  obtain ⟨trees, reads, -, computes⟩ := computes
  obtain ⟨source, source_reads, -, holds⟩ := bound
  intro σ v at_
  rw [← computes σ v at_, reads.unique source_reads, holds σ v at_]

/-- A copy converts the items of a list, when each of them stays as it is and the name of the copying function is
    free. -/
theorem Computes.copy (bound : Binds flat host here binding) (lists : here.Lists)
    (builtin : ∀ σ v, here σ v → σ "list" = none)
    (same : ∀ σ v, here.itemOf element σ v → convert v = some v) :
    Computes flat host here ("list(" ++ binding ++ ")") (Datum.mapItems convert) := by
  obtain ⟨source, reads, operand, holds⟩ := bound
  refine ⟨_, reads.copy, isOne_copy, fun σ v at_ => ?_⟩
  obtain ⟨items, rfl⟩ := lists σ v at_
  have kept : items.mapM convert = some items := by
    have all : items.mapM some = some (items.map id) := List.mapM_pure
    rw [mapM_congr (g := some) fun u mem => same _ u ⟨σ, items, at_, mem, rfl⟩, all, List.map_id]
  rw [of_copy operand, Expression.eval, holds σ _ at_, Datum.mapItems, kept]
  simp only [builtin σ _ at_]
  rfl

/-! ### Bodies -/

/-- A returned value is what the body returns. -/
theorem Computes.returns (computes : Computes flat host here text convert) :
    Returns flat host here ("return " ++ text) convert := by
  obtain ⟨trees, reads, one, computes⟩ := computes
  exact ⟨_, _, .return reads, Body.of?_value one, computes⟩

/-- A guard before a body returns nothing for nothing. -/
theorem Returns.guard (bound : Binds flat host here binding) (rest : Returns flat host here.present text convert) :
    Returns flat host here ("if " ++ binding ++ " is None:\n    return None\n" ++ text)
      (Datum.orNone false convert) := by
  obtain ⟨source, reads, operand, holds⟩ := bound
  obtain ⟨lines, body, lines_read, body_of, runs⟩ := rest
  refine ⟨_, .guard (.of source) body, .guard reads lines_read, ?_, fun σ v at_ => ?_⟩
  · rw [Body.of?_guard operand, body_of]
    rfl
  · rw [Body.run, holds σ v at_]
    cases v with
    | none => rfl
    | list items => exact runs σ _ ⟨at_, fun missing => by cases missing⟩
    | other a => exact runs σ _ ⟨at_, fun missing => by cases missing⟩

end Code

end OperationClasses
