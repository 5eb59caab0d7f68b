/-
Module: OperationClasses.Proofs.Conversion.InputMeaning
Purpose: What the expression that sends a value gives: the value, converted through the layers of its type. Where the
  items of a list stay as they are the list is copied, and a value that stays as it is needs no guard; neither makes
  a difference.
Main exports: inputConversion_computes, wrapInput_computes
-/
import OperationClasses.Generation.Inputs
import OperationClasses.Proofs.Conversion.Layers
import OperationClasses.Proofs.Generation.Steps

namespace OperationClasses

open Code

variable {α : Type} {host : Host α} {σ : Scope α} {name binding template : String}
  {fill : String → Except Text.HoleError String}

namespace Conversion

/-! ### Names of items -/

/-- The name of an item of a list that has `k` list layers left below it. -/
def itemAt (name : String) (k : Nat) : String := itemName name (k + 1 : Nat)

theorem usable_itemAt (usable : Naming.Usable name) (k : Nat) : Naming.Usable (itemAt name k) :=
  usable.numbered (k + 1)

theorem itemAt_inj {k l : Nat} (same : itemAt name k = itemAt name l) : k = l :=
  Nat.succ.inj (Naming.number_inj ((String.append_right_inj name).1 same))

theorem itemAt_ne_list (k : Nat) : itemAt name k ≠ "list" :=
  Naming.numbered_ne (by decide +kernel) name (k + 1)

/-! ### The text of each layer -/

/-- An expression as it is written for some layers of a variable. -/
def Sent (fill : String → Except Text.HoleError String) (name : String) (layers : List Layer) (binding : String)
    (depth : Nat) (text : String) : Prop :=
  ∃ conversion, planInput fill name layers binding depth = .ok conversion ∧ conversion.inputText fill = .ok text

theorem sent_nullable {layers : List Layer} {depth : Nat} {text : String}
    (sent : Sent fill name layers binding depth text) :
    Sent fill name (.nullable :: layers) binding depth
      (if text = binding then text else "None if " ++ binding ++ " is None else " ++ text) := by
  obtain ⟨conversion, planned, written⟩ := sent
  refine ⟨if text = binding then conversion else .orNone binding conversion, ?_, ?_⟩
  · simp only [planInput, planned, written, bind, Except.bind, Except.mapError]
    rfl
  · split
    · exact written
    · rw [inputText, written]
      rfl

theorem sent_list (binding : String) {layers : List Layer} {depth : Nat} {text : String}
    (sent : Sent fill name layers (itemAt name depth) depth text) :
    Sent fill name (.list :: layers) binding (depth + 1)
      (if text = itemAt name depth then "list(" ++ binding ++ ")"
        else "[" ++ text ++ " for " ++ itemAt name depth ++ " in " ++ binding ++ "]") := by
  obtain ⟨conversion, planned, written⟩ := sent
  have below : ((depth + 1 : Nat) : Int) - 1 = depth := by omega
  refine ⟨if text = itemAt name depth then .copy binding else .each (itemAt name depth) binding conversion, ?_, ?_⟩
  · rw [itemAt] at planned
    simp only [planInput, below, planned, written, bind, Except.bind, Except.mapError]
    rfl
  · split
    · rfl
    · rw [inputText, written]
      rfl

/-- **The shortened forms agree with the full ones.** A guard or a comprehension is left out only where the text of
    the inner conversion is the name that it reads, and then that conversion leaves every value as it is. -/
theorem sending (usable : Naming.Usable name) (builtin : σ "list" = none) :
    Writing false host σ (itemAt name) (Sent fill name) where
  usable := usable_itemAt usable
  nullable := by
    intro layers binding depth text here convert bound sent computes
    refine ⟨_, sent_nullable sent, ?_⟩
    split
    · rename_i same
      subst same
      have kept := computes.same (bound.mono fun _ _ at_ => at_.1)
      refine bound.computes fun τ v at_ => ?_
      cases v with
      | none => rfl
      | list items => exact kept τ _ ⟨at_, fun missing => by cases missing⟩
      | other a => exact kept τ _ ⟨at_, fun missing => by cases missing⟩
    · exact computes.unlessNone bound
  list := by
    intro layers binding depth text here convert bound lists around sent computes
    refine ⟨_, sent_list binding sent, ?_⟩
    split
    · rename_i same
      subst same
      have kept := computes.same (Binds.item (usable_itemAt usable depth))
      refine Computes.copy bound lists (fun τ v at_ => ?_) kept
      rw [around τ v at_ "list" fun k same => itemAt_ne_list k same.symm, builtin]
    · exact computes.each (usable_itemAt usable depth).written bound lists

end Conversion

open Conversion

theorem inputConversion_of_sent {layers : List Layer} {depth : Nat} {text : String}
    (sent : Sent (fun value => Text.fillOne valueHole value template) name layers binding depth text) :
    inputConversion layers binding name depth template = .ok text := by
  obtain ⟨conversion, planned, written⟩ := sent
  rw [inputConversion]
  simp only [planned, bind, Except.bind, written]
  rfl

theorem exists_inputConversion {core : Datum α → Option (Datum α)} {v : Datum α} {type : TypeRef}
    (usable : Naming.Usable name) (holds : σ name = some v) (builtin : σ "list" = none)
    (computes : TemplateComputes false host σ (itemAt name) valueHole template name v core)
    (conforms : type.Conforms v) :
    ∃ text, inputConversion type.layers name name (listDepth type.layers) template = .ok text
      ∧ Computes false host (Setting.only σ v) text (type.convert core) := by
  have leaf (binding text : String) (filled : Text.fillOne valueHole binding template = .ok text) :
      Sent (fun value => Text.fillOne valueHole value template) name [] binding 0 text :=
    ⟨.core binding, rfl, filled⟩
  have binds : Binds false host (Setting.only σ v) name := by
    refine .name usable ?_
    rintro τ u ⟨rfl, rfl⟩
    exact holds
  obtain ⟨text, sent, gives⟩ := computes.exists_written (sending usable builtin) leaf conforms binds
  exact ⟨text, inputConversion_of_sent sent, gives⟩

/-- Nothing is in reach but variables, under the names that they are given. -/
def OfVariables (σ : Scope α) : Prop :=
  ∀ name, σ name ≠ none → ∃ key, Naming.safeIdentifier variableReserved key = .ok name

/-- No variable takes the name of the function that copies a list. -/
theorem OfVariables.list_free (named : OfVariables σ) : σ "list" = none := by
  by_contra taken
  obtain ⟨key, given⟩ := named "list" taken
  exact Naming.safeIdentifier_not_mem given (by decide)

/-- What is written to send a variable gives its converted value, wherever nothing but variables is in reach. -/
theorem wrapInput_computes {core : Datum α → Option (Datum α)} {v : Datum α} {type : TypeRef}
    {own typed : TypedInput} {p q : Progress} (named : OfVariables σ) (usable : Naming.Usable name)
    (holds : σ name = some v)
    (computes : TemplateComputes false host σ (itemAt name) valueHole own.serializer name v core)
    (conforms : type.Conforms v) (wrapped : Yields (wrapInput type name own) p typed q) :
    Computes false host (Setting.only σ v) typed.serializer (type.convert core) := by
  obtain ⟨text, written, gives⟩ := exists_inputConversion usable holds named.list_free computes conforms
  unfold wrapInput at wrapped
  simp only [written, yields_bind_iff, yields_converted_iff, yields_pure_iff] at wrapped
  obtain ⟨_, _, ⟨⟨⟩, rfl⟩, rfl, rfl⟩ := wrapped
  exact gives

/-- **The expression that sends a value gives the converted value.** Whatever the layers of a type are, the code that
    is written for a variable is one expression, and gives the conversion of the variable's value through the layers:
    nothing for nothing where a layer may be null, item by item at a list, and `core` at the named type. The template
    of the named type has to be one expression that computes `core`, and to name no item of an outer list; the name
    `list` has to stand for the function that copies a list, so no variable may have it. -/
theorem inputConversion_computes {core : Datum α → Option (Datum α)} {v : Datum α} {type : TypeRef}
    (usable : Naming.Usable name) (holds : σ name = some v) (builtin : σ "list" = none)
    (computes : TemplateComputes false host σ (itemAt name) valueHole template name v core)
    (conforms : type.Conforms v) :
    ∃ text trees, inputConversion type.layers name name (listDepth type.layers) template = .ok text
      ∧ ReadsAs false text trees ∧ isOne trees ∧ (Expression.of trees).eval host σ = type.convert core v := by
  obtain ⟨text, written, trees, reads, one, gives⟩ := exists_inputConversion usable holds builtin computes conforms
  exact ⟨text, trees, written, reads, one, gives σ v ⟨rfl, rfl⟩⟩

/-! Values that pass through as they are, under the template that is only its hole. -/

namespace PassedThrough

theorem fillOne_value (value : String) : Text.fillOne valueHole value "$value" = .ok value := by
  have pieces : Text.pieces "$value" = [.hole "value"] := by cbv
  rw [Text.fillOne, Text.fill, pieces]
  simp [valueHole, bind, Except.bind, pure, Except.pure]

theorem filled {operand : String} (usable : Naming.Usable operand) :
    Filled false valueHole "$value" operand [.word operand] :=
  ⟨⟨operand, fillOne_value operand, .name usable.written⟩, isOne_of_isOperand (isOperand_name usable)⟩

theorem template_computes {v : Datum α} (usable : Naming.Usable name) (holds : σ name = some v) :
    TemplateComputes false host σ (itemAt name) valueHole "$value" name v some where
  value := ⟨_, filled usable, eval_name usable holds⟩
  item := by
    refine ⟨_, filled (usable_itemAt usable 0), fun k later h => ?_,
      fun u => eval_name (usable_itemAt usable 0) (Function.update_self ..)⟩
    cases h with
    | word mem =>
      rw [List.mem_singleton, Tree.word.injEq] at mem
      exact later (itemAt_inj mem)
    | filled mem => simp at mem
    | inside mem => simp at mem

/-- The scope in which one name holds a value. -/
def scope (name : String) (v : Datum String) : Scope String := fun other => if other = name then some v else none

/-- Lists of lists, all of which may be missing. -/
def nested : TypeRef := .list (.list (.named "String" false) false) false

/-- Two lists, one of them missing. -/
def value : Datum String := .list [.list [.other "p", .none], .none]

theorem nested_conforms : nested.Conforms value := by
  refine .inr ⟨_, rfl, ?_⟩
  simp [TypeRef.Conforms]

/-- A list whose items are there. -/
def list : TypeRef := .list (.named "String" true) true

theorem list_conforms : list.Conforms (.list [.other "p"]) :=
  .inr ⟨_, rfl, by simp [TypeRef.Conforms]⟩

end PassedThrough

section

open PassedThrough

/-- Nested lists are sent as they are, through a comprehension that copies the inner ones. -/
theorem inputConversion_computes_copies :
    Naming.Usable "rows" ∧ scope "rows" value "rows" = some value ∧ scope "rows" value "list" = none
      ∧ TemplateComputes false Joining.host (scope "rows" value) (itemAt "rows") valueHole "$value" "rows" value
        some
      ∧ nested.Conforms value
      ∧ ∃ text trees, inputConversion nested.layers "rows" "rows" (listDepth nested.layers) "$value" = .ok text
        ∧ ReadsAs false text trees ∧ isOne trees
        ∧ (Expression.of trees).eval Joining.host (scope "rows" value) = some value := by
  have usable : Naming.Usable "rows" := by decide +kernel
  have computes : TemplateComputes false Joining.host (scope "rows" value) (itemAt "rows") valueHole "$value" "rows"
      value some := template_computes usable rfl
  exact ⟨usable, rfl, rfl, computes, nested_conforms,
    inputConversion_computes usable rfl rfl computes nested_conforms⟩

/-- A variable with the name `list` is called, where its items are to be copied. -/
theorem inputConversion_calls_list :
    Naming.Usable "list" ∧ scope "list" (.list [.other "p"]) "list" = some (.list [.other "p"])
      ∧ TemplateComputes false Joining.host (scope "list" (.list [.other "p"])) (itemAt "list") valueHole "$value"
        "list" (.list [.other "p"]) some
      ∧ list.Conforms (.list [.other "p"])
      ∧ list.convert some (.list [.other "p"]) = some (.list [.other "p"])
      ∧ ∃ text trees, inputConversion list.layers "list" "list" (listDepth list.layers) "$value" = .ok text
        ∧ ReadsAs false text trees ∧ isOne trees
        ∧ (Expression.of trees).eval Joining.host (scope "list" (.list [.other "p"])) = none := by
  have usable : Naming.Usable "list" := by decide +kernel
  have text : inputConversion list.layers "list" "list" (listDepth list.layers) "$value" = .ok "list(list)" := by
    have item : Sent (fun value => Text.fillOne valueHole value "$value") "list" [] (itemAt "list" 0) 0
        (itemAt "list" 0) := ⟨.core _, rfl, fillOne_value _⟩
    have copied := sent_list "list" item
    rw [if_pos rfl] at copied
    exact inputConversion_of_sent copied
  have reads : ReadsAs false "list(list)" (Tree.copy [.word "list"]) := (ReadsAs.name usable.written).copy
  refine ⟨usable, rfl, template_computes usable rfl, list_conforms, rfl, _, _, text, reads, isOne_copy, ?_⟩
  rw [of_copy (by decide), Expression.eval, eval_name usable rfl]
  rfl

end

end OperationClasses
