/-
Module: OperationClasses.Proofs.Conversion.OutputMeaning
Purpose: What the body of an accessor returns: the raw value, converted through the layers of its type.
Main exports: outputConversion_returns
-/
import OperationClasses.Conversion.Output
import OperationClasses.Proofs.Conversion.Layers

namespace OperationClasses

open Code

variable {α : Type} {host : Host α} {σ : Scope α} {binding template : String}
  {fill : String → Except Text.HoleError String}

namespace Conversion

/-! ### Levels -/

/-- Below an accessor body it makes no difference how deep an expression stands. -/
theorem text_of_pos {level : Int} (conversion : Conversion) (below : 0 < level) :
    conversion.text fill level = conversion.text fill 1 := by
  have apart : level ≠ 0 := by omega
  induction conversion generalizing level with
  | core binding => simp [text, atLevel, apart]
  | orNone binding rest ih => simp [text, apart, ih below apart]
  | each element binding rest ih =>
    have deeper : rest.text fill (level + 1) = rest.text fill 1 := ih (by omega) (by omega)
    have below_one : rest.text fill 2 = rest.text fill 1 := ih (by omega) (by omega)
    simp [text, atLevel, apart, deeper, below_one]
  | copy binding => simp [text, atLevel, apart]

/-! ### The text of each layer -/

theorem text_orNone {rest : Conversion} {inner : String} (written : rest.text fill 1 = .ok inner) :
    (orNone binding rest).text fill 1 = .ok ("None if " ++ binding ++ " is None else " ++ inner) := by
  rw [text, written]
  rfl

theorem text_each {element : String} {rest : Conversion} {inner : String} (written : rest.text fill 1 = .ok inner) :
    (each element binding rest).text fill 1 = .ok (Text.unlines
      ["[", Text.indent 1 inner, Text.indent 1 ("for " ++ element ++ " in " ++ binding), "]"]) := by
  rw [text, text_of_pos rest (by decide), written]
  rfl

/-- The body of an accessor returns what the expression for a value that is there gives. -/
theorem text_return {conversion : Conversion} {inner : String} (written : conversion.text fill 1 = .ok inner)
    (present : ∀ binding rest, conversion ≠ orNone binding rest) :
    conversion.text fill 0 = .ok ("return " ++ inner) := by
  cases conversion with
  | orNone binding rest => exact absurd rfl (present binding rest)
  | core binding =>
    cases filled : fill binding with
    | error fault =>
      rw [text, filled] at written
      cases written
    | ok value =>
      rw [text, filled] at written ⊢
      cases written
      rfl
  | each element binding rest =>
    cases items : rest.text fill 1 with
    | error fault =>
      rw [text, text_of_pos rest (by decide), items] at written
      cases written
    | ok inner =>
      cases (text_each items).symm.trans written
      rw [text, Int.zero_add, items]
      rfl
  | copy binding =>
    cases written
    rfl

/-! ### Names of items -/

theorem usable_elementName (k : Nat) : Naming.Usable (elementName k) := by
  unfold elementName
  split
  · decide +kernel
  · have base : Naming.Usable "inner_value" := by decide +kernel
    exact base.numbered k

/-- An expression as it is written for some layers. -/
def Written (fill : String → Except Text.HoleError String) (layers : List Layer) (binding : String) (depth : Nat)
    (text : String) : Prop :=
  ∃ conversion, plan layers binding depth = .ok conversion ∧ conversion.text fill 1 = .ok text

theorem writing : Writing true host σ (fun k => elementName k) (Written fill) where
  usable := usable_elementName
  nullable := by
    rintro layers binding depth text here convert bound ⟨conversion, planned, written⟩ computes
    refine ⟨_, ⟨.orNone binding conversion, ?_, text_orNone written⟩, computes.unlessNone bound⟩
    rw [plan, planned]
    rfl
  list := by
    rintro layers binding depth text here convert bound lists - ⟨conversion, planned, written⟩ computes
    refine ⟨_, ⟨.each (elementName depth) binding conversion, ?_, text_each written⟩,
      computes.eachOnLines (usable_elementName depth).written bound lists⟩
    have below : ((depth + 1 : Nat) : Int) - 1 = depth := by omega
    rw [plan, below, planned]
    rfl

/-- A value that is there is not tested again. -/
theorem plan_present {type : TypeRef} {depth : Int} {conversion : Conversion}
    (planned : plan type.presentLayers binding depth = .ok conversion) :
    ∀ binding rest, conversion ≠ orNone binding rest := by
  cases type with
  | named name required =>
    cases planned
    exact nofun
  | list item required =>
    rw [TypeRef.presentLayers, plan] at planned
    cases rest : plan item.layers (elementName (depth - 1)) (depth - 1) with
    | error fault =>
      rw [rest] at planned
      cases planned
    | ok conversion =>
      rw [rest] at planned
      cases planned
      exact nofun

end Conversion

open Conversion

variable {source : List Tree} {core : Datum α → Option (Datum α)} {v : Datum α} {type : TypeRef}

theorem outputConversion_eq {layers : List Layer} {depth : Int} {conversion : Conversion} {text : String}
    (planned : plan layers binding depth = .ok conversion)
    (written : conversion.text (fun value => Text.fillOne rawValueHole value template) 0 = .ok text) :
    outputConversion layers binding depth 0 template = .ok text := by
  rw [outputConversion, planned]
  simp only [bind, Except.bind, written]
  rfl

/-- The body for a type, from the expression for a value that is there. -/
theorem returns_of_present {text : String}
    (written : Written (fun value => Text.fillOne rawValueHole value template) type.presentLayers binding
      (listDepth type.presentLayers) text)
    (bound : Binds true host (Setting.only σ v) binding) (conforms : type.Conforms v)
    (computes : Computes true host (Setting.only σ v).present text (type.convertPresent core)) :
    ∃ body, outputConversion type.layers binding (listDepth type.layers) 0 template = .ok body
      ∧ Returns true host (Setting.only σ v) body (type.convert core) := by
  obtain ⟨conversion, planned, wrote⟩ := written
  have returned := text_return wrote (plan_present planned)
  rw [type.convert_eq, type.listDepth_layers]
  cases required : type.isRequired with
  | true =>
    rw [type.layers_eq, if_pos required]
    refine ⟨_, outputConversion_eq planned returned, (computes.required ?_).returns⟩
    rintro τ u ⟨rfl, rfl⟩
    exact conforms.present required
  | false =>
    have guarded : plan (.nullable :: type.presentLayers) binding (listDepth type.presentLayers)
        = .ok (orNone binding conversion) := by
      rw [plan, planned]
      rfl
    rw [type.layers_eq, required, if_neg Bool.false_ne_true]
    refine ⟨_, outputConversion_eq guarded ?_, computes.returns.guard bound⟩
    rw [Conversion.text, returned]
    rfl

/-- **The body of an accessor returns the converted value.** Whatever the layers of a type are, the code that is
    written for them is the body of an accessor, and returns the conversion of the raw value through the layers:
    nothing for nothing where a layer may be null, item by item at a list, and `core` at the named type. The
    template of the named type has to be one expression that computes `core`, and to name no item of an outer list.
    No literal of it may span lines, since the lines of the items of a list are indented. -/
theorem outputConversion_returns (bound : ReadsAs true binding source) (operand : isOperand source)
    (holds : (Expression.of source).eval host σ = some v)
    (computes : TemplateComputes true host σ (fun k => elementName k) rawValueHole template binding v core)
    (conforms : type.Conforms v) :
    ∃ text body, outputConversion type.layers binding (listDepth type.layers) 0 template = .ok text
      ∧ body? text = some body ∧ body.run host σ = type.convert core v := by
  have binds := Binds.only bound operand holds
  have leaf (binding text : String) (filled : Text.fillOne rawValueHole binding template = .ok text) :
      Written (fun value => Text.fillOne rawValueHole value template) [] binding 0 text := by
    refine ⟨.core binding, rfl, ?_⟩
    rw [Conversion.text, filled]
    rfl
  obtain ⟨expression, written, present⟩ := computes.exists_present writing leaf conforms binds
  obtain ⟨text, wrote, lines, body, reads, body_of, runs⟩ := returns_of_present written binds conforms present
  refine ⟨text, body, wrote, ?_, runs σ v ⟨rfl, rfl⟩⟩
  rw [body?, reads.of_flat.lines?]
  exact body_of

/-! Lists whose items are joined to a text that their template spells. -/

namespace JoinedItems

open Joining

/-- The type of lists of lists, where the inner lists are there and their items may be missing. -/
def nested : TypeRef := .list (.list (.named "String" false) true) false

theorem operand_reads : ReadsAs true "b" [.word "b"] := .name (by decide +kernel)

/-- A list of two lists. -/
def value : Datum String := .list [.list [.other "p", .none], .list []]

/-- The scope in which `b` holds a value. -/
def scope (v : Datum String) : Scope String := fun name => if name = "b" then some v else none

theorem elementName_ne {k : Nat} (later : k ≠ 0) {other : String} (start : other.toList.head? ≠ some 'i') :
    elementName k ≠ other := by
  rintro rfl
  have own : elementName k = "inner_value" ++ toString (k : Int) := if_neg (by omega)
  refine start ?_
  rw [own, String.toList_append]
  rfl

theorem nested_conforms : nested.Conforms value := by
  refine .inr ⟨_, rfl, ?_⟩
  simp [TypeRef.Conforms]

theorem not_mentions {k : Nat} {long : Bool} {text : String} (later : k ≠ 0) :
    ¬ Mentions (elementName k) (call "raw_value" long text) := by
  intro h
  rcases mentions_call h with same | same
  · exact elementName_ne later (by decide) same
  · exact elementName_ne later (by decide) same

theorem template_computes : TemplateComputes true Joining.host (scope value) (fun k => elementName k) rawValueHole
    "f($raw_value, 'x')" "b" value (join "x") where
  value := ⟨call "b" false "x", ⟨⟨"f(b, 'x')", by cbv, by rfl⟩, by rfl⟩, eval_call ..⟩
  item := ⟨call "raw_value" false "x", ⟨⟨"f(raw_value, 'x')", by cbv, by rfl⟩, by rfl⟩,
    fun _ later => not_mentions later,
    fun u => eval_call (Function.update (scope value) "raw_value" (some u)) "raw_value" false "x"⟩

end JoinedItems

section

open JoinedItems

/-- The items of nested lists are converted in their order, and what is missing stays missing. -/
theorem outputConversion_returns_nested :
    TemplateComputes true Joining.host (scope value) (fun k => elementName k) rawValueHole "f($raw_value, 'x')" "b"
        value (Joining.join "x")
      ∧ nested.Conforms value
      ∧ ∃ text body, outputConversion nested.layers "b" (listDepth nested.layers) 0 "f($raw_value, 'x')" = .ok text
        ∧ body? text = some body
        ∧ body.run Joining.host (scope value) = some (.list [.list [.other "px", .none], .list []]) :=
  ⟨template_computes, nested_conforms,
    outputConversion_returns operand_reads (by decide) (eval_name (by decide +kernel) rfl) template_computes
      nested_conforms⟩

end

/-! A literal that spans lines is not what its template spells any more, once it stands in a comprehension. -/

namespace ShiftedLiteral

open Joining

/-- A list whose items are there. -/
def list : TypeRef := .list (.named "String" true) true

/-- The scope in which `b` holds a list of one item. -/
def scope : Scope String := fun name => if name = "b" then some (.list [.other "p"]) else none

/-- A template with a literal that spans lines. -/
def multiline : String := "f($raw_value, '''a\nb''')"

/-- What is written for a list. -/
def written : String := "return [\n    f(raw_value, '''a\n    b''')\n    for raw_value in b\n]"

theorem filled : Text.fillOne rawValueHole "raw_value" multiline = .ok "f(raw_value, '''a\nb''')" := by cbv

theorem list_conforms : list.Conforms (.list [.other "p"]) :=
  .inr ⟨_, rfl, by simp [TypeRef.Conforms]⟩

/-- The template computes the joining of its text, when its literal may span lines. -/
theorem template_computes : TemplateComputes false Joining.host scope (fun k => elementName k) rawValueHole multiline
    "b" (.list [.other "p"]) (join "a\nb") where
  value := ⟨call "b" true "a\nb", ⟨⟨"f(b, '''a\nb''')", by cbv, by rfl⟩, by rfl⟩, eval_call ..⟩
  item := ⟨call "raw_value" true "a\nb", ⟨⟨_, filled, by rfl⟩, by rfl⟩, fun _ later => JoinedItems.not_mentions later,
    fun u => eval_call (Function.update scope "raw_value" (some u)) "raw_value" true "a\nb"⟩

theorem writes : outputConversion list.layers "b" (listDepth list.layers) 0 multiline = .ok written := by
  have core : (Conversion.core "raw_value").text (fun value => Text.fillOne rawValueHole value multiline) 1
      = .ok "f(raw_value, '''a\nb''')" := by
    rw [Conversion.text, filled]
    rfl
  have lines : "return " ++ Text.unlines ["[", Text.indent 1 "f(raw_value, '''a\nb''')",
      Text.indent 1 ("for " ++ "raw_value" ++ " in " ++ "b"), "]"] = written := by
    decide +kernel
  have planned : Conversion.plan list.layers "b" (listDepth list.layers)
      = .ok (.each "raw_value" "b" (.core "raw_value")) := by
    rfl
  rw [← lines]
  exact outputConversion_eq planned (text_return (text_each core) nofun)

/-- What is written is read as a comprehension over another literal. -/
theorem body : body? written = some (.value (.each "raw_value" (.of [.word "b"])
    (.of (call "raw_value" true "a\n    b")))) := by
  have lines : lines? written = some [⟨false, .word "return"
      :: Tree.each "raw_value" [.word "b"] (call "raw_value" true "a\n    b")⟩] := by rfl
  rw [body?, lines, Option.bind_some, Body.of?_value isOne_each, of_each (by decide) (by decide)]

theorem returned : (Body.value (.each "raw_value" (.of [.word "b"]) (.of (call "raw_value" true "a\n    b")))).run
    Joining.host scope = some (.list [.other "pa\n    b"]) := by
  have holds : (Expression.of [.word "b"]).eval Joining.host scope = some (.list [.other "p"]) :=
    eval_name (by decide +kernel) rfl
  simp only [Body.run, Expression.eval, holds, eval_call]
  rfl

end ShiftedLiteral

section

open ShiftedLiteral

/-- A template with a literal that spans lines computes one thing on its own and another one for the items of a list:
    the literal is indented with the lines around it. -/
theorem outputConversion_shifts_literal :
    ReadsAs false "b" [.word "b"] ∧ isOperand [.word "b"]
      ∧ (Expression.of [.word "b"]).eval Joining.host scope = some (.list [.other "p"])
      ∧ TemplateComputes false Joining.host scope (fun k => elementName k) rawValueHole multiline "b"
        (.list [.other "p"]) (Joining.join "a\nb")
      ∧ list.Conforms (.list [.other "p"])
      ∧ list.convert (Joining.join "a\nb") (.list [.other "p"]) = some (.list [.other "pa\nb"])
      ∧ ∃ text body, outputConversion list.layers "b" (listDepth list.layers) 0 multiline = .ok text
        ∧ body? text = some body ∧ body.run Joining.host scope = some (.list [.other "pa\n    b"])
        ∧ body.run Joining.host scope ≠ list.convert (Joining.join "a\nb") (.list [.other "p"]) := by
  have usable : Naming.Usable "b" := by decide +kernel
  have converted : list.convert (Joining.join "a\nb") (.list [.other "p"]) = some (.list [.other "pa\nb"]) := rfl
  refine ⟨.name usable.written, by decide, eval_name usable rfl, template_computes, list_conforms, converted, written,
    _, writes, body, returned, ?_⟩
  rw [returned, converted]
  simp only [ne_eq, Option.some.injEq, Datum.list.injEq, List.cons.injEq, Datum.other.injEq, and_true]
  decide

end

end OperationClasses
