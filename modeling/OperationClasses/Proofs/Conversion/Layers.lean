/-
Module: OperationClasses.Proofs.Conversion.Layers
Purpose: What a way of writing conversions computes through all layers of a type, when it is right at each layer.
  The items of lists have names of their own, by the number of lists that are left below them, and the code of an
  item only reads the name of the item it converts.
Main exports: Code.Around, Code.Writing, Code.Writing.converts, Code.Computes.of_item
-/
import OperationClasses.Proofs.Conversion.Computation
import OperationClasses.Text.Holes

namespace OperationClasses

variable {α : Type}

open Code

/-! ### The layers of a type -/

namespace TypeRef

/-- The layers of a type, its own missing value left out. -/
def presentLayers : TypeRef → List Layer
  | .named _ _ => []
  | .list item _ => .list :: item.layers

/-- The conversion of a value that is there. -/
def convertPresent (core : Datum α → Option (Datum α)) : TypeRef → Datum α → Option (Datum α)
  | .named _ _ => core
  | .list item _ => Datum.mapItems (item.convert core)

theorem layers_eq (type : TypeRef) :
    type.layers = if type.isRequired then type.presentLayers else .nullable :: type.presentLayers := by
  cases type with
  | named name required => rfl
  | list item required => cases required <;> rfl

theorem convert_eq (core : Datum α → Option (Datum α)) (type : TypeRef) :
    type.convert core = Datum.orNone type.isRequired (type.convertPresent core) := by
  cases type <;> rfl

theorem listDepth_layers (type : TypeRef) : listDepth type.layers = listDepth type.presentLayers := by
  rw [layers_eq]
  split <;> rfl

theorem Conforms.present {type : TypeRef} {v : Datum α} (h : type.Conforms v) (required : type.isRequired) :
    v ≠ .none := by
  rintro rfl
  cases type with
  | named name own => exact h rfl required
  | list item own =>
    rcases h with ⟨-, optional⟩ | ⟨items, same, -⟩
    · exact optional required
    · cases same

end TypeRef

namespace Code

variable {flat : Bool} {host : Host α} {σ τ : Scope α} {names : Nat → String}
  {core convert : Datum α → Option (Datum α)} {here : Setting α}

/-! ### Names of items -/

/-- A scope in which nothing but names of items may differ. -/
def Around (σ : Scope α) (names : Nat → String) (τ : Scope α) : Prop :=
  ∀ name, (∀ k, name ≠ names k) → τ name = σ name

theorem Around.update (h : Around σ names τ) (k : Nat) (v : Option (Datum α)) :
    Around σ names (Function.update τ (names k) v) := by
  intro name other
  rw [Function.update_of_ne (other k)]
  exact h name other

/-- The code of an item, which names no other items, computes the same wherever the item has its name: the names of
    the other items capture nothing that it needs. -/
theorem Computes.of_item {text : String} {trees : List Tree} (reads : ReadsAs flat text trees) (one : isOne trees)
    (apart : ∀ k ≠ 0, ¬ Mentions (names k) trees)
    (computes : ∀ v, (Expression.of trees).eval host (Function.update σ (names 0) (some v)) = core v)
    (around : ∀ τ v, here τ v → Around σ names τ ∧ τ (names 0) = some v) : Computes flat host here text core := by
  refine ⟨trees, reads, one, fun τ v at_ => ?_⟩
  obtain ⟨around, own⟩ := around τ v at_
  rw [← computes v]
  refine eval_congr fun name mentioned => ?_
  rcases eq_or_ne name (names 0) with rfl | other
  · rw [own, Function.update_self]
  · rw [Function.update_of_ne other]
    refine around name fun k => ?_
    rcases eq_or_ne k 0 with rfl | later
    · exact other
    · rintro rfl
      exact apart k later mentioned

/-! ### Ways of writing -/

/-- A way of writing conversions, which relates layers, an operand and a number of lists to a text, is right at each
    layer. -/
structure Writing (flat : Bool) (host : Host α) (σ : Scope α) (names : Nat → String)
    (written : List Layer → String → Nat → String → Prop) : Prop where
  usable : ∀ k, Naming.Usable (names k)
  nullable : ∀ {layers binding depth text here convert}, Binds flat host here binding →
    written layers binding depth text → Computes flat host here.present text convert →
    ∃ whole, written (.nullable :: layers) binding depth whole
      ∧ Computes flat host here whole (Datum.orNone false convert)
  list : ∀ {layers binding depth text here convert}, Binds flat host here binding → here.Lists →
    (∀ τ v, here τ v → Around σ names τ) →
    written layers (names depth) depth text → Computes flat host (here.itemOf (names depth)) text convert →
    ∃ whole, written (.list :: layers) binding (depth + 1) whole
      ∧ Computes flat host here whole (Datum.mapItems convert)

namespace Writing

variable {written : List Layer → String → Nat → String → Prop} {layers : List Layer} {ok : Datum α → Prop}

/-- The text for some layers computes a conversion of the values that are `ok`, if the text for no layers computes
    `core`. -/
def Converts (flat : Bool) (host : Host α) (σ : Scope α) (names : Nat → String)
    (written : List Layer → String → Nat → String → Prop) (core : Datum α → Option (Datum α)) (layers : List Layer)
    (ok : Datum α → Prop) (convert : Datum α → Option (Datum α)) : Prop :=
  ∀ binding here, Binds flat host here binding → (∀ τ v, here τ v → Around σ names τ ∧ ok v) →
    (listDepth layers = 0 → ∃ text, written [] binding 0 text ∧ Computes flat host here text core) →
    ∃ text, written layers binding (listDepth layers) text ∧ Computes flat host here text convert

theorem Converts.nil : Converts flat host σ names written core [] ok core :=
  fun _ _ _ _ leaf => leaf rfl

theorem Converts.nullable (writing : Writing flat host σ names written)
    (rest : Converts flat host σ names written core layers (fun v => ok v ∧ v ≠ .none) convert) :
    Converts flat host σ names written core (.nullable :: layers) ok (Datum.orNone false convert) := by
  intro binding here bound fits leaf
  have sub : ∀ τ v, here.present τ v → here τ v := fun _ _ at_ => at_.1
  obtain ⟨text, wrote, computes⟩ := rest _ _ (bound.mono sub)
    (fun τ v at_ => ⟨(fits τ v at_.1).1, (fits τ v at_.1).2, at_.2⟩)
    fun none_ => by
      obtain ⟨text, wrote, computes⟩ := leaf none_
      exact ⟨text, wrote, computes.mono sub⟩
  exact writing.nullable bound wrote computes

theorem Converts.list (writing : Writing flat host σ names written)
    (leaf : ∀ {here : Setting α}, (∀ τ v, here τ v → Around σ names τ ∧ τ (names 0) = some v) →
      ∃ text, written [] (names 0) 0 text ∧ Computes flat host here text core)
    (rest : Converts flat host σ names written core layers ok convert) :
    Converts flat host σ names written core (.list :: layers)
      (fun v => ∃ items, v = .list items ∧ ∀ u ∈ items, ok u) (Datum.mapItems convert) := by
  intro binding here bound fits _
  have lists : here.Lists := fun τ v at_ => by
    obtain ⟨items, rfl, -⟩ := (fits τ v at_).2
    exact ⟨items, rfl⟩
  have items_fit : ∀ τ v, here.itemOf (names (listDepth layers)) τ v → Around σ names τ ∧ ok v := by
    rintro τ v ⟨τ', items, at_, mem, rfl⟩
    obtain ⟨around, items', same, all⟩ := fits τ' _ at_
    cases same
    exact ⟨around.update _ _, all v mem⟩
  obtain ⟨text, wrote, computes⟩ := rest _ _ (Binds.item (writing.usable _)) items_fit fun none_ => by
    rw [none_]
    refine leaf fun τ v at_ => ⟨(items_fit τ v (none_ ▸ at_)).1, ?_⟩
    obtain ⟨τ', items, -, -, rfl⟩ := at_
    exact Function.update_self ..
  have depth : listDepth (.list :: layers) = listDepth layers + 1 := List.count_cons_self
  rw [depth]
  exact writing.list bound lists (fun τ v at_ => (fits τ v at_).1) wrote computes

/-- The layers of a type, if the layers of a value that is there are converted. -/
theorem Converts.of_present {type : TypeRef} (writing : Writing flat host σ names written)
    (present : Converts flat host σ names written core type.presentLayers (fun v => type.Conforms v ∧ v ≠ .none)
      (type.convertPresent core)) :
    Converts flat host σ names written core type.layers type.Conforms (type.convert core) := by
  rw [type.layers_eq, type.convert_eq]
  cases required : type.isRequired with
  | false => exact present.nullable writing
  | true =>
    intro binding here bound fits leaf
    have there : ∀ τ v, here τ v → v ≠ .none := fun τ v at_ => (fits τ v at_).2.present required
    obtain ⟨text, wrote, computes⟩ := present _ _ bound
      (fun τ v at_ => ⟨(fits τ v at_).1, (fits τ v at_).2, there τ v at_⟩) leaf
    refine ⟨text, wrote, ?_⟩
    exact Computes.required (computes.mono fun τ v at_ => at_.1) there

/-- **A way of writing that is right at each layer** computes the conversion that the layers of a type ask for, of
    every value that is there and has those layers. -/
theorem converts (writing : Writing flat host σ names written)
    (leaf : ∀ {here : Setting α}, (∀ τ v, here τ v → Around σ names τ ∧ τ (names 0) = some v) →
      ∃ text, written [] (names 0) 0 text ∧ Computes flat host here text core) (type : TypeRef) :
    Converts flat host σ names written core type.presentLayers (fun v => type.Conforms v ∧ v ≠ .none)
      (type.convertPresent core) := by
  induction type with
  | named name required => exact Converts.nil
  | list item required ih =>
    have list := Converts.list writing leaf (ih.of_present writing)
    intro binding here bound fits outer
    refine list _ _ bound (fun τ v at_ => ?_) outer
    obtain ⟨around, ⟨rfl, -⟩ | items, there⟩ := fits τ v at_
    · exact absurd rfl there
    · exact ⟨around, items⟩

end Writing

/-! ### Templates -/

/-- A template filled with an operand is one expression. -/
structure Filled (flat : Bool) (hole template operand : String) (trees : List Tree) : Prop where
  reads : ∃ text, Text.fillOne hole operand template = .ok text ∧ ReadsAs flat text trees
  one : isOne trees

/-- The template of a named type computes `core`: filled with the operand that holds the value to convert, and filled
    with the name of an item, whatever the item is. It names no item of an outer list. -/
structure TemplateComputes (flat : Bool) (host : Host α) (σ : Scope α) (names : Nat → String)
    (hole template binding : String) (v : Datum α) (core : Datum α → Option (Datum α)) : Prop where
  value : ∃ trees, Filled flat hole template binding trees ∧ (Expression.of trees).eval host σ = core v
  item : ∃ trees, Filled flat hole template (names 0) trees ∧ (∀ k ≠ 0, ¬ Mentions (names k) trees)
    ∧ ∀ u, (Expression.of trees).eval host (Function.update σ (names 0) (some u)) = core u

/-- In one scope, with one value. -/
def Setting.only (σ : Scope α) (v : Datum α) : Setting α := fun τ u => τ = σ ∧ u = v

theorem Binds.only {binding : String} {source : List Tree} {v : Datum α} (reads : ReadsAs flat binding source)
    (operand : isOperand source) (holds : (Expression.of source).eval host σ = some v) :
    Binds flat host (Setting.only σ v) binding := by
  refine ⟨source, reads, operand, ?_⟩
  rintro τ u ⟨rfl, rfl⟩
  exact holds

section

variable {written : List Layer → String → Nat → String → Prop} {hole template binding : String} {v : Datum α}

/-- **A way of writing that is right at each layer**, with a template that computes `core`, writes what converts a
    value that is there. -/
theorem TemplateComputes.exists_present (computes : TemplateComputes flat host σ names hole template binding v core)
    (writing : Writing flat host σ names written)
    (leaf : ∀ binding text, Text.fillOne hole binding template = .ok text → written [] binding 0 text)
    {type : TypeRef} (conforms : type.Conforms v) (bound : Binds flat host (Setting.only σ v) binding) :
    ∃ text, written type.presentLayers binding (listDepth type.presentLayers) text
      ∧ Computes flat host (Setting.only σ v).present text (type.convertPresent core) := by
  obtain ⟨item, ⟨⟨item_text, item_filled, item_reads⟩, item_one⟩, apart, items⟩ := computes.item
  obtain ⟨outer, ⟨⟨outer_text, outer_filled, outer_reads⟩, outer_one⟩, value⟩ := computes.value
  have converts := writing.converts (fun around => ⟨item_text, leaf _ _ item_filled,
    Computes.of_item item_reads item_one apart items around⟩) type
  refine converts _ _ (bound.mono fun _ _ at_ => at_.1) ?_ fun _ => ?_
  · rintro τ u ⟨⟨rfl, rfl⟩, there⟩
    exact ⟨fun _ _ => rfl, conforms, there⟩
  · refine ⟨outer_text, leaf _ _ outer_filled, outer, outer_reads, outer_one, ?_⟩
    rintro τ u ⟨⟨rfl, rfl⟩, -⟩
    exact value

/-- It writes what converts a value of the type. -/
theorem TemplateComputes.exists_written (computes : TemplateComputes flat host σ names hole template binding v core)
    (writing : Writing flat host σ names written)
    (leaf : ∀ binding text, Text.fillOne hole binding template = .ok text → written [] binding 0 text)
    {type : TypeRef} (conforms : type.Conforms v) (bound : Binds flat host (Setting.only σ v) binding) :
    ∃ text, written type.layers binding (listDepth type.layers) text
      ∧ Computes flat host (Setting.only σ v) text (type.convert core) := by
  obtain ⟨text, wrote, present⟩ := computes.exists_present writing leaf conforms bound
  rw [type.convert_eq, type.listDepth_layers, type.layers_eq]
  cases required : type.isRequired with
  | true =>
    refine ⟨text, wrote, present.required ?_⟩
    rintro τ u ⟨rfl, rfl⟩
    exact conforms.present required
  | false => exact writing.nullable bound wrote present

end

end Code

/-! ### A host

A host in which `f(x, 'text')` is the text that `x` stands for with the other one after it. -/

namespace Code.Joining

/-- The value of a text with another one after it. -/
def join (text : String) : Datum String → Option (Datum String)
  | .other own => some (.other (own ++ text))
  | _ => none

/-- The call of `f` for a name. -/
def call (name : String) (long : Bool) (text : String) : List Tree :=
  [.word "f", .group '(' [.word name, .mark ',', .literal [] false long text.toList]]

/-- The name and the text that `f` is called for. -/
def call? : List Tree → Option (String × List Char)
  | [.word "f", .group '(' [.word name, .mark ',', .literal [] _ _ content]] => some (name, content)
  | _ => none

/-- The host. -/
def host : Host String where
  value trees σ := (call? trees).bind fun (name, content) => (σ name).bind (join (String.ofList content))
  items _ := none
  call _ _ := none
  value_congr trees σ σ' agree := by
    unfold call?
    split
    · rename_i name double long content
      have own : σ name = σ' name :=
        agree name (.inside (List.mem_cons_of_mem _ List.mem_cons_self) (.word List.mem_cons_self))
      simp only [Option.bind_some, own]
    · rfl

theorem eval_call (σ : Scope String) (name : String) (long : Bool) (text : String) :
    (Expression.of (call name long text)).eval host σ = (σ name).bind (join text) := by
  have trees : Expression.of (call name long text) = .other (call name long text) := of_other rfl rfl rfl
  rw [trees, Expression.eval]
  change (σ name).bind (join (String.ofList text.toList)) = _
  rw [String.ofList_toList]

theorem mentions_call {name own text : String} {long : Bool} (h : Mentions name (call own long text)) :
    name = "f" ∨ name = own := by
  cases h with
  | word mem =>
    simp only [call, List.mem_cons, Tree.word.injEq, reduceCtorEq, List.not_mem_nil, or_false] at mem
    exact .inl mem
  | filled mem fills => simp [call] at mem
  | inside mem h =>
    simp only [call, List.mem_cons, reduceCtorEq, List.not_mem_nil, or_false, false_or, Tree.group.injEq] at mem
    obtain ⟨-, rfl⟩ := mem
    cases h with
    | word mem =>
      simp only [List.mem_cons, Tree.word.injEq, reduceCtorEq, List.not_mem_nil, or_false] at mem
      exact .inr mem
    | filled mem fills =>
      simp only [List.mem_cons, reduceCtorEq, List.not_mem_nil, or_false, false_or, Tree.literal.injEq] at mem
      obtain ⟨rfl, -⟩ := mem
      cases fills
    | inside mem h => simp at mem

end Code.Joining

end OperationClasses
