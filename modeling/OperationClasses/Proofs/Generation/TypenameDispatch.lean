/-
Module: OperationClasses.Proofs.Generation.TypenameDispatch
Purpose: Classes for the values of interfaces and unions can read the type name that their accessors choose by.
Main exports: Resolved.isTypename, Written, Selected.written, TypenameBacked, typename_backs_dispatch
-/
import OperationClasses.Proofs.Generation.Representation
import OperationClasses.Proofs.Generation.Wrapping
import OperationClasses.Proofs.Validation.TypenameRule
import OperationClasses.Result.Basic

namespace OperationClasses

variable {s : Schema} {d : Document} {ds : List Document} {g : Generator} {r : Registry}

/-! ### Where selection sets are written -/

/-- What is selected for the values of a type is written below a field of the document. -/
def Written (s : Schema) (d : Document) (t : TypeDefinition) (selections : List Resolved) : Prop :=
  ∃ left below, Subtable left d.fragmentTable ∧ selections = resolveAll d.fragmentTable left below
    ∧ SelectsBelow s d t below ∧ SetOf s d (some t) below

/-- What an occurrence selects below it is written below a field. -/
def Occurrence.WrittenBelow (s : Schema) (d : Document) (o : Occurrence) : Prop :=
  ∀ inner t, o.below = some inner → s.core? o.type = some t → Written s d t inner

/-- A composite type is found as one. -/
theorem Schema.compositeType?_eq {name : String} {t : TypeDefinition} (known : s.find? name = some t)
    (composite : t.body.isComposite) : s.compositeType? name = some t := by
  rw [compositeType?, known, Option.filter_some, if_pos composite]

/-- What a field selects is written below it. -/
theorem SetOf.written_nested {parent t : TypeDefinition} {selections below : List Selection} {head : FieldHead}
    {type : TypeRef} {left : List Fragment} (set : SetOf s d (some parent) selections)
    (composite : parent.body.isComposite) (mem : .nested head below ∈ selections)
    (selectable : s.selectableType? parent head.name = some type) (known : s.core? type = some t)
    (ofComposite : t.body.isComposite) (fewer : Subtable left d.fragmentTable) :
    Written s d t (resolveAll d.fragmentTable left below) := by
  rw [Schema.selectableType?_eq composite] at selectable
  obtain ⟨field, found, rfl⟩ := Option.map_eq_some_iff.1 selectable
  have definition : s.definitionOf? (some parent) head.name = some field := found
  have inside := SetOf.nested set mem
  rw [definition, Option.bind_some, Schema.compositeType?_eq known ofComposite] at inside
  exact ⟨left, below, fewer, rfl, ⟨some parent, selections, head, field, set, mem, definition, known⟩, inside⟩

section Collect

variable {owner : String}

mutual

/-- What the occurrences from a member of a selection set select is written below fields. -/
theorem SetOf.written_of_collect {parent : TypeDefinition} {selections : List Selection} {left : List Fragment}
    (set : SetOf s d (some parent) selections) (composite : parent.body.isComposite)
    (fewer : Subtable left d.fragmentTable) (member : Selection) (mem : member ∈ selections)
    (fits : (resolve d.fragmentTable left member).Fits s parent) {conditions : List String} {os : List Occurrence}
    (collected : collect s owner conditions parent (resolve d.fragmentTable left member) = .ok os) :
    ∀ o ∈ os, o.WrittenBelow s d := by
  match member with
  | .leaf head =>
    rw [resolve, collect] at collected
    obtain ⟨_, _, last⟩ := bind_ok collected
    cases last
    intro o ho inner t selected
    cases List.mem_singleton.1 ho
    cases selected
  | .nested head below =>
    rw [resolve] at collected fits
    rw [collect] at collected
    obtain ⟨type, u, selectable, known, ofComposite, -⟩ := fits
    rw [fieldTypeOf, selectable] at collected
    cases collected
    intro o ho inner t selected isType
    cases List.mem_singleton.1 ho
    cases selected
    rw [known] at isType
    cases isType
    exact set.written_nested composite mem selectable known ofComposite fewer
  | .inline none directives inner =>
    rw [resolve] at collected fits
    rw [collect] at collected
    exact SetOf.written_of_collectAll (.inline set mem) composite fewer inner (List.Subset.refl _) fits collected
  | .inline (some condition) directives inner =>
    rw [resolve] at collected fits
    rw [collect] at collected
    obtain ⟨t, known, inComposite, fits⟩ := fits
    rw [typeNamed, known] at collected
    have inside := SetOf.inline set mem
    rw [Option.elim, Schema.compositeType?_eq known inComposite] at inside
    exact inside.written_of_collectAll inComposite fewer inner (List.Subset.refl _) fits collected
  | .spread name directives =>
    obtain ⟨f, t, found, inTable, known, inComposite, fits⟩ := fits.spread fewer
    rw [resolve_spread found, collect, typeNamed, known] at collected
    have inside := SetOf.fragment (s := s) (Document.mem_fragments_of_mem_table (List.mem_of_find?_eq_some inTable))
    rw [Schema.compositeType?_eq known inComposite] at inside
    exact inside.written_of_collectAll inComposite (fewer.without name) f.selections (List.Subset.refl _) fits
      collected
termination_by (left.length, sizeOf member)
decreasing_by
  · exact Prod.Lex.right _ (by simp only [Selection.inline.sizeOf_spec]; omega)
  · exact Prod.Lex.right _ (by simp only [Selection.inline.sizeOf_spec]; omega)
  · exact Prod.Lex.left _ _ (length_withoutFragment_lt found)

/-- What the occurrences from a part of a selection set select is written below fields. -/
theorem SetOf.written_of_collectAll {parent : TypeDefinition} {selections : List Selection} {left : List Fragment}
    (set : SetOf s d (some parent) selections) (composite : parent.body.isComposite)
    (fewer : Subtable left d.fragmentTable) (part : List Selection) (sub : part ⊆ selections)
    (fits : Resolved.AllFit s parent (resolveAll d.fragmentTable left part)) {conditions : List String}
    {os : List Occurrence}
    (collected : collectAll s owner conditions parent (resolveAll d.fragmentTable left part) = .ok os) :
    ∀ o ∈ os, o.WrittenBelow s d := by
  match part with
  | [] =>
    rw [resolveAll] at collected
    cases collected
    exact fun o ho => absurd ho List.not_mem_nil
  | first :: rest =>
    obtain ⟨own, others⟩ := List.cons_subset.1 sub
    rw [resolveAll] at collected fits
    rw [collectAll] at collected
    obtain ⟨found, collects, later⟩ := bind_ok collected
    obtain ⟨more, collects', last⟩ := bind_ok later
    cases last
    intro o ho
    rcases List.mem_append.1 ho with ho | ho
    · exact SetOf.written_of_collect set composite fewer first own fits.1 collects o ho
    · exact SetOf.written_of_collectAll set composite fewer rest others fits.2 collects' o ho
termination_by (left.length, sizeOf part)
decreasing_by
  · exact Prod.Lex.right _ (by simp only [List.cons.sizeOf_spec]; omega)
  · exact Prod.Lex.right _ (by simp only [List.cons.sizeOf_spec]; omega)

end

end Collect

/-- The selection sets of a document without faults are written in it. -/
theorem Selected.written (faultless : Faultless s d) (valid : s.Valid) {owner : TypeDefinition}
    {selections : List Resolved} (h : Selected s d owner selections) :
    ∃ left whole, Subtable left d.fragmentTable ∧ selections = resolveAll d.fragmentTable left whole
      ∧ SetOf s d (some owner) whole := by
  induction h with
  | @root o owner mem type =>
    have set := SetOf.operation (s := s) mem
    rw [type] at set
    exact ⟨_, o.selections, fun _ _ => id, rfl, set⟩
  | under outer occurs mem type _ selected ih =>
    obtain ⟨left, whole, fewer, rfl, set⟩ := ih
    obtain ⟨-, composite, fits⟩ := faultless.selected valid outer
    obtain ⟨left', below, fewer', same, -, inside⟩ := set.written_of_collectAll composite fewer whole
      (List.Subset.refl _) fits occurs _ mem _ _ selected type
    exact ⟨left', below, fewer', same, inside⟩

/-- What is selected below the occurrences of a document without faults is written below fields. -/
theorem Selected.writtenBelow (faultless : Faultless s d) (valid : s.Valid) {owner : TypeDefinition}
    {selections : List Resolved} (h : Selected s d owner selections) {os : List Occurrence}
    (occurs : occurrences s owner selections = .ok os) : ∀ o ∈ os, o.WrittenBelow s d := by
  obtain ⟨left, whole, fewer, rfl, set⟩ := h.written faultless valid
  obtain ⟨-, composite, fits⟩ := faultless.selected valid h
  exact set.written_of_collectAll composite fewer whole (List.Subset.refl _) fits occurs

/-! ### Asking for the type name -/

/-- Whether a member is the type name under its own name. -/
def Resolved.isTypename : Resolved → Bool
  | .leaf head => head.name == typenameField.name && head.aliasName.isNone
  | .nested head _ => head.name == typenameField.name && head.aliasName.isNone
  | _ => false

theorem isTypename_resolve {table left : List Fragment} (member : Selection) :
    (resolve table left member).isTypename = member.isTypename := by
  cases member with
  | leaf | nested | inline => rw [resolve]; rfl
  | spread name directives =>
    cases found : findFragment left name with
    | some f =>
      rw [resolve_spread found]
      rfl
    | none =>
      rw [resolve_spread_of_absent found]
      split <;> rfl

theorem resolve_mem_resolveAll {table left : List Fragment} {selections : List Selection} {member : Selection}
    (mem : member ∈ selections) : resolve table left member ∈ resolveAll table left selections := by
  induction selections with
  | nil => exact absurd mem List.not_mem_nil
  | cons first rest ih =>
    rw [resolveAll]
    rcases List.mem_cons.1 mem with rfl | mem
    · exact List.mem_cons_self
    · exact List.mem_cons_of_mem _ (ih mem)

/-- The type name that a selection set asks for is among its occurrences, under no condition. -/
theorem occurs_typename {owner : String} {parent : TypeDefinition} {selections : List Resolved}
    {os : List Occurrence} (collected : collectAll s owner [] parent selections = .ok os) {member : Resolved}
    (mem : member ∈ selections) (isTypename : member.isTypename) :
    ∃ o ∈ os, o.isTypename ∧ o.conditions = [] := by
  induction selections generalizing os with
  | nil => exact absurd mem List.not_mem_nil
  | cons first rest ih =>
    rw [collectAll] at collected
    obtain ⟨found, collects, later⟩ := bind_ok collected
    obtain ⟨more, collects', last⟩ := bind_ok later
    cases last
    rcases List.mem_cons.1 mem with rfl | mem
    · cases member with
      | leaf | nested =>
        rw [collect] at collects
        obtain ⟨_, _, last⟩ := bind_ok collects
        cases last
        exact ⟨_, List.mem_append_left _ List.mem_cons_self, isTypename, rfl⟩
      | narrowed | missing | cyclic => cases isTypename
    · obtain ⟨o, ho, found⟩ := ih collects' mem
      exact ⟨o, List.mem_append_right _ ho, found⟩

/-! ### Classes of interfaces and unions -/

/-- A composite type that is no interface or union has one possible type. -/
theorem Schema.length_runtimeTypes {t : TypeDefinition} {types : NameSet} (known : s.find? t.name = some t)
    (composite : t.body.isComposite) (concrete : ¬ t.body.isAbstract)
    (possible : s.runtimeTypes t.name = .ok types) : types.toList.length = 1 := by
  rw [runtimeTypes, known] at possible
  cases body : t.body with
  | object =>
    simp only [possibleTypes, body] at possible
    cases possible
    rfl
  | interface | union =>
    rw [body] at concrete
    exact absurd rfl concrete
  | scalar | enum | input =>
    rw [body] at composite
    cases composite

/-- What a class of a registry can tell of the runtime types of the objects that it wraps. -/
structure TellsTypes (s : Schema) (ds : List Document) (r : Registry) (c : ObjectClass) : Prop where
  /-- the selection sets that the class is for ask for the type name, if they ask for anything -/
  asks : ∀ d ∈ ds, ∀ owner selections, Takes s d r c.name owner selections → selections ≠ [] →
    ∃ member ∈ selections, member.isTypename
  /-- it has the accessor for the type name, unless these selection sets are all empty and it has no accessors -/
  accessor : .fixed "typename__" "str" typenameBody ∈ c.methods
    ∨ c.methods = [] ∧ ∀ d ∈ ds, ∀ owner selections, Takes s d r c.name owner selections → selections = []
  /-- an object that is wrapped in it, at a place where one of these selection sets is asked for, tells its runtime
      type -/
  tells : ∀ d ∈ ds, d.Undirected → ∀ given operation way t selections members,
    Wrapped s d r given operation way c.name t selections members →
    (∃ owner others, Takes s d r c.name owner others ∧ Asked s d operation way owner others ∧ others ≠ []) →
    ∀ o : ResultObject, o.resultClass.possibleTypes = c.possibleTypes → o.data = .obj members →
      o.typename = .ok (.str t.name)

/-- What a class for the values of a type is for asks for the type name, if the type is an interface or union and
    anything is asked for. -/
theorem Takes.asks (faultless : Faultless s d) (valid : s.Valid) (asks : AsksTypenames s d) {c : ObjectClass}
    (registered : r.find? c.name = some (.leaf c)) {owner : TypeDefinition} {selections : List Resolved}
    (takes : Takes s d r c.name owner selections) (isAbstract : owner.body.isAbstract)
    (some_ : selections ≠ []) : ∃ member ∈ selections, member.isTypename := by
  generalize named : c.name = className at takes
  rw [named] at registered
  cases takes with
  | root _ _ _ isRoot =>
    rw [registered] at isRoot
    cases isRoot
  | under outer occurs mem type _ _ selected =>
    obtain ⟨left, below, -, rfl, selects, -⟩ :=
      outer.selected.writtenBelow faultless valid occurs _ mem _ _ selected type
    have some_below : below ≠ [] := by
      rintro rfl
      exact some_ (by rw [resolveAll])
    obtain ⟨member, mem, isTypename⟩ := asks owner below selects isAbstract some_below
    exact ⟨_, resolve_mem_resolveAll mem, by rwa [isTypename_resolve]⟩

/-- What a selection set that asks for the type name reads of an object at its place. -/
theorem Meets.typename {given : String → Bool} {operation : Operation} {way : List (String × String)}
    {t owner : TypeDefinition} {selections : List Selection} {others : List Resolved}
    {members : List (String × Json)} (faultless : Faultless s d) (valid : s.Valid)
    (isOperation : operation ∈ d.operations) (meets : Meets s d given operation way t.name selections)
    (answers : Answers s d.fragmentTable given t selections members)
    (asked : Asked s d operation way owner others) {member : Resolved} (mem : member ∈ others)
    (isTypename : member.isTypename) : members.lookup typenameField.name = some (.str t.name) := by
  obtain ⟨os, occurs, -⟩ := faultless.readable valid (asked.selected isOperation)
  obtain ⟨o, ho, named, unconditional⟩ := occurs_typename occurs mem isTypename
  have applies : o.AppliesTo s t.name := by
    rw [Occurrence.AppliesTo, unconditional]
    exact fun _ hc => absurd hc List.not_mem_nil
  obtain ⟨x, met, depicts⟩ := meets.asked o ⟨owner, others, os, asked, occurs, ho, applies⟩
  have sameKey : x.head.responseKey = typenameField.name := by
    rw [← depicts.head]
    exact Occurrence.key_of_isTypename named
  have sameName : x.head.name = typenameField.name := by
    rw [← depicts.head]
    exact beq_iff_eq.1 (Bool.and_eq_true_iff.1 named).1
  have collected : typenameField.name ∈ responseKeys s d.fragmentTable given t.name selections :=
    mem_collectFields_iff.2 ⟨x, met, sameKey⟩
  obtain ⟨⟨_, fields⟩, group, rfl⟩ := List.mem_map.1 collected
  have field : x ∈ fields := (mem_group_iff group).2 ⟨met, sameKey⟩
  cases found : members.lookup typenameField.name with
  | none =>
    obtain ⟨p, hp, same⟩ := List.mem_map.1 (answers.mem_keys_iff.2 collected)
    have differs := List.lookup_eq_none_iff.1 found p hp
    rw [same] at differs
    simp at differs
  | some value =>
    obtain ⟨before, after, split_, -⟩ := List.lookup_eq_some_iff.1 found
    have present : (typenameField.name, value) ∈ members := by
      rw [split_]
      exact List.mem_append_right _ List.mem_cons_self
    cases answers with
    | object _ _ _ _ typename => rw [typename _ fields value x group present field sameName]

/-- What an object of a class that may have several possible types tells of its runtime type stands under its key. -/
theorem ResultObject.typename_eq {o : ResultObject} {members : List (String × Json)} {value : Json}
    (several : o.resultClass.possibleTypes.length ≠ 1) (data : o.data = .obj members)
    (found : members.lookup typenameField.name = some value) : o.typename = .ok value := by
  unfold ResultObject.typename
  split
  · rename_i only
    rw [only] at several
    exact absurd rfl several
  · have key : typenameField.name = "__typename" := rfl
    rw [key] at found
    rw [data, Json.member, found]
    rfl

theorem accessorName_typename : Naming.accessorName typenameField.name = .ok "typename__" := by cbv

namespace Generator.Ran

/-- A class has the accessor for the type name if a selection set that it is for asks for the type name. -/
theorem typename_mem (ran : g.Ran s ds) (valid : s.Valid) (mem : d ∈ ds) (faultless : Faultless s d)
    {c : ObjectClass} (registered : g.progress.registry.find? c.name = some (.leaf c)) {owner : TypeDefinition}
    {selections : List Resolved} (takes : Takes s d g.progress.registry c.name owner selections)
    {member : Resolved} (asks : member ∈ selections) (isTypename : member.isTypename) :
    .fixed "typename__" "str" typenameBody ∈ c.methods := by
  obtain ⟨os, occurs, -⟩ := faultless.readable valid takes.selected
  obtain ⟨o, ho, named, -⟩ := occurs_typename occurs asks isTypename
  obtain ⟨all, read⟩ := takes.readFor (ran.operationsRead .refl mem) occurs
  obtain ⟨x, m, found, accessor, key, fixed⟩ := read.accessor ho
  rw [registered] at found
  cases found
  rw [Occurrence.key_of_isTypename named, accessorName_typename] at key
  rw [fixed named, ← Except.ok.inj key] at accessor
  exact accessor

/-- An accessor that is not for the type name comes from a selection set that is not empty. -/
theorem exists_takes_of_field (ran : g.Ran s ds) {x : ClassDefinition}
    (registered : x ∈ g.progress.registry.classes) {a : FieldAccess} (accessor : .field a ∈ x.methods) :
    ∃ d ∈ ds, ∃ owner selections, Takes s d g.progress.registry x.name owner selections ∧ selections ≠ [] := by
  have made := ran.made .refl x registered _ accessor
  cases made with
  | field some_ all =>
    obtain ⟨path, hpath⟩ := List.exists_mem_of_ne_nil _ some_
    obtain ⟨-, d, hd, o, ⟨owner, selections, os, takes, occurs, ho⟩, -⟩ := all path hpath
    refine ⟨d, hd, owner, selections, takes, ?_⟩
    rintro rfl
    cases occurs
    exact List.not_mem_nil ho

/-- A class for the values of an interface or union tells their runtime types. -/
theorem tellsTypes (ran : g.Ran s ds) (valid : s.Valid) (accepted : ∀ d ∈ ds, Accepted s d) {c : ObjectClass}
    (registered : .leaf c ∈ g.progress.registry.classes) (several : c.possibleTypes.length ≠ 1) :
    TellsTypes s ds g.progress.registry c := by
  have found : g.progress.registry.find? c.name = some (.leaf c) := Registry.find?_of_mem registered
  have faultless : ∀ d ∈ ds, Faultless s d := fun d hd => (accepted d hd).faultless
  obtain ⟨types, known, possible⟩ := (ran.reached.wellFormed.2 _ registered c rfl).possible
  have asks : ∀ d ∈ ds, ∀ owner selections, Takes s d g.progress.registry c.name owner selections →
      selections ≠ [] → ∃ member ∈ selections, member.isTypename := by
    intro d hd owner selections takes some_
    refine takes.asks (faultless d hd) valid (accepted d hd).asksTypenames found ?_ some_
    obtain ⟨isKnown, composite, -⟩ := (faultless d hd).selected valid takes.selected
    obtain ⟨x, found', role⟩ := takes.role
    rw [found] at found'
    cases found'
    have sameType : c.typeName = owner.name := by
      rcases role with role | role
      · exact ClassRole.leaf.inj role
      · cases role
    by_contra concrete
    rw [sameType] at known
    rw [possible] at several
    exact several (Schema.length_runtimeTypes isKnown composite concrete known)
  constructor
  · exact asks
  · by_cases some_ : ∃ d ∈ ds, ∃ owner selections, Takes s d g.progress.registry c.name owner selections
        ∧ selections ≠ []
    · obtain ⟨d, hd, owner, selections, takes, some_⟩ := some_
      obtain ⟨member, mem, isTypename⟩ := asks d hd owner selections takes some_
      exact Or.inl (ran.typename_mem valid hd (faultless d hd) found takes mem isTypename)
    · cases methods : c.methods with
      | nil => exact Or.inr ⟨rfl, fun d hd owner selections takes => by_contra fun ne =>
          some_ ⟨d, hd, owner, selections, takes, ne⟩⟩
      | cons m rest =>
        have mem : m ∈ (ClassDefinition.leaf c).methods := by
          rw [ClassDefinition.methods, methods]
          exact List.mem_cons_self
        cases m with
        | field a => exact absurd (ran.exists_takes_of_field registered mem) some_
        | fixed name signature body =>
          have made := ran.made .refl _ registered _ mem
          cases made with
          | fixed named =>
            rw [accessorName_typename] at named
            cases named
            exact Or.inl List.mem_cons_self
  · intro d hd undirected given operation way t selections members wrapped shared o sameTypes data
    obtain ⟨owner, others, takes, asked, some_⟩ := shared
    obtain ⟨isOperation, meets⟩ := wrapped.meets (faultless d hd) valid undirected
    obtain ⟨member, mem, isTypename⟩ := asks d hd owner others takes some_
    refine ResultObject.typename_eq (by rwa [sameTypes]) data ?_
    exact meets.typename (faultless d hd) valid isOperation wrapped.answers asked mem isTypename

end Generator.Ran

/-- **The rule on the type name and the classes that rely on it.** The rule finds nothing in a document exactly if
    every field of an interface or union asks for the type name, if it has any selections. So the classes of accepted
    documents that may have several possible types tell the runtime types of the objects that they wrap. -/
theorem typename_backs_dispatch (s : Schema) :
    (∀ d, typenameFaults s d = [] ↔ AsksTypenames s d)
      ∧ ∀ ds (g : Generator), g.Ran s ds → s.Valid → (∀ d ∈ ds, Accepted s d) →
        ∀ c, .leaf c ∈ g.progress.registry.classes → c.possibleTypes.length ≠ 1 →
          TellsTypes s ds g.progress.registry c :=
  ⟨fun _ => typenameFaults_eq_nil_iff,
    fun _ _ ran valid accepted _ registered several => ran.tellsTypes valid accepted registered several⟩

/-! ### A field of a union -/

namespace UnionField

/-- One of two types with a number. -/
def one (name : String) : TypeDefinition := ⟨name, [], .object [] [⟨"n", [], .named "Int" true, []⟩]⟩

def either : TypeDefinition := ⟨"U", [], .union ["A", "B"]⟩

def query : TypeDefinition := ⟨"Query", [], .object [] [⟨"u", [], .named "U" true, []⟩]⟩

def schema : Schema := ⟨[query, either, one "A", one "B", ⟨"Int", [], .scalar⟩, ⟨"String", [], .scalar⟩,
  ⟨"__Schema", [], .object [] []⟩, ⟨"__Type", [], .object [] []⟩], [], some "Query", none, none⟩

def setup : Settings := ⟨schema, .empty none, false⟩

def operation (below : List Selection) : Operation :=
  ⟨none, .query, some "Q", [], [], [.nested ⟨none, "u", [], []⟩ below]⟩

def document (below : List Selection) : Document := ⟨[.operation (operation below)]⟩

/-- The class of the field, with what its selections lead to. -/
def leaf (methods : List Method) : ObjectClass := ⟨"Q_U", "U", ["A", "B"], methods, []⟩

def root : ObjectClass := ⟨"Q", "Query", ["Query"], [.field (.fresh "u"
  [⟨"u", "Q_U", "return Q_U(self.raw_result[\"u\"])", "Query", []⟩])], ["Q_U"]⟩

def details (below : List Selection) : OperationDetails :=
  ⟨"Q", "query", printDocument (operation below) (usedFragments (document below).fragmentTable
    (operation below).selections), []⟩

def registry (below : List Selection) (methods : List Method) : Registry :=
  ⟨[.leaf (leaf methods), .root root (details below)], by simp [leaf, root, ClassDefinition.name]⟩

def generator (below : List Selection) (methods : List Method) : Generator :=
  ⟨setup, registry below methods, [], [], ∅⟩

/-- The type name, and its accessor. -/
def asked : List Selection := [.leaf ⟨none, "__typename", [], []⟩]

def typename : List Method := [.fixed "typename__" "str" typenameBody]

theorem ends_asked : (Generator.start setup).generate (document asked)
    = (.ok [.root root (details asked)], generator asked typename) := by
  refine (generate_one_iff (o := operation asked) rfl).2 ⟨rfl, ?_⟩
  rw [generateOperation]
  dsimp only [generator, registry, details]
  -- the classes are the same whatever text is sent
  generalize printDocument (operation asked) _ = sent
  cbv

theorem ends_empty : (Generator.start setup).generate (document [])
    = (.ok [.root root (details [])], generator [] []) := by
  refine (generate_one_iff (o := operation []) rfl).2 ⟨rfl, ?_⟩
  rw [generateOperation]
  dsimp only [generator, registry, details]
  generalize printDocument (operation []) _ = sent
  cbv

theorem declared_asked : declare schema "query Q{u{__typename}}" "q.graphql"
    = .ok ⟨document asked, "query Q{u{__typename}}", "q.graphql"⟩ := by
  cbv

theorem declared_empty : declare schema "query Q{u{}}" "q.graphql"
    = .ok ⟨document [], "query Q{u{}}", "q.graphql"⟩ := by
  cbv

end UnionField

section

open UnionField

/-- The class of a field of a union tells the types of its values if the field asks for the type name. -/
theorem typename_backs_dispatch_union :
    schema.Valid ∧ (∀ d ∈ [document asked], Accepted schema d) ∧ typenameFaults schema (document asked) = []
      ∧ (generator asked typename).Ran schema [document asked]
      ∧ .leaf (leaf typename) ∈ (registry asked typename).classes ∧ (leaf typename).possibleTypes.length ≠ 1
      ∧ TellsTypes schema [document asked] (registry asked typename) (leaf typename) := by
  obtain ⟨rule, tells⟩ := typename_backs_dispatch schema
  have valid : schema.Valid := by decide
  have accepted : ∀ d ∈ [document asked], Accepted schema d := by
    intro d hd
    cases List.mem_singleton.1 hd
    exact ⟨_, _, _, declared_asked, rfl⟩
  have ran : (generator asked typename).Ran schema [document asked] := .generate (.start rfl) ends_asked
  have registered : .leaf (leaf typename) ∈ (registry asked typename).classes := List.mem_cons_self
  have several : (leaf typename).possibleTypes.length ≠ 1 := by decide
  have silent := (rule (document asked)).2 (accepted _ List.mem_cons_self).asksTypenames
  exact ⟨valid, accepted, silent, ran, registered, several,
    tells _ _ ran valid accepted _ registered several⟩

/-- A field of a union that selects nothing does not ask for the type name. The rule lets it pass, and its class has
    several possible types and no accessor for the type name. -/
theorem typename_missing_without_selections :
    schema.Valid
      ∧ declare schema "query Q{u{}}" "q.graphql" = .ok ⟨document [], "query Q{u{}}", "q.graphql"⟩
      ∧ SelectsBelow schema (document []) either [] ∧ either.body.isAbstract
      ∧ typenameFaults schema (document []) = [] ∧ (¬ ∃ member ∈ ([] : List Selection), member.isTypename)
      ∧ (Generator.start setup).generate (document []) = (.ok [.root root (details [])], generator [] [])
      ∧ .leaf (leaf []) ∈ (registry [] []).classes ∧ (leaf []).possibleTypes.length ≠ 1
      ∧ .fixed "typename__" "str" typenameBody ∉ (leaf []).methods := by
  have selects : SelectsBelow schema (document []) either [] :=
    ⟨some query, (operation []).selections, ⟨none, "u", [], []⟩, ⟨"u", [], .named "U" true, []⟩,
      .operation (o := operation []) List.mem_cons_self, List.mem_cons_self, rfl, rfl⟩
  refine ⟨by decide, declared_empty, selects, rfl, rfl, ?_, ends_empty, List.mem_cons_self, by decide, ?_⟩
  · exact fun ⟨_, absent, _⟩ => List.not_mem_nil absent
  · exact List.not_mem_nil

end

end OperationClasses
