/-
Module: OperationClasses.Proofs.Generation.Imports
Purpose: The import statements that a run notes are those of the bindings of the scalars that what it generated uses,
  all of them and no other.
Main exports: Settings.bindingOf, Settings.Demands, Builds.mem_imports_iff, NotesFor, Operation.Uses,
  Task.mem_imports_iff, Generator.imports_exact
-/
import OperationClasses.Proofs.Generation.InputClosure
import OperationClasses.Proofs.Generation.OperationOrder
import OperationClasses.Proofs.Generation.StrictScalars
import OperationClasses.Proofs.Selection.Fetching

namespace OperationClasses

open Generation

variable {settings : Settings} {s : Schema} {table : List Fragment} {p q r : Progress} {name line : String}

/-! ### Scalars -/

/-- The binding of a scalar: the registered one, else the one built in, else the generic one. -/
def Settings.bindingOf (settings : Settings) (name : String) : Binding :=
  (settings.knownBinding? name).getD genericBinding

/-- The use of a type demands an import statement: the type is a scalar, and the statement one of its binding. -/
def Settings.Demands (settings : Settings) (name line : String) : Prop :=
  settings.schema.isScalar name ∧ line ∈ (settings.bindingOf name).imports

theorem Settings.Binds.eq_bindingOf {binding : Binding} (binds : settings.Binds name binding) :
    binding = settings.bindingOf name := by
  unfold bindingOf
  cases binds with
  | known found => rw [found, Option.getD_some]
  | generic unknown => rw [unknown, Option.getD_none]

/-- The type of a scalar is one. -/
theorem Schema.body_of_isScalar {t : TypeDefinition} (scalar : s.isScalar name) (found : s.find? name = some t) :
    t.body = .scalar := by
  obtain ⟨own, directives, body⟩ := t
  unfold isScalar at scalar
  rw [found] at scalar
  cases body with
  | scalar => rfl
  | _ => cases scalar

theorem scalarBinding_imports {t : TypeDefinition} {binding : Binding} (type : settings.schema.find? name = some t)
    (body : t.body = .scalar) (h : Yields (scalarBinding settings name) p binding q) :
    line ∈ q.imports ↔ line ∈ p.imports ∨ settings.Demands name line := by
  obtain ⟨binds, rfl⟩ := yields_scalarBinding_iff.1 h
  rw [NameSet.mem_union, binds.eq_bindingOf, Settings.Demands,
    and_iff_right (Schema.isScalar_of_find? type body)]

theorem enumClass_imports {className : String} {values : List EnumValueDefinition}
    (h : Yields (enumClass name values) p className q) : q.imports = p.imports := by
  rcases yields_enumClass_iff.1 h with ⟨-, rfl⟩ | ⟨-, -, registry, -, rfl⟩ <;> rfl

/-! ### Results -/

theorem registerLeaf_imports {type : TypeDefinition} {existing : Option ClassDefinition} {methods : List Method}
    {dependencies : List String} {u : Unit}
    (h : Yields (registerLeaf settings name type existing methods dependencies) p u q) : q.imports = p.imports := by
  rcases yields_registerLeaf_iff.1 h with ⟨_, _, _, _, _, rfl⟩ | ⟨_, _, _, _, _, rfl⟩ <;> rfl

/-- Reading a type without selections notes what the type demands. -/
theorem coreOutput_imports {wanted : String} {o : Occurrence} {t : TypeDefinition} {core : TypedOutput}
    (type : settings.schema.core? o.type = some t) (simple : ¬ t.body.isComposite)
    (h : Yields (coreOutput settings wanted o) p core q) :
    line ∈ q.imports ↔ line ∈ p.imports ∨ settings.Demands o.type.core line := by
  rcases (yields_coreOutput_iff type simple).1 h with ⟨scalar, binding, bound, -⟩ | ⟨values, className, enum, read, -⟩
  · rw [← Schema.name_of_find? type]
    exact scalarBinding_imports (Schema.find?_name type) scalar bound
  · rw [enumClass_imports read, or_iff_left]
    rintro ⟨scalar, -⟩
    rw [Schema.body_of_isScalar scalar type] at enum
    cases enum

/-- What an occurrence leads to demands an import statement. -/
def Occurrence.Demands (settings : Settings) (line : String) (o : Occurrence) : Prop :=
  ∃ type, o.LeadsTo settings.schema type ∧ settings.Demands type.core line

namespace Occurrence

variable {o : Occurrence} {t : TypeDefinition}

theorem not_demands_of_isTypename (isTypename : o.isTypename) : ¬ o.Demands settings line :=
  fun ⟨_, leads, _⟩ => not_leadsTo_of_isTypename isTypename leads

theorem demands_iff_of_simple (notTypename : ¬ o.isTypename) (type : settings.schema.core? o.type = some t)
    (simple : ¬ t.body.isComposite) : o.Demands settings line ↔ settings.Demands o.type.core line := by
  simp only [Demands, leadsTo_iff_of_simple notTypename type simple, exists_eq_left]

/-- A type with selections demands nothing itself. -/
theorem demands_iff_of_composite {selections : List Resolved} {os : List Occurrence} (notTypename : ¬ o.isTypename)
    (type : settings.schema.core? o.type = some t) (composite : t.body.isComposite)
    (selected : o.below = some selections) (occurs : occurrences settings.schema t selections = .ok os) :
    o.Demands settings line ↔ ∃ inner ∈ os, inner.Demands settings line := by
  simp only [Demands, leadsTo_iff_of_composite notTypename type composite selected occurs]
  constructor
  · rintro ⟨_, rfl | ⟨inner, mem, leads⟩, demands⟩
    · rw [Schema.body_of_isScalar demands.1 type] at composite
      cases composite
    · exact ⟨inner, mem, _, leads, demands⟩
  · rintro ⟨inner, mem, type', leads, demands⟩
    exact ⟨type', Or.inr ⟨inner, mem, leads⟩, demands⟩

end Occurrence

/-- Reading occurrences notes what they demand. -/
theorem Builds.mem_imports_iff {className : String} {found all : Accessors} {os : List Occurrence}
    (h : Builds settings className found os p all q) :
    line ∈ q.imports ↔ line ∈ p.imports ∨ ∃ o ∈ os, o.Demands settings line := by
  induction h with
  | nil => simp
  | typename _ _ isTypename _ _ ih =>
    rw [ih, List.exists_mem_cons_iff, or_iff_right (Occurrence.not_demands_of_isTypename isTypename)]
  | value _ _ notTypename type simple reads _ _ _ _ ih =>
    rw [ih, List.exists_mem_cons_iff, coreOutput_imports type simple reads,
      Occurrence.demands_iff_of_simple notTypename type simple, or_assoc]
  | object _ _ notTypename type composite selected occurs _ _ registers _ _ _ inside others =>
    rw [others, List.exists_mem_cons_iff, registerLeaf_imports registers, inside,
      Occurrence.demands_iff_of_composite notTypename type composite selected occurs, or_assoc]

/-- A field that a selection set fetches is one that the occurrences lead to which were read of the set. -/
theorem Fetches.exists_leadsTo {parent : TypeDefinition} {selections : List Selection} {type : TypeRef}
    (h : Fetches s table parent selections type) :
    ∀ {settings : Settings} {available : List Fragment} {className : String} {os : List Occurrence} {all : Accessors}
      {p q : Progress}, settings.schema = s → Subtable available table →
        occurrences s parent (resolveAll table available selections) = .ok os →
        Builds settings className Accessors.empty os p all q → ∃ o ∈ os, o.LeadsTo s type := by
  induction h with
  | own reached field notTypename known =>
    intro settings available className os all p q _ fewer occurs _
    obtain ⟨o, mem, _, shows⟩ := (occurrences_shown fewer occurs).complete reached field
    rw [shows.type] at known
    cases known
    refine ⟨o, mem, .own ?_⟩
    rwa [Occurrence.isTypename, shows.head]
  | deeper reached field notTypename known named composite selected _ ih =>
    rintro settings available className os all p q rfl fewer occurs builds
    obtain ⟨o, mem, _, shows⟩ := (occurrences_shown fewer occurs).complete reached field
    rw [shows.type] at known
    cases known
    have notTypename' : ¬ o.isTypename := by rwa [Occurrence.isTypename, shows.head]
    obtain ⟨available', fewer', below⟩ := shows.below
    rw [selected, Option.map_some] at below
    obtain ⟨-, os', all', reads⟩ := builds.readFor_of_mem .refl mem notTypename' named composite below
    obtain ⟨settings', p', q', same, builds', -⟩ := reads.builds
    obtain ⟨inner, memBelow, leads⟩ := ih same fewer' reads.occurs builds'
    exact ⟨o, mem, .deeper notTypename' named composite below reads.occurs memBelow leads⟩

/-! ### Variables -/

/-- The field of an input object type that has a class demands an import statement. -/
def Registry.FieldDemands (settings : Settings) (r : Registry) (line : String) : Prop :=
  ∃ c name, .input c ∈ r.classes ∧ settings.schema.HasInputField c.graphqlName name ∧ settings.Demands name line

theorem Registry.FieldDemands.mono {r r' : Registry} (keeps : r.Keeps r') (h : r.FieldDemands settings line) :
    r'.FieldDemands settings line := by
  obtain ⟨c, name, listed, rest⟩ := h
  exact ⟨c, name, mem_classes_of_find? (keeps.input (find?_of_mem listed)), rest⟩

/-- The import statements that a step leaves noted were noted before, or the use of one of some types demands them, or
    a field of an input object type that has a class by then. -/
def NotesFor (settings : Settings) (names : List String) (p q : Progress) : Prop :=
  ∀ line ∈ q.imports, line ∈ p.imports ∨ (∃ name ∈ names, settings.Demands name line)
    ∨ q.registry.FieldDemands settings line

namespace NotesFor

variable {names names' : List String}

theorem of_imports (same : q.imports = p.imports) : NotesFor settings names p q := by
  intro line noted
  rw [same] at noted
  exact Or.inl noted

theorem trans (first : NotesFor settings names p q) (rest : NotesFor settings names' q r)
    (keeps : q.registry.Keeps r.registry) : NotesFor settings (names ++ names') p r := by
  intro line noted
  rcases rest line noted with noted | ⟨name, mem, demands⟩ | demands
  · rcases first line noted with old | ⟨name, mem, demands⟩ | demands
    · exact Or.inl old
    · exact Or.inr (Or.inl ⟨name, List.mem_append_left _ mem, demands⟩)
    · exact Or.inr (Or.inr (demands.mono keeps))
  · exact Or.inr (Or.inl ⟨name, List.mem_append_right _ mem, demands⟩)
  · exact Or.inr (Or.inr demands)

/-- Once the class of an input object type is registered, its own fields are fields that have a class. -/
theorem register {fields : List InputDefinition} {t : TypeDefinition} {c : InputClass} {registry : Registry}
    (notes : NotesFor settings (fields.map (·.type.core)) p q)
    (type : settings.schema.find? c.graphqlName = some t) (body : t.body = .input fields)
    (added : q.registry.add (.input c) = .ok registry) : NotesFor settings [] p { q with registry := registry } := by
  intro line noted
  rcases notes line noted with old | ⟨name, mem, demands⟩ | demands
  · exact Or.inl old
  · obtain ⟨f, hf, rfl⟩ := List.mem_map.1 mem
    have own : .input c ∈ registry.classes := Registry.mem_classes_of_find? (Registry.find?_of_add added)
    exact Or.inr (Or.inr ⟨c, _, own, ⟨t, fields, f, type, body, hf, rfl⟩, demands⟩)
  · exact Or.inr (Or.inr (demands.mono (.of_add added)))

end NotesFor

mutual

/-- Reading a type of variables notes at most what the type demands and what fields demand that have a class then. -/
theorem coreInput_notesFor (available : List String) (name : String) {p q : Progress} {core : TypedInput}
    (h : Yields (coreInput settings available name) p core q) : NotesFor settings [name] p q := by
  unfold coreInput at h
  split at h
  · rename_i type
    simp only [yields_bind_iff, yields_pure_iff] at h
    obtain ⟨_, _, bound, rfl, rfl⟩ := h
    intro line noted
    refine ((scalarBinding_imports type rfl bound).1 noted).imp_right fun demands => Or.inl ?_
    exact ⟨name, List.mem_cons_self, demands⟩
  · simp only [yields_bind_iff, yields_pure_iff] at h
    obtain ⟨_, _, read, rfl, rfl⟩ := h
    exact .of_imports (enumClass_imports read)
  · rename_i type
    simp only [yields_bind_iff, yields_pure_iff] at h
    obtain ⟨_, _, read, rfl, rfl⟩ := h
    exact (inputClassOf_notesFor available name _ type rfl read).trans (.of_imports rfl) .refl
  · exact absurd h not_yields_throw
  · exact absurd h not_yields_throw
termination_by (available.length, 2, 0)

theorem inputClassOf_notesFor (available : List String) (name : String) (fields : List InputDefinition)
    {t : TypeDefinition} (type : settings.schema.find? name = some t) (body : t.body = .input fields)
    {p q : Progress} {className : String} (h : Yields (inputClassOf settings available name fields) p className q) :
    NotesFor settings [] p q := by
  rcases yields_inputClassOf_iff.1 h with ⟨-, rfl⟩ | ⟨-, -, ⟨-, rfl⟩ |
    ⟨listed, xs, between, registry, read, added, rfl⟩⟩
  · exact .of_imports rfl
  · exact .of_imports rfl
  · have smaller := length_erase_lt listed
    exact (inputFields_notesFor (available.erase name) fields read).register type body added
termination_by (available.length, 1, 0)
decreasing_by exact Prod.Lex.left _ _ smaller

theorem inputFields_notesFor (available : List String) (fields : List InputDefinition) {p q : Progress}
    {xs : List Variable} (h : Yields (inputFields settings available fields) p xs q) :
    NotesFor settings (fields.map (·.type.core)) p q := by
  match fields with
  | [] =>
    rw [inputFields, yields_pure_iff] at h
    obtain ⟨-, rfl⟩ := h
    exact .of_imports rfl
  | field :: rest =>
    obtain ⟨_, core, typed, others, between, -, read, -, later, -⟩ := yields_inputFields_cons_iff.1 h
    have first := coreInput_notesFor available field.type.core read
    have supports := (Supporting.closed.inputFields available rest).supports later
    exact first.trans (inputFields_notesFor available rest later) (.of_supports supports)
termination_by (available.length, 3, fields.length)

end

/-- Reading the variables of an operation notes at most what their types demand and what fields demand that have a
    class then. -/
theorem declaredVariables_notesFor {vs : List VariableDeclaration} {xs : List Variable}
    (h : Yields (vs.mapM (declaredVariable settings)) p xs q) :
    NotesFor settings (vs.map (·.type.core)) p q := by
  induction vs generalizing p xs with
  | nil =>
    obtain ⟨-, rfl⟩ := yields_pure_iff.1 h
    exact .of_imports rfl
  | cons v rest ih =>
    obtain ⟨x, between, others, first, later, -⟩ := yields_mapM_cons_iff.1 h
    obtain ⟨_, -, first⟩ := yields_declaredVariable_iff.1 first
    obtain ⟨_, core, _, -, read, -, -⟩ := yields_variableDefinition_iff.1 first
    have supports := Supporting.declaredVariables.supports later
    exact (coreInput_notesFor _ _ read).trans (ih later) (.of_supports supports)

/-- What a type demands that was read is noted. -/
theorem ReadAs.noted {core : TypedInput} (reads : ReadAs settings p name core) (demands : settings.Demands name line) :
    line ∈ p.imports := by
  obtain ⟨scalar, listed⟩ := demands
  cases reads with
  | scalar _ _ binds noted =>
    rw [← binds.eq_bindingOf] at listed
    exact noted line listed
  | enum type body | input type body =>
    rw [Schema.body_of_isScalar scalar type] at body
    cases body

/-- What fields demand that have a class is noted. -/
theorem Progress.Recorded.noted (recorded : p.Recorded settings) (demands : p.registry.FieldDemands settings line) :
    line ∈ p.imports := by
  obtain ⟨c, name, listed, ⟨t, fields, f, type, body, mem, rfl⟩, demands⟩ := demands
  obtain ⟨x, _, core, _, -, reads, -⟩ := exists_of_forall₂ (fields_of_input recorded listed type body) mem
  exact reads.noted demands

/-! ### Operations -/

/-- An operation uses a type: that of a field that it selects, directly or through fragments and at any depth, the
    type name under its own name aside, or that of one of its variables. -/
inductive Operation.Uses (s : Schema) (table : List Fragment) (o : Operation) : String → Prop where
  | field {owner : TypeDefinition} {type : TypeRef} (root : s.rootType o.kind = some owner)
      (fetches : Fetches s table owner o.selections type) : Operation.Uses s table o type.core
  | declared {v : VariableDeclaration} (mem : v ∈ o.declarations) : Operation.Uses s table o v.type.core

/-- What an operation uses demands an import statement. -/
def Task.Demands (settings : Settings) (line : String) (t : Task) : Prop :=
  ∃ name, t.operation.Uses settings.schema t.table name ∧ settings.Demands name line

/-- Once an operation was generated, what it demands is noted, and what fields demand that have a class then, on top
    of what was noted before. -/
theorem Task.mem_imports_iff {t : Task} {x : ClassDefinition} (h : Yields (t.generate settings) p x q)
    (linked : Linked settings.schema [] p) (recorded : p.Recorded settings) :
    line ∈ q.imports ↔ line ∈ p.imports ∨ t.Demands settings line ∨ q.registry.FieldDemands settings line := by
  obtain ⟨keeps, -, recordedAfter⟩ := Task.linked h linked recorded
  obtain ⟨c, details, all, os, owner, between, last, registry, generates, -, rfl⟩ := generateOperation_generates h
  have reading := generates.builds.keeps_progress
  constructor
  · intro noted
    rcases generates.builds.mem_imports_iff.1 noted with noted | ⟨o, mem, type, leads, demands⟩
    · rcases declaredVariables_notesFor generates.declares line noted with old | ⟨_, mem, demands⟩ | demands
      · exact Or.inl old
      · obtain ⟨v, declared, rfl⟩ := List.mem_map.1 mem
        exact Or.inr (Or.inl ⟨_, .declared declared, demands⟩)
      · exact Or.inr (Or.inr (demands.mono (reading.registry.trans (.of_add generates.added))))
    · exact Or.inr (Or.inl ⟨_, .field generates.type (leads.fetches (fun _ _ => id) generates.occurs mem), demands⟩)
  · rintro (old | ⟨_, uses, demands⟩ | demands)
    · exact keeps.imports line old
    · cases uses with
      | field root fetches =>
        rw [generates.type] at root
        cases root
        obtain ⟨o, mem, leads⟩ := fetches.exists_leadsTo rfl (fun _ _ => id) generates.occurs generates.builds
        exact generates.builds.mem_imports_iff.2 (Or.inr ⟨o, mem, _, leads, demands⟩)
      | declared mem =>
        obtain ⟨-, reads⟩ := declaredVariables_recorded linked recorded generates.declares
        obtain ⟨_, _, _, core, _, -, -, reads, -⟩ := exists_of_forall₂ reads mem
        exact reading.imports line (reads.noted demands)
    · exact recordedAfter.noted demands

/-- Once operations were generated one after the other, what they demand is noted, and what fields demand that have a
    class then, on top of what was noted before. -/
theorem tasks_mem_imports_iff {ts : List Task} {xs : List ClassDefinition}
    (h : Yields (ts.mapM (Task.generate settings)) p xs q) (linked : Linked settings.schema [] p)
    (recorded : p.Recorded settings) :
    line ∈ q.imports
      ↔ line ∈ p.imports ∨ (∃ t ∈ ts, t.Demands settings line) ∨ q.registry.FieldDemands settings line := by
  induction ts generalizing p xs with
  | nil =>
    obtain ⟨-, rfl⟩ := yields_pure_iff.1 h
    refine ⟨Or.inl, ?_⟩
    rintro (old | ⟨_, absent, -⟩ | demands)
    · exact old
    · exact absurd absent List.not_mem_nil
    · exact recorded.noted demands
  | cons t rest ih =>
    obtain ⟨x, between, others, first, later, -⟩ := yields_mapM_cons_iff.1 h
    obtain ⟨-, linked', recorded'⟩ := Task.linked first linked recorded
    obtain ⟨keeps, -⟩ := tasks_linked later linked' recorded'
    -- the classes that are there after the first operation are there at the end
    have stays : between.registry.FieldDemands settings line → q.registry.FieldDemands settings line :=
      fun demands => demands.mono keeps.registry
    rw [ih later linked' recorded', Task.mem_imports_iff first linked recorded, List.exists_mem_cons_iff]
    grind

/-! ### Runs -/

/-- A type is used by what was generated of documents: by one of their operations, or as the type of a field of an
    input object type that has a class. -/
def Generator.Uses (g : Generator) (ds : List Document) (name : String) : Prop :=
  (∃ d ∈ ds, ∃ o ∈ d.operations, o.Uses g.settings.schema d.fragmentTable name)
    ∨ ∃ c, .input c ∈ g.progress.registry.classes ∧ g.settings.schema.HasInputField c.graphqlName name

/-- **Imports**: after documents were generated by a new generator, none of which failed, its imports are in strictly
    increasing order, and are the import statements of the bindings of exactly those scalars that are used by what was
    generated. -/
theorem Generator.imports_exact (settings : Settings) {ds : List Document} {g : Generator}
    (ends : (start settings).generateAll ds = (.ok (), g)) :
    g.imports.Pairwise (· < ·) ∧ ∀ line, line ∈ g.imports
      ↔ ∃ name, g.Uses ds name ∧ settings.schema.isScalar name ∧ line ∈ (settings.bindingOf name).imports := by
  obtain ⟨same, xs, yields⟩ := generateAll_eq_iff.1 ends
  refine ⟨g.progress.imports.sorted, fun line => ?_⟩
  have fresh : line ∉ (start settings).progress.imports := NameSet.not_mem_empty
  rw [imports, NameSet.mem_toList, tasks_mem_imports_iff yields .start .start, or_iff_right fresh]
  unfold Uses
  rw [show g.settings = settings from same]
  constructor
  · rintro (⟨t, mem, name, uses, demands⟩ | ⟨c, name, listed, field, demands⟩)
    · obtain ⟨d, hd, hmem⟩ := List.mem_flatMap.1 mem
      obtain ⟨o, ho, rfl⟩ := List.mem_map.1 hmem
      exact ⟨name, Or.inl ⟨d, hd, o, ho, uses⟩, demands⟩
    · exact ⟨name, Or.inr ⟨c, listed, field⟩, demands⟩
  · rintro ⟨name, ⟨d, hd, o, ho, uses⟩ | ⟨c, listed, field⟩, demands⟩
    · exact Or.inl ⟨_, List.mem_flatMap.2 ⟨d, hd, List.mem_map_of_mem ho⟩, name, uses, demands⟩
    · exact Or.inr ⟨c, name, listed, field, demands⟩

/-! Prices, times and dates: a fragment selects the price of an item, which has a binding of its own, and a variable of
another query has a field for a date. Nothing selects when an item was sold. -/

namespace Items

def schema : Schema := ⟨[⟨"Query", [], .object [] [⟨"item", [], .named "Item" true, []⟩]⟩,
    ⟨"Item", [], .object []
      [⟨"price", [], .named "Money" true, []⟩, ⟨"sold", [], .named "ISO8601DateTime" false, []⟩]⟩,
    ⟨"Filter", [], .input [⟨"day", .named "ISO8601Date" true, none, []⟩]⟩, ⟨"Money", [], .scalar⟩,
    ⟨"ISO8601DateTime", [], .scalar⟩, ⟨"ISO8601Date", [], .scalar⟩, ⟨"String", [], .scalar⟩],
  [], some "Query", none, none⟩

def setup : Settings :=
  ⟨schema, ⟨none, [("Money", ⟨"Decimal", "Decimal($raw_value)", "str($value)",
    NameSet.singleton "from decimal import Decimal"⟩)]⟩, false⟩

/-- A query for the price of an item, by way of a fragment. -/
def price : Operation := ⟨none, .query, some "Price", [], [], [.spread "Whole" []]⟩

/-- A query with a variable for a filter, which selects a type name only. -/
def filtered : Operation := ⟨none, .query, some "Filtered", [⟨none, "by", .named "Filter" true, none, []⟩], [],
  [.leaf ⟨none, "__typename", [], []⟩]⟩

def ofPrice : Document := ⟨[.operation price,
  .fragment ⟨none, "Whole", "Query", [], [.nested ⟨none, "item", [], []⟩ [.leaf ⟨none, "price", [], []⟩]]⟩]⟩

def ofFilter : Document := ⟨[.operation filtered]⟩

end Items

open Items in
/-- Both queries together need the imports for prices and dates, and none for times. -/
theorem Generator.imports_exact_items :
    let (result, g) := (start setup).generateAll [ofPrice, ofFilter]
    result = .ok () ∧ g.imports = ["from datetime import date", "from decimal import Decimal"]
      ∧ g.imports.Pairwise (· < ·) ∧ ∀ line, line ∈ g.imports
        ↔ ∃ name, g.Uses [ofPrice, ofFilter] name ∧ schema.isScalar name
          ∧ line ∈ (setup.bindingOf name).imports := by
  have ran : ((start setup).generateAll [ofPrice, ofFilter]).1 = .ok ()
      ∧ ((start setup).generateAll [ofPrice, ofFilter]).2.imports
        = ["from datetime import date", "from decimal import Decimal"] := by
    have one : ofPrice.operations = [price] := rfl
    have other : ofFilter.operations = [filtered] := rfl
    simp only [generateAll, generate, run, generateDocument, one, other, List.mapM_cons, List.mapM_nil,
      generateOperation]
    -- the imports are the same whatever texts are sent
    generalize printDocument price _ = sent
    generalize printDocument filtered _ = sent'
    cbv
  exact ⟨ran.1, ran.2, imports_exact setup (Prod.ext ran.1 rfl)⟩

end OperationClasses
