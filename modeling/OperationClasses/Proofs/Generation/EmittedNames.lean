/-
Module: OperationClasses.Proofs.Generation.EmittedNames
Purpose: Where the names in generated classes come from, and which of them a module can use.
Main exports: Schema.Spelled, ClassDefinition.Origin, Generator.Ran.origins, ClassDefinition.NamesUsable,
  names_usable_iff
-/
import OperationClasses.Proofs.Document.Spelling
import OperationClasses.Proofs.Generation.Contribution
import OperationClasses.Proofs.Generation.VariableClasses
import OperationClasses.Proofs.Naming.Identifier

namespace OperationClasses

open Generation Naming

variable {settings : Settings} {s : Schema} {ds : List Document} {d : Document} {p q : Progress}

/-! ### Fields of selection sets -/

mutual

/-- The fields that are selected in a selection without spreads, at all depths. -/
def Resolved.heads : Resolved → List FieldHead
  | .leaf head => [head]
  | .nested head below => head :: Resolved.headsAll below
  | .narrowed _ below => Resolved.headsAll below
  | .missing _ => []
  | .cyclic _ => []

/-- The fields that are selected in a list of selections without spreads, at all depths. -/
def Resolved.headsAll : List Resolved → List FieldHead
  | [] => []
  | r :: rest => r.heads ++ Resolved.headsAll rest

end

section Resolving

variable {table : List Fragment} {P : FieldHead → Prop}

mutual

/-- Without spreads, a selection selects its own fields and those of fragments. -/
theorem heads_resolve {available : List Fragment}
    (fragments : ∀ f ∈ available, ∀ head ∈ headsAll f.selections, P head) (member : Selection)
    (own : ∀ head ∈ member.heads, P head) : ∀ head ∈ (resolve table available member).heads, P head := by
  match member with
  | .leaf head =>
    rw [resolve]
    exact own
  | .nested head selections =>
    rw [resolve]
    obtain ⟨first, below⟩ := List.forall_mem_cons.1 own
    exact List.forall_mem_cons.2 ⟨first, heads_resolveAll fragments selections below⟩
  | .inline condition directives selections =>
    rw [resolve]
    exact heads_resolveAll fragments selections own
  | .spread name directives =>
    cases found : findFragment available name with
    | some f =>
      rw [resolve_spread found]
      have others : ∀ g ∈ withoutFragment available name, ∀ head ∈ headsAll g.selections, P head :=
        fun g hg => fragments g (List.mem_filter.1 hg).1
      exact heads_resolveAll others f.selections (fragments f (List.mem_of_find?_eq_some found))
    | none =>
      rw [resolve_spread_of_absent found]
      split <;> exact fun _ h => absurd h List.not_mem_nil
termination_by (available.length, sizeOf member)
decreasing_by
  · exact Prod.Lex.right _ (by simp only [Selection.nested.sizeOf_spec]; omega)
  · exact Prod.Lex.right _ (by simp only [Selection.inline.sizeOf_spec]; omega)
  · exact Prod.Lex.left _ _ (length_withoutFragment_lt found)

theorem heads_resolveAll {available : List Fragment}
    (fragments : ∀ f ∈ available, ∀ head ∈ headsAll f.selections, P head)
    (selections : List Selection) (own : ∀ head ∈ headsAll selections, P head) :
    ∀ head ∈ Resolved.headsAll (resolveAll table available selections), P head := by
  match selections with
  | [] =>
    rw [resolveAll]
    exact fun _ h => absurd h List.not_mem_nil
  | member :: rest =>
    rw [resolveAll]
    intro head mem
    rcases List.mem_append.1 mem with mem | mem
    · exact heads_resolve fragments member (fun x hx => own x (List.mem_append_left _ hx)) head mem
    · exact heads_resolveAll fragments rest (fun x hx => own x (List.mem_append_right _ hx)) head mem
termination_by (available.length, sizeOf selections)

end

/-- An occurrence selects fields of a property: its own, and all below it. -/
def Occurrence.Heads (P : FieldHead → Prop) (o : Occurrence) : Prop :=
  P o.head ∧ ∀ below, o.below = some below → ∀ head ∈ Resolved.headsAll below, P head

mutual

theorem heads_collect {owner : String} {conditions : List String} {parent : TypeDefinition} :
    ∀ {r : Resolved} {os : List Occurrence}, collect s owner conditions parent r = .ok os →
      (∀ head ∈ r.heads, P head) → ∀ o ∈ os, o.Heads P
  | .leaf head, os, h, own, o, ho => by
    obtain ⟨type, _, h⟩ := bind_ok (by simpa only [collect] using h)
    cases h
    rw [List.mem_singleton.1 ho]
    exact ⟨own head List.mem_cons_self, fun _ none_ => by cases none_⟩
  | .nested head below, os, h, own, o, ho => by
    obtain ⟨type, _, h⟩ := bind_ok (by simpa only [collect] using h)
    cases h
    rw [List.mem_singleton.1 ho]
    refine ⟨own head List.mem_cons_self, fun inner same => ?_⟩
    cases same
    exact fun x hx => own x (List.mem_cons_of_mem _ hx)
  | .narrowed none below, os, h, own, o, ho => heads_collectAll (by simpa only [collect] using h) own o ho
  | .narrowed (some condition) below, os, h, own, o, ho => by
    obtain ⟨t, _, h⟩ := bind_ok (by simpa only [collect] using h)
    exact heads_collectAll h own o ho
  | .missing name, os, h, own, o, ho => by cases h
  | .cyclic name, os, h, own, o, ho => by cases h

theorem heads_collectAll {owner : String} {conditions : List String} {parent : TypeDefinition} :
    ∀ {rs : List Resolved} {os : List Occurrence}, collectAll s owner conditions parent rs = .ok os →
      (∀ head ∈ Resolved.headsAll rs, P head) → ∀ o ∈ os, o.Heads P
  | [], os, h, own, o, ho => by
    cases h
    exact absurd ho List.not_mem_nil
  | r :: rest, os, h, own, o, ho => by
    obtain ⟨first, hf, h⟩ := bind_ok (by simpa only [collectAll] using h)
    obtain ⟨others, hr, h⟩ := bind_ok h
    cases h
    rcases List.mem_append.1 ho with ho | ho
    · exact heads_collect hf (fun x hx => own x (List.mem_append_left _ hx)) o ho
    · exact heads_collectAll hr (fun x hx => own x (List.mem_append_right _ hx)) o ho

end

end Resolving

/-- What an operation selects are fields of the document. -/
theorem heads_operation {o : Operation} (mem : o ∈ d.operations) :
    ∀ head ∈ Resolved.headsAll (resolveAll d.fragmentTable d.fragmentTable o.selections), head ∈ d.heads := by
  apply heads_resolveAll
  · intro f hf head hhead
    exact List.mem_append_right _ (List.mem_flatMap.2 ⟨f, Document.mem_fragments_of_mem_table hf, hhead⟩)
  · intro head hhead
    exact List.mem_append_left _ (List.mem_flatMap.2 ⟨o, mem, hhead⟩)

/-! ### Origins -/

/-- The names of a schema that classes get names from are spelled like names: those of types, of input fields and
    of enum values. -/
structure Schema.Spelled (s : Schema) : Prop where
  types : ∀ t ∈ s.types, Token.isName t.name
  fields : ∀ t ∈ s.types, ∀ fields, t.body = .input fields → ∀ f ∈ fields, Token.isName f.name
  values : ∀ t ∈ s.types, ∀ values, t.body = .enum values → ∀ v ∈ values, Token.isName v.name

/-- A name starts with the class name of an operation of the documents, and goes on with characters of names. -/
def NamedAfter (ds : List Document) (name : String) : Prop :=
  ∃ d ∈ ds, ∃ o ∈ d.operations, ∃ lead rest, operationClassName o.name = .ok lead
    ∧ name.toList = lead.toList ++ rest ∧ NameChars rest

/-- A field that the documents select. -/
def Selects (ds : List Document) (head : FieldHead) : Prop := ∃ d ∈ ds, head ∈ d.heads

/-- An accessor has the name of a response key in the documents. -/
def Method.Origin (ds : List Document) (m : Method) : Prop :=
  ∃ head, Selects ds head ∧ accessorName head.responseKey = .ok m.name

/-- The names in a class come from names in the schema and the documents. -/
def ClassDefinition.Origin (s : Schema) (ds : List Document) : ClassDefinition → Prop
  | .enum c => ∃ t values, s.find? t.name = some t ∧ t.body = .enum values
    ∧ typeClassName t.name = .ok c.name ∧ c.values = values.map (·.name)
  | .input c => ∃ t fields, s.find? t.name = some t ∧ t.body = .input fields
    ∧ typeClassName t.name = .ok c.name
    ∧ ∀ x ∈ c.arguments, ∃ f ∈ fields, safeIdentifier inputFieldReserved (underscore f.name) = .ok x.name
  | .leaf c => NamedAfter ds c.name ∧ '_' ∈ c.name.toList ∧ ∀ m ∈ c.methods, m.Origin ds
  | .root c operation => ∃ d ∈ ds, ∃ o ∈ d.operations, operationClassName o.name = .ok c.name
    ∧ (∀ m ∈ c.methods, m.Origin ds)
    ∧ ∀ x ∈ operation.parameters, ∃ v ∈ o.declarations,
      safeIdentifier variableReserved (underscore v.name) = .ok x.name

/-- The names in all classes so far come from names in the schema and the documents. -/
def Progress.Origins (s : Schema) (ds : List Document) (p : Progress) : Prop :=
  ∀ c ∈ p.registry.classes, c.Origin s ds

/-- The names in the class of an enum or of an input object type come from those of the type. -/
theorem holdsOfSupport_origin : HoldsOfSupport settings (fun _ => True) (·.Origin settings.schema ds) where
  enum _ type body named := ⟨_, _, type, body, named, rfl⟩
  field _ _ _ _ := trivial
  input _ type body named made := ⟨_, _, type, body, named, Variable.exists_source made⟩

/-! ### Results -/

/-- Merged accessors keep their name. -/
theorem mergeClosed_origin : MergeClosed (Method.Origin ds) := by
  intro m other merged h _ same merges
  obtain ⟨head, selects, named⟩ := h
  exact ⟨head, selects, by rw [named, (Method.merge_covers merges same).1.name]⟩

/-- What an occurrence adds to the name of a class consists of characters of names. -/
theorem Occurrence.suffix_chars {o : Occurrence} (h : o.head.Spelled) : NameChars o.suffix.toList := by
  obtain ⟨name, key⟩ := h
  have plain := camelize_chars (.of_isName name)
  unfold suffix
  split
  · rename_i other aliased
    rw [FieldHead.responseKey, aliased] at key
    split
    · rw [String.toList_append]
      exact fun c hc => (List.mem_append.1 hc).elim (camelize_chars (.of_isName key) c) (plain c)
    · exact plain
  · exact plain

/-- The class that an occurrence wants is named after the operation that the class around it is named after. -/
theorem NamedAfter.leafName {className : String} (h : NamedAfter ds className) (r : Registry) {o : Occurrence}
    {t : TypeDefinition} (head : o.head.Spelled) (type : Token.isName t.name) :
    NamedAfter ds (r.leafName (o.wanted className) t.name)
      ∧ '_' ∈ (r.leafName (o.wanted className) t.name).toList := by
  obtain ⟨d, hd, operation, ho, lead, rest, named, text, chars⟩ := h
  have suffix := Occurrence.suffix_chars head
  have wanted : (o.wanted className).toList = lead.toList ++ (rest ++ '_' :: o.suffix.toList) := by
    simp [Occurrence.wanted, text]
  have wantedChars : NameChars (rest ++ '_' :: o.suffix.toList) := fun c hc =>
    (List.mem_append.1 hc).elim (chars c) (List.forall_mem_cons.2 ⟨by decide, suffix⟩ c)
  have narrowed : ((o.wanted className) ++ "_" ++ t.name).toList
      = lead.toList ++ (rest ++ '_' :: o.suffix.toList ++ '_' :: t.name.toList) := by
    simp [wanted]
  have narrowedChars : NameChars (rest ++ '_' :: o.suffix.toList ++ '_' :: t.name.toList) := fun c hc =>
    (List.mem_append.1 hc).elim (wantedChars c)
      (List.forall_mem_cons.2 ⟨by decide, NameChars.of_isName type⟩ c)
  have plainCase : NamedAfter ds (o.wanted className) ∧ '_' ∈ (o.wanted className).toList :=
    ⟨⟨d, hd, operation, ho, lead, _, named, wanted, wantedChars⟩, by simp [wanted]⟩
  have narrowedCase : NamedAfter ds (o.wanted className ++ "_" ++ t.name)
      ∧ '_' ∈ (o.wanted className ++ "_" ++ t.name).toList :=
    ⟨⟨d, hd, operation, ho, lead, _, named, narrowed, narrowedChars⟩, by simp [wanted]⟩
  unfold Registry.leafName
  split
  · split
    · exact plainCase
    · exact narrowedCase
  · exact plainCase

theorem registerLeaf_origins {name : String} {type : TypeDefinition} {existing : Option ClassDefinition}
    {methods : List Method} {dependencies : List String} {u : Unit}
    (h : Yields (registerLeaf settings name type existing methods dependencies) p u q)
    (old : p.Origins s ds) (named : NamedAfter ds name ∧ '_' ∈ name.toList)
    (new : ∀ m ∈ methods, m.Origin ds) : q.Origins s ds := by
  intro x hx
  rcases mem_classes_of_registerLeaf h hx with before | ⟨c, all, registered, rfl, added, rfl⟩ | ⟨types, rfl⟩
  · exact old x before
  · obtain ⟨-, -, own⟩ := old _ registered
    exact ⟨named.1, named.2, ObjectClass.addMethods_all mergeClosed_origin added own new⟩
  · exact ⟨named.1, named.2, new⟩

/-- The names in what is read of occurrences come from the schema and the documents. -/
theorem Builds.origins {className : String} {found all : Accessors} {os : List Occurrence}
    (h : Builds settings className found os p all q) (spelled : settings.schema.Spelled)
    (named : NamedAfter ds className)
    (heads : ∀ o ∈ os, o.Heads fun head => head.Spelled ∧ Selects ds head)
    (before : ∀ m ∈ found.methods, m.Origin ds) (old : p.Origins settings.schema ds) :
    q.Origins settings.schema ds ∧ ∀ m ∈ all.methods, m.Origin ds := by
  induction h with
  | nil => exact ⟨old, before⟩
  | typename accessor claims _ adds _ ih =>
    obtain ⟨⟨⟨_, selects⟩, _⟩, others⟩ := List.forall_mem_cons.1 heads
    refine ih named others (adds.all mergeClosed_origin ?_ ⟨_, selects, accessor⟩) old
    rwa [claims.methods]
  | value accessor claims _ type simple reads _ _ adds _ ih =>
    obtain ⟨⟨⟨_, selects⟩, _⟩, others⟩ := List.forall_mem_cons.1 heads
    refine ih named others (adds.all mergeClosed_origin ?_ ⟨_, selects, accessor⟩)
      (coreOutput_all holdsOfSupport_origin trivial type simple reads old)
    rw [Accessors.dependOn, claims.methods]
    exact before
  | @object _ _ leaf _ _ _ _ _ _ _ _ _ _ _ before' _ _ _ accessor claims _ type _ selected occurs leafName _
      registers _ adds _ ih ih' =>
    obtain ⟨⟨⟨own, selects⟩, below⟩, others⟩ := List.forall_mem_cons.1 heads
    have isName := spelled.types _ (Schema.mem_types_of_find? type)
    have leafNamed := named.leafName before'.registry own isName
    rw [← leafName] at leafNamed
    obtain ⟨inner, methods⟩ := ih leafNamed.1 (heads_collectAll occurs (below _ selected))
      (fun _ h => absurd h List.not_mem_nil) old
    refine ih' named others (adds.all mergeClosed_origin ?_ ⟨_, selects, accessor⟩)
      (registerLeaf_origins registers inner leafNamed methods)
    rw [Accessors.dependOn, claims.methods]
    exact before

/-- So do those in what an operation of one of the documents leads to. -/
theorem Generates.origins {o : Operation} {c : ObjectClass} {details : OperationDetails} {all : Accessors}
    {os : List Occurrence} {owner : TypeDefinition} {between last : Progress} {registry : Registry}
    (h : Generates settings d.fragmentTable o p c details all os owner between last registry) (mem : d ∈ ds)
    (ho : o ∈ d.operations) (spelled : settings.schema.Spelled) (document : d.Spelled)
    (old : p.Origins settings.schema ds) :
    Progress.Origins settings.schema ds { last with registry := registry } := by
  have declared := declaredVariables_all holdsOfSupport_origin (fun _ _ => trivial) h.declares old
  have parameters := Variable.exists_source (declaredVariables_made h.declares)
  have heads : ∀ x ∈ os, x.Heads fun head => head.Spelled ∧ Selects ds head := by
    refine heads_collectAll h.occurs fun head hhead => ?_
    have inDocument := heads_operation ho head hhead
    exact ⟨document.heads head inDocument, d, mem, inDocument⟩
  have named : NamedAfter ds c.name :=
    ⟨d, mem, o, ho, c.name, [], h.named, by simp, fun _ h => absurd h List.not_mem_nil⟩
  obtain ⟨inner, methods⟩ := h.builds.origins spelled named heads (fun _ h => absurd h List.not_mem_nil) declared
  refine Registry.all_of_add h.added inner ⟨d, mem, o, ho, h.named, ?_, parameters⟩
  rwa [h.methods]

/-- After documents were generated, the names in all classes come from the schema and the documents. -/
theorem Generator.Ran.origins {g : Generator} (ran : g.Ran s ds) (spelled : s.Spelled)
    (documents : ∀ d ∈ ds, d.Spelled) : g.progress.Origins s ds := by
  refine ran.induction (fun _ absent => absurd absent List.not_mem_nil) fun d mem o ho => ?_
  rintro settings p c details all os owner between last registry rfl generates old
  exact generates.origins mem ho spelled (documents d mem) old

/-! ### Names that a module can use -/

/-- The names of the accessors of a class, each of which is that of a response key in the documents, and usable
    unless the key starts with a digit after its underscores. -/
def AccessorsUsable (ds : List Document) (methods : List Method) : Prop :=
  ∀ m ∈ methods, ∃ head, Selects ds head ∧ accessorName head.responseKey = .ok m.name
    ∧ (Usable m.name ↔ ¬ DigitLed head.responseKey)

/-- Which of the names in a class are usable. -/
def ClassDefinition.NamesUsable (s : Schema) (ds : List Document) : ClassDefinition → Prop
  | .enum c => ∃ t values, s.find? t.name = some t ∧ t.body = .enum values
    ∧ (Usable c.name ↔ ¬ DigitLed t.name ∧ t.name ∉ keywords)
    ∧ ∃ members, c.members = .ok members ∧ (members.map (·.2)).Perm (values.map (·.name))
      ∧ ∀ member ∈ members, Usable member.1 ↔ ¬ DigitLed member.2
  | .input c => ∃ t fields, s.find? t.name = some t ∧ t.body = .input fields
    ∧ (Usable c.name ↔ ¬ DigitLed t.name ∧ t.name ∉ keywords)
    ∧ ∀ x ∈ c.arguments, ∃ f ∈ fields, safeIdentifier inputFieldReserved (underscore f.name) = .ok x.name
      ∧ (Usable x.name ↔ ¬ DigitLed f.name)
  | .leaf c => Usable c.name ∧ AccessorsUsable ds c.methods
  | .root c operation => ∃ d ∈ ds, ∃ o ∈ d.operations, o.name = some c.name
    ∧ (Usable c.name ↔ c.name ∉ ["False", "None", "True"]) ∧ AccessorsUsable ds c.methods
    ∧ ∀ x ∈ operation.parameters, ∃ v ∈ o.declarations,
      safeIdentifier variableReserved (underscore v.name) = .ok x.name ∧ (Usable x.name ↔ ¬ DigitLed v.name)

theorem accessorsUsable {methods : List Method} (documents : ∀ d ∈ ds, d.Spelled)
    (h : ∀ m ∈ methods, m.Origin ds) : AccessorsUsable ds methods := by
  intro m hm
  obtain ⟨head, ⟨d, hd, mem⟩, named⟩ := h m hm
  have isName := ((documents d hd).heads head mem).2
  exact ⟨head, ⟨d, hd, mem⟩, named, usable_underscore_iff (.of_isName isName) named⟩

/-- A name after that of an operation is usable if it has an underscore. -/
theorem NamedAfter.usable {name : String} (h : NamedAfter ds name) (documents : ∀ d ∈ ds, d.Spelled)
    (long : '_' ∈ name.toList) : Usable name := by
  obtain ⟨d, hd, o, ho, lead, rest, named, text, chars⟩ := h
  obtain ⟨own, c, tail, start, capital⟩ := operationClassName_spec named
  have leadChars : NameChars lead.toList := .of_isName (((documents d hd).operations o ho).name lead own)
  rw [start, List.cons_append] at text
  refine usable_of_capital text capital (fun x hx => ?_) long
  rw [text, ← List.cons_append, ← start] at hx
  exact (List.mem_append.1 hx).elim (leadChars x) (chars x)

/-- After accepted documents were generated against a schema that is spelled in names, every name in a class comes
    from a name in the schema or the documents, and is usable with these exceptions: one that comes from a name
    with a digit after its leading underscores, and the class name of an enum or input type that has a keyword
    for its name, or of an operation that is called `False`, `None` or `True`. Class names of values are always
    usable. -/
theorem names_usable_iff {g : Generator} (spelled : s.Spelled) (accepted : ∀ d ∈ ds, Accepted s d)
    (ran : g.Ran s ds) : ∀ c ∈ g.progress.registry.classes, c.NamesUsable s ds := by
  have documents : ∀ d ∈ ds, d.Spelled := fun d hd => (accepted d hd).spelled
  intro c hc
  have origin := ran.origins spelled documents c hc
  cases c with
  | enum c =>
    obtain ⟨t, values, type, body, named, same⟩ := origin
    have mem := Schema.mem_types_of_find? type
    have sorted := List.mergeSort_perm c.values fun a b => decide (a ≤ b)
    have chars : ∀ value ∈ c.values.mergeSort (fun a b => decide (a ≤ b)), NameChars value.toList := by
      intro value hvalue
      rw [sorted.mem_iff, same] at hvalue
      obtain ⟨v, hv, rfl⟩ := List.mem_map.1 hvalue
      exact .of_isName (spelled.values t mem values body v hv)
    obtain ⟨members, made, ofValues, usable⟩ := usable_enumMembers chars
    refine ⟨t, values, type, body, usable_typeClassName_iff (.of_isName (spelled.types t mem)) named,
      members, made, ?_, usable⟩
    rw [ofValues, ← same]
    exact sorted
  | input c =>
    obtain ⟨t, fields, type, body, named, arguments⟩ := origin
    have mem := Schema.mem_types_of_find? type
    refine ⟨t, fields, type, body, usable_typeClassName_iff (.of_isName (spelled.types t mem)) named,
      fun x hx => ?_⟩
    obtain ⟨f, hf, named⟩ := arguments x hx
    have isName := spelled.fields t mem fields body f hf
    exact ⟨f, hf, named, usable_underscore_iff (.of_isName isName) named⟩
  | leaf c =>
    obtain ⟨after, long, methods⟩ := origin
    exact ⟨after.usable documents long, accessorsUsable documents methods⟩
  | root c operation =>
    obtain ⟨d, hd, o, ho, named, methods, parameters⟩ := origin
    have own := (documents d hd).operations o ho
    obtain ⟨name, -⟩ := operationClassName_spec named
    refine ⟨d, hd, o, ho, name, ?_, accessorsUsable documents methods, fun x hx => ?_⟩
    · exact usable_operationClassName_iff (fun text same => .of_isName (own.name text same)) named
    · obtain ⟨v, hv, named⟩ := parameters x hx
      exact ⟨v, hv, named, usable_underscore_iff (.of_isName (own.declared v hv)) named⟩

/-! ### A key of an underscore and a digit -/

namespace DigitLedKey

def query : TypeDefinition := ⟨"Query", [], .object []
  [⟨"n", [], .named "Int" true, []⟩, ⟨"status", [], .named "class" true, []⟩]⟩

/-- An enum type that has a keyword for its name. -/
def status : TypeDefinition := ⟨"class", [], .enum [⟨"OK", []⟩, ⟨"_2", []⟩]⟩

def schema : Schema := ⟨[query, status, ⟨"Int", [], .scalar⟩, ⟨"String", [], .scalar⟩,
  ⟨"__Schema", [], .object [] []⟩, ⟨"__Type", [], .object [] []⟩], [], some "Query", none, none⟩

def operation : Operation := ⟨none, .query, some "Q", [], [],
  [.leaf ⟨some "_1", "n", [], []⟩, .leaf ⟨none, "status", [], []⟩]⟩

def document : Document := ⟨[.operation operation]⟩

def enum : EnumClass := ⟨"class", "class", ["OK", "_2"]⟩

def accessor : Method := .field (.fresh "1_"
  [⟨"1_", "int", "return cast(int, self.raw_result[\"_1\"])", "Query", []⟩])

def root : ObjectClass := ⟨"Q", "Query", ["Query"], [accessor, .field (.fresh "status"
  [⟨"status", "class", "return class(self.raw_result[\"status\"])", "Query", []⟩])], ["class"]⟩

def details : OperationDetails :=
  ⟨"Q", "query", printDocument operation (usedFragments document.fragmentTable operation.selections), []⟩

def registry : Registry := ⟨[.enum enum, .root root details], by decide⟩

def generator : Generator := ⟨⟨schema, .empty none, false⟩, registry, [("class", "class")], [], ∅⟩

theorem ran : generator.Ran schema [document] := by
  have ends : (Generator.start ⟨schema, .empty none, false⟩).generate document
      = (.ok [.root root details], generator) := by
    refine (generate_one_iff (o := operation) rfl).2 ⟨rfl, ?_⟩
    rw [generateOperation]
    dsimp only [generator, registry, details]
    -- the classes are the same whatever text is sent
    generalize printDocument operation _ = sent
    cbv
  exact .generate (.start rfl) ends

theorem accepted : Accepted schema document := by
  refine ⟨"query Q{_1:n status}", "q.graphql", ⟨document, "query Q{_1:n status}", "q.graphql"⟩, ?_, rfl⟩
  cbv

theorem spelled : schema.Spelled := by
  constructor
  · intro t ht
    fin_cases ht <;> cbv
  · intro t ht fields body
    fin_cases ht <;> cases body
  · intro t ht values body
    fin_cases ht <;> cases body
    intro v hv
    fin_cases hv <;> cbv

end DigitLedKey

section

open DigitLedKey

/-- A response key of an underscore and a digit gives an accessor that a module cannot use, and an enum type that
    has a keyword for its name a class that it cannot use. -/
theorem names_usable_iff_digit_led :
    schema.Spelled ∧ Accepted schema document ∧ generator.Ran schema [document]
      ∧ (ClassDefinition.root root details).NamesUsable schema [document]
      ∧ (ClassDefinition.enum enum).NamesUsable schema [document]
      ∧ accessor ∈ root.methods ∧ ¬ Usable accessor.name ∧ ¬ Usable enum.name := by
  have accepted : ∀ d ∈ [document], Accepted schema d :=
    List.forall_mem_singleton.2 DigitLedKey.accepted
  have usable := names_usable_iff DigitLedKey.spelled accepted DigitLedKey.ran
  exact ⟨DigitLedKey.spelled, DigitLedKey.accepted, DigitLedKey.ran,
    usable _ (List.mem_cons_of_mem _ List.mem_cons_self), usable _ List.mem_cons_self, List.mem_cons_self,
    by decide +kernel, by decide +kernel⟩

end

end OperationClasses
