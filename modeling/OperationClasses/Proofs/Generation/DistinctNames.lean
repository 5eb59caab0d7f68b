/-
Module: OperationClasses.Proofs.Generation.DistinctNames
Purpose: When the variables of an operation, and the fields of an input class, have names of their own: exactly if no
  two of the names that they come from meet in one identifier. Nothing stops a run in which two do.
Main exports: Naming.Meet, Naming.identifier_eq_iff_meet, ClassDefinition.Sourced, Generator.Ran.sourced, SendsOwn,
  NamedApart, variable_names_distinct_iff
-/
import OperationClasses.Proofs.Generation.EmittedNames

namespace OperationClasses

open Generation Naming

variable {settings : Settings} {s : Schema} {ds : List Document} {d : Document} {p q : Progress}
  {reserved : List String}

/-! ### Names that come to one identifier -/

namespace Naming

variable {a b name x out : String}

/-- The spelling that an identifier is made from: underscored, with leading underscores at the end. -/
def spelling? (name : String) : Option String :=
  (rotateUnderscores (underscore name).toList).map String.ofList

/-- A spelling is escaped if the other one is what its escape gives. -/
def EscapesTo (reserved : List String) (x y : String) : Prop := x ∈ keywords ++ reserved ∧ y = x.push '_'

instance (reserved : List String) (x y : String) : Decidable (EscapesTo reserved x y) :=
  inferInstanceAs (Decidable (_ ∧ _))

/-- Two names meet in one identifier: their spellings are the same, or one of these is escaped to the other one. -/
def Meet (reserved : List String) (a b : String) : Prop :=
  ∃ x ∈ spelling? a, ∃ y ∈ spelling? b, x = y ∨ EscapesTo reserved x y ∨ EscapesTo reserved y x

instance (reserved : List String) (a b : String) : Decidable (Meet reserved a b) :=
  inferInstanceAs (Decidable (∃ x ∈ spelling? a, ∃ y ∈ spelling? b, _))

/-- One underscore frees every reserved name. -/
def OneEscape (reserved : List String) : Prop := ∀ word ∈ keywords ++ reserved, word.push '_' ∉ keywords ++ reserved

theorem oneEscape_variables : OneEscape variableReserved := by
  unfold OneEscape
  decide +kernel

theorem oneEscape_inputFields : OneEscape inputFieldReserved := by
  unfold OneEscape
  decide +kernel

/-- The identifier that a spelling gives. -/
def escaped (reserved : List String) (x : String) : String := if x ∈ keywords ++ reserved then x.push '_' else x

theorem freeName_eq (once : OneEscape reserved) (x : String) :
    freeName (keywords ++ reserved) x = escaped reserved x := by
  unfold escaped freeName
  split
  · rename_i taken
    have free : x.push '_' ∉ (keywords ++ reserved).erase x := fun mem => once x taken (List.mem_of_mem_erase mem)
    rw [freeName, if_neg free]
  · rfl

/-- An identifier is the escaped spelling of the name that it was made from. -/
theorem identifier_eq (once : OneEscape reserved) (made : safeIdentifier reserved (underscore name) = .ok out) :
    ∃ x ∈ spelling? name, out = escaped reserved x := by
  unfold safeIdentifier at made
  split at made
  · cases made
  · rename_i rotated found
    cases made
    exact ⟨String.ofList rotated, by rw [spelling?, found]; rfl, freeName_eq once _⟩

theorem push_inj {x y : String} {c : Char} (same : x.push c = y.push c) : x = y := by
  have characters := congrArg String.toList same
  rw [String.toList_push, String.toList_push] at characters
  exact String.toList_inj.1 (List.append_cancel_right characters)

/-- Two spellings are escaped to one identifier exactly if they are the same or one is escaped to the other. -/
theorem escaped_eq_iff (once : OneEscape reserved) {x y : String} :
    escaped reserved x = escaped reserved y ↔ x = y ∨ EscapesTo reserved x y ∨ EscapesTo reserved y x := by
  unfold escaped EscapesTo
  by_cases hx : x ∈ keywords ++ reserved <;> by_cases hy : y ∈ keywords ++ reserved
  · rw [if_pos hx, if_pos hy]
    constructor
    · exact fun same => Or.inl (push_inj same)
    · rintro (rfl | ⟨-, rfl⟩ | ⟨-, rfl⟩)
      · rfl
      · exact absurd hy (once x hx)
      · exact absurd hx (once y hy)
  · rw [if_pos hx, if_neg hy]
    constructor
    · exact fun same => Or.inr (Or.inl ⟨hx, same.symm⟩)
    · rintro (rfl | ⟨-, same⟩ | ⟨listed, -⟩)
      · exact absurd hx hy
      · exact same.symm
      · exact absurd listed hy
  · rw [if_neg hx, if_pos hy]
    constructor
    · exact fun same => Or.inr (Or.inr ⟨hy, same⟩)
    · rintro (rfl | ⟨listed, -⟩ | ⟨-, same⟩)
      · exact absurd hy hx
      · exact absurd listed hx
      · exact same
  · rw [if_neg hx, if_neg hy]
    constructor
    · exact Or.inl
    · rintro (same | ⟨listed, -⟩ | ⟨listed, -⟩)
      · exact same
      · exact absurd listed hx
      · exact absurd listed hy

/-- Two names get one identifier exactly if they meet. -/
theorem identifier_eq_iff_meet {i j : String} (once : OneEscape reserved)
    (ha : safeIdentifier reserved (underscore a) = .ok i) (hb : safeIdentifier reserved (underscore b) = .ok j) :
    i = j ↔ Meet reserved a b := by
  obtain ⟨x, hx, rfl⟩ := identifier_eq once ha
  obtain ⟨y, hy, rfl⟩ := identifier_eq once hb
  rw [escaped_eq_iff once]
  constructor
  · exact fun related => ⟨x, hx, y, hy, related⟩
  · rintro ⟨x', hx', y', hy', related⟩
    rw [Option.mem_def] at hx hy hx' hy'
    cases hx.symm.trans hx'
    cases hy.symm.trans hy'
    exact related

end Naming

/-! ### Where variables come from -/

/-- The variables of a class come one by one from what the schema or a document says: those of an input class from
    the fields of its type, those of the class of an operation from what the operation declares. -/
def ClassDefinition.Sourced (s : Schema) (ds : List Document) : ClassDefinition → Prop
  | .input c => ∃ t fields, s.find? c.graphqlName = some t ∧ t.body = .input fields
    ∧ List.Forall₂ (Variable.Made inputFieldReserved) (fields.map (·.name)) c.arguments
  | .root c operation => ∃ d ∈ ds, ∃ o ∈ d.operations, operationClassName o.name = .ok c.name
    ∧ List.Forall₂ (Variable.Made variableReserved) (o.declarations.map (·.name)) operation.parameters
  | _ => True

/-- The variables of all classes so far come from the schema and the documents. -/
def Progress.Sourced (s : Schema) (ds : List Document) (p : Progress) : Prop :=
  ∀ c ∈ p.registry.classes, c.Sourced s ds

/-- The fields of an input class are made from those of its type. -/
theorem holdsOfSupport_sourced : HoldsOfSupport settings (fun _ => True) (·.Sourced settings.schema ds) where
  enum _ _ _ _ := trivial
  field _ _ _ _ := trivial
  input _ type body _ made := ⟨_, _, type, body, made⟩

theorem registerLeaf_sourced {name : String} {type : TypeDefinition} {existing : Option ClassDefinition}
    {methods : List Method} {dependencies : List String} {u : Unit}
    (h : Yields (registerLeaf settings name type existing methods dependencies) p u q)
    (old : p.Sourced s ds) : q.Sourced s ds := by
  intro x hx
  rcases mem_classes_of_registerLeaf h hx with before | ⟨c, all, -, -, -, rfl⟩ | ⟨types, rfl⟩
  · exact old x before
  · trivial
  · trivial

/-- Reading selections registers no class with variables. -/
theorem Builds.sourced {className : String} {found all : Accessors} {os : List Occurrence}
    (h : Builds settings className found os p all q) (old : p.Sourced settings.schema ds) :
    q.Sourced settings.schema ds := by
  induction h with
  | nil => exact old
  | typename _ _ _ _ _ ih => exact ih old
  | value _ _ _ type simple reads _ _ _ _ ih =>
    exact ih (coreOutput_all holdsOfSupport_sourced trivial type simple reads old)
  | object _ _ _ _ _ _ _ _ _ registers _ _ _ inside others =>
    exact others (registerLeaf_sourced registers (inside old))

/-- The class of an operation has variables from what the operation declares. -/
theorem Generates.sourced {o : Operation} {c : ObjectClass} {details : OperationDetails} {all : Accessors}
    {os : List Occurrence} {owner : TypeDefinition} {between last : Progress} {registry : Registry}
    (h : Generates settings d.fragmentTable o p c details all os owner between last registry) (mem : d ∈ ds)
    (ho : o ∈ d.operations) (old : p.Sourced settings.schema ds) :
    Progress.Sourced settings.schema ds { last with registry := registry } := by
  have declared := declaredVariables_all holdsOfSupport_sourced (fun _ _ => trivial) h.declares old
  exact Registry.all_of_add h.added (h.builds.sourced declared)
    ⟨d, mem, o, ho, h.named, declaredVariables_made h.declares⟩

/-- After documents were generated, the variables of all classes come from the schema and the documents. -/
theorem Generator.Ran.sourced {g : Generator} (ran : g.Ran s ds) : g.progress.Sourced s ds := by
  refine ran.induction (fun _ absent => absurd absent List.not_mem_nil) fun d mem o ho => ?_
  rintro settings p c details all os owner between last registry rfl generates old
  exact generates.sourced mem ho old

/-! ### Names given once -/

theorem nodup_of_repeats {names : List String} (none_ : repeats names = []) : names.Nodup := by
  induction names with
  | nil => exact List.nodup_nil
  | cons name rest ih =>
    rw [repeats] at none_
    split at none_
    · cases none_
    · rename_i once
      exact List.nodup_cons.2 ⟨fun again => once (List.contains_iff_mem.2 again), ih none_⟩

/-- No operation of an accepted document declares a variable twice. -/
theorem Accepted.declarations_nodup (accepted : Accepted s d) {o : Operation} (mem : o ∈ d.operations) :
    (o.declarations.map (·.name)).Nodup := by
  obtain ⟨before, silent⟩ := exists_faults_eq_nil accepted.documentFaults (mem_definitions_of_mem_operations mem)
  have reported : .ofRules (declarationFaults s o) ∈ definitionSteps s d before (.operation o) :=
    List.mem_append_left _ (List.mem_append_left _ (by simp))
  have faults : declarationFaults s o = [] := List.map_eq_nil_iff.1 (silent reported)
  exact nodup_of_repeats (List.map_eq_nil_iff.1 (List.append_eq_nil_iff.1 faults).1)

/-- No input object type has two fields of one name. -/
def Schema.InputsDistinct (s : Schema) : Prop :=
  ∀ t ∈ s.types, ∀ fields, t.body = .input fields → (fields.map (·.name)).Nodup

/-! ### What is sent -/

/-- The values under the keys of the dictionary that is sent, where names hold values: each GraphQL name with what the
    name of its variable holds. -/
def sentValues (held : String → Json) (vs : List Variable) : List (String × Json) :=
  (Variable.sort vs).map fun v => (v.graphqlName, held v.name)

/-- Whatever values are meant for the GraphQL names, the names of the variables can hold them so that each GraphQL
    name is sent with its own. -/
def SendsOwn (vs : List Variable) : Prop :=
  ∀ own : String → Json, ∃ held : String → Json,
    sentValues held vs = (Variable.sort vs).map fun v => (v.graphqlName, own v.graphqlName)

theorem mem_sort {vs : List Variable} {v : Variable} : v ∈ Variable.sort vs ↔ v ∈ vs := List.mem_mergeSort

/-- Among variables of different GraphQL names, each GraphQL name can be sent with its own value exactly if the
    names of the variables are different. -/
theorem sendsOwn_iff {vs : List Variable} (keys : (vs.map (·.graphqlName)).Nodup) :
    SendsOwn vs ↔ (vs.map (·.name)).Nodup := by
  constructor
  · intro sends
    refine List.Nodup.map_on (fun v hv w hw same => ?_) (List.Nodup.of_map _ keys)
    obtain ⟨held, sent⟩ := sends fun key => if key = v.graphqlName then .bool true else .null
    have holds : ∀ u ∈ vs, held u.name = if u.graphqlName = v.graphqlName then .bool true else .null :=
      fun u hu => (Prod.mk.inj (List.map_inj_left.1 sent u (mem_sort.2 hu))).2
    have first := holds v hv
    have second := holds w hw
    rw [same, second] at first
    by_contra other
    have differ : w.graphqlName ≠ v.graphqlName := fun key => other (List.inj_on_of_nodup_map keys hv hw key.symm)
    simp [differ] at first
  · intro names own
    refine ⟨fun name => ((vs.find? (·.name == name)).map fun v => own v.graphqlName).getD .null, ?_⟩
    refine List.map_congr_left fun v hv => ?_
    rw [mem_sort] at hv
    obtain ⟨found, there⟩ : ∃ w, vs.find? (·.name == v.name) = some w :=
      Option.isSome_iff_exists.1 (List.find?_isSome.2 ⟨v, hv, by simp⟩)
    have same : found = v := by
      have named : found.name = v.name := by simpa using List.find?_some there
      exact List.inj_on_of_nodup_map names (List.mem_of_find?_eq_some there) hv named
    show (v.graphqlName, ((vs.find? (·.name == v.name)).map fun v => own v.graphqlName).getD .null) = _
    rw [there, same]
    rfl

/-- The parameters of the method that executes an operation, in the order in which they are written. -/
def OperationDetails.parameterNames (operation : OperationDetails) : List String :=
  ["cls", "executor"] ++ (Variable.sort operation.parameters).map (·.name) ++ ["options"]

/-- The method has no parameter twice exactly if the variables have different names. -/
theorem parameterNames_nodup_iff {operation : OperationDetails}
    (free : ∀ v ∈ operation.parameters, v.name ∉ variableReserved) :
    operation.parameterNames.Nodup ↔ (operation.parameters.map (·.name)).Nodup := by
  have sorted : ((Variable.sort operation.parameters).map (·.name)).Perm (operation.parameters.map (·.name)) :=
    (List.mergeSort_perm _ _).map _
  have apart : ∀ name ∈ ["cls", "executor", "options"], name ∉ (Variable.sort operation.parameters).map (·.name) := by
    intro name own mem
    obtain ⟨v, hv, rfl⟩ := List.mem_map.1 (sorted.mem_iff.1 mem)
    have reserved : ∀ name ∈ ["cls", "executor", "options"], name ∈ variableReserved := by decide
    exact free v hv (reserved _ own)
  rw [← sorted.nodup_iff, OperationDetails.parameterNames, List.nodup_append, List.nodup_append]
  constructor
  · exact fun nodup => nodup.1.2.1
  · intro nodup
    refine ⟨⟨by decide, nodup, ?_⟩, by decide, ?_⟩
    · rintro own hown name hname rfl
      exact apart own (by simp only [List.mem_cons, List.not_mem_nil, or_false] at hown ⊢; tauto) hname
    · intro name hname options hoptions same
      rw [List.mem_singleton.1 hoptions] at same
      subst same
      rcases List.mem_append.1 hname with own | hname
      · exact absurd own (by decide)
      · exact apart "options" (by decide) hname

/-! ### Distinct names -/

/-- Variables that are made from some names, none of which is there twice: they have different names, and can all be
    sent with values of their own, exactly if no two of the names that they are made from meet. -/
structure NamedApart (reserved names : List String) (vs : List Variable) : Prop where
  made : List.Forall₂ (Variable.Made reserved) names vs
  once : names.Nodup
  distinct_iff : (vs.map (·.name)).Nodup ↔ names.Pairwise fun a b => ¬ Meet reserved a b
  sends_iff : SendsOwn vs ↔ names.Pairwise fun a b => ¬ Meet reserved a b

theorem Made.names_eq {names : List String} {vs : List Variable}
    (made : List.Forall₂ (Variable.Made reserved) names vs) :
    names = vs.map (·.graphqlName)
      ∧ ∀ v ∈ vs, safeIdentifier reserved (underscore v.graphqlName) = .ok v.name := by
  induction made with
  | nil => exact ⟨rfl, fun _ absent => absurd absent List.not_mem_nil⟩
  | cons first _ ih =>
    obtain ⟨same, named⟩ := ih
    obtain ⟨rfl, name, -⟩ := first
    exact ⟨by rw [List.map_cons, ← same], List.forall_mem_cons.2 ⟨name, named⟩⟩

theorem namedApart {names : List String} {vs : List Variable} (escape : OneEscape reserved)
    (made : List.Forall₂ (Variable.Made reserved) names vs) (once : names.Nodup) : NamedApart reserved names vs := by
  obtain ⟨same, named⟩ := Made.names_eq made
  have distinct_iff : (vs.map (·.name)).Nodup ↔ names.Pairwise fun a b => ¬ Meet reserved a b := by
    rw [same, List.Nodup, List.pairwise_map, List.pairwise_map]
    exact List.Pairwise.iff_of_mem fun {v w} hv hw =>
      not_congr (identifier_eq_iff_meet escape (named v hv) (named w hw))
  exact ⟨made, once, distinct_iff, (sendsOwn_iff (same ▸ once)).trans distinct_iff⟩

/-- When the variables of a class have names of their own. For the class of an operation, the method that executes it
    then has no parameter twice. -/
def ClassDefinition.VariablesApart (s : Schema) (ds : List Document) : ClassDefinition → Prop
  | .input c => ∃ t fields, s.find? c.graphqlName = some t ∧ t.body = .input fields
    ∧ NamedApart inputFieldReserved (fields.map (·.name)) c.arguments
  | .root c operation => ∃ d ∈ ds, ∃ o ∈ d.operations, operationClassName o.name = .ok c.name
    ∧ NamedApart variableReserved (o.declarations.map (·.name)) operation.parameters
    ∧ (operation.parameterNames.Nodup
      ↔ (o.declarations.map (·.name)).Pairwise fun a b => ¬ Meet variableReserved a b)
  | _ => True

/-- **Names of variables**: after accepted documents were generated, the variables of each operation and the fields of
    each input class have different names exactly if no two of the GraphQL names that they come from meet: names that
    are underscored alike, or of which one is escaped to what the other one is underscored to. Exactly then the method
    that executes the operation has no parameter twice, and every GraphQL name can be sent with its own value. -/
theorem variable_names_distinct_iff {g : Generator} (inputs : s.InputsDistinct) (accepted : ∀ d ∈ ds, Accepted s d)
    (ran : g.Ran s ds) : ∀ c ∈ g.progress.registry.classes, c.VariablesApart s ds := by
  intro c hc
  have sourced := ran.sourced c hc
  cases c with
  | enum | leaf => trivial
  | input c =>
    obtain ⟨t, fields, type, body, made⟩ := sourced
    exact ⟨t, fields, type, body,
      namedApart oneEscape_inputFields made (inputs t (Schema.mem_types_of_find? type) fields body)⟩
  | root c operation =>
    obtain ⟨d, hd, o, ho, named, made⟩ := sourced
    have apart := namedApart oneEscape_variables made ((accepted d hd).declarations_nodup ho)
    refine ⟨d, hd, o, ho, named, apart, (parameterNames_nodup_iff fun v hv => ?_).trans apart.distinct_iff⟩
    exact safeIdentifier_not_mem ((Made.names_eq made).2 v hv)

/-! ### Two spellings of one word -/

namespace TwoSpellings

def query : TypeDefinition := ⟨"Query", [], .object [] [⟨"n",
  [⟨"a", .named "Int" false, none, []⟩, ⟨"b", .named "Int" false, none, []⟩], .named "Int" true, []⟩]⟩

def schema : Schema := ⟨[query, ⟨"Int", [], .scalar⟩, ⟨"String", [], .scalar⟩,
  ⟨"__Schema", [], .object [] []⟩, ⟨"__Type", [], .object [] []⟩], [], some "Query", none, none⟩

/-- An operation whose two variables are spelled with a capital and with an underscore. -/
def operation : Operation := ⟨none, .query, some "Q",
  [⟨none, "fooBar", .named "Int" false, none, []⟩, ⟨none, "foo_bar", .named "Int" false, none, []⟩], [],
  [.leaf ⟨none, "n", [⟨"a", .variable "fooBar"⟩, ⟨"b", .variable "foo_bar"⟩], []⟩]⟩

def document : Document := ⟨[.operation operation]⟩

def root : ObjectClass := ⟨"Q", "Query", ["Query"], [.field (.fresh "n"
  [⟨"n", "int", "return cast(int, self.raw_result[\"n\"])", "Query", []⟩])], []⟩

def details : OperationDetails :=
  ⟨"Q", "query", printDocument operation (usedFragments document.fragmentTable operation.selections),
    [⟨"foo_bar", "fooBar", "Optional[int]", "foo_bar", none⟩,
      ⟨"foo_bar", "foo_bar", "Optional[int]", "foo_bar", none⟩]⟩

def generator : Generator := ⟨⟨schema, .empty none, false⟩, ⟨[.root root details], by decide⟩, [], [], ∅⟩

theorem ran : generator.Ran schema [document] := by
  have ends : (Generator.start ⟨schema, .empty none, false⟩).generate document
      = (.ok [.root root details], generator) := by
    refine (generate_one_iff (o := operation) rfl).2 ⟨rfl, ?_⟩
    rw [generateOperation]
    dsimp only [generator, details]
    -- the class is the same whatever text is sent
    generalize printDocument operation _ = sent
    cbv
  exact .generate (.start rfl) ends

def text : String := "query Q($fooBar: Int, $foo_bar: Int) { n(a: $fooBar, b: $foo_bar) }"

theorem tokens : Token.scan text = some [.name "query", .name "Q",
    .punctuation '(', .punctuation '$', .name "fooBar", .punctuation ':', .name "Int",
    .punctuation '$', .name "foo_bar", .punctuation ':', .name "Int", .punctuation ')',
    .punctuation '\x7b', .name "n", .punctuation '(', .name "a", .punctuation ':', .punctuation '$', .name "fooBar",
    .name "b", .punctuation ':', .punctuation '$', .name "foo_bar", .punctuation ')', .punctuation '\x7d'] := by
  decide +kernel

theorem read : Document.read text = some document := by
  rw [Document.read, tokens]
  cbv

theorem accepted : Accepted schema document := by
  refine ⟨text, "q.graphql", ⟨document, text, "q.graphql"⟩, ?_, rfl⟩
  rw [declare, read]
  cbv

end TwoSpellings

section

open TwoSpellings

/-- The two variables of an accepted document get one name, and the method that executes it has a parameter twice. -/
theorem variable_names_two_spellings :
    schema.InputsDistinct ∧ Accepted schema document ∧ generator.Ran schema [document]
      ∧ (ClassDefinition.root root details).VariablesApart schema [document]
      ∧ Meet variableReserved "fooBar" "foo_bar"
      ∧ details.parameters.map (·.name) = ["foo_bar", "foo_bar"]
      ∧ ¬ details.parameterNames.Nodup ∧ ¬ SendsOwn details.parameters := by
  have inputs : schema.InputsDistinct := by
    intro t ht fields body
    fin_cases ht <;> cases body
  have accepted : ∀ d ∈ [document], Accepted schema d := List.forall_mem_singleton.2 TwoSpellings.accepted
  have apart := variable_names_distinct_iff inputs accepted TwoSpellings.ran _ List.mem_cons_self
  have meet : Meet variableReserved "fooBar" "foo_bar" := by decide +kernel
  refine ⟨inputs, TwoSpellings.accepted, TwoSpellings.ran, apart, meet, rfl, ?_, ?_⟩
  · rw [parameterNames_nodup_iff (by decide)]
    decide
  · rw [sendsOwn_iff (by decide)]
    decide

end

end OperationClasses
