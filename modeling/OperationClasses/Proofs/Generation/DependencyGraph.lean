/-
Module: OperationClasses.Proofs.Generation.DependencyGraph
Purpose: After documents were generated, all dependencies are registered, all classes are reached from operations, and
  only input classes can depend on each other.
Main exports: Schema.InputRefers, DependencyGraph, dependency_graph
-/
import OperationClasses.Proofs.Class.DependencyOrder
import OperationClasses.Proofs.Generation.Contribution
import OperationClasses.Proofs.Generation.Linking

namespace OperationClasses

variable {s : Schema} {p : Progress} {name a b : String}

/-- An input object type has a field whose type is an input object type. -/
def Schema.InputRefers (s : Schema) (a b : String) : Prop :=
  ∃ t fields f u others, s.find? a = some t ∧ t.body = .input fields ∧ f ∈ fields ∧ f.type.core = b
    ∧ s.find? b = some u ∧ u.body = .input others

/-! ### Sorting -/

namespace Registry

variable {r : Registry}

theorem Refers.dependsOn (h : r.Refers a b) : r.DependsOn a b := by
  obtain ⟨c, found, depends, _⟩ := h
  exact ⟨c, found, depends⟩

theorem not_dependsOn_of_enum {c : EnumClass} (found : r.find? a = some (.enum c)) : ¬ r.DependsOn a b := by
  intro depends
  obtain ⟨x, found', mem⟩ := depends
  rw [found] at found'
  cases found'
  exact NameSet.not_mem_empty mem

/-- If all dependencies are registered, sorting fails only at classes that depend on each other. -/
theorem Closed.sorted_eq_error (closed : r.Closed) {fault : InvariantFault} (h : r.sorted = .error fault) :
    ∃ path, fault = .dependencyCycle path := by
  have genuine := sortedNames_eq_error (sorted_eq_error_iff.1 h)
  cases genuine with
  | unregistered listed depends missing => exact absurd (closed _ listed _ depends) missing
  | circular => exact ⟨_, rfl⟩

/-- Sorting fails at classes that depend on each other exactly if a class depends on itself through others. -/
theorem Closed.sorted_cycle_iff (closed : r.Closed) :
    (∃ path, r.sorted = .error (.dependencyCycle path)) ↔ ∃ name, Relation.TransGen r.Refers name name := by
  constructor
  · intro refused
    obtain ⟨path, refused⟩ := refused
    have genuine := sortedNames_eq_error (sorted_eq_error_iff.1 refused)
    cases genuine with
    | circular _ chain => exact ⟨_, transGen_of_isChain chain⟩
  · intro circle
    obtain ⟨name, circle⟩ := circle
    cases visited : r.sortedNames with
    | ok done => exact absurd circle ((sortedNames_eq_ok visited).2.2.2 name)
    | error fault =>
      have refused := sorted_eq_error_iff.2 visited
      obtain ⟨path, rfl⟩ := closed.sorted_eq_error refused
      exact ⟨path, refused⟩

end Registry

/-! ### What classes refer to -/

namespace Linked

variable (linked : Linked s [] p)
include linked

/-- A type links to an enum class or to the class of the type, which is an input object type. -/
theorem class_of_link {d : String} (links : Links s p name (some d)) :
    (∃ c, p.registry.find? d = some (.enum c)) ∨ ∃ c t fields, p.registry.find? d = some (.input c)
      ∧ c.graphqlName = name ∧ s.find? name = some t ∧ t.body = .input fields := by
  cases links with
  | enum _ _ got =>
    obtain ⟨-, c, found, -⟩ := linked.enums _ _ got
    exact Or.inl ⟨c, found⟩
  | @input t fields _ type body got =>
    obtain ⟨-, pending | ⟨c, found, of⟩⟩ := linked.inputs _ _ got
    · exact absurd pending List.not_mem_nil
    · exact Or.inr ⟨c, t, fields, found, of, type, body⟩

/-- An input class refers to enum classes and to the classes of the types of its fields. -/
theorem of_input {c : InputClass} (found : p.registry.find? a = some (.input c))
    (depends : p.registry.DependsOn a b) : (∃ e, p.registry.find? b = some (.enum e))
      ∨ ∃ c', p.registry.find? b = some (.input c') ∧ s.InputRefers c.graphqlName c'.graphqlName := by
  obtain ⟨x, found', mem⟩ := depends
  rw [found] at found'
  cases found'
  obtain ⟨-, t, fields, type, body, links⟩ := linked.classes _ (Registry.mem_classes_of_find? found)
  have listed := (mem_variableDependencies.1 (NameSet.mem_ofList.1 mem)).1
  obtain ⟨x, hx, dependency⟩ := List.mem_filterMap.1 listed
  obtain ⟨f, hf, link⟩ := links.ofVariable x hx
  rw [dependency] at link
  rcases linked.class_of_link link with enum | ⟨c', u, others, found', of, type', body'⟩
  · exact Or.inl enum
  · exact Or.inr ⟨c', found', t, fields, f, u, others, type, body, hf, of.symm, of ▸ type', body'⟩

/-- A result class refers to enum classes and to result classes with longer names. -/
theorem of_leaf {c : ObjectClass} (found : p.registry.find? a = some (.leaf c))
    (depends : p.registry.DependsOn a b) : p.registry.ValueClass a b := by
  obtain ⟨x, found', mem⟩ := depends
  rw [found] at found'
  cases found'
  have named : c.name = a := Registry.name_of_find? found
  have values := linked.classes _ (Registry.mem_classes_of_find? found)
  rw [← named]
  exact values b (NameSet.mem_ofList.1 mem)

/-- What a class refers to is registered, and not the class of an operation. -/
theorem find?_of_dependsOn (depends : p.registry.DependsOn a b) :
    ∃ c, p.registry.find? b = some c ∧ ∀ root details, c ≠ .root root details := by
  obtain ⟨x, found, mem⟩ := id depends
  have of_value : p.registry.ValueClass x.name b →
      ∃ c, p.registry.find? b = some c ∧ ∀ root details, c ≠ .root root details := by
    intro value
    rcases value with ⟨e, found⟩ | ⟨c, found, -⟩
    · exact ⟨_, found, fun _ _ same => by cases same⟩
    · exact ⟨_, found, fun _ _ same => by cases same⟩
  cases x with
  | enum => exact absurd mem NameSet.not_mem_empty
  | input c =>
    rcases linked.of_input found depends with ⟨e, found⟩ | ⟨c', found, -⟩
    · exact ⟨_, found, fun _ _ same => by cases same⟩
    · exact ⟨_, found, fun _ _ same => by cases same⟩
  | leaf c =>
    exact of_value (linked.classes _ (Registry.mem_classes_of_find? found) b (NameSet.mem_ofList.1 mem))
  | root c details =>
    obtain ⟨values, parameters⟩ := linked.classes _ (Registry.mem_classes_of_find? found)
    rcases List.mem_append.1 (NameSet.mem_ofList.1 mem) with selected | parameter
    · exact of_value (values b selected)
    · obtain ⟨x, hx, dependency⟩ := List.mem_filterMap.1 (mem_variableDependencies.1 parameter).1
      obtain ⟨name, link⟩ := parameters x hx
      rw [dependency] at link
      rcases linked.class_of_link link with ⟨e, found⟩ | ⟨c', _, _, found, -⟩
      · exact ⟨_, found, fun _ _ same => by cases same⟩
      · exact ⟨_, found, fun _ _ same => by cases same⟩

/-! ### Ways through classes -/

/-- From a result class, ways lead to enum classes and to result classes with longer names. -/
theorem way_from_leaf {c : ObjectClass} (found : p.registry.find? a = some (.leaf c))
    (way : Relation.TransGen p.registry.Refers a b) : p.registry.ValueClass a b := by
  induction way with
  | single refers => exact linked.of_leaf found refers.dependsOn
  | tail _ refers ih =>
    rcases ih with ⟨e, enum⟩ | ⟨c', leaf, longer⟩
    · exact absurd refers.dependsOn (Registry.not_dependsOn_of_enum enum)
    · rcases linked.of_leaf leaf refers.dependsOn with enum | ⟨c'', leaf', longer'⟩
      · exact Or.inl enum
      · exact Or.inr ⟨c'', leaf', longer.trans longer'⟩

/-- From an input class, ways lead to enum classes and to the classes of the types that are reached through
    fields. -/
theorem way_from_input {c : InputClass} (found : p.registry.find? a = some (.input c))
    (way : Relation.TransGen p.registry.Refers a b) : (∃ e, p.registry.find? b = some (.enum e))
      ∨ ∃ c', p.registry.find? b = some (.input c')
        ∧ Relation.TransGen s.InputRefers c.graphqlName c'.graphqlName := by
  induction way with
  | single refers =>
    rcases linked.of_input found refers.dependsOn with enum | ⟨c', input, refers⟩
    · exact Or.inl enum
    · exact Or.inr ⟨c', input, .single refers⟩
  | tail _ refers ih =>
    rcases ih with ⟨e, enum⟩ | ⟨c', input, types⟩
    · exact absurd refers.dependsOn (Registry.not_dependsOn_of_enum enum)
    · rcases linked.of_input input refers.dependsOn with enum | ⟨c'', input', refers⟩
      · exact Or.inl enum
      · exact Or.inr ⟨c'', input', types.tail refers⟩

/-- Only an input class depends on itself through others. -/
theorem input_of_circle (circle : Relation.TransGen p.registry.Refers name name) :
    ∃ c, p.registry.find? name = some (.input c) := by
  obtain ⟨next, refers, -⟩ := Relation.TransGen.head'_iff.1 circle
  obtain ⟨before, -, returns⟩ := Relation.TransGen.tail'_iff.1 circle
  obtain ⟨x, found, -⟩ := id refers
  cases x with
  | enum => exact absurd refers.dependsOn (Registry.not_dependsOn_of_enum found)
  | input c => exact ⟨c, found⟩
  | leaf c =>
    rcases linked.way_from_leaf found circle with ⟨e, enum⟩ | ⟨_, _, longer⟩
    · rw [found] at enum
      cases enum
    · exact absurd longer (Nat.lt_irrefl _)
  | root c details =>
    obtain ⟨x, found', notRoot⟩ := linked.find?_of_dependsOn returns.dependsOn
    rw [found] at found'
    cases found'
    exact absurd rfl (notRoot c details)

/-- The class of a type that is reached through fields is reached from the class of the first type. -/
theorem reaches_of_types {c : InputClass} (found : p.registry.find? a = some (.input c))
    (types : Relation.ReflTransGen s.InputRefers c.graphqlName name) :
    ∃ b c', p.registry.find? b = some (.input c') ∧ c'.graphqlName = name
      ∧ Relation.ReflTransGen p.registry.Refers a b := by
  induction types with
  | refl => exact ⟨a, c, found, rfl, .refl⟩
  | tail _ refers ih =>
    obtain ⟨b, c', found', rfl, reaches⟩ := ih
    obtain ⟨t, fields, f, u, others, type, body, hf, rfl, type', body'⟩ := refers
    obtain ⟨x, hx, link⟩ := (linked.fieldLinks (Registry.mem_classes_of_find? found') type body).ofField f hf
    cases dependency : x.dependency with
    | none =>
      rw [dependency] at link
      cases link with
      | scalar known scalar =>
        rw [type'] at known
        cases known
        rw [body'] at scalar
        cases scalar
    | some d =>
      rw [dependency] at link
      have some_ := linked.dependency_ne link
      have depends : d ∈ (ClassDefinition.input c').dependencies := by
        refine NameSet.mem_ofList.2 (mem_variableDependencies.2 ⟨?_, some_⟩)
        exact List.mem_filterMap.2 ⟨x, hx, dependency⟩
      cases link with
      | enum known enum =>
        rw [type'] at known
        cases known
        rw [body'] at enum
        cases enum
      | input _ _ got =>
        obtain ⟨-, pending | ⟨c'', found'', of⟩⟩ := linked.inputs _ _ got
        · exact absurd pending List.not_mem_nil
        · refine ⟨d, c'', found'', of, ?_⟩
          by_cases own : d = b
          · rwa [own]
          · exact reaches.tail ⟨_, found', depends, own⟩

/-- A type has one class. -/
theorem name_eq {c c' : InputClass} (found : p.registry.find? a = some (.input c))
    (found' : p.registry.find? b = some (.input c')) (same : c.graphqlName = c'.graphqlName) : a = b := by
  have got := (linked.classes _ (Registry.mem_classes_of_find? found)).1
  have got' := (linked.classes _ (Registry.mem_classes_of_find? found')).1
  rw [same, got'] at got
  rw [← Registry.name_of_find? found, ← Registry.name_of_find? found']
  exact (Option.some.inj got).symm

/-- A class depends on itself through others exactly if two input object types with classes reach each other
    through fields. -/
theorem circle_iff : (∃ name, Relation.TransGen p.registry.Refers name name)
    ↔ ∃ c c', .input c ∈ p.registry.classes ∧ .input c' ∈ p.registry.classes
      ∧ c.graphqlName ≠ c'.graphqlName
      ∧ Relation.TransGen s.InputRefers c.graphqlName c'.graphqlName
      ∧ Relation.TransGen s.InputRefers c'.graphqlName c.graphqlName := by
  constructor
  · intro circle
    obtain ⟨name, circle⟩ := circle
    obtain ⟨c, found⟩ := linked.input_of_circle circle
    obtain ⟨next, refers, rest⟩ := Relation.TransGen.head'_iff.1 circle
    obtain ⟨c', found'⟩ := linked.input_of_circle (Relation.TransGen.tail' rest refers)
    have back : Relation.TransGen p.registry.Refers next name := by
      rcases Relation.reflTransGen_iff_eq_or_transGen.1 rest with same | way
      · exact absurd same.symm refers.ne
      · exact way
    refine ⟨c, c', Registry.mem_classes_of_find? found, Registry.mem_classes_of_find? found', ?_, ?_, ?_⟩
    · exact fun same => refers.ne (linked.name_eq found found' same).symm
    · rcases linked.way_from_input found (.single refers) with ⟨e, enum⟩ | ⟨x, input, types⟩
      · rw [found'] at enum
        cases enum
      · rw [found'] at input
        cases input
        exact types
    · rcases linked.way_from_input found' back with ⟨e, enum⟩ | ⟨x, input, types⟩
      · rw [found] at enum
        cases enum
      · rw [found] at input
        cases input
        exact types
  · intro types
    obtain ⟨c, c', listed, listed', differ, there, back⟩ := types
    have found := Registry.find?_of_mem listed
    have found' := Registry.find?_of_mem listed'
    obtain ⟨x, d, registered, same, reaches⟩ := linked.reaches_of_types found there.to_reflTransGen
    obtain ⟨x', d', registered', same', reaches'⟩ := linked.reaches_of_types found' back.to_reflTransGen
    rw [linked.name_eq registered found' same] at reaches
    rw [linked.name_eq registered' found same'] at reaches'
    have way : Relation.TransGen p.registry.Refers c.name c'.name := by
      rcases Relation.reflTransGen_iff_eq_or_transGen.1 reaches with same | way
      · have equal : ClassDefinition.input c = .input c' := by
          rw [same, found] at found'
          exact Option.some.inj found'
        cases equal
        exact absurd rfl differ
      · exact way
    exact ⟨c.name, way.trans_left reaches'⟩

end Linked

/-! ### Runs -/

/-- After any documents were generated, classes are linked and reached from those of operations. -/
theorem Generator.Ran.linked {g : Generator} {ds : List Document} (ran : g.Ran s ds) :
    Linked s [] g.progress ∧ Rooted g.progress.registry := by
  refine ran.induction (I := fun p => Linked s [] p ∧ Rooted p.registry)
    ⟨.start, fun _ absent => absurd absent List.not_mem_nil⟩ fun _ _ _ _ => ?_
  rintro settings p c details all os owner between last registry rfl generates ⟨linked, rooted⟩
  exact ⟨(generates.adds linked).linked, generates.rooted linked rooted⟩

/-- How the classes of a registry for a schema depend on each other. -/
structure DependencyGraph (s : Schema) (r : Registry) : Prop where
  /-- every dependency is registered -/
  closed : r.Closed
  /-- every class is reached through dependencies from the class of an operation -/
  rooted : ∀ c ∈ r.classes, ∃ root details, .root root details ∈ r.classes ∧ r.Reaches root.name c.name
  /-- no class depends on the class of an operation -/
  roots : ∀ c ∈ r.classes, ∀ root details, .root root details ∈ r.classes → root.name ∉ c.dependencies
  /-- only input classes depend on themselves through others -/
  circles : ∀ c ∈ r.classes, Relation.TransGen r.Refers c.name c.name → ∃ input, c = .input input
  /-- sorting fails only at classes that depend on each other -/
  sorting : ∀ fault, r.sorted = .error fault → ∃ path, fault = .dependencyCycle path
  /-- it does so exactly if two input object types with classes reach each other through fields -/
  cycle_iff : (∃ path, r.sorted = .error (.dependencyCycle path))
    ↔ ∃ c c', .input c ∈ r.classes ∧ .input c' ∈ r.classes ∧ c.graphqlName ≠ c'.graphqlName
      ∧ Relation.TransGen s.InputRefers c.graphqlName c'.graphqlName
      ∧ Relation.TransGen s.InputRefers c'.graphqlName c.graphqlName

/-- After any documents were generated, none of them failing, every dependency is registered, every class is
    reached from that of an operation, on which none depends, and only input classes depend on each other. So
    the classes can be sorted unless two of their input object types reach each other through fields. -/
theorem dependency_graph {g : Generator} {ds : List Document} (ran : g.Ran s ds) :
    DependencyGraph s g.progress.registry := by
  obtain ⟨linked, rooted⟩ := ran.linked
  have closed : g.progress.registry.Closed := by
    intro c listed d depends
    obtain ⟨x, found, -⟩ := linked.find?_of_dependsOn ⟨c, Registry.find?_of_mem listed, depends⟩
    exact Registry.mem_names_iff.2 ⟨x, found⟩
  constructor
  · exact closed
  · intro c listed
    obtain ⟨root, details, found, reaches⟩ := rooted c.name (List.mem_map_of_mem listed)
    exact ⟨root, details, Registry.mem_classes_of_find? found, reaches⟩
  · intro c listed root details isRoot depends
    obtain ⟨x, found, notRoot⟩ := linked.find?_of_dependsOn ⟨c, Registry.find?_of_mem listed, depends⟩
    have found' := Registry.find?_of_mem isRoot
    rw [ClassDefinition.name, found] at found'
    exact notRoot root details (Option.some.inj found')
  · intro c listed circle
    obtain ⟨input, found⟩ := linked.input_of_circle circle
    rw [Registry.find?_of_mem listed] at found
    exact ⟨input, Option.some.inj found⟩
  · exact fun fault => closed.sorted_eq_error
  · exact closed.sorted_cycle_iff.trans linked.circle_iff

/-! ### Two input object types that refer to each other -/

namespace MutualInputs

def schema : Schema := ⟨[⟨"Query", [], .object [] [⟨"n", [], .named "Int" true, []⟩]⟩, ⟨"Int", [], .scalar⟩,
  ⟨"A", [], .input [⟨"b", .named "B" false, none, []⟩]⟩,
  ⟨"B", [], .input [⟨"a", .named "A" false, none, []⟩]⟩], [], some "Query", none, none⟩

def operation : Operation := ⟨none, .query, some "Q", [⟨none, "v", .named "A" false, none, []⟩], [],
  [.leaf ⟨none, "n", [], []⟩]⟩

def document : Document := ⟨[.operation operation]⟩

/-- A member or parameter that is an optional value of an input class. -/
def optional (name type : String) : Variable :=
  ⟨name, name, "Optional[" ++ type ++ "]", "None if " ++ name ++ " is None else " ++ name ++ ".serialize()",
    some type⟩

def inputA : InputClass := ⟨"A", "A", [optional "b" "B"]⟩

def inputB : InputClass := ⟨"B", "B", [optional "a" "A"]⟩

def root : ObjectClass := ⟨"Q", "Query", ["Query"], [.field (.fresh "n"
  [⟨"n", "int", "return cast(int, self.raw_result[\"n\"])", "Query", []⟩])], []⟩

def details : OperationDetails :=
  ⟨"Q", "query", printDocument operation (usedFragments document.fragmentTable operation.selections),
    [optional "v" "A"]⟩

def registry : Registry := ⟨[.input inputB, .input inputA, .root root details], by decide⟩

def generator : Generator :=
  ⟨⟨schema, .empty none, false⟩, registry, [], [("A", "A"), ("B", "B")], ∅⟩

theorem ran : generator.Ran schema [document] := by
  have ends : (Generator.start ⟨schema, .empty none, false⟩).generate document
      = (.ok [.root root details], generator) := by
    refine (generate_one_iff (o := operation) rfl).2 ⟨rfl, ?_⟩
    rw [generateOperation]
    dsimp only [generator, registry, details]
    -- the classes are the same whatever text is sent
    generalize printDocument operation _ = sent
    cbv
  exact .generate (.start rfl) ends

theorem refers : schema.InputRefers "A" "B" ∧ schema.InputRefers "B" "A" :=
  ⟨⟨_, _, _, _, _, rfl, rfl, List.mem_cons_self, rfl, rfl, rfl⟩,
    ⟨_, _, _, _, _, rfl, rfl, List.mem_cons_self, rfl, rfl, rfl⟩⟩

end MutualInputs

open MutualInputs in
/-- The classes of two input object types that refer to each other are generated and cannot be sorted. -/
theorem dependency_graph_mutual_inputs :
    generator.Ran schema [document] ∧ DependencyGraph schema registry
      ∧ ∃ path, registry.sorted = .error (.dependencyCycle path) := by
  have graph := dependency_graph MutualInputs.ran
  have differ : inputA.graphqlName ≠ inputB.graphqlName := by decide
  refine ⟨MutualInputs.ran, graph, graph.cycle_iff.2 ⟨inputA, inputB, ?_, ?_, differ, ?_, ?_⟩⟩
  · exact List.mem_cons_of_mem _ List.mem_cons_self
  · exact List.mem_cons_self
  · exact .single refers.1
  · exact .single refers.2

end OperationClasses
