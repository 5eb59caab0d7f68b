/-
Module: OperationClasses.Proofs.Document.QueryText
Purpose: The text that is sent for an operation comes with every fragment that it needs and with no other.
Main exports: Selection.Spreads, Reaches, mem_usedFragments_iff, usedFragments_increasing, SelfContained,
  findFragment_fragmentTable, queryText_selfContained
-/
import OperationClasses.Proofs.Generation.Contribution
import OperationClasses.Proofs.Selection.Spreads

namespace OperationClasses

open Generation

/-! ### Spread names -/

/-- A selection spreads the fragment of a name: it is the spread, or holds it below a field or in a selection set
    of its own. -/
inductive Selection.Spreads (name : String) : Selection → Prop where
  | here {directives : List Directive} : Selection.Spreads name (.spread name directives)
  | field {head : FieldHead} {selections : List Selection} {s : Selection} (mem : s ∈ selections)
      (inside : s.Spreads name) : Selection.Spreads name (.nested head selections)
  | inline {condition : Option String} {directives : List Directive} {selections : List Selection} {s : Selection}
      (mem : s ∈ selections) (inside : s.Spreads name) :
      Selection.Spreads name (.inline condition directives selections)

/-- A selection set spreads the fragment of a name when one of its members does. -/
def Spreads (name : String) (selections : List Selection) : Prop := ∃ s ∈ selections, s.Spreads name

mutual

/-- The names that a selection spreads are those of the spreads in it. -/
theorem Selection.mem_spreadNames_iff {name : String} : ∀ {s : Selection}, name ∈ s.spreadNames ↔ s.Spreads name
  | .leaf _ => ⟨fun h => absurd h List.not_mem_nil, nofun⟩
  | .spread _ _ => by
    rw [Selection.spreadNames, List.mem_singleton]
    constructor
    · rintro rfl
      exact .here
    · rintro ⟨⟩
      rfl
  | .nested _ selections => by
    rw [Selection.spreadNames, mem_spreadNames_iff]
    constructor
    · rintro ⟨s, mem, inside⟩
      exact .field mem inside
    · rintro (_ | ⟨mem, inside⟩)
      exact ⟨_, mem, inside⟩
  | .inline _ _ selections => by
    rw [Selection.spreadNames, mem_spreadNames_iff]
    constructor
    · rintro ⟨s, mem, inside⟩
      exact .inline mem inside
    · rintro (_ | _ | ⟨mem, inside⟩)
      exact ⟨_, mem, inside⟩

/-- The names that selections spread are those of the spreads in them. -/
theorem mem_spreadNames_iff {name : String} : ∀ {selections : List Selection},
    name ∈ spreadNames selections ↔ Spreads name selections
  | [] => ⟨fun h => absurd h List.not_mem_nil, fun ⟨_, mem, _⟩ => absurd mem List.not_mem_nil⟩
  | s :: rest => by
    rw [spreadNames, List.mem_append, Selection.mem_spreadNames_iff, mem_spreadNames_iff]
    constructor
    · rintro (first | ⟨s', mem, later⟩)
      · exact ⟨s, List.mem_cons_self, first⟩
      · exact ⟨s', List.mem_cons_of_mem _ mem, later⟩
    · rintro ⟨s', mem, inside⟩
      rcases List.mem_cons.1 mem with rfl | mem
      · exact Or.inl inside
      · exact Or.inr ⟨s', mem, inside⟩

end

/-! ### Reaching fragments -/

/-- Selections reach a fragment of a table: they spread it, or they spread a fragment of the table whose selections
    reach it. A name of no fragment leads nowhere. -/
inductive Reaches (table : List Fragment) : List Selection → Fragment → Prop where
  | direct {selections : List Selection} {name : String} {f : Fragment} (spread : Spreads name selections)
      (defined : findFragment table name = some f) : Reaches table selections f
  | through {selections : List Selection} {name : String} {via f : Fragment} (spread : Spreads name selections)
      (defined : findFragment table name = some via) (rest : Reaches table via.selections f) :
      Reaches table selections f

namespace Reaches

variable {table : List Fragment} {selections : List Selection} {f : Fragment}

/-- The fragments that selections reach are those that the names in them lead to. -/
theorem iff_leads : Reaches table selections f
    ↔ Leads (fun f => spreadNames f.selections) table (spreadNames selections) f := by
  constructor
  · intro h
    induction h with
    | direct spread defined => exact .here (mem_spreadNames_iff.2 spread) defined
    | through spread defined _ ih => exact .there (mem_spreadNames_iff.2 spread) defined ih
  · generalize names : spreadNames selections = pending
    intro h
    induction h generalizing selections with
    | here mem found =>
      subst names
      exact .direct (mem_spreadNames_iff.1 mem) found
    | there mem found _ ih =>
      subst names
      exact .through (mem_spreadNames_iff.1 mem) found (ih rfl)

/-- A fragment that is reached is the one of its name. -/
theorem is_found (h : Reaches table selections f) : findFragment table f.name = some f :=
  (iff_leads.1 h).is_found

/-- What a fragment spreads is reached with it. -/
theorem next {name : String} {f' : Fragment} (h : Reaches table selections f) (spread : Spreads name f.selections)
    (defined : findFragment table name = some f') : Reaches table selections f' := by
  induction h with
  | direct first found => exact .through first found (.direct spread defined)
  | through first found _ ih => exact .through first found (ih spread)

/-- A way through a table is a way through any other in which the fragments on it stand under the same names. -/
theorem within {other : List Fragment}
    (same : ∀ name f, findFragment table name = some f → Reaches table selections f → findFragment other name = some f)
    (h : Reaches table selections f) : Reaches other selections f := by
  induction h with
  | direct spread defined => exact .direct spread (same _ _ defined (.direct spread defined))
  | through spread defined rest ih =>
    exact .through spread (same _ _ defined (.direct spread defined))
      (ih fun name g found reached => same name g found (.through spread defined reached))

end Reaches

/-! ### Taking each fragment once -/

/-- Following names takes no two fragments of one name. -/
theorem follow_names_nodup {names : Fragment → List String} {unused : List Fragment} {pending : List String} :
    ((follow names unused pending).map (·.name)).Nodup := by
  fun_induction follow with
  | case1 => exact List.nodup_nil
  | case2 _ _ _ _ ih => exact ih
  | case3 unused name rest via found ih =>
    refine List.nodup_cons.2 ⟨fun again => ?_, ih⟩
    -- the fragments of the name are dropped when the first one is taken
    obtain ⟨f, mem, same⟩ := List.mem_map.1 again
    have reached := (mem_follow_iff.1 mem).is_found
    rw [show f.name = name from same.trans (name_of_findFragment found), findFragment_without_self] at reached
    cases reached

section Used

variable {table : List Fragment} {selections : List Selection} {f : Fragment}

/-- The used fragments are those of the table that the selections reach. -/
theorem mem_usedFragments_iff : f ∈ usedFragments table selections ↔ Reaches table selections f := by
  rw [usedFragments, List.mem_mergeSort, takeSpread, mem_follow_iff, Reaches.iff_leads]

/-- The used fragments stand in the order of their names, each name once. -/
theorem usedFragments_increasing : (usedFragments table selections).Pairwise (·.name < ·.name) :=
  pairwise_lt_mergeSort Fragment.name _ follow_names_nodup

/-- Each used fragment is found under its name among them. -/
theorem findFragment_usedFragments (mem : f ∈ usedFragments table selections) :
    findFragment (usedFragments table selections) f.name = some f := by
  refine List.find?_eq_some_iff_append.2 ⟨beq_self_eq_true _, ?_⟩
  obtain ⟨before, after, split⟩ := List.append_of_mem mem
  refine ⟨before, after, split, fun g earlier => ?_⟩
  have increasing : (usedFragments table selections).Pairwise (·.name < ·.name) := usedFragments_increasing
  rw [split] at increasing
  have lt := (List.pairwise_append.1 increasing).2.2 g earlier f List.mem_cons_self
  exact bne_iff_ne.2 fun same => String.lt_irrefl f.name (same ▸ lt)

end Used

/-! ### Self-contained texts -/

/-- Fragments that go with selections: each fragment that is defined and that the selections or one of the fragments
    spread is there, and the selections reach each of them by what is there. -/
structure SelfContained (defined : String → Option Fragment) (selections : List Selection)
    (fragments : List Fragment) : Prop where
  /-- nothing that is spread is left out -/
  complete : ∀ name f, (Spreads name selections ∨ ∃ g ∈ fragments, Spreads name g.selections) →
    defined name = some f → f ∈ fragments
  /-- nothing is there that is not defined -/
  known : ∀ f ∈ fragments, defined f.name = some f
  /-- nothing is there that is not used -/
  used : ∀ f ∈ fragments, Reaches fragments selections f
  /-- nothing is defined twice, and the order is that of the names -/
  increasing : fragments.Pairwise (·.name < ·.name)

/-- The used fragments go with the selections. -/
theorem usedFragments_selfContained (table : List Fragment) (selections : List Selection) :
    SelfContained (findFragment table) selections (usedFragments table selections) where
  complete name f spread defined := by
    rw [mem_usedFragments_iff]
    rcases spread with spread | ⟨g, mem, spread⟩
    · exact .direct spread defined
    · exact (mem_usedFragments_iff.1 mem).next spread defined
  known _ mem := (mem_usedFragments_iff.1 mem).is_found
  used f mem := by
    refine (mem_usedFragments_iff.1 mem).within fun name g found reached => ?_
    rw [← name_of_findFragment found]
    exact findFragment_usedFragments (mem_usedFragments_iff.2 reached)
  increasing := usedFragments_increasing

/-! ### Documents -/

/-- Putting a fragment changes what is found under its name only. -/
theorem findFragment_put {f : Fragment} {fragments : List Fragment} {name : String} :
    findFragment (putFragment f fragments) name = if f.name = name then some f else findFragment fragments name := by
  induction fragments with
  | nil => by_cases same : f.name = name <;> simp [putFragment, findFragment, same]
  | cons g rest ih =>
    unfold findFragment at ih ⊢
    unfold putFragment
    by_cases place : g.name = f.name
    · by_cases same : f.name = name
      · simp [place, same]
      · simp [place, same]
    · rw [if_neg place, List.find?_cons, ih, List.find?_cons]
      by_cases same : f.name = name
      · subst same
        simp [beq_eq_false_iff_ne.2 place]
      · simp [same]

/-- The table of a document has the last of its fragments under each name. -/
theorem findFragment_fragmentTable (d : Document) (name : String) :
    findFragment d.fragmentTable name = findFragment d.fragments.reverse name := by
  rw [Document.fragmentTable, ← List.foldr_reverse]
  induction d.fragments.reverse with
  | nil => rfl
  | cons f earlier ih =>
    rw [List.foldr_cons, findFragment_put, ih]
    by_cases same : f.name = name <;> simp [findFragment, same]

/-- The class of an operation sends the text of the operation and of fragments. -/
def ClassDefinition.Sends (c : ClassDefinition) (o : Operation) (fragments : List Fragment) : Prop :=
  ∃ shared details, c = .root shared details ∧ details.queryText = printDocument o fragments

/-- The class that is made for each operation sends it with the fragments that it uses, and stays registered. -/
theorem generateOperations_sends {settings : Settings} {table : List Fragment} {os : List Operation} {p q : Progress}
    {cs : List ClassDefinition} (h : Yields (os.mapM (generateOperation settings table)) p cs q) :
    List.Forall₂ (fun o c => c ∈ q.registry.classes ∧ c.Sends o (usedFragments table o.selections)) os cs := by
  induction os generalizing p cs with
  | nil =>
    rw [(yields_pure_iff.1 h).1]
    exact .nil
  | cons o rest ih =>
    obtain ⟨c, r, others, first, later, rfl⟩ := yields_mapM_cons_iff.1 h
    obtain ⟨_, _, _, _, _, _, _, _, _, _, _, _, _, _, _, rfl, added, rfl⟩ := yields_generateOperation_iff.1 first
    refine .cons ⟨?_, _, _, rfl, rfl⟩ (ih later)
    -- later operations change classes for values of a type only
    obtain ⟨c', found, same⟩ := generateOperations_keeps later _ _ (Registry.find?_of_add added)
    cases same
    exact Registry.mem_classes_of_find? found

/-- For every table, the fragments that are used are exactly those that the selections reach through spreads, each
    once and in the order of their names, also where a fragment spreads itself or one that is not defined. So each
    operation that is generated sends, with its own text, every fragment of its document that is spread in what it
    sends and nothing that it does not use. -/
theorem queryText_selfContained :
    (∀ (table : List Fragment) (selections : List Selection),
      (∀ f, f ∈ usedFragments table selections ↔ Reaches table selections f)
        ∧ (usedFragments table selections).Pairwise (·.name < ·.name))
    ∧ ∀ (g g' : Generator) (d : Document) (cs : List ClassDefinition), g.generate d = (.ok cs, g') →
      List.Forall₂
        (fun o c => c ∈ g'.progress.registry.classes ∧ ∃ fragments, c.Sends o fragments
          ∧ SelfContained (findFragment d.fragments.reverse) o.selections fragments)
        d.operations cs := by
  refine ⟨fun table selections => ⟨fun _ => mem_usedFragments_iff, usedFragments_increasing⟩, ?_⟩
  intro g g' d cs ends
  refine (generateOperations_sends (Generator.generate_yields ends).2).imp fun o c ⟨mem, sends⟩ =>
    ⟨mem, _, sends, ?_⟩
  have defined : findFragment d.fragmentTable = findFragment d.fragments.reverse :=
    funext (findFragment_fragmentTable d)
  exact defined ▸ usedFragments_selfContained d.fragmentTable o.selections

/-! ### A fragment that is left out -/

namespace FragmentLeftOut

def query : TypeDefinition := ⟨"Query", [], .object [] [⟨"n", [], .named "Int" true, []⟩]⟩

def schema : Schema := ⟨[query, ⟨"Int", [], .scalar⟩], standardDirectives, some "Query", none, none⟩

def innermost : Fragment := ⟨none, "Inner", "Query", [], [.leaf ⟨none, "n", [], []⟩]⟩

def outer : Fragment := ⟨none, "Outer", "Query", [], [.spread "Inner" []]⟩

/-- The fragment that no operation spreads. -/
def unused : Fragment := ⟨none, "Other", "Query", [], [.spread "Inner" []]⟩

def operation : Operation := ⟨none, .query, some "Q", [], [], [.spread "Outer" []]⟩

def document : Document := ⟨[.operation operation, .fragment unused, .fragment outer, .fragment innermost]⟩

def root : ObjectClass := ⟨"Q", "Query", ["Query"], [.field (.fresh "n"
  [⟨"n", "int", "return cast(int, self.raw_result[\"n\"])", "Query", ["Query", "Query"]⟩])], []⟩

def sent : ClassDefinition := .root root ⟨"Q", "query", printDocument operation [innermost, outer], []⟩

def generator : Generator := ⟨⟨schema, .empty none, false⟩, ⟨[sent], by decide⟩, [], [], ∅⟩

theorem ends : (Generator.start generator.settings).generate document = (.ok [sent], generator) := by
  refine (generate_one_iff (o := operation) rfl).2 ⟨rfl, ?_⟩
  have used : usedFragments document.fragmentTable operation.selections = [innermost, outer] := by cbv
  rw [generateOperation, used]
  dsimp only [generator, sent]
  -- the class is the same whatever text is sent
  generalize printDocument operation _ = text
  cbv

end FragmentLeftOut

/-- The operation that spreads a fragment, and through it another one, is sent with these two of the three. -/
theorem queryText_selfContained_two_of_three :
    (Generator.start FragmentLeftOut.generator.settings).generate FragmentLeftOut.document
        = (.ok [FragmentLeftOut.sent], FragmentLeftOut.generator)
      ∧ ∃ fragments, FragmentLeftOut.sent.Sends FragmentLeftOut.operation fragments
        ∧ SelfContained (findFragment FragmentLeftOut.document.fragments.reverse)
          FragmentLeftOut.operation.selections fragments := by
  have sends := queryText_selfContained.2 _ _ _ _ FragmentLeftOut.ends
  exact ⟨FragmentLeftOut.ends, (List.forall₂_cons.1 sends).1.2⟩

end OperationClasses
