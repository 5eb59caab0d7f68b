/-
Module: OperationClasses.Proofs.Generation.Inlining
Purpose: A document leads to the same classes with an inline fragment in the place of every spread.
Main exports: Selection.inlined, Document.inlined, Document.Spreadable, Generator.generate_inlined
-/
import OperationClasses.Proofs.Generation.QueryTexts
import OperationClasses.Proofs.Validation.Acceptance

namespace OperationClasses

/-! ### Inline fragments for spreads -/

mutual

/-- A selection with an inline fragment in the place of every spread, at every depth: on the type of the fragment,
    with what the fragment selects, and with the directives that it carries over from the spread. `available` are
    the fragments that may be spread here: all but those being expanded. A spread of any other stays. -/
def Selection.inlined (carry : List Directive → List Directive) (available : List Fragment) :
    Selection → Selection
  | .leaf head => .leaf head
  | .nested head selections => .nested head (inlinedAll carry available selections)
  | .inline condition directives selections =>
    .inline condition directives (inlinedAll carry available selections)
  | .spread name directives =>
    match _h : findFragment available name with
    | some f =>
      .inline (some f.typeCondition) (carry directives)
        (inlinedAll carry (withoutFragment available name) f.selections)
    | none => .spread name directives
termination_by member => (available.length, sizeOf member)
decreasing_by
  · exact Prod.Lex.right _ (by simp only [Selection.nested.sizeOf_spec]; omega)
  · exact Prod.Lex.right _ (by simp only [Selection.inline.sizeOf_spec]; omega)
  · exact Prod.Lex.left _ _ (length_withoutFragment_lt _h)

/-- Selections with an inline fragment in the place of every spread. -/
def inlinedAll (carry : List Directive → List Directive) (available : List Fragment) :
    List Selection → List Selection
  | [] => []
  | first :: rest => first.inlined carry available :: inlinedAll carry available rest
termination_by selections => (available.length, sizeOf selections)

end

/-- A spread of a fragment that may be spread becomes an inline fragment. -/
theorem inlined_spread {carry : List Directive → List Directive} {available : List Fragment} {name : String}
    {directives : List Directive} {f : Fragment} (found : findFragment available name = some f) :
    (Selection.spread name directives).inlined carry available
      = .inline (some f.typeCondition) (carry directives)
        (inlinedAll carry (withoutFragment available name) f.selections) := by
  rw [Selection.inlined]
  split
  · rename_i g found'
    rw [found] at found'
    cases found'
    rfl
  · rename_i absent
    rw [found] at absent
    cases absent

/-- A document with an inline fragment in the place of every spread. -/
def Document.inlined (carry : List Directive → List Directive) (d : Document) : Document :=
  d.mapSelections (inlinedAll carry d.fragmentTable)

/-- The names that a document spreads, in its operations and in its fragments. -/
def Document.spreadNames (d : Document) : List String :=
  d.operations.flatMap (fun o => OperationClasses.spreadNames o.selections)
    ++ d.fragments.flatMap fun f => OperationClasses.spreadNames f.selections

/-- All spreads of a document are of fragments that it defines, and no fragment leads to itself. -/
structure Document.Spreadable (d : Document) : Prop where
  defined : ∀ name ∈ d.spreadNames, ∃ f, findFragment d.fragmentTable name = some f
  acyclic : ∀ f ∈ d.fragments, ∀ g,
    Leads (fun f => OperationClasses.spreadNames f.selections) d.fragmentTable
      (OperationClasses.spreadNames f.selections) g → g.name ≠ f.name

variable {carry : List Directive → List Directive} {d : Document}

/-- Whether all spreads of a document are of fragments that it defines, and no fragment leads to itself. -/
def Document.isSpreadable (d : Document) : Bool :=
  d.spreadNames.all (fun name => (findFragment d.fragmentTable name).isSome)
    && d.fragments.all fun f =>
      (takeSpread d.fragmentTable (OperationClasses.spreadNames f.selections)).all (·.name != f.name)

/-- The check tells whether a document is such. -/
theorem Document.isSpreadable_iff : d.isSpreadable ↔ d.Spreadable := by
  simp only [isSpreadable, Bool.and_eq_true, List.all_eq_true, Option.isSome_iff_exists, bne_iff_ne, takeSpread,
    mem_follow_iff]
  exact ⟨fun h => ⟨h.1, h.2⟩, fun h => ⟨h.defined, h.acyclic⟩⟩

namespace Document.Spreadable

/-- What a fragment of the table spreads is defined. -/
theorem defined_of_mem_table (spreadable : d.Spreadable) {f : Fragment} (mem : f ∈ d.fragmentTable) {name : String}
    (spread : name ∈ OperationClasses.spreadNames f.selections) :
    ∃ g, findFragment d.fragmentTable name = some g := by
  apply spreadable.defined
  apply List.mem_append_right
  exact List.mem_flatMap.2 ⟨f, mem_fragments_of_mem_table mem, spread⟩

mutual

/-- A member of a selection set has no spreads left when they are replaced, and resolves to what it resolved to,
    whatever fragments there are. -/
theorem inlined (spreadable : d.Spreadable) (available : List Fragment) (member : Selection)
    (defined : ∀ name ∈ member.spreadNames, ∃ f, findFragment d.fragmentTable name = some f)
    (unspent : Unspent d.fragmentTable available member.spreadNames) :
    (member.inlined carry available).spreadNames = []
      ∧ ∀ table others, resolve table others (member.inlined carry available)
        = resolve d.fragmentTable available member := by
  match member with
  | .leaf head =>
    rw [Selection.inlined]
    exact ⟨by rw [Selection.spreadNames], fun table others => by rw [resolve, resolve]⟩
  | .nested head selections =>
    rw [Selection.spreadNames] at defined unspent
    obtain ⟨none_, same⟩ := spreadable.inlinedAll available selections defined unspent
    rw [Selection.inlined]
    refine ⟨by rwa [Selection.spreadNames], fun table others => ?_⟩
    rw [resolve, resolve, same]
  | .inline condition directives selections =>
    rw [Selection.spreadNames] at defined unspent
    obtain ⟨none_, same⟩ := spreadable.inlinedAll available selections defined unspent
    rw [Selection.inlined]
    refine ⟨by rwa [Selection.spreadNames], fun table others => ?_⟩
    rw [resolve, resolve, same]
  | .spread name directives =>
    rw [Selection.spreadNames] at defined unspent
    obtain ⟨f, found⟩ := defined name List.mem_cons_self
    have mem : f ∈ d.fragmentTable := List.mem_of_find?_eq_some found
    -- the fragment is not being expanded already, as that would make it lead to itself
    have offered : findFragment available name = some f := by
      rw [← name_of_findFragment found]
      exact unspent f (.here List.mem_cons_self found)
    have inside := unspent.enter found (spreadable.acyclic f (mem_fragments_of_mem_table mem))
    obtain ⟨none_, same⟩ := spreadable.inlinedAll (withoutFragment available name) f.selections
      (fun _ => spreadable.defined_of_mem_table mem) inside
    rw [inlined_spread offered]
    refine ⟨by rwa [Selection.spreadNames], fun table others => ?_⟩
    rw [resolve, same, resolve_spread offered]
termination_by (available.length, sizeOf member)
decreasing_by
  · exact Prod.Lex.right _ (by simp only [Selection.nested.sizeOf_spec]; omega)
  · exact Prod.Lex.right _ (by simp only [Selection.inline.sizeOf_spec]; omega)
  · exact Prod.Lex.left _ _ (length_withoutFragment_lt offered)

/-- A selection set has no spreads left when they are replaced, and resolves to what it resolved to. -/
theorem inlinedAll (spreadable : d.Spreadable) (available : List Fragment) (selections : List Selection)
    (defined : ∀ name ∈ OperationClasses.spreadNames selections,
      ∃ f, findFragment d.fragmentTable name = some f)
    (unspent : Unspent d.fragmentTable available (OperationClasses.spreadNames selections)) :
    OperationClasses.spreadNames (OperationClasses.inlinedAll carry available selections) = []
      ∧ ∀ table others, resolveAll table others (OperationClasses.inlinedAll carry available selections)
        = resolveAll d.fragmentTable available selections := by
  match selections with
  | [] =>
    rw [OperationClasses.inlinedAll]
    exact ⟨by rw [OperationClasses.spreadNames], fun table others => by rw [resolveAll, resolveAll]⟩
  | first :: rest =>
    rw [OperationClasses.spreadNames] at defined unspent
    obtain ⟨none_, same⟩ := spreadable.inlined available first
      (fun name h => defined name (List.mem_append_left _ h))
      fun f h => unspent f (h.mono fun _ => List.mem_append_left _)
    obtain ⟨others_none, others_same⟩ := spreadable.inlinedAll available rest
      (fun name h => defined name (List.mem_append_right _ h))
      fun f h => unspent f (h.mono fun _ => List.mem_append_right _)
    rw [OperationClasses.inlinedAll]
    refine ⟨by rw [OperationClasses.spreadNames, none_, others_none]; rfl, fun table others => ?_⟩
    rw [resolveAll, resolveAll, same, others_same]
termination_by (available.length, sizeOf selections)

end

/-- An operation has no spreads left when they are replaced, and its selections resolve to what they did. -/
theorem operation (spreadable : d.Spreadable) {o : Operation} (mem : o ∈ d.operations) :
    OperationClasses.spreadNames (OperationClasses.inlinedAll carry d.fragmentTable o.selections) = []
      ∧ ∀ table, resolveAll table table (OperationClasses.inlinedAll carry d.fragmentTable o.selections)
        = resolveAll d.fragmentTable d.fragmentTable o.selections := by
  obtain ⟨none_, same⟩ := spreadable.inlinedAll d.fragmentTable o.selections
    (fun name h => spreadable.defined name (List.mem_append_left _ (List.mem_flatMap.2 ⟨o, mem, h⟩)))
    fun f leads => leads.is_found
  exact ⟨none_, fun table => same table table⟩

/-- No spreads are left in a document when they are replaced. -/
theorem spreadNames_inlined (spreadable : d.Spreadable) : (d.inlined carry).spreadNames = [] := by
  rw [spreadNames, Document.inlined, operations_mapSelections, fragments_mapSelections]
  apply List.append_eq_nil_iff.2
  constructor
  · apply List.flatMap_eq_nil_iff.2
    intro o' ho'
    obtain ⟨o, ho, rfl⟩ := List.mem_map.1 ho'
    exact (spreadable.operation ho).1
  · apply List.flatMap_eq_nil_iff.2
    intro f' hf'
    obtain ⟨f, hf, rfl⟩ := List.mem_map.1 hf'
    refine (spreadable.inlinedAll d.fragmentTable f.selections ?_ fun g leads => leads.is_found).1
    exact fun name h => spreadable.defined name (List.mem_append_right _ (List.mem_flatMap.2 ⟨f, hf, h⟩))

end Document.Spreadable

/-! ### The same classes -/

/-- **Spreads are inline fragments.** If all spreads of a document are of fragments that it defines, and no fragment
    leads to itself, then the document with an inline fragment in the place of every spread has no spreads, and
    generating it instead, from any state of a generator, comes to the same but for the texts that are sent: the
    same failure, or classes that are the same, and in either case the same classes in the same order, names of
    classes, and imports. -/
theorem Generator.generate_inlined (carry : List Directive → List Directive) (g : Generator) {d : Document}
    (spreadable : d.Spreadable) :
    (d.inlined carry).spreadNames = []
      ∧ unsentOutcome (g.generate (d.inlined carry)) = unsentOutcome (g.generate d) := by
  refine ⟨spreadable.spreadNames_inlined, generate_mapSelections rfl ?_⟩
  intro o ho className owner
  rw [(spreadable.operation ho).2]

namespace NestedSpreads

/-- A type that leads to itself by two fields. -/
def query : TypeDefinition := ⟨"Query", [], .object [] [⟨"a_b", [], .named "Query" true, []⟩,
  ⟨"b", [], .named "Query" true, []⟩, ⟨"n", [], .named "Int" true, []⟩]⟩

def schema : Schema := ⟨[query, ⟨"Int", [], .scalar⟩, ⟨"String", [], .scalar⟩], [], some "Query", none, none⟩

def setup : Settings := ⟨schema, .empty none, false⟩

def inner : Fragment := ⟨none, "Inner", "Query", [], [.leaf ⟨none, "n", [], []⟩]⟩

def outer : Fragment := ⟨none, "Outer", "Query", [],
  [.nested ⟨none, "b", [], []⟩ [.spread "Inner" [], .leaf ⟨some "m", "n", [], []⟩]]⟩

/-- An operation with a fragment inside another one, and the inner one once more below a field. -/
def document : Document := ⟨[.operation ⟨none, .query, some "Q", [], [],
  [.spread "Outer" [], .nested ⟨none, "a_b", [], []⟩ [.spread "Inner" []]]⟩, .fragment outer, .fragment inner]⟩

/-- What the operation selects without spreads. -/
def inlined : List Selection :=
  [.inline (some "Query") [] [.nested ⟨none, "b", [], []⟩
      [.inline (some "Query") [] [.leaf ⟨none, "n", [], []⟩], .leaf ⟨some "m", "n", [], []⟩]],
    .nested ⟨none, "a_b", [], []⟩ [.inline (some "Query") [] [.leaf ⟨none, "n", [], []⟩]]]

end NestedSpreads

/-- A document with a fragment inside another one. -/
theorem generate_inlined_nested :
    NestedSpreads.document.Spreadable
      ∧ (NestedSpreads.document.inlined fun directives => directives).operations
        = [⟨none, .query, some "Q", [], [], NestedSpreads.inlined⟩]
      ∧ unsentOutcome ((Generator.start NestedSpreads.setup).generate
          (NestedSpreads.document.inlined fun directives => directives))
        = unsentOutcome ((Generator.start NestedSpreads.setup).generate NestedSpreads.document) := by
  have spreadable : NestedSpreads.document.Spreadable := Document.isSpreadable_iff.1 (by cbv)
  have same := Generator.generate_inlined (fun directives => directives) (.start NestedSpreads.setup) spreadable
  exact ⟨spreadable, by cbv, same.2⟩

end OperationClasses
