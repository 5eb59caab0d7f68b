/-
Module: OperationClasses.Proofs.Generation.ClassBody
Purpose: What the names in the body of a result class denote while its accessors are written: no accessor hides an
  attribute of the class, and which accessors follow one that hides the decorator that each of them needs.
Main exports: Naming.accessorName_eq_decorator_iff, ClassDefinition.boundBefore, decorator_hidden_iff
-/
import OperationClasses.Proofs.Generation.EmittedNames
import OperationClasses.Proofs.Generation.Representation
import OperationClasses.Proofs.Generation.ResponseKeys
import OperationClasses.Proofs.Generation.TypenameDispatch

namespace OperationClasses

namespace Naming

/-! ### Response keys for the name of the decorator -/

/-- The name that the body of a class reads before each accessor, to make a property of it. -/
def decorator : String := "property"

/-- The response keys whose accessors have the name of the decorator. -/
def decoratorKeys : List String := ["property", "Property", "PROPERTY"]

/-- The words that have the letters of a word in either case. -/
def caseVariants : List Char → List (List Char)
  | [] => [[]]
  | c :: rest => (caseVariants rest).flatMap fun word => [c :: word, c.toUpper :: word]

/-- Where no underscore shows, none was put in. -/
theorem Cut.eq_of_not_mem {inside : Bool} {name out : List Char} (h : Cut inside name out) (free : '_' ∉ out) :
    out = name := by
  induction h with
  | nil => rfl
  | keep _ ih => rw [ih fun mem => free (List.mem_cons_of_mem _ mem)]
  | cut => exact absurd List.mem_cons_self free

/-- A character of a name is lowered to itself or to what it is the capital of. -/
theorem flatten_of_isNameChar {c : Char} (h : Token.isNameChar c) :
    ∃ d, flatten c = [d] ∧ (c = d ∨ c = d.toUpper) := by
  refine forall_isNameChar (P := fun c => ∃ d, flatten c = [d] ∧ (c = d ∨ c = d.toUpper)) (fun n small isChar => ?_) h
  have table : ∀ n < 0x80, Token.isNameChar (Char.ofNat n) → flatten (Char.ofNat n) = [(Char.ofNat n).toLower]
      ∧ (Char.ofNat n = (Char.ofNat n).toLower ∨ Char.ofNat n = (Char.ofNat n).toLower.toUpper) := by decide +kernel
  exact ⟨_, table n small isChar⟩

theorem mem_caseVariants {name : List Char} (chars : NameChars name) : name ∈ caseVariants (name.flatMap flatten) := by
  induction name with
  | nil => exact List.mem_cons_self
  | cons c rest ih =>
    obtain ⟨own, others⟩ := List.forall_mem_cons.1 chars
    obtain ⟨d, lowered, case⟩ := flatten_of_isNameChar own
    rw [List.flatMap_cons, lowered, List.singleton_append, caseVariants, List.mem_flatMap]
    refine ⟨rest, ih others, ?_⟩
    rcases case with rfl | same
    · exact List.mem_cons_self
    · rw [← same]
      exact List.mem_cons_of_mem _ List.mem_cons_self

/-- A name whose underscored spelling has no underscores differs from it in case only. -/
theorem mem_caseVariants_of_underscoreChars {name : List Char} (chars : NameChars name)
    (free : '_' ∉ underscoreChars name) : name ∈ caseVariants (underscoreChars name) ∨ underscoreChars name = name := by
  unfold underscoreChars at free ⊢
  split
  · rename_i cuts
    rw [if_pos cuts] at free
    have kept : '_' ∉ cutWords none (cutAcronyms none name) := fun mem =>
      free (List.mem_flatMap.2 ⟨'_', mem, by decide⟩)
    have second : Cut false _ (cutWords none (cutAcronyms none name)) := cutWords_cut (by simp)
    have words := second.eq_of_not_mem kept
    rw [words] at kept ⊢
    have first : Cut false name (cutAcronyms none name) := cutAcronyms_cut (by simp)
    rw [first.eq_of_not_mem kept]
    exact .inl (mem_caseVariants chars)
  · exact .inr rfl

/-- An identifier without underscores is the underscored spelling that it was made from. -/
theorem eq_of_safeIdentifier {reserved : List String} {name out : String} (named : safeIdentifier reserved name = .ok out)
    (free : '_' ∉ out.toList) : name.toList = out.toList := by
  unfold safeIdentifier at named
  split at named
  · cases named
  · rename_i rotated found
    obtain ⟨k, text⟩ := (freeName_spec (keywords ++ reserved) (String.ofList rotated)).1
    rw [Except.ok.inj named, String.toList_ofList] at text
    obtain ⟨c, rest, start, rfl⟩ := rotateUnderscores_eq_some found
    rw [text] at free
    have unpadded : k = 0 := by
      by_contra padded
      exact free (List.mem_append_right _ (List.mem_replicate.2 ⟨padded, rfl⟩))
    have unrotated : name.toList.takeWhile (· == '_') = [] := by
      refine List.eq_nil_iff_forall_not_mem.2 fun d mem => free ?_
      have isUnderscore := beq_iff_eq.1 (List.mem_takeWhile_imp (p := (· == '_')) mem)
      exact List.mem_append_left _ (List.mem_append_right _ (isUnderscore ▸ mem))
    rw [text, unpadded, unrotated, ← start, List.append_nil, List.replicate_zero, List.append_nil]
    have split := List.takeWhile_append_dropWhile (p := (· == '_')) (l := name.toList)
    rwa [unrotated, List.nil_append, eq_comm] at split

/-- The accessor of a response key has the name of the decorator exactly for the word itself, capitalised or in
    capitals. Other capitals would be cut off by an underscore. -/
theorem accessorName_eq_decorator_iff {key : String} (chars : NameChars key.toList) :
    accessorName key = .ok decorator ↔ key ∈ decoratorKeys := by
  constructor
  · intro named
    have spelled : underscoreChars key.toList = decorator.toList := by
      rw [← eq_of_safeIdentifier named (by decide), underscore, String.toList_ofList]
    have own : key.toList ∈ caseVariants decorator.toList := by
      rcases mem_caseVariants_of_underscoreChars chars (by rw [spelled]; decide) with variant | same
      · rwa [spelled] at variant
      · rw [← same, spelled]
        decide +kernel
    have all : ∀ word ∈ caseVariants decorator.toList, underscoreChars word = decorator.toList →
        String.ofList word ∈ decoratorKeys := by decide +kernel
    have mem := all key.toList own spelled
    rwa [String.ofList_toList] at mem
  · intro mem
    have all : ∀ key ∈ decoratorKeys, accessorName key = .ok decorator := by decide +kernel
    exact all key mem

end Naming

/-! ### Accessors of selected fields -/

variable {s : Schema} {ds : List Document} {d : Document} {r : Registry} {g : Generator} {className name : String}

/-- What a class is for selects fields of the document. -/
theorem Takes.heads {owner : TypeDefinition} {selections : List Resolved} (h : Takes s d r className owner selections) :
    ∀ head ∈ Resolved.headsAll selections, head ∈ d.heads := by
  induction h with
  | root mem => exact heads_operation mem
  | under _ occurs mem _ _ _ selected _ _ ih => exact (heads_collectAll occurs ih _ mem).2 _ selected

/-- What stands in a selection set that a class is for has a response key that is spelled like a name. -/
theorem Stems.key {o : Occurrence} (h : Stems s d r className o) (spelled : d.Spelled) :
    Naming.NameChars o.key.toList := by
  obtain ⟨owner, selections, os, takes, occurs, mem⟩ := h
  exact .of_isName (spelled.heads _ (heads_collectAll occurs takes.heads o mem).1).2

namespace Generator.Ran

variable {x : ClassDefinition} {m : Method}

/-- Every accessor of a class has its name from a response key. -/
theorem named (ran : g.Ran s ds) (registered : x ∈ g.progress.registry.classes) (mem : m ∈ x.methods) :
    ∃ key, Naming.accessorName key = .ok m.name := by
  cases ran.made .refl x registered m mem with
  | fixed named => exact ⟨_, named⟩
  | @field name paths some_ all =>
    obtain ⟨path, hpath⟩ := List.exists_mem_of_ne_nil _ some_
    obtain ⟨same, d, hd, o, -, -, of⟩ := all path hpath
    refine ⟨o.key, ?_⟩
    rw [of.name, same]
    rfl

/-- A class has an accessor of a name exactly if it is for a selection set with such a response key, the name of the
    type name aside. -/
theorem exists_accessor_iff (ran : g.Ran s ds) (registered : x ∈ g.progress.registry.classes)
    (other : name ≠ "typename__") :
    (∃ m ∈ x.methods, m.name = name)
      ↔ ∃ d ∈ ds, ∃ o, Stems s d g.progress.registry x.name o ∧ Naming.accessorName o.key = .ok name := by
  constructor
  · rintro ⟨m, mem, rfl⟩
    cases ran.made .refl x registered m mem with
    | fixed named =>
      rw [accessorName_typename] at named
      exact absurd (Except.ok.inj named).symm other
    | @field name paths some_ all =>
      obtain ⟨path, hpath⟩ := List.exists_mem_of_ne_nil _ some_
      obtain ⟨same, d, hd, o, stems, -, of⟩ := all path hpath
      refine ⟨d, hd, o, stems, ?_⟩
      rw [of.name, same]
      rfl
  · rintro ⟨d, hd, o, ⟨owner, selections, os, takes, occurs, mem⟩, named⟩
    obtain ⟨all, read⟩ := takes.readFor (ran.operationsRead .refl hd) occurs
    obtain ⟨c, m, found, accessor, named', -⟩ := read.accessor mem
    rw [Registry.find?_of_mem registered] at found
    obtain rfl := Option.some.inj found
    exact ⟨m, accessor, Except.ok.inj (named'.symm.trans named)⟩

end Generator.Ran

/-! ### The body of a class -/

/-- The names that the body of a class binds before its accessors. -/
def ClassDefinition.attributes : ClassDefinition → List String
  | .leaf _ => ["POSSIBLE_TYPES"]
  | .root .. => ["OPERATION_NAME", "QUERY_TEXT", "POSSIBLE_TYPES", "execute"]
  | .enum _ | .input _ => []

/-- The names that the body of a class has bound once some of its accessors are written. A name that it has bound hides
    what the name denotes outside. -/
def ClassDefinition.boundBefore (x : ClassDefinition) (written : List Method) : List String :=
  x.attributes ++ written.map (·.name)

theorem ClassDefinition.attributes_subset (x : ClassDefinition) : x.attributes ⊆ Naming.resultNames := by
  cases x <;> simp only [attributes] <;> decide

/-- Accessors of different names are written in the order of their names. -/
theorem ObjectClass.sortedMethods_pairwise {c : ObjectClass} (distinct : Distinct c.methods) :
    c.sortedMethods.Pairwise fun a b => a.name < b.name := pairwise_lt_mergeSort Method.name c.methods distinct

/-- Before some accessors are written, the decorator can only be hidden by an accessor. -/
theorem ClassDefinition.decorator_mem_boundBefore_iff {x : ClassDefinition} {written : List Method} :
    Naming.decorator ∈ x.boundBefore written ↔ ∃ m ∈ written, m.name = Naming.decorator := by
  have free : Naming.decorator ∉ x.attributes := fun mem => absurd (x.attributes_subset mem) (by decide)
  rw [boundBefore, List.mem_append, List.mem_map, or_iff_right free]

/-- **Names in the body of a class.** No accessor has the name of an attribute of the class. When an accessor is
    written, the decorator is hidden exactly if the name of the accessor comes after that of the decorator and the class
    is for a selection set with one of the three response keys whose accessor has the name of the decorator. -/
theorem decorator_hidden_iff (accepted : ∀ d ∈ ds, Accepted s d) (ran : g.Ran s ds) {x : ClassDefinition}
    {c : ObjectClass} (registered : x ∈ g.progress.registry.classes) (isObject : x.object? = some c) :
    (∀ m ∈ c.sortedMethods, m.name ∉ Naming.resultNames)
      ∧ ∀ before m after, c.sortedMethods = before ++ m :: after →
        (Naming.decorator ∈ x.boundBefore before
          ↔ Naming.decorator < m.name
            ∧ ∃ d ∈ ds, ∃ o, Stems s d g.progress.registry x.name o ∧ o.key ∈ Naming.decoratorKeys) := by
  obtain ⟨-, methods⟩ := ClassDefinition.eq_of_object? isObject
  have isAccessor {m : Method} : m ∈ c.sortedMethods ↔ m ∈ x.methods := by
    rw [methods]
    exact List.mem_mergeSort
  have selected : (∃ m ∈ x.methods, m.name = Naming.decorator)
      ↔ ∃ d ∈ ds, ∃ o, Stems s d g.progress.registry x.name o ∧ o.key ∈ Naming.decoratorKeys := by
    rw [ran.exists_accessor_iff registered (by decide)]
    constructor <;> rintro ⟨d, hd, o, stems, key⟩ <;> refine ⟨d, hd, o, stems, ?_⟩
    · exact (Naming.accessorName_eq_decorator_iff (stems.key (accepted d hd).spelled)).1 key
    · exact (Naming.accessorName_eq_decorator_iff (stems.key (accepted d hd).spelled)).2 key
  constructor
  · intro m mem
    obtain ⟨key, named⟩ := ran.named registered (isAccessor.1 mem)
    exact Naming.safeIdentifier_not_mem named
  · intro before m after split
    have sorted := c.sortedMethods_pairwise (methods ▸ ran.distinct x registered)
    rw [split, List.pairwise_append, List.pairwise_cons] at sorted
    obtain ⟨-, ⟨later, -⟩, earlier⟩ := sorted
    rw [ClassDefinition.decorator_mem_boundBefore_iff, ← selected]
    constructor
    · rintro ⟨hider, mem, named⟩
      refine ⟨named ▸ earlier hider mem m List.mem_cons_self, hider, isAccessor.1 ?_, named⟩
      rw [split]
      exact List.mem_append_left _ mem
    · rintro ⟨comesFirst, hider, mem, named⟩
      rw [← isAccessor, split, List.mem_append, List.mem_cons] at mem
      rcases mem with mem | rfl | mem
      · exact ⟨hider, mem, named⟩
      · exact absurd (named ▸ comesFirst) (String.lt_irrefl _)
      · exact absurd (named ▸ later hider mem) (String.lt_asymm comesFirst)

/-! ### A field with the name of the decorator -/

namespace PropertyField

def query : TypeDefinition := ⟨"Query", [], .object []
  [⟨"property", [], .named "Int" true, []⟩, ⟨"zeta", [], .named "Int" true, []⟩]⟩

def schema : Schema := ⟨[query, ⟨"Int", [], .scalar⟩, ⟨"String", [], .scalar⟩,
  ⟨"__Schema", [], .object [] []⟩, ⟨"__Type", [], .object [] []⟩], [], some "Query", none, none⟩

def operation : Operation := ⟨none, .query, some "Q", [], [],
  [.leaf ⟨none, "property", [], []⟩, .leaf ⟨none, "zeta", [], []⟩]⟩

def document : Document := ⟨[.operation operation]⟩

/-- The accessor of the field that is called like the decorator. -/
def hider : Method := .field (.fresh "property"
  [⟨"property", "int", "return cast(int, self.raw_result[\"property\"])", "Query", []⟩])

def follower : Method := .field (.fresh "zeta"
  [⟨"zeta", "int", "return cast(int, self.raw_result[\"zeta\"])", "Query", []⟩])

def root : ObjectClass := ⟨"Q", "Query", ["Query"], [hider, follower], []⟩

def details : OperationDetails :=
  ⟨"Q", "query", printDocument operation (usedFragments document.fragmentTable operation.selections), []⟩

def registry : Registry := ⟨[.root root details], by decide⟩

def generator : Generator := ⟨⟨schema, .empty none, false⟩, registry, [], [], ∅⟩

theorem ran : generator.Ran schema [document] := by
  have ends : (Generator.start ⟨schema, .empty none, false⟩).generate document
      = (.ok [.root root details], generator) := by
    refine (generate_one_iff (o := operation) rfl).2 ⟨rfl, ?_⟩
    rw [generateOperation]
    dsimp only [generator, registry, details]
    -- the classes are the same whatever text is sent
    generalize printDocument operation _ = sent
    cbv
  exact .generate (.start rfl) ends

theorem accepted : Accepted schema document := by
  refine ⟨"query Q{property zeta}", "q.graphql", ⟨document, "query Q{property zeta}", "q.graphql"⟩, ?_, rfl⟩
  cbv

end PropertyField

section

open PropertyField

/-- A field called `property` hides the decorator from the accessor that is written after its own. -/
theorem decorator_hidden_iff_property_field :
    Accepted schema document ∧ generator.Ran schema [document] ∧ root.sortedMethods = [hider, follower]
      ∧ Naming.decorator ∈ (ClassDefinition.root root details).boundBefore [hider]
      ∧ ∃ o, Stems schema document registry "Q" o ∧ o.key ∈ Naming.decoratorKeys := by
  have accepted : ∀ d ∈ [document], Accepted schema d := List.forall_mem_singleton.2 PropertyField.accepted
  have sorted : root.sortedMethods = [hider, follower] :=
    List.mergeSort_of_pairwise (List.pairwise_pair.2 (by decide))
  have registered : .root root details ∈ generator.progress.registry.classes := List.mem_cons_self
  obtain ⟨-, body⟩ := decorator_hidden_iff accepted PropertyField.ran registered rfl
  have hidden : Naming.decorator ∈ (ClassDefinition.root root details).boundBefore [hider] :=
    ClassDefinition.decorator_mem_boundBefore_iff.2 ⟨hider, List.mem_cons_self, rfl⟩
  obtain ⟨-, d, hd, o, stems, key⟩ := (body [hider] follower [] sorted).1 hidden
  obtain rfl := List.mem_singleton.1 hd
  exact ⟨PropertyField.accepted, PropertyField.ran, sorted, hidden, o, stems, key⟩

end

end OperationClasses
