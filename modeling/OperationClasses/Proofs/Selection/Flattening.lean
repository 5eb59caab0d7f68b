/-
Module: OperationClasses.Proofs.Selection.Flattening
Purpose: The occurrences of a selection set are the fields that stand in it, in document order, and tell for each
  object type which response keys an executor answers.
Main exports: Shows, Places, collectAll_places, Flattens, occurrences_flattens
-/
import OperationClasses.Proofs.Selection.Standing

namespace OperationClasses

variable {s : Schema} {table available : List Fragment} {owner : String}

/-- An occurrence shows a field that is looked up on a type and reached through type conditions. -/
structure Shows (s : Schema) (table : List Fragment) (owner : String) (conditions : List String)
    (lookup : TypeDefinition) (x : SelectedField) (o : Occurrence) : Prop where
  head : o.head = x.head
  type : s.selectableType? lookup x.head.name = some o.type
  owner : o.owner = owner
  conditions : o.conditions = conditions
  below : ∃ available, Subtable available table ∧ o.below = x.below.map (resolveAll table available)

/-- Occurrences, each with its place, are the fields that stand somewhere, in the order of their places. -/
structure Places (s : Schema) (table : List Fragment) (owner : String) (outer : List String)
    (stands : List Nat → List String → TypeDefinition → Selection → Prop)
    (placed : List (List Nat × Occurrence)) : Prop where
  ordered : placed.Pairwise fun a b => a.1 < b.1
  sound : ∀ p ∈ placed, ∃ conditions lookup member x, stands p.1 conditions lookup member
    ∧ member.field? = some x ∧ Shows s table owner (outer ++ conditions) lookup x p.2
  complete : ∀ {position conditions lookup member x}, stands position conditions lookup member →
    member.field? = some x → ∃ o, (position, o) ∈ placed
      ∧ Shows s table owner (outer ++ conditions) lookup x o

/-! ### Going into fragments -/

section Inside

variable {parent type lookup : TypeDefinition} {member : Selection} {x : SelectedField}
  {directives : List Directive} {inner : List Selection} {position : List Nat} {conditions : List String}

/-- A field in an inline fragment without a type condition stands in its selections. -/
theorem encloses_bare_iff (field : member.field? = some x) :
    Encloses s table parent (.inline none directives inner) position conditions lookup member
      ↔ Stands s table parent inner position conditions lookup member := by
  constructor
  · intro h
    cases h with
    | self => cases field
    | bare at_ inside => exact ⟨_, _, _, rfl, at_, inside⟩
  · rintro ⟨i, rest, next, rfl, at_, inside⟩
    exact .bare at_ inside

/-- A field in an inline fragment with a type condition stands in its selections on that type. -/
theorem encloses_inline_iff {condition : String} (known : s.find? condition = some type)
    (field : member.field? = some x) :
    Encloses s table parent (.inline (some condition) directives inner) position conditions lookup member
      ↔ ∃ rest, conditions = condition :: rest
          ∧ Stands s table type inner position rest lookup member := by
  constructor
  · intro h
    cases h with
    | self => cases field
    | inline known' at_ inside =>
      rw [known] at known'
      cases known'
      exact ⟨_, rfl, _, _, _, rfl, at_, inside⟩
  · rintro ⟨_, rfl, i, rest, next, rfl, at_, inside⟩
    exact .inline known at_ inside

/-- A field in a spread fragment stands in the selections of the fragment on its type. -/
theorem encloses_spread_iff {name : String} {f : Fragment} (found : findFragment table name = some f)
    (known : s.find? f.typeCondition = some type) (field : member.field? = some x) :
    Encloses s table parent (.spread name directives) position conditions lookup member
      ↔ ∃ rest, conditions = f.typeCondition :: rest
          ∧ Stands s table type f.selections position rest lookup member := by
  constructor
  · intro h
    cases h with
    | self => cases field
    | spread found' known' at_ inside =>
      rw [found] at found'
      cases found'
      rw [known] at known'
      cases known'
      exact ⟨_, rfl, _, _, _, rfl, at_, inside⟩
  · rintro ⟨_, rfl, i, rest, next, rfl, at_, inside⟩
    exact .spread found known at_ inside

end Inside

namespace Places

variable {outer : List String}
  {stands stands' : List Nat → List String → TypeDefinition → Selection → Prop}
  {placed : List (List Nat × Occurrence)}

/-- Occurrences inside a fragment are the same seen from outside, where the way to them is longer. -/
theorem leave (entered : List String) (h : Places s table owner (outer ++ entered) stands placed)
    (inside : ∀ {position conditions lookup member x}, member.field? = some x →
      (stands' position conditions lookup member
        ↔ ∃ rest, conditions = entered ++ rest ∧ stands position rest lookup member)) :
    Places s table owner outer stands' placed where
  ordered := h.ordered
  sound p hp := by
    obtain ⟨rest, lookup, member, x, at_, field, shows⟩ := h.sound p hp
    refine ⟨entered ++ rest, lookup, member, x, (inside field).2 ⟨rest, rfl, at_⟩, field, ?_⟩
    rwa [← List.append_assoc]
  complete at_ field := by
    obtain ⟨rest, rfl, entered_at⟩ := (inside field).1 at_
    rw [← List.append_assoc]
    exact h.complete entered_at field

/-- A field is its only occurrence. -/
theorem self {parent : TypeDefinition} {first : Selection} {x : SelectedField} {o : Occurrence}
    (field : first.field? = some x) (shows : Shows s table owner outer parent x o) :
    Places s table owner outer (Encloses s table parent first) [([], o)] where
  ordered := List.pairwise_singleton ..
  sound p hp := by
    cases List.mem_singleton.1 hp
    exact ⟨[], parent, first, x, .self, field, by rwa [List.append_nil]⟩
  complete h field' := by
    cases h with
    | self =>
      rw [field] at field'
      cases field'
      exact ⟨o, List.mem_singleton.2 rfl, by rwa [List.append_nil]⟩
    | bare | inline | spread => cases field

end Places

/-- The place of a member after another member is put before it. -/
def nextPlace : List Nat → List Nat
  | [] => []
  | i :: rest => (i + 1) :: rest

/-- A member of a selection set stands in its first member or in the others. -/
theorem stands_cons {parent lookup : TypeDefinition} {first member : Selection}
    {others : List Selection} {position : List Nat} {conditions : List String} :
    Stands s table parent (first :: others) position conditions lookup member
      ↔ (∃ rest, position = 0 :: rest ∧ Encloses s table parent first rest conditions lookup member)
        ∨ ∃ later, position = nextPlace later
          ∧ Stands s table parent others later conditions lookup member := by
  constructor
  · rintro ⟨i, rest, next, rfl, at_, inside⟩
    cases i with
    | zero =>
      cases at_
      exact Or.inl ⟨rest, rfl, inside⟩
    | succ i => exact Or.inr ⟨i :: rest, rfl, i, rest, next, rfl, at_, inside⟩
  · rintro (⟨rest, rfl, inside⟩ | ⟨_, rfl, i, rest, next, rfl, at_, inside⟩)
    · exact ⟨0, rest, first, rfl, rfl, inside⟩
    · exact ⟨i + 1, rest, next, rfl, at_, inside⟩

namespace Places

variable {outer : List String} {parent : TypeDefinition} {first : Selection} {others : List Selection}
  {own later : List (List Nat × Occurrence)}

/-- The occurrences of a selection set are those of its first member and then those of the others. -/
theorem cons (h : Places s table owner outer (Encloses s table parent first) own)
    (h' : Places s table owner outer (Stands s table parent others) later) :
    Places s table owner outer (Stands s table parent (first :: others))
      (own.map (Prod.map (0 :: ·) id) ++ later.map (Prod.map nextPlace id)) where
  ordered := by
    refine List.pairwise_append.2 ⟨?_, ?_, ?_⟩
    · refine List.pairwise_map.2 (h.ordered.imp fun {a b} before => ?_)
      exact List.cons_lt_cons_iff.2 (Or.inr ⟨rfl, before⟩)
    · refine List.pairwise_map.2 (List.Pairwise.imp_of_mem ?_ h'.ordered)
      intro a b ha hb before
      obtain ⟨_, _, _, _, ⟨i, p, _, ei, -⟩, -⟩ := h'.sound a ha
      obtain ⟨_, _, _, _, ⟨j, q, _, ej, -⟩, -⟩ := h'.sound b hb
      simp only [Prod.map_fst, ei, ej, nextPlace, List.cons_lt_cons_iff] at before ⊢
      exact before.imp Nat.succ_lt_succ fun ⟨same, less⟩ => ⟨congrArg Nat.succ same, less⟩
    · intro a ha b hb
      obtain ⟨p, -, rfl⟩ := List.mem_map.1 ha
      obtain ⟨q, hq, rfl⟩ := List.mem_map.1 hb
      obtain ⟨_, _, _, _, ⟨j, r, _, ej, -⟩, -⟩ := h'.sound q hq
      simp only [Prod.map_fst, ej, nextPlace, List.cons_lt_cons_iff]
      exact Or.inl (Nat.succ_pos j)
  sound := by
    intro placed mem
    rcases List.mem_append.1 mem with mem | mem
    · obtain ⟨p, hp, rfl⟩ := List.mem_map.1 mem
      obtain ⟨conditions, lookup, member, x, at_, field, shows⟩ := h.sound p hp
      exact ⟨conditions, lookup, member, x, stands_cons.2 (Or.inl ⟨_, rfl, at_⟩), field, shows⟩
    · obtain ⟨p, hp, rfl⟩ := List.mem_map.1 mem
      obtain ⟨conditions, lookup, member, x, at_, field, shows⟩ := h'.sound p hp
      exact ⟨conditions, lookup, member, x, stands_cons.2 (Or.inr ⟨_, rfl, at_⟩), field, shows⟩
  complete := by
    intro position conditions lookup member x at_ field
    rcases stands_cons.1 at_ with ⟨rest, rfl, inside⟩ | ⟨rest, rfl, after⟩
    · obtain ⟨o, ho, shows⟩ := h.complete inside field
      exact ⟨o, List.mem_append_left _ (List.mem_map.2 ⟨_, ho, rfl⟩), shows⟩
    · obtain ⟨o, ho, shows⟩ := h'.complete after field
      exact ⟨o, List.mem_append_right _ (List.mem_map.2 ⟨_, ho, rfl⟩), shows⟩

/-- An empty selection set has no occurrences. -/
theorem nil : Places s table owner outer (Stands s table parent []) [] where
  ordered := .nil
  sound p hp := absurd hp List.not_mem_nil
  complete at_ := by
    obtain ⟨i, rest, next, rfl, mem, -⟩ := at_
    cases mem

end Places

/-! ### Collecting -/

/-- The fragments that may be spread are those of the table, as far as the members that are reached
    spread them. -/
def Offers (table available : List Fragment) (reached : TypeDefinition → Selection → Prop) : Prop :=
  ∀ lookup name directives, reached lookup (.spread name directives) →
    findFragment available name = findFragment table name

/-- A fragment that is gone into is not needed inside itself. -/
theorem Plain.offers_without {parent type : TypeDefinition} {name : String} {directives : List Directive}
    {f : Fragment} (plain : Plain s table (Within s table parent (.spread name directives)))
    (offers : Offers table available (Within s table parent (.spread name directives)))
    (found : findFragment table name = some f) (known : s.find? f.typeCondition = some type) :
    Offers table (withoutFragment available name) (Reached s table type f.selections) := by
  intro lookup other directives' reached
  have differs : other ≠ name := by
    rintro rfl
    exact plain.acyclic Within.self found known lookup directives' reached
  rw [findFragment_without differs]
  exact offers lookup other directives' (reached.spread found known)

mutual

/-- The occurrences of a plain member are the fields that it encloses, each in its place. -/
theorem collect_places (available : List Fragment) (outer : List String) (parent : TypeDefinition)
    (first : Selection) (plain : Plain s table (Within s table parent first))
    (offers : Offers table available (Within s table parent first)) (fewer : Subtable available table) :
    ∃ placed, collect s owner outer parent (resolve table available first) = .ok (placed.map Prod.snd)
      ∧ Places s table owner outer (Encloses s table parent first) placed := by
  match first with
  | .leaf head =>
    obtain ⟨type, known⟩ := plain.field Within.self rfl
    have shows : Shows s table owner outer parent ⟨head, none⟩ ⟨head, type, owner, outer, none⟩ :=
      ⟨rfl, known, rfl, rfl, available, fewer, rfl⟩
    refine ⟨_, ?_, .self rfl shows⟩
    rw [resolve, collect, fieldTypeOf, known]
    rfl
  | .nested head below =>
    obtain ⟨type, known⟩ := plain.field Within.self rfl
    have shows : Shows s table owner outer parent ⟨head, some below⟩
        ⟨head, type, owner, outer, some (resolveAll table available below)⟩ :=
      ⟨rfl, known, rfl, rfl, available, fewer, rfl⟩
    refine ⟨_, ?_, .self rfl shows⟩
    rw [resolve, collect, fieldTypeOf, known]
    rfl
  | .inline none directives inner =>
    have sub : ∀ lookup member, Reached s table parent inner lookup member →
        Within s table parent (.inline none directives inner) lookup member := fun _ _ h => h.bare
    obtain ⟨placed, collected, places⟩ := collectAll_places available outer parent inner (plain.mono sub)
      (fun lookup name ds h => offers lookup name ds (sub _ _ h)) fewer
    rw [← List.append_nil outer] at places
    refine ⟨placed, ?_, places.leave [] fun field => ?_⟩
    · rw [resolve, collect, ← collected]
    · simpa using encloses_bare_iff field
  | .inline (some condition) directives inner =>
    obtain ⟨type, known, -⟩ := plain.inline Within.self
    have sub : ∀ lookup member, Reached s table type inner lookup member →
        Within s table parent (.inline (some condition) directives inner) lookup member :=
      fun _ _ h => h.inline known
    obtain ⟨placed, collected, places⟩ := collectAll_places available (outer ++ [condition]) type inner
      (plain.mono sub) (fun lookup name ds h => offers lookup name ds (sub _ _ h)) fewer
    refine ⟨placed, ?_, places.leave [condition] fun field => encloses_inline_iff known field⟩
    rw [resolve, collect, typeNamed, known, ← collected]
    rfl
  | .spread name directives =>
    obtain ⟨f, type, found, known, -⟩ := plain.spread Within.self
    have offered : findFragment available name = some f := by
      rw [offers parent name directives Within.self, found]
    obtain ⟨placed, collected, places⟩ := collectAll_places (withoutFragment available name)
      (outer ++ [f.typeCondition]) type f.selections
      (plain.mono fun _ _ h => h.spread found known) (plain.offers_without offers found known)
      (fewer.without name)
    refine ⟨placed, ?_, places.leave [f.typeCondition] fun field =>
      encloses_spread_iff found known field⟩
    rw [resolve_spread offered, collect, typeNamed, known, ← collected]
    rfl
termination_by (available.length, sizeOf first)
decreasing_by
  · exact Prod.Lex.right _ (by simp only [Selection.inline.sizeOf_spec]; omega)
  · exact Prod.Lex.right _ (by simp only [Selection.inline.sizeOf_spec]; omega)
  · exact Prod.Lex.left _ _ (length_withoutFragment_lt offered)

/-- The occurrences of plain selections are the fields that stand there, each in its place. -/
theorem collectAll_places (available : List Fragment) (outer : List String) (parent : TypeDefinition)
    (selections : List Selection) (plain : Plain s table (Reached s table parent selections))
    (offers : Offers table available (Reached s table parent selections))
    (fewer : Subtable available table) :
    ∃ placed, collectAll s owner outer parent (resolveAll table available selections)
        = .ok (placed.map Prod.snd)
      ∧ Places s table owner outer (Stands s table parent selections) placed := by
  match selections with
  | [] => exact ⟨[], by rw [resolveAll, collectAll]; rfl, .nil⟩
  | first :: others =>
    have in_first : ∀ lookup member, Within s table parent first lookup member →
        Reached s table parent (first :: others) lookup member := fun _ _ h => reached_cons.2 (Or.inl h)
    have in_others : ∀ lookup member, Reached s table parent others lookup member →
        Reached s table parent (first :: others) lookup member := fun _ _ h => reached_cons.2 (Or.inr h)
    obtain ⟨own, collected, places⟩ := collect_places available outer parent first
      (plain.mono in_first) (fun lookup name ds h => offers lookup name ds (in_first _ _ h)) fewer
    obtain ⟨later, collected', places'⟩ := collectAll_places available outer parent others
      (plain.mono in_others) (fun lookup name ds h => offers lookup name ds (in_others _ _ h)) fewer
    refine ⟨_, ?_, places.cons places'⟩
    rw [resolveAll, collectAll, collected, collected', List.map_append, List.map_map, List.map_map]
    rfl
termination_by (available.length, sizeOf selections)

end

/-! ### Agreement with execution -/

/-- The occurrences of a selection set on a type are what execution makes of the set for the object types
    of its values. -/
structure Flattens (s : Schema) (table : List Fragment) (parent : TypeDefinition)
    (selections : List Selection) (os : List Occurrence) : Prop where
  /-- every chain starts with the type and ends with the type that defines the field -/
  chain : ∀ o ∈ os, o.chain.head? = some parent.name ∧ ∃ lookup, o.chain.getLast? = some lookup.name
    ∧ s.find? lookup.name = some lookup ∧ s.selectableType? lookup o.head.name = some o.type
  /-- the types that pass a chain can always be told -/
  compatible : ∀ o ∈ os, ∀ p : Path, p.chain = o.chain → ∃ types, p.compatible s = .ok types
  /-- the occurrences are the fields that stand in the selections, in depth-first order -/
  order : ∃ placed : List (List Nat × Occurrence), placed.map Prod.snd = os
    ∧ Places s table parent.name [] (Stands s table parent selections) placed
  /-- a response key is answered for an object type exactly if an occurrence with the key admits that
      type -/
  keys : ∀ object, Possible s parent.name object → ∀ given key,
    key ∈ (collectFields s table given object selections).map Prod.fst
      ↔ ∃ o ∈ os, o.key = key ∧ ∀ p : Path, p.chain = o.chain → p.Compatible s object

/-- The members on the way to a member that stands in plain selections are on composite types. -/
theorem Plain.conditions {parent lookup : TypeDefinition} {first member : Selection}
    {position : List Nat} {conditions : List String}
    (h : Encloses s table parent first position conditions lookup member)
    (plain : Plain s table (Within s table parent first)) :
    ∀ c ∈ conditions, ∃ type, s.find? c = some type ∧ type.body.isComposite := by
  induction h with
  | self => exact fun c hc => absurd hc List.not_mem_nil
  | bare at_ _ ih =>
    exact ih (plain.mono fun _ _ h => (h.reached (List.mem_of_getElem? at_)).bare)
  | inline known at_ _ ih =>
    refine List.forall_mem_cons.2 ⟨plain.inline Within.self, ?_⟩
    exact ih (plain.mono fun _ _ h => (h.reached (List.mem_of_getElem? at_)).inline known)
  | spread found known at_ _ ih =>
    obtain ⟨g, type, found', known', composite⟩ := plain.spread Within.self
    rw [found] at found'
    cases found'
    refine List.forall_mem_cons.2 ⟨⟨type, known', composite⟩, ?_⟩
    exact ih (plain.mono fun _ _ h => (h.reached (List.mem_of_getElem? at_)).spread found known)

/-- Flattening agrees with execution: the occurrences of plain selections on a composite type can be
    collected, and are what execution makes of them. -/
theorem occurrences_flattens {parent : TypeDefinition} {selections : List Selection}
    (known : s.find? parent.name = some parent) (composite : parent.body.isComposite)
    (plain : Plain s table (Reached s table parent selections)) :
    ∃ os, occurrences s parent (resolveAll table table selections) = .ok os
      ∧ Flattens s table parent selections os := by
  obtain ⟨placed, collected, places⟩ := collectAll_places table [] parent selections plain
    (fun _ _ _ _ => rfl) fun _ _ => id
  have stands : ∀ o ∈ placed.map Prod.snd, ∃ position lookup member x,
      Stands s table parent selections position o.conditions lookup member ∧ member.field? = some x
        ∧ Shows s table parent.name o.conditions lookup x o := by
    intro o ho
    obtain ⟨p, hp, rfl⟩ := List.mem_map.1 ho
    obtain ⟨conditions, lookup, member, x, at_, field, shows⟩ := places.sound p hp
    rw [List.nil_append] at shows
    rw [← shows.conditions] at at_ shows
    exact ⟨p.1, lookup, member, x, at_, field, shows⟩
  have compatible : ∀ o ∈ placed.map Prod.snd, ∀ p : Path, p.chain = o.chain →
      ∃ types, p.compatible s = .ok types := by
    intro o ho p same
    obtain ⟨_, lookup, member, x, ⟨i, position, next, rfl, hi, inside⟩, field, shows⟩ := stands o ho
    refine Path.compatible_of_composite ?_
    rw [same]
    refine List.forall_mem_cons.2 ⟨⟨parent, ?_, composite⟩, ?_⟩
    · rw [shows.owner, known]
    · exact Plain.conditions inside (plain.mono fun _ _ h => h.reached (List.mem_of_getElem? hi))
  refine ⟨placed.map Prod.snd, collected, ?_, compatible, ⟨placed, rfl, places⟩, ?_⟩
  · intro o ho
    obtain ⟨_, lookup, member, x, ⟨i, position, next, rfl, hi, inside⟩, field, shows⟩ := stands o ho
    refine ⟨congrArg some shows.owner, lookup, ?_, inside.find?_lookup known, ?_⟩
    · rw [Occurrence.chain, shows.owner]
      exact inside.getLast?
    · rw [shows.head]
      exact shows.type
  · intro object possible given key
    rw [mem_collectFields_iff]
    constructor
    · rintro ⟨x, hx, rfl⟩
      obtain ⟨position, conditions, lookup, member, at_, field, all⟩ := plain.mem_gather_iff.1 hx
      obtain ⟨o, ho, shows⟩ := places.complete at_ field
      rw [List.nil_append] at shows
      have mem : o ∈ placed.map Prod.snd := List.mem_map.2 ⟨_, ho, rfl⟩
      refine ⟨o, mem, congrArg FieldHead.responseKey shows.head, fun p same => ?_⟩
      obtain ⟨types, hc⟩ := compatible o mem p same
      obtain ⟨sameOwner, sameConditions⟩ := List.cons.inj same
      refine ⟨types, hc, (Path.mem_compatible hc).2 ⟨?_, ?_⟩⟩
      · rwa [sameOwner, shows.owner]
      · rwa [sameConditions, shows.conditions]
    · rintro ⟨o, ho, rfl, admits⟩
      obtain ⟨position, lookup, member, x, at_, field, shows⟩ := stands o ho
      obtain ⟨types, hc, admitted⟩ := admits ⟨"", "", "", o.owner, o.conditions⟩ rfl
      refine ⟨x, plain.mem_gather_iff.2 ?_, congrArg FieldHead.responseKey shows.head.symm⟩
      exact ⟨position, o.conditions, lookup, member, at_, field, ((Path.mem_compatible hc).1 admitted).2⟩

/-- A fragment inside an inline fragment, on an interface and on one of its two object types. -/
theorem occurrences_flattens_nested :
    let node : TypeDefinition := ⟨"Node", [], .interface [] [⟨"id", [], .named "ID" true, []⟩]⟩
    let user : TypeDefinition := ⟨"User", [], .object ["Node"]
      [⟨"id", [], .named "ID" true, []⟩, ⟨"login", [], .named "ID" true, []⟩]⟩
    let bot : TypeDefinition := ⟨"Bot", [], .object ["Node"] [⟨"id", [], .named "ID" true, []⟩]⟩
    let s : Schema := ⟨[node, user, bot, ⟨"ID", [], .scalar⟩], [], none, none, none⟩
    let table : List Fragment := [⟨none, "F", "User", [], [.leaf ⟨none, "login", [], []⟩]⟩]
    let selections : List Selection := [.leaf ⟨none, "__typename", [], []⟩,
      .inline (some "Node") [] [.leaf ⟨some "key", "id", [], []⟩, .spread "F" []]]
    s.find? node.name = some node ∧ node.body.isComposite
      ∧ Plain s table (Reached s table node selections)
      ∧ ∃ os, occurrences s node (resolveAll table table selections) = .ok os
        ∧ Flattens s table node selections os := by
  intro node user bot s table selections
  have known : s.find? node.name = some node := rfl
  have composite : node.body.isComposite := rfl
  have inFragment : ∀ {parent lookup member},
    Reached s table parent [.leaf ⟨none, "login", [], []⟩] lookup member →
      lookup = parent ∧ member = .leaf ⟨none, "login", [], []⟩ := by
    intro parent lookup member h
    exact (within_field rfl).1 ((reached_cons.1 h).resolve_right not_reached_nil)
  have all : ∀ {lookup member}, Reached s table node selections lookup member →
      (lookup = node ∧ (member = .leaf ⟨none, "__typename", [], []⟩
        ∨ member = .inline (some "Node") [] [.leaf ⟨some "key", "id", [], []⟩, .spread "F" []]
        ∨ member = .leaf ⟨some "key", "id", [], []⟩ ∨ member = .spread "F" []))
      ∨ (lookup = user ∧ member = .leaf ⟨none, "login", [], []⟩) := by
    intro lookup member h
    rcases reached_cons.1 h with h | h
    · have := (within_field rfl).1 h
      grind
    · rcases within_inline.1 ((reached_cons.1 h).resolve_right not_reached_nil) with h | ⟨type, hn, h⟩
      · grind
      · cases hn
        rcases reached_cons.1 h with h | h
        · have := (within_field rfl).1 h
          grind
        · rcases within_spread.1 ((reached_cons.1 h).resolve_right not_reached_nil)
            with h | ⟨f, type, hf, ht, h⟩
          · grind
          · cases hf
            cases ht
            exact Or.inr (inFragment h)
  have plain : Plain s table (Reached s table node selections) := by
    constructor
    · intro lookup member x h field
      rcases all h with ⟨rfl, rfl | rfl | rfl | rfl⟩ | ⟨rfl, rfl⟩ <;> cases field <;> exact ⟨_, rfl⟩
    · intro lookup condition directives inner h
      rcases all h with ⟨rfl, e | e | e | e⟩ | ⟨rfl, e⟩ <;> cases e
      exact ⟨node, rfl, rfl⟩
    · intro lookup name directives h
      rcases all h with ⟨rfl, e | e | e | e⟩ | ⟨rfl, e⟩ <;> cases e
      exact ⟨_, user, rfl, rfl, rfl⟩
    · intro lookup name directives f type h found knownType lookup' directives' again
      rcases all h with ⟨rfl, e | e | e | e⟩ | ⟨rfl, e⟩ <;> cases e
      cases found
      cases (inFragment again).2
    · intro lookup member h
      rcases all h with ⟨rfl, rfl | rfl | rfl | rfl⟩ | ⟨rfl, rfl⟩ 
        <;> exact fun d hd => absurd hd List.not_mem_nil
  exact ⟨known, composite, plain, occurrences_flattens known composite plain⟩

end OperationClasses
