/-
Module: OperationClasses.Proofs.Selection.Execution
Purpose: The fields of a selection set that an executor answers for an object type, with each fragment
  visited once, and which selections those are.
Main exports: takesPart, Schema.applies, gather, collectFields, mem_group_iff, Answered, mem_gather_iff,
  mem_collectFields_iff
-/
import OperationClasses.Proofs.Selection.Spreads
import OperationClasses.Schema.Basic

namespace OperationClasses

/-!
An executor goes through a selection set for one object type at a time. It leaves out what `@skip` and
`@include` exclude, enters a fragment only if the fragment applies to the object type, and enters a named
fragment only the first time that it meets it. The fields it finds are grouped by response key.
-/

/-- A field that an executor met: what was written and what is selected below it. -/
structure SelectedField where
  head : FieldHead
  below : Option (List Selection)
deriving BEq, Repr, Inhabited

/-- The directives of a member of a selection set. -/
def Selection.directives : Selection → List Directive
  | .leaf head => head.directives
  | .nested head _ => head.directives
  | .spread _ directives => directives
  | .inline _ directives _ => directives

/-- Whether the condition of a directive is true, given the variables that are. -/
def Directive.holds (given : String → Bool) (d : Directive) : Bool :=
  match d.argument? "if" with
  | some (.boolean value) => value
  | some (.variable name) => given name
  | _ => false

/-- Whether a member takes part in execution: no `@skip` holds and every `@include` does. -/
def takesPart (given : String → Bool) (directives : List Directive) : Bool :=
  directives.all fun d =>
    if d.name = "skip" then !d.holds given
    else if d.name = "include" then d.holds given
    else true

/-- Whether a fragment on the type of a name applies to an object type: it is that type, an interface
    that the object type lists, or a union that it is a member of. -/
def Schema.applies (s : Schema) (object condition : String) : Bool :=
  match s.find? condition with
  | none => false
  | some type =>
    match type.body with
    | .object .. => type.name == object
    | .interface .. => s.types.any fun t =>
      match t.body with
      | .object interfaces _ => t.name == object && interfaces.contains type.name
      | _ => false
    | .union members => members.contains object
    | _ => false

theorem sizeOf_append_lt {α : Type} [SizeOf α] (xs ys : List α) :
    sizeOf (xs ++ ys) < sizeOf xs + sizeOf ys := by
  induction xs with
  | nil => simp
  | cons x xs ih =>
    simp only [List.cons_append, List.cons.sizeOf_spec]
    omega

/-- What is inside a fragment and what comes after it is smaller than the fragment and what comes after
    it. -/
theorem sizeOf_inner_lt (condition : Option String) (directives : List Directive)
    (selections rest : List Selection) :
    sizeOf (selections ++ rest) < sizeOf (Selection.inline condition directives selections :: rest) := by
  have := sizeOf_append_lt selections rest
  simp only [List.cons.sizeOf_spec, Selection.inline.sizeOf_spec]
  omega

/-- The fields that are met for an object type, in order. `unvisited` are the fragments that were not met
    so far; what a fragment selects is gone through before what comes after it. -/
def gather (s : Schema) (given : String → Bool) (object : String) (unvisited : List Fragment) :
    List Selection → List SelectedField
  | [] => []
  | .leaf head :: rest =>
    if takesPart given head.directives then ⟨head, none⟩ :: gather s given object unvisited rest
    else gather s given object unvisited rest
  | .nested head below :: rest =>
    if takesPart given head.directives then
      ⟨head, some below⟩ :: gather s given object unvisited rest
    else gather s given object unvisited rest
  | .inline condition directives selections :: rest =>
    if takesPart given directives && condition.all (s.applies object) then
      gather s given object unvisited (selections ++ rest)
    else gather s given object unvisited rest
  | .spread name directives :: rest =>
    if takesPart given directives then
      match _h : findFragment unvisited name with
      | none => gather s given object unvisited rest
      | some f =>
        gather s given object (withoutFragment unvisited name)
          (if s.applies object f.typeCondition then f.selections ++ rest else rest)
    else gather s given object unvisited rest
termination_by pending => (unvisited.length, sizeOf pending)
decreasing_by
  all_goals first
    | exact Prod.Lex.left _ _ (length_withoutFragment_lt _h)
    | exact Prod.Lex.right _ (by simp only [List.cons.sizeOf_spec]; omega)
    | exact Prod.Lex.right _ (sizeOf_inner_lt ..)

/-- Puts a field with those of its response key, or last. -/
def groupField (f : SelectedField) :
    List (String × List SelectedField) → List (String × List SelectedField)
  | [] => [(f.head.responseKey, [f])]
  | (key, group) :: rest =>
    if key = f.head.responseKey then (key, group ++ [f]) :: rest else (key, group) :: groupField f rest

/-- The response keys of a selection set for an object type, each with the fields that share it. -/
def collectFields (s : Schema) (table : List Fragment) (given : String → Bool) (object : String)
    (selections : List Selection) : List (String × List SelectedField) :=
  (gather s given object table selections).foldl (fun groups f => groupField f groups) []

/-! ### Groups -/

/-- Grouping a field adds its response key. -/
theorem mem_keys_groupField {f : SelectedField} {groups : List (String × List SelectedField)}
    {k : String} :
    k ∈ (groupField f groups).map Prod.fst ↔ k = f.head.responseKey ∨ k ∈ groups.map Prod.fst := by
  induction groups with
  | nil => simp [groupField]
  | cons g rest ih =>
    obtain ⟨key, group⟩ := g
    unfold groupField
    split
    · rename_i same
      subst same
      simp
    · rw [List.map_cons, List.mem_cons, ih, List.map_cons, List.mem_cons]
      exact or_left_comm

/-- The response keys are those of the fields that are met. -/
theorem mem_collectFields_iff {s : Schema} {table : List Fragment} {given : String → Bool}
    {object k : String} {selections : List Selection} :
    k ∈ (collectFields s table given object selections).map Prod.fst
      ↔ ∃ f ∈ gather s given object table selections, f.head.responseKey = k := by
  have grouped : ∀ (fields : List SelectedField) (groups : List (String × List SelectedField)),
      k ∈ (fields.foldl (fun groups f => groupField f groups) groups).map Prod.fst
        ↔ k ∈ groups.map Prod.fst ∨ ∃ f ∈ fields, f.head.responseKey = k := by
    intro fields
    induction fields with
    | nil => simp
    | cons f rest ih =>
      intro groups
      rw [List.foldl_cons, ih, mem_keys_groupField]
      simp only [List.mem_cons, exists_eq_or_imp]
      constructor
      · rintro ((rfl | old) | later)
        · exact Or.inr (Or.inl rfl)
        · exact Or.inl old
        · exact Or.inr (Or.inr later)
      · rintro (old | rfl | later)
        · exact Or.inl (Or.inr old)
        · exact Or.inl (Or.inl rfl)
        · exact Or.inr later
  exact (grouped _ []).trans (by simp)

/-- Grouping a field keeps the keys of the groups apart. -/
theorem nodup_keys_groupField {f : SelectedField} {groups : List (String × List SelectedField)}
    (h : (groups.map Prod.fst).Nodup) : ((groupField f groups).map Prod.fst).Nodup := by
  induction groups with
  | nil => exact List.pairwise_singleton _ _
  | cons g rest ih =>
    obtain ⟨first, later⟩ := List.nodup_cons.1 h
    unfold groupField
    split
    · exact h
    · rename_i differs
      refine List.nodup_cons.2 ⟨fun again => ?_, ih later⟩
      exact (mem_keys_groupField.1 again).elim differs first

/-- Grouping a field leaves the groups of other keys, and puts it with the fields of its own. -/
theorem mem_groupField {f : SelectedField} {groups : List (String × List SelectedField)} {k : String}
    {fields : List SelectedField} (distinct : (groups.map Prod.fst).Nodup)
    (h : (k, fields) ∈ groupField f groups) :
    (k ≠ f.head.responseKey ∧ (k, fields) ∈ groups)
      ∨ (k = f.head.responseKey ∧ ((k ∉ groups.map Prod.fst ∧ fields = [f])
        ∨ ∃ before, (k, before) ∈ groups ∧ fields = before ++ [f])) := by
  induction groups with
  | nil =>
    cases List.mem_singleton.1 h
    exact Or.inr ⟨rfl, Or.inl ⟨List.not_mem_nil, rfl⟩⟩
  | cons g rest ih =>
    obtain ⟨key, group⟩ := g
    obtain ⟨first, later⟩ := List.nodup_cons.1 distinct
    unfold groupField at h
    split at h
    · rename_i same
      rcases List.mem_cons.1 h with here | there
      · cases here
        exact Or.inr ⟨same, Or.inr ⟨group, List.mem_cons_self, rfl⟩⟩
      · refine Or.inl ⟨?_, List.mem_cons_of_mem _ there⟩
        rintro rfl
        exact first (List.mem_map.2 ⟨_, there, same.symm⟩)
    · rename_i differs
      rcases List.mem_cons.1 h with here | there
      · cases here
        exact Or.inl ⟨differs, List.mem_cons_self⟩
      · rcases ih later there with ⟨other, old⟩ | ⟨rfl, ⟨new, alone⟩ | ⟨before, old, more⟩⟩
        · exact Or.inl ⟨other, List.mem_cons_of_mem _ old⟩
        · refine Or.inr ⟨rfl, Or.inl ⟨fun again => ?_, alone⟩⟩
          exact (List.mem_cons.1 again).elim (fun same => differs same.symm) new
        · exact Or.inr ⟨rfl, Or.inr ⟨before, List.mem_cons_of_mem _ old, more⟩⟩

/-- Groups hold the fields that were met, each group those of its key. -/
structure Grouped (groups : List (String × List SelectedField)) (met : List SelectedField) : Prop where
  distinct : (groups.map Prod.fst).Nodup
  keys : ∀ f ∈ met, f.head.responseKey ∈ groups.map Prod.fst
  fields : ∀ k fields, (k, fields) ∈ groups → ∀ f, f ∈ fields ↔ f ∈ met ∧ f.head.responseKey = k

/-- Grouping one more field. -/
theorem Grouped.add {groups : List (String × List SelectedField)} {met : List SelectedField}
    (h : Grouped groups met) (f : SelectedField) : Grouped (groupField f groups) (met ++ [f]) where
  distinct := nodup_keys_groupField h.distinct
  keys g hg := by
    rw [mem_keys_groupField]
    rcases List.mem_append.1 hg with hg | hg
    · exact Or.inr (h.keys g hg)
    · exact Or.inl (congrArg (·.head.responseKey) (List.mem_singleton.1 hg))
  fields k fields mem g := by
    rw [List.mem_append, List.mem_singleton]
    rcases mem_groupField h.distinct mem with ⟨other, old⟩ | ⟨rfl, ⟨new, rfl⟩ | ⟨before, old, rfl⟩⟩
    · rw [h.fields k fields old]
      refine ⟨fun ⟨hg, same⟩ => ⟨Or.inl hg, same⟩, ?_⟩
      rintro ⟨hg | rfl, same⟩
      · exact ⟨hg, same⟩
      · exact absurd same.symm other
    · refine List.mem_singleton.trans ⟨fun same => ⟨Or.inr same, congrArg (·.head.responseKey) same⟩, ?_⟩
      rintro ⟨hg | rfl, same⟩
      · exact absurd (same ▸ h.keys g hg) new
      · rfl
    · rw [List.mem_append, List.mem_singleton, h.fields _ before old]
      constructor
      · rintro (⟨hg, same⟩ | rfl)
        · exact ⟨Or.inl hg, same⟩
        · exact ⟨Or.inr rfl, rfl⟩
      · rintro ⟨hg | hg, same⟩
        · exact Or.inl ⟨hg, same⟩
        · exact Or.inr hg

/-- The fields of a response key are those that are met and have the key. -/
theorem mem_group_iff {s : Schema} {table : List Fragment} {given : String → Bool} {object k : String}
    {selections : List Selection} {fields : List SelectedField}
    (h : (k, fields) ∈ collectFields s table given object selections) {f : SelectedField} :
    f ∈ fields ↔ f ∈ gather s given object table selections ∧ f.head.responseKey = k := by
  have grouped : ∀ (later : List SelectedField) {groups met}, Grouped groups met →
      Grouped (later.foldl (fun groups f => groupField f groups) groups) (met ++ later) := by
    intro later
    induction later with
    | nil => exact fun h => by rwa [List.append_nil]
    | cons f rest ih =>
      intro groups met h
      rw [List.append_cons]
      exact ih (h.add f)
  have empty : Grouped [] [] := ⟨List.nodup_nil, fun f hf => absurd hf List.not_mem_nil,
    fun k fields mem => absurd mem List.not_mem_nil⟩
  exact (grouped (gather s given object table selections) empty).fields k fields h f

/-! ### The fields that are met -/

/-- A field stands in selections that take part, inside fragments of `unvisited` that take part and apply
    to an object type, whether or not an executor was there before. -/
inductive Answered (s : Schema) (given : String → Bool) (object : String) (unvisited : List Fragment) :
    List Selection → SelectedField → Prop where
  | leaf {selections : List Selection} {head : FieldHead} (mem : .leaf head ∈ selections)
      (part : takesPart given head.directives) :
      Answered s given object unvisited selections ⟨head, none⟩
  | nested {selections below : List Selection} {head : FieldHead} (mem : .nested head below ∈ selections)
      (part : takesPart given head.directives) :
      Answered s given object unvisited selections ⟨head, some below⟩
  | inline {selections inner : List Selection} {condition : Option String} {directives : List Directive}
      {x : SelectedField} (mem : .inline condition directives inner ∈ selections)
      (part : takesPart given directives) (applies : condition.all (s.applies object))
      (inside : Answered s given object unvisited inner x) :
      Answered s given object unvisited selections x
  | spread {selections : List Selection} {name : String} {directives : List Directive} {f : Fragment}
      {x : SelectedField} (mem : .spread name directives ∈ selections)
      (part : takesPart given directives) (found : findFragment unvisited name = some f)
      (applies : s.applies object f.typeCondition)
      (inside : Answered s given object unvisited f.selections x) :
      Answered s given object unvisited selections x

namespace Answered

variable {s : Schema} {given : String → Bool} {object : String} {unvisited : List Fragment}
  {xs ys : List Selection} {x : SelectedField}

/-- A field of some members is a field of more. -/
theorem mono (sub : ∀ y ∈ xs, y ∈ ys) (h : Answered s given object unvisited xs x) :
    Answered s given object unvisited ys x := by
  cases h with
  | leaf mem part => exact .leaf (sub _ mem) part
  | nested mem part => exact .nested (sub _ mem) part
  | inline mem part applies inside => exact .inline (sub _ mem) part applies inside
  | spread mem part found applies inside => exact .spread (sub _ mem) part found applies inside

/-- A field of two lists of members is a field of one of them. -/
theorem append : Answered s given object unvisited (xs ++ ys) x
    ↔ Answered s given object unvisited xs x ∨ Answered s given object unvisited ys x := by
  constructor
  · intro h
    cases h with
    | leaf mem part => exact (List.mem_append.1 mem).imp (.leaf · part) (.leaf · part)
    | nested mem part => exact (List.mem_append.1 mem).imp (.nested · part) (.nested · part)
    | inline mem part applies inside =>
      exact (List.mem_append.1 mem).imp (.inline · part applies inside) (.inline · part applies inside)
    | spread mem part found applies inside =>
      exact (List.mem_append.1 mem).imp (.spread · part found applies inside)
        (.spread · part found applies inside)
  · rintro (h | h)
    · exact h.mono fun _ => List.mem_append_left _
    · exact h.mono fun _ => List.mem_append_right _

/-- The fields of a first member and of the others. -/
theorem cons {y : Selection} : Answered s given object unvisited (y :: ys) x
    ↔ Answered s given object unvisited [y] x ∨ Answered s given object unvisited ys x :=
  (append : Answered s given object unvisited ([y] ++ ys) x ↔ _)

theorem not_nil : ¬ Answered s given object unvisited [] x := by
  rintro (⟨mem⟩ | ⟨mem⟩ | ⟨mem⟩ | ⟨mem⟩) <;> exact absurd mem List.not_mem_nil

/-- A spread of a fragment that is not there stands for nothing. -/
theorem not_spread {name : String} {directives : List Directive}
    (absent : findFragment unvisited name = none) :
    ¬ Answered s given object unvisited [.spread name directives] x := by
  intro h
  cases h with
  | leaf mem | nested mem | inline mem => simp at mem
  | spread mem _ found =>
    simp only [List.mem_singleton, Selection.spread.injEq] at mem
    rw [mem.1, absent] at found
    cases found

/-- A field that is there with fewer fragments is there with more. -/
theorem of_without {name : String}
    (h : Answered s given object (withoutFragment unvisited name) xs x) :
    Answered s given object unvisited xs x := by
  induction h with
  | leaf mem part => exact .leaf mem part
  | nested mem part => exact .nested mem part
  | inline mem part applies _ ih => exact .inline mem part applies ih
  | @spread _ other _ _ _ mem part found applies _ ih =>
    refine .spread mem part ?_ applies ih
    rwa [findFragment_without] at found
    rintro rfl
    rw [findFragment_without_self] at found
    cases found

/-- A field is reached without a fragment, or from what the fragment selects without the fragment itself:
    of a way to it, only what follows the last time it enters the fragment is needed. -/
theorem without_or (name : String) (h : Answered s given object unvisited xs x) :
    Answered s given object (withoutFragment unvisited name) xs x
      ∨ ∃ f, findFragment unvisited name = some f ∧ s.applies object f.typeCondition
        ∧ Answered s given object (withoutFragment unvisited name) f.selections x := by
  induction h with
  | leaf mem part => exact Or.inl (.leaf mem part)
  | nested mem part => exact Or.inl (.nested mem part)
  | inline mem part applies _ ih => exact ih.imp_left (.inline mem part applies)
  | @spread _ other _ f _ mem part found applies _ ih =>
    by_cases same : other = name
    · subst same
      rcases ih with inside | last
      · exact Or.inr ⟨f, found, applies, inside⟩
      · exact Or.inr last
    · rw [← findFragment_without same] at found
      exact ih.imp_left (.spread mem part found applies)

/-- A spread that takes part, of a fragment that applies, stands for what the fragment selects. -/
theorem spread_cons {name : String} {directives : List Directive} {f : Fragment}
    (part : takesPart given directives) (found : findFragment unvisited name = some f)
    (applies : s.applies object f.typeCondition) :
    Answered s given object unvisited (.spread name directives :: ys) x
      ↔ Answered s given object (withoutFragment unvisited name) (f.selections ++ ys) x := by
  rw [append]
  constructor
  · intro h
    rcases h.without_or name with h | ⟨g, found', -, h⟩
    · rcases cons.1 h with h | h
      · exact absurd h (not_spread findFragment_without_self)
      · exact Or.inr h
    · rw [found] at found'
      cases found'
      exact Or.inl h
  · rintro (h | h)
    · exact .spread List.mem_cons_self part found applies h.of_without
    · exact cons.2 (Or.inr h.of_without)

/-- A spread of a fragment that does not apply stands for nothing. -/
theorem spread_cons_of_not_applies {name : String} {directives : List Directive} {f : Fragment}
    (found : findFragment unvisited name = some f) (applies : ¬ s.applies object f.typeCondition) :
    Answered s given object unvisited (.spread name directives :: ys) x
      ↔ Answered s given object (withoutFragment unvisited name) ys x := by
  constructor
  · intro h
    rcases h.without_or name with h | ⟨g, found', applies', -⟩
    · rcases cons.1 h with h | h
      · exact absurd h (not_spread findFragment_without_self)
      · exact h
    · rw [found] at found'
      cases found'
      exact absurd applies' applies
  · intro h
    exact cons.2 (Or.inr h.of_without)

/-- A member that does not take part stands for nothing. -/
theorem cons_of_not_part {y : Selection} (part : ¬ takesPart given y.directives) :
    Answered s given object unvisited (y :: ys) x ↔ Answered s given object unvisited ys x := by
  rw [cons]
  refine ⟨fun h => h.resolve_left fun h => part ?_, Or.inr⟩
  cases h with
  | leaf mem takes | nested mem takes | inline mem takes | spread mem takes =>
    rw [← List.mem_singleton.1 mem]
    exact takes

/-- A first member that takes part and is a field without a selection set is that field. -/
theorem leaf_cons {head : FieldHead} (part : takesPart given head.directives) :
    Answered s given object unvisited (.leaf head :: ys) x
      ↔ x = ⟨head, none⟩ ∨ Answered s given object unvisited ys x := by
  rw [cons]
  refine or_congr_left ⟨fun h => ?_, ?_⟩
  · cases h with
    | leaf mem =>
      cases List.mem_singleton.1 mem
      rfl
    | nested mem | inline mem | spread mem => simp at mem
  · rintro rfl
    exact .leaf List.mem_cons_self part

/-- A first member that takes part and is a field with a selection set is that field. -/
theorem nested_cons {head : FieldHead} {below : List Selection}
    (part : takesPart given head.directives) :
    Answered s given object unvisited (.nested head below :: ys) x
      ↔ x = ⟨head, some below⟩ ∨ Answered s given object unvisited ys x := by
  rw [cons]
  refine or_congr_left ⟨fun h => ?_, ?_⟩
  · cases h with
    | nested mem =>
      cases List.mem_singleton.1 mem
      rfl
    | leaf mem | inline mem | spread mem => simp at mem
  · rintro rfl
    exact .nested List.mem_cons_self part

/-- An inline fragment stands for its selections if it takes part and applies. -/
theorem inline_cons {inner : List Selection} {condition : Option String} {directives : List Directive} :
    Answered s given object unvisited (.inline condition directives inner :: ys) x
      ↔ (takesPart given directives && condition.all (s.applies object)) = true
          ∧ Answered s given object unvisited inner x
        ∨ Answered s given object unvisited ys x := by
  rw [cons]
  refine or_congr_left ⟨fun h => ?_, ?_⟩
  · cases h with
    | inline mem part applies inside =>
      cases List.mem_singleton.1 mem
      exact ⟨Bool.and_eq_true_iff.2 ⟨part, applies⟩, inside⟩
    | leaf mem | nested mem | spread mem => simp at mem
  · rintro ⟨enters, inside⟩
    obtain ⟨part, applies⟩ := Bool.and_eq_true_iff.1 enters
    exact .inline List.mem_cons_self part applies inside

end Answered

/-- An executor meets exactly the fields that stand in what applies: to pass over fragments that were
    visited loses none. -/
theorem mem_gather_iff {s : Schema} {given : String → Bool} {object : String}
    {unvisited : List Fragment} {pending : List Selection} {x : SelectedField} :
    x ∈ gather s given object unvisited pending ↔ Answered s given object unvisited pending x := by
  fun_induction gather with
  | case1 => exact ⟨fun h => absurd h List.not_mem_nil, fun h => absurd h Answered.not_nil⟩
  | case2 unvisited head rest part ih => rw [List.mem_cons, ih, Answered.leaf_cons part]
  | case3 unvisited head rest part ih => rw [ih, Answered.cons_of_not_part part]
  | case4 unvisited head below rest part ih => rw [List.mem_cons, ih, Answered.nested_cons part]
  | case5 unvisited head below rest part ih => rw [ih, Answered.cons_of_not_part part]
  | case6 unvisited condition directives inner rest enters ih =>
    rw [ih, Answered.inline_cons, Answered.append, and_iff_right enters]
  | case7 unvisited condition directives inner rest enters ih =>
    rw [ih, Answered.inline_cons, or_iff_right fun h => enters h.1]
  | case8 unvisited name directives rest part absent ih =>
    rw [ih, Answered.cons, or_iff_right (Answered.not_spread absent)]
  | case9 unvisited name directives rest part f found ih =>
    rw [dite_eq_ite] at ih
    rw [ih]
    split
    · rename_i applies
      exact (Answered.spread_cons part found applies).symm
    · rename_i applies
      exact (Answered.spread_cons_of_not_applies found applies).symm
  | case10 unvisited name directives rest part ih => rw [ih, Answered.cons_of_not_part part]

end OperationClasses
