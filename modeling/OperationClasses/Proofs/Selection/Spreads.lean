/-
Module: OperationClasses.Proofs.Selection.Spreads
Purpose: Following names takes exactly the fragments that the names lead to.
Main exports: Subtable, Leads, mem_follow_iff, findFragment_without, resolve_spread
-/
import OperationClasses.Document.UsedFragments

namespace OperationClasses

/-! ### Fragments under their names -/

/-- Dropping the fragments of a name keeps those of the others. -/
theorem findFragment_without {fragments : List Fragment} {name other : String} (differs : other ≠ name) :
    findFragment (withoutFragment fragments name) other = findFragment fragments other := by
  unfold findFragment withoutFragment
  rw [List.find?_filter]
  congr 1
  funext f
  by_cases h : f.name = other
  · simp [h, differs]
  · simp [h]

/-- No fragment of a dropped name is left. -/
theorem findFragment_without_self {fragments : List Fragment} {name : String} :
    findFragment (withoutFragment fragments name) name = none := by
  unfold findFragment withoutFragment
  rw [List.find?_filter, List.find?_eq_none]
  simp

/-- The fragments of a table are under the same names in another. -/
def Subtable (fewer table : List Fragment) : Prop :=
  ∀ name f, findFragment fewer name = some f → findFragment table name = some f

/-- Dropping the fragments of a name leaves part of a table. -/
theorem Subtable.without {fewer table : List Fragment} (sub : Subtable fewer table) (name : String) :
    Subtable (withoutFragment fewer name) table := by
  intro other f found
  by_cases same : other = name
  · rw [same, findFragment_without_self] at found
    cases found
  · rw [findFragment_without same] at found
    exact sub other f found

/-- A fragment is found under its name. -/
theorem name_of_findFragment {fragments : List Fragment} {name : String} {f : Fragment}
    (h : findFragment fragments name = some f) : f.name = name := by
  simpa using List.find?_some h

/-- What putting a fragment leaves is that fragment or was there. -/
theorem mem_putFragment {f g : Fragment} {fragments : List Fragment} (h : g ∈ putFragment f fragments) :
    g = f ∨ g ∈ fragments := by
  induction fragments with
  | nil => exact Or.inl (List.mem_singleton.1 h)
  | cons first rest ih =>
    unfold putFragment at h
    split at h
    · exact (List.mem_cons.1 h).imp_right (List.mem_cons_of_mem _)
    · rcases List.mem_cons.1 h with rfl | h
      · exact Or.inr List.mem_cons_self
      · exact (ih h).imp_right (List.mem_cons_of_mem _)

/-- The fragments of the table of a document are fragments of the document. -/
theorem Document.mem_fragments_of_mem_table {d : Document} {f : Fragment} (h : f ∈ d.fragmentTable) :
    f ∈ d.fragments := by
  have gathered : ∀ (fragments table : List Fragment),
      f ∈ fragments.foldl (fun table f => putFragment f table) table → f ∈ table ∨ f ∈ fragments := by
    intro fragments
    induction fragments with
    | nil => exact fun _ => Or.inl
    | cons first rest ih =>
      intro table h
      rcases ih _ h with h | h
      · rcases mem_putFragment h with rfl | h
        · exact Or.inr List.mem_cons_self
        · exact Or.inl h
      · exact Or.inr (List.mem_cons_of_mem _ h)
  exact (gathered d.fragments [] h).resolve_left List.not_mem_nil

/-! ### Resolving spreads -/

section Resolving

variable {table available : List Fragment} {name : String} {directives : List Directive}

/-- A spread of a fragment that may be spread resolves to what the fragment selects. -/
theorem resolve_spread {f : Fragment} (found : findFragment available name = some f) :
    resolve table available (.spread name directives)
      = .narrowed (some f.typeCondition) (resolveAll table (withoutFragment available name) f.selections) := by
  rw [resolve]
  split
  · rename_i g found'
    rw [found] at found'
    cases found'
    rfl
  · rename_i absent
    rw [found] at absent
    cases absent

/-- Any other spread resolves to a fault. -/
theorem resolve_spread_of_absent (absent : findFragment available name = none) :
    resolve table available (.spread name directives)
      = if (findFragment table name).isSome then .cyclic name else .missing name := by
  rw [resolve]
  split
  · rename_i f found
    rw [absent] at found
    cases found
  · rfl

end Resolving

/-! ### Following -/

/-- Names lead to a fragment: it has one of the names, or a name that a fragment under one of them gives
    leads to it. -/
inductive Leads (names : Fragment → List String) (fragments : List Fragment) :
    List String → Fragment → Prop
  where
  | here {pending : List String} {name : String} {f : Fragment} (mem : name ∈ pending)
      (found : findFragment fragments name = some f) : Leads names fragments pending f
  | there {pending : List String} {name : String} {via f : Fragment} (mem : name ∈ pending)
      (found : findFragment fragments name = some via) (rest : Leads names fragments (names via) f) :
      Leads names fragments pending f

namespace Leads

variable {names : Fragment → List String} {fragments : List Fragment} {xs ys : List String}
  {f : Fragment}

/-- What some names lead to, more names lead to. -/
theorem mono (sub : ∀ name ∈ xs, name ∈ ys) (h : Leads names fragments xs f) :
    Leads names fragments ys f := by
  cases h with
  | here mem found => exact .here (sub _ mem) found
  | there mem found rest => exact .there (sub _ mem) found rest

theorem not_nil : ¬ Leads names fragments [] f := by
  rintro (⟨mem⟩ | ⟨mem⟩) <;> exact absurd mem List.not_mem_nil

/-- A fragment that names lead to is the one of its name. -/
theorem is_found (h : Leads names fragments xs f) : findFragment fragments f.name = some f := by
  induction h with
  | here _ found => rwa [name_of_findFragment found]
  | there _ _ _ ih => exact ih

/-- Two lists of names lead where one of them does. -/
theorem append : Leads names fragments (xs ++ ys) f
    ↔ Leads names fragments xs f ∨ Leads names fragments ys f := by
  constructor
  · intro h
    cases h with
    | here mem found => exact (List.mem_append.1 mem).imp (.here · found) (.here · found)
    | there mem found rest =>
      exact (List.mem_append.1 mem).imp (.there · found rest) (.there · found rest)
  · rintro (h | h)
    · exact h.mono fun _ => List.mem_append_left _
    · exact h.mono fun _ => List.mem_append_right _

/-- A single name leads to its fragment and to where the fragment leads. -/
theorem singleton {name : String} : Leads names fragments [name] f
    ↔ ∃ via, findFragment fragments name = some via
      ∧ (f = via ∨ Leads names fragments (names via) f) := by
  constructor
  · intro h
    cases h with
    | here mem found =>
      cases List.mem_singleton.1 mem
      exact ⟨f, found, Or.inl rfl⟩
    | there mem found rest =>
      cases List.mem_singleton.1 mem
      exact ⟨_, found, Or.inr rest⟩
  · rintro ⟨via, found, rfl | rest⟩
    · exact .here List.mem_cons_self found
    · exact .there List.mem_cons_self found rest

/-- A first name and the others. -/
theorem cons {name : String} : Leads names fragments (name :: ys) f
    ↔ Leads names fragments [name] f ∨ Leads names fragments ys f :=
  (append : Leads names fragments ([name] ++ ys) f ↔ _)

/-- What fewer fragments lead to, more do. -/
theorem of_without {name : String} (h : Leads names (withoutFragment fragments name) xs f) :
    Leads names fragments xs f := by
  have kept : ∀ {other : String} {g : Fragment},
      findFragment (withoutFragment fragments name) other = some g →
      findFragment fragments other = some g := by
    intro other g found
    rwa [findFragment_without] at found
    rintro rfl
    rw [findFragment_without_self] at found
    cases found
  induction h with
  | here mem found => exact .here mem (kept found)
  | there mem found _ ih => exact .there mem (kept found) ih

/-- A fragment other than that of a name is reached without it, or from the names that it gives without
    it: of a way there, only what follows the last time it is passed is needed. -/
theorem without_or (name : String) (h : Leads names fragments xs f) :
    Leads names (withoutFragment fragments name) xs f
      ∨ ∃ via, findFragment fragments name = some via
        ∧ (f = via ∨ Leads names (withoutFragment fragments name) (names via) f) := by
  induction h with
  | @here _ other _ mem found =>
    by_cases same : other = name
    · subst same
      exact Or.inr ⟨_, found, Or.inl rfl⟩
    · exact Or.inl (.here mem (by rwa [findFragment_without same]))
  | @there _ other via _ mem found _ ih =>
    by_cases same : other = name
    · subst same
      rcases ih with inside | last
      · exact Or.inr ⟨via, found, Or.inr inside⟩
      · exact Or.inr last
    · rw [← findFragment_without same] at found
      exact ih.imp_left (.there mem found)

end Leads

/-- Following names takes exactly the fragments that they lead to. -/
theorem mem_follow_iff {names : Fragment → List String} {unused : List Fragment} {pending : List String}
    {f : Fragment} : f ∈ follow names unused pending ↔ Leads names unused pending f := by
  fun_induction follow with
  | case1 => exact ⟨fun h => absurd h List.not_mem_nil, fun h => absurd h Leads.not_nil⟩
  | case2 unused name rest absent ih =>
    rw [ih, Leads.cons, or_iff_right]
    rw [Leads.singleton]
    rintro ⟨via, found, -⟩
    rw [absent] at found
    cases found
  | case3 unused name rest via found ih =>
    have none : ¬ Leads names (withoutFragment unused name) [name] f := by
      rw [Leads.singleton, findFragment_without_self]
      rintro ⟨_, ⟨⟩, _⟩
    rw [List.mem_cons, ih, Leads.append]
    constructor
    · rintro (rfl | h | h)
      · exact .here List.mem_cons_self found
      · exact .there List.mem_cons_self found h.of_without
      · exact Leads.cons.2 (Or.inr h.of_without)
    · intro h
      rcases h.without_or name with h | ⟨via', found', h⟩
      · exact Or.inr (Or.inr ((Leads.cons.1 h).resolve_left none))
      · rw [found] at found'
        cases found'
        exact h.imp_right Or.inl

end OperationClasses
