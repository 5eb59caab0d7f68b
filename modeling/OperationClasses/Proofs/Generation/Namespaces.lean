/-
Module: OperationClasses.Proofs.Generation.Namespaces
Purpose: The result classes of an operation have names that start with its own, so generating it leaves the result
  classes with other names as they are.
Main exports: Owns, Owns.or_owns, Registry.Plain, Registry.Spares, Builds.spares, Task, Task.spares, tasks_spare
-/
import OperationClasses.Proofs.Generation.Linking

namespace OperationClasses

open Generation

variable {settings : Settings} {p q : Progress} {r r' r'' : Registry} {lead name className : String}

/-! ### Names -/

/-- A name belongs to an operation: it is the class name of the operation, or one that starts with it. -/
def Owns (lead name : String) : Prop := name = lead ∨ ∃ rest, name = lead ++ "_" ++ rest

namespace Owns

theorem refl : Owns lead lead := Or.inl rfl

theorem concat (h : Owns lead name) (rest : String) : Owns lead (name ++ "_" ++ rest) := by
  rcases h with rfl | ⟨first, rfl⟩
  · exact Or.inr ⟨rest, rfl⟩
  · exact Or.inr ⟨first ++ "_" ++ rest, by simp only [String.append_assoc]⟩

/-- The class that an occurrence wants belongs to the operation. -/
theorem wanted (h : Owns lead className) (o : Occurrence) : Owns lead (o.wanted className) := h.concat o.suffix

theorem trans {other : String} (h : Owns lead name) (h' : Owns name other) : Owns lead other := by
  rcases h' with rfl | ⟨rest, rfl⟩
  · exact h
  · exact h.concat rest

/-- The name of a result class is the wanted one, or goes on from it. -/
theorem of_wanted (r : Registry) (wanted type : String) : Owns wanted (r.leafName wanted type) := by
  unfold Registry.leafName
  split
  · split
    · exact refl
    · exact refl.concat type
  · exact refl

theorem leafName (h : Owns lead className) (r : Registry) (o : Occurrence) (type : String) :
    Owns lead (r.leafName (o.wanted className) type) := (h.wanted o).trans (of_wanted r _ type)

/-- If a name belongs to two operations, they have the same class name, or that of one belongs to the other. -/
theorem or_owns {other : String} (h : Owns lead name) (h' : Owns other name) :
    Owns lead other ∨ Owns other lead := by
  rcases h with rfl | ⟨rest, rfl⟩
  · exact Or.inr h'
  rcases h' with rfl | ⟨rest', same⟩
  · exact Or.inl (Or.inr ⟨rest, rfl⟩)
  have chars : lead.toList ++ '_' :: rest.toList = other.toList ++ '_' :: rest'.toList := by
    simpa using congrArg String.toList same
  have starts : ∀ {a b : String} {cs more more' : List Char}, b.toList = a.toList ++ cs →
      '_' :: more = cs ++ '_' :: more' → Owns a b := by
    intro a b cs more more' longer next
    cases cs with
    | nil => exact Or.inl (String.toList_inj.1 (by rw [longer, List.append_nil]))
    | cons c cs =>
      obtain rfl := (List.cons.inj next).1
      refine Or.inr ⟨String.ofList cs, String.toList_inj.1 ?_⟩
      simp [longer]
  rcases List.append_eq_append_iff.1 chars with ⟨cs, longer, next⟩ | ⟨cs, longer, next⟩
  · exact Or.inl (starts longer next)
  · exact Or.inr (starts longer next)

end Owns

/-! ### What is left as it is -/

namespace Registry

/-- No class for an enum or input object type has a name. -/
def Plain (r : Registry) (name : String) : Prop := ∀ c, r.find? name = some c → c.role ≠ .support

theorem Plain.of_grows (grows : r.Grows r') (plain : r'.Plain name) : r.Plain name := by
  intro c found
  obtain ⟨c', found', same⟩ := grows name c found
  rw [← same]
  exact plain c' found'

/-- A class for results has a name that no class for an enum or input object type gets. -/
theorem Plain.of_found {c : ClassDefinition} (grows : r.Grows r') (found : r.find? name = some c)
    (results : c.role ≠ .support) : r'.Plain name := by
  intro x hx
  obtain ⟨c', found', role⟩ := grows name c found
  rw [found'] at hx
  cases hx
  rwa [role]

/-- A step does not touch what has a name, but that it may give the name to a class for an enum or input object
    type. -/
def Spares (r r' : Registry) (name : String) : Prop := r'.Plain name → r'.find? name = r.find? name

/-- The other classes stay as they are when one is added. -/
theorem find?_of_add_ne {c : ClassDefinition} (added : r.add c = .ok r') (differs : name ≠ c.name) :
    r'.find? name = r.find? name := by
  unfold find?
  rw [(add_eq_ok_iff.1 added).2, List.find?_append, List.find?_singleton,
    if_neg (by simpa using differs.symm), Option.or_none]

namespace Spares

theorem refl : r.Spares r name := fun _ => rfl

theorem trans (h : r.Spares r' name) (h' : r'.Spares r'' name) : r.Spares r'' name := by
  intro plain
  have later := h' plain
  refine later.trans (h fun c found => plain c ?_)
  rw [later, found]

theorem of_supports (h : r.Supports r') : r.Spares r' name := by
  intro plain
  obtain ⟨added, classes, support⟩ := h
  unfold Plain at plain
  unfold find? at plain ⊢
  rw [classes, List.find?_append] at plain ⊢
  cases found : r.classes.find? (·.name == name) with
  | some c => rfl
  | none =>
    cases new : added.find? (·.name == name) with
    | none => rfl
    | some c =>
      rw [found, new] at plain
      exact absurd (support c (List.mem_of_find?_eq_some new)) (plain c rfl)

theorem of_add {c : ClassDefinition} (added : r.add c = .ok r') (differs : name ≠ c.name) : r.Spares r' name :=
  fun _ => find?_of_add_ne added differs

end Spares

end Registry

/-- Registering a result class does not touch other names. -/
theorem registerLeaf_spares {leaf : String} {type : TypeDefinition} {existing : Option ClassDefinition}
    {methods : List Method} {dependencies : List String} {u : Unit} (differs : name ≠ leaf)
    (h : Yields (registerLeaf settings leaf type existing methods dependencies) p u q) :
    p.registry.Spares q.registry name := by
  rcases yields_registerLeaf_iff.1 h with ⟨_, c, merged, found, merges, rfl⟩ |
    ⟨_, types, registry, _, added, rfl⟩
  · intro _
    refine Registry.find?_replace_of_ne (c := .leaf merged) ?_
    rw [ClassDefinition.name, (ObjectClass.mergeMethods_name merges).1]
    exact fun same => differs (same.trans (Registry.name_of_find? found))
  · exact .of_add added differs

/-- Reading a selection set of an operation does not touch names that do not belong to the operation. -/
theorem Builds.spares {found all : Accessors} {os : List Occurrence} (other : ¬ Owns lead name)
    (h : Builds settings className found os p all q) (owns : Owns lead className) :
    p.registry.Spares q.registry name := by
  induction h with
  | nil => exact .refl
  | typename _ _ _ _ _ ih => exact ih owns
  | value _ _ _ _ _ _ supports _ _ _ ih => exact (Registry.Spares.of_supports supports).trans (ih owns)
  | @object className _ leaf _ _ _ _ _ o _ _ _ t _ p r r' q _ _ _ _ _ _ _ leafName _ registers _ _ _ inside others =>
    have leafOwned : Owns lead leaf := leafName ▸ owns.leafName p.registry o t.name
    have differs : name ≠ leaf := fun same => other (same ▸ leafOwned)
    exact ((inside leafOwned).trans (registerLeaf_spares differs registers)).trans (others owns)

/-! ### Operations -/

/-- An operation, and the fragments that it may use. -/
structure Task where
  table : List Fragment
  operation : Operation

namespace Task

variable {t : Task} {ts : List Task} {x : ClassDefinition} {xs : List ClassDefinition}

/-- Generates the class of the operation. -/
def generate (settings : Settings) (t : Task) : Generation ClassDefinition :=
  generateOperation settings t.table t.operation

/-- The class name of the operation. -/
def Leads (t : Task) (lead : String) : Prop := Naming.operationClassName t.operation.name = .ok lead

theorem Leads.eq {lead' : String} (h : t.Leads lead) (h' : t.Leads lead') : lead = lead' :=
  Except.ok.inj (h.symm.trans h')

/-- An operation that is generated has a class name, which was free and belongs to its class after that. -/
theorem leads (h : Yields (t.generate settings) p x q) :
    ∃ lead, t.Leads lead ∧ lead ∉ p.registry.names ∧ p.registry.Grows q.registry
      ∧ ∃ c details, q.registry.find? lead = some (.root c details) := by
  obtain ⟨c, details, all, os, owner, between, before, registry, generates, -, rfl⟩ := generateOperation_generates h
  have free := (Registry.add_eq_ok_iff.1 generates.added).1
  have grows := generates.supports.grows.trans generates.builds.grows
  have added : before.registry.Grows registry := .of_add generates.added
  refine ⟨c.name, generates.named, fun taken => free ?_, grows.trans added, c, details,
    Registry.find?_of_add generates.added⟩
  obtain ⟨old, found⟩ := Registry.mem_names_iff.1 taken
  obtain ⟨new, found', -⟩ := grows _ _ found
  exact Registry.mem_names_iff.2 ⟨new, found'⟩

/-- Generating an operation does not touch names that do not belong to it. -/
theorem spares (h : Yields (t.generate settings) p x q) (leads : t.Leads lead) (other : ¬ Owns lead name) :
    p.registry.Spares q.registry name := by
  obtain ⟨c, details, all, os, owner, between, before, registry, generates, -, rfl⟩ := generateOperation_generates h
  obtain rfl : c.name = lead := Leads.eq generates.named leads
  have differs : name ≠ c.name := fun same => other (same ▸ Owns.refl)
  exact ((Registry.Spares.of_supports generates.supports).trans (generates.builds.spares other .refl)).trans
    (.of_add generates.added differs)

end Task

/-- Generating operations does not touch names that belong to none of them. -/
theorem tasks_spare {ts : List Task} {xs : List ClassDefinition} (h : Yields (ts.mapM (Task.generate settings)) p xs q)
    (other : ∀ t ∈ ts, ∀ lead, t.Leads lead → ¬ Owns lead name) : p.registry.Spares q.registry name := by
  induction ts generalizing p xs with
  | nil =>
    rw [(yields_pure_iff.1 h).2]
    exact .refl
  | cons t rest ih =>
    obtain ⟨x, r, others, first, later, rfl⟩ := yields_mapM_cons_iff.1 h
    obtain ⟨own, rest_⟩ := List.forall_mem_cons.1 other
    obtain ⟨lead, leads, -⟩ := Task.leads first
    exact (Task.spares first leads (own lead leads)).trans (ih later rest_)

/-- The class names of operations that are generated were free. -/
theorem tasks_free {ts : List Task} {xs : List ClassDefinition} (h : Yields (ts.mapM (Task.generate settings)) p xs q) :
    ∀ t ∈ ts, ∀ lead, t.Leads lead → lead ∉ p.registry.names := by
  induction ts generalizing p xs with
  | nil => exact fun _ absent => absurd absent List.not_mem_nil
  | cons t rest ih =>
    obtain ⟨x, r, others, first, later, rfl⟩ := yields_mapM_cons_iff.1 h
    obtain ⟨lead, leads, free, grows, -⟩ := Task.leads first
    refine List.forall_mem_cons.2 ⟨fun other leads' => Task.Leads.eq leads leads' ▸ free, ?_⟩
    intro t ht other leads' taken
    obtain ⟨c, found⟩ := Registry.mem_names_iff.1 taken
    obtain ⟨c', found', -⟩ := grows _ _ found
    exact ih later t ht other leads' (Registry.mem_names_iff.2 ⟨c', found'⟩)

end OperationClasses
