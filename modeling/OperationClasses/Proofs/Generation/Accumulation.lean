/-
Module: OperationClasses.Proofs.Generation.Accumulation
Purpose: Accessors of a run are those of the type name and those of fields that nobody has read yet, and what holds of
  the paths of added accessors holds of those of merged ones.
Main exports: Method.Made, Progress.Made, MergeClosed, Accessors.Adds.all, ObjectClass.addMethods_all,
  registerLeaf_made
-/
import OperationClasses.Proofs.Generation.Reading

namespace OperationClasses

variable {settings : Settings} {p q : Progress} {P : Path → Prop} {Q : String → Path → Prop}

/-- An accessor that nobody has read yet: that of the type name, or that of a field with paths of its
    name, all of which have a property. -/
inductive Method.Made (P : Path → Prop) : Method → Prop where
  | fixed {name : String} (named : Naming.accessorName typenameField.name = .ok name) :
      Method.Made P (.fixed name "str" typenameBody)
  | field {name : String} {paths : List Path} (some_ : paths ≠ [])
      (all : ∀ path ∈ paths, path.name = name ∧ P path) :
      Method.Made P (.field (FieldAccess.fresh name paths))

/-- A property of paths that follows from another one. -/
theorem Method.Made.imp {P P' : Path → Prop} {m : Method} (weaker : ∀ path, P path → P' path)
    (h : m.Made P) : m.Made P' := by
  cases h with
  | fixed named => exact .fixed named
  | field some_ all => exact .field some_ fun path hp => ⟨(all path hp).1, weaker path (all path hp).2⟩

/-- The accessors of all classes so far have paths with a property, which may depend on the class. -/
def Progress.Made (Q : String → Path → Prop) (p : Progress) : Prop :=
  ∀ c ∈ p.registry.classes, ∀ m ∈ c.methods, m.Made (Q c.name)

/-- A run that has done nothing has no accessors. -/
theorem Progress.made_start : Progress.start.Made Q := fun _ hc => absurd hc List.not_mem_nil

/-! ### Adding accessors -/

theorem Method.mem_of_mem_put {m x : Method} {methods : List Method} (h : x ∈ Method.put m methods) :
    x = m ∨ x ∈ methods := by
  induction methods with
  | nil => exact Or.inl (List.mem_singleton.1 h)
  | cons first rest ih =>
    unfold Method.put at h
    split at h
    · exact (List.mem_cons.1 h).imp_right (List.mem_cons_of_mem _)
    · rcases List.mem_cons.1 h with rfl | h
      · exact Or.inr List.mem_cons_self
      · exact (ih h).imp_right (List.mem_cons_of_mem _)

theorem Method.mem_of_find? {methods : List Method} {name : String} {m : Method}
    (h : Method.find? methods name = some m) : m ∈ methods ∧ m.name = name :=
  ⟨List.mem_of_find?_eq_some h, by simpa using List.find?_some h⟩

/-- Merged accessors have the paths of both. -/
theorem Method.Made.merge {m other merged : Method}
    (h : m.Made P) (h' : other.Made P) (same : m.name = other.name)
    (merges : m.merge other = .ok (some merged)) : merged.Made P := by
  cases h with
  | @fixed name named =>
    cases h' with
    | fixed named' =>
      rw [named] at named'
      cases named'
      have kept : merged = .fixed name "str" typenameBody := by
        simpa [Method.merge, pure, Except.pure] using merges.symm
      rw [kept]
      exact .fixed named
    | field => simp [Method.merge, pure, Except.pure] at merges
  | @field name paths some_ all =>
    cases h' with
    | fixed => cases merges
    | @field name' paths' some' all' =>
      cases show name = name' from same
      cases merges
      refine .field (fun none_ => some_ (List.append_eq_nil_iff.1 none_).1) fun path hpath => ?_
      exact (List.mem_append.1 hpath).elim (all path) (all' path)

/-- Claiming a name leaves the accessors as they are. -/
theorem Accessors.Claims.methods {a b : Accessors} {name key : String} (h : a.Claims name key b) :
    b.methods = a.methods := by
  rcases h with ⟨_, rfl⟩ | ⟨_, rfl⟩ <;> rfl

/-- A property of accessors that merging keeps. -/
def MergeClosed (R : Method → Prop) : Prop :=
  ∀ ⦃m other merged : Method⦄, R m → R other → m.name = other.name → m.merge other = .ok (some merged) →
    R merged

/-- An accessor that is added to ones of a property has their property with them. -/
theorem Accessors.Adds.all {R : Method → Prop} (closed : MergeClosed R) {a b : Accessors} {m : Method}
    (h : a.Adds m b) (old : ∀ x ∈ a.methods, R x) (new : R m) : ∀ x ∈ b.methods, R x := by
  rcases h with ⟨_, rfl⟩ | ⟨existing, merged, found, merges, rfl⟩
  · intro x hx
    rcases List.mem_append.1 hx with hx | hx
    · exact old x hx
    · rwa [List.mem_singleton.1 hx]
  · intro x hx
    obtain ⟨hexisting, same⟩ := Method.mem_of_find? found
    rcases Method.mem_of_mem_put hx with rfl | hx
    · exact closed (old existing hexisting) new same merges
    · exact old x hx

/-- The accessors of a class that takes further ones keep a property that the further ones have, even if not all
    of these fit. -/
theorem ObjectClass.addMethods_all {R : Method → Prop} (closed : MergeClosed R) {owner : String}
    {extras methods added : List Method} {fault : Option InvariantFault}
    (h : addMethods owner methods extras = (added, fault)) (old : ∀ x ∈ methods, R x)
    (new : ∀ x ∈ extras, R x) : ∀ x ∈ added, R x := by
  induction extras generalizing methods with
  | nil =>
    cases h
    exact old
  | cons extra rest ih =>
    obtain ⟨newFirst, newRest⟩ := List.forall_mem_cons.1 new
    unfold addMethods at h
    split at h
    · refine ih h (fun x hx => ?_) newRest
      rcases List.mem_append.1 hx with hx | hx
      · exact old x hx
      · rwa [List.mem_singleton.1 hx]
    · rename_i m found
      obtain ⟨hm, same⟩ := Method.mem_of_find? found
      split at h
      · rename_i merged merges
        refine ih h (fun x hx => ?_) newRest
        rcases Method.mem_of_mem_put hx with rfl | hx
        · exact closed (old m hm) newFirst same merges
        · exact old x hx
      · cases h
        exact old
      · cases h
        exact old

/-- Accessors that nobody has read yet stay such when they are added or merged. -/
theorem mergeClosed_made : MergeClosed (Method.Made P) := fun _ _ _ h h' => h.merge h'

theorem Accessors.Adds.made {a b : Accessors} {m : Method} (h : a.Adds m b)
    (old : ∀ x ∈ a.methods, x.Made P) (new : m.Made P) : ∀ x ∈ b.methods, x.Made P :=
  h.all mergeClosed_made old new

/-! ### Registering classes -/

/-- Adding a class of a property keeps it. -/
theorem Progress.Made.add {c : ClassDefinition} {registry : Registry} (h : p.Made Q)
    (added : p.registry.add c = .ok registry) (new : ∀ m ∈ c.methods, m.Made (Q c.name)) :
    Progress.Made Q { p with registry := registry } := Registry.all_of_add added h new

/-- Registering a result class keeps a property that its accessors have. -/
theorem registerLeaf_made {name : String} {type : TypeDefinition} {existing : Option ClassDefinition}
    {methods : List Method} {dependencies : List String} {u : Unit}
    (h : Yields (registerLeaf settings name type existing methods dependencies) p u q)
    (old : p.Made Q) (new : ∀ m ∈ methods, m.Made (Q name)) : q.Made Q := by
  intro x hx
  rcases mem_classes_of_registerLeaf h hx with before | ⟨c, all, registered, rfl, added, rfl⟩ | ⟨types, rfl⟩
  · exact old x before
  · exact ObjectClass.addMethods_all mergeClosed_made added (old _ registered) new
  · exact new

/-- Adding classes that are not for results keeps the property of all accessors. -/
theorem Progress.Made.supports (h : p.Made Q) (supports : p.registry.Supports q.registry) :
    q.Made Q :=
  supports.all h fun c support m hm => by
    cases c with
    | enum | input => cases hm
    | leaf | root => cases support

end OperationClasses
