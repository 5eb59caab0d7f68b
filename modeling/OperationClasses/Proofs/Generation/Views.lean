/-
Module: OperationClasses.Proofs.Generation.Views
Purpose: A run looks at little of the classes so far, so progresses whose classes agree in that go on alike.
Main exports: ClassView, ClassView.Same, Alike, Blind, blind_variables, blind_accessors, blind_generateOperation
-/
import OperationClasses.Proofs.Generation.VariableSteps

namespace OperationClasses

open Generation

variable {α β γ δ ε : Type} {settings : Settings}

/-! ### Views -/

/-- A way to look at classes that shows all that a run asks of them: their names, what they are for, and how they take
    further accessors. -/
structure ClassView where
  view : ClassDefinition → ClassDefinition
  name : ∀ c, (view c).name = c.name
  leaf : ∀ c type, (view c).isLeafOf type = c.isLeafOf type
  merge : ∀ (c c' : ObjectClass) (methods : List Method) (dependencies : List String),
    view (.leaf c) = view (.leaf c') →
      view (.leaf (c.mergeMethods methods dependencies).1) = view (.leaf (c'.mergeMethods methods dependencies).1)
        ∧ (c.mergeMethods methods dependencies).2 = (c'.mergeMethods methods dependencies).2

namespace ClassView

variable {v : ClassView} {r r' : Registry} {p p' p'' : Progress}

/-- Two registries have classes that look the same, in the same order. -/
def SameClasses (v : ClassView) (r r' : Registry) : Prop := r.classes.map v.view = r'.classes.map v.view

/-- Two progresses have classes that look the same, and all else is the same. -/
structure Same (v : ClassView) (p p' : Progress) : Prop where
  classes : v.SameClasses p.registry p'.registry
  enums : p.enumClasses = p'.enumClasses
  inputs : p.inputClasses = p'.inputClasses
  imports : p.imports = p'.imports

namespace Same

theorem refl : v.Same p p := ⟨rfl, rfl, rfl, rfl⟩

theorem trans (h : v.Same p p') (h' : v.Same p' p'') : v.Same p p'' :=
  ⟨Eq.trans h.classes h'.classes, h.enums.trans h'.enums, h.inputs.trans h'.inputs, h.imports.trans h'.imports⟩

/-- Changing the classes only. -/
theorem of_classes {registry registry' : Registry} (h : v.Same p p') (same : v.SameClasses registry registry') :
    v.Same { p with registry := registry } { p' with registry := registry' } :=
  ⟨same, h.enums, h.inputs, h.imports⟩

end Same

/-- A class that looks like one for values of a type is one. -/
theorem exists_leaf {c : ObjectClass} {x : ClassDefinition} (same : v.view (.leaf c) = v.view x) :
    ∃ c', x = .leaf c' := by
  have leaf : x.isLeafOf c.typeName := by
    rw [← v.leaf, ← same, v.leaf]
    exact beq_self_eq_true _
  cases x with
  | leaf c' => exact ⟨c', rfl⟩
  | enum | input | root => cases leaf

namespace SameClasses

/-- Classes that look the same have the same names. -/
theorem names_eq (h : v.SameClasses r r') : r.names = r'.names := by
  have names : ∀ r : Registry, r.names = (r.classes.map v.view).map (·.name) := by
    intro r
    simp [Registry.names, v.name]
  rw [names r, names r', h]

/-- Classes of one name look the same. -/
theorem find?_eq (h : v.SameClasses r r') (name : String) :
    (r.find? name).map v.view = (r'.find? name).map v.view := by
  have found : ∀ r : Registry, (r.find? name).map v.view
      = (r.classes.map v.view).find? (·.name == name) := by
    intro r
    have test : (fun c : ClassDefinition => c.name == name) ∘ v.view = fun c => c.name == name := by
      funext c
      simp [v.name]
    rw [List.find?_map, test]
    rfl
  rw [found r, found r', h]

/-- The class for values of a type has one that looks like it under its name. -/
theorem find?_leaf {name : String} {c : ObjectClass} (h : v.SameClasses r r')
    (found : r.find? name = some (.leaf c)) :
    ∃ c', r'.find? name = some (.leaf c') ∧ v.view (.leaf c) = v.view (.leaf c') := by
  have same := h.find?_eq name
  rw [found] at same
  obtain ⟨x, found', looks⟩ := Option.map_eq_some_iff.1 same.symm
  obtain ⟨c', rfl⟩ := exists_leaf looks.symm
  exact ⟨c', found', looks.symm⟩

/-- The name of the class for values of a type depends on what classes look like. -/
theorem leafName_eq (h : v.SameClasses r r') (wanted type : String) :
    r.leafName wanted type = r'.leafName wanted type := by
  have same := h.find?_eq wanted
  unfold Registry.leafName
  cases found : r.find? wanted with
  | none =>
    rw [found] at same
    rw [Option.map_eq_none_iff.1 same.symm]
  | some c =>
    rw [found] at same
    obtain ⟨c', found', looks⟩ := Option.map_eq_some_iff.1 same.symm
    have leaf : c'.isLeafOf type = c.isLeafOf type := by rw [← v.leaf c', looks, v.leaf c]
    rw [found']
    simp only [leaf]

/-- Replacing classes that look the same. -/
theorem replace {c c' : ClassDefinition} (h : v.SameClasses r r') (same : v.view c = v.view c') :
    v.SameClasses (r.replace c) (r'.replace c') := by
  have replaced : ∀ (r : Registry) (c : ClassDefinition), (r.replace c).classes.map v.view
      = (r.classes.map v.view).map fun old => if old.name = (v.view c).name then v.view c else old := by
    intro r c
    show (r.classes.map fun old => if old.name = c.name then c else old).map _ = _
    rw [List.map_map, List.map_map]
    apply List.map_congr_left
    intro old _
    simp only [Function.comp, v.name]
    split <;> rfl
  rw [SameClasses, replaced r, replaced r', h, same]

/-- Putting a class in the place of one that looks like it. -/
theorem replace_self {c old : ClassDefinition} (found : r.find? c.name = some old)
    (same : v.view c = v.view old) : v.SameClasses r (r.replace c) := by
  show r.classes.map v.view = (r.classes.map fun old => if old.name = c.name then c else old).map v.view
  rw [List.map_map]
  apply List.map_congr_left
  intro x hx
  simp only [Function.comp]
  split
  · rename_i named
    have here := Registry.find?_of_mem hx
    rw [named, found] at here
    rw [← Option.some.inj here, same]
  · rfl

/-- Adding classes that look the same. -/
theorem of_add {c c' : ClassDefinition} {r₁ r₁' : Registry} (h : v.SameClasses r r') (same : v.view c = v.view c')
    (added : r.add c = .ok r₁) (added' : r'.add c' = .ok r₁') : v.SameClasses r₁ r₁' := by
  rw [SameClasses, (Registry.add_eq_ok_iff.1 added).2, (Registry.add_eq_ok_iff.1 added').2, List.map_append,
    List.map_append, h]
  simp [same]

end SameClasses

/-- Whether a class is for values of a type shows in what it looks like. -/
theorem any_isLeafOf_eq {x x' : Option ClassDefinition} (h : x.map v.view = x'.map v.view) (type : String) :
    x.any (·.isLeafOf type) = x'.any (·.isLeafOf type) := by
  have looks : ∀ x : Option ClassDefinition, x.any (·.isLeafOf type) = (x.map v.view).any (·.isLeafOf type) := by
    intro x
    cases x <;> simp [v.leaf]
  rw [looks x, looks x', h]

end ClassView

/-! ### Steps that do the same -/

/-- Two steps do the same: from progresses that look the same, they either fail alike or yield related values, and
    leave behind progresses that look the same again. -/
def Alike (v : ClassView) {α β : Type} (R : α → β → Prop) (m : Generation α) (m' : Generation β) : Prop :=
  ∀ p p', v.Same p p' →
    (∃ e q q', Fails m p e q ∧ Fails m' p' e q' ∧ v.Same q q')
      ∨ ∃ a b q q', Yields m p a q ∧ Yields m' p' b q' ∧ R a b ∧ v.Same q q'

/-- A step looks no closer at the classes. -/
abbrev Blind (v : ClassView) {α : Type} (m : Generation α) : Prop := Alike v Eq m m

variable {v : ClassView} {p p' : Progress}

namespace Alike

variable {R : α → β → Prop} {S : γ → δ → Prop} {m : Generation α} {m' : Generation β}

theorem bind {k : α → Generation γ} {k' : β → Generation δ} (first : Alike v R m m')
    (second : ∀ a b, R a b → Alike v S (k a) (k' b)) : Alike v S (m >>= k) (m' >>= k') := by
  intro p p' same
  rcases first p p' same with ⟨e, q, q', fails, fails', left_⟩ | ⟨a, b, q, q', yields, yields', related, left_⟩
  · left
    exact ⟨e, q, q', fails_bind_iff.2 (Or.inl fails), fails_bind_iff.2 (Or.inl fails'), left_⟩
  · rcases second a b related q q' left_ with
      ⟨e, r, r', fails, fails', last⟩ | ⟨c, c', r, r', yields₂, yields₂', related', last⟩
    · left
      exact ⟨e, r, r', fails_bind_iff.2 (Or.inr ⟨a, q, yields, fails⟩),
        fails_bind_iff.2 (Or.inr ⟨b, q', yields', fails'⟩), last⟩
    · right
      exact ⟨c, c', r, r', yields_bind_iff.2 ⟨a, q, yields, yields₂⟩,
        yields_bind_iff.2 ⟨b, q', yields', yields₂'⟩, related', last⟩

/-- Where one of two steps that do the same yields, so does the other. -/
theorem yields {a : α} {q : Progress} (h : Alike v R m m') (same : v.Same p p') (yields : Yields m p a q) :
    ∃ b q', Yields m' p' b q' ∧ R a b ∧ v.Same q q' := by
  rcases h p p' same with ⟨e, r, r', fails, -, -⟩ | ⟨x, b, r, r', yields', other, related, last⟩
  · rw [Yields] at yields
    rw [Fails, yields] at fails
    cases fails
  · rw [Yields] at yields
    rw [Yields, yields] at yields'
    cases yields'
    exact ⟨b, r', other, related, last⟩

theorem pure {a : α} {b : β} (related : R a b) : Alike v R (pure a : Generation α) (pure b) :=
  fun p p' same => Or.inr ⟨a, b, p, p', yields_pure_iff.2 ⟨rfl, rfl⟩, yields_pure_iff.2 ⟨rfl, rfl⟩, related, same⟩

theorem throw {e : Failure} : Alike v R (throw e : Generation α) (throw e) :=
  fun p p' same => Or.inl ⟨e, p, p', fails_throw_iff.2 ⟨rfl, rfl⟩, fails_throw_iff.2 ⟨rfl, rfl⟩, same⟩

/-- Steps that go on from the progress so far. -/
theorem get_bind {k : Progress → Generation γ} {k' : Progress → Generation δ}
    (rest : ∀ p p', v.Same p p' → Alike v S (k p) (k' p')) :
    Alike v S ((MonadState.get : Generation Progress) >>= k) (MonadState.get >>= k') := by
  have reads : Alike v v.Same (MonadState.get : Generation Progress) MonadState.get :=
    fun p p' same => Or.inr ⟨p, p', p, p', yields_get_iff.2 ⟨rfl, rfl⟩, yields_get_iff.2 ⟨rfl, rfl⟩, same, same⟩
  exact reads.bind rest

theorem set (same : v.Same p p') : Alike v Eq (set p : Generation Unit) (set p') :=
  fun _ _ _ => Or.inr ⟨(), (), p, p', yields_set_iff.2 rfl, yields_set_iff.2 rfl, rfl, same⟩

theorem modify {change change' : Progress → Progress}
    (same : ∀ p p', v.Same p p' → v.Same (change p) (change' p')) :
    Alike v Eq (modify change : Generation Unit) (modify change') :=
  fun p p' h => Or.inr ⟨(), (), change p, change' p', yields_modify_iff.2 rfl, yields_modify_iff.2 rfl, rfl,
    same p p' h⟩

/-- Steps for the members of two lists, whose values are the same in some respect. -/
theorem mapM {k : α → Generation γ} {k' : β → Generation δ} {f : γ → ε} {f' : δ → ε} {change : α → β}
    {xs : List α} (each : ∀ x ∈ xs, Alike v (fun y y' => f y = f' y') (k x) (k' (change x))) :
    Alike v (fun ys ys' => ys.map f = ys'.map f') (xs.mapM k) ((xs.map change).mapM k') := by
  induction xs with
  | nil => exact .pure rfl
  | cons x rest ih =>
    obtain ⟨first, others⟩ := List.forall_mem_cons.1 each
    rw [List.map_cons, List.mapM_cons, List.mapM_cons]
    apply first.bind
    intro y y' same
    apply (ih others).bind
    intro ys ys' sames
    exact .pure (by rw [List.map_cons, List.map_cons, same, sames])

end Alike

/-! ### What no step looks at -/

namespace Blind

variable {m : Generation α}

theorem bind {k : α → Generation β} (first : Blind v m) (second : ∀ a, Blind v (k a)) : Blind v (m >>= k) :=
  Alike.bind first fun a _ same => same ▸ second a

theorem pure {a : α} : Blind v (pure a : Generation α) := Alike.pure rfl

theorem throw {e : Failure} : Blind v (throw e : Generation α) := Alike.throw

theorem invariant {x : Except InvariantFault α} : Blind v (Generation.invariant x) := by
  cases x with
  | ok a => exact .pure
  | error fault => exact .throw

theorem named {x : Except Naming.NamingFault α} : Blind v (Generation.named x) := by
  cases x with
  | ok a => exact .pure
  | error fault => exact .throw

theorem converted {x : Except ConversionFault α} : Blind v (Generation.converted x) := by
  cases x with
  | ok a => exact .pure
  | error fault => exact .throw

theorem mapM {k : α → Generation β} {xs : List α} (each : ∀ x ∈ xs, Blind v (k x)) : Blind v (xs.mapM k) := by
  have alike : Alike v (fun ys ys' => ys.map id = ys'.map id) (xs.mapM k) ((xs.map id).mapM k) := Alike.mapM each
  simpa using alike

end Blind

/-- Registering classes that look the same. -/
theorem alike_register {c c' : ClassDefinition} (same : v.view c = v.view c') :
    Alike v Eq (register c) (register c') := by
  intro p p' h
  have name : c.name = c'.name := by rw [← v.name c, same, v.name c']
  have names : p.registry.names = p'.registry.names := h.classes.names_eq
  by_cases taken : c.name ∈ p.registry.names
  · left
    refine ⟨_, p, p', fails_register_iff.2 ⟨taken, rfl, rfl⟩, fails_register_iff.2 ⟨?_, ?_, rfl⟩, h⟩
    · rwa [← names, ← name]
    · rw [name]
  · right
    have free : c'.name ∉ p'.registry.names := by rwa [← names, ← name]
    obtain ⟨r, added⟩ := Registry.exists_add taken
    obtain ⟨r', added'⟩ := Registry.exists_add free
    exact ⟨(), (), _, _, yields_register_iff.2 ⟨r, added, rfl⟩, yields_register_iff.2 ⟨r', added', rfl⟩, rfl,
      h.of_classes (h.classes.of_add same added added')⟩

theorem blind_register {c : ClassDefinition} : Blind v (register c) := alike_register rfl

/-- The steps for scalars, enums and variables. -/
theorem blind_variables : VariableClosed (@Blind v) where
  value := .pure
  sequence := Blind.bind
  unsupported := .throw
  broken := .throw
  identifier := .named
  className := .named
  converted := .converted
  register _ := blind_register
  imports := Alike.modify fun p p' h => ⟨h.classes, h.enums, h.inputs, by rw [h.imports]⟩
  findEnum known unknown := Alike.get_bind fun p p' h => by
    rw [h.enums]
    split
    · exact known _
    · exact unknown
  noteEnum := Alike.modify fun p p' h => ⟨h.classes, by rw [h.enums], h.inputs, h.imports⟩
  findInput known unknown := Alike.get_bind fun p p' h => by
    rw [h.inputs]
    split
    · exact known _
    · exact unknown
  noteInput := Alike.modify fun p p' h => ⟨h.classes, h.enums, by rw [h.inputs], h.imports⟩

theorem blind_claim {a : Accessors} {owner name key : String} : Blind v (a.claim owner name key) := by
  unfold Accessors.claim
  split
  · exact .pure
  · split
    · exact .pure
    · exact .throw

theorem blind_add {a : Accessors} {owner : String} {m : Method} : Blind v (a.add owner m) := by
  unfold Accessors.add
  split
  · exact .pure
  · apply Blind.invariant.bind
    intro merged
    cases merged with
    | some merged => exact .pure
    | none => exact .throw

/-- Registering a result class, where the class that had its name looks the same. -/
theorem alike_registerLeaf {name : String} {type : TypeDefinition} {existing existing' : Option ClassDefinition}
    {methods : List Method} {dependencies : List String} (same : existing.map v.view = existing'.map v.view) :
    Alike v Eq (registerLeaf settings name type existing methods dependencies)
      (registerLeaf settings name type existing' methods dependencies) := by
  unfold registerLeaf
  rw [ClassView.any_isLeafOf_eq same]
  split
  · apply Alike.get_bind
    intro p p' h
    split
    · rename_i c found
      obtain ⟨c', found', looks⟩ := h.classes.find?_leaf found
      obtain ⟨merged, faults⟩ := v.merge c c' methods dependencies looks
      rw [found']
      dsimp only
      rw [faults]
      refine Alike.bind (Alike.set (h.of_classes (h.classes.replace merged))) fun _ _ _ => ?_
      split
      · exact .throw
      · exact .pure rfl
    · rename_i notLeaf
      split
      · rename_i c found
        obtain ⟨c', found', -⟩ := ClassView.SameClasses.find?_leaf h.classes.symm found
        exact absurd found' (notLeaf c')
      · exact .throw
  · apply Blind.invariant.bind
    intro types
    exact blind_register

/-! ### Selection sets -/

theorem blind_wrapOutput {o : Occurrence} {core : TypedOutput} : Blind v (o.wrapOutput core) :=
  Blind.converted.bind fun _ => .pure

mutual

/-- The reading of a selection set looks no closer at the classes. -/
theorem blind_accessors (className : String) (owner : TypeDefinition) (selections : List Resolved) :
    Blind v (accessors settings className owner selections) := by
  unfold accessors
  split
  · exact .throw
  · rename_i os collected
    have smaller : ∀ o ∈ os, o.weightBelow < Resolved.weightAll selections := fun o ho =>
      weightBelow_lt collected ho
    exact (blind_addOccurrences className Accessors.empty os _ smaller).bind fun _ => .pure
termination_by (Resolved.weightAll selections, 2, 0)

theorem blind_addOccurrences (className : String) (found : Accessors) (os : List Occurrence) (bound : Nat)
    (smaller : ∀ o ∈ os, o.weightBelow < bound) :
    Blind v (addOccurrences settings className found os bound smaller) := by
  match os with
  | [] =>
    rw [addOccurrences]
    exact .pure
  | o :: rest =>
    have shorter : o.weightBelow < bound := smaller o List.mem_cons_self
    unfold addOccurrences
    apply (blind_addOccurrence className found o).bind
    intro added
    exact blind_addOccurrences className added rest bound _
termination_by (bound, 1, os.length)
decreasing_by
  · exact Prod.Lex.left _ _ shorter
  · simp [Prod.lex_def]

theorem blind_addOccurrence (className : String) (found : Accessors) (o : Occurrence) :
    Blind v (addOccurrence settings className found o) := by
  unfold addOccurrence
  apply Blind.named.bind
  intro name
  apply blind_claim.bind
  intro claimed
  split
  · exact blind_add
  · apply (blind_coreOutput (className ++ "_" ++ o.suffix) o).bind
    intro core
    exact blind_wrapOutput.bind fun typed => blind_add
termination_by (o.weightBelow, 4, 0)

theorem blind_coreOutput (wanted : String) (o : Occurrence) : Blind v (coreOutput settings wanted o) := by
  unfold coreOutput
  split
  · exact .throw
  · rename_i t type
    split
    · exact blind_variables.scalarBinding.bind fun _ => .pure
    · exact blind_variables.enumClass.bind fun _ => .pure
    · exact .throw
    · split
      · exact .throw
      · rename_i below selected
        have smaller : Resolved.weightAll below = o.weightBelow := by
          simp [Occurrence.weightBelow, selected]
        apply Alike.get_bind
        intro p p' h
        dsimp only
        rw [h.classes.leafName_eq]
        apply Alike.bind (blind_accessors _ t below)
        rintro ⟨methods, dependencies⟩ _ rfl
        apply Alike.bind (alike_registerLeaf (h.classes.find?_eq _))
        exact fun _ _ _ => .pure rfl
termination_by (o.weightBelow, 3, 0)
decreasing_by
  rw [smaller]
  simp [Prod.lex_def]

end

/-! ### Operations -/

/-- Two operations that differ at most in their selections, but have them read alike and give classes that look the
    same. -/
theorem alike_generateOperation {table table' : List Fragment} {o o' : Operation} (named : o'.name = o.name)
    (kind : o'.kind = o.kind) (declares : o'.declarations = o.declarations)
    (reads : ∀ className owner, accessors settings className owner (resolveAll table table o.selections)
      = accessors settings className owner (resolveAll table' table' o'.selections))
    (looks : ∀ (c : ObjectClass) (details : OperationDetails), v.view (.root c { details with
        queryText := printDocument o (usedFragments table o.selections) })
      = v.view (.root c { details with queryText := printDocument o' (usedFragments table' o'.selections) })) :
    Alike v (fun c c' => v.view c = v.view c') (generateOperation settings table o)
      (generateOperation settings table' o') := by
  unfold generateOperation
  rw [named, kind, declares]
  apply Alike.bind Blind.named
  rintro className _ rfl
  have root : Blind v (rootTypeOf settings.schema o.kind) := by
    unfold rootTypeOf
    split
    · exact .pure
    · exact .throw
  apply Alike.bind root
  rintro owner _ rfl
  apply Alike.bind (Blind.mapM fun _ _ => blind_variables.declaredVariable)
  rintro parameters _ rfl
  rw [reads]
  apply Alike.bind (blind_accessors className owner _)
  rintro ⟨methods, dependencies⟩ _ rfl
  apply Alike.bind Blind.invariant
  rintro types _ rfl
  dsimp only
  have same := looks ⟨className, owner.name, types.toList, methods, dependencies⟩
    ⟨className, o.kind.text, "", parameters⟩
  exact Alike.bind (alike_register same) fun _ _ _ => .pure same

/-- The generation of an operation looks no closer at the classes, and gives a class that looks the same. -/
theorem blind_generateOperation (table : List Fragment) (o : Operation) :
    Alike v (fun c c' => v.view c = v.view c') (generateOperation settings table o)
      (generateOperation settings table o) :=
  alike_generateOperation rfl rfl rfl (fun _ _ => rfl) fun _ _ => rfl

end OperationClasses
