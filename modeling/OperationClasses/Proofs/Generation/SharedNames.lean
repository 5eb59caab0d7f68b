/-
Module: OperationClasses.Proofs.Generation.SharedNames
Purpose: A run is refused for response keys that share an accessor only if they stand in one selection set.
Main exports: FailsWith, Collides, Blames, generateDocument_blames
-/
import OperationClasses.Proofs.Generation.Contribution

namespace OperationClasses

open Generation

variable {α β : Type} {settings : Settings} {s : Schema} {d : Document} {p q : Progress}

/-! ### Failing steps -/

/-- A step fails only in certain ways. -/
def FailsWith (P : Failure → Prop) (m : Generation α) : Prop := ∀ p e q, Fails m p e q → P e

namespace FailsWith

variable {P : Failure → Prop} {m : Generation α} {k : α → Generation β}

/-- A sequence fails as its second part does, given what its first part yields. -/
theorem bind_of_yields (first : FailsWith P m) (second : ∀ p a q, Yields m p a q → FailsWith P (k a)) :
    FailsWith P (m >>= k) := by
  intro p e q fails
  rcases fails_bind_iff.1 fails with fails | ⟨a, r, yields, fails⟩
  · exact first p e q fails
  · exact second p a r yields r e q fails

theorem bind (first : FailsWith P m) (second : ∀ a, FailsWith P (k a)) : FailsWith P (m >>= k) :=
  first.bind_of_yields fun _ a _ _ => second a

theorem pure {a : α} : FailsWith P (pure a : Generation α) := fun _ _ _ fails => absurd fails not_fails_pure

theorem get : FailsWith P (get : Generation Progress) := fun _ _ _ fails => absurd fails not_fails_get

theorem set {p : Progress} : FailsWith P (set p : Generation Unit) :=
  fun _ _ _ fails => absurd fails not_fails_set

theorem modify {change : Progress → Progress} : FailsWith P (modify change : Generation Unit) :=
  fun _ _ _ fails => absurd fails not_fails_modify

theorem throw {e : Failure} (h : P e) : FailsWith P (throw e : Generation α) := by
  intro p f q fails
  rw [(fails_throw_iff.1 fails).1]
  exact h

theorem mapM {k : α → Generation β} {xs : List α} (each : ∀ x ∈ xs, FailsWith P (k x)) :
    FailsWith P (xs.mapM k) := by
  induction xs with
  | nil => exact pure
  | cons x rest ih =>
    obtain ⟨first, others⟩ := List.forall_mem_cons.1 each
    intro p e q fails
    rcases fails_mapM_cons_iff.1 fails with fails | ⟨_, r, -, fails⟩
    · exact first p e q fails
    · exact ih others r e q fails

end FailsWith

/-! ### Shared accessor names -/

/-- Two different response keys of a selection set share an accessor name. -/
def Collides (s : Schema) (owner : TypeDefinition) (selections : List Resolved)
    (first second accessor : String) : Prop :=
  first ≠ second ∧ ∃ os, occurrences s owner selections = .ok os
    ∧ (∃ o ∈ os, o.key = first ∧ Naming.accessorName first = .ok accessor)
    ∧ ∃ o ∈ os, o.key = second ∧ Naming.accessorName second = .ok accessor

/-- A failure that tells of two response keys with one accessor name tells of ones in a selection set of the
    document. -/
def Blames (s : Schema) (d : Document) (e : Failure) : Prop :=
  ∀ first second className accessor, e = .naming (.sharedAccessor first second className accessor) →
    ∃ owner selections, SelectionSetOf s d owner selections ∧ Collides s owner selections first second accessor

namespace Blames

theorem invariant {fault : InvariantFault} : Blames s d (.invariant fault) :=
  fun _ _ _ _ same => by cases same

theorem unsupported {fault : TypeFault} : Blames s d (.unsupported fault) :=
  fun _ _ _ _ same => by cases same

end Blames

/-! ### Steps that name no response keys -/

theorem blames_invariant {x : Except InvariantFault α} : FailsWith (Blames s d) (Generation.invariant x) := by
  cases x with
  | ok a => exact .pure
  | error fault => exact .throw .invariant

theorem blames_converted {x : Except ConversionFault α} : FailsWith (Blames s d) (converted x) := by
  cases x with
  | ok a => exact .pure
  | error fault => cases fault <;> exact .throw fun _ _ _ _ same => by cases same

theorem blames_register {c : ClassDefinition} : FailsWith (Blames s d) (register c) :=
  FailsWith.get.bind fun _ => blames_invariant.bind fun _ => .set

theorem blames_safeIdentifier {taken : List String} {name : String} :
    FailsWith (Blames s d) (named (Naming.safeIdentifier taken name)) := by
  unfold Naming.safeIdentifier
  cases Naming.rotateUnderscores name.toList with
  | none => exact .throw fun _ _ _ _ same => by cases same
  | some rotated => exact .pure

theorem blames_typeClassName {name : String} :
    FailsWith (Blames s d) (named (Naming.typeClassName name)) := by
  unfold Naming.typeClassName
  cases Naming.rotateUnderscores name.toList with
  | none => exact .throw fun _ _ _ _ same => by cases same
  | some rotated => exact .pure

theorem blames_operationClassName {name : Option String} :
    FailsWith (Blames s d) (named (Naming.operationClassName name)) := by
  cases name with
  | none => exact .throw fun _ _ _ _ same => by cases same
  | some text =>
    rw [Naming.operationClassName]
    split
    · exact .pure
    · exact .throw fun _ _ _ _ same => by cases same

/-- The steps for scalars, enums and variables. -/
theorem blames_variables : VariableClosed fun {_} m => FailsWith (Blames s d) m where
  value := .pure
  sequence := FailsWith.bind
  unsupported := .throw .unsupported
  broken := .throw .invariant
  identifier := blames_safeIdentifier
  className := blames_typeClassName
  converted := blames_converted
  register _ := blames_register
  imports := .modify
  findEnum known unknown := FailsWith.get.bind fun _ => by
    split
    · exact known _
    · exact unknown
  noteEnum := .modify
  findInput known unknown := FailsWith.get.bind fun _ => by
    split
    · exact known _
    · exact unknown
  noteInput := .modify

theorem blames_add {a : Accessors} {owner : String} {m : Method} :
    FailsWith (Blames s d) (a.add owner m) := by
  unfold Accessors.add
  split
  · exact .pure
  · refine blames_invariant.bind fun merged => ?_
    cases merged with
    | some merged => exact .pure
    | none => exact .throw .invariant

theorem blames_registerLeaf {name : String} {type : TypeDefinition} {existing : Option ClassDefinition}
    {methods : List Method} {dependencies : List String} :
    FailsWith (Blames s d) (registerLeaf settings name type existing methods dependencies) := by
  unfold registerLeaf
  split
  · refine FailsWith.get.bind fun progress => ?_
    split
    · refine FailsWith.set.bind fun _ => ?_
      split
      · exact .throw .invariant
      · exact .pure
    · exact .throw .invariant
  · exact blames_invariant.bind fun _ => blames_register

/-! ### Reading selection sets -/

/-- The response keys of accessors are those of occurrences. -/
def Accessors.KeysOf (os : List Occurrence) (a : Accessors) : Prop :=
  ∀ name key, a.keys.lookup name = some key →
    ∃ o ∈ os, o.key = key ∧ Naming.accessorName key = .ok name

namespace Accessors.KeysOf

variable {os : List Occurrence} {a b : Accessors} {name : String}

theorem empty : KeysOf os Accessors.empty := fun _ _ absent => by cases absent

theorem claims {o : Occurrence} (h : KeysOf os a) (mem : o ∈ os)
    (named : Naming.accessorName o.key = .ok name) (claims : a.Claims name o.key b) : KeysOf os b := by
  rcases claims with ⟨free, rfl⟩ | ⟨_, rfl⟩
  · intro other key found
    rw [List.lookup_append] at found
    rcases Option.or_eq_some_iff.1 found with old | ⟨-, new⟩
    · exact h other key old
    · rw [List.lookup_cons] at new
      split at new
      · rename_i same
        cases new
        exact ⟨o, mem, rfl, by rw [named, beq_iff_eq.1 same]⟩
      · cases new
  · exact h

theorem dependOn {typed : TypedOutput} (h : KeysOf os a) : KeysOf os (a.dependOn typed) := h

theorem adds {m : Method} (h : KeysOf os a) (adds : a.Adds m b) : KeysOf os b := by
  rcases adds with ⟨_, rfl⟩ | ⟨_, _, _, _, rfl⟩ <;> exact h

end Accessors.KeysOf

theorem Builds.keysOf {className : String} {found all : Accessors} {os whole : List Occurrence}
    (h : Builds settings className found os p all q) (mem : ∀ o ∈ os, o ∈ whole)
    (known : found.KeysOf whole) : all.KeysOf whole := by
  induction h with
  | nil => exact known
  | typename named claims _ adds _ ih =>
    obtain ⟨first, others⟩ := List.forall_mem_cons.1 mem
    exact ih others ((known.claims first named claims).adds adds)
  | value named claims _ _ _ _ _ _ adds _ ih =>
    obtain ⟨first, others⟩ := List.forall_mem_cons.1 mem
    exact ih others ((known.claims first named claims).dependOn.adds adds)
  | object named claims _ _ _ _ _ _ _ _ _ adds _ _ ih =>
    obtain ⟨first, others⟩ := List.forall_mem_cons.1 mem
    exact ih others ((known.claims first named claims).dependOn.adds adds)

/-- An accessor name is refused for a response key only if another one of the selection set has it. -/
theorem blames_claim {a : Accessors} {className name : String} {owner : TypeDefinition}
    {selections : List Resolved} {os : List Occurrence} {o : Occurrence}
    (selectionSet : SelectionSetOf s d owner selections) (occurs : occurrences s owner selections = .ok os)
    (known : a.KeysOf os) (mem : o ∈ os) (named : Naming.accessorName o.key = .ok name) :
    FailsWith (Blames s d) (a.claim className name o.key) := by
  unfold Accessors.claim
  split
  · exact .pure
  · rename_i other taken
    split
    · exact .pure
    · rename_i differs
      refine .throw fun first second className' accessor same => ?_
      cases same
      obtain ⟨o', mem', rfl, named'⟩ := known name other taken
      exact ⟨owner, selections, selectionSet, differs, os, occurs, ⟨o', mem', rfl, named'⟩,
        o, mem, rfl, named⟩

mutual

theorem blames_accessors (className : String) (owner : TypeDefinition) (selections : List Resolved)
    (selectionSet : SelectionSetOf settings.schema d owner selections) :
    FailsWith (Blames settings.schema d) (accessors settings className owner selections) := by
  unfold accessors
  split
  · exact .throw .invariant
  · rename_i os collected
    have smaller : ∀ o ∈ os, o.weightBelow < Resolved.weightAll selections := fun o ho =>
      weightBelow_lt collected ho
    exact (blames_addOccurrences className owner selections selectionSet os collected Accessors.empty os _
      smaller (fun _ h => h) .empty).bind fun _ => .pure
termination_by (Resolved.weightAll selections, 2, 0)

theorem blames_addOccurrences (className : String) (owner : TypeDefinition) (selections : List Resolved)
    (selectionSet : SelectionSetOf settings.schema d owner selections) (whole : List Occurrence)
    (occurs : occurrences settings.schema owner selections = .ok whole) (found : Accessors)
    (os : List Occurrence) (bound : Nat) (smaller : ∀ o ∈ os, o.weightBelow < bound)
    (mem : ∀ o ∈ os, o ∈ whole) (known : found.KeysOf whole) :
    FailsWith (Blames settings.schema d) (addOccurrences settings className found os bound smaller) := by
  match os with
  | [] =>
    rw [addOccurrences]
    exact .pure
  | o :: rest =>
    have shorter : o.weightBelow < bound := smaller o List.mem_cons_self
    obtain ⟨first, others⟩ := List.forall_mem_cons.1 mem
    unfold addOccurrences
    have blames :=
      blames_addOccurrence className owner selections selectionSet whole occurs found o first known
    apply blames.bind_of_yields
    intro p added r yields
    have builds := addOccurrence_builds className found o yields .nil
    exact blames_addOccurrences className owner selections selectionSet whole occurs added rest bound _ others
      (builds.keysOf (List.forall_mem_singleton.2 first) known)
termination_by (bound, 1, os.length)
decreasing_by
  · exact Prod.Lex.left _ _ shorter
  · simp [Prod.lex_def]

theorem blames_addOccurrence (className : String) (owner : TypeDefinition) (selections : List Resolved)
    (selectionSet : SelectionSetOf settings.schema d owner selections) (whole : List Occurrence)
    (occurs : occurrences settings.schema owner selections = .ok whole) (found : Accessors)
    (o : Occurrence) (mem : o ∈ whole) (known : found.KeysOf whole) :
    FailsWith (Blames settings.schema d) (addOccurrence settings className found o) := by
  unfold addOccurrence
  apply FailsWith.bind_of_yields blames_safeIdentifier
  intro p name r yieldsName
  obtain ⟨named, rfl⟩ := yields_named_iff.1 yieldsName
  apply (blames_claim selectionSet occurs known mem named).bind
  intro claimed
  split
  · exact blames_add
  · rename_i notTypename
    apply (blames_coreOutput (className ++ "_" ++ o.suffix) owner selections selectionSet whole occurs o mem
      notTypename).bind
    exact fun core => FailsWith.bind (blames_converted.bind fun _ => .pure) fun typed => blames_add
termination_by (o.weightBelow, 4, 0)

theorem blames_coreOutput (wanted : String) (owner : TypeDefinition) (selections : List Resolved)
    (selectionSet : SelectionSetOf settings.schema d owner selections) (whole : List Occurrence)
    (occurs : occurrences settings.schema owner selections = .ok whole) (o : Occurrence)
    (mem : o ∈ whole) (notTypename : ¬ o.isTypename) :
    FailsWith (Blames settings.schema d) (coreOutput settings wanted o) := by
  unfold coreOutput
  split
  · exact .throw .invariant
  · rename_i t type
    split
    · exact blames_variables.scalarBinding.bind fun _ => .pure
    · exact blames_variables.enumClass.bind fun _ => .pure
    · exact .throw .unsupported
    · rename_i notScalar notEnum notInput
      have composite : t.body.isComposite := by
        cases body : t.body <;> simp_all [TypeBody.isComposite]
      split
      · exact .throw .invariant
      · rename_i below selected
        have smaller : Resolved.weightAll below = o.weightBelow := by
          simp [Occurrence.weightBelow, selected]
        have inner := SelectionSetOf.under selectionSet occurs mem notTypename type composite selected
        refine FailsWith.get.bind fun progress => ?_
        exact (blames_accessors _ t below inner).bind fun _ => blames_registerLeaf.bind fun _ => .pure
termination_by (o.weightBelow, 3, 0)
decreasing_by
  rw [smaller]
  simp [Prod.lex_def]

end

/-- A run that is refused for response keys with one accessor name is refused for ones in one selection set of
    the document. -/
theorem generateDocument_blames : FailsWith (Blames settings.schema d) (generateDocument settings d) := by
  refine FailsWith.mapM fun o mem => ?_
  unfold generateOperation
  apply FailsWith.bind blames_operationClassName
  intro className
  apply FailsWith.bind_of_yields
  · unfold rootTypeOf
    split
    · exact .pure
    · exact .throw .invariant
  · intro p owner r root
    have type : settings.schema.rootType o.kind = some owner := by
      unfold rootTypeOf at root
      split at root
      · rename_i known
        rw [known, (yields_pure_iff.1 root).1]
      · exact absurd root not_yields_throw
    refine (FailsWith.mapM fun v _ => blames_variables.declaredVariable).bind fun parameters => ?_
    refine (blames_accessors className owner _ (.root mem type)).bind fun _ => ?_
    exact blames_invariant.bind fun types => blames_register.bind fun _ => .pure

end OperationClasses
