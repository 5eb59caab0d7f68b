/-
Module: OperationClasses.Proofs.Accessor.Repetition
Purpose: A field that is selected again in the same way leaves its accessor as it is: what is read of an accessor
  depends on its paths in the order in which each was selected first.
Main exports: eraseDups_append_of_subset, reducePaths_eraseDups, FieldAccess.once, FieldAccess.read_once, Method.once,
  Method.merge_once
-/
import OperationClasses.Accessor.Method
import OperationClasses.Proofs.Accessor.ExactReduction

namespace OperationClasses

/-! ### Lists with repetitions -/

section Lists

variable {α : Type} [BEq α] [LawfulBEq α] {xs ys zs : List α} {x : α}

theorem removeAll_congr (same : ∀ x, x ∈ xs ↔ x ∈ ys) (zs : List α) : zs.removeAll xs = zs.removeAll ys := by
  unfold List.removeAll
  apply List.filter_congr
  intro x _
  rw [Bool.eq_iff_iff]
  simp [same x]

/-- What is added behind a list counts as far as it is new, and of that the first of each. -/
theorem eraseDups_append_congr (same : xs.eraseDups = ys.eraseDups) (zs : List α) :
    (xs ++ zs).eraseDups = (ys ++ zs).eraseDups := by
  have members : ∀ x, x ∈ xs ↔ x ∈ ys := by
    intro x
    rw [← List.mem_eraseDups, same, List.mem_eraseDups]
  rw [List.eraseDups_append, List.eraseDups_append, same, removeAll_congr members]

/-- Adding what is there already makes no difference. -/
theorem eraseDups_append_of_subset (old : ∀ x ∈ zs, x ∈ xs) : (xs ++ zs).eraseDups = xs.eraseDups := by
  have nothing : zs.removeAll xs = [] := by
    apply List.filter_eq_nil_iff.2
    intro x hx
    simp [old x hx]
  rw [List.eraseDups_append, nothing]
  exact List.append_nil _

theorem eraseDups_concat_of_mem (old : x ∈ xs) : (xs ++ [x]).eraseDups = xs.eraseDups :=
  eraseDups_append_of_subset fun _ hy => List.mem_singleton.1 hy ▸ old

theorem eraseDups_concat_of_not_mem (new : x ∉ xs) : (xs ++ [x]).eraseDups = xs.eraseDups ++ [x] := by
  have kept : [x].removeAll xs = [x] := by
    apply List.filter_eq_self.2
    intro y hy
    simpa [List.mem_singleton.1 hy] using new
  rw [List.eraseDups_append, kept]
  rfl

end Lists

/-! ### Reduction -/

variable {s : Schema} {paths : List Path} {typed : List TypedPath}

theorem survivorsAfter_append (all earlier xs ys : List TypedPath) :
    survivorsAfter all earlier (xs ++ ys) = survivorsAfter all earlier xs ++ survivorsAfter all (earlier ++ xs) ys := by
  induction xs generalizing earlier with
  | nil => simp [survivorsAfter]
  | cons p rest ih =>
    have later := ih (earlier ++ [p])
    rw [List.append_assoc, List.singleton_append] at later
    rw [List.cons_append, survivorsAfter, survivorsAfter, later]
    split <;> rfl

/-- Whether a path survives depends on which paths there are, and which stand earlier. -/
theorem survives_congr {all all' earlier earlier' : List TypedPath} (same : ∀ p, p ∈ all ↔ p ∈ all')
    (before : ∀ p, p ∈ earlier ↔ p ∈ earlier') (p : TypedPath) : Survives all earlier p ↔ Survives all' earlier' p := by
  simp only [Survives, same, before]

theorem survivorsAfter_congr {all all' : List TypedPath} (same : ∀ p, p ∈ all ↔ p ∈ all')
    (earlier rest : List TypedPath) : survivorsAfter all earlier rest = survivorsAfter all' earlier rest := by
  induction rest generalizing earlier with
  | nil => rfl
  | cons p rest ih =>
    rw [survivorsAfter, survivorsAfter, ih]
    simp only [survives_congr same fun _ => Iff.rfl]

/-- A path that stands earlier already does not survive again. -/
theorem survivorsAfter_eraseDups (all typed : List TypedPath) :
    survivorsAfter all [] typed.eraseDups = survivorsAfter all [] typed := by
  induction typed using List.reverseRecOn with
  | nil => rfl
  | append_singleton rest p ih =>
    rw [survivorsAfter_append]
    by_cases old : p ∈ rest
    · have gone : ¬ Survives all rest p := fun survives => survives.2.2 p old rfl
      rw [eraseDups_concat_of_mem old, ih, List.nil_append, survivorsAfter, if_neg gone]
      exact (List.append_nil _).symm
    · have before : Survives all rest.eraseDups p ↔ Survives all rest p :=
        survives_congr (fun _ => Iff.rfl) (fun _ => List.mem_eraseDups) p
      rw [eraseDups_concat_of_not_mem old, survivorsAfter_append, ih]
      simp only [List.nil_append, survivorsAfter, before]

theorem survivors_eraseDups (typed : List TypedPath) : survivors typed.eraseDups = survivors typed := by
  rw [survivors_eq, survivors_eq, survivorsAfter_eraseDups, survivorsAfter_congr fun _ => List.mem_eraseDups]

/-- Repeated paths make no difference to the reduced ones. -/
theorem reducePaths_eraseDups (typed : List TypedPath) : reducePaths typed.eraseDups = reducePaths typed := by
  have sorted := reducePaths_sortedStably typed.eraseDups
  rw [survivors_eraseDups] at sorted
  exact sorted.unique (reducePaths_sortedStably typed)

theorem resolve_concat (s : Schema) (paths : List Path) (p : Path) :
    TypedPath.resolve s (paths ++ [p]) = (do
      let typed ← TypedPath.resolve s paths
      let types ← p.compatible s
      return typed ++ [⟨p, types⟩]) := by
  rw [TypedPath.resolve, List.mapM_append]
  simp only [List.mapM_cons, List.mapM_nil, bind_assoc, pure_bind]
  rfl

/-- Paths with their types repeat as the paths do, and a path that is repeated fails no sooner than the first time. -/
theorem resolve_eraseDups (s : Schema) (paths : List Path) :
    TypedPath.resolve s paths.eraseDups = (TypedPath.resolve s paths).map List.eraseDups := by
  induction paths using List.reverseRecOn with
  | nil => rfl
  | append_singleton rest p ih =>
    cases resolved : TypedPath.resolve s rest with
    | error fault =>
      rw [resolved] at ih
      have fails : TypedPath.resolve s (rest ++ [p]) = .error fault := by
        rw [resolve_concat, resolved]
        rfl
      rw [fails]
      by_cases old : p ∈ rest
      · rw [eraseDups_concat_of_mem old, ih]
      · rw [eraseDups_concat_of_not_mem old, resolve_concat, ih]
        rfl
    | ok typed =>
      rw [resolved] at ih
      have ih : TypedPath.resolve s rest.eraseDups = .ok typed.eraseDups := ih
      rw [resolve_concat, resolved]
      by_cases old : p ∈ rest
      · obtain ⟨q, -, told⟩ := mapM_ok_left resolved p old
        obtain ⟨types, told, -⟩ := bind_ok told
        have here : ⟨p, types⟩ ∈ typed := (mem_resolve_iff resolved _).2 ⟨old, told⟩
        rw [eraseDups_concat_of_mem old, ih, told]
        exact congrArg Except.ok (eraseDups_concat_of_mem here).symm
      · rw [eraseDups_concat_of_not_mem old, resolve_concat, ih]
        cases told : p.compatible s with
        | error fault => rfl
        | ok types =>
          have absent : ⟨p, types⟩ ∉ typed := fun here => old ((mem_resolve_iff resolved _).1 here).1
          exact congrArg Except.ok (eraseDups_concat_of_not_mem absent).symm

/-! ### Accessors -/

namespace FieldAccess

variable {a b other : FieldAccess}

/-- The accessor with each of its paths once, where it was selected first. -/
def once (a : FieldAccess) : FieldAccess := { a with paths := a.paths.eraseDups }

/-- **Repetition**: whatever is read of an accessor is read of the one with each path once, value or failure. -/
theorem read_once (s : Schema) (a : FieldAccess) (what : Derived) : a.once.read s what = a.read s what := by
  have reduced : a.once.reduced s = a.reduced s := by
    show (TypedPath.resolve s a.paths.eraseDups >>= fun typed => pure (reducePaths typed)) = _
    rw [resolve_eraseDups, FieldAccess.reduced]
    cases TypedPath.resolve s a.paths with
    | error fault => rfl
    | ok typed => exact congrArg Except.ok (reducePaths_eraseDups typed)
  have roots : a.once.roots = a.roots := by
    apply NameSet.ext
    intro x
    simp [FieldAccess.roots, once]
  have root : a.once.rootPossible s = a.rootPossible s := by
    rw [rootPossible, rootPossible, roots]
    rfl
  refine read_of_reduced (a := a.once) (b := a) rfl reduced ?_ fun _ => root
  rw [FieldAccess.guaranteed, FieldAccess.guaranteed, reduced, root]

/-- Accessors with the same paths up to repetitions take further paths alike. -/
theorem merge_once (same : a.once = b.once) (other : FieldAccess) :
    (a.merge other).map once = (b.merge other).map once := by
  obtain ⟨name, paths, rootTypes, frozen⟩ := a
  obtain ⟨name', paths', rootTypes', frozen'⟩ := b
  simp only [once, mk.injEq] at same
  obtain ⟨rfl, same, rfl, rfl⟩ := same
  unfold merge
  cases frozen with
  | true => rfl
  | false =>
    simp only [Bool.false_eq_true, if_false, pure, Except.pure, Except.map, once]
    rw [eraseDups_append_congr same]

end FieldAccess

namespace Method

variable {m m' : Method} {methods : List Method}

/-- The accessor with each of its paths once. -/
def once : Method → Method
  | .field access => .field access.once
  | other => other

@[simp] theorem name_once (m : Method) : m.once.name = m.name := by
  cases m <;> rfl

/-- Accessors that are the same up to repetitions take another one alike. -/
theorem merge_once (same : m.once = m'.once) (other : Method) :
    (m.merge other).map (Option.map once) = (m'.merge other).map (Option.map once) := by
  cases m with
  | fixed =>
    cases m' with
    | fixed => rw [show Method.fixed _ _ _ = Method.fixed _ _ _ from same]
    | field => cases same
  | field a =>
    cases m' with
    | fixed => cases same
    | field b =>
      cases other with
      | fixed => rfl
      | field more =>
        have field : ∀ x : Except InvariantFault FieldAccess,
            (x.map fun access => some (Method.field access)).map (Option.map once)
              = (x.map FieldAccess.once).map fun access => some (Method.field access) := by
          intro x
          cases x <;> rfl
        have merged := FieldAccess.merge_once (Method.field.inj same) more
        show ((a.merge more).map _).map _ = ((b.merge more).map _).map _
        rw [field, field, merged]

theorem find?_map_once (methods : List Method) (name : String) :
    find? (methods.map once) name = (find? methods name).map once := by
  have test : (fun m : Method => m.name == name) ∘ once = fun m => m.name == name := by
    funext m
    simp
  rw [find?, List.find?_map, test]
  rfl

theorem map_once_put (m : Method) (methods : List Method) :
    (put m methods).map once = put m.once (methods.map once) := by
  induction methods with
  | nil => rfl
  | cons first rest ih =>
    rw [List.map_cons, put, put, name_once, name_once]
    split
    · rfl
    · rw [List.map_cons, ih]

/-- Putting an accessor in its own place changes nothing. -/
theorem put_self (found : find? methods m.name = some m) : put m methods = methods := by
  induction methods with
  | nil => cases found
  | cons first rest ih =>
    rw [put]
    split
    · rename_i same
      rw [find?, List.find?_cons_of_pos (by simpa using same)] at found
      rw [Option.some.inj found]
    · rename_i differs
      rw [find?, List.find?_cons_of_neg (by simpa using differs)] at found
      rw [ih found]

end Method

end OperationClasses
