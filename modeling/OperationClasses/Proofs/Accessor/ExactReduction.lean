/-
Module: OperationClasses.Proofs.Accessor.ExactReduction
Purpose: The reduced paths are those with a largest set of types, the first of each set, sorted stably; reducing them
  again changes nothing.
Main exports: Survives, survivors, SortedStably, reducePaths_sortedStably, reducePaths_reducePaths,
  FieldAccess.reduction_is_exact
-/
import OperationClasses.Proofs.Accessor.Caching

namespace OperationClasses

/-! ### Sets of types -/

namespace NameSet

variable {a b c : NameSet}

theorem subset_refl (a : NameSet) : a.subset a := subset_iff.2 fun _ hx => hx

theorem subset_trans (ab : a.subset b) (bc : b.subset c) : a.subset c :=
  subset_iff.2 fun x hx => subset_iff.1 bc x (subset_iff.1 ab x hx)

theorem eq_of_subset_of_subset (ab : a.subset b) (ba : b.subset a) : a = b :=
  ext fun x => ⟨subset_iff.1 ab x, subset_iff.1 ba x⟩

/-- A set with all names of another one and more has more names. -/
theorem size_lt_size (ab : a.subset b) (ba : ¬ b.subset a) : a.size < b.size := by
  have distinct : a.toList.Nodup := List.nodup_iff_pairwise_ne.2 (a.sorted.imp fun lt => Std.ne_of_lt lt)
  have within : a.toList.Subperm b.toList := List.subperm_of_subset distinct (subset_iff.1 ab)
  by_contra fewer
  have same := within.perm_of_length_le (Nat.le_of_not_lt fewer)
  exact ba (subset_iff.2 fun x hx => same.mem_iff.2 hx)

end NameSet

/-! ### The paths that decide an accessor -/

/-- A path has all types of another one and more. -/
def TypedPath.Exceeds (q p : TypedPath) : Prop := p.types.subset q.types ∧ ¬ q.types.subset p.types

instance (q p : TypedPath) : Decidable (q.Exceeds p) := inferInstanceAs (Decidable (_ ∧ _))

/-- Neither of two paths has all types of the other. -/
def TypedPath.Incomparable (p q : TypedPath) : Prop := ¬ p.types.subset q.types ∧ ¬ q.types.subset p.types

instance : Std.Symm TypedPath.Incomparable := ⟨fun _ _ h => ⟨h.2, h.1⟩⟩

/-- A path of a list, with those that stand `earlier`, can apply to some type, is exceeded by no path of the list, and
    is the first one with its types. -/
def Survives (paths earlier : List TypedPath) (p : TypedPath) : Prop :=
  p.types.toList ≠ [] ∧ (∀ q ∈ paths, ¬ q.Exceeds p) ∧ ∀ q ∈ earlier, q.types ≠ p.types

instance (paths earlier : List TypedPath) (p : TypedPath) : Decidable (Survives paths earlier p) :=
  inferInstanceAs (Decidable (_ ∧ _ ∧ _))

/-- The paths of a list that survive, in the order of the list. -/
def survivors (paths : List TypedPath) : List TypedPath :=
  (paths.zipIdx.filter fun x => Survives paths (paths.take x.2) x.1).map (·.1)

/-- A list is the stable sort of another one by decreasing number of types: larger sets come first, and the paths with
    equally many types are those of the other list in the order that they have there. -/
structure SortedStably (paths sorted : List TypedPath) : Prop where
  decreasing : sorted.Pairwise fun a b => b.types.size ≤ a.types.size
  stable : ∀ n, sorted.filter (·.types.size = n) = paths.filter (·.types.size = n)

/-! ### Stable sorting -/

/-- Whether a path may stand before another one in the order of reduction. -/
def TypedPath.notSmaller (a b : TypedPath) : Bool := decide (b.types.size ≤ a.types.size)

theorem sortedStably_mergeSort (paths : List TypedPath) :
    SortedStably paths (paths.mergeSort TypedPath.notSmaller) := by
  have trans : ∀ a b c : TypedPath, a.notSmaller b → b.notSmaller c → a.notSmaller c := by
    simp only [TypedPath.notSmaller, decide_eq_true_eq]
    omega
  have total : ∀ a b : TypedPath, a.notSmaller b || b.notSmaller a := by
    simp only [TypedPath.notSmaller, Bool.or_eq_true, decide_eq_true_eq]
    omega
  constructor
  · exact (List.pairwise_mergeSort trans total paths).imp of_decide_eq_true
  · intro n
    -- either of two paths of one size may stand before the other
    refine filter_mergeSort paths trans total _ fun a b size_a size_b => ?_
    exact decide_eq_true (le_of_eq ((of_decide_eq_true size_b).trans (of_decide_eq_true size_a).symm))

/-- There is only one stable sort of a list. -/
theorem SortedStably.unique {paths a b : List TypedPath} (ha : SortedStably paths a) (hb : SortedStably paths b) :
    a = b := by
  suffices same : ∀ a b : List TypedPath, a.Pairwise (fun p q => q.types.size ≤ p.types.size) →
      b.Pairwise (fun p q => q.types.size ≤ p.types.size) →
      (∀ n, a.filter (·.types.size = n) = b.filter (·.types.size = n)) → a = b from
    same a b ha.decreasing hb.decreasing fun n => (ha.stable n).trans (hb.stable n).symm
  have first_size : ∀ {p : TypedPath} {a b : List TypedPath} {q : TypedPath},
      (q :: b).Pairwise (fun p q => q.types.size ≤ p.types.size) →
      (p :: a).filter (·.types.size = p.types.size) = (q :: b).filter (·.types.size = p.types.size) →
      p.types.size ≤ q.types.size := by
    intro p a b q decreasing level
    have hp : p ∈ (q :: b).filter (·.types.size = p.types.size) := by
      rw [← level]
      simp
    rcases List.mem_cons.1 (List.mem_filter.1 hp).1 with rfl | later
    · exact le_refl _
    · exact (List.pairwise_cons.1 decreasing).1 p later
  intro a
  induction a with
  | nil =>
    intro b _ _ levels
    cases b with
    | nil => rfl
    | cons q b => simpa using levels q.types.size
  | cons p a ih =>
    intro b decreasing decreasing' levels
    cases b with
    | nil => simpa using levels p.types.size
    | cons q b =>
      have size : p.types.size = q.types.size :=
        le_antisymm (first_size decreasing' (levels _)) (first_size decreasing (levels _).symm)
      have heads := levels p.types.size
      rw [List.filter_cons_of_pos (by simp), List.filter_cons_of_pos (by simp [size])] at heads
      obtain ⟨rfl, tails⟩ := List.cons.inj heads
      rw [ih b (List.pairwise_cons.1 decreasing).2 (List.pairwise_cons.1 decreasing').2 fun n => ?_]
      by_cases here : p.types.size = n
      · exact here ▸ tails
      · simpa [here] using levels n

/-! ### Survivors one by one -/

/-- The survivors among paths that come after `earlier` ones. -/
def survivorsAfter (paths earlier : List TypedPath) : List TypedPath → List TypedPath
  | [] => []
  | p :: rest =>
    if Survives paths earlier p then p :: survivorsAfter paths (earlier ++ [p]) rest
    else survivorsAfter paths (earlier ++ [p]) rest

theorem survivors_eq (paths : List TypedPath) : survivors paths = survivorsAfter paths [] paths := by
  suffices walk : ∀ rest earlier, paths = earlier ++ rest →
      ((rest.zipIdx earlier.length).filter fun x => Survives paths (paths.take x.2) x.1).map (·.1)
        = survivorsAfter paths earlier rest from walk paths [] rfl
  intro rest
  induction rest with
  | nil => exact fun _ _ => rfl
  | cons p rest ih =>
    intro earlier parts
    have before : paths.take earlier.length = earlier := by rw [parts, List.take_left]
    have later := ih (earlier ++ [p]) (by rw [parts, List.append_assoc]; rfl)
    rw [List.length_append, List.length_singleton] at later
    rw [List.zipIdx_cons, survivorsAfter]
    split
    · rename_i survives
      rw [List.filter_cons_of_pos (by simpa only [before, decide_eq_true_eq] using survives), List.map_cons, later]
    · rename_i gone
      rw [List.filter_cons_of_neg (by simpa only [before, decide_eq_true_eq] using gone), later]

theorem survivorsAfter_sublist (paths earlier rest : List TypedPath) :
    (survivorsAfter paths earlier rest).Sublist rest := by
  induction rest generalizing earlier with
  | nil => exact .slnil
  | cons p rest ih =>
    rw [survivorsAfter]
    split
    · exact (ih _).cons_cons p
    · exact (ih _).cons p

/-- What passes a test on the types survives as among those that pass it: only paths with equal types compete for
    being the first. -/
theorem filter_survivorsAfter {test : TypedPath → Bool} (alike : ∀ p q, p.types = q.types → test p = test q)
    (paths earlier rest : List TypedPath) :
    (survivorsAfter paths earlier rest).filter test
      = survivorsAfter paths (earlier.filter test) (rest.filter test) := by
  induction rest generalizing earlier with
  | nil => rfl
  | cons p rest ih =>
    have later := ih (earlier ++ [p])
    rw [List.filter_append] at later
    by_cases passes : test p
    · have survives_iff : Survives paths (earlier.filter test) p ↔ Survives paths earlier p := by
        refine and_congr_right fun _ => and_congr_right fun _ => ⟨fun first q hq same => ?_, fun first q hq => ?_⟩
        · exact first q (List.mem_filter.2 ⟨hq, (alike q p same).trans passes⟩) same
        · exact first q (List.mem_filter.1 hq).1
      rw [List.filter_cons_of_pos passes, List.filter_nil] at later
      rw [List.filter_cons_of_pos passes, survivorsAfter, survivorsAfter]
      by_cases survives : Survives paths earlier p
      · rw [if_pos survives, if_pos (survives_iff.2 survives), List.filter_cons_of_pos passes, later]
      · rw [if_neg survives, if_neg (mt survives_iff.1 survives), later]
    · rw [List.filter_cons_of_neg passes, List.filter_nil, List.append_nil] at later
      rw [List.filter_cons_of_neg passes, survivorsAfter]
      split
      · rw [List.filter_cons_of_neg passes, later]
      · exact later

/-! ### Reduction is exact -/

/-- Whether a path can apply to some type. -/
def TypedPath.applies (p : TypedPath) : Bool := !p.types.isEmpty

theorem TypedPath.applies_iff {p : TypedPath} : p.applies ↔ p.types.toList ≠ [] := by
  rw [applies, NameSet.isEmpty, Bool.not_eq_true', List.isEmpty_eq_false_iff]

/-- A path exceeded by another one that can apply makes that one apply too. -/
theorem TypedPath.Exceeds.applies {p q : TypedPath} (exceeds : q.Exceeds p) : q.applies := by
  by_contra empty
  rw [applies_iff, not_not] at empty
  refine exceeds.2 (NameSet.subset_iff.2 fun x hx => ?_)
  rw [← NameSet.mem_toList, empty] at hx
  cases hx

/-- A path is covered by what was kept exactly if it does not survive, where all paths that can apply and are larger
    stand earlier: what was kept has the types of those that stand there. -/
theorem covered_iff_not_survives {paths kept earlier : List TypedPath} {p : TypedPath} (applies : p.applies)
    (given : ∀ q ∈ earlier, q ∈ paths)
    (larger : ∀ q ∈ paths, q.applies → q ∈ earlier ∨ q.types.size ≤ p.types.size)
    (drawn : ∀ k ∈ kept, k ∈ earlier) (covers : ∀ q ∈ earlier, ∃ k ∈ kept, q.types.subset k.types) :
    (kept.any fun k => p.types.subset k.types) ↔ ¬ Survives paths earlier p := by
  rw [List.any_eq_true]
  constructor
  · rintro ⟨k, hk, sub⟩ ⟨-, largest, first⟩
    have hk := drawn k hk
    by_cases back : k.types.subset p.types
    · exact first k hk (NameSet.eq_of_subset_of_subset back sub)
    · exact largest k (given k hk) ⟨sub, back⟩
  · intro gone
    obtain ⟨q, hq, sub⟩ : ∃ q ∈ earlier, p.types.subset q.types := by
      by_contra none
      push Not at none
      refine gone ⟨TypedPath.applies_iff.1 applies, fun q hq exceeds => ?_, fun q hq same => ?_⟩
      · rcases larger q hq exceeds.applies with before | not_larger
        · exact none q before exceeds.1
        · exact absurd not_larger (Nat.not_le_of_lt (NameSet.size_lt_size exceeds.1 exceeds.2))
      · exact none q hq (same ▸ NameSet.subset_refl _)
    obtain ⟨k, hk, sub'⟩ := covers q hq
    exact ⟨k, hk, NameSet.subset_trans sub sub'⟩

/-- Going through paths in order of decreasing size keeps those that survive: a path that exceeds another one stands
    before it. -/
theorem keepUncovered_eq {paths kept earlier rest : List TypedPath}
    (sorted : (earlier ++ rest).Pairwise fun a b => b.types.size ≤ a.types.size)
    (candidates : ∀ q, q ∈ earlier ++ rest ↔ q ∈ paths ∧ q.applies)
    (drawn : ∀ k ∈ kept, k ∈ earlier) (covers : ∀ q ∈ earlier, ∃ k ∈ kept, q.types.subset k.types) :
    keepUncovered kept rest = kept ++ survivorsAfter paths earlier rest := by
  induction rest generalizing kept earlier with
  | nil => exact (List.append_nil kept).symm
  | cons p rest ih =>
    have parts : earlier ++ p :: rest = (earlier ++ [p]) ++ rest := by rw [List.append_assoc]; rfl
    have hp := (candidates p).1 (List.mem_append_right _ List.mem_cons_self)
    have not_larger : ∀ q ∈ p :: rest, q.types.size ≤ p.types.size := by
      have after := (List.pairwise_append.1 sorted).2.1
      rintro q hq
      rcases List.mem_cons.1 hq with rfl | hq
      · exact le_refl _
      · exact (List.pairwise_cons.1 after).1 q hq
    have covered_iff : (kept.any fun k => p.types.subset k.types) ↔ ¬ Survives paths earlier p := by
      refine covered_iff_not_survives hp.2 (fun q hq => ?_) (fun q hq applies => ?_) drawn covers
      · exact ((candidates q).1 (List.mem_append_left _ hq)).1
      · exact (List.mem_append.1 ((candidates q).2 ⟨hq, applies⟩)).imp_right (not_larger q)
    rw [keepUncovered, survivorsAfter]
    split
    · rename_i covered
      rw [if_neg (covered_iff.1 covered)]
      refine ih (parts ▸ sorted) (parts ▸ candidates) (fun k hk => List.mem_append_left _ (drawn k hk)) fun q hq => ?_
      rcases List.mem_append.1 hq with hq | hq
      · exact covers q hq
      · cases List.mem_singleton.1 hq
        exact List.any_eq_true.1 covered
    · rename_i uncovered
      have survives : Survives paths earlier p := by_contra fun gone => uncovered (covered_iff.2 gone)
      rw [parts] at sorted candidates
      rw [if_pos survives, ih sorted candidates ?_ ?_, List.append_assoc]
      · rfl
      · intro k hk
        rcases List.mem_append.1 hk with hk | hk
        · exact List.mem_append_left _ (drawn k hk)
        · exact List.mem_append_right _ hk
      · intro q hq
        rcases List.mem_append.1 hq with hq | hq
        · obtain ⟨k, hk, sub⟩ := covers q hq
          exact ⟨k, List.mem_append_left _ hk, sub⟩
        · exact ⟨q, List.mem_append_right _ hq, NameSet.subset_refl _⟩

/-- The reduced paths are the survivors in the order of decreasing size. -/
theorem reducePaths_eq (paths : List TypedPath) :
    reducePaths paths
      = survivorsAfter paths [] ((paths.filter TypedPath.applies).mergeSort TypedPath.notSmaller) := by
  have sorted := sortedStably_mergeSort (paths.filter TypedPath.applies)
  refine @keepUncovered_eq paths [] [] _ sorted.decreasing (fun q => ?_) (fun k hk => by cases hk)
    fun q hq => by cases hq
  rw [List.nil_append, List.mem_mergeSort, List.mem_filter]
  rfl

/-- The reduced paths are the stable sort, by decreasing number of types, of the paths that survive. -/
theorem reducePaths_sortedStably (paths : List TypedPath) : SortedStably (survivors paths) (reducePaths paths) := by
  have sorted := sortedStably_mergeSort (paths.filter TypedPath.applies)
  rw [reducePaths_eq]
  refine ⟨sorted.decreasing.sublist (survivorsAfter_sublist ..), fun n => ?_⟩
  have sized : ∀ p q : TypedPath, p.types = q.types → decide (p.types.size = n) = decide (q.types.size = n) :=
    fun p q same => by rw [same]
  have able : ∀ p q : TypedPath, p.types = q.types → p.applies = q.applies :=
    fun p q same => by rw [TypedPath.applies, TypedPath.applies, same]
  have all_apply : (survivors paths).filter TypedPath.applies = survivors paths := by
    refine List.filter_eq_self.2 fun p hp => ?_
    obtain ⟨x, hx, rfl⟩ := List.mem_map.1 hp
    exact TypedPath.applies_iff.2 (of_decide_eq_true (List.mem_filter.1 hx).2).1
  have candidates : survivorsAfter paths [] (paths.filter TypedPath.applies) = survivors paths := by
    have kept := filter_survivorsAfter able paths [] paths
    rwa [List.filter_nil, ← survivors_eq, all_apply, eq_comm] at kept
  calc (survivorsAfter paths [] ((paths.filter TypedPath.applies).mergeSort TypedPath.notSmaller)).filter
        (·.types.size = n)
      = survivorsAfter paths [] (((paths.filter TypedPath.applies).mergeSort TypedPath.notSmaller).filter
          (·.types.size = n)) := filter_survivorsAfter sized ..
    _ = survivorsAfter paths [] ((paths.filter TypedPath.applies).filter (·.types.size = n)) := by
        rw [sorted.stable n]
    _ = (survivorsAfter paths [] (paths.filter TypedPath.applies)).filter (·.types.size = n) :=
        (filter_survivorsAfter sized paths [] _).symm
    _ = (survivors paths).filter (·.types.size = n) := by rw [candidates]

/-! ### Reducing again -/

/-- Of two reduced paths, the later one has a type that the earlier one lacks. -/
theorem pairwise_keepUncovered {kept paths : List TypedPath}
    (h : kept.Pairwise fun a b => ¬ b.types.subset a.types) :
    (keepUncovered kept paths).Pairwise fun a b => ¬ b.types.subset a.types := by
  induction paths generalizing kept with
  | nil => exact h
  | cons p rest ih =>
    rw [keepUncovered]
    split
    · exact ih h
    · rename_i uncovered
      refine ih (List.pairwise_append.2 ⟨h, List.pairwise_singleton .., fun a ha b hb covered => ?_⟩)
      cases List.mem_singleton.1 hb
      exact uncovered (List.any_eq_true.2 ⟨a, ha, covered⟩)

/-- No reduced path has all types of another. -/
theorem reducePaths_incomparable (paths : List TypedPath) :
    (reducePaths paths).Pairwise TypedPath.Incomparable := by
  have uncovered : (reducePaths paths).Pairwise fun a b => ¬ b.types.subset a.types :=
    pairwise_keepUncovered List.Pairwise.nil
  refine ((reducePaths_sortedStably paths).decreasing.and uncovered).imp fun ⟨size, later⟩ => ⟨fun sub => ?_, later⟩
  exact absurd (NameSet.size_lt_size sub later) (Nat.not_lt_of_le size)

/-- Paths of which none has all types of an earlier one are all kept. -/
theorem keepUncovered_of_pairwise {kept paths : List TypedPath}
    (h : (kept ++ paths).Pairwise fun a b => ¬ b.types.subset a.types) :
    keepUncovered kept paths = kept ++ paths := by
  induction paths generalizing kept with
  | nil => exact (List.append_nil kept).symm
  | cons p rest ih =>
    have uncovered : ¬ kept.any fun k => p.types.subset k.types := by
      rw [List.any_eq_true]
      rintro ⟨k, hk, sub⟩
      exact (List.pairwise_append.1 h).2.2 k hk p List.mem_cons_self sub
    rw [keepUncovered, if_neg uncovered, ih (by rwa [List.append_assoc]), List.append_assoc]
    rfl

/-- Reducing reduced paths changes nothing. -/
theorem reducePaths_reducePaths (paths : List TypedPath) : reducePaths (reducePaths paths) = reducePaths paths := by
  have able : (reducePaths paths).filter TypedPath.applies = reducePaths paths :=
    List.filter_eq_self.2 fun p hp => types_nonempty_iff.2 (mem_of_reduce hp).2
  have sorted : (reducePaths paths).mergeSort TypedPath.notSmaller = reducePaths paths :=
    List.mergeSort_of_pairwise ((reducePaths_sortedStably paths).decreasing.imp fun size => decide_eq_true size)
  show keepUncovered [] (((reducePaths paths).filter TypedPath.applies).mergeSort TypedPath.notSmaller) = _
  rw [able, sorted]
  exact keepUncovered_of_pairwise ((reducePaths_incomparable paths).imp And.right)

/-! ### Composite types -/

/-- The possible types of a name can be told only if it is that of a composite type. -/
theorem Schema.composite_of_runtimeTypes {s : Schema} {name : String} {types : NameSet}
    (told : s.runtimeTypes name = .ok types) : ∃ type, s.find? name = some type ∧ type.body.isComposite := by
  unfold Schema.runtimeTypes at told
  split at told
  · cases told
  · rename_i type known
    refine ⟨type, known, ?_⟩
    obtain ⟨own, directives, body⟩ := type
    cases body <;> first | rfl | cases told

namespace Path

/-- The types that pass conditions can be told only if the conditions are composite types. -/
theorem composite_of_narrow {s : Schema} {conditions : List String} {types narrowed : NameSet}
    (told : narrow s types conditions = .ok narrowed) :
    ∀ c ∈ conditions, ∃ type, s.find? c = some type ∧ type.body.isComposite := by
  induction conditions generalizing types with
  | nil => exact fun c hc => by cases hc
  | cons c rest ih =>
    obtain ⟨admitted, hc, told⟩ := bind_ok told
    exact List.forall_mem_cons.2 ⟨Schema.composite_of_runtimeTypes hc, ih told⟩

/-- The types of a path can be told only if its whole chain is of composite types. -/
theorem composite_of_compatible {s : Schema} {p : Path} {types : NameSet} (told : p.compatible s = .ok types) :
    ∀ c ∈ p.chain, ∃ type, s.find? c = some type ∧ type.body.isComposite := by
  obtain ⟨own, hown, narrowed⟩ := bind_ok told
  exact List.forall_mem_cons.2 ⟨Schema.composite_of_runtimeTypes hown, composite_of_narrow narrowed⟩

end Path

/-! ### Accessors of reduced paths -/

namespace FieldAccess

variable {s : Schema} {name : String} {paths : List Path} {kept : List TypedPath}

/-- Paths can be reduced exactly if their chains have composite types only. -/
theorem reduced_iff_composite {a : FieldAccess} :
    (∃ kept, a.reduced s = .ok kept)
      ↔ ∀ p ∈ a.paths, ∀ c ∈ p.chain, ∃ type, s.find? c = some type ∧ type.body.isComposite := by
  constructor
  · rintro ⟨kept, reduced⟩ p hp
    obtain ⟨typed, resolved, -⟩ := bind_ok reduced
    obtain ⟨q, -, told⟩ := mapM_ok_left resolved p hp
    obtain ⟨types, told, -⟩ := bind_ok told
    exact Path.composite_of_compatible told
  · exact reduced_of_composite

/-- The accessor of the reduced paths has the same ones. -/
theorem reduced_again_eq (reduced : (fresh name paths).reduced s = .ok kept) :
    (fresh name (kept.map (·.path))).reduced s = .ok kept := by
  obtain ⟨typed, resolved, reduces⟩ := bind_ok reduced
  cases reduces
  have resolve_kept : ∀ kept : List TypedPath, (∀ p ∈ kept, p.path.compatible s = .ok p.types) →
      TypedPath.resolve s (kept.map (·.path)) = .ok kept := by
    intro kept told
    induction kept with
    | nil => rfl
    | cons p rest ih =>
      obtain ⟨hp, rest_told⟩ := List.forall_mem_cons.1 told
      have rest_resolved : TypedPath.resolve s (rest.map (·.path)) = .ok rest := ih rest_told
      rw [TypedPath.resolve] at rest_resolved ⊢
      rw [List.map_cons, List.mapM_cons, hp, rest_resolved]
      rfl
  have again : TypedPath.resolve s ((reducePaths typed).map TypedPath.path) = .ok (reducePaths typed) :=
    resolve_kept _ fun p hp => (compatible_of_mem_resolve resolved (mem_of_reduce hp).1).2
  show (do return reducePaths (← TypedPath.resolve s ((reducePaths typed).map TypedPath.path))) = _
  rw [again]
  exact congrArg Except.ok (reducePaths_reducePaths typed)

/-- Unless no path is left, the accessor of the reduced paths starts from the type that all paths started from. -/
theorem rootPossible_again (rooted : ∀ p ∈ paths, ∀ q ∈ paths, p.owner = q.owner)
    (reduced : (fresh name paths).reduced s = .ok kept) (left : kept ≠ []) :
    (fresh name (kept.map (·.path))).rootPossible s = (fresh name paths).rootPossible s := by
  obtain ⟨first, hfirst⟩ := List.exists_mem_of_ne_nil _ left
  have given : ∀ p ∈ kept, p.path ∈ paths := fun p hp => (mem_of_mem_reduced reduced hp).1
  have unread : ∀ paths, (fresh name paths).RootKept s := fun paths => (Built.fresh name paths).rootKept
  have from_first : ∀ p ∈ paths, p.owner = first.path.owner := fun p hp => rooted p hp _ (given first hfirst)
  have kept_from_first : ∀ path ∈ kept.map (·.path), path.owner = first.path.owner := by
    intro path hpath
    obtain ⟨p, hp, rfl⟩ := List.mem_map.1 hpath
    exact from_first _ (given p hp)
  rw [rootPossible_of_rooted (unread paths) from_first (List.ne_nil_of_mem (given first hfirst)),
    rootPossible_of_rooted (unread _) kept_from_first (List.ne_nil_of_mem (List.mem_map_of_mem hfirst))]

/-- Whether every type has the field is told of the reduced paths as of all. -/
theorem guaranteed_again (rooted : ∀ p ∈ paths, ∀ q ∈ paths, p.owner = q.owner)
    (reduced : (fresh name paths).reduced s = .ok kept) :
    (fresh name (kept.map (·.path))).guaranteed s = (fresh name paths).guaranteed s := by
  rw [FieldAccess.guaranteed, FieldAccess.guaranteed, reduced_again_eq reduced, reduced]
  cases kept with
  | nil => rfl
  | cons first rest => rw [rootPossible_again rooted reduced (List.cons_ne_nil first rest)]

/-- **Exact reduction**: paths can be reduced exactly if their chains have composite types only. Those kept are the
    stable sort, by decreasing number of compatible types, of the paths that have a compatible type, that no path
    exceeds, and that no earlier path with the same types precedes. No kept path has all types of another one, and
    together they have the types of all paths. If all paths start from one type, whatever is read of a new accessor
    of the kept paths is what is read of the accessor of all paths, value or failure; only the possible types of the
    owner cannot be told when no path is kept. -/
theorem reduction_is_exact (s : Schema) (name : String) (paths : List Path) :
    ((∃ kept, (fresh name paths).reduced s = .ok kept)
      ↔ ∀ p ∈ paths, ∀ c ∈ p.chain, ∃ type, s.find? c = some type ∧ type.body.isComposite)
    ∧ ∀ kept, (fresh name paths).reduced s = .ok kept →
      (∃ typed, TypedPath.resolve s paths = .ok typed
        ∧ ∀ sorted, SortedStably (survivors typed) sorted ↔ sorted = kept)
      ∧ kept.Pairwise TypedPath.Incomparable
      ∧ (∀ t, t ∈ coveredTypes kept ↔ ∃ p ∈ paths, p.Compatible s t)
      ∧ ((∀ p ∈ paths, ∀ q ∈ paths, p.owner = q.owner) → ∀ what, (what = .rootPossible → kept ≠ []) →
        (fresh name (kept.map (·.path))).read s what = (fresh name paths).read s what) := by
  refine ⟨reduced_iff_composite, fun kept reduced => ⟨?_, ?_, fun t => ?_, fun rooted what left => ?_⟩⟩
  · obtain ⟨typed, resolved, reduces⟩ := bind_ok reduced
    cases reduces
    refine ⟨typed, resolved, fun sorted => ⟨fun stable => stable.unique (reducePaths_sortedStably typed), ?_⟩⟩
    rintro rfl
    exact reducePaths_sortedStably typed
  · obtain ⟨typed, -, reduces⟩ := bind_ok reduced
    cases reduces
    exact reducePaths_incomparable typed
  · rw [mem_coveredTypes]
    exact (compatible_iff_mem_reduced (a := fresh name paths) reduced).symm
  · have again := (reduced_again_eq reduced).trans reduced.symm
    exact read_of_reduced (a := fresh name (kept.map (·.path))) (b := fresh name paths) rfl again
      (guaranteed_again rooted reduced) fun asked => rootPossible_again rooted reduced (left asked)

/-- Five selections behind an interface of three types: one below a narrower fragment, one below fragments that no type
    passes, and one as wide as an earlier one. Two are kept. -/
theorem reduction_of_five_selections :
    let s : Schema := ⟨[⟨"Node", [], .interface [] []⟩, ⟨"User", [], .object ["Node"] []⟩,
      ⟨"Bot", [], .object ["Node"] []⟩, ⟨"Org", [], .object ["Node"] []⟩,
      ⟨"Actor", [], .union ["User", "Bot"]⟩, ⟨"Agent", [], .union ["Bot", "Org"]⟩], [], none, none, none⟩
    let path (conditions : List String) : Path := ⟨"name", "str", "return login", "Node", conditions⟩
    let paths := [path ["User"], path ["Actor"], path ["User", "Org"], path ["Agent"], path ["Node", "Actor"]]
    let kept : List TypedPath := [⟨path ["Actor"], .ofList ["User", "Bot"]⟩, ⟨path ["Agent"], .ofList ["Bot", "Org"]⟩]
    (fresh "name" paths).reduced s = .ok kept ∧ kept.Pairwise TypedPath.Incomparable
      ∧ ∀ what, (fresh "name" (kept.map (·.path))).read s what = (fresh "name" paths).read s what := by
  intro s path paths kept
  have reduced : (fresh "name" paths).reduced s = .ok kept := by cbv
  have rooted : ∀ p ∈ paths, ∀ q ∈ paths, p.owner = q.owner := by decide
  obtain ⟨-, incomparable, -, again⟩ := (reduction_is_exact s "name" paths).2 kept reduced
  exact ⟨reduced, incomparable, fun what => again rooted what fun _ => List.cons_ne_nil _ _⟩

end FieldAccess

end OperationClasses
