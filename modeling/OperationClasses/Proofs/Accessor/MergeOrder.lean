/-
Module: OperationClasses.Proofs.Accessor.MergeOrder
Purpose: The order in which the selections of a field were merged makes no difference to what is read of its accessor,
  as long as selections with the same types convert alike. Reduction keeps a path of each largest set of types, and
  everything else depends on these sets with their conversions and signatures only.
Main exports: TypedPath.Alike, Exchangeable, FieldAccess.reduced_exchangeable, FieldAccess.read_eq_ok_iff,
  FieldAccess.merge_order
-/
import OperationClasses.Proofs.Accessor.Covering

namespace OperationClasses

/-! ### Paths that stand for each other -/

/-- Two paths have the same types, conversion and signature. -/
structure TypedPath.Alike (p q : TypedPath) : Prop where
  types : p.types = q.types
  expression : p.path.expression = q.path.expression
  signature : p.path.signature = q.path.signature

/-- Each path of either list has one like it in the other. -/
structure Exchangeable (xs ys : List TypedPath) : Prop where
  left : ∀ p ∈ xs, ∃ q ∈ ys, p.Alike q
  right : ∀ q ∈ ys, ∃ p ∈ xs, p.Alike q

theorem TypedPath.Alike.symm {p q : TypedPath} (alike : p.Alike q) : q.Alike p :=
  ⟨alike.types.symm, alike.expression.symm, alike.signature.symm⟩

namespace Exchangeable

variable {xs ys : List TypedPath}

theorem symm (same : Exchangeable xs ys) : Exchangeable ys xs := by
  constructor
  · intro q hq
    obtain ⟨p, hp, alike⟩ := same.right q hq
    exact ⟨p, hp, alike.symm⟩
  · intro p hp
    obtain ⟨q, hq, alike⟩ := same.left p hp
    exact ⟨q, hq, alike.symm⟩

/-- What types, a conversion and a signature decide holds of a path of both lists or of neither. -/
theorem exists_iff (same : Exchangeable xs ys) (holds : NameSet → String → String → Prop) :
    (∃ p ∈ xs, holds p.types p.path.expression p.path.signature)
      ↔ ∃ q ∈ ys, holds q.types q.path.expression q.path.signature := by
  constructor
  · rintro ⟨p, hp, h⟩
    obtain ⟨q, hq, types, expression, signature⟩ := same.left p hp
    exact ⟨q, hq, by rwa [← types, ← expression, ← signature]⟩
  · rintro ⟨q, hq, h⟩
    obtain ⟨p, hp, types, expression, signature⟩ := same.right q hq
    exact ⟨p, hp, by rwa [types, expression, signature]⟩

theorem isEmpty_eq (same : Exchangeable xs ys) : xs.isEmpty = ys.isEmpty := by
  have some_iff := same.exists_iff fun _ _ _ => True
  simp only [and_true] at some_iff
  rw [Bool.eq_iff_iff, List.isEmpty_iff, List.isEmpty_iff]
  simpa only [List.eq_nil_iff_forall_not_mem, not_exists] using not_congr some_iff

theorem coveredTypes_eq (same : Exchangeable xs ys) : coveredTypes xs = coveredTypes ys := by
  apply NameSet.ext
  intro t
  rw [mem_coveredTypes, mem_coveredTypes]
  exact same.exists_iff fun types _ _ => t ∈ types

/-- Alternatives are told by which signatures there are. -/
theorem signatureOf_eq (same : Exchangeable xs ys) (guaranteed : Bool) :
    FieldAccess.signatureOf xs guaranteed = FieldAccess.signatureOf ys guaranteed := by
  have union_eq : ∀ f : String → String, FieldAccess.unionSignature (xs.map fun p => f p.path.signature)
      = FieldAccess.unionSignature (ys.map fun p => f p.path.signature) := by
    intro f
    have alternatives : NameSet.ofList (xs.map fun p => f p.path.signature)
        = NameSet.ofList (ys.map fun p => f p.path.signature) := by
      apply NameSet.ext
      intro x
      simp only [NameSet.mem_ofList, List.mem_map]
      exact same.exists_iff fun _ _ signature => f signature = x
    rw [FieldAccess.unionSignature, FieldAccess.unionSignature, alternatives]
  unfold FieldAccess.signatureOf
  rw [same.isEmpty_eq, union_eq FieldAccess.withoutOptional]
  rw [show xs.map (·.path.signature) = xs.map fun p => id p.path.signature from rfl, union_eq id]
  rfl

/-- A branch of one list is one of the other. -/
theorem mem_branchesOf (same : Exchangeable xs ys) {b : Branch} (hb : b ∈ branchesOf xs) : b ∈ branchesOf ys := by
  have named := mem_expressions_branchesOf.1 (List.mem_map_of_mem hb)
  rw [same.exists_iff fun _ expression _ => expression = b.expression, ← mem_expressions_branchesOf] at named
  obtain ⟨c, hc, expression⟩ := List.mem_map.1 named
  have types : c.typenames = b.typenames := by
    apply NameSet.ext
    intro t
    rw [mem_branchesOf_iff hb, mem_branchesOf_iff hc, expression]
    exact (same.exists_iff fun types e _ => e = b.expression ∧ t ∈ types).symm
  have equal : c = b := by
    cases b
    cases c
    simp_all
  rwa [← equal]

/-- The same branches are gathered, in whatever order. -/
theorem branchesOf_perm (same : Exchangeable xs ys) : (branchesOf xs).Perm (branchesOf ys) := by
  have nodup : ∀ paths : List TypedPath, (branchesOf paths).Nodup := fun paths =>
    List.Nodup.of_map _ (nodup_branchesOf paths)
  rw [List.perm_ext_iff_of_nodup (nodup xs) (nodup ys)]
  exact fun b => ⟨same.mem_branchesOf, same.symm.mem_branchesOf⟩

end Exchangeable

/-- Branches that share no type and have one are written in one order only. -/
theorem sortBranches_eq_of_perm {bs cs : List Branch} (permuted : bs.Perm cs) (apart : bs.Pairwise Branch.Apart)
    (typed : ∀ b ∈ bs, ∃ t, t ∈ b.typenames) : sortBranches bs = sortBranches cs := by
  have apart' : cs.Pairwise Branch.Apart := (apart_iff_of_perm permuted).1 apart
  have typed' : ∀ b ∈ cs, ∃ t, t ∈ b.typenames := fun b hb => typed b (permuted.mem_iff.2 hb)
  have sorted : (sortBranches bs).Perm (sortBranches cs) :=
    ((sortBranches_perm bs).trans permuted).trans (sortBranches_perm cs).symm
  apply List.Perm.eq_of_pairwise _ (sortBranches_increasing apart typed) (sortBranches_increasing apart' typed') sorted
  intro b c _ _ before after
  exact absurd (lt_trans before after) (lt_irrefl _)

/-! ### Reduction -/

/-- A kept path has one like it among those kept of the same paths in another order: the path that covers it there is
    covered by a kept path, which can only be the first one. -/
theorem exists_alike_of_mem_reducePaths {xs ys : List TypedPath} (members : ∀ p, p ∈ xs ↔ p ∈ ys)
    (agree : ∀ p ∈ xs, ∀ q ∈ xs, p.types = q.types → p.Alike q) {p : TypedPath} (hp : p ∈ reducePaths xs) :
    ∃ q ∈ reducePaths ys, p.Alike q := by
  obtain ⟨given, t, ht⟩ := mem_of_reduce hp
  obtain ⟨q, hq, sub⟩ := subset_of_reduce ((members p).1 given) ht
  have given' := (members q).2 (mem_of_reduce hq).1
  obtain ⟨k, hk, sub'⟩ := subset_of_reduce given' (sub t ht)
  have same : p = k := by
    by_contra other
    have incomparable := (reducePaths_incomparable xs).forall hp hk other
    exact incomparable.1 (NameSet.subset_iff.2 fun x hx => sub' x (sub x hx))
  subst same
  have types : p.types = q.types := NameSet.ext fun x => ⟨sub x, sub' x⟩
  exact ⟨q, hq, agree p given q given' types⟩

/-- The same paths in another order are reduced to paths that stand for each other, if paths with the same types do. -/
theorem reducePaths_exchangeable {xs ys : List TypedPath} (members : ∀ p, p ∈ xs ↔ p ∈ ys)
    (agree : ∀ p ∈ xs, ∀ q ∈ xs, p.types = q.types → p.Alike q) :
    Exchangeable (reducePaths xs) (reducePaths ys) := by
  constructor
  · intro p hp
    exact exists_alike_of_mem_reducePaths members agree hp
  · intro q hq
    have agree' : ∀ p ∈ ys, ∀ q ∈ ys, p.types = q.types → p.Alike q := fun p hp q hq =>
      agree p ((members p).2 hp) q ((members q).2 hq)
    obtain ⟨p, hp, alike⟩ := exists_alike_of_mem_reducePaths (fun p => (members p).symm) agree' hq
    exact ⟨p, hp, alike.symm⟩

namespace FieldAccess

variable {s : Schema} {a b : FieldAccess} {root : String} {xs ys : List TypedPath}

/-! ### What is read -/

/-- The paths of an accessor in another order are reduced to paths that stand for each other. -/
theorem reduced_exchangeable (permuted : a.paths.Perm b.paths)
    (agree : ∀ p ∈ a.paths, ∀ q ∈ a.paths, ∀ types, p.compatible s = .ok types → q.compatible s = .ok types →
      p.expression = q.expression ∧ p.signature = q.signature)
    (reduced : a.reduced s = .ok xs) : ∃ ys, b.reduced s = .ok ys ∧ Exchangeable xs ys := by
  obtain ⟨typed, resolved, reduces⟩ := bind_ok reduced
  cases reduces
  obtain ⟨typed', resolved'⟩ : ∃ typed', TypedPath.resolve s b.paths = .ok typed' := by
    apply exists_mapM_ok
    intro p hp
    obtain ⟨q, -, told⟩ := mapM_ok_left resolved p (permuted.mem_iff.2 hp)
    exact ⟨q, told⟩
  have members : ∀ p, p ∈ typed ↔ p ∈ typed' := by
    intro p
    rw [mem_resolve_iff resolved, mem_resolve_iff resolved', permuted.mem_iff]
  have alike : ∀ p ∈ typed, ∀ q ∈ typed, p.types = q.types → p.Alike q := by
    intro p hp q hq same
    obtain ⟨given, told⟩ := (mem_resolve_iff resolved p).1 hp
    obtain ⟨given', told'⟩ := (mem_resolve_iff resolved q).1 hq
    obtain ⟨expression, signature⟩ := agree _ given _ given' p.types told (same ▸ told')
    exact ⟨same, expression, signature⟩
  refine ⟨reducePaths typed', ?_, reducePaths_exchangeable members alike⟩
  rw [FieldAccess.reduced, resolved']
  rfl

/-- The possible types of the owner are told, or not, whatever the order of the paths. -/
theorem rootPossible_eq_of_perm (kept : a.RootKept s) (kept' : b.RootKept s) (name : a.name = b.name)
    (permuted : a.paths.Perm b.paths) (rooted : ∀ p ∈ a.paths, p.owner = root) :
    a.rootPossible s = b.rootPossible s := by
  have without : ∀ {c : FieldAccess}, c.RootKept s → c.paths = [] →
      c.rootPossible s = .error (.differentRoots c.name []) := by
    intro c kept none_
    cases known : c.rootTypes with
    | some types =>
      obtain ⟨p, hp, -⟩ := kept types known
      rw [none_] at hp
      cases hp
    | none =>
      rw [FieldAccess.rootPossible, known, roots, none_]
      rfl
  by_cases none_ : a.paths = []
  · have none' : b.paths = [] := (none_ ▸ permuted).nil_eq.symm
    rw [without kept none_, without kept' none', name]
  · have some' : b.paths ≠ [] := fun none' => none_ (none' ▸ permuted).eq_nil
    have rooted' : ∀ p ∈ b.paths, p.owner = root := fun p hp => rooted p (permuted.mem_iff.2 hp)
    rw [rootPossible_of_rooted kept rooted none_, rootPossible_of_rooted kept' rooted' some']

/-- What is read of an accessor, except the reduced paths themselves, is read of one whose reduced paths stand for
    them. -/
theorem read_eq_ok_iff (name : a.name = b.name) (root : a.rootPossible s = b.rootPossible s)
    (reduced : a.reduced s = .ok xs) (reduced' : b.reduced s = .ok ys) (same : Exchangeable xs ys) {what : Derived}
    (differs : what ≠ .reduced) (value : what.Value) : a.read s what = .ok value ↔ b.read s what = .ok value := by
  have impossible : a.impossible s = b.impossible s := by
    rw [impossible_eq reduced, impossible_eq reduced', same.isEmpty_eq]
  have guaranteed : a.guaranteed s = b.guaranteed s := by
    rw [FieldAccess.guaranteed, FieldAccess.guaranteed, reduced, reduced', root]
    show (if xs.isEmpty then _ else _) = (if ys.isEmpty then _ else _)
    rw [same.isEmpty_eq, same.coveredTypes_eq]
  have branches : ∀ bs, a.branches s = .ok bs ↔ b.branches s = .ok bs := by
    intro bs
    have permuted := same.branchesOf_perm
    rw [branches_eq_ok_iff reduced, branches_eq_ok_iff reduced', ← apart_iff_of_perm permuted]
    apply and_congr_right
    intro apart
    rw [sortBranches_eq_of_perm permuted apart fun b hb => exists_type_of_branch reduced hb]
  have signature : a.signature s = b.signature s := by
    rw [FieldAccess.signature, FieldAccess.signature, reduced, reduced', guaranteed]
    show (b.guaranteed s >>= fun guaranteed => pure (signatureOf xs guaranteed))
      = b.guaranteed s >>= fun guaranteed => pure (signatureOf ys guaranteed)
    simp only [same.signatureOf_eq]
  have body : ∀ text, a.body s = .ok text ↔ b.body s = .ok text := by
    intro text
    rw [body_eq_ok_iff reduced, body_eq_ok_iff reduced']
    simp only [branches, guaranteed, same.isEmpty_eq, name]
  cases what with
  | reduced => exact absurd rfl differs
  | rootPossible => exact Eq.congr_left root
  | impossible => exact Eq.congr_left impossible
  | guaranteed => exact Eq.congr_left guaranteed
  | branches => exact branches value
  | signature => exact Eq.congr_left signature
  | body => exact body value

/-- **Merge order**: two accessors of one name whose paths are the same in different order, all from one type, and
    agree in conversion and signature wherever they have the same compatible types, are read alike. Whatever is read
    of them except the reduced paths, the same value is read of both, or none of either. Whether they are impossible
    or guaranteed and their signature can be told if the chains of the paths have composite types only, and the body
    whenever the branches can. -/
theorem merge_order (built : a.Built s) (built' : b.Built s) (name : a.name = b.name)
    (permuted : a.paths.Perm b.paths) (rooted : ∀ p ∈ a.paths, p.owner = root)
    (agree : ∀ p ∈ a.paths, ∀ q ∈ a.paths, ∀ types, p.compatible s = .ok types → q.compatible s = .ok types →
      p.expression = q.expression ∧ p.signature = q.signature) :
    (∀ what, what ≠ .reduced → ∀ value, a.read s what = .ok value ↔ b.read s what = .ok value)
    ∧ ((∀ p ∈ a.paths, ∀ c ∈ p.chain, ∃ type, s.find? c = some type ∧ type.body.isComposite) →
      (∃ impossible, a.impossible s = .ok impossible) ∧ (∃ guaranteed, a.guaranteed s = .ok guaranteed)
        ∧ ∃ signature, a.signature s = .ok signature)
    ∧ ∀ branches, a.branches s = .ok branches → ∃ text, a.body s = .ok text := by
  have same_root := rootPossible_eq_of_perm built.rootKept built'.rootKept name permuted rooted
  refine ⟨?_, ?_, ?_⟩
  · intro what differs value
    cases reduced : a.reduced s with
    | ok xs =>
      obtain ⟨ys, reduced', same⟩ := reduced_exchangeable permuted agree reduced
      exact read_eq_ok_iff name same_root reduced reduced' same differs value
    | error fault =>
      have reducible : (∃ xs, a.reduced s = .ok xs) ↔ ∃ ys, b.reduced s = .ok ys := by
        rw [reduced_iff_composite, reduced_iff_composite]
        simp only [permuted.mem_iff]
      by_cases root : what = .rootPossible
      · subst root
        exact Eq.congr_left same_root
      · constructor
        · intro told
          exact absurd (reduced_of_read root told) (by simp [reduced])
        · intro told
          exact absurd (reducible.2 (reduced_of_read root told)) (by simp [reduced])
  · intro composites
    obtain ⟨surviving, reduced⟩ := reduced_iff_composite.2 composites
    obtain ⟨guaranteed, told, -⟩ := guaranteed_iff built.rootKept rooted reduced
    exact ⟨⟨_, impossible_eq reduced⟩, ⟨guaranteed, told⟩, _, signature_eq_ok reduced told⟩
  · intro branches listed
    obtain ⟨surviving, reduced, -⟩ := bind_ok listed
    obtain ⟨guaranteed, told, -⟩ := guaranteed_iff built.rootKept rooted reduced
    exact ⟨_, (body_eq_ok_iff reduced).2 ⟨branches, guaranteed, listed, told, rfl⟩⟩

/-- Two selections with the same types and one with fewer types, merged in two orders: different paths are kept, but
    the same branches and the same body are read. -/
theorem merge_order_of_four_selections :
    let s : Schema := ⟨[⟨"Node", [], .interface [] []⟩, ⟨"User", [], .object ["Node"] []⟩,
      ⟨"Bot", [], .object ["Node"] []⟩, ⟨"Org", [], .object ["Node"] []⟩,
      ⟨"Agent", [], .union ["Bot", "Org"]⟩], [], none, none, none⟩
    let path (conditions : List String) (conversion : String) : Path := ⟨"name", "str", conversion, "Node", conditions⟩
    let paths := [path ["User"] "return login", path ["Bot"] "return tag", path ["Agent"] "return label",
      path ["Node", "User"] "return login"]
    let a := fresh "name" paths
    let b := fresh "name" paths.reverse
    let branches := [⟨.ofList ["Bot", "Org"], "return label"⟩, ⟨.singleton "User", "return login"⟩]
    a.Built s ∧ b.Built s ∧ a.name = b.name ∧ a.paths.Perm b.paths ∧ (∀ p ∈ a.paths, p.owner = "Node")
      ∧ (∀ p ∈ a.paths, ∀ q ∈ a.paths, ∀ types, p.compatible s = .ok types → q.compatible s = .ok types →
        p.expression = q.expression ∧ p.signature = q.signature)
      ∧ a.reduced s = .ok [⟨path ["Agent"] "return label", .ofList ["Bot", "Org"]⟩,
        ⟨path ["User"] "return login", .singleton "User"⟩]
      ∧ b.reduced s = .ok [⟨path ["Agent"] "return label", .ofList ["Bot", "Org"]⟩,
        ⟨path ["Node", "User"] "return login", .singleton "User"⟩]
      ∧ a.branches s = .ok branches ∧ b.branches s = .ok branches
      ∧ (∃ text, a.body s = .ok text ∧ b.body s = .ok text) := by
  intro s path paths a b branches
  have built : a.Built s := .fresh _ _
  have built' : b.Built s := .fresh _ _
  have permuted : a.paths.Perm b.paths := (List.reverse_perm paths).symm
  have rooted : ∀ p ∈ a.paths, p.owner = "Node" := by decide
  have same_types : ∀ p ∈ paths, ∀ q ∈ paths, p.compatible s = q.compatible s →
      p.expression = q.expression ∧ p.signature = q.signature := by decide +kernel
  have agree : ∀ p ∈ a.paths, ∀ q ∈ a.paths, ∀ types, p.compatible s = .ok types → q.compatible s = .ok types →
      p.expression = q.expression ∧ p.signature = q.signature := by
    intro p hp q hq types told told'
    exact same_types p hp q hq (told.trans told'.symm)
  have listed : a.branches s = .ok branches := by cbv
  obtain ⟨alike, -, written⟩ := merge_order built built' rfl permuted rooted agree
  obtain ⟨text, body⟩ := written branches listed
  refine ⟨built, built', rfl, permuted, rooted, agree, ?_, ?_, listed, ?_, text, body, ?_⟩
  · cbv
  · cbv
  · exact (alike .branches (by simp) branches).1 listed
  · exact (alike .body (by simp) text).1 body

end FieldAccess

end OperationClasses
