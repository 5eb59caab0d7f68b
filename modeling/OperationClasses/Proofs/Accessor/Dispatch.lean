/-
Module: OperationClasses.Proofs.Accessor.Dispatch
Purpose: An accessor converts for a runtime type what a surviving path with that type says, and has no value for
  the other types of its owner.
Main exports: FieldAccess.Built, FieldAccess.rootPossible_of_rooted, FieldAccess.mem_types_iff,
  FieldAccess.guaranteed_iff, FieldAccess.signature_eq_ok, FieldAccess.body_eq_ok_iff, FieldAccess.body_dispatches
-/
import Mathlib
import OperationClasses.Proofs.Accessor.Body
import OperationClasses.Proofs.Accessor.Branches

namespace OperationClasses

namespace FieldAccess

/-! ### Accessors in use -/

/-- Accessors that come about by merging and reading, in any order. -/
inductive Built (s : Schema) : FieldAccess → Prop where
  | fresh (name : String) (paths : List Path) : Built s (.fresh name paths)
  | merge {a other merged : FieldAccess} (built : Built s a) (success : a.merge other = .ok merged) :
      Built s merged
  | observe {a : FieldAccess} (built : Built s a) (what : Derived) : Built s (a.observe s what)

/-- The possible types of the owner that an accessor keeps are those of the owner of one of its paths. -/
def RootKept (s : Schema) (a : FieldAccess) : Prop :=
  ∀ types, a.rootTypes = some types → ∃ p ∈ a.paths, s.runtimeTypes p.owner = .ok types

@[simp] theorem freeze_paths (s : Schema) (a : FieldAccess) : (a.freeze s).paths = a.paths := by
  unfold freeze
  split <;> rfl

@[simp] theorem freeze_rootTypes (s : Schema) (a : FieldAccess) :
    (a.freeze s).rootTypes = a.rootTypes := by
  unfold freeze
  split <;> rfl

theorem RootKept.freeze {s : Schema} {a : FieldAccess} (h : a.RootKept s) :
    (a.freeze s).RootKept s := by
  intro types hroot
  rw [freeze_rootTypes] at hroot
  rw [freeze_paths]
  exact h types hroot

theorem mem_roots {a : FieldAccess} {root : String} :
    root ∈ a.roots ↔ ∃ p ∈ a.paths, p.owner = root := by
  unfold roots
  rw [NameSet.mem_ofList, List.mem_map]

theorem RootKept.keepRoot {s : Schema} {a : FieldAccess} (h : a.RootKept s) :
    (a.keepRoot s).RootKept s := by
  unfold FieldAccess.keepRoot
  split
  · rename_i types read
    intro types' hroot
    cases hroot
    unfold rootPossible at read
    split at read
    · rename_i kept
      cases read
      exact h types kept
    · split at read
      · rename_i root single
        have hroot : root ∈ a.roots := by
          rw [← NameSet.mem_toList, single]
          exact List.mem_singleton.2 rfl
        obtain ⟨p, hp, rfl⟩ := mem_roots.1 hroot
        exact ⟨p, hp, read⟩
      · cases read
  · exact h

theorem RootKept.askGuaranteed {s : Schema} {a : FieldAccess} (h : a.RootKept s) :
    (a.askGuaranteed s).RootKept s := by
  unfold FieldAccess.askGuaranteed
  split
  · exact h.freeze
  · exact h.freeze.keepRoot
  · exact h

/-- Reading keeps the kept types those of an owner. -/
theorem RootKept.observe {s : Schema} {a : FieldAccess} (h : a.RootKept s) (what : Derived) :
    (a.observe s what).RootKept s := by
  cases what with
  | rootPossible => exact h.keepRoot
  | guaranteed => exact h.askGuaranteed
  | signature => exact h.askGuaranteed
  | body =>
    simp only [FieldAccess.observe]
    split
    · exact h.askGuaranteed
    · exact h.freeze
  | reduced => exact h.freeze
  | impossible => exact h.freeze
  | branches => exact h.freeze

/-- A merged accessor has the paths of both and keeps what it has read. -/
theorem merge_eq_ok {a other merged : FieldAccess} (h : a.merge other = .ok merged) :
    a.frozen = false ∧ merged = { a with paths := a.paths ++ other.paths } := by
  unfold merge at h
  split at h
  · cases h
  · rename_i open_
    cases h
    exact ⟨Bool.eq_false_iff.2 open_, rfl⟩

/-- Whatever was merged and read, the kept types are those of an owner. -/
theorem Built.rootKept {s : Schema} {a : FieldAccess} (built : a.Built s) : a.RootKept s := by
  induction built with
  | fresh name paths => exact fun types h => by cases h
  | merge built success ih =>
    obtain ⟨-, rfl⟩ := merge_eq_ok success
    intro types kept
    obtain ⟨p, hp, h⟩ := ih types kept
    exact ⟨p, List.mem_append_left _ hp, h⟩
  | observe built what ih => exact ih.observe what

/-! ### What is derived when all paths start from one type -/

variable {s : Schema} {a : FieldAccess} {root : String} {surviving : List TypedPath}

/-- The possible types of the owner are those of the one type that the paths start from. -/
theorem rootPossible_of_rooted (kept : a.RootKept s) (rooted : ∀ p ∈ a.paths, p.owner = root)
    (some_path : a.paths ≠ []) : a.rootPossible s = s.runtimeTypes root := by
  unfold rootPossible
  split
  · rename_i types known
    obtain ⟨p, hp, read⟩ := kept types known
    rw [← rooted p hp, read]
    rfl
  · have single : a.roots = .singleton root := by
      apply NameSet.ext
      intro x
      rw [mem_roots, NameSet.mem_singleton]
      constructor
      · rintro ⟨p, hp, rfl⟩
        exact rooted p hp
      · rintro rfl
        obtain ⟨p, hp⟩ := List.exists_mem_of_ne_nil _ some_path
        exact ⟨p, hp, rooted p hp⟩
    rw [single]
    rfl

/-- A surviving path is one of the paths, has a type, and its types are compatible with it. -/
theorem mem_of_mem_reduced (reduced : a.reduced s = .ok surviving) {p : TypedPath} (hp : p ∈ surviving) :
    p.path ∈ a.paths ∧ p.path.compatible s = .ok p.types ∧ ∃ t, t ∈ p.types := by
  obtain ⟨resolved, hres, h⟩ := bind_ok reduced
  cases h
  obtain ⟨hp, some_type⟩ := mem_of_reduce hp
  obtain ⟨hpath, hc⟩ := compatible_of_mem_resolve hres hp
  exact ⟨hpath, hc, some_type⟩

/-- A type is one of a surviving path exactly if the path is compatible with it. -/
theorem mem_types_iff (reduced : a.reduced s = .ok surviving) {p : TypedPath} (hp : p ∈ surviving) {t : String} :
    t ∈ p.types ↔ p.path.Compatible s t := by
  obtain ⟨-, told, -⟩ := mem_of_mem_reduced reduced hp
  simp [Path.Compatible, told]

/-- Paths whose chains have composite types only can be reduced. -/
theorem reduced_of_composite
    (composites : ∀ p ∈ a.paths, ∀ c ∈ p.chain, ∃ t, s.find? c = some t ∧ t.body.isComposite) :
    ∃ surviving, a.reduced s = .ok surviving := by
  obtain ⟨resolved, resolves⟩ : ∃ resolved, TypedPath.resolve s a.paths = .ok resolved := by
    refine exists_mapM_ok fun p hp => ?_
    obtain ⟨types, compatible⟩ := Path.compatible_of_composite (composites p hp)
    exact ⟨⟨p, types⟩, by rw [compatible]; rfl⟩
  refine ⟨reducePaths resolved, ?_⟩
  rw [reduced, resolves]
  rfl

/-- A type is compatible with some path exactly if it is a type of a surviving one. -/
theorem compatible_iff_mem_reduced (reduced : a.reduced s = .ok surviving) {t : String} :
    (∃ p ∈ a.paths, p.Compatible s t) ↔ ∃ p ∈ surviving, t ∈ p.types := by
  obtain ⟨resolved, hres, h⟩ := bind_ok reduced
  cases h
  rw [covered_iff_reduce, compatible_iff_mem_resolve hres]

/-- The types of a surviving path are possible for the type that all paths start from. -/
theorem possible_of_mem_reduced (reduced : a.reduced s = .ok surviving)
    (rooted : ∀ p ∈ a.paths, p.owner = root) {p : TypedPath} (hp : p ∈ surviving) {t : String}
    (ht : t ∈ p.types) : Possible s root t := by
  obtain ⟨hpath, hc, -⟩ := mem_of_mem_reduced reduced hp
  rw [← rooted p.path hpath]
  exact Path.Compatible.possible ⟨p.types, hc, ht⟩

theorem impossible_eq (reduced : a.reduced s = .ok surviving) :
    a.impossible s = .ok surviving.isEmpty := by
  rw [impossible, reduced]
  rfl

/-- Whether every type has the field can be told, and it is so exactly if a path survives and every
    possible type of the owner is a type of a surviving path. -/
theorem guaranteed_iff (kept : a.RootKept s) (rooted : ∀ p ∈ a.paths, p.owner = root)
    (reduced : a.reduced s = .ok surviving) :
    ∃ guaranteed, a.guaranteed s = .ok guaranteed
      ∧ (guaranteed = true ↔ surviving ≠ []
        ∧ ∀ t, Possible s root t → ∃ p ∈ surviving, t ∈ p.types) := by
  cases surviving with
  | nil =>
    refine ⟨false, ?_, by simp⟩
    rw [guaranteed, reduced]
    rfl
  | cons first rest =>
    obtain ⟨hpath, hc, -⟩ := mem_of_mem_reduced reduced List.mem_cons_self
    obtain ⟨types, htypes, -⟩ := bind_ok hc
    rw [rooted _ hpath] at htypes
    have hroot := rootPossible_of_rooted kept rooted (List.ne_nil_of_mem hpath)
    refine ⟨types.subset (coveredTypes (first :: rest)), ?_, ?_⟩
    · rw [guaranteed, reduced]
      show (do return (← a.rootPossible s).subset (coveredTypes (first :: rest))) = _
      rw [hroot, htypes]
      rfl
    · rw [NameSet.subset_iff]
      simp only [mem_coveredTypes]
      constructor
      · intro h
        refine ⟨List.cons_ne_nil _ _, ?_⟩
        rintro t ⟨types', h', ht⟩
        rw [htypes] at h'
        cases h'
        exact h t ht
      · exact fun h t ht => h.2 t ⟨types, htypes, ht⟩

/-! ### Branches by type -/

/-- A type of a surviving path is served by one branch, with the conversion of that path. -/
theorem exists_branch (served : (branchesOf surviving).Pairwise Branch.Apart) {p : TypedPath}
    (hp : p ∈ surviving) {t : String} (ht : t ∈ p.types) :
    ∃ b, (sortBranches (branchesOf surviving)).find? (fun b => t ∈ b.typenames) = some b
      ∧ b.expression = p.path.expression := by
  obtain ⟨b, hb, same, hbt⟩ := exists_mem_branchesOf.2 ⟨p, hp, rfl, ht⟩
  cases found : (sortBranches (branchesOf surviving)).find? fun b => t ∈ b.typenames with
  | none =>
    have missed := List.find?_eq_none.1 found b (mem_sortBranches.2 hb)
    simp [hbt] at missed
  | some c =>
    have hct : t ∈ c.typenames := by simpa using List.find?_some found
    have hc := mem_sortBranches.1 (List.mem_of_find?_eq_some found)
    refine ⟨c, rfl, ?_⟩
    rw [eq_of_pairwise_apart served hc hb hct hbt, same]

/-- A type of no surviving path is served by no branch. -/
theorem no_branch {t : String} (unserved : ¬ ∃ p ∈ surviving, t ∈ p.types) :
    (sortBranches (branchesOf surviving)).find? (fun b => t ∈ b.typenames) = none := by
  rw [List.find?_eq_none]
  intro b hb hbt
  obtain ⟨p, hp, -, ht⟩ := (mem_branchesOf_iff (mem_sortBranches.1 hb)).1 (of_decide_eq_true hbt)
  exact unserved ⟨p, hp, ht⟩

/-- The choice between branches: without a test if there is one branch and every type has it. -/
def choiceOf (branches : List Branch) (guaranteed : Bool) : Dispatch :=
  match branches with
  | [b] => if guaranteed then .always b.expression else .guarded b
  | _ => .cases branches guaranteed

/-- An accessor with a surviving path chooses between its branches. -/
theorem dispatch_eq_ok {branches : List Branch} {guaranteed : Bool}
    (reduced : a.reduced s = .ok surviving) (hb : a.branches s = .ok branches)
    (hg : a.guaranteed s = .ok guaranteed) :
    a.dispatch s = .ok (if surviving.isEmpty then .absent else choiceOf branches guaranteed) := by
  rw [dispatch, impossible_eq reduced]
  show (if surviving.isEmpty then _ else _) = _
  split
  · rfl
  · rw [hb, hg]
    unfold choiceOf
    show (match branches with
      | [b] => _
      | _ => _) = _
    split <;> rfl

/-- The signature is written when the reduced paths are known and whether every type has the field. -/
theorem signature_eq_ok {guaranteed : Bool} (reduced : a.reduced s = .ok surviving)
    (hg : a.guaranteed s = .ok guaranteed) : a.signature s = .ok (signatureOf surviving guaranteed) := by
  rw [FieldAccess.signature, reduced, hg]
  rfl

/-- A body can be written exactly if the branches can be told and it can be told whether every type has the field. -/
theorem body_eq_ok_iff {text : String} (reduced : a.reduced s = .ok surviving) :
    a.body s = .ok text ↔ ∃ branches guaranteed, a.branches s = .ok branches ∧ a.guaranteed s = .ok guaranteed
      ∧ text = (if surviving.isEmpty then Dispatch.absent else choiceOf branches guaranteed).text a.name := by
  constructor
  · intro written
    obtain ⟨choice, chosen, spelled⟩ := bind_ok written
    have told : (∃ branches, a.branches s = .ok branches) ∧ ∃ guaranteed, a.guaranteed s = .ok guaranteed := by
      cases surviving with
      | nil =>
        rw [FieldAccess.branches, FieldAccess.guaranteed, reduced]
        exact ⟨⟨_, rfl⟩, _, rfl⟩
      | cons first rest =>
        rw [dispatch, impossible_eq reduced] at chosen
        change (a.branches s >>= _) = .ok choice at chosen
        obtain ⟨branches, listed, chosen⟩ := bind_ok chosen
        obtain ⟨guaranteed, told, -⟩ := bind_ok chosen
        exact ⟨⟨branches, listed⟩, guaranteed, told⟩
    obtain ⟨⟨branches, listed⟩, guaranteed, told⟩ := told
    rw [dispatch_eq_ok reduced listed told] at chosen
    cases chosen
    cases spelled
    exact ⟨branches, guaranteed, listed, told, rfl⟩
  · rintro ⟨branches, guaranteed, listed, told, rfl⟩
    rw [FieldAccess.body, dispatch_eq_ok reduced listed told]
    rfl

/-- A choice runs the conversion of the branch that serves a type. -/
theorem run_choiceOf_served {branches : List Branch} {guaranteed : Bool} {b : Branch} {t : String}
    (found : branches.find? (fun b => t ∈ b.typenames) = some b) :
    (choiceOf branches guaranteed).run t = .converts b.expression := by
  unfold choiceOf
  split
  · rename_i only
    rw [List.find?_singleton] at found
    split at found
    · rename_i ht
      cases found
      cases guaranteed with
      | true => rfl
      | false => simpa [Dispatch.run] using ht
    · cases found
  · simp [Dispatch.run, found]

/-- A choice that not every type has gives nothing to a type that no branch serves. -/
theorem run_choiceOf_unserved {branches : List Branch} {t : String}
    (found : branches.find? (fun b => t ∈ b.typenames) = none) :
    (choiceOf branches false).run t = .nothing := by
  unfold choiceOf
  split
  · rename_i only
    rw [List.find?_singleton] at found
    split at found
    · cases found
    · rename_i ht
      simpa [Dispatch.run] using ht
  · simp [Dispatch.run, found]

/-- A choice between several branches that every type has complains about a type that no branch serves. -/
theorem run_choiceOf_foreign {branches : List Branch} {t : String} (several : 2 ≤ branches.length)
    (found : branches.find? (fun b => t ∈ b.typenames) = none) :
    (choiceOf branches true).run t = .unexpected := by
  unfold choiceOf
  split
  · simp at several
  · simp [Dispatch.run, found]

/-! ### Bodies -/

/-- What the choice of an accessor does for a runtime type, by the surviving paths with that type. -/
theorem dispatch_runs {guaranteed : Bool} (reduced : a.reduced s = .ok surviving)
    (apart : (branchesOf surviving).Pairwise Branch.Apart)
    (hb : a.branches s = .ok (sortBranches (branchesOf surviving)))
    (hg : a.guaranteed s = .ok guaranteed) :
    ∃ d, a.dispatch s = .ok d
      ∧ (∀ p ∈ surviving, ∀ t ∈ p.types, d.run t = .converts p.path.expression)
      ∧ (∀ t, (¬ ∃ p ∈ surviving, t ∈ p.types) → surviving = [] ∨ guaranteed = false →
        d.run t = .nothing)
      ∧ (∀ t, (¬ ∃ p ∈ surviving, t ∈ p.types) → surviving ≠ [] → guaranteed = true →
        2 ≤ (sortBranches (branchesOf surviving)).length → d.run t = .unexpected) := by
  refine ⟨_, dispatch_eq_ok reduced hb hg, ?_, ?_, ?_⟩
  · intro p hp t ht
    obtain ⟨b, found, same⟩ := exists_branch apart hp ht
    rw [if_neg (by simpa using List.ne_nil_of_mem hp), run_choiceOf_served found, same]
  · intro t unserved none_or
    split
    · rfl
    · rename_i some_path
      have open_ : guaranteed = false := none_or.resolve_left (by simpa using some_path)
      rw [open_]
      exact run_choiceOf_unserved (no_branch unserved)
  · intro t unserved some_path all several
    rw [if_neg (by simpa using some_path), all]
    exact run_choiceOf_foreign several (no_branch unserved)

/-- A body does by runtime type what the selections of a field on values of `root` ask for. -/
structure Dispatches (s : Schema) (a : FieldAccess) (root : String) (branches : List Branch)
    (body : List Statement) : Prop where
  /-- a possible type that some selection is compatible with gets the conversion of a surviving selection
      compatible with it, and all surviving selections compatible with it have that conversion -/
  served : ∀ t, Possible s root t → (∃ p ∈ a.paths, p.Compatible s t) →
    ∃ surviving, a.reduced s = .ok surviving ∧ ∃ p ∈ surviving, p.path.Compatible s t
      ∧ Statement.runAll t false body = some (.converts p.path.expression)
      ∧ ∀ q ∈ surviving, q.path.Compatible s t → q.path.expression = p.path.expression
  /-- a possible type that no selection is compatible with gets nothing -/
  unserved : ∀ t, Possible s root t → (¬ ∃ p ∈ a.paths, p.Compatible s t) →
    Statement.runAll t false body = some .nothing
  /-- another type gets nothing if no type has the field or some type may lack it -/
  foreign : ∀ t, ¬ Possible s root t → a.impossible s = .ok true ∨ a.guaranteed s = .ok false →
    Statement.runAll t false body = some .nothing
  /-- another type is complained about if every type has the field and there are several branches -/
  unexpected : ∀ t, ¬ Possible s root t → a.guaranteed s = .ok true → 2 ≤ branches.length →
    Statement.runAll t false body = some .unexpected

/-- The body of an accessor whose paths all start from one type can be written whenever its branches can,
    and then dispatches by runtime type. -/
theorem body_dispatches {branches : List Branch} (built : a.Built s)
    (rooted : ∀ p ∈ a.paths, p.owner = root) (accepted : a.branches s = .ok branches) :
    ∃ body, a.body s = .ok (bodyText body) ∧ a.Dispatches s root branches body := by
  obtain ⟨surviving, reduced, apart, rfl⟩ := branches_eq_ok.1 accepted
  obtain ⟨guaranteed, hg, covers⟩ := guaranteed_iff built.rootKept rooted reduced
  obtain ⟨d, hd, served, unserved, foreign⟩ := dispatch_runs reduced apart accepted hg
  have types_of : ∀ q ∈ surviving, ∀ t, q.path.Compatible s t → t ∈ q.types := by
    rintro q hq t ⟨types, hc, ht⟩
    rw [(mem_of_mem_reduced reduced hq).2.1] at hc
    cases hc
    exact ht
  have outside : ∀ t, ¬ Possible s root t → ¬ ∃ p ∈ surviving, t ∈ p.types := by
    rintro t ht ⟨p, hp, hpt⟩
    exact ht (possible_of_mem_reduced reduced rooted hp hpt)
  refine ⟨d.statements a.name, ?_, ?_, ?_, ?_, ?_⟩
  · rw [body, hd, Dispatch.bodyText_statements]
    rfl
  · intro t _ compatible
    obtain ⟨p, hp, ht⟩ := (compatible_iff_mem_reduced reduced).1 compatible
    have converts := served p hp t ht
    refine ⟨surviving, reduced, p, hp, ⟨p.types, (mem_of_mem_reduced reduced hp).2.1, ht⟩, ?_, ?_⟩
    · rw [Dispatch.runAll_statements, converts]
    · intro q hq hqt
      have again := served q hq t (types_of q hq t hqt)
      rw [converts] at again
      exact (Outcome.converts.inj again).symm
  · intro t possible incompatible
    rw [Dispatch.runAll_statements]
    rw [compatible_iff_mem_reduced reduced] at incompatible
    refine congrArg some (unserved t incompatible (Or.inr ?_))
    by_contra all
    exact incompatible ((covers.1 (by simpa using all)).2 t possible)
  · intro t ht none_or
    rw [impossible_eq reduced, hg] at none_or
    rw [Dispatch.runAll_statements]
    refine congrArg some (unserved t (outside t ht) (none_or.imp ?_ Except.ok.inj))
    exact fun h => List.isEmpty_iff.1 (Except.ok.inj h)
  · intro t ht all several
    rw [hg] at all
    rw [Dispatch.runAll_statements]
    have all := Except.ok.inj all
    exact congrArg some (foreign t (outside t ht) (covers.1 all).1 all several)

/-- Three object types behind an interface, two of which select a field with conversions of their own. -/
theorem body_dispatches_two_of_three :
    let s : Schema := ⟨[⟨"Node", [], .interface [] []⟩, ⟨"User", [], .object ["Node"] []⟩,
      ⟨"Bot", [], .object ["Node"] []⟩, ⟨"Org", [], .object ["Node"] []⟩], [], none, none, none⟩
    let a := fresh "name" [⟨"name", "str", "return login", "Node", ["User"]⟩,
      ⟨"name", "str", "return label", "Node", ["Org"]⟩]
    let branches := [⟨.singleton "Org", "return label"⟩, ⟨.singleton "User", "return login"⟩]
    a.Built s ∧ (∀ p ∈ a.paths, p.owner = "Node") ∧ a.branches s = .ok branches
      ∧ ∃ body, a.body s = .ok (bodyText body) ∧ a.Dispatches s "Node" branches body := by
  intro s a branches
  have built : a.Built s := .fresh _ _
  have rooted : ∀ p ∈ a.paths, p.owner = "Node" := by decide
  have accepted : a.branches s = .ok branches := by cbv
  exact ⟨built, rooted, accepted, body_dispatches built rooted accepted⟩

end FieldAccess

end OperationClasses
