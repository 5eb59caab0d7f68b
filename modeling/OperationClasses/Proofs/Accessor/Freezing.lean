/-
Module: OperationClasses.Proofs.Accessor.Freezing
Purpose: How long an accessor takes further paths, and whether what is read of it is what its paths say.
Main exports: CachingAccess.Use, CachingAccess.used, CachingAccess.Happened, CachingAccess.accumulates_then_freezes
-/
import OperationClasses.Proofs.Accessor.Caching

namespace OperationClasses

open FieldAccess

/-! ### What a reading leaves behind -/

namespace FieldAccess

variable {s : Schema} {a : FieldAccess} {types : NameSet}

theorem freeze_frozen :
    (a.freeze s).frozen = true ↔ a.frozen = true ∨ ∃ surviving, a.reduced s = .ok surviving := by
  cases reduced : a.reduced s with
  | error fault => simp [freeze_of_error reduced]
  | ok surviving => simp [freeze_of_ok reduced]

theorem keepRoot_frozen : (a.keepRoot s).frozen = a.frozen := by
  unfold keepRoot
  split <;> rfl

theorem askGuaranteed_frozen :
    (a.askGuaranteed s).frozen = true ↔ a.frozen = true ∨ ∃ surviving, a.reduced s = .ok surviving := by
  unfold askGuaranteed
  split
  · exact freeze_frozen
  · rw [keepRoot_frozen, freeze_frozen]
  · rename_i fault refused
    simp [refused]

/-- Any reading but that of the possible types of the owner freezes an accessor, if its paths can be reduced. -/
theorem observe_frozen (what : Derived) :
    (a.observe s what).frozen = true ↔
      a.frozen = true ∨ what ≠ .rootPossible ∧ ∃ surviving, a.reduced s = .ok surviving := by
  cases what with
  | reduced | impossible | branches => simpa [observe] using freeze_frozen
  | rootPossible =>
    simp only [observe]
    rw [keepRoot_frozen]
    simp
  | guaranteed | signature => simpa [observe] using askGuaranteed_frozen
  | body =>
    simp only [observe]
    split
    · simpa using askGuaranteed_frozen
    · simpa using freeze_frozen

/-- The possible types of the owner that are kept were kept before or could be told. -/
theorem rootPossible_of_keepRoot (kept : (a.keepRoot s).rootTypes = some types) :
    a.rootPossible s = .ok types := by
  cases read : a.rootPossible s with
  | error fault =>
    rw [keepRoot_of_error read] at kept
    rw [rootPossible, kept] at read
    cases read
  | ok types' =>
    rw [keepRoot_of_ok read] at kept
    rw [Option.some.inj kept]

/-- An accessor keeps the possible types of its owner from before, because they were read, or because it was frozen
    when it was asked whether all of them have the field. -/
theorem observe_rootTypes {what : Derived} (kept : (a.observe s what).rootTypes = some types) :
    a.rootTypes = some types
      ∨ a.rootPossible s = .ok types ∧ (what = .rootPossible ∨ (a.observe s what).frozen = true) := by
  have asked : (a.askGuaranteed s).rootTypes = some types → a.rootTypes = some types
      ∨ a.rootPossible s = .ok types ∧ (a.askGuaranteed s).frozen = true := by
    rw [askGuaranteed_frozen]
    unfold askGuaranteed
    split
    · rw [freeze_rootTypes]
      exact Or.inl
    · rename_i surviving _ reduced
      intro kept
      have read := rootPossible_of_keepRoot kept
      rw [rootPossible_freeze] at read
      exact Or.inr ⟨read, Or.inr ⟨_, reduced⟩⟩
    · exact Or.inl
  cases what with
  | reduced | impossible | branches =>
    simp only [observe] at kept
    rw [freeze_rootTypes] at kept
    exact Or.inl kept
  | rootPossible => exact Or.inr ⟨rootPossible_of_keepRoot kept, Or.inl rfl⟩
  | guaranteed | signature => exact (asked kept).imp_right fun h => ⟨h.1, Or.inr h.2⟩
  | body =>
    simp only [observe] at kept ⊢
    split at kept
    · exact (asked kept).imp_right fun h => ⟨h.1, Or.inr h.2⟩
    · rw [freeze_rootTypes] at kept
      exact Or.inl kept

/-- The possible types of the owner stay as they are kept. -/
theorem observe_rootTypes_of_kept (kept : a.rootTypes = some types) (what : Derived) :
    (a.observe s what).rootTypes = some types := by
  have again : ∀ b : FieldAccess, b.rootTypes = some types → (b.keepRoot s).rootTypes = some types := by
    intro b kept
    have read : b.rootPossible s = .ok types := by
      rw [rootPossible, kept]
      rfl
    rw [keepRoot_of_ok read]
  have frozen : (a.freeze s).rootTypes = some types := by rw [freeze_rootTypes, kept]
  rcases observe_cases a what with same | same | same | same
  · rw [same, kept]
  · rw [same, frozen]
  · rw [same, again a kept]
  · rw [same, again _ frozen]

/-- Anything but the possible types of the owner can be read only if the paths can be reduced. -/
theorem reduced_of_read {what : Derived} {value : what.Value} (differs : what ≠ .rootPossible)
    (read : a.read s what = .ok value) : ∃ surviving, a.reduced s = .ok surviving := by
  have of_impossible : ∀ {absent}, a.impossible s = .ok absent → ∃ surviving, a.reduced s = .ok surviving := by
    intro absent told
    obtain ⟨surviving, reduced, -⟩ := bind_ok told
    exact ⟨surviving, reduced⟩
  cases what with
  | reduced => exact ⟨value, read⟩
  | rootPossible => exact absurd rfl differs
  | impossible => exact of_impossible read
  | guaranteed | branches | signature =>
    obtain ⟨surviving, reduced, -⟩ := bind_ok read
    exact ⟨surviving, reduced⟩
  | body =>
    obtain ⟨d, chosen, -⟩ := bind_ok read
    obtain ⟨absent, told, -⟩ := bind_ok chosen
    exact of_impossible told

/-- The possible types of an owner that are not kept can be told only if all paths start from one type. -/
theorem rooted_of_rootPossible (unread : a.rootTypes = none) (read : a.rootPossible s = .ok types) :
    ∀ p ∈ a.paths, ∀ q ∈ a.paths, p.owner = q.owner := by
  rw [rootPossible, unread] at read
  simp only at read
  split at read
  · rename_i root single
    have one : ∀ p ∈ a.paths, p.owner = root := by
      intro p hp
      have listed : p.owner ∈ a.roots.toList := NameSet.mem_toList.2 (mem_roots.2 ⟨p, hp, rfl⟩)
      rw [single] at listed
      exact List.mem_singleton.1 listed
    exact fun p hp q hq => (one p hp).trans (one q hq).symm
  · cases read

end FieldAccess

/-! ### Uses of an accessor -/

namespace CachingAccess

/-- What can be done with an accessor. -/
inductive Use where
  | merge (other : FieldAccess)
  | read (what : Derived)
deriving Inhabited

/-- The accessor after a use, which may fail. -/
def use (s : Schema) (c : CachingAccess) : Use → CachingAccess
  | .merge other =>
    match c.merge other with
    | .ok merged => merged
    | .error _ => c
  | .read what => c.observe s what

/-- The accessor after any uses. -/
def used (s : Schema) (name : String) (paths : List Path) (uses : List Use) : CachingAccess :=
  uses.foldl (use s) (fresh name paths)

/-- Something was so when the accessor was read. -/
def Happened (at_ : List Use → Derived → Prop) (uses : List Use) : Prop :=
  ∃ earlier what later, uses = earlier ++ .read what :: later ∧ at_ earlier what

section Happened

variable {at_ : List Use → Derived → Prop} {uses : List Use}

/-- Something happened if it did before the last use, or if that was a reading and it was so then. -/
theorem happened_append {last : Use} :
    Happened at_ (uses ++ [last]) ↔ Happened at_ uses ∨ ∃ what, last = .read what ∧ at_ uses what := by
  constructor
  · rintro ⟨earlier, what, later, split, was⟩
    rcases List.eq_nil_or_concat later with rfl | ⟨later, u, rfl⟩
    · obtain ⟨rfl, same⟩ := List.append_inj' split rfl
      exact Or.inr ⟨what, List.singleton_inj.1 same, was⟩
    · rw [List.concat_eq_append, ← List.cons_append, ← List.append_assoc] at split
      exact Or.inl ⟨earlier, what, later, (List.append_inj' split rfl).1, was⟩
  · rintro (⟨earlier, what, later, rfl, was⟩ | ⟨what, rfl, was⟩)
    · exact ⟨earlier, what, later ++ [last], by rw [List.append_assoc, List.cons_append], was⟩
    · exact ⟨uses, what, [], rfl, was⟩

theorem happened_merge {other : FieldAccess} : Happened at_ (uses ++ [.merge other]) ↔ Happened at_ uses := by
  rw [happened_append]
  exact or_iff_left (by rintro ⟨_, ⟨⟩, _⟩)

theorem happened_read {what : Derived} :
    Happened at_ (uses ++ [.read what]) ↔ Happened at_ uses ∨ at_ uses what := by
  rw [happened_append]
  refine or_congr_right ⟨?_, fun was => ⟨what, rfl, was⟩⟩
  rintro ⟨_, ⟨⟩, was⟩
  exact was

theorem not_happened_nil : ¬ Happened at_ [] := by
  rintro ⟨earlier, what, later, split, -⟩
  exact absurd split (by simp)

end Happened

variable {s : Schema} {c : CachingAccess} {name : String} {paths : List Path} {uses : List Use}

theorem used_append (last : Use) : used s name paths (uses ++ [last]) = use s (used s name paths uses) last := by
  rw [used, List.foldl_append]
  rfl

/-! ### Merging -/

/-- An accessor takes further paths exactly if it is not frozen. -/
theorem merge_eq (c : CachingAccess) (other : FieldAccess) :
    c.merge other =
      if c.plain.frozen then .error (.pathsReduced c.name) else .ok { c with paths := c.paths ++ other.paths } :=
  rfl

theorem use_merge_of_frozen (frozen : c.plain.frozen = true) (other : FieldAccess) :
    use s c (.merge other) = c := by
  simp only [use]
  rw [merge_eq, if_pos frozen]

theorem use_merge_of_open (open_ : ¬ c.plain.frozen = true) (other : FieldAccess) :
    use s c (.merge other) = { c with paths := c.paths ++ other.paths } := by
  simp only [use]
  rw [merge_eq, if_neg open_]

/-- Whoever is not frozen keeps nothing but the possible types of its owner. -/
theorem Coherent.eq_rootPossible {what : Derived} {value : what.Value} (coherent : c.Coherent s)
    (open_ : ¬ c.plain.frozen = true) (kept : c.kept? what = some value) : what = .rootPossible := by
  obtain ⟨read, idle⟩ := coherent what value kept
  by_contra differs
  apply open_
  rw [← idle]
  exact (observe_frozen what).2 (Or.inr ⟨differs, reduced_of_read differs read⟩)

/-- What is kept stays right as an accessor takes further paths. -/
theorem Coherent.merge (coherent : c.Coherent s) (open_ : ¬ c.plain.frozen = true) (other : FieldAccess) :
    Coherent s { c with paths := c.paths ++ other.paths } := by
  intro what value kept
  have before : c.kept? what = some value := by cases what <;> exact kept
  obtain rfl := coherent.eq_rootPossible open_ before
  have types : c.rootTypes = some value := kept
  have read : FieldAccess.rootPossible s (plain { c with paths := c.paths ++ other.paths }) = .ok value := by
    simp only [plain, FieldAccess.rootPossible, types]
    rfl
  refine ⟨read, (keepRoot_of_ok read).trans ?_⟩
  simp only [plain, types]
  rfl

/-- Caches are coherent after any use. -/
theorem Coherent.use (coherent : c.Coherent s) (u : Use) : (use s c u).Coherent s := by
  cases u with
  | read what => exact (reading_answers coherent what).coherent
  | merge other =>
    by_cases frozen : c.plain.frozen = true
    · rwa [use_merge_of_frozen frozen]
    · rw [use_merge_of_open frozen]
      exact coherent.merge frozen other

theorem coherent_used (s : Schema) (name : String) (paths : List Path) (uses : List Use) :
    (used s name paths uses).Coherent s := by
  induction uses using List.reverseRecOn with
  | nil => exact .fresh name paths
  | append_singleton uses last ih =>
    rw [used_append]
    exact ih.use last

theorem plain_observe (coherent : c.Coherent s) (what : Derived) :
    (c.observe s what).plain = c.plain.observe s what :=
  (reading_answers coherent what).after

theorem read_eq (coherent : c.Coherent s) (what : Derived) : c.read s what = c.plain.read s what :=
  (reading_answers coherent what).result

theorem name_used : (used s name paths uses).plain.name = name := by
  induction uses using List.reverseRecOn with
  | nil => rfl
  | append_singleton uses last ih =>
    rw [used_append]
    cases last with
    | read what =>
      rw [use, plain_observe (coherent_used s name paths uses), (observe_name_paths s _ what).1, ih]
    | merge other =>
      by_cases frozen : (used s name paths uses).plain.frozen = true
      · rwa [use_merge_of_frozen frozen]
      · rw [use_merge_of_open frozen]
        exact ih

/-! ### Freezing -/

/-- At some time other than for the possible types of the owner alone, the accessor was read and its paths could be
    reduced. -/
def Froze (s : Schema) (name : String) (paths : List Path) : List Use → Prop :=
  Happened fun earlier what =>
    what ≠ .rootPossible ∧ ∃ surviving, (used s name paths earlier).read s .reduced = .ok surviving

/-- At some time the possible types of the owner were read. -/
def RootRead (s : Schema) (name : String) (paths : List Path) : List Use → Prop :=
  Happened fun earlier what =>
    what = .rootPossible ∧ ∃ types, (used s name paths earlier).read s .rootPossible = .ok types

/-- An accessor is frozen exactly if a reading froze it. -/
theorem frozen_used : (used s name paths uses).plain.frozen = true ↔ Froze s name paths uses := by
  induction uses using List.reverseRecOn with
  | nil => exact iff_of_false (by rintro ⟨⟩) not_happened_nil
  | append_singleton uses last ih =>
    have coherent := coherent_used s name paths uses
    rw [used_append]
    cases last with
    | read what =>
      rw [Froze, happened_read, ← Froze, ← ih, use, plain_observe coherent, observe_frozen, read_eq coherent]
      rfl
    | merge other =>
      rw [Froze, happened_merge, ← Froze, ← ih]
      by_cases frozen : (used s name paths uses).plain.frozen = true
      · rw [use_merge_of_frozen frozen]
      · rw [use_merge_of_open frozen]
        rfl

/-- An accessor that keeps the possible types of its owner was asked for them, or is frozen and its paths start from
    one type. -/
theorem rootTypes_used {types : NameSet} (kept : (used s name paths uses).plain.rootTypes = some types) :
    RootRead s name paths uses ∨ (used s name paths uses).plain.frozen = true
      ∧ ∀ p ∈ (used s name paths uses).plain.paths, ∀ q ∈ (used s name paths uses).plain.paths,
        p.owner = q.owner := by
  induction uses using List.reverseRecOn generalizing types with
  | nil => cases kept
  | append_singleton uses last ih =>
    have coherent := coherent_used s name paths uses
    rw [used_append] at kept ⊢
    cases last with
    | merge other =>
      rw [RootRead, happened_merge, ← RootRead]
      by_cases frozen : (used s name paths uses).plain.frozen = true
      · rw [use_merge_of_frozen frozen] at kept ⊢
        exact ih kept
      · rw [use_merge_of_open frozen] at kept ⊢
        exact (ih kept).imp_right fun closed => absurd closed.1 frozen
    | read what =>
      rw [RootRead, happened_read, ← RootRead]
      rw [use, plain_observe coherent] at kept ⊢
      rw [(observe_name_paths s _ what).2, observe_frozen]
      cases before : (used s name paths uses).plain.rootTypes with
      | some types' =>
        rcases ih before with asked | ⟨frozen, rooted⟩
        · exact Or.inl (Or.inl asked)
        · exact Or.inr ⟨Or.inl frozen, rooted⟩
      | none =>
        rcases observe_rootTypes kept with known | ⟨told, rfl | frozen⟩
        · rw [before] at known
          cases known
        · exact Or.inl (Or.inr ⟨rfl, types, (read_eq coherent _).trans told⟩)
        · exact Or.inr ⟨(observe_frozen what).1 frozen, rooted_of_rootPossible before told⟩

/-- Whose possible types of the owner were read keeps them. -/
theorem RootRead.kept (asked : RootRead s name paths uses) :
    ∃ types, (used s name paths uses).plain.rootTypes = some types := by
  induction uses using List.reverseRecOn with
  | nil => exact absurd asked not_happened_nil
  | append_singleton uses last ih =>
    have coherent := coherent_used s name paths uses
    rw [used_append]
    cases last with
    | merge other =>
      rw [RootRead, happened_merge, ← RootRead] at asked
      by_cases frozen : (used s name paths uses).plain.frozen = true
      · rw [use_merge_of_frozen frozen]
        exact ih asked
      · rw [use_merge_of_open frozen]
        exact ih asked
    | read what =>
      rw [RootRead, happened_read, ← RootRead] at asked
      rw [use, plain_observe coherent]
      rcases asked with before | ⟨rfl, types, read⟩
      · obtain ⟨types, kept⟩ := ih before
        exact ⟨types, observe_rootTypes_of_kept kept what⟩
      · rw [read_eq coherent] at read
        refine ⟨types, ?_⟩
        rw [FieldAccess.observe, keepRoot_of_ok read]

/-- Two paths start from different types, and at some time before the possible types of the owner were read. -/
def Stale (s : Schema) (name : String) (paths : List Path) (uses : List Use) : Prop :=
  RootRead s name paths uses
    ∧ ∃ p ∈ (used s name paths uses).paths, ∃ q ∈ (used s name paths uses).paths, p.owner ≠ q.owner

/-- The possible types of the owner that are kept are those of the owner of a path. -/
theorem rootKept_used : (used s name paths uses).plain.RootKept s := by
  induction uses using List.reverseRecOn with
  | nil => exact fun types kept => by cases kept
  | append_singleton uses last ih =>
    rw [used_append]
    cases last with
    | read what =>
      rw [use, plain_observe (coherent_used s name paths uses)]
      exact ih.observe what
    | merge other =>
      by_cases frozen : (used s name paths uses).plain.frozen = true
      · rwa [use_merge_of_frozen frozen]
      · rw [use_merge_of_open frozen]
        intro types kept
        obtain ⟨p, hp, read⟩ := ih types kept
        exact ⟨p, List.mem_append_left _ hp, read⟩

/-- The possible types of the owner are told as the paths say if none are kept, or all paths start from one type. -/
theorem rootPossible_eq_fresh {a : FieldAccess} (kept : a.RootKept s)
    (current : a.rootTypes = none ∨ ∀ p ∈ a.paths, ∀ q ∈ a.paths, p.owner = q.owner) :
    a.rootPossible s = (FieldAccess.fresh a.name a.paths).rootPossible s := by
  rcases known : a.rootTypes with _ | types
  · rw [FieldAccess.rootPossible, known]
    rfl
  · obtain ⟨p, hp, -⟩ := kept types known
    have rooted : ∀ q ∈ a.paths, q.owner = p.owner := by
      rcases current with unknown | rooted
      · rw [unknown] at known
        cases known
      · exact fun q hq => rooted q hq p hp
    have some_path := List.ne_nil_of_mem hp
    have unread : (FieldAccess.fresh a.name a.paths).RootKept s := fun types kept => by cases kept
    exact (rootPossible_of_rooted kept rooted some_path).trans
      (rootPossible_of_rooted unread rooted some_path).symm

/-- What is read is what a new accessor with the same paths would give, unless the possible types of the owner were
    read before paths came that start from another type. -/
theorem read_eq_fresh_iff :
    (∀ what, (used s name paths uses).read s what = (fresh name (used s name paths uses).paths).read s what)
      ↔ ¬ Stale s name paths uses := by
  have coherent := coherent_used s name paths uses
  have named : (used s name paths uses).plain.name = name := name_used
  constructor
  · rintro agree ⟨asked, p, hp, q, hq, differ⟩
    obtain ⟨types, kept⟩ := asked.kept
    have read : (used s name paths uses).plain.rootPossible s = .ok types := by
      rw [FieldAccess.rootPossible, kept]
      rfl
    have anew := agree .rootPossible
    rw [read_eq coherent, read_eq (.fresh name _)] at anew
    exact differ (rooted_of_rootPossible (a := (fresh name (used s name paths uses).paths).plain) rfl
      (anew.symm.trans read) p hp q hq)
  · intro current what
    rw [read_eq coherent, read_eq (.fresh name _)]
    refine read_congr (a := (used s name paths uses).plain) (b := (fresh name _).plain) named rfl ?_ what
    have kept : (used s name paths uses).plain.RootKept s := rootKept_used
    rw [rootPossible_eq_fresh kept, named]
    · rfl
    cases known : (used s name paths uses).plain.rootTypes with
    | none => exact Or.inl rfl
    | some types =>
      rcases rootTypes_used known with asked | ⟨-, rooted⟩
      · exact Or.inr fun p hp q hq => by_contra fun differ => current ⟨asked, p, hp, q, hq, differ⟩
      · exact Or.inr rooted

/-- **Accumulate, then freeze**: whatever was merged and read before, with or without success, everything that is read
    of an accessor is what a new one with the paths so far would give, unless the possible types of the owner were read
    before paths came that start from another type. Readings leave the paths as they are. Once one of them, other than
    that of the possible types of the owner, has reduced the paths, merging fails and changes nothing; before that, it
    adds the paths of the other accessor. -/
theorem accumulates_then_freezes (s : Schema) (name : String) (paths : List Path) (uses : List Use) :
    let c := used s name paths uses
    ((∀ what, c.read s what = (fresh name c.paths).read s what) ↔ ¬ Stale s name paths uses)
    ∧ (∀ what, (use s c (.read what)).paths = c.paths)
    ∧ (∀ other, Froze s name paths uses →
      c.merge other = .error (.pathsReduced name) ∧ use s c (.merge other) = c)
    ∧ ∀ other, ¬ Froze s name paths uses → ∃ merged, c.merge other = .ok merged
      ∧ use s c (.merge other) = merged ∧ merged.paths = c.paths ++ other.paths := by
  intro c
  have coherent : c.Coherent s := coherent_used s name paths uses
  have named : c.name = name := name_used (s := s)
  refine ⟨read_eq_fresh_iff, fun what => ?_, fun other froze => ?_, fun other open_ => ?_⟩
  · have after := plain_observe coherent what
    exact (congrArg FieldAccess.paths after).trans (observe_name_paths s c.plain what).2
  · have frozen := frozen_used.2 froze
    refine ⟨?_, use_merge_of_frozen frozen other⟩
    rw [merge_eq, if_pos frozen, named]
  · have open_ := mt frozen_used.1 open_
    exact ⟨_, if_neg open_, use_merge_of_open open_ other, rfl⟩

/-- After its possible types were read, an accessor of a user takes a path of an organization, and then still gives
    those of the user, where a new one complains. -/
example :
    let s : Schema := ⟨[⟨"User", [], .object [] []⟩, ⟨"Org", [], .object [] []⟩], [], none, none, none⟩
    let user : Path := ⟨"id", "str", "return 1", "User", []⟩
    let org : Path := ⟨"id", "str", "return 1", "Org", []⟩
    let c := used s "id" [user] [.read .rootPossible, .merge (.fresh "id" [org])]
    c.paths = [user, org] ∧ c.read s .rootPossible = .ok (.singleton "User")
      ∧ (fresh "id" c.paths).read s .rootPossible = .error (.differentRoots "id" ["Org", "User"]) := by
  refine ⟨?_, ?_, ?_⟩ <;> cbv

end CachingAccess

end OperationClasses
