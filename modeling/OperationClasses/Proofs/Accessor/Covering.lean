/-
Module: OperationClasses.Proofs.Accessor.Covering
Purpose: The types that the selections of a field cover. Whether all or none are covered is decided by all selections,
  also those that reduction drops, and the branches of an accessor divide the covered types among its conversions.
Main exports: sortBranches_increasing, FieldAccess.guarantee_is_coverage, FieldAccess.Contested, FieldAccess.Divides,
  FieldAccess.branches_divide_or_clash
-/
import OperationClasses.Proofs.Accessor.ExactReduction
import OperationClasses.Proofs.Accessor.Freezing

namespace OperationClasses

/-! ### The order of branches -/

/-- Whether branches share a type does not depend on their order. -/
theorem apart_iff_of_perm {bs cs : List Branch} (permuted : bs.Perm cs) :
    bs.Pairwise Branch.Apart ↔ cs.Pairwise Branch.Apart :=
  permuted.pairwise_iff fun h => Std.Symm.symm _ _ h

/-- Branches that share no type do not in the order they are written either. -/
theorem sortBranches_apart {branches : List Branch} (apart : branches.Pairwise Branch.Apart) :
    (sortBranches branches).Pairwise Branch.Apart :=
  (apart_iff_of_perm (sortBranches_perm branches)).2 apart

/-- Branches that share no type and have one are written in strictly increasing order of their types. -/
theorem sortBranches_increasing {branches : List Branch} (apart : branches.Pairwise Branch.Apart)
    (typed : ∀ b ∈ branches, ∃ t, t ∈ b.typenames) :
    (sortBranches branches).Pairwise fun a b => a.typenames.toList < b.typenames.toList := by
  have le_iff : ∀ a b : Branch, a.le b ↔ a.typenames.toList < b.typenames.toList
      ∨ a.typenames.toList = b.typenames.toList ∧ a.expression ≤ b.expression := by
    simp [Branch.le]
  have trans : ∀ a b c : Branch, a.le b → b.le c → a.le c := by
    intro a b c
    rw [le_iff, le_iff, le_iff]
    rintro (less | ⟨same, before⟩) (less' | ⟨same', before'⟩)
    · exact Or.inl (lt_trans less less')
    · exact Or.inl (same' ▸ less)
    · exact Or.inl (same ▸ less')
    · exact Or.inr ⟨same.trans same', le_trans before before'⟩
  have total : ∀ a b : Branch, a.le b || b.le a := by
    intro a b
    rw [Bool.or_eq_true, le_iff, le_iff]
    rcases lt_trichotomy a.typenames.toList b.typenames.toList with less | same | more
    · exact Or.inl (Or.inl less)
    · exact (le_total a.expression b.expression).imp (fun h => Or.inr ⟨same, h⟩) fun h => Or.inr ⟨same.symm, h⟩
    · exact Or.inr (Or.inl more)
  have sorted : (sortBranches branches).Pairwise fun a b => a.le b := List.pairwise_mergeSort trans total branches
  refine (sorted.and (sortBranches_apart apart)).imp_of_mem fun {a b} ha _ h => ?_
  rcases (le_iff a b).1 h.1 with less | ⟨same, -⟩
  · exact less
  · obtain ⟨t, ht⟩ := typed a (mem_sortBranches.1 ha)
    exact absurd (same ▸ ht : t ∈ b.typenames.toList) (h.2 t ht)

namespace FieldAccess

variable {s : Schema} {a : FieldAccess} {root t : String} {surviving : List TypedPath}

/-! ### Coverage -/

/-- Anything but the possible types of the owner can be told exactly if the paths can be reduced, given that it can be
    told when they are. -/
theorem told_iff_composite (what : Derived) (differs : what ≠ .rootPossible)
    (tells : ∀ surviving, a.reduced s = .ok surviving → ∃ value, a.read s what = .ok value) :
    (∃ value, a.read s what = .ok value)
      ↔ ∀ p ∈ a.paths, ∀ c ∈ p.chain, ∃ type, s.find? c = some type ∧ type.body.isComposite := by
  rw [← reduced_iff_composite]
  constructor
  · rintro ⟨value, told⟩
    exact reduced_of_read differs told
  · rintro ⟨surviving, reduced⟩
    exact tells surviving reduced

/-- A path survives exactly if some possible type of the owner is covered. -/
theorem surviving_ne_nil_iff (rooted : ∀ p ∈ a.paths, p.owner = root) (reduced : a.reduced s = .ok surviving) :
    surviving ≠ [] ↔ ∃ t, Possible s root t ∧ ∃ p ∈ a.paths, p.Compatible s t := by
  constructor
  · intro some_path
    obtain ⟨p, hp⟩ := List.exists_mem_of_ne_nil _ some_path
    obtain ⟨-, -, t, ht⟩ := mem_of_mem_reduced reduced hp
    exact ⟨t, possible_of_mem_reduced reduced rooted hp ht, (compatible_iff_mem_reduced reduced).2 ⟨p, hp, ht⟩⟩
  · rintro ⟨t, -, covered⟩
    obtain ⟨p, hp, -⟩ := (compatible_iff_mem_reduced reduced).1 covered
    exact List.ne_nil_of_mem hp

/-- **Guarantee is coverage**: whether an accessor whose paths all start from one type is guaranteed, and whether it
    is impossible, can be told exactly if the chains of its paths have composite types only. It is then guaranteed
    exactly if the type has possible types and each of them is compatible with one of the paths, and impossible
    exactly if none of them is compatible with any. -/
theorem guarantee_is_coverage (built : a.Built s) (rooted : ∀ p ∈ a.paths, p.owner = root) :
    ((∃ guaranteed, a.guaranteed s = .ok guaranteed)
      ↔ ∀ p ∈ a.paths, ∀ c ∈ p.chain, ∃ type, s.find? c = some type ∧ type.body.isComposite)
    ∧ ((∃ impossible, a.impossible s = .ok impossible)
      ↔ ∀ p ∈ a.paths, ∀ c ∈ p.chain, ∃ type, s.find? c = some type ∧ type.body.isComposite)
    ∧ (∀ guaranteed, a.guaranteed s = .ok guaranteed → (guaranteed = true
      ↔ (∃ t, Possible s root t) ∧ ∀ t, Possible s root t → ∃ p ∈ a.paths, p.Compatible s t))
    ∧ ∀ impossible, a.impossible s = .ok impossible → (impossible = true
      ↔ ∀ t, Possible s root t → ¬ ∃ p ∈ a.paths, p.Compatible s t) := by
  have kept := built.rootKept
  refine ⟨?_, ?_, ?_, ?_⟩
  · apply told_iff_composite .guaranteed (by simp)
    intro surviving reduced
    obtain ⟨guaranteed, told, -⟩ := guaranteed_iff kept rooted reduced
    exact ⟨guaranteed, told⟩
  · apply told_iff_composite .impossible (by simp)
    intro surviving reduced
    exact ⟨surviving.isEmpty, impossible_eq reduced⟩
  · intro guaranteed told
    obtain ⟨surviving, reduced, -⟩ := bind_ok told
    obtain ⟨guaranteed', told', covers⟩ := guaranteed_iff kept rooted reduced
    rw [told] at told'
    cases told'
    rw [covers, surviving_ne_nil_iff rooted reduced]
    simp only [← compatible_iff_mem_reduced reduced]
    constructor
    · rintro ⟨⟨t, possible, -⟩, all⟩
      exact ⟨⟨t, possible⟩, all⟩
    · rintro ⟨⟨t, possible⟩, all⟩
      exact ⟨⟨t, possible, all t possible⟩, all⟩
  · intro impossible told
    obtain ⟨surviving, reduced, -⟩ := bind_ok told
    rw [impossible_eq reduced] at told
    cases told
    have none_left := not_congr (surviving_ne_nil_iff rooted reduced)
    rw [List.isEmpty_iff, ← not_not (a := surviving = []), ← Ne.eq_def, none_left]
    simp only [not_exists, not_and]

/-- Three object types behind an interface, which two selections cover together. A third selection is dropped. -/
theorem guarantee_of_covering_fragments :
    let s : Schema := ⟨[⟨"Node", [], .interface [] []⟩, ⟨"User", [], .object ["Node"] []⟩,
      ⟨"Bot", [], .object ["Node"] []⟩, ⟨"Org", [], .object ["Node"] []⟩,
      ⟨"Agent", [], .union ["Bot", "Org"]⟩], [], none, none, none⟩
    let path (condition : String) : Path := ⟨"name", "str", "return login", "Node", [condition]⟩
    let a := fresh "name" [path "Bot", path "User", path "Agent"]
    a.Built s ∧ (∀ p ∈ a.paths, p.owner = "Node") ∧ a.guaranteed s = .ok true ∧ a.impossible s = .ok false
      ∧ (∀ t, Possible s "Node" t → ∃ p ∈ a.paths, p.Compatible s t)
      ∧ ¬ ∀ t, Possible s "Node" t → ¬ ∃ p ∈ a.paths, p.Compatible s t := by
  intro s path a
  have built : a.Built s := .fresh _ _
  have rooted : ∀ p ∈ a.paths, p.owner = "Node" := by decide
  have guaranteed : a.guaranteed s = .ok true := by cbv
  have possible : a.impossible s = .ok false := by cbv
  obtain ⟨-, -, all, none_⟩ := guarantee_is_coverage built rooted
  have covered := (all true guaranteed).1 rfl
  refine ⟨built, rooted, guaranteed, possible, covered.2, fun uncovered => ?_⟩
  exact absurd ((none_ false possible).2 uncovered) Bool.false_ne_true

/-! ### Branches -/

/-- A surviving path converts a type differently from another one that is compatible with it too. -/
def Contested (s : Schema) (surviving : List TypedPath) (t : String) : Prop :=
  ∃ p ∈ surviving, ∃ q ∈ surviving, p.path.expression ≠ q.path.expression
    ∧ p.path.Compatible s t ∧ q.path.Compatible s t

/-- Branches divide the types that the paths of an accessor are compatible with among its conversions. -/
structure Divides (s : Schema) (a : FieldAccess) (surviving : List TypedPath) (branches : List Branch) : Prop where
  /-- no two branches have the same conversion -/
  expressions : (branches.map (·.expression)).Nodup
  /-- no two branches share a type -/
  apart : branches.Pairwise Branch.Apart
  /-- each branch has a type -/
  typed : ∀ b ∈ branches, ∃ t, t ∈ b.typenames
  /-- together they have the types that some path, surviving or not, is compatible with -/
  covered : ∀ t, (∃ b ∈ branches, t ∈ b.typenames) ↔ ∃ p ∈ a.paths, p.Compatible s t
  /-- each has the types of the surviving paths with its conversion -/
  gathered : ∀ b ∈ branches, ∀ t, t ∈ b.typenames
    ↔ ∃ p ∈ surviving, p.path.expression = b.expression ∧ p.path.Compatible s t
  /-- they come in strictly increasing order of their type names -/
  increasing : branches.Pairwise fun a b => a.typenames.toList < b.typenames.toList

/-- The types of an overlap between branches are contested. -/
theorem contested_of_firstOverlap (reduced : a.reduced s = .ok surviving) {types : NameSet}
    (found : firstOverlap (branchesOf surviving) = some types) (ht : t ∈ types) : Contested s surviving t := by
  obtain ⟨b, c, within, rfl, -⟩ := firstOverlap_eq_some found
  obtain ⟨hbt, hct⟩ := NameSet.mem_inter.1 ht
  obtain ⟨p, hp, same, hpt⟩ := (mem_branchesOf_iff (within.subset List.mem_cons_self)).1 hbt
  obtain ⟨q, hq, same', hqt⟩ := (mem_branchesOf_iff (within.subset (List.mem_cons_of_mem _ List.mem_cons_self))).1 hct
  have differ : b.expression ≠ c.expression := by
    have distinct := (within.map Branch.expression).nodup (nodup_branchesOf surviving)
    simpa using distinct
  refine ⟨p, hp, q, hq, ?_, (mem_types_iff reduced hp).1 hpt, (mem_types_iff reduced hq).1 hqt⟩
  rwa [same, same']

/-- Branches share no type exactly if no type is contested. -/
theorem branchesOf_apart_iff_contested (reduced : a.reduced s = .ok surviving) :
    (branchesOf surviving).Pairwise Branch.Apart ↔ ¬ ∃ t, Contested s surviving t := by
  rw [branchesOf_apart_iff]
  apply not_congr
  constructor
  · rintro ⟨p, hp, q, hq, differ, t, hpt, hqt⟩
    exact ⟨t, p, hp, q, hq, differ, (mem_types_iff reduced hp).1 hpt, (mem_types_iff reduced hq).1 hqt⟩
  · rintro ⟨t, p, hp, q, hq, differ, hpt, hqt⟩
    exact ⟨p, hp, q, hq, differ, t, (mem_types_iff reduced hp).2 hpt, (mem_types_iff reduced hq).2 hqt⟩

/-- A branch of surviving paths has a type. -/
theorem exists_type_of_branch (reduced : a.reduced s = .ok surviving) {b : Branch} (hb : b ∈ branchesOf surviving) :
    ∃ t, t ∈ b.typenames :=
  exists_type_of_mem_branchesOf (fun _ hp => (mem_of_mem_reduced reduced hp).2.2) hb

/-- The branches of an accessor divide the types that its paths are compatible with. -/
theorem divides_of_apart (reduced : a.reduced s = .ok surviving)
    (apart : (branchesOf surviving).Pairwise Branch.Apart) :
    Divides s a surviving (sortBranches (branchesOf surviving)) := by
  constructor
  · have rearranged := (sortBranches_perm (branchesOf surviving)).map Branch.expression
    exact rearranged.nodup_iff.2 (nodup_branchesOf surviving)
  · exact sortBranches_apart apart
  · intro b hb
    exact exists_type_of_branch reduced (mem_sortBranches.1 hb)
  · intro t
    rw [compatible_iff_mem_reduced reduced]
    constructor
    · rintro ⟨b, hb, ht⟩
      obtain ⟨p, hp, -, hpt⟩ := (mem_branchesOf_iff (mem_sortBranches.1 hb)).1 ht
      exact ⟨p, hp, hpt⟩
    · rintro ⟨p, hp, hpt⟩
      obtain ⟨b, hb, -, ht⟩ := exists_mem_branchesOf.2 ⟨p, hp, rfl, hpt⟩
      exact ⟨b, mem_sortBranches.2 hb, ht⟩
  · intro b hb t
    rw [mem_branchesOf_iff (mem_sortBranches.1 hb)]
    apply exists_congr
    intro p
    apply and_congr_right
    intro hp
    rw [mem_types_iff reduced hp]
  · exact sortBranches_increasing apart fun b hb => exists_type_of_branch reduced hb

/-- **Branches divide or clash**: the branches of an accessor can be told exactly if its paths can be reduced and no
    type is contested by surviving paths. If a type is, the fault names contested types; otherwise the branches divide
    the types that the paths are compatible with. -/
theorem branches_divide_or_clash (s : Schema) (a : FieldAccess) :
    (∀ fault, a.reduced s = .error fault → a.branches s = .error fault)
    ∧ ∀ surviving, a.reduced s = .ok surviving →
      ((∃ fault, a.branches s = .error fault) ↔ ∃ t, Contested s surviving t)
      ∧ (∀ fault, a.branches s = .error fault → ∃ types, types ≠ []
        ∧ fault = .overlappingBranches a.name types ∧ ∀ t ∈ types, Contested s surviving t)
      ∧ ∀ branches, a.branches s = .ok branches → Divides s a surviving branches := by
  constructor
  · intro fault refused
    rw [branches, refused]
    rfl
  · intro surviving reduced
    have clash : ∀ fault, a.branches s = .error fault → ∃ types, types ≠ []
        ∧ fault = .overlappingBranches a.name types ∧ ∀ t ∈ types, Contested s surviving t := by
      intro fault fails
      obtain ⟨types, found, rfl⟩ := (branches_eq_error reduced).1 fails
      obtain ⟨-, -, -, -, t, ht⟩ := firstOverlap_eq_some found
      exact ⟨types.toList, List.ne_nil_of_mem ht, rfl, fun t ht => contested_of_firstOverlap reduced found ht⟩
    refine ⟨⟨?_, ?_⟩, clash, ?_⟩
    · rintro ⟨fault, fails⟩
      obtain ⟨types, some_, -, contested⟩ := clash fault fails
      obtain ⟨t, ht⟩ := List.exists_mem_of_ne_nil _ some_
      exact ⟨t, contested t ht⟩
    · intro contested
      cases told : a.branches s with
      | error fault => exact ⟨fault, rfl⟩
      | ok branches =>
        have apart := ((branches_eq_ok_iff reduced).1 told).1
        exact absurd contested ((branchesOf_apart_iff_contested reduced).1 apart)
    · intro branches told
      obtain ⟨apart, rfl⟩ := (branches_eq_ok_iff reduced).1 told
      exact divides_of_apart reduced apart

/-- Of three object types behind an interface two share a conversion. If selections with different conversions overlap
    in one of the types, the branches clash. -/
theorem branches_of_shared_conversion :
    let s : Schema := ⟨[⟨"Node", [], .interface [] []⟩, ⟨"User", [], .object ["Node"] []⟩,
      ⟨"Bot", [], .object ["Node"] []⟩, ⟨"Org", [], .object ["Node"] []⟩,
      ⟨"Actor", [], .union ["User", "Bot"]⟩, ⟨"Agent", [], .union ["Bot", "Org"]⟩], [], none, none, none⟩
    let path (condition conversion : String) : Path := ⟨"name", "str", conversion, "Node", [condition]⟩
    let apart := [path "User" "return login", path "Bot" "return label", path "Org" "return login"]
    let clashing := [path "Actor" "return login", path "Agent" "return label"]
    let branches := [⟨.singleton "Bot", "return label"⟩, ⟨.ofList ["Org", "User"], "return login"⟩]
    (∃ surviving, (fresh "name" apart).reduced s = .ok surviving
        ∧ (fresh "name" apart).branches s = .ok branches ∧ Divides s (fresh "name" apart) surviving branches)
      ∧ (∃ surviving, (fresh "name" clashing).reduced s = .ok surviving
        ∧ (fresh "name" clashing).branches s = .error (.overlappingBranches "name" ["Bot"])
        ∧ ∃ t, Contested s surviving t) := by
  intro s path apart clashing branches
  have divided : (fresh "name" apart).branches s = .ok branches := by cbv
  have clashed : (fresh "name" clashing).branches s = .error (.overlappingBranches "name" ["Bot"]) := by cbv
  constructor
  · obtain ⟨surviving, reduced, -⟩ := bind_ok divided
    exact ⟨surviving, reduced, divided, ((branches_divide_or_clash s _).2 surviving reduced).2.2 _ divided⟩
  · obtain ⟨surviving, reduced⟩ : ∃ surviving, (fresh "name" clashing).reduced s = .ok surviving := ⟨_, by cbv⟩
    exact ⟨surviving, reduced, clashed, ((branches_divide_or_clash s _).2 surviving reduced).1.1 ⟨_, clashed⟩⟩

end FieldAccess

end OperationClasses
