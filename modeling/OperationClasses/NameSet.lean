/-
Module: OperationClasses.NameSet
Purpose: Finite sets of names, kept as strictly increasing lists so that equal sets are equal values.
Main exports: NameSet, NameSet.ofList, NameSet.insert, NameSet.union, NameSet.inter, NameSet.subset,
  filter_mergeSort, pairwise_lt_mergeSort
-/

namespace OperationClasses

/-- A finite set of names in increasing order. -/
structure NameSet where
  toList : List String
  sorted : toList.Pairwise (· < ·) := by first | exact List.Pairwise.nil | decide
deriving DecidableEq

namespace NameSet

instance : Inhabited NameSet := ⟨⟨[], List.Pairwise.nil⟩⟩

instance : EmptyCollection NameSet := ⟨⟨[], List.Pairwise.nil⟩⟩

instance : Membership String NameSet := ⟨fun s name => name ∈ s.toList⟩

instance (name : String) (s : NameSet) : Decidable (name ∈ s) :=
  inferInstanceAs (Decidable (name ∈ s.toList))

theorem mem_toList {name : String} {s : NameSet} : name ∈ s.toList ↔ name ∈ s := Iff.rfl

/-- Puts a name into its place in an increasing list, unless it is there. -/
def insertSorted (name : String) : List String → List String
  | [] => [name]
  | head :: tail =>
    if name < head then name :: head :: tail
    else if name = head then head :: tail
    else head :: insertSorted name tail

@[simp] theorem mem_insertSorted {name x : String} {l : List String} :
    x ∈ insertSorted name l ↔ x = name ∨ x ∈ l := by
  induction l with
  | nil => simp [insertSorted]
  | cons head tail ih =>
    simp only [insertSorted]
    split
    · simp
    · split
      · rename_i h; subst h; simp
      · simp only [List.mem_cons, ih]; grind

theorem pairwise_insertSorted {name : String} {l : List String} (h : l.Pairwise (· < ·)) :
    (insertSorted name l).Pairwise (· < ·) := by
  induction l with
  | nil => simp [insertSorted]
  | cons head tail ih =>
    rw [List.pairwise_cons] at h
    simp only [insertSorted]
    split
    · rename_i lt
      refine List.pairwise_cons.2 ⟨fun x hx => ?_, List.pairwise_cons.2 h⟩
      rcases List.mem_cons.1 hx with rfl | hx
      · exact lt
      · exact String.lt_trans lt (h.1 x hx)
    · rename_i nlt
      split
      · exact List.pairwise_cons.2 h
      · rename_i ne
        refine List.pairwise_cons.2 ⟨fun x hx => ?_, ih h.2⟩
        rcases mem_insertSorted.1 hx with rfl | hx
        · exact Std.lt_of_le_of_ne (String.not_lt.1 nlt) (Ne.symm ne)
        · exact h.1 x hx

/-- The set with one more name. -/
def insert (name : String) (s : NameSet) : NameSet :=
  ⟨insertSorted name s.toList, pairwise_insertSorted s.sorted⟩

@[simp] theorem mem_insert {name x : String} {s : NameSet} : x ∈ s.insert name ↔ x = name ∨ x ∈ s :=
  mem_insertSorted

/-- The set of the names of a list. -/
def ofList (names : List String) : NameSet := names.foldr insert ∅

@[simp] theorem not_mem_empty {x : String} : ¬ x ∈ (∅ : NameSet) := List.not_mem_nil

@[simp] theorem mem_ofList {x : String} {names : List String} : x ∈ ofList names ↔ x ∈ names := by
  induction names with
  | nil => simp [ofList]
  | cons head tail ih =>
    rw [List.mem_cons, ← ih]
    exact mem_insert

/-- The set of one name. -/
def singleton (name : String) : NameSet := insert name ∅

@[simp] theorem mem_singleton {x name : String} : x ∈ singleton name ↔ x = name := by
  simp [singleton]

/-- The names of either set. -/
def union (s t : NameSet) : NameSet := s.toList.foldr insert t

instance : Union NameSet := ⟨union⟩

@[simp] theorem mem_union {x : String} {s t : NameSet} : x ∈ s ∪ t ↔ x ∈ s ∨ x ∈ t := by
  show x ∈ s.toList.foldr insert t ↔ x ∈ s.toList ∨ x ∈ t
  induction s.toList with
  | nil => simp
  | cons head tail ih => simp [ih, or_assoc]

/-- The names of a set that pass a test. -/
def filter (p : String → Bool) (s : NameSet) : NameSet :=
  ⟨s.toList.filter p, s.sorted.filter p⟩

@[simp] theorem mem_filter {x : String} {p : String → Bool} {s : NameSet} :
    x ∈ s.filter p ↔ x ∈ s ∧ p x := List.mem_filter

/-- The names of both sets. -/
def inter (s t : NameSet) : NameSet := s.filter (· ∈ t)

instance : Inter NameSet := ⟨inter⟩

@[simp] theorem mem_inter {x : String} {s t : NameSet} : x ∈ s ∩ t ↔ x ∈ s ∧ x ∈ t := by
  show x ∈ s.filter (· ∈ t) ↔ _
  simp

/-- Whether every name of the first set is in the second. -/
def subset (s t : NameSet) : Bool := s.toList.all (· ∈ t)

theorem subset_iff {s t : NameSet} : s.subset t ↔ ∀ x ∈ s, x ∈ t := by
  simp only [subset, List.all_eq_true, decide_eq_true_eq]; rfl

/-- Whether the set has no names. -/
def isEmpty (s : NameSet) : Bool := s.toList.isEmpty

/-- The number of names. -/
def size (s : NameSet) : Nat := s.toList.length

/-- Strictly increasing lists with the same members are the same list. -/
theorem eq_of_pairwise_of_mem_iff : ∀ {l m : List String},
    l.Pairwise (· < ·) → m.Pairwise (· < ·) → (∀ x, x ∈ l ↔ x ∈ m) → l = m
  | [], [], _, _, _ => rfl
  | [], y :: _, _, _, h => by have := (h y).2 (by simp); simp at this
  | x :: _, [], _, _, h => by have := (h x).1 (by simp); simp at this
  | x :: l, y :: m, hl, hm, h => by
    rw [List.pairwise_cons] at hl hm
    have hxy : x = y := by
      rcases List.mem_cons.1 ((h x).1 (by simp)) with e | hx
      · exact e
      · rcases List.mem_cons.1 ((h y).2 (by simp)) with e | hy
        · exact e.symm
        · exact absurd (String.lt_trans (hl.1 y hy) (hm.1 x hx)) (String.lt_irrefl x)
    subst hxy
    congr 1
    refine eq_of_pairwise_of_mem_iff hl.2 hm.2 fun z => ?_
    constructor
    · intro hz
      rcases List.mem_cons.1 ((h z).1 (by simp [hz])) with e | hz'
      · subst e; exact absurd (hl.1 z hz) (String.lt_irrefl z)
      · exact hz'
    · intro hz
      rcases List.mem_cons.1 ((h z).2 (by simp [hz])) with e | hz'
      · subst e; exact absurd (hm.1 z hz) (String.lt_irrefl z)
      · exact hz'

/-- Two sets with the same names are equal. -/
theorem ext {s t : NameSet} (h : ∀ x, x ∈ s ↔ x ∈ t) : s = t := by
  obtain ⟨l, hl⟩ := s
  obtain ⟨m, hm⟩ := t
  have : l = m := eq_of_pairwise_of_mem_iff hl hm h
  subst this
  rfl

end NameSet

/-! ### Sorting -/

section Sorting

variable {α : Type} (name : α → String) (xs : List α)

/-- Sorting leaves those in their order that may stand before each other. -/
theorem filter_mergeSort {le : α → α → Bool} (trans : ∀ a b c, le a b → le b c → le a c)
    (total : ∀ a b, le a b || le b a) (level : α → Bool) (tied : ∀ a b, level a → level b → le a b) :
    (xs.mergeSort le).filter level = xs.filter level := by
  have inOrder : (xs.filter level).Pairwise fun a b => le a b :=
    List.pairwise_iff_forall_sublist.2 fun {a b} both =>
      tied a b (List.mem_filter.1 (both.subset (by simp))).2 (List.mem_filter.1 (both.subset (by simp))).2
  have kept : ((xs.filter level).filter level).Sublist ((xs.mergeSort le).filter level) :=
    (List.sublist_mergeSort trans total inOrder List.filter_sublist).filter level
  rw [List.filter_filter] at kept
  simp only [Bool.and_self] at kept
  exact (kept.eq_of_length ((List.mergeSort_perm xs le).filter level).length_eq.symm).symm

/-- What is sorted by names has these in order. -/
theorem pairwise_le_mergeSort :
    (xs.mergeSort fun a b => decide (name a ≤ name b)).Pairwise fun a b => name a ≤ name b := by
  refine (List.pairwise_mergeSort ?_ ?_ xs).imp of_decide_eq_true
  · intro _ _ _ first later
    exact decide_eq_true (String.le_trans (of_decide_eq_true first) (of_decide_eq_true later))
  · intro a b
    rcases String.le_total (name a) (name b) with le | le <;> simp [le]

/-- If there is no name twice, every one is less than the next. -/
theorem pairwise_lt_mergeSort (distinct : (xs.map name).Nodup) :
    (xs.mergeSort fun a b => decide (name a ≤ name b)).Pairwise fun a b => name a < name b := by
  have apart : (xs.mergeSort fun a b => decide (name a ≤ name b)).Pairwise fun a b => name a ≠ name b := by
    rw [← List.pairwise_map (f := name) (R := (· ≠ ·))]
    exact ((List.mergeSort_perm _ _).map _).nodup_iff.2 distinct
  exact ((pairwise_le_mergeSort name xs).and apart).imp fun ⟨le, differ⟩ => Std.lt_of_le_of_ne le differ

end Sorting

end OperationClasses
