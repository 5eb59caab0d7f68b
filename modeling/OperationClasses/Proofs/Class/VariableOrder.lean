/-
Module: OperationClasses.Proofs.Class.VariableOrder
Purpose: The order of variables, which looks at less than their equality does: for which variables the comparisons are
  those of a total order, and whether sorting depends on the order in which variables are given.
Main exports: Variable.sortKey, Variable.lt_iff, Variable.gt_and_gt_iff, Variable.pairwise_sort, Variable.filter_sort,
  Variable.TotallyOrdered, Variable.order_total_tfae
-/
import Mathlib
import OperationClasses.NameSet
import OperationClasses.Variable

namespace OperationClasses.Variable

variable {a b x y : Variable} {vs ws : List Variable}

/-! ### Comparisons -/

/-- What the order of variables looks at: whether a variable may be left out, and its name. -/
def sortKey (v : Variable) : Bool ×ₗ String := toLex (v.optional, v.name)

theorem lt_iff : a.lt b ↔ a.sortKey < b.sortKey := by
  rw [sortKey, sortKey, Prod.Lex.toLex_lt_toLex, lt]
  cases a.optional <;> cases b.optional <;> simp

theorem ge_iff : a.ge b ↔ b.sortKey ≤ a.sortKey := by
  rw [ge, Bool.not_eq_true', ← Bool.not_eq_true, lt_iff, not_lt]

theorem gt_iff : a.gt b ↔ b.sortKey ≤ a.sortKey ∧ a ≠ b := by
  rw [gt, Bool.and_eq_true, bne_iff_ne]
  exact and_congr_left' ge_iff

theorem le_iff : a.le b ↔ a.sortKey < b.sortKey ∨ a = b := by
  rw [le, Bool.or_eq_true, lt_iff, beq_iff_eq]

/-- Of any two variables the one is before the other, equal to it or after it, and no two of these. -/
theorem lt_or_eq_or_gt (a b : Variable) :
    (a.lt b ∧ a ≠ b ∧ ¬ a.gt b) ∨ (¬ a.lt b ∧ a = b ∧ ¬ a.gt b) ∨ (¬ a.lt b ∧ a ≠ b ∧ a.gt b) := by
  rw [gt_iff, lt_iff, not_lt]
  rcases eq_or_ne a b with rfl | other
  · exact .inr (.inl ⟨le_rfl, rfl, fun after => after.2 rfl⟩)
  · rcases lt_or_ge a.sortKey b.sortKey with before | after
    · exact .inl ⟨before, other, fun after => absurd before (not_lt.2 after.1)⟩
    · exact .inr (.inr ⟨after, other, after, other⟩)

/-- Two variables are after each other exactly if they differ and the order does not tell them apart. -/
theorem gt_and_gt_iff : a.gt b ∧ b.gt a ↔ a ≠ b ∧ a.sortKey = b.sortKey := by
  rw [gt_iff, gt_iff]
  constructor
  · rintro ⟨⟨ba, other⟩, ab, -⟩
    exact ⟨other, le_antisymm ab ba⟩
  · rintro ⟨other, same⟩
    exact ⟨⟨same.ge, other⟩, same.le, other.symm⟩

/-- A variable may stand before another one exactly if it is required or the other one is not, and if its name is not
    the later one of two that agree in this. -/
theorem not_lt_iff : (!y.lt x) = true ↔ (x.optional → y.optional) ∧ (x.optional = y.optional → x.name ≤ y.name) := by
  unfold lt
  rcases x.optional <;> rcases y.optional <;> simp [← String.not_lt]

/-! ### Sorting -/

theorem notAfter_trans (x y z : Variable) (first : !y.lt x) (second : !z.lt y) : !z.lt x :=
  ge_iff.2 (le_trans (ge_iff.1 first) (ge_iff.1 second))

theorem notAfter_total (x y : Variable) : !y.lt x || !x.lt y := by
  rw [Bool.or_eq_true]
  exact (le_total x.sortKey y.sortKey).imp ge_iff.2 ge_iff.2

theorem pairwise_sort (vs : List Variable) : (sort vs).Pairwise fun x y => (!y.lt x) = true :=
  List.pairwise_mergeSort notAfter_trans notAfter_total vs

theorem sort_perm (vs : List Variable) : (sort vs).Perm vs := List.mergeSort_perm vs _

/-- In whichever order variables are given, what the order looks at is the same at every place of the sorted list. -/
theorem map_sortKey_sort_of_perm (perm : ws.Perm vs) : (sort ws).map sortKey = (sort vs).map sortKey := by
  have sorted (us : List Variable) : ((sort us).map sortKey).Pairwise (· ≤ ·) :=
    List.pairwise_map.2 ((pairwise_sort us).imp ge_iff.1)
  refine List.Perm.eq_of_pairwise (fun _ _ _ _ => le_antisymm) (sorted ws) (sorted vs) (List.Perm.map _ ?_)
  exact (sort_perm ws).trans (perm.trans (sort_perm vs).symm)

/-- Variables that the order does not tell apart keep the order in which they are given. -/
theorem filter_sort (vs : List Variable) (key : Bool ×ₗ String) :
    (sort vs).filter (·.sortKey = key) = vs.filter (·.sortKey = key) := by
  refine filter_mergeSort vs notAfter_trans notAfter_total _ fun x y key_x key_y => ?_
  have same : x.sortKey = y.sortKey := (of_decide_eq_true key_x).trans (of_decide_eq_true key_y).symm
  exact ge_iff.2 same.le

/-! ### Total orders -/

/-- The comparisons of some variables are those of a total order of them. -/
def TotallyOrdered (vs : List Variable) : Prop :=
  ∃ order : LinearOrder {v // v ∈ vs}, ∀ a b : {v // v ∈ vs},
    (a.1.lt b ↔ order.lt a b) ∧ (a.1.le b ↔ order.le a b) ∧ (a.1.gt b ↔ order.lt b a) ∧ (a.1.ge b ↔ order.le b a)

/-- Variables that differ in what the order looks at are ordered totally. -/
theorem totallyOrdered_of_sortKey (apart : ∀ a ∈ vs, ∀ b ∈ vs, a.sortKey = b.sortKey → a = b) : TotallyOrdered vs := by
  have injective : Function.Injective fun v : {v // v ∈ vs} => v.1.sortKey :=
    fun a b same => Subtype.ext (apart a a.2 b b.2 same)
  refine ⟨LinearOrder.lift' _ injective, fun a b => ⟨lt_iff, ?_, ?_, ge_iff⟩⟩
  · rw [le_iff, ← Subtype.ext_iff, ← injective.eq_iff]
    exact le_iff_lt_or_eq.symm
  · rw [gt_iff, Ne, ← Subtype.ext_iff, ← injective.eq_iff, eq_comm]
    exact lt_iff_le_and_ne.symm

/-- In a total order, variables that are neither before nor after each other are equal. -/
theorem TotallyOrdered.eq_of_ge (total : TotallyOrdered vs) (ha : a ∈ vs) (hb : b ∈ vs) (ab : a.ge b) (ba : b.ge a) :
    a = b := by
  obtain ⟨order, same⟩ := total
  have below := (same ⟨a, ha⟩ ⟨b, hb⟩).2.2.2.1 ab
  have above := (same ⟨b, hb⟩ ⟨a, ha⟩).2.2.2.1 ba
  exact congrArg Subtype.val (order.le_antisymm _ _ above below)

/-- Where only equal variables are not before each other, there is one sorted list of them. -/
theorem sort_eq_of_perm (antisymm : ∀ a ∈ vs, ∀ b ∈ vs, a.ge b → b.ge a → a = b) (perm : ws.Perm vs) :
    sort ws = sort vs := by
  have same : (sort ws).Perm (sort vs) := (sort_perm ws).trans (perm.trans (sort_perm vs).symm)
  refine same.eq_of_pairwise (fun a b ha hb ab ba => ?_) (pairwise_sort ws) (pairwise_sort vs)
  exact antisymm a ((sort_perm vs).subset (same.subset ha)) b ((sort_perm vs).subset hb) ba ab

/-- Two variables that the order does not tell apart are sorted one way if the one is given first, and the other way if the
    other one is. -/
theorem eq_of_sort_eq (same : ∀ ws, ws.Perm vs → sort ws = sort vs) (ha : a ∈ vs) (hb : b ∈ vs)
    (tied : a.sortKey = b.sortKey) : a = b := by
  have first (v : Variable) (hv : v ∈ vs) (key : v.sortKey = a.sortKey) :
      ((sort vs).filter (·.sortKey = a.sortKey)).head? = some v := by
    rw [← same _ (List.perm_cons_erase hv).symm, filter_sort, List.filter_cons_of_pos (by simpa using key)]
    rfl
  exact Option.some.inj ((first a ha rfl).symm.trans (first b hb tied.symm))

/-- **The order of variables.** Of any two variables the one is before the other, equal to it or after it, and no two of
    these, but each of two is after the other if they differ and the order does not tell them apart. The comparisons of
    some variables are those of a total order of them exactly if there are no such two, exactly if only equal ones are not
    before each other, and exactly if it makes no difference for the sorted list in which order they are given. What the
    order looks at is the same in that list in any case. -/
theorem order_total_tfae (vs : List Variable) :
    (∀ a b : Variable, (a.lt b ∧ a ≠ b ∧ ¬ a.gt b) ∨ (¬ a.lt b ∧ a = b ∧ ¬ a.gt b) ∨ (¬ a.lt b ∧ a ≠ b ∧ a.gt b))
      ∧ (∀ a b : Variable, a.gt b ∧ b.gt a ↔ a ≠ b ∧ a.sortKey = b.sortKey)
      ∧ (∀ ws, ws.Perm vs → (sort ws).map sortKey = (sort vs).map sortKey)
      ∧ List.TFAE [
        ∀ a ∈ vs, ∀ b ∈ vs, a.sortKey = b.sortKey → a = b,
        TotallyOrdered vs,
        ∀ a ∈ vs, ∀ b ∈ vs, a.ge b → b.ge a → a = b,
        ∀ ws, ws.Perm vs → sort ws = sort vs] := by
  refine ⟨lt_or_eq_or_gt, fun a b => gt_and_gt_iff, fun ws => map_sortKey_sort_of_perm, ?_⟩
  tfae_have 1 → 2 := totallyOrdered_of_sortKey
  tfae_have 2 → 3 := fun total a ha b hb => total.eq_of_ge ha hb
  tfae_have 3 → 1 := fun antisymm a ha b hb same =>
    antisymm a ha b hb (ge_iff.2 same.ge) (ge_iff.2 same.le)
  tfae_have 3 → 4 := fun antisymm ws => sort_eq_of_perm antisymm
  tfae_have 4 → 1 := fun same a ha b hb => eq_of_sort_eq same ha hb
  tfae_finish

/-- Two variables of one name and of two types: each is after the other, and neither is before the other or equal to it. -/
theorem order_total_tfae_types :
    let whole : Variable := ⟨"first", "first", "Optional[int]", "first", none⟩
    let real : Variable := ⟨"first", "first", "Optional[float]", "first", none⟩
    (whole.gt real ∧ real.gt whole ∧ ¬ whole.le real ∧ ¬ real.le whole ∧ whole ≠ real)
      ∧ ¬ TotallyOrdered [whole, real] ∧ sort [whole, real] = [whole, real] ∧ sort [real, whole] = [real, whole] := by
  intro whole real
  have other : whole ≠ real := by decide
  have tied : whole.sortKey = real.sortKey := by decide
  obtain ⟨-, both, -, total⟩ := order_total_tfae [whole, real]
  have after := (both whole real).2 ⟨other, tied⟩
  have apart_iff : (∀ a ∈ [whole, real], ∀ b ∈ [whole, real], a.sortKey = b.sortKey → a = b)
      ↔ TotallyOrdered [whole, real] := total.out 0 1
  have unordered : ¬ TotallyOrdered [whole, real] := fun ordered =>
    other (apart_iff.2 ordered whole (by simp) real (by simp) tied)
  exact ⟨⟨after.1, after.2, by decide, by decide, other⟩, unordered,
    List.mergeSort_of_pairwise (by decide), List.mergeSort_of_pairwise (by decide)⟩

end OperationClasses.Variable
