/-
Module: OperationClasses.Proofs.Result.Digest
Purpose: When equal results have the same digest.
Main exports: Response.sameDigest_iff_data_eq
-/
import OperationClasses.Proofs.Json.Literal
import OperationClasses.Result.Basic

namespace OperationClasses.Response

variable {same : Bool} {a b : ResultObject}

theorem sameResult_object :
    sameResult same (.object a) (.object b) ↔ a.resultClass = b.resultClass ∧ b.data.sameData a.data := by
  simp [sameResult]

theorem sameDigest_object :
    sameDigest same (.object a) (.object b) ↔ a.resultClass = b.resultClass ∧ a.data.literal = b.data.literal := by
  simp [sameDigest]

/-- **Digests of equal results.** Two results that are equal have the same digest exactly if their data is one value and
    not only the same data: with the members of every object in one order, every number of one kind and every zero of
    one sign. -/
theorem sameDigest_iff_data_eq (proper : a.data.Proper) (proper' : b.data.Proper)
    (equal : sameResult same (.object a) (.object b)) :
    sameDigest same (.object a) (.object b) ↔ a.data = b.data := by
  obtain ⟨sameClass, sameData⟩ := sameResult_object.1 equal
  rw [sameDigest_object]
  constructor
  · rintro ⟨-, shown⟩
    exact (Json.literal_inj sameData proper' proper shown.symm).symm
  · intro data
    exact ⟨sameClass, congrArg Json.literal data⟩

/-- Three pairs of equal results that have two digests each: for the order of the keys of an object, for the kind of a
    number in a list and for the sign of a zero. -/
theorem sameDigest_iff_data_eq_fails :
    let result (data : Json) : Response := .object ⟨⟨0, "Q", true, ["Query"]⟩, data, .null⟩
    let object (key : String) (value : Json) : Json := .obj [("n", .obj [(key, value), ("z", .null)])]
    let turned (key : String) (value : Json) : Json := .obj [("n", .obj [("z", .null), (key, value)])]
    let list (n : Json) : Json := .obj [("n", .arr [n])]
    let zero (negative : Bool) : Json := .float (.finite negative 0 Binary64.minExponent)
    let one : Json := .float (.finite false Binary64.leastNormal (-52))
    (sameResult false (result (object "a" one)) (result (turned "a" one))
        ∧ ¬ sameDigest false (result (object "a" one)) (result (turned "a" one)))
      ∧ (sameResult false (result (list (.int 1))) (result (list one))
        ∧ ¬ sameDigest false (result (list (.int 1))) (result (list one)))
      ∧ (sameResult false (result (list (zero false))) (result (list (zero true)))
        ∧ ¬ sameDigest false (result (list (zero false))) (result (list (zero true)))) := by
  intro result object turned list zero one
  have zeroProper (negative : Bool) : (zero negative).Proper := by
    simp [zero, Json.Proper, Binary64.Canonical, Binary64.leastNormal, Binary64.minExponent, Binary64.maxExponent]
  have oneProper : one.Proper := by
    simp [one, Json.Proper, Binary64.Canonical, Binary64.leastNormal, Binary64.minExponent, Binary64.maxExponent]
  have intProper : (Json.int 1).Proper := by simp [Json.Proper]
  have listProper {n : Json} (proper : n.Proper) : (list n).Proper := by
    simp [list, Json.Proper, Json.MembersAreProper, Json.AreProper, proper]
  have ordered : sameResult false (result (object "a" one)) (result (turned "a" one)) := by decide
  have kinds : sameResult false (result (list (.int 1))) (result (list one)) := by decide
  have signs : sameResult false (result (list (zero false))) (result (list (zero true))) := by decide
  refine ⟨⟨ordered, fun digest => ?_⟩, ⟨kinds, fun digest => ?_⟩, ⟨signs, fun digest => ?_⟩⟩
  · have data := (sameDigest_iff_data_eq (by simp [object, Json.Proper, Json.MembersAreProper, oneProper])
      (by simp [turned, Json.Proper, Json.MembersAreProper, oneProper]) ordered).1 digest
    simp [object, turned] at data
  · have data := (sameDigest_iff_data_eq (listProper intProper) (listProper oneProper) kinds).1 digest
    simp [list, one] at data
  · have data := (sameDigest_iff_data_eq (listProper (zeroProper false)) (listProper (zeroProper true)) signs).1 digest
    simp [list, zero] at data

end OperationClasses.Response
