/-
Module: OperationClasses.KeyedList
Purpose: Lists of keys and values in which a key keeps its first place.
Main exports: setKey
-/

namespace OperationClasses

variable {κ α : Type} [DecidableEq κ]

/-- Gives a key its value: at the place where the key stands, or at the end. -/
def setKey (key : κ) (value : α) : List (κ × α) → List (κ × α)
  | [] => [(key, value)]
  | (k, v) :: rest => if k = key then (key, value) :: rest else (k, v) :: setKey key value rest

theorem lookup_setKey [BEq κ] [LawfulBEq κ] (key : κ) (value : α) (l : List (κ × α)) (k : κ) :
    (setKey key value l).lookup k = if k = key then some value else l.lookup k := by
  induction l with
  | nil =>
    by_cases h : k = key
    · simp [setKey, h]
    · simp [setKey, List.lookup_cons, h, beq_false_of_ne h]
  | cons head tail ih =>
    obtain ⟨k', v'⟩ := head
    by_cases same : k' = key
    · subst same
      by_cases h : k = k'
      · simp [setKey, h]
      · simp [setKey, List.lookup_cons, h, beq_false_of_ne h]
    · by_cases h : k = k'
      · subst h; simp [setKey, same]
      · simp [setKey, List.lookup_cons, same, beq_false_of_ne h, ih]

end OperationClasses
