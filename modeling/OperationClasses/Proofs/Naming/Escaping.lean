/-
Module: OperationClasses.Proofs.Naming.Escaping
Purpose: Which identifier a name is escaped to, when other names are reserved: the first that is free among those that
  have its characters, with the leading underscores and any more of them at the end.
Main exports: Naming.bare, Naming.leadingUnderscores, Naming.Frees, Naming.Escape, Naming.safeIdentifier_escapes
-/
import OperationClasses.Proofs.Naming.Identifier

namespace OperationClasses.Naming

variable {reserved : List String} {name out : String}

/-! ### Leading underscores -/

/-- A name without its leading underscores. -/
def bare (name : String) : String := String.ofList (name.toList.dropWhile (· == '_'))

/-- The number of underscores that a name begins with. -/
def leadingUnderscores (name : String) : Nat := (name.toList.takeWhile (· == '_')).length

/-- A name has a form with its leading underscores at the end unless it consists of underscores. -/
theorem rotateUnderscores_eq_none_iff {name : List Char} :
    rotateUnderscores name = none ↔ ∀ c ∈ name, c = '_' := by
  unfold rotateUnderscores
  split
  · rename_i nothing
    simpa [List.dropWhile_eq_nil_iff] using nothing
  · rename_i stripped some_
    refine iff_of_false (by rintro ⟨⟩) fun underscores => some_ ?_
    simpa [List.dropWhile_eq_nil_iff] using underscores

/-- That form is the bare name with the underscores after it. -/
theorem rotated_eq_padded {rotated : List Char} (found : rotateUnderscores name.toList = some rotated) :
    String.ofList rotated = padded (bare name) (leadingUnderscores name) := by
  obtain ⟨c, rest, start, rfl⟩ := rotateUnderscores_eq_some found
  have underscores : name.toList.takeWhile (· == '_') = List.replicate (leadingUnderscores name) '_' :=
    List.eq_replicate_iff.2 ⟨rfl, fun d mem => beq_iff_eq.1 (List.mem_takeWhile_imp (p := (· == '_')) mem)⟩
  rw [← String.toList_inj, toList_padded, String.toList_ofList, bare, String.toList_ofList, start, underscores]

/-- A name with another character begins with one once it is bare. -/
theorem bare_start {rotated : List Char} (found : rotateUnderscores name.toList = some rotated) :
    ∃ c rest, (bare name).toList = c :: rest ∧ c ≠ '_' := by
  obtain ⟨c, rest, start, -⟩ := rotateUnderscores_eq_some found
  have other := List.head?_dropWhile_not (· == '_') name.toList
  rw [start] at other
  refine ⟨c, rest, by rw [bare, String.toList_ofList, start], ?_⟩
  simpa using other

/-- A name that does not begin with an underscore is in that form already. -/
theorem rotateUnderscores_of_start {c : Char} {rest : List Char} (other : c ≠ '_') :
    rotateUnderscores (c :: rest) = some (c :: rest) := by
  simp [rotateUnderscores, other]

/-! ### Escaping -/

/-- Some underscores after a bare name free it: with them it is neither a keyword nor reserved. -/
def Frees (reserved : List String) (name : String) (count : Nat) : Prop :=
  padded (bare name) count ∉ keywords ∧ padded (bare name) count ∉ reserved

/-- What a name is escaped to: the bare name, as many underscores as it began with, and the least number of further ones
    that frees it. No more are tried than there are keywords and reserved names. -/
structure Escape (reserved : List String) (name out : String) : Prop where
  least : ∃ extra ≤ keywords.length + reserved.length,
    out = padded (bare name) (leadingUnderscores name + extra)
      ∧ IsLeast {k | Frees reserved name (leadingUnderscores name + k)} extra
  start : out.toList.head? ≠ some '_'
  again : safeIdentifier reserved out = .ok out

theorem padded_padded (name : String) (j k : Nat) : padded (padded name j) k = padded name (j + k) := by
  rw [← String.toList_inj, toList_padded, toList_padded, toList_padded, List.append_assoc,
    List.replicate_append_replicate]

/-- A name that is free stays as it is. -/
theorem freeName_of_not_mem {taken : List String} (free : name ∉ taken) : freeName taken name = name := by
  rw [freeName, if_neg free]

/-- An identifier that does not begin with an underscore and is free stays as it is. -/
theorem safeIdentifier_of_start {c : Char} {rest : List Char} (text : name.toList = c :: rest) (other : c ≠ '_')
    (free : name ∉ keywords ++ reserved) : safeIdentifier reserved name = .ok name := by
  have asItWas : rotateUnderscores name.toList = some name.toList := by rw [text, rotateUnderscores_of_start other]
  unfold safeIdentifier
  rw [asItWas]
  dsimp only
  rw [String.ofList_toList, freeName_of_not_mem free]
  rfl

theorem safeIdentifier_escape {rotated : List Char} (found : rotateUnderscores name.toList = some rotated) :
    ∃ out, safeIdentifier reserved name = .ok out ∧ Escape reserved name out := by
  obtain ⟨extra, bound, named, free, passed⟩ := freeName_least (keywords ++ reserved) (String.ofList rotated)
  rw [rotated_eq_padded found] at named free passed
  simp only [padded_padded] at named free passed
  have made : safeIdentifier reserved name = .ok (padded (bare name) (leadingUnderscores name + extra)) := by
    unfold safeIdentifier
    rw [found, ← named, ← rotated_eq_padded found]
    rfl
  obtain ⟨c, rest, start, other⟩ := bare_start found
  obtain ⟨tail, text⟩ : ∃ tail, (padded (bare name) (leadingUnderscores name + extra)).toList = c :: tail :=
    ⟨_, by rw [toList_padded, start, List.cons_append]⟩
  refine ⟨_, made, ⟨extra, ?_, rfl, ?_, ?_⟩, ?_, safeIdentifier_of_start text other free⟩
  · rwa [List.length_append] at bound
  · exact ⟨fun mem => free (List.mem_append_left _ mem), fun mem => free (List.mem_append_right _ mem)⟩
  · intro k frees
    by_contra fewer
    exact (List.mem_append.1 (passed k (Nat.lt_of_not_le fewer))).elim frees.1 frees.2
  · rw [text]
    simpa using other

/-- **Escaping names**: a name is refused exactly if it has no other character than underscores, whatever is
    reserved. Any other name is escaped, after finitely many attempts, to the bare name with the underscores that
    it began with and the fewest further ones after it that make it neither a keyword nor reserved. The result
    begins with no underscore, and is escaped to itself. -/
theorem safeIdentifier_escapes (reserved : List String) (name : String) :
    (∀ fault, safeIdentifier reserved name = .error fault
        ↔ (∀ c ∈ name.toList, c = '_') ∧ fault = .emptyIdentifier name)
      ∧ ((∃ c ∈ name.toList, c ≠ '_') → ∃ out, safeIdentifier reserved name = .ok out ∧ Escape reserved name out) := by
  cases found : rotateUnderscores name.toList with
  | none =>
    have underscores := rotateUnderscores_eq_none_iff.1 found
    have refused : safeIdentifier reserved name = .error (.emptyIdentifier name) := by
      unfold safeIdentifier
      rw [found]
      rfl
    refine ⟨fun fault => ?_, fun ⟨c, mem, other⟩ => absurd (underscores c mem) other⟩
    rw [refused, Except.error.injEq, and_iff_right underscores, eq_comm]
  | some rotated =>
    obtain ⟨out, made, escape⟩ : ∃ out, safeIdentifier reserved name = .ok out ∧ Escape reserved name out :=
      safeIdentifier_escape found
    refine ⟨fun fault => ?_, fun _ => ⟨out, made, escape⟩⟩
    rw [made]
    refine iff_of_false (by rintro ⟨⟩) fun ⟨underscores, _⟩ => ?_
    rw [rotateUnderscores_eq_none_iff.2 underscores] at found
    cases found

/-- A keyword behind two underscores, where it is reserved with two and with three underscores after it. -/
theorem safeIdentifier_escapes_chain :
    safeIdentifier ["class__", "class___"] "__class" = .ok "class____"
      ∧ Escape ["class__", "class___"] "__class" "class____" := by
  obtain ⟨-, escapes⟩ := safeIdentifier_escapes ["class__", "class___"] "__class"
  obtain ⟨out, made, escape⟩ := escapes ⟨'c', by decide, by decide⟩
  have named : safeIdentifier ["class__", "class___"] "__class" = .ok "class____" := by decide +kernel
  obtain rfl : out = "class____" := Except.ok.inj (made.symm.trans named)
  exact ⟨named, escape⟩

end OperationClasses.Naming
