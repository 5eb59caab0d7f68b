/-
Module: OperationClasses.Proofs.Class.EnumMembers
Purpose: The values of an enum and the names of its members correspond to each other, in whatever order the schema lists
  the values.
Main exports: Naming.NextName, Naming.memberName_next, Naming.Assigned, Naming.exists_assigned, enumMembers_bijective
-/
import OperationClasses.Class.Basic
import OperationClasses.Proofs.Class.RegistrationOrder
import OperationClasses.Proofs.Naming.Identifier

namespace OperationClasses

namespace Naming

variable {taken values : List String} {base member : String}

/-! ### One name -/

/-- The name that comes next for a base, when some names are taken: the base itself if it is free, and else the base
    with the least number from two on that makes it free. -/
inductive NextName (taken : List String) (base : String) : String → Prop where
  | plain (free : base ∉ taken) : NextName taken base base
  | numbered {k : Nat} (clash : base ∈ taken) (fromTwo : 2 ≤ k) (free : base ++ toString k ∉ taken)
      (least : ∀ j, 2 ≤ j → j < k → base ++ toString j ∈ taken) : NextName taken base (base ++ toString k)

/-- A base with two different numbers gives two different names. -/
theorem numbered_inj {j k : Nat} (same : base ++ toString j = base ++ toString k) : j = k :=
  number_inj (String.append_right_inj base |>.1 same)

/-- The search from a number on stops at the least number that gives a free name. A name that was passed over leaves
    the list, and no later number gives it again. -/
theorem numberedName_spec (taken : List String) (base : String) (k : Nat) :
    ∃ j, k ≤ j ∧ numberedName taken base k = base ++ toString j ∧ base ++ toString j ∉ taken
      ∧ ∀ i, k ≤ i → i < j → base ++ toString i ∈ taken := by
  fun_induction numberedName taken base k with
  | case1 taken k candidate isTaken ih =>
    obtain ⟨j, later, found, free, least⟩ := ih
    refine ⟨j, by omega, found, fun mem => free ?_, fun i low high => ?_⟩
    · refine (List.mem_erase_of_ne fun same => ?_).2 mem
      have := numbered_inj same
      omega
    · rcases Nat.eq_or_lt_of_le low with rfl | after
      · exact isTaken
      · exact List.mem_of_mem_erase (least i after high)
  | case2 taken k candidate free =>
    exact ⟨k, Nat.le_refl k, rfl, free, fun i low high => absurd low (by omega)⟩

/-- A member gets the name that comes next for its base. -/
theorem memberName_next (taken : List String) (base : String) : NextName taken base (memberName taken base) := by
  unfold memberName
  split
  · rename_i clash
    obtain ⟨k, fromTwo, found, free, least⟩ := numberedName_spec taken base 2
    rw [found]
    exact .numbered clash fromTwo free least
  · rename_i free
    exact .plain free

theorem NextName.not_mem (next : NextName taken base member) : member ∉ taken := by
  cases next <;> assumption

/-- Which name comes next depends on what is taken, and not on the order in which it was. -/
theorem NextName.congr {taken' : List String} (next : NextName taken base member)
    (same : ∀ name, name ∈ taken ↔ name ∈ taken') : NextName taken' base member := by
  cases next with
  | plain free => exact .plain fun mem => free ((same _).2 mem)
  | numbered clash fromTwo free least =>
    exact .numbered ((same _).1 clash) fromTwo (fun mem => free ((same _).2 mem))
      fun j low high => (same _).1 (least j low high)

/-! ### One after the other -/

/-- Members were named one after the other, none by a name that was taken before the first: each got the name that came
    next for the base of its value. -/
structure Assigned (taken : List String) (members : List (String × String)) : Prop where
  free : ∀ m ∈ members, m.1 ∉ taken
  distinct : (members.map (·.1)).Nodup
  next : ∀ before member value after, members = before ++ (member, value) :: after →
    ∃ base, memberBase value = .ok base ∧ NextName (taken ++ before.map (·.1)) base member

namespace Assigned

theorem nil : Assigned taken [] where
  free _ absent := absurd absent List.not_mem_nil
  distinct := .nil
  next before member value after split := by simp at split

/-- A member is named before others, for which its name is taken. -/
theorem cons {value : String} {members : List (String × String)} (made : memberBase value = .ok base)
    (next : NextName taken base member) (others : Assigned (member :: taken) members) :
    Assigned taken ((member, value) :: members) where
  free := by
    refine List.forall_mem_cons.2 ⟨next.not_mem, fun m hm mem => ?_⟩
    exact others.free m hm (List.mem_cons_of_mem _ mem)
  distinct := by
    rw [List.map_cons, List.nodup_cons]
    refine ⟨fun mem => ?_, others.distinct⟩
    obtain ⟨m, hm, same⟩ := List.mem_map.1 mem
    exact others.free m hm (same ▸ List.mem_cons_self)
  next before member' value' after split := by
    cases before with
    | nil =>
      obtain ⟨same, -⟩ := List.cons.inj split
      obtain ⟨rfl, rfl⟩ := Prod.mk.inj same
      exact ⟨base, made, by simpa using next⟩
    | cons first before =>
      obtain ⟨rfl, later⟩ := List.cons.inj split
      obtain ⟨base', made', next'⟩ := others.next before member' value' after later
      refine ⟨base', made', next'.congr fun name => ?_⟩
      simp only [List.cons_append, List.map_cons, List.mem_cons, List.mem_append]
      tauto

end Assigned

/-- Values that are spelled like names get members, whatever names are taken. -/
theorem exists_assigned (names : ∀ value ∈ values, Token.isName value) (taken : List String) :
    ∃ members, enumMembersFrom taken values = .ok members ∧ members.map (·.2) = values ∧ Assigned taken members := by
  induction values generalizing taken with
  | nil => exact ⟨[], rfl, rfl, .nil⟩
  | cons value rest ih =>
    obtain ⟨own, others⟩ := List.forall_mem_cons.1 names
    obtain ⟨base, made, -⟩ := exists_memberBase (.of_isName own)
    obtain ⟨members, read, values, assigned⟩ := ih others (memberName taken base :: taken)
    refine ⟨(memberName taken base, value) :: members, ?_, ?_, assigned.cons made (memberName_next taken base)⟩
    · rw [enumMembersFrom, made]
      simp [bind, Except.bind, read, pure, Except.pure]
    · rw [List.map_cons, values]

end Naming

/-! ### Both ways -/

/-- **Members and values correspond.** Values that are spelled like names get one member each, in the order given, and
    no two the same name: each has the base of its value for a name, or that base with the least number from two on
    that is not taken by a member before it. If the values are distinct, an enum class has the same members for every
    order of them, among which every value has exactly one member and every member exactly one value. -/
theorem enumMembers_bijective {values : List String} (names : ∀ value ∈ values, Token.isName value) :
    (∃ members, Naming.enumMembers values = .ok members ∧ members.map (·.2) = values
      ∧ (members.map (·.1)).Nodup
      ∧ ∀ before member value after, members = before ++ (member, value) :: after →
        ∃ base, Naming.memberBase value = .ok base ∧ Naming.NextName (before.map (·.1)) base member)
    ∧ (values.Nodup → ∃ members, (∀ c : EnumClass, c.values.Perm values → c.members = .ok members)
      ∧ (∀ value ∈ values, ∃! member, (member, value) ∈ members)
      ∧ ∀ member value, (member, value) ∈ members → value ∈ values
        ∧ ∀ other, (member, other) ∈ members → other = value) := by
  constructor
  · obtain ⟨members, made, ofValues, assigned⟩ := Naming.exists_assigned names []
    exact ⟨members, made, ofValues, assigned.distinct, assigned.next⟩
  · intro distinct
    have sorted := List.mergeSort_perm values fun a b => decide (a ≤ b)
    obtain ⟨members, made, ofValues, assigned⟩ :=
      Naming.exists_assigned (fun value mem => names value (sorted.mem_iff.1 mem)) []
    have perm : (members.map (·.2)).Perm values := by rwa [ofValues]
    have eachOnce : (members.map (·.2)).Nodup := perm.nodup_iff.2 distinct
    refine ⟨members, fun c listed => ?_, fun value mem => ?_, fun member value mem => ⟨?_, fun other also => ?_⟩⟩
    · rw [EnumClass.members, Registry.mergeSort_eq_of_perm listed]
      exact made
    · obtain ⟨⟨member, _⟩, listed, rfl⟩ := List.mem_map.1 (perm.mem_iff.2 mem)
      refine ⟨member, listed, fun other also => ?_⟩
      exact congrArg Prod.fst (List.inj_on_of_nodup_map eachOnce also listed rfl)
    · exact perm.mem_iff.1 (List.mem_map_of_mem (f := (·.2)) mem)
    · exact congrArg Prod.snd (List.inj_on_of_nodup_map assigned.distinct also mem rfl)

/-- A name with a number that one value gets is the base of the next value, which then gets a number as well. In the
    order of a class, which goes by the values, it is the other way round. -/
theorem enumMembers_bijective_clashes :
    let values := ["A", "a", "A2", "__"]
    (∀ value ∈ values, Token.isName value) ∧ values.Nodup
      ∧ Naming.enumMembers values = .ok [("A", "A"), ("A2", "a"), ("A22", "A2"), ("VALUE__", "__")]
      ∧ (∃ base, Naming.memberBase "A2" = .ok base ∧ Naming.NextName ["A", "A2"] base "A22")
      ∧ (∀ c : EnumClass, c.values.Perm values →
        c.members = .ok [("A", "A"), ("A2", "A2"), ("VALUE__", "__"), ("A3", "a")])
      ∧ ∃! member, (member, "a") ∈ [("A", "A"), ("A2", "A2"), ("VALUE__", "__"), ("A3", "a")] := by
  intro values
  have names : ∀ value ∈ values, Token.isName value := by decide +kernel
  have distinct : values.Nodup := by decide
  have given : Naming.enumMembers values = .ok [("A", "A"), ("A2", "a"), ("A22", "A2"), ("VALUE__", "__")] := by cbv
  have known : (⟨"E", "E", values⟩ : EnumClass).members
      = .ok [("A", "A"), ("A2", "A2"), ("VALUE__", "__"), ("A3", "a")] := by cbv
  obtain ⟨⟨own, made, -, -, next⟩, sorted⟩ := enumMembers_bijective names
  obtain rfl := Except.ok.inj (made.symm.trans given)
  obtain ⟨all, same, each, -⟩ := sorted distinct
  obtain rfl := Except.ok.inj ((same ⟨"E", "E", values⟩ (.refl _)).symm.trans known)
  exact ⟨names, distinct, given, next [("A", "A"), ("A2", "a")] "A22" "A2" [("VALUE__", "__")] rfl, same,
    each "a" (by decide)⟩

end OperationClasses
