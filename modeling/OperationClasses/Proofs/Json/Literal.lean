/-
Module: OperationClasses.Proofs.Json.Literal
Purpose: Values that hold the same data are shown alike only if they are the same value: the literal tells the order of
  members, the kind of every number and the sign of every zero.
Main exports: Binary64.Canonical, Json.Proper, Json.literal_append_inj, Json.literal_inj
-/
import Mathlib.Data.List.Nodup
import OperationClasses.Json.Equality
import OperationClasses.Json.Literal
import OperationClasses.Proofs.Text.Quoted

namespace OperationClasses

namespace Binary64

/-- A finite double has its one form: the mantissa is below 2 ^ 53, and at least 2 ^ 52 unless the exponent is the least
    one. -/
def Canonical : Binary64 → Prop
  | .finite _ mantissa exponent =>
    mantissa < 2 * leastNormal ∧ minExponent ≤ exponent ∧ exponent ≤ maxExponent
      ∧ (exponent ≠ minExponent → leastNormal ≤ mantissa)
  | _ => True

theorem Canonical.exponent_of_zero {negative : Bool} {exponent : Int}
    (canonical : Canonical (.finite negative 0 exponent)) : exponent = minExponent := by
  by_contra other
  exact absurd (canonical.2.2.2 other) (by decide)

/-! ### Texts of doubles -/

/-- A character of the text of a finite double. -/
def IsDecimalChar (c : Char) : Prop := c.isDigit ∨ c ∈ ['.', 'e', '+', '-']

instance : DecidablePred IsDecimalChar := fun _ => inferInstanceAs (Decidable (_ ∨ _))

/-- What holds of each of some given characters can be checked one by one. -/
theorem forall_mem_of_all {P : Char → Prop} [DecidablePred P] {chars : List Char} (all : chars.all fun c => P c) :
    ∀ c ∈ chars, P c := fun c mem => of_decide_eq_true (List.all_eq_true.1 all c mem)

theorem isDecimalChar_of_mem_toDigits {n : Nat} : ∀ c ∈ Nat.toDigits 10 n, IsDecimalChar c := fun _ mem =>
  .inl (Nat.isDigit_of_mem_toDigits (by decide) (by decide) mem)

theorem isDecimalChar_of_mem_zeros {n : Nat} : ∀ c ∈ List.replicate n '0', IsDecimalChar c := fun c mem => by
  rw [List.eq_of_mem_replicate mem]
  decide

theorem isDecimalChar_of_mem_decimalText (d : Decimal) : ∀ c ∈ (decimalText d).toList, IsDecimalChar c := by
  have zero : IsDecimalChar '0' := by decide
  have point : IsDecimalChar '.' := by decide
  have power : IsDecimalChar 'e' := by decide
  have digits {n : Nat} := isDecimalChar_of_mem_toDigits (n := n)
  have zeros {n : Nat} := isDecimalChar_of_mem_zeros (n := n)
  have first (n : Nat) : ∀ c ∈ (Nat.toDigits 10 d.digits).take n, IsDecimalChar c := fun c mem =>
    digits c (List.mem_of_mem_take mem)
  have others (n : Nat) : ∀ c ∈ (Nat.toDigits 10 d.digits).drop n, IsDecimalChar c := fun c mem =>
    digits c (List.mem_of_mem_drop mem)
  unfold decimalText
  simp only
  split_ifs <;>
    simp only [String.toList_ofList, String.reduceToList, List.forall_mem_append, List.forall_mem_cons, List.not_mem_nil,
      false_imp_iff, implies_true, and_true]
  · exact ⟨⟨⟨zero, point⟩, zeros⟩, digits⟩
  · exact ⟨⟨digits, zeros⟩, point, zero⟩
  · exact ⟨first _, point, others _⟩
  · exact ⟨first 1, power, by decide, zeros, digits⟩
  · exact ⟨first 1, power, by decide, zeros, digits⟩
  · exact ⟨⟨first 1, point, others 1⟩, power, by decide, zeros, digits⟩
  · exact ⟨⟨first 1, point, others 1⟩, power, by decide, zeros, digits⟩

/-- The text of a decimal is told from that of an integer by its point or its power. -/
theorem exists_mark_decimalText (d : Decimal) : ∃ c ∈ (decimalText d).toList, ¬ c.isDigit ∧ c ≠ '-' := by
  unfold decimalText
  simp only
  split_ifs
  · exact ⟨'.', by simp, by decide⟩
  · exact ⟨'.', by simp, by decide⟩
  · exact ⟨'.', by simp, by decide⟩
  all_goals exact ⟨'e', by simp, by decide⟩

variable {negative : Bool} {mantissa : Nat} {exponent : Int}

theorem toList_text_finite :
    (text (.finite negative mantissa exponent)).toList
      = (if negative then ['-'] else [])
        ++ (if mantissa = 0 then ['0', '.', '0'] else (decimalText (shortest mantissa exponent)).toList) := by
  rw [text, textWith, String.toList_append]
  congr 1 <;> split <;> rfl

theorem isDecimalChar_of_mem_text : ∀ c ∈ (text (.finite negative mantissa exponent)).toList, IsDecimalChar c := by
  rw [toList_text_finite, List.forall_mem_append]
  constructor
  · split <;> exact forall_mem_of_all (by decide)
  · split
    · exact forall_mem_of_all (by decide)
    · exact isDecimalChar_of_mem_decimalText _

theorem exists_mark_text : ∃ c ∈ (text (.finite negative mantissa exponent)).toList, ¬ c.isDigit ∧ c ≠ '-' := by
  have ofSize : ∃ c ∈ if mantissa = 0 then ['0', '.', '0'] else (decimalText (shortest mantissa exponent)).toList,
      ¬ c.isDigit ∧ c ≠ '-' := by
    split
    · exact ⟨'.', by simp, by decide⟩
    · exact exists_mark_decimalText _
  obtain ⟨c, mem, mark⟩ := ofSize
  rw [toList_text_finite]
  exact ⟨c, List.mem_append_right _ mem, mark⟩

/-- Doubles that are numerically equal and shown alike are the same: the text of a zero tells its sign. -/
theorem text_inj {x y : Binary64} (canonical : x.Canonical) (canonical' : y.Canonical) (equal : x.numEq y)
    (same : x.text = y.text) : x = y := by
  cases x with
  | finite s m e =>
    cases y with
    | finite t n f =>
      simp only [numEq, Bool.or_eq_true, Bool.and_eq_true, beq_iff_eq] at equal
      rcases equal with ⟨rfl, rfl⟩ | ⟨⟨rfl, rfl⟩, rfl⟩
      · rw [canonical.exponent_of_zero, canonical'.exponent_of_zero]
        have signs := congrArg String.toList same
        simp only [toList_text_finite] at signs
        cases s <;> cases t <;> simp at signs ⊢
      · rfl
    | infinite t => exact absurd equal (by simp [numEq])
    | nan => exact absurd equal (by simp [numEq])
  | infinite s =>
    cases y with
    | infinite t =>
      simp only [numEq, beq_iff_eq] at equal
      rw [equal]
    | finite t n f => exact absurd equal (by simp [numEq])
    | nan => exact absurd equal (by simp [numEq])
  | nan => exact absurd equal (by simp [numEq])

end Binary64

namespace Json

/-! ### Values -/

mutual

/-- A value as a response holds it: a key stands once in every object, and every double has its one form. -/
def Proper : Json → Prop
  | .float value => value.Canonical
  | .arr items => AreProper items
  | .obj members => (members.map (·.1)).Nodup ∧ MembersAreProper members
  | _ => True

/-- The items of an array are proper. -/
def AreProper : List Json → Prop
  | [] => True
  | item :: rest => item.Proper ∧ AreProper rest

/-- The values of the members of an object are proper. -/
def MembersAreProper : List (String × Json) → Prop
  | [] => True
  | (_, value) :: rest => value.Proper ∧ MembersAreProper rest

end

/-! ### Scalars -/

theorem toList_literal_int (n : Int) :
    (literal (.int n)).toList = (if n < 0 then ['-'] else []) ++ Nat.toDigits 10 n.natAbs := by
  cases n with
  | ofNat n =>
    have shown : literal (.int (.ofNat n)) = n.repr := by rw [literal]; rfl
    rw [shown]
    simp [Nat.toList_repr]
  | negSucc n =>
    have shown : literal (.int (.negSucc n)) = "-" ++ (n + 1).repr := by rw [literal]; rfl
    rw [shown]
    simp [Nat.toList_repr, Int.negSucc_lt_zero]

theorem literal_int_chars (n : Int) : ∀ c ∈ (literal (.int n)).toList, c.isDigit ∨ c = '-' := by
  rw [toList_literal_int, List.forall_mem_append]
  constructor
  · split <;> simp
  · exact fun c mem => .inl (Nat.isDigit_of_mem_toDigits (by decide) (by decide) mem)

theorem literal_bool_ne_int (value : Bool) (n : Int) : literal (.bool value) ≠ literal (.int n) := by
  intro same
  have chars := literal_int_chars n
  rw [← same] at chars
  cases value with
  | false => exact absurd (chars 'F' (by decide)) (by decide)
  | true => exact absurd (chars 'T' (by decide)) (by decide)

theorem literal_bool_ne_float (value negative : Bool) (mantissa : Nat) (exponent : Int) :
    literal (.bool value) ≠ literal (.float (.finite negative mantissa exponent)) := by
  intro same
  have chars : ∀ c ∈ (literal (.float (.finite negative mantissa exponent))).toList, Binary64.IsDecimalChar c :=
    Binary64.isDecimalChar_of_mem_text
  rw [← same] at chars
  cases value with
  | false => exact absurd (chars 'F' (by decide)) (by decide)
  | true => exact absurd (chars 'T' (by decide)) (by decide)

theorem literal_int_ne_float (n : Int) (negative : Bool) (mantissa : Nat) (exponent : Int) :
    literal (.int n) ≠ literal (.float (.finite negative mantissa exponent)) := by
  intro same
  have marked : ∃ c ∈ (literal (.float (.finite negative mantissa exponent))).toList, ¬ c.isDigit ∧ c ≠ '-' :=
    Binary64.exists_mark_text
  rw [← same] at marked
  obtain ⟨c, mem, notDigit, notSign⟩ := marked
  exact (literal_int_chars n c mem).elim notDigit notSign

/-- A value that counts as an integer is not shown like the double that it is equal to. -/
theorem literal_integer_ne_float {a : Json} {n : Int} {x : Binary64} (whole : a.integer? = some n) (equal : x.eqInt n) :
    a.literal ≠ literal (.float x) := by
  cases x with
  | finite negative mantissa exponent =>
    cases a with
    | bool value => exact literal_bool_ne_float value negative mantissa exponent
    | int n => exact literal_int_ne_float n negative mantissa exponent
    | _ => simp [integer?] at whole
  | infinite negative => simp [Binary64.eqInt] at equal
  | nan => simp [Binary64.eqInt] at equal

/-- Values that count as the same integer and are shown alike are the same. -/
theorem integer_inj {a b : Json} {n : Int} (whole : a.integer? = some n) (whole' : b.integer? = some n)
    (same : a.literal = b.literal) : a = b := by
  cases a with
  | bool value =>
    cases b with
    | bool value' =>
      have counts := whole.trans whole'.symm
      cases value <;> cases value' <;> first | rfl | exact absurd counts (by decide)
    | int k => exact absurd same (literal_bool_ne_int value k)
    | _ => simp [integer?] at whole'
  | int m =>
    cases b with
    | bool value => exact absurd same.symm (literal_bool_ne_int value m)
    | int k => simp_all [integer?]
    | _ => simp [integer?] at whole'
  | _ => simp [integer?] at whole

/-- Scalars that count as equal and are shown alike are the same. -/
theorem scalar_inj {a b : Json} (proper : a.Proper) (proper' : b.Proper) (equal : sameScalar a b)
    (same : a.literal = b.literal) : a = b := by
  unfold sameScalar at equal
  split at equal
  · rfl
  · exact congrArg _ (Binary64.text_inj proper proper' equal same)
  · obtain ⟨n, whole, equal⟩ := (Option.any_eq_true _ _).1 equal
    exact absurd same.symm (literal_integer_ne_float whole equal)
  · obtain ⟨n, whole, equal⟩ := (Option.any_eq_true _ _).1 equal
    exact absurd same (literal_integer_ne_float whole equal)
  · split at equal
    · rename_i m n whole whole'
      obtain rfl := beq_iff_eq.1 equal
      exact integer_inj whole whole' same
    · exact absurd equal (by decide)

/-! ### Where a value ends -/

/-- The characters that end the text of a scalar: what follows it among others, and what closes a collection. -/
def IsStop (c : Char) : Prop := c ∈ [',', ']', '\x7d']

instance : DecidablePred IsStop := fun _ => inferInstanceAs (Decidable (_ ∈ _))

/-- Nothing comes after a value, or something that ends it. -/
def Ends (rest : List Char) : Prop := ∀ c ∈ rest.head?, IsStop c

/-- Two texts without stops are the same if they are with something that ends them. -/
theorem append_inj_of_ends {a b r r' : List Char} (free : ∀ c ∈ a, ¬ IsStop c) (free' : ∀ c ∈ b, ¬ IsStop c)
    (ends : Ends r) (ends' : Ends r') (same : a ++ r = b ++ r') : a = b ∧ r = r' := by
  induction a generalizing b with
  | nil =>
    cases b with
    | nil => exact ⟨rfl, same⟩
    | cons d b =>
      rw [List.nil_append] at same
      subst same
      exact absurd (ends d rfl) (free' d List.mem_cons_self)
  | cons c a ih =>
    cases b with
    | nil =>
      rw [List.nil_append] at same
      subst same
      exact absurd (ends' c rfl) (free c List.mem_cons_self)
    | cons d b =>
      obtain ⟨rfl, later⟩ := List.cons.inj same
      obtain ⟨rfl, rest⟩ := ih (fun c mem => free c (List.mem_cons_of_mem _ mem))
        (fun c mem => free' c (List.mem_cons_of_mem _ mem)) later
      exact ⟨rfl, rest⟩

theorem not_isStop_of_isDecimalChar {c : Char} (isDecimal : Binary64.IsDecimalChar c) : ¬ IsStop c := by
  intro stop
  simp only [IsStop, List.mem_cons, List.not_mem_nil, or_false] at stop
  rcases stop with rfl | rfl | rfl <;> exact absurd isDecimal (by decide)

/-- Neither a text nor a collection. -/
def IsScalar : Json → Prop
  | .null | .bool _ | .int _ | .float _ => True
  | _ => False

theorem IsScalar.stops {a : Json} (scalar : a.IsScalar) : ∀ c ∈ a.literal.toList, ¬ IsStop c := by
  cases a with
  | null => exact Binary64.forall_mem_of_all (by decide)
  | bool value => cases value <;> exact Binary64.forall_mem_of_all (by decide)
  | int n =>
    refine fun c mem => not_isStop_of_isDecimalChar ?_
    rcases literal_int_chars n c mem with digit | rfl
    · exact .inl digit
    · decide
  | float x =>
    cases x with
    | finite negative mantissa exponent =>
      exact fun c mem => not_isStop_of_isDecimalChar (Binary64.isDecimalChar_of_mem_text c mem)
    | infinite negative => cases negative <;> exact Binary64.forall_mem_of_all (by decide)
    | nan => exact Binary64.forall_mem_of_all (by decide)
  | str text => exact scalar.elim
  | arr items => exact scalar.elim
  | obj members => exact scalar.elim

theorem isScalar_of_sameScalar {a b : Json} (equal : sameScalar a b) : a.IsScalar ∧ b.IsScalar := by
  cases a <;> cases b <;> first | exact ⟨trivial, trivial⟩ | exact absurd equal (by simp [sameScalar, integer?])

/-- Scalars that count as equal and are shown alike, with something after each that ends it, are the same. -/
theorem scalar_append_inj {a b : Json} {r r' : List Char} (equal : sameScalar a b) (proper : a.Proper)
    (proper' : b.Proper) (ends : Ends r) (ends' : Ends r') (same : a.literal.toList ++ r = b.literal.toList ++ r') :
    a = b ∧ r = r' := by
  obtain ⟨scalar, scalar'⟩ := isScalar_of_sameScalar equal
  obtain ⟨texts, rest⟩ := append_inj_of_ends scalar.stops scalar'.stops ends ends' same
  exact ⟨scalar_inj proper proper' equal (String.toList_inj.1 texts), rest⟩

/-! ### Collections -/

/-- The texts after the first one of a collection, each after a comma. -/
def afterFirst (texts : List String) : List Char := texts.flatMap fun text => ',' :: ' ' :: text.toList

theorem toList_intercalate_cons (text : String) (texts : List String) :
    (", ".intercalate (text :: texts)).toList = text.toList ++ afterFirst texts := by
  induction texts generalizing text with
  | nil => simp [afterFirst]
  | cons next texts ih =>
    rw [String.intercalate_cons_cons, String.toList_append, String.toList_append, ih]
    simp [afterFirst]

theorem ends_afterFirst (texts : List String) {close : Char} (stop : IsStop close) (rest : List Char) :
    Ends (afterFirst texts ++ close :: rest) := by
  cases texts with
  | nil =>
    rintro c ⟨⟩
    exact stop
  | cons text texts =>
    rintro c ⟨⟩
    decide

/-- Collections of as many texts that begin alike go on alike after their first texts. -/
theorem afterFirst_of_intercalate {texts texts' : List String} {r r' : List Char}
    (length : texts.length = texts'.length)
    (same : (", ".intercalate texts).toList ++ r = (", ".intercalate texts').toList ++ r') :
    afterFirst texts ++ r = afterFirst texts' ++ r' := by
  cases texts with
  | nil =>
    cases texts' with
    | nil => exact same
    | cons text' texts' => simp at length
  | cons text texts =>
    cases texts' with
    | nil => simp at length
    | cons text' texts' =>
      rw [toList_intercalate_cons, toList_intercalate_cons] at same
      simpa [afterFirst] using same

theorem length_literalItems (items : List Json) : (literalItems items).length = items.length := by
  induction items with
  | nil => rfl
  | cons item rest ih => rw [literalItems, List.length_cons, List.length_cons, ih]

theorem length_literalMembers (members : List (String × Json)) : (literalMembers members).length = members.length := by
  induction members with
  | nil => rfl
  | cons member rest ih => rw [literalMembers, List.length_cons, List.length_cons, ih]

/-- Members that are shown alike have the same key, since the literal of a key ends itself, and values that are shown
    alike with what follows them. -/
theorem member_append_inj {key key' : String} {value value' : Json} {members others : List (String × Json)}
    {r r' : List Char}
    (same : afterFirst (literalMembers ((key, value) :: members)) ++ r
      = afterFirst (literalMembers ((key', value') :: others)) ++ r') :
    key = key' ∧ value.literal.toList ++ (afterFirst (literalMembers members) ++ r)
      = value'.literal.toList ++ (afterFirst (literalMembers others) ++ r') := by
  simp only [literalMembers, afterFirst, List.flatMap_cons, List.cons_append, List.append_assoc, String.toList_append,
    List.cons.injEq, true_and] at same
  obtain ⟨keys, values⟩ := Text.quoted_append_inj same
  exact ⟨keys, List.append_cancel_left values⟩

theorem length_of_sameItems {xs ys : List Json} (equal : sameItems xs ys) : xs.length = ys.length := by
  induction xs generalizing ys with
  | nil => cases ys <;> simp_all [sameItems]
  | cons x xs ih =>
    cases ys with
    | nil => simp [sameItems] at equal
    | cons y ys =>
      simp only [sameItems, Bool.and_eq_true] at equal
      rw [List.length_cons, List.length_cons, ih equal.2]

/-- A key that stands once in a list has the value that stands beside it. -/
theorem lookup_of_nodup {before after : List (String × Json)} {key : String} {value : Json}
    (distinct : ((before ++ (key, value) :: after).map (·.1)).Nodup) :
    (before ++ (key, value) :: after).lookup key = some value := by
  refine List.lookup_eq_some_iff.2 ⟨before, after, rfl, fun m mem => ?_⟩
  rw [List.map_append, List.map_cons, List.nodup_append] at distinct
  exact bne_iff_ne.2 fun same => distinct.2.2 m.1 (List.mem_map_of_mem mem) key List.mem_cons_self same.symm

mutual

/-- **A literal tells the value among all of the same data.** Two values that hold the same data, with something after
    each that ends it, are shown alike only if they are the same value, in every object the same members in the same
    order, and the same comes after them. -/
theorem literal_append_inj (a : Json) : ∀ {b : Json} {r r' : List Char}, a.sameData b → a.Proper → b.Proper → Ends r →
    Ends r' → a.literal.toList ++ r = b.literal.toList ++ r' → a = b ∧ r = r' := by
  match a with
  | .null | .bool _ | .int _ | .float _ =>
    intro b r r'
    exact scalar_append_inj
  | .str text =>
    intro b r r' equal proper proper' ends ends' same
    cases b with
    | str text' =>
      obtain ⟨rfl, rest⟩ := Text.quoted_append_inj same
      exact ⟨rfl, rest⟩
    | _ => simp [sameData] at equal
  | .arr xs =>
    intro b r r' equal proper proper' ends ends' same
    cases b with
    | arr ys =>
      have equal : sameItems xs ys := equal
      have length : (literalItems xs).length = (literalItems ys).length := by
        rw [length_literalItems, length_literalItems, length_of_sameItems equal]
      simp only [literal, String.toList_append, String.reduceToList, List.append_assoc, List.cons_append,
        List.nil_append, List.cons.injEq, true_and] at same
      obtain ⟨rfl, rest⟩ := items_append_inj equal proper proper' (afterFirst_of_intercalate length same)
      exact ⟨rfl, rest⟩
    | _ => simp [sameData] at equal
  | .obj members =>
    intro b r r' equal proper proper' ends ends' same
    cases b with
    | obj others =>
      simp only [sameData, Bool.and_eq_true, beq_iff_eq] at equal
      have length : (literalMembers members).length = (literalMembers others).length := by
        rw [length_literalMembers, length_literalMembers, equal.1]
      simp only [literal, String.toList_append, String.reduceToList, List.append_assoc, List.cons_append,
        List.nil_append, List.cons.injEq, true_and] at same
      obtain ⟨rfl, rest⟩ := members_append_inj [] equal.2 equal.1 proper'.1 proper.2 proper'.2
        (afterFirst_of_intercalate length same)
      exact ⟨rfl, rest⟩
    | _ => simp [sameData] at equal
termination_by structural a

/-- Items of the same data are shown alike, up to the end of their arrays, only if they are the same. -/
theorem items_append_inj : ∀ {xs ys : List Json} {r r' : List Char}, sameItems xs ys → AreProper xs → AreProper ys →
    afterFirst (literalItems xs) ++ ']' :: r = afterFirst (literalItems ys) ++ ']' :: r' → xs = ys ∧ r = r'
  | [], [], _, _, _, _, _, same => ⟨rfl, (List.cons.inj same).2⟩
  | [], _ :: _, _, _, equal, _, _, _ => absurd equal (by simp [sameItems])
  | _ :: _, [], _, _, equal, _, _, _ => absurd equal (by simp [sameItems])
  | x :: xs, y :: ys, r, r', equal, proper, proper', same => by
    simp only [sameItems, Bool.and_eq_true] at equal
    simp only [literalItems, afterFirst, List.flatMap_cons, List.cons_append, List.append_assoc, List.cons.injEq,
      true_and] at same
    obtain ⟨rfl, later⟩ := literal_append_inj _ equal.1 proper.1 proper'.1 (ends_afterFirst _ (by decide) r)
      (ends_afterFirst _ (by decide) r') same
    obtain ⟨rfl, rest⟩ := items_append_inj equal.2 proper.2 proper'.2 later
    exact ⟨rfl, rest⟩
termination_by structural xs => xs

/-- Members that have the same data among others are shown like as many of these, up to the end of their objects, only
    if they are the same. -/
theorem members_append_inj : ∀ (before : List (String × Json)) {members others : List (String × Json)}
    {r r' : List Char},
    sameMembers members (before ++ others) → members.length = others.length →
    ((before ++ others).map (·.1)).Nodup → MembersAreProper members → MembersAreProper others →
    afterFirst (literalMembers members) ++ '\x7d' :: r = afterFirst (literalMembers others) ++ '\x7d' :: r' →
    members = others ∧ r = r'
  | _, [], [], _, _, _, _, _, _, _, same => ⟨rfl, (List.cons.inj same).2⟩
  | _, [], _ :: _, _, _, _, length, _, _, _, _ => absurd length (by simp)
  | _, _ :: _, [], _, _, _, length, _, _, _, _ => absurd length (by simp)
  | before, (key, value) :: members, (key', value') :: others, r, r', equal, length, distinct, proper, proper', same => by
    obtain ⟨rfl, values⟩ := member_append_inj same
    simp only [sameMembers, lookup_of_nodup distinct, Bool.and_eq_true] at equal
    obtain ⟨rfl, later⟩ := literal_append_inj _ equal.1 proper.1 proper'.1 (ends_afterFirst _ (by decide) r)
      (ends_afterFirst _ (by decide) r') values
    obtain ⟨rfl, rest⟩ := members_append_inj (before ++ [(key, value)]) (by simpa using equal.2)
      (Nat.succ.inj length) (by simpa using distinct) proper.2 proper'.2 later
    exact ⟨rfl, rest⟩
termination_by structural _ members => members

end

/-- Values that hold the same data have the same literal only if they are the same value. -/
theorem literal_inj {a b : Json} (equal : a.sameData b) (proper : a.Proper) (proper' : b.Proper)
    (same : a.literal = b.literal) : a = b :=
  have ends : Ends [] := fun _ mem => nomatch mem
  (literal_append_inj _ equal proper proper' ends ends (by rw [same])).1

end Json

end OperationClasses
