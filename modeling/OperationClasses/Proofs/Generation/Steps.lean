/-
Module: OperationClasses.Proofs.Generation.Steps
Purpose: What a step of a run yields or fails with, taken apart along the way the step is put together, and what it
  leaves behind either way.
Main exports: Yields, Fails, yields_bind_iff, fails_bind_iff, yields_register_iff, fails_register_iff, Leaves
-/
import OperationClasses.Fallible
import OperationClasses.Generation.State

namespace OperationClasses

open Generation

variable {α β : Type} {p q : Progress} {a b : α} {e f : Failure}

/-- A step takes a run from one progress to another and gives a value. -/
def Yields (m : Generation α) (p : Progress) (a : α) (q : Progress) : Prop := m.run.run p = (.ok a, q)

/-- A step stops a run and leaves a progress behind. -/
def Fails (m : Generation α) (p : Progress) (e : Failure) (q : Progress) : Prop :=
  m.run.run p = (.error e, q)

/-! ### Sequences -/

/-- A sequence yields what its second part yields after the first one. -/
theorem yields_bind_iff {m : Generation α} {k : α → Generation β} {b : β} :
    Yields (m >>= k) p b q ↔ ∃ a r, Yields m p a r ∧ Yields (k a) r b q := by
  unfold Yields
  rw [run_bind]
  rcases m.run.run p with ⟨e | a, r⟩
  · constructor
    · rintro ⟨⟩
    · rintro ⟨_, _, ⟨⟩, _⟩
  · constructor
    · exact fun h => ⟨a, r, rfl, h⟩
    · rintro ⟨_, _, ⟨⟩, h⟩
      exact h

/-- A sequence fails in its first part, or in the second one after the first. -/
theorem fails_bind_iff {m : Generation α} {k : α → Generation β} :
    Fails (m >>= k) p e q ↔ Fails m p e q ∨ ∃ a r, Yields m p a r ∧ Fails (k a) r e q := by
  unfold Fails Yields
  rw [run_bind]
  rcases m.run.run p with ⟨e' | a, r⟩
  · constructor
    · rintro ⟨⟩
      exact Or.inl rfl
    · rintro (⟨⟨⟩⟩ | ⟨_, _, ⟨⟩, _⟩)
      rfl
  · constructor
    · exact fun h => Or.inr ⟨a, r, rfl, h⟩
    · rintro (⟨⟨⟩⟩ | ⟨_, _, ⟨⟩, h⟩)
      exact h

/-- What a sequence of steps for the members of a list yields. -/
theorem yields_mapM_cons_iff {k : α → Generation β} {x : α} {xs : List α} {ys : List β} :
    Yields ((x :: xs).mapM k) p ys q
      ↔ ∃ y r others, Yields (k x) p y r ∧ Yields (xs.mapM k) r others q ∧ ys = y :: others := by
  rw [List.mapM_cons, yields_bind_iff]
  constructor
  · rintro ⟨y, r, first, rest⟩
    obtain ⟨others, r', later, last⟩ := yields_bind_iff.1 rest
    cases last
    exact ⟨y, r, others, first, later, rfl⟩
  · rintro ⟨y, r, others, first, later, rfl⟩
    exact ⟨y, r, first, yields_bind_iff.2 ⟨others, q, later, rfl⟩⟩

/-- A sequence of steps for the members of a list fails at one of them. -/
theorem fails_mapM_cons_iff {k : α → Generation β} {x : α} {xs : List α} :
    Fails ((x :: xs).mapM k) p e q
      ↔ Fails (k x) p e q ∨ ∃ y r, Yields (k x) p y r ∧ Fails (xs.mapM k) r e q := by
  rw [List.mapM_cons, fails_bind_iff]
  refine or_congr_right (exists_congr fun y => exists_congr fun r => and_congr_right fun _ => ?_)
  rw [fails_bind_iff]
  refine ⟨fun h => h.resolve_right ?_, Or.inl⟩
  rintro ⟨_, _, _, ⟨⟩⟩

/-! ### Single steps -/

@[simp] theorem yields_pure_iff : Yields (pure a) p b q ↔ b = a ∧ q = p := by
  constructor
  · rintro ⟨⟩
    exact ⟨rfl, rfl⟩
  · rintro ⟨rfl, rfl⟩
    rfl

@[simp] theorem not_fails_pure : ¬ Fails (pure a) p e q := by
  rintro ⟨⟩

@[simp] theorem not_yields_throw : ¬ Yields (throw e) p a q := by
  rintro ⟨⟩

@[simp] theorem fails_throw_iff : Fails (throw e : Generation α) p f q ↔ f = e ∧ q = p := by
  constructor
  · rintro ⟨⟩
    exact ⟨rfl, rfl⟩
  · rintro ⟨rfl, rfl⟩
    rfl

@[simp] theorem yields_get_iff {r : Progress} : Yields get p r q ↔ r = p ∧ q = p := by
  constructor
  · rintro ⟨⟩
    exact ⟨rfl, rfl⟩
  · rintro ⟨rfl, rfl⟩
    rfl

@[simp] theorem not_fails_get : ¬ Fails (get : Generation Progress) p e q := by
  rintro ⟨⟩

@[simp] theorem yields_set_iff {r : Progress} {u : Unit} : Yields (set r) p u q ↔ q = r := by
  constructor
  · rintro ⟨⟩
    rfl
  · rintro rfl
    rfl

@[simp] theorem not_fails_set {r : Progress} : ¬ Fails (set r : Generation Unit) p e q := by
  rintro ⟨⟩

@[simp] theorem yields_modify_iff {change : Progress → Progress} {u : Unit} :
    Yields (modify change) p u q ↔ q = change p := by
  constructor
  · rintro ⟨⟩
    rfl
  · rintro rfl
    rfl

@[simp] theorem not_fails_modify {change : Progress → Progress} :
    ¬ Fails (modify change : Generation Unit) p e q := by
  rintro ⟨⟩

@[simp] theorem yields_invariant_iff {x : Except InvariantFault α} :
    Yields (invariant x) p a q ↔ x = .ok a ∧ q = p := by
  cases x with
  | ok b =>
    rw [Generation.invariant, yields_pure_iff, Except.ok.injEq, eq_comm]
  | error fault =>
    rw [Generation.invariant]
    exact iff_of_false not_yields_throw (by rintro ⟨⟨⟩, _⟩)

@[simp] theorem fails_invariant_iff {x : Except InvariantFault α} :
    Fails (invariant x) p e q ↔ ∃ fault, x = .error fault ∧ e = .invariant fault ∧ q = p := by
  cases x with
  | ok b => exact iff_of_false not_fails_pure (by rintro ⟨_, ⟨⟩, _⟩)
  | error fault =>
    rw [Generation.invariant, fails_throw_iff]
    constructor
    · rintro ⟨rfl, rfl⟩
      exact ⟨fault, rfl, rfl, rfl⟩
    · rintro ⟨_, ⟨⟩, rfl, rfl⟩
      exact ⟨rfl, rfl⟩

@[simp] theorem yields_named_iff {x : Except Naming.NamingFault α} :
    Yields (named x) p a q ↔ x = .ok a ∧ q = p := by
  cases x with
  | ok b => rw [named, yields_pure_iff, Except.ok.injEq, eq_comm]
  | error fault =>
    rw [named]
    exact iff_of_false not_yields_throw (by rintro ⟨⟨⟩, _⟩)

/-- A name that is no use is not a broken condition. -/
theorem not_fails_named {x : Except Naming.NamingFault α} {fault : InvariantFault} :
    ¬ Fails (named x) p (.invariant fault) q := by
  cases x <;> rintro ⟨⟩

@[simp] theorem yields_converted_iff {x : Except ConversionFault α} :
    Yields (converted x) p a q ↔ x = .ok a ∧ q = p := by
  cases x with
  | ok b => rw [converted, yields_pure_iff, Except.ok.injEq, eq_comm]
  | error fault =>
    rw [converted]
    exact iff_of_false not_yields_throw (by rintro ⟨⟨⟩, _⟩)

/-- A conversion breaks a condition only by a layer that no type has. -/
theorem fails_converted {x : Except ConversionFault α} {fault : InvariantFault}
    (h : Fails (converted x) p (.invariant fault) q) : ∃ label, x = .error (.unknownLayer label) := by
  cases x with
  | ok b => cases h
  | error cause =>
    cases cause with
    | unknownLayer label => exact ⟨label, rfl⟩
    | template cause => cases h

/-! ### Registering -/

/-- A class is added under a free name, at the end. -/
theorem Registry.add_eq_ok_iff {r r' : Registry} {c : ClassDefinition} :
    r.add c = .ok r' ↔ c.name ∉ r.names ∧ r'.classes = r.classes ++ [c] := by
  unfold Registry.add
  split
  · rename_i taken
    exact iff_of_false (by rintro ⟨⟩) fun h => h.1 taken
  · rename_i free
    obtain ⟨classes, nodup⟩ := r'
    constructor
    · rintro ⟨⟩
      exact ⟨free, rfl⟩
    · rintro ⟨_, rfl⟩
      rfl

/-- A class is not added under a name that another class has. -/
theorem Registry.add_eq_error_iff {r : Registry} {c : ClassDefinition} {fault : InvariantFault} :
    r.add c = .error fault ↔ c.name ∈ r.names ∧ fault = .classTaken c.name := by
  unfold Registry.add
  split
  · rename_i taken
    constructor
    · rintro ⟨⟩
      exact ⟨taken, rfl⟩
    · rintro ⟨_, rfl⟩
      rfl
  · rename_i free
    exact iff_of_false (by rintro ⟨⟩) fun h => free h.1

/-- Adding a class under a free name. -/
theorem Registry.exists_add {r : Registry} {c : ClassDefinition} (free : c.name ∉ r.names) :
    ∃ r', r.add c = .ok r' := ⟨_, dif_neg free⟩

/-- A class is registered under a free name. -/
theorem yields_register_iff {c : ClassDefinition} {u : Unit} :
    Yields (register c) p u q
      ↔ ∃ registry, p.registry.add c = .ok registry ∧ q = { p with registry := registry } := by
  simp [register, yields_bind_iff]

/-- A class is not registered under a name that another class has. -/
theorem fails_register_iff {c : ClassDefinition} :
    Fails (register c) p e q ↔ c.name ∈ p.registry.names ∧ e = .invariant (.classTaken c.name)
    ∧ q = p := by
  have reaches : Fails (register c) p e q
      ↔ ∃ fault, p.registry.add c = .error fault ∧ e = .invariant fault ∧ q = p := by
    simp [register, fails_bind_iff, and_assoc]
  simp only [reaches, Registry.add_eq_error_iff]
  constructor
  · rintro ⟨_, ⟨taken, rfl⟩, rfl, rfl⟩
    exact ⟨taken, rfl, rfl⟩
  · rintro ⟨taken, rfl, rfl⟩
    exact ⟨_, ⟨taken, rfl⟩, rfl, rfl⟩

/-! ### What a step leaves behind -/

/-- However a step ends that starts from a progress, what it leaves behind has one property, and the value that it
    gives, if any, another one. -/
structure Leaves (I : Progress → Prop) (Q : α → Prop) (m : Generation α) (p : Progress) : Prop where
  yields : ∀ a q, Yields m p a q → I q ∧ Q a
  fails : ∀ e q, Fails m p e q → I q

namespace Leaves

variable {I J : Progress → Prop} {Q : α → Prop} {R : β → Prop} {m : Generation α}

theorem imp (h : Leaves I Q m p) (weaker : ∀ q, I q → J q) : Leaves J Q m p :=
  ⟨fun a q yields => ⟨weaker q (h.yields a q yields).1, (h.yields a q yields).2⟩,
    fun e q fails => weaker q (h.fails e q fails)⟩

theorem weaken {R : α → Prop} (h : Leaves I Q m p) (weaker : ∀ a, Q a → R a) : Leaves I R m p :=
  ⟨fun a q yields => ⟨(h.yields a q yields).1, weaker a (h.yields a q yields).2⟩, h.fails⟩

theorem bind {k : α → Generation β} (first : Leaves I Q m p)
    (second : ∀ a q, Yields m p a q → I q → Q a → Leaves I R (k a) q) : Leaves I R (m >>= k) p := by
  constructor
  · intro b q yields
    obtain ⟨a, between, reads, rest⟩ := yields_bind_iff.1 yields
    obtain ⟨kept, value⟩ := first.yields a between reads
    exact (second a between reads kept value).yields b q rest
  · intro e q fails
    rcases fails_bind_iff.1 fails with fails | ⟨a, between, reads, rest⟩
    · exact first.fails e q fails
    · obtain ⟨kept, value⟩ := first.yields a between reads
      exact (second a between reads kept value).fails e q rest

theorem pure {a : α} (kept : I p) (value : Q a) : Leaves I Q (pure a : Generation α) p := by
  constructor
  · intro b q yields
    obtain ⟨rfl, rfl⟩ := yields_pure_iff.1 yields
    exact ⟨kept, value⟩
  · intro e q fails
    exact absurd fails not_fails_pure

theorem throw {e : Failure} (kept : I p) : Leaves I Q (throw e : Generation α) p := by
  constructor
  · intro a q yields
    exact absurd yields not_yields_throw
  · intro f q fails
    obtain ⟨-, rfl⟩ := fails_throw_iff.1 fails
    exact kept

theorem get_bind {k : Progress → Generation β} (rest : Leaves I R (k p) p) :
    Leaves I R ((MonadState.get : Generation Progress) >>= k) p := by
  constructor
  · intro b q yields
    obtain ⟨_, _, reads, yields⟩ := yields_bind_iff.1 yields
    obtain ⟨rfl, rfl⟩ := yields_get_iff.1 reads
    exact rest.yields b q yields
  · intro e q fails
    rcases fails_bind_iff.1 fails with fails | ⟨_, _, reads, fails⟩
    · exact absurd fails not_fails_get
    · obtain ⟨rfl, rfl⟩ := yields_get_iff.1 reads
      exact rest.fails e q fails

theorem set {r : Progress} (kept : I r) : Leaves I (fun _ => True) (set r : Generation Unit) p := by
  constructor
  · intro u q yields
    obtain rfl := yields_set_iff.1 yields
    exact ⟨kept, trivial⟩
  · intro e q fails
    exact absurd fails not_fails_set

theorem modify {change : Progress → Progress} (kept : I (change p)) :
    Leaves I (fun _ => True) (modify change : Generation Unit) p := by
  constructor
  · intro u q yields
    obtain rfl := yields_modify_iff.1 yields
    exact ⟨kept, trivial⟩
  · intro e q fails
    exact absurd fails not_fails_modify

theorem invariant {x : Except InvariantFault α} (kept : I p) :
    Leaves I (fun a => x = .ok a) (Generation.invariant x) p := by
  cases x with
  | ok a => exact .pure kept rfl
  | error fault => exact .throw kept

theorem named {x : Except Naming.NamingFault α} (kept : I p) :
    Leaves I (fun a => x = .ok a) (Generation.named x) p := by
  cases x with
  | ok a => exact .pure kept rfl
  | error fault => exact .throw kept

theorem converted {x : Except ConversionFault α} (kept : I p) :
    Leaves I (fun a => x = .ok a) (Generation.converted x) p := by
  cases x with
  | ok a => exact .pure kept rfl
  | error fault => exact .throw kept

theorem register {c : ClassDefinition} (before : I p)
    (kept : ∀ registry, p.registry.add c = .ok registry → I { p with registry := registry }) :
    Leaves I (fun _ => True) (Generation.register c) p := by
  constructor
  · intro u q yields
    obtain ⟨registry, added, rfl⟩ := yields_register_iff.1 yields
    exact ⟨kept registry added, trivial⟩
  · intro e q fails
    obtain ⟨-, -, rfl⟩ := fails_register_iff.1 fails
    exact before

theorem mapM {k : α → Generation β} {xs : List α}
    (each : ∀ x ∈ xs, ∀ p, I p → Leaves I (fun _ => True) (k x) p) :
    ∀ p, I p → Leaves I (fun _ => True) (xs.mapM k) p := by
  induction xs with
  | nil =>
    intro p kept
    exact .pure kept trivial
  | cons x rest ih =>
    intro p kept
    obtain ⟨first, others⟩ := List.forall_mem_cons.1 each
    rw [List.mapM_cons]
    refine (first p kept).bind fun y between _ kept _ => ?_
    exact (ih others between kept).bind fun ys last _ kept _ => .pure kept trivial

end Leaves

end OperationClasses
