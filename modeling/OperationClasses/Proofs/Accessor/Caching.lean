/-
Module: OperationClasses.Proofs.Accessor.Caching
Purpose: An accessor that keeps what it derives is read like one that derives it anew each time.
Main exports: FieldAccess.read_observe, CachingAccess.plain, CachingAccess.Coherent, CachingAccess.reading_answers
-/
import OperationClasses.Accessor.Caching
import OperationClasses.Proofs.Accessor.Dispatch

namespace OperationClasses

open FieldAccess

/-! ### Readings do not disturb each other -/

namespace FieldAccess

variable {s : Schema} {a b : FieldAccess}

/-- What is read, other than the possible types of the owner, depends on the name, the reduced paths, and whether every
    type has the field. -/
theorem read_of_reduced (name : a.name = b.name) (reduced : a.reduced s = b.reduced s)
    (guaranteed : a.guaranteed s = b.guaranteed s) {what : Derived}
    (root : what = .rootPossible → a.rootPossible s = b.rootPossible s) : a.read s what = b.read s what := by
  have impossible : a.impossible s = b.impossible s := by
    rw [FieldAccess.impossible, FieldAccess.impossible, reduced]
  have branches : a.branches s = b.branches s := by
    rw [FieldAccess.branches, FieldAccess.branches, reduced, name]
  cases what with
  | reduced => exact reduced
  | rootPossible => exact root rfl
  | impossible => exact impossible
  | guaranteed => exact guaranteed
  | branches => exact branches
  | signature =>
    show a.signature s = b.signature s
    rw [FieldAccess.signature, FieldAccess.signature, reduced, guaranteed]
  | body =>
    show a.body s = b.body s
    rw [FieldAccess.body, FieldAccess.body, dispatch, dispatch, impossible, branches, guaranteed, name]

/-- What is read depends on the name, the paths, and the possible types of the owner. -/
theorem read_congr (name : a.name = b.name) (paths : a.paths = b.paths)
    (root : a.rootPossible s = b.rootPossible s) (what : Derived) : a.read s what = b.read s what := by
  have reduced : a.reduced s = b.reduced s := by rw [FieldAccess.reduced, FieldAccess.reduced, paths]
  refine read_of_reduced name reduced ?_ fun _ => root
  rw [FieldAccess.guaranteed, FieldAccess.guaranteed, reduced, root]

theorem freeze_of_error {fault : InvariantFault} (refused : a.reduced s = .error fault) : a.freeze s = a := by
  rw [freeze, refused]

theorem freeze_of_ok {surviving : List TypedPath} (reduced : a.reduced s = .ok surviving) :
    a.freeze s = { a with frozen := true } := by
  rw [freeze, reduced]

theorem keepRoot_of_error {fault : InvariantFault} (refused : a.rootPossible s = .error fault) :
    a.keepRoot s = a := by
  rw [keepRoot, refused]

theorem keepRoot_of_ok {types : NameSet} (read : a.rootPossible s = .ok types) :
    a.keepRoot s = { a with rootTypes := some types } := by
  rw [keepRoot, read]

theorem keepRoot_name_paths (s : Schema) (a : FieldAccess) :
    (a.keepRoot s).name = a.name ∧ (a.keepRoot s).paths = a.paths := by
  unfold keepRoot
  split <;> exact ⟨rfl, rfl⟩

theorem freeze_name_paths (s : Schema) (a : FieldAccess) :
    (a.freeze s).name = a.name ∧ (a.freeze s).paths = a.paths := by
  unfold freeze
  split <;> exact ⟨rfl, rfl⟩

theorem askGuaranteed_name_paths (s : Schema) (a : FieldAccess) :
    (a.askGuaranteed s).name = a.name ∧ (a.askGuaranteed s).paths = a.paths := by
  unfold askGuaranteed
  split
  · exact freeze_name_paths s a
  · obtain ⟨name, paths⟩ := keepRoot_name_paths s (a.freeze s)
    obtain ⟨name', paths'⟩ := freeze_name_paths s a
    exact ⟨name.trans name', paths.trans paths'⟩
  · exact ⟨rfl, rfl⟩

/-- Reading keeps the name and the paths of an accessor. -/
theorem observe_name_paths (s : Schema) (a : FieldAccess) (what : Derived) :
    (a.observe s what).name = a.name ∧ (a.observe s what).paths = a.paths := by
  cases what with
  | reduced | impossible | branches => exact freeze_name_paths s a
  | rootPossible => exact keepRoot_name_paths s a
  | guaranteed | signature => exact askGuaranteed_name_paths s a
  | body =>
    simp only [observe]
    split
    · exact askGuaranteed_name_paths s a
    · exact freeze_name_paths s a

/-- Freezing does not change what is read. -/
@[simp] theorem read_freeze (a : FieldAccess) (what : Derived) : (a.freeze s).read s what = a.read s what := by
  apply read_congr (freeze_name_paths s a).1 (freeze_name_paths s a).2
  unfold freeze
  split <;> rfl

/-- Keeping the possible types of the owner does not change what is read. -/
@[simp] theorem read_keepRoot (a : FieldAccess) (what : Derived) :
    (a.keepRoot s).read s what = a.read s what := by
  apply read_congr (keepRoot_name_paths s a).1 (keepRoot_name_paths s a).2
  cases read : a.rootPossible s with
  | error fault => rw [keepRoot_of_error read, read]
  | ok types =>
    rw [keepRoot_of_ok read]
    rfl

/-- What an accessor is after a reading: as before, frozen, with the types of its owner, or both. -/
theorem observe_cases (a : FieldAccess) (what : Derived) :
    a.observe s what = a ∨ a.observe s what = a.freeze s ∨ a.observe s what = a.keepRoot s
      ∨ a.observe s what = (a.freeze s).keepRoot s := by
  have asked : a.askGuaranteed s = a ∨ a.askGuaranteed s = a.freeze s ∨ a.askGuaranteed s = a.keepRoot s
      ∨ a.askGuaranteed s = (a.freeze s).keepRoot s := by
    unfold askGuaranteed
    split
    · exact Or.inr (Or.inl rfl)
    · exact Or.inr (Or.inr (Or.inr rfl))
    · exact Or.inl rfl
  cases what with
  | reduced | impossible | branches => exact Or.inr (Or.inl rfl)
  | rootPossible => exact Or.inr (Or.inr (Or.inl rfl))
  | guaranteed | signature => exact asked
  | body =>
    simp only [FieldAccess.observe]
    split
    · exact asked
    · exact Or.inr (Or.inl rfl)

/-- A reading does not change what is read afterwards. -/
@[simp] theorem read_observe (a : FieldAccess) (what what' : Derived) :
    (a.observe s what).read s what' = a.read s what' := by
  rcases observe_cases a what with same | same | same | same
  · rw [same]
  · rw [same, read_freeze]
  · rw [same, read_keepRoot]
  · rw [same, read_keepRoot, read_freeze]

@[simp] theorem reduced_freeze (a : FieldAccess) : (a.freeze s).reduced s = a.reduced s :=
  read_freeze a .reduced

@[simp] theorem reduced_keepRoot (a : FieldAccess) : (a.keepRoot s).reduced s = a.reduced s :=
  read_keepRoot a .reduced

@[simp] theorem rootPossible_freeze (a : FieldAccess) : (a.freeze s).rootPossible s = a.rootPossible s :=
  read_freeze a .rootPossible

@[simp] theorem rootPossible_keepRoot (a : FieldAccess) : (a.keepRoot s).rootPossible s = a.rootPossible s :=
  read_keepRoot a .rootPossible

@[simp] theorem freeze_freeze (a : FieldAccess) : (a.freeze s).freeze s = a.freeze s := by
  cases reduced : a.reduced s with
  | error fault => rw [freeze_of_error reduced, freeze_of_error reduced]
  | ok surviving =>
    rw [freeze_of_ok (by rwa [reduced_freeze]), freeze_of_ok reduced]

@[simp] theorem keepRoot_keepRoot (a : FieldAccess) : (a.keepRoot s).keepRoot s = a.keepRoot s := by
  cases read : a.rootPossible s with
  | error fault => rw [keepRoot_of_error read, keepRoot_of_error read]
  | ok types =>
    rw [keepRoot_of_ok (by rwa [rootPossible_keepRoot]), keepRoot_of_ok read]

/-- It makes no difference whether an accessor is frozen before or after it keeps the types of its owner. -/
theorem freeze_keepRoot (a : FieldAccess) : (a.keepRoot s).freeze s = (a.freeze s).keepRoot s := by
  cases reduced : a.reduced s with
  | error fault => rw [freeze_of_error (by rwa [reduced_keepRoot]), freeze_of_error reduced]
  | ok surviving =>
    rw [freeze_of_ok (by rwa [reduced_keepRoot])]
    cases read : a.rootPossible s with
    | error fault => rw [keepRoot_of_error read, keepRoot_of_error (by rwa [rootPossible_freeze]), freeze_of_ok reduced]
    | ok types =>
      rw [keepRoot_of_ok read, keepRoot_of_ok (by rwa [rootPossible_freeze]), freeze_of_ok reduced]

/-- An accessor is asked whether every type has the field before or after it is frozen. -/
theorem askGuaranteed_freeze (a : FieldAccess) : (a.freeze s).askGuaranteed s = (a.askGuaranteed s).freeze s := by
  unfold askGuaranteed
  rw [reduced_freeze]
  split
  · rfl
  · rw [freeze_keepRoot]
  · rfl

theorem askGuaranteed_keepRoot (a : FieldAccess) :
    (a.keepRoot s).askGuaranteed s = (a.askGuaranteed s).keepRoot s := by
  unfold askGuaranteed
  rw [reduced_keepRoot]
  split
  · exact freeze_keepRoot a
  · rw [freeze_keepRoot]
  · rfl

/-- Readings commute with freezing. -/
theorem observe_freeze (a : FieldAccess) (what : Derived) :
    (a.freeze s).observe s what = (a.observe s what).freeze s := by
  have branches : (a.freeze s).branches s = a.branches s := read_freeze a .branches
  cases what with
  | reduced | impossible | branches => rfl
  | rootPossible => exact (freeze_keepRoot a).symm
  | guaranteed | signature => exact askGuaranteed_freeze a
  | body =>
    simp only [FieldAccess.observe, branches]
    split
    · exact askGuaranteed_freeze a
    · rfl

/-- Readings commute with keeping the possible types of the owner. -/
theorem observe_keepRoot (a : FieldAccess) (what : Derived) :
    (a.keepRoot s).observe s what = (a.observe s what).keepRoot s := by
  have branches : (a.keepRoot s).branches s = a.branches s := read_keepRoot a .branches
  cases what with
  | reduced | impossible | branches => exact freeze_keepRoot a
  | rootPossible => rfl
  | guaranteed | signature => exact askGuaranteed_keepRoot a
  | body =>
    simp only [FieldAccess.observe, branches]
    split
    · exact askGuaranteed_keepRoot a
    · exact freeze_keepRoot a

/-- What leaves nothing new to be kept does not after another reading either. -/
theorem observe_observe_of_idle {what' : Derived} (idle : a.observe s what' = a) (what : Derived) :
    (a.observe s what).observe s what' = a.observe s what := by
  rcases observe_cases a what with same | same | same | same
  · rw [same, idle]
  · rw [same, observe_freeze, idle]
  · rw [same, observe_keepRoot, idle]
  · rw [same, observe_keepRoot, observe_freeze, idle]

theorem askGuaranteed_askGuaranteed (a : FieldAccess) :
    (a.askGuaranteed s).askGuaranteed s = a.askGuaranteed s := by
  cases reduced : a.reduced s with
  | error fault => simp only [askGuaranteed, reduced]
  | ok surviving =>
    cases surviving with
    | nil => simp only [askGuaranteed, reduced, reduced_freeze, freeze_freeze]
    | cons first rest =>
      simp only [askGuaranteed, reduced, reduced_freeze, reduced_keepRoot, freeze_keepRoot, freeze_freeze,
        keepRoot_keepRoot]

/-- An accessor that was asked whether every type has the field is frozen, if it can be. -/
theorem freeze_askGuaranteed (a : FieldAccess) : (a.askGuaranteed s).freeze s = a.askGuaranteed s := by
  unfold askGuaranteed
  split
  · exact freeze_freeze a
  · rw [freeze_keepRoot, freeze_freeze]
  · rename_i refused
    exact freeze_of_error refused

/-- Reading the same again leaves nothing new to be kept. -/
theorem observe_idle (a : FieldAccess) (what : Derived) :
    (a.observe s what).observe s what = a.observe s what := by
  cases what with
  | reduced | impossible | branches => exact freeze_freeze a
  | rootPossible => exact keepRoot_keepRoot a
  | guaranteed | signature => exact askGuaranteed_askGuaranteed a
  | body =>
    have branches : (a.observe s .body).branches s = a.branches s := read_observe a .body .branches
    cases listed : a.branches s with
    | error fault =>
      simp only [FieldAccess.observe, listed] at branches ⊢
      rw [branches]
      exact freeze_freeze a
    | ok bs =>
      simp only [FieldAccess.observe, listed] at branches ⊢
      rw [branches]
      exact askGuaranteed_askGuaranteed a

end FieldAccess

/-! ### What is kept -/

namespace CachingAccess

variable {α β : Type} {s : Schema} {c : CachingAccess} {what : Derived}

/-- The accessor as it is without the branches and texts that it keeps. -/
def plain (c : CachingAccess) : FieldAccess := ⟨c.name, c.paths, c.rootTypes, c.reduced.isSome⟩

/-- What is kept is what would be derived anew, and to derive it anew would leave nothing else to keep. -/
def Coherent (s : Schema) (c : CachingAccess) : Prop :=
  ∀ what value, c.kept? what = some value →
    c.plain.read s what = .ok value ∧ c.plain.observe s what = c.plain

theorem Coherent.fresh (name : String) (paths : List Path) : (CachingAccess.fresh name paths).Coherent s := by
  intro what value kept
  cases what <;> cases kept

/-- What is kept from now on is kept, and nothing else is kept anew. -/
theorem kept?_keep {what' : Derived} {value : what.Value} {value' : what'.Value}
    (kept : (c.keep what value).kept? what' = some value') :
    c.kept? what' = some value' ∨ ∃ same : what = what', same ▸ value = value' := by
  cases what <;> cases what' <;>
    first
    | exact Or.inl kept
    | exact Or.inr ⟨rfl, Option.some.inj kept⟩

/-- Caches stay coherent as what was read is kept. -/
theorem Coherent.keep {value : what.Value} (coherent : c.Coherent s)
    (read : c.plain.read s what = .ok value)
    (after : (c.keep what value).plain = c.plain.observe s what) : (c.keep what value).Coherent s := by
  intro what' value' kept
  rw [after, read_observe]
  rcases kept?_keep kept with before | ⟨rfl, rfl⟩
  · obtain ⟨read', idle⟩ := coherent what' value' before
    exact ⟨read', observe_observe_of_idle idle what⟩
  · exact ⟨read, observe_idle c.plain what⟩

/-- A reading that asks for the accessor goes on with it. -/
theorem run_get_bind (k : CachingAccess → Reading α) (c : CachingAccess) : (get >>= k : Reading α) c = k c c := rfl

/-- A reading gives a result and leaves an accessor, given a coherent one. -/
structure Answers (s : Schema) (c : CachingAccess) (m : Reading α) (result : Except InvariantFault α)
    (after : FieldAccess) : Prop where
  result : (m c).1 = result
  coherent : (m c).2.Coherent s
  after : (m c).2.plain = after

namespace Answers

variable {m : Reading α} {k : α → Reading β} {a b : FieldAccess} {value : α} {fault : InvariantFault}

theorem pure (coherent : c.Coherent s) (after : c.plain = a) (value : α) :
    Answers s c (pure value) (.ok value) a :=
  ⟨rfl, coherent, after⟩

theorem get (coherent : c.Coherent s) : Answers s c get (.ok c) c.plain := ⟨rfl, coherent, rfl⟩

theorem throw (coherent : c.Coherent s) (after : c.plain = a) (fault : InvariantFault) :
    Answers s c (throw fault : Reading α) (.error fault) a :=
  ⟨rfl, coherent, after⟩

theorem derived (coherent : c.Coherent s) (after : c.plain = a) (outcome : Except InvariantFault α) :
    Answers s c (Reading.derived outcome) outcome a := by
  cases outcome with
  | error fault => exact throw coherent after fault
  | ok value => exact pure coherent after value

/-- A reading goes on with the value and the accessor that its first part leaves. -/
theorem bind {result : Except InvariantFault β} (first : Answers s c m (.ok value) a)
    (rest : ∀ c', c'.Coherent s → c'.plain = a → Answers s c' (k value) result b) :
    Answers s c (m >>= k) result b := by
  obtain ⟨gives, coherent, after⟩ := first
  have rest := rest _ coherent after
  have runs : (m >>= k) c = k value (m c).2 := by
    rcases run : m c with ⟨outcome, c'⟩
    rw [run] at gives
    cases gives
    simp [Bind.bind, ExceptT.bind, ExceptT.mk, ExceptT.bindCont, StateT.bind, run]
  exact ⟨runs ▸ rest.result, runs ▸ rest.coherent, runs ▸ rest.after⟩

/-- A reading whose first part fails fails. -/
theorem bind_error (first : Answers s c m (.error fault) a) : Answers s c (m >>= k) (.error fault) a := by
  obtain ⟨gives, coherent, after⟩ := first
  have runs : (m >>= k) c = (.error fault, (m c).2) := by
    rcases run : m c with ⟨outcome, c'⟩
    rw [run] at gives
    cases gives
    simp [Bind.bind, ExceptT.bind, ExceptT.mk, ExceptT.bindCont, StateT.bind, run, Pure.pure, StateT.pure]
  exact ⟨runs ▸ rfl, runs ▸ coherent, runs ▸ after⟩

/-- Something that is kept is read from there, and kept when it is first derived. -/
theorem kept (what : Derived) {derive : Reading what.Value} (coherent : c.Coherent s)
    (derives : c.kept? what = none → Answers s c derive (c.plain.read s what) a)
    (leaves : a = c.plain ∨ a = c.plain.observe s what)
    (fails : ∀ fault, c.plain.read s what = .error fault → a = c.plain.observe s what)
    (fills : ∀ value (c' : CachingAccess), c.plain.read s what = .ok value → c'.plain = a →
      (c'.keep what value).plain = c.plain.observe s what) :
    Answers s c (Reading.kept what derive) (c.plain.read s what) (c.plain.observe s what) := by
  cases known : c.kept? what with
  | some value =>
    obtain ⟨read, idle⟩ := coherent what value known
    have runs : Reading.kept what derive c = (.ok value, c) := by
      rw [Reading.kept, run_get_bind, known]
      rfl
    rw [read, idle]
    exact ⟨congrArg Prod.fst runs, runs ▸ coherent, runs ▸ rfl⟩
  | none =>
    have runs : Reading.kept what derive c
        = (derive >>= fun value => do modify (·.keep what value); return value) c := by
      rw [Reading.kept, run_get_bind, known]
    suffices answers : Answers s c (derive >>= fun value => do modify (·.keep what value); return value)
        (c.plain.read s what) (c.plain.observe s what) from
      ⟨runs ▸ answers.result, runs ▸ answers.coherent, runs ▸ answers.after⟩
    have first := derives known
    cases read : c.plain.read s what with
    | error fault =>
      rw [read, fails fault read] at first
      exact first.bind_error
    | ok value =>
      rw [read] at first
      refine first.bind fun c' coherent' after => ?_
      have again : c'.plain.read s what = .ok value ∧ c'.plain.observe s what = c.plain.observe s what := by
        rw [after]
        rcases leaves with rfl | rfl
        · exact ⟨read, rfl⟩
        · exact ⟨(read_observe _ what what).trans read, observe_idle _ what⟩
      have filled := fills value c' read after
      exact ⟨rfl, coherent'.keep again.1 (filled.trans again.2.symm), filled⟩

end Answers

/-! ### Each reading -/

/-- The paths that decide the accessor are reduced once. -/
theorem reduced_answers (coherent : c.Coherent s) :
    Answers s c (Reading.reduced s) (c.plain.reduced s) (c.plain.freeze s) := by
  refine Answers.kept .reduced coherent (fun _ => ?_) (Or.inl rfl) ?_ ?_
  · refine (Answers.get coherent).bind fun c₁ coherent₁ after => ?_
    have resolves := Answers.derived coherent₁ after (TypedPath.resolve s c.paths)
    show Answers s c₁ _ (TypedPath.resolve s c.paths >>= _) _
    cases resolved : TypedPath.resolve s c.paths with
    | error fault =>
      rw [resolved] at resolves
      exact resolves.bind_error
    | ok paths =>
      rw [resolved] at resolves
      exact resolves.bind fun c₂ coherent₂ same => Answers.pure coherent₂ same _
  · exact fun fault refused => (freeze_of_error refused).symm
  · intro surviving c₁ reduced after
    show _ = c.plain.freeze s
    rw [freeze_of_ok reduced, ← after]
    rfl

/-- The possible types of the owner are looked up once. -/
theorem rootPossible_answers (coherent : c.Coherent s) :
    Answers s c (Reading.rootPossible s) (c.plain.rootPossible s) (c.plain.keepRoot s) := by
  refine Answers.kept .rootPossible coherent (fun unknown => ?_) (Or.inl rfl) ?_ ?_
  · refine (Answers.get coherent).bind fun c₁ coherent₁ after => ?_
    have unread : c.plain.rootTypes = none := unknown
    have owners : (NameSet.ofList (c.paths.map (·.owner))).toList = c.plain.roots.toList := rfl
    show Answers s c₁ _ (c.plain.rootPossible s) _
    rw [FieldAccess.rootPossible, unread, owners]
    rcases c.plain.roots.toList with _ | ⟨root, _ | ⟨next, rest⟩⟩
    · exact Answers.throw coherent₁ after _
    · exact Answers.derived coherent₁ after _
    · exact Answers.throw coherent₁ after _
  · exact fun fault refused => (keepRoot_of_error refused).symm
  · intro types c₁ read after
    show _ = c.plain.keepRoot s
    rw [keepRoot_of_ok read, ← after]
    rfl

theorem impossible_answers (coherent : c.Coherent s) :
    Answers s c (Reading.impossible s) (c.plain.impossible s) (c.plain.freeze s) := by
  have reduces := reduced_answers coherent
  show Answers s c _ (c.plain.reduced s >>= _) _
  cases reduced : c.plain.reduced s with
  | error fault =>
    rw [reduced] at reduces
    exact reduces.bind_error
  | ok surviving =>
    rw [reduced] at reduces
    exact reduces.bind fun c₁ coherent₁ after => Answers.pure coherent₁ after _

/-- Paths that were reduced already are at hand. -/
theorem reduced_again {surviving : List TypedPath} {a : FieldAccess} (reduced : a.reduced s = .ok surviving)
    (coherent : c.Coherent s) (after : c.plain = a.freeze s) :
    Answers s c (Reading.reduced s) (.ok surviving) (a.freeze s) := by
  have again := reduced_answers coherent
  rwa [after, reduced_freeze, freeze_freeze, reduced] at again

theorem guaranteed_answers (coherent : c.Coherent s) :
    Answers s c (Reading.guaranteed s) (c.plain.guaranteed s) (c.plain.askGuaranteed s) := by
  have asks := impossible_answers coherent
  rw [FieldAccess.guaranteed, askGuaranteed]
  cases reduced : c.plain.reduced s with
  | error fault =>
    rw [FieldAccess.impossible, reduced, freeze_of_error reduced] at asks
    exact asks.bind_error
  | ok surviving =>
    rw [impossible_eq reduced] at asks
    cases surviving with
    | nil => exact asks.bind fun c₁ coherent₁ after => Answers.pure coherent₁ after _
    | cons first rest =>
      refine asks.bind fun c₁ coherent₁ after => ?_
      refine (reduced_again reduced coherent₁ after).bind fun c₂ coherent₂ same => ?_
      have looks := rootPossible_answers coherent₂
      rw [same, rootPossible_freeze] at looks
      show Answers s c₂ _ (c.plain.rootPossible s >>= _) _
      cases read : c.plain.rootPossible s with
      | error fault =>
        rw [read] at looks
        exact looks.bind_error
      | ok types =>
        rw [read] at looks
        exact looks.bind fun c₃ coherent₃ last => Answers.pure coherent₃ last _

/-- Whether every type has the field can be asked after the paths were reduced. -/
theorem guaranteed_again {a : FieldAccess} (coherent : c.Coherent s) (after : c.plain = a.freeze s) :
    Answers s c (Reading.guaranteed s) (a.guaranteed s) (a.askGuaranteed s) := by
  have again := guaranteed_answers coherent
  have same : (a.freeze s).guaranteed s = a.guaranteed s := read_freeze a .guaranteed
  rwa [after, same, askGuaranteed_freeze, freeze_askGuaranteed] at again

theorem branches_answers (coherent : c.Coherent s) :
    Answers s c (Reading.branches s) (c.plain.branches s) (c.plain.freeze s) := by
  refine Answers.kept .branches coherent (fun _ => ?_) (Or.inr rfl) (fun _ _ => rfl) fun _ _ _ after => after
  have reduces := reduced_answers coherent
  show Answers s c _ (c.plain.reduced s >>= _) (c.plain.freeze s)
  cases reduced : c.plain.reduced s with
  | error fault =>
    rw [reduced] at reduces
    exact reduces.bind_error
  | ok surviving =>
    rw [reduced] at reduces
    refine reduces.bind fun c₁ coherent₁ after => ?_
    have named : c₁.name = c.plain.name := (congrArg FieldAccess.name after).trans (freeze_name_paths s c.plain).1
    simp only [Bind.bind, Except.bind]
    cases firstOverlap (branchesOf surviving) with
    | some types =>
      refine (Answers.get coherent₁).bind fun c₂ coherent₂ same => ?_
      rw [named]
      exact Answers.throw coherent₂ (same.trans after) _
    | none => exact Answers.pure coherent₁ after _

theorem signature_answers (coherent : c.Coherent s) :
    Answers s c (Reading.signature s) (c.plain.signature s) (c.plain.askGuaranteed s) := by
  refine Answers.kept .signature coherent (fun _ => ?_) (Or.inr rfl) (fun _ _ => rfl) fun _ _ _ after => after
  have asks := impossible_answers coherent
  show Answers s c _ (c.plain.reduced s >>= _) (c.plain.askGuaranteed s)
  cases reduced : c.plain.reduced s with
  | error fault =>
    rw [FieldAccess.impossible, reduced, freeze_of_error reduced] at asks
    rw [askGuaranteed, reduced]
    exact asks.bind_error
  | ok surviving =>
    rw [impossible_eq reduced] at asks
    refine asks.bind fun c₁ coherent₁ after => ?_
    show Answers s c₁ _ (c.plain.guaranteed s >>= _) _
    cases surviving with
    | nil =>
      rw [askGuaranteed, FieldAccess.guaranteed, reduced]
      exact Answers.pure coherent₁ after _
    | cons first rest =>
      have answers := guaranteed_again coherent₁ after
      cases told : c.plain.guaranteed s with
      | error fault =>
        rw [told] at answers
        exact answers.bind_error
      | ok guaranteed =>
        rw [told] at answers
        refine answers.bind fun c₂ coherent₂ same => ?_
        have again := reduced_answers coherent₂
        have stays : c₂.plain.reduced s = .ok (first :: rest) := by
          rw [same]
          exact (read_observe c.plain .guaranteed .reduced).trans reduced
        rw [same, freeze_askGuaranteed, ← same, stays, same] at again
        exact again.bind fun c₃ coherent₃ last => Answers.pure coherent₃ last _

/-- The body is the text of the choice that the accessor makes by runtime type. -/
theorem body_answers (coherent : c.Coherent s) :
    Answers s c (Reading.body s) (c.plain.body s) (c.plain.observe s .body) := by
  refine Answers.kept .body coherent (fun _ => ?_) (Or.inr rfl) (fun _ _ => rfl) fun _ _ _ after => after
  have asks := impossible_answers coherent
  show Answers s c _ (c.plain.dispatch s >>= _) (c.plain.observe s .body)
  cases reduced : c.plain.reduced s with
  | error fault =>
    have refused : c.plain.branches s = .error fault := by
      rw [FieldAccess.branches, reduced]
      rfl
    have unread : c.plain.dispatch s = .error fault := by
      rw [dispatch, FieldAccess.impossible, reduced]
      rfl
    rw [FieldAccess.impossible, reduced] at asks
    simp only [FieldAccess.observe, refused, unread]
    exact asks.bind_error
  | ok surviving =>
    rw [impossible_eq reduced] at asks
    refine asks.bind fun c₁ coherent₁ after => ?_
    rw [dispatch, impossible_eq reduced]
    cases surviving with
    | nil =>
      have listed : c.plain.branches s = .ok (sortBranches []) := by
        rw [FieldAccess.branches, reduced]
        rfl
      simp only [FieldAccess.observe, listed, askGuaranteed, reduced]
      exact Answers.pure coherent₁ after _
    | cons first rest =>
      have lists := branches_answers coherent₁
      have same : (c.plain.freeze s).branches s = c.plain.branches s := read_freeze c.plain .branches
      rw [after, same, freeze_freeze] at lists
      show Answers s c₁ (Reading.branches s >>= _) ((c.plain.branches s >>= _) >>= _) _
      cases listed : c.plain.branches s with
      | error fault =>
        rw [listed] at lists
        simp only [FieldAccess.observe, listed]
        exact lists.bind_error
      | ok branches =>
        rw [listed] at lists
        simp only [FieldAccess.observe, listed]
        refine lists.bind fun c₂ coherent₂ frozen => ?_
        have answers := guaranteed_again coherent₂ frozen
        show Answers s c₂ _ ((c.plain.guaranteed s >>= _) >>= _) _
        cases told : c.plain.guaranteed s with
        | error fault =>
          rw [told] at answers
          exact answers.bind_error
        | ok guaranteed =>
          rw [told] at answers
          refine answers.bind fun c₃ coherent₃ last => ?_
          have named : c₃.name = c.plain.name :=
            (congrArg FieldAccess.name last).trans (askGuaranteed_name_paths s c.plain).1
          refine (Answers.get coherent₃).bind fun c₄ coherent₄ kept => ?_
          rw [named]
          cases branches with
          | nil => exact Answers.pure coherent₄ (kept.trans last) _
          | cons b others => cases others <;> exact Answers.pure coherent₄ (kept.trans last) _

/-- **Caching**: an accessor that keeps what it derives is read like one that derives it anew each time, and goes
    on like it. -/
theorem reading_answers (coherent : c.Coherent s) (what : Derived) :
    Answers s c (reading s what) (c.plain.read s what) (c.plain.observe s what) := by
  cases what with
  | reduced => exact reduced_answers coherent
  | rootPossible => exact rootPossible_answers coherent
  | impossible => exact impossible_answers coherent
  | guaranteed => exact guaranteed_answers coherent
  | branches => exact branches_answers coherent
  | signature => exact signature_answers coherent
  | body => exact body_answers coherent

end CachingAccess

end OperationClasses
