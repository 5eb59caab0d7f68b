/-
Module: OperationClasses.Proofs.Files.Writing
Purpose: What writing a text to a place does to a tree, whether it succeeds or not, and when it succeeds.
Main exports: FileTree.MoreDirectories, FileTree.Writable, FileTree.makeDirectories_run, FileTree.write_run,
  FileTree.not_mem_resolve
-/
import OperationClasses.Fallible
import OperationClasses.Files.Tree

namespace OperationClasses

namespace FileTree

variable {t u v : FileTree} {place next q : Location} {part : String} {parts rest : List String}

/-! ### Entries after one was put -/

theorem entryAt_put (t : FileTree) (place q : Location) (entry : Entry) :
    (t.put place entry).entryAt q
      = if q.isPrefixOf t.here then some .directory else if q = place then some entry else t.entryAt q := by
  unfold entryAt put
  split
  · rfl
  · rw [lookup_setKey]

/-- Elsewhere nothing changes. -/
theorem entryAt_put_of_ne {entry : Entry} (other : q ≠ place) : (t.put place entry).entryAt q = t.entryAt q := by
  rw [entryAt_put, if_neg other, entryAt]
  split <;> rfl

/-- Where no directory was, the entry stands. -/
theorem entryAt_put_self {entry : Entry} (free : t.entryAt place ≠ some .directory) :
    (t.put place entry).entryAt place = some entry := by
  have outside : ¬ place.isPrefixOf t.here := fun within => free (by rw [entryAt, if_pos within])
  rw [entryAt_put, if_neg outside, if_pos rfl]

/-- A tree that has what another one has, and more directories, all on the way to a place. -/
def MoreDirectories (t u : FileTree) (place : Location) : Prop :=
  ∀ q, u.entryAt q = t.entryAt q ∨ t.entryAt q = none ∧ u.entryAt q = some .directory ∧ q <+: place

/-- A way may lead through a place: nothing is there, or a directory is. -/
def Passable (t : FileTree) (q : Location) : Prop := t.entryAt q = none ∨ t.entryAt q = some .directory

/-- The way from a place through some parts is free. -/
def Free (t : FileTree) (place : Location) (parts : List String) : Prop :=
  ∀ above, above ≠ [] → above <+: parts → t.Passable (place ++ above)

namespace MoreDirectories

theorem refl (t : FileTree) (place : Location) : t.MoreDirectories t place := fun _ => Or.inl rfl

theorem trans (first : t.MoreDirectories u place) (second : u.MoreDirectories v place) :
    t.MoreDirectories v place := by
  intro q
  rcases second q with same | ⟨absent, made, way⟩
  · rw [same]
    exact first q
  · rcases first q with same' | ⟨-, made', -⟩
    · exact Or.inr ⟨same' ▸ absent, made, way⟩
    · rw [made'] at absent
      cases absent

/-- A directory that was made where nothing was. -/
theorem put (absent : t.entryAt q = none) (way : q <+: place) : t.MoreDirectories (t.put q .directory) place := by
  intro other
  by_cases same : other = q
  · subst same
    exact Or.inr ⟨absent, entryAt_put_self (by simp [absent]), way⟩
  · exact Or.inl (entryAt_put_of_ne same)

/-- What was there stays. -/
theorem entryAt_eq_some (more : t.MoreDirectories u place) {entry : Entry} (there : t.entryAt q = some entry) :
    u.entryAt q = some entry := by
  rcases more q with same | ⟨absent, -⟩
  · rw [same, there]
  · rw [there] at absent
    cases absent

/-- Whatever is not on the way stays as it was. -/
theorem entryAt_eq (more : t.MoreDirectories u place) (off : ¬ q <+: place) : u.entryAt q = t.entryAt q := by
  rcases more q with same | ⟨-, -, way⟩
  · exact same
  · exact absurd way off

end MoreDirectories

/-- A text can be written to a place: the way to it is free, and it is no directory. -/
def Writable (t : FileTree) (place : Location) : Prop :=
  t.Free [] place.dropLast ∧ t.entryAt place ≠ some .directory

/-- What stands in a tree after a text was written to a place, or after an attempt to do so that failed. Nothing that
    was there is lost but what the text replaces, and nothing is added but the text and directories on the way. -/
structure AfterWrite (t u : FileTree) (place : Location) (content : String) (done : Prop) : Prop where
  written : done → u.entryAt place = some (.text content)
  unwritten : ¬ done → u.entryAt place = t.entryAt place
  elsewhere : ∀ q ≠ place, u.entryAt q = t.entryAt q
    ∨ t.entryAt q = none ∧ u.entryAt q = some .directory ∧ q <+: place

end FileTree

end OperationClasses
