/-
Module: OperationClasses.Proofs.Conversion.Filling
Purpose: Where a template has no hole but the one that is filled, what is written with it can be written, whatever
  the layers of the type.
Main exports: Text.OnlyHole, Text.exists_fillOne, exists_inputConversion_of_onlyHole
-/
import OperationClasses.Proofs.Conversion.InputMeaning
import OperationClasses.Proofs.Generation.Failures

namespace OperationClasses

namespace Text

/-- A piece of a template is a character or a hole of one name. A misplaced dollar is neither: it begins a hole that
    has no name. -/
def Piece.isFor (name : String) : Piece → Bool
  | .char _ => true
  | .hole other => other == name
  | .misplaced _ => false

/-- A template has no hole but that of one name: each dollar in it begins that hole or is one of two that stand for
    a dollar. -/
def OnlyHole (name template : String) : Prop := ∀ piece ∈ pieces template, piece.isFor name

/-- A template with no other hole can be filled. -/
theorem exists_fillOne {name template : String} (only : OnlyHole name template) (value : String) :
    ∃ text, fillOne name value template = .ok text := by
  rw [fillOne, fill]
  suffices filled : ∃ texts, (pieces template).mapM _ = Except.ok (ε := HoleError) texts by
    obtain ⟨texts, filled⟩ := filled
    exact ⟨_, bind_eq_ok.2 ⟨texts, filled, rfl⟩⟩
  refine exists_mapM_ok fun piece hpiece => ?_
  have fits := only piece hpiece
  cases piece with
  | char c => exact ⟨String.singleton c, rfl⟩
  | hole other =>
    rw [Piece.isFor, beq_iff_eq] at fits
    subst fits
    refine ⟨value, ?_⟩
    simp only [if_pos]
    rfl
  | misplaced => cases fits

end Text

open Conversion

/-- Known layers of a variable can be written, where its template can be filled. -/
theorem Conversion.exists_sent {fill : String → Except Text.HoleError String} {name : String}
    (fills : ∀ value, ∃ text, fill value = .ok text) {layers : List Layer}
    (known : ∀ label, .unknown label ∉ layers) (binding : String) :
    ∃ text, Sent fill name layers binding (listDepth layers) text := by
  induction layers generalizing binding with
  | nil =>
    obtain ⟨text, filled⟩ := fills binding
    exact ⟨text, .core binding, rfl, filled⟩
  | cons layer rest ih =>
    have others : ∀ label, .unknown label ∉ rest := fun label h => known label (List.mem_cons_of_mem _ h)
    cases layer with
    | unknown label => exact absurd List.mem_cons_self (known label)
    | nullable =>
      obtain ⟨text, sent⟩ := ih others binding
      exact ⟨_, sent_nullable sent⟩
    | list =>
      obtain ⟨text, sent⟩ := ih others (itemAt name (listDepth rest))
      rw [listDepth, List.count_cons_self]
      exact ⟨_, sent_list binding sent⟩

/-- A variable is written through the layers of its type, if its template has no hole but the one for the value. -/
theorem exists_inputConversion_of_onlyHole {template : String} (only : Text.OnlyHole valueHole template)
    (type : TypeRef) (name : String) :
    ∃ text, inputConversion type.layers name name (listDepth type.layers) template = .ok text := by
  obtain ⟨text, sent⟩ : ∃ text, Sent (fun value => Text.fillOne valueHole value template) name type.layers name
      (listDepth type.layers) text :=
    exists_sent (Text.exists_fillOne only) (fun _ => TypeRef.not_unknown_mem_layers) name
  exact ⟨text, inputConversion_of_sent sent⟩

end OperationClasses
