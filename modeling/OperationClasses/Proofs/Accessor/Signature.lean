/-
Module: OperationClasses.Proofs.Accessor.Signature
Purpose: The signature of an accessor admits what its body gives. Its alternatives are the signatures of the surviving
  paths, and it is optional as a whole exactly if a possible type of the owner is not covered; the outer optional
  layers that the alternatives had of their own are cut off as text.
Main exports: Layered, Bares, FieldAccess.withoutOptional_rewrap, Signature, Signature.Describes, Signature.Admits,
  FieldAccess.signature_sound
-/
import OperationClasses.Layer
import OperationClasses.Proofs.Accessor.Covering

namespace OperationClasses

/-! ### Outer optional layers -/

/-- The layers inside an outer optional one, or all of them if the outermost one is not optional. -/
def Layer.inside : List Layer → List Layer
  | [] => []
  | .list :: rest => .list :: rest
  | .nullable :: rest | .unknown _ :: rest => rest

/-- A signature begins like an optional one. -/
def OpensOptional (signature : String) : Prop := "Optional[".toList <+: signature.toList

/-- A signature is that of layers around a core signature that does not begin like an optional one. -/
def Layered (signature : String) : Prop := ∃ core layers, ¬ OpensOptional core ∧ signature = rewrap core layers

/-- A layered signature without its outer optional layer, if it has one, is another signature. -/
def Bares (signature bare : String) : Prop :=
  ∃ core layers, ¬ OpensOptional core ∧ signature = rewrap core layers ∧ bare = rewrap core (Layer.inside layers)

namespace FieldAccess

/-- What stands in an optional signature is left when the optional layer is cut off. -/
theorem withoutOptional_optional (signature : String) :
    withoutOptional ("Optional[" ++ signature ++ "]") = signature := by
  have opens : "Optional[".toList.isPrefixOf ("Optional[" ++ signature ++ "]").toList := by
    rw [List.isPrefixOf_iff_prefix, String.toList_append, String.toList_append, List.append_assoc]
    exact List.prefix_append _ _
  rw [withoutOptional, if_pos opens, String.toList_append, String.toList_append, List.append_assoc]
  rw [show 9 = "Optional[".toList.length from rfl, List.drop_left]
  rw [show "]".toList = [']'] from rfl, List.dropLast_concat, String.ofList_toList]

/-- A signature that does not begin like an optional one stays as it is. -/
theorem withoutOptional_of_not_opens {signature : String} (closed : ¬ OpensOptional signature) :
    withoutOptional signature = signature := by
  rw [withoutOptional, if_neg]
  rwa [List.isPrefixOf_iff_prefix]

theorem not_opensOptional_list (signature : String) : ¬ OpensOptional ("List[" ++ signature ++ "]") := by
  rw [OpensOptional, String.toList_append, String.toList_append]
  simp

/-- Cutting off the text of an optional layer takes the outer layer away. -/
theorem withoutOptional_rewrap {core : String} (closed : ¬ OpensOptional core) (layers : List Layer) :
    withoutOptional (rewrap core layers) = rewrap core (Layer.inside layers) := by
  cases layers with
  | nil => exact withoutOptional_of_not_opens closed
  | cons outer rest =>
    cases outer with
    | list => exact withoutOptional_of_not_opens (not_opensOptional_list _)
    | nullable => exact withoutOptional_optional _
    | unknown label => exact withoutOptional_optional _

/-- What is left of a layered signature is what stands when the text of an outer optional layer is cut off. -/
theorem bares_iff {signature bare : String} (layered : Layered signature) :
    Bares signature bare ↔ withoutOptional signature = bare := by
  constructor
  · rintro ⟨core, layers, closed, rfl, rfl⟩
    exact withoutOptional_rewrap closed layers
  · rintro rfl
    obtain ⟨core, layers, closed, rfl⟩ := layered
    exact ⟨core, layers, closed, rfl, withoutOptional_rewrap closed layers⟩

end FieldAccess

/-! ### What signatures say -/

/-- What the signature of an accessor says of its values. Alternatives stand once each and in order. -/
inductive Signature where
  /-- there is no value -/
  | nothing
  /-- a value of one of the alternatives -/
  | value (alternatives : NameSet)
  /-- a value of one of the alternatives, or none -/
  | optional (alternatives : NameSet)

namespace Signature

/-- One alternative as it is, several as a union. -/
def unionText : List String → String
  | [one] => one
  | many => "Union[" ++ ", ".intercalate many ++ "]"

/-- How a signature is written. -/
def text : Signature → String
  | .nothing => "None"
  | .value alternatives => unionText alternatives.toList
  | .optional alternatives => "Optional[" ++ unionText alternatives.toList ++ "]"

/-- A signature says what the surviving paths of an accessor on values of `root` give. -/
def Describes (s : Schema) (a : FieldAccess) (root : String) (surviving : List TypedPath) : Signature → Prop
  | .nothing => a.impossible s = .ok true
  | .value alternatives =>
    a.impossible s = .ok false
      ∧ (∀ x, x ∈ alternatives ↔ ∃ p ∈ surviving, p.path.signature = x)
      ∧ ∀ t, Possible s root t → ∃ p ∈ a.paths, p.Compatible s t
  | .optional alternatives =>
    a.impossible s = .ok false
      ∧ (∀ x, x ∈ alternatives ↔ ∃ p ∈ surviving, Bares p.path.signature x)
      ∧ ∃ t, Possible s root t ∧ ¬ ∃ p ∈ a.paths, p.Compatible s t

/-- A signature admits a value of some signature, or that there is no value. -/
inductive Admits : Signature → Option String → Prop where
  | never : Admits .nothing none
  | alternative {alternatives : NameSet} {signature : String} (mem : signature ∈ alternatives) :
      Admits (.value alternatives) (some signature)
  /-- the outer optional layer of the value's own signature is the one around all alternatives -/
  | inside {alternatives : NameSet} {signature bare : String} (bares : Bares signature bare)
      (mem : bare ∈ alternatives) : Admits (.optional alternatives) (some signature)
  | absent {alternatives : NameSet} : Admits (.optional alternatives) none

/-- The signature for surviving paths. -/
def ofPaths (surviving : List TypedPath) (guaranteed : Bool) : Signature :=
  if surviving.isEmpty then .nothing
  else if guaranteed then .value (.ofList (surviving.map (·.path.signature)))
  else .optional (.ofList (surviving.map fun p => FieldAccess.withoutOptional p.path.signature))

theorem text_ofPaths (surviving : List TypedPath) (guaranteed : Bool) :
    (ofPaths surviving guaranteed).text = FieldAccess.signatureOf surviving guaranteed := by
  unfold ofPaths FieldAccess.signatureOf
  split
  · rfl
  · split <;> rfl

end Signature

namespace FieldAccess

variable {s : Schema} {a : FieldAccess} {root : String} {surviving : List TypedPath} {guaranteed : Bool}

/-- The surviving paths of an accessor have layered signatures if all of its paths do. -/
theorem layered_of_mem_reduced (layered : ∀ p ∈ a.paths, Layered p.signature) (reduced : a.reduced s = .ok surviving)
    {p : TypedPath} (hp : p ∈ surviving) : Layered p.path.signature :=
  layered p.path (mem_of_mem_reduced reduced hp).1

/-- The signature for the surviving paths describes the accessor. -/
theorem describes_ofPaths (layered : ∀ p ∈ a.paths, Layered p.signature) (reduced : a.reduced s = .ok surviving)
    (covers : guaranteed = true ↔ surviving ≠ [] ∧ ∀ t, Possible s root t → ∃ p ∈ surviving, t ∈ p.types) :
    (Signature.ofPaths surviving guaranteed).Describes s a root surviving := by
  have impossible := impossible_eq reduced
  simp only [← compatible_iff_mem_reduced reduced] at covers
  unfold Signature.ofPaths
  split
  · rename_i none_
    rwa [none_] at impossible
  · rename_i some_
    rw [Bool.eq_false_iff.2 some_] at impossible
    split
    · rename_i all
      refine ⟨impossible, ?_, (covers.1 all).2⟩
      intro x
      rw [NameSet.mem_ofList, List.mem_map]
    · rename_i open_
      refine ⟨impossible, ?_, ?_⟩
      · intro x
        rw [NameSet.mem_ofList, List.mem_map]
        apply exists_congr
        intro p
        apply and_congr_right
        intro hp
        exact (bares_iff (layered_of_mem_reduced layered reduced hp)).symm
      · by_contra uncovered
        push Not at uncovered
        refine open_ (covers.2 ⟨?_, uncovered⟩)
        simpa using some_

/-- A value that a surviving path gives is admitted. -/
theorem admits_of_mem_reduced (layered : ∀ p ∈ a.paths, Layered p.signature) (reduced : a.reduced s = .ok surviving)
    {p : TypedPath} (hp : p ∈ surviving) :
    (Signature.ofPaths surviving guaranteed).Admits (some p.path.signature) := by
  have some_ : ¬ surviving.isEmpty := by simpa using List.ne_nil_of_mem hp
  rw [Signature.ofPaths, if_neg some_]
  split
  · apply Signature.Admits.alternative
    exact NameSet.mem_ofList.2 (List.mem_map_of_mem hp)
  · have bares := (bares_iff (layered_of_mem_reduced layered reduced hp)).2 rfl
    apply Signature.Admits.inside bares
    exact NameSet.mem_ofList.2 (List.mem_map_of_mem hp)

/-- That there is no value is admitted unless every type has the field. -/
theorem admits_absence (none_or : surviving = [] ∨ guaranteed = false) :
    (Signature.ofPaths surviving guaranteed).Admits none := by
  unfold Signature.ofPaths
  split
  · exact .never
  · rename_i some_
    rw [none_or.resolve_left (by simpa using some_)]
    exact .absent

/-- **Signature soundness**: the signature of an accessor whose paths all start from one type and have layered
    signatures can be told. It says that there is no value if the accessor is impossible. Otherwise its alternatives
    are the signatures of the surviving paths, without their outer optional layers if some possible type of the owner
    is covered by no path, and exactly then it is optional as a whole. If the branches can be told, the signature
    admits whatever the body does for a possible type: a value of a surviving path compatible with the type or, if no
    path is, no value. -/
theorem signature_sound (built : a.Built s) (rooted : ∀ p ∈ a.paths, p.owner = root)
    (layered : ∀ p ∈ a.paths, Layered p.signature) (reduced : a.reduced s = .ok surviving) :
    ∃ signature : Signature, a.signature s = .ok signature.text ∧ signature.Describes s a root surviving
      ∧ ∀ branches, a.branches s = .ok branches → ∃ body, a.body s = .ok (bodyText body)
        ∧ ∀ t, Possible s root t →
          (∀ p ∈ surviving, p.path.Compatible s t →
            Statement.runAll t false body = some (.converts p.path.expression)
              ∧ signature.Admits (some p.path.signature))
          ∧ ((¬ ∃ p ∈ surviving, p.path.Compatible s t) →
            Statement.runAll t false body = some .nothing ∧ signature.Admits none) := by
  obtain ⟨guaranteed, told, covers⟩ := guaranteed_iff built.rootKept rooted reduced
  refine ⟨.ofPaths surviving guaranteed, ?_, describes_ofPaths layered reduced covers, ?_⟩
  · rw [Signature.text_ofPaths]
    exact signature_eq_ok reduced told
  · intro branches listed
    obtain ⟨apart, rfl⟩ := (branches_eq_ok_iff reduced).1 listed
    obtain ⟨choice, chosen, served, unserved, -⟩ := dispatch_runs reduced apart listed told
    refine ⟨choice.statements a.name, ?_, ?_⟩
    · rw [FieldAccess.body, chosen, Dispatch.bodyText_statements]
      rfl
    · intro t possible
      simp only [Dispatch.runAll_statements]
      constructor
      · intro p hp compatible
        have ht := (mem_types_iff reduced hp).2 compatible
        exact ⟨congrArg some (served p hp t ht), admits_of_mem_reduced layered reduced hp⟩
      · intro incompatible
        have uncovered : ¬ ∃ p ∈ surviving, t ∈ p.types := by
          rintro ⟨p, hp, ht⟩
          exact incompatible ⟨p, hp, (mem_types_iff reduced hp).1 ht⟩
        have open_ : guaranteed = false := by
          by_contra all
          exact uncovered ((covers.1 (by simpa using all)).2 t possible)
        exact ⟨congrArg some (unserved t uncovered (Or.inr open_)), admits_absence (Or.inr open_)⟩

/-- Two of three object types behind an interface select a field, one of them a nullable one. The optional layer of that
    one is drawn to the outside, where the type without the field needs it too. -/
theorem signature_of_nullable_and_required :
    let s : Schema := ⟨[⟨"Node", [], .interface [] []⟩, ⟨"User", [], .object ["Node"] []⟩,
      ⟨"Bot", [], .object ["Node"] []⟩, ⟨"Org", [], .object ["Node"] []⟩], [], none, none, none⟩
    let login : Path := ⟨"name", "Optional[str]", "return login", "Node", ["User"]⟩
    let numbers : Path := ⟨"name", "List[Optional[int]]", "return numbers", "Node", ["Org"]⟩
    let a := fresh "name" [login, numbers]
    let surviving : List TypedPath := [⟨login, .singleton "User"⟩, ⟨numbers, .singleton "Org"⟩]
    a.Built s ∧ (∀ p ∈ a.paths, p.owner = "Node") ∧ (∀ p ∈ a.paths, Layered p.signature)
      ∧ a.reduced s = .ok surviving ∧ a.signature s = .ok "Optional[Union[List[Optional[int]], str]]"
      ∧ ∃ signature : Signature, signature.text = "Optional[Union[List[Optional[int]], str]]"
        ∧ signature.Describes s a "Node" surviving
        ∧ ∃ body, a.body s = .ok (bodyText body)
          ∧ Statement.runAll "User" false body = some (.converts "return login")
          ∧ signature.Admits (some "Optional[str]")
          ∧ Statement.runAll "Bot" false body = some .nothing ∧ signature.Admits none := by
  intro s login numbers a surviving
  have built : a.Built s := .fresh _ _
  have rooted : ∀ p ∈ a.paths, p.owner = "Node" := by decide
  have layered : ∀ p ∈ a.paths, Layered p.signature := by
    intro p hp
    rcases List.mem_pair.1 hp with rfl | rfl
    · exact ⟨"str", [.nullable], by unfold OpensOptional; decide, by decide⟩
    · exact ⟨"int", [.list, .nullable], by unfold OpensOptional; decide, by decide⟩
  have reduced : a.reduced s = .ok surviving := by cbv
  have open_ : a.guaranteed s = .ok false := by cbv
  have written : a.signature s = .ok "Optional[Union[List[Optional[int]], str]]" := by
    rw [signature_eq_ok reduced open_]
    decide +kernel
  have listed : a.branches s
      = .ok [⟨.singleton "Org", "return numbers"⟩, ⟨.singleton "User", "return login"⟩] := by cbv
  have possible : s.runtimeTypes "Node" = .ok (.ofList ["User", "Bot", "Org"]) := by cbv
  have user_possible : Possible s "Node" "User" := ⟨_, possible, by decide⟩
  have bot_possible : Possible s "Node" "Bot" := ⟨_, possible, by decide⟩
  have missing : ¬ ∃ p ∈ surviving, p.path.Compatible s "Bot" := by
    rintro ⟨p, hp, compatible⟩
    have ht := (mem_types_iff reduced hp).2 compatible
    rcases List.mem_pair.1 hp with rfl | rfl
    · exact absurd ht (by decide)
    · exact absurd ht (by decide)
  obtain ⟨signature, same, describes, admits⟩ := signature_sound built rooted layered reduced
  obtain ⟨body, spelled, runs⟩ := admits _ listed
  have compatible := (mem_types_iff reduced (t := "User") List.mem_cons_self).1 (by decide)
  have user := (runs "User" user_possible).1 _ List.mem_cons_self compatible
  have bot := (runs "Bot" bot_possible).2 missing
  exact ⟨built, rooted, layered, reduced, written, signature, Except.ok.inj (same.symm.trans written), describes, body,
    spelled, user.1, user.2, bot⟩

end FieldAccess

end OperationClasses
