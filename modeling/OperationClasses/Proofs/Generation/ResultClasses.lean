/-
Module: OperationClasses.Proofs.Generation.ResultClasses
Purpose: When two fields of a class share the class of their values.
Main exports: Nests, Resolves, shared_class_iff
-/
import OperationClasses.Proofs.Generation.Readability
import OperationClasses.Proofs.Naming.Words

namespace OperationClasses

variable {settings : Settings} {s : Schema} {ds : List Document} {d : Document} {r : Registry}
  {p q : Progress} {g : Generator} {className : String} {o o' : Occurrence} {t t' : TypeDefinition}

/-! ### Names of result classes -/

/-- What a field adds to the name of a class has no underscores, however its alias and name are written. -/
theorem Occurrence.not_mem_suffix : '_' ∉ o.suffix.toList := by
  unfold suffix
  split
  · split
    · rw [String.toList_append, List.mem_append, not_or]
      exact ⟨Naming.not_mem_camelize _, Naming.not_mem_camelize _⟩
    · exact Naming.not_mem_camelize _
  · exact Naming.not_mem_camelize _

/-- The name of a result class is that of the class around it, the suffix of the field, and what follows the
    next underscore, if there is one. -/
theorem Occurrence.leafName_eq (r : Registry) (className type : String) (o : Occurrence) :
    ∃ rest, (r.leafName (o.wanted className) type).toList
        = className.toList ++ '_' :: (o.suffix.toList ++ rest)
      ∧ (rest = [] ∨ ∃ more, rest = '_' :: more) := by
  have shape : r.leafName (o.wanted className) type = o.wanted className
      ∨ r.leafName (o.wanted className) type = o.wanted className ++ "_" ++ type := by
    unfold Registry.leafName
    repeat' split
    all_goals simp
  rcases shape with plain | narrowed
  · exact ⟨[], by rw [plain]; simp [wanted], .inl rfl⟩
  · exact ⟨'_' :: type.toList, by rw [narrowed]; simp [wanted], .inr ⟨_, rfl⟩⟩

/-- Result classes of one name, for two fields of a class, come from one suffix. -/
theorem Occurrence.suffix_eq {type type' : String}
    (same : r.leafName (o.wanted className) type = r.leafName (o'.wanted className) type') :
    o.suffix = o'.suffix := by
  obtain ⟨rest, name, ends⟩ := o.leafName_eq r className type
  obtain ⟨rest', name', ends'⟩ := o'.leafName_eq r className type'
  have before : ∀ (suffix rest : List Char), '_' ∉ suffix → (rest = [] ∨ ∃ more, rest = '_' :: more) →
      (suffix ++ rest).takeWhile (· != '_') = suffix := by
    intro suffix rest free ends
    rw [List.takeWhile_append_of_pos fun c hc => by simpa using fun h : c = '_' => free (h ▸ hc)]
    obtain rfl | ⟨more, rfl⟩ := ends <;> simp
  rw [same, name', List.append_cancel_left_eq, List.cons.injEq] at name
  rw [← String.toList_inj, ← before _ rest not_mem_suffix ends, ← name.2, before _ rest' not_mem_suffix ends']

/-- The alias and the name of a field are written in ASCII, as they are in every document. -/
def Occurrence.Ascii (o : Occurrence) : Prop :=
  (∀ c ∈ o.key.toList, c.toNat < 0x80) ∧ ∀ c ∈ o.head.name.toList, c.toNat < 0x80

/-- What the suffix of a field is written from: the response key, and the name if that is another one. -/
def Occurrence.spelling (o : Occurrence) : List Char :=
  o.key.toList ++ if o.key = o.head.name then [] else o.head.name.toList

/-- A suffix has the letters of the alias and the name. -/
theorem Occurrence.letters_suffix (ascii : o.Ascii) :
    Naming.letters o.suffix.toList = Naming.letters o.spelling := by
  obtain ⟨asciiKey, asciiName⟩ := ascii
  have name := Naming.letters_camelize asciiName
  unfold suffix spelling
  rw [key, FieldHead.responseKey] at asciiKey ⊢
  cases aliased : o.head.aliasName with
  | none => simp [name]
  | some other =>
    rw [aliased, Option.getD_some] at asciiKey
    have key := Naming.letters_camelize asciiKey
    by_cases same : other = o.head.name
    · simp [same, name]
    · by_cases empty : other = ""
      · subst empty
        simp [same, name]
      · simp [same, empty, name, key, Naming.letters_append]

/-! ### The class of a field -/

/-- A field with a composite type stands in a selection set that a class is for in one of the documents. -/
structure Nests (s : Schema) (ds : List Document) (r : Registry) (className : String) (o : Occurrence)
    (t : TypeDefinition) : Prop where
  stems : ∃ d ∈ ds, Stems s d r className o
  notTypename : ¬ o.isTypename
  type : s.core? o.type = some t
  composite : t.body.isComposite

/-- The class of the values of a field: what the accessor of the field wraps them in, and what has an
    accessor for each response key that is selected below. -/
structure Resolves (s : Schema) (r : Registry) (className : String) (o : Occurrence) (t : TypeDefinition)
    (leaf : ObjectClass) : Prop where
  wraps : ∃ c a path typed, r.find? className = some c ∧ .field a ∈ c.methods
    ∧ Naming.accessorName o.key = .ok a.name ∧ path ∈ a.paths ∧ o.Wraps (classOutput leaf.name) typed
    ∧ path.expression = typed.deserializer
  value : o.valueClass s r className = some leaf.name
  registered : r.find? leaf.name = some (.leaf leaf)
  typed : leaf.typeName = t.name
  exposes : ∃ inner os, o.below = some inner ∧ occurrences s t inner = .ok os
    ∧ ∀ below ∈ os, ∃ m ∈ leaf.methods, Naming.accessorName below.key = .ok m.name

/-- A field with a composite type that was read has selections below it. -/
theorem Builds.selected_of_mem {found all : Accessors} {os : List Occurrence}
    (h : Builds settings className found os p all q) (mem : o ∈ os) (notTypename : ¬ o.isTypename)
    (type : settings.schema.core? o.type = some t) (composite : t.body.isComposite) :
    ∃ inner, o.below = some inner := by
  induction h with
  | nil => exact absurd mem List.not_mem_nil
  | typename _ _ isTypename _ _ ih =>
    rcases List.mem_cons.1 mem with rfl | mem
    · exact absurd isTypename notTypename
    · exact ih mem
  | value _ _ _ type' simple _ _ _ _ _ ih =>
    rcases List.mem_cons.1 mem with rfl | mem
    · cases type.symm.trans type'
      exact absurd composite simple
    · exact ih mem
  | object _ _ _ _ _ selected _ _ _ _ _ _ _ _ ih =>
    rcases List.mem_cons.1 mem with rfl | mem
    · exact ⟨_, selected⟩
    · exact ih mem

theorem ReadFor.selected_of_mem {owner : TypeDefinition} {selections : List Resolved} {os : List Occurrence}
    {all : Accessors} (h : ReadFor s r className owner selections os all) (mem : o ∈ os) (notTypename : ¬ o.isTypename)
    (type : s.core? o.type = some t) (composite : t.body.isComposite) : ∃ inner, o.below = some inner := by
  obtain ⟨-, ⟨settings, p, q, rfl, builds, -⟩, -⟩ := h
  exact builds.selected_of_mem mem notTypename type composite

/-- Every field with a composite type has a class for its values. -/
theorem Nests.resolves (ran : g.Ran s ds) (nests : Nests s ds g.progress.registry className o t) :
    ∃ leaf, Resolves s g.progress.registry className o t leaf := by
  obtain ⟨⟨d, hd, owner, selections, os, takes, occurs, mem⟩, notTypename, type, composite⟩ := nests
  obtain ⟨all, read⟩ := takes.readFor (ran.operationsRead .refl hd) occurs
  obtain ⟨inner, selected⟩ := read.selected_of_mem mem notTypename type composite
  obtain ⟨leaf, registered, typed⟩ := read.leaf mem notTypename type composite selected
  obtain ⟨below, inside, under⟩ := read.under mem notTypename type composite selected
  have named : leaf.name = _ := Registry.name_of_find? registered
  rw [← named] at registered
  refine ⟨leaf, ?_, ?_, registered, typed, ?_⟩
  · obtain ⟨c, a, path, found, accessor, name, hpath, of⟩ := read.contributes mem notTypename
    obtain ⟨core, typed, wraps, -, expression, leafCore⟩ := of.output
    rw [leafCore t type composite, ← named] at wraps
    exact ⟨c, a, path, typed, found, accessor, name, hpath, wraps, expression⟩
  · rw [Occurrence.valueClass_eq type composite, named]
  · refine ⟨inner, below, selected, under.occurs, fun o' ho' => ?_⟩
    obtain ⟨c, m, found, hm, name, -⟩ := under.accessor ho'
    rw [← named, registered] at found
    cases found
    exact ⟨m, hm, name⟩

/-- After documents were generated, every field with a composite type has a class for its values, and two
    fields of one class share it exactly if their types and suffixes are the same. The response keys play no
    part: where two that differ give one suffix, the class has the accessors of both selections. That takes
    aliases and names with the same letters, cut into words in another way. -/
theorem shared_class_iff (ran : g.Ran s ds) (nests : Nests s ds g.progress.registry className o t)
    (nests' : Nests s ds g.progress.registry className o' t') :
    ∃ leaf leaf', Resolves s g.progress.registry className o t leaf
      ∧ Resolves s g.progress.registry className o' t' leaf'
      ∧ (leaf = leaf' ↔ t.name = t'.name ∧ o.suffix = o'.suffix)
      ∧ (o.Ascii → o'.Ascii → leaf = leaf' → Naming.letters o.spelling = Naming.letters o'.spelling) := by
  obtain ⟨leaf, resolves⟩ := nests.resolves ran
  obtain ⟨leaf', resolves'⟩ := nests'.resolves ran
  have value := resolves.value
  have value' := resolves'.value
  rw [Occurrence.valueClass_eq nests.type nests.composite, Option.some.injEq] at value
  rw [Occurrence.valueClass_eq nests'.type nests'.composite, Option.some.injEq] at value'
  have suffix_eq : leaf = leaf' → o.suffix = o'.suffix := by
    intro same
    rw [← same, ← value] at value'
    exact Occurrence.suffix_eq value'.symm
  refine ⟨leaf, leaf', resolves, resolves', ⟨fun same => ⟨?_, suffix_eq same⟩, fun same => ?_⟩,
    fun ascii ascii' same => ?_⟩
  · rw [← resolves.typed, ← resolves'.typed, same]
  · obtain ⟨types, suffixes⟩ := same
    have names : leaf.name = leaf'.name := by
      rw [← value, ← value', types, Occurrence.wanted, Occurrence.wanted, suffixes]
    have found := resolves.registered
    rw [names, resolves'.registered] at found
    exact (ClassDefinition.leaf.inj (Option.some.inj found)).symm
  · rw [← Occurrence.letters_suffix ascii, ← Occurrence.letters_suffix ascii', suffix_eq same]

section

open SharedClass

/-- Two response keys for which the class has one class of values, with an accessor for what each of them
    selects. -/
theorem shared_class_alias_joined :
    generator.Ran schema [document] ∧ occurrenceAB.key ≠ occurrenceA.key
      ∧ Resolves schema registry "Q" occurrenceAB query shared
      ∧ Resolves schema registry "Q" occurrenceA query shared := by
  have ran : generator.Ran schema [document] := .generate (.start rfl) SharedClass.ends
  have nests : ∀ o ∈ [occurrenceAB, occurrenceA], Nests schema [document] registry "Q" o query := by
    intro o mem
    refine ⟨⟨document, List.mem_cons_self, query, _, _, takes_root, SharedClass.occurs, mem⟩, ?_, ?_, rfl⟩
    · fin_cases mem <;> decide
    · fin_cases mem <;> rfl
  obtain ⟨leaf, leaf', resolves, resolves', same, -⟩ := shared_class_iff ran
    (nests occurrenceAB List.mem_cons_self) (nests occurrenceA (List.mem_cons_of_mem _ List.mem_cons_self))
  have suffix : occurrenceAB.suffix = occurrenceA.suffix := by cbv
  obtain rfl := same.2 ⟨rfl, suffix⟩
  have isShared : leaf = shared := by
    have named : registry.leafName (occurrenceAB.wanted "Q") query.name = leaf.name :=
      Option.some.inj ((Occurrence.valueClass_eq (t := query) rfl rfl).symm.trans resolves.value)
    have registered : registry.find? leaf.name = some (.leaf leaf) := resolves.registered
    rw [← named, leafName.1] at registered
    cases registered
    rfl
  rw [← isShared]
  exact ⟨ran, by decide, resolves, resolves'⟩

end

end OperationClasses
