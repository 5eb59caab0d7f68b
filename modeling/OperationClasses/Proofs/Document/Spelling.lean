/-
Module: OperationClasses.Proofs.Document.Spelling
Purpose: What a document that was read calls its operations, variables and fields is spelled like a name.
Main exports: Makes, Selection.heads, Document.heads, Document.Spelled, Accepted.spelled
-/
import OperationClasses.Document.Reader
import OperationClasses.Proofs.Validation.Acceptance

namespace OperationClasses

variable {α β : Type} {P Q : α → Prop} {R : β → Prop}

/-! ### Tokens -/

/-- The names among tokens are spelled like names. -/
def TokensSpelled (tokens : List Token) : Prop := ∀ text, Token.name text ∈ tokens → Token.isName text

namespace TokensSpelled

variable {tokens rest : List Token} {t : Token}

theorem of_sublist (h : TokensSpelled tokens) (sub : rest.Sublist tokens) : TokensSpelled rest :=
  fun text mem => h text (sub.subset mem)

theorem tail (h : TokensSpelled (t :: rest)) : TokensSpelled rest := h.of_sublist (List.sublist_cons_self _ _)

theorem cons (own : ∀ text, t = .name text → Token.isName text) (h : TokensSpelled rest) :
    TokensSpelled (t :: rest) := by
  intro text mem
  rcases List.mem_cons.1 mem with rfl | mem
  · exact own text rfl
  · exact h text mem

end TokensSpelled

/-- A number is not a name. -/
theorem Token.scanNumber_ne_name {s : List Char} {token : Token} {length : Nat}
    (h : scanNumber s = some (token, length)) (text : String) : token ≠ .name text := by
  unfold scanNumber at h
  obtain ⟨⟨numeral, l⟩, _, h⟩ := Option.bind_eq_some_iff.1 h
  dsimp only at h
  split at h
  · cases h
  · split at h <;> cases h <;> exact Token.noConfusion

/-- The names among the tokens of a text are spelled like names. -/
theorem Token.scanChars_spelled {s : List Char} {tokens : List Token} (h : scanChars s = some tokens) :
    TokensSpelled tokens := by
  fun_induction scanChars s generalizing tokens with
  | case1 =>
    cases h
    exact fun _ h => absurd h List.not_mem_nil
  | case2 _ ih | case3 _ _ _ _ _ ih | case5 _ _ _ _ _ _ ih | case9 _ _ _ _ _ _ _ _ ih =>
    obtain ⟨others, read, rfl⟩ := Option.map_eq_some_iff.1 h
    exact .cons (fun _ same => by cases same) (ih read)
  | case4 | case6 | case12 => cases h
  | case7 _ _ _ _ _ _ ih | case8 _ _ _ _ _ _ _ ih => exact ih h
  | case10 c rest _ _ _ _ _ _ start ih =>
    obtain ⟨others, read, rfl⟩ := Option.map_eq_some_iff.1 h
    refine .cons (fun text same => ?_) (ih read)
    cases same
    rw [isName, String.toList_ofList]
    exact Bool.and_eq_true_iff.2 ⟨start, List.all_takeWhile⟩
  | case11 c rest _ _ _ _ _ _ _ token length number ih =>
    obtain ⟨others, read, rfl⟩ := Option.map_eq_some_iff.1 h
    exact .cons (fun text same => absurd same (scanNumber_ne_name number text)) (ih read)

/-! ### Readers -/

/-- What a sequence of readers reads. -/
theorem Parse.bind_eq_some_iff {reader : Parse α} {next : α → Parse β} {s rest : List Token} {b : β} :
    (reader >>= next) s = some (b, rest) ↔ ∃ a s', reader s = some (a, s') ∧ next a s' = some (b, rest) := by
  constructor
  · intro read
    obtain ⟨⟨a, s'⟩, first, second⟩ := Option.bind_eq_some_iff.1 read
    exact ⟨a, s', first, second⟩
  · rintro ⟨a, s', first, second⟩
    exact Option.bind_eq_some_iff.2 ⟨(a, s'), first, second⟩

/-- What was read has a property, and names are left that are spelled like names. -/
def Made (P : α → Prop) (result : Option (α × List Token)) : Prop :=
  ∀ a rest, result = some (a, rest) → P a ∧ TokensSpelled rest

/-- Where the names among tokens are spelled like names, a reader reads something of a property, and leaves such
    tokens. -/
def Makes (P : α → Prop) (reader : Parse α) : Prop := ∀ s, TokensSpelled s → Made P (reader s)

/-- Anything may be read. -/
def Anything (_ : α) : Prop := True

namespace Made

theorem none : Made P none := fun _ _ h => by cases h

theorem some {a : α} {rest : List Token} (own : P a) (left : TokensSpelled rest) : Made P (some (a, rest)) := by
  intro b rest' same
  cases same
  exact ⟨own, left⟩

theorem map {result : Option (α × List Token)} {f : α → β} (h : Made P result) (all : ∀ a, P a → R (f a)) :
    Made R (result.map fun (a, rest) => (f a, rest)) := by
  intro b left same
  obtain ⟨⟨a, between⟩, read, made⟩ := Option.map_eq_some_iff.1 same
  cases made
  obtain ⟨own, spelled⟩ := h a left read
  exact ⟨all a own, spelled⟩

theorem bind {result : Option (α × List Token)} {next : α × List Token → Option (β × List Token)}
    (h : Made P result) (later : ∀ a rest, P a → TokensSpelled rest → Made R (next (a, rest))) :
    Made R (result >>= next) := by
  intro b left same
  obtain ⟨⟨a, rest⟩, read, last⟩ := Option.bind_eq_some_iff.1 same
  obtain ⟨own, spelled⟩ := h a rest read
  exact later a rest own spelled b left last

end Made

namespace Makes

variable {reader : Parse α}

theorem imp (h : Makes P reader) (weaker : ∀ a, P a → Q a) : Makes Q reader :=
  fun s spelled a rest read => ⟨weaker a (h s spelled a rest read).1, (h s spelled a rest read).2⟩

theorem pure {a : α} (own : P a) : Makes P (pure a) := fun _ spelled => .some own spelled

theorem failure : Makes P (failure : Parse α) := fun _ _ => .none

theorem bind {next : α → Parse β} (first : Makes P reader) (second : ∀ a, P a → Makes R (next a)) :
    Makes R (reader >>= next) := by
  intro s spelled b rest read
  obtain ⟨a, between, reads, later⟩ := Parse.bind_eq_some_iff.1 read
  obtain ⟨own, left⟩ := first s spelled a between reads
  exact second a own between left b rest later

theorem map {f : α → β} (h : Makes P reader) (all : ∀ a, P a → R (f a)) : Makes R (f <$> reader) :=
  h.bind fun a own => .pure (all a own)

end Makes

namespace Parse

theorem token_makes (t : Token) : Makes Anything (token t) := by
  intro s spelled
  unfold token
  split
  · exact .none
  · split
    · exact .some trivial spelled.tail
    · exact .none

theorem optionalToken_makes (t : Token) : Makes Anything (optionalToken t) := by
  intro s spelled
  unfold optionalToken
  split
  · exact .some trivial spelled
  · split
    · exact .some trivial spelled.tail
    · exact .some trivial spelled

theorem name_makes : Makes (fun text => Token.isName text) name := by
  intro s spelled
  unfold name
  split
  · exact .some (spelled _ List.mem_cons_self) spelled.tail
  · exact .none

theorem optionalName_makes : Makes (fun found => ∀ text, found = some text → Token.isName text) optionalName := by
  intro s spelled
  unfold optionalName
  split
  · refine .some (fun text same => ?_) spelled.tail
    cases same
    exact spelled _ List.mem_cons_self
  · exact .some (fun _ same => by cases same) spelled

theorem description_makes : Makes Anything description := by
  intro s spelled
  unfold description
  split
  · exact .some trivial spelled.tail
  · exact .some trivial spelled

theorem upTo_makes {close : Token} {item : Parse α} (each : Makes P item) :
    Makes (fun items => ∀ a ∈ items, P a) (upTo close item) := by
  intro s spelled
  fun_induction upTo close item s with
  | case1 => exact .none
  | case2 => exact .some (fun _ h => absurd h List.not_mem_nil) spelled.tail
  | case3 => exact .none
  | case4 head rest _ a rest' read _ ih =>
    obtain ⟨own, left⟩ := each _ spelled a rest' read
    exact (ih left).map fun more others => List.forall_mem_cons.2 ⟨own, others⟩
  | case5 => exact .none

theorem group_makes {opening closing : Char} {item : Parse α} (each : Makes P item) :
    Makes (fun items => ∀ a ∈ items, P a) (group opening closing item) := by
  apply (optionalToken_makes _).bind
  intro opened _
  split
  · apply (upTo_makes each).bind
    intro items all
    split
    · exact .failure
    · exact .pure all
  · exact .pure fun _ h => absurd h List.not_mem_nil

theorem typeRef_makes (room : Nat) : Makes Anything (typeRef room) := by
  intro s spelled
  fun_induction typeRef room s with
  | case1 room text rest =>
    exact (optionalToken_makes _ _ spelled.tail).bind fun _ _ _ left => .some trivial left
  | case2 room rest ih =>
    apply (ih spelled.tail).bind
    intro item rest _ left
    apply (token_makes _ _ left).bind
    intro _ rest _ left
    exact (optionalToken_makes _ _ left).bind fun _ _ _ left => .some trivial left
  | case3 => exact .none

mutual

theorem value_makes (room : Nat) (constant : Bool) (s : List Token) (spelled : TokensSpelled s) :
    Made Anything (value room constant s) := by
  unfold value
  split
  · split
    · exact .none
    · exact .some trivial spelled.tail.tail
  · exact .some trivial spelled.tail
  · exact .some trivial spelled.tail
  · exact .some trivial spelled.tail
  · split <;> exact .some trivial spelled.tail
  · split
    · exact .none
    · exact (listItems_makes _ constant _ spelled.tail).map fun _ _ => trivial
  · split
    · exact .none
    · exact (objectFields_makes _ constant _ spelled.tail).map fun _ _ => trivial
  · exact .none
termination_by (s.length, 0)

theorem listItems_makes (room : Nat) (constant : Bool) (s : List Token) (spelled : TokensSpelled s) :
    Made Anything (listItems room constant s) := by
  unfold listItems
  split
  · exact .some trivial (spelled.of_sublist (List.tail_sublist s))
  · split
    · exact .none
    · rename_i item rest read
      have left := (value_makes room constant s spelled _ _ read).2
      split
      · exact (listItems_makes room constant rest left).map fun _ _ => trivial
      · exact .none
termination_by (s.length, 1)

theorem objectFields_makes (room : Nat) (constant : Bool) (s : List Token) (spelled : TokensSpelled s) :
    Made Anything (objectFields room constant s) := by
  unfold objectFields
  split
  · exact .some trivial spelled.tail
  · split
    · exact .none
    · rename_i rest _ item rest' read
      have left := (value_makes room constant _ spelled.tail.tail _ _ read).2
      split
      · exact (objectFields_makes room constant rest' left).map fun _ _ => trivial
      · exact .none
  · exact .none
termination_by (s.length, 1)
decreasing_by
  all_goals subst_vars
  all_goals simp [Prod.lex_def]
  all_goals omega

end

theorem arguments_makes (room : Nat) (constant : Bool) : Makes Anything (arguments room constant) := by
  have each : Makes Anything (argument room constant) := by
    apply name_makes.bind
    intro _ _
    apply (token_makes _).bind
    intro _ _
    apply Makes.bind (value_makes room constant)
    exact fun _ _ => .pure trivial
  exact (group_makes each).imp fun _ _ => trivial

theorem directives_makes (room : Nat) (constant : Bool) : Makes Anything (directives room constant) := by
  intro s spelled
  fun_induction directives room constant s with
  | case1 => exact .none
  | case2 text rest args rest' read shorter ih =>
    have left := (arguments_makes room constant _ spelled.tail.tail _ _ read).2
    exact (ih left).map fun _ _ => trivial
  | case3 => exact .none
  | case4 => exact .none
  | case5 => exact .some trivial spelled

end Parse

/-! ### Fields -/

mutual

/-- The fields that are selected in a selection, at all depths. -/
def Selection.heads : Selection → List FieldHead
  | .leaf head => [head]
  | .nested head selections => head :: headsAll selections
  | .spread .. => []
  | .inline _ _ selections => headsAll selections

/-- The fields that are selected in a list of selections. -/
def headsAll : List Selection → List FieldHead
  | [] => []
  | member :: rest => member.heads ++ headsAll rest

end

/-- A field is selected under a name and a response key that are spelled like names. -/
def FieldHead.Spelled (head : FieldHead) : Prop := Token.isName head.name ∧ Token.isName head.responseKey

namespace Parse

theorem fieldHead_makes (room : Nat) : Makes FieldHead.Spelled (fieldHead room) := by
  apply name_makes.bind
  intro first isFirst
  have further : ∀ head : FieldHead, head.Spelled → Makes FieldHead.Spelled (do
      let args ← arguments room false
      return ⟨head.aliasName, head.name, args, ← directives room false⟩) := by
    intro head spelled
    apply (arguments_makes room false).bind
    intro _ _
    exact (directives_makes room false).bind fun _ _ => .pure spelled
  apply (optionalToken_makes _).bind
  intro aliased _
  dsimp only
  split
  · apply name_makes.bind
    intro other isOther
    exact further ⟨some first, other, [], []⟩ ⟨isOther, isFirst⟩
  · exact further ⟨none, first, [], []⟩ ⟨isFirst, isFirst⟩

theorem inlineHead_makes (room : Nat) : Makes Anything (inlineHead room) := by
  have further : ∀ condition : Option String, Makes Anything (do
      return (condition, ← directives room false)) :=
    fun _ => (directives_makes room false).bind fun _ _ => .pure trivial
  apply (optionalToken_makes _).bind
  intro narrowed _
  dsimp only
  split
  · exact (name_makes.map fun _ _ => trivial).bind fun condition (_ : Anything condition) => further condition
  · exact further none

mutual

theorem selection_makes (room : Nat) (s : List Token) (spelled : TokensSpelled s) :
    Made (fun x => ∀ head ∈ x.heads, head.Spelled) (selection room s) := by
  unfold selection
  split
  · split
    · exact inlineFragment_makes room _ spelled.tail
    · exact (directives_makes room false _ spelled.tail.tail).bind fun _ _ _ left =>
        .some (fun _ h => absurd h List.not_mem_nil) left
  · exact inlineFragment_makes room _ spelled.tail
  · exact .none
  · split
    · exact .none
    · rename_i head rest read
      obtain ⟨own, left⟩ := fieldHead_makes room _ spelled _ _ read
      split
      · split
        · split
          · exact .none
          · refine (selections_makes _ _ left.tail).map fun below all => ?_
            exact List.forall_mem_cons.2 ⟨own, all⟩
        · exact .none
      · exact .some (List.forall_mem_singleton.2 own) left
termination_by (s.length, 0)
decreasing_by
  all_goals subst_vars
  all_goals simp [Prod.lex_def]
  all_goals omega

theorem inlineFragment_makes (room : Nat) (s : List Token) (spelled : TokensSpelled s) :
    Made (fun x => ∀ head ∈ x.heads, head.Spelled) (inlineFragment room s) := by
  unfold inlineFragment
  split
  · exact .none
  · rename_i rest read
    have left := (inlineHead_makes room _ spelled _ _ read).2
    split
    · split
      · split
        · exact .none
        · exact (selections_makes _ _ left.tail).map fun below all => all
      · exact .none
    · exact .none
termination_by (s.length, 0)

theorem selections_makes (room : Nat) (s : List Token) (spelled : TokensSpelled s) :
    Made (fun xs => ∀ head ∈ headsAll xs, head.Spelled) (selections room s) := by
  unfold selections
  split
  · exact .some (fun _ h => absurd h List.not_mem_nil) (spelled.of_sublist (List.tail_sublist s))
  · split
    · exact .none
    · rename_i member rest read
      obtain ⟨own, left⟩ := selection_makes room s spelled _ _ read
      split
      · refine (selections_makes room rest left).map fun members all head mem => ?_
        exact (List.mem_append.1 mem).elim (own head) (all head)
      · exact .none
termination_by (s.length, 1)
decreasing_by
  all_goals simp [Prod.lex_def]
  all_goals omega

end

theorem selectionSet_makes : Makes (fun xs => ∀ head ∈ headsAll xs, head.Spelled) selectionSet :=
  (token_makes _).bind fun _ _ => selections_makes _

end Parse

/-! ### Definitions -/

/-- An operation has names that are spelled like names: its own, if it has one, and those of its variables and of
    the fields that it selects. -/
structure Operation.Spelled (o : Operation) : Prop where
  name : ∀ text, o.name = some text → Token.isName text
  declared : ∀ v ∈ o.declarations, Token.isName v.name
  heads : ∀ head ∈ headsAll o.selections, head.Spelled

/-- A definition of a query document has names that are spelled like names. -/
def Definition.Spelled : Definition → Prop
  | .operation o => o.Spelled
  | .fragment f => ∀ head ∈ headsAll f.selections, head.Spelled
  | .system _ => False

namespace Parse

theorem variableDeclaration_makes : Makes (fun v => Token.isName v.name) variableDeclaration := by
  apply description_makes.bind
  intro about _
  apply (token_makes _).bind
  intro _ _
  apply name_makes.bind
  intro variableName isName
  apply (token_makes _).bind
  intro _ _
  apply Makes.bind (typeRef_makes maxNesting)
  intro type _
  have further : ∀ default : Option Value, Makes (fun v : VariableDeclaration => Token.isName v.name) (do
      return ⟨about, variableName, type, default, ← directives maxNesting true⟩) :=
    fun _ => (directives_makes maxNesting true).bind fun _ _ => .pure isName
  apply (optionalToken_makes _).bind
  intro given _
  dsimp only
  split
  · have read : Makes Anything (some <$> value maxNesting true : Parse (Option Value)) :=
      Makes.map (value_makes maxNesting true) fun _ _ => trivial
    exact read.bind fun default _ => further default
  · exact further none

theorem operationKind_makes : Makes Anything operationKind := by
  apply name_makes.bind
  intro word _
  split
  · exact .pure trivial
  · exact .pure trivial
  · exact .pure trivial
  · exact .failure

theorem operation_makes (about : Option Description) : Makes Operation.Spelled (operation about) := by
  apply operationKind_makes.bind
  intro kind _
  apply optionalName_makes.bind
  intro operationName isName
  apply (group_makes variableDeclaration_makes).bind
  intro declarations spelled
  apply Makes.bind (directives_makes maxNesting false)
  intro _ _
  exact selectionSet_makes.bind fun selections heads => .pure ⟨isName, spelled, heads⟩

theorem fragment_makes (about : Option Description) :
    Makes (fun f => ∀ head ∈ headsAll f.selections, head.Spelled) (fragment about) := by
  apply name_makes.bind
  intro fragmentName _
  dsimp only
  split
  · exact fun _ _ => .none
  · apply (token_makes _).bind
    intro _ _
    apply name_makes.bind
    intro condition _
    apply Makes.bind (directives_makes maxNesting false)
    intro _ _
    exact selectionSet_makes.bind fun selections heads => .pure heads

/-- A reader reads definitions that are spelled like ones of a query document, those of a schema aside. -/
def ReadsExecutable (reader : Parse Definition) : Prop :=
  ∀ s, TokensSpelled s → ∀ x rest, reader s = some (x, rest) → (∀ system, x ≠ .system system) →
    x.Spelled ∧ TokensSpelled rest

theorem ReadsExecutable.of_makes {reader : Parse Definition} (h : Makes Definition.Spelled reader) :
    ReadsExecutable reader := fun s spelled x rest read _ => h s spelled x rest read

theorem ReadsExecutable.bind {reader : Parse α} {next : α → Parse Definition} (first : Makes P reader)
    (second : ∀ a, ReadsExecutable (next a)) : ReadsExecutable (reader >>= next) := by
  intro s spelled x rest read
  obtain ⟨a, s', reads, later⟩ := bind_eq_some_iff.1 read
  exact second a s' (first s spelled a s' reads).2 x rest later

theorem peek?_makes : Makes Anything peek? := fun _ spelled => .some trivial spelled

theorem definition_executable : ReadsExecutable definition := by
  apply ReadsExecutable.bind description_makes
  intro about
  apply ReadsExecutable.bind peek?_makes
  intro next
  split
  · dsimp only
    split
    · exact .of_makes fun _ _ => .none
    · refine .of_makes (selectionSet_makes.bind fun selections heads => .pure ?_)
      exact ⟨fun _ same => (by cases same), fun _ h => absurd h List.not_mem_nil, heads⟩
  · refine .of_makes ((token_makes _).bind fun _ _ => ?_)
    exact (fragment_makes about).bind fun f heads => .pure heads
  · split
    · exact .of_makes ((operation_makes about).bind fun o spelled => .pure spelled)
    · split
      · exact .of_makes .failure
      · intro s _ x rest read executable
        obtain ⟨system, _, _, made⟩ := bind_eq_some_iff.1 read
        cases made
        exact absurd rfl (executable system)
  · exact .of_makes .failure

theorem all_made {s : List Token} {xs : List Definition} (spelled : TokensSpelled s)
    (read : all definition s = some xs) (executable : ∀ x ∈ xs, ∀ system, x ≠ .system system) :
    ∀ x ∈ xs, x.Spelled := by
  fun_induction all definition s generalizing xs with
  | case1 =>
    cases read
    exact fun _ h => absurd h List.not_mem_nil
  | case2 => cases read
  | case3 head rest x rest' first shorter ih =>
    obtain ⟨others, later, rfl⟩ := Option.map_eq_some_iff.1 read
    obtain ⟨own, more⟩ := List.forall_mem_cons.1 executable
    obtain ⟨isSpelled, left⟩ := definition_executable _ spelled _ _ first own
    exact List.forall_mem_cons.2 ⟨isSpelled, ih left later more⟩
  | case4 => cases read

end Parse

/-! ### Documents -/

/-- The fields that a document selects. -/
def Document.heads (d : Document) : List FieldHead :=
  d.operations.flatMap (fun o => headsAll o.selections) ++ d.fragments.flatMap fun f => headsAll f.selections

/-- The names of a document are spelled like names. -/
structure Document.Spelled (d : Document) : Prop where
  operations : ∀ o ∈ d.operations, o.Spelled
  heads : ∀ head ∈ d.heads, head.Spelled

/-- A document without faults has no definitions that belong to a schema. -/
theorem systemDefinitions_eq_nil {s : Schema} {d : Document} (h : documentFaults s d = []) :
    d.systemDefinitions = [] := by
  have mem : CheckStep.ofRules (d.systemDefinitions.map fun _ => .notExecutable) ∈ documentSteps s d :=
    List.mem_append_left _ (List.mem_append_left _ List.mem_cons_self)
  simpa using faults_of_mem_steps h mem

/-- The document of a declaration was read from its text. -/
theorem read_of_declare {s : Schema} {text source : String} {declaration : Declaration}
    (h : declare s text source = .ok declaration) : Document.read text = some declaration.document := by
  unfold declare at h
  split at h
  · cases h
  · rename_i document read
    simp only at h
    repeat' split at h
    all_goals cases h
    exact read

/-- The names of a document that was read are spelled like names, if none of its definitions belong to a
    schema. -/
theorem Document.spelled_of_read {text : String} {d : Document} (h : Document.read text = some d)
    (executable : d.systemDefinitions = []) : ∀ x ∈ d.definitions, x.Spelled := by
  obtain ⟨tokens, scanned, h⟩ := Option.bind_eq_some_iff.1 h
  obtain ⟨definitions, parsed, h⟩ := Option.bind_eq_some_iff.1 h
  split at h
  · cases h
  · cases h
    refine Parse.all_made (Token.scanChars_spelled scanned) parsed fun x hx system same => ?_
    have mem : system ∈ Document.systemDefinitions ⟨definitions⟩ :=
      List.mem_filterMap.2 ⟨x, hx, by rw [same]⟩
    rw [executable] at mem
    exact List.not_mem_nil mem

/-- The names of an accepted document are spelled like names. -/
theorem Accepted.spelled {s : Schema} {d : Document} (h : Accepted s d) : d.Spelled := by
  have none_ := systemDefinitions_eq_nil h.documentFaults
  have all : ∀ x ∈ d.definitions, x.Spelled := by
    obtain ⟨text, source, declaration, declared, rfl⟩ := h
    exact Document.spelled_of_read (read_of_declare declared) none_
  constructor
  · intro o ho
    exact all _ (mem_definitions_of_mem_operations ho)
  · intro head mem
    rcases List.mem_append.1 mem with mem | mem
    · obtain ⟨o, ho, mem⟩ := List.mem_flatMap.1 mem
      exact Operation.Spelled.heads (all _ (mem_definitions_of_mem_operations ho)) head mem
    · obtain ⟨f, hf, mem⟩ := List.mem_flatMap.1 mem
      have spelled : ∀ head ∈ headsAll f.selections, head.Spelled := all _ (mem_definitions_of_mem_fragments hf)
      exact spelled head mem

end OperationClasses
