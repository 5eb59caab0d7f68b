/-
Module: OperationClasses.Proofs.Generation.Breaches
Purpose: The conditions that a valid schema and an accepted document can break, in a run or when its accessors are
  read afterwards.
Main exports: Method.Read, Breaks, Disagrees, run_breaks_iff
-/
import OperationClasses.Proofs.Accessor.Caching
import OperationClasses.Proofs.Generation.Failures
import OperationClasses.Proofs.Generation.Provenance

namespace OperationClasses

variable {settings : Settings} {s : Schema} {d : Document} {p q : Progress} {fault : InvariantFault}

/-! ### Reading accessors -/

/-- An accessor after any readings of it. -/
inductive Method.Read (s : Schema) : Method → Method → Prop where
  | refl {m : Method} : Method.Read s m m
  | observe {m m' : Method} (before : Method.Read s m m') (what : FieldAccess.Derived) :
      Method.Read s m (m'.observe s what)

/-- A fixed accessor stays as it is when it is read, one of a field keeps its name and paths, and the
    possible types that it keeps are those of its owner. -/
theorem Method.Read.kept {m m' : Method} (h : m.Read s m') :
    (∀ name signature body, m = .fixed name signature body → m' = m)
      ∧ ∀ name paths, m = .field (.fresh name paths) →
        ∃ a, m' = .field a ∧ a.name = name ∧ a.paths = paths ∧ a.RootKept s := by
  induction h with
  | refl =>
    refine ⟨fun _ _ _ _ => rfl, ?_⟩
    rintro name paths rfl
    exact ⟨_, rfl, rfl, rfl, fun types kept => by cases kept⟩
  | observe _ what ih =>
    obtain ⟨fixed, field⟩ := ih
    constructor
    · rintro name signature body rfl
      rw [fixed name signature body rfl]
      rfl
    · rintro name paths rfl
      obtain ⟨a, rfl, rfl, rfl, kept⟩ := field name paths rfl
      obtain ⟨sameName, samePaths⟩ := a.observe_name_paths s what
      exact ⟨a.observe s what, rfl, sameName, samePaths, kept.observe what⟩

/-- Two selections that decide an accessor have different conversions for a type. -/
def Disagrees (s : Schema) (a : FieldAccess) : Prop :=
  ∃ surviving, a.reduced s = .ok surviving ∧ ∃ p ∈ surviving, ∃ q ∈ surviving,
    p.path.expression ≠ q.path.expression ∧ ∃ t, t ∈ p.types ∧ t ∈ q.types

/-- The signature of an accessor whose paths start from one type can be written whenever they can be
    reduced, and the body unless the paths disagree. -/
theorem FieldAccess.breaks_iff {a : FieldAccess} {root : String} {surviving : List TypedPath}
    (kept : a.RootKept s) (rooted : ∀ p ∈ a.paths, p.owner = root)
    (reduced : a.reduced s = .ok surviving) :
    (∃ signature, a.signature s = .ok signature)
      ∧ ((∃ fault, a.body s = .error fault) ↔ Disagrees s a) := by
  obtain ⟨guaranteed, hg, -⟩ := guaranteed_iff kept rooted reduced
  have disagrees : Disagrees s a ↔ ¬ (branchesOf surviving).Pairwise Branch.Apart := by
    rw [branchesOf_apart_iff, not_not, Disagrees]
    simp [reduced]
  have written_iff : (∃ text, a.body s = .ok text) ↔ (branchesOf surviving).Pairwise Branch.Apart := by
    constructor
    · rintro ⟨text, written⟩
      obtain ⟨branches, -, listed, -⟩ := (body_eq_ok_iff reduced).1 written
      exact ((branches_eq_ok_iff reduced).1 listed).1
    · intro apart
      have listed := (branches_eq_ok_iff reduced).2 ⟨apart, rfl⟩
      exact ⟨_, (body_eq_ok_iff reduced).2 ⟨_, guaranteed, listed, hg, rfl⟩⟩
  refine ⟨⟨_, signature_eq_ok reduced hg⟩, ?_⟩
  rw [disagrees, ← written_iff]
  cases a.body s <;> simp

/-- A body that can be written spells a choice in which a type of a surviving path gets the conversion of the
    path, and any other type nothing, unless every type has the field. -/
theorem FieldAccess.written_runs {a : FieldAccess} {text : String} {surviving : List TypedPath} {guaranteed : Bool}
    (reduced : a.reduced s = .ok surviving) (told : a.guaranteed s = .ok guaranteed)
    (written : a.body s = .ok text) :
    ∃ choice, a.dispatch s = .ok choice ∧ text = choice.text a.name
      ∧ (∀ p ∈ surviving, ∀ t ∈ p.types, choice.run t = .converts p.path.expression)
      ∧ ∀ t, (¬ ∃ p ∈ surviving, t ∈ p.types) → surviving = [] ∨ guaranteed = false →
        choice.run t = .nothing := by
  obtain ⟨branches, -, listed, -⟩ := (body_eq_ok_iff reduced).1 written
  obtain ⟨apart, rfl⟩ := (branches_eq_ok_iff reduced).1 listed
  obtain ⟨choice, dispatches, served, unserved, -⟩ := dispatch_runs reduced apart listed told
  refine ⟨choice, dispatches, ?_, served, unserved⟩
  rw [body, dispatches] at written
  exact (Except.ok.inj written).symm

/-! ### Runs -/

/-- A run for a document with a fresh generator breaks a condition, or the reading of an accessor of one
    of its classes does, after any readings of that accessor. -/
inductive Breaks (settings : Settings) (d : Document) : InvariantFault → Prop where
  | running {fault : InvariantFault} {g : Generator}
      (stops : (Generator.start settings).generate d = (.error (.invariant fault), g)) :
      Breaks settings d fault
  | reading {fault : InvariantFault} {classes : List ClassDefinition} {g : Generator}
      {c : ClassDefinition} {m m' : Method}
      (ends : (Generator.start settings).generate d = (.ok classes, g))
      (registered : c ∈ g.progress.registry.classes) (accessor : m ∈ c.methods)
      (before : m.Read settings.schema m')
      (fails : m'.signature settings.schema = .error fault ∨ m'.body settings.schema = .error fault) :
      Breaks settings d fault

/-- A run stops at a class name that another class has. -/
def ClassNameTaken (settings : Settings) (d : Document) : Prop :=
  ∃ name g, (Generator.start settings).generate d = (.error (.invariant (.classTaken name)), g)
    ∧ name ∈ g.progress.registry.names

/-- A run stops at an accessor of a field that has the name of the accessor for the type name. -/
def TypenameShared (settings : Settings) (d : Document) : Prop :=
  ∃ name owner g fault, (Generator.start settings).generate d = (.error (.invariant fault), g)
    ∧ (fault = .methodConflict name owner ∨ fault = .mergeConflict name owner)
    ∧ SharesTypename settings.schema d name

/-- A run ends with a class that has an accessor whose selections disagree. -/
def SelectionsDisagree (settings : Settings) (d : Document) : Prop :=
  ∃ classes g c a, (Generator.start settings).generate d = (.ok classes, g)
    ∧ c ∈ g.progress.registry.classes
    ∧ .field a ∈ c.methods ∧ Disagrees settings.schema a

/-- A generator runs the steps of a document from nothing. -/
theorem generate_eq_iff {result : Except Failure (List ClassDefinition)} {g : Generator} :
    (Generator.start settings).generate d = (result, g)
      ↔ g.settings = settings
        ∧ (generateDocument settings d).run.run Progress.start = (result, g.progress) := by
  obtain ⟨own, progress⟩ := g
  rw [Generator.generate, Generator.run, Generator.start]
  constructor
  · rintro ⟨⟩
    exact ⟨rfl, rfl⟩
  · rintro ⟨rfl, runs⟩
    dsimp only
    rw [runs]

/-- For a document with one operation these are the steps of the operation. -/
theorem generate_one_iff {o : Operation} {c : ClassDefinition} {g : Generator} (one : d.operations = [o]) :
    (Generator.start settings).generate d = (.ok [c], g)
      ↔ g.settings = settings ∧ Yields (generateOperation settings d.fragmentTable o) Progress.start c g.progress := by
  rw [generate_eq_iff, generateDocument, one, ← Yields, yields_mapM_cons_iff]
  simp [eq_comm]

/-- The accessors of the classes of a run can be read unless their selections disagree. -/
theorem reading_breaks_iff (faultless : Faultless s d) (valid : s.Valid) {r : Registry}
    {className : String} {m m' : Method} (made : m.Made (Traced s d r className)) (read : m.Read s m') :
    (∃ fault, m'.signature s = .error fault ∨ m'.body s = .error fault)
      ↔ ∃ a, m = .field a ∧ Disagrees s a := by
  obtain ⟨fixed, field⟩ := read.kept
  cases made with
  | fixed named =>
    rw [fixed _ _ _ rfl]
    constructor
    · rintro ⟨fault, fails | fails⟩ <;> cases fails
    · rintro ⟨a, same, -⟩
      cases same
  | @field name paths some_ all =>
    obtain ⟨owner, selections, -, rooted, surviving, reduced⟩ :=
      traced_reduced faultless valid name some_ fun path h => (all path h).2
    obtain ⟨a, rfl, sameName, samePaths, kept⟩ := field _ _ rfl
    have again : a.reduced s = (FieldAccess.fresh name paths).reduced s := by
      rw [FieldAccess.reduced, FieldAccess.reduced, samePaths]
      rfl
    obtain ⟨⟨signature, written⟩, body⟩ :=
      @FieldAccess.breaks_iff s a owner.name surviving kept (by rwa [samePaths]) (again.trans reduced)
    have disagrees : Disagrees s a ↔ Disagrees s (.fresh name paths) := by
      rw [Disagrees, Disagrees, again]
    constructor
    · rintro ⟨fault, fails | fails⟩
      · rw [Method.signature, written] at fails
        cases fails
      · exact ⟨_, rfl, disagrees.1 (body.1 ⟨fault, fails⟩)⟩
    · rintro ⟨_, ⟨⟩, h⟩
      obtain ⟨fault, fails⟩ := body.2 (disagrees.2 h)
      exact ⟨fault, Or.inr fails⟩

/-- For a valid schema and an accepted document, a run and the readings after it break a condition
    exactly if a class name is taken, a field has the accessor name of the type name, or the selections
    of a field disagree. -/
theorem run_breaks_iff {text source : String} {declaration : Declaration} (valid : settings.schema.Valid)
    (declared : declare settings.schema text source = .ok declaration) :
    (∃ fault, Breaks settings declaration.document fault) ↔ ClassNameTaken settings declaration.document
      ∨ TypenameShared settings declaration.document
        ∨ SelectionsDisagree settings declaration.document := by
  have faultless := faultless_of_declare declared
  constructor
  · rintro ⟨fault, broken⟩
    cases broken with
    | @running g stops =>
      have cause := generateDocument_stops faultless valid (generate_eq_iff.1 stops).2
      cases cause with
      | taken taken => exact Or.inl ⟨_, g, stops, taken⟩
      | inSet shares => exact Or.inr (Or.inl ⟨_, _, g, _, stops, Or.inl rfl, shares⟩)
      | inClass shares => exact Or.inr (Or.inl ⟨_, _, g, _, stops, Or.inr rfl, shares⟩)
    | @reading classes g c m m' ends registered accessor before fails =>
      have traced := generateDocument_traced (generate_eq_iff.1 ends).2
      obtain ⟨a, rfl, disagrees⟩ :=
        (reading_breaks_iff faultless valid (traced c registered m accessor) before).1 ⟨fault, fails⟩
      exact Or.inr (Or.inr ⟨classes, g, c, a, ends, registered, accessor, disagrees⟩)
  · rintro (⟨name, g, stops, -⟩ | ⟨name, owner, g, fault, stops, -, -⟩ |
      ⟨classes, g, c, a, ends, registered, accessor,
      disagrees⟩)
    · exact ⟨_, .running stops⟩
    · exact ⟨fault, .running stops⟩
    · have traced := generateDocument_traced (generate_eq_iff.1 ends).2
      obtain ⟨fault, fails⟩ :=
        (reading_breaks_iff faultless valid (traced c registered _ accessor) .refl).2 ⟨a, rfl, disagrees⟩
      exact ⟨fault, .reading ends registered accessor .refl fails⟩

/-- An operation may have the name of an enum that it selects: the class of the enum takes the name
    first. -/
theorem breaks_operation_named_as_enum :
    let s : Schema := ⟨[⟨"Query", [], .object [] [⟨"status", [], .named "Status" false, []⟩]⟩,
      ⟨"Status", [], .enum [⟨"ON", []⟩]⟩, ⟨"String", [], .scalar⟩, ⟨"__Schema", [], .object [] []⟩,
      ⟨"__Type", [], .object [] []⟩], [], some "Query", none, none⟩
    ∃ declaration, s.Valid ∧ declare s "query Status { status }" "status.graphql" = .ok declaration
      ∧ ∃ fault, Breaks ⟨s, .empty none, false⟩ declaration.document fault := by
  intro s
  let settings : Settings := ⟨s, .empty none, false⟩
  let document : Document :=
    ⟨[.operation ⟨none, .query, some "Status", [], [], [.leaf ⟨none, "status", [], []⟩]⟩]⟩
  have valid : s.Valid := by decide
  have declared : declare s "query Status { status }" "status.graphql"
      = .ok ⟨document, "query Status { status }", "status.graphql"⟩ := by cbv
  have stops : ((Generator.start settings).generate document).1
      = .error (.invariant (.classTaken "Status")) := by cbv
  have taken : ((Generator.start settings).generate document).2.progress.registry.names
    = ["Status"] := by cbv
  refine ⟨_, valid, declared, (@run_breaks_iff settings _ _ _ valid declared).2 (Or.inl ?_)⟩
  exact ⟨"Status", _, Prod.ext stops rfl, by rw [taken]; exact List.mem_cons_self⟩

/-- The type name may stand beside a field under its name. -/
example :
    let s : Schema :=
      ⟨[⟨"Query", [], .object [] []⟩, ⟨"String", [], .scalar⟩], [], some "Query", none, none⟩
    let document : Document := ⟨[.operation ⟨none, .query, some "Q", [], [],
      [.leaf ⟨none, "__typename", [], []⟩, .leaf ⟨some "__typename", "__typename", [], []⟩]⟩]⟩
    documentFaults s document = [] ∧ ((Generator.start ⟨s, .empty none, false⟩).generate document).1
      = .error (.invariant (.methodConflict "typename__" "Q")) := by
  cbv

/-- Two interfaces of an object type may lead to different classes for a field that both select. -/
example :
    let s : Schema := ⟨[⟨"I", [], .interface [] []⟩, ⟨"I1", [], .interface [] []⟩,
      ⟨"I2", [], .interface [] []⟩,
      ⟨"A", [], .object ["I", "I1"] []⟩, ⟨"B", [], .object ["I", "I1", "I2"] []⟩,
      ⟨"C", [], .object ["I", "I2"] []⟩], [], none, none, none⟩
    (FieldAccess.fresh "f" [⟨"f", "Q_A_F", "return Q_A_F(self.raw_result[\"f\"])", "I", ["I1"]⟩,
      ⟨"f", "Q_A_F_Y", "return Q_A_F_Y(self.raw_result[\"f\"])", "I", ["I2"]⟩]).body s
        = .error (.overlappingBranches "f" ["B"]) := by
  cbv

end OperationClasses
