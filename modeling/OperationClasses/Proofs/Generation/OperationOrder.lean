/-
Module: OperationClasses.Proofs.Generation.OperationOrder
Purpose: The order in which documents are generated does not matter, unless names of operations start each other's or
  a class gives way to one for an enum or input object type.
Main exports: Task.Done, tasks_done, tasks_again, Apart, Generator.operation_order
-/
import OperationClasses.Proofs.Class.RegistrationOrder
import OperationClasses.Proofs.Generation.Replaying

namespace OperationClasses

open Generation

variable {settings : Settings} {p q r : Progress} {lead name : String} {t : Task} {ts us : List Task}
  {x : ClassDefinition} {xs : List ClassDefinition}

/-! ### One operation after the other -/

/-- No class name of an operation starts that of another one, so that their classes have different names. -/
def Apart (ts : List Task) : Prop :=
  ∀ t ∈ ts, ∀ t' ∈ ts, ∀ a b, t.Leads a → t'.Leads b → Owns a b → a = b

/-- Operations with different class names. -/
def Task.Differs (t t' : Task) : Prop := ∀ lead, t.Leads lead → ¬ t'.Leads lead

/-- A name does not belong to two operations with different class names. -/
theorem Apart.not_owns {a b : String} {t' : Task} (apart : Apart ts) (ht : t ∈ ts) (ht' : t' ∈ ts) (leads : t.Leads a)
    (leads' : t'.Leads b) (differs : t.Differs t') (owns : Owns a name) : ¬ Owns b name := by
  intro owns'
  rcases owns.or_owns owns' with owned | owned
  · obtain rfl := apart t ht t' ht' a b leads leads' owned
    exact differs a leads leads'
  · obtain rfl := apart t' ht' t ht b a leads' leads owned
    exact differs b leads leads'

theorem Apart.tail (apart : Apart (t :: ts)) : Apart ts :=
  fun t ht t' ht' => apart t (List.mem_cons_of_mem _ ht) t' (List.mem_cons_of_mem _ ht')

theorem Apart.perm (apart : Apart ts) (perm : ts.Perm us) : Apart us :=
  fun t ht t' ht' => apart t (perm.mem_iff.2 ht) t' (perm.mem_iff.2 ht')

/-- A name of the first operation does not belong to a later one. -/
theorem Apart.head_not_owns (apart : Apart (t :: ts)) (differs : ∀ t' ∈ ts, t.Differs t') (leads : t.Leads lead)
    (owns : Owns lead name) : ∀ t' ∈ ts, ∀ other, t'.Leads other → ¬ Owns other name :=
  fun t' ht' _ leads' =>
    apart.not_owns List.mem_cons_self (List.mem_cons_of_mem _ ht') leads leads' (differs t' ht') owns

/-- Generating an operation keeps what there is and leaves classes in order. -/
theorem Task.linked (h : Yields (t.generate settings) p x q) (linked : Linked settings.schema [] p)
    (recorded : p.Recorded settings) : p.Keeps q ∧ Linked settings.schema [] q ∧ q.Recorded settings := by
  obtain ⟨c, details, all, os, owner, between, last, registry, generates, -, same⟩ := generateOperation_generates h
  obtain ⟨keeps, linked', -⟩ := generates.adds linked
  rw [← same] at keeps linked'
  exact ⟨keeps, linked', generateOperation_recorded linked recorded h⟩

theorem tasks_linked (h : Yields (ts.mapM (Task.generate settings)) p xs q) (linked : Linked settings.schema [] p)
    (recorded : p.Recorded settings) : p.Keeps q ∧ Linked settings.schema [] q ∧ q.Recorded settings := by
  induction ts generalizing p xs with
  | nil =>
    rw [(yields_pure_iff.1 h).2]
    exact ⟨.refl, linked, recorded⟩
  | cons t rest ih =>
    obtain ⟨x, r, others, first, later, -⟩ := yields_mapM_cons_iff.1 h
    obtain ⟨keeps, linked, recorded⟩ := Task.linked first linked recorded
    obtain ⟨keeps', rest_⟩ := ih later linked recorded
    exact ⟨keeps.trans keeps', rest_⟩

/-- Operations that are generated one after the other have different class names. -/
theorem tasks_differ (h : Yields (ts.mapM (Task.generate settings)) p xs q) : ts.Pairwise Task.Differs := by
  induction ts generalizing p xs with
  | nil => exact .nil
  | cons t rest ih =>
    obtain ⟨x, r, others, first, later, -⟩ := yields_mapM_cons_iff.1 h
    refine .cons (fun t' ht' lead leads leads' => ?_) (ih later)
    obtain ⟨own, leads'', -, -, c, details, found⟩ := Task.leads first
    obtain rfl := Task.Leads.eq leads leads''
    exact tasks_free later t' ht' _ leads' (Registry.mem_names_iff.2 ⟨_, found⟩)

/-! ### What each operation does in a run -/

/-- Somewhere in a run, an operation was generated. Before, no class for results had a name that belongs to it, and
    afterwards, no other operation changed these classes. -/
structure Task.Done (settings : Settings) (whole : Progress) (t : Task) (lead : String) (x : ClassDefinition)
    (p q : Progress) : Prop where
  leads : t.Leads lead
  yields : Yields (t.generate settings) p x q
  linked : Linked settings.schema [] p
  recorded : p.Recorded settings
  keeps : q.Keeps whole
  fresh : ∀ name, Owns lead name → whole.registry.Plain name → p.registry.find? name = none
  stays : ∀ name, Owns lead name → whole.registry.Plain name → whole.registry.find? name = q.registry.find? name

/-- No class for results has a name that belongs to one of the operations yet. -/
def Fresh (whole : Progress) (ts : List Task) (p : Progress) : Prop :=
  ∀ t ∈ ts, ∀ lead, t.Leads lead → ∀ name, Owns lead name → whole.registry.Plain name →
    p.registry.find? name = none

/-- Generating the first operation leaves the names of the others without such a class. -/
theorem Fresh.tail {whole : Progress} (fresh : Fresh whole (t :: ts) p) (apart : Apart (t :: ts))
    (differs : ∀ t' ∈ ts, t.Differs t') (first : Yields (t.generate settings) p x q)
    (plain : ∀ name, whole.registry.Plain name → q.registry.Plain name) : Fresh whole ts q := by
  intro t' ht' other leads' name owned isPlain
  obtain ⟨lead, leads, -⟩ := Task.leads first
  have foreign : ¬ Owns lead name := fun owned' => apart.head_not_owns differs leads owned' t' ht' other leads' owned
  rw [Task.spares first leads foreign (plain name isPlain)]
  exact fresh t' (List.mem_cons_of_mem _ ht') other leads' name owned isPlain

/-- Every operation of a run is generated somewhere in it. -/
theorem tasks_done {whole : Progress} (h : Yields (ts.mapM (Task.generate settings)) p xs whole) (apart : Apart ts)
    (linked : Linked settings.schema [] p) (recorded : p.Recorded settings) (fresh : Fresh whole ts p) :
    ∀ t ∈ ts, ∃ lead x p q, t.Done settings whole lead x p q := by
  have differ := tasks_differ h
  induction ts generalizing p xs with
  | nil => exact fun _ absent => absurd absent List.not_mem_nil
  | cons t rest ih =>
    obtain ⟨x, r, others, first, later, -⟩ := yields_mapM_cons_iff.1 h
    obtain ⟨differs, differ⟩ := List.pairwise_cons.1 differ
    obtain ⟨lead, leads, -⟩ := Task.leads first
    obtain ⟨-, linked', recorded'⟩ := Task.linked first linked recorded
    obtain ⟨keeps, -⟩ := tasks_linked later linked' recorded'
    have fresh' := fresh.tail apart differs first fun _ plain => plain.of_grows keeps.registry.grows
    refine List.forall_mem_cons.2 ⟨⟨lead, x, p, r, ?_⟩, ih later apart.tail linked' recorded' fresh' differ⟩
    refine ⟨leads, first, linked, recorded, keeps, fresh t List.mem_cons_self lead leads, ?_⟩
    intro name owned plain
    exact tasks_spare later (apart.head_not_owns differs leads owned) plain

/-- Operations that were generated in a run can be generated in another one, in any order, and then have the classes
    that they have in the first one. -/
theorem tasks_again {whole : Progress} (final : Linked settings.schema [] whole) (full : whole.Recorded settings)
    (calm : ¬ whole.registry.GivesWay) (done : ∀ t ∈ ts, ∃ lead x p q, t.Done settings whole lead x p q)
    (apart : Apart ts) (differ : ts.Pairwise Task.Differs) (linked : Linked settings.schema [] p)
    (recorded : p.Recorded settings) (part : p.PartOf whole) (fresh : Fresh whole ts p) :
    ∃ xs q, Yields (ts.mapM (Task.generate settings)) p xs q ∧ q.PartOf whole
      ∧ ∀ t ∈ ts, ∀ lead, t.Leads lead → ∀ name, Owns lead name → whole.registry.Plain name →
        q.registry.find? name = whole.registry.find? name := by
  induction ts generalizing p with
  | nil => exact ⟨[], p, yields_pure_iff.2 ⟨rfl, rfl⟩, part, fun _ absent => absurd absent List.not_mem_nil⟩
  | cons t rest ih =>
    obtain ⟨differs, differ⟩ := List.pairwise_cons.1 differ
    obtain ⟨⟨lead, x, p₁, q₁, did⟩, done⟩ := List.forall_mem_cons.1 done
    obtain ⟨r, first, part, agree⟩ := Task.again final full calm did.leads did.yields did.linked did.recorded
      did.keeps did.fresh linked recorded part (fresh t List.mem_cons_self lead did.leads)
    obtain ⟨-, linked, recorded⟩ := Task.linked first linked recorded
    have fresh' := fresh.tail apart differs first fun _ plain => part.plain plain
    obtain ⟨xs, q, later, part, same⟩ := ih done apart.tail differ linked recorded part fresh'
    refine ⟨x :: xs, q, yields_mapM_cons_iff.2 ⟨x, r, xs, first, later, rfl⟩, part,
      List.forall_mem_cons.2 ⟨fun other leads' name owned plain => ?_, same⟩⟩
    obtain rfl := Task.Leads.eq did.leads leads'
    have spared := tasks_spare later (apart.head_not_owns differs did.leads owned)
    rw [spared (part.plain plain), agree name owned plain, did.stays name owned plain]

/-! ### Operations in two orders -/

/-- What a run comes to is determined by what it starts from. -/
theorem Yields.unique {α : Type} {m : Generation α} {a b : α} (h : Yields m p a q) (h' : Yields m p b r) : q = r :=
  (Prod.mk.inj (h.symm.trans h')).2

/-- Classes that have given way are there in any run that has the same classes. -/
theorem Registry.GivesWay.mono {r r' : Registry} (h : r.GivesWay) (more : ∀ c ∈ r.classes, c ∈ r'.classes) :
    r'.GivesWay := by
  obtain ⟨c, listed, support, leaf, isLeaf, named⟩ := h
  exact ⟨c, more c listed, support, leaf, more _ isLeaf, named⟩

/-- If operations can be generated without a class that gives way, they can be generated in any order, and that leads
    to no further classes and imports. -/
theorem tasks_permuted {whole : Progress} (h : Yields (ts.mapM (Task.generate settings)) .start xs whole)
    (apart : Apart ts) (calm : ¬ whole.registry.GivesWay) (perm : ts.Perm us) :
    ∃ ys q, Yields (us.mapM (Task.generate settings)) .start ys q
      ∧ (∀ c ∈ q.registry.classes, c ∈ whole.registry.classes) ∧ ∀ line ∈ q.imports, line ∈ whole.imports := by
  obtain ⟨-, final, full⟩ := tasks_linked h .start .start
  have done := tasks_done h apart .start .start fun _ _ _ _ _ _ _ => rfl
  have differ := (perm.pairwise_iff fun h lead leads leads' => h lead leads' leads).1 (tasks_differ h)
  obtain ⟨ys, q, yields, part, same⟩ := tasks_again final full calm (fun t ht => done t (perm.mem_iff.2 ht))
    (apart.perm perm) differ .start .start .start fun _ _ _ _ _ _ _ => rfl
  refine ⟨ys, q, yields, fun c listed => ?_, part.imports⟩
  have found := Registry.find?_of_mem listed
  obtain ⟨c', found', support⟩ := part.classes _ _ found
  by_cases plain : whole.registry.Plain c.name
  · -- a class for results belongs to one of the operations
    by_cases owned : ∃ t ∈ us, ∃ lead, t.Leads lead ∧ Owns lead c.name
    · obtain ⟨t, ht, lead, leads, owns⟩ := owned
      rw [same t ht lead leads _ owns plain] at found
      exact Registry.mem_classes_of_find? found
    · have spared := tasks_spare yields (fun t ht lead leads owns => owned ⟨t, ht, lead, leads, owns⟩)
        (part.plain plain)
      rw [found] at spared
      cases spared
  · have isSupport : c'.role = .support := by
      by_contra results
      refine plain fun x hx => ?_
      rw [found'] at hx
      cases hx
      exact results
    rw [support (Or.inr isSupport)]
    exact Registry.mem_classes_of_find? found'

/-- If operations can be generated without a class that gives way, they can be generated in any order, and that leads
    to the same classes and imports. -/
theorem tasks_order {whole : Progress} (h : Yields (ts.mapM (Task.generate settings)) .start xs whole)
    (apart : Apart ts) (calm : ¬ whole.registry.GivesWay) (perm : ts.Perm us) :
    ∃ ys q, Yields (us.mapM (Task.generate settings)) .start ys q
      ∧ (∀ c, c ∈ q.registry.classes ↔ c ∈ whole.registry.classes) ∧ q.imports = whole.imports := by
  obtain ⟨ys, q, yields, classes, imports⟩ := tasks_permuted h apart calm perm
  obtain ⟨xs', whole', yields', classes', imports'⟩ := tasks_permuted yields (apart.perm perm)
    (fun gives => calm (gives.mono classes)) perm.symm
  obtain rfl := h.unique yields'
  exact ⟨ys, q, yields, fun c => ⟨classes c, classes' c⟩, NameSet.ext fun line => ⟨imports line, imports' line⟩⟩

/-! ### Documents -/

/-- The operations of a document. -/
def Document.tasks (d : Document) : List Task := d.operations.map fun o => ⟨d.fragmentTable, o⟩

theorem yields_mapM_append_iff {α β : Type} {k : α → Generation β} {as bs : List α} {ys : List β} :
    Yields ((as ++ bs).mapM k) p ys q
      ↔ ∃ first r others, Yields (as.mapM k) p first r ∧ Yields (bs.mapM k) r others q ∧ ys = first ++ others := by
  rw [List.mapM_append, yields_bind_iff]
  constructor
  · rintro ⟨first, r, yields, rest⟩
    obtain ⟨others, r', later, ends⟩ := yields_bind_iff.1 rest
    obtain ⟨rfl, rfl⟩ := yields_pure_iff.1 ends
    exact ⟨first, r, others, yields, later, rfl⟩
  · rintro ⟨first, r, others, yields, later, rfl⟩
    exact ⟨first, r, yields, yields_bind_iff.2 ⟨others, q, later, yields_pure_iff.2 ⟨rfl, rfl⟩⟩⟩

/-- Generating a document generates its operations. -/
theorem Document.tasks_generate {d : Document} :
    d.tasks.mapM (Task.generate settings) = generateDocument settings d := by
  rw [Document.tasks, List.mapM_map]
  rfl

/-- Generating documents generates their operations. -/
theorem Generator.generateAll_eq_iff {g g' : Generator} {ds : List Document} :
    g.generateAll ds = (.ok (), g') ↔ g'.settings = g.settings
      ∧ ∃ xs, Yields ((ds.flatMap Document.tasks).mapM (Task.generate g.settings)) g.progress xs g'.progress := by
  induction ds generalizing g with
  | nil =>
    rw [generateAll, List.flatMap_nil, List.mapM_nil]
    constructor
    · rintro ⟨⟩
      exact ⟨rfl, [], yields_pure_iff.2 ⟨rfl, rfl⟩⟩
    · rintro ⟨same, xs, yields⟩
      obtain ⟨-, stays⟩ := yields_pure_iff.1 yields
      obtain ⟨settings, progress⟩ := g'
      cases same
      cases stays
      rfl
  | cons d rest ih =>
    rw [generateAll, List.flatMap_cons]
    simp only [yields_mapM_append_iff, Document.tasks_generate]
    rcases runs : (generateDocument g.settings d).run.run g.progress with ⟨e | cs, r⟩
    · have fails : g.generate d = (.error e, { g with progress := r }) := by rw [generate, run, runs]
      rw [fails]
      constructor
      · rintro ⟨⟩
      · rintro ⟨-, _, first, r', _, yields, -⟩
        rw [Yields, runs] at yields
        cases yields
    · have generates : g.generate d = (.ok cs, { g with progress := r }) := by rw [generate, run, runs]
      rw [generates]
      dsimp only
      rw [ih]
      refine and_congr_right fun _ => ?_
      constructor
      · rintro ⟨xs, later⟩
        exact ⟨_, cs, r, xs, runs, later, rfl⟩
      · rintro ⟨_, first, r', others, yields, later, -⟩
        rw [Yields, runs] at yields
        cases yields
        exact ⟨others, later⟩

/-- The operations of documents are apart: none has a class name that goes on from that of another one with an
    underscore. -/
def DocumentsApart (ds : List Document) : Prop :=
  ∀ d ∈ ds, ∀ o ∈ d.operations, ∀ d' ∈ ds, ∀ o' ∈ d'.operations, ∀ a b rest,
    Naming.operationClassName o.name = .ok a → Naming.operationClassName o'.name = .ok b → b ≠ a ++ "_" ++ rest

theorem DocumentsApart.tasks {ds : List Document} (apart : DocumentsApart ds) : Apart (ds.flatMap Document.tasks) := by
  intro t ht t' ht' a b leads leads' owns
  obtain ⟨d, hd, ht⟩ := List.mem_flatMap.1 ht
  obtain ⟨d', hd', ht'⟩ := List.mem_flatMap.1 ht'
  obtain ⟨o, ho, rfl⟩ := List.mem_map.1 ht
  obtain ⟨o', ho', rfl⟩ := List.mem_map.1 ht'
  rcases owns with same | ⟨rest, longer⟩
  · exact same.symm
  · exact absurd longer (apart d hd o ho d' hd' o' ho' a b rest leads leads')

namespace Generator

/-- A generator comes to the same for documents in another order, if it succeeds without a class that gives way. -/
theorem generateAll_of_perm {g : Generator} {ds es : List Document} (apart : DocumentsApart ds) (perm : ds.Perm es)
    (h : (start settings).generateAll ds = (.ok (), g)) (calm : ¬ g.progress.registry.GivesWay) :
    ∃ g', (start settings).generateAll es = (.ok (), g') ∧ g.sortedClasses = g'.sortedClasses
      ∧ g.imports = g'.imports := by
  obtain ⟨-, xs, yields⟩ := generateAll_eq_iff.1 h
  obtain ⟨ys, q, yields', classes, imports⟩ := tasks_order yields apart.tasks calm (perm.flatMap_right _)
  refine ⟨⟨settings, q⟩, generateAll_eq_iff.2 ⟨rfl, ys, yields'⟩, ?_, ?_⟩
  · exact Registry.sorted_eq fun c => (classes c).symm
  · rw [Generator.imports, Generator.imports, imports]

/-- **The order of documents** does not matter, if no class name of an operation goes on from that of another one:
    generating documents in two orders fails in both, or succeeds in both with the same sorted classes and imports,
    unless one of them succeeds with a class that has given way to one for an enum or input object type. -/
theorem operation_order (settings : Settings) {ds es : List Document} (perm : ds.Perm es)
    (apart : DocumentsApart ds) :
    let one := (start settings).generateAll ds
    let other := (start settings).generateAll es
    (∃ e e', one.1 = .error e ∧ other.1 = .error e')
      ∨ (one.1 = .ok () ∧ other.1 = .ok () ∧ one.2.sortedClasses = other.2.sortedClasses
        ∧ one.2.imports = other.2.imports)
      ∨ (one.1 = .ok () ∧ one.2.progress.registry.GivesWay)
      ∨ (other.1 = .ok () ∧ other.2.progress.registry.GivesWay) := by
  have apart' : DocumentsApart es :=
    fun d hd o ho d' hd' => apart d (perm.mem_iff.2 hd) o ho d' (perm.mem_iff.2 hd')
  intro one other
  rcases runs : one with ⟨e | _, g⟩
  · rcases runs' : other with ⟨e' | _, g'⟩
    · exact Or.inl ⟨e, e', rfl, rfl⟩
    · refine Or.inr (Or.inr (Or.inr ⟨rfl, ?_⟩))
      by_contra calm
      obtain ⟨_, succeeds, -⟩ := generateAll_of_perm apart' perm.symm runs' calm
      cases runs.symm.trans succeeds
  · by_cases calm : g.progress.registry.GivesWay
    · exact Or.inr (Or.inr (Or.inl ⟨rfl, calm⟩))
    · obtain ⟨g', succeeds, sorted, imports⟩ := generateAll_of_perm apart perm runs calm
      rw [show other = (.ok (), g') from succeeds]
      exact Or.inr (Or.inl ⟨rfl, rfl, sorted, imports⟩)

end Generator

/-! ### Two documents -/

namespace TwoOrders

def schema : Schema := ⟨[⟨"Query", [], .object [] [⟨"node", [], .named "Node" true, []⟩,
    ⟨"mode", [], .named "Q_Node" true, []⟩]⟩,
  ⟨"Node", [], .object [] [⟨"n", [], .named "Int" true, []⟩]⟩, ⟨"Int", [], .scalar⟩, ⟨"Q_Node", [], .enum [⟨"A", []⟩]⟩],
  [], some "Query", none, none⟩

def generator : Generator := .start ⟨schema, .empty none, false⟩

def ofOperation (name : String) (selections : List Selection) : Document :=
  ⟨[.operation ⟨none, .query, some name, [], [], selections⟩]⟩

/-- A query for an object, whose class is named after the query and the field. -/
def nodeOf (name : String) : Document :=
  ofOperation name [.nested ⟨none, "node", [], []⟩ [.leaf ⟨none, "n", [], []⟩]]

/-- A query for a value of the enum type. -/
def modeOf (name : String) : Document := ofOperation name [.leaf ⟨none, "mode", [], []⟩]

theorem apart : DocumentsApart [nodeOf "R", modeOf "P"] := by
  have named : ∀ d ∈ [nodeOf "R", modeOf "P"], ∀ o ∈ d.operations, o.name = some "R" ∨ o.name = some "P" := by
    simp [nodeOf, modeOf, ofOperation, Document.operations]
  have short : ∀ d ∈ [nodeOf "R", modeOf "P"], ∀ o ∈ d.operations, ∀ a, Naming.operationClassName o.name = .ok a →
      a.length = 1 := by
    intro d hd o ho a ha
    rcases named d hd o ho with same | same
    · rw [same, show Naming.operationClassName (some "R") = .ok "R" by cbv] at ha
      cases ha
      rfl
    · rw [same, show Naming.operationClassName (some "P") = .ok "P" by cbv] at ha
      cases ha
      rfl
  intro d hd o ho d' hd' o' ho' a b rest leads leads' longer
  have length := congrArg String.length longer
  rw [String.length_append, String.length_append, short d hd o ho a leads, short d' hd' o' ho' b leads'] at length
  have separator : "_".length = 1 := rfl
  omega

/-- What the classes of both queries are for, by their names. -/
def roles : List (String × ClassRole) :=
  [("R_Node", .leaf "Node"), ("R", .root "Query"), ("Q_Node", .support), ("P", .root "Query")]

theorem calm {r : Registry} (known : ∀ c ∈ r.classes, (c.name, c.role) ∈ roles) : ¬ r.GivesWay := by
  rintro ⟨c, listed, support, leaf, isLeaf, named⟩
  have ofSupport : c.name = "Q_Node" := by simpa [roles, support] using known c listed
  have ofLeaf : leaf.name = "R_Node" ∧ leaf.typeName = "Node" := by
    simpa [roles, ClassDefinition.role, ClassDefinition.name] using known _ isLeaf
  rw [ofSupport, ofLeaf.1, ofLeaf.2] at named
  exact absurd named (by decide)

end TwoOrders

open TwoOrders in
/-- A query for an object and one for an enum, whose name the class of the object does not want, come to the same in
    both orders. -/
theorem Generator.operation_order_two :
    (generator.generateAll [nodeOf "R", modeOf "P"]).1 = .ok ()
      ∧ (generator.generateAll [modeOf "P", nodeOf "R"]).1 = .ok ()
      ∧ (generator.generateAll [nodeOf "R", modeOf "P"]).2.sortedClasses
        = (generator.generateAll [modeOf "P", nodeOf "R"]).2.sortedClasses
      ∧ (generator.generateAll [nodeOf "R", modeOf "P"]).2.imports
        = (generator.generateAll [modeOf "P", nodeOf "R"]).2.imports := by
  have one : (generator.generateAll [nodeOf "R", modeOf "P"]).1 = .ok ()
      ∧ (generator.generateAll [nodeOf "R", modeOf "P"]).2.progress.registry.classes.map (fun c => (c.name, c.role))
        = roles := by
    cbv
  have other : (generator.generateAll [modeOf "P", nodeOf "R"]).2.progress.registry.classes.map
      (fun c => (c.name, c.role)) = roles.rotate 2 := by
    cbv
  have order := operation_order generator.settings (.swap (modeOf "P") (nodeOf "R") []) TwoOrders.apart
  rcases order with ⟨e, -, failed, -⟩ | same | ⟨-, gives⟩ | ⟨-, gives⟩
  · cases one.1.symm.trans failed
  · exact same
  · exact absurd gives (calm fun c listed => one.2 ▸ List.mem_map_of_mem listed)
  · exact absurd gives (calm fun c listed => List.mem_rotate.1 (other ▸ List.mem_map_of_mem listed))

open TwoOrders in
/-- If the class of the object wants the name of the enum, the order decides whether it gives way to the class of the
    enum or takes the name from it. -/
example : (generator.generateAll [nodeOf "Q", modeOf "P"]).1 = .error (.invariant (.classTaken "Q_Node"))
    ∧ (generator.generateAll [modeOf "P", nodeOf "Q"]).1 = .ok () := by
  cbv

open TwoOrders in
/-- So it is if the class of the object wants the name of the other query. -/
example : (generator.generateAll [nodeOf "R", modeOf "R_Node"]).1 = .error (.invariant (.classTaken "R_Node"))
    ∧ (generator.generateAll [modeOf "R_Node", nodeOf "R"]).1 = .ok () := by
  cbv

end OperationClasses
