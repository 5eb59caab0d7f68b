/-
Module: OperationClasses.Proofs.Class.DependencyOrder
Purpose: Classes are listed with their dependencies first exactly if all dependencies are registered and no
  classes depend on each other, and a failure names dependencies that the classes have.
Main exports: Registry.Refers, Registry.Closed, Registry.Acyclic, Registry.Genuine, Registry.Ordered,
  Registry.visitEach_settles, Registry.sortedNames_eq_ok, Registry.perm_of_sorted, Registry.sorted_topological
-/
import Mathlib.Data.List.Chain
import OperationClasses.Proofs.Generation.Growth

namespace OperationClasses

namespace Registry

variable {r : Registry} {c : ClassDefinition} {name child a b : String}
  {fresh path done more children : List String} {fault : InvariantFault}

/-! ### The dependency graph -/

/-- The class of a name depends on another name than its own. -/
def Refers (r : Registry) (owner dependency : String) : Prop :=
  ∃ c, r.find? owner = some c ∧ dependency ∈ c.dependencies ∧ dependency ≠ owner

/-- Every dependency of a class is registered. -/
def Closed (r : Registry) : Prop := ∀ c ∈ r.classes, ∀ d ∈ c.dependencies, d ∈ r.names

/-- No class depends on itself through others. -/
def Acyclic (r : Registry) : Prop := ∀ name, ¬ Relation.TransGen r.Refers name name

/-- A failure that the classes give rise to: a class with a dependency that is not registered, or a way
    through two or more different classes, each of which depends on the next and the last on the first. -/
inductive Genuine (r : Registry) : InvariantFault → Prop where
  | unregistered {c : ClassDefinition} {d : String} (listed : c ∈ r.classes) (depends : d ∈ c.dependencies)
      (missing : d ∉ r.names) : Genuine r (.unknownDependency c.name d)
  | circular {first second : String} {others : List String} (different : (first :: second :: others).Nodup)
      (chain : (first :: second :: others ++ [first]).IsChain r.Refers) :
      Genuine r (.dependencyCycle (first :: second :: others ++ [first]))

theorem refers_iff (found : r.find? a = some c) : r.Refers a b ↔ b ∈ c.dependencies ∧ b ≠ a := by
  simp [Refers, found]

theorem Refers.ne (h : r.Refers a b) : b ≠ a := by
  obtain ⟨_, _, _, differs⟩ := h
  exact differs

theorem Refers.mem_names (h : r.Refers a b) : a ∈ r.names := by
  obtain ⟨c, found, _⟩ := h
  exact mem_names_iff.2 ⟨c, found⟩

/-- A way from a class back to it makes the class depend on itself through others. -/
theorem transGen_of_isChain {last : String} :
    ∀ {a : String} {between : List String}, (a :: between ++ [last]).IsChain r.Refers →
      Relation.TransGen r.Refers a last
  | _, [], chain => .single (List.isChain_pair.1 chain)
  | _, _ :: _, chain =>
    .head (List.isChain_cons_cons.1 chain).1 (transGen_of_isChain (List.isChain_cons_cons.1 chain).2)

/-- Registered dependencies without circles give rise to no failure. -/
theorem Genuine.not_closed_acyclic (h : r.Genuine fault) : ¬ (r.Closed ∧ r.Acyclic) := by
  intro ⟨closed, acyclic⟩
  cases h with
  | unregistered listed depends missing => exact missing (closed _ listed _ depends)
  | circular _ chain => exact acyclic _ (transGen_of_isChain chain)

/-! ### Lists in order -/

/-- Each name of a list stands after those that its class refers to. -/
inductive Ordered (r : Registry) : List String → Prop where
  | nil : Ordered r []
  | snoc {done : List String} {name : String} (before : Ordered r done)
      (first : ∀ d, r.Refers name d → d ∈ done) : Ordered r (done ++ [name])

/-- What a class refers to stands before it. -/
theorem Ordered.mem_before (h : r.Ordered done) : ∀ {before after : List String},
    done = before ++ name :: after → ∀ d, r.Refers name d → d ∈ before := by
  induction h with
  | nil => exact fun split => absurd split (by simp)
  | @snoc done last _ first ih =>
    intro before after split d refers
    rcases List.eq_nil_or_concat after with rfl | ⟨inner, final, rfl⟩
    · obtain ⟨rfl, ⟨⟩⟩ := List.append_inj' split rfl
      exact first d refers
    · have shorter : done ++ [last] = (before ++ name :: inner) ++ [final] := by
        rw [split]
        simp
      exact ih (List.append_inj' shorter rfl).1 d refers

/-- In a list in order a class is preceded by what it refers to. -/
theorem Ordered.idxOf_lt (h : r.Ordered done) (nodup : done.Nodup) (listed : a ∈ done)
    (refers : r.Refers a b) : done.idxOf b < done.idxOf a := by
  obtain ⟨before, after, split⟩ := List.append_of_mem listed
  have earlier : b ∈ before := h.mem_before split b refers
  have absent : a ∉ before := by
    intro present
    rw [split, List.nodup_append] at nodup
    exact nodup.2.2 a present a List.mem_cons_self rfl
  rw [split, List.idxOf_append_of_mem earlier, List.idxOf_append_of_notMem absent, List.idxOf_cons_self]
  exact List.idxOf_lt_length_of_mem earlier

/-- Classes that can be listed in order do not depend on each other. -/
theorem Ordered.acyclic (h : r.Ordered done) (nodup : done.Nodup) (all : ∀ name ∈ r.names, name ∈ done) :
    r.Acyclic := by
  have decreases : ∀ {a b}, Relation.TransGen r.Refers a b → done.idxOf b < done.idxOf a := by
    intro a b way
    induction way with
    | single refers => exact h.idxOf_lt nodup (all _ refers.mem_names) refers
    | tail _ refers ih => exact (h.idxOf_lt nodup (all _ refers.mem_names) refers).trans ih
  exact fun name circle => Nat.lt_irrefl _ (decreases circle)

/-- Classes that can be listed in order have registered dependencies only. -/
theorem Ordered.closed (h : r.Ordered done) (all : ∀ name ∈ r.names, name ∈ done)
    (registered : ∀ name ∈ done, name ∈ r.names) : r.Closed := by
  intro c listed d depends
  have named : c.name ∈ r.names := List.mem_map_of_mem listed
  by_cases own : d = c.name
  · rwa [own]
  · obtain ⟨before, after, split⟩ := List.append_of_mem (all _ named)
    have earlier := h.mem_before split d ((refers_iff (find?_of_mem listed)).2 ⟨depends, own⟩)
    exact registered d (split ▸ List.mem_append_left _ earlier)

/-! ### The traversal -/

/-- The dependencies of a class are visited if all of them are registered. -/
theorem edges_eq_ok (h : r.edges c = .ok children) :
    (∀ d, d ∈ children ↔ d ∈ c.dependencies ∧ d ≠ c.name) ∧ ∀ d ∈ children, d ∈ r.names := by
  simp only [edges] at h
  split at h
  · exact absurd h (by rintro ⟨⟩)
  · rename_i none
    cases h
    refine ⟨fun d => by simp [NameSet.mem_toList], fun d isChild => ?_⟩
    have found := List.find?_eq_none.1 none d isChild
    rw [Option.isNone_iff_eq_none, ← ne_eq, Option.ne_none_iff_exists'] at found
    exact mem_names_iff.2 found

/-- The dependencies of a class are refused for one that is not registered. -/
theorem edges_eq_error (listed : c ∈ r.classes) (h : r.edges c = .error fault) : r.Genuine fault := by
  simp only [edges] at h
  split at h
  · rename_i missing found
    cases h
    have unregistered := List.find?_some found
    have depends := List.mem_of_mem_filter (List.mem_of_find?_eq_some found)
    refine .unregistered listed (NameSet.mem_toList.1 depends) fun named => ?_
    obtain ⟨c, registered⟩ := mem_names_iff.1 named
    simp [registered] at unregistered
  · exact absurd h (by rintro ⟨⟩)

/-- The state of a traversal: every class is fresh, on the path or done, the path leads from class to
    dependency, and the done ones are in order. A class that is done may still count as fresh. -/
structure Visiting (r : Registry) (fresh path done : List String) : Prop where
  covers : ∀ name ∈ r.names, name ∈ fresh ∨ name ∈ path ∨ name ∈ done
  fresh_nodup : fresh.Nodup
  fresh_apart : ∀ name ∈ fresh, name ∉ path
  path_nodup : path.Nodup
  path_registered : ∀ name ∈ path, name ∈ r.names
  chain : path.IsChain r.Refers
  done_nodup : done.Nodup
  done_apart : ∀ name ∈ done, name ∉ path
  done_registered : ∀ name ∈ done, name ∈ r.names
  ordered : r.Ordered done

namespace Visiting

/-- Before the traversal all classes are fresh. -/
theorem start (r : Registry) : r.Visiting r.names [] [] where
  covers _ named := Or.inl named
  fresh_nodup := r.nodup
  fresh_apart _ _ := List.not_mem_nil
  path_nodup := List.nodup_nil
  path_registered _ listed := absurd listed List.not_mem_nil
  chain := .nil
  done_nodup := List.nodup_nil
  done_apart _ listed := absurd listed List.not_mem_nil
  done_registered _ listed := absurd listed List.not_mem_nil
  ordered := .nil

/-- A fresh class that the last one of the path refers to becomes the last one of the path. -/
theorem enter (h : r.Visiting fresh path done) (isFresh : child ∈ fresh) (open_ : child ∉ done)
    (named : child ∈ r.names) (refers : ∀ owner ∈ path.getLast?, r.Refers owner child) :
    r.Visiting (fresh.erase child) (path ++ [child]) done where
  covers name registered := by
    rcases h.covers name registered with found | found | found
    · by_cases same : name = child
      · simp [same]
      · exact Or.inl ((List.mem_erase_of_ne same).2 found)
    · simp [found]
    · simp [found]
  fresh_nodup := h.fresh_nodup.erase child
  fresh_apart name found := by
    obtain ⟨differs, found⟩ := h.fresh_nodup.mem_erase_iff.1 found
    simp [differs, h.fresh_apart name found]
  path_nodup := by
    have apart := h.fresh_apart child isFresh
    rw [List.nodup_append]
    refine ⟨h.path_nodup, by simp, fun name found other last => ?_⟩
    rw [List.mem_singleton.1 last]
    exact fun same => apart (same ▸ found)
  path_registered name found := by
    rcases List.mem_append.1 found with found | last
    · exact h.path_registered name found
    · rwa [List.mem_singleton.1 last]
  chain := by
    refine h.chain.append (.singleton child) fun owner last next first => ?_
    cases first
    exact refers owner last
  done_nodup := h.done_nodup
  done_apart name found := by
    have differs : name ≠ child := fun same => open_ (same ▸ found)
    simp [differs, h.done_apart name found]
  done_registered := h.done_registered
  ordered := h.ordered

/-- The last class of the path is done once all that it refers to is. -/
theorem leave (h : r.Visiting fresh (path ++ [name]) done) (first : ∀ d, r.Refers name d → d ∈ done) :
    r.Visiting fresh path (done ++ [name]) where
  covers other registered := by
    have := h.covers other registered
    simp only [List.mem_append, List.mem_singleton] at this ⊢
    tauto
  fresh_nodup := h.fresh_nodup
  fresh_apart other found := fun onPath => h.fresh_apart other found (List.mem_append_left _ onPath)
  path_nodup := (List.nodup_append.1 h.path_nodup).1
  path_registered other found := h.path_registered other (List.mem_append_left _ found)
  chain := h.chain.left_of_append
  done_nodup := by
    rw [List.nodup_append]
    refine ⟨h.done_nodup, by simp, fun other found last isLast => ?_⟩
    rw [List.mem_singleton.1 isLast]
    intro same
    exact h.done_apart other found (by simp [same])
  done_apart other found onPath := by
    rcases List.mem_append.1 found with found | last
    · exact h.done_apart other found (List.mem_append_left _ onPath)
    · exact (List.nodup_append.1 h.path_nodup).2.2 other onPath name (by simp) (List.mem_singleton.1 last)
  done_registered other found := by
    rcases List.mem_append.1 found with found | last
    · exact h.done_registered other found
    · exact h.path_registered other (List.mem_append_right _ last)
  ordered := h.ordered.snoc first

/-- After the visit of one class the others are as fresh as before. -/
theorem resume (h : r.Visiting fresh path done) (visited : r.Visiting (fresh.erase child) path more) :
    r.Visiting fresh path more :=
  { visited with
    covers := fun name registered =>
      (visited.covers name registered).imp_left List.mem_of_mem_erase
    fresh_nodup := h.fresh_nodup
    fresh_apart := h.fresh_apart }

/-- A class that is neither done nor fresh closes a way through different classes. -/
theorem genuine_cycle (h : r.Visiting fresh path done) (onPath : child ∈ path)
    (refers : ∀ owner ∈ path.getLast?, r.Refers owner child) :
    r.Genuine (.dependencyCycle (cycleFrom path child)) := by
  obtain ⟨before, after, rfl, absent⟩ := List.eq_append_cons_of_mem onPath
  have closes : cycleFrom (before ++ child :: after) child = child :: after ++ [child] := by
    have skipped : ∀ name ∈ before, (name != child) = true := by
      intro name found
      exact bne_iff_ne.2 fun same => absent (same ▸ found)
    rw [cycleFrom, List.dropWhile_append_of_pos skipped, List.dropWhile_cons_of_neg (by simp)]
  rw [List.getLast?_append_cons] at refers
  have chain : (child :: after ++ [child]).IsChain r.Refers := by
    refine h.chain.right_of_append.append (.singleton child) fun owner last next first => ?_
    cases first
    exact refers owner last
  rw [closes]
  cases after with
  | nil => exact absurd rfl (refers child rfl).ne
  | cons second others => exact .circular (List.nodup_append.1 h.path_nodup).2.1 chain

end Visiting

/-- What visits come to: all classes to visit are done besides those that were done before, or one of them
    is refused for a reason. -/
inductive Settles (r : Registry) (fresh path done targets : List String) :
    Except InvariantFault (List String) → Prop where
  | visited {more : List String} (state : r.Visiting fresh path more) (kept : ∀ name ∈ done, name ∈ more)
      (reached : ∀ name ∈ targets, name ∈ more) : Settles r fresh path done targets (.ok more)
  | refused {fault : InvariantFault} (genuine : r.Genuine fault) :
      Settles r fresh path done targets (.error fault)

namespace Settles

variable {fresh' path' targets targets' : List String} {x : Except InvariantFault (List String)}

/-- Visits that go on from what earlier visits come to. -/
theorem bind {next : List String → Except InvariantFault (List String)}
    (h : r.Settles fresh' path' done targets' x)
    (goes_on : ∀ more, r.Visiting fresh' path' more → (∀ name ∈ done, name ∈ more) →
      (∀ name ∈ targets', name ∈ more) → r.Settles fresh path done targets (next more)) :
    r.Settles fresh path done targets (x >>= next) := by
  cases h with
  | visited state kept reached => exact goes_on _ state kept reached
  | refused genuine => exact .refused genuine

/-- One more class to visit that is done already. -/
theorem cons (h : r.Settles fresh path more targets x) (kept : ∀ name ∈ done, name ∈ more)
    (first : child ∈ more) : r.Settles fresh path done (child :: targets) x := by
  cases h with
  | visited state still reached =>
    refine .visited state (fun name found => still name (kept name found)) fun name target => ?_
    rcases List.mem_cons.1 target with rfl | target
    · exact still name first
    · exact reached name target
  | refused genuine => exact .refused genuine

end Settles

mutual

/-- The visit of a class that has entered the path. -/
theorem visit_settles (r : Registry) (fresh path done : List String) (c : ClassDefinition)
    (listed : c ∈ r.classes) (state : r.Visiting fresh (path ++ [c.name]) done) :
    r.Settles fresh path done [c.name] (r.visit fresh path done c) := by
  rw [visit]
  cases edges : r.edges c with
  | error fault => exact .refused (edges_eq_error listed edges)
  | ok children =>
    obtain ⟨mem_children_iff, named⟩ := edges_eq_ok edges
    have refers_iff_mem : ∀ d, r.Refers c.name d ↔ d ∈ children := by
      intro d
      rw [refers_iff (find?_of_mem listed), mem_children_iff]
    have expected : ∀ child ∈ children, child ∈ r.names
        ∧ ∀ owner ∈ (path ++ [c.name]).getLast?, r.Refers owner child := by
      intro child isChild
      refine ⟨named child isChild, fun owner last => ?_⟩
      rw [List.getLast?_concat] at last
      cases last
      exact (refers_iff_mem child).2 isChild
    apply (visitEach_settles r fresh (path ++ [c.name]) done children state expected).bind
    intro more after kept reached
    refine .visited (after.leave fun d refers => reached d ((refers_iff_mem d).1 refers)) ?_ ?_
    · exact fun name found => List.mem_append_left _ (kept name found)
    · exact fun name found => List.mem_append_right _ found
termination_by (fresh.length, 1, 0)

/-- The visits of classes that the last one of the path refers to. -/
theorem visitEach_settles (r : Registry) (fresh path done children : List String)
    (state : r.Visiting fresh path done)
    (expected : ∀ child ∈ children, child ∈ r.names ∧ ∀ owner ∈ path.getLast?, r.Refers owner child) :
    r.Settles fresh path done children (r.visitEach fresh path done children) := by
  match children with
  | [] =>
    rw [visitEach]
    exact .visited state (fun _ found => found) fun _ absent => absurd absent List.not_mem_nil
  | child :: rest =>
    obtain ⟨named, refers⟩ := expected child List.mem_cons_self
    have expected_rest := fun child isChild => expected child (List.mem_cons_of_mem _ isChild)
    rw [visitEach]
    split
    · rename_i visited
      exact (visitEach_settles r fresh path done rest state expected_rest).cons (fun _ found => found) visited
    · rename_i unvisited
      split
      · rename_i isFresh
        obtain ⟨c, found⟩ := mem_names_iff.1 named
        obtain rfl := name_of_find? found
        have entered := state.enter isFresh unvisited named refers
        have smaller := length_erase_lt isFresh
        rw [found]
        apply (visit_settles r (fresh.erase c.name) path done c (mem_classes_of_find? found) entered).bind
        intro more after kept reached
        exact (visitEach_settles r fresh path more rest (state.resume after) expected_rest).cons kept
          (reached c.name List.mem_cons_self)
      · rename_i notFresh
        rcases state.covers child named with isFresh | onPath | isDone
        · exact absurd isFresh notFresh
        · exact .refused (state.genuine_cycle onPath refers)
        · exact absurd isDone unvisited
termination_by (fresh.length, 0, children.length)
decreasing_by
  · exact Prod.Lex.left _ _ smaller
  · simp [Prod.lex_def]
  · simp [Prod.lex_def]

end

/-- A complete traversal lists all classes in order, or stops for a reason. -/
theorem sortedNames_settles (r : Registry) : r.Settles r.names [] [] r.names r.sortedNames := by
  have all : ∀ name, name ∈ r.names.mergeSort (fun a b => decide (a ≤ b)) ↔ name ∈ r.names :=
    fun _ => List.mem_mergeSort
  have settles := visitEach_settles r r.names [] [] _ (.start r) fun child isChild =>
    ⟨(all child).1 isChild, fun _ last => absurd last (by simp)⟩
  rw [← sortedNames] at settles
  generalize r.sortedNames = outcome at settles
  cases settles with
  | visited state kept reached => exact .visited state kept fun name named => reached name ((all name).2 named)
  | refused genuine => exact .refused genuine

/-- The names in order are those of all classes, each once. -/
theorem sortedNames_eq_ok (h : r.sortedNames = .ok done) :
    done.Perm r.names ∧ r.Ordered done ∧ r.Closed ∧ r.Acyclic := by
  have settles := sortedNames_settles r
  rw [h] at settles
  cases settles with
  | visited state _ reached =>
    have same : ∀ name, name ∈ done ↔ name ∈ r.names :=
      fun name => ⟨state.done_registered name, reached name⟩
    refine ⟨(List.perm_ext_iff_of_nodup state.done_nodup r.nodup).2 same, state.ordered, ?_, ?_⟩
    · exact state.ordered.closed reached state.done_registered
    · exact state.ordered.acyclic state.done_nodup reached

theorem sortedNames_eq_error (h : r.sortedNames = .error fault) : r.Genuine fault := by
  have settles := sortedNames_settles r
  rw [h] at settles
  cases settles with
  | refused genuine => exact genuine

/-! ### All classes in order -/

theorem sorted_eq_ok_iff {cs : List ClassDefinition} :
    r.sorted = .ok cs ↔ ∃ done, r.sortedNames = .ok done ∧ cs = done.filterMap r.find? := by
  rw [sorted, bind_eq_ok]
  refine exists_congr fun done => and_congr_right fun _ => ?_
  constructor
  · rintro ⟨⟩
    rfl
  · rintro rfl
    rfl

theorem sorted_eq_error_iff : r.sorted = .error fault ↔ r.sortedNames = .error fault := by
  rw [sorted]
  cases r.sortedNames with
  | error other =>
    constructor
    · rintro ⟨⟩
      rfl
    · rintro ⟨⟩
      rfl
  | ok done => exact iff_of_false (by rintro ⟨⟩) (by rintro ⟨⟩)

/-- The classes are found under their names. -/
theorem filterMap_find?_names (r : Registry) : r.names.filterMap r.find? = r.classes := by
  have each : ∀ c ∈ r.classes, (r.find? ∘ ClassDefinition.name) c = some c :=
    fun c listed => find?_of_mem listed
  rw [names, List.filterMap_map, List.filterMap_congr each, List.filterMap_some]

/-- The classes that are found under names have these names. -/
theorem map_name_filterMap_find? (registered : ∀ name ∈ done, name ∈ r.names) :
    (done.filterMap r.find?).map (·.name) = done := by
  induction done with
  | nil => rfl
  | cons first rest ih =>
    obtain ⟨c, found⟩ := mem_names_iff.1 (registered first List.mem_cons_self)
    have rest_named := ih fun name listed => registered name (List.mem_cons_of_mem _ listed)
    rw [List.filterMap_cons_some found, List.map_cons, rest_named, name_of_find? found]

/-- Sorting puts the classes of a registry in another order. -/
theorem perm_of_sorted {cs : List ClassDefinition} (sorts : r.sorted = .ok cs) : cs.Perm r.classes := by
  obtain ⟨done, visited, rfl⟩ := sorted_eq_ok_iff.1 sorts
  rw [← filterMap_find?_names r]
  exact (sortedNames_eq_ok visited).1.filterMap r.find?

/-- All classes are listed, each once and after those that it depends on, exactly if every dependency is
    registered and no class depends on itself through others. Otherwise the failure names a dependency that
    is missing or a way from a class through others back to it. -/
theorem sorted_topological (r : Registry) :
    ((∃ cs, r.sorted = .ok cs) ↔ r.Closed ∧ r.Acyclic)
    ∧ (∀ cs, r.sorted = .ok cs → cs.Perm r.classes ∧ (cs.map (·.name)).Nodup
      ∧ ∀ before c after, cs = before ++ c :: after →
        ∀ d ∈ c.dependencies, d ≠ c.name → d ∈ before.map (·.name))
    ∧ ∀ fault, r.sorted = .error fault → r.Genuine fault := by
  refine ⟨⟨?_, fun sound => ?_⟩, fun cs listed => ?_, fun fault refused => ?_⟩
  · intro ⟨cs, listed⟩
    obtain ⟨done, visited, -⟩ := sorted_eq_ok_iff.1 listed
    exact (sortedNames_eq_ok visited).2.2
  · cases visited : r.sortedNames with
    | error fault => exact absurd sound (sortedNames_eq_error visited).not_closed_acyclic
    | ok done => exact ⟨_, sorted_eq_ok_iff.2 ⟨done, visited, rfl⟩⟩
  · obtain ⟨done, visited, rfl⟩ := sorted_eq_ok_iff.1 listed
    obtain ⟨perm, ordered, -, -⟩ := sortedNames_eq_ok visited
    have named := map_name_filterMap_find? fun name found => perm.mem_iff.1 found
    refine ⟨?_, ?_, fun before c after split d depends differs => ?_⟩
    · rw [← filterMap_find?_names r]
      exact perm.filterMap r.find?
    · rw [named]
      exact perm.nodup_iff.2 r.nodup
    · rw [split, List.map_append, List.map_cons] at named
      have listed : c ∈ r.classes := by
        have found : c ∈ done.filterMap r.find? := by simp [split]
        obtain ⟨name, -, found⟩ := List.mem_filterMap.1 found
        exact mem_classes_of_find? found
      exact ordered.mem_before named.symm d ((refers_iff (find?_of_mem listed)).2 ⟨depends, differs⟩)
  · exact sortedNames_eq_error (sorted_eq_error_iff.1 refused)

end Registry

end OperationClasses
