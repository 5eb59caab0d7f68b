/-
Module: OperationClasses.Class.Registry
Purpose: The classes of a run by name, and their order with dependencies first.
Main exports: Registry, Registry.add, Registry.find?, Registry.replace, Registry.sorted
-/
import OperationClasses.Class.Basic

namespace OperationClasses

/-- What visits a name only as long as it is listed, and takes it out of the list then, comes to an end. -/
theorem length_erase_lt {names : List String} {name : String} (h : name ∈ names) :
    (names.erase name).length < names.length := by
  have := List.length_pos_of_mem h
  rw [List.length_erase_of_mem h]
  omega

/-- The classes of a run in the order they were added. No two have the same name. -/
structure Registry where
  classes : List ClassDefinition
  nodup : (classes.map (·.name)).Nodup := by simp

namespace Registry

instance : Inhabited Registry := ⟨⟨[], List.nodup_nil⟩⟩

/-- The registry without classes. -/
def empty : Registry := ⟨[], List.nodup_nil⟩

/-- The names of the classes in the order they were added. -/
def names (r : Registry) : List String := r.classes.map (·.name)

/-- The class of a name. -/
def find? (r : Registry) (name : String) : Option ClassDefinition :=
  r.classes.find? (·.name == name)

/-- Adds a class under its name, which must be free. -/
def add (r : Registry) (c : ClassDefinition) : Except InvariantFault Registry :=
  if h : c.name ∈ r.names then throw (.classTaken c.name)
  else return ⟨r.classes ++ [c], by
    rw [List.map_append, List.nodup_append]
    refine ⟨r.nodup, by simp, fun a ha b hb => ?_⟩
    simp only [List.map_cons, List.map_nil, List.mem_singleton] at hb
    rintro rfl
    exact h (hb ▸ ha)⟩

/-- Changes every class in a way that keeps its name. -/
def map (r : Registry) (f : ClassDefinition → ClassDefinition) (h : ∀ c, (f c).name = c.name) :
    Registry :=
  ⟨r.classes.map f, by
    have : (r.classes.map f).map (·.name) = r.classes.map (·.name) := by
      simp [List.map_map, Function.comp_def, h]
    rw [this]; exact r.nodup⟩

/-- Puts a class in the place of the one of its name. -/
def replace (r : Registry) (c : ClassDefinition) : Registry :=
  r.map (fun old => if old.name = c.name then c else old) fun old => by
    by_cases h : old.name = c.name <;> simp [h]

/-- The classes that a class refers to, itself aside, all of which must be in the registry. -/
def edges (r : Registry) (c : ClassDefinition) : Except InvariantFault (List String) :=
  let others := c.dependencies.toList.filter (· != c.name)
  match others.find? fun d => (r.find? d).isNone with
  | some missing => throw (.unknownDependency c.name missing)
  | none => return others

/-!
### Dependencies first

Classes are visited in order of their names, each after the classes it refers to. `path` holds the classes
that are being visited, outermost first, `fresh` those that are neither on the path nor visited on the way
to it, and `done` those that were visited, in order. A class that is neither done nor fresh is on the path,
so it refers to itself through others.
-/

/-- The part of a path from a class on, closed by that class. -/
def cycleFrom (path : List String) (name : String) : List String :=
  path.dropWhile (· != name) ++ [name]

mutual

/-- Visits the classes that a class refers to and then the class. -/
def visit (r : Registry) (fresh path done : List String) (c : ClassDefinition) :
    Except InvariantFault (List String) := do
  let children ← r.edges c
  let done ← visitEach r fresh (path ++ [c.name]) done children
  return done ++ [c.name]
termination_by (fresh.length, 1, 0)

/-- Visits classes one after the other, those that are done aside. -/
def visitEach (r : Registry) (fresh path done : List String) (children : List String) :
    Except InvariantFault (List String) :=
  match children with
  | [] => return done
  | child :: rest =>
    if child ∈ done then visitEach r fresh path done rest
    else if _h : child ∈ fresh then
      match r.find? child with
      | none => throw (.unknownDependency (path.getLastD child) child)
      | some c => do
        let done ← visit r (fresh.erase child) path done c
        visitEach r fresh path done rest
    else throw (.dependencyCycle (cycleFrom path child))
termination_by (fresh.length, 0, children.length)
decreasing_by
  · simp [Prod.lex_def]
  · have := List.length_pos_of_mem _h
    simp only [Prod.lex_def, List.length_erase_of_mem _h]; omega
  · simp [Prod.lex_def]

end

/-- The names of all classes, each after those it refers to. -/
def sortedNames (r : Registry) : Except InvariantFault (List String) :=
  visitEach r r.names [] [] (r.names.mergeSort fun a b => decide (a ≤ b))

/-- All classes, each after those it refers to. -/
def sorted (r : Registry) : Except InvariantFault (List ClassDefinition) := do
  return (← r.sortedNames).filterMap r.find?

end Registry

end OperationClasses
