/-
Module: OperationClasses.Module.Template
Purpose: What replaces the usual text of a class or module: texts with places for the name of a class or for the
  classes of a module, or anything else that makes such a text.
Main exports: Template, Template.read, Template.fill, Templates
-/
import OperationClasses.Class.Basic
import OperationClasses.Failure
import OperationClasses.Text.Lines

namespace OperationClasses

/-- What a place of a template stands for. -/
inductive TemplateHole where
  /-- the name of the class -/
  | className
  /-- the classes of the module -/
  | body
deriving DecidableEq, Repr, Inhabited

/-- A piece of a template. -/
inductive TemplatePiece where
  | text (chars : List Char)
  | hole (hole : TemplateHole)
deriving DecidableEq, Repr, Inhabited

/-- A template: pieces in order. -/
abbrev Template := List TemplatePiece

namespace Template

/-- The place that a word between double braces names, if it names one. -/
def holeNamed (word : String) : List TemplatePiece :=
  match word with
  | "cls.name" => [.hole .className]
  | "body" => [.hole .body]
  | _ => []

/-- Reads the pieces of a template. `gathered` holds the last characters of a text, backwards, and `inside`
    says whether they stand between double braces. -/
def pieces (gathered : List Char) (inside : Bool) : List Char → Template
  | '\x7b' :: '\x7b' :: rest =>
    if inside then pieces ('\x7b' :: '\x7b' :: gathered) true rest
    else .text gathered.reverse :: pieces [] true rest
  | '\x7d' :: '\x7d' :: rest =>
    if inside then holeNamed (Text.trim (String.ofList gathered.reverse)) ++ pieces [] false rest
    else pieces ('\x7d' :: '\x7d' :: gathered) false rest
  | c :: rest => pieces (c :: gathered) inside rest
  | [] => [.text gathered.reverse]

/-- Reads a template, whose last newline does not belong to it. -/
def read (text : String) : Template :=
  let chars := text.toList
  pieces [] false (if chars.getLast? = some '\n' then chars.dropLast else chars)

/-- Puts texts into the places of a template. -/
def fill (template : Template) (value : TemplateHole → String) : String :=
  String.ofList (template.flatMap fun
    | .text chars => chars
    | .hole h => (value h).toList)

end Template

/-- Makes the text of a class of a schema, or fails. -/
abbrev ClassTemplate := Schema → ClassDefinition → Except Failure String

/-- Makes the text of a module from its import statements and the text of its classes, or fails. -/
abbrev ModuleTemplate := List String → String → Except Failure String

/-- A template that is filled with the name of a class. -/
def Template.ofClass (template : Template) : ClassTemplate := fun _ c =>
  return template.fill fun
    | .className => c.name
    | .body => ""

/-- A template that is filled with the classes of a module. -/
def Template.ofModule (template : Template) : ModuleTemplate := fun _ body =>
  return template.fill fun
    | .className => ""
    | .body => body

/-- What replaces usual texts, by the kind of class. -/
structure Templates where
  enum : Option ClassTemplate := none
  input : Option ClassTemplate := none
  leaf : Option ClassTemplate := none
  root : Option ClassTemplate := none
  module : Option ModuleTemplate := none
deriving Inhabited

end OperationClasses
