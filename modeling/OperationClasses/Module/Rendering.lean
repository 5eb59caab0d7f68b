/-
Module: OperationClasses.Module.Rendering
Purpose: The text of a module of classes: which classes are written, in which order and between which lines, and the
  check that the result is a module: a list of statements, with expressions in the texts that are filled in.
Main exports: isModule, Arrangement, RenderOptions, RenderFault, renderClass, renderModule, renderedRegistry
-/
import OperationClasses.Class.Registry
import OperationClasses.Module.ClassText
import OperationClasses.Module.Syntax.Statement
import OperationClasses.Module.Template

namespace OperationClasses

/-- The expressions that the text literals among some lexemes are filled with. -/
def Lexeme.fillings (lexemes : List Lexeme) : List String :=
  lexemes.flatMap fun
    | .text _ fillings => fillings
    | _ => []

/-- Reads the expression of a filling, which stands in parentheses. -/
def Reads.filling (bound : Nat) : Reads Unit := do
  let _ ← expressionList bound
  lexeme .newline

/-- Whether a text is an expression that can be filled into a text literal. Its text literals can be filled
    in themselves, not deeper than `bound`; each filling is shorter than the text around it, so the length of
    a text is bound enough. -/
def isFilling (bound : Nat) (text : String) : Bool :=
  match bound with
  | 0 => false
  | n + 1 =>
    match Lexeme.scan ("(" ++ text ++ ")") with
    | none => false
    | some lexemes => Reads.accepts Reads.filling lexemes && (Lexeme.fillings lexemes).all (isFilling n)

/-- Whether a text is a module of statements. -/
def isModule (text : String) : Bool :=
  match Lexeme.scan text with
  | none => false
  | some lexemes =>
    Reads.accepts (Reads.statements · .dedent) lexemes
      && (Lexeme.fillings lexemes).all (isFilling text.length)

/-- A change to the list of classes before they are written. -/
inductive Arrangement where
  | reverse
  /-- leaves out classes of some kinds -/
  | drop (kinds : List String)
deriving DecidableEq, Repr, Inhabited

/-- Changes a list of classes. -/
def Arrangement.apply : Arrangement → List ClassDefinition → List ClassDefinition
  | .reverse, classes => classes.reverse
  | .drop kinds, classes => classes.filter fun c => c.kind ∉ kinds

/-- The classes after several changes, in order. -/
def arrange (arrangements : List Arrangement) (classes : List ClassDefinition) :
    List ClassDefinition :=
  arrangements.foldl (fun cs a => a.apply cs) classes

/-- A header above a text, with one empty line between them. -/
def addHeader (content header : String) : String := Text.trimEndLines header ++ "\n\n" ++ content

/-- A text under several headers, the last of which comes first. -/
def addHeaders (headers : List String) (content : String) : String := headers.foldl addHeader content

/-- How a module is written. -/
structure RenderOptions where
  templates : Templates := {}
  arrangements : List Arrangement := []
  headers : List String := []
  filename : String := "generated.py"
deriving Inhabited

/-- Why a module cannot be written. -/
inductive RenderFault where
  /-- a class cannot be written -/
  | unwritable (cause : Failure)
  /-- the text is not a module -/
  | invalid (filename : String)
  /-- the text has a null character, which no module may have -/
  | nullCharacter
deriving DecidableEq, Repr, Inhabited

/-- The message of a module that cannot be written. -/
def RenderFault.message : RenderFault → String
  | .unwritable cause => cause.message
  | .invalid filename => "Generated invalid Python for " ++ filename
  | .nullCharacter => "source code string cannot contain null bytes"

/-- The template that replaces the text of a class. -/
def Templates.forClass (templates : Templates) : ClassDefinition → Option ClassTemplate
  | .enum _ => templates.enum
  | .input _ => templates.input
  | .leaf _ => templates.leaf
  | .root .. => templates.root

/-- The text of a class, by its template if there is one. -/
def renderClass (templates : Templates) (s : Schema) (c : ClassDefinition) : Except Failure String :=
  match templates.forClass c with
  | some template => return Text.trimEnd (← template s c)
  | none => c.text s

/-- The class after an attempt to write it. What replaces its text is taken to read no accessors. -/
def renderedClass (templates : Templates) (s : Schema) (c : ClassDefinition) : ClassDefinition :=
  match templates.forClass c with
  | some _ => c
  | none => c.written s

/-- The lines above the import statements that depend on the classes. -/
def moduleHeader : List String :=
  ["\"\"\"GraphQL operation classes generated by gql-querygen.", "",
    "Do not edit this file by hand; regenerate it instead.", "\"\"\"", "",
    "from __future__ import annotations", "",
    "import enum",
    "from typing import Any, ClassVar, Dict, List, Optional, Tuple, Union, cast", "",
    "from pydantic import BaseModel, ConfigDict", "",
    "from gql_querygen.runtime import SCALAR_TYPE, OnlyErrors, Query, QueryExecutor, QueryResult"]

/-- The usual text of a module: import statements and then the classes. -/
def moduleText (imports : List String) (body : String) : String :=
  Text.unlines (moduleHeader ++ imports ++ ["", "", body])

/-- The text of a module of classes before it is checked. Each import statement is there once, in order. -/
def moduleContent (s : Schema) (options : RenderOptions) (imports : List String)
    (classes : List ClassDefinition) : Except Failure String := do
  let texts ← (arrange options.arrangements classes).mapM (renderClass options.templates s)
  let body := "\n\n\n".intercalate texts
  let sortedImports := (NameSet.ofList imports).toList
  let content ← match options.templates.module with
    | some template => template sortedImports body
    | none => pure (moduleText sortedImports body)
  return addHeaders options.headers (content ++ "\n")

/-- The text of a module of classes, which must be a module. -/
def renderModule (s : Schema) (options : RenderOptions) (imports : List String)
    (classes : List ClassDefinition) : Except RenderFault String := do
  let content ← (moduleContent s options imports classes).mapError .unwritable
  if content.contains '\x00' then throw .nullCharacter
  else if isModule content then return content
  else throw (.invalid options.filename)

/-- A registry after its classes were written one after the other up to the first that cannot be. -/
def renderedRegistry (templates : Templates) (s : Schema) (r : Registry) :
    List ClassDefinition → Registry
  | [] => r
  | c :: rest =>
    let r := r.replace (renderedClass templates s c)
    match renderClass templates s c with
    | .ok _ => renderedRegistry templates s r rest
    | .error _ => r

end OperationClasses
