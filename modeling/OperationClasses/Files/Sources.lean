/-
Module: OperationClasses.Files.Sources
Purpose: Schemas from files (schema texts, directories and archives of them, and descriptions that a server
  gave), and the query files that paths stand for.
Main exports: schemaFiles, loadSchema, LoadFault, LoadFault.message, queryFiles, Container.declareFile
-/
import OperationClasses.Declaration
import OperationClasses.Files.Tree
import OperationClasses.Json.Reader
import OperationClasses.Schema.Introspection
import OperationClasses.Text.Letters

namespace OperationClasses

/-- The endings of schema texts. -/
def schemaEndings : List String := [".graphql", ".graphqls", ".gql"]

/-- The endings of archives, in whatever case. -/
def archiveEndings : List String := [".zip", ".tar.gz", ".tgz"]

/-- Why no schema can be loaded. -/
inductive LoadFault where
  /-- no schema text is at the path -/
  | noFiles (path : String)
  /-- an archive of a kind that cannot be unpacked -/
  | unsupportedArchive (suffix : String)
  /-- an archive that cannot be unpacked although its kind can -/
  | damagedArchive
  /-- a description that is no JSON -/
  | malformed (fault : Json.Malformed)
  | schema (fault : SchemaFault)
deriving DecidableEq, Repr, Inhabited

/-- The message of a schema that cannot be loaded, unless it is left to those who check schemas. -/
def LoadFault.message : LoadFault → Option String
  | .noFiles path => some ("No GraphQL schema files found at " ++ path)
  | .unsupportedArchive suffix => some ("Unsupported archive format: " ++ suffix)
  | .malformed fault => some fault.message
  | .damagedArchive => none
  | .schema _ => none

/-- The number of directories that stay behind when no schema can be loaded: an archive that cannot be
    unpacked leaves the one it was to be unpacked into. -/
def LoadFault.leftovers : LoadFault → Nat
  | .damagedArchive => 1
  | _ => 0

/-- A path and a name below it. -/
def joinText (path name : String) : String :=
  if path.toList.getLast? = some '/' then path ++ name else path ++ "/" ++ name

/-- The schema texts at a path by how they are written and where they are: the file itself, or everything
    below a directory, in order of their texts. A file is not found by a path with a slash behind it. -/
def schemaFiles (t : FileTree) (path : String) : List (String × Location) :=
  match t.locate (FilePath.read path) with
  | none => []
  | some place =>
    if path = "" then []
    else if t.isDirectoryAt place then
      let found := (t.below place).filterMap fun (parts, entry) =>
        if entry != .directory && endsInOneOf schemaEndings (parts.getLastD "") then
          some (joinText path ("/".intercalate parts), place ++ parts)
        else none
      found.mergeSort fun a b => decide (a.1 ≤ b.1)
    else if endsInOneOf schemaEndings path then [(path, place)]
    else []

/-- The schema of the texts at a path, with an empty line between each two. -/
def loadSchemaTexts (t : FileTree) (path : String) : Except LoadFault Schema :=
  match schemaFiles t path with
  | [] => throw (.noFiles path)
  | files =>
    match files.mapM fun (_, place) => (t.entryAt place).bind Entry.content? with
    | none => throw (.schema .unreadable)
    | some texts => (Schema.read ("\n\n".intercalate texts)).mapError .schema

/-- The parts of the path of an archive member, without those that lead elsewhere. -/
def memberParts (path : String) : Location :=
  (FilePath.pieces path).filter fun part => part != "" && part != "." && part != ".."

/-- Puts a member of an archive below a directory. A path with a slash behind it is that of a directory.
    There is nothing to put if a file is where a directory has to be, or the other way round. -/
def unpackMember (directory : Location) (t : FileTree) (member : String × String) : Option FileTree := do
  let (path, content) := member
  let isDirectory := path.toList.getLast? == some '/'
  let parts := memberParts path
  match (FileTree.makeDirectories directory parts.dropLast).run.run t with
  | (.error _, _) => none
  | (.ok above, t) =>
    let place := above ++ parts.getLast?.toList
    match t.entryAt place, isDirectory with
    | some .directory, true => return t
    | some .directory, false => none
    | some _, true => none
    | none, true => return t.add place .directory
    | _, false => return t.add place (.text content)

/-- An archive as files of their own below a directory. -/
def unpack (directory : Location) (members : List (String × String)) : Option FileTree :=
  members.foldlM (unpackMember directory) ((⟨"", [], []⟩ : FileTree).add directory .directory)

/-- Loads the schema in an archive, which is unpacked under a name of its own. -/
def loadArchive (unpacked : String) (p : FilePath) (entry : Entry) : Except LoadFault Schema :=
  if p.suffix = ".zip" then
    match entry with
    | .archive members =>
      match unpack (FilePath.read unpacked).parts members with
      | some t => loadSchemaTexts t unpacked
      | none => throw .damagedArchive
    | _ => throw .damagedArchive
  else if endsInOneOf [".tar.gz", ".tgz"] p.name then throw .damagedArchive
  else throw (.unsupportedArchive p.suffix)

/-- Loads the description of a schema. -/
def loadDescription (entry : Entry) : Except LoadFault Schema :=
  match entry.content? with
  | none => throw (.schema .unreadable)
  | some text =>
    match Json.read text with
    | .error fault =>
      match fault.fault with
      | .nestedTooDeeply _ => throw (.schema .unreadable)
      | _ => throw (.malformed fault)
    | .ok answer =>
      match Schema.ofIntrospection answer with
      | some schema => return schema
      | none => throw (.schema (.unreadableDescription "__schema"))

/-- Loads the schema at a path. `unpacked` is the directory that an archive is unpacked into. -/
def loadSchema (t : FileTree) (unpacked path : String) : Except LoadFault Schema :=
  let p := FilePath.read path
  match t.find? p with
  | none => loadSchemaTexts t p.text
  | some .directory => loadSchemaTexts t p.text
  | some entry =>
    if endsInOneOf archiveEndings (Text.lower p.name) then loadArchive unpacked p entry
    else if p.suffix = ".json" then loadDescription entry
    else loadSchemaTexts t p.text

/-! ### Query files -/

/-- The suffixes of query files. -/
def querySuffixes : List String := [".graphql", ".gql"]

/-- The files that a path stands for: of a directory everything below it with the suffix of a query file,
    part by part in order, and of anything else the path itself. -/
def queryFilesOf (t : FileTree) (text : String) : List FilePath :=
  let p := FilePath.read text
  match t.locate p with
  | some place =>
    if t.isDirectoryAt place then
      let found := (t.below place).filterMap fun (parts, _) =>
        if querySuffixes.contains (FilePath.suffixOf (parts.getLastD "")) then some (p.join parts)
        else none
      found.mergeSort FilePath.le
    else [p]
  | none => [p]

/-- The files that several paths stand for, path by path. -/
def queryFiles (t : FileTree) (paths : List String) : List FilePath :=
  paths.flatMap (queryFilesOf t)

/-- Declares the query file at a path, if it can be read. -/
def Container.declareFile (c : Container) (t : FileTree) (p : FilePath) :
    Except ReadFault (Except DeclarationFault Declaration × Container) := do
  return c.declare (← t.read p) p.text

end OperationClasses
