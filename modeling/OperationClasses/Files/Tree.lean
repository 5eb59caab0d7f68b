/-
Module: OperationClasses.Files.Tree
Purpose: Paths as their parts. Files and directories as a value: what stands at a path, what lies below a directory, and
  steps that change files.
Main exports: FilePath, FilePath.read, FilePath.text, FilePath.name, FilePath.suffix, Entry, FileTree, FileTree.find?,
  FileTree.read, FileTree.below, FileTree.resolve, FileStep, FileTree.makeDirectories, FileTree.write
-/
import OperationClasses.KeyedList
import OperationClasses.Text.Lines
import OperationClasses.Text.Quoted

namespace OperationClasses

/-- A path: its parts, from the root or from a working directory. No part is empty or means the place
    itself. -/
structure FilePath where
  absolute : Bool
  parts : List String
deriving DecidableEq, Repr, Inhabited

namespace FilePath

/-- The parts of a text between slashes. -/
def pieces (text : String) : List String := (text.toList.splitOn '/').map String.ofList

/-- Reads a path. -/
def read (text : String) : FilePath where
  absolute := text.toList.head? = some '/'
  parts := (pieces text).filter fun part => part != "" && part != "."

/-- The text of a path. -/
def text (p : FilePath) : String :=
  if p.absolute then "/" ++ "/".intercalate p.parts
  else if p.parts.isEmpty then "."
  else "/".intercalate p.parts

/-- The last part of a path. -/
def name (p : FilePath) : String := p.parts.getLastD ""

/-- The path of the directory that holds a file. -/
def parent (p : FilePath) : FilePath := { p with parts := p.parts.dropLast }

/-- The path of something inside a directory. -/
def join (p : FilePath) (parts : List String) : FilePath := { p with parts := p.parts ++ parts }

/-- The part of a name from its last point on, if something stands before and behind that point. -/
def suffixOf (name : String) : String :=
  let chars := name.toList
  let back := chars.reverse.takeWhile (· != '.')
  let stem := chars.length - back.length - 1
  if back.length < chars.length && back.length != 0 && stem != 0 then
    String.ofList ('.' :: back.reverse)
  else ""

/-- The suffix of the last part of a path. -/
def suffix (p : FilePath) : String := suffixOf p.name

/-- The order of paths part by part. -/
def le (a b : FilePath) : Bool := !decide (b.parts < a.parts)

end FilePath

/-- Whether a text ends in one of several endings. -/
def endsInOneOf (endings : List String) (text : String) : Bool :=
  endings.any fun ending => ending.toList.isSuffixOf text.toList

/-- What stands at a place. -/
inductive Entry where
  | directory
  | text (content : String)
  /-- an archive of texts by their paths in it -/
  | archive (members : List (String × String))
  /-- neither text nor archive -/
  | binary
deriving DecidableEq, Repr, Inhabited

/-- The text of a file as it is read: every line end is a newline. -/
def Entry.content? : Entry → Option String
  | .text content => some (String.ofList (Text.plainNewlines content.toList))
  | _ => none

/-- A place: the parts of its path from the root. -/
abbrev Location := List String

/-- Files and directories by their place. `root` is how the root is written before a slash, and `here` is
    the working directory. -/
structure FileTree where
  root : String
  here : Location
  entries : List (Location × Entry)
deriving Inhabited

/-- Why a file cannot be written. -/
inductive WriteFault where
  /-- a directory is there -/
  | isDirectory
  /-- a file is where its directory would have to be -/
  | fileExists
  /-- a file is where a directory above its directory would have to be -/
  | notADirectory
deriving DecidableEq, Repr, Inhabited

/-- The message of a file that cannot be written. -/
def WriteFault.message (p : FilePath) : WriteFault → String
  | .isDirectory => "[Errno 21] Is a directory: " ++ Text.quoted p.text
  | .fileExists => "[Errno 17] File exists: " ++ Text.quoted p.parent.text
  | .notADirectory => "[Errno 20] Not a directory: " ++ Text.quoted p.parent.text

/-- Why a file cannot be read. -/
inductive ReadFault where
  | missing (path : String)
  | isDirectory (path : String)
  /-- what it holds is not text -/
  | notText (path : String)
deriving DecidableEq, Repr, Inhabited

/-- The message of a file that cannot be read. -/
def ReadFault.message : ReadFault → String
  | .missing path => "[Errno 2] No such file or directory: " ++ Text.quoted path
  | .isDirectory path => "[Errno 21] Is a directory: " ++ Text.quoted path
  | .notText path => Text.quoted path ++ " is not text"

namespace FileTree

/-- The entry at a place. The root and the working directory are always there. -/
def entryAt (t : FileTree) (place : Location) : Option Entry :=
  if place.isPrefixOf t.here then some .directory else t.entries.lookup place

/-- Whether a directory stands at a place. -/
def isDirectoryAt (t : FileTree) (place : Location) : Bool := t.entryAt place == some .directory

/-- The place that parts lead to from another one, if every part but the last leads to a directory and the
    last to anything. The place above the root is the root. -/
def walk (t : FileTree) (place : Location) : List String → Option Location
  | [] => some place
  | part :: rest =>
    if t.isDirectoryAt place then
      if part = ".." then t.walk place.dropLast rest
      else if (t.entryAt (place ++ [part])).isSome then t.walk (place ++ [part]) rest
      else none
    else none

/-- The place that a path starts from. -/
def start (t : FileTree) (p : FilePath) : Location := if p.absolute then [] else t.here

/-- The place of an existing path. -/
def locate (t : FileTree) (p : FilePath) : Option Location := t.walk (t.start p) p.parts

/-- The entry of an existing path. -/
def find? (t : FileTree) (p : FilePath) : Option Entry := (t.locate p).bind t.entryAt

/-- Whether a path is that of a directory. -/
def isDirectory (t : FileTree) (p : FilePath) : Bool := t.find? p == some .directory

/-- Whether a path is that of a file. -/
def isFile (t : FileTree) (p : FilePath) : Bool := (t.find? p).any (· != .directory)

/-- Reads the text of the file at a path. -/
def read (t : FileTree) (p : FilePath) : Except ReadFault String :=
  match t.find? p with
  | none => throw (.missing p.text)
  | some .directory => throw (.isDirectory p.text)
  | some entry =>
    match entry.content? with
    | some text => return text
    | none => throw (.notText p.text)

/-- What lies below a place at any depth, with paths from that place. -/
def below (t : FileTree) (place : Location) : List (List String × Entry) :=
  t.entries.filterMap fun (p, e) =>
    if place.isPrefixOf p && place.length < p.length then some (p.drop place.length, e) else none

/-- The text of a place. -/
def textOfLocation (t : FileTree) (place : Location) : String :=
  if place.isEmpty && t.root != "" then t.root else t.root ++ "/" ++ "/".intercalate place

/-- The place that a part leads to from another one: a part that leads up takes away the last one. -/
def toward (place : Location) (part : String) : Location := if part = ".." then place.dropLast else place ++ [part]

/-- The place that a path means, whether anything is there or not. -/
def resolve (t : FileTree) (p : FilePath) : Location := (t.start p ++ p.parts).foldl toward []

/-- Puts an entry at a place. -/
def put (t : FileTree) (place : Location) (entry : Entry) : FileTree :=
  { t with entries := setKey place entry t.entries }

/-- Adds a file or directory with the directories above it. -/
def add (t : FileTree) (place : Location) (entry : Entry) : FileTree :=
  let above := (List.range (place.length - 1)).map fun n => place.take (n + 1)
  let entries := above.foldl (fun es p => setKey p .directory es) t.entries
  { t with entries := setKey place entry entries }

end FileTree

/-- A step on files, which may fail. What it did before it failed stays done. -/
abbrev FileStep (ε : Type) := ExceptT ε (StateM FileTree)

namespace FileTree

/-- Makes the directories that parts lead through from a place, and gives the last of them. -/
def makeDirectories (place : Location) : List String → FileStep WriteFault Location
  | [] => return place
  | part :: rest =>
    if part = ".." then makeDirectories place.dropLast rest
    else do
      let next := place ++ [part]
      match (← get).entryAt next with
      | some .directory => makeDirectories next rest
      | some _ => throw (if rest.isEmpty then .fileExists else .notADirectory)
      | none =>
        modify (·.put next .directory)
        makeDirectories next rest

/-- Puts a text at a place, instead of a file that may be there. -/
def putText (place : Location) (content : String) : FileStep WriteFault Unit := do
  if (← get).isDirectoryAt place then throw .isDirectory
  else modify (·.put place (.text content))

/-- Writes a text to a path. Missing directories are made. -/
def write (p : FilePath) (content : String) : FileStep WriteFault Unit := do
  let directory ← makeDirectories ((← get).start p) p.parent.parts
  putText (p.parts.getLast?.elim directory (toward directory)) content

/-- What stands in a tree where another one has nothing or something else. -/
def changesFrom (t before : FileTree) : List (Location × Entry) :=
  t.entries.filter fun (place, entry) => before.entryAt place != some entry

end FileTree

end OperationClasses
