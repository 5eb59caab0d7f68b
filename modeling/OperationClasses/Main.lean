/-
Module: OperationClasses.Main
Purpose: The program: it looks up the files that its arguments name, runs the command on them, and writes what
  the command changed.
Main exports: main
-/
import OperationClasses.CommandLine.Run
import OperationClasses.Files.Archive

namespace OperationClasses

/-- Adds what stands at a place and, of a directory, everything below it if that is asked for. -/
partial def lookUp (deep : Bool) (t : FileTree) (place : Location) : IO FileTree := do
  let path := System.mkFilePath [t.textOfLocation place]
  if ← path.isDir then
    let t := t.add place .directory
    if deep then
      (← path.readDir).foldlM (fun t entry => lookUp true t (place ++ [entry.fileName])) t
    else return t
  else if ← path.pathExists then
    return t.add place (Entry.ofBytes (← IO.FS.readBinFile path))
  else return t

/-- Adds what stands at a path and on the way to it. -/
def lookUpPath (deep : Bool) (t : FileTree) (text : String) : IO FileTree := do
  let p := FilePath.read text
  let t ← (List.range p.parts.length).foldlM
    (fun t n => lookUp false t (t.resolve { p with parts := p.parts.take n })) t
  lookUp deep t (t.resolve p)

/-- The files that arguments name: all below the paths that are read, and what is where the module goes. -/
def lookUpFiles (arguments : List String) : IO FileTree := do
  let here := (FilePath.read (← IO.currentDir).toString).parts
  let given := (generateArguments arguments).bind fun rest => (Arguments.read rest).toOption
  let values (o : CommandOption) : List String := (given.map (·.values o)).getD []
  let t ← (values .schema ++ values .queries ++ values .templateDir).foldlM (lookUpPath true)
    ⟨"", here, []⟩
  (values .output).foldlM (lookUpPath false) t

/-- Writes what changed. -/
def writeChanges (t : FileTree) (changes : List (Location × Entry)) : IO Unit :=
  changes.forM fun (place, entry) => do
    let path := t.textOfLocation place
    match entry with
    | .directory => IO.FS.createDirAll path
    | .text content => IO.FS.writeFile path content
    | _ => pure ()

/-- Prints what a run of the command said, and gives its exit code. -/
def RunOutcome.print : RunOutcome → IO UInt32
  | .reported report => do
    report.out.forM (IO.println ·)
    IO.eprint report.complaint
    return report.exitCode.toUInt32
  | .crashed crash => do
    IO.eprintln crash.message
    return 1

/-- Runs the program with its arguments and gives its exit code. -/
def runProgram (arguments : List String) : IO UInt32 := do
  let before ← lookUpFiles arguments
  let (outcome, after) := runCommand before "/tmp/schema" arguments
  writeChanges after (after.changesFrom before)
  outcome.print

end OperationClasses

/-- The program. -/
def main (arguments : List String) : IO UInt32 := OperationClasses.runProgram arguments
