/-
Module: OperationClasses.Files.ModuleFile
Purpose: Writing a module to a file.
Main exports: ModuleFileFault, writeModule, FileTree.writeModule
-/
import OperationClasses.Files.Tree
import OperationClasses.Module.Rendering

namespace OperationClasses

/-- Why a module cannot be written to a file. -/
inductive ModuleFileFault where
  | render (fault : RenderFault)
  | write (fault : WriteFault)
deriving DecidableEq, Repr, Inhabited

/-- Renders a module under the name of a file and writes it there. Nothing is written if it cannot be
    rendered. -/
def writeModule (s : Schema) (options : RenderOptions) (imports : List String) (classes : List ClassDefinition)
    (p : FilePath) : FileStep ModuleFileFault Unit :=
  match renderModule s { options with filename := p.name } imports classes with
  | .ok content => ExceptT.adapt .write (FileTree.write p content)
  | .error fault => throw (.render fault)

/-- The files after a module was written to a path. -/
def FileTree.writeModule (t : FileTree) (s : Schema) (options : RenderOptions) (imports : List String)
    (classes : List ClassDefinition) (p : FilePath) : Except ModuleFileFault FileTree :=
  match (OperationClasses.writeModule s options imports classes p).run.run t with
  | (.ok (), t) => return t
  | (.error fault, _) => throw fault

end OperationClasses
