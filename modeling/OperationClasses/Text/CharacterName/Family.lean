/-
Module: OperationClasses.Text.CharacterName.Family
Purpose: Names of characters that begin and end alike, listed once.
Main exports: NameFamily
-/

namespace OperationClasses.Text

/-- Names of characters that each consist of one of several beginnings and one of several ends. The ends stand
    in lines, with commas between them. Without a beginning the ends are whole names. -/
structure NameFamily where
  beginnings : List String
  ends : List String
deriving Repr, Inhabited

namespace NameFamily

/-- Whether some characters are among those between the commas of a line. -/
def lineContains (line : String) (text : List Char) : Bool :=
  (line.toList.splitOn ',').contains text

/-- What is left of a name after a beginning and a space. -/
def afterBeginning? (beginning : String) (name : List Char) : Option (List Char) :=
  let head := beginning.toList ++ [' ']
  if head.isPrefixOf name then some (name.drop head.length) else none

/-- Whether a name belongs to a family. -/
def contains (family : NameFamily) (name : List Char) : Bool :=
  let rests := match family.beginnings with
    | [] => [name]
    | beginnings => beginnings.filterMap fun b => afterBeginning? b name
  rests.any fun rest => family.ends.any fun line => lineContains line rest

end NameFamily

end OperationClasses.Text
