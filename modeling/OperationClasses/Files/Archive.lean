/-
Module: OperationClasses.Files.Archive
Purpose: What the bytes of a file are: a text, an archive of texts, or neither.
Main exports: Archive.members, Entry.ofBytes
-/
import OperationClasses.Files.Deflate
import OperationClasses.Files.Tree

namespace OperationClasses

namespace Archive

/-- The number that some bytes stand for, the lowest one first. -/
def numberAt (data : ByteArray) (start : Nat) : Nat → Option Nat
  | 0 => some 0
  | n + 1 => do
    let low ← data[start]?
    return low.toNat + 256 * (← numberAt data (start + 1) n)

/-- The bytes from a place on, if there are as many. -/
def slice? (data : ByteArray) (start length : Nat) : Option ByteArray :=
  if start + length ≤ data.size then some (data.extract start (start + length)) else none

/-- The text of some bytes, if they are one. -/
def textOf? (data : ByteArray) : Option String :=
  if h : data.IsValidUTF8 then some (String.ofByteArray data h) else none

/-- The mark of the end of an archive's list of members. -/
def listEndMark : Nat := 0x06054B50

/-- The mark of a member in the list. -/
def listedMark : Nat := 0x02014B50

/-- The mark of a member before its bytes. -/
def storedMark : Nat := 0x04034B50

/-- The bytes of a member: as they are, or packed. -/
def memberBytes (method : Nat) (data : ByteArray) : Option ByteArray :=
  match method with
  | 0 => some data
  | 8 => inflate data
  | _ => none

/-- A member of the list that begins at a place, and the place of the next one. -/
def listedMember (data : ByteArray) (start : Nat) : Option ((String × ByteArray) × Nat) := do
  guard ((← numberAt data start 4) = listedMark)
  let method ← numberAt data (start + 10) 2
  let size ← numberAt data (start + 20) 4
  let nameLength ← numberAt data (start + 28) 2
  let extraLength ← numberAt data (start + 30) 2
  let noteLength ← numberAt data (start + 32) 2
  let stored ← numberAt data (start + 42) 4
  let name ← textOf? (← slice? data (start + 46) nameLength)
  guard ((← numberAt data stored 4) = storedMark)
  let skipped := (← numberAt data (stored + 26) 2) + (← numberAt data (stored + 28) 2)
  let content ← memberBytes method (← slice? data (stored + 30 + skipped) size)
  return ((name, content), start + 46 + nameLength + extraLength + noteLength)

/-- As many members of the list as are asked for. -/
def listedMembers (data : ByteArray) (start : Nat) : Nat → Option (List (String × ByteArray))
  | 0 => some []
  | n + 1 => do
    let (member, next) ← listedMember data start
    return member :: (← listedMembers data next n)

/-- The place of the end of the list of members: the last one that is marked so. -/
def listEnd? (data : ByteArray) : Option Nat :=
  (List.range (data.size - 21)).reverse.find? fun n => numberAt data n 4 == some listEndMark

/-- The texts in an archive by their paths, if the bytes are one. Members that are no text are left out. -/
def members (data : ByteArray) : Option (List (String × String)) := do
  let finish ← listEnd? data
  let members ← listedMembers data (← numberAt data (finish + 16) 4) (← numberAt data (finish + 10) 2)
  return members.filterMap fun (name, content) => (textOf? content).map (name, ·)

end Archive

/-- The file that holds some bytes. -/
def Entry.ofBytes (data : ByteArray) : Entry :=
  match Archive.members data with
  | some members => .archive members
  | none => (Archive.textOf? data).elim .binary .text

end OperationClasses
