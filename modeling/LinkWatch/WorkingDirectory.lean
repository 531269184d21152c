import LinkWatch.Keyed

/-!
# Files

The files that a program sees: folders and files under the folder that it runs in, by their path
from there. A path is read one name at a time; everything before the last name must be a folder.
-/

namespace LinkWatch

/-- What is at a path. -/
inductive Node where
  | folder
  | file (content : ByteArray)

/-- All folders and files under a folder, by their path with slashes between the names. -/
abbrev WorkingDirectory := Keyed Node

namespace WorkingDirectory

/-- The longest name of a file, in bytes. -/
def longestName : Nat := 255

/-- The longest path, in bytes. -/
def longestPath : Nat := 4095

/-- The key of names. -/
def join (names : List String) : String := "/".intercalate names

/-- True when the names lead to a folder. -/
def isFolder (d : WorkingDirectory) (names : List String) : Bool :=
  names.isEmpty
    || (match d.get? (join names) with
      | some .folder => true
      | some (.file _) => false
      | none => d.keys.any fun k => k.startsWith (join names ++ "/"))

/-- Follows names from a folder. The last one may lead anywhere, the others must lead to folders. A
way out of the working directory leads nowhere. -/
def follow (d : WorkingDirectory) : List String → List String → Option (List String)
  | current, [] => some current
  | current, name :: r =>
    if !d.isFolder current then none
    else if name = "" || name = "." then follow d current r
    else if name = ".." then if current.isEmpty then none else follow d current.dropLast r
    else follow d (current ++ [name]) r

/-- Where a path leads, if a file can be there. -/
def locate (d : WorkingDirectory) (path : String) : Option (List String) :=
  let names := (path.toList.splitOn '/').map String.ofList
  if path.isEmpty || path.toList.head? = some '/' || path.toList.getLast? = some '/'
      || path.toList.contains '\x00' || longestPath < path.utf8ByteSize
      || names.any fun n => longestName < n.utf8ByteSize then
    none
  else (d.follow [] names).filter fun found => !d.isFolder found

/-- The text of the file at a path. A file that is not UTF-8 has none. -/
def readText (d : WorkingDirectory) (path : String) : Option String :=
  match d.locate path with
  | none => none
  | some names =>
    match d.get? (join names) with
    | some (.file content) => String.fromUTF8? content
    | _ => none

/-- Writes a file, or replaces one. -/
def writeText (d : WorkingDirectory) (path : String) (text : String) : Option WorkingDirectory :=
  (d.locate path).map fun names => d.insert (join names) (.file text.toUTF8)

/-- The names of what lies in the folder itself, in order. -/
def topNames (d : WorkingDirectory) : List String :=
  (d.keys.map fun k => String.ofList (k.toList.takeWhile (· != '/'))).eraseDups

end WorkingDirectory
end LinkWatch
