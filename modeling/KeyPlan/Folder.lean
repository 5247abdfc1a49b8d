import KeyPlan.FileState

/-!
# Folders

A folder knows its files by their paths. A path is followed name by name, so it fails where the first
name is missing or is no folder. A path may lead out of the folder, to a place from which it leads to
folders above but to no file.

## Main definitions

* `Folder`: files and folders by their names from the top
* `Folder.find`: what is found at a path
-/

namespace KeyPlan

/-- **A folder**: its files and the folders that are there without a file, by their names from the
top, and the place from which paths start. -/
structure Folder where
  files : List (List String × List UInt8)
  folders : List (List String) := []
  place : List String := []
  deriving DecidableEq, Repr

namespace Folder

/-- There is a folder of this name. -/
def hasFolder (f : Folder) (names : List String) : Bool :=
  (f.files.map (·.1.dropLast) ++ f.folders).any names.isPrefixOf

/-- The folder with a file in place of the one of that name, if the state is that of a file. -/
def put (f : Folder) (names : List String) : FileState → Folder
  | .file octets => { f with files := (names, octets) :: f.files }
  | .absent _ => f

/-- The place above a place, where none is a place out of the folder. -/
def above : Option (List String) → Option (List String)
  | none | some [] => none
  | some (name :: names) => some (name :: names).dropLast

/-- Why nothing of a name is found. -/
def absence (name : String) : FileFault :=
  if name.utf8ByteSize > 255 then .nameTooLong else .missing

/-- What is found from a place on. A dot stays, two dots go up, and a file has nothing below. -/
def walk (f : Folder) (place : Option (List String)) : List String → FileState
  | [] => .absent .isDirectory
  | name :: rest =>
    if name = "" ∨ name = "." then walk f place rest
    else if name = ".." then walk f (above place) rest
    else
      match place with
      | none => .absent (absence name)
      | some names =>
        let next := names ++ [name]
        match f.files.lookup next with
        | some octets => if rest.isEmpty then .file octets else .absent .notDirectory
        | none => if f.hasFolder next then walk f (some next) rest else .absent (absence name)

/-- **What is found at a path.** Paths from the top of the system begin out of the folder. -/
def find (f : Folder) (path : String) : FileState :=
  if path.contains '\x00' then .absent .nulInName
  else if path.utf8ByteSize ≥ 4096 then .absent .nameTooLong
  else walk f (if path.startsWith "/" then none else some f.place) (path.splitOn "/")

end Folder

end KeyPlan
