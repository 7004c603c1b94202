import EditAssist.Text.Bytes
import EditAssist.Text.Split

/-! Files by path. A folder holds files, and the folders on their paths; reading a path gives the
bytes of a file or the reason why it cannot be read. Outside the folder there is nothing but the
folders above it. -/
namespace EditAssist
open Text

/-- Why a path cannot be read. -/
inductive ReadFault where
  | notFound
  | isFolder
  | notFolder
  | nameTooLong
  deriving DecidableEq, Repr

def ReadFault.message : ReadFault → String
  | notFound => "No such file or directory (os error 2)"
  | isFolder => "Is a directory (os error 21)"
  | notFolder => "Not a directory (os error 20)"
  | nameTooLong => "File name too long (os error 36)"

/-- A way to read files. -/
abbrev FileReader := List Char → Except ReadFault (List UInt8)

/-- Files with their paths, each path as the list of its parts. -/
structure Folder where
  files : List (List (List Char) × List UInt8) := []

namespace Folder

def parts (path : List Char) : List (List Char) :=
  (splitOn '/' path).filter fun p => !p.isEmpty && p != ['.']

def file? (f : Folder) (place : List (List Char)) : Option (List UInt8) := f.files.lookup place

/-- Whether some file lies below a place. -/
def isFolder (f : Folder) (place : List (List Char)) : Bool :=
  place.isEmpty || f.files.any fun (p, _) => place.isPrefixOf p && place.length < p.length

/-- Put a file at a path, in place of one that is there. -/
def write (f : Folder) (path : List Char) (content : List UInt8) : Folder :=
  ⟨(parts path, content) :: f.files.filter (·.1 != parts path)⟩

/-- Take away the file at a path. -/
def remove (f : Folder) (path : List Char) : Folder := ⟨f.files.filter (·.1 != parts path)⟩

/-- How many bytes the name of a file may have. -/
def nameLimit : Nat := 255

/-- How many bytes a path may have. -/
def pathLimit : Nat := 4095

/-- What keeps a path with the given parts from being read outside the folder. -/
def outside : List (List Char) → ReadFault
  | [] => .isFolder
  | p :: rest =>
    if p.isEmpty || p = ['.'] || p = ['.', '.'] then outside rest
    else if nameLimit < bytes p then .nameTooLong
    else .notFound

/-- Follow the parts of a path from a place, given with its parts. Every part but the last must lead
to a folder. -/
def follow (f : Folder) : (place : List (List Char)) → List (List Char) →
    Except ReadFault (List UInt8)
  | place, [] =>
    match f.file? place with
    | some content => .ok content
    | none => .error (if f.isFolder place then .isFolder else .notFound)
  | place, p :: rest =>
    if f.isFolder place then
      if p.isEmpty || p = ['.'] then f.follow place rest
      else if p = ['.', '.'] then
        if place.isEmpty then .error (outside rest) else f.follow place.dropLast rest
      else if nameLimit < bytes p then .error .nameTooLong
      else f.follow (place ++ [p]) rest
    else .error (if (f.file? place).isSome then .notFolder else .notFound)

/-- Read a file. An empty path names nothing, and a path from the root leads out of the folder. -/
def read (f : Folder) : FileReader := fun path =>
  if path.isEmpty then .error .notFound
  else if pathLimit < bytes path then .error .nameTooLong
  else
    match path with
    | '/' :: rest => .error (outside (splitOn '/' rest))
    | _ => f.follow [] (splitOn '/' path)

example : (Folder.write {} "a/b".toList [1]).read "a/../a/b".toList = .ok [1] := rfl
example : (Folder.write {} "a/b".toList [1]).read "a/b/".toList = .error .notFolder := rfl

end Folder
end EditAssist
