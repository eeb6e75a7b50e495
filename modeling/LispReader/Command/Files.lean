/-!
# Files

Why a file cannot be read or written, and a working directory held in memory.
-/

namespace LispReader

/-- A failure of the file system: its reason in words and its number. -/
structure FileError where
  reason : String
  number : Nat
deriving DecidableEq, Repr

namespace FileError

def notFound : FileError := ⟨"No such file or directory", 2⟩

def notDirectory : FileError := ⟨"Not a directory", 20⟩

def isDirectory : FileError := ⟨"Is a directory", 21⟩

def message (error : FileError) : String :=
  error.reason ++ " (os error " ++ toString error.number ++ ")"

end FileError

/-- A working directory without directories in it: the names of its files and
what they hold. -/
structure Directory where
  files : List (String × ByteArray)

namespace Directory

def get? (directory : Directory) (name : String) : Option ByteArray :=
  directory.files.lookup name

/-- The directory after the file of this name has got this content. -/
def put (directory : Directory) (name : String) (content : ByteArray) :
    Directory :=
  ⟨(name, content) :: directory.files.filter (·.1 != name)⟩

/-- The name of the file in the directory that a path leads to. Empty parts of
a path and single points lead nowhere else. -/
def resolve (directory : Directory) (path : String) : Except FileError String :=
  let parts := path.splitOn "/"
  match parts.filter fun part => part != "" && part != "." with
  | [] => if path = "" then .error .notFound else .error .isDirectory
  | [name] =>
      if parts.getLast? = some name ∧ parts.head? ≠ some "" then
        .ok name
      else if parts.head? ≠ some "" ∧ (directory.get? name).isSome then
        .error .notDirectory
      else
        .error .notFound
  | name :: _ =>
      .error (if (directory.get? name).isSome then .notDirectory else .notFound)

def read (directory : Directory) (path : String) : Except FileError ByteArray :=
  match directory.resolve path with
  | .error error => .error error
  | .ok name =>
      match directory.get? name with
      | some content => .ok content
      | none => .error .notFound

def write (directory : Directory) (path : String) (content : ByteArray) :
    Except FileError Directory :=
  match directory.resolve path with
  | .error error => .error error
  | .ok name => .ok (directory.put name content)

end Directory

end LispReader
