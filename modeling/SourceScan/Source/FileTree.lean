import SourceScan.Source.Path
import SourceScan.Text.Literal

/-! # File trees

The files that can be read live below one directory. Outside of it nothing is known but that
directories lie above. A path is followed name by name, and the first name that leads nowhere
decides the failure.
-/

namespace SourceScan

/-- The files and directories below the current directory, each by the names that lead to it. A
file brings the directories above it along. -/
structure FileTree where
  files : List (List Text × List UInt8) := []
  directories : List (List Text) := []

/-- Why a file cannot be opened. -/
inductive OpenError where
  | notFound
  | notADirectory
  | isADirectory
  | nameTooLong
deriving DecidableEq, Repr

namespace OpenError

def number : OpenError → Nat
  | .notFound => 2
  | .notADirectory => 20
  | .isADirectory => 21
  | .nameTooLong => 36

def words : OpenError → String
  | .notFound => "No such file or directory"
  | .notADirectory => "Not a directory"
  | .isADirectory => "Is a directory"
  | .nameTooLong => "File name too long"

def reason (error : OpenError) (path : Path) : String :=
  "[Errno " ++ toString error.number ++ "] " ++ error.words ++ ": "
    ++ Text.literal path.display.toList

end OpenError

/-- A directory that a path has come to. -/
inductive Directory where
  /-- A directory of the tree, by the names that lead to it from the inside out. -/
  | inside (names : List Text)
  /-- A directory above the tree. -/
  | outside
deriving DecidableEq, Repr

/-- What a name in a directory stands for. -/
inductive Node where
  | file (bytes : List UInt8)
  | directory (directory : Directory)

namespace Directory

def parent : Directory → Directory
  | .inside (_ :: names) => .inside names
  | .inside [] | .outside => .outside

end Directory

namespace FileTree

/-- What a name stands for, if there is anything of that name. -/
def child? (tree : FileTree) (directory : Directory) (name : Text) : Option Node :=
  match directory with
  | .outside => none
  | .inside names =>
      let route := (name :: names).reverse
      match tree.files.lookup route with
      | some bytes => some (.file bytes)
      | none =>
          if tree.files.any (route.isPrefixOf ·.1) || tree.directories.any (route.isPrefixOf ·)
          then some (.directory (.inside (name :: names)))
          else none

def nameSize (name : Text) : Nat := (String.ofList name).utf8ByteSize

def maxNameSize : Nat := 255

def maxPathSize : Nat := 4095

/-- The bytes of the file that names lead to from a directory. -/
def follow (tree : FileTree) : Directory → List Text → Except OpenError (List UInt8)
  | _, [] => .error .isADirectory
  | directory, name :: rest =>
      if name = Path.parent then follow tree directory.parent rest
      else if maxNameSize < nameSize name then .error .nameTooLong
      else
        match tree.child? directory name with
        | none => .error .notFound
        | some (.directory next) => follow tree next rest
        | some (.file bytes) => if rest = [] then .ok bytes else .error .notADirectory

/-- The bytes of the file at a path. -/
def read (tree : FileTree) (path : Path) : Except OpenError (List UInt8) :=
  if maxPathSize < path.display.utf8ByteSize then .error .nameTooLong
  else tree.follow (if path.isAbsolute then .outside else .inside []) path.parts

end FileTree

end SourceScan
