/-
Files as the library reads them: a path names bytes, or reading it fails.
-/
import Sdwan.Text.Blank
import Sdwan.Text.Utf8

namespace Sdwan

/-- Why a file cannot be read. -/
inductive FileFault where
  | notFound
  | isDirectory
  | notDirectory
  | nameTooLong
  /-- The path holds a zero byte, which ends a path. -/
  | zeroByte
deriving DecidableEq, Repr

/-- The words of the operating system. -/
def FileFault.message : FileFault → String
  | notFound => "No such file or directory (os error 2)"
  | isDirectory => "Is a directory (os error 21)"
  | notDirectory => "Not a directory (os error 20)"
  | nameTooLong => "File name too long (os error 36)"
  | zeroByte => "file name contained an unexpected NUL byte"

/-- What the paths name. -/
abbrev Files := String → Except FileFault (List UInt8)

namespace Files

/-- The directories that every system has. -/
def directories : List String :=
  ["/", "/dev", "/etc", "/proc", "/tmp", "/usr", "/var", ".", "..", "./", "../"]

/-- The parts of a path. -/
def parts (path : String) : List (List Char) :=
  (Text.pieces (· == '/') path.toList).filter fun s => !s.isEmpty && s != ['.']

/-- The most bytes of one name. -/
def maxNameBytes : Nat := 255

/-- Whether a path leads from the root to one of the directories. -/
def isDirectory (path : String) : Bool :=
  path ∈ directories
    || ("/".toList.isPrefixOf path.toList
      && directories.contains
        (String.ofList ('/' :: ((parts path).intersperse ['/']).flatten)))

/-- The directories that every system has, and the empty device. -/
def bare : Files := fun path =>
  if path.toList.any (·.toNat == 0) then .error .zeroByte
  else if path == "/dev/null" then .ok []
  else if "/dev/null/".toList.isPrefixOf path.toList then .error .notDirectory
  else if isDirectory path then .error .isDirectory
  else if (parts path).head?.any fun s => maxNameBytes < (Text.utf8 s).length then
    .error .nameTooLong
  else .error .notFound

/-- The same files and one more. -/
def withFile (files : Files) (path : String) (content : List UInt8) : Files := fun p =>
  if p == path then .ok content else files p

end Files

end Sdwan
