/-!
# Files

What the program asks of files, whoever answers, and how paths are put together.

- `FileFault`    : why a file cannot be read
- `FileAccess`   : the questions that can be asked
- `joinPath`     : a path below another one
- `extension?`   : the extension of a file name
-/

namespace MarkupAssist
namespace Files

inductive FileFault
  | notFound
  | notADirectory
  | isADirectory
  | nameTooLong
  | notUtf8
  | nulInPath
  /-- In the words of the system. -/
  | other (text : String)
  deriving DecidableEq, Repr

def FileFault.describe : FileFault → String
  | .notFound => "No such file or directory (os error 2)"
  | .notADirectory => "Not a directory (os error 20)"
  | .isADirectory => "Is a directory (os error 21)"
  | .nameTooLong => "File name too long (os error 36)"
  | .notUtf8 => "stream did not contain valid UTF-8"
  | .nulInPath => "file name contained an unexpected NUL byte"
  | .other text => text

structure FileAccess (m : Type → Type) where
  readText (path : String) : m (Except FileFault String)
  isDirectory (path : String) : m Bool
  /-- A file or a directory. -/
  isThere (path : String) : m Bool

/-! ## Paths -/

/-- A path that begins with a slash stands for itself, and nothing is put before one that is
relative to the empty path. -/
def joinPath (base path : String) : String :=
  let base := base.toList
  if path.toList.head? = some '/' || base.isEmpty then path
  else if base.getLast? = some '/' then String.ofList base ++ path
  else String.ofList base ++ "/" ++ path

/-- What comes after the last slash. -/
def fileName (path : String) : List Char :=
  (path.toList.reverse.takeWhile (· ≠ '/')).reverse

/-- What comes after the last point, unless that is the first character. -/
def extension? (path : String) : Option String :=
  let name := fileName path
  match name.reverse.dropWhile (· ≠ '.') with
  | _ :: _ :: _ => some (String.ofList (name.reverse.takeWhile (· ≠ '.')).reverse)
  | _ => none

end Files
end MarkupAssist
