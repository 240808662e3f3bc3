import MarkupAssist.CommandLine.Run

/-!
# The program

Files, standard input and output for the command line.
-/

namespace MarkupAssist
namespace Main

open Files (FileAccess FileFault)

def faultOf : IO.Error → FileFault
  | .noFileOrDirectory _ _ _ => .notFound
  | .inappropriateType _ code _ =>
      if code = 20 then .notADirectory else if code = 21 then .isADirectory
      else .other ("os error " ++ toString code)
  | .invalidArgument _ code _ =>
      if code = 36 then .nameTooLong else .other ("os error " ++ toString code)
  | error => .other (toString error)

def textOf (bytes : ByteArray) : Except FileFault String :=
  match String.fromUTF8? bytes with
  | some text => .ok text
  | none => .error .notUtf8

def readText (path : String) : IO (Except FileFault String) := do
  try
    return textOf (← IO.FS.readBinFile path)
  catch error =>
    return .error (faultOf error)

/-- The empty path leads nowhere. -/
def isDirectory (path : String) : IO Bool := do
  if path.isEmpty then return false else ((← IO.currentDir) / path).isDir

def isThere (path : String) : IO Bool := do
  if path.isEmpty then return false else ((← IO.currentDir) / path).pathExists

def access : FileAccess IO where
  readText
  isDirectory
  isThere

partial def readAll (stream : IO.FS.Stream) (taken : ByteArray) : IO ByteArray := do
  let chunk ← stream.read 65536
  if chunk.isEmpty then return taken else readAll stream (taken ++ chunk)

def readInput : IO (Except FileFault String) := do
  return textOf (← readAll (← IO.getStdin) .empty)

end Main
end MarkupAssist

def main (arguments : List String) : IO UInt32 := do
  let outcome ← MarkupAssist.CommandLine.run
    ⟨MarkupAssist.Main.access, MarkupAssist.Main.readInput⟩ arguments
  IO.print outcome.output
  if let some error := outcome.error then IO.eprintln error
  return outcome.code.toUInt32
