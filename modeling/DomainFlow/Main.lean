import DomainFlow.Command.Run
import DomainFlow.Timestamp

/-!
# The program

Runs a command line on the real file system. What it prints goes to standard output, and what is
said of a failure to standard error.

## Main definitions

* `FileAccess IO`: the real file system
* `main`
-/

namespace DomainFlow

namespace RealFiles

/-- The path of a text, as the file system takes it. -/
def entryAt (path : String) : IO.FS.DirEntry := ⟨path, ""⟩

/-- Why an operation of the file system failed. -/
def errorOf : IO.Error → FileError
  | .noFileOrDirectory .. => .notFound
  | .alreadyExists .. => .alreadyExists
  | .inappropriateType _ 20 _ => .notADirectory
  | .inappropriateType _ 21 _ => .isADirectory
  | error => .other (toString error)

/-- Runs an operation and keeps its error as a value. -/
def attempt {α : Type} (operation : IO α) : IO (Except FileError α) := do
  match ← operation.toBaseIO with
  | .ok a => return .ok a
  | .error e => return .error (errorOf e)

/-- What a path leads to. -/
def kind? (path : String) : IO (Option PathKind) := do
  match ← (entryAt path).root.metadata.toBaseIO with
  | .ok data =>
    return some (match data.type with
      | .dir => .directory
      | .file => .file
      | _ => .special)
  | .error _ => return none

/-- The text of a file. -/
def readText (path : String) : IO (Except FileError String) := do
  match ← attempt (IO.FS.readBinFile path) with
  | .ok bytes =>
    return match String.fromUTF8? bytes with
      | some s => .ok s
      | none => .error .notText
  | .error e => return .error e

/-- The files below a directory. Links to directories are not followed. -/
partial def filesBelow (path : String) : IO (List (List String)) := do
  let entries ← (entryAt path).root.readDir
  let parts ← entries.toList.mapM fun entry => do
    let below := Path.join path entry.fileName
    if (← (entryAt below).root.symlinkMetadata).type matches .dir then
      return (← filesBelow below).map (entry.fileName :: ·)
    else if (← kind? below) = some .file then return [[entry.fileName]]
    else return []
  return parts.flatten

instance : FileAccess IO where
  kind? := kind?
  readText := readText
  writeText path text := attempt (IO.FS.writeFile path text)
  createDirectory path := attempt (IO.FS.createDir path)
  filesBelow := filesBelow

end RealFiles

/-- The present moment: that of a file made just now. -/
def currentTime : IO Timestamp :=
  IO.FS.withTempFile fun _ path => do
    let modified := (← path.metadata).modified
    return ⟨modified.sec.toNat, modified.nsec.toNat⟩

/-- The time for each document: the clock is read once for each of them. -/
def documentTimes : IO (Document → String) := do
  let graph ← currentTime
  let chains ← currentTime
  let diagrams ← currentTime
  return fun
    | .graph => graph.render
    | .chains => chains.render
    | .diagrams => diagrams.render

end DomainFlow

open DomainFlow in
/-- **The program**: runs a command line, and ends with 1 if it fails and 2 if it is refused. -/
def main (arguments : List String) : IO UInt32 := do
  let here ← IO.currentDir
  match ← runProgram ⟨here.toString, ← documentTimes⟩ arguments with
  | .printed text =>
    (← IO.getStdout).putStr text
    return 0
  | .failed failure =>
    (← IO.getStderr).putStr ("Error: " ++ failure.message ++ "\n")
    return 1
  | .refused =>
    (← IO.getStderr).putStr helpText
    return 2
