import DomainFlow.Path
import DomainFlow.Store

/-!
# Access to files, and failures

What a run needs of a file system, so that the same program runs on a real one and on a model, and why
a run can fail.

## Main definitions

* `FileError`: why an access failed
* `FileAccess`: the monads in which files can be accessed
* `FileAccess.createDirectories`: makes a directory and those above it
* `Failure`: why a run failed, with what is said of it
-/

namespace DomainFlow

/-! ## Access to files -/

/-- **Why an access to a file failed.** -/
inductive FileError
  | notFound
  | alreadyExists
  | isADirectory
  | notADirectory
  /-- The bytes of a file are no text. -/
  | notText
  | other (message : String)
  deriving DecidableEq

/-- What is said of an error. -/
def FileError.message : FileError → String
  | notFound => "No such file or directory (os error 2)"
  | alreadyExists => "File exists (os error 17)"
  | isADirectory => "Is a directory (os error 21)"
  | notADirectory => "Not a directory (os error 20)"
  | notText => "stream did not contain valid UTF-8"
  | other message => message

/-- What a path leads to. -/
inductive PathKind
  | file
  | directory
  /-- Neither a file nor a directory. -/
  | special
  deriving DecidableEq

/-- **Access to files** in a monad. -/
class FileAccess (m : Type → Type) where
  /-- What a path leads to, if to anything. -/
  kind? : String → m (Option PathKind)
  /-- The text of a file. -/
  readText : String → m (Except FileError String)
  /-- Writes a file anew. -/
  writeText : String → String → m (Except FileError Unit)
  /-- Makes a directory in one that is there. -/
  createDirectory : String → m (Except FileError Unit)
  /-- The files below a directory, each by the names that lead to it, in any order. -/
  filesBelow : String → m (List (List String))

namespace FileAccess

variable {m : Type → Type} [Monad m] [FileAccess m]

/-- Makes a directory in one that is there, or accepts it if it is there itself. -/
def ensureDirectory (path : String) : m (Except FileError Unit) := do
  match ← createDirectory path with
  | .ok () => pure (.ok ())
  | .error e =>
    match ← kind? path with
    | some .directory => pure (.ok ())
    | _ => pure (.error e)

/-- Makes a directory; where those above it are missing, after `makeAbove` has made them. -/
def ensureBelow (path : String) (makeAbove : m (Except FileError Unit)) :
    m (Except FileError Unit) := do
  match ← ensureDirectory path with
  | .error .notFound => do
    match ← makeAbove with
    | .ok () => ensureDirectory path
    | .error e => pure (.error e)
  | result => pure result

/-- Makes a directory and those above it, given the names of its path from the last one on. -/
def ensureAll (start : String) : List String → m (Except FileError Unit)
  | [] => pure (.ok ())
  | name :: above =>
    ensureBelow (Path.joinAll start (name :: above).reverse) (ensureAll start above)

/-- **Makes a directory and those above it**, as far as they are missing. -/
def createDirectories (path : String) : m (Except FileError Unit) :=
  if path = "" then pure (.ok ())
  else ensureBelow path
    (ensureAll (if Path.isAbsolute path then "/" else "") (Path.names path).dropLast.reverse)

end FileAccess

/-! ## Failures -/

/-- **Why a run failed.** -/
inductive Failure
  /-- A file of settings holds no settings. -/
  | badSettings (path : String)
  | unsupportedFormat (format : String)
  | file (error : FileError)
  /-- The directory for a new settings file could not be made. -/
  | directory (error : FileError)
  /-- A file of facts holds no batch. -/
  | badFacts (path : String)
  | violation (violation : Store.Violation)
  | unknownEntryPoint (id : String)
  deriving DecidableEq

/-- **What is said of a failure.** -/
def Failure.message : Failure → String
  | badSettings path => "Configuration error: " ++ path ++ " holds no settings"
  | unsupportedFormat format => "Configuration error: Unsupported output format: " ++ format
  | file error => "IO error: " ++ error.message
  | directory error => error.message
  | badFacts path => "Failed to load facts from " ++ path ++ ": the file holds no batch of facts"
  | violation v => "Graph invariant violated: " ++ v.message
  | unknownEntryPoint id => "Unknown entry point: " ++ id

end DomainFlow
