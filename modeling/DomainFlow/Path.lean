import DomainFlow.QualifiedName

/-!
# Paths

A path is a text whose names stand between slashes, and it is shown as it was given.

## Main definitions

* `Path.join`, `Path.joinAll`: the path of something in a directory
* `Path.names`: the names of a path
* `Path.hasExtension`: whether a file name ends in an extension
-/

namespace DomainFlow

namespace Path

/-- The path of a name in a directory. -/
def join (directory name : String) : String :=
  if directory = "" ∨ directory.toList.getLast? = some '/' then directory ++ name
  else directory ++ "/" ++ name

/-- The path of what names lead to from a directory. -/
def joinAll (directory : String) (names : List String) : String := names.foldl join directory

/-- Whether a path starts at the root of the file system. -/
def isAbsolute (path : String) : Bool := path.toList.head? = some '/'

/-- The pieces of a path between its slashes. -/
def pieces (path : String) : List String := (path.toList.splitOn '/').map String.ofList

/-- The pieces of a path without the slashes at its end. -/
def piecesUntilEnd (path : String) : List String :=
  ((pieces path).reverse.dropWhile (· = "")).reverse

/-- **The names of a path.** Empty pieces are no names, and neither is a dot unless it comes
first. -/
def names (path : String) : List String :=
  match pieces path with
  | [] => []
  | first :: rest =>
    (if first = "" then [] else [first]) ++ rest.filter fun name => name ≠ "" ∧ name ≠ "."

/-- **Whether a file name ends in an extension**: the part behind its last dot, unless the name
begins with that dot. -/
def hasExtension (extension name : String) : Bool :=
  match QualifiedName.splitLast? '.' name.toList with
  | some (front, back) => !front.isEmpty && back == extension.toList
  | none => false

end Path

end DomainFlow
