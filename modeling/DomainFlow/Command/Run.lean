import DomainFlow.Command.Line
import DomainFlow.Task

/-!
# Running commands

## Main definitions

* `Command.run`: what a command prints
* `Outcome`: how a run of the program ends
* `runProgram`: the run of a command line
-/

namespace DomainFlow

/-! ## What is printed -/

/-- Lines as a text, each with a line feed at its end. -/
def unlines (lines : List String) : String := String.join (lines.map (· ++ "\n"))

/-- The lines of a chain: its name, then an edge each. -/
def chainLines (chain : Chain) : List String :=
  chain.name :: chain.edges.map fun edge =>
    "  " ++ chain.nodeIdOf edge.source ++ " -[" ++ edge.label.name ++ "]-> " ++
      chain.nodeIdOf edge.target

/-- A text with blanks behind it up to a width. -/
def padTo (width : Nat) (text : String) : String :=
  text ++ String.ofList (List.replicate (width - text.length) ' ')

/-- The lines of the numbers of a build. -/
def statisticsLines (build : Build) : List String :=
  let numbers := build.store.statistics
  let line := fun (title : String) (n : Nat) => padTo 18 (title ++ ":") ++ toString n
  [line "Batches" build.reports.length, line "Nodes" numbers.nodes,
    line "Relationships" numbers.relationships, line "Owned entities" numbers.ownedEntities,
    line "Malformed facts" build.malformedFacts, line "Discarded calls" build.discardedCalls] ++
  numbers.relationshipsByKind.map fun (kind, n) => "  " ++ padTo 32 kind.name ++ " " ++ toString n

/-! ## Running -/

/-- What a run takes from its surroundings: the working directory, and the time at which each document
is made. -/
structure Surroundings where
  here : String
  now : Document → String

variable {m : Type → Type} [Monad m] [FileAccess m]

/-- **Runs a command**; the result is what it prints. -/
def Command.run (settings : Settings) (around : Surroundings) :
    Command → ExceptT Failure m String
  | .create directory => do
    pure (unlines [← Task.create around.here directory])
  | .analyze paths directory format => do
    pure (unlines (← Task.analyze settings around.now paths directory format))
  | .chains paths start => do
    pure (unlines ((← Task.chains settings paths start).flatMap chainLines))
  | .statistics paths => do
    pure (unlines (statisticsLines (← build settings paths)))

/-- **How a run of the program ends.** -/
inductive Outcome
  | printed (text : String)
  | failed (failure : Failure)
  | refused
  deriving DecidableEq

/-- The name and version of the program. -/
def versionText : String := "archflow 0.1.0\n"

/-- How the program is used. -/
def helpText : String := unlines [
  "Usage: archflow [-c FILE] [-v] COMMAND",
  "",
  "Commands:",
  "  init     write a settings file       [-p DIRECTORY]",
  "  analyze  write graph and diagrams    [-f PATH]... [-o DIRECTORY] [--format FORMAT]",
  "  chains   print chains                [-f PATH]... [-e NODE]",
  "  stats    print the numbers of a run  [-f PATH]..."]

/-- **Runs a command line.** Its settings are loaded first. -/
def runProgram (around : Surroundings) (arguments : List String) : m Outcome := do
  match CommandLine.parse arguments with
  | .error .usage => pure .refused
  | .error .version => pure (.printed versionText)
  | .error .help => pure (.printed helpText)
  | .ok line => do
    let run : ExceptT Failure m String := do
      let settings ← loadSettings line.settingsPath
      line.command.run settings around
    match ← run.run with
    | .ok text => pure (.printed text)
    | .error failure => pure (.failed failure)

end DomainFlow
