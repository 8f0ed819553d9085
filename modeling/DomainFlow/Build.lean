import DomainFlow.Chain
import DomainFlow.Loading

/-!
# Building the graph

The batches of a run are analysed one by one, each on its own, and merged in the order in which
they were loaded. What a batch lost on the way is reported, and the graph is checked at the end.

## Main definitions

* `Build`: the graph and a report on every batch
* `Build.ofBatches`: the build of a list of batches
* `build`: the build of the batches below a list of paths
-/

namespace DomainFlow

/-- What is reported of a batch. -/
structure BatchReport where
  source : String
  fingerprint : String
  diagnostics : Diagnostics
  deriving DecidableEq

/-- **The graph of a run, and a report on every batch.** -/
structure Build where
  store : Store
  reports : List BatchReport
  deriving DecidableEq

namespace Build

/-- The number of malformed facts in all batches. -/
def malformedFacts (build : Build) : Nat :=
  (build.reports.map (·.diagnostics.malformedFacts)).foldr (· + ·) 0

/-- The number of discarded calls in all batches. -/
def discardedCalls (build : Build) : Nat :=
  (build.reports.map (·.diagnostics.discardedCalls)).foldr (· + ·) 0

/-- The build of a list of contributions. -/
def ofDeltas (deltas : List Delta) : Build where
  store := .ofDeltas deltas
  reports := deltas.map fun delta => ⟨delta.source, delta.fingerprint, delta.diagnostics⟩

/-- **The build of a list of batches.** -/
def ofBatches (settings : AnalysisSettings) (batches : List Batch) : Build :=
  ofDeltas (batches.map (·.analyze settings))

/-- The build itself, unless its graph breaks a rule. -/
def checked (build : Build) : Except Failure Build :=
  match build.store.violations with
  | [] => .ok build
  | first :: _ => .error (.violation first)

end Build

variable {m : Type → Type} [Monad m] [FileAccess m]

/-- **The build of the batches below a list of paths**; without paths, below those of the
settings. -/
def build (settings : Settings) (paths : List String) : ExceptT Failure m Build := do
  let batches ← loadBatches (if paths = [] then settings.project.factPaths else paths)
  ExceptT.mk (pure (Build.ofBatches settings.analysis batches).checked)

end DomainFlow
