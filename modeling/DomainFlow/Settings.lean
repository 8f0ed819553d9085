import DomainFlow.Delta

/-!
# Settings

What a run works on, how it analyses, and what it writes.

## Main definitions

* `Settings`, with its default `Settings.standard`
-/

namespace DomainFlow

/-- What a run works on. -/
structure ProjectSettings where
  name : String
  /-- The files and directories that hold facts. -/
  factPaths : List String
  /-- The directory that outputs are written to. -/
  outputPath : String
  deriving DecidableEq

/-- What a run writes. -/
structure OutputSettings where
  /-- The names of the formats to write. -/
  formats : List String
  /-- Whether documents say where they come from. -/
  includeMetadata : Bool
  deriving DecidableEq

/-- **The settings of a run.** -/
structure Settings where
  project : ProjectSettings
  analysis : AnalysisSettings
  output : OutputSettings
  deriving DecidableEq

/-- **The settings that hold where nothing is configured.** -/
def Settings.standard : Settings where
  project := ⟨"Unnamed Project", ["facts"], "architecture"⟩
  analysis := ⟨true, Ownership.standardSuffixes, true⟩
  output := ⟨["json", "mermaid"], true⟩

end DomainFlow
