import DomainFlow.Settings
import DomainFlow.Toml.Parser
import DomainFlow.Toml.Printer

/-!
# Settings files

Settings as a TOML document with a section each for the project, the analysis and the output. All
fields have to be given; others are ignored.

## Main definitions

* `Settings.parse?`: the settings of the text of a settings file
* `Settings.render`: the text of a settings file
-/

namespace DomainFlow

namespace Settings

/-- The settings of the project from their section. -/
def projectOfToml? (section_ : Toml) : Option ProjectSettings := do
  let [name, factPaths, outputPath] ← section_.fields? ["name", "facts_dirs", "output_dir"] | none
  some {
    name := ← name.text?
    factPaths := ← factPaths.list? Toml.text?
    outputPath := ← outputPath.text? }

/-- The settings of the analysis from their section. -/
def analysisOfToml? (section_ : Toml) : Option AnalysisSettings := do
  let [mergeSameNameEvents, ownershipSuffixes, parallelBatches] ← section_.fields?
    ["merge_same_name_events", "ownership_suffixes", "parallel_batches"] | none
  some {
    mergeSameNameEvents := ← mergeSameNameEvents.bool?
    ownershipSuffixes := ← ownershipSuffixes.list? Toml.text?
    parallelBatches := ← parallelBatches.bool? }

/-- The settings of the output from their section. -/
def outputOfToml? (section_ : Toml) : Option OutputSettings := do
  let [formats, includeMetadata] ← section_.fields? ["formats", "include_metadata"] | none
  some {
    formats := ← formats.list? Toml.text?
    includeMetadata := ← includeMetadata.bool? }

/-- The settings of a TOML document. -/
def ofToml? (document : Toml) : Option Settings := do
  let [project, analysis, output] ← document.fields? ["project", "analysis", "output"] | none
  some {
    project := ← projectOfToml? project
    analysis := ← analysisOfToml? analysis
    output := ← outputOfToml? output }

/-- **The settings of the text of a settings file.** -/
def parse? (text : String) : Option Settings := (Toml.parse? text).bind ofToml?

/-- The array of a list of texts. -/
def texts (l : List String) : Toml := .arr (l.map .text)

/-- **The text of a settings file.** -/
def render (settings : Settings) : String :=
  Toml.renderSections [
    ("project", [
      ("name", .text settings.project.name),
      ("facts_dirs", texts settings.project.factPaths),
      ("output_dir", .text settings.project.outputPath)]),
    ("analysis", [
      ("merge_same_name_events", .bool settings.analysis.mergeSameNameEvents),
      ("ownership_suffixes", texts settings.analysis.ownershipSuffixes),
      ("parallel_batches", .bool settings.analysis.parallelBatches)]),
    ("output", [
      ("formats", texts settings.output.formats),
      ("include_metadata", .bool settings.output.includeMetadata)])]

end Settings

end DomainFlow
