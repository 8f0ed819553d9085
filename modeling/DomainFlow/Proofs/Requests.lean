import DomainFlow.Task
import DomainFlow.Proofs.Consistency
import DomainFlow.Proofs.LoadingOrder
import DomainFlow.Proofs.Writing

/-!
# Requests for the documents

A request goes through its phases in order: it loads the facts, checks the graph, makes the directory,
checks the formats and writes the documents. It can end in each of them. Up to the last check only
directories are made, so a request that is rejected leaves every file as it was. A request that succeeds
has written exactly the documents it asked for.

## Main definitions

* `Request`: what decides on the documents, with its run on a tree
* `Request.Ends`: how a request ends, by its phases
* `Request.Rejected`: a request that does not pass its checks
* `Request.Clear`: a request that nothing in the tree is in the way of

## Main results

* `Request.exists_ends`: every request ends in one of its phases
* `Request.isProper_run`: a request keeps a tree proper
* `Request.Ends.unchanged_of_rejected`: a rejected request changes no file
* `Request.run_all_or_nothing`: a request is carried out in full or, if it is rejected, not at all
-/

namespace DomainFlow

/-! ## Checked graphs -/

theorem Build.checked_of_violations_eq_nil {build : Build} (h : build.store.violations = []) :
    build.checked = .ok build := by
  rw [Build.checked, h]

theorem Build.checked_of_violations_eq_cons {build : Build} {first : Store.Violation}
    {rest : List Store.Violation} (h : build.store.violations = first :: rest) :
    build.checked = .error (.violation first) := by
  rw [Build.checked, h]

/-! ## Requests -/

/-- **A request for the documents**: the settings, and what was asked for in place of them. -/
structure Request where
  settings : Settings
  generatedAt : Document → String
  paths : List String
  directory : Option String
  format : Option String

namespace Request

section Parts

variable (request : Request) (tree : FileTree) (batches : List Batch)

/-- The paths of the facts. -/
def facts : List String :=
  if request.paths = [] then request.settings.project.factPaths else request.paths

/-- The directory of the documents. -/
def target : String := request.directory.getD request.settings.project.outputPath

/-- The formats of the documents. -/
def formats : List String :=
  (request.format.map fun format => [format]).getD request.settings.output.formats

/-- The graph of some batches. -/
def store : Store := (Build.ofBatches request.settings.analysis batches).store

/-- What the documents of some batches are made of. -/
def exports : Exports :=
  .ofStore request.settings.project.name request.settings.output.includeMetadata
    request.generatedAt (request.store batches) (request.store batches).traceAll

/-- The documents of some batches. -/
def documents : List (String × String) := (request.exports batches).requested request.formats

/-- **The names of the documents that the formats ask for**, in order and each once. -/
def documentNames : List String :=
  (if "json" ∈ request.formats ∨ "all" ∈ request.formats then ["graph.json", "chains.json"]
    else []) ++
  (if "mermaid" ∈ request.formats ∨ "all" ∈ request.formats then ["chains.md"] else [])

/-- What the request comes to, and the tree that it leaves behind. -/
def run : Except Failure (List String) × FileTree :=
  StateT.run (Task.analyze request.settings request.generatedAt request.paths request.directory
    request.format : ExceptT Failure (StateM FileTree) _).run tree

/-- What making its directory comes to, and the tree that it leaves behind. -/
def makeTarget : Except FileError Unit × FileTree :=
  StateT.run (FileAccess.createDirectories request.target : StateM FileTree _) tree

/-- **The batches of a request**: all its files can be loaded. -/
def Gives : Prop :=
  ∃ files, List.Forall₂ tree.Selects request.facts files ∧
    List.Forall₂ (fun file batch => tree.load file = .ok batch) files.flatten batches

/-- The batches of a request whose graph breaks no rule. -/
def Accepts : Prop := request.Gives tree batches ∧ (request.store batches).violations = []

end Parts

variable {request : Request} {tree : FileTree} {batches : List Batch}

/-- **How a request ends**: one way for each phase that it may not get past, and one for success. -/
inductive Ends (request : Request) (tree : FileTree) :
    Except Failure (List String) → FileTree → Prop
  | badFacts {files : List (List String)} {failure : Failure}
      (hfiles : List.Forall₂ tree.Selects request.facts files)
      (h : tree.Loads files.flatten (.error failure)) : Ends request tree (.error failure) tree
  | violation {batches : List Batch} {first : Store.Violation} {rest : List Store.Violation}
      (h : request.Gives tree batches)
      (hviolations : (request.store batches).violations = first :: rest) :
      Ends request tree (.error (.violation first)) tree
  | badDirectory {batches : List Batch} {e : FileError} {made : FileTree}
      (h : request.Accepts tree batches) (hmade : request.makeTarget tree = (.error e, made)) :
      Ends request tree (.error (.file e)) made
  | badFormat {batches : List Batch} {made : FileTree} {name : String}
      (h : request.Accepts tree batches) (hmade : request.makeTarget tree = (.ok (), made))
      (hname : IsFirst (· ∉ Format.supported) request.formats name) :
      Ends request tree (.error (.unsupportedFormat name)) made
  | blocked {batches : List Batch} {made : FileTree} {place : List String}
      {before later : List (String × String)} {document : String × String}
      (h : request.Accepts tree batches) (hmade : request.makeTarget tree = (.ok (), made))
      (hformats : ∀ name ∈ request.formats, name ∈ Format.supported)
      (hopens : made.Opens request.target place)
      (hdocuments : request.documents batches = before ++ document :: later)
      (hbefore : made.Admits place before)
      (hblocked : made.entry? (place ++ [document.1]) = some .directory) :
      Ends request tree (.error (.file .isADirectory)) (made.putAll place before)
  | written {batches : List Batch} {made : FileTree} {place : List String}
      (h : request.Accepts tree batches) (hmade : request.makeTarget tree = (.ok (), made))
      (hformats : ∀ name ∈ request.formats, name ∈ Format.supported)
      (hopens : made.Opens request.target place)
      (hfree : made.Admits place (request.documents batches)) :
      Ends request tree (.ok ((request.documents batches).map (Path.join request.target ·.1)))
        (made.putAll place (request.documents batches))

/-! ## How requests end -/

/-- What building the graph of some batches gives. -/
theorem run_build (h : request.Gives tree batches) :
    StateT.run (build request.settings request.paths :
        ExceptT Failure (StateM FileTree) Build).run tree =
      ((Build.ofBatches request.settings.analysis batches).checked, tree) := by
  obtain ⟨files, hfiles, hbatches⟩ := h
  have hloaded := FileTree.run_loadBatches hfiles (.all hbatches)
  rw [build]
  exact run_bind_of_run_eq_ok hloaded

/-- Documents are written in full, or up to the first one that a directory is in the way of. -/
theorem exists_ends_of_made {made : FileTree} {formats : List Format}
    (h : request.Accepts tree batches) (hmade : request.makeTarget tree = (.ok (), made))
    (hformats : Format.ofNames request.formats = .ok formats) :
    ∃ outcome after, StateT.run ((request.documents batches).mapM
        (Exports.writeDocument request.target) :
          ExceptT Failure (StateM FileTree) (List String)).run made = (outcome, after) ∧
      request.Ends tree outcome after := by
  have hsupported := Format.forall_mem_supported hformats
  obtain ⟨place, hopens⟩ := FileTree.exists_opens_of_createDirectories hmade
  have hnames : ∀ d ∈ request.documents batches, Path.IsName d.1 := fun _ =>
    Exports.isName_of_mem_requested
  by_cases hfree : made.Admits place (request.documents batches)
  · exact ⟨_, _, FileTree.run_mapM_writeDocument hopens hnames hfree,
      .written h hmade hsupported hopens hfree⟩
  · have hexists : ∃ d ∈ request.documents batches,
        made.entry? (place ++ [d.1]) = some .directory := by
      unfold FileTree.Admits at hfree
      push Not at hfree
      exact hfree
    obtain ⟨document, before, later, hdocuments, hblocked, hbefore⟩ := exists_isFirst_iff.2 hexists
    rw [hdocuments] at hnames ⊢
    exact ⟨_, _, FileTree.run_mapM_writeDocument_of_blocked hopens hnames hbefore hblocked,
      .blocked h hmade hsupported hopens hdocuments hbefore hblocked⟩

/-- Once the graph is built, the directory, the formats and the documents are left. -/
theorem exists_ends_of_accepts (h : request.Accepts tree batches) :
    ∃ outcome after, request.run tree = (outcome, after) ∧ request.Ends tree outcome after := by
  have hbuilt : StateT.run (build request.settings request.paths :
      ExceptT Failure (StateM FileTree) Build).run tree =
        (.ok (Build.ofBatches request.settings.analysis batches), tree) := by
    rw [run_build h.1, Build.checked_of_violations_eq_nil h.2]
  obtain ⟨⟨result, made⟩, hmade⟩ : ∃ result, request.makeTarget tree = result := ⟨_, rfl⟩
  have hrun : request.run tree = StateT.run ((request.exports batches).write request.target
      request.formats : ExceptT Failure (StateM FileTree) (List String)).run tree :=
    run_bind_of_run_eq_ok hbuilt
  rw [hrun, Exports.run_write hmade]
  cases result with
  | error e => exact ⟨_, _, rfl, .badDirectory h hmade⟩
  | ok =>
    cases hformats : Format.ofNames request.formats with
    | error failure =>
      obtain ⟨name, hname, rfl⟩ := Format.ofNames_eq_error_iff.1 hformats
      exact ⟨_, _, rfl, .badFormat h hmade hname⟩
    | ok formats => exact exists_ends_of_made h hmade hformats

/-- **Every request ends in one of these ways.** -/
theorem exists_ends (request : Request) (tree : FileTree) :
    ∃ outcome after, request.run tree = (outcome, after) ∧ request.Ends tree outcome after := by
  obtain ⟨files, hfiles⟩ := tree.exists_forall₂_selects request.facts
  obtain ⟨outcome, hloads⟩ := tree.exists_loads files.flatten
  cases outcome with
  | error failure =>
    have hloaded := FileTree.run_loadBatches hfiles hloads
    refine ⟨_, _, ?_, .badFacts hfiles hloads⟩
    exact run_bind_of_run_eq_error (run_bind_of_run_eq_error hloaded)
  | ok batches =>
    have hgives : request.Gives tree batches := ⟨files, hfiles, hloads.forall₂⟩
    cases hviolations : (request.store batches).violations with
    | nil => exact exists_ends_of_accepts ⟨hgives, hviolations⟩
    | cons first rest =>
      have hbuilt := run_build hgives
      rw [Build.checked_of_violations_eq_cons hviolations] at hbuilt
      exact ⟨_, _, run_bind_of_run_eq_error hbuilt, .violation hgives hviolations⟩

/-- Making the directory stays in what making directories carries on. -/
theorem related_of_makeTarget {R : FileTree → FileTree → Prop} (hR : FileTree.Carries R)
    {result : Except FileError Unit} {made : FileTree}
    (h : request.makeTarget tree = (result, made)) : R made tree := by
  have hmade : R (request.makeTarget tree).2 tree :=
    FileTree.staysIn_createDirectories hR request.target tree
  rw [h] at hmade
  exact hmade

theorem file?_of_makeTarget {result : Except FileError Unit} {made : FileTree}
    (h : request.makeTarget tree = (result, made)) (place : List String) :
    made.file? place = tree.file? place :=
  (related_of_makeTarget FileTree.carries_extends h).files place

/-! ## Proper trees -/

theorem Ends.isProper {outcome : Except Failure (List String)} {after : FileTree}
    (h : request.Ends tree outcome after) (htree : tree.IsProper) : after.IsProper := by
  have hmakes {result : Except FileError Unit} {made : FileTree}
      (hmade : request.makeTarget tree = (result, made)) : made.IsProper :=
    related_of_makeTarget FileTree.carries_isProper hmade htree
  cases h with
  | badFacts => exact htree
  | violation => exact htree
  | badDirectory _ hmade => exact hmakes hmade
  | badFormat _ hmade => exact hmakes hmade
  | blocked _ hmade _ hopens hdocuments hbefore =>
    refine (hmakes hmade).putAll hopens.directory (fun d hd => ?_) hbefore
    exact Exports.isName_of_mem_requested (hdocuments ▸ List.mem_append_left _ hd)
  | written _ hmade _ hopens hfree =>
    exact (hmakes hmade).putAll hopens.directory (fun _ => Exports.isName_of_mem_requested) hfree

/-- **A request keeps a proper tree proper**, however it ends. -/
theorem isProper_run (request : Request) (htree : tree.IsProper) :
    (request.run tree).2.IsProper := by
  obtain ⟨_, _, hrun, hends⟩ := request.exists_ends tree
  rw [hrun]
  exact hends.isProper htree

/-! ## All or nothing -/

/-- **A request that is rejected**: a fact file cannot be loaded, the graph breaks a rule, or a format
is not supported. -/
inductive Rejected (request : Request) (tree : FileTree) : Prop
  | facts {files : List (List String)} {file : String} {failure : Failure}
      (hfiles : List.Forall₂ tree.Selects request.facts files) (hfile : file ∈ files.flatten)
      (h : tree.load file = .error failure)
  | violation {batches : List Batch} (h : request.Gives tree batches)
      (hviolations : (request.store batches).violations ≠ [])
  | format {name : String} (hname : name ∈ request.formats) (h : name ∉ Format.supported)

theorem map_fst_documents (request : Request) (batches : List Batch) :
    (request.documents batches).map (·.1) = request.documentNames := by
  unfold documents Exports.requested documentNames
  split <;> split <;> rfl

/-- A request gives batches only if all its files can be loaded. -/
theorem Gives.exists_load {files : List (List String)} {file : String}
    (h : request.Gives tree batches) (hfiles : List.Forall₂ tree.Selects request.facts files)
    (hfile : file ∈ files.flatten) : ∃ batch, tree.load file = .ok batch := by
  obtain ⟨files', hfiles', hbatches⟩ := h
  rw [FileTree.eq_of_forall₂_selects hfiles hfiles'] at hfile
  generalize files'.flatten = all at hbatches hfile
  induction hbatches with
  | nil => cases hfile
  | cons hload _ ih =>
    rcases List.mem_cons.1 hfile with rfl | hfile
    · exact ⟨_, hload⟩
    · exact ih hfile

theorem Gives.unique {batches' : List Batch} (h : request.Gives tree batches)
    (h' : request.Gives tree batches') : batches = batches' := by
  obtain ⟨files, hfiles, hbatches⟩ := h
  obtain ⟨files', hfiles', hbatches'⟩ := h'
  rw [FileTree.eq_of_forall₂_selects hfiles' hfiles] at hbatches'
  refine List.right_unique_forall₂' (fun file batch batch' hload hload' => ?_) hbatches hbatches'
  rw [hload] at hload'
  cases hload'
  rfl

/-- A request that gets past its last check is not rejected. -/
theorem not_rejected (h : request.Accepts tree batches)
    (hformats : ∀ name ∈ request.formats, name ∈ Format.supported) : ¬request.Rejected tree := by
  intro hrejected
  cases hrejected with
  | facts hfiles hfile hfailure =>
    obtain ⟨batch, hload⟩ := h.1.exists_load hfiles hfile
    rw [hload] at hfailure
    cases hfailure
  | violation hgives hviolations =>
    rw [hgives.unique h.1] at hviolations
    exact hviolations h.2
  | format hname hunsupported => exact hunsupported (hformats _ hname)

/-- Loading facts does not fail for a format. -/
theorem load_ne_unsupportedFormat (tree : FileTree) (path name : String) :
    tree.load path ≠ .error (.unsupportedFormat name) := by
  unfold FileTree.load
  split
  · nofun
  · split <;> nofun

/-- **A request that nothing is in the way of**: its directory can be made, and where a document goes
there is no directory. -/
def Clear (request : Request) (tree : FileTree) : Prop :=
  ∃ made place, request.makeTarget tree = (.ok (), made) ∧ made.Opens request.target place ∧
    ∀ name ∈ request.documentNames, made.entry? (place ++ [name]) ≠ some .directory

theorem admits_documents_iff {made : FileTree} {place : List String} :
    made.Admits place (request.documents batches) ↔
      ∀ name ∈ request.documentNames, made.entry? (place ++ [name]) ≠ some .directory := by
  rw [← map_fst_documents request batches, List.forall_mem_map]
  rfl

namespace Ends

variable {outcome : Except Failure (List String)} {after : FileTree}

/-- **A rejected request fails and changes no file**: nothing is written before the last check. -/
theorem unchanged_of_rejected (h : request.Ends tree outcome after)
    (hrejected : request.Rejected tree) :
    (∃ failure, outcome = .error failure) ∧ ∀ place, after.file? place = tree.file? place := by
  cases h with
  | badFacts => exact ⟨⟨_, rfl⟩, fun _ => rfl⟩
  | violation => exact ⟨⟨_, rfl⟩, fun _ => rfl⟩
  -- from here on there may be new directories, but no file has been touched
  | badDirectory haccepts hmade => exact ⟨⟨_, rfl⟩, file?_of_makeTarget hmade⟩
  | badFormat haccepts hmade => exact ⟨⟨_, rfl⟩, file?_of_makeTarget hmade⟩
  | blocked haccepts _ hformats => exact absurd hrejected (not_rejected haccepts hformats)
  | written haccepts _ hformats => exact absurd hrejected (not_rejected haccepts hformats)

/-- **A format is reported exactly if it is the first that is not supported**, once the facts have been
accepted and the directory has been made. -/
theorem unsupportedFormat_iff (h : request.Ends tree outcome after) (name : String) :
    outcome = .error (.unsupportedFormat name) ↔
      (∃ batches, request.Accepts tree batches) ∧
      (∃ made, request.makeTarget tree = (.ok (), made)) ∧
      IsFirst (· ∉ Format.supported) request.formats name := by
  constructor
  · rintro rfl
    cases h with
    | badFacts hfiles hloads =>
      obtain ⟨file, -, hload⟩ := hloads.exists_of_error
      exact absurd hload (load_ne_unsupportedFormat tree file name)
    | badFormat haccepts hmade hname => exact ⟨⟨_, haccepts⟩, ⟨_, hmade⟩, hname⟩
  · rintro ⟨⟨batches, haccepts⟩, ⟨made, hmade⟩, hname⟩
    cases h with
    | badFacts hfiles hloads =>
      obtain ⟨file, hfile, hfailure⟩ := hloads.exists_of_error
      obtain ⟨batch, hload⟩ := haccepts.1.exists_load hfiles hfile
      rw [hload] at hfailure
      cases hfailure
    | violation hgives hviolations =>
      rw [hgives.unique haccepts.1, haccepts.2] at hviolations
      cases hviolations
    | badDirectory _ hfailed =>
      rw [hmade] at hfailed
      cases hfailed
    | badFormat _ _ hfirst => rw [hname.unique hfirst]
    | blocked _ _ hformats => exact absurd (hformats _ hname.mem) hname.holds
    | written _ _ hformats => exact absurd (hformats _ hname.mem) hname.holds

/-- **A request that succeeds has written its documents**, and no other file has changed. -/
theorem exists_of_ok {written : List String} (h : request.Ends tree (.ok written) after) :
    ∃ batches place, request.Accepts tree batches ∧ after.Opens request.target place ∧
      written = request.documentNames.map (Path.join request.target) ∧
      (request.documents batches).map (·.1) = request.documentNames ∧
      (∀ d ∈ request.documents batches,
        after.locate (Path.join request.target d.1) = .ok (place ++ [d.1]) ∧
        after.file? (place ++ [d.1]) = some (.text d.2)) ∧
      ∀ other, (∀ name ∈ request.documentNames, other ≠ place ++ [name]) →
        after.file? other = tree.file? other := by
  cases h with
  | @written batches made place haccepts hmade hformats hopens hfree =>
    have hopensAfter : FileTree.Opens (made.putAll place (request.documents batches))
        request.target place :=
      (FileTree.keeps_putAll hfree).opens hopens
    refine ⟨batches, place, haccepts, hopensAfter, ?_, map_fst_documents request batches,
      fun d hd => ⟨?_, ?_⟩, fun other hother => ?_⟩
    · rw [← map_fst_documents request batches, List.map_map]
      rfl
    · exact hopensAfter.locate_join (Exports.isName_of_mem_requested hd)
    · exact FileTree.file?_putAll_of_mem hfree Exports.nodup_requested hd
    · rw [← map_fst_documents request batches, List.forall_mem_map] at hother
      rw [FileTree.file?_putAll_of_forall_ne hfree hother, file?_of_makeTarget hmade]

/-- **A request succeeds exactly if it is not rejected and nothing is in its way.** -/
theorem ok_iff (h : request.Ends tree outcome after) :
    (∃ written, outcome = .ok written) ↔ ¬request.Rejected tree ∧ request.Clear tree := by
  constructor
  · rintro ⟨written, rfl⟩
    cases h with
    | written haccepts hmade hformats hopens hfree =>
      exact ⟨not_rejected haccepts hformats, _, _, hmade, hopens, admits_documents_iff.1 hfree⟩
  · rintro ⟨hrejected, made, place, hmade, hopens, hfree⟩
    cases h with
    | badFacts hfiles hloads =>
      obtain ⟨file, hfile, hfailure⟩ := hloads.exists_of_error
      exact absurd (.facts hfiles hfile hfailure) hrejected
    | violation hgives hviolations =>
      exact absurd (.violation hgives (by rw [hviolations]; nofun)) hrejected
    | badDirectory _ hfailed =>
      rw [hmade] at hfailed
      cases hfailed
    | badFormat _ _ hfirst => exact absurd (.format hfirst.mem hfirst.holds) hrejected
    | @blocked batches made' place' before later document _ hmade' _ hopens' hdocuments _ hblocked =>
      rw [hmade] at hmade'
      cases hmade'
      rw [hopens'.unique hopens] at hblocked
      have hmem : document ∈ request.documents batches := by
        rw [hdocuments]
        simp
      exact absurd hblocked (admits_documents_iff.2 hfree document hmem)
    | written => exact ⟨_, rfl⟩

end Ends

/-- **A request is carried out in full or, if it is rejected, not at all.** If it is rejected, it fails
and every file is as it was. Once the facts are accepted and the directory is made, the first format that
is not supported is reported. If it succeeds, it has written the documents that the formats ask for, and
no other file has changed; and it succeeds unless it is rejected or something is in its way. -/
theorem run_all_or_nothing (request : Request) (tree : FileTree) :
    let outcome := (request.run tree).1
    let after := (request.run tree).2
    (request.Rejected tree →
      (∃ failure, outcome = .error failure) ∧ ∀ place, after.file? place = tree.file? place) ∧
    (∀ name, outcome = .error (.unsupportedFormat name) ↔
      (∃ batches, request.Accepts tree batches) ∧
      (∃ made, request.makeTarget tree = (.ok (), made)) ∧
      IsFirst (· ∉ Format.supported) request.formats name) ∧
    (∀ written, outcome = .ok written →
      ∃ batches place, request.Accepts tree batches ∧ after.Opens request.target place ∧
        written = request.documentNames.map (Path.join request.target) ∧
        (request.documents batches).map (·.1) = request.documentNames ∧
        (∀ d ∈ request.documents batches,
          after.locate (Path.join request.target d.1) = .ok (place ++ [d.1]) ∧
          after.file? (place ++ [d.1]) = some (.text d.2)) ∧
        ∀ other, (∀ name ∈ request.documentNames, other ≠ place ++ [name]) →
          after.file? other = tree.file? other) ∧
    ((∃ written, outcome = .ok written) ↔ ¬request.Rejected tree ∧ request.Clear tree) := by
  intro outcome after
  have hends : request.Ends tree outcome after := by
    obtain ⟨_, _, hrun, hends⟩ := request.exists_ends tree
    simp only [outcome, after, hrun]
    exact hends
  refine ⟨hends.unchanged_of_rejected, hends.unsupportedFormat_iff, fun written hwritten => ?_,
    hends.ok_iff⟩
  rw [hwritten] at hends
  exact hends.exists_of_ok

/-- A request for diagrams twice and for the graph. -/
def sketchRequest : Request where
  settings := { Settings.standard with output := ⟨["mermaid", "json", "mermaid"], false⟩ }
  generatedAt _ := ""
  paths := []
  directory := none
  format := none

/-- The same request for a format that there is not. -/
def pictureRequest : Request := { sketchRequest with format := some "svg" }

/-- A controller that sends a command. -/
def deskBatch : Batch where
  source := "desk"
  types := [.ofId "Desk" .controller, .ofId "Go" .command]
  calls := [.send "Desk" "Post" "Go"]

/-- A tree with its fact file, an older document, and notes beside it. -/
def deskTree : FileTree where
  entries := .ofFirst [
    (["home"], .directory),
    (["home", "architecture"], .directory),
    (["home", "architecture", "graph.json"], .file (.text "{}")),
    (["home", "architecture", "notes.md"], .file (.text "Who posts?")),
    (["home", "facts"], .directory),
    (["home", "facts", "desk.json"], .file (.text deskBatch.toJson.toCompact))]
  workingDirectory := ["home"]
  isDirectory := .inr (by rfl)

theorem gives_deskTree {request : Request} (h : request.facts = ["facts"]) :
    request.Gives deskTree [deskBatch] := by
  have hplace : deskTree.locate "facts" = .ok ["home", "facts"] := by decide +kernel
  have hsorted : (SortedSet.ofList ((deskTree.filesBelow "facts").filter isFactFile)).toList =
      [["desk.json"]] := by decide +kernel
  have hnames : deskTree.IsSelection ["home", "facts"] [["desk.json"]] :=
    hsorted ▸ FileTree.isSelection_of_mem_iff hplace fun _ => Iff.rfl
  have hread : deskTree.read "facts/desk.json" = .ok deskBatch.toJson.toCompact := by rfl
  have hload : deskTree.load "facts/desk.json" = .ok deskBatch :=
    (FileTree.load_of_isForm deskBatch.isForm_toJson hread).trans
      (congrArg _ (if_neg (by decide)))
  refine ⟨[["facts/desk.json"]], ?_, .cons hload .nil⟩
  rw [h]
  exact .cons (.directory hplace rfl hnames) .nil

theorem violations_deskBatch : (sketchRequest.store [deskBatch]).violations = [] := by
  simp only [store, Build.ofBatches, Build.ofDeltas, Store.ofDeltas, Store.mergeAll, List.map_cons,
    List.map_nil, List.foldl_cons, List.foldl_nil, Store.merge, Store.add,
    violations_derive_addFingerprint]
  decide +kernel

/-- The request replaces the older document and leaves the notes alone; without a format to write, both
stay as they are. -/
theorem run_sketchRequest_pictureRequest :
    deskTree.read "architecture/graph.json" = .ok "{}" ∧
      (sketchRequest.run deskTree).1 =
        .ok ["architecture/graph.json", "architecture/chains.json", "architecture/chains.md"] ∧
      (sketchRequest.run deskTree).2.read "architecture/graph.json" =
        .ok (sketchRequest.exports [deskBatch]).graphText ∧
      (sketchRequest.run deskTree).2.file? ["home", "architecture", "notes.md"] =
        some (.text "Who posts?") ∧
      pictureRequest.Rejected deskTree ∧
      (pictureRequest.run deskTree).1 = .error (.unsupportedFormat "svg") ∧
      ∀ place, (pictureRequest.run deskTree).2.file? place = deskTree.file? place := by
  have hsketch : sketchRequest.Accepts deskTree [deskBatch] :=
    ⟨gives_deskTree rfl, violations_deskBatch⟩
  have hpicture : pictureRequest.Accepts deskTree [deskBatch] :=
    ⟨gives_deskTree rfl, violations_deskBatch⟩
  have hmade : sketchRequest.makeTarget deskTree = (.ok (), deskTree) := by rfl
  have hclear : sketchRequest.Clear deskTree :=
    ⟨deskTree, ["home", "architecture"], hmade, ⟨.inr (by decide +kernel), rfl⟩, by decide +kernel⟩
  have hrejected : pictureRequest.Rejected deskTree :=
    .format (List.mem_singleton_self "svg") (by decide)
  have hfirst : IsFirst (· ∉ Format.supported) pictureRequest.formats "svg" :=
    ⟨[], [], rfl, by decide, nofun⟩
  obtain ⟨-, -, hwrites, hsucceeds⟩ := run_all_or_nothing sketchRequest deskTree
  obtain ⟨hfails, hreports, -, -⟩ := run_all_or_nothing pictureRequest deskTree
  obtain ⟨written, hwritten⟩ := hsucceeds.2 ⟨not_rejected hsketch (by decide), hclear⟩
  obtain ⟨batches, place, haccepts, -, rfl, -, hdocuments, hothers⟩ := hwrites written hwritten
  rw [haccepts.1.unique hsketch.1] at hdocuments
  obtain ⟨hlocate, hgraph⟩ :=
    hdocuments ("graph.json", (sketchRequest.exports [deskBatch]).graphText) (.head _)
  have hnotes : ∀ name ∈ sketchRequest.documentNames,
      ["home", "architecture", "notes.md"] ≠ place ++ [name] := by
    intro name hname heq
    have hnames : ["home", "architecture"] ++ ["notes.md"] = place ++ [name] := heq
    obtain ⟨-, hlast⟩ := List.append_inj' hnames rfl
    rw [← List.singleton_inj.1 hlast] at hname
    exact absurd hname (by decide)
  refine ⟨by decide +kernel, hwritten, ?_, hothers _ hnotes, hrejected,
    (hreports "svg").2 ⟨⟨[deskBatch], hpicture⟩, ⟨deskTree, hmade⟩, hfirst⟩, (hfails hrejected).2⟩
  exact FileTree.read_of_locate hlocate (FileTree.file?_eq_some_iff.1 hgraph)

end Request

end DomainFlow
