import DomainFlow.Export
import DomainFlow.Proofs.Directories
import DomainFlow.Proofs.FactFiles
import DomainFlow.Proofs.Owners

/-!
# Writing documents

Which documents are written depends only on which formats are named, not on how often or in which
order; a name that is not supported is refused before anything is written. The documents go to one
directory under names of their own. A directory that stands in the place of a document stops the
writing there; otherwise every document is written, and nothing else changes.

## Main definitions

* `Format.supported`: the names of formats
* `Exports.requested`: the documents that names of formats ask for
* `FileTree.Admits`: documents that no directory is in the way of
* `FileTree.putAll`: the tree in which a directory holds documents

## Main results

* `Format.ofNames_eq_error_iff`: names are refused for the first that is not supported
* `FileTree.file?_putAll_of_mem`, `FileTree.file?_putAll_of_forall_ne`: what the files hold afterwards
* `FileTree.run_mapM_writeDocument`, `FileTree.run_mapM_writeDocument_of_blocked`: documents are
  written in full, or up to the first that a directory is in the way of
* `Exports.run_write`: the phases of writing
-/

namespace DomainFlow

/-! ## Formats and documents -/

namespace Format

/-- The name that asks for one format only. -/
def name : Format → String
  | json => "json"
  | mermaid => "mermaid"

/-- The names of the formats that are supported. -/
def supported : List String := ["json", "mermaid", "all"]

variable {name : String} {names : List String}

theorem isNone_ofName?_iff : (ofName? name).isNone = true ↔ name ∉ supported := by
  unfold ofName? supported
  split <;> simp_all

/-- **Names are refused for the first one that is not supported.** -/
theorem ofNames_eq_error_iff {failure : Failure} : ofNames names = .error failure ↔
    ∃ name, IsFirst (· ∉ supported) names name ∧ failure = .unsupportedFormat name := by
  have hfirst (name : String) : IsFirst (· ∉ supported) names name ↔
      names.find? (fun name => (ofName? name).isNone) = some name := by
    rw [find?_eq_some_iff_isFirst]
    exact isFirst_congr fun _ => isNone_ofName?_iff.symm
  simp only [hfirst]
  unfold ofNames
  split
  · next name hname => simp [hname, eq_comm]
  · next hnone => simp [hnone]

theorem forall_mem_supported {formats : List Format} (h : ofNames names = .ok formats) :
    ∀ name ∈ names, name ∈ supported := by
  by_contra hexists
  push Not at hexists
  obtain ⟨name, hfirst⟩ := exists_isFirst_iff.2 hexists
  rw [ofNames_eq_error_iff.2 ⟨name, hfirst, rfl⟩] at h
  cases h

theorem mem_ofName?_iff {format : Format} :
    format ∈ (ofName? name).getD [] ↔ name = format.name ∨ name = "all" := by
  unfold ofName?
  cases format <;> split <;> simp_all [Format.name]

/-- **A format is asked for by its own name or with all others**, whatever else is named. -/
theorem mem_iff_of_ofNames {formats : List Format} (h : ofNames names = .ok formats)
    {format : Format} : format ∈ formats ↔ format.name ∈ names ∨ "all" ∈ names := by
  unfold ofNames at h
  split at h
  · cases h
  · cases h
    simp [mem_ofName?_iff, and_or_left, exists_or]

end Format

namespace Exports

/-- **The documents that a list of formats asks for**, by name and text, each once. -/
def requested (exports : Exports) (formats : List String) : List (String × String) :=
  (if "json" ∈ formats ∨ "all" ∈ formats then
    [("graph.json", exports.graphText), ("chains.json", exports.chainsText)] else []) ++
  (if "mermaid" ∈ formats ∨ "all" ∈ formats then [("chains.md", exports.diagramText)] else [])

variable {exports : Exports} {names : List String}

theorem documents_of_ofNames {formats : List Format} (h : Format.ofNames names = .ok formats) :
    exports.documents formats = exports.requested names := by
  simp only [documents, requested, Format.mem_iff_of_ofNames h, Format.name]

theorem sublist_requested : ((exports.requested names).map (·.1)).Sublist
    ["graph.json", "chains.json", "chains.md"] := by
  unfold requested
  split <;> split <;> simp

theorem isName_of_mem_requested {document : String × String}
    (h : document ∈ exports.requested names) : Path.IsName document.1 := by
  have hnames : ∀ name ∈ ["graph.json", "chains.json", "chains.md"], Path.IsName name := by decide
  exact hnames _ (sublist_requested.subset (List.mem_map_of_mem h))

theorem nodup_requested : ((exports.requested names).map (·.1)).Nodup :=
  sublist_requested.nodup (by decide)

end Exports

/-! ## Writing documents -/

namespace FileTree

variable {tree after : FileTree} {path : String} {place : List String}
  {documents : List (String × String)}

/-- The tree in which a directory holds documents. -/
def putAll (tree : FileTree) (place : List String) (documents : List (String × String)) :
    FileTree :=
  documents.foldl (fun tree d => tree.put (place ++ [d.1]) (.file (.text d.2))) tree

/-- **Documents that no directory is in the way of.** -/
def Admits (tree : FileTree) (place : List String) (documents : List (String × String)) : Prop :=
  ∀ d ∈ documents, tree.entry? (place ++ [d.1]) ≠ some .directory

theorem Admits.put {file : List String} (h : tree.Admits place documents)
    (hfree : tree.entry? file ≠ some .directory) (content : Content) :
    Admits (tree.put file (.file content)) place documents := fun d hd =>
  mt (entry?_put_file_eq_directory_iff hfree).1 (h d hd)

theorem keeps_putAll (h : tree.Admits place documents) : (tree.putAll place documents).Keeps tree := by
  induction documents generalizing tree with
  | nil => exact .refl tree
  | cons d documents ih =>
    obtain ⟨hd, hrest⟩ := List.forall_mem_cons.1 h
    exact (ih (Admits.put hrest hd _)).trans (keeps_put_file hd _)

/-- What is none of the documents stays as it was. -/
theorem file?_putAll_of_forall_ne (h : tree.Admits place documents) {other : List String}
    (hother : ∀ d ∈ documents, other ≠ place ++ [d.1]) :
    file? (tree.putAll place documents) other = tree.file? other := by
  induction documents generalizing tree with
  | nil => rfl
  | cons d documents ih =>
    obtain ⟨hd, hrest⟩ := List.forall_mem_cons.1 h
    obtain ⟨hne, hother⟩ := List.forall_mem_cons.1 hother
    have hput := ih (Admits.put hrest hd (.text d.2)) hother
    rw [file?_put hd, if_neg hne] at hput
    exact hput

/-- Each document is there, provided that they have different names. -/
theorem file?_putAll_of_mem (h : tree.Admits place documents)
    (hnodup : (documents.map (·.1)).Nodup) {document : String × String}
    (hdocument : document ∈ documents) :
    file? (tree.putAll place documents) (place ++ [document.1]) = some (.text document.2) := by
  induction documents generalizing tree with
  | nil => cases hdocument
  | cons d documents ih =>
    obtain ⟨hd, hrest⟩ := List.forall_mem_cons.1 h
    obtain ⟨hnew, hnodup⟩ := List.nodup_cons.1 hnodup
    rcases List.mem_cons.1 hdocument with rfl | hdocument
    · have hother : ∀ d ∈ documents, place ++ [document.1] ≠ place ++ [d.1] := by
        intro d hd heq
        have hname : d.1 = document.1 := by simpa using heq.symm
        exact hnew (List.mem_map.2 ⟨d, hd, hname⟩)
      have hput := file?_putAll_of_forall_ne (Admits.put hrest hd (.text document.2)) hother
      rw [file?_put hd, if_pos rfl] at hput
      exact hput
    · exact ih (Admits.put hrest hd _) hnodup hdocument

/-- A proper tree stays proper when documents are put into a directory. -/
theorem IsProper.putAll (htree : tree.IsProper) (hplace : tree.entry? place = some .directory)
    (hnames : ∀ d ∈ documents, Path.IsName d.1) (h : tree.Admits place documents) :
    (tree.putAll place documents).IsProper := by
  induction documents generalizing tree with
  | nil => exact htree
  | cons d documents ih =>
    obtain ⟨hname, hnames⟩ := List.forall_mem_cons.1 hnames
    obtain ⟨hd, hrest⟩ := List.forall_mem_cons.1 h
    exact ih (htree.put hname hplace hd _) ((entry?_put_file_eq_directory_iff hd).2 hplace) hnames
      (Admits.put hrest hd _)

/-- **What writing a document gives.** -/
theorem run_writeDocument {document : String × String} (hopens : tree.Opens path place)
    (hname : Path.IsName document.1) :
    StateT.run (Exports.writeDocument path document :
        ExceptT Failure (StateM FileTree) String).run tree =
      if tree.entry? (place ++ [document.1]) = some .directory
      then (.error (.file .isADirectory), tree)
      else (.ok (Path.join path document.1),
        tree.put (place ++ [document.1]) (.file (.text document.2))) := by
  have hwrite : StateT.run (FileAccess.writeText (Path.join path document.1) document.2 :
      StateM FileTree _) tree = update (·.write (Path.join path document.1) document.2) tree := rfl
  rw [update, write_of_locate (hopens.locate_join hname)] at hwrite
  rw [Exports.writeDocument, ExceptT.run_mk]
  split
  · next hdirectory =>
    rw [if_pos hdirectory] at hwrite
    rw [run_bind_of_run_eq hwrite]
    rfl
  · next hfree =>
    rw [if_neg hfree] at hwrite
    rw [run_bind_of_run_eq hwrite]
    rfl

/-- Documents are written as long as no directory is in the way. -/
theorem run_mapM_writeDocument (hopens : tree.Opens path place)
    (hnames : ∀ d ∈ documents, Path.IsName d.1) (h : tree.Admits place documents) :
    StateT.run (documents.mapM (Exports.writeDocument path) :
        ExceptT Failure (StateM FileTree) (List String)).run tree =
      (.ok (documents.map (Path.join path ·.1)), tree.putAll place documents) := by
  induction documents generalizing tree with
  | nil => rfl
  | cons d documents ih =>
    obtain ⟨hname, hnames⟩ := List.forall_mem_cons.1 hnames
    obtain ⟨hd, hrest⟩ := List.forall_mem_cons.1 h
    have hfirst := run_writeDocument hopens hname
    rw [if_neg hd] at hfirst
    have hothers := ih ((keeps_put_file hd _).opens hopens) hnames (Admits.put hrest hd (.text d.2))
    rw [List.mapM_cons, run_bind_of_run_eq_ok hfirst, run_bind_of_run_eq_ok hothers]
    rfl

/-- **Writing stops at the first document that a directory is in the way of.** -/
theorem run_mapM_writeDocument_of_blocked {before later : List (String × String)}
    {document : String × String} (hopens : tree.Opens path place)
    (hnames : ∀ d ∈ before ++ document :: later, Path.IsName d.1) (h : tree.Admits place before)
    (hblocked : tree.entry? (place ++ [document.1]) = some .directory) :
    StateT.run ((before ++ document :: later).mapM (Exports.writeDocument path) :
        ExceptT Failure (StateM FileTree) (List String)).run tree =
      (.error (.file .isADirectory), tree.putAll place before) := by
  obtain ⟨hbefore, hlater⟩ := List.forall_mem_append.1 hnames
  have hfirst := run_mapM_writeDocument hopens hbefore h
  have hstop := run_writeDocument ((keeps_putAll h).opens hopens) (List.forall_mem_cons.1 hlater).1
  rw [if_pos ((keeps_putAll h).directories _ hblocked)] at hstop
  rw [List.mapM_append, run_bind_of_run_eq_ok hfirst, List.mapM_cons]
  exact run_bind_of_run_eq_error (run_bind_of_run_eq_error hstop)

end FileTree

namespace Exports

/-- What writing the documents gives, by what making the directory and reading the formats give. -/
theorem run_write {exports : Exports} {directory : String} {names : List String}
    {tree made : FileTree} {result : Except FileError Unit}
    (h : StateT.run (FileAccess.createDirectories directory : StateM FileTree _) tree =
      (result, made)) :
    StateT.run (exports.write directory names :
        ExceptT Failure (StateM FileTree) (List String)).run tree =
      (match result, Format.ofNames names with
        | .error e, _ => (.error (.file e), made)
        | .ok (), .error failure => (.error failure, made)
        | .ok (), .ok _ => StateT.run ((exports.requested names).mapM (writeDocument directory) :
            ExceptT Failure (StateM FileTree) (List String)).run made) := by
  have hlift := run_liftM_of_run_eq h
  rw [write, run_bind_of_run_eq_ok hlift]
  cases result with
  | error e => rfl
  | ok =>
    have hformats : StateT.run (pure (Format.ofNames names) :
        ExceptT Failure (StateM FileTree) _).run made = (.ok (Format.ofNames names), made) := rfl
    dsimp only
    rw [run_bind_of_run_eq_ok hformats]
    cases hnames : Format.ofNames names with
    | error failure => rfl
    | ok formats => rw [← documents_of_ofNames hnames]

end Exports

end DomainFlow
