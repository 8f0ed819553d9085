import Mathlib.Algebra.Order.BigOperators.Group.List
import Mathlib.Data.List.Forall2
import DomainFlow.Proofs.FactFiles
import DomainFlow.Proofs.Places

/-!
# The order of loading

For a file the file itself is loaded, whatever its name, and for a path that leads nowhere nothing. For
a directory the fact files below it are loaded, at any depth, in the order of the names that lead to
them. A file system may enumerate a directory in any order: a depth-first walk that sorts the names of
each directory comes by the same files in this order. Loading goes through the files of all paths one
after the other and stops at the first one that cannot be loaded.

## Main definitions

* `IsFactName`: names that lead to a fact file
* `FileTree.load`: what loading a file gives
* `FileTree.Selects`: the files that are loaded for a path
* `FileTree.Loads`: what loading one file after the other comes to
* `Listing`, `Listing.walk`: what a file system enumerates, and a depth-first walk through it

## Main results

* `isFactFile_iff`: a fact file has something in front of its extension
* `FileTree.run_loadBatches`: loading gives what loading the selected files comes to
* `FileTree.IsProper.isSelection_walk`: a walk comes by the selected files in their order
* `FileTree.loadBatches_selects`: which batches are loaded, and in which order
-/

namespace DomainFlow

/-! ## Names of fact files -/

theorem QualifiedName.splitLast?_append {c : Char} {back : List Char} (h : c ∉ back)
    (front : List Char) : splitLast? c (front ++ c :: back) = some (front, back) := by
  induction front with
  | nil => simp [splitLast?, splitLast?_eq_none_iff.2 h]
  | cons x front ih => rw [List.cons_append, splitLast?, ih]

/-- An extension is what stands behind the last dot, unless this dot comes first. -/
theorem Path.hasExtension_iff {extension name : String} (h : '.' ∉ extension.toList) :
    hasExtension extension name = true ↔ ∃ stem, stem ≠ "" ∧ name = stem ++ "." ++ extension := by
  rw [hasExtension]
  constructor
  · intro hname
    split at hname
    · next front back hsplit =>
      simp only [Bool.and_eq_true, Bool.not_eq_true', List.isEmpty_eq_false_iff, beq_iff_eq] at hname
      refine ⟨String.ofList front, fun hempty => hname.1 (by simpa using hempty), ?_⟩
      rw [← String.toList_inj, (QualifiedName.eq_of_splitLast? hsplit).1, hname.2]
      simp
    · cases hname
  · rintro ⟨stem, hstem, rfl⟩
    have hsplit := QualifiedName.splitLast?_append h stem.toList
    have hname : (stem ++ "." ++ extension).toList = stem.toList ++ '.' :: extension.toList := by simp
    rw [hname, hsplit]
    simpa using hstem

/-- **The names that lead to a fact file**: the last one has the extension, with something in front
of it. -/
def IsFactName (names : List String) : Prop :=
  ∃ above stem, stem ≠ "" ∧ names = above ++ [stem ++ ".json"]

theorem isFactFile_iff {names : List String} : isFactFile names = true ↔ IsFactName names := by
  have hdot : '.' ∉ ("json" : String).toList := by decide
  rw [isFactFile]
  split
  · next name hlast =>
    obtain ⟨above, rfl⟩ := List.getLast?_eq_some_iff.1 hlast
    rw [Path.hasExtension_iff hdot]
    constructor
    · rintro ⟨stem, hstem, rfl⟩
      exact ⟨above, stem, hstem, by rw [String.append_assoc]; rfl⟩
    · rintro ⟨_, stem, hstem, hnames⟩
      obtain ⟨-, hname⟩ := List.append_inj' hnames rfl
      exact ⟨stem, hstem, by rw [List.singleton_inj.1 hname, String.append_assoc]; rfl⟩
  · next hnone =>
    refine iff_of_false nofun ?_
    rintro ⟨above, stem, -, rfl⟩
    rw [List.getLast?_append] at hnone
    cases hnone

namespace FileTree

variable {tree : FileTree} {path : String} {place : List String}

/-! ## Selecting files -/

/-- **The files that are loaded for a directory**: all fact files below its place, by the names that
lead to them and in their order. -/
structure IsSelection (tree : FileTree) (place : List String) (files : List (List String)) :
    Prop where
  increasing : files.Pairwise fun a b => compare a b = .lt
  mem_iff : ∀ names, names ∈ files ↔
    IsFactName names ∧ ∃ content, tree.file? (place ++ names) = some content

/-- **The files that are loaded for a path**: a file itself, the selection of a directory, and none if
the path leads nowhere. -/
inductive Selects (tree : FileTree) (path : String) : List String → Prop
  | file {content : Content} (h : tree.find? path = some (.file content)) : Selects tree path [path]
  | directory {place : List String} {names : List (List String)} (hplace : tree.locate path = .ok place)
      (hdirectory : tree.entry? place = some .directory) (h : tree.IsSelection place names) :
      Selects tree path (names.map (Path.joinAll path))
  | nothing (h : tree.find? path = none) : Selects tree path []

theorem IsSelection.unique {names names' : List (List String)} (h : tree.IsSelection place names)
    (h' : tree.IsSelection place names') : names = names' :=
  eq_of_increasing h.increasing h'.increasing fun _ => by rw [h.mem_iff, h'.mem_iff]

/-- Only one list of files is selected for a path. -/
theorem Selects.unique {files files' : List String} (h : tree.Selects path files)
    (h' : tree.Selects path files') : files = files' := by
  cases h with
  | file h =>
    cases h' with
    | file => rfl
    | directory hplace hdirectory =>
      rw [find?_of_locate hplace, hdirectory] at h
      cases h
    | nothing h' =>
      rw [h'] at h
      cases h
  | directory hplace hdirectory h =>
    have hfind := (find?_of_locate hplace).trans hdirectory
    cases h' with
    | file h' =>
      rw [h'] at hfind
      cases hfind
    | directory hplace' _ h' =>
      rw [hplace] at hplace'
      cases hplace'
      rw [h.unique h']
    | nothing h' =>
      rw [h'] at hfind
      cases hfind
  | nothing h =>
    cases h' with
    | file h' =>
      rw [h] at h'
      cases h'
    | directory hplace hdirectory =>
      rw [find?_of_locate hplace, hdirectory] at h
      cases h
    | nothing => rfl

theorem eq_of_forall₂_selects {paths : List String} {files files' : List (List String)}
    (h : List.Forall₂ tree.Selects paths files) (h' : List.Forall₂ tree.Selects paths files') :
    files = files' :=
  List.right_unique_forall₂' (fun _ _ _ hfiles hfiles' => hfiles.unique hfiles') h h'

/-- The files below a directory are those whose places lie below its own. -/
theorem mem_filesBelow (h : tree.locate path = .ok place) {names : List String} :
    names ∈ tree.filesBelow path ↔
      names ≠ [] ∧ ∃ content, tree.file? (place ++ names) = some content := by
  simp only [filesBelow, h, List.mem_filterMap, file?_eq_some_iff]
  constructor
  · rintro ⟨⟨other, _ | content⟩, hentry, hnames⟩
    · cases hnames
    · dsimp only at hnames
      split at hnames
      · next hbelow =>
        obtain ⟨names, rfl⟩ := List.isPrefixOf_iff_prefix.1 hbelow.1
        rw [List.drop_left, Option.some.injEq] at hnames
        subst hnames
        have hne : names ≠ [] := by
          rintro rfl
          exact hbelow.2 (List.append_nil place).symm
        exact ⟨hne, content, by
          rw [entry?_eq_get? _ (by simp [hne]), SortedMap.mem_entries_iff.1 hentry]⟩
      · cases hnames
  · rintro ⟨hne, content, hentry⟩
    rw [entry?_eq_get? _ (by simp [hne])] at hentry
    have hbelow : place.isPrefixOf (place ++ names) = true ∧ place ≠ place ++ names := by simp [hne]
    refine ⟨(place ++ names, .file content), SortedMap.mem_entries_iff.2 hentry, ?_⟩
    dsimp only
    rw [if_pos hbelow, List.drop_left]

/-- **Sorting the fact files selects them**, in whatever order the files were found. -/
theorem isSelection_of_mem_iff (h : tree.locate path = .ok place) {found : List (List String)}
    (hfound : ∀ names, names ∈ found ↔ names ∈ tree.filesBelow path) :
    tree.IsSelection place (SortedSet.ofList (found.filter isFactFile)).toList where
  increasing := SortedSet.pairwise_toList _
  mem_iff names := by
    rw [SortedSet.mem_toList, SortedSet.mem_ofList, List.mem_filter, hfound, mem_filesBelow h,
      isFactFile_iff]
    refine ⟨fun ⟨⟨_, hfile⟩, hname⟩ => ⟨hname, hfile⟩, fun ⟨hname, hfile⟩ => ⟨⟨?_, hfile⟩, hname⟩⟩
    obtain ⟨above, stem, -, rfl⟩ := hname
    simp

/-- **What the program loads for a path is selected for it**, and the tree is only read. -/
theorem exists_run_filesFor (tree : FileTree) (path : String) :
    ∃ files, tree.Selects path files ∧
      StateT.run (filesFor path : StateM FileTree _) tree = (files, tree) := by
  have hkind : StateT.run (filesFor path : StateM FileTree _) tree = _ :=
    run_bind_of_run_eq (run_kind? path tree)
  simp only [hkind, kind?]
  cases hfind : tree.find? path with
  | none => exact ⟨[], .nothing hfind, rfl⟩
  | some entry =>
    cases entry with
    | file content => exact ⟨[path], .file hfind, rfl⟩
    | directory =>
      obtain ⟨place, hplace, hentry⟩ := locate_of_find? hfind
      exact ⟨_, .directory hplace hentry (isSelection_of_mem_iff hplace fun _ => Iff.rfl), rfl⟩

theorem exists_forall₂_selects (tree : FileTree) (paths : List String) :
    ∃ files, List.Forall₂ tree.Selects paths files := by
  induction paths with
  | nil => exact ⟨[], .nil⟩
  | cons path paths ih =>
    obtain ⟨files, hfiles⟩ := ih
    obtain ⟨first, hfirst, -⟩ := tree.exists_run_filesFor path
    exact ⟨first :: files, .cons hfirst hfiles⟩

theorem run_filesFor {files : List String} (h : tree.Selects path files) :
    StateT.run (filesFor path : StateM FileTree _) tree = (files, tree) := by
  obtain ⟨files', h', hrun⟩ := exists_run_filesFor tree path
  rw [hrun, h.unique h']

/-! ## Loading one file after the other -/

/-- **What loading a file gives.** -/
def load (tree : FileTree) (path : String) : Except Failure Batch :=
  match tree.read path with
  | .error e => .error (.file e)
  | .ok text =>
    match Batch.parse? text with
    | some batch => .ok (if batch.source = "" then { batch with source := path } else batch)
    | none => .error (.badFacts path)

/-- A file with a form of a batch is loaded as this batch; only an empty source becomes the path. -/
theorem load_of_isForm {batch : Batch} {j : Json} (hform : batch.IsForm j)
    (hread : tree.read path = .ok j.toCompact) :
    tree.load path = .ok (if batch.source = "" then { batch with source := path } else batch) := by
  rw [load, hread]
  dsimp only
  rw [Batch.parse?_of_isForm hform]

/-- **What loading one file after the other comes to**: a batch for each file, or the failure of the
first file that cannot be loaded. -/
inductive Loads (tree : FileTree) : List String → Except Failure (List Batch) → Prop
  | all {files : List String} {batches : List Batch}
      (h : List.Forall₂ (fun file batch => tree.load file = .ok batch) files batches) :
      Loads tree files (.ok batches)
  | stopped (before : List String) {loaded : List Batch} {file : String} {after : List String}
      {failure : Failure}
      (hbefore : List.Forall₂ (fun file batch => tree.load file = .ok batch) before loaded)
      (h : tree.load file = .error failure) : Loads tree (before ++ file :: after) (.error failure)

theorem exists_loads (tree : FileTree) (files : List String) : ∃ outcome, tree.Loads files outcome := by
  induction files with
  | nil => exact ⟨_, .all .nil⟩
  | cons file files ih =>
    cases hload : tree.load file with
    | error failure => exact ⟨_, .stopped [] .nil hload⟩
    | ok batch =>
      obtain ⟨outcome, h⟩ := ih
      cases h with
      | all h => exact ⟨_, .all (.cons hload h)⟩
      | stopped before hbefore h => exact ⟨_, .stopped (file :: before) (.cons hload hbefore) h⟩

theorem Loads.forall₂ {files : List String} {batches : List Batch}
    (h : tree.Loads files (.ok batches)) :
    List.Forall₂ (fun file batch => tree.load file = .ok batch) files batches := by
  cases h with
  | all h => exact h

theorem Loads.exists_of_error {files : List String} {failure : Failure}
    (h : tree.Loads files (.error failure)) : ∃ file ∈ files, tree.load file = .error failure := by
  cases h with
  | stopped before hbefore h => exact ⟨_, by simp, h⟩

theorem run_loadBatch_eq_load (tree : FileTree) (path : String) :
    StateT.run (loadBatch path : ExceptT Failure (StateM FileTree) Batch).run tree =
      (tree.load path, tree) := by
  cases hread : tree.read path with
  | ok text =>
    rw [run_loadBatch hread, load, hread]
    dsimp only
    cases Batch.parse? text <;> rfl
  | error e =>
    rw [loadBatch, run_bind_of_run_eq_error (run_readFile_of_error hread), load, hread]

/-- Steps that succeed and leave the tree as it is give all their results. -/
theorem run_mapM_of_forall₂ {α β : Type} {f : α → ExceptT Failure (StateM FileTree) β} {l : List α}
    {results : List β}
    (h : List.Forall₂ (fun a b => StateT.run (f a).run tree = (.ok b, tree)) l results) :
    StateT.run (l.mapM f).run tree = (.ok results, tree) := by
  induction h with
  | nil => rfl
  | cons hstep _ ih =>
    rw [List.mapM_cons, run_bind_of_run_eq_ok hstep, run_bind_of_run_eq_ok ih]
    rfl

theorem run_mapM_loadBatch {files : List String} {outcome : Except Failure (List Batch)}
    (h : tree.Loads files outcome) :
    StateT.run (files.mapM loadBatch : ExceptT Failure (StateM FileTree) _).run tree =
      (outcome, tree) := by
  have hall {files batches}
      (h : List.Forall₂ (fun file batch => tree.load file = .ok batch) files batches) :
      StateT.run (files.mapM loadBatch : ExceptT Failure (StateM FileTree) _).run tree =
        (.ok batches, tree) :=
    run_mapM_of_forall₂ (h.imp fun file batch hload => by rw [run_loadBatch_eq_load, hload])
  cases h with
  | all h => exact hall h
  | stopped before hbefore h =>
    rw [List.mapM_append, run_bind_of_run_eq_ok (hall hbefore), List.mapM_cons]
    refine run_bind_of_run_eq_error (run_bind_of_run_eq_error ?_)
    rw [run_loadBatch_eq_load, h]

/-- **Loading gives what loading the selected files comes to**, and the tree is only read. -/
theorem run_loadBatches {paths : List String} {files : List (List String)}
    {outcome : Except Failure (List Batch)} (hfiles : List.Forall₂ tree.Selects paths files)
    (h : tree.Loads files.flatten outcome) :
    StateT.run (loadBatches paths : ExceptT Failure (StateM FileTree) (List Batch)).run tree =
      (outcome, tree) := by
  have hselect {path : String} {files : List String} (h : tree.Selects path files) :
      StateT.run (liftM (filesFor path : StateM FileTree _) :
        ExceptT Failure (StateM FileTree) _).run tree = (.ok files, tree) :=
    run_liftM_of_run_eq (run_filesFor h)
  rw [loadBatches, run_bind_of_run_eq_ok (run_mapM_of_forall₂ (hfiles.imp fun _ _ => hselect))]
  exact run_mapM_loadBatch h

end FileTree

/-! ## Walks -/

/-- **What a file system enumerates at a place**: the names in a directory, in any order, and what is
found under each of them. -/
inductive Listing
  | file
  | directory (names : List String) (below : String → Listing)

/-- **A depth-first walk that sorts the names of each directory**: all that it comes by, a directory
before what is in it. -/
def Listing.walk : Listing → List (List String)
  | file => [[]]
  | directory names below =>
    [] :: (names.mergeSort fun a b => (compare a b).isLE).flatMap fun name =>
      (below name).walk.map (name :: ·)

namespace FileTree

variable {tree : FileTree} {path : String} {place : List String} {listing : Listing}

/-- **Whether a listing is one of what is below a place.** -/
inductive Lists (tree : FileTree) : List String → Listing → Prop
  | file {place : List String} {content : Content} (h : tree.entry? place = some (.file content)) :
      Lists tree place .file
  | directory {place : List String} {names : List String} {below : String → Listing}
      (h : tree.entry? place = some .directory) (hnodup : names.Nodup)
      (hnames : ∀ name, name ∈ names ↔ ∃ entry, tree.entry? (place ++ [name]) = some entry)
      (hbelow : ∀ name ∈ names, Lists tree (place ++ [name]) (below name)) :
      Lists tree place (.directory names below)

/-- **A walk goes in the order of the names** that lead to what it comes by. -/
theorem Lists.pairwise_walk (h : tree.Lists place listing) :
    listing.walk.Pairwise fun a b => compare a b = .lt := by
  induction h with
  | file => exact List.pairwise_singleton ..
  | @directory place names below hdirectory hnodup hnames hbelow ih =>
    -- the directory comes first; behind one name the further names decide, and of two names the lesser
    -- comes first with all that is below it
    rw [Listing.walk, List.pairwise_cons, List.pairwise_flatMap]
    refine ⟨fun other hother => ?_, fun name hname => ?_, ?_⟩
    · obtain ⟨name, -, hother⟩ := List.mem_flatMap.1 hother
      obtain ⟨rest, -, rfl⟩ := List.mem_map.1 hother
      rfl
    · rw [List.pairwise_map]
      refine (ih name (List.mem_mergeSort.1 hname)).imp fun {a b} hab => ?_
      exact List.compareLex_cons_cons.trans (by rw [Std.ReflOrd.compare_self]; exact hab)
    · refine (pairwise_mergeSort hnodup).imp fun {a b} hab => ?_
      simp only [List.forall_mem_map]
      exact fun _ _ _ _ => List.compareLex_cons_cons.trans (by rw [hab]; rfl)

/-- **A walk comes by everything below its place.** -/
theorem IsProper.mem_walk (htree : tree.IsProper) (h : tree.Lists place listing)
    {names : List String} :
    names ∈ listing.walk ↔ ∃ entry, tree.entry? (place ++ names) = some entry := by
  induction h generalizing names with
  | @file place content hfile =>
    rw [Listing.walk, List.mem_singleton]
    constructor
    · rintro rfl
      exact ⟨_, by rw [List.append_nil, hfile]⟩
    · rintro ⟨entry, hentry⟩
      by_contra hne
      rw [htree.directory_of_below hne hentry] at hfile
      cases hfile
  | @directory place present below hdirectory hnodup hnames hbelow ih =>
    cases names with
    | nil =>
      rw [List.append_nil, hdirectory]
      exact iff_of_true List.mem_cons_self ⟨_, rfl⟩
    | cons name rest =>
      have hplace : place ++ name :: rest = place ++ [name] ++ rest := by simp
      simp only [Listing.walk, List.mem_cons, List.mem_flatMap, List.mem_mergeSort, List.mem_map,
        List.cons.injEq, reduceCtorEq, false_or]
      constructor
      · rintro ⟨_, hname, _, hrest, rfl, rfl⟩
        rw [hplace]
        exact (ih _ hname).1 hrest
      · rintro ⟨entry, hentry⟩
        rw [hplace] at hentry
        have hname : name ∈ present := by
          rw [hnames]
          rcases eq_or_ne rest [] with rfl | hne
          · exact ⟨entry, by rwa [List.append_nil] at hentry⟩
          · exact ⟨_, htree.directory_of_below hne hentry⟩
        exact ⟨name, hname, rest, (ih name hname).2 ⟨entry, hentry⟩, rfl, rfl⟩

/-- The fact files that a walk from a place comes by. -/
def walkedFiles (tree : FileTree) (place : List String) (listing : Listing) : List (List String) :=
  listing.walk.filter fun names => (tree.file? (place ++ names)).isSome ∧ isFactFile names

/-- **A walk comes by the selected files in their order**, whatever the order in which the directories
are enumerated. -/
theorem IsProper.isSelection_walk (htree : tree.IsProper) (h : tree.Lists place listing) :
    tree.IsSelection place (tree.walkedFiles place listing) where
  increasing := h.pairwise_walk.filter _
  mem_iff names := by
    rw [walkedFiles, List.mem_filter, htree.mem_walk h, decide_eq_true_eq, isFactFile_iff,
      Option.isSome_iff_exists]
    refine ⟨fun ⟨_, hfile, hname⟩ => ⟨hname, hfile⟩, fun ⟨hname, content, hfile⟩ => ?_⟩
    exact ⟨⟨_, file?_eq_some_iff.1 hfile⟩, ⟨content, hfile⟩, hname⟩

theorem exists_entry?_iff (h : place ≠ []) :
    (∃ entry, tree.entry? place = some entry) ↔ place ∈ tree.entries.keys := by
  rw [entry?_eq_get? _ h, SortedMap.mem_keys_iff, SortedMap.contains_iff]

/-- The names in a directory can be enumerated. -/
theorem exists_enumeration (tree : FileTree) (place : List String) :
    ∃ names : List String, names.Nodup ∧
      ∀ name, name ∈ names ↔ ∃ entry, tree.entry? (place ++ [name]) = some entry := by
  let nameIn (other : List String) : Option String :=
    if other.dropLast = place then other.getLast? else none
  have hnameIn (other : List String) (name : String) :
      nameIn other = some name ↔ other = place ++ [name] := by
    simp only [nameIn, Option.ite_none_right_eq_some, List.getLast?_eq_some_iff]
    constructor
    · rintro ⟨rfl, above, rfl⟩
      rw [List.dropLast_concat]
    · rintro rfl
      exact ⟨List.dropLast_concat, place, rfl⟩
  refine ⟨(SortedSet.ofList (tree.entries.keys.filterMap nameIn)).toList, SortedSet.nodup_toList _,
    fun name => ?_⟩
  rw [exists_entry?_iff (by simp)]
  simp only [SortedSet.mem_toList, SortedSet.mem_ofList, List.mem_filterMap, hnameIn,
    exists_eq_right]

/-- **What is below a place can be listed.** -/
theorem exists_lists {entry : TreeEntry} (h : tree.entry? place = some entry) :
    ∃ listing, tree.Lists place listing := by
  -- by induction on how much longer places can get than this one
  have hbounded : ∀ room place entry, tree.entry? place = some entry →
      (∀ other entry, tree.entry? other = some entry → other.length < place.length + room) →
      ∃ listing, tree.Lists place listing := by
    intro room
    induction room with
    | zero => exact fun place entry h hroom => absurd (hroom place entry h) (Nat.lt_irrefl _)
    | succ room ih =>
      intro place entry h hroom
      cases entry with
      | file content => exact ⟨.file, .file h⟩
      | directory =>
        obtain ⟨names, hnodup, hnames⟩ := tree.exists_enumeration place
        have hbelow : ∀ name, ∃ listing, name ∈ names → tree.Lists (place ++ [name]) listing := by
          intro name
          by_cases hname : name ∈ names
          · obtain ⟨entry, hentry⟩ := (hnames name).1 hname
            obtain ⟨listing, hlisting⟩ := ih (place ++ [name]) entry hentry fun other entry hother => by
              have := hroom other entry hother
              rw [List.length_append, List.length_singleton]
              omega
            exact ⟨listing, fun _ => hlisting⟩
          · exact ⟨.file, fun h => absurd h hname⟩
        choose below hbelow using hbelow
        exact ⟨.directory names below, .directory h hnodup hnames hbelow⟩
  refine hbounded ((tree.entries.keys.map List.length).sum + 1) place entry h ?_
  intro other entry hother
  rcases eq_or_ne other [] with rfl | hne
  · exact Nat.lt_add_left _ (Nat.succ_pos _)
  · have hkey : other ∈ tree.entries.keys := (exists_entry?_iff hne).1 ⟨entry, hother⟩
    have hlength : other.length ≤ (tree.entries.keys.map List.length).sum :=
      List.le_sum_of_mem (List.mem_map_of_mem hkey)
    omega

/-! ## What is loaded -/

/-- **Which batches are loaded, and in which order.** For each path the files to load are determined,
and loading comes to what loading them one after the other does. For a directory the fact files are
sorted, so it does not matter in which order the files below it are found. In a proper tree they are
what a depth-first walk with sorted names comes by, in whatever order the directories are enumerated,
and each of them is read where it lies. -/
theorem loadBatches_selects (tree : FileTree) (paths : List String) :
    (∀ path, ∃! files, tree.Selects path files) ∧
    (∀ files, ∃ outcome, tree.Loads files outcome) ∧
    (∀ files outcome, List.Forall₂ tree.Selects paths files → tree.Loads files.flatten outcome →
      StateT.run (loadBatches paths : ExceptT Failure (StateM FileTree) (List Batch)).run tree =
        (outcome, tree)) ∧
    ∀ path place, tree.locate path = .ok place → tree.entry? place = some .directory →
      (∀ found : List (List String), (∀ names, names ∈ found ↔ names ∈ tree.filesBelow path) →
        tree.Selects path
          ((SortedSet.ofList (found.filter isFactFile)).toList.map (Path.joinAll path))) ∧
      (tree.IsProper →
        (∃ listing, tree.Lists place listing) ∧
        (∀ listing, tree.Lists place listing →
          tree.Selects path ((tree.walkedFiles place listing).map (Path.joinAll path))) ∧
        ∀ names content, tree.file? (place ++ names) = some content →
          tree.read (Path.joinAll path names) = content.read) := by
  refine ⟨fun path => ?_, tree.exists_loads, fun files outcome => run_loadBatches,
    fun path place hplace hdirectory => ⟨fun found hfound => ?_, fun htree =>
      ⟨exists_lists hdirectory, fun listing hlisting => ?_, fun names content hfile => ?_⟩⟩⟩
  · obtain ⟨files, hfiles, -⟩ := tree.exists_run_filesFor path
    exact ⟨files, hfiles, fun files' h' => h'.unique hfiles⟩
  · exact .directory hplace hdirectory (isSelection_of_mem_iff hplace hfound)
  · exact .directory hplace hdirectory (htree.isSelection_walk hlisting)
  · exact htree.read_joinAll ⟨.inr hplace, hdirectory⟩ (file?_eq_some_iff.1 hfile)

end FileTree

/-- A tree in which the name of a file goes on where that of a directory ends. -/
def cabinetTree : FileTree where
  entries := .ofFirst [
    (["home"], .directory),
    (["home", "facts"], .directory),
    (["home", "facts", ".json"], .file (.text "{}")),
    (["home", "facts", "a-b.json"], .file (.text "{}")),
    (["home", "facts", "a"], .directory),
    (["home", "facts", "a", "z.json"], .file (.text "[]")),
    (["home", "facts", "x.json"], .directory)]
  workingDirectory := ["home"]
  isDirectory := .inr (by rfl)

/-- What may be enumerated in it. -/
def cabinetListing : Listing :=
  .directory ["x.json", "a-b.json", "a", ".json"] fun name =>
    if name = "x.json" then .directory [] fun _ => .file
    else if name = "a" then .directory ["z.json"] fun _ => .file
    else .file

theorem lists_cabinetListing : cabinetTree.Lists ["home", "facts"] cabinetListing := by
  have hnames (place : List String) (name : String) :
      (∃ entry, cabinetTree.entry? (place ++ [name]) = some entry) ↔
        place ++ [name] ∈ [["home"], ["home", "facts"], ["home", "facts", ".json"],
          ["home", "facts", "a"], ["home", "facts", "a", "z.json"], ["home", "facts", "a-b.json"],
          ["home", "facts", "x.json"]] :=
    FileTree.exists_entry?_iff (by simp)
  have hempty : cabinetTree.Lists ["home", "facts", "x.json"] (.directory [] fun _ => .file) :=
    .directory rfl (by decide) (fun name => by rw [hnames]; simp) nofun
  have hnested : cabinetTree.Lists ["home", "facts", "a"] (.directory ["z.json"] fun _ => .file) :=
    .directory rfl (by decide) (fun name => by rw [hnames]; simp) (by
      simp only [List.forall_mem_singleton]
      exact .file rfl)
  refine .directory rfl (by decide) (fun name => by rw [hnames]; simp; grind) ?_
  simp only [List.forall_mem_cons]
  exact ⟨hempty, .file rfl, hnested, .file rfl, nofun⟩

/-- The walk through it, with the names of each directory in their order. -/
theorem walk_cabinetListing : cabinetListing.walk =
    [[], [".json"], ["a"], ["a", "z.json"], ["a-b.json"], ["x.json"]] := by
  have hsorted : (["x.json", "a-b.json", "a", ".json"].mergeSort fun a b => (compare a b).isLE) =
      [".json", "a", "a-b.json", "x.json"] :=
    eq_of_increasing (pairwise_mergeSort (by decide)) (by decide) fun _ =>
      List.mem_mergeSort.trans (List.Perm.mem_iff (by decide))
  rw [cabinetListing, Listing.walk, hsorted]
  simp [Listing.walk]

theorem loadBatches_cabinetTree :
    cabinetTree.IsProper ∧ cabinetTree.Lists ["home", "facts"] cabinetListing ∧
      cabinetTree.Selects "facts" ["facts/a/z.json", "facts/a-b.json"] ∧
      StateT.run (loadBatches ["facts", "missing", "/home/facts/.json"] :
          ExceptT Failure (StateM FileTree) (List Batch)).run cabinetTree =
        (.ok [⟨"facts/a/z.json", [], []⟩, ⟨"facts/a-b.json", [], []⟩, ⟨"/home/facts/.json", [], []⟩],
          cabinetTree) := by
  have hproper : cabinetTree.IsProper := by decide
  have hwalked : (cabinetTree.walkedFiles ["home", "facts"] cabinetListing).map
      (Path.joinAll "facts") = ["facts/a/z.json", "facts/a-b.json"] := by
    rw [FileTree.walkedFiles, walk_cabinetListing]
    rfl
  have hfacts : cabinetTree.Selects "facts" ["facts/a/z.json", "facts/a-b.json"] := by
    rw [← hwalked]
    exact (((FileTree.loadBatches_selects cabinetTree []).2.2.2 "facts" ["home", "facts"] rfl
      rfl).2 hproper).2.1 cabinetListing lists_cabinetListing
  have hmissing : cabinetTree.Selects "missing" [] := .nothing (by decide +kernel)
  have hfound : cabinetTree.find? "/home/facts/.json" = some (.file (.text "{}")) := by
    decide +kernel
  have hload : ∀ path ∈ ["facts/a/z.json", "facts/a-b.json", "/home/facts/.json"],
      cabinetTree.load path = .ok ⟨path, [], []⟩ := by decide +kernel
  simp only [List.forall_mem_cons] at hload
  obtain ⟨hz, hab, hjson, -⟩ := hload
  have hselects : List.Forall₂ cabinetTree.Selects ["facts", "missing", "/home/facts/.json"]
      [["facts/a/z.json", "facts/a-b.json"], [], ["/home/facts/.json"]] :=
    .cons hfacts (.cons hmissing (.cons (.file hfound) .nil))
  have hloads : cabinetTree.Loads ["facts/a/z.json", "facts/a-b.json", "/home/facts/.json"]
      (.ok [⟨"facts/a/z.json", [], []⟩, ⟨"facts/a-b.json", [], []⟩, ⟨"/home/facts/.json", [], []⟩]) :=
    .all (.cons hz (.cons hab (.cons hjson .nil)))
  exact ⟨hproper, lists_cabinetListing, hfacts,
    (FileTree.loadBatches_selects cabinetTree _).2.2.1 _ _ hselects hloads⟩

end DomainFlow
