import Mathlib.Data.List.Basic
import Mathlib.Data.List.Induction
import DomainFlow.FileTree
import DomainFlow.Proofs.Ordered

/-!
# Places of a file tree

A path is followed piece by piece, and every piece but the last has to lead to a directory. So where a
path leads depends on directories and the working directory only: it stays the same as long as no
directory is lost and the working directory does not change. Neither writing a file nor making a
directory does either, and both keep a tree in which every place has a name in a directory.

## Main definitions

* `Path.IsName`: a text that names something in a directory
* `FileTree.file?`: what a file holds, by its place
* `FileTree.Opens`: the directory that the names behind a path are looked up in
* `FileTree.IsProper`: a tree whose places have names and lie in directories
* `FileTree.Keeps`: a tree that has all directories of another one and its working directory

## Main results

* `FileTree.Opens.locate_join`: a name behind the path of a directory leads into it
* `FileTree.IsProper.read_joinAll`: what is below a directory is read by the names that lead to it
* `FileTree.IsProper.write`, `FileTree.IsProper.createDirectory`: changes keep a tree proper
* `FileTree.Keeps.locate`, `FileTree.Keeps.opens`: paths lead where they led before
-/

namespace DomainFlow

namespace Path

/-- **A text that names something in a directory**, and neither the directory itself nor the one
above. -/
structure IsName (name : String) : Prop where
  ne_empty : name ≠ ""
  ne_dot : name ≠ "."
  ne_dots : name ≠ ".."
  no_slash : '/' ∉ name.toList

instance (name : String) : Decidable (IsName name) :=
  decidable_of_iff (name ≠ "" ∧ name ≠ "." ∧ name ≠ ".." ∧ '/' ∉ name.toList)
    ⟨fun ⟨hempty, hdot, hdots, hslash⟩ => ⟨hempty, hdot, hdots, hslash⟩,
      fun ⟨hempty, hdot, hdots, hslash⟩ => ⟨hempty, hdot, hdots, hslash⟩⟩

theorem pieces_append_slash (front back : String) :
    pieces (front ++ "/" ++ back) = pieces front ++ pieces back := by
  have hchars : (front ++ "/" ++ back).toList = front.toList ++ '/' :: back.toList := by simp
  rw [pieces, hchars, List.splitOn_append_cons_self, List.map_append]
  rfl

theorem pieces_ne_nil (path : String) : pieces path ≠ [] := by
  rw [pieces, Ne, List.map_eq_nil_iff]
  exact List.splitOn_ne_nil _ _

theorem pieces_of_no_slash {name : String} (h : '/' ∉ name.toList) : pieces name = [name] := by
  rw [pieces, List.splitOn_eq_singleton h, List.map_singleton, String.ofList_toList]

/-- No piece between slashes has a slash. -/
theorem no_slash_of_mem_splitOn {text piece : List Char} (h : piece ∈ text.splitOn '/') :
    '/' ∉ piece := by
  rw [List.splitOn] at h
  induction text generalizing piece with
  | nil =>
    obtain rfl : piece = [] := by simpa using h
    exact List.not_mem_nil
  | cons c text ih =>
    rw [List.splitOnP_cons_eq_if_modifyHead] at h
    split at h
    · rcases List.mem_cons.1 h with rfl | h
      · exact List.not_mem_nil
      · exact ih h
    · next hc =>
      obtain ⟨first, rest, hrest⟩ :=
        List.exists_cons_of_ne_nil (List.splitOnP_ne_nil (· == '/') text)
      rw [hrest] at ih h
      rw [List.modifyHead_cons, List.mem_cons] at h
      rcases h with rfl | h
      · rw [List.mem_cons, not_or]
        exact ⟨fun hslash => hc (beq_iff_eq.2 hslash.symm), ih List.mem_cons_self⟩
      · exact ih (List.mem_cons_of_mem _ h)

theorem no_slash_of_mem_pieces {path piece : String} (h : piece ∈ pieces path) :
    '/' ∉ piece.toList := by
  obtain ⟨piece, hpiece, rfl⟩ := List.mem_map.1 h
  rw [String.toList_ofList]
  exact no_slash_of_mem_splitOn hpiece

/-- A path that is not absolute begins with a piece that leads somewhere. -/
theorem exists_pieces_eq_cons {path : String} (h : path ≠ "") (habsolute : isAbsolute path = false) :
    ∃ first rest, pieces path = first :: rest ∧ first ≠ "" := by
  obtain ⟨c, text, htext⟩ :=
    List.exists_cons_of_ne_nil fun hnil => h (String.toList_eq_nil_iff.1 hnil)
  have hc : ¬(c == '/') = true := by
    rw [isAbsolute, htext] at habsolute
    simpa using habsolute
  obtain ⟨piece, rest, hrest⟩ :=
    List.exists_cons_of_ne_nil (List.splitOnP_ne_nil (· == '/') text)
  refine ⟨String.ofList (c :: piece), rest.map String.ofList, ?_, by simp⟩
  rw [pieces, htext, List.splitOn, List.splitOnP_cons_eq_if_modifyHead, if_neg hc, hrest,
    List.modifyHead_cons, List.map_cons]

/-- The pieces behind the last name of a path are empty. -/
theorem exists_pieces_eq_append (path : String) :
    ∃ blanks, pieces path = piecesUntilEnd path ++ blanks ∧ ∀ b ∈ blanks, b = "" := by
  refine ⟨((pieces path).reverse.takeWhile (· = "")).reverse, ?_, fun b hb => ?_⟩
  · rw [piecesUntilEnd, ← List.reverse_append, List.takeWhile_append_dropWhile,
      List.reverse_reverse]
  · simpa using List.all_eq_true.1 List.all_takeWhile b (List.mem_reverse.1 hb)

/-- The path of a name is the name alone, or it has a slash in front of the name, which may be the
one that ends the path of the directory. -/
theorem join_cases (directory name : String) :
    directory = "" ∧ join directory name = name ∨
      (∃ front, directory = front ++ "/" ∧ join directory name = front ++ "/" ++ name) ∨
      directory ≠ "" ∧ join directory name = directory ++ "/" ++ name := by
  by_cases hempty : directory = ""
  · subst hempty
    exact .inl ⟨rfl, by simp [join]⟩
  · refine .inr ?_
    by_cases hslash : directory.toList.getLast? = some '/'
    · obtain ⟨front, hfront⟩ := List.getLast?_eq_some_iff.1 hslash
      have hdirectory : directory = String.ofList front ++ "/" := by
        rw [← String.toList_inj, hfront]
        simp
      refine .inl ⟨String.ofList front, hdirectory, ?_⟩
      rw [join, if_pos (.inr hslash), ← hdirectory]
    · exact .inr ⟨hempty, by rw [join, if_neg (by simp [hempty, hslash])]⟩

theorem piecesUntilEnd_ne_nil {path : String} (h : path ≠ "") (habsolute : isAbsolute path = false) :
    piecesUntilEnd path ≠ [] := by
  intro hnil
  obtain ⟨first, rest, hpieces, hfirst⟩ := exists_pieces_eq_cons h habsolute
  obtain ⟨blanks, hblanks, hempty⟩ := exists_pieces_eq_append path
  rw [hnil, List.nil_append, hpieces] at hblanks
  exact hfirst (hempty first (hblanks ▸ List.mem_cons_self))

theorem isAbsolute_append {front : String} (h : front ≠ "") (back : String) :
    isAbsolute (front ++ back) = isAbsolute front := by
  obtain ⟨c, rest, hfront⟩ :=
    List.exists_cons_of_ne_nil fun hnil => h (String.toList_eq_nil_iff.1 hnil)
  rw [isAbsolute, isAbsolute, String.toList_append, hfront]
  rfl

end Path

/-- What reading a file gives. -/
def Content.read : Content → Except FileError String
  | .text s => .ok s
  | .binary => .error .notText

namespace FileTree

variable {tree after : FileTree} {origin place : List String} {path name : String}

/-! ## Following a path -/

theorem step_of_directory (h : tree.entry? place = some .directory) (piece : String) :
    tree.step place piece = .ok (if piece = "" ∨ piece = "." then place
      else if piece = ".." then place.dropLast
      else place ++ [piece]) := by
  rw [step, h]

/-- Only a directory can be left by a piece of a path. -/
theorem directory_of_step {piece : String} {next : List String}
    (h : tree.step place piece = .ok next) : tree.entry? place = some .directory := by
  rw [step] at h
  split at h
  · next hentry => exact hentry
  · cases h
  · cases h

theorem step_name (h : tree.entry? place = some .directory) (hname : Path.IsName name) :
    tree.step place name = .ok (place ++ [name]) := by
  rw [step_of_directory h, if_neg (not_or.2 ⟨hname.ne_empty, hname.ne_dot⟩), if_neg hname.ne_dots]

theorem follow_append_eq_ok_iff {front back : List String} {last : List String} :
    tree.follow origin (front ++ back) = .ok last ↔
      ∃ place, tree.follow origin front = .ok place ∧ tree.follow place back = .ok last := by
  rw [follow, List.foldlM_append, ← follow]
  cases hfront : tree.follow origin front with
  | error e => exact iff_of_false nofun nofun
  | ok place =>
    exact ⟨fun h => ⟨place, rfl, h⟩, fun ⟨_, hplace, h⟩ => by cases hplace; exact h⟩

/-- Empty pieces lead nowhere. -/
theorem follow_of_empty (h : tree.entry? place = some .directory) {pieces : List String}
    (hpieces : ∀ piece ∈ pieces, piece = "") : tree.follow place pieces = .ok place := by
  induction pieces with
  | nil => rfl
  | cons piece pieces ih =>
    rw [List.forall_mem_cons] at hpieces
    rw [follow, List.foldlM_cons, step_of_directory h, if_pos (.inl hpieces.1)]
    exact ih hpieces.2

theorem follow_singleton (tree : FileTree) (place : List String) (piece : String) :
    tree.follow place [piece] = tree.step place piece := by
  rw [follow, List.foldlM_cons]
  exact bind_pure _

/-- The last piece of a path is one step more. -/
theorem follow_concat_eq_ok_iff {front : List String} {piece : String} {last : List String} :
    tree.follow origin (front ++ [piece]) = .ok last ↔
      ∃ place, tree.follow origin front = .ok place ∧ tree.step place piece = .ok last := by
  simp only [follow_append_eq_ok_iff, follow_singleton]

/-- What an empty piece at the end of a path leads to is a directory. -/
theorem directory_of_follow_empty {front : List String}
    (h : tree.follow origin (front ++ [""]) = .ok place) :
    tree.follow origin front = .ok place ∧ tree.entry? place = some .directory := by
  obtain ⟨above, habove, hstep⟩ := follow_concat_eq_ok_iff.1 h
  have hdirectory := directory_of_step hstep
  rw [step_of_directory hdirectory, if_pos (.inl rfl)] at hstep
  cases hstep
  exact ⟨habove, hdirectory⟩

theorem start_append {front : String} (h : front ≠ "") (back : String) :
    tree.start (front ++ back) = tree.start front := by
  rw [start, start, Path.isAbsolute_append h]

theorem locate_eq_ok_iff : tree.locate path = .ok place ↔
    path ≠ "" ∧ tree.follow (tree.start path) (Path.pieces path) = .ok place := by
  rw [locate]
  split
  · next h => exact iff_of_false nofun fun ⟨hne, _⟩ => hne h
  · next h => exact (and_iff_right h).symm

theorem read_of_locate {content : Content} (h : tree.locate path = .ok place)
    (hfile : tree.entry? place = some (.file content)) : tree.read path = content.read := by
  simp only [read, h, bind, Except.bind, hfile]
  cases content <;> rfl

theorem find?_of_locate (h : tree.locate path = .ok place) : tree.find? path = tree.entry? place := by
  rw [find?, h]

theorem locate_of_find? {entry : TreeEntry} (h : tree.find? path = some entry) :
    ∃ place, tree.locate path = .ok place ∧ tree.entry? place = some entry := by
  rw [find?] at h
  split at h
  · next place hplace => exact ⟨place, hplace, h⟩
  · cases h

/-- **The directory that the names behind a path are looked up in.** Behind an empty path this is the
working directory, although an empty path itself leads nowhere. -/
structure Opens (tree : FileTree) (path : String) (place : List String) : Prop where
  located : path = "" ∧ place = tree.workingDirectory ∨ tree.locate path = .ok place
  directory : tree.entry? place = some .directory

theorem Opens.unique {other : List String} (h : tree.Opens path place)
    (h' : tree.Opens path other) : place = other := by
  have hne {place : List String} (h : tree.locate path = .ok place) : path ≠ "" :=
    (locate_eq_ok_iff.1 h).1
  rcases h.located with ⟨hpath, rfl⟩ | hlocate <;> rcases h'.located with ⟨hpath', rfl⟩ | hlocate'
  · rfl
  · exact absurd hpath (hne hlocate')
  · exact absurd hpath' (hne hlocate)
  · rw [hlocate] at hlocate'
    cases hlocate'
    rfl

/-- **A name behind the path of a directory leads into it.** -/
theorem Opens.locate_join (h : tree.Opens path place) (hname : Path.IsName name) :
    tree.locate (Path.join path name) = .ok (place ++ [name]) := by
  have hpieces := Path.pieces_of_no_slash hname.no_slash
  have hstep := step_name h.directory hname
  rcases Path.join_cases path name with ⟨rfl, hjoin⟩ | hjoin
  · have hplace : place = tree.workingDirectory := h.located.elim (·.2) fun hlocate =>
      absurd rfl (locate_eq_ok_iff.1 hlocate).1
    have hstart : tree.start name = place := by
      rw [start, if_neg, hplace]
      rw [Path.isAbsolute, decide_eq_true_iff]
      exact fun hhead => hname.no_slash (List.mem_of_head? hhead)
    rw [hjoin, locate_eq_ok_iff, hpieces, hstart, follow_singleton]
    exact ⟨hname.ne_empty, hstep⟩
  · have hne : path ≠ "" := by
      rcases hjoin with ⟨front, rfl, -⟩ | ⟨hne, -⟩
      · simp
      · exact hne
    obtain ⟨-, hfollow⟩ :=
      locate_eq_ok_iff.1 (h.located.resolve_left fun hempty => hne hempty.1)
    rw [locate_eq_ok_iff]
    rcases hjoin with ⟨front, rfl, hjoin⟩ | ⟨-, hjoin⟩
    · -- the name takes the place of the empty piece behind the last slash
      have hslash : Path.pieces (front ++ "/") = Path.pieces front ++ [""] := by
        rw [← String.append_empty (s := front ++ "/"), Path.pieces_append_slash]
        rfl
      rw [hslash] at hfollow
      have hfront := (directory_of_follow_empty hfollow).1
      rw [hjoin, start_append hne, Path.pieces_append_slash, hpieces]
      exact ⟨by simp, follow_concat_eq_ok_iff.2 ⟨_, hfront, hstep⟩⟩
    · rw [hjoin, String.append_assoc, start_append hne, ← String.append_assoc,
        Path.pieces_append_slash, hpieces]
      exact ⟨by simp, follow_concat_eq_ok_iff.2 ⟨_, hfollow, hstep⟩⟩

/-! ## Proper trees -/

/-- **A tree whose places have names and lie in directories.** -/
structure IsProper (tree : FileTree) : Prop where
  isName : ∀ {place name entry}, tree.entry? (place ++ [name]) = some entry → Path.IsName name
  directory : ∀ {place name entry},
    tree.entry? (place ++ [name]) = some entry → tree.entry? place = some .directory

/-- Whether a tree is proper is told by what is stored in it. -/
theorem isProper_iff : tree.IsProper ↔ ∀ e ∈ tree.entries.entries, ∀ name ∈ e.1.getLast?,
    Path.IsName name ∧ tree.entry? e.1.dropLast = some .directory := by
  constructor
  · rintro htree ⟨other, entry⟩ he name hname
    obtain ⟨place, rfl⟩ := List.getLast?_eq_some_iff.1 hname
    have hentry : tree.entry? (place ++ [name]) = some entry := by
      rw [entry?_eq_get? _ (by simp), SortedMap.mem_entries_iff.1 he]
    rw [List.dropLast_concat]
    exact ⟨htree.isName hentry, htree.directory hentry⟩
  · intro h
    have hstored {place : List String} {name : String} {entry : TreeEntry}
        (hentry : tree.entry? (place ++ [name]) = some entry) :
        Path.IsName name ∧ tree.entry? place = some .directory := by
      rw [entry?_eq_get? _ (by simp)] at hentry
      simpa using h _ (SortedMap.mem_entries_iff.2 hentry) name (by simp)
    exact ⟨fun hentry => (hstored hentry).1, fun hentry => (hstored hentry).2⟩

instance (tree : FileTree) : Decidable tree.IsProper := decidable_of_iff _ isProper_iff.symm

namespace IsProper

variable (htree : tree.IsProper)

include htree

/-- Whatever is below a place lies in a directory there. -/
theorem directory_of_below {names : List String} {entry : TreeEntry} (hne : names ≠ [])
    (h : tree.entry? (place ++ names) = some entry) : tree.entry? place = some .directory := by
  induction names using List.reverseRecOn generalizing entry with
  | nil => exact absurd rfl hne
  | append_singleton names name ih =>
    rw [← List.append_assoc] at h
    rcases eq_or_ne names [] with rfl | hnames
    · rw [List.append_nil] at h
      exact htree.directory h
    · exact ih hnames (htree.directory h)

/-- The names that lead to what is below a directory lead there behind the path of the directory. -/
theorem locate_joinAll {names : List String} {entry : TreeEntry} (hopens : tree.Opens path place)
    (hne : names ≠ []) (h : tree.entry? (place ++ names) = some entry) :
    tree.locate (Path.joinAll path names) = .ok (place ++ names) := by
  induction names using List.reverseRecOn generalizing entry with
  | nil => exact absurd rfl hne
  | append_singleton names name ih =>
    rw [← List.append_assoc] at h
    have hdirectory := htree.directory h
    have hopensAbove : tree.Opens (Path.joinAll path names) (place ++ names) := by
      rcases eq_or_ne names [] with rfl | hnames
      · rw [List.append_nil]
        exact hopens
      · exact ⟨.inr (ih hnames hdirectory), hdirectory⟩
    rw [Path.joinAll, List.foldl_append, ← List.append_assoc]
    exact hopensAbove.locate_join (htree.isName h)

/-- **What is below a directory is read by the names that lead to it.** -/
theorem read_joinAll {names : List String} {content : Content} (hopens : tree.Opens path place)
    (h : tree.entry? (place ++ names) = some (.file content)) :
    tree.read (Path.joinAll path names) = content.read := by
  have hne : names ≠ [] := by
    rintro rfl
    rw [List.append_nil, hopens.directory] at h
    cases h
  exact read_of_locate (htree.locate_joinAll hopens hne h) h

end IsProper

/-! ## Changes -/

/-- What a file holds, by its place. -/
def file? (tree : FileTree) (place : List String) : Option Content :=
  match tree.entry? place with
  | some (.file content) => some content
  | _ => none

theorem file?_eq_some_iff {content : Content} :
    tree.file? place = some content ↔ tree.entry? place = some (.file content) := by
  rw [file?]
  split
  · next h => rw [h, Option.some.injEq, Option.some.injEq, TreeEntry.file.injEq]
  · next h => exact iff_of_false nofun (h content)

theorem workingDirectory_put (tree : FileTree) (place : List String) (entry : TreeEntry) :
    (tree.put place entry).workingDirectory = tree.workingDirectory := by
  rw [put]
  split <;> rfl

theorem entry?_put (h : tree.entry? place ≠ some .directory) (entry : TreeEntry)
    (other : List String) : entry? (tree.put place entry) other =
      if other = place then some entry else tree.entry? other := by
  rcases eq_or_ne other [] with rfl | hother
  · have hne : [] ≠ place := fun heq => h (heq ▸ rfl)
    rw [if_neg hne]
    rfl
  · rw [entry?_eq_get? _ hother, entry?_eq_get? _ hother, put, dif_neg h, SortedMap.get?_insert]

theorem write_of_locate (h : tree.locate path = .ok place) (text : String) :
    tree.write path text =
      if tree.entry? place = some .directory then .error .isADirectory
      else .ok (tree.put place (.file (.text text))) := by
  simp only [write, h, bind, Except.bind]
  split
  · next hentry => rw [if_pos hentry]
  · next hentry => rw [if_neg hentry]

/-- A directory is made by putting it where nothing was. -/
theorem exists_of_createDirectory (h : tree.createDirectory path = .ok after) :
    path ≠ "" ∧ ∃ place,
      tree.follow (tree.start path) (Path.piecesUntilEnd path) = .ok place ∧
        tree.entry? place = none ∧ after = tree.put place .directory := by
  rw [createDirectory] at h
  split at h
  · cases h
  · next hpath =>
    cases hfollow : tree.follow (tree.start path) (Path.piecesUntilEnd path) with
    | error e =>
      rw [hfollow] at h
      cases h
    | ok place =>
      simp only [hfollow, bind, Except.bind] at h
      split at h
      · cases h
      · next hnone =>
        cases h
        exact ⟨hpath, place, rfl, hnone, rfl⟩

theorem entry?_put_file_eq_directory_iff (h : tree.entry? place ≠ some .directory)
    {content : Content} {other : List String} :
    entry? (tree.put place (.file content)) other = some .directory ↔
      tree.entry? other = some .directory := by
  rw [entry?_put h]
  split
  · next heq => exact iff_of_false nofun (heq ▸ h)
  · exact Iff.rfl

theorem file?_put (h : tree.entry? place ≠ some .directory) (content : Content)
    (other : List String) : file? (tree.put place (.file content)) other =
      if other = place then some content else tree.file? other := by
  rw [file?, entry?_put h]
  by_cases hother : other = place
  · rw [if_pos hother, if_pos hother]
  · rw [if_neg hother, if_neg hother]
    rfl

/-! ## Kept directories -/

/-- **A tree that has all directories of another one and its working directory.** -/
structure Keeps (after before : FileTree) : Prop where
  workingDirectory : after.workingDirectory = before.workingDirectory
  directories : ∀ place,
    before.entry? place = some .directory → after.entry? place = some .directory

theorem keeps_put_file (h : tree.entry? place ≠ some .directory) (content : Content) :
    (tree.put place (.file content)).Keeps tree where
  workingDirectory := workingDirectory_put ..
  directories _ hplace := (entry?_put_file_eq_directory_iff h).2 hplace

namespace Keeps

theorem refl (tree : FileTree) : tree.Keeps tree := ⟨rfl, fun _ h => h⟩

theorem trans {before last : FileTree} (h : last.Keeps after) (h' : after.Keeps before) :
    last.Keeps before where
  workingDirectory := h.workingDirectory.trans h'.workingDirectory
  directories place hplace := h.directories place (h'.directories place hplace)

variable (h : after.Keeps tree)

include h

theorem start (path : String) : after.start path = tree.start path := by
  rw [FileTree.start, FileTree.start, h.workingDirectory]

theorem follow {pieces : List String} (hfollow : tree.follow origin pieces = .ok place) :
    after.follow origin pieces = .ok place := by
  induction pieces generalizing origin with
  | nil => exact hfollow
  | cons piece pieces ih =>
    rw [FileTree.follow, List.foldlM_cons] at hfollow ⊢
    cases hstep : tree.step origin piece with
    | error e =>
      rw [hstep] at hfollow
      cases hfollow
    | ok next =>
      have hdirectory := directory_of_step hstep
      rw [hstep] at hfollow
      rw [step_of_directory (h.directories origin hdirectory), ← step_of_directory hdirectory, hstep]
      exact ih hfollow

/-- **Where a path leads, it leads as long as no directory is lost.** -/
theorem locate (hlocate : tree.locate path = .ok place) : after.locate path = .ok place := by
  rw [locate_eq_ok_iff] at hlocate ⊢
  rw [h.start]
  exact hlocate.imp_right h.follow

theorem opens (hopens : tree.Opens path place) : after.Opens path place where
  located := hopens.located.imp (And.imp_right fun hplace => hplace.trans h.workingDirectory.symm)
    h.locate
  directory := h.directories place hopens.directory

end Keeps

/-! ## Proper trees stay proper -/

/-- Where the pieces of a path lead is a directory or has a name in one. -/
theorem IsProper.follow_cases (htree : tree.IsProper) {pieces : List String}
    (horigin : pieces = [] → tree.entry? origin = some .directory)
    (hpieces : ∀ piece ∈ pieces, '/' ∉ piece.toList) (h : tree.follow origin pieces = .ok place) :
    tree.entry? place = some .directory ∨ ∃ above name, place = above ++ [name] ∧
      Path.IsName name ∧ tree.entry? above = some .directory := by
  rcases List.eq_nil_or_concat' pieces with rfl | ⟨front, piece, rfl⟩
  · cases h
    exact .inl (horigin rfl)
  · obtain ⟨above, -, hstep⟩ := follow_concat_eq_ok_iff.1 h
    have hdirectory := directory_of_step hstep
    rw [step_of_directory hdirectory] at hstep
    split at hstep
    · cases hstep
      exact .inl hdirectory
    · next hempty =>
      split at hstep
      · cases hstep
        rcases List.eq_nil_or_concat' above with rfl | ⟨top, name, rfl⟩
        · exact .inl rfl
        · rw [List.dropLast_concat]
          exact .inl (htree.directory hdirectory)
      · next hdots =>
        cases hstep
        rw [not_or] at hempty
        exact .inr ⟨above, piece, rfl, ⟨hempty.1, hempty.2, hdots, hpieces piece (by simp)⟩, hdirectory⟩

/-- A tree stays proper when something is put into a directory under a name that is not that of a
directory. -/
theorem IsProper.put (htree : tree.IsProper) (hname : Path.IsName name)
    (habove : tree.entry? place = some .directory)
    (hfree : tree.entry? (place ++ [name]) ≠ some .directory) (entry : TreeEntry) :
    (tree.put (place ++ [name]) entry).IsProper := by
  have hput (other : List String) : entry? (tree.put (place ++ [name]) entry) other =
      if other = place ++ [name] then some entry else tree.entry? other :=
    entry?_put hfree entry other
  constructor
  · intro place' name' entry' h
    rw [hput] at h
    split at h
    · next heq =>
      obtain ⟨-, heq⟩ := List.append_inj' heq rfl
      rwa [List.singleton_inj.1 heq]
    · exact htree.isName h
  · intro place' name' entry' h
    have hdirectory : tree.entry? place' = some .directory := by
      rw [hput] at h
      split at h
      · next heq => rwa [(List.append_inj' heq rfl).1]
      · exact htree.directory h
    have hne : place' ≠ place ++ [name] := by
      rintro rfl
      exact hfree hdirectory
    rw [hput, if_neg hne, hdirectory]

/-- **A proper tree stays proper** when a file is written. -/
theorem IsProper.write (htree : tree.IsProper) {text : String} (h : tree.write path text = .ok after) :
    after.IsProper := by
  cases hlocate : tree.locate path with
  | error e => simp [FileTree.write, hlocate, bind, Except.bind] at h
  | ok place =>
    rw [write_of_locate hlocate] at h
    split at h
    · cases h
    · next hfree =>
      cases h
      obtain ⟨-, hfollow⟩ := locate_eq_ok_iff.1 hlocate
      have hcases := htree.follow_cases (fun hnil => absurd hnil (Path.pieces_ne_nil path))
        (fun _ => Path.no_slash_of_mem_pieces) hfollow
      obtain ⟨above, name, rfl, hname, habove⟩ := hcases.resolve_left hfree
      exact htree.put hname habove hfree _

/-- A proper tree stays proper when a directory is made. -/
theorem IsProper.createDirectory (htree : tree.IsProper) (h : tree.createDirectory path = .ok after) :
    after.IsProper := by
  obtain ⟨hempty, place, hfollow, hnone, rfl⟩ := exists_of_createDirectory h
  obtain ⟨blanks, hpieces, -⟩ := Path.exists_pieces_eq_append path
  have hstart : Path.piecesUntilEnd path = [] → tree.entry? (tree.start path) = some .directory := by
    intro hnil
    rw [start, if_pos]
    · rfl
    · exact Bool.of_not_eq_false fun habsolute => Path.piecesUntilEnd_ne_nil hempty habsolute hnil
  have hslash (piece) (hpiece : piece ∈ Path.piecesUntilEnd path) : '/' ∉ piece.toList :=
    Path.no_slash_of_mem_pieces (hpieces ▸ List.mem_append_left blanks hpiece)
  have hfree : tree.entry? place ≠ some .directory := by
    rw [hnone]
    nofun
  obtain ⟨above, name, rfl, hname, habove⟩ :=
    (htree.follow_cases hstart hslash hfollow).resolve_left hfree
  exact htree.put hname habove hfree _

/-! ## Runs -/

/-- A program goes on with what its first step gave. -/
theorem run_bind_of_run_eq {α β : Type} {x : StateM FileTree α} {next : α → StateM FileTree β}
    {a : α} (h : StateT.run x tree = (a, after)) :
    StateT.run (x >>= next) tree = StateT.run (next a) after := by
  rw [StateT.run_bind, h]
  rfl

theorem run_kind? (path : String) (tree : FileTree) :
    StateT.run (FileAccess.kind? path : StateM FileTree _) tree = (tree.kind? path, tree) := rfl

end FileTree

end DomainFlow
