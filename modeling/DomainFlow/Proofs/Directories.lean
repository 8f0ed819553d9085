import DomainFlow.Proofs.Places

/-!
# Making directories

A directory is made after those above it, as far as they are missing. However this ends, the tree has
only got further directories on the way: every file is as it was, no directory is lost, and a proper
tree stays proper. If it succeeds, the path leads to a directory.

## Main definitions

* `FileTree.Extends`: a tree that has directories besides those of another one
* `FileTree.StaysIn`: programs that lead from a tree to related trees only
* `FileTree.Leads`: programs after which a path leads to a directory

## Main results

* `FileTree.staysIn_createDirectories`: what holds when one directory is made holds for all of them
* `FileTree.exists_opens_of_createDirectories`: a directory that was made is there
-/

namespace DomainFlow

namespace FileTree

variable {tree after : FileTree} {place : List String} {path : String}

/-! ## One directory -/

/-- **A tree that has directories besides those of another one**, and the same files and working
directory. -/
structure Extends (after before : FileTree) : Prop extends after.Keeps before where
  files : ∀ place, after.file? place = before.file? place

namespace Extends

variable {before last : FileTree}

theorem refl (tree : FileTree) : tree.Extends tree := ⟨.refl tree, fun _ => rfl⟩

theorem trans (h : last.Extends after) (h' : after.Extends before) : last.Extends before where
  toKeeps := h.toKeeps.trans h'.toKeeps
  files place := (h.files place).trans (h'.files place)

end Extends

theorem extends_put_directory (h : tree.entry? place = none) :
    (tree.put place .directory).Extends tree := by
  have hfree : tree.entry? place ≠ some .directory := by
    rw [h]
    nofun
  refine ⟨⟨workingDirectory_put .., fun other hother => ?_⟩, fun other => ?_⟩
  · rw [entry?_put hfree]
    split
    · rfl
    · exact hother
  · by_cases hother : other = place
    · subst hother
      rw [file?, file?, entry?_put hfree, if_pos rfl, h]
    · rw [file?, file?, entry?_put hfree, if_neg hother]

theorem extends_createDirectory (h : tree.createDirectory path = .ok after) : after.Extends tree := by
  obtain ⟨-, place, -, hnone, rfl⟩ := exists_of_createDirectory h
  exact extends_put_directory hnone

/-- A directory that was made is there. -/
theorem exists_directory_of_createDirectory (h : tree.createDirectory path = .ok after) :
    ∃ place, after.locate path = .ok place ∧ after.entry? place = some .directory := by
  obtain ⟨hempty, place, hfollow, hnone, rfl⟩ := exists_of_createDirectory h
  have hfree : tree.entry? place ≠ some .directory := by
    rw [hnone]
    nofun
  have hmade : entry? (tree.put place .directory) place = some .directory := by
    rw [entry?_put hfree, if_pos rfl]
  obtain ⟨blanks, hpieces, hblanks⟩ := Path.exists_pieces_eq_append path
  refine ⟨place, locate_eq_ok_iff.2 ⟨hempty, ?_⟩, hmade⟩
  have hkeeps := (extends_put_directory hnone).toKeeps
  rw [hpieces, hkeeps.start, follow_append_eq_ok_iff]
  exact ⟨place, hkeeps.follow hfollow, follow_of_empty hmade hblanks⟩

/-! ## Runs -/

theorem run_createDirectory (path : String) (tree : FileTree) :
    StateT.run (FileAccess.createDirectory path : StateM FileTree _) tree =
      (match tree.createDirectory path with
        | .ok after => (.ok (), after)
        | .error e => (.error e, tree)) := rfl

theorem exists_of_kind?_directory (h : tree.kind? path = some .directory) :
    ∃ place, tree.locate path = .ok place ∧ tree.entry? place = some .directory := by
  obtain ⟨entry, hfind, hentry⟩ := Option.map_eq_some_iff.1 h
  cases entry with
  | file content => cases hentry
  | directory => exact locate_of_find? hfind

theorem run_ensureDirectory (path : String) (tree : FileTree) :
    StateT.run (FileAccess.ensureDirectory path : StateM FileTree _) tree =
      (match tree.createDirectory path with
        | .ok after => (.ok (), after)
        | .error e =>
          (if tree.kind? path = some .directory then .ok () else .error e, tree)) := by
  have hcreate := run_createDirectory path tree
  rw [FileAccess.ensureDirectory]
  cases hmade : tree.createDirectory path with
  | ok after =>
    rw [hmade] at hcreate
    exact run_bind_of_run_eq hcreate
  | error e =>
    rw [hmade] at hcreate
    rw [run_bind_of_run_eq hcreate]
    dsimp only
    rw [run_bind_of_run_eq (run_kind? path tree)]
    split
    · next h => rw [if_pos h]; rfl
    · next h => rw [if_neg h]; rfl

/-! ## What making directories keeps -/

/-- **A relation that making directories carries on**: it holds if nothing happens or one directory is
made, and from one step to the next. -/
structure Carries (R : FileTree → FileTree → Prop) : Prop where
  refl : ∀ tree, R tree tree
  trans : ∀ {before after last}, R last after → R after before → R last before
  createDirectory : ∀ {tree after path}, tree.createDirectory path = .ok after → R after tree

theorem carries_extends : Carries Extends where
  refl := Extends.refl
  trans := Extends.trans
  createDirectory := extends_createDirectory

theorem carries_isProper : Carries fun after before => before.IsProper → after.IsProper where
  refl _ h := h
  trans h h' hbefore := h (h' hbefore)
  createDirectory h hbefore := hbefore.createDirectory h

/-- **A program that leads from a tree to related trees only**, however it ends. -/
def StaysIn {α : Type} (R : FileTree → FileTree → Prop) (program : StateM FileTree α) : Prop :=
  ∀ tree, R (StateT.run program tree).2 tree

section StaysIn

variable {R : FileTree → FileTree → Prop} (hR : Carries R)

include hR

theorem staysIn_pure {α : Type} (a : α) : StaysIn R (pure a) := hR.refl

theorem StaysIn.bind {α β : Type} {x : StateM FileTree α} {next : α → StateM FileTree β}
    (hx : StaysIn R x) (hnext : ∀ a, StaysIn R (next a)) : StaysIn R (x >>= next) :=
  fun tree => hR.trans (hnext _ _) (hx tree)

theorem staysIn_ensureDirectory (path : String) : StaysIn R (FileAccess.ensureDirectory path) := by
  intro tree
  rw [run_ensureDirectory]
  cases hcreate : tree.createDirectory path with
  | ok after => exact hR.createDirectory hcreate
  | error e => exact hR.refl tree

theorem staysIn_ensureBelow (path : String) {makeAbove : StateM FileTree (Except FileError Unit)}
    (h : StaysIn R makeAbove) : StaysIn R (FileAccess.ensureBelow path makeAbove) := by
  refine StaysIn.bind hR (staysIn_ensureDirectory hR path) fun result => ?_
  split
  · refine StaysIn.bind hR h fun result => ?_
    split
    · exact staysIn_ensureDirectory hR path
    · exact staysIn_pure hR _
  · exact staysIn_pure hR _

theorem staysIn_ensureAll (start : String) (names : List String) :
    StaysIn R (FileAccess.ensureAll start names) := by
  induction names with
  | nil => exact staysIn_pure hR _
  | cons name above ih => exact staysIn_ensureBelow hR _ ih

/-- **What holds when one directory is made holds for all of them**, whether they are made or not. -/
theorem staysIn_createDirectories (path : String) : StaysIn R (FileAccess.createDirectories path) := by
  rw [FileAccess.createDirectories]
  split
  · exact staysIn_pure hR _
  · exact staysIn_ensureBelow hR _ (staysIn_ensureAll hR _ _)

end StaysIn

/-! ## Where the path leads -/

/-- **A program after which a path leads to a directory**, if it succeeds. -/
def Leads (path : String) (program : StateM FileTree (Except FileError Unit)) : Prop :=
  ∀ tree after, StateT.run program tree = (.ok (), after) →
    ∃ place, after.locate path = .ok place ∧ after.entry? place = some .directory

theorem leads_ensureDirectory (path : String) : Leads path (FileAccess.ensureDirectory path) := by
  intro tree after h
  rw [run_ensureDirectory] at h
  cases hcreate : tree.createDirectory path with
  | ok made =>
    rw [hcreate] at h
    cases h
    exact exists_directory_of_createDirectory hcreate
  | error e =>
    rw [hcreate] at h
    dsimp only at h
    split at h
    · next hkind =>
      cases h
      exact exists_of_kind?_directory hkind
    · cases h

theorem leads_ensureBelow (path : String) (makeAbove : StateM FileTree (Except FileError Unit)) :
    Leads path (FileAccess.ensureBelow path makeAbove) := by
  intro tree after h
  obtain ⟨⟨result, tried⟩, hrun⟩ :
      ∃ outcome, StateT.run (FileAccess.ensureDirectory path : StateM FileTree _) tree = outcome :=
    ⟨_, rfl⟩
  rw [FileAccess.ensureBelow, run_bind_of_run_eq hrun] at h
  split at h
  · obtain ⟨⟨above, made⟩, habove⟩ : ∃ outcome, StateT.run makeAbove tried = outcome := ⟨_, rfl⟩
    rw [run_bind_of_run_eq habove] at h
    split at h
    · exact leads_ensureDirectory path _ _ h
    · cases h
  · cases h
    exact leads_ensureDirectory path _ _ hrun

/-- **A directory that was made is there**, with a place for the names in it. An empty path stands
for the working directory. -/
theorem exists_opens_of_createDirectories
    (h : StateT.run (FileAccess.createDirectories path : StateM FileTree _) tree = (.ok (), after)) :
    ∃ place, after.Opens path place := by
  rw [FileAccess.createDirectories] at h
  split at h
  · next hempty =>
    exact ⟨_, .inl ⟨hempty, rfl⟩, after.entry?_workingDirectory⟩
  · obtain ⟨place, hlocate, hdirectory⟩ := leads_ensureBelow _ _ _ _ h
    exact ⟨place, .inr hlocate, hdirectory⟩

end FileTree

end DomainFlow
