import Mathlib.Data.List.Basic
import StateSheet.Walk

/-!
# What users exclude

A walk that sees the same ignore files as another, and passes over all that the other
passes over, comes to some of its files, in the same order
(`WalkScope.Narrows.walkFrom_sublist`).

What a user excludes from all repositories is asked last. It cannot bring back what a
directory hides (`isIgnored_of_silent`), so with it a walk comes to some of the files that
it comes to without (`walk_sublist_forUser_none`), and to all of them if it does not respect
the rules of repositories (`walk_forUser`).
-/

set_option autoImplicit false

namespace StateSheet

/-! ## Walks that come to fewer files -/

namespace WalkScope

/-- Does a walk see the ignore files that a wider one sees, and pass over what that passes
over? -/
structure Narrows (narrow wide : WalkScope) : Prop where
  enter : ∀ layers path entries,
    narrow.enter layers path entries = wide.enter layers path entries
  ignores : ∀ layers path isDirectory,
    wide.ignores layers path isDirectory = true → narrow.ignores layers path isDirectory = true

variable {narrow wide : WalkScope}

mutual
/-- **A narrower walk comes to some of the files of a wider one**, in the same order. -/
theorem Narrows.walkFrom_sublist (narrows : narrow.Narrows wide) :
    ∀ (layers : List IgnoreLayer) (path : Path) (node : FileTree),
      (walkFrom narrow layers path node).Sublist (walkFrom wide layers path node)
  | _, path, .file _ => by
      rw [walkFrom, walkFrom]
  | layers, path, .directory entries => by
      rw [walkFrom, walkFrom, narrows.enter]
      exact narrows.walkEntries_sublist _ path entries

theorem Narrows.walkEntries_sublist (narrows : narrow.Narrows wide) :
    ∀ (layers : List IgnoreLayer) (path : Path) (entries : List (Text × FileTree)),
      (walkEntries narrow layers path entries).Sublist (walkEntries wide layers path entries)
  | _, _, [] => by
      rw [walkEntries, walkEntries]
  | layers, path, (name, node) :: rest => by
      rw [walkEntries, walkEntries]
      refine List.Sublist.append ?_ (narrows.walkEntries_sublist layers path rest)
      cases passed : wide.ignores layers (path.join name) node.content?.isNone with
      | true =>
          rw [narrows.ignores _ _ _ passed, if_pos rfl]
          exact List.nil_sublist _
      | false =>
          split
          · exact List.nil_sublist _
          · exact narrows.walkFrom_sublist layers (path.join name) node
end

end WalkScope

/-! ## Excluding nothing -/

/-- A user who excludes nothing hides nothing that another does not hide. -/
theorem isIgnored_of_silent {views : List IgnoreView} {user silent : IgnoreView}
    (excludesNothing : silent.layer.excluded = []) (ignored : isIgnored views silent = true) :
    isIgnored views user = true := by
  have noVerdict : ∀ inside : List IgnoreView,
      nearestVerdict? (·.excluded) (if inside.isEmpty then [] else [silent]) = none := by
    intro inside
    split
    · rfl
    · rw [nearestVerdict?, List.findSome?_cons, excludesNothing]
      rfl
  unfold isIgnored at ignored ⊢
  dsimp only at ignored ⊢
  rw [noVerdict] at ignored
  generalize nearestVerdict? (·.general) views = general at ignored ⊢
  generalize nearestVerdict? (·.repository) _ = repository at ignored ⊢
  generalize nearestVerdict? (·.excluded) (throughFirst _ _) = excluded at ignored ⊢
  cases general with
  | some verdict => exact ignored
  | none =>
      cases repository with
      | some verdict => exact ignored
      | none =>
          cases excluded with
          | some verdict => exact ignored
          | none => cases ignored

/-! ## Walks for different users -/

/-- The workspace as it is for a user with a list of excludes in some file, or with none. -/
def Workspace.forUser (workspace : Workspace) (excludes? : Option Path) : Workspace :=
  { workspace with userExcludes? := excludes? }

section

variable {workspace : Workspace} {respectsRepository : Bool} {root : Path}

/-- A walk for a user who excludes nothing is wider than one for another user. -/
theorem walk_sublist_forUser {silent? : Option Path}
    (excludesNothing :
      (IgnoreLayer.ofUser (workspace.forUser silent?) respectsRepository).excluded = [])
    (excludes? : Option Path) :
    (walk (workspace.forUser excludes?) respectsRepository root).Sublist
      (walk (workspace.forUser silent?) respectsRepository root) := by
  have sameResolved : (workspace.forUser excludes?).resolve root =
      (workspace.forUser silent?).resolve root := rfl
  have sameTree : (workspace.forUser excludes?).tree = (workspace.forUser silent?).tree := rfl
  unfold walk
  rw [sameResolved, sameTree]
  split
  · exact List.nil_sublist _
  · split
    · exact List.nil_sublist _
    · split
      · exact List.nil_sublist _
      · refine WalkScope.Narrows.walkFrom_sublist ?_ [] root _
        exact ⟨fun _ _ _ => rfl, fun _ _ _ => isIgnored_of_silent excludesNothing⟩

variable (workspace respectsRepository root)

/-- **What the user excludes only hides files**: with it a walk comes to some of the files
that it comes to without, in the same order. -/
theorem walk_sublist_forUser_none :
    (walk workspace respectsRepository root).Sublist
      (walk (workspace.forUser none) respectsRepository root) := by
  refine walk_sublist_forUser ?_ workspace.userExcludes?
  cases respectsRepository with
  | false => rfl
  | true => rfl

/-- It hides none if the walk does not respect the rules of repositories. -/
theorem walk_forUser (excludes? : Option Path) :
    walk (workspace.forUser excludes?) false root = walk workspace false root := by
  have noRules : ∀ user?, (IgnoreLayer.ofUser (workspace.forUser user?) false).excluded = [] :=
    fun _ => rfl
  refine List.Sublist.antisymm ?_ ?_
  · exact walk_sublist_forUser (noRules workspace.userExcludes?) excludes?
  · exact walk_sublist_forUser (noRules excludes?) workspace.userExcludes?

end

end StateSheet
