import StateSheet.Command.Run
import StateSheet.Proofs.Glob.OwnText
import StateSheet.Proofs.Glob.Sets
import StateSheet.Proofs.Path.Segments

/-!
# Changes to the output of a build

The output of a build is kept from waking a watch by its path, which is one more
ignore glob. A change to it is told of by its path below the working directory,
and is passed over if one of the globs matches that path as it is or the output
without the segments at its ends that lead nowhere
(`ignoresChange_append_iff`).

So the output wakes no watch if its path opens nothing as a glob and has nothing
to trim (`output_wakes_no_watch`). With a dot in front it does
(`output_with_dot_wakes_watch`): the glob keeps the dot and the path seen from the
working directory loses it.
-/

set_option autoImplicit false

namespace StateSheet

namespace Watching

theorem ignoresChange_singleton (ignore : Globs) (directory path : Path) :
    ignoresChange (some ignore) (some directory) [path] =
      (ignore.isMatch path || (directory.relativeTo? path).any fun relative =>
        ignore.isMatch relative) := by
  simp [ignoresChange, ignoresPath]

/-- **What a change to one path below the working directory is compared with**: the
whole path, and the part below the directory without the segments at its ends that
lead nowhere. -/
theorem ignoresChange_append_iff (ignore : Globs) {directory path : Path}
    (absolute : directory.isAbsolute = true) (relative : path.isAbsolute = false) :
    ignoresChange (some ignore) (some directory) [directory.append path] = true ↔
      ignore.isMatch (directory.append path) = true ∨ ignore.isMatch path.trimmed = true := by
  rw [ignoresChange_singleton, Path.relativeTo?_append absolute relative, Option.any_some,
    Bool.or_eq_true]

end Watching

/-- The output of a build is matched by its ignore globs, if its path opens nothing
as a glob and names a file. -/
theorem BuildOrder.ignoreGlobs_match_output (order : BuildOrder) {output : Text}
    (given : order.output? = some output) (plain : ∀ c ∈ output, Glob.isOpening c = false)
    (named : (⟨output⟩ : Path).endsInParent = false) {ignore : Globs}
    (valid : Globs.read order.ignoreGlobs = .ok ignore) : ignore.isMatch ⟨output⟩ = true := by
  have listed : output ∈ order.ignoreGlobs := by
    simp [ignoreGlobs, given]
  obtain ⟨glob, single⟩ := Globs.exists_read_iff.mp ⟨ignore, valid⟩ output listed
  obtain ⟨tokens, tokensRead, _, rfl⟩ := Globs.isRead_iff.mp single
  exact (Globs.isMatch_iff_of_read valid _).mpr
    ⟨output, listed, _, single, Glob.isMatch_ownText ⟨output⟩ plain named tokensRead⟩

/-- **The output of a build wakes no watch.** Whatever else is ignored, a change to
the output alone is passed over, as long as the path of the output opens nothing as
a glob, has nothing to trim at its ends and names a file. -/
theorem output_wakes_no_watch (order : BuildOrder) {output : Text}
    (given : order.output? = some output) {directory : Path}
    (absolute : directory.isAbsolute = true)
    (relative : (⟨output⟩ : Path).isAbsolute = false)
    (plain : ∀ c ∈ output, Glob.isOpening c = false)
    (nothingToTrim : (⟨output⟩ : Path).trimmed = ⟨output⟩)
    (named : (⟨output⟩ : Path).endsInParent = false) {ignore : Globs}
    (valid : Globs.read order.ignoreGlobs = .ok ignore) :
    Watching.ignoresChange (some ignore) (some directory) [directory.append ⟨output⟩] = true := by
  rw [Watching.ignoresChange_append_iff ignore absolute relative, nothingToTrim]
  exact Or.inr (order.ignoreGlobs_match_output given plain named valid)

/-- A path with wildcards and a doubled separator inside, below a directory that is
itself written with a dot. -/
theorem output_wakes_no_watch_wildcards :
    ∃ ignore, Globs.read ["*.md".toList, "dist//**/state?.css".toList] = .ok ignore ∧
      Watching.ignoresChange (some ignore) (some ⟨"/work/./web/".toList⟩)
        [⟨"/work/./web/dist//**/state?.css".toList⟩] = true := by
  let order : BuildOrder :=
    { selection := { ignore := ["*.md".toList] }, output? := some "dist//**/state?.css".toList }
  have readable : (Globs.read order.ignoreGlobs).toOption.isSome = true := by decide +kernel
  obtain ⟨ignore, valid⟩ : ∃ ignore, Globs.read order.ignoreGlobs = .ok ignore := by
    cases outcome : Globs.read order.ignoreGlobs with
    | error fault => rw [outcome] at readable; cases readable
    | ok ignore => exact ⟨ignore, rfl⟩
  have absolute : (⟨"/work/./web/".toList⟩ : Path).isAbsolute = true := by decide
  have plain : ∀ c ∈ "dist//**/state?.css".toList, Glob.isOpening c = false := by
    simp [Glob.isOpening]
  refine ⟨ignore, valid, ?_⟩
  exact output_wakes_no_watch order rfl absolute (by decide) plain (by decide) (by decide) valid

/-- **A path that starts with a dot wakes the watch**: its glob keeps the dot, and
the path seen from the working directory has lost it. -/
theorem output_with_dot_wakes_watch :
    (Globs.read (BuildOrder.ignoreGlobs { output? := some "./dist/x.css".toList })).toOption.map
      (fun ignore => Watching.ignoresChange (some ignore) (some ⟨"/work".toList⟩)
        [(⟨"/work".toList⟩ : Path).append ⟨"./dist/x.css".toList⟩]) = some false := by
  decide +kernel

end StateSheet
