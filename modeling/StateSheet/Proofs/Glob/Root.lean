import StateSheet.Proofs.Glob.LiteralStart
import StateSheet.Proofs.Path.Enclosing

/-!
# Roots of globs

The root of a glob is the working directory, or the glob starts with it, or it is the glob
itself or the directory around it (`root_forms`). So the root of a glob that starts at the
working directory is a path from there (`isAbsolute_root`).

Every path of names that a glob matches goes through the root of the glob (`through_root`), as
long as no backslash has got into the root.
-/

set_option autoImplicit false

namespace StateSheet.Glob

/-! ## Forms of roots -/

/-- A text up to its last separator ends in that. -/
theorem upToSeparator_isPrefix (text : Text)
    (given : (text.reverse.dropWhile fun c => !isSeparator c).reverse ≠ []) :
    (text.reverse.dropWhile fun c => !isSeparator c).reverse <+: text ∧
      ∃ front last, isSeparator last = true ∧
        (text.reverse.dropWhile fun c => !isSeparator c).reverse = front ++ [last] := by
  refine ⟨List.rdropWhile_prefix _ text, _, _, ?_, (List.dropLast_append_getLast given).symm⟩
  have last := List.rdropWhile_last_not (fun c => !isSeparator c) text given
  rwa [Bool.not_eq_true, Bool.not_eq_false'] at last

/-- **What the root of a glob is**: the working directory, a glob without special characters
or the directory that encloses it, or what a glob starts with up to a separator in front of
its first special character. -/
theorem root_forms (pattern : Text) :
    root pattern = here ∨
      (∀ c ∈ pattern, isSpecial c = false) ∧ (root pattern = ⟨pattern⟩ ∨
        (⟨pattern⟩ : Path).parent? = some (root pattern) ∧ (root pattern).written ≠ []) ∨
      ∃ front last, isSeparator last = true ∧ (root pattern).written = front ++ [last] ∧
        front ++ [last] <+: pattern ∧ ∀ c ∈ front ++ [last], isSpecial c = false := by
  unfold root
  dsimp only
  split
  · rename_i whole
    have plain : ∀ c ∈ pattern, isSpecial c = false := by
      intro c member
      simpa using List.takeWhile_eq_self_iff.mp whole c member
    split
    · exact Or.inr (Or.inl ⟨plain, Or.inl rfl⟩)
    · split
      · rename_i directory above
        split
        · exact Or.inl rfl
        · rename_i given
          exact Or.inr (Or.inl ⟨plain, Or.inr ⟨above, given⟩⟩)
      · exact Or.inl rfl
  · split
    · exact Or.inl rfl
    · rename_i given
      obtain ⟨shorter, front, last, separated, directory⟩ := upToSeparator_isPrefix _ given
      rw [directory] at shorter
      refine Or.inr (Or.inr ⟨front, last, separated, directory, ?_, fun c member => ?_⟩)
      · exact shorter.trans (List.takeWhile_prefix _)
      · simpa using List.mem_takeWhile_imp (shorter.subset member)

/-- **The root of a relative glob is relative.** -/
theorem isAbsolute_root {pattern : Text} (relative : (⟨pattern⟩ : Path).isAbsolute = false) :
    (root pattern).isAbsolute = false := by
  rcases root_forms pattern with
    isHere | ⟨_, itself | ⟨above, _⟩⟩ | ⟨front, last, _, written, starts, _⟩
  · rw [isHere]
    rfl
  · rwa [itself]
  · exact Path.isAbsolute_parent? relative above
  · rw [← written] at starts
    exact Path.isAbsolute_of_prefix starts relative

/-- **Where the root of a glob comes from**, if it has no backslash: it is the working directory,
or the glob starts with it as with a directory, or it is the glob itself. The characters that
it has in common with the glob stand for themselves. -/
theorem root_cases {pattern : Text} (unescaped : '\\' ∉ (root pattern).written) :
    root pattern = here ∨
      ((root pattern).written ≠ [] ∧ (root pattern).asDirectory <+: pattern ∧
        ∀ c ∈ (root pattern).asDirectory, isOrdinary c = true) ∨
      root pattern = ⟨pattern⟩ ∧ ∀ c ∈ pattern, isOrdinary c = true := by
  -- A separator that is put behind the root is no backslash either.
  have noEscape : '\\' ∉ (root pattern).asDirectory := by
    intro escape
    rcases Path.mem_asDirectory escape with written | slash
    · exact unescaped written
    · exact absurd slash (by decide)
  have ordinary {c : Char} (plain : isSpecial c = false)
      (member : c ∈ (root pattern).asDirectory) : isOrdinary c = true :=
    isOrdinary_iff.mpr ⟨plain, fun same => noEscape (same ▸ member)⟩
  rcases root_forms pattern with
    isHere | ⟨plain, itself | ⟨above, given⟩⟩ | ⟨front, last, separated, written, starts, plain⟩
  · exact Or.inl isHere
  · refine Or.inr (Or.inr ⟨itself, fun c member => ordinary (plain c member) ?_⟩)
    apply (root pattern).written_isPrefix_asDirectory.subset
    rwa [itself]
  · have starts := Path.asDirectory_parent?_isPrefix above given
    refine Or.inr (Or.inl ⟨given, starts, fun c member => ordinary (plain c ?_) member⟩)
    exact starts.subset member
  · have slash : last = '/' := by
      rw [isSeparator, Bool.or_eq_true, beq_iff_eq, beq_iff_eq] at separated
      refine separated.resolve_right fun backslash => unescaped ?_
      rw [written, backslash]
      exact List.mem_append_right front List.mem_cons_self
    have spelled : (root pattern).asDirectory = front ++ [last] := by
      rw [← written]
      refine if_pos (Or.inr ?_)
      rw [written, slash, List.getLast?_concat]
    have given : (root pattern).written ≠ [] := by
      rw [written]
      exact List.append_ne_nil_of_right_ne_nil front (List.cons_ne_nil _ _)
    refine Or.inr (Or.inl ⟨given, spelled ▸ starts, fun c member => ordinary (plain c ?_) member⟩)
    exact spelled ▸ member

/-! ## Matching -/

section Matching

variable {pattern : Text} {glob : Glob} {names : List Text}

/-- **A path of names that a glob matches goes through the root of the glob.** -/
theorem through_root (isRead : Globs.IsRead pattern glob)
    (unescaped : '\\' ∉ (root pattern).written) (proper : ∀ name ∈ names, Path.IsName name)
    (found : glob.isMatch (Path.ofNames false names) = true) :
    root pattern = here ∨
      ((root pattern).written ≠ [] ∧ ∃ above rest, rest ≠ [] ∧ names = above ++ rest ∧
        (root pattern).asDirectory = (Path.ofNames false above).asDirectory) ∨
      root pattern = Path.ofNames false names := by
  rcases root_cases unescaped with isHere | ⟨given, starts, ordinary⟩ | ⟨itself, ordinary⟩
  · exact Or.inl isHere
  · have matched := isPrefix_of_isMatch isRead found starts ordinary
    exact Or.inr (Or.inl ⟨given, Path.exists_above_of_asDirectory proper given matched⟩)
  · rw [itself, ← written_of_isMatch isRead found ordinary]
    exact Or.inr (Or.inr rfl)

/-- **The components of the root start every path of names that the glob matches**, unless the
root is the working directory. -/
theorem components_root_isPrefix (isRead : Globs.IsRead pattern glob)
    (unescaped : '\\' ∉ (root pattern).written) (proper : ∀ name ∈ names, Path.IsName name)
    (found : glob.isMatch (Path.ofNames false names) = true) :
    root pattern = here ∨
      (root pattern).components <+: (Path.ofNames false names).components := by
  rcases through_root isRead unescaped proper found with
    isHere | ⟨_, above, rest, _, rfl, spelled⟩ | itself
  · exact Or.inl isHere
  · have aboveProper := (List.forall_mem_append.mp proper).1
    rw [Path.components_eq_of_asDirectory spelled, Path.components_ofNames false aboveProper,
      Path.components_ofNames false proper, List.map_append]
    exact Or.inr (List.prefix_append _ _)
  · rw [itself]
    exact Or.inr (List.prefix_refl _)

end Matching

end StateSheet.Glob
