import StateSheet.Proofs.Glob.Root
import StateSheet.Proofs.Scan.Selection
import StateSheet.Proofs.Walk.Reach

/-!
# Matches below the root of a glob

The root from which the files of a glob are looked for leads to all of them: every path of
names that the glob matches is the root continued by names, and a walk from the root comes to
every such file that no ignore file hides (`matches_lie_below_root`).

The root is cut out of the text of the glob, where a backslash counts as a separator. In the
glob it takes away the meaning of the next character, and a root that ends in it leads nowhere
(`escaped_match_lies_elsewhere`).
-/

set_option autoImplicit false

namespace StateSheet

variable {pattern : Text} {glob : Glob} {names : List Text}

/-- A glob, and what it is asked, are known from evaluating both. -/
theorem Globs.IsRead.of_toOption {judge : Glob → Bool}
    (evaluated : (Globs.read [pattern]).toOption.map (List.map judge) = some [true]) :
    ∃ glob, Globs.IsRead pattern glob ∧ judge glob = true := by
  obtain ⟨globs, valid, judged⟩ := Option.map_eq_some_iff.mp evaluated
  obtain ⟨glob, rfl, holds⟩ := List.map_eq_singleton_iff.mp judged
  exact ⟨glob, eq_ok_of_toOption valid, holds⟩

/-- **The root of a glob leads to the files that the glob matches**: names lead from its place
to the file, and the path that they continue it to is the matched one, as it is or as seen
from the root. -/
theorem root_leads_to_match (isRead : Globs.IsRead pattern glob)
    (unescaped : '\\' ∉ (Glob.root pattern).written) (proper : ∀ name ∈ names, Path.IsName name)
    (found : glob.isMatch (Path.ofNames false names) = true) {workspace : Workspace}
    {place : Place} (resolved : workspace.resolve (Path.ofNames false names) = .ok place) :
    ∃ base rest, workspace.resolve (Glob.root pattern) = .ok base ∧ base ++ rest = place ∧
      ((Glob.root pattern).relativeTo? ((Glob.root pattern).joinAll rest) =
          some (Path.ofNames false names) ∨
        (Glob.root pattern).joinAll rest = Path.ofNames false names) := by
  rcases Glob.through_root isRead unescaped proper found with
    isHere | ⟨given, above, rest, present, rfl, spelled⟩ | itself
  · have written := Workspace.written_ne_nil_of_check (Workspace.resolve_eq_ok_iff.mp resolved).1
    have present : names ≠ [] := by
      rintro rfl
      exact written rfl
    obtain ⟨first, more, rfl⟩ := List.exists_cons_of_ne_nil present
    have relative : (Path.ofNames false (first :: more)).isAbsolute = false :=
      Path.isAbsolute_of_pieces (Path.pieces_ofNames false proper present)
        (proper first List.mem_cons_self).given
    have led := Workspace.place_of_resolve resolved
    rw [Path.place_ofNames workspace.directory false proper] at led
    rw [isHere]
    exact ⟨_, _, Workspace.resolve_here relative resolved, led.symm,
      Or.inl (Path.relativeTo?_here proper present)⟩
  · obtain ⟨aboveProper, restProper⟩ := List.forall_mem_append.mp proper
    have continued := Path.joinAll_eq_ofNames aboveProper spelled restProper present
    rw [← continued] at resolved
    obtain ⟨base, reached, led⟩ := Workspace.resolve_of_joinAll given restProper resolved
    exact ⟨base, rest, reached, led.symm, Or.inr continued⟩
  · rw [itself]
    exact ⟨place, [], resolved, List.append_nil place, Or.inr rfl⟩

/-- **What a glob matches lies below its root.** Every path of names that the glob matches has
the components of the root in front, unless the root is the working directory. Names lead
from the root to every file at such a path, and the walk from the root comes to the file and
finds it matched, unless an ignore file hides it. This is so for roots without a backslash,
and for walks from a root that does not stand for the standard input. -/
theorem matches_lie_below_root (isRead : Globs.IsRead pattern glob)
    (unescaped : '\\' ∉ (Glob.root pattern).written) (proper : ∀ name ∈ names, Path.IsName name)
    (found : glob.isMatch (Path.ofNames false names) = true) :
    let root := Glob.root pattern
    (root = Glob.here ∨ root.components <+: (Path.ofNames false names).components) ∧
      ∀ (workspace : Workspace) (content : ByteArray),
        workspace.find (Path.ofNames false names) = .ok (.file content) →
          isStandardInput root = false →
            ∃ base rest, workspace.resolve root = .ok base ∧
              base ++ rest = workspace.directory ++ names ∧ ∀ respectsRepository,
                walkHides workspace respectsRepository root base rest = false →
                  root.joinAll rest ∈ walk workspace respectsRepository root ∧
                    matchesFrom root [glob] (root.joinAll rest) = true := by
  intro root
  refine ⟨Glob.components_root_isPrefix isRead unescaped proper found, ?_⟩
  intro workspace content present given
  obtain ⟨place, resolved, isFile⟩ := Workspace.find_eq_ok_iff.mp present
  obtain ⟨base, rest, reached, led, view⟩ :=
    root_leads_to_match isRead unescaped proper found resolved
  have samePlace := Workspace.place_of_resolve resolved
  rw [Path.place_ofNames workspace.directory false proper] at samePlace
  refine ⟨base, rest, reached, led.trans samePlace, ?_⟩
  intro respectsRepository kept
  rw [← led] at isFile
  have matched : Globs.isMatch [glob] (Path.ofNames false names) = true := by
    rw [Globs.isMatch, List.any_cons, found, Bool.true_or]
  exact ⟨joinAll_mem_walk given reached isFile kept, matchesFrom_of_view view matched⟩

/-- A page in a directory below the one that the glob starts with, next to a page that an
ignore file hides. -/
theorem matches_lie_below_root_nested :
    let pattern := "pages/**/*.html".toList
    let names := ["pages".toList, "docs".toList, "a.html".toList]
    let workspace : Workspace :=
      { tree := .directory [("pages".toList, .directory
          [(".ignore".toList, .file (FileTree.encode "draft*".toList)),
            ("docs".toList, .directory [("a.html".toList, .file (FileTree.encode [])),
              ("draft.html".toList, .file (FileTree.encode []))])])] }
    (Glob.root pattern).components <+: (Path.ofNames false names).components ∧
      Path.ofNames false names ∈ walk workspace true (Glob.root pattern) := by
  intro pattern names workspace
  obtain ⟨glob, isRead, found⟩ : ∃ glob, Globs.IsRead pattern glob ∧
      glob.isMatch (Path.ofNames false names) = true :=
    Globs.IsRead.of_toOption (by decide +kernel)
  obtain ⟨starts, reaches⟩ :=
    matches_lie_below_root isRead (by decide) (by decide) found
  have notHere : Glob.root pattern ≠ Glob.here := by decide
  obtain ⟨base, rest, resolved, led, reached⟩ :=
    reaches workspace (FileTree.encode []) rfl (by decide)
  have expected : (workspace.resolve (Glob.root pattern)).toOption = some ["pages".toList] := by
    decide +kernel
  cases resolved.symm.trans (eq_ok_of_toOption expected)
  have below : rest = ["docs".toList, "a.html".toList] := List.append_cancel_left led
  subst below
  exact ⟨starts.resolve_left notHere, (reached true (by decide +kernel)).1⟩

/-- **Matches lie elsewhere if the root ends in an escape, or is read as the standard input.**
A glob for a page with brackets in its name starts with a directory, but its root goes on with
the backslash in front of the bracket, and there is no such directory. A directory with a
hyphen for a name is a root that no walk looks into. Both pages are found from the working
directory. -/
theorem escaped_match_lies_elsewhere :
    let page : FileTree := .file (FileTree.encode "<p class=\"ui-open:block\">".toList)
    let escaped := "pages/\\[id].html".toList
    let names := ["pages".toList, "[id].html".toList]
    let hyphen := "-/*.html".toList
    let workspace : Workspace :=
      { tree := .directory [("pages".toList, .directory [("[id].html".toList, page)]),
          ("-".toList, .directory [("a.html".toList, page)])] }
    (∀ name ∈ names, Path.IsName name) ∧
      (∃ glob, Globs.IsRead escaped glob ∧ glob.isMatch (Path.ofNames false names) = true) ∧
      Glob.root escaped ≠ Glob.here ∧
      ¬ (Glob.root escaped).components <+: (Path.ofNames false names).components ∧
      ∀ pattern ∈ [escaped, hyphen],
        (Findings.ofWalk workspace {} [pattern] []).toOption =
            some ⟨["ui-open:block".toList], 1⟩ ∧
          (Findings.ofGlobs workspace [pattern] []).toOption = some ⟨[], 0⟩ := by
  intro page escaped names hyphen workspace
  refine ⟨by decide, Globs.IsRead.of_toOption (by decide +kernel), by decide, by decide, ?_⟩
  decide +kernel

end StateSheet
