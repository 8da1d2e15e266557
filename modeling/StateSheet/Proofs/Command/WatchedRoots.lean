import StateSheet.Command.Watching
import StateSheet.Proofs.Scan.Once
import StateSheet.Proofs.Text.Distinct

/-!
# Watched roots

Watched are the roots of the input globs and of the settings file, each as it is spelled first,
in the order in which they are met (`Watching.firstsOf_roots`). A scan makes the roots of the
input globs distinct on its own, and in another order. But both keep a root with the components
of every one that is given (`Watching.exists_mem_roots`), and a walk comes to paths that go on
from the components of its root. So whatever a scan collects lies at or below a watched root
(`watching_has_no_blind_spot`).
-/

set_option autoImplicit false

namespace StateSheet

namespace Watching

/-- The paths that are to be watched: the roots of all input globs, and that of the settings
file. -/
def sources (inputs : List Text) (config? : Option Text) : List Path :=
  (inputs ++ config?.toList).map Glob.root

variable {inputs : List Text} {config? : Option Text}

/-- The components of the watched roots are those of the sources, as they are first met. -/
theorem firstsOf_roots (inputs : List Text) (config? : Option Text) :
    FirstsOf ((sources inputs config?).map Path.components) (fun _ => True)
      ((roots inputs config?).map Path.components) :=
  firstsOf_distinctBy Path.components (sources inputs config?)

/-- Every source is watched, in some spelling. -/
theorem exists_mem_roots {source : Path} (member : source ∈ sources inputs config?) :
    ∃ root ∈ roots inputs config?, root.components = source.components := by
  have kept := (key_mem_distinctBy_iff Path.components (sources inputs config?)
    source.components).mpr (List.mem_map_of_mem member)
  exact List.mem_map.mp kept

/-- A watched root is spelled as the first source with its components. -/
theorem find?_sources {root : Path} (watched : root ∈ roots inputs config?) :
    (sources inputs config?).find? (fun source => source.components = root.components) =
      some root :=
  find?_of_mem_distinctBy watched

theorem root_mem_sources (config? : Option Text) {input : Text} (member : input ∈ inputs) :
    Glob.root input ∈ sources inputs config? :=
  List.mem_map_of_mem (List.mem_append_left _ member)

end Watching

/-- **Watching has no blind spot.** No two watched roots have the same components. They are the
roots of the input globs and of the settings file, in the order in which these are met and as
they are spelled first, and none of these is left out. Whatever a scan of the inputs collects,
with whatever ignore globs, lies at or below one of them, component by component. -/
theorem watching_has_no_blind_spot {workspace : Workspace} (wellNamed : workspace.tree.WellNamed)
    (inputs : List Text) (config? : Option Text) :
    let roots := Watching.roots inputs config?
    let sources := Watching.sources inputs config?
    FirstsOf (sources.map Path.components) (fun _ => True) (roots.map Path.components) ∧
      (∀ root ∈ roots,
        sources.find? (fun source => source.components = root.components) = some root) ∧
      (∀ source ∈ sources, ∃ root ∈ roots, root.components = source.components) ∧
      ∀ ignored paths, Collects workspace inputs ignored paths →
        ∀ path ∈ paths, ∃ root ∈ roots, root.components <+: path.components := by
  intro roots sources
  refine ⟨Watching.firstsOf_roots inputs config?, fun root => Watching.find?_sources,
    fun source => Watching.exists_mem_roots, ?_⟩
  rintro ignored paths ⟨ignoreGlobs, _, selected⟩ path kept
  obtain ⟨input, member, _, names, _, _, _, below⟩ :=
    exists_names_of_selected wellNamed selected kept
  obtain ⟨root, watched, same⟩ :=
    Watching.exists_mem_roots (Watching.root_mem_sources config? member)
  refine ⟨root, watched, names.map .entry, ?_⟩
  rw [same, below]

/-- A file without an extension that is its own root, a root below another one and spelled with a
doubled separator, and a settings file in a directory that is watched already. -/
theorem watching_has_no_blind_spot_spelled_apart :
    let workspace : Workspace :=
      { tree := .directory [("src".toList, .directory
          [("a.html".toList, .file (FileTree.encode "class='ui-open:block'".toList)),
            ("page".toList, .file (FileTree.encode "class='ui-busy:grid'".toList)),
            ("sub".toList, .directory
              [("b.html".toList, .file (FileTree.encode "class='ui-shut:flex'".toList))])])] }
    let inputs := ["src/*.html".toList, "src/page".toList, "src//sub/b.html".toList]
    let roots := Watching.roots inputs (some "src/states.toml".toList)
    roots = [⟨"src/".toList⟩, ⟨"src/page".toList⟩, ⟨"src//sub".toList⟩] ∧
      ∃ paths, Collects workspace inputs [] paths ∧ paths.length = 3 ∧
        ∀ path ∈ paths, ∃ root ∈ roots, root.components <+: path.components := by
  intro workspace inputs roots
  have wellNamed : workspace.tree.WellNamed := by decide +kernel
  have collects : Collects workspace inputs []
      [⟨"src/a.html".toList⟩, ⟨"src/sub/b.html".toList⟩, ⟨"src/page".toList⟩] :=
    .of_ascending rfl (by decide) (by decide +kernel)
  obtain ⟨_, _, _, covered⟩ :=
    watching_has_no_blind_spot wellNamed inputs (some "src/states.toml".toList)
  exact ⟨by decide +kernel, _, collects, rfl, covered [] _ collects⟩

end StateSheet
