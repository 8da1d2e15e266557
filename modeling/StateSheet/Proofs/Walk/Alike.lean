import Mathlib.Data.List.Forall2
import StateSheet.Proofs.Walk

/-!
# Walks that come to the same paths

Where a walk goes depends on the texts of paths only through what the ignore files
see of them. Views of an entry that show it by the same path to the same rules decide
alike (`isIgnored_congr`), so walks inside directories that show all entries below a root
alike pass over the same entries (`WalkScope.Alike.ignores`) and come to the same files
(`walkFrom_congr`, `walkEntries_congr`).

So roots that continue to the same paths, and that resolve alike, are walked alike as
long as the ignore files see the paths below them alike (`walk_congr`).
-/

set_option autoImplicit false

namespace StateSheet

/-! ## Views -/

/-- Do two directories have the same ignore files? -/
structure IgnoreLayer.SameRules (first second : IgnoreLayer) : Prop where
  general : first.general = second.general
  repository : first.repository = second.repository
  excluded : first.excluded = second.excluded
  isRepository : first.isRepository = second.isRepository

/-- Do two views show an entry by the same path to the same rules? -/
structure IgnoreView.Alike (first second : IgnoreView) : Prop where
  rules : first.layer.SameRules second.layer
  path : first.path = second.path
  isDirectory : first.isDirectory = second.isDirectory

theorem throughFirst_forall₂ {α : Type} {relation : α → α → Prop} (test : α → Bool)
    (respects : ∀ {a b}, relation a b → test a = test b) {first second : List α}
    (paired : List.Forall₂ relation first second) :
    List.Forall₂ relation (throughFirst test first) (throughFirst test second) := by
  induction paired with
  | nil => exact .nil
  | @cons a b rest otherRest related _ ih =>
      rw [throughFirst, throughFirst, ← respects related]
      cases test a with
      | true => exact .cons related .nil
      | false =>
          simp only [Bool.false_eq_true, if_false]
          generalize throughFirst test rest = more at ih
          generalize throughFirst test otherRest = otherMore at ih
          cases ih with
          | nil => exact .nil
          | cons next more => exact .cons related (.cons next more)

/-- Alike views have the same nearest verdict. -/
theorem nearestVerdict?_congr {rules : IgnoreLayer → IgnoreRules}
    (respects : ∀ {first second : IgnoreLayer}, first.SameRules second →
      rules first = rules second) {first second : List IgnoreView}
    (alike : List.Forall₂ IgnoreView.Alike first second) :
    nearestVerdict? rules first = nearestVerdict? rules second := by
  unfold nearestVerdict?
  induction alike with
  | nil => rfl
  | cons same _ ih =>
      rw [List.findSome?_cons, List.findSome?_cons, respects same.rules, same.path,
        same.isDirectory, ih]

/-- **Alike views decide alike.** -/
theorem isIgnored_congr {first second : List IgnoreView} (user : IgnoreView)
    (alike : List.Forall₂ IgnoreView.Alike first second) :
    isIgnored first user = isIgnored second user := by
  have inside := throughFirst_forall₂ (·.layer.isRepository)
    (fun same => same.rules.isRepository) alike
  have sameInside : (throughFirst (·.layer.isRepository) first).isEmpty =
      (throughFirst (·.layer.isRepository) second).isEmpty := by
    rw [Bool.eq_iff_iff, List.isEmpty_iff_length_eq_zero, List.isEmpty_iff_length_eq_zero,
      inside.length_eq]
  unfold isIgnored
  dsimp only
  rw [nearestVerdict?_congr (·.general) alike, nearestVerdict?_congr (·.repository) inside,
    nearestVerdict?_congr (·.excluded) inside, sameInside]

/-! ## Directories -/

/-- Do names lead from a root to a path? -/
def Path.Below (root path : Path) : Prop :=
  ∃ names, names ≠ [] ∧ (∀ name ∈ names, IsName name) ∧ path = root.joinAll names

theorem Path.below_join (root : Path) {name : Text} (isName : IsName name) :
    root.Below (root.join name) :=
  ⟨[name], List.cons_ne_nil _ _, List.forall_mem_singleton.mpr isName, rfl⟩

theorem Path.Below.join {root path : Path} (below : root.Below path) {name : Text}
    (isName : IsName name) : root.Below (path.join name) := by
  obtain ⟨names, _, proper, rfl⟩ := below
  refine ⟨names ++ [name], List.append_ne_nil_of_right_ne_nil _ (List.cons_ne_nil _ _), ?_, ?_⟩
  · exact List.forall_mem_append.mpr ⟨proper, List.forall_mem_singleton.mpr isName⟩
  · rw [joinAll, joinAll, List.foldl_concat]

/-- Do two directories show all entries below a root to the same rules, by the same
paths? -/
structure IgnoreLayer.Alike (root : Path) (first second : IgnoreLayer) : Prop where
  rules : first.SameRules second
  view : ∀ path, root.Below path → first.view path.withoutDot = second.view path.withoutDot

/-- Are two walks of one workspace inside the same directories, which see all entries
below a root by the same paths? -/
structure WalkScope.Alike (root : Path) (first second : WalkScope) : Prop where
  workspace : first.workspace = second.workspace
  respectsRepository : first.respectsRepository = second.respectsRepository
  outer : first.outer = second.outer
  absolute : ∀ path, root.Below path →
    first.absolute path.withoutDot = second.absolute path.withoutDot
  user : first.user = second.user

section

variable {root : Path} {first second : WalkScope} {layers others : List IgnoreLayer}

/-- The directories around an entry below a root see it alike. -/
theorem WalkScope.Alike.views (alike : first.Alike root second)
    (layersAlike : List.Forall₂ (IgnoreLayer.Alike root) layers others) {path : Path}
    (below : root.Below path) (isDirectory : Bool) :
    List.Forall₂ IgnoreView.Alike (first.views layers path isDirectory)
      (second.views others path isDirectory) := by
  unfold WalkScope.views
  dsimp only
  rw [← alike.outer, ← alike.absolute path below]
  refine List.rel_append ?_ ?_
  · rw [List.forall₂_map_left_iff, List.forall₂_map_right_iff]
    refine layersAlike.imp fun layer other same => ⟨same.rules, ?_, rfl⟩
    exact congrArg (fun seen => seen.written.bytes) (same.view path below)
  · exact List.forall₂_same.mpr fun _ _ => ⟨⟨rfl, rfl, rfl, rfl⟩, rfl, rfl⟩

/-- Alike walks pass over the same entries below a root. -/
theorem WalkScope.Alike.ignores (alike : first.Alike root second)
    (layersAlike : List.Forall₂ (IgnoreLayer.Alike root) layers others) {path : Path}
    (below : root.Below path) (isDirectory : Bool) :
    first.ignores layers path isDirectory = second.ignores others path isDirectory := by
  unfold WalkScope.ignores
  rw [← alike.user]
  exact isIgnored_congr _ (alike.views layersAlike below isDirectory)

/-- Alike walks stay alike when they enter one directory, also if it is the root and
they spell its path in two ways. -/
theorem WalkScope.Alike.enter (alike : first.Alike root second)
    (layersAlike : List.Forall₂ (IgnoreLayer.Alike root) layers others) (path other : Path)
    (entries : List (Text × FileTree))
    (sameView : ∀ below, root.Below below →
      (IgnoreLayer.of first.workspace first.respectsRepository path entries).view
          below.withoutDot =
        (IgnoreLayer.of first.workspace first.respectsRepository other entries).view
          below.withoutDot) :
    List.Forall₂ (IgnoreLayer.Alike root) (first.enter layers path entries)
      (second.enter others other entries) := by
  unfold WalkScope.enter
  rw [← alike.workspace, ← alike.respectsRepository]
  have silentAlike :
      (IgnoreLayer.of first.workspace first.respectsRepository path entries).isSilent =
        (IgnoreLayer.of first.workspace first.respectsRepository other entries).isSilent := rfl
  dsimp only
  rw [← silentAlike]
  split
  · exact layersAlike
  · exact .cons ⟨⟨rfl, rfl, rfl, rfl⟩, sameView⟩ layersAlike

end

/-! ## Walks -/

/-- A walk comes to nothing where there are no files. -/
theorem walkFrom_eq_nil (scope : WalkScope) (layers : List IgnoreLayer) (path : Path)
    {node : FileTree} (empty : node.files = []) : walkFrom scope layers path node = [] := by
  rw [List.eq_nil_iff_forall_not_mem]
  intro found member
  obtain ⟨names, content, isFile, _⟩ := mem_walkFrom scope layers path node member
  rw [empty] at isFile
  cases isFile

mutual
/-- Alike walks come to the same paths from an entry below the root. -/
theorem walkFrom_congr {root : Path} {first second : WalkScope} (alike : first.Alike root second) :
    ∀ {layers others : List IgnoreLayer} {path : Path} (node : FileTree),
      List.Forall₂ (IgnoreLayer.Alike root) layers others → root.Below path →
        node.WellNamed → walkFrom first layers path node = walkFrom second others path node
  | _, _, _, .file _, _, _, _ => by rw [walkFrom, walkFrom]
  | _, _, path, .directory entries, layersAlike, below, wellNamed => by
      rw [walkFrom, walkFrom]
      have entered := alike.enter layersAlike path path entries fun _ _ => rfl
      exact walkEntries_congr alike entries entered (fun _ _ => rfl)
        (fun _ isName => below.join isName) wellNamed

/-- Alike walks come to the same paths from the entries of a directory at or below the
root. -/
theorem walkEntries_congr {root : Path} {first second : WalkScope}
    (alike : first.Alike root second) :
    ∀ {layers others : List IgnoreLayer} {path other : Path} (entries : List (Text × FileTree)),
      List.Forall₂ (IgnoreLayer.Alike root) layers others →
        (∀ name, Path.IsName name → path.join name = other.join name) →
          (∀ name, Path.IsName name → root.Below (path.join name)) →
            (FileTree.directory entries).WellNamed →
              walkEntries first layers path entries = walkEntries second others other entries
  | _, _, _, _, [], _, _, _, _ => by rw [walkEntries, walkEntries]
  | layers, others, path, other, (name, node) :: rest, layersAlike, same, below, wellNamed => by
      obtain ⟨named, nodeWellNamed, restWellNamed⟩ := wellNamed.of_cons
      rw [walkEntries, walkEntries,
        walkEntries_congr alike rest layersAlike same below restWellNamed]
      congr 1
      by_cases empty : node.files = []
      · rw [walkFrom_eq_nil first layers _ empty, walkFrom_eq_nil second others _ empty,
          ite_self, ite_self]
      · have isName := named empty
        rw [← same name isName,
          alike.ignores layersAlike (below name isName) node.content?.isNone,
          walkFrom_congr alike node layersAlike (below name isName) nodeWellNamed]
end

/-- Paths of one file that are written the same as directories are the same. -/
theorem eq_of_resolve_file {workspace : Workspace} {first second : Path} {place : Place}
    (firstResolved : workspace.resolve first = .ok place)
    (secondResolved : workspace.resolve second = .ok place) {content : ByteArray}
    (isFile : workspace.tree.at? place = some (.file content))
    (sameDirectory : first.asDirectory = second.asDirectory) : first = second := by
  have asWritten : ∀ {path : Path}, workspace.resolve path = .ok place →
      path.asDirectory = path.written ++ ['/'] := by
    intro path resolved
    have given := Workspace.written_ne_nil_of_check (Workspace.resolve_eq_ok_iff.mp resolved).1
    have unseparated := Workspace.unseparated_of_resolve resolved isFile
    rw [Path.asDirectory, if_neg (not_or.mpr ⟨given, unseparated⟩)]
  rw [asWritten firstResolved, asWritten secondResolved, List.append_cancel_right_eq]
    at sameDirectory
  exact congrArg Path.mk sameDirectory

section

variable {workspace : Workspace} {first second : Path}

/-- Do two roots, none of which starts with a dot, lose the same from the paths below
the first? -/
structure Path.BehindAlike (first second : Path) : Prop where
  firstPlain : first.withoutDot = first
  secondPlain : second.withoutDot = second
  belowPlain : ∀ path, first.Below path → path.withoutDot = path
  behind : ∀ path, first.Below path → first.textBehind path = second.textBehind path

/-- Two spellings of one directory are walked alike. -/
theorem walkFrom_root_congr {entries : List (Text × FileTree)}
    (wellNamed : (FileTree.directory entries).WellNamed) (respectsRepository : Bool)
    (absoluteRoot : Path) (outer : List IgnoreLayer) (user : IgnoreLayer)
    (sameComponents : first.components = second.components)
    (sameDirectory : first.asDirectory = second.asDirectory)
    (alike : first.BehindAlike second) :
    walkFrom { workspace, respectsRepository, root := first, absoluteRoot, outer, user } []
        first (.directory entries) =
      walkFrom { workspace, respectsRepository, root := second, absoluteRoot, outer, user } []
        second (.directory entries) := by
  have sameView : ∀ path, first.Below path →
      (IgnoreLayer.of workspace respectsRepository first entries).view path.withoutDot =
        (IgnoreLayer.of workspace respectsRepository second entries).view path.withoutDot := by
    intro path below
    simp only [IgnoreLayer.view, IgnoreLayer.of, alike.belowPlain path below, alike.firstPlain,
      alike.secondPlain, sameComponents, alike.behind path below]
  let scope (root : Path) : WalkScope :=
    { workspace, respectsRepository, root, absoluteRoot, outer, user }
  have scopesAlike : (scope first).Alike first (scope second) := by
    refine ⟨rfl, rfl, rfl, fun path below => ?_, rfl⟩
    simp only [WalkScope.absolute, scope, alike.belowPlain path below, alike.firstPlain,
      alike.secondPlain, sameComponents, alike.behind path below]
  have entered := scopesAlike.enter .nil first second entries sameView
  rw [walkFrom, walkFrom]
  exact walkEntries_congr scopesAlike entries entered
    (fun name _ => Path.join_eq_of_asDirectory sameDirectory name)
    (fun _ isName => first.below_join isName) wellNamed

/-- **Roots that are written the same as directories are walked alike**, if they lead
the same way and the ignore files see the paths below both alike. -/
theorem walk_congr (wellNamed : workspace.tree.WellNamed) (respectsRepository : Bool)
    (sameComponents : first.components = second.components)
    (sameDirectory : first.asDirectory = second.asDirectory)
    (sameResolved : workspace.resolve first = workspace.resolve second)
    (alike : first.BehindAlike second) :
    walk workspace respectsRepository first = walk workspace respectsRepository second := by
  unfold walk isStandardInput
  rw [← sameComponents, ← sameResolved]
  cases resolved : workspace.resolve first with
  | error fault => rfl
  | ok place =>
      dsimp only
      cases present : workspace.tree.at? place with
      | none => rfl
      | some node =>
          dsimp only
          congr 1
          cases node with
          | file content =>
              rw [eq_of_resolve_file resolved (sameResolved.symm.trans resolved) present
                sameDirectory]
          | directory entries =>
              exact walkFrom_root_congr (wellNamed.of_at? present) respectsRepository _ _ _
                sameComponents sameDirectory alike

end

end StateSheet
