import StateSheet.IgnoreFile
import StateSheet.Repository

/-!
# Walks

The files that a walk from some root comes to. A walk enters hidden
directories, but no entry that an ignore file decides against. The rules of
`.ignore` files always count. Those of `.gitignore` files, of the exclude file
of a repository, and of the file with what the user excludes from all
repositories count if the walk respects them, and inside a repository only. The
first two kinds must also stand within the repository.

Of several ignore files of one kind, the one nearest to the entry that has an
applicable rule decides, and the kinds are asked in the order above. The ignore
files of the directories around the root are asked as well. The root itself is
never ignored.

Rules concern the path of an entry as seen from the directory of their file,
and that is a matter of texts: the walked path, which starts with the root as
it was written, loses the text of the directory's path. The directories around
the root see the entry by its absolute path. The user's rules concern the path as
seen from the working directory.
-/

set_option autoImplicit false

namespace StateSheet

/-! ## The ignore files of a directory -/

/-- The ignore files of one directory. -/
structure IgnoreLayer where
  /-- The path of the directory. -/
  directory : Path
  general : IgnoreRules
  repository : IgnoreRules
  excluded : IgnoreRules
  /-- Is the directory the top of a repository? -/
  isRepository : Bool

namespace IgnoreLayer

/-- The rules of the file with a name among some entries. -/
def rulesOf (name : Text) (entries : List (Text × FileTree)) : IgnoreRules :=
  match FileTree.child? name entries with
  | some (.file content) => .ofLines (FileTree.textLines content)
  | _ => []

/-- The ignore files of the directory with the given path and entries. -/
def of (workspace : Workspace) (respectsRepository : Bool) (path : Path)
    (entries : List (Text × FileTree)) : IgnoreLayer where
  directory := path.withoutDot
  general := rulesOf ".ignore".toList entries
  repository := if respectsRepository then rulesOf ".gitignore".toList entries else []
  excluded :=
    if respectsRepository then .ofLines (Repository.excludeLines workspace entries) else []
  isRepository := respectsRepository && Repository.isTop entries

/-- What the user of a workspace excludes, as if an exclude file in the working
directory said it. -/
def ofUser (workspace : Workspace) (respectsRepository : Bool) : IgnoreLayer where
  directory := Path.ofPlace workspace.directory
  general := []
  repository := []
  excluded :=
    if respectsRepository then .ofLines (Repository.userExcludeLines workspace) else []
  isRepository := false

/-- Does a directory say nothing about the entries below it? -/
def isSilent (layer : IgnoreLayer) : Bool :=
  layer.general.isEmpty && layer.repository.isEmpty && layer.excluded.isEmpty &&
    !layer.isRepository

/-- A path as the directory sees it. Names without a separator, and all paths if
the directory is where the walk is, are seen as they are. -/
def view (layer : IgnoreLayer) (path : Path) : Path :=
  let path := path.withoutDot
  if layer.directory.components = [.current] || !path.written.contains '/' then path
  else layer.directory.textBehind path

end IgnoreLayer

/-! ## Ignored entries -/

/-- A list up to the first member that a test holds of, which there has to be. -/
def throughFirst {α : Type} (test : α → Bool) : List α → List α
  | [] => []
  | a :: rest =>
      if test a then [a]
      else
        match throughFirst test rest with
        | [] => []
        | more => a :: more

/-- An entry as the ignore files of a directory see it. -/
structure IgnoreView where
  layer : IgnoreLayer
  /-- The bytes of the path from the directory. -/
  path : List UInt8
  isDirectory : Bool

/-- What the ignore files of a directory see of an entry. -/
def IgnoreView.of (isDirectory : Bool) (path : Path) (layer : IgnoreLayer) : IgnoreView :=
  { layer, path := (layer.view path).written.bytes, isDirectory }

/-- What the rules of the nearest of some directories that has an applicable
one decide. -/
def nearestVerdict? (rules : IgnoreLayer → IgnoreRules) (views : List IgnoreView) :
    Option Verdict :=
  views.findSome? fun view => (rules view.layer).verdict? view.path view.isDirectory

/-- Is an entry ignored by the directories around it, the nearest first, or by its
user? What the user excludes counts inside a repository only, and last. -/
def isIgnored (views : List IgnoreView) (user : IgnoreView) : Bool :=
  let inside := throughFirst (·.layer.isRepository) views
  let users := if inside.isEmpty then [] else [user]
  let verdict? :=
    nearestVerdict? (·.general) views <|> nearestVerdict? (·.repository) inside <|>
      nearestVerdict? (·.excluded) inside <|> nearestVerdict? (·.excluded) users
  verdict? == some .ignored

/-! ## Walking -/

/-- What stays the same during a walk. -/
structure WalkScope where
  workspace : Workspace
  respectsRepository : Bool
  /-- The root as it was written. -/
  root : Path
  /-- The absolute path of the root. -/
  absoluteRoot : Path
  /-- The ignore files of the directories around the root, the nearest first. -/
  outer : List IgnoreLayer
  /-- What the user excludes from all repositories. -/
  user : IgnoreLayer

namespace WalkScope

/-- The ignore files that concern the entries of a directory of the walk, given
those that concern the directory. A directory that says nothing is left out. -/
def enter (scope : WalkScope) (layers : List IgnoreLayer) (path : Path)
    (entries : List (Text × FileTree)) : List IgnoreLayer :=
  let layer := IgnoreLayer.of scope.workspace scope.respectsRepository path entries
  if layer.isSilent then layers else layer :: layers

/-- The absolute path of an entry. -/
def absolute (scope : WalkScope) (path : Path) : Path :=
  scope.absoluteRoot.append
    (if scope.root.components = [.current] then path else scope.root.withoutDot.textBehind path)

/-- An entry as the directories around it see it, those of the walk first. -/
def views (scope : WalkScope) (layers : List IgnoreLayer) (path : Path) (isDirectory : Bool) :
    List IgnoreView :=
  let path := path.withoutDot
  layers.map (.of isDirectory path) ++ scope.outer.map (.of isDirectory (scope.absolute path))

/-- Does a walk pass over an entry of a directory whose ignore files, and those
around it, are given? -/
def ignores (scope : WalkScope) (layers : List IgnoreLayer) (path : Path) (isDirectory : Bool) :
    Bool :=
  isIgnored (scope.views layers path isDirectory) (.of isDirectory path.withoutDot scope.user)

end WalkScope

mutual
/-- The paths of the files that a walk comes to from an entry that is not
ignored. `layers` belong to the directories of the walk around it. -/
def walkFrom (scope : WalkScope) (layers : List IgnoreLayer) (path : Path) :
    FileTree → List Path
  | .file _ => [path]
  | .directory entries => walkEntries scope (scope.enter layers path entries) path entries

/-- The paths of the files that a walk comes to from the entries of a
directory. -/
def walkEntries (scope : WalkScope) (layers : List IgnoreLayer) (path : Path) :
    List (Text × FileTree) → List Path
  | [] => []
  | (name, node) :: rest =>
      let here := path.join name
      (if scope.ignores layers here node.content?.isNone then []
       else walkFrom scope layers here node) ++ walkEntries scope layers path rest
end

/-- The ignore files of the directories around a place, the nearest first.
Directories that say nothing are left out. -/
def outerLayers (workspace : Workspace) (respectsRepository : Bool) (place : Place) :
    List IgnoreLayer :=
  let layers := (List.range place.length).filterMap fun depth =>
    let around := place.take depth
    (workspace.tree.at? around).map fun node =>
      IgnoreLayer.of workspace respectsRepository (Path.ofPlace around) node.entries
  (layers.filter fun layer => !layer.isSilent).reverse

/-- Does a root stand for the standard input, which holds no files? -/
def isStandardInput (root : Path) : Bool := root.components = [.entry ['-']]

/-- The paths of the files that a walk from a root comes to. A root that does
not exist has none. -/
def walk (workspace : Workspace) (respectsRepository : Bool) (root : Path) : List Path :=
  if isStandardInput root then []
  else
    match workspace.resolve root with
    | .error _ => []
    | .ok place =>
        match workspace.tree.at? place with
        | none => []
        | some node =>
            let scope : WalkScope :=
              { workspace, respectsRepository, root
                absoluteRoot := Path.ofPlace place
                outer := outerLayers workspace respectsRepository place
                user := .ofUser workspace respectsRepository }
            walkFrom scope [] root node

end StateSheet
