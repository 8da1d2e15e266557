import StateSheet.Command.Arguments
import StateSheet.Command.Rebuilding
import StateSheet.Command.Sources

/-!
# The program

Reads the arguments, takes from the computer the part of its files that the
command depends on, runs the command on that part, and carries out what came
of it: prints, writes the files that changed, and reports notices and faults.
Everything in between is a function of the library.
-/

set_option autoImplicit false

namespace StateSheet

/-! ## Taking in files -/

/-- The place of an absolute path. -/
def placeOf (written : String) : Place := (Text.pieces '/' written.toList).filter (· ≠ [])

/-- The absolute path of a place. -/
def pathOf (place : Place) : String := String.ofList (Path.ofPlace place).written

/-- The path as the system takes it. -/
def nativePath (path : Path) : String :=
  String.ofList (if path.written = [] then ['.'] else path.written)

/-- Does something exist at a path? -/
def exists? (path : String) : IO Bool := do
  try
    let _ ← IO.FS.realPath path
    return true
  catch _ => return false

/-- The names of files that hold ignore rules or say where some are. -/
def ruleFiles : List String := [".ignore", ".gitignore", ".git", "exclude"]

/-- The bytes of a file that ignore rules depend on; other files count as empty
here. -/
def outlineFile (path name : String) : IO FileTree := do
  if ruleFiles.contains name then
    try return .file (← IO.FS.readBinFile path) catch _ => return .file .empty
  else return .file .empty

/-- The names below a path, with the contents of ignore files alone. Links and
what cannot be read are left out. -/
partial def outline (path name : String) : IO FileTree := do
  let here ← IO.FS.realPath path
  if (← here.metadata).type == .dir then
    let mut entries := []
    for entry in ← here.readDir do
      try
        let real ← IO.FS.realPath entry.path
        if real.toString == entry.path.toString then
          entries := (entry.fileName.toList, ← outline real.toString entry.fileName) :: entries
      catch _ => pure ()
    return .directory entries.reverse
  else outlineFile here.toString name

/-- The tree with a directory at a place where it has nothing. -/
def ensure (tree : FileTree) (place : Place) : FileTree :=
  match tree.at? place with
  | some _ => tree
  | none => tree.put place (.directory [])

/-- The tree with a file or an empty directory for what really stands at a
path, if the tree has nothing there. -/
def takeStep (tree : FileTree) (path : String) : IO FileTree := do
  try
    let real ← IO.FS.realPath path
    let place := placeOf real.toString
    if (tree.at? place).isSome then return tree
    else if (← real.metadata).type == .dir then return ensure tree place
    else return tree.put place (.file .empty)
  catch _ => return tree

/-- The tree with the ignore files of one directory. -/
def takeRules (tree : FileTree) (directory : Place) : IO FileTree := do
  let mut grown := tree
  for names in [[".ignore"], [".gitignore"], [".jj"], [".git"], [".git", "info", "exclude"]] do
    let place := directory ++ names.map String.toList
    grown ← takeStep grown (pathOf place)
    if let some (.file content) := grown.at? place then
      if content.isEmpty then
        try grown := grown.put place (.file (← IO.FS.readBinFile (pathOf place))) catch _ => pure ()
  return grown

/-- The workspace with the content of the file at a path, if there is one. -/
def takeFile (workspace : Workspace) (path : Path) : IO Workspace := do
  let mut tree := workspace.tree
  for step in path.steps do
    tree ← takeStep tree (nativePath step)
  let grown : Workspace := { workspace with tree }
  match grown.resolve path with
  | .error _ => return grown
  | .ok place =>
      match tree.at? place with
      | some (.file _) =>
          try
            let content ← IO.FS.readBinFile (pathOf place)
            return { grown with tree := tree.put place (.file content) }
          catch _ => return grown
      | _ => return grown

/-- The workspace with the files that a link to a repository leads to. -/
def takeLinked (workspace : Workspace) (link : ByteArray) : IO Workspace := do
  let some linked := Repository.linkedDirectory? link | return workspace
  let grown ← takeFile workspace (Repository.sharingFile linked)
  match Repository.sharedDirectory? grown linked with
  | none => return grown
  | some shared => takeFile grown (shared.append Repository.excludePath)

/-- The lines of a file of the computer. What cannot be read has none. -/
def linesOf (path : String) : IO (List Text) := do
  try return FileTree.textLines (← IO.FS.readBinFile path) catch _ => return []

/-- A variable of the environment that is set to something. -/
def setting? (name : String) : IO (Option String) := do
  return (← IO.getEnv name).filter (· ≠ "")

/-- The file that lists what the user excludes from all repositories: the one that the
user's settings name, or else the customary one. -/
def userExcludes? : IO (Option Path) := do
  let home? ← setting? "HOME"
  let settings? := (← setting? "XDG_CONFIG_HOME") <|> home?.map (· ++ "/.config")
  for file in (home?.map (· ++ "/.gitconfig")).toList ++
      (settings?.map (· ++ "/git/config")).toList do
    if let some path := (← linesOf file).findSome? Repository.userExcludesIn? then
      let home := (home?.getD "~").toList
      return some ⟨path.flatMap fun c => if c = '~' then home else [c]⟩
  return settings?.map fun directory => ⟨(directory ++ "/git/ignore").toList⟩

/-- The part of the files that a command depends on. -/
def takeIn (command : Command) : IO Workspace := do
  let directory := placeOf (← IO.currentDir).toString
  let mut tree := ensure (.directory []) directory
  for root in command.roots do
    if ← exists? (nativePath root) then
      let real ← IO.FS.realPath (nativePath root)
      let place := placeOf real.toString
      tree := tree.put place (← outline real.toString (real.fileName.getD ""))
      for depth in List.range place.length do
        tree ← takeRules tree (place.take depth)
  for path in command.roots ++ command.namedPaths do
    for step in path.steps do
      tree ← takeStep tree (nativePath step)
  let userExcludes? ← userExcludes?
  let mut workspace : Workspace := { tree, directory, userExcludes? }
  if let some path := userExcludes? then
    workspace ← takeFile workspace path
  for (place, content) in tree.files do
    if place.getLast? = some Repository.directoryName then
      workspace ← takeLinked workspace content
  for path in command.sources workspace do
    workspace ← takeFile workspace path
  return workspace

/-! ## Carrying out -/

/-- Reports a notice. -/
def report (notice : Notice) : IO Unit :=
  let level := match notice.level with | .info => " INFO" | .warning => " WARN"
  IO.eprintln (level ++ " " ++ String.ofList notice.message)

/-- Reports a fault and gives the exit code that goes with it. -/
def refuse (message : Text) : IO UInt32 := do
  IO.eprintln ("error: " ++ String.ofList message)
  return 1

/-- Prints, writes and reports what came of a command. -/
def deliver (workspace : Workspace) (outcome : Outcome) : IO Unit := do
  for (place, content) in workspace.tree.changesSince outcome.workspace.tree do
    IO.FS.writeBinFile (pathOf place) content
  IO.print (String.ofList outcome.printed)
  (← IO.getStdout).flush
  outcome.notices.forM report

/-- Delivers what came of a command and gives the exit code that goes with it. -/
def carryOut (workspace : Workspace) (outcome : Outcome) : IO UInt32 := do
  deliver workspace outcome
  match outcome.result with
  | .ok () => return 0
  | .error fault => refuse fault.message

/-! ## Watching -/

/-- The files below the watched roots, with the times of their last change. -/
partial def changeTimes (path : String) : IO (List (String × Int)) := do
  try
    let here ← IO.FS.realPath path
    let metadata ← here.metadata
    if metadata.type == .dir then
      let mut found := []
      for entry in ← here.readDir do
        found := (← changeTimes entry.path.toString) ++ found
      return found
    else return [(here.toString, metadata.modified.sec * 1000000000 + metadata.modified.nsec.toNat)]
  catch _ => return []

/-- The files below the roots that a build watches, with the times of their last
change. -/
def watchedTimes (order : BuildOrder) : IO (List (String × Int)) := do
  let roots := Watching.roots order.selection.inputs order.config?
  return (← roots.mapM fun root => changeTimes (nativePath root)).flatten

/-- Reports a fault that does not end the program. -/
def complain (message : Text) : IO Unit :=
  IO.eprintln ("ERROR " ++ String.ofList message)

/-- Builds again and goes on whatever comes of it. -/
def rebuild (order : BuildOrder) : IO Unit := do
  report .rebuilding
  let workspace ← takeIn (.build order)
  let outcome := order.build workspace
  deliver workspace outcome
  match outcome.result with
  | .ok () => pure ()
  | .error fault => complain fault.rebuildMessage

/-- Does about each changed file what the watch decides. `since` is when it last built
again. -/
partial def keepWatching (order : BuildOrder) (watch : Watch) (interval since : Nat)
    (before : List (String × Int)) : IO UInt32 := do
  IO.sleep interval.toUInt32
  let after ← watchedTimes order
  let changed := (after.filter fun file => !before.contains file) ++
    (before.filter fun file => !after.contains file)
  let mut last := since
  for path in (changed.map (·.1)).eraseDups do
    let event : Event := { time := ← IO.monoMsNow, news := .changed [⟨path.toList⟩] }
    let (next, reaction) := watch.step last event
    last := next
    match reaction with
    | .passOver => pure ()
    | .report message => complain message
    | .rebuild => rebuild order
  keepWatching order watch interval last after

end StateSheet

/-- Runs the command that the arguments make. -/
def main (arguments : List String) : IO UInt32 := do
  match StateSheet.Command.read (arguments.map String.toList) with
  | .error fault => StateSheet.refuse fault.message
  | .ok command =>
      let workspace ← StateSheet.takeIn command
      let code ← StateSheet.carryOut workspace (command.run workspace)
      match command with
      | .watch order polling =>
          if code != 0 then return code
          let watch := order.watchFrom (some ⟨(← IO.currentDir).toString.toList⟩)
          let interval := if polling.enabled then polling.interval else 200
          StateSheet.keepWatching order watch interval (← IO.monoMsNow)
            (← StateSheet.watchedTimes order)
      | _ => return code
