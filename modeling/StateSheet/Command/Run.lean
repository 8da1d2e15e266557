import StateSheet.Command.Basic
import StateSheet.Command.Help
import StateSheet.Command.Watching
import StateSheet.Scan
import StateSheet.Settings.File
import StateSheet.Stylesheet.Generation
import StateSheet.Text.SortedTable

/-!
# Running commands

A command run in a workspace has an outcome: the workspace afterwards, what was
printed, the notices given, and whether the command failed. A build that fails
has changed nothing and printed nothing.
-/

set_option autoImplicit false

namespace StateSheet

/-- Why a command fails. -/
inductive CommandFault where
  | scan (fault : ScanFault)
  | settings (fault : SettingsFault)
  | unwritable (output : Path) (fault : AccessFault)
  | unwatchable (root : Path) (fault : AccessFault)
deriving DecidableEq, Repr

/-- The message that reports a fault. -/
def CommandFault.message : CommandFault → Text
  | scan fault => fault.message
  | settings fault => fault.message
  | unwritable output fault =>
      "failed to write output ".toList ++ output.written ++ [':', ' '] ++ fault.message
  | unwatchable root .notFound =>
      "failed to watch ".toList ++ root.written ++ ": No path was found.".toList
  | unwatchable root fault =>
      "failed to watch ".toList ++ root.written ++ [':', ' '] ++ fault.message

/-- What came of a command. -/
structure Outcome where
  workspace : Workspace
  printed : Text := []
  notices : List Notice := []
  result : Except CommandFault Unit

/-- The outcome of a command that failed before it did anything. -/
def Outcome.failed (workspace : Workspace) (fault : CommandFault) : Outcome :=
  { workspace, result := .error fault }

/-! ## Listing -/

/-- The classes that depend on a state, in ascending order, with their
selectors. -/
def listing (classes : List Text) : SortedTable Text :=
  .ofEntries (classes.filterMap fun className =>
    (Selector.ofClass? className).map fun selector => (className, selector))

/-- Lists the classes of the selected files. -/
def Selection.list (selection : Selection) (workspace : Workspace) : Outcome :=
  match Findings.ofGlobs workspace selection.inputs selection.ignore with
  | .error fault => .failed workspace (.scan fault)
  | .ok found =>
      let listed := listing found.classes
      { workspace
        printed := listed.entries.flatMap fun entry => entry.1 ++ ['\t'] ++ entry.2 ++ ['\n']
        notices := [.listed found.fileCount listed.size]
        result := .ok () }

/-! ## Building -/

/-- The ignore globs of a build: those given, and the place of its output. -/
def BuildOrder.ignoreGlobs (order : BuildOrder) : List Text :=
  order.selection.ignore ++ order.output?.toList

/-- The settings of a build. -/
def BuildOrder.settings (order : BuildOrder) (workspace : Workspace) :
    Except SettingsFault Settings :=
  match order.config? with
  | none => .ok { minify := order.minify }
  | some path =>
      (Settings.load workspace ⟨path⟩).map fun settings =>
        { settings with minify := settings.minify || order.minify }

/-- The comment that every stylesheet starts with. -/
def banner : Text := "/*! stateframe | MIT License */".toList

/-- The stylesheet that a build puts out. -/
def stylesheetText (minify : Bool) (css : Text) : Text :=
  if css = [] then banner ++ ['\n']
  else if minify then banner ++ css
  else banner ++ ['\n'] ++ css ++ ['\n']

/-- Builds a stylesheet and writes or prints it. -/
def BuildOrder.build (order : BuildOrder) (workspace : Workspace) : Outcome :=
  match order.settings workspace with
  | .error fault => .failed workspace (.settings fault)
  | .ok settings =>
      match Findings.ofGlobs workspace order.selection.inputs order.ignoreGlobs with
      | .error fault => .failed workspace (.scan fault)
      | .ok found =>
          let generation := Generation.ofClasses settings found.classes
          let text := stylesheetText settings.minify generation.css
          let notices := generation.notices ++
            [.built found.fileCount generation.ruleCount generation.skipped]
          match order.output? with
          | none => { workspace, printed := text, notices, result := .ok () }
          | some output =>
              match workspace.writeText ⟨output⟩ text with
              | .error fault =>
                  { workspace
                    notices := generation.notices
                    result := .error (.unwritable ⟨output⟩ fault) }
              | .ok written => { workspace := written, notices, result := .ok () }

/-! ## Watching -/

/-- Why a root cannot be watched, if it cannot. Roots are watched by their
absolute paths, and any path can be polled. -/
def watchFault? (workspace : Workspace) (root : Path) : Option CommandFault :=
  match workspace.find (workspace.absolute root) with
  | .ok _ => none
  | .error fault => some (.unwatchable root fault)

/-- Builds a stylesheet and gets ready to watch for changes. -/
def BuildOrder.watch (order : BuildOrder) (polling : Polling) (workspace : Workspace) : Outcome :=
  let built := order.build workspace
  match built.result with
  | .error _ => built
  | .ok () =>
      let roots := Watching.roots order.selection.inputs order.config?
      let fault? := if polling.enabled then none else roots.findSome? (watchFault? built.workspace)
      match fault? with
      | some fault => { built with result := .error fault }
      | none =>
          let interval? := if polling.enabled then some polling.interval else none
          { built with notices := built.notices ++ [.watching interval?] }

/-! ## All commands -/

/-- Runs a command. Of watching, this is all that happens before the first
change. -/
def Command.run (workspace : Workspace) : Command → Outcome
  | help => { workspace, printed := helpText, result := .ok () }
  | scan selection => selection.list workspace
  | build order => order.build workspace
  | watch order polling => order.watch polling workspace

end StateSheet
