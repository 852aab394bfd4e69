import ExprMigration.CommandLine.Run

/-!
# The program

The command line on a disk.  What a command can see is first gathered into a tree, then the command
runs on that tree, and last every file that it changed is written back.  Nothing is decided here:
gathering and writing back copy entries, and a command that sees more of the disk gives the same
answer.
-/

namespace ExprMigration
namespace CommandLine

/-! ## Gathering -/

/-- The location of an absolute path without links. -/
def locationOf (path : Text) : Location := (path.splitOn '/').filter (· ≠ [])

/-- The place on disk of a location. -/
def placeOf (location : Location) : IO.FS.DirEntry :=
  ⟨String.ofList (pathOf location.dropLast), String.ofList (location.getLast?.getD ['.'])⟩

/-- What is on disk at a location; `none` if it is neither file, directory nor link, or cannot be
read.  A link is taken to point at the entry where it ends. -/
def entryAt (location : Location) : IO (Option Entry) := do
  let path := (placeOf location).path
  try
    match (← path.symlinkMetadata).type with
    | .dir => return some .directory
    | .file => return some (.file (.ofBytes (← IO.FS.readBinFile path)))
    | .symlink => return some (.link (← IO.FS.realPath path).toString.toList)
    | .other => return none
  catch _ => return none

/-- Adds what is on disk at a location. -/
def gatherEntry (tree : FileTree) (location : Location) : IO FileTree := do
  if location = [] then return tree
  match ← entryAt location with
  | none => return tree
  | some entry => return tree.putWithParents location entry

/-- Adds what is on disk at a location and below it, down to a depth. -/
def gatherBelow : Nat → FileTree → Location → IO FileTree
  | 0, tree, _ => return tree
  | depth + 1, tree, location => do
    let tree ← gatherEntry tree location
    if tree.get? location = some .directory then
      (← (placeOf location).path.readDir).foldlM
        (fun tree entry => gatherBelow depth tree (location ++ [entry.fileName.toList])) tree
    else return tree

/-- Adds what is on disk along the way of an absolute path, link by link, and gives the location
where the way ends. -/
def gatherWay (tree : FileTree) (path : Text) : IO (FileTree × Location) :=
  (path.splitOn '/').foldlM (fun (tree, here) part => do
    let next := here ++ [part]
    let tree ← if part ∈ [[], ['.'], ['.', '.']] then pure tree else gatherEntry tree next
    try
      let there := locationOf (← IO.FS.realPath (placeOf next).path).toString.toList
      return (← gatherEntry tree there, there)
    catch _ => return (tree, next)) (tree, [])

/-- The names of a path cannot go deeper than this. -/
def depthLimit : Nat := 4096

/-- Adds what is on disk along the way of an absolute path and below its end. -/
def gatherTree (tree : FileTree) (path : Text) : IO FileTree := do
  let (tree, stop) ← gatherWay tree path
  gatherBelow depthLimit tree stop

/-- Adds the files with which a directory and those above it are configured. -/
def gatherConfiguration (tree : FileTree) (directory : Text) : IO FileTree :=
  (Path.upwards directory).foldlM (fun tree place =>
    [Config.fileName, Config.repositoryMark].foldlM (fun tree name => do
      return (← gatherWay tree (Path.join place name)).1) tree) tree

/-- Adds the files that a command reads. -/
def gatherFor (session : Session) : Command → IO FileTree
  | .init => return session.tree
  | .resolve _ options => gatherCustom options
  | .translate options => do
    let tree ← gatherCustom options.toLookupOptions
    match session.configuration options.toLookupOptions with
    | .error _ => return tree
    | .ok config =>
      let root := (withTranslateOptions config options).sourceRoot
      gatherTree tree (Path.join session.directoryPath root)
where
  /-- Adds the file of custom entries. -/
  gatherCustom (options : LookupOptions) : IO FileTree := do
    match (session.configuration options).toOption.bind Config.customPath? with
    | none => return session.tree
    | some path =>
      return (← gatherWay session.tree (Path.join session.directoryPath path)).1

/-! ## Writing back -/

/-- Writes every file to disk that a tree has and an earlier one had not. -/
def store (before after : FileTree) : IO Unit := do
  for (location, entry) in after.entries do
    match entry with
    | .file (.text text) =>
      if before.get? location ≠ some entry then
        IO.FS.writeFile (String.ofList (pathOf location)) (String.ofList text)
    | _ => pure ()

/-! ## Running -/

/-- The environment as far as it counts. -/
def environment : IO Environment := do
  match ← IO.getEnv (String.ofList scopeVariable) with
  | some value => return [(scopeVariable, value.toList)]
  | none => return []

/-- Whether reports are in colour: on a terminal, unless the environment says otherwise. -/
def wantsColour : IO Bool := do
  let isOn (name : String) : IO (Option Bool) := return (← IO.getEnv name).map (· ≠ "0")
  if (← isOn "CLICOLOR_FORCE") = some true then return true
  if (← isOn "NO_COLOR").isSome then return false
  return (← isOn "CLICOLOR").getD true && (← (← IO.getStdout).isTty)

/-- What a command line can see. -/
def gather (arguments : List Text) : IO Session := do
  let (tree, directory) ← gatherWay .empty (← IO.currentDir).toString.toList
  let tree ← gatherConfiguration tree (pathOf directory)
  let session : Session := ⟨tree, directory, ← environment, ← wantsColour⟩
  match read session.environment arguments with
  | .ok (some command) => return { session with tree := ← gatherFor session command }
  | _ => return session

/-- The name and the version of the program. -/
def versionLine : Text := "exprmig 0.1.0\n".toList

/-- Says why no command runs, or what was asked for in place of one. -/
def announce : UsageStop → IO Unit
  | .helpWanted => do (← IO.getStdout).putStr (String.ofList shortHelp)
  | .versionWanted => do (← IO.getStdout).putStr (String.ofList versionLine)
  | stop => do (← IO.getStderr).putStr (String.ofList stop.message)

end CommandLine
end ExprMigration

open ExprMigration ExprMigration.CommandLine in
/-- Runs the command line in the working directory. -/
def main (arguments : List String) : IO UInt32 := do
  let arguments := arguments.map String.toList
  let session ← gather arguments
  let answer := session.answer arguments
  store session.tree (answer.tree session.tree)
  match answer with
  | .stopped stop => announce stop
  | .helped | .ended _ =>
    (← IO.getStdout).putStr (String.ofList (answer.output session.colour))
    (← IO.getStderr).putStr (String.ofList answer.errorOutput)
  return answer.exitCode.toUInt32
