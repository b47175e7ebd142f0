import PolicyGuard.Gate.Command

/-!
The gate as a command: it reads the files that its arguments name, runs, and
leaves behind what the run does.
-/

namespace PolicyGuard.Gate

/-- The files that a run reads or writes, after the directories they lie in. -/
def Request.paths : Request → List String
  | .run o =>
    let paths := [o.scan, o.policy] ++ o.entities.toList ++ o.summary.toList
    paths.filterMap FileTree.parent? ++ paths
  | _ => []

/-- What is at a path: a file, a directory, or nothing that can be read. -/
def readPlace (path : String) : IO (Option (Option (List UInt8))) := do
  try
    return some (some (← IO.FS.readBinFile path).toList)
  catch
    | .inappropriateType .. => return some none
    | _ => return none

def readPlaces (paths : List String) : IO FileTree := do
  let found ← paths.mapM fun path => return (← readPlace path).map (path, ·)
  return .ofList (found.filterMap id)

/-- Writes the summary as a run leaves it. -/
def saveSummary (files : FileTree) (path : String) : IO Unit := do
  match files.entry path with
  | .ok (.file content) =>
    try IO.FS.writeBinFile path ⟨content.toArray⟩
    catch e => IO.eprintln ("Warning: failed to write summary " ++ path ++ ": " ++ toString e)
  | _ => return ()

end PolicyGuard.Gate

open PolicyGuard.Gate in
def main (arguments : List String) : IO UInt32 := do
  let request := Request.ofArguments arguments
  let ending := transcript arguments (← readPlaces request.paths)
  IO.print ending.output
  ending.messages.forM IO.eprintln
  match request with
  | .run o => o.summary.forM (saveSummary ending.files)
  | _ => pure ()
  return UInt32.ofNat ending.exitCode
