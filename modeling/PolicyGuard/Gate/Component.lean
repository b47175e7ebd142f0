import PolicyGuard.FileTree
import PolicyGuard.Json.Document

/-!
Components of a scan, and extra attributes for them.

A scan is an array of components, an object that holds them under `components`,
results under `runs`, or one component with a `name`. Whatever is no object is
passed over.
-/

namespace PolicyGuard.Gate

/-- The fields of a component. -/
abbrev Component := Table Json

inductive InputError where
  | notFound (path : String)
  | unreadable (path : String) (cause : FileError)
  | invalidJson (path : String)
  deriving DecidableEq, Repr

def InputError.message : InputError → String
  | notFound path => "file not found: " ++ path
  | unreadable path cause => "failed to read " ++ path ++ ": " ++ cause.message
  | invalidJson path => "invalid JSON in " ++ path

/-- The JSON value of a file. -/
def readJson (files : FileTree) (path : String) : Except InputError Json :=
  if files.has path then
    match files.readText path with
    | .error cause => .error (.unreadable path cause)
    | .ok text =>
      match Json.read? text with
      | some j => .ok j
      | none => .error (.invalidJson path)
  else .error (.notFound path)

/-- The objects of an array. -/
def objects (items : List Json) : List Component :=
  items.filterMap fun item =>
    match item with
    | .object members => some members
    | _ => none

/-- The member that a row of names leads to. -/
def follow (j : Json) (names : List String) : Option Json :=
  names.foldlM (fun j name => j.get? name) j

/-- The place of a result: its file and its line. -/
def withPlace (result : Json) (c : Component) : Component :=
  match result.get? "locations" with
  | some (.array (location :: _)) =>
    match location.get? "physicalLocation" with
    | some physical =>
      (c.put "file_path" ((follow physical ["artifactLocation", "uri"]).getD (.string ""))).put
        "line_number" ((follow physical ["region", "startLine"]).getD (.ofNat 0))
    | none => c
  | _ => c

/-- The component that a result of a run is about. -/
def ofResult (result : Json) : Component :=
  let property (name : String) (default : Json) : Json :=
    (follow result ["properties", name]).getD default
  withPlace result (Table.ofList [
    ("name", (result.get? "ruleId").getD (.string "unknown")),
    ("severity", (result.get? "level").getD (.string "none")),
    ("component_type", property "component_type" (.string "unknown")),
    ("provider", property "provider" (.string "unknown")),
    ("risk_score", property "risk_score" (.ofNat 0))])

def ofRun (run : Json) : List Component :=
  match run.get? "results" with
  | some (.array results) => results.map ofResult
  | _ => []

/-- The components of a scan of any shape. -/
def components (scan : Json) : List Component :=
  match scan with
  | .array items => objects items
  | .object members =>
    match scan.get? "components", scan.get? "runs" with
    | some (.array items), _ => objects items
    | _, some (.array runs) => runs.flatMap ofRun
    | _, _ => if Table.has "name" members then [members] else []
  | _ => []

end PolicyGuard.Gate
