import PolicyGuard.Gate.Arguments
import PolicyGuard.Gate.Report
import PolicyGuard.Policy.Load

/-!
The gate as a program. Input that cannot be used ends it with code 2, violations
with code 1; what cannot be said about violations is only a warning.
-/

namespace PolicyGuard.Gate

/-- A stream that takes a text or refuses it. -/
structure Stream (σ : Type) where
  write : σ → String → σ × Bool

/-- A stream that keeps all it is given. -/
def Stream.kept : Stream String :=
  ⟨fun s text => (s ++ text, true)⟩

/-- Writes lines until one is refused. -/
def Stream.lines {σ : Type} (out : Stream σ) (s : σ) : List String → σ × Bool
  | [] => (s, true)
  | line :: rest =>
    let (s, accepted) := out.write s (line ++ "\n")
    if accepted then lines out s rest else (s, false)

inductive CommandError where
  | scan (e : InputError)
  | policyMissing (path : String)
  | policy (e : Policy.LoadError)
  | output
  deriving DecidableEq, Repr

def CommandError.message : CommandError → String
  | scan e => "loading scan results: " ++ e.message ++
    match e with
    | .unreadable _ cause => ": " ++ cause.message
    | _ => ""
  | policyMissing path => "policy file not found: " ++ path
  | policy e => "loading policy: " ++ e.message ++ ": " ++ e.cause.message
  | output => "Broken pipe (os error 32)"

/-- How a run of the program ended. -/
structure Ending (σ : Type) where
  code : Except CommandError Nat
  warnings : List String
  files : FileTree
  stream : σ

/-- The code that the program gives to its caller. -/
def Ending.exitCode {σ : Type} (e : Ending σ) : Nat :=
  match e.code with
  | .ok code => code
  | .error _ => 2

/-- What the program says besides its output. -/
def Ending.messages {σ : Type} (e : Ending σ) : List String :=
  e.warnings.map ("Warning: " ++ ·) ++
    match e.code with
    | .ok _ => []
    | .error error => ["Error: " ++ error.message]

/-- The inputs of a run. Entities that cannot be used are left out with a warning. -/
structure Inputs where
  scan : Json
  rules : List Policy.Rule
  entities : Option Entities
  warnings : List String

def loadEntities (files : FileTree) : Option String → Option Entities × List String
  | none => (none, [])
  | some path =>
    match Entities.load files path with
    | .ok entities => (some entities, [])
    | .error e => (none, ["ignoring entities file: " ++ e.message])

def loadInputs (o : Options) (files : FileTree) : Except CommandError Inputs := do
  let scan ← (readJson files o.scan).mapError .scan
  if !files.has o.policy then throw (.policyMissing o.policy)
  let rules ← (Policy.load files o.policy).mapError .policy
  let (entities, warnings) := loadEntities files o.entities
  return ⟨scan, rules, entities, warnings⟩

/-- Adds the report to the summary file, or tells why not. -/
def appendSummary (files : FileTree) (summary : Option String) (report : String) :
    FileTree × List String :=
  match summary with
  | none => (files, [])
  | some path =>
    match files.append path (FileTree.bytes (report ++ "\n")) with
    | .ok files => (files, [])
    | .error e => (files, ["failed to write summary " ++ path ++ ": " ++ e.message])

def evaluatingLine (rules components : Nat) : String :=
  "Evaluating " ++ toString rules ++ " rule(s) against " ++ toString components ++
    " component(s)..."

def passedLine (rules components : Nat) : String :=
  "Cedar policy gate: PASSED (" ++ toString rules ++ " rules, " ++ toString components ++
    " components)"

/-- Says what has to be said about an outcome. -/
def conclude {σ : Type} (out : Stream σ) (o : Options) (files : FileTree)
    (warnings : List String) (s : σ) (outcome : Outcome) : Ending σ :=
  match outcome with
  | .failed vs =>
    let notes := if o.annotations then vs.map annotation else []
    let (s, accepted) := out.lines s (report vs :: notes)
    let refused := if accepted then [] else
      ["failed to write report: " ++ CommandError.output.message]
    let (files, unsaved) := appendSummary files o.summary (report vs)
    ⟨.ok outcome.exitCode, warnings ++ refused ++ unsaved, files, s⟩
  | .passed rules components =>
    let (s, accepted) := out.lines s [passedLine rules components]
    ⟨if accepted then .ok outcome.exitCode else .error .output, warnings, files, s⟩
  | _ => ⟨.ok outcome.exitCode, warnings, files, s⟩

/-- Writes one line and ends with success. -/
def endWith {σ : Type} (out : Stream σ) (files : FileTree) (warnings : List String) (s : σ)
    (line : String) : Ending σ :=
  let (s, accepted) := out.lines s [line]
  ⟨if accepted then .ok 0 else .error .output, warnings, files, s⟩

/-- Runs the gate. -/
def execute {σ : Type} (out : Stream σ) (o : Options) (files : FileTree) (s : σ) : Ending σ :=
  match loadInputs o files with
  | .error e => ⟨.error e, [], files, s⟩
  | .ok inputs =>
    let cs := components inputs.scan
    if inputs.rules.isEmpty then
      endWith out files (inputs.warnings ++ ["no rules found in policy file"]) s
        "Cedar policy gate: PASSED (no rules to evaluate)"
    else if cs.isEmpty then
      endWith out files inputs.warnings s
        "Cedar policy gate: PASSED (no components found in scan results)"
    else
      let (s, accepted) := out.lines s [evaluatingLine inputs.rules.length cs.length]
      if accepted then
        conclude out o files inputs.warnings s (run inputs.rules cs inputs.entities o.threshold)
      else ⟨.error .output, inputs.warnings, files, s⟩

/-- What the program leaves behind: its code, its output, its messages and the files. -/
structure Transcript where
  exitCode : Nat
  output : String
  messages : List String
  files : FileTree

def versionLine : String :=
  "cedar-gate 0.4.0\n"

def helpLines : List String :=
  ["CI gate that checks AI-BOM scan results against a Cedar-like policy",
    "",
    "Usage: cedar-gate [OPTIONS] <RESULTS> <POLICY>",
    "",
    "Arguments:",
    "  <RESULTS>  Path to scan results JSON file",
    "  <POLICY>   Path to Cedar policy file",
    "",
    "Options:",
    "      --summary <SUMMARY>",
    "          Append the violation report to this file (CI job summary)",
    "      --fail-on-severity <FAIL_ON_SEVERITY>",
    "          Only fail on violations at or above this severity [possible values: critical, high,",
    "          medium, low]",
    "      --annotations",
    "          Emit ::error / ::warning workflow annotations",
    "      --entities <ENTITIES>",
    "          Cedar entities JSON file with extra attributes per component",
    "  -h, --help",
    "          Print help",
    "  -V, --version",
    "          Print version"]

def helpText : String :=
  "\n".intercalate helpLines ++ "\n"

/-- Runs the program on its arguments. -/
def transcript (arguments : List String) (files : FileTree) : Transcript :=
  match Request.ofArguments arguments with
  | .version => ⟨0, versionLine, [], files⟩
  | .help => ⟨0, helpText, [], files⟩
  | .usageError => ⟨2, "", [], files⟩
  | .run o =>
    let ending := execute Stream.kept o files ""
    ⟨ending.exitCode, ending.stream, ending.messages, ending.files⟩

end PolicyGuard.Gate
