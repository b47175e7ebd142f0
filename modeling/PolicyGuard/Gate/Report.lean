import PolicyGuard.Gate.Run

/-!
What is said about violations: a table with the statements behind them, and one
annotation for each.
-/

namespace PolicyGuard.Gate

open Policy

def condition (r : Rule) : String :=
  "resource." ++ r.field ++ " " ++ r.operator.token ++ " " ++ r.value.asText

/-- The row of the violation with this number. -/
def row (number : Nat) (v : Violation) : String :=
  "| " ++ toString number ++ " | " ++ v.componentName ++ " | " ++ v.componentType ++ " | \x60" ++
    condition v.rule ++ "\x60 | " ++ v.actualValue ++ " |"

/-- The statements behind violations, each once, as they first occur. -/
def statements (vs : List Violation) : List String :=
  vs.foldl
    (fun seen v => if v.rule.source ∈ seen then seen else seen ++ [v.rule.source]) []

def block (statement : String) : String :=
  "\x60\x60\x60cedar\n" ++ statement ++ "\n\x60\x60\x60"

def reportHead (count : Nat) : List String :=
  ["## Cedar Policy Gate - FAILED", "", "**" ++ toString count ++ " violation(s) found**", "",
    "| # | Component | Type | Rule | Actual Value |",
    "|---|-----------|------|------|--------------|"]

def reportLines (vs : List Violation) : List String :=
  reportHead vs.length ++ (vs.zipIdx.map fun p => row (p.2 + 1) p.1) ++
    ["", "### Policy rules that triggered", ""] ++
    (statements vs).flatMap fun s => [block s, ""]

def report (vs : List Violation) : String :=
  "\n".intercalate (reportLines vs)

/-- Critical and high are errors, all else is a warning. -/
def level (v : Violation) : String :=
  if v.severity = "critical" || v.severity = "high" then "error" else "warning"

/-- Where a violation is, as far as its file is known. -/
def place (v : Violation) : String :=
  match v.filePath, v.lineNumber with
  | some file, some line => "file=" ++ file ++ ",line=" ++ toString line
  | some file, none => "file=" ++ file
  | none, _ => ""

def annotation (v : Violation) : String :=
  "::" ++ level v ++ " " ++ place v ++ "::Policy violation: " ++ v.componentName ++ " (" ++
    v.componentType ++ ") - " ++ condition v.rule ++ " (actual: " ++ v.actualValue ++ ")"

end PolicyGuard.Gate
