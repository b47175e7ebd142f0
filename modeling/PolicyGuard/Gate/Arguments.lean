/-!
The command line of the gate: a scan, a policy, and options in any order. An
argument that is no option, no value or one too many is a usage error.
-/

namespace PolicyGuard.Gate

structure Options where
  scan : String
  policy : String
  summary : Option String
  threshold : Option String
  annotations : Bool
  entities : Option String
  deriving DecidableEq, Repr

/-- What a command line asks for. -/
inductive Request where
  | run (options : Options)
  | version
  | help
  | usageError
  deriving DecidableEq, Repr

/-- The options that take a value. -/
inductive Setting where
  | summary
  | threshold
  | entities
  deriving DecidableEq, Repr

def Setting.ofName? : String → Option Setting
  | "summary" => some summary
  | "fail-on-severity" => some threshold
  | "entities" => some entities
  | _ => none

/-- What is known after some of the arguments. -/
structure Arguments where
  places : List String := []
  settings : List (Setting × String) := []
  annotations : Bool := false

namespace Arguments

/-- The labels that a threshold may have. -/
def thresholds : List String :=
  ["critical", "high", "medium", "low"]

/-- Adds a positional argument; there are two, and neither is empty. -/
def addPlace? (a : Arguments) (value : String) : Option Arguments :=
  if value.isEmpty || 2 ≤ a.places.length then none
  else some { a with places := a.places ++ [value] }

/-- Adds the value of an option, which may be given once. -/
def addSetting? (a : Arguments) (setting : Setting) (value : String) : Option Arguments :=
  let valid := if setting = .threshold then thresholds.contains value else !value.isEmpty
  if !valid || (a.settings.lookup setting).isSome then none
  else some { a with settings := (setting, value) :: a.settings }

def addAnnotations? (a : Arguments) : Option Arguments :=
  if a.annotations then none else some { a with annotations := true }

/-- What an argument that starts with two dashes says. -/
inductive Long where
  | annotations
  | setting (s : Setting)
  | settingTo (s : Setting) (value : String)
  | version
  | help
  | unknown

def long (name : List Char) : Long :=
  let word := String.ofList (name.takeWhile (· ≠ '='))
  match name.dropWhile (· ≠ '=') with
  | [] =>
    if word = "annotations" then .annotations
    else if word = "version" then .version
    else if word = "help" then .help
    else
      match Setting.ofName? word with
      | some s => .setting s
      | none => .unknown
  | _ :: value =>
    match Setting.ofName? word with
    | some s => .settingTo s (String.ofList value)
    | none => .unknown

def finish (a : Arguments) : Request :=
  match a.places with
  | [scan, policy] => .run {
      scan := scan
      policy := policy
      summary := a.settings.lookup .summary
      threshold := a.settings.lookup .threshold
      annotations := a.annotations
      entities := a.settings.lookup .entities }
  | _ => .usageError

mutual

/-- Reads arguments in which options may occur. -/
def readFrom (a : Arguments) : List String → Request
  | [] => finish a
  | arg :: rest =>
    match arg.toList with
    | ['-', '-'] => readPlaces a rest
    | '-' :: '-' :: name =>
      match long name with
      | .annotations => continueWith rest (addAnnotations? a)
      | .settingTo s value => continueWith rest (addSetting? a s value)
      | .setting s => readSetting a s rest
      | .version => .version
      | .help => .help
      | .unknown => .usageError
    | '-' :: 'V' :: _ => .version
    | '-' :: 'h' :: _ => .help
    | '-' :: _ :: _ => .usageError
    | _ => continueWith rest (addPlace? a arg)

def continueWith (rest : List String) : Option Arguments → Request
  | some a => readFrom a rest
  | none => .usageError

/-- Reads the value of an option, which does not look like an option. -/
def readSetting (a : Arguments) (s : Setting) : List String → Request
  | [] => .usageError
  | value :: rest =>
    match value.toList with
    | '-' :: _ :: _ => .usageError
    | _ => continueWith rest (addSetting? a s value)

/-- Reads arguments that are no options any more. -/
def readPlaces (a : Arguments) : List String → Request
  | [] => finish a
  | arg :: rest =>
    match addPlace? a arg with
    | some a => readPlaces a rest
    | none => .usageError

end

end Arguments

/-- What the arguments of the gate ask for. -/
def Request.ofArguments (arguments : List String) : Request :=
  Arguments.readFrom {} arguments

end PolicyGuard.Gate
