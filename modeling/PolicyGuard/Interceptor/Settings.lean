import PolicyGuard.Interceptor.Basic
import PolicyGuard.Toml.Read

/-!
Settings of an interceptor, as a file gives them, and what is built from them.
-/

namespace PolicyGuard.Interceptor

structure Settings where
  enforcement : String
  exclusions : List String
  controlPlane : Option String
  /-- The environment variable that holds the key for the control plane. -/
  keyVariable : String
  policyFile : Option String
  refreshSeconds : Nat
  staleSeconds : Nat
  eventLog : Option String
  capturedHeaders : Option (List String)
  deriving DecidableEq, Repr

inductive LoadError where
  | unreadable (path : String) (cause : FileError)
  | malformed (path : String)
  deriving DecidableEq, Repr

inductive BuildError where
  | invalidMode (mode : String)
  | noPolicyFile (path : String)
  | invalidPattern (pattern : String)
  deriving DecidableEq, Repr

def LoadError.message : LoadError → String
  | unreadable path cause => "failed to read config " ++ path ++ ": " ++ cause.message
  | malformed path => "failed to parse config " ++ path

def BuildError.message : BuildError → String
  | invalidMode mode => EnforcementMode.invalidMessage mode
  | noPolicyFile path => "policy file not found: " ++ path
  | invalidPattern pattern => "invalid exclusion pattern '" ++ pattern ++ "'"

namespace Settings

def default : Settings where
  enforcement := "log"
  exclusions := []
  controlPlane := none
  keyVariable := "TRUSERA_API_KEY"
  policyFile := none
  refreshSeconds := 60
  staleSeconds := 300
  eventLog := none
  capturedHeaders := none

/-! ## Reading -/

def string? : Toml → Option String
  | .string s => some s
  | _ => none

def strings? : Toml → Option (List String)
  | .array items => items.mapM string?
  | _ => none

def natural? : Toml → Option Nat
  | .integer (.ofNat n) => some n
  | _ => none

/-- The value of a name, or what stands for its absence. -/
def orDefault? {α : Type} (absent : α) (read : Toml → Option α) (name : String)
    (ms : Toml.Members) : Option α :=
  match ms.lookup name with
  | none => some absent
  | some t => read t

/-- The settings of a table. Names that mean nothing here do not matter. -/
def ofMembers? (ms : Toml.Members) : Option Settings := do
  return {
    enforcement := ← orDefault? default.enforcement string? "enforcement" ms
    exclusions := ← orDefault? [] strings? "exclude_patterns" ms
    controlPlane := ← orDefault? none (fun t => (string? t).map some) "api_url" ms
    keyVariable := ← orDefault? default.keyVariable string? "api_key_env" ms
    policyFile := ← orDefault? none (fun t => (string? t).map some) "policy_file" ms
    refreshSeconds := ← orDefault? default.refreshSeconds natural? "refresh_interval_secs" ms
    staleSeconds := ← orDefault? default.staleSeconds natural? "stale_ttl_secs" ms
    eventLog := ← orDefault? none (fun t => (string? t).map some) "event_log" ms
    capturedHeaders := ← orDefault? none (fun t => (strings? t).map some) "capture_headers" ms
  }

def load (files : FileTree) (path : String) : Except LoadError Settings :=
  match files.readText path with
  | .error cause => .error (.unreadable path cause)
  | .ok text =>
    match (Toml.read? text).bind ofMembers? with
    | some s => .ok s
    | none => .error (.malformed path)

/-- The settings of a file, or the default ones where there is none. -/
def loadOrDefault (files : FileTree) (path : String) : Except LoadError Settings :=
  if files.has path then load files path else .ok default

/-! ## Building -/

def cacheConfig (s : Settings) : Cache.Config :=
  ⟨s.refreshSeconds * 1000, some (s.staleSeconds * 1000)⟩

/-- Where the policies come from. A control plane wins over a file. -/
def source? (s : Settings) : Option Cache.Source :=
  match s.controlPlane, s.policyFile with
  | some address, _ => some (.controlPlane address)
  | none, some path => some (.file path)
  | none, none => none

/-- The cache over the source, which has to be there if it is a file. -/
def cache (s : Settings) (files : FileTree) (now : Nat) : Except BuildError (Option Cache) :=
  match s.source? with
  | none => .ok none
  | some source =>
    let started := Cache.start s.cacheConfig source.endpoint now (source.fetch files)
    match source with
    | .file path => if files.isFile path then .ok (some started) else .error (.noPolicyFile path)
    | _ => .ok (some started)

/-- The log of the events, behind a queue. -/
def sink? (s : Settings) : Option Sink :=
  s.eventLog.map fun path => .queued path (.log path)

def capture (s : Settings) : HeaderCapture :=
  match s.capturedHeaders with
  | some names => .only names
  | none => .all

/-- The interceptor of the settings. A wrong mode is found first, then a missing
file, then a wrong pattern. -/
def build (s : Settings) (files : FileTree) (now : Nat) : Except BuildError Interceptor := do
  match EnforcementMode.read? s.enforcement with
  | none => .error (.invalidMode s.enforcement)
  | some mode =>
    let cache ← s.cache files now
    (Interceptor.new mode cache s.sink? s.exclusions s.capture).mapError .invalidPattern

end Settings

end PolicyGuard.Interceptor
