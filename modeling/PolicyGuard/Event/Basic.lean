import PolicyGuard.Event.Timestamp
import PolicyGuard.Event.Uuid
import PolicyGuard.Json.Fields
import PolicyGuard.Json.Text

/-!
Events: what happened, with free details, and their form on a line.
-/

namespace PolicyGuard

inductive EventKind where
  | toolCall
  | llmInvoke
  | dataAccess
  | apiCall
  | fileWrite
  | decision
  | policyViolation
  | interception
  deriving DecidableEq, Repr

namespace EventKind

def name : EventKind → String
  | toolCall => "tool_call"
  | llmInvoke => "llm_invoke"
  | dataAccess => "data_access"
  | apiCall => "api_call"
  | fileWrite => "file_write"
  | decision => "decision"
  | policyViolation => "policy_violation"
  | interception => "interception"

def all : List EventKind :=
  [toolCall, llmInvoke, dataAccess, apiCall, fileWrite, decision, policyViolation, interception]

def ofName? (s : String) : Option EventKind :=
  all.find? fun k => k.name = s

theorem ofName?_name (k : EventKind) : ofName? k.name = some k := by
  cases k <;> rfl

end EventKind

structure Event where
  id : Uuid
  kind : EventKind
  name : String
  payload : Table Json
  metadata : Table Json
  time : Timestamp

/-- What an event is about, without the mark and the time that it gets when it is made. -/
structure Event.Content where
  kind : EventKind
  name : String
  payload : Table Json
  metadata : Table Json

namespace Event

def content (e : Event) : Content :=
  ⟨e.kind, e.name, e.payload, e.metadata⟩

/-- An event as it is written, its fields in order. -/
def json (e : Event) : Json :=
  .object [("id", .string e.id.text), ("type", .string e.kind.name), ("name", .string e.name),
    ("payload", .object e.payload), ("metadata", .object e.metadata),
    ("timestamp", .string e.time.text)]

/-- The line of an event, without its end. -/
def line (e : Event) : String :=
  e.json.compact

/-- The details of an event. The event around them is the outermost level. -/
def details? (d : Json.Document) : Option (Table Json) := do
  match ← d.value? (Json.depthLimit - 1) with
  | .object members => return members
  | _ => none

def ofDocument? (d : Json.Document) : Option Event := do
  match ← d.fields? ["id", "type", "name", "payload", "metadata", "timestamp"] with
  | [id, kind, name, payload, metadata, time] =>
    return {
      id := ← Json.required? (fun d => d.string?.bind Uuid.read?) id
      kind := ← Json.required? (fun d => d.choice?.bind EventKind.ofName?) kind
      name := ← Json.required? Json.Document.string? name
      payload := ← Json.orDefault? [] details? payload
      metadata := ← Json.orDefault? [] details? metadata
      time := ← Json.required? (fun d => d.string?.bind Timestamp.read?) time
    }
  | _ => none

/-- The event that a line writes. -/
def read? (line : String) : Option Event :=
  (Json.Document.read? line).bind ofDocument?

end Event

end PolicyGuard
