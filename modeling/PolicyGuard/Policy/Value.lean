import PolicyGuard.Json.Fields
import PolicyGuard.Number.Int64
import PolicyGuard.Text.Blank

/-!
Attribute values: a text or a number. A text that spells a number also has a
numeric view, and a number has the text of its digits.
-/

namespace PolicyGuard.Policy

inductive Value where
  | text (s : String)
  | number (x : Binary64)
  deriving DecidableEq, Repr

namespace Value

/-- The numeric view. Blanks around a number in a text do not matter. -/
def number? : Value → Option Binary64
  | number x => some x
  | text s => Binary64.read? (Text.trimChars s.toList)

/-- The textual view. -/
def asText : Value → String
  | text s => s
  | number x => x.plain

/-- A JSON scalar as an attribute value. Containers and `null` have none. -/
def ofJson? : Json → Option Value
  | .string s => some (text s)
  | .number n => some (number n.toBinary64)
  | .bool b => some (text (if b then "true" else "false"))
  | _ => none

/-- The value of a token without quotes: a whole number, else any number, else the text. -/
def ofToken (token : List Char) : Value :=
  match readInt64? token with
  | some i => number (.ofInt i)
  | none =>
    match Binary64.read? token with
    | some x => number x
    | none => text (String.ofList token)

/-- Only numbers and texts read back as attribute values. -/
def read? : Json.Document → Option Value
  | .number n => n.map fun n => number n.toBinary64
  | .string s => s.map text
  | _ => none

def json : Value → Json
  | text s => .string s
  | number x => .number (.float x)

end Value

end PolicyGuard.Policy
