import PolicyGuard.Digest.Sha256
import PolicyGuard.FileTree
import PolicyGuard.Json.Fields

/-!
Bundles of policy texts. The enabled ones, joined by newlines, are the policy
of a bundle, and its hash stands for that text.
-/

namespace PolicyGuard.Cache

structure Bundle.Entry where
  enabled : Bool
  policy : String
  deriving DecidableEq, Repr

structure Bundle where
  entries : List Bundle.Entry
  deriving DecidableEq, Repr

/-- The hash of a text: its SHA-256 digest in hexadecimal digits. -/
def contentHash (text : String) : String :=
  Sha256.hex (FileTree.bytes text)

namespace Bundle

/-- The bundle of one enabled text. -/
def ofText (policy : String) : Bundle :=
  ⟨[⟨true, policy⟩]⟩

/-- The text of all enabled entries. -/
def combined (b : Bundle) : String :=
  "\n".intercalate ((b.entries.filter Entry.enabled).map Entry.policy)

def Entry.read? (d : Json.Document) : Option Entry := do
  match ← d.fields? ["enabled", "cedar_dsl"] with
  | [enabled, policy] =>
    return {
      enabled := ← Json.orDefault? true Json.Document.bool? enabled
      policy := ← Json.orDefault? "" Json.Document.string? policy
    }
  | _ => none

def entries? : Json.Document → Option (List Entry)
  | .array items => items.mapM Entry.read?
  | _ => none

def read? (d : Json.Document) : Option Bundle := do
  match ← d.fields? ["policies"] with
  | [entries] => return ⟨← Json.orDefault? [] entries? entries⟩
  | _ => none

end Bundle

end PolicyGuard.Cache
