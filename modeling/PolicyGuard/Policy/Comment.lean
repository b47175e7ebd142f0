/-!
Comments of policy text. A comment starts with two slashes outside quotes and
ends before the next line; inside quotes, which only a quote ends, two slashes
are text.
-/

namespace PolicyGuard.Policy

/-- Where in policy text a character stands. -/
inductive Zone where
  | code
  | quoted
  | comment
  deriving DecidableEq, Repr

/-- The text without its comments, read from a place in `zone`. -/
def stripFrom : Zone → List Char → List Char
  | _, [] => []
  | .code, '/' :: '/' :: rest => stripFrom .comment rest
  | .code, c :: rest => c :: stripFrom (if c = '"' then .quoted else .code) rest
  | .quoted, c :: rest => c :: stripFrom (if c = '"' then .code else .quoted) rest
  | .comment, c :: rest => if c = '\n' then c :: stripFrom .code rest else stripFrom .comment rest

def stripComments (text : List Char) : List Char :=
  stripFrom .code text

end PolicyGuard.Policy
