import PolicyGuard.Policy.Decision
import PolicyGuard.Url.Parse

/-!
Subjects of the two kinds: outbound requests and component records.
-/

namespace PolicyGuard.Policy.Subject

/-- The attribute of a request header. -/
def headerField (name : String) : String :=
  "header_" ++ String.ofList ((Text.lowerAscii name).toList.map fun c => if c = '-' then '_' else c)

/-- The attributes that a URL gives, as far as it can be read. -/
def ofUrl (url : String) : Subject :=
  match Url.parse? url with
  | none => []
  | some u =>
    let host := match u.host with
      | some h => ((h.text.dropWhile (· = '[')).reverse.dropWhile (· = ']')).reverse
      | none => []
    let path := if u.path.isEmpty then "/" else u.path
    let parts : Subject := Table.ofList [("path", .text path), ("scheme", .text u.scheme)]
    if host.isEmpty then parts
    else parts.put "hostname" (.text (Text.lowerAscii (String.ofList host)))

/-- Adds the headers of a request; of headers for one attribute the last counts. -/
def withHeaders (s : Subject) (headers : List (String × String)) : Subject :=
  headers.foldl (fun s h => s.put (headerField h.1) (.text h.2)) s

/-- The subject of an outbound request. -/
def ofRequest (url method : String) (headers : List (String × String)) : Subject :=
  withHeaders
    (((ofUrl url).put "url" (.text url)).put "method" (.text (Text.upperAscii method))) headers

/-- The scalars of a record as attributes. -/
def scalars (members : List (String × Json)) : Subject :=
  members.foldl (fun s m => match Value.ofJson? m.2 with | some v => s.put m.1 v | none => s) []

/-- Scalars of a second record, where the subject has nothing of that name yet. -/
def fill (s : Subject) (members : List (String × Json)) : Subject :=
  members.foldl
    (fun s m =>
      if s.has m.1 then s
      else match Value.ofJson? m.2 with | some v => s.put m.1 v | none => s) s

/-- `type` stands for `component_type` where nothing else gives it. -/
def withType (s : Subject) : Subject :=
  if s.has "type" then s
  else match s.get? "component_type" with | some v => s.put "type" v | none => s

/-- The subject of a component, whose own fields win over those of its entity. -/
def ofResource (record : List (String × Json)) (entity : Option (List (String × Json))) : Subject :=
  withType (match entity with
    | some attrs => fill (scalars record) attrs
    | none => scalars record)

/-- A subject is written as a record with the one field `attrs`. -/
def read? (d : Json.Document) : Option Subject := do
  match ← d.fields? ["attrs"] with
  | [some (.object members)] =>
    return Table.ofList (← members.mapM fun m => return (← m.1, ← Value.read? m.2))
  | _ => none

def json (s : Subject) : Json :=
  .object [("attrs", .object (s.map fun a => (a.1, a.2.json)))]

end PolicyGuard.Policy.Subject
