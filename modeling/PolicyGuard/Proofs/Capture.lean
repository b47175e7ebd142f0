import Mathlib.Data.List.Forall2
import PolicyGuard.Proofs.Mediation

/-!
What an interceptor does not capture.

An interceptor that captures some headers by name judges a request by its method, its address
and these headers. So two sessions whose requests agree in them (`Visit.Alike`) are admitted
alike, whatever else they carry and whatever they are answered.

* `review_congr`: one request;
* `unseen_session`: two sessions, over networks that share the interceptor and the origin;
* `get?_withHeaders`: no header takes the place of what the address and the method say.
-/

namespace PolicyGuard

/-- A list has this name, in whatever case. -/
def Named (names : List String) (name : String) : Prop :=
  ∃ n ∈ names, Text.lowerAscii n = Text.lowerAscii name

instance (names : List String) (name : String) : Decidable (Named names name) :=
  inferInstanceAs (Decidable (∃ n ∈ names, Text.lowerAscii n = Text.lowerAscii name))

/-- The headers that have one of these names. -/
def seen (names : List String) (headers : List (String × String)) : List (String × String) :=
  headers.filter fun h => Named names h.1

theorem captures_iff {names : List String} {name : String} :
    (HeaderCapture.only names).captures name = true ↔ Named names name := by
  simp [HeaderCapture.captures, Named, Text.sameAscii]

theorem select_only (names : List String) (headers : List (String × String)) :
    (HeaderCapture.only names).select headers = seen names headers := by
  refine List.filter_congr fun h _ => ?_
  rw [Bool.eq_iff_iff, captures_iff, decide_eq_true_iff]

/-! ## Subjects -/

namespace Policy.Subject

theorem starts_headerField (name : String) : "header_".toList <+: (headerField name).toList := by
  rw [headerField, String.toList_append]
  exact List.prefix_append _ _

/-- Headers leave all attributes alone that are no header's. -/
theorem get?_withHeaders {field : String} (hf : ¬"header_".toList <+: field.toList) (s : Subject)
    (headers : List (String × String)) :
    (withHeaders s headers).get? field = s.get? field := by
  induction headers generalizing s with
  | nil => rfl
  | cons h rest ih =>
    have hne : field ≠ headerField h.1 := by
      rintro rfl
      exact hf (starts_headerField h.1)
    show (withHeaders (s.put (headerField h.1) (.text h.2)) rest).get? field = _
    rw [ih, Table.get?_put, if_neg hne]

/-- The attributes that do not come from headers. -/
def ownFields : List String :=
  ["url", "method", "hostname", "path", "scheme"]

theorem get?_ofRequest {field : String} (hf : field ∈ ownFields) (url method : String)
    (headers : List (String × String)) :
    (ofRequest url method headers).get? field = (ofRequest url method []).get? field := by
  have hown : ∀ field ∈ ownFields, ¬"header_".toList <+: field.toList := by decide
  rw [ofRequest, ofRequest, get?_withHeaders (hown field hf), get?_withHeaders (hown field hf)]

end Policy.Subject

/-! ## One request -/

namespace Interceptor

/-- What is not captured makes no difference. -/
theorem review_congr {i : Interceptor} {names : List String} (hc : i.capture = .only names)
    (now : Nat) (method url : String) {headers others : List (String × String)}
    (h : seen names headers = seen names others) :
    i.review now method url headers = i.review now method url others := by
  have hj : i.judge now method url headers = i.judge now method url others := by
    unfold judge
    rw [hc, select_only, select_only, h]
  unfold review
  rw [hj]

end Interceptor

/-- The violation that an admission notes. -/
def Admission.violation? : Admission → Option Violation
  | excluded => none
  | allowed => none
  | reported v => some v
  | blocked v => some v

namespace Visit

/-- What becomes of the request of a visit. -/
def admission (v : Visit) (i : Interceptor) (o : Origin) : Admission :=
  Interceptor.review { i with cache := v.cache } v.now v.request.method (v.url o)
    v.request.headers

/-- Visits with requests that look the same to whoever sees only these headers. Their bodies,
their answers, how long these take and the time in their events may differ. -/
structure Alike (names : List String) (v w : Visit) : Prop where
  now : v.now = w.now
  cache : v.cache = w.cache
  kind : v.kind = w.kind
  method : v.request.method = w.request.method
  url : v.request.url = w.request.url
  headers : seen names v.request.headers = seen names w.request.headers

variable {names : List String} {v w : Visit} {i : Interceptor}

theorem Alike.url_eq (h : Alike names v w) (o : Origin) : v.url o = w.url o := by
  unfold Visit.url
  rw [h.kind, h.url]

theorem Alike.admission_eq (h : Alike names v w) (hc : i.capture = .only names) (o : Origin) :
    v.admission i o = w.admission i o := by
  have hi : Interceptor.capture { i with cache := w.cache } = .only names := hc
  unfold admission
  rw [h.cache, h.now, h.method, h.url_eq o]
  exact Interceptor.review_congr hi _ _ _ h.headers

/-- The events about the violation of a visit: one or none. -/
def denials (v : Visit) (i : Interceptor) (o : Origin) : List Event.Content :=
  (v.admission i o).violation?.toList.map (i.violationEvent v.request.method (v.url o))

theorem Alike.denials_eq (h : Alike names v w) (hc : i.capture = .only names) (o : Origin) :
    v.denials i o = w.denials i o := by
  unfold denials
  rw [h.admission_eq hc o, h.method, h.url_eq o]

/-- Fate and admission say the same. -/
theorem admission_eq (v : Visit) (i : Interceptor) (o : Origin) :
    v.admission i o =
      match v.fate i o with
      | .excluded => .excluded
      | .blocked => .blocked (v.violation i o)
      | .forwarded true => .allowed
      | .forwarded false => .reported (v.violation i o) := by
  have hx : Interceptor.isExcluded { i with cache := v.cache } (v.url o) = i.isExcluded (v.url o) :=
    rfl
  have hj : Interceptor.judge { i with cache := v.cache } v.now v.request.method (v.url o)
      v.request.headers = v.verdict i o := rfl
  unfold admission Interceptor.review Visit.fate
  rw [hx, hj]
  by_cases h1 : i.isExcluded (v.url o) = true
  · simp [h1]
  · by_cases h2 : (v.verdict i o).isAllowed = true
    · simp [h1, h2]
    · cases hm : i.mode <;> simp [h1, h2, violation, Interceptor.violation]

theorem outcome_of_blocked {o : Origin} {x : Violation} (h : v.admission i o = .blocked x) :
    v.outcome i o = .error (.blocked x) := by
  rw [admission_eq] at h
  unfold outcome
  split at h <;> simp_all

theorem map_congr_of_alike {α : Type} {f : Visit → α}
    (hf : ∀ v w, Alike names v w → f v = f w) {visits visits' : List Visit}
    (h : List.Forall₂ (Alike names) visits visits') : visits.map f = visits'.map f := by
  induction h with
  | nil => rfl
  | cons hv _ ih => rw [List.map_cons, List.map_cons, hf _ _ hv, ih]

theorem filter_events (v : Visit) (i : Interceptor) (o : Origin) :
    (v.events i o).filter (·.kind = .policyViolation) = v.denials i o := by
  have hd (x : Violation) :
      (i.violationEvent v.request.method (v.url o) x).kind = .policyViolation := rfl
  have hr (allowed : Bool) : (v.report i o allowed).kind = .interception := rfl
  unfold events denials
  rw [admission_eq]
  cases v.fate i o with
  | excluded => rfl
  | blocked => simp [hd, Admission.violation?, denial]
  | forwarded allowed =>
    cases allowed with
    | true => simp [hr, Admission.violation?]
    | false => simp [hd, hr, Admission.violation?, denial]

end Visit

/-! ## Any session -/

/-- What the events about violations say, in order. -/
def violationContents (events : List Event) : List Event.Content :=
  (events.map Event.content).filter (·.kind = .policyViolation)

namespace Network

/-- The events about violations of a session, by the admissions of its requests. -/
theorem violationContents_session {net : Network} {name backend : String} {i : Interceptor}
    {b : Backend} (hi : net.interceptor? name = some i)
    (hb : Table.get? backend net.backends = some b) (visits : List Visit) :
    ∃ events, (net.session name backend visits).2.emitted = net.emitted ++ events ∧
      violationContents events = taken i.sink (visits.flatMap (·.denials i b.origin)) := by
  obtain ⟨-, cache, answer, hm⟩ := session_served hi hb visits
  obtain ⟨events, he, hc, -⟩ := hm.told
  refine ⟨events, he, ?_⟩
  rw [violationContents, hc]
  show (taken i.sink _).filter _ = _
  unfold taken
  split
  · simp only [List.filter_flatMap, Visit.filter_events]
  · rfl

theorem blocked_session {net : Network} {name backend : String} {i : Interceptor} {b : Backend}
    (hi : net.interceptor? name = some i) (hb : Table.get? backend net.backends = some b)
    {visits : List Visit} {k : Nat} {x : Violation}
    (hk : (visits.map (·.admission i b.origin))[k]? = some (.blocked x)) :
    (net.session name backend visits).1[k]? = some (.error (.blocked x)) := by
  obtain ⟨ho, -⟩ := session_served hi hb visits
  rw [List.getElem?_map] at hk
  obtain ⟨v, hv, ha⟩ := Option.map_eq_some_iff.mp hk
  rw [ho, List.getElem?_map, hv, Option.map_some, Visit.outcome_of_blocked ha]

/-- What an interceptor does not capture decides nothing: not about a request, nor in a session,
and no header stands for an attribute that is not a header's. -/
theorem unseen_session {names : List String} {i : Interceptor} (hc : i.capture = .only names)
    {net net' : Network} {name backend : String} {b b' : Backend}
    (hi : net.interceptor? name = some i) (hi' : net'.interceptor? name = some i)
    (hb : Table.get? backend net.backends = some b)
    (hb' : Table.get? backend net'.backends = some b') (ho : b'.origin = b.origin)
    {visits visits' : List Visit} (h : List.Forall₂ (Visit.Alike names) visits visits') :
    (∀ now method url headers others, seen names headers = seen names others →
      i.review now method url headers = i.review now method url others) ∧
    visits.map (·.admission i b.origin) = visits'.map (·.admission i b'.origin) ∧
    (∀ (k : Nat) (x : Violation), (visits.map (·.admission i b.origin))[k]? = some (.blocked x) →
      (net.session name backend visits).1[k]? = some (.error (.blocked x)) ∧
        (net'.session name backend visits').1[k]? = some (.error (.blocked x))) ∧
    (∃ events events',
      (net.session name backend visits).2.emitted = net.emitted ++ events ∧
        (net'.session name backend visits').2.emitted = net'.emitted ++ events' ∧
        violationContents events = taken i.sink (visits.flatMap (·.denials i b.origin)) ∧
        violationContents events' = violationContents events) ∧
    ∀ url method headers, ∀ field ∈ Policy.Subject.ownFields,
      (Policy.Subject.ofRequest url method headers).get? field =
        (Policy.Subject.ofRequest url method []).get? field := by
  have hadmitted :
      visits.map (·.admission i b.origin) = visits'.map (·.admission i b'.origin) := by
    rw [ho]
    exact Visit.map_congr_of_alike (fun _ _ hv => hv.admission_eq hc b.origin) h
  have hdenied : visits.flatMap (·.denials i b.origin) =
      visits'.flatMap (·.denials i b'.origin) := by
    rw [ho, List.flatMap_def, List.flatMap_def]
    exact congrArg List.flatten
      (Visit.map_congr_of_alike (fun _ _ hv => hv.denials_eq hc b.origin) h)
  refine ⟨?review, hadmitted, ?blocked, ?events, ?fields⟩
  case review =>
    intro now method url headers others hs
    exact Interceptor.review_congr hc now method url hs
  case blocked =>
    intro k x hk
    exact ⟨blocked_session hi hb hk, blocked_session hi' hb' (hadmitted ▸ hk)⟩
  case events =>
    obtain ⟨events, he, hv⟩ := violationContents_session hi hb visits
    obtain ⟨events', he', hv'⟩ := violationContents_session hi' hb' visits'
    exact ⟨events, events', he, he', hv, by rw [hv', hv, hdenied]⟩
  case fields =>
    intro url method headers field hf
    exact Policy.Subject.get?_ofRequest hf url method headers

/-! A guard that sees one header and blocks a team, and two sessions that differ in all other
headers, the bodies and the answers. -/

def noRedTeam : Cache :=
  { Cache.disabled with
    hasSource := true
    snapshot := Cache.Snapshot.empty.publish 0
      "forbid (principal, action, resource) when \x7b request.header_x_team == \"red\" \x7d;" }

def teamGuard : Interceptor :=
  ⟨.block, none, some .failing, [], .only ["x-Team"], 0⟩

def teamNetwork : Network :=
  { guardedNetwork with interceptors := [("guard", teamGuard)] }

def teamVisit (answer : Backend.Answer) (headers : List (String × String)) (body : List UInt8) :
    Visit :=
  ⟨5, ⟨⟨2024, 1, 1⟩, 0, 0, 0, 0⟩, some noRedTeam, answer, .ofInt body.length, .sync,
    ⟨"GET", "status", headers, body⟩⟩

def plainVisits : List Visit :=
  [teamVisit (.error "down") [("X-Team", "red")] [], teamVisit (.error "down") [] []]

def dressedVisits : List Visit :=
  [teamVisit (.ok ⟨200, [], []⟩) [("X-Teams", "blue"), ("X-Team", "red"), ("Cookie", "x")] [7],
    teamVisit (.ok ⟨200, [], []⟩) [("Header-X-Team", "red")] [7]]

def redTeam : Violation where
  action := "http"
  target := "GET status"
  reason := "Forbidden by policy: header_x_team == \"red\""
  policyId := some
    "forbid (principal, action, resource) when \x7b request.header_x_team == \"red\" \x7d;"

theorem unseen_plainVisits :
    teamGuard.capture = .only ["x-Team"] ∧
      List.Forall₂ (Visit.Alike ["x-Team"]) plainVisits dressedVisits ∧
      dressedVisits.map (·.admission teamGuard quietBackend.origin) =
        [.blocked redTeam, .allowed] ∧
      (teamNetwork.session "guard" "api" dressedVisits).1[0]? =
        some (.error (.blocked redTeam)) := by
  have hi : teamNetwork.interceptor? "guard" = some teamGuard := rfl
  have hb : Table.get? "api" teamNetwork.backends = some quietBackend := rfl
  have h : List.Forall₂ (Visit.Alike ["x-Team"]) plainVisits dressedVisits :=
    .cons ⟨rfl, rfl, rfl, rfl, rfl, by decide +kernel⟩
      (.cons ⟨rfl, rfl, rfl, rfl, rfl, by decide +kernel⟩ .nil)
  have hplain : plainVisits.map (·.admission teamGuard quietBackend.origin) =
      [.blocked redTeam, .allowed] := by
    decide +kernel
  obtain ⟨-, hadmitted, hblocked, -⟩ := unseen_session rfl hi hi hb hb rfl h
  refine ⟨rfl, h, hadmitted ▸ hplain, ?_⟩
  exact (hblocked 0 redTeam (by rw [hplain]; rfl)).2

end Network

end PolicyGuard
