import PolicyGuard.Interceptor.Transport

/-!
Complete mediation: nothing is sent past an interceptor.

A session is a list of visits to a backend behind one interceptor. Before each
visit the clock, the policies and the answer of the backend may change in any
way. `Visit.fate` says what becomes of a request; the calls, the events, the
count and the outcome of the visit follow from the fate alone.

* `send_intercepted`: one request, over any inner transport;
* `visit_mediated`: one visit to a backend;
* `session_mediated`: any session, in all three kinds of transport.
-/

namespace PolicyGuard

/-- A request, with the world as it is when it is sent. -/
structure Visit where
  now : Nat
  time : Timestamp
  /-- The cache of the interceptor, with its snapshot of the moment. -/
  cache : Option Cache
  /-- What the backend answers if it is asked. -/
  answer : Backend.Answer
  /-- How long that takes. -/
  took : Binary64
  kind : TransportKind
  request : Request

/-- What becomes of a request. -/
inductive Fate where
  | excluded
  | blocked
  | forwarded (allowed : Bool)
  deriving DecidableEq, Repr

/-- What the events about a request say, in order: their kinds, and what they note under
`allowed`. -/
def Fate.notes : Fate → List (EventKind × Option Json)
  | excluded => []
  | blocked => [(.policyViolation, none)]
  | forwarded true => [(.interception, some (.bool true))]
  | forwarded false => [(.policyViolation, none), (.interception, some (.bool false))]

def Event.Content.note (c : Event.Content) : EventKind × Option Json :=
  (c.kind, Table.get? "allowed" c.metadata)

namespace Visit

/-- The address that is judged. Only a pool judges another one than it sends. -/
def url (v : Visit) (o : Origin) : String :=
  match v.kind with
  | .pool => o.fullUrl v.request.url
  | .sync | .async => v.request.url

/-- What the policies of the moment say. Without a cache everything is allowed. -/
def verdict (v : Visit) (i : Interceptor) (o : Origin) : Policy.Verdict :=
  match v.cache with
  | none => .allow "No policy cache configured"
  | some cache =>
    cache.evaluate v.now
      (.ofRequest (v.url o) v.request.method (i.capture.select v.request.headers))

def fate (v : Visit) (i : Interceptor) (o : Origin) : Fate :=
  if i.isExcluded (v.url o) then .excluded
  else if (v.verdict i o).isAllowed then .forwarded true
  else if i.mode = .block then .blocked
  else .forwarded false

/-- The violation of a request that is denied. -/
def violation (v : Visit) (i : Interceptor) (o : Origin) : Violation where
  action := "http"
  target := v.request.method ++ " " ++ v.url o
  reason := (v.verdict i o).reason
  policyId := (v.verdict i o).policyId

/-- What the caller gets. -/
def outcome (v : Visit) (i : Interceptor) (o : Origin) : Except SendError Response :=
  match v.fate i o with
  | .blocked => .error (.blocked (v.violation i o))
  | .excluded | .forwarded _ => v.answer.outcome

/-- The requests that reach the backend. -/
def calls (v : Visit) (i : Interceptor) (o : Origin) : List Request :=
  match v.fate i o with
  | .blocked => []
  | .excluded | .forwarded _ => [v.request]

/-- The event of a request that is denied. -/
def denial (v : Visit) (i : Interceptor) (o : Origin) : Event.Content :=
  i.violationEvent v.request.method (v.url o) (v.violation i o)

/-- The event of a request that is forwarded. -/
def report (v : Visit) (i : Interceptor) (o : Origin) (allowed : Bool) : Event.Content :=
  i.forwardEvent v.request.method (v.url o) v.answer.outcome v.took allowed

/-- The events about a request, for a sink to take. -/
def events (v : Visit) (i : Interceptor) (o : Origin) : List Event.Content :=
  match v.fate i o with
  | .excluded => []
  | .blocked => [v.denial i o]
  | .forwarded true => [v.report i o true]
  | .forwarded false => [v.denial i o, v.report i o false]

/-- Whether the interceptor counts the request. -/
def isCounted (v : Visit) (i : Interceptor) (o : Origin) : Bool :=
  match v.fate i o with
  | .forwarded _ => true
  | .excluded | .blocked => false

end Visit

/-! ## Sessions -/

namespace Network

/-- The world as a visit finds it. -/
def prepare (net : Network) (name backend : String) (v : Visit) : Network where
  interceptors := match net.interceptor? name with
    | some i => Table.put name { i with cache := v.cache } net.interceptors
    | none => net.interceptors
  backends := match Table.get? backend net.backends with
    | some b => Table.put backend { b with answer := v.answer } net.backends
    | none => net.backends
  sinks := net.sinks
  now := v.now
  time := v.time
  emitted := net.emitted

/-- One request to a backend behind an interceptor. -/
def visit (net : Network) (name backend : String) (v : Visit) :
    Except SendError Response × Network :=
  (net.prepare name backend v).send v.kind (.intercepted name (.backend backend)) v.request
    fun _ => v.took

/-- Requests one after the other, with what their callers get. -/
def session (net : Network) (name backend : String) :
    List Visit → List (Except SendError Response) × Network
  | [] => ([], net)
  | v :: rest =>
    let (outcome, net) := net.visit name backend v
    let (outcomes, net) := net.session name backend rest
    (outcome :: outcomes, net)

/-- What a sink that is not there takes is nothing. -/
def taken (sink : Option Sink) (contents : List Event.Content) : List Event.Content :=
  if sink.isSome then contents else []

/-- Some events in a sink, one after the other; whether it fails does not matter. -/
def fill (sink : Option Sink) (s : SinkStore) (events : List Event) : SinkStore :=
  match sink with
  | none => s
  | some sink => events.foldl (fun s e => (sink.track e s).2) s

/-- From one network to another, exactly these events were emitted, and handed to the sink. -/
def Told (sink : Option Sink) (net after : Network) (contents : List Event.Content) : Prop :=
  ∃ events : List Event, after.emitted = net.emitted ++ events ∧
    events.map Event.content = taken sink contents ∧ after.sinks = fill sink net.sinks events

theorem told_nil {sink : Option Sink} {net after : Network} (he : after.emitted = net.emitted)
    (hs : after.sinks = net.sinks) : Told sink net after [] := by
  refine ⟨[], by simp [he], by simp [taken], ?_⟩
  cases sink <;> simp [fill, hs]

theorem Told.trans {sink : Option Sink} {net mid after : Network} {cs ds : List Event.Content}
    (h : Told sink net mid cs) (h' : Told sink mid after ds) :
    Told sink net after (cs ++ ds) := by
  obtain ⟨es, he, hc, hs⟩ := h
  obtain ⟨fs, hf, hd, ht⟩ := h'
  refine ⟨es ++ fs, by rw [hf, he, List.append_assoc], ?_, ?_⟩
  · rw [List.map_append, hc, hd]
    cases sink <;> simp [taken]
  · rw [ht, hs]
    cases sink <;> simp [fill]

theorem told_emit (net : Network) (sink : Option Sink) (c : Event.Content) :
    Told sink net (net.emit sink c) [c] := by
  cases sink with
  | none => exact ⟨[], by simp [emit], rfl, rfl⟩
  | some s => exact ⟨_, rfl, rfl, rfl⟩

/-! ## What an event leaves alone -/

@[simp]
theorem interceptors_emit (net : Network) (sink : Option Sink) (c : Event.Content) :
    (net.emit sink c).interceptors = net.interceptors := by
  cases sink <;> rfl

@[simp]
theorem backends_emit (net : Network) (sink : Option Sink) (c : Event.Content) :
    (net.emit sink c).backends = net.backends := by
  cases sink <;> rfl

@[simp]
theorem interceptor?_emit (net : Network) (sink : Option Sink) (c : Event.Content) (name : String) :
    (net.emit sink c).interceptor? name = net.interceptor? name := by
  simp [interceptor?]

theorem interceptor?_setInterceptor (net : Network) (name : String) (i : Interceptor) :
    (net.setInterceptor name i).interceptor? name = some i := by
  simp [setInterceptor, interceptor?, Table.get?_put]

/-! ## One request -/

/-- An interceptor around any inner transport: the inner one sends the request as it
is, at most once, and its outcome is the outcome. -/
theorem send_intercepted {net : Network} {name : String} {i : Interceptor}
    (hi : net.interceptor? name = some i) (kind : TransportKind) (inner : Transport) (r : Request)
    (took : Transport → Binary64) :
    net.send kind (.intercepted name inner) r took =
      let url := net.judgedUrl kind inner r.url
      let verdict := i.judge net.now r.method url r.headers
      let v := Interceptor.violation r.method url verdict
      let told := net.emit i.sink (i.violationEvent r.method url v)
      if i.isExcluded url then net.send kind inner r took
      else if verdict.isAllowed then
        let sent := net.send kind inner r took
        (sent.1, sent.2.record name r.method url sent.1 (took inner) true)
      else if i.mode = .block then (.error (.blocked v), told)
      else
        let sent := told.send kind inner r took
        (sent.1, sent.2.record name r.method url sent.1 (took inner) false) := by
  simp only [send, mediate, hi, Interceptor.review]
  by_cases hx : i.isExcluded (net.judgedUrl kind inner r.url) = true
  · simp [hx]
  · by_cases ha : (i.judge net.now r.method (net.judgedUrl kind inner r.url) r.headers).isAllowed = true
    · simp [hx, ha]
    · cases hm : i.mode <;> simp [hx, ha]

theorem record_eq {net : Network} {name : String} {i : Interceptor}
    (hi : net.interceptor? name = some i) (method url : String)
    (outcome : Except SendError Response) (duration : Binary64) (allowed : Bool) :
    net.record name method url outcome duration allowed =
      (net.setInterceptor name { i with interceptions := i.interceptions + 1 }).emit i.sink
        (i.forwardEvent method url outcome duration allowed) := by
  simp [record, hi]

theorem call_eq {net : Network} {backend : String} {b : Backend}
    (hb : Table.get? backend net.backends = some b) (r : Request) :
    net.call backend r = (b.answer.outcome, { net with
      backends := Table.put backend { b with received := b.received ++ [r] } net.backends }) := by
  simp [call, hb]

/-- What some requests through an interceptor have done: what the interceptor counted,
what the backend received, that no other backend received anything, and which events there
were. -/
structure Mediated (net after : Network) (name backend : String) (i : Interceptor) (b : Backend)
    (count : Nat) (requests : List Request) (contents : List Event.Content) : Prop where
  counted : after.interceptor? name = some { i with interceptions := i.interceptions + count }
  received : Table.get? backend after.backends = some { b with received := b.received ++ requests }
  others : ∀ other, other ≠ backend →
    Table.get? other after.backends = Table.get? other net.backends
  told : Told i.sink net after contents

section Forwarding

variable {net : Network} {name backend : String} {i : Interceptor} {b : Backend}
  (hi : net.interceptor? name = some i) (hb : Table.get? backend net.backends = some b)

include hi hb

theorem mediated_nil : Mediated net net name backend i b 0 [] [] where
  counted := by simpa using hi
  received := by simpa using hb
  others _ _ := rfl
  told := told_nil rfl rfl

theorem mediated_emit (c : Event.Content) :
    Mediated net (net.emit i.sink c) name backend i b 0 [] [c] where
  counted := by simpa using hi
  received := by simpa using hb
  others := by simp
  told := told_emit net i.sink c

theorem mediated_call (r : Request) :
    (net.call backend r).1 = b.answer.outcome ∧
      Mediated net (net.call backend r).2 name backend i b 0 [r] [] := by
  rw [call_eq hb]
  refine ⟨rfl, ?_, ?_, ?_, told_nil rfl rfl⟩
  · exact hi
  · simp [Table.get?_put]
  · intro other ho
    simp [Table.get?_put, ho]

theorem mediated_record (method url : String) (outcome : Except SendError Response)
    (duration : Binary64) (allowed : Bool) :
    Mediated net (net.record name method url outcome duration allowed) name backend i b 1 []
      [i.forwardEvent method url outcome duration allowed] := by
  rw [record_eq hi]
  refine ⟨?_, ?_, ?_, ?_⟩
  · simp [interceptor?_setInterceptor]
  · simpa [setInterceptor] using hb
  · intro other _
    simp [setInterceptor]
  · have h := told_emit (net.setInterceptor name { i with interceptions := i.interceptions + 1 })
      i.sink (i.forwardEvent method url outcome duration allowed)
    exact (told_nil rfl rfl : Told i.sink net _ []).trans h

end Forwarding

theorem Mediated.trans {net mid after : Network} {name backend : String} {i : Interceptor}
    {b : Backend} {cache cache' : Option Cache} {answer answer' : Backend.Answer} {m n : Nat}
    {rs ss : List Request} {cs ds : List Event.Content}
    (h : Mediated net mid name backend { i with cache } { b with answer } m rs cs)
    (h' : Mediated mid after name backend
      { i with cache := cache', interceptions := i.interceptions + m }
      { b with answer := answer', received := b.received ++ rs } n ss ds) :
    Mediated net after name backend { i with cache := cache' } { b with answer := answer' }
      (m + n) (rs ++ ss) (cs ++ ds) where
  counted := by rw [h'.counted, Nat.add_assoc]
  received := by rw [h'.received, List.append_assoc]
  others other ho := (h'.others other ho).trans (h.others other ho)
  told := h.told.trans h'.told

/-! ## One visit -/

section Preparing

variable {net : Network} {name backend : String} {i : Interceptor} {b : Backend}
  (hi : net.interceptor? name = some i) (hb : Table.get? backend net.backends = some b)

include hi in
theorem interceptor?_prepare (v : Visit) :
    (net.prepare name backend v).interceptor? name = some { i with cache := v.cache } := by
  have h : (net.prepare name backend v).interceptors =
      Table.put name { i with cache := v.cache } net.interceptors := by
    simp [prepare, hi]
  simp [interceptor?, h, Table.get?_put]

include hb

theorem backend_prepare (v : Visit) :
    Table.get? backend (net.prepare name backend v).backends =
      some { b with answer := v.answer } := by
  simp [prepare, hb, Table.get?_put]

theorem others_prepare (v : Visit) (other : String) (ho : other ≠ backend) :
    Table.get? other (net.prepare name backend v).backends = Table.get? other net.backends := by
  simp [prepare, hb, Table.get?_put, ho]

theorem judgedUrl_prepare (v : Visit) :
    (net.prepare name backend v).judgedUrl v.kind (.backend backend) v.request.url =
      v.url b.origin := by
  have h : Table.get? backend (net.prepare name backend v).backends = _ := backend_prepare hb v
  unfold judgedUrl origin? Visit.url
  rw [h]
  cases v.kind <;> rfl

theorem Mediated.of_prepare {v : Visit} {after : Network} {i : Interceptor} {b : Backend}
    {m : Nat} {rs : List Request} {cs : List Event.Content}
    (h : Mediated (net.prepare name backend v) after name backend i b m rs cs) :
    Mediated net after name backend i b m rs cs where
  counted := h.counted
  received := h.received
  others other ho := (h.others other ho).trans (others_prepare hb v other ho)
  told := (told_nil rfl rfl : Told i.sink net (net.prepare name backend v) []).trans h.told

end Preparing

/-- A request that is forwarded is counted and reported after the backend has answered. -/
theorem mediated_forward {net : Network} {name backend : String} {i : Interceptor} {b : Backend}
    (hi : net.interceptor? name = some i) (hb : Table.get? backend net.backends = some b)
    (url : String) (r : Request) (duration : Binary64) (allowed : Bool) :
    (net.call backend r).1 = b.answer.outcome ∧
      Mediated net
        ((net.call backend r).2.record name r.method url (net.call backend r).1 duration allowed)
        name backend i b 1 [r]
        [i.forwardEvent r.method url b.answer.outcome duration allowed] := by
  obtain ⟨ho, hc⟩ := mediated_call hi hb r
  refine ⟨ho, ?_⟩
  have hr := mediated_record hc.counted hc.received r.method url (net.call backend r).1 duration
    allowed
  rw [ho] at hr ⊢
  exact hc.trans hr

/-- A visit by its fate. -/
theorem visit_eq {net : Network} {name backend : String} {i : Interceptor} {b : Backend}
    (hi : net.interceptor? name = some i) (hb : Table.get? backend net.backends = some b)
    (v : Visit) :
    net.visit name backend v =
      let ready := net.prepare name backend v
      let told := ready.emit i.sink (v.denial i b.origin)
      let recorded (sent : Except SendError Response × Network) (allowed : Bool) :=
        (sent.1, sent.2.record name v.request.method (v.url b.origin) sent.1 v.took allowed)
      match v.fate i b.origin with
      | .excluded => ready.call backend v.request
      | .blocked => (.error (.blocked (v.violation i b.origin)), told)
      | .forwarded true => recorded (ready.call backend v.request) true
      | .forwarded false => recorded (told.call backend v.request) false := by
  have hv : Interceptor.judge { i with cache := v.cache } (net.prepare name backend v).now
      v.request.method (v.url b.origin) v.request.headers = v.verdict i b.origin := by
    rfl
  have hx : Interceptor.isExcluded { i with cache := v.cache } (v.url b.origin) =
      i.isExcluded (v.url b.origin) := by
    rfl
  have hw : Interceptor.violation v.request.method (v.url b.origin) (v.verdict i b.origin) =
      v.violation i b.origin := by
    rfl
  have hd : Interceptor.violationEvent { i with cache := v.cache } v.request.method
      (v.url b.origin) (v.violation i b.origin) = v.denial i b.origin := by
    rfl
  unfold visit
  rw [send_intercepted (interceptor?_prepare hi v), judgedUrl_prepare hb]
  simp only [hv, hx, hw, hd, send, Visit.fate]
  by_cases h1 : i.isExcluded (v.url b.origin) = true
  · simp [h1]
  · by_cases h2 : (v.verdict i b.origin).isAllowed = true
    · simp [h1, h2]
    · by_cases h3 : i.mode = .block <;> simp [h1, h2, h3]

/-- One visit: the fate of the request decides about the outcome, the calls, the events
and the count. -/
theorem visit_mediated {net : Network} {name backend : String} {i : Interceptor} {b : Backend}
    (hi : net.interceptor? name = some i) (hb : Table.get? backend net.backends = some b)
    (v : Visit) :
    (net.visit name backend v).1 = v.outcome i b.origin ∧
      Mediated net (net.visit name backend v).2 name backend { i with cache := v.cache }
        { b with answer := v.answer }
        (v.isCounted i b.origin).toNat (v.calls i b.origin) (v.events i b.origin) := by
  have hp : (net.prepare name backend v).interceptor? name = _ := interceptor?_prepare hi v
  have hq : Table.get? backend (net.prepare name backend v).backends = _ := backend_prepare hb v
  have ht := mediated_emit hp hq (v.denial i b.origin)
  rw [visit_eq hi hb]
  unfold Visit.outcome Visit.isCounted Visit.calls Visit.events
  cases hf : v.fate i b.origin with
  | excluded =>
    obtain ⟨ho, hm⟩ := mediated_call hp hq v.request
    exact ⟨ho, hm.of_prepare hb⟩
  | blocked => exact ⟨rfl, ht.of_prepare hb⟩
  | forwarded allowed =>
    cases allowed with
    | true =>
      obtain ⟨ho, hm⟩ := mediated_forward hp hq (v.url b.origin) v.request v.took true
      exact ⟨ho, hm.of_prepare hb⟩
    | false =>
      obtain ⟨ho, hm⟩ :=
        mediated_forward ht.counted ht.received (v.url b.origin) v.request v.took false
      exact ⟨ho, (ht.trans hm).of_prepare hb⟩

/-! ## Any session -/

theorem note_denial (v : Visit) (i : Interceptor) (o : Origin) :
    (v.denial i o).note = (.policyViolation, none) := by
  simp [Visit.denial, Event.Content.note, Interceptor.violationEvent, Table.ofList,
    Table.get?_put, Table.get?]

theorem note_report (v : Visit) (i : Interceptor) (o : Origin) (allowed : Bool) :
    (v.report i o allowed).note = (.interception, some (.bool allowed)) := by
  unfold Visit.report Event.Content.note Interceptor.forwardEvent
  cases v.answer.outcome <;> simp [Table.ofList, Table.get?_put]

theorem note_events (v : Visit) (i : Interceptor) (o : Origin) :
    (v.events i o).map Event.Content.note = (v.fate i o).notes := by
  unfold Visit.events Fate.notes
  cases v.fate i o with
  | excluded => rfl
  | blocked => simp [note_denial]
  | forwarded allowed => cases allowed <;> simp [note_denial, note_report]

theorem session_served {net : Network} {name backend : String} {i : Interceptor} {b : Backend}
    (hi : net.interceptor? name = some i) (hb : Table.get? backend net.backends = some b)
    (visits : List Visit) :
    (net.session name backend visits).1 = visits.map (·.outcome i b.origin) ∧
      ∃ cache answer, Mediated net (net.session name backend visits).2 name backend
        { i with cache } { b with answer } (visits.countP (·.isCounted i b.origin))
        (visits.flatMap (·.calls i b.origin)) (visits.flatMap (·.events i b.origin)) := by
  induction visits generalizing net i b with
  | nil => exact ⟨rfl, i.cache, b.answer, mediated_nil hi hb⟩
  | cons v rest ih =>
    obtain ⟨ho, hm⟩ := visit_mediated hi hb v
    obtain ⟨hos, cache, answer, hms⟩ := ih hm.counted hm.received
    have hc : (v :: rest).countP (·.isCounted i b.origin) =
        (v.isCounted i b.origin).toNat + rest.countP (·.isCounted i b.origin) := by
      rw [List.countP_cons]
      cases v.isCounted i b.origin <;> simp [Nat.add_comm]
    -- the fates do not depend on the cache, the count or the calls so far
    have ht := hm.trans hms
    refine ⟨?_, cache, answer, ?_⟩
    · simp only [session, List.map_cons, ho, hos]
      rfl
    · rw [hc]
      exact ht

/-- **Complete mediation.** In any session the callers get, the backend receives, the
interceptor counts and the sink is told what the fates of the requests say, in order. -/
theorem session_mediated {net : Network} {name backend : String} {i : Interceptor} {b : Backend}
    (hi : net.interceptor? name = some i) (hb : Table.get? backend net.backends = some b)
    (visits : List Visit) :
    (net.session name backend visits).1 = visits.map (·.outcome i b.origin) ∧
      (∃ cache answer, Mediated net (net.session name backend visits).2 name backend
        { i with cache } { b with answer } (visits.countP (·.isCounted i b.origin))
        (visits.flatMap (·.calls i b.origin)) (visits.flatMap (·.events i b.origin))) ∧
      ∀ v ∈ visits, (v.events i b.origin).map Event.Content.note = (v.fate i b.origin).notes := by
  obtain ⟨ho, hm⟩ := session_served hi hb visits
  exact ⟨ho, hm, fun v _ => note_events v i b.origin⟩

/-! A guard that blocks every POST but to addresses that start with `local`, and whose
sink always fails. -/

def noPosts : Cache :=
  { Cache.disabled with
    hasSource := true
    snapshot := Cache.Snapshot.empty.publish 0
      "forbid (principal, action, resource) when \x7b request.method == \"POST\" \x7d;" }

def postGuard : Interceptor :=
  ⟨.block, none, some .failing, (Pattern.read? "^local").toList, .all, 0⟩

def quietBackend : Backend :=
  ⟨.ok ⟨200, [], []⟩, ⟨"http", "intranet", none⟩, []⟩

def guardedNetwork : Network :=
  ⟨[("guard", postGuard)], [("api", quietBackend)], .ofFiles .empty, 0, ⟨⟨2024, 1, 1⟩, 0, 0, 0, 0⟩, []⟩

def visitBy (kind : TransportKind) (method url : String) : Visit :=
  ⟨5, ⟨⟨2024, 1, 1⟩, 0, 0, 0, 0⟩, some noPosts, .error "down", .ofInt 20, kind,
    .new method url⟩

def someVisits : List Visit :=
  [visitBy .pool "post" "status", visitBy .async "get" "status", visitBy .sync "post" "local"]

theorem someVisits_mediated :
    guardedNetwork.interceptor? "guard" = some postGuard ∧
      Table.get? "api" guardedNetwork.backends = some quietBackend ∧
      someVisits.map (·.fate postGuard quietBackend.origin) =
        [.blocked, .forwarded true, .excluded] ∧
      (Table.get? "api" (guardedNetwork.session "guard" "api" someVisits).2.backends).map
        Backend.received = some [.new "get" "status", .new "post" "local"] := by
  have hi : guardedNetwork.interceptor? "guard" = some postGuard := rfl
  have hb : Table.get? "api" guardedNetwork.backends = some quietBackend := rfl
  obtain ⟨_, ⟨cache, answer, hm⟩, _⟩ := session_mediated hi hb someVisits
  have hc : someVisits.flatMap (·.calls postGuard quietBackend.origin) =
      [.new "get" "status", .new "post" "local"] := by
    decide +kernel
  refine ⟨hi, hb, by decide +kernel, ?_⟩
  rw [hm.received, hc]
  rfl

end Network

end PolicyGuard
