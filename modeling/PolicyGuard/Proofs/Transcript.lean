import PolicyGuard.Cache.Operation
import PolicyGuard.Interceptor.Settings
import PolicyGuard.Proofs.Bookkeeping
import PolicyGuard.Proofs.Delivery
import PolicyGuard.Proofs.LogFile
import PolicyGuard.Proofs.Mediation

/-!
The log of a guard is a transcript of its requests.

A guard is built from settings with a policy file and a log that does not exist yet.
Requests go through it one after the other, while time passes and the worker of its cache
reads the policy file again. `Guard.lines` says what the log has about a request.

* `Guard.assembled`: what the settings come to;
* `inForce_apply`: the rules in force remain those of the policy file;
* `visit_lines`: one request;
* `transcript_faithful`: the log after any requests, with a prompt worker behind the queue of
  the log and with any other.
-/

namespace PolicyGuard

open Interceptor (Settings)

/-! ## Lines -/

/-- What a line of a log says about a request. -/
inductive LogLine where
  | violation (reason : String) (policyId : Option String)
  | interception (allowed : Bool)
  deriving DecidableEq, Repr

namespace LogLine

/-- What an event of a type says. -/
def ofParts? (kind : String) (payload metadata : Table Json) : Option LogLine :=
  if kind = "policy_violation" then
    match Table.get? "reason" payload, Table.get? "policy_id" metadata with
    | some (.string reason), some (.string id) => some (.violation reason (some id))
    | some (.string reason), some .null => some (.violation reason none)
    | _, _ => none
  else if kind = "interception" then
    match Table.get? "allowed" metadata with
    | some (.bool allowed) => some (.interception allowed)
    | _ => none
  else none

def ofContent? (c : Event.Content) : Option LogLine :=
  ofParts? c.kind.name c.payload c.metadata

/-- What the value on a line says. -/
def of? : Json → Option LogLine
  | .object members =>
    match Table.get? "type" members, Table.get? "payload" members,
      Table.get? "metadata" members with
    | some (.string kind), some (.object payload), some (.object metadata) =>
      ofParts? kind payload metadata
    | _, _, _ => none
  | _ => none

theorem of?_json (e : Event) : of? e.json = ofContent? e.content :=
  rfl

def isInterception : LogLine → Bool
  | interception _ => true
  | violation _ _ => false

theorem ofContent?_denial (v : Visit) (i : Interceptor) (o : Origin) :
    ofContent? (v.denial i o) =
      some (.violation (v.verdict i o).reason (v.verdict i o).policyId) := by
  have hr : Table.get? "reason" (v.denial i o).payload = some (.string (v.verdict i o).reason) := by
    simp [Visit.denial, Visit.violation, Interceptor.violationEvent, Table.ofList, Table.get?_put]
  have hp : Table.get? "policy_id" (v.denial i o).metadata =
      some (((v.verdict i o).policyId.map Json.string).getD .null) := by
    simp [Visit.denial, Visit.violation, Interceptor.violationEvent, Table.ofList, Table.get?_put]
  have hk : (v.denial i o).kind.name = "policy_violation" := rfl
  rw [ofContent?, ofParts?, if_pos hk]
  simp only [hr, hp]
  cases (v.verdict i o).policyId <;> rfl

theorem ofContent?_report (v : Visit) (i : Interceptor) (o : Origin) (allowed : Bool) :
    ofContent? (v.report i o allowed) = some (.interception allowed) := by
  have hn := Network.note_report v i o allowed
  have hk : (v.report i o allowed).kind.name = "interception" := congrArg (·.1.name) hn
  have ha : Table.get? "allowed" (v.report i o allowed).metadata = some (.bool allowed) :=
    congrArg Prod.snd hn
  rw [ofContent?, ofParts?, hk, if_neg (by decide), if_pos rfl]
  simp only [ha]

end LogLine

/-! ## Guards -/

namespace Interceptor.Settings

/-- The cache over a policy file that can be read. -/
theorem cache_of_readable {s : Settings} {files : FileTree} {path policy : String}
    (hn : s.controlPlane = none) (hp : s.policyFile = some path)
    (hr : files.readText path = .ok policy) (now : Nat) :
    s.cache files now = .ok (some (.start s.cacheConfig none now (.ok (.ofText policy)))) := by
  have hs : s.source? = some (.file path) := by
    rw [source?, hn, hp]
  have hf : Cache.Source.fetch files (.file path) = .ok (.ofText policy) := by
    rw [Cache.Source.fetch, hr]
  rw [cache, hs]
  simp only [hf, FileTree.isFile_of_readText hr, ↓reduceIte]
  rfl

end Interceptor.Settings

/-- A guard, as its settings build it: with a policy file that can be read and a log that can
be made. -/
structure Guard where
  settings : Settings
  files : FileTree
  /-- When it is built. -/
  begun : Nat
  interceptor : Interceptor
  policyPath : String
  policy : String
  log : String
  noControlPlane : settings.controlPlane = none
  policyFile : settings.policyFile = some policyPath
  eventLog : settings.eventLog = some log
  readable : files.readText policyPath = .ok policy
  creates : files.CanCreate log
  built : settings.build files begun = .ok interceptor

namespace Guard

/-- The cache of a guard when it is built, with the first refresh done. -/
def cache (g : Guard) : Cache :=
  .start g.settings.cacheConfig none g.begun (.ok (.ofText g.policy))

theorem cache_eq (g : Guard) : g.settings.cache g.files g.begun = .ok (some g.cache) :=
  Settings.cache_of_readable g.noControlPlane g.policyFile g.readable g.begun

/-- A policy file has no endpoint, so nothing else is excluded than the settings say. -/
theorem new_eq (g : Guard) (mode : EnforcementMode) :
    Interceptor.new mode (some g.cache) g.settings.sink? g.settings.exclusions
        g.settings.capture =
      (Interceptor.readExclusions g.settings.exclusions).map fun exclusions =>
        ⟨mode, some g.cache, g.settings.sink?, exclusions, g.settings.capture, 0⟩ := by
  have he : Interceptor.endpointPatterns (some g.cache) = [] := rfl
  rw [Interceptor.new, he, List.append_nil]

/-- What the settings come to. -/
structure Assembled (g : Guard) : Prop where
  mode : EnforcementMode.read? g.settings.enforcement = some g.interceptor.mode
  exclusions : Interceptor.readExclusions g.settings.exclusions = .ok g.interceptor.exclusions
  cache : g.interceptor.cache = some g.cache
  sink : g.interceptor.sink = some (.queued g.log (.log g.log))
  capture : g.interceptor.capture = g.settings.capture
  interceptions : g.interceptor.interceptions = 0

theorem assembled (g : Guard) : g.Assembled := by
  have hb := g.built
  have hl : g.settings.sink? = some (.queued g.log (.log g.log)) := by
    rw [Settings.sink?, g.eventLog]
    rfl
  unfold Settings.build at hb
  cases hm : EnforcementMode.read? g.settings.enforcement with
  | none =>
    rw [hm] at hb
    cases hb
  | some mode =>
    simp only [hm, g.cache_eq, Except.bind, bind, g.new_eq] at hb
    cases hx : Interceptor.readExclusions g.settings.exclusions with
    | error pattern =>
      rw [hx] at hb
      cases hb
    | ok exclusions =>
      rw [hx] at hb
      have hi : (⟨mode, some g.cache, g.settings.sink?, exclusions, g.settings.capture, 0⟩ :
          Interceptor) = g.interceptor := Except.ok.inj hb
      rw [hl] at hi
      constructor <;> rw [← hi]
      · exact hm
      · exact hx

/-! ## The policies in force -/

/-- What happens to a guard: its cache reads the policy file again, time passes, or a request is
sent. -/
inductive Happening where
  | refresh
  | wait (span : Nat)
  | request (time : Timestamp) (took : Binary64) (r : Request)

/-- How long ago the policy file was read, after a happening. -/
def Happening.ageAfter (age : Nat) : Happening → Nat
  | refresh => 0
  | wait span => age + span
  | request _ _ _ => age

/-- The moment at which a guard is built. -/
def moment (g : Guard) : Cache.Moment :=
  ⟨g.cache, g.begun⟩

/-- What a happening does to the cache. The policy file does not change. -/
def apply (g : Guard) (m : Cache.Moment) : Happening → Cache.Moment
  | .refresh => m.apply (.work (.ok (.ofText g.policy)))
  | .wait span => m.apply (.advance span)
  | .request _ _ _ => m

/-- The rules of the policy file are in force, read that long ago. -/
structure InForce (g : Guard) (m : Cache.Moment) (age : Nat) : Prop where
  config : m.cache.config = g.settings.cacheConfig
  hasSource : m.cache.hasSource = true
  rules : m.cache.snapshot.rules = some (Policy.read g.policy)
  read : ∃ time, m.cache.snapshot.lastSuccess = some time ∧ m.now = time + age

theorem rules_refresh {s : Cache.Snapshot} {policy : String}
    (h : s.rules = some (Policy.read policy) ∨ s.contentHash = "") (now : Nat) :
    (s.refresh now (.ok (.ofText policy))).2.rules = some (Policy.read policy) := by
  have hc : (Cache.Bundle.ofText policy).combined = policy := String.intercalate_singleton
  unfold Cache.Snapshot.refresh
  simp only [hc]
  split
  · rename_i hs
    rcases h with h | h
    · exact h
    · simp [Cache.Snapshot.isCurrent, h, (Cache.contentHash_ne_empty policy).symm] at hs
  · rfl

theorem inForce_moment (g : Guard) : g.InForce g.moment 0 :=
  ⟨rfl, rfl, rules_refresh (.inr rfl) g.begun, g.begun,
    ((Cache.booked_refresh _ _ _).succeeded _ rfl).2, rfl⟩

theorem inForce_apply {g : Guard} {m : Cache.Moment} {age : Nat} (h : g.InForce m age)
    (x : Happening) : g.InForce (g.apply m x) (x.ageAfter age) := by
  cases x with
  | refresh =>
    -- the worker may be gone after this, but what it publishes does not depend on that
    have hw : g.apply m .refresh = ⟨{ (m.cache.refresh m.now (.ok (.ofText g.policy))).2 with
        due := m.cache.due.bind fun _ => m.cache.config.due? m.now }, m.now⟩ := by
      simp [apply, Cache.Moment.apply, Cache.work, h.hasSource]
    rw [hw]
    exact ⟨h.config, h.hasSource, rules_refresh (.inl h.rules) m.now, m.now,
      ((Cache.booked_refresh _ _ _).succeeded _ rfl).2, rfl⟩
  | wait span =>
    obtain ⟨time, ht, hn⟩ := h.read
    refine ⟨h.config, h.hasSource, h.rules, time, ht, ?_⟩
    show m.now + span = time + (age + span)
    omega
  | request time took r => exact h

/-- Whether policies of this age are too old. A tolerance of zero is none. -/
def isTooOld (g : Guard) (age : Nat) : Bool :=
  0 < g.settings.staleSeconds && g.settings.staleSeconds * 1000 < age

theorem isSome_staleAge? {g : Guard} {m : Cache.Moment} {age : Nat} (h : g.InForce m age) :
    (m.cache.staleAge? m.now).isSome = g.isTooOld age := by
  obtain ⟨time, ht, hn⟩ := h.read
  have ha : m.now - time = age := by omega
  rw [Cache.staleAge?_eq ht, h.config, ha]
  unfold isTooOld Settings.cacheConfig
  cases g.settings.staleSeconds with
  | zero => rfl
  | succ n =>
    have hn : (n + 1) * 1000 = n * 1000 + 999 + 1 := by omega
    rw [hn]
    by_cases hl : n * 1000 + 999 + 1 < age <;> simp [hl]

/-! ## One request -/

/-- What the policy file says about a request, of which it sees the captured headers. -/
def verdict (g : Guard) (r : Request) : Policy.Verdict :=
  Policy.decide (Policy.read g.policy)
    (.ofRequest r.url r.method (g.settings.capture.select r.headers))

/-- Whether a request is allowed by policies of this age. Those that are too old forbid nothing. -/
def allows (g : Guard) (age : Nat) (r : Request) : Bool :=
  g.isTooOld age || (g.verdict r).isAllowed

/-- What the log has about a request. -/
def lines (g : Guard) (age : Nat) (r : Request) : List LogLine :=
  if g.interceptor.isExcluded r.url then []
  else if g.allows age r then [.interception true]
  else
    .violation (g.verdict r).reason (g.verdict r).policyId ::
      if g.interceptor.mode = .block then [] else [.interception false]

/-- A request at a moment, through a guard before a transport that answers it. -/
def visit (response : Response) (m : Cache.Moment) (time : Timestamp) (took : Binary64)
    (r : Request) : Visit :=
  ⟨m.now, time, some m.cache, .ok response, took, .sync, r⟩

theorem verdict_visit {g : Guard} {m : Cache.Moment} {age : Nat} (h : g.InForce m age)
    (response : Response) (time : Timestamp) (took : Binary64) (r : Request) (o : Origin) :
    let v := (visit response m time took r).verdict g.interceptor o
    v.isAllowed = g.allows age r ∧ (g.allows age r = false → v = g.verdict r) := by
  have hc := g.assembled.capture
  have hs := isSome_staleAge? h
  simp only [visit, Visit.verdict, Visit.url, Cache.evaluate, h.rules, hc]
  rw [allows, ← hs]
  cases m.cache.staleAge? m.now with
  | none => exact ⟨rfl, fun _ => rfl⟩
  | some span => exact ⟨rfl, fun hn => by cases hn⟩

/-- What the log, the count and the transport get of one request. -/
theorem visit_lines {g : Guard} {m : Cache.Moment} {age : Nat} (h : g.InForce m age)
    (response : Response) (time : Timestamp) (took : Binary64) (r : Request) (o : Origin) :
    let v := visit response m time took r
    let ls := g.lines age r
    (v.events g.interceptor o).map LogLine.ofContent? = ls.map some ∧
      (v.isCounted g.interceptor o).toNat = ls.countP LogLine.isInterception ∧
      ((v.calls g.interceptor o).filter fun r => !g.interceptor.isExcluded r.url).length =
        ls.countP LogLine.isInterception := by
  obtain ⟨ha, hv⟩ := verdict_visit h response time took r o
  have hr : (visit response m time took r).request = r := rfl
  have hu : (visit response m time took r).url o = r.url := rfl
  generalize visit response m time took r = v at ha hv hr hu
  unfold Visit.events Visit.isCounted Visit.calls Visit.fate lines
  simp only [ha, hr, hu]
  by_cases hx : g.interceptor.isExcluded r.url = true
  · simp [hx]
  · cases hg : g.allows age r with
    | true => simp [hx, LogLine.ofContent?_report, LogLine.isInterception]
    | false =>
      by_cases hm : g.interceptor.mode = .block
      · simp [hx, hm, LogLine.ofContent?_denial, hv hg, LogLine.isInterception]
      · simp [hx, hm, LogLine.ofContent?_denial, LogLine.ofContent?_report, hv hg,
          LogLine.isInterception]

/-! ## Any requests -/

/-- The requests among some happenings, at their moments. -/
def visits (g : Guard) (response : Response) (m : Cache.Moment) : List Happening → List Visit
  | [] => []
  | .request time took r :: rest => visit response m time took r :: visits g response m rest
  | x :: rest => visits g response (g.apply m x) rest

/-- What the log has about some happenings, the policies being of this age. -/
def transcript (g : Guard) (age : Nat) : List Happening → List LogLine
  | [] => []
  | .request _ _ r :: rest => g.lines age r ++ transcript g age rest
  | x :: rest => transcript g (x.ageAfter age) rest

/-- A guard before a transport that answers each request. -/
def network (g : Guard) (response : Response) (time : Timestamp) : Network :=
  ⟨[("guard", g.interceptor)], [("end", ⟨.ok response, ⟨"http", "end", none⟩, []⟩)],
    .ofFiles g.files, g.begun, time, []⟩

theorem visits_lines {g : Guard} {m : Cache.Moment} {age : Nat} (h : g.InForce m age)
    (response : Response) (o : Origin) (xs : List Happening) :
    let vs := g.visits response m xs
    let ls := g.transcript age xs
    (vs.flatMap (·.events g.interceptor o)).map LogLine.ofContent? = ls.map some ∧
      vs.countP (·.isCounted g.interceptor o) = ls.countP LogLine.isInterception ∧
      ((vs.flatMap (·.calls g.interceptor o)).filter
        fun r => !g.interceptor.isExcluded r.url).length = ls.countP LogLine.isInterception := by
  induction xs generalizing m age with
  | nil => exact ⟨rfl, rfl, rfl⟩
  | cons x rest ih =>
    cases x with
    | request time took r =>
      obtain ⟨he, hc, hr⟩ := visit_lines h response time took r o
      obtain ⟨hes, hcs, hrs⟩ := ih h
      simp only [visits, transcript]
      refine ⟨?_, ?_, ?_⟩
      · rw [List.flatMap_cons, List.map_append, List.map_append, he, hes]
      · rw [List.countP_cons, List.countP_append, hcs, ← hc, Nat.add_comm]
        cases (visit response m time took r).isCounted g.interceptor o <;> rfl
      · rw [List.flatMap_cons, List.filter_append, List.length_append, List.countP_append, hr, hrs]
    | refresh => exact ih (inForce_apply h .refresh)
    | wait span => exact ih (inForce_apply h (.wait span))

/-- **A faithful transcript.** Whatever happens to a guard, its log has exactly the lines that
its settings and its policy file say of the requests, in order: with a prompt worker behind the
queue of the log, and, once the queue is closed and worked off, with any other. As many of them
are interceptions as the guard has counted and as the transport has got requests that are not
excluded. -/
theorem transcript_faithful (g : Guard) (response : Response) (time : Timestamp)
    (xs : List Happening) :
    let after := ((g.network response time).session "guard" "end"
      (g.visits response g.moment xs)).2
    let es := after.emitted
    let ls := g.transcript 0 xs
    g.Assembled ∧ (es.map fun e => LogLine.of? e.json) = ls.map some ∧
      after.sinks.files.logLines g.log = es.map Event.line ∧
      (∀ actions : List (Delivery.Action Event),
        actions.filterMap Delivery.Action.event? = es → .close ∉ actions →
        let deliver := fun e s => (Sink.log g.log).track e s
        let d : Delivery Event SinkStore := (Delivery.start true (.ofFiles g.files)).run deliver actions
        let drained := d.run deliver (.close :: List.replicate d.queue.pending.length .work)
        drained.queue.isDrained = true ∧
          drained.sink.files.logLines g.log = es.map Event.line) ∧
      ∃ i b, after.interceptor? "guard" = some i ∧ Table.get? "end" after.backends = some b ∧
        i.interceptions = ls.countP LogLine.isInterception ∧
        (b.received.filter fun r => !g.interceptor.isExcluded r.url).length = i.interceptions := by
  intro after es ls
  have hi : (g.network response time).interceptor? "guard" = some g.interceptor := rfl
  have hb : Table.get? "end" (g.network response time).backends =
      some ⟨.ok response, ⟨"http", "end", none⟩, []⟩ := rfl
  obtain ⟨-, cache, answer, hm⟩ := Network.session_served hi hb (g.visits response g.moment xs)
  obtain ⟨hl, hn, hr⟩ := visits_lines g.inForce_moment response ⟨"http", "end", none⟩ xs
  have hsink := g.assembled.sink
  have hzero := g.assembled.interceptions
  obtain ⟨events, he, hc, hs⟩ := hm.told
  have hes : es = events := he.trans (List.nil_append events)
  have hlog : SinkStore.Logged (SinkStore.ofFiles g.files).files g.log [] :=
    .inl ⟨rfl, g.creates⟩
  refine ⟨g.assembled, ?_, ?_, ?_, _, _, hm.counted, hm.received, ?_, ?_⟩
  · have hc : events.map Event.content = Network.taken g.interceptor.sink _ := hc
    rw [hsink] at hc
    have hm : es.map (fun e => LogLine.of? e.json) =
        (events.map Event.content).map LogLine.ofContent? := by
      rw [hes, List.map_map]
      exact List.map_congr_left fun e _ => LogLine.of?_json e
    rw [hm, ← hl, hc]
    rfl
  · have hs : after.sinks = Network.fill g.interceptor.sink _ events := hs
    rw [hsink] at hs
    rw [hs, hes]
    exact SinkStore.lines_of_logged
      (SinkStore.logged_queued_fill (SinkStore.idle_ofFiles g.files g.log) hlog events)
  · intro actions ha hn deliver d drained
    have hp : ∀ e s, (deliver e s).1 ≠ .panicked := SinkStore.log_not_panicked g.log
    have hk : Delivery.Kept deliver _ _ [] := Delivery.kept_start true (.ofFiles g.files)
    refine ⟨Delivery.isDrained_closed hp (Delivery.isAlive_run hp hk actions), ?_⟩
    -- however the worker went about it, the log got the events in the order of the session
    rw [Delivery.sink_of_closed hp (.ofFiles g.files) hn, ha]
    exact SinkStore.lines_of_logged (SinkStore.logged_fill hlog es)
  · show g.interceptor.interceptions + _ = _
    rw [hzero, Nat.zero_add]
    exact hn
  · show (([] ++ _ : List Request).filter _).length = g.interceptor.interceptions + _
    rw [hzero, Nat.zero_add, List.nil_append, hr]
    exact hn.symm

/-! A guard that blocks every POST but to addresses with `health`, with a log in a directory
that is not there yet. -/

def quietSettings : Settings :=
  { Settings.default with
    enforcement := "block"
    exclusions := ["health"]
    policyFile := some "policy"
    eventLog := some "logs/events" }

def quietFiles : FileTree :=
  ⟨[(["policy"], .file (FileTree.bytes Cache.noPostsText))]⟩

def quietInterceptor : Interceptor where
  mode := .block
  cache := some (.start quietSettings.cacheConfig none 0 (.ok (.ofText Cache.noPostsText)))
  sink := some (.queued "logs/events" (.log "logs/events"))
  exclusions := (Pattern.read? "health").toList
  capture := .all
  interceptions := 0

theorem readText_quietFiles : quietFiles.readText "policy" = .ok Cache.noPostsText :=
  FileTree.readText_of_holds ⟨rfl, ["policy"], rfl, rfl⟩

def quietGuard : Guard where
  settings := quietSettings
  files := quietFiles
  begun := 0
  interceptor := quietInterceptor
  policyPath := "policy"
  policy := Cache.noPostsText
  log := "logs/events"
  noControlPlane := rfl
  policyFile := rfl
  eventLog := rfl
  readable := readText_quietFiles
  creates := ⟨_, _, rfl, rfl, rfl⟩
  built := by
    have hc := Settings.cache_of_readable (s := quietSettings) rfl rfl readText_quietFiles 0
    rw [Settings.build, hc]
    rfl

def someTime : Timestamp :=
  ⟨⟨2024, 1, 1⟩, 0, 0, 0, 0⟩

def someHappenings : List Happening :=
  [.request someTime (.ofInt 20) (.new "post" "health"),
    .request someTime (.ofInt 0) (.new "post" "status"), .refresh, .wait 5,
    .request someTime (.ofInt 30) (.new "get" "status")]

theorem transcript_someHappenings :
    let after := ((quietGuard.network ⟨200, [], []⟩ someTime).session "guard" "end"
      (quietGuard.visits ⟨200, [], []⟩ quietGuard.moment someHappenings)).2
    let es := after.emitted
    let deliver := fun e s => (Sink.log quietGuard.log).track e s
    let d : Delivery Event SinkStore :=
      (Delivery.start true (.ofFiles quietGuard.files)).run deliver (es.map (.track 0))
    (es.map fun e => LogLine.of? e.json) =
        [some (.violation "Forbidden by policy: method == \"POST\"" (some Cache.noPostsText)),
          some (.interception true)] ∧
      (d.run deliver (.close :: List.replicate d.queue.pending.length .work)).sink.files.logLines
        quietGuard.log = es.map Event.line ∧
      ∃ i, after.interceptor? "guard" = some i ∧ i.interceptions = 1 := by
  intro after es deliver d
  have ht : quietGuard.transcript 0 someHappenings =
      [.violation "Forbidden by policy: method == \"POST\"" (some Cache.noPostsText),
        .interception true] := by
    decide +kernel
  obtain ⟨-, hl, -, hd, i, -, hi, -, hn, -⟩ :=
    transcript_faithful quietGuard ⟨200, [], []⟩ someTime someHappenings
  have he : (es.map (Delivery.Action.track 0)).filterMap Delivery.Action.event? = es := by
    rw [List.filterMap_map]
    exact List.filterMap_some
  have hc : Delivery.Action.close ∉ es.map (Delivery.Action.track 0) := by
    simp
  rw [ht] at hl hn
  exact ⟨hl, (hd _ he hc).2, i, hi, hn⟩

end Guard

end PolicyGuard
