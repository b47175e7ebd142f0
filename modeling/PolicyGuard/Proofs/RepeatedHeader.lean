import PolicyGuard.Proofs.Attribute
import PolicyGuard.Proofs.Capture
import PolicyGuard.Proofs.Lowercase

/-!
Headers that stand for one attribute.

The names of headers are folded: capitals and dashes do not matter, so several headers of a
request may stand for one attribute. The attribute is the last of them. A forbid on it sees a
header that comes last, or whose successors say the same, and no other.

* `lowerAscii_headerField`: attributes of headers are in lower case, as policy names them;
* `get?_withHeaders_or`: an attribute is the last header that stands for it;
* `blocked_header`: a request with a header that is forbidden, whatever else it carries.
-/

namespace PolicyGuard

namespace Policy

namespace Subject

/-! ## Attributes of headers -/

theorem lowerAscii_headerField (name : String) :
    Text.lowerAscii (headerField name) = headerField name := by
  let fold (c : Char) : Char := if c = '-' then '_' else c
  have hc (c : Char) : (fold c.toLower).toLower = fold c.toLower := by
    by_cases h : c.toLower = '-'
    · simp only [fold, if_pos h]
      decide
    · simp only [fold, if_neg h, Text.toLower_toLower]
  have hp : "header_".toList.map Char.toLower = "header_".toList := by
    decide
  have hm : ((name.toList.map Char.toLower).map fold).map Char.toLower =
      (name.toList.map Char.toLower).map fold := by
    simp only [List.map_map]
    exact List.map_congr_left fun c _ => hc c
  have hlow : (Text.lowerAscii name).toList = name.toList.map Char.toLower := String.toList_ofList
  have hl : (headerField name).toList =
      "header_".toList ++ (name.toList.map Char.toLower).map fold := by
    rw [← hlow, headerField, String.toList_append]
    exact congrArg _ String.toList_ofList
  rw [Text.lowerAscii, hl, List.map_append, hp, hm, ← hl, String.ofList_toList]

theorem headerField_ne_severity (name : String) : headerField name ≠ "severity" := by
  have hs : ¬"header_".toList <+: "severity".toList := by
    decide
  exact fun h => hs (h ▸ starts_headerField name)

/-- The value of the last header that stands for an attribute. -/
def lastValue? (field : String) (headers : List (String × String)) : Option String :=
  (headers.filter fun h => headerField h.1 = field).getLast?.map Prod.snd

theorem lastValue?_append (field : String) (xs ys : List (String × String)) :
    lastValue? field (xs ++ ys) = (lastValue? field ys).or (lastValue? field xs) := by
  rw [lastValue?, List.filter_append, List.getLast?_append, Option.map_or]
  rfl

theorem lastValue?_singleton (field : String) (h : String × String) :
    lastValue? field [h] = if headerField h.1 = field then some h.2 else none := by
  by_cases he : headerField h.1 = field <;> simp [lastValue?, he]

theorem exists_of_lastValue? {field w : String} {headers : List (String × String)}
    (h : lastValue? field headers = some w) :
    ∃ name, (name, w) ∈ headers ∧ headerField name = field := by
  obtain ⟨⟨name, w⟩, hl, rfl⟩ := Option.map_eq_some_iff.mp h
  obtain ⟨hm, hf⟩ := List.mem_filter.mp (List.mem_of_getLast? hl)
  exact ⟨name, hm, of_decide_eq_true hf⟩

/-- A header as an attribute. -/
def asAttribute (h : String × String) : String × Value :=
  (headerField h.1, .text h.2)

/-- After some headers an attribute is the last of those that stand for it. -/
theorem get?_withHeaders_or (s : Subject) (headers : List (String × String)) (field : String) :
    (withHeaders s headers).get? field =
      ((lastValue? field headers).map .text).or (s.get? field) := by
  have hput : withHeaders s headers =
      (headers.map asAttribute).foldl (fun t p => t.put p.1 p.2) s := by
    rw [List.foldl_map]
    rfl
  have hlast : ((headers.map asAttribute).findRev? fun p => p.1 = field).map Prod.snd =
      (lastValue? field headers).map .text := by
    rw [List.findRev?_eq_find?_reverse, ← List.map_reverse, List.find?_map, lastValue?,
      List.getLast?_filter, Option.map_map, Option.map_map]
    rfl
  rw [hput, Table.get?_foldl_put, hlast]

end Subject

/-! ## A forbid on a header -/

/-- The word that stands for a request. -/
def request : Word :=
  ⟨"request", by decide, by decide⟩

/-- The policy that forbids an attribute of requests to be a text. -/
def forbidHeader (field : Word) (v : String) : String :=
  forbidEquals request field v

/-- A forbid on a header sees the last one only. -/
theorem appliesTo_onHeader {field : Word} {name : String}
    (hf : field.text = Subject.headerField name) {headers : List (String × String)} {w : String}
    (hw : Subject.lastValue? (Subject.headerField name) headers = some w) (v url method : String) :
    (ruleEquals request field v).appliesTo (.ofRequest url method headers) = true ↔
      Text.lower w = Text.lower v := by
  have hfield : Text.lowerAscii field.text = Subject.headerField name := by
    rw [hf, Subject.lowerAscii_headerField]
  have hget : (Subject.ofRequest url method headers).get? (Subject.headerField name) =
      some (.text w) := by
    rw [Subject.ofRequest, Subject.get?_withHeaders_or, hw]
    rfl
  have hagrees (a : Value) : Agrees (Subject.headerField name) a v ↔
      Text.lower a.asText = Text.lower v :=
    agrees_of_ne (Subject.headerField_ne_severity name)
  rw [appliesTo_ruleEquals, hfield, hget]
  constructor
  · rintro ⟨a, ha, hl⟩
    obtain rfl := Option.some.inj ha
    exact (hagrees (.text w)).mp hl
  · exact fun hl => ⟨.text w, rfl, (hagrees (.text w)).mpr hl⟩

end Policy

/-! ## Requests -/

namespace Network

open Policy.Subject (headerField lastValue?)

variable {net : Network} {name : String} {i : Interceptor} {rules : List Policy.Rule}

/-- An interceptor blocks by these rules: they are published, and fresh. -/
structure Enforces (net : Network) (name : String) (i : Interceptor) (rules : List Policy.Rule) :
    Prop where
  found : net.interceptor? name = some i
  mode : i.mode = .block
  fresh : ∃ cache, i.cache = some cache ∧ cache.snapshot.rules = some rules ∧
    cache.staleAge? net.now = none

/-- What rules say about a request, of which they see the captured headers. -/
def verdictOf (net : Network) (kind : TransportKind) (inner : Transport) (i : Interceptor)
    (rules : List Policy.Rule) (r : Request) : Policy.Verdict :=
  Policy.decide rules
    (.ofRequest (net.judgedUrl kind inner r.url) r.method (i.capture.select r.headers))

theorem Enforces.judge_eq (h : net.Enforces name i rules) (kind : TransportKind)
    (inner : Transport) (r : Request) :
    i.judge net.now r.method (net.judgedUrl kind inner r.url) r.headers =
      net.verdictOf kind inner i rules r := by
  obtain ⟨cache, hc, hr, hs⟩ := h.fresh
  rw [Interceptor.judge, hc]
  show cache.evaluate net.now _ = _
  rw [Cache.evaluate, hr, hs]
  rfl

/-- A request is kept back: the caller gets a violation, and no one but the sink learns of it. -/
def Blocks (net : Network) (kind : TransportKind) (name : String) (i : Interceptor)
    (inner : Transport) (r : Request) : Prop :=
  ∃ x, i.review net.now r.method (net.judgedUrl kind inner r.url) r.headers = .blocked x ∧
    ∀ took, net.send kind (.intercepted name inner) r took =
      (.error (.blocked x),
        net.emit i.sink (i.violationEvent r.method (net.judgedUrl kind inner r.url) x))

/-- A request is handed on as one that policy allows. -/
def Forwards (net : Network) (kind : TransportKind) (name : String) (i : Interceptor)
    (inner : Transport) (r : Request) : Prop :=
  i.review net.now r.method (net.judgedUrl kind inner r.url) r.headers = .allowed ∧
    ∀ took, net.send kind (.intercepted name inner) r took =
      let sent := net.send kind inner r took
      (sent.1,
        sent.2.record name r.method (net.judgedUrl kind inner r.url) sent.1 (took inner) true)

section

variable {kind : TransportKind} {inner : Transport} {r : Request}
  (h : net.Enforces name i rules)
  (hx : i.isExcluded (net.judgedUrl kind inner r.url) = false)

include h hx

theorem Enforces.blocks (hd : (net.verdictOf kind inner i rules r).decision = .deny) :
    net.Blocks kind name i inner r := by
  have hj := h.judge_eq kind inner r
  have ha : (net.verdictOf kind inner i rules r).isAllowed = false := by
    rw [Policy.Verdict.isAllowed, hd]
    rfl
  refine ⟨Interceptor.violation r.method (net.judgedUrl kind inner r.url)
    (net.verdictOf kind inner i rules r), ?_, ?_⟩
  · simp [Interceptor.review, hx, hj, ha, h.mode]
  · simp [send_intercepted h.found, hx, hj, ha, h.mode]

theorem Enforces.forwards (hd : (net.verdictOf kind inner i rules r).decision = .allow) :
    net.Forwards kind name i inner r := by
  have hj := h.judge_eq kind inner r
  have ha : (net.verdictOf kind inner i rules r).isAllowed = true := by
    rw [Policy.Verdict.isAllowed, hd]
    rfl
  constructor
  · simp [Interceptor.review, hx, hj, ha]
  · simp [send_intercepted h.found, hx, hj, ha]

end

section

variable {kind : TransportKind} {inner : Transport} {r : Request}
  {before after : List (String × String)} {n v : String} {field : Policy.Word}
  (h : net.Enforces name i rules) (hx : i.isExcluded (net.judgedUrl kind inner r.url) = false)
  (hr : r.headers = before ++ (n, v) :: after) (hc : i.capture.captures n = true)
  (hf : field.text = headerField n) (hq : '"' ∉ v.toList) (hb : '}' ∉ v.toList)
  (hp : Policy.read (Policy.forbidHeader field v) ⊆ rules)

include hr hc

/-- What the policy sees under the attribute of a header that the request carries and that is
captured: this header, or a later one. -/
theorem exists_lastValue? :
    ∃ w, lastValue? (headerField n) (i.capture.select r.headers) = some w ∧
      (w = v ∨ ∃ later ∈ after, i.capture.captures later.1 = true ∧
        headerField later.1 = headerField n ∧ later.2 = w) := by
  have hs : i.capture.select r.headers =
      i.capture.select before ++ ([(n, v)] ++ i.capture.select after) := by
    rw [hr, HeaderCapture.select, List.filter_append, List.filter_cons, if_pos hc]
    rfl
  rw [hs, Policy.Subject.lastValue?_append, Policy.Subject.lastValue?_append,
    Policy.Subject.lastValue?_singleton, if_pos rfl]
  cases hl : lastValue? (headerField n) (i.capture.select after) with
  | none => exact ⟨v, rfl, .inl rfl⟩
  | some w =>
    obtain ⟨m, hm, he⟩ := Policy.Subject.exists_of_lastValue? hl
    obtain ⟨ha, hm⟩ := List.mem_filter.mp hm
    exact ⟨w, rfl, .inr ⟨(m, w), ha, hm, he, rfl⟩⟩

include h hx hf hq hb hp

/-- **The last header counts.** A request with a header that policy forbids is blocked, if all
later headers for the same attribute say the same, up to case. Whatever it carries, the last of
them decides: if it says so the request is blocked, and if not, this forbid alone lets the
request go. -/
theorem blocked_header :
    ((∀ later ∈ after, i.capture.captures later.1 = true → headerField later.1 = headerField n →
        Text.lower later.2 = Text.lower v) →
      net.Blocks kind name i inner r) ∧
    ∃ w, lastValue? (headerField n) (i.capture.select r.headers) = some w ∧
      (Text.lower w = Text.lower v → net.Blocks kind name i inner r) ∧
      (rules = Policy.read (Policy.forbidHeader field v) → Text.lower w ≠ Text.lower v →
        net.Forwards kind name i inner r) := by
  obtain ⟨w, hw, hor⟩ := exists_lastValue? hr hc
  have happ := Policy.appliesTo_onHeader hf hw v (net.judgedUrl kind inner r.url) r.method
  rw [Policy.forbidHeader, Policy.read_forbidEquals Policy.request field hq hb] at hp ⊢
  have hblocks (hl : Text.lower w = Text.lower v) : net.Blocks kind name i inner r := by
    apply h.blocks hx
    have hm : Policy.ruleEquals Policy.request field v ∈ Policy.violations rules
        (.ofRequest (net.judgedUrl kind inner r.url) r.method (i.capture.select r.headers)) := by
      refine List.mem_filter.mpr ⟨hp (List.mem_singleton_self _), ?_⟩
      rw [Policy.Rule.forbids, happ.mpr hl]
      rfl
    exact Policy.decide_deny_iff.mpr (List.ne_nil_of_mem hm)
  refine ⟨fun hlater => ?_, w, hw, hblocks, fun hrules hl => ?_⟩
  · rcases hor with rfl | ⟨later, hm, hcl, he, rfl⟩
    · exact hblocks rfl
    · exact hblocks (hlater later hm hcl he)
  · apply h.forwards hx
    have hn : (Policy.ruleEquals Policy.request field v).appliesTo
        (.ofRequest (net.judgedUrl kind inner r.url) r.method (i.capture.select r.headers)) =
          false :=
      Bool.eq_false_iff.mpr (mt happ.mp hl)
    apply Policy.isAllowed_of_no_violation
    rw [hrules]
    simp [Policy.violations, Policy.Rule.forbids, hn]

end

/-! A guard that captures one attribute under two names, and requests that give it more than
once. -/

def keyField : Policy.Word :=
  ⟨"header_x_key", by decide, by decide⟩

def noSecret : Cache :=
  { Cache.disabled with
    hasSource := true
    snapshot := Cache.Snapshot.empty.publish 0 (Policy.forbidHeader keyField "secret") }

def keyGuard : Interceptor :=
  ⟨.block, some noSecret, some .failing, [], .only ["X-Key", "x_key"], 0⟩

def keyNetwork : Network :=
  { guardedNetwork with interceptors := [("guard", keyGuard)] }

theorem keyNetwork_enforces :
    keyNetwork.Enforces "guard" keyGuard
      (Policy.read (Policy.forbidHeader keyField "secret")) where
  found := rfl
  mode := rfl
  fresh := ⟨noSecret, rfl, rfl, by decide +kernel⟩

def withKeys (headers : List (String × String)) : Request :=
  ⟨"GET", "status", headers, []⟩

/-- The header that counts comes after one that says something else. -/
def repeatedKeys : Request :=
  withKeys [("x_key", "public"), ("X-Key", "secret"), ("Accept", "*"), ("X-KEY", "Secret")]

/-- The header that counts says something else. -/
def hiddenKey : Request :=
  withKeys [("X-Key", "secret"), ("x_key", "public")]

theorem blocked_repeatedKeys :
    keyNetwork.Blocks .sync "guard" keyGuard (.backend "api") repeatedKeys ∧
      keyNetwork.Forwards .pool "guard" keyGuard (.backend "api") hiddenKey := by
  have hx (kind : TransportKind) :
      keyGuard.isExcluded (keyNetwork.judgedUrl kind (.backend "api") "status") = false := rfl
  have hc : keyGuard.capture.captures "X-Key" = true := by
    decide +kernel
  have hf : keyField.text = headerField "X-Key" := by
    decide +kernel
  have hq : '"' ∉ "secret".toList := by
    decide
  have hb : '}' ∉ "secret".toList := by
    decide
  have hrepeated : repeatedKeys.headers =
      [("x_key", "public")] ++ ("X-Key", "secret") :: [("Accept", "*"), ("X-KEY", "Secret")] := rfl
  have hhidden : hiddenKey.headers = [] ++ ("X-Key", "secret") :: [("x_key", "public")] := rfl
  have hlater : ∀ later ∈ [("Accept", "*"), ("X-KEY", "Secret")],
      keyGuard.capture.captures later.1 = true → headerField later.1 = headerField "X-Key" →
        Text.lower later.2 = Text.lower "secret" := by
    decide +kernel
  obtain ⟨w, hw, -, hfree⟩ := (blocked_header keyNetwork_enforces (hx .pool) hhidden hc hf hq hb
    (List.Subset.refl _)).2
  have hp : lastValue? (headerField "X-Key")
      (keyGuard.capture.select hiddenKey.headers) = some "public" := by
    decide +kernel
  obtain rfl := Option.some.inj (hw.symm.trans hp)
  exact ⟨(blocked_header keyNetwork_enforces (hx .sync) hrepeated hc hf hq hb
    (List.Subset.refl _)).1 hlater, hfree rfl (by decide +kernel)⟩

/-- Not every header that policy forbids has its request blocked: a later one hides it. -/
theorem forwarded_hiddenKey :
    ¬ ∀ (net : Network) (name : String) (i : Interceptor) (rules : List Policy.Rule)
      (kind : TransportKind) (inner : Transport) (r : Request) (n v : String)
      (field : Policy.Word), net.Enforces name i rules →
        i.isExcluded (net.judgedUrl kind inner r.url) = false → (n, v) ∈ r.headers →
        i.capture.captures n = true → field.text = headerField n →
        '"' ∉ v.toList → '}' ∉ v.toList →
        Policy.read (Policy.forbidHeader field v) ⊆ rules → net.Blocks kind name i inner r := by
  intro h
  have ha : keyGuard.review 0 "GET" "status" hiddenKey.headers = .allowed := by
    decide +kernel
  obtain ⟨x, hb, -⟩ := h keyNetwork "guard" keyGuard _ .sync (.backend "api") hiddenKey "X-Key"
    "secret" keyField keyNetwork_enforces rfl (List.mem_cons_self ..) (by decide +kernel)
    (by decide +kernel) (by decide) (by decide) (List.Subset.refl _)
  have hb : keyGuard.review 0 "GET" "status" hiddenKey.headers = .blocked x := hb
  rw [ha] at hb
  cases hb

end Network

end PolicyGuard
