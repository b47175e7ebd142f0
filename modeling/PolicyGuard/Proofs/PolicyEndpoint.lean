import PolicyGuard.Cache.Operation
import PolicyGuard.Proofs.Exclusion
import PolicyGuard.Proofs.Mediation

/-!
Requests to the control plane of a cache.

An interceptor over such a cache excludes what begins as the address of the control plane, by
its characters, and the policies are fetched from an address that begins so. Hence a request for
them is forwarded as it is, whatever the mode and the published policy.

* `Feeds.endpoint_eq`: a cache keeps its endpoint for life;
* `baseUrl_slashes`: slashes at the end of the address make no difference;
* `isExcluded_baseUrl`: what an interceptor excludes;
* `endpoint_unjudged`: requests to the endpoint.
-/

namespace PolicyGuard

/-! ## The endpoint of a cache -/

namespace Cache

/-- A cache of a source, at any time of its life. -/
def Source.Feeds (s : Source) (c : Cache) : Prop :=
  ∃ config now answer operations,
    c = (Moment.run ⟨.start config s.endpoint now answer, now⟩ operations).cache

theorem Source.Feeds.endpoint_eq {s : Source} {c : Cache} (h : s.Feeds c) :
    c.endpoint = s.endpoint := by
  obtain ⟨config, now, answer, operations, rfl⟩ := h
  exact (sameSource_run _ operations).endpoint

namespace ControlPlane

def slashes (n : Nat) : String :=
  String.ofList (List.replicate n '/')

/-- Slashes at the end of an address make no difference. -/
theorem baseUrl_slashes (b : String) (n : Nat) : baseUrl (b ++ slashes n) = baseUrl b := by
  have hs : (slashes n).toList = List.replicate n '/' := String.toList_ofList
  have hd : ∀ c ∈ List.replicate n '/', decide (c = '/') = true := fun c hc =>
    decide_eq_true (List.eq_of_mem_replicate hc)
  rw [baseUrl, baseUrl, String.toList_append, hs, List.reverse_append, List.reverse_replicate,
    List.dropWhile_append_of_pos hd]

theorem baseUrl_isPrefix (b more : String) :
    (baseUrl b).toList <+: (policyUrl b ++ more).toList := by
  rw [policyUrl, String.toList_append, String.toList_append, List.append_assoc]
  exact List.prefix_append _ _

end ControlPlane

end Cache

/-! ## What is excluded -/

namespace Interceptor

variable {b : String} {mode : EnforcementMode} {cache : Cache} {sink : Option Sink}
  {patterns : List String} {capture : HeaderCapture} {made i : Interceptor}
  (hc : (Cache.Source.controlPlane b).Feeds cache)
  (hm : new mode (some cache) sink patterns capture = .ok made)
  (hi : i.exclusions = made.exclusions)

include hc hm hi

theorem isExcluded_baseUrl : ∃ own, readExclusions patterns = .ok own ∧ ∀ u,
    (i.isExcluded u = true ↔
      own.any (·.occursIn u) = true ∨ (Cache.ControlPlane.baseUrl b).toList <+: u.toList) :=
  isExcluded_new hm hi hc.endpoint_eq

theorem isExcluded_policyUrl (more : String) :
    i.isExcluded (Cache.ControlPlane.policyUrl b ++ more) = true := by
  obtain ⟨own, -, hx⟩ := isExcluded_baseUrl hc hm hi
  exact (hx _).mpr (.inr (Cache.ControlPlane.baseUrl_isPrefix b more))

end Interceptor

/-! ## Requests to the endpoint -/

namespace Network

open Cache.ControlPlane

/-- An excluded request is sent as if the interceptor was not there. -/
theorem send_excluded {net : Network} {name : String} {i : Interceptor}
    (hi : net.interceptor? name = some i) {kind : TransportKind} {inner : Transport} {r : Request}
    (hx : i.isExcluded (net.judgedUrl kind inner r.url) = true) (took : Transport → Binary64) :
    net.send kind (.intercepted name inner) r took = net.send kind inner r took := by
  simp only [send_intercepted hi, hx, if_true]

/-- **The policy endpoint.** Take an interceptor over a cache of a control plane, both at any
time of their lives, in any mode and under any published policy.

Besides what its own patterns are found in, it excludes exactly what begins as the address of
the control plane without the slashes at its end, whatever characters that has. The pattern of
the escaped address is found in the same texts, and can be read unless it is too large; then
there is such an interceptor with any patterns of its own that can be read.

So a request for the policies is sent through any transport as if the interceptor was not
there. A backend gets it once, and it is not counted or reported. More slashes at the end of
the address change neither the address of the policies nor what is excluded. -/
theorem endpoint_unjudged {b : String} {mode : EnforcementMode} {cache : Cache}
    {sink : Option Sink} {patterns : List String} {capture : HeaderCapture} {made i : Interceptor}
    (hc : (Cache.Source.controlPlane b).Feeds cache)
    (hm : Interceptor.new mode (some cache) sink patterns capture = .ok made)
    (hi : i.exclusions = made.exclusions) :
    (∃ own, Interceptor.readExclusions patterns = .ok own ∧ ∀ u,
      (i.isExcluded u = true ↔
        own.any (·.occursIn u) = true ∨ (baseUrl b).toList <+: u.toList)) ∧
    ((baseUrl b).toList.length < 750 →
      (∃ p, Pattern.read? ("^" ++ Pattern.escape (baseUrl b)) = some p) ∧
        ∀ mode' sink' patterns' capture' own',
          Interceptor.readExclusions patterns' = .ok own' →
            ∃ made', Interceptor.new mode' (some cache) sink' patterns' capture' = .ok made') ∧
    (∀ p, Pattern.read? ("^" ++ Pattern.escape (baseUrl b)) = some p → ∀ u,
      (p.occursIn u = true ↔ (baseUrl b).toList <+: u.toList)) ∧
    (∀ (net : Network) (name more : String) (kind : TransportKind) (r : Request)
      (took : Transport → Binary64), net.interceptor? name = some i →
        (∀ inner, net.judgedUrl kind inner r.url = policyUrl b ++ more →
          net.send kind (.intercepted name inner) r took = net.send kind inner r took) ∧
        ∀ backend host, Table.get? backend net.backends = some host →
          net.judgedUrl kind (.backend backend) r.url = policyUrl b ++ more →
            let sent := net.send kind (.intercepted name (.backend backend)) r took
            sent.1 = host.answer.outcome ∧ Mediated net sent.2 name backend i host 0 [r] []) ∧
    ∀ n, policyUrl (b ++ slashes n) = policyUrl b ∧
      ∀ mode' cache' sink' capture' made',
        (Cache.Source.controlPlane (b ++ slashes n)).Feeds cache' →
          Interceptor.new mode' (some cache') sink' patterns capture' = .ok made' →
            ∀ u, made'.isExcluded u = i.isExcluded u := by
  obtain ⟨own, ho, hx⟩ := Interceptor.isExcluded_baseUrl hc hm hi
  have hmade (hl : (baseUrl b).toList.length < 750) (mode' : EnforcementMode)
      (sink' : Option Sink) (patterns' : List String) (capture' : HeaderCapture)
      (own' : List Pattern) (ho' : Interceptor.readExclusions patterns' = .ok own') :
      ∃ made', Interceptor.new mode' (some cache) sink' patterns' capture' = .ok made' :=
    Interceptor.exists_new ho' hc.endpoint_eq hl
  refine ⟨⟨own, ho, hx⟩, fun hl => ⟨Pattern.exists_read?_escape hl, hmade hl⟩,
    fun p hp => Pattern.occursIn_escape hp, ?_, fun n => ⟨?_, ?_⟩⟩
  · intro net name more kind r took hn
    have hsend (inner : Transport) (hu : net.judgedUrl kind inner r.url = policyUrl b ++ more) :
        net.send kind (.intercepted name inner) r took = net.send kind inner r took := by
      refine send_excluded hn ?_ took
      rw [hu]
      exact Interceptor.isExcluded_policyUrl hc hm hi more
    refine ⟨hsend, fun backend host hb hu => ?_⟩
    rw [hsend (.backend backend) hu]
    exact mediated_call hn hb r
  · rw [policyUrl, policyUrl, baseUrl_slashes]
  · intro mode' cache' sink' capture' made' hc' hm' u
    obtain ⟨own', ho', hx'⟩ := Interceptor.isExcluded_baseUrl hc' hm' rfl
    obtain rfl : own' = own := Except.ok.inj (ho'.symm.trans ho)
    rw [Bool.eq_iff_iff, hx' u, hx u, baseUrl_slashes]

/-! A guard that blocks every POST, over the cache of an address that is full of characters
which mean something in a pattern. -/

def oddAddress : String :=
  "https://odd.dev/a.b+(c)[1]*?x=$^|\x7b2\x7d\\&-~#//"

def oddCache : Cache :=
  .start .default (Cache.Source.controlPlane oddAddress).endpoint 0
    (.error (.unreachable (policyUrl oddAddress)))

def oddGuard : Interceptor :=
  ⟨.block, some noPosts, none,
    (Pattern.read? ("^" ++ Pattern.escape (baseUrl oddAddress))).toList, .all, 0⟩

def oddNetwork : Network :=
  { guardedNetwork with interceptors := [("guard", oddGuard)] }

theorem new_oddGuard :
    Interceptor.new .warn (some oddCache) none [] .all =
      .ok { oddGuard with mode := .warn, cache := some oddCache } := by
  have hl : (baseUrl oddAddress).toList.length < 750 := by
    decide +kernel
  obtain ⟨p, hp⟩ := Pattern.exists_read?_escape hl
  have hn : Interceptor.readExclusions [] = .ok [] := rfl
  rw [oddGuard, hp]
  exact Interceptor.new_eq hn rfl hp

/-- The request for the policies passes although the policy forbids it. -/
theorem endpoint_oddAddress :
    (Cache.Source.controlPlane oddAddress).Feeds oddCache ∧
      Interceptor.new .warn (some oddCache) none [] .all =
        .ok { oddGuard with mode := .warn, cache := some oddCache } ∧
      (Pattern.read? ("^" ++ Pattern.escape (baseUrl oddAddress))).isSome ∧
      (oddNetwork.send .sync (.intercepted "guard" (.backend "api"))
        (.new "POST" (policyUrl oddAddress ++ "?page=2"))).1 = quietBackend.answer.outcome ∧
      (oddNetwork.send .sync (.intercepted "guard" (.backend "api"))
        (.new "POST" "https://odd.dev/aXb")).1.toBool = false := by
  have hc : (Cache.Source.controlPlane oddAddress).Feeds oddCache := ⟨_, _, _, [], rfl⟩
  have hm := new_oddGuard
  obtain ⟨-, -, -, hs, -⟩ := endpoint_unjudged (i := oddGuard) hc hm rfl
  obtain ⟨-, hb⟩ := hs oddNetwork "guard" "?page=2" .sync (.new "POST" _) _ rfl
  refine ⟨hc, hm, by decide +kernel, (hb "api" quietBackend rfl rfl).1, by decide +kernel⟩

end Network

end PolicyGuard
