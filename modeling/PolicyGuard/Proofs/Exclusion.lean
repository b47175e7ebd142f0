import PolicyGuard.Interceptor.Basic
import PolicyGuard.Proofs.Escape
import PolicyGuard.Proofs.Origin

/-!
Which requests an interceptor does not judge for the sake of the control plane.

The endpoint is excluded by its text: what begins as it does is let pass. The origin of a
URL is decided by its syntax instead, so both agree only as far as the URL does not go on
with the authority of the endpoint.

* `isExcluded_new`: what an interceptor excludes, by its own patterns or by the endpoint;
* `exists_new`: an endpoint of a usual length is a pattern that can be read;
* `excluded_endpoint`: the scheme, the host and the port of what is excluded.
-/

namespace PolicyGuard

/-! ## The exclusion of the endpoint -/

namespace Interceptor

theorem review_eq_excluded {i : Interceptor} {now : Nat} {method url : String}
    {headers : List (String × String)} :
    i.review now method url headers = .excluded ↔ i.isExcluded url = true := by
  unfold review
  by_cases hx : i.isExcluded url = true
  · simp [hx]
  · by_cases ha : (i.judge now method url headers).isAllowed = true
    · simp [hx, ha]
    · cases hm : i.mode <;> simp [hx, ha]

/-! What some patterns and then some more exclude. -/

theorem readExclusions_append (xs ys : List String) :
    readExclusions (xs ++ ys) =
      (readExclusions xs).bind fun own => (readExclusions ys).map (own ++ ·) := by
  induction xs with
  | nil => cases h : readExclusions ys <;> simp [readExclusions, h, Except.bind, Except.map]
  | cons text rest ih =>
    rw [List.cons_append, readExclusions, readExclusions, ih]
    cases Pattern.read? text with
    | none => rfl
    | some p =>
      cases readExclusions rest with
      | error bad => rfl
      | ok own => cases readExclusions ys <;> rfl

variable {mode : EnforcementMode} {cache : Cache} {sink : Option Sink} {patterns : List String}
  {capture : HeaderCapture}

theorem exclusions_new {made : Interceptor} {cache : Option Cache}
    (h : new mode cache sink patterns capture = .ok made) :
    ∃ own others, readExclusions patterns = .ok own ∧
      readExclusions (endpointPatterns cache) = .ok others ∧ made.exclusions = own ++ others := by
  unfold new at h
  rw [readExclusions_append] at h
  cases ho : readExclusions patterns with
  | error bad =>
    rw [ho] at h
    cases h
  | ok own =>
    cases he : readExclusions (endpointPatterns cache) with
    | error bad =>
      rw [ho, he] at h
      cases h
    | ok others =>
      rw [ho, he] at h
      cases h
      exact ⟨own, others, rfl, rfl, rfl⟩

theorem new_eq {own : List Pattern} (ho : readExclusions patterns = .ok own) {e : String}
    (he : cache.endpoint = some e) {p : Pattern}
    (hp : Pattern.read? ("^" ++ Pattern.escape e) = some p) :
    new mode (some cache) sink patterns capture =
      .ok ⟨mode, some cache, sink, own ++ [p], capture, 0⟩ := by
  rw [new, readExclusions_append, ho, endpointPatterns, Option.bind_some, he]
  simp only [readExclusions, hp]
  rfl

/-- An endpoint of a usual length can be excluded. -/
theorem exists_new {own : List Pattern} (ho : readExclusions patterns = .ok own) {e : String}
    (he : cache.endpoint = some e) (hl : e.toList.length < 750) :
    ∃ made, new mode (some cache) sink patterns capture = .ok made := by
  obtain ⟨p, hp⟩ := Pattern.exists_read?_escape hl
  exact ⟨_, new_eq ho he hp⟩

/-- What is excluded: what a pattern is found in, and what begins as the endpoint. -/
theorem isExcluded_new {made i : Interceptor}
    (hm : new mode (some cache) sink patterns capture = .ok made)
    (hi : i.exclusions = made.exclusions) {e : String} (he : cache.endpoint = some e) :
    ∃ own, readExclusions patterns = .ok own ∧ ∀ url,
      (i.isExcluded url = true ↔
        own.any (·.occursIn url) = true ∨ e.toList <+: url.toList) := by
  obtain ⟨own, others, ho, hr, hx⟩ := exclusions_new hm
  rw [endpointPatterns, Option.bind_some, he, readExclusions] at hr
  cases hp : Pattern.read? ("^" ++ Pattern.escape e) with
  | none => simp [hp] at hr
  | some p =>
    simp only [hp, readExclusions, Except.map, Except.ok.injEq] at hr
    refine ⟨own, ho, fun url => ?_⟩
    rw [isExcluded, hi, hx, ← hr, List.any_append, Bool.or_eq_true, List.any_cons, List.any_nil,
      Bool.or_false, Pattern.occursIn_escape hp]

section WithoutPatterns

variable {made i : Interceptor} {e : String}
  (hm : new mode (some cache) sink [] capture = .ok made)
  (hi : i.exclusions = made.exclusions) (he : cache.endpoint = some e)

include hm hi he

theorem isExcluded_iff (url : String) : i.isExcluded url = true ↔ e.toList <+: url.toList := by
  obtain ⟨own, ho, hx⟩ := isExcluded_new hm hi he
  obtain rfl : [] = own := Except.ok.inj ho
  simpa using hx url

/-- **Exclusion of the endpoint.** Over its whole life, an interceptor without further patterns
excludes no text but those that begin as the endpoint, and of these all that share its
authority. Such a URL has the scheme of the endpoint; one that shares its authority has its
host and port, too. -/
theorem excluded_endpoint (now : Nat) (method u : String) (headers : List (String × String)) :
    (i.review now method u headers = .excluded → e.toList <+: u.toList ∧
      ∀ o o', Url.parse? e = some o → Url.parse? u = some o' → o.scheme = o'.scheme) ∧
    ∀ o, Url.parse? e = some o → o.host.isSome → o.scheme ≠ "file" →
      e.toList <+: u.toList → Url.sharesAuthority e u →
        i.review now method u headers = .excluded ∧
          ∃ o', Url.parse? u = some o' ∧ Url.SameOrigin o o' := by
  have hx := isExcluded_iff hm hi he u
  rw [review_eq_excluded, hx]
  constructor
  · intro hp
    exact ⟨hp, fun o o' h h' => Url.scheme_of_prefix hp h h'⟩
  · intro o h ho hf hp hs
    exact ⟨hp, Url.origin_of_prefix hp h ho hf hs⟩

end WithoutPatterns

/-! A guard over a cache that did not get policies yet: it can still ask for them. -/

def unreachedCache : Cache :=
  .start .default (Cache.Source.controlPlane "https://api.trusera.dev/").endpoint 0
    (.error (.unreachable (Cache.ControlPlane.policyUrl "https://api.trusera.dev/")))

def endpointGuard : Interceptor :=
  ⟨.block, some unreachedCache, none,
    (Pattern.read? ("^" ++ Pattern.escape "https://api.trusera.dev")).toList, .all, 0⟩

theorem endpoint_unreachedCache : unreachedCache.endpoint = some "https://api.trusera.dev" := by
  decide +kernel

theorem new_endpointGuard : new .block (some unreachedCache) none [] .all = .ok endpointGuard := by
  obtain ⟨p, hp⟩ := Pattern.exists_read?_escape
    (by decide : "https://api.trusera.dev".toList.length < 750)
  have hn : readExclusions [] = .ok [] := rfl
  rw [endpointGuard, hp]
  exact new_eq hn endpoint_unreachedCache hp

theorem excluded_policyUrl :
    new .block (some unreachedCache) none [] .all = .ok endpointGuard ∧
      unreachedCache.endpoint = some "https://api.trusera.dev" ∧
      { endpointGuard with interceptions := 3 }.review 7 "get"
        "https://api.trusera.dev/api/v1/policies/cedar" [] = .excluded ∧
      (∃ o o', Url.parse? "https://api.trusera.dev" = some o ∧
        Url.parse? "https://api.trusera.dev/api/v1/policies/cedar" = some o' ∧
        Url.SameOrigin o o') ∧
      endpointGuard.review 0 "get" "https://api.openai.com/v1/models" [] ≠ .excluded := by
  have hm := new_endpointGuard
  have he := endpoint_unreachedCache
  have hh : (Url.parse? "https://api.trusera.dev").any fun o =>
      o.host.isSome && o.scheme ≠ "file" := by
    decide +kernel
  obtain ⟨o, ho, hs⟩ := (Option.any_eq_true _ _).mp hh
  simp only [Bool.and_eq_true, decide_eq_true_eq] at hs
  obtain ⟨hx, o', ho', hso⟩ :=
    (excluded_endpoint (i := { endpointGuard with interceptions := 3 }) hm rfl he 7 "get"
      "https://api.trusera.dev/api/v1/policies/cedar" []).2 o ho hs.1 hs.2 (by decide +kernel)
      (by decide +kernel)
  refine ⟨hm, he, hx, ⟨o, o', ho, ho', hso⟩, fun hn => ?_⟩
  exact absurd ((excluded_endpoint hm rfl he 0 "get" _ []).1 hn).1 (by decide +kernel)

/-- Not every excluded URL leads to the endpoint: a longer host may begin like its host. -/
theorem excluded_longerHost :
    ¬ ∀ (mode : EnforcementMode) (cache : Cache) (sink : Option Sink) (capture : HeaderCapture)
        (i : Interceptor) (e u : String),
      new mode (some cache) sink [] capture = .ok i → cache.endpoint = some e →
        i.review 0 "get" u [] = .excluded →
          ∃ o o', Url.parse? e = some o ∧ Url.parse? u = some o' ∧ Url.SameOrigin o o' := by
  intro h
  have hm := new_endpointGuard
  have he := endpoint_unreachedCache
  have hx : endpointGuard.review 0 "get" "https://api.trusera.dev.evil.com/" [] = .excluded :=
    review_eq_excluded.mpr ((isExcluded_iff hm rfl he _).mpr (by decide +kernel))
  have hd : (Url.parse? "https://api.trusera.dev").map Url.host ≠
      (Url.parse? "https://api.trusera.dev.evil.com/").map Url.host := by
    decide +kernel
  obtain ⟨o, o', ho, ho', -, hh, -⟩ := h .block unreachedCache none .all endpointGuard _ _ hm he hx
  rw [ho, ho', Option.map_some, Option.map_some, hh] at hd
  exact hd rfl

end Interceptor

end PolicyGuard
