import PolicyGuard.Proofs.PoolHost

/-!
The port that a request to a connection pool leads to.

The ports 80 and 443 are not written into a full address, so the parser takes the default of
the scheme for them. That is the same port only where the scheme is the one it belongs to.

* `Origin.effectivePort?`: the port that a pool is bound to;
* `or_defaultPort?_portText`: the port that the text behind the host is read as;
* `origin_fullUrl`: the scheme, the host and the port of the full address.
-/

namespace PolicyGuard.Origin

/-- The port that a pool is bound to. One without a port is bound to the default of its scheme. -/
def effectivePort? (o : Origin) : Option Nat :=
  o.port.or (Url.defaultPort? o.scheme)

/-- The pool has a port that its full addresses do not show. -/
def OmitsPort (o : Origin) : Prop :=
  o.port = some 80 ∨ o.port = some 443

instance (o : Origin) : Decidable o.OmitsPort :=
  inferInstanceAs (Decidable (_ ∨ _))

theorem portText_of_omits {o : Origin} (h : o.OmitsPort) : o.portText = "" := by
  rcases h with h | h <;> simp [portText, h]

theorem portText_of_shows {o : Origin} (h : ¬o.OmitsPort) {p : Nat} (hp : o.port = some p) :
    o.portText.toList = ':' :: Binary64.digitsOf p := by
  simp only [OmitsPort, hp, Option.some.injEq, not_or] at h
  simp only [portText, hp, ne_eq, h.1, h.2, not_false_eq_true, decide_true, Bool.and_true, if_true]
  rw [String.toList_append, toList_toString]
  rfl

/-- With the default of the scheme for none, the text behind the host is read as the port of the
pool, unless it was left out. -/
theorem or_defaultPort?_portText {o : Origin} (hp : ∀ p ∈ o.port, p < 65536) {port : Option Nat}
    {scheme : String} (h : Url.portOf? scheme o.portText.toList = some (port, [])) :
    port.or (Url.defaultPort? scheme) =
      if o.OmitsPort then Url.defaultPort? scheme else o.port.or (Url.defaultPort? scheme) := by
  have hnone : o.portText = "" → port = none := by
    intro hempty
    rw [hempty] at h
    exact (Prod.mk.inj (Option.some.inj h)).1.symm
  split
  next ho => rw [hnone (portText_of_omits ho), Option.none_or]
  next ho =>
    cases hport : o.port with
    | none => rw [hnone (by simp [portText, hport])]
    | some p =>
      obtain ⟨q, hq, hdefault⟩ := Url.portOf?_digitsOf (hp p hport) scheme
      rw [portText_of_shows ho hport, hq] at h
      obtain ⟨rfl, -⟩ := Prod.mk.inj (Option.some.inj h)
      rw [hdefault, Option.some_or]

theorem fullScheme_eq {o : Origin} (hs : o.scheme ∈ ["http", "https"]) :
    o.fullScheme = o.scheme := by
  have hscheme : ∀ scheme ∈ ["http", "https"],
      (if Text.sameAscii scheme "https" then "https" else "http") = scheme := by
    decide
  exact hscheme o.scheme hs

theorem ends_of_slash {u : String} (hu : u.toList.head? = some '/') :
    Url.Ends true (Url.cleanRest u.toList) := by
  obtain ⟨rest, hrest⟩ := List.head?_eq_some_iff.mp hu
  rw [hrest, Url.cleanRest_cons (by decide)]
  intro c hc
  obtain rfl := Option.some.inj hc
  rfl

/-- Only a port of the other scheme is lost where it is left out. -/
theorem default_eq_effectivePort?_iff {o : Origin} (hs : o.scheme ∈ ["http", "https"])
    (ho : o.OmitsPort) :
    Url.defaultPort? o.scheme = o.effectivePort? ↔
      ¬(o.scheme = "http" ∧ o.port = some 443 ∨ o.scheme = "https" ∧ o.port = some 80) := by
  have hd : ∀ scheme ∈ ["http", "https"], ∀ port ∈ [some 80, some 443],
      Url.defaultPort? scheme = port.or (Url.defaultPort? scheme) ↔
        ¬(scheme = "http" ∧ port = some 443 ∨ scheme = "https" ∧ port = some 80) := by
    decide
  exact hd o.scheme hs o.port (by simpa [OmitsPort] using ho)

/-- **The origin of a pool request.** For a pool of `http` or `https` whose host the URL parser
leaves as it is, the full address of a text that begins with a slash has the scheme and the host
of the pool. It leads to the port of the pool, unless that is 80 or 443: these are left out, and
the address leads to the default of its scheme, which is another port exactly where the pool has
the port of the other scheme. -/
theorem origin_fullUrl {o : Origin} {host : Url.Host} {u : String}
    (hs : o.scheme ∈ ["http", "https"]) (hh : Url.Host.special? o.host.toList = some host)
    (ht : host.text = o.host.toList) (hp : ∀ p ∈ o.port, p < 65536)
    (hu : u.toList.head? = some '/') :
    ∃ full, Url.parse? (o.fullUrl u) = some full ∧ full.scheme = o.scheme ∧
      full.host = some host ∧
      full.effectivePort? =
        (if o.OmitsPort then Url.defaultPort? o.scheme else o.effectivePort?) ∧
      (full.effectivePort? = o.effectivePort? ↔
        ¬(o.scheme = "http" ∧ o.port = some 443 ∨ o.scheme = "https" ∧ o.port = some 80)) := by
  obtain ⟨full, hfull, hscheme, hhost, hport⟩ := origin_of_ends hh ht hp (ends_of_slash hu)
  rw [fullScheme_eq hs] at hscheme hport
  have heffective : full.effectivePort? =
      if o.OmitsPort then Url.defaultPort? o.scheme else o.effectivePort? := by
    rw [Url.effectivePort?, hscheme]
    exact or_defaultPort?_portText hp hport
  refine ⟨full, hfull, hscheme, hhost, heffective, ?_⟩
  rw [heffective]
  split
  next ho => exact default_eq_effectivePort?_iff hs ho
  next ho =>
    refine iff_of_true rfl fun h => ho ?_
    exact h.elim (fun h => .inr h.2) (fun h => .inl h.2)

/-- A pool of one host, on a port of its own and on the port of the other scheme. -/
def securePool (port : Nat) : Origin :=
  ⟨"https", "api.example.com", some port⟩

theorem origin_securePool :
    (∃ full, Url.parse? ((securePool 8443).fullUrl "/v1?page=2") = some full ∧
        full.scheme = "https" ∧ full.host = some (.domain "api.example.com".toList) ∧
        full.effectivePort? = some 8443) ∧
      ∃ full, Url.parse? ((securePool 80).fullUrl "/v1?page=2") = some full ∧
        full.scheme = "https" ∧ full.host = some (.domain "api.example.com".toList) ∧
        full.effectivePort? = some 443 := by
  have hhost : Url.Host.special? "api.example.com".toList =
      some (.domain "api.example.com".toList) := by
    decide +kernel
  obtain ⟨own, hown, hscheme, hname, hport, -⟩ :=
    origin_fullUrl (o := securePool 8443) (u := "/v1?page=2") (by decide) hhost rfl (by decide) rfl
  obtain ⟨other, hother, hscheme', hname', hport', -⟩ :=
    origin_fullUrl (o := securePool 80) (u := "/v1?page=2") (by decide) hhost rfl (by decide) rfl
  exact ⟨⟨own, hown, hscheme, hname, hport.trans (by decide)⟩,
    ⟨other, hother, hscheme', hname', hport'.trans (by decide)⟩⟩

/-- The port of the other scheme is left out as well, so that not every pool without a written
port has the default of its own scheme. -/
theorem origin_fullUrl_other :
    ¬ ∀ (o : Origin) (host : Url.Host) (u : String), o.scheme ∈ ["http", "https"] →
        Url.Host.special? o.host.toList = some host → host.text = o.host.toList →
          (∀ p ∈ o.port, p < 65536) → u.toList.head? = some '/' →
            (Url.parse? (o.fullUrl u)).bind Url.effectivePort? = o.effectivePort? := by
  intro h
  have hhost : Url.Host.special? "api.example.com".toList =
      some (.domain "api.example.com".toList) := by
    decide +kernel
  have hport := h ⟨"http", "api.example.com", some 443⟩ _ "/v1" (by decide) hhost rfl (by decide)
    rfl
  have hother : (Url.parse?
      ((⟨"http", "api.example.com", some 443⟩ : Origin).fullUrl "/v1")).bind
        Url.effectivePort? = some 80 := by
    decide +kernel
  rw [hother] at hport
  exact absurd hport (by decide)

end PolicyGuard.Origin
