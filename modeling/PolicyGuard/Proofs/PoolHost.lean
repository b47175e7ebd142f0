import Mathlib.Data.List.TakeWhile
import PolicyGuard.Http.Origin
import PolicyGuard.Proofs.Capture
import PolicyGuard.Proofs.Domain
import PolicyGuard.Proofs.Origin
import PolicyGuard.Proofs.Precedence

/-!
The host that a request to a connection pool is judged on.

The full address of such a request is the text of the origin with the text of the request
behind it. What comes first is an authority as long as what comes behind starts with a
character that ends one, and then it is the host of the pool that the address is read with.

* `splitHost_of_text`, `portOf?_digitsOf`: the authority of a pool is its host and its port;
* `afterUser?_of_user`: what comes before `@` does not belong to them;
* `parse?_of_clean`: an address that begins with an authority has its host;
* `hostname_fullUrl`: the attribute that policies look at.
-/

namespace PolicyGuard

open Binary64 (digitsOf)

namespace Url

/-! ## The text of an authority -/

theorem ne_of_isPlain {c d : Char} (hc : IsPlain c) (hd : isForbiddenInDomain d = true) :
    c ≠ d := by
  rintro rfl
  rw [hc.2] at hd
  cases hd

/-- A character of a host and of its port. -/
def IsInner (c : Char) : Prop :=
  IsPlain c ∨ c = ':' ∨ c = '[' ∨ c = ']'

theorem IsInner.not_mem {c : Char} (h : IsInner c) : c ∉ ['/', '?', '#', '\\', '@'] := by
  rcases h with h | rfl | rfl | rfl
  · have hf : ∀ d ∈ ['/', '?', '#', '\\', '@'], isForbiddenInDomain d = true :=
      Text.forall_mem_of_all (by decide)
    exact fun hm => ne_of_isPlain h (hf c hm) rfl
  all_goals decide

theorem IsInner.ends {c : Char} (h : IsInner c) : endsAuthority true c = false := by
  have hn := h.not_mem
  simp only [List.mem_cons, not_or] at hn
  simp [endsAuthority, hn]

theorem IsInner.isSlash {c : Char} (h : IsInner c) : isSlash c = false := by
  have hn := h.not_mem
  simp only [List.mem_cons, not_or] at hn
  simp [Url.isSlash, hn]

theorem IsInner.visible {c : Char} (h : IsInner c) : 0x20 < c.toNat := by
  rcases h with h | rfl | rfl | rfl
  · have hf := h.2
    simp only [isForbiddenInDomain, Bool.or_eq_false_iff, decide_eq_false_iff_not] at hf
    omega
  all_goals decide

section Host

variable {cs : List Char} {host : Host} (h : Host.special? cs = some host) (ht : host.text = cs)

include h ht

theorem isInner_of_text : ∀ c ∈ cs, IsInner c := by
  rcases Host.cases_of_special? h ht with ⟨hn, -⟩ | ⟨hb, -, hbody⟩
  · exact fun c hc => .inl (hn.2 c hc)
  · rw [hb]
    intro c hc
    rcases List.mem_cons.mp hc with rfl | hc
    · exact .inr (.inr (.inl rfl))
    · rcases List.mem_append.mp hc with hc | hc
      · exact (hbody c hc).imp id .inl
      · exact .inr (.inr (.inr (List.mem_singleton.mp hc)))

theorem ne_nil_of_text : cs ≠ [] := by
  rcases Host.cases_of_special? h ht with ⟨hn, -⟩ | ⟨hb, -⟩
  · exact hn.1
  · rw [hb]
    exact List.cons_ne_nil _ _

end Host

/-- Nothing is left of an authority after its host, or a colon and the digits of a port. -/
def IsPort (cs : List Char) : Prop :=
  cs = [] ∨ ∃ n < 65536, cs = ':' :: digitsOf n

theorem IsPort.isInner {port : List Char} (h : IsPort port) : ∀ c ∈ port, IsInner c := by
  rcases h with rfl | ⟨n, -, rfl⟩
  · exact fun c hc => absurd hc List.not_mem_nil
  · refine List.forall_mem_cons.mpr ⟨.inr (.inl rfl), fun c hc => ?_⟩
    exact .inl (isPlain_of_mem_toDigits (by decide) (by decide) hc)

theorem IsPort.splitHost {port : List Char} (h : IsPort port) :
    splitHost true false port = ([], port) := by
  rcases h with rfl | ⟨n, -, rfl⟩ <;> rfl

theorem splitHost_name {cs port : List Char} (hc : ∀ c ∈ cs, IsPlain c) (hp : IsPort port) :
    splitHost true false (cs ++ port) = (cs, port) := by
  induction cs with
  | nil => exact hp.splitHost
  | cons c cs ih =>
    rw [List.forall_mem_cons] at hc
    have he : endsAuthority true c = false := IsInner.ends (.inl hc.1)
    have hcolon : c ≠ ':' := ne_of_isPlain hc.1 rfl
    have hopen : c ≠ '[' := ne_of_isPlain hc.1 rfl
    have hclose : c ≠ ']' := ne_of_isPlain hc.1 rfl
    simp [splitHost, he, hcolon, hopen, hclose, ih hc.2]

theorem splitHost_bracketed {body port : List Char} (hb : ∀ c ∈ body, IsPlain c ∨ c = ':')
    (hp : IsPort port) :
    splitHost true true (body ++ ']' :: port) = (body ++ [']'], port) := by
  induction body with
  | nil => simp [splitHost, endsAuthority, hp.splitHost]
  | cons c body ih =>
    rw [List.forall_mem_cons] at hb
    have he : endsAuthority true c = false := IsInner.ends (hb.1.imp id .inl)
    have hclose : c ≠ ']' := by
      rcases hb.1 with hc | rfl
      · exact ne_of_isPlain hc rfl
      · decide
    simp [splitHost, he, hclose, ih hb.2]

theorem splitHost_of_text {cs port : List Char} {host : Host}
    (h : Host.special? cs = some host) (ht : host.text = cs) (hp : IsPort port) :
    splitHost true false (cs ++ port) = (cs, port) := by
  rcases Host.cases_of_special? h ht with ⟨hn, -⟩ | ⟨hb, -, hbody⟩
  · exact splitHost_name hn.2 hp
  · have hs := splitHost_bracketed hbody hp
    rw [hb]
    simp [splitHost, endsAuthority, hs]

/-- The port that is written behind a host is the one that the URL leads to, also where it is
the default of the scheme and is not kept. -/
theorem portOf?_digitsOf {n : Nat} (hn : n < 65536) (scheme : String) :
    ∃ port, portOf? scheme (':' :: digitsOf n) = some (port, []) ∧
      port.or (defaultPort? scheme) = some n := by
  have ht : (digitsOf n).takeWhile Char.isDigit = digitsOf n :=
    List.takeWhile_eq_self_iff.mpr fun c hc => isDigit_of_mem_digitsOf hc
  have hd : (digitsOf n).dropWhile Char.isDigit = [] :=
    List.dropWhile_eq_nil_iff.mpr fun c hc => isDigit_of_mem_digitsOf hc
  have hlt : ¬65535 < n := by
    omega
  have hempty : (digitsOf n).isEmpty = false := List.isEmpty_eq_false_iff.mpr (digitsOf_ne_nil n)
  simp only [portOf?, port?, ht, hd, digitsValue_digitsOf, hlt, hempty, Bool.not_true,
    Bool.false_or, decide_false, Bool.false_eq_true, if_false, decide_eq_true_eq]
  split
  next hdefault => exact ⟨none, rfl, hdefault⟩
  next => exact ⟨some n, rfl, rfl⟩

theorem portOf?_of_isPort {port : List Char} (hp : IsPort port) (scheme : String) :
    ∃ n, portOf? scheme port = some (n, []) := by
  rcases hp with rfl | ⟨n, hn, rfl⟩
  · exact ⟨none, rfl⟩
  · obtain ⟨port, hport, -⟩ := portOf?_digitsOf hn scheme
    exact ⟨port, hport⟩

/-- Nothing, or a name with `@` behind it. -/
def IsUser (user : List Char) : Prop :=
  user = [] ∨ ∃ name, user = name ++ ['@'] ∧ ∀ c ∈ name, IsInner c

theorem IsUser.of_mem {user : List Char} (hu : IsUser user) {P : Char → Prop}
    (hi : ∀ c, IsInner c → P c) (hat : P '@') : ∀ c ∈ user, P c := by
  rcases hu with rfl | ⟨name, rfl, hname⟩
  · exact fun c hc => absurd hc List.not_mem_nil
  · intro c hc
    rcases List.mem_append.mp hc with hc | hc
    · exact hi c (hname c hc)
    · rwa [List.mem_singleton.mp hc]

theorem hostPart_eq {user host : List Char} (hu : IsUser user) (hh : '@' ∉ host) :
    hostPart (user ++ host) = host := by
  have hpass : ∀ c ∈ host.reverse, decide (c ≠ '@') = true :=
    Text.passes_of_not_mem (mt List.mem_reverse.mp hh)
  have ht : (user ++ host).reverse.takeWhile (· ≠ '@') = host.reverse := by
    rcases hu with rfl | ⟨name, rfl, -⟩
    · exact List.takeWhile_eq_self_iff.mpr hpass
    · rw [List.reverse_append, List.reverse_append, List.reverse_singleton,
        List.singleton_append]
      exact Text.takeWhile_stop hpass (by decide) name.reverse
  rw [hostPart, ht, List.reverse_reverse]

theorem afterUser?_of_user {user host rest : List Char} (hu : IsUser user)
    (hh : ∀ c ∈ host, IsInner c) (hn : host ≠ []) (hr : Ends true rest) :
    ∃ hasUser, afterUser? true (user ++ host ++ rest) = some (hasUser, host ++ rest) := by
  have ha : ∀ c ∈ user ++ host, endsAuthority true c = false :=
    List.forall_mem_append.mpr
      ⟨hu.of_mem (fun c hc => hc.ends) (by decide), fun c hc => (hh c hc).ends⟩
  have hpart : hostPart (user ++ host) = host :=
    hostPart_eq hu fun hm => (hh _ hm).not_mem (by decide)
  have hempty : host.isEmpty = false := List.isEmpty_eq_false_iff.mpr hn
  rw [afterUser?_eq ha hr, hpart]
  split
  next hl =>
    have hnone : user = [] := by
      rw [List.length_append] at hl
      exact List.eq_nil_of_length_eq_zero (by omega)
    exact ⟨false, by rw [hnone, List.nil_append]⟩
  next =>
    rw [hempty, Bool.and_false, Bool.false_and, if_neg Bool.false_ne_true]
    exact ⟨_, rfl⟩

section Authority

variable {user cs port rest : List Char} {host : Host} (hu : IsUser user)
  (h : Host.special? cs = some host) (ht : host.text = cs) (hp : IsPort port)
  (hr : Ends true rest)

include h ht

theorem authority_ne_nil : cs ++ port ≠ [] :=
  List.append_ne_nil_of_left_ne_nil (ne_nil_of_text h ht) port

include hp

theorem isInner_authority : ∀ c ∈ cs ++ port, IsInner c :=
  List.forall_mem_append.mpr ⟨isInner_of_text h ht, hp.isInner⟩

include hu hr

theorem origin_of_authority {scheme : String} (hs : isSpecial scheme = true) :
    ∃ o, authority? scheme (user ++ (cs ++ port) ++ rest) = some o ∧ o.scheme = scheme ∧
      o.host = some host ∧ portOf? scheme port = some (o.port, []) := by
  have hin := isInner_authority h ht hp
  obtain ⟨hasUser, hafter⟩ := afterUser?_of_user hu hin (authority_ne_nil h ht) hr
  have hsplit : splitHost (isSpecial scheme) false (cs ++ port ++ rest) = (cs, port ++ rest) := by
    rw [hs, splitHost_append hr fun c hc => (hin c hc).ends, splitHost_of_text h ht hp]
  have hport : port = [] ∨ ∃ digits, port = ':' :: digits :=
    hp.imp id fun ⟨n, _, hn⟩ => ⟨digitsOf n, hn⟩
  obtain ⟨n, hn⟩ := portOf?_of_isPort hp scheme
  rw [← hs] at hafter
  rw [authority?_eq hafter hsplit (ne_nil_of_text h ht), hostOf?, if_pos hs, h, Option.bind_some,
    portOf?_append hr hport, hn]
  exact ⟨_, rfl, rfl, rfl, rfl⟩

end Authority

/-! ## The text of a full address -/

/-- What is read of a text that an address ends with: no control characters or spaces at its
end, and neither tabs nor line ends. -/
def cleanRest (cs : List Char) : List Char :=
  (cs.reverse.dropWhile fun c => c.toNat ≤ 0x20).reverse.filter fun c =>
    c ≠ '\t' && c ≠ '\n' && c ≠ '\r'

theorem cleanRest_cons {c : Char} (hc : 0x20 < c.toNat) (rest : List Char) :
    cleanRest (c :: rest) = c :: cleanRest rest := by
  have hback : (c :: rest).reverse.dropWhile (fun c => decide (c.toNat ≤ 0x20)) =
      rest.reverse.dropWhile (fun c => decide (c.toNat ≤ 0x20)) ++ [c] := by
    rw [List.reverse_cons]
    refine Text.dropWhile_append_stop (fun d hd => ?_) rest.reverse
    obtain rfl : c = d := Option.some.inj hd
    exact decide_eq_false (by omega)
  have hne : ∀ d ∈ ['\t', '\n', '\r'], c ≠ d := by
    have hle : ∀ d ∈ ['\t', '\n', '\r'], d.toNat ≤ 0x20 :=
      Text.forall_mem_of_all (by decide)
    rintro d hd rfl
    have := hle c hd
    omega
  simp only [List.forall_mem_cons] at hne
  rw [cleanRest, hback, List.reverse_append, List.reverse_singleton, List.singleton_append]
  exact List.filter_cons_of_pos (by simp [hne])

theorem cleanRest_append {cs : List Char} (hc : ∀ c ∈ cs, 0x20 < c.toNat) (rest : List Char) :
    cleanRest (cs ++ rest) = cs ++ cleanRest rest := by
  induction cs with
  | nil => rfl
  | cons c cs ih =>
    rw [List.forall_mem_cons] at hc
    rw [List.cons_append, cleanRest_cons hc.1, ih hc.2, List.cons_append]

theorem clean_append {cs : List Char} (hc : ∀ c ∈ cs, 0x20 < c.toNat) (hn : cs ≠ [])
    (rest : List Char) : clean (cs ++ rest) = cs ++ cleanRest rest := by
  have hfront : (cs ++ rest).dropWhile (fun c => decide (c.toNat ≤ 0x20)) = cs ++ rest := by
    cases cs with
    | nil => exact absurd rfl hn
    | cons c cs =>
      have := hc c List.mem_cons_self
      exact List.dropWhile_cons_of_neg (by simpa using this)
  have hclean : clean (cs ++ rest) =
      cleanRest ((cs ++ rest).dropWhile fun c => decide (c.toNat ≤ 0x20)) := rfl
  rw [hclean, hfront, cleanRest_append hc]

/-- Only the two slashes before an authority are passed over. -/
theorem dropWhile_slashes {cs : List Char} (hc : ∀ c ∈ cs, isSlash c = false) (hn : cs ≠ [])
    (rest : List Char) : ('/' :: '/' :: (cs ++ rest)).dropWhile isSlash = cs ++ rest := by
  cases cs with
  | nil => exact absurd rfl hn
  | cons c cs =>
    have hfirst := hc c List.mem_cons_self
    rw [List.dropWhile_cons_of_pos rfl, List.dropWhile_cons_of_pos rfl]
    exact List.dropWhile_cons_of_neg (by rw [hfirst]; decide)

/-- An address that begins with an authority has the host of that authority, and its port. -/
theorem parse?_of_clean {text scheme : String} (hs : scheme ∈ ["http", "https"])
    {user cs port rest : List Char} {host : Host} (hu : IsUser user)
    (hh : Host.special? cs = some host) (ht : host.text = cs) (hp : IsPort port)
    (hr : Ends true rest)
    (hc : clean text.toList =
      scheme.toList ++ ("://".toList ++ (user ++ (cs ++ port) ++ rest))) :
    ∃ o, parse? text = some o ∧ o.scheme = scheme ∧ o.host = some host ∧
      portOf? scheme port = some (o.port, []) := by
  have hscheme : ∀ scheme ∈ ["http", "https"],
      scheme? (scheme.toList ++ [':']) = some (scheme, []) ∧ isSpecial scheme = true ∧
        scheme ≠ "file" := by
    decide
  obtain ⟨hname, hspecial, hfile⟩ := hscheme scheme hs
  have hread : scheme? (clean text.toList) =
      some (scheme, '/' :: '/' :: (user ++ (cs ++ port) ++ rest)) := by
    have ha := scheme?_append hname ('/' :: '/' :: (user ++ (cs ++ port) ++ rest))
    rw [List.append_assoc] at ha
    rw [hc]
    exact ha
  have hin := isInner_authority hh ht hp
  have hslash : ∀ c ∈ user ++ (cs ++ port), isSlash c = false :=
    List.forall_mem_append.mpr
      ⟨hu.of_mem (fun c hc => hc.isSlash) (by decide), fun c hc => (hin c hc).isSlash⟩
  have hne : user ++ (cs ++ port) ≠ [] :=
    List.append_ne_nil_of_right_ne_nil user (authority_ne_nil hh ht)
  rw [parse?_eq hread, if_neg hfile, if_pos hspecial, dropWhile_slashes hslash hne]
  exact origin_of_authority hu hh ht hp hr hspecial

/-! ## The attribute of a host -/

theorem dropWhile_of_not_mem {cs : List Char} {c : Char} (h : c ∉ cs) :
    cs.dropWhile (· = c) = cs := by
  refine List.dropWhile_eq_self_iff.mpr fun hl hc => h ?_
  rw [← of_decide_eq_true hc]
  exact List.getElem_mem hl

/-- What subjects have as the name of a host is its text without brackets. -/
theorem bare_eq {cs : List Char} {host : Host} (h : Host.special? cs = some host)
    (ht : host.text = cs) :
    ((host.text.dropWhile (· = '[')).reverse.dropWhile (· = ']')).reverse = host.bare := by
  rcases Host.cases_of_special? h ht with ⟨⟨hne, hplain⟩, hbare⟩ | ⟨hb, hne, hbody⟩
  · have hopen : '[' ∉ cs := fun hm => ne_of_isPlain (hplain _ hm) rfl rfl
    have hclose : ']' ∉ cs.reverse :=
      fun hm => ne_of_isPlain (hplain _ (List.mem_reverse.mp hm)) rfl rfl
    rw [ht, hbare, dropWhile_of_not_mem hopen, dropWhile_of_not_mem hclose, List.reverse_reverse]
  · have hinner : ∀ c ∈ host.bare, c ≠ '[' ∧ c ≠ ']' := by
      intro c hc
      rcases hbody c hc with hp | rfl
      · exact ⟨ne_of_isPlain hp rfl, ne_of_isPlain hp rfl⟩
      · decide
    have hopen : '[' ∉ host.bare ++ [']'] := by
      intro hm
      rcases List.mem_append.mp hm with hm | hm
      · exact (hinner _ hm).1 rfl
      · exact absurd hm (by decide)
    have hclose : ']' ∉ host.bare.reverse :=
      fun hm => (hinner _ (List.mem_reverse.mp hm)).2 rfl
    rw [ht, hb, List.dropWhile_cons_of_pos rfl, dropWhile_of_not_mem hopen, List.reverse_append,
      List.reverse_singleton, List.singleton_append, List.dropWhile_cons_of_pos rfl,
      dropWhile_of_not_mem hclose, List.reverse_reverse]

theorem isLow_bare {cs : List Char} {host : Host} (h : Host.special? cs = some host)
    (ht : host.text = cs) : host.bare ≠ [] ∧ ∀ c ∈ host.bare, IsLow c := by
  rcases Host.cases_of_special? h ht with ⟨⟨hne, hplain⟩, hbare⟩ | ⟨-, hne, hbody⟩
  · rw [hbare]
    exact ⟨hne, fun c hc => (hplain c hc).1⟩
  · refine ⟨hne, fun c hc => ?_⟩
    rcases hbody c hc with hp | rfl
    · exact hp.1
    · decide

end Url

namespace Policy.Subject

theorem hostname_ofRequest {url : String} {u : Url} {cs : List Char} {host : Url.Host}
    (hu : Url.parse? url = some u) (hh : u.host = some host)
    (h : Url.Host.special? cs = some host) (ht : host.text = cs) (method : String)
    (headers : List (String × String)) :
    (ofRequest url method headers).get? "hostname" =
      some (.text (String.ofList host.bare)) := by
  obtain ⟨hne, hlow⟩ := Url.isLow_bare h ht
  have hempty : host.bare.isEmpty = false := List.isEmpty_eq_false_iff.mpr hne
  have hlower : Text.lowerAscii (String.ofList host.bare) = String.ofList host.bare := by
    rw [Text.lowerAscii, String.toList_ofList]
    congr 1
    exact (List.map_congr_left fun c hc => (hlow c hc).2).trans (List.map_id _)
  have hown : ¬"header_".toList <+: "hostname".toList := by
    decide
  rw [ofRequest, get?_withHeaders hown, Table.get?_put, if_neg (by decide), Table.get?_put,
    if_neg (by decide), ofUrl, hu]
  simp only [hh, Url.bare_eq h ht, hempty, hlower, Bool.false_eq_true, if_false, Table.get?_put,
    if_true]

end Policy.Subject

namespace Origin

theorem fullScheme_mem (o : Origin) : o.fullScheme ∈ ["http", "https"] := by
  unfold fullScheme
  split <;> decide

theorem isPort_portText {o : Origin} (hp : ∀ p ∈ o.port, p < 65536) :
    Url.IsPort o.portText.toList := by
  unfold portText
  split
  next port hport =>
    split
    · refine .inr ⟨port, hp port hport, ?_⟩
      rw [String.toList_append, toList_toString]
      rfl
    · exact .inl rfl
  next => exact .inl rfl

/-- What does not start with `http` comes behind the origin. -/
theorem toList_fullUrl {u : String} (hu : ¬"http".toList <+: u.toList) (o : Origin) :
    (o.fullUrl u).toList =
      o.fullScheme.toList ++ ("://".toList ++ (o.host.toList ++ o.portText.toList)) ++
        u.toList := by
  have hn : "http".toList.isPrefixOf u.toList = false := by
    rw [Bool.eq_false_iff]
    exact fun h => hu (List.isPrefixOf_iff_prefix.mp h)
  rw [fullUrl, hn, if_neg (by decide)]
  simp only [String.toList_append, List.append_assoc]

/-- What cannot go on with an authority is no full address. -/
theorem not_http_of_ends {u : String} (hu : Url.Ends true (Url.cleanRest u.toList)) :
    ¬"http".toList <+: u.toList := by
  rintro ⟨rest, hrest⟩
  have hhttp : ∀ c ∈ "http".toList, 0x20 < c.toNat := Text.forall_mem_of_all (by decide)
  rw [← hrest, Url.cleanRest_append hhttp] at hu
  exact absurd (hu 'h' rfl) (by decide)

section Host

variable {o : Origin} {host : Url.Host} (hh : Url.Host.special? o.host.toList = some host)
  (ht : host.text = o.host.toList) (hp : ∀ p ∈ o.port, p < 65536)

include hh ht hp

theorem clean_fullUrl {u : String} (hu : ¬"http".toList <+: u.toList) :
    Url.clean (o.fullUrl u).toList =
      o.fullScheme.toList ++ ("://".toList ++ (o.host.toList ++ o.portText.toList ++
        Url.cleanRest u.toList)) := by
  have hscheme : ∀ c ∈ o.fullScheme.toList, 0x20 < c.toNat := by
    unfold fullScheme
    split <;> exact Text.forall_mem_of_all (by decide)
  have hslashes : ∀ c ∈ "://".toList, 0x20 < c.toNat := Text.forall_mem_of_all (by decide)
  have hauthority : ∀ c ∈ o.host.toList ++ o.portText.toList, 0x20 < c.toNat :=
    fun c hc => (Url.isInner_authority hh ht (isPort_portText hp) c hc).visible
  have hbase := List.forall_mem_append.mpr
    ⟨hscheme, List.forall_mem_append.mpr ⟨hslashes, hauthority⟩⟩
  rw [toList_fullUrl hu, Url.clean_append hbase (by simp)]
  simp only [List.append_assoc]

/-- What ends the authority of a pool leaves it the scheme, the host and the port of the pool. -/
theorem origin_of_ends {u : String} (hu : Url.Ends true (Url.cleanRest u.toList)) :
    ∃ full, Url.parse? (o.fullUrl u) = some full ∧ full.scheme = o.fullScheme ∧
      full.host = some host ∧
        Url.portOf? o.fullScheme o.portText.toList = some (full.port, []) :=
  Url.parse?_of_clean o.fullScheme_mem (.inl rfl) hh ht (isPort_portText hp) hu
    (clean_fullUrl hh ht hp (not_http_of_ends hu))

theorem parse?_of_ends {u : String} (hu : Url.Ends true (Url.cleanRest u.toList)) :
    ∃ full, Url.parse? (o.fullUrl u) = some full ∧ full.host = some host := by
  obtain ⟨full, hfull, -, hhost, -⟩ := origin_of_ends hh ht hp hu
  exact ⟨full, hfull, hhost⟩

/-- Behind `@` comes the host, and the pool before it is taken for a user. -/
theorem parse?_of_user {u : String} {x rest : List Char} {other : Url.Host}
    (hx : Url.Host.special? x = some other) (hother : other.text = x)
    (hu : u.toList = '@' :: (x ++ rest)) (hr : Url.Ends true (Url.cleanRest rest)) :
    ∃ full, Url.parse? (o.fullUrl u) = some full ∧ full.host = some other := by
  have hn : ¬"http".toList <+: u.toList := by
    rw [hu]
    rintro ⟨more, hmore⟩
    exact absurd (List.cons.inj hmore).1 (by decide)
  have huser : Url.IsUser (o.host.toList ++ o.portText.toList ++ ['@']) :=
    .inr ⟨_, rfl, Url.isInner_authority hh ht (isPort_portText hp)⟩
  have hvisible : ∀ c ∈ '@' :: x, 0x20 < c.toNat :=
    List.forall_mem_cons.mpr
      ⟨by decide, fun c hc => (Url.isInner_of_text hx hother c hc).visible⟩
  have hclean : Url.clean (o.fullUrl u).toList =
      o.fullScheme.toList ++ ("://".toList ++ (o.host.toList ++ o.portText.toList ++ ['@'] ++
        (x ++ []) ++ Url.cleanRest rest)) := by
    rw [clean_fullUrl hh ht hp hn, hu, ← List.cons_append, Url.cleanRest_append hvisible]
    simp only [List.append_assoc, List.append_nil, List.cons_append, List.nil_append]
  obtain ⟨full, hfull, -, hhost, -⟩ :=
    Url.parse?_of_clean o.fullScheme_mem huser hx hother (.inl rfl) hr hclean
  exact ⟨full, hfull, hhost⟩

/-- **The host of a pool request.** For a pool whose host the URL parser leaves as it is, a text
that goes on with a path, a query or a fragment or is empty is judged on the host of the pool,
and a forbid of that host applies to it. A text that goes on with `@` and another host is judged
on the other host. -/
theorem hostname_fullUrl (u method : String) (headers : List (String × String)) :
    (Url.Ends true (Url.cleanRest u.toList) →
      (Policy.Subject.ofRequest (o.fullUrl u) method headers).get? "hostname" =
          some (.text (String.ofList host.bare)) ∧
        ∀ (rules : List Policy.Rule) (r : Policy.Rule), r ∈ rules → r.effect = .forbid →
          r.field = "hostname" → r.operator = .equals →
            r.value = .text (String.ofList host.bare) →
              (Policy.decide rules
                (Policy.Subject.ofRequest (o.fullUrl u) method headers)).decision = .deny) ∧
    ∀ (x rest : List Char) (other : Url.Host), Url.Host.special? x = some other →
      other.text = x → u.toList = '@' :: (x ++ rest) → Url.Ends true (Url.cleanRest rest) →
        (Policy.Subject.ofRequest (o.fullUrl u) method headers).get? "hostname" =
          some (.text (String.ofList other.bare)) := by
  constructor
  · intro hu
    obtain ⟨full, hfull, hhost⟩ := parse?_of_ends hh ht hp hu
    have hname := Policy.Subject.hostname_ofRequest hfull hhost hh ht method headers
    refine ⟨hname, fun rules r hr heffect hfield hop hvalue => ?_⟩
    have happlies : r.appliesTo (Policy.Subject.ofRequest (o.fullUrl u) method headers) = true := by
      rw [Policy.Rule.appliesTo, hfield, hname, Option.any_some, Policy.Rule.accepts, hfield,
        if_neg (by decide), hvalue, hop]
      exact decide_eq_true rfl
    have hforbids : r.forbids (Policy.Subject.ofRequest (o.fullUrl u) method headers) = true := by
      rw [Policy.Rule.forbids, heffect, happlies]
      rfl
    rw [Policy.decide_deny_iff]
    exact List.ne_nil_of_mem (List.mem_filter.mpr ⟨hr, hforbids⟩)
  · intro x rest other hx hother hu hr
    obtain ⟨full, hfull, hhost⟩ := parse?_of_user hh ht hp hx hother hu hr
    exact Policy.Subject.hostname_ofRequest hfull hhost hx hother method headers

end Host

/-! Two pools, one of which has an address for its host. -/

def apiPool : Origin :=
  ⟨"HTTPS", "api.example.com", some 8443⟩

def addressPool : Origin :=
  ⟨"http", "[2001:db8::1]", none⟩

def noAddress : Policy.Rule where
  effect := .forbid
  action := "*"
  field := "hostname"
  operator := .equals
  value := .text "2001:db8::1"
  source := "forbid (principal, action, resource) when \x7b request.hostname == \"2001:db8::1\" \x7d;"

theorem hostname_pools :
    (Policy.Subject.ofRequest (apiPool.fullUrl "\t?next=@evil.example ") "GET" []).get? "hostname" =
        some (.text "api.example.com") ∧
      (Policy.decide [noAddress]
        (Policy.Subject.ofRequest (addressPool.fullUrl "\\..//evil.example") "GET" [])).decision =
          .deny ∧
      (Policy.Subject.ofRequest (apiPool.fullUrl "@[2001:db8::1]/v1") "GET" []).get? "hostname" =
        some (.text "2001:db8::1") := by
  have happi : Url.Host.special? apiPool.host.toList = some (.domain "api.example.com".toList) := by
    decide +kernel
  have haddress : Url.Host.special? addressPool.host.toList =
      some (.ipv6 [0x2001, 0xdb8, 0, 0, 0, 0, 0, 1]) := by
    decide +kernel
  have hquery : Url.Ends true (Url.cleanRest "\t?next=@evil.example ".toList) := by
    decide +kernel
  have hpath : Url.Ends true (Url.cleanRest "\\..//evil.example".toList) := by
    decide +kernel
  have htext : (Url.Host.ipv6 [0x2001, 0xdb8, 0, 0, 0, 0, 0, 1]).text = addressPool.host.toList := by
    decide +kernel
  have hbare : String.ofList (Url.Host.ipv6 [0x2001, 0xdb8, 0, 0, 0, 0, 0, 1]).bare =
      "2001:db8::1" := by
    decide +kernel
  have hrest : Url.Ends true (Url.cleanRest "/v1".toList) := by
    decide +kernel
  have hname := (hostname_fullUrl happi rfl (by decide) "\t?next=@evil.example " "GET" []).1 hquery
  have hdeny := (hostname_fullUrl haddress htext (by decide) "\\..//evil.example" "GET" []).1 hpath
  have hother := (hostname_fullUrl happi rfl (by decide) "@[2001:db8::1]/v1" "GET" []).2
    addressPool.host.toList "/v1".toList _ haddress htext (by decide +kernel) hrest
  rw [hbare] at hother hdeny
  exact ⟨hname.1, hdeny.2 _ noAddress List.mem_cons_self rfl rfl rfl rfl, hother⟩

/-- Not every text goes on with something else: one that starts with `@` makes the host of the
pool a user, and names another host. -/
theorem hostname_afterUser :
    ¬ ∀ (o : Origin) (host : Url.Host) (u : String), o.scheme ∈ ["http", "https"] →
        Url.Host.special? o.host.toList = some host → host.text = o.host.toList →
          (∀ p ∈ o.port, p < 65536) → ¬ "http://".toList <+: u.toList →
            ¬ "https://".toList <+: u.toList →
              (Policy.Subject.ofRequest (o.fullUrl u) "GET" []).get? "hostname" =
                some (.text o.host) := by
  intro h
  have hhost : Url.Host.special? "api.example.com".toList =
      some (.domain "api.example.com".toList) := by
    decide +kernel
  have hname := h ⟨"https", "api.example.com", some 443⟩ _ "@evil.example/" (by decide) hhost rfl
    (by decide) (by decide) (by decide)
  have hother : (Policy.Subject.ofRequest
      ((⟨"https", "api.example.com", some 443⟩ : Origin).fullUrl "@evil.example/") "GET" []).get?
        "hostname" = some (.text "evil.example") := by
    decide +kernel
  rw [hother] at hname
  exact absurd hname (by decide)

end Origin

end PolicyGuard
