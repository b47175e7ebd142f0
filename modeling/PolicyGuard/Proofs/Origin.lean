import PolicyGuard.Proofs.Scan
import PolicyGuard.Url.Parse

/-!
The origin of a URL: its scheme, its host and its port.

The origin is read from the text up to the end of the authority, so it is the same for two
texts that agree so far, whatever follows. A file is an exception, since a drive letter in
its path takes its host away.

* `authority?_eq`: what an authority with a host is read as;
* `authority?_append`: what follows an authority has no part in its host and port;
* `parse?_of_authority`, `exists_authority`: a URL with a host is read from its authority;
* `scheme_of_prefix`, `origin_of_prefix`: a text that continues the text of a URL.
-/

namespace PolicyGuard.Url

/-- Nothing follows an authority, or a character that ends it. -/
def Ends (special : Bool) (rest : List Char) : Prop :=
  ∀ c ∈ rest.head?, endsAuthority special c = true

instance (special : Bool) (rest : List Char) : Decidable (Ends special rest) :=
  decidable_of_iff (rest.head?.all (endsAuthority special) = true) (by cases rest <;> simp [Ends])

/-- Two URLs with the same scheme, the same host and the same port. -/
def SameOrigin (o o' : Url) : Prop :=
  o.scheme = o'.scheme ∧ o.host = o'.host ∧ o.port = o'.port

/-- The text from an authority on; after a scheme with a known form there always is one. -/
def fromAuthority? (scheme : String) (cs : List Char) : Option (List Char) :=
  if isSpecial scheme then some (cs.dropWhile isSlash)
  else
    match cs with
    | '/' :: '/' :: rest => some rest
    | _ => none

/-- Whether a text has an authority that ends within as many characters as another has. -/
def sharesAuthority (e u : String) : Bool :=
  (scheme? (clean u.toList)).any fun (scheme, rest) =>
    (fromAuthority? scheme rest).any fun cs =>
      (clean u.toList).length ≤
        (clean e.toList).length + (cs.dropWhile (!endsAuthority (isSpecial scheme) ·)).length

/-! ## The parts of an authority -/

theorem not_isDigit_of_endsAuthority {special : Bool} {c : Char}
    (h : endsAuthority special c = true) : c.isDigit = false := by
  simp only [endsAuthority, Bool.or_eq_true, decide_eq_true_eq, Bool.and_eq_true] at h
  rcases h with ((rfl | rfl) | rfl) | ⟨-, rfl⟩ <;> rfl

theorem ne_colon_of_endsAuthority {special : Bool} {c : Char}
    (h : endsAuthority special c = true) : c ≠ ':' := by
  rintro rfl
  cases special <;> cases h

theorem endsAuthority_true {special : Bool} {c : Char} (h : endsAuthority special c = true) :
    endsAuthority true c = true := by
  cases special with
  | true => exact h
  | false =>
    simp only [endsAuthority, Bool.false_and, Bool.or_false] at h
    simp [endsAuthority, h]

section Parts

variable {special : Bool} {rest : List Char} (hr : Ends special rest)

include hr

theorem splitHost_append {host : List Char} (hh : ∀ c ∈ host, endsAuthority special c = false)
    (inside : Bool) :
    splitHost special inside (host ++ rest) =
      ((splitHost special inside host).1, (splitHost special inside host).2 ++ rest) := by
  induction host generalizing inside with
  | nil =>
    cases rest with
    | nil => rfl
    | cons c rest => simp [splitHost, hr c rfl]
  | cons c host ih =>
    rw [List.forall_mem_cons] at hh
    have ht := ih hh.2
    simp only [List.cons_append, splitHost, hh.1, Bool.false_or]
    split
    · rfl
    · rw [ht]

theorem port?_append (scheme : String) (digits : List Char) :
    port? scheme (digits ++ rest) = (port? scheme digits).map fun p => (p.1, p.2 ++ rest) := by
  have hd : ∀ c ∈ rest.head?, c.isDigit = false :=
    fun c hc => not_isDigit_of_endsAuthority (hr c hc)
  simp only [port?, Text.takeWhile_append_stop hd, Text.dropWhile_append_stop hd,
    apply_ite (Option.map _), Option.map_none, Option.map_some]
  cases digits.dropWhile Char.isDigit with
  | cons c tail => rfl
  | nil =>
    cases rest with
    | nil => rfl
    | cons c tail =>
      have hc : endsAuthority true c = true := endsAuthority_true (hr c rfl)
      simp only [List.nil_append, hc]

end Parts

/-- What follows the name of a user, if an authority has one. -/
def hostPart (authority : List Char) : List Char :=
  (authority.reverse.takeWhile (· ≠ '@')).reverse

/-- The name of a user and a password, if an authority has one. -/
def userPart (authority : List Char) : List Char :=
  authority.take (authority.length - (hostPart authority).length - 1)

theorem hostPart_subset {authority : List Char} {p : Char → Prop} (ha : ∀ c ∈ authority, p c) :
    ∀ c ∈ hostPart authority, p c := by
  intro c hc
  rw [hostPart, List.mem_reverse] at hc
  exact ha c (List.mem_reverse.mp ((List.takeWhile_prefix _).subset hc))

theorem hostPart_of_length {authority : List Char}
    (h : (hostPart authority).length = authority.length) : hostPart authority = authority := by
  simp only [hostPart, List.length_reverse] at h
  rw [hostPart, (List.takeWhile_prefix _).eq_of_length (by rw [h, List.length_reverse]),
    List.reverse_reverse]

section Authority

variable {special : Bool} {authority : List Char}
  (ha : ∀ c ∈ authority, endsAuthority special c = false)

include ha

theorem takeWhile_authority {rest : List Char} (hr : Ends special rest) :
    (authority ++ rest).takeWhile (!endsAuthority special ·) = authority := by
  have ht : rest.takeWhile (!endsAuthority special ·) = [] :=
    Text.takeWhile_append_stop (fun c hc => by rw [hr c hc]; rfl) []
  rw [List.takeWhile_append_of_pos (fun c hc => by rw [ha c hc]; rfl), ht, List.append_nil]

theorem dropWhile_authority {rest : List Char} (hr : Ends special rest) :
    (authority ++ rest).dropWhile (!endsAuthority special ·) = rest := by
  have hd : rest.dropWhile (!endsAuthority special ·) = rest :=
    Text.dropWhile_append_stop (fun c hc => by rw [hr c hc]; rfl) []
  rw [List.dropWhile_append_of_pos (fun c hc => by rw [ha c hc]; rfl), hd]

theorem afterUser?_eq {rest : List Char} (hr : Ends special rest) :
    afterUser? special (authority ++ rest) =
      if (hostPart authority).length = authority.length then some (false, authority ++ rest)
      else if (userPart authority).isEmpty && (hostPart authority).isEmpty && !rest.isEmpty then
        none
      else
        some (!(userPart authority).isEmpty && userPart authority ≠ [':'],
          hostPart authority ++ rest) := by
  unfold afterUser?
  rw [takeWhile_authority ha hr, dropWhile_authority ha hr]
  rfl

/-- The user is cut off; if a host is left, it does not matter what follows. -/
theorem afterUser?_append {rest rest' : List Char} (hr : Ends special rest)
    (hr' : Ends special rest') {hasUser : Bool} {cs : List Char}
    (h : afterUser? special (authority ++ rest) = some (hasUser, cs)) :
    cs = hostPart authority ++ rest ∧ (hostPart authority ≠ [] →
      afterUser? special (authority ++ rest') = some (hasUser, hostPart authority ++ rest')) := by
  rw [afterUser?_eq ha hr] at h
  rw [afterUser?_eq ha hr']
  by_cases hl : (hostPart authority).length = authority.length
  · rw [if_pos hl] at h ⊢
    rw [hostPart_of_length hl]
    cases h
    exact ⟨rfl, fun _ => rfl⟩
  · rw [if_neg hl] at h ⊢
    split at h
    · cases h
    · cases h
      refine ⟨rfl, fun hn => if_neg ?_⟩
      simp [hn]

/-- What is left of a host starts at a colon. -/
theorem splitHost_snd (inside : Bool) :
    (splitHost special inside authority).2 = [] ∨
      ∃ digits, (splitHost special inside authority).2 = ':' :: digits := by
  induction authority generalizing inside with
  | nil => exact .inl rfl
  | cons c cs ih =>
    rw [List.forall_mem_cons] at ha
    simp only [splitHost, ha.1, Bool.false_or]
    split
    next hc => exact .inr ⟨cs, by simp_all⟩
    next => exact ih ha.2 _

end Authority

/-- The host that a text names under a scheme. -/
def hostOf? (scheme : String) (text : List Char) : Option Host :=
  if isSpecial scheme then Host.special? text else Host.opaque? text

/-- The port in what is left of an authority after its host. -/
def portOf? (scheme : String) (cs : List Char) : Option (Option Nat × List Char) :=
  match cs with
  | ':' :: tail => port? scheme tail
  | _ => some (none, cs)

theorem portOf?_append {special : Bool} {rest : List Char} (hr : Ends special rest)
    {cs : List Char} (hc : cs = [] ∨ ∃ digits, cs = ':' :: digits) (scheme : String) :
    portOf? scheme (cs ++ rest) = (portOf? scheme cs).map fun p => (p.1, p.2 ++ rest) := by
  rcases hc with rfl | ⟨digits, rfl⟩
  · cases rest with
    | nil => rfl
    | cons c rest =>
      have hne : c ≠ ':' := ne_colon_of_endsAuthority (hr c rfl)
      simp [portOf?, hne]
  · exact port?_append hr scheme digits

theorem map_portOf? {α : Type} (scheme : String) (cs : List Char)
    (f : Option Nat × List Char → α) :
    (portOf? scheme cs).map f =
      match cs with
      | ':' :: tail => (port? scheme tail).bind fun p => pure (f p)
      | _ => pure (f (none, cs)) := by
  unfold portOf?
  split
  · exact Option.map_eq_bind
  · rfl

section Read

variable {scheme : String} {cs rest text left : List Char} {hasUser : Bool}
  (hu : afterUser? (isSpecial scheme) cs = some (hasUser, rest))
  (hs : splitHost (isSpecial scheme) false rest = (text, left))

include hu hs

/-- What an authority with a host is read as. -/
theorem authority?_eq (ht : text ≠ []) :
    authority? scheme cs = (hostOf? scheme text).bind fun host =>
      (portOf? scheme left).map fun p =>
        ⟨scheme, some host, p.1, String.ofList (authorityPath (isSpecial scheme) p.2)⟩ := by
  have he : text.isEmpty = false := List.isEmpty_eq_false_iff.mpr ht
  simp only [authority?, Option.bind_eq_bind, hu, Option.bind_some, hs, he, Bool.false_eq_true,
    if_false, hostOf?, map_portOf?]
  split <;> rw [Option.bind_map] <;> rfl

theorem authority?_of_nil (ht : text = []) {o : Url} (h : authority? scheme cs = some o) :
    ∃ port path, o = ⟨scheme, none, port, path⟩ := by
  subst ht
  simp only [authority?, Option.bind_eq_bind, hu, Option.bind_some, hs, List.isEmpty_nil,
    if_true] at h
  split at h
  · cases h
  · split at h
    · obtain ⟨p, -, hp⟩ := Option.bind_eq_some_iff.mp h
      exact ⟨_, _, (Option.some.inj hp).symm⟩
    · exact ⟨_, _, (Option.some.inj h).symm⟩

end Read

/-- What follows an authority has no part in its host and port. -/
theorem authority?_append {scheme : String} {authority rest rest' : List Char}
    (ha : ∀ c ∈ authority, endsAuthority (isSpecial scheme) c = false)
    (hr : Ends (isSpecial scheme) rest) (hr' : Ends (isSpecial scheme) rest') {o : Url}
    (h : authority? scheme (authority ++ rest) = some o) (ho : o.host.isSome) :
    ∃ o', authority? scheme (authority ++ rest') = some o' ∧ SameOrigin o o' := by
  obtain ⟨⟨hasUser, cs⟩, hu, -⟩ := Option.bind_eq_some_iff.mp h
  obtain ⟨rfl, hu'⟩ := afterUser?_append ha hr hr' hu
  have hh := hostPart_subset ha
  have hl := splitHost_snd hh false
  have hs := splitHost_append hr hh false
  have hs' := splitHost_append hr' hh false
  have ht : (splitHost (isSpecial scheme) false (hostPart authority)).1 ≠ [] := by
    intro ht
    obtain ⟨port, path, rfl⟩ := authority?_of_nil hu hs ht h
    cases ho
  have hne : hostPart authority ≠ [] := by
    intro hne
    rw [hne] at ht
    exact ht rfl
  -- both texts are read from the same host, and from the same digits after it
  rw [authority?_eq hu hs ht, portOf?_append hr hl] at h
  rw [authority?_eq (hu' hne) hs' ht, portOf?_append hr' hl]
  obtain ⟨host, hhost, hp⟩ := Option.bind_eq_some_iff.mp h
  rw [Option.map_map] at hp
  obtain ⟨p, hport, rfl⟩ := Option.map_eq_some_iff.mp hp
  rw [hhost, hport]
  exact ⟨_, rfl, rfl, rfl, rfl⟩

/-! ## The text of a URL -/

theorem ends_dropWhile (special : Bool) (cs : List Char) :
    Ends special (cs.dropWhile (!endsAuthority special ·)) := by
  intro c hc
  have hn := List.head?_dropWhile_not (!endsAuthority special ·) cs
  rw [Option.mem_def.mp hc] at hn
  simpa using hn

theorem scheme?_append {cs rest : List Char} {scheme : String}
    (h : scheme? cs = some (scheme, rest)) (more : List Char) :
    scheme? (cs ++ more) = some (scheme, rest ++ more) := by
  simp only [scheme?] at h ⊢
  split at h
  next tail hd =>
    obtain ⟨ht', hd'⟩ := Text.span_append hd more
    simp only [ht', hd']
    split at h
    next ha =>
      cases h
      rw [if_pos ha]
    next => cases h
  next => cases h

theorem fromAuthority?_append {scheme : String} {cs rest : List Char}
    (h : fromAuthority? scheme cs = some rest) (hn : rest ≠ []) (more : List Char) :
    fromAuthority? scheme (cs ++ more) = some (rest ++ more) := by
  unfold fromAuthority? at h ⊢
  split at h
  next hs =>
    -- the slashes before the authority end within the first text, as something follows them
    cases h
    rw [if_pos hs, List.dropWhile_append, if_neg (by simpa using hn)]
  next hs =>
    rw [if_neg hs]
    split at h
    next =>
      cases h
      rfl
    next => cases h

theorem scheme_of_authority? {scheme : String} {cs : List Char} {o : Url}
    (h : authority? scheme cs = some o) : o.scheme = scheme := by
  obtain ⟨⟨hasUser, rest⟩, hu, -⟩ := Option.bind_eq_some_iff.mp h
  by_cases ht : (splitHost (isSpecial scheme) false rest).1 = []
  · obtain ⟨port, path, rfl⟩ := authority?_of_nil hu rfl ht h
    rfl
  · rw [authority?_eq hu rfl ht] at h
    obtain ⟨host, -, hp⟩ := Option.bind_eq_some_iff.mp h
    obtain ⟨p, -, rfl⟩ := Option.map_eq_some_iff.mp hp
    rfl

theorem scheme_of_file? {cs : List Char} {o : Url} (h : file? cs = some o) :
    o.scheme = "file" := by
  simp only [file?, Option.bind_eq_bind] at h
  split at h
  · split at h
    · obtain ⟨p, -, hp⟩ := Option.bind_eq_some_iff.mp h
      cases hp
      rfl
    · cases h
      rfl
  · cases h
    rfl

theorem scheme_of_generic? {scheme : String} {cs : List Char} {o : Url}
    (h : generic? scheme cs = some o) : o.scheme = scheme := by
  unfold generic? at h
  split at h
  · exact scheme_of_authority? h
  · cases h
    rfl
  · cases h
    rfl

theorem parse?_eq {text scheme : String} {rest : List Char}
    (hs : scheme? (clean text.toList) = some (scheme, rest)) :
    parse? text =
      if scheme = "file" then file? rest
      else if isSpecial scheme then authority? scheme (rest.dropWhile isSlash)
      else generic? scheme rest := by
  simp only [parse?, hs, Option.bind_eq_bind, Option.bind_some]

theorem scheme_of_parse? {text : String} {o : Url} (h : parse? text = some o) :
    ∃ rest, scheme? (clean text.toList) = some (o.scheme, rest) := by
  obtain ⟨⟨scheme, rest⟩, hs, hp⟩ := Option.bind_eq_some_iff.mp h
  have ho : o.scheme = scheme := by
    rw [parse?_eq hs] at h
    split at h
    next hf => rw [scheme_of_file? h, hf]
    next =>
      split at h
      · exact scheme_of_authority? h
      · exact scheme_of_generic? h
  exact ⟨rest, ho ▸ hs⟩

/-- A URL with a host has an authority, unless it is that of a file. -/
theorem exists_authority {text : String} {o : Url} (h : parse? text = some o)
    (ho : o.host.isSome) (hf : o.scheme ≠ "file") :
    ∃ rest cs, scheme? (clean text.toList) = some (o.scheme, rest) ∧
      fromAuthority? o.scheme rest = some cs ∧ authority? o.scheme cs = some o := by
  obtain ⟨rest, hs⟩ := scheme_of_parse? h
  rw [parse?_eq hs, if_neg hf] at h
  split at h
  next hsp => exact ⟨rest, _, hs, if_pos hsp, h⟩
  next hsp =>
    unfold generic? at h
    split at h
    next cs => exact ⟨'/' :: '/' :: cs, cs, hs, if_neg hsp, h⟩
    next =>
      rw [← Option.some.inj h] at ho
      cases ho
    next =>
      rw [← Option.some.inj h] at ho
      cases ho

theorem parse?_of_authority {text scheme : String} {rest cs : List Char}
    (hs : scheme? (clean text.toList) = some (scheme, rest)) (hf : scheme ≠ "file")
    (hc : fromAuthority? scheme rest = some cs) : parse? text = authority? scheme cs := by
  rw [parse?_eq hs, if_neg hf]
  unfold fromAuthority? at hc
  split at hc
  next hsp =>
    rw [if_pos hsp, Option.some.inj hc]
  next hsp =>
    rw [if_neg hsp]
    split at hc
    · cases hc
      rfl
    · cases hc

theorem ne_nil_of_host {scheme : String} {cs : List Char} {o : Url}
    (h : authority? scheme cs = some o) (ho : o.host.isSome) : cs ≠ [] := by
  rintro rfl
  have hu : afterUser? (isSpecial scheme) [] = some (false, []) := rfl
  obtain ⟨port, path, rfl⟩ := authority?_of_nil hu rfl rfl h
  cases ho

/-! ## Texts that continue a URL -/

/-- An authority that ends within the first of two texts is the authority of that text. -/
theorem authority?_append_of_le {scheme : String} {cs more : List Char} {o : Url}
    (h : authority? scheme cs = some o) (ho : o.host.isSome)
    (hl : more.length ≤ ((cs ++ more).dropWhile (!endsAuthority (isSpecial scheme) ·)).length) :
    ∃ o', authority? scheme (cs ++ more) = some o' ∧ SameOrigin o o' := by
  have ht := Text.takeWhile_append_of_le hl
  have hcs := List.takeWhile_append_dropWhile (p := (!endsAuthority (isSpecial scheme) ·)) (l := cs)
  have hmore := List.takeWhile_append_dropWhile (p := (!endsAuthority (isSpecial scheme) ·))
    (l := cs ++ more)
  rw [ht] at hmore
  rw [← hcs] at h
  rw [← hmore]
  refine authority?_append ?_ (ends_dropWhile _ _) (ends_dropWhile _ _) h ho
  intro c hc
  simpa using List.all_eq_true.mp List.all_takeWhile c hc

theorem isPrefix_clean {cs ds : List Char} (h : cs <+: ds) : clean cs <+: clean ds :=
  (Text.isPrefix_trimEnd (Text.isPrefix_dropWhile h)).filter _

section Prefix

variable {e u : String} {o : Url} (hp : e.toList <+: u.toList) (h : parse? e = some o)

include hp h

theorem scheme_of_prefix {o' : Url} (h' : parse? u = some o') : o.scheme = o'.scheme := by
  obtain ⟨more, hm⟩ := isPrefix_clean hp
  obtain ⟨rest, hr⟩ := scheme_of_parse? h
  obtain ⟨rest', hr'⟩ := scheme_of_parse? h'
  have ha := scheme?_append hr more
  rw [hm, hr'] at ha
  exact (Prod.mk.inj (Option.some.inj ha)).1.symm

theorem origin_of_prefix (ho : o.host.isSome) (hf : o.scheme ≠ "file")
    (hw : sharesAuthority e u) : ∃ o', parse? u = some o' ∧ SameOrigin o o' := by
  obtain ⟨more, hm⟩ := isPrefix_clean hp
  obtain ⟨rest, cs, hs, hc, ha⟩ := exists_authority h ho hf
  have hs' := scheme?_append hs more
  have hc' := fromAuthority?_append hc (ne_nil_of_host ha ho) more
  rw [hm] at hs'
  rw [parse?_of_authority hs' hf hc']
  refine authority?_append_of_le ha ho ?_
  have hl := congrArg List.length hm
  simp only [sharesAuthority, hs', hc', Option.any_some, decide_eq_true_eq] at hw
  simp only [List.length_append] at hl
  omega

end Prefix

end PolicyGuard.Url
