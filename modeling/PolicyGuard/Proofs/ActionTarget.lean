import PolicyGuard.Cache.Basic
import PolicyGuard.Proofs.Grammar
import PolicyGuard.Proofs.Lines
import PolicyGuard.Proofs.PoolHost

/-!
What is seen of the target of an action.

An action is judged as the request `action://kind/target`, and this text is read as a URL. The
kind is its host. Of the target the attribute `url` has every character, but the attribute `path`
has what the parser makes of it: a path in normal form.

* `exists_isNormal_path`: whatever is read as a path, it is in normal form then;
* `pathAfter_eq_iff`: a target is its own path exactly if it is in normal form;
* `parse?_word`: the host of an action is its kind;
* `actionSubject_attributes`: the attributes of an action.
-/

namespace PolicyGuard

namespace Url

/-! ## Paths in normal form -/

/-- A segment that stands for itself. -/
def IsPlainSegment (segment : List Char) : Prop :=
  isSingleDot segment = false ∧ isDoubleDot segment = false

/-- A path, without its first slash, in which every character is shown as it is and every segment
stands for itself. -/
def IsNormal (cs : List Char) : Prop :=
  (∀ c ∈ cs, isHiddenInPath c = false) ∧ ∀ segment ∈ cs.splitOn '/', IsPlainSegment segment

instance (segment : List Char) : Decidable (IsPlainSegment segment) :=
  inferInstanceAs (Decidable (_ ∧ _))

instance (cs : List Char) : Decidable (IsNormal cs) :=
  decidable_of_iff ((cs.all (!isHiddenInPath ·) && (cs.splitOn '/').all (IsPlainSegment ·)) = true)
    (by simp [IsNormal])

/-- The path that is read behind an authority and a slash. -/
def pathAfter (cs : List Char) : List Char :=
  pathText false (pathSegments false (pathPart (cleanRest cs)))

theorem isHiddenInPath_upperHex : ∀ d < 16, isHiddenInPath (upperHex d) = false := by
  decide

theorem shown_percentByte {n : Nat} (hn : n < 256) :
    ∀ c ∈ percentByte n, isHiddenInPath c = false := by
  have hhigh : n / 16 < 16 := by
    omega
  have hlow : n % 16 < 16 := by
    omega
  simp only [percentByte, List.forall_mem_cons, List.not_mem_nil, false_imp_iff, implies_true,
    and_true]
  exact ⟨by decide, isHiddenInPath_upperHex _ hhigh, isHiddenInPath_upperHex _ hlow⟩

theorem shown_percentEncode (cs : List Char) :
    ∀ c ∈ percentEncode isHiddenInPath cs, isHiddenInPath c = false := by
  intro c hc
  obtain ⟨d, -, hd⟩ := List.mem_flatMap.mp hc
  split at hd
  next =>
    obtain ⟨n, hn, hc⟩ := List.mem_flatMap.mp hd
    obtain ⟨b, -, rfl⟩ := List.mem_map.mp hn
    exact shown_percentByte b.toNat_lt c hc
  next hshown =>
    rw [List.mem_singleton.mp hd]
    exact Bool.eq_false_iff.mpr hshown

theorem percentEncode_of_shown {hidden : Char → Bool} {cs : List Char}
    (h : ∀ c ∈ cs, hidden c = false) : percentEncode hidden cs = cs := by
  have hc : ∀ c ∈ cs, (if hidden c then (utf8 c).flatMap percentByte else [c]) = [c] :=
    fun c hc => if_neg (by rw [h c hc]; decide)
  rw [percentEncode, List.flatMap_congr hc, List.flatMap_singleton']

section Shown

variable {cs : List Char} (h : ∀ c ∈ cs, isHiddenInPath c = false)

include h

/-- What is shown in a path is left by everything that comes before it is cut into segments. -/
theorem pathPart_of_shown : pathPart cs = cs := by
  refine List.takeWhile_eq_self_iff.mpr fun c hc => ?_
  have hs := h c hc
  simp only [isHiddenInPath, Bool.or_eq_false_iff, decide_eq_false_iff_not] at hs
  simp [hs]

theorem cleanRest_of_shown : cleanRest cs = cs := by
  have hvisible : ∀ c ∈ cs, 0x20 < c.toNat := by
    intro c hc
    have hs := h c hc
    simp only [isHiddenInPath, isControl, Bool.or_eq_false_iff, decide_eq_false_iff_not] at hs
    have hspace : c.toNat ≠ 0x20 := fun hn => hs.1.1.1.1.1.1.1.1.2 (Char.toNat_inj.mp hn)
    omega
  simpa [cleanRest] using cleanRest_append hvisible []

end Shown

/-! ### Segments -/

/-- The segments, in reverse, that a double dot leaves. -/
def withoutTop (segments : List (List Char)) : List (List Char) :=
  match segments with
  | [] => []
  | top :: rest => if isDriveLetter top then segments else rest

theorem withoutTop_subset (segments : List (List Char)) : withoutTop segments ⊆ segments := by
  cases segments with
  | nil => exact List.Subset.refl []
  | cons top rest =>
    rw [withoutTop]
    split
    · exact List.Subset.refl _
    · exact List.subset_cons_self top rest

theorem pushSegment_eq (closed : Bool) (segments : List (List Char)) (segment : List Char) :
    pushSegment false closed segments segment =
      if isDoubleDot segment then
        if closed then withoutTop segments else [] :: withoutTop segments
      else if isSingleDot segment then if closed then segments else [] :: segments
      else segment :: segments := by
  simp only [pushSegment, Bool.false_and, Bool.false_eq_true, if_false]
  rfl

section Segments

variable {P : List Char → Prop} (hnil : P [])

include hnil

theorem forall_mem_pushSegment {closed : Bool} {segments : List (List Char)}
    (hs : ∀ s ∈ segments, P s) {segment : List Char} (hp : IsPlainSegment segment → P segment) :
    ∀ s ∈ pushSegment false closed segments segment, P s := by
  have hmore : ∀ {ss : List (List Char)}, ss ⊆ segments →
      ∀ s ∈ if closed then ss else [] :: ss, P s := by
    intro ss hsub
    have hss : ∀ s ∈ ss, P s := fun s hm => hs s (hsub hm)
    split
    · exact hss
    · exact List.forall_mem_cons.mpr ⟨hnil, hss⟩
  rw [pushSegment_eq]
  split
  next => exact hmore (withoutTop_subset segments)
  next hdouble =>
    split
    next => exact hmore (List.Subset.refl segments)
    next hsingle =>
      have hplain : IsPlainSegment segment :=
        ⟨Bool.eq_false_iff.mpr hsingle, Bool.eq_false_iff.mpr hdouble⟩
      exact List.forall_mem_cons.mpr ⟨hp hplain, hs⟩

/-- The segments that are left are pieces that stand for themselves, and empty ones. -/
theorem forall_mem_segmentsFrom {segments pieces : List (List Char)} (hs : ∀ s ∈ segments, P s)
    (hp : ∀ piece ∈ pieces, IsPlainSegment piece → P piece) :
    ∀ s ∈ segmentsFrom false segments pieces, P s := by
  have hrev : ∀ {ss : List (List Char)}, (∀ s ∈ ss, P s) → ∀ s ∈ ss.reverse, P s :=
    fun h s hm => h s (List.mem_reverse.mp hm)
  induction pieces generalizing segments with
  | nil => exact hrev hs
  | cons piece rest ih =>
    rw [List.forall_mem_cons] at hp
    cases rest with
    | nil => exact hrev (forall_mem_pushSegment hnil hs hp.1)
    | cons next rest => exact ih (forall_mem_pushSegment hnil hs hp.1) hp.2

end Segments

theorem pushSegment_of_plain {segment : List Char} (h : IsPlainSegment segment) (closed : Bool)
    (segments : List (List Char)) :
    pushSegment false closed segments segment = segment :: segments := by
  simp [pushSegment, h.1, h.2]

theorem segmentsFrom_of_plain {pieces : List (List Char)}
    (h : ∀ piece ∈ pieces, IsPlainSegment piece) (segments : List (List Char)) :
    segmentsFrom false segments pieces = segments.reverse ++ pieces := by
  induction pieces generalizing segments with
  | nil => rw [segmentsFrom, List.append_nil]
  | cons piece rest ih =>
    rw [List.forall_mem_cons] at h
    cases rest with
    | nil => rw [segmentsFrom, pushSegment_of_plain h.1, List.reverse_cons]
    | cons next rest =>
      rw [segmentsFrom, pushSegment_of_plain h.1, ih h.2, List.reverse_cons, List.append_assoc,
        List.singleton_append]
      exact List.cons_ne_nil _ _

/-- A row of segments that stand for themselves is a path in normal form. -/
theorem isNormal_intercalate {segments : List (List Char)}
    (h : ∀ s ∈ segments, IsPlainSegment s ∧ '/' ∉ s ∧ ∀ c ∈ s, isHiddenInPath c = false) :
    IsNormal (['/'].intercalate segments) := by
  refine ⟨Text.of_mem_intercalate (Text.forall_mem_of_all (by decide)) fun s hs => (h s hs).2.2, ?_⟩
  cases segments with
  | nil => decide
  | cons s rest =>
    rw [List.splitOn_intercalate '/' (fun s hs => (h s hs).2.1) (List.cons_ne_nil s rest)]
    exact fun s hs => (h s hs).1

theorem exists_isNormal_path (cs : List Char) :
    ∃ path, pathText false (pathSegments false cs) = '/' :: path ∧ IsNormal path := by
  refine ⟨_, rfl, isNormal_intercalate ?_⟩
  refine forall_mem_segmentsFrom
    ⟨by decide, List.not_mem_nil, fun c hc => absurd hc List.not_mem_nil⟩
    (fun s hs => absurd hs List.not_mem_nil) ?_
  intro piece hp hplain
  obtain ⟨hslash, hsub⟩ := Text.of_mem_splitOn hp
  exact ⟨hplain, hslash, fun c hc => shown_percentEncode cs c (hsub hc)⟩

theorem pathText_of_isNormal {cs : List Char} (h : IsNormal cs) :
    pathText false (pathSegments false cs) = '/' :: cs := by
  rw [pathSegments, percentEncode_of_shown h.1, segmentsFrom_of_plain h.2, List.reverse_nil,
    List.nil_append, pathText, if_neg Bool.false_ne_true, List.intercalate_splitOn]

/-- What follows an authority and a slash is its own path exactly if it is in normal form. -/
theorem pathAfter_eq_iff {cs : List Char} : pathAfter cs = '/' :: cs ↔ IsNormal cs := by
  constructor
  · intro h
    obtain ⟨path, hpath, hnormal⟩ := exists_isNormal_path (pathPart (cleanRest cs))
    have htail : '/' :: path = '/' :: cs := hpath.symm.trans h
    rwa [(List.cons.inj htail).2] at hnormal
  · intro h
    rw [pathAfter, cleanRest_of_shown h.1, pathPart_of_shown h.1, pathText_of_isNormal h]

/-! ## Words as hosts -/

/-- A character that nothing in the reading of an authority takes for more than a part of it. -/
def IsHostChar (c : Char) : Prop :=
  0x20 < c.toNat ∧ endsAuthority false c = false ∧ c ∉ [':', '@', '[', ']'] ∧
    Host.isForbidden c = false ∧ isControl c = false

instance (c : Char) : Decidable (IsHostChar c) :=
  inferInstanceAs (Decidable (_ ∧ _ ∧ _ ∧ _ ∧ _))

theorem toNat_of_isAsciiWord {c : Char} (h : Text.isAsciiWord c = true) : c.toNat < 128 := by
  simp only [Text.isAsciiWord, Char.isAlphanum, Bool.or_eq_true, decide_eq_true_eq] at h
  rcases h with (halpha | hdigit) | rfl
  · have hr := Text.toNat_of_isAlpha halpha
    omega
  · have hle : c.toNat ≤ '9'.toNat := (Char.isDigit_iff_toNat.mp hdigit).2
    exact Nat.lt_of_le_of_lt hle (by decide)
  · decide

theorem isHostChar_of_isAsciiWord {c : Char} (h : Text.isAsciiWord c = true) : IsHostChar c := by
  have hword : ∀ n < 128, Text.isAsciiWord (Char.ofNat n) = true → IsHostChar (Char.ofNat n) := by
    decide
  have hc := hword c.toNat (toNat_of_isAsciiWord h)
  rw [Char.ofNat_toNat] at hc
  exact hc h

section Word

variable {word : List Char} (hw : ∀ c ∈ word, IsHostChar c)

include hw

theorem not_mem_word {c : Char} (hc : c ∈ [':', '@', '[', ']']) : c ∉ word :=
  fun hm => (hw c hm).2.2.1 hc

theorem splitHost_word : splitHost false false word = (word, []) := by
  induction word with
  | nil => rfl
  | cons c word ih =>
    rw [List.forall_mem_cons] at hw
    obtain ⟨⟨-, hends, hmarks, -, -⟩, hword⟩ := hw
    simp only [List.mem_cons, List.not_mem_nil, or_false, not_or] at hmarks
    simp [splitHost, hends, hmarks, ih hword]

theorem opaque?_word : Host.opaque? word = some (.domain word) := by
  have hopen : word.head? ≠ some '[' :=
    fun h => not_mem_word hw (by decide) (List.mem_of_head? h)
  have hforbidden : word.any Host.isForbidden = false :=
    List.any_eq_false.mpr fun c hc => by rw [(hw c hc).2.2.2.1]; decide
  have hshown : percentEncode isControl word = word :=
    percentEncode_of_shown fun c hc => (hw c hc).2.2.2.2
  rw [Host.opaque?, if_neg hopen, hforbidden, if_neg Bool.false_ne_true, hshown]

/-- A word between two slashes and a slash is the host of a scheme without a known form. -/
theorem authority?_word {scheme : String} (hs : isSpecial scheme = false) (hn : word ≠ [])
    (rest : List Char) :
    authority? scheme (word ++ '/' :: rest) =
      some ⟨scheme, some (.domain word), none,
        String.ofList (pathText false (pathSegments false (pathPart rest)))⟩ := by
  have hends : Ends (isSpecial scheme) ('/' :: rest) := by
    intro c hc
    obtain rfl := Option.some.inj hc
    rfl
  have hinner : ∀ c ∈ word, endsAuthority (isSpecial scheme) c = false := by
    rw [hs]
    exact fun c hc => (hw c hc).2.1
  have hhost : hostPart word = word := hostPart_eq (.inl rfl) (not_mem_word hw (by decide))
  have hafter : afterUser? (isSpecial scheme) (word ++ '/' :: rest) =
      some (false, word ++ '/' :: rest) := by
    rw [afterUser?_eq hinner hends, hhost, if_pos rfl]
  have hsplit : splitHost (isSpecial scheme) false (word ++ '/' :: rest) =
      (word, '/' :: rest) := by
    rw [splitHost_append hends hinner, hs, splitHost_word hw, List.nil_append]
  have hpath : authorityPath (isSpecial scheme) ('/' :: rest) =
      pathText false (pathSegments false (pathPart rest)) := by
    rw [hs]
    rfl
  have hname : hostOf? scheme word = some (.domain word) := by
    rw [hostOf?, hs, if_neg Bool.false_ne_true, opaque?_word hw]
  have hport : portOf? scheme ('/' :: rest) = some (none, '/' :: rest) := rfl
  rw [authority?_eq hafter hsplit hn, hname, hport, Option.bind_some, Option.map_some, hpath]

end Word

theorem parse?_word {kind : String} (hk : ∀ c ∈ kind.toList, IsHostChar c) (hn : kind ≠ "")
    (target : String) :
    parse? ("action://" ++ kind ++ "/" ++ target) =
      some ⟨"action", some (.domain kind.toList), none,
        String.ofList (pathAfter target.toList)⟩ := by
  have hne : kind.toList ≠ [] := by
    simpa using hn
  have hvisible : ∀ c ∈ "action://".toList ++ kind.toList ++ "/".toList, 0x20 < c.toNat := by
    refine List.forall_mem_append.mpr ⟨List.forall_mem_append.mpr ⟨?_, fun c hc => (hk c hc).1⟩, ?_⟩
    · exact Text.forall_mem_of_all (by decide)
    · exact Text.forall_mem_of_all (by decide)
  have hclean : clean ("action://" ++ kind ++ "/" ++ target).toList =
      "action:".toList ++ '/' :: '/' :: (kind.toList ++ '/' :: cleanRest target.toList) := by
    rw [String.toList_append, String.toList_append, String.toList_append,
      clean_append hvisible (by simp)]
    simp
  have hread : scheme? (clean ("action://" ++ kind ++ "/" ++ target).toList) =
      some ("action", '/' :: '/' :: (kind.toList ++ '/' :: cleanRest target.toList)) := by
    have haction : scheme? "action:".toList = some ("action", []) := by
      decide
    rw [hclean, scheme?_append haction, List.nil_append]
  rw [parse?_eq hread, if_neg (by decide), if_neg (by decide)]
  exact authority?_word hk (by decide) hne (cleanRest target.toList)

end Url

/-! ## The subject of an action -/

namespace Policy.Subject

/-- The attributes of a request without headers whose URL has a name for its host. -/
theorem ofRequest_of_parse? {url : String} {u : Url} {name : List Char}
    (hu : Url.parse? url = some u) (hh : u.host = some (.domain name)) (hn : name ≠ [])
    (hopen : '[' ∉ name) (hclose : ']' ∉ name) (hpath : u.path ≠ "") (method : String) :
    let s := ofRequest url method []
    s.get? "hostname" = some (.text (Text.lowerAscii (String.ofList name))) ∧
      s.get? "method" = some (.text (Text.upperAscii method)) ∧
      s.get? "scheme" = some (.text u.scheme) ∧ s.get? "url" = some (.text url) ∧
      s.get? "path" = some (.text u.path) := by
  have htrim : ((name.dropWhile (· = '[')).reverse.dropWhile (· = ']')).reverse = name := by
    rw [Url.dropWhile_of_not_mem hopen, Url.dropWhile_of_not_mem (mt List.mem_reverse.mp hclose),
      List.reverse_reverse]
  have hempty : name.isEmpty = false := List.isEmpty_eq_false_iff.mpr hn
  have hshown : u.path.isEmpty = false := by
    simpa using hpath
  have hparts : ofUrl url = (Table.ofList [("path", .text u.path), ("scheme", .text u.scheme)]).put
      "hostname" (.text (Text.lowerAscii (String.ofList name))) := by
    simp only [ofUrl, hu, hh, Url.Host.text, htrim, hempty, hshown, Bool.false_eq_true, if_false]
  have hs : ofRequest url method [] =
      ((ofUrl url).put "url" (.text url)).put "method" (.text (Text.upperAscii method)) := rfl
  simp only [hs, hparts, Table.ofList, List.foldl_cons, List.foldl_nil, Table.get?_put,
    String.reduceEq, if_true, if_false, and_self]

end Policy.Subject

namespace Cache

/-- **The attributes of an action.** An action whose kind is a word of ASCII has the kind in lower
case for its host and in upper case for its method, and all of its target in the attribute `url`.
Its path is a slash and a text in normal form, and this text is the target exactly if the target
is in normal form itself. -/
theorem actionSubject_attributes {kind : String} (hn : kind ≠ "")
    (hk : ∀ c ∈ kind.toList, Text.isAsciiWord c = true) (target : String) :
    let s := actionSubject kind target
    s.get? "hostname" = some (.text (Text.lowerAscii kind)) ∧
      s.get? "method" = some (.text (Text.upperAscii kind)) ∧
      s.get? "scheme" = some (.text "action") ∧
      s.get? "url" = some (.text ("action://" ++ kind ++ "/" ++ target)) ∧
      ∃ path, s.get? "path" = some (.text ("/" ++ path)) ∧ Url.IsNormal path.toList ∧
        '/' :: path.toList = Url.pathAfter target.toList ∧
        (path = target ↔ Url.IsNormal target.toList) := by
  have hword : ∀ c ∈ kind.toList, Url.IsHostChar c :=
    fun c hc => Url.isHostChar_of_isAsciiWord (hk c hc)
  have hne : kind.toList ≠ [] := by
    simpa using hn
  obtain ⟨path, hpath, hnormal⟩ :=
    Url.exists_isNormal_path (Url.pathPart (Url.cleanRest target.toList))
  have hafter : Url.pathAfter target.toList = '/' :: path := hpath
  have htext : String.ofList (Url.pathAfter target.toList) = "/" ++ String.ofList path := by
    rw [hafter]
    apply String.toList_inj.mp
    simp
  have hu := Url.parse?_word hword hn target
  obtain ⟨hhost, hmethod, hscheme, hurl, hp⟩ :=
    Policy.Subject.ofRequest_of_parse? hu rfl hne (Url.not_mem_word hword (by decide))
      (Url.not_mem_word hword (by decide)) (by rw [htext]; simp) kind
  rw [String.ofList_toList] at hhost
  have hown : String.ofList path = target ↔ Url.IsNormal target.toList := by
    rw [← Url.pathAfter_eq_iff, hafter, List.cons.injEq, eq_self_iff_true, true_and]
    exact ⟨fun h => by rw [← h, String.toList_ofList], fun h => by rw [h, String.ofList_toList]⟩
  refine ⟨hhost, hmethod, hscheme, hurl, String.ofList path, hp.trans (by rw [htext]), ?_, ?_, hown⟩
  · rwa [String.toList_ofList]
  · rw [String.toList_ofList, hafter]

/-- A target in normal form, with a triplet in it, and one that a query is cut off from. -/
theorem actionSubject_shell :
    (actionSubject "Tool_Call" "shell/rm%20-rf").get? "path" =
        some (.text "/shell/rm%20-rf") ∧
      (actionSubject "Tool_Call" "shell/../rm -rf?now").get? "path" =
        some (.text "/rm%20-rf") := by
  have hk : ∀ c ∈ "Tool_Call".toList, Text.isAsciiWord c = true :=
    Text.forall_mem_of_all (by decide)
  obtain ⟨-, -, -, -, path, hpath, -, -, hown⟩ :=
    actionSubject_attributes (by decide) hk "shell/rm%20-rf"
  obtain ⟨-, -, -, -, other, hother, -, hafter, -⟩ :=
    actionSubject_attributes (by decide) hk "shell/../rm -rf?now"
  have hnormal : Url.IsNormal "shell/rm%20-rf".toList := by
    decide +kernel
  have htext : Url.pathAfter "shell/../rm -rf?now".toList = "/rm%20-rf".toList := by
    decide +kernel
  rw [hown.mpr hnormal] at hpath
  rw [htext] at hafter
  have hrest : other = "rm%20-rf" := String.toList_inj.mp (List.cons.inj hafter).2
  rw [hrest] at hother
  exact ⟨hpath, hother⟩

/-- Not every target is the path of its action: a query is no part of it. -/
theorem actionSubject_path_query :
    ¬ ∀ kind target : String, kind ≠ "" → (∀ c ∈ kind.toList, Text.isAsciiWord c = true) →
        (actionSubject kind target).get? "path" = some (.text ("/" ++ target)) := by
  intro h
  have hpath := h "tool_call" "a?b" (by decide) (Text.forall_mem_of_all (by decide))
  have hcut : (actionSubject "tool_call" "a?b").get? "path" = some (.text "/a") := by
    decide +kernel
  rw [hcut] at hpath
  exact absurd hpath (by decide)

end Cache

end PolicyGuard
