import PolicyGuard.Proofs.Digits
import PolicyGuard.Proofs.Files
import PolicyGuard.Proofs.Scan
import PolicyGuard.Url.Host

/-!
Hosts that are their own text.

* `of_mem_encode`, `mem_of_decode?`: the characters of a label in punycode and of the
  label that it stands for;
* `isAscii_of_domainToAscii?`: a domain is in ASCII;
* `isLow_of_domainToAscii?`: one that becomes itself has no capitals;
* `Host.cases_of_special?`: a host that becomes itself has only characters that stand for
  themselves.
-/

namespace PolicyGuard.Url

/-! ## Punycode -/

namespace Punycode

theorem threshold_pos (k bias : Nat) : 0 < threshold k bias := by
  unfold threshold
  split
  · omega
  · split <;> omega

theorem threshold_le (k bias : Nat) : threshold k bias ≤ 26 := by
  unfold threshold
  split
  · omega
  · split <;> omega

section Encode

variable {P : Char → Prop} (hP : ∀ n < 36, P (digit n))

include hP

theorem of_mem_encodeNumber (fuel : Nat) {k bias q : Nat} :
    ∀ c ∈ encodeNumber fuel k bias q, P c := by
  induction fuel generalizing k q with
  | zero => simp [encodeNumber]
  | succ fuel ih =>
    have hp := threshold_pos k bias
    have hl := threshold_le k bias
    intro c hc
    rw [encodeNumber] at hc
    split at hc
    next hq =>
      rw [List.mem_singleton.mp hc]
      exact hP q (by omega)
    next hq =>
      rcases List.mem_cons.mp hc with rfl | hc
      · have hm := Nat.mod_lt (q - threshold k bias) (show 0 < 36 - threshold k bias by omega)
        exact hP _ (by omega)
      · exact ih c hc

theorem of_mem_encodeRound {basic n : Nat} {label : List Nat} {s : State}
    (hs : ∀ c ∈ s.output, P c) : ∀ c ∈ (encodeRound basic n label s).output, P c := by
  induction label generalizing s with
  | nil => exact hs
  | cons m label ih =>
    unfold encodeRound
    rw [List.foldl_cons]
    apply ih
    split
    · exact hs
    · split
      · intro c hc
        rcases List.mem_append.mp hc with hc | hc
        · exact hs c hc
        · exact of_mem_encodeNumber hP _ c hc
      · exact hs

theorem of_mem_encodeRounds (fuel : Nat) {basic n : Nat} {label : List Nat} {s : State}
    (hs : ∀ c ∈ s.output, P c) : ∀ c ∈ (encodeRounds fuel basic n label s).output, P c := by
  induction fuel generalizing n s with
  | zero => exact hs
  | succ fuel ih =>
    rw [encodeRounds]
    split
    · exact hs
    · apply ih
      exact of_mem_encodeRound hP hs

/-- A label in punycode has its own characters of ASCII, hyphens and digits. -/
theorem of_mem_encode {label : List Char} (hy : P '-') (hl : ∀ c ∈ label, c.toNat < 128 → P c) :
    ∀ c ∈ encode label, P c := by
  apply of_mem_encodeRounds hP
  intro c hc
  rcases List.mem_append.mp hc with hc | hc
  · obtain ⟨hm, hn⟩ := List.mem_filter.mp hc
    exact hl c hm (by simpa using hn)
  · split at hc
    · simp at hc
    · rw [List.mem_singleton.mp hc]
      exact hy

end Encode

/-- Only characters that are not in ASCII are put in. -/
theorem mem_of_decodeFrom? {fuel n i bias : Nat} {cs out plain : List Char} (hn : 128 ≤ n)
    (h : decodeFrom? fuel cs n i bias out = some plain) :
    ∀ c ∈ plain, c.toNat < 128 → c ∈ out := by
  induction fuel generalizing n i bias cs out with
  | zero =>
    cases cs with
    | nil =>
      obtain rfl : out = plain := Option.some.inj h
      exact fun c hc _ => hc
    | cons c cs => simp [decodeFrom?] at h
  | succ fuel ih =>
    cases cs with
    | nil =>
      obtain rfl : out = plain := by
        simpa [decodeFrom?] using h
      exact fun c hc _ => hc
    | cons c cs =>
      simp only [decodeFrom?, Option.bind_eq_bind, Option.bind_eq_some_iff,
        Option.ite_none_right_eq_some] at h
      obtain ⟨⟨next, rest⟩, -, hv, h⟩ := h
      dsimp only at hv h
      intro d hd hlt
      have hm := ih (Nat.le_trans hn (Nat.le_add_right _ _)) h d hd hlt
      rcases List.mem_append.mp hm with hm | hm
      · exact List.mem_of_mem_take hm
      · rcases List.mem_cons.mp hm with rfl | hm
        · rw [Char.ofNat, dif_pos hv] at hlt
          exact absurd (Nat.le_trans hn (Nat.le_add_right _ _)) (Nat.not_le.mpr hlt)
        · exact List.mem_of_mem_drop hm

theorem mem_of_decode? {cs plain : List Char} (h : decode? cs = some plain) :
    ∀ c ∈ plain, c.toNat < 128 → c ∈ cs := by
  unfold decode? at h
  simp only [Option.ite_none_right_eq_some] at h
  intro c hc hlt
  have hm := mem_of_decodeFrom? (Nat.le_refl 128) h.2 c hc hlt
  exact List.mem_of_mem_take (List.dropLast_subset _ hm)

end Punycode

/-! ## Domains -/

/-- A character of ASCII that is no capital. -/
def IsLow (c : Char) : Prop :=
  c.toNat < 128 ∧ c.toLower = c

instance (c : Char) : Decidable (IsLow c) :=
  inferInstanceAs (Decidable (_ ∧ _))

theorem isLow_digit : ∀ n < 36, IsLow (Punycode.digit n) := by
  decide

theorem isAscii_iff {cs : List Char} : isAscii cs = true ↔ ∀ c ∈ cs, c.toNat < 128 := by
  simp [isAscii]

theorem isAscii_labelToAscii (label : List Char) : ∀ c ∈ labelToAscii label, c.toNat < 128 := by
  unfold labelToAscii
  split
  next ha => exact isAscii_iff.mp ha
  next =>
    have hx : ∀ c ∈ "xn--".toList, c.toNat < 128 := Text.forall_mem_of_all (by decide)
    have he : ∀ c ∈ Punycode.encode label, c.toNat < 128 :=
      Punycode.of_mem_encode (fun n hn => (isLow_digit n hn).1) (by decide) fun c _ hc => hc
    exact List.forall_mem_append.mpr ⟨hx, he⟩

/-- A domain is made of labels, and of characters that a domain may have. -/
theorem exists_of_domainToAscii? {cs name : List Char} (h : domainToAscii? cs = some name) :
    ∃ mapped labels, mapName? cs = some mapped ∧
      (mapped.splitOn '.').mapM plainLabel? = some labels ∧
      name = ['.'].intercalate (labels.map labelToAscii) ∧ name ≠ [] ∧
      ∀ c ∈ name, isForbiddenInDomain c = false := by
  simp only [domainToAscii?, Option.bind_eq_bind, Option.bind_eq_some_iff] at h
  obtain ⟨mapped, hm, labels, hl, h⟩ := h
  simp only [Option.ite_none_left_eq_some, Bool.or_eq_true, not_or, Bool.not_eq_true,
    Option.ite_none_right_eq_some, Option.some.injEq] at h
  obtain ⟨⟨hn, hf⟩, -, rfl⟩ := h
  refine ⟨mapped, labels, hm, hl, rfl, List.isEmpty_eq_false_iff.mp hn, fun c hc => ?_⟩
  simpa using List.any_eq_false.mp hf c hc

/-- A domain is in ASCII. -/
theorem isAscii_of_domainToAscii? {cs name : List Char} (h : domainToAscii? cs = some name) :
    ∀ c ∈ name, c.toNat < 128 := by
  obtain ⟨mapped, labels, -, -, rfl, -⟩ := exists_of_domainToAscii? h
  refine Text.of_mem_intercalate (Text.forall_mem_of_all (by decide)) fun label hl => ?_
  obtain ⟨plain, -, rfl⟩ := List.mem_map.mp hl
  exact isAscii_labelToAscii plain

/-! ### Capitals -/

theorem isLow_toLower {c : Char} (h : c.toNat < 128) : IsLow c.toLower := by
  have hc : ∀ n < 128, IsLow (Char.ofNat n).toLower := by
    decide
  rw [← Char.ofNat_toNat c]
  exact hc c.toNat h

/-- Text in ASCII only loses its capitals. -/
theorem mapName?_of_ascii {cs : List Char} (h : ∀ c ∈ cs, c.toNat < 128) :
    mapName? cs = some (cs.map Char.toLower) := by
  have hl : (cs.map Char.toLower).all (·.toNat < 128) := by
    simpa using fun c hc => (isLow_toLower (h c hc)).1
  have hf : (cs.map fun c => [c.toLower]).flatten = cs.map Char.toLower := by
    rw [← List.flatMap_def, ← List.map_eq_flatMap]
  have hm : cs.mapM domainChar? = some (cs.map fun c => [c.toLower]) :=
    Text.mapM_eq_map fun c hc => if_pos (h c hc)
  rw [mapName?, hm]
  simp only [Option.bind_eq_bind, Option.bind_some, hf, Text.normalForm, hl, if_true]
  rfl

/-- The ASCII form of a label without capitals has none either. -/
theorem isLow_labelToAscii {label plain : List Char} (hl : ∀ c ∈ label, IsLow c)
    (h : plainLabel? label = some plain) : ∀ c ∈ labelToAscii plain, IsLow c := by
  unfold plainLabel? at h
  split at h
  next tail ht =>
    simp only [Option.bind_eq_bind, Option.bind_eq_some_iff, Option.ite_none_left_eq_some,
      Bool.or_eq_true, not_or, Bool.not_eq_true] at h
    obtain ⟨decoded, hd, ⟨hna, -⟩, h⟩ := h
    cases h
    have hx : ∀ c ∈ "xn--".toList, IsLow c := Text.forall_mem_of_all (by decide)
    -- its characters of ASCII come from the label, and all others are digits or hyphens
    have he : ∀ c ∈ Punycode.encode plain, IsLow c :=
      Punycode.of_mem_encode isLow_digit (by decide) fun c hc ha =>
        hl c ((Text.isSuffix_of_after? ht).subset (Punycode.mem_of_decode? hd c hc ha))
    rw [labelToAscii, hna]
    exact List.forall_mem_append.mpr ⟨hx, he⟩
  next =>
    cases h
    rwa [labelToAscii, if_pos (isAscii_iff.mpr fun c hc => (hl c hc).1)]

/-- A domain that becomes itself has no capitals. -/
theorem isLow_of_domainToAscii? {name : List Char} (h : domainToAscii? name = some name) :
    ∀ c ∈ name, IsLow c := by
  obtain ⟨mapped, labels, hm, hl, hn, -⟩ := exists_of_domainToAscii? h
  rw [mapName?_of_ascii (isAscii_of_domainToAscii? h)] at hm
  cases hm
  have hlow : ∀ c ∈ name.map Char.toLower, IsLow c := by
    intro c hc
    obtain ⟨d, hd, rfl⟩ := List.mem_map.mp hc
    exact isLow_toLower (isAscii_of_domainToAscii? h d hd)
  rw [hn]
  refine Text.of_mem_intercalate (Text.forall_mem_of_all (by decide)) fun label hlabel => ?_
  obtain ⟨plain, hplain, rfl⟩ := List.mem_map.mp hlabel
  obtain ⟨part, hpart, hp⟩ := Text.exists_of_mem_mapM hl hplain
  refine isLow_labelToAscii (fun c hc => hlow c ?_) hp
  have hjoin : ['.'].intercalate ((name.map Char.toLower).splitOn '.') =
      name.map Char.toLower := List.intercalate_splitOn '.'
  rw [← hjoin]
  exact Text.mem_intercalate hpart c hc

/-! ## Hosts -/

/-- A character that stands for itself in every host. -/
def IsPlain (c : Char) : Prop :=
  IsLow c ∧ isForbiddenInDomain c = false

instance (c : Char) : Decidable (IsPlain c) :=
  inferInstanceAs (Decidable (_ ∧ _))

theorem isPlain_digitChar : ∀ d < 16, IsPlain (Nat.digitChar d) := by
  decide

theorem isPlain_of_mem_toDigits {b n : Nat} (hb : 1 < b) (h16 : b ≤ 16) {c : Char}
    (hc : c ∈ Nat.toDigits b n) : IsPlain c := by
  obtain ⟨d, hd, rfl⟩ := exists_of_mem_toDigits hb hc
  exact isPlain_digitChar d (by omega)

/-! ### Percent encoding -/

theorem percentDecode_of_not_mem {cs : List Char} (h : '%' ∉ cs) :
    percentDecode cs = cs.flatMap utf8 := by
  fun_induction percentDecode cs with
  | case1 => simp at h
  | case2 => simp at h
  | case3 c cs hc ih =>
    rw [List.mem_cons, not_or] at h
    rw [List.flatMap_cons, ih h.2]
  | case4 => rfl

theorem bytes_flatMap (cs : List Char) :
    (cs.flatMap utf8).map UInt8.ofNat = FileTree.bytes (String.ofList cs) := by
  induction cs with
  | nil => simp [FileTree.bytes, FileTree.toList_eq]
  | cons c cs ih =>
    have hc : (utf8 c).map UInt8.ofNat = FileTree.bytes (String.ofList [c]) := by
      have hb : (fun b : UInt8 => UInt8.ofNat b.toNat) = id := by
        funext b
        exact UInt8.ofNat_toNat
      rw [utf8, FileTree.bytes, List.map_map, Function.comp_def, hb, List.map_id]
    have hs : String.ofList (c :: cs) = String.ofList [c] ++ String.ofList cs := by
      rw [← String.ofList_append, List.singleton_append]
    rw [List.flatMap_cons, List.map_append, hc, ih, hs, FileTree.bytes_append]

theorem decoded_of_not_mem {cs : List Char} (h : '%' ∉ cs) :
    String.fromUTF8? (ByteArray.mk ((percentDecode cs).map UInt8.ofNat).toArray) =
      some (String.ofList cs) := by
  rw [percentDecode_of_not_mem h, bytes_flatMap]
  exact FileTree.text?_bytes _

/-! ### Hosts that stay as they are -/

namespace Host

/-- The text of a host, that of an address without its brackets. -/
def bare : Host → List Char
  | ipv6 pieces => ((ipv6Text pieces).drop 1).dropLast
  | host => host.text

/-- A text without brackets, in lower case and without the characters that no domain has. -/
def IsName (cs : List Char) : Prop :=
  cs ≠ [] ∧ ∀ c ∈ cs, IsPlain c

/-- A text in brackets, made of plain characters and of colons. -/
def IsBracketed (cs body : List Char) : Prop :=
  cs = '[' :: (body ++ [']']) ∧ body ≠ [] ∧ ∀ c ∈ body, IsPlain c ∨ c = ':'

theorem isName_ipv4Text (address : Nat) : IsName (ipv4Text address) := by
  constructor
  · simp [ipv4Text, Binary64.digitsOf, Nat.toDigits_ne_nil]
  · refine Text.of_mem_intercalate (Text.forall_mem_of_all (by decide)) fun part hp => ?_
    obtain ⟨k, -, rfl⟩ := List.mem_map.mp hp
    exact fun c hc => isPlain_of_mem_toDigits (by decide) (by decide) hc

theorem exists_ipv6Text (pieces : List Nat) :
    ∃ body, ipv6Text pieces = '[' :: (body ++ [']']) ∧ ∀ c ∈ body, IsPlain c ∨ c = ':' := by
  have hg : ∀ ns : List Nat, ∀ c ∈ [':'].intercalate (ns.map hexText), IsPlain c ∨ c = ':' := by
    intro ns
    refine Text.of_mem_intercalate (by simp) fun part hp => ?_
    obtain ⟨n, -, rfl⟩ := List.mem_map.mp hp
    exact fun c hc => .inl (isPlain_of_mem_toDigits (by decide) (by decide) hc)
  refine ⟨_, rfl, ?_⟩
  split
  · exact hg pieces
  · refine List.forall_mem_append.mpr ⟨List.forall_mem_append.mpr ⟨hg _, ?_⟩, hg _⟩
    exact Text.forall_mem_of_all (by decide)

/-- A host that becomes itself is a plain name, or plain between brackets. -/
theorem cases_of_special? {cs : List Char} {host : Host} (h : special? cs = some host)
    (ht : host.text = cs) : IsName cs ∧ host.bare = cs ∨ IsBracketed cs host.bare := by
  unfold special? at h
  split at h
  next hb =>
    unfold bracketed? at h
    split at h
    · obtain ⟨pieces, hp, rfl⟩ := Option.map_eq_some_iff.mp h
      obtain ⟨body, he, hc⟩ := exists_ipv6Text pieces
      obtain rfl : '[' :: (body ++ [']']) = cs := he ▸ ht
      have hbody : (ipv6 pieces).bare = body := by
        simp [bare, he]
      have hne : body ≠ [] := by
        rintro rfl
        cases hp
      rw [hbody]
      exact .inr ⟨rfl, hne, hc⟩
    · cases h
  next hb =>
    simp only [Option.bind_eq_bind, Option.bind_eq_some_iff] at h
    obtain ⟨decoded, hd, name, hn, h⟩ := h
    split at h
    · obtain ⟨address, -, rfl⟩ := Option.map_eq_some_iff.mp h
      exact .inl ⟨ht ▸ isName_ipv4Text address, ht⟩
    · cases h
      obtain rfl : name = cs := ht
      obtain ⟨-, -, -, -, -, hne, hf⟩ := exists_of_domainToAscii? hn
      have hp : '%' ∉ name := fun hm => absurd (hf _ hm) (by decide)
      rw [decoded_of_not_mem hp] at hd
      cases hd
      rw [String.toList_ofList] at hn
      exact .inl ⟨⟨hne, fun c hc => ⟨isLow_of_domainToAscii? hn c hc, hf c hc⟩⟩, rfl⟩

end Host

end PolicyGuard.Url
