import PolicyGuard.FileTree

/-!
Files that are made and added to.

What is found below a directory stays there as long as the directories stay
(`Keeps`), and neither making directories nor writing a file removes one. So a path
that leads to a file goes on leading to it, and what is added to the file is read
back after what was there.

* `text?_bytes`: a text is read back from its bytes;
* `bytes_eq`, `newline_not_mem_bytes`: which bytes they are;
* `holds_create`, `holds_append`: a file after it is made and after more is added;
* `readText_of_holds`: what is read then.
-/

namespace PolicyGuard.FileTree

/-! ## Texts as bytes -/

theorem toList_loop (bs : ByteArray) (i : Nat) (done : List UInt8) :
    ByteArray.toList.loop bs i done = done.reverse ++ bs.data.toList.drop i := by
  fun_induction ByteArray.toList.loop bs i done with
  | case1 i done hlt ih =>
    have hi : i < bs.data.toList.length := by simpa using hlt
    have hg : bs.get! i = bs.data.toList[i] := by
      simp only [ByteArray.get!, Array.getElem_toList]
      exact getElem!_pos bs.data i (by simpa using hlt)
    rw [ih, List.drop_eq_getElem_cons hi, hg]
    simp
  | case2 i done hge =>
    have hn : bs.data.toList.length ≤ i := by simpa using hge
    rw [List.drop_eq_nil_of_le hn, List.append_nil]

theorem toList_eq (bs : ByteArray) : bs.toList = bs.data.toList := by
  rw [ByteArray.toList, toList_loop]
  simp

theorem bytes_append (s s' : String) : bytes (s ++ s') = bytes s ++ bytes s' := by
  simp [bytes, toList_eq, String.toUTF8]

theorem text?_bytes (s : String) : text? (bytes s) = some s := by
  have hb : ByteArray.mk (bytes s).toArray = s.toByteArray := by
    rw [bytes, toList_eq, Array.toArray_toList]
    rfl
  rw [text?, hb, String.fromUTF8?, dif_pos s.isValidUTF8]
  rfl

/-- The bytes of a text are those of its characters. -/
theorem bytes_eq (s : String) : bytes s = s.toList.flatMap String.utf8EncodeChar := by
  rw [bytes, toList_eq, String.toUTF8, ← String.utf8Encode_toList, List.utf8Encode,
    List.toList_data_toByteArray]

/-- A small byte is a character of its own, since those of a longer one are all large. -/
theorem toNat_of_mem_utf8EncodeChar {c : Char} {b : UInt8} (h : b ∈ String.utf8EncodeChar c)
    (hb : b.toNat < 0x80) : c.toNat = b.toNat := by
  have hlow (n : Nat) (hn : n < 0x100) : (UInt8.ofNat n).toNat = n := by
    rw [UInt8.toNat_ofNat', Nat.mod_eq_of_lt hn]
  have hval : c.val.toNat = c.toNat := rfl
  rw [String.utf8EncodeChar, hval] at h
  split at h
  · rw [List.mem_singleton] at h
    rw [h, hlow _ (by omega)]
  · repeat' split at h
    all_goals
      simp only [List.mem_cons, List.not_mem_nil, or_false] at h
      rcases h with rfl | rfl | rfl | rfl
    all_goals
      rw [hlow _ (by omega)] at hb
      omega

theorem newline_not_mem_bytes {s : String} (h : '\n' ∉ s.toList) : 10 ∉ bytes s := by
  rw [bytes_eq]
  intro hb
  obtain ⟨c, hc, hb⟩ := List.mem_flatMap.mp hb
  have hn : c = '\n' := Char.toNat_inj.mp (toNat_of_mem_utf8EncodeChar hb (by decide))
  exact h (hn ▸ hc)

/-! ## Directories stay -/

variable {t u v : FileTree} {place : List String}

/-- Every directory of one tree is one of the other. -/
def Keeps (t u : FileTree) : Prop :=
  ∀ place, t.find? place = some .directory → u.find? place = some .directory

/-- Everything of one tree is the same in the other. -/
def Extends (t u : FileTree) : Prop :=
  ∀ place e, t.find? place = some e → u.find? place = some e

theorem Extends.refl (t : FileTree) : Extends t t :=
  fun _ _ h => h

theorem Extends.trans (h : Extends t u) (h' : Extends u v) : Extends t v :=
  fun place e he => h' place e (h place e he)

theorem Extends.keeps (h : Extends t u) : Keeps t u :=
  fun place hd => h place .directory hd

theorem lookup_filter_ne {names place : List String} (hn : names ≠ place)
    (entries : List (List String × Entry)) :
    (entries.filter (·.1 ≠ place)).lookup names = entries.lookup names := by
  induction entries with
  | nil => rfl
  | cons entry rest ih =>
    obtain ⟨key, e⟩ := entry
    by_cases hk : key = place
    · subst hk
      have hf : (names == key) = false := by simpa using hn
      rw [List.filter_cons_of_neg (by simp), ih, List.lookup_cons, hf]
    · rw [List.filter_cons_of_pos (by simpa using hk), List.lookup_cons, List.lookup_cons, ih]

/-- A place that is no directory is not a root. -/
theorem find?_eq_lookup (h : t.find? place ≠ some .directory) (u : FileTree) :
    u.find? place = u.entries.lookup place := by
  have hr : (place.isEmpty || place = root) = false := by
    cases hr : (place.isEmpty || place = root) with
    | false => rfl
    | true => exact absurd (by rw [find?, if_pos hr]) h
  rw [find?, hr]
  rfl

theorem find?_set (h : t.find? place ≠ some .directory) (e : Entry) (names : List String) :
    (t.set place e).find? names = if names = place then some e else t.find? names := by
  by_cases hn : names = place
  · subst hn
    rw [find?_eq_lookup h, if_pos rfl, set, List.lookup_cons_self]
  · have hf : (names == place) = false := by simpa using hn
    have hl : (t.set place e).entries.lookup names = t.entries.lookup names := by
      rw [set, List.lookup_cons, hf]
      exact lookup_filter_ne hn t.entries
    rw [if_neg hn, find?, find?, hl]

theorem keeps_set (h : t.find? place ≠ some .directory) (e : Entry) : Keeps t (t.set place e) := by
  intro names hd
  have hn : names ≠ place := by
    rintro rfl
    exact h hd
  rw [find?_set h, if_neg hn, hd]

theorem extends_set (h : t.find? place = none) (e : Entry) : Extends t (t.set place e) := by
  intro names e' he
  have hn : names ≠ place := by
    rintro rfl
    rw [h] at he
    cases he
  rw [find?_set (by simp [h]), if_neg hn, he]

/-! ## Paths lead where they led -/

theorem walk_keeps (hk : Keeps t u) {names end_ : List String}
    (h : t.walk place names = .ok end_) : u.walk place names = .ok end_ := by
  induction names generalizing place with
  | nil => exact h
  | cons name rest ih =>
    -- a walk that gets on asks for directories only, and those are still there
    rw [walk] at h ⊢
    split at h
    · cases h
    · cases h
    · rename_i hd
      rw [hk place hd]
      simp only at h ⊢
      split
      · rename_i hn
        rw [if_pos hn] at h
        exact ih h
      · rename_i hn
        rw [if_neg hn] at h
        split
        · rename_i hp
          rw [if_pos hp] at h
          exact ih h
        · rename_i hp
          rw [if_neg hp] at h
          split
          · rename_i hl
            rw [if_pos hl] at h
            cases h
          · rename_i hl
            rw [if_neg hl] at h
            exact ih h

theorem locate_keeps (hk : Keeps t u) {path : String} (h : t.locate path = .ok place) :
    u.locate path = .ok place := by
  rw [locate] at h ⊢
  split
  · rename_i hn
    rw [if_pos hn] at h
    cases h
  · rename_i hn
    rw [if_neg hn] at h
    split
    · rename_i he
      rw [if_pos he] at h
      cases h
    · rename_i he
      rw [if_neg he] at h
      exact walk_keeps hk h

/-! ## Making directories -/

theorem extends_makePlaces {made names : List String} (h : t.makePlaces made names = .ok u) :
    Extends t u := by
  induction names generalizing t made with
  | nil =>
    obtain rfl := Except.ok.inj h
    exact Extends.refl t
  | cons name rest ih =>
    rw [makePlaces] at h
    generalize (if name = ".." then above made else made ++ [name]) = place at h
    split at h
    · cases h
    · exact ih h
    · rename_i hf
      split at h
      · cases h
      · exact (extends_set hf _).trans (ih h)

/-- Directories that are made once are there. -/
theorem makePlaces_again {made names : List String} (h : t.makePlaces made names = .ok u)
    (hk : Keeps u v) : v.makePlaces made names = .ok v := by
  induction names generalizing t made with
  | nil => rfl
  | cons name rest ih =>
    rw [makePlaces] at h ⊢
    generalize (if name = ".." then above made else made ++ [name]) = place at h ⊢
    split at h
    · cases h
    · rename_i hd
      rw [hk place (extends_makePlaces h place _ hd)]
      exact ih h
    · rename_i hf
      split at h
      · cases h
      · have hn : t.find? place ≠ some .directory := by simp [hf]
        have hd : (t.set place .directory).find? place = some .directory := by
          rw [find?_set hn, if_pos rfl]
        rw [hk place (extends_makePlaces h place _ hd)]
        exact ih h

/-- Makes the directories that a path lies in. -/
def makeParent (t : FileTree) (path : String) : Except FileError FileTree :=
  match parent? path with
  | none => .ok t
  | some parent => t.makeDirectories parent

theorem extends_makeParent {path : String} (h : t.makeParent path = .ok u) : Extends t u := by
  unfold makeParent makeDirectories at h
  split at h
  · obtain rfl := Except.ok.inj h
    exact Extends.refl t
  · split at h
    · obtain rfl := Except.ok.inj h
      exact Extends.refl t
    · split at h
      · cases h
      · exact extends_makePlaces h

theorem makeParent_again {path : String} (h : t.makeParent path = .ok u) (hk : Keeps u v) :
    v.makeParent path = .ok v := by
  unfold makeParent makeDirectories at h ⊢
  split at h
  · rfl
  · split at h
    · rename_i he
      rw [if_pos he]
    · rename_i he
      rw [if_neg he]
      split at h
      · cases h
      · rename_i hn
        rw [if_neg hn]
        exact makePlaces_again h hk

/-! ## Files -/

/-- There is nothing at a path once its directories are made, and a file may be made there. -/
def CanCreate (t : FileTree) (path : String) : Prop :=
  ∃ u place, t.makeParent path = .ok u ∧ u.writable path = .ok place ∧ u.find? place = none

/-- There is a file with this text at a path. -/
def Holds (t : FileTree) (path text : String) : Prop :=
  t.makeParent path = .ok t ∧
    ∃ place, t.writable path = .ok place ∧ t.find? place = some (.file (bytes text))

theorem of_writable {path : String} (h : t.writable path = .ok place) :
    t.locate path = .ok place ∧ asksDirectory path = false ∧ t.find? place ≠ some .directory := by
  unfold writable at h
  cases hl : t.locate path with
  | error e =>
    rw [hl] at h
    cases h
  | ok p =>
    rw [hl] at h
    simp only [bind, Except.bind] at h
    split at h
    · cases h
    · rename_i hf
      split at h
      · cases h
      · rename_i ha
        obtain rfl := Except.ok.inj h
        exact ⟨rfl, by simpa using ha, by simp [hf]⟩
    · rename_i hf
      split at h
      · cases h
      · rename_i ha
        obtain rfl := Except.ok.inj h
        exact ⟨rfl, by simpa using ha, by simp [hf]⟩

theorem writable_of_file {path : String} {content : List UInt8} (hl : t.locate path = .ok place)
    (ha : asksDirectory path = false) (hf : t.find? place = some (.file content)) :
    t.writable path = .ok place := by
  simp [writable, hl, hf, ha, bind, Except.bind]

/-- A file is written in a place that is found, and found there again. -/
theorem found_set {path : String} (hp : t.makeParent path = .ok u)
    (hw : u.writable path = .ok place) (content : List UInt8) :
    (u.set place (.file content)).makeParent path = .ok (u.set place (.file content)) ∧
      (u.set place (.file content)).writable path = .ok place ∧
      (u.set place (.file content)).find? place = some (.file content) := by
  obtain ⟨hl, ha, hd⟩ := of_writable hw
  have hk := keeps_set hd (.file content)
  have hf : (u.set place (.file content)).find? place = some (.file content) := by
    rw [find?_set hd, if_pos rfl]
  exact ⟨makeParent_again hp hk, writable_of_file (locate_keeps hk hl) ha hf, hf⟩

theorem holds_set {path : String} (hp : t.makeParent path = .ok u)
    (hw : u.writable path = .ok place) (text : String) :
    Holds (u.set place (.file (bytes text))) path text := by
  obtain ⟨hparent, hwrite, hf⟩ := found_set hp hw (bytes text)
  exact ⟨hparent, place, hwrite, hf⟩

theorem holds_create {path : String} (h : CanCreate t path) (text : String) :
    ∃ u v, t.makeParent path = .ok u ∧ u.append path (bytes text) = .ok v ∧ Holds v path text := by
  obtain ⟨u, place, hp, hw, hf⟩ := h
  exact ⟨u, _, hp, by simp [append, hw, hf, bind, Except.bind], holds_set hp hw text⟩

theorem holds_append {path text : String} (h : Holds t path text) (more : String) :
    ∃ v, t.append path (bytes more) = .ok v ∧ Holds v path (text ++ more) := by
  obtain ⟨hp, place, hw, hf⟩ := h
  refine ⟨_, ?_, holds_set hp hw (text ++ more)⟩
  simp [append, hw, hf, bytes_append, bind, Except.bind]

theorem readText_of_holds {path text : String} (h : Holds t path text) :
    t.readText path = .ok text := by
  obtain ⟨-, place, hw, hf⟩ := h
  obtain ⟨hl, ha, -⟩ := of_writable hw
  simp [readText, entry, hl, hf, ha, text?_bytes, bind, Except.bind]

theorem isFile_of_readText {path text : String} (h : t.readText path = .ok text) :
    t.isFile path = true := by
  unfold readText at h
  unfold isFile
  cases he : t.entry path with
  | error e =>
    rw [he] at h
    cases h
  | ok e =>
    rw [he] at h
    cases e with
    | directory => cases h
    | file content => rfl

/-- What can be made is not there yet. -/
theorem not_readable_of_canCreate {path : String} (h : CanCreate t path) (text : String) :
    t.readText path ≠ .ok text := by
  intro hr
  obtain ⟨u, place, hp, hw, hf⟩ := h
  cases hl : t.locate path with
  | error e => simp [readText, entry, hl, bind, Except.bind] at hr
  | ok place' =>
    obtain rfl := Except.ok.inj
      ((locate_keeps (extends_makeParent hp).keeps hl).symm.trans (of_writable hw).1)
    cases he : t.find? place' with
    | none => simp [readText, entry, hl, he, bind, Except.bind] at hr
    | some e =>
      rw [extends_makeParent hp place' e he] at hf
      cases hf

end PolicyGuard.FileTree
