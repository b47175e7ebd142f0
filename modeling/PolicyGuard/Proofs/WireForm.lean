import PolicyGuard.Event.Basic
import PolicyGuard.Proofs.Calendar
import PolicyGuard.Proofs.JsonText
import PolicyGuard.Proofs.JsonValue
import PolicyGuard.Proofs.LogFile
import PolicyGuard.Proofs.Uuid

/-!
The form of an event on a line.

However an event was written, it has one line, and it is this line that is written again
for what is read from it.

* `areDetails_of_details?`, `ofDocument?_document`: the fields of a record that is written;
* `line_of_read?`: the line of an event that was read;
* `Readable.read?_line`: which events are read back from their lines.
-/

namespace PolicyGuard.Event

open Json (isWhole)

/-! ## Fields -/

/-- Details that are read from the document that is written for them. -/
def AreDetails (t : Table Json) : Prop :=
  details? (.object (Json.memberDocuments t)) = some t

theorem areDetails_nil : AreDetails [] :=
  rfl

theorem areDetails_of_details? {d : Json.Document} {t : Table Json} (h : details? d = some t) :
    AreDetails t := by
  simp only [details?, Option.bind_eq_bind, Option.bind_eq_some_iff] at h
  obtain ⟨j, hj, h⟩ := h
  split at h
  next members =>
    cases h
    have hd := Json.value?_document d hj
    rw [Json.document] at hd
    rw [AreDetails, details?, hd]
    rfl
  next => cases h

theorem areDetails_of_orDefault? {field : Option Json.Document} {t : Table Json}
    (h : Json.orDefault? [] details? field = some t) : AreDetails t := by
  cases field with
  | none =>
    cases h
    exact areDetails_nil
  | some d => exact areDetails_of_details? h

/-- An event that a line was read as. -/
structure WasRead (e : Event) : Prop where
  payload : AreDetails e.payload
  metadata : AreDetails e.metadata
  time : e.time.isValid = true

theorem wasRead_of_read? {s : String} {e : Event} (h : read? s = some e) : e.WasRead := by
  obtain ⟨d, -, h⟩ := Option.bind_eq_some_iff.mp h
  simp only [ofDocument?, Option.bind_eq_bind, Option.bind_eq_some_iff] at h
  obtain ⟨fields, -, h⟩ := h
  split at h
  next =>
    simp only [Option.bind_eq_some_iff] at h
    obtain ⟨id, -, kind, -, name, -, payload, hp, metadata, hm, time, ht, h⟩ := h
    cases h
    obtain ⟨field, -, ht⟩ := Option.bind_eq_some_iff.mp ht
    obtain ⟨text, -, ht⟩ := Option.bind_eq_some_iff.mp ht
    exact ⟨areDetails_of_orDefault? hp, areDetails_of_orDefault? hm,
      Timestamp.isValid_of_read? ht⟩
  next => cases h

theorem fields?_document (e : Event) :
    e.json.document.fields? ["id", "type", "name", "payload", "metadata", "timestamp"] =
      some [some (.string (some e.id.text)), some (.string (some e.kind.name)),
        some (.string (some e.name)), some (.object (Json.memberDocuments e.payload)),
        some (.object (Json.memberDocuments e.metadata)), some (.string (some e.time.text))] := by
  simp [json, Json.document, Json.memberDocuments, Json.Document.fields?, Json.Document.single?]

theorem ofDocument?_of_time {e : Event} (h : e.WasRead)
    (htime : Timestamp.read? e.time.text = some e.time) :
    ofDocument? e.json.document = some e := by
  have hpayload : details? (.object (Json.memberDocuments e.payload)) = some e.payload := h.payload
  have hmetadata : details? (.object (Json.memberDocuments e.metadata)) = some e.metadata :=
    h.metadata
  simp only [ofDocument?, fields?_document, Option.bind_eq_bind, Option.bind_some, Json.required?,
    Json.orDefault?, Json.Document.string?, Json.Document.choice?, Uuid.read?_text,
    EventKind.ofName?_name, htime, hpayload, hmetadata]
  rfl

theorem ofDocument?_document {e : Event} (h : e.WasRead) (hl : 0 ≤ e.time.date.year)
    (hu : e.time.date.year ≤ 9999) : ofDocument? e.json.document = some e :=
  ofDocument?_of_time h (Timestamp.read?_text h.time hl hu)

/-! ## Lines -/

theorem not_mem_line (e : Event) {c : Char} (hc : c.toNat < 0x20) : c ∉ e.line.toList := by
  intro hm
  rw [line, Json.compact, String.toList_ofList] at hm
  have := Json.printable_chars e.json c hm
  omega

theorem isWhole_json {e : Event} (hp : isWhole (.object e.payload) = true)
    (hm : isWhole (.object e.metadata) = true) : e.json.isWhole = true := by
  simp only [json, isWhole, Json.areMembersWhole, Bool.true_and, Bool.and_true,
    Bool.and_eq_true] at hp hm ⊢
  exact ⟨hp, hm⟩

/-- **The form of an event on a line.** An event that was read, with whole numbers of 64 bits
and in a year of four digits, is written without line ends. What is written is read as the same
event, for which the same line is written again. -/
theorem line_of_read? {s : String} {e : Event} (h : read? s = some e)
    (hp : isWhole (.object e.payload) = true) (hm : isWhole (.object e.metadata) = true)
    (hl : 0 ≤ e.time.date.year) (hu : e.time.date.year ≤ 9999) :
    '\n' ∉ e.line.toList ∧ '\r' ∉ e.line.toList ∧
      ∃ e', read? e.line = some e' ∧ e' = e ∧ e'.line = e.line := by
  have hread : read? e.line = some e := by
    rw [read?, line, Json.read?_compact (isWhole_json hp hm), Option.bind_some]
    exact ofDocument?_document (wasRead_of_read? h) hl hu
  exact ⟨e.not_mem_line (by decide), e.not_mem_line (by decide), e, hread, rfl, rfl⟩

/-- An event whose details have their members in order and exact numbers, and are nested as deep
as a reader allows. -/
structure Readable (e : Event) : Prop where
  payload : (Json.object e.payload).fits (Json.depthLimit - 1) = true
  metadata : (Json.object e.metadata).fits (Json.depthLimit - 1) = true
  payload_exact : (Json.object e.payload).isExact = true
  metadata_exact : (Json.object e.metadata).isExact = true
  time : e.time.isValid = true

theorem areDetails_of_fits {t : Table Json}
    (h : (Json.object t).fits (Json.depthLimit - 1) = true) : AreDetails t := by
  have hd := Json.value?_of_fits _ h
  rw [Json.document] at hd
  rw [AreDetails, details?, hd]
  rfl

theorem Readable.isExact_json {e : Event} (h : e.Readable) : e.json.isExact = true := by
  have hp := h.payload_exact
  have hm := h.metadata_exact
  simp only [json, Json.isExact, Json.areMembersExact, Bool.true_and, Bool.and_true,
    Bool.and_eq_true] at hp hm ⊢
  exact ⟨hp, hm⟩

/-- Such an event is read back from its line. -/
theorem Readable.read?_line {e : Event} (h : e.Readable) : read? e.line = some e := by
  rw [read?, line, Json.read?_of_isExact h.isExact_json, Option.bind_some]
  exact ofDocument?_of_time ⟨areDetails_of_fits h.payload, areDetails_of_fits h.metadata, h.time⟩
    (Timestamp.read?_text_of_isValid h.time)

/-! An event in an unusual spelling, as the array of its fields, and its line. -/

def spelled : String :=
  "[\"67E5504410B1426F9247BB680E5FE0C8\",\"tool_call\",\"\\u0022\\uD83D\\uDE00\"," ++
    "\x7b\"b\":1,\"a\":[-9223372036854775808],\"b\":2\x7d,\x7b\x7d,\"2024-02-29t23:30:07.2500-05:30\"]"

def written : String :=
  "\x7b\"id\":\"67e55044-10b1-426f-9247-bb680e5fe0c8\",\"type\":\"tool_call\",\"name\":\"\\\"😀\"," ++
    "\"payload\":\x7b\"a\":[-9223372036854775808],\"b\":2\x7d,\"metadata\":\x7b\x7d," ++
      "\"timestamp\":\"2024-03-01T05:00:07.250Z\"\x7d"

theorem line_spelled :
    ∃ e, read? spelled = some e ∧ e.line = written ∧
      '\n' ∉ written.toList ∧ read? written = some e := by
  have hany : (read? spelled).any fun e =>
      isWhole (.object e.payload) && isWhole (.object e.metadata) && 0 ≤ e.time.date.year &&
        e.time.date.year ≤ 9999 && e.line = written := by
    decide +kernel
  obtain ⟨e, he, hall⟩ := (Option.any_eq_true _ _).mp hany
  simp only [Bool.and_eq_true, decide_eq_true_eq] at hall
  obtain ⟨⟨⟨⟨hp, hm⟩, hl⟩, hu⟩, hline⟩ := hall
  obtain ⟨hn, -, e', hread, rfl, -⟩ := line_of_read? he hp hm hl hu
  rw [hline] at hn hread
  exact ⟨e', he, hline, hn, hread⟩

end PolicyGuard.Event
