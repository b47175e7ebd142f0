import PolicyGuard.Proofs.CacheRefinement
import PolicyGuard.Proofs.WorkerRuns

/-!
What becomes of an invalidation while the worker is at work.

A refresh that has asked the source before the published content is forgotten may publish
after that. It sets the hash again, and if the source still answers the same then the refresh
of the invalidation takes the content for published (`overtaken_noPosts`). A new generation
has come up all the same, with the content that this refresh got, as far as hashes tell.

* `shown_run`: what is published at any moment;
* `since_run`: what happens after a content is forgotten;
* `invalidation_run`: both for the refresh of an invalidation, when it ends.
-/

namespace PolicyGuard.Cache.Worker

variable {v w w' : Worker} {t ms : List Mark} {a : Action}

/-- The text of a refresh that has asked the source and may still publish. -/
def Stage.text? : Stage → Option String
  | .comparing _ text | .publishing _ text => some text
  | _ => none

/-- The last that is seen of the refreshes is that the source gave this bundle. -/
def Fetched (t : List Mark) (bundle : Bundle) : Prop :=
  (t.filter Mark.isOfRefresh).getLast? = some (.got (.ok bundle))

/-- A content was published whose refresh got it from the source meanwhile. -/
def Rebuilt (t : List Mark) : Prop :=
  ∃ asker bundle n,
    [.got (.ok bundle), .ended asker (.ok (.published n))] <:+: t.filter Mark.isOfRefresh

/-- The published rules are those of a bundle, as far as hashes tell. -/
def Holds (s : Snapshot) (bundle : Bundle) : Prop :=
  ∃ text, contentHash text = contentHash bundle.combined ∧ s.rules = some (Policy.read text)

theorem Fetched.inj {bundle bundle' : Bundle} (h : Fetched t bundle) (h' : Fetched t bundle') :
    bundle = bundle' := by
  simpa [h] using Option.some.inj (h.symm.trans h')

theorem fetched_concat (t : List Mark) (bundle : Bundle) :
    Fetched (t ++ [.got (.ok bundle)]) bundle := by
  rw [Fetched, List.filter_append]
  exact List.getLast?_concat

theorem Fetched.append {bundle : Bundle} (h : Fetched t bundle)
    (hm : ms.filter Mark.isOfRefresh = []) : Fetched (t ++ ms) bundle := by
  rw [Fetched, List.filter_append, hm, List.append_nil]
  exact h

theorem Rebuilt.append (h : Rebuilt t) (ms : List Mark) : Rebuilt (t ++ ms) := by
  obtain ⟨asker, bundle, n, hi⟩ := h
  refine ⟨asker, bundle, n, hi.trans ?_⟩
  rw [List.filter_append]
  exact (List.prefix_append _ _).isInfix

theorem Fetched.rebuilt {bundle : Bundle} (h : Fetched t bundle) (asker : Asker) (n : Nat) :
    Rebuilt (t ++ [.ended asker (.ok (.published n))]) := by
  obtain ⟨before, hb⟩ := List.getLast?_eq_some_iff.mp h
  refine ⟨asker, bundle, n, before, [], ?_⟩
  rw [List.filter_append, hb, List.append_nil, List.append_assoc]
  rfl

/-- A refresh that has asked the source shows what it got. -/
theorem Exclusive.exists_fetched (h : Exclusive w t) {asker : Asker}
    (ha : w.stage.asker? = some asker) (hf : w.stage ≠ .fetching asker) :
    ∃ bundle : Bundle, [.began asker, .got (.ok bundle)] <:+ t.filter Mark.isOfRefresh ∧
      ∀ text, w.stage.text? = some text → bundle.combined = text := by
  obtain ⟨refreshes, ⟨current, ht, hc⟩, -⟩ := h
  rw [ht]
  generalize w.stage = stage at ha hf hc ⊢
  cases stage with
  | waiting | ended => cases ha
  | fetching asker' => exact absurd (by rw [Option.some.inj ha]) hf
  | comparing asker' text | publishing asker' text =>
    obtain rfl := Option.some.inj ha
    obtain ⟨bundle, hb, rfl⟩ := hc
    refine ⟨bundle, List.suffix_append _ _, ?_⟩
    intro text' ht'
    rw [hb, Option.some.inj ht']
  | renewing asker' =>
    obtain rfl := Option.some.inj ha
    obtain ⟨bundle, rfl⟩ := hc
    refine ⟨bundle, List.suffix_append _ _, ?_⟩
    intro text' ht'
    cases ht'

theorem fetched_of_suffix {asker : Asker} {bundle : Bundle}
    (h : [.began asker, .got (.ok bundle)] <:+ t.filter Mark.isOfRefresh) : Fetched t bundle := by
  obtain ⟨before, hb⟩ := h
  rw [Fetched, ← hb]
  simp

/-! ## What is published -/

/-- What the published rules have to do with the hash, and with a bundle that is found to be
published. -/
structure Shown (w : Worker) (t : List Mark) : Prop where
  exclusive : Exclusive w t
  hash : w.snapshot.contentHash = "" ∨
    ∃ text, w.snapshot.contentHash = contentHash text ∧ w.snapshot.rules = some (Policy.read text)
  renewing : ∀ asker, w.stage = .renewing asker →
    ∃ bundle, Fetched t bundle ∧ Holds w.snapshot bundle

theorem isCurrent_iff_hash {s : Snapshot} {hash : String} :
    s.isCurrent hash = true ↔ s.contentHash = hash :=
  decide_eq_true_iff

theorem Shown.other (h : Shown w t) (he : Exclusive w' (t ++ ms))
    (hh : w'.snapshot.contentHash = w.snapshot.contentHash)
    (hr : w'.snapshot.rules = w.snapshot.rules)
    (hs : ∀ asker, w'.stage = .renewing asker →
      w.stage = .renewing asker ∧ ms.filter Mark.isOfRefresh = []) : Shown w' (t ++ ms) := by
  refine ⟨he, by rw [hh, hr]; exact h.hash, ?_⟩
  intro asker ha
  obtain ⟨ha, hm⟩ := hs asker ha
  obtain ⟨bundle, hb, hd⟩ := h.renewing asker ha
  refine ⟨bundle, hb.append hm, ?_⟩
  rw [Holds, hr]
  exact hd

theorem shown_step (h : Shown w t) (hs : Step w a ms w') : Shown w' (t ++ ms) := by
  have he := exclusive_step h.exclusive hs
  cases hs with
  | same asker text hw hc =>
    refine ⟨he, h.hash, fun _ _ => ?_⟩
    have ha : w.stage.asker? = some asker := by
      rw [hw]
      rfl
    obtain ⟨bundle, hb, ht⟩ := h.exclusive.exists_fetched ha (by rw [hw]; simp)
    refine ⟨bundle, (fetched_of_suffix hb).append rfl, ?_⟩
    have hh := isCurrent_iff_hash.mp hc
    rcases h.hash with hn | ⟨text', ht', hr⟩
    · exact absurd (hh.symm.trans hn) (contentHash_ne_empty text)
    · refine ⟨text', ?_, hr⟩
      rw [ht text (by rw [hw]; rfl), ← ht', hh]
  | publish asker text now hw =>
    exact ⟨he, .inr ⟨text, rfl, rfl⟩, fun _ hr => by cases hr⟩
  | forget ticket =>
    refine ⟨he, .inl rfl, ?_⟩
    intro asker hr
    obtain ⟨bundle, hb, hh⟩ := h.renewing asker hr
    exact ⟨bundle, hb.append rfl, hh⟩
  | take asker rest hw hp => exact h.other he rfl rfl fun _ hr => by cases hr
  | exit rest hw hp => exact h.other he rfl rfl fun _ hr => by cases hr
  | due hw => exact h.other he rfl rfl fun _ hr => by cases hr
  | fetched asker bundle hw => exact h.other he rfl rfl fun _ hr => by cases hr
  | fail asker e hw => exact h.other he rfl rfl fun _ hr => by cases hr
  | differ asker text hw hc => exact h.other he rfl rfl fun _ hr => by cases hr
  | renew asker now hw => exact h.other he rfl rfl fun _ hr => by cases hr
  | _ => exact h.other he rfl rfl fun _ hr => ⟨hr, rfl⟩

theorem shown_run {actions : List Action} (hr : (start .empty).run? actions = some w) :
    Shown w ((start .empty).trace actions) := by
  refine run_induction (P := Shown) (t := []) shown_step ?_ hr
  exact ⟨⟨[], ⟨[], rfl, rfl⟩, by simp⟩, .inl rfl, fun _ hr => by cases hr⟩

/-! ## After a content is forgotten -/

/-- What has happened since the published content was forgotten. -/
inductive Since (v w : Worker) (t : List Mark) : Prop
  | rebuilt (hr : Rebuilt t) (hg : v.snapshot.generation < w.snapshot.generation)
  /-- Nothing was published. A refresh that had asked the source before may still publish. -/
  | cleared (hh : w.snapshot.contentHash = "")
      (hg : w.snapshot.generation = v.snapshot.generation)
      (ht : ∀ text, w.stage.text? = some text →
        (v.stage.text? = some text ∧ t.filter Mark.isOfRefresh = []) ∨
          ∃ bundle, Fetched t bundle ∧ bundle.combined = text)
      (hn : ∀ asker, w.stage = .renewing asker → t.filter Mark.isOfRefresh = [])
  /-- A refresh that had asked the source before has published since. -/
  | overtaken (late : String) (hv : v.stage.text? = some late)
      (hg : v.snapshot.generation < w.snapshot.generation)
      (hh : w.snapshot.contentHash = "" ∨ w.snapshot.contentHash = contentHash late)
      (ht : ∀ text, w.stage.text? = some text → ∃ bundle, Fetched t bundle ∧ bundle.combined = text)
      (hn : ∀ asker, w.stage = .renewing asker →
        ∃ bundle, Fetched t bundle ∧ contentHash late = contentHash bundle.combined)

/-- What leaves alone what is published and the refresh in progress. -/
theorem Since.other (h : Since v w t)
    (hh : w'.snapshot.contentHash = w.snapshot.contentHash ∨ w'.snapshot.contentHash = "")
    (hg : w'.snapshot.generation = w.snapshot.generation) (hs : w'.stage = w.stage)
    (hm : ms.filter Mark.isOfRefresh = []) : Since v w' (t ++ ms) := by
  have hf : (t ++ ms).filter Mark.isOfRefresh = t.filter Mark.isOfRefresh := by
    rw [List.filter_append, hm, List.append_nil]
  cases h with
  | rebuilt hr hlt => exact .rebuilt (hr.append ms) (by rw [hg]; exact hlt)
  | cleared hc he ht hn =>
    refine .cleared ?_ (hg.trans he) ?_ ?_
    · rcases hh with hh | hh
      · exact hh.trans hc
      · exact hh
    · rw [hs, hf]
      intro text hx
      exact (ht text hx).imp id fun ⟨bundle, hb, hc⟩ => ⟨bundle, hb.append hm, hc⟩
    · rw [hs, hf]
      exact hn
  | overtaken late hv hlt hc ht hn =>
    refine .overtaken late hv (by rw [hg]; exact hlt) ?_ ?_ ?_
    · rcases hh with hh | hh
      · rw [hh]
        exact hc
      · exact .inl hh
    · rw [hs]
      intro text hx
      obtain ⟨bundle, hb, hc⟩ := ht text hx
      exact ⟨bundle, hb.append hm, hc⟩
    · rw [hs]
      intro asker hx
      obtain ⟨bundle, hb, hc⟩ := hn asker hx
      exact ⟨bundle, hb.append hm, hc⟩

/-- What leaves alone what is published, with no refresh that has asked the source. -/
theorem Since.idle (h : Since v w t) (hh : w'.snapshot.contentHash = w.snapshot.contentHash)
    (hg : w'.snapshot.generation = w.snapshot.generation) (hs : w'.stage.text? = none)
    (hn : ∀ asker, w'.stage ≠ .renewing asker) : Since v w' (t ++ ms) := by
  cases h with
  | rebuilt hr hlt => exact .rebuilt (hr.append ms) (by rw [hg]; exact hlt)
  | cleared hc he _ _ =>
    refine .cleared (hh.trans hc) (hg.trans he) ?_ ?_
    · intro text hx
      rw [hs] at hx
      cases hx
    · intro asker hx
      exact absurd hx (hn asker)
  | overtaken late hv hlt hc _ _ =>
    refine .overtaken late hv (by rw [hg]; exact hlt) (by rw [hh]; exact hc) ?_ ?_
    · intro text hx
      rw [hs] at hx
      cases hx
    · intro asker hx
      exact absurd hx (hn asker)

theorem Since.fetched (h : Since v w t) (asker : Asker) (bundle : Bundle) :
    Since v { w with stage := .comparing asker bundle.combined } (t ++ [.got (.ok bundle)]) := by
  have hb := fetched_concat t bundle
  have ht : ∀ text, some bundle.combined = some text →
      ∃ b, Fetched (t ++ [.got (.ok bundle)]) b ∧ b.combined = text :=
    fun text hx => ⟨bundle, hb, Option.some.inj hx⟩
  cases h with
  | rebuilt hr hg => exact .rebuilt (hr.append _) hg
  | cleared hc hg _ _ => exact .cleared hc hg (fun text hx => .inr (ht text hx)) (by simp)
  | overtaken late hv hg hc _ _ => exact .overtaken late hv hg hc ht (by simp)

theorem Since.same (h : Since v w t) {asker : Asker} {text : String}
    (hw : w.stage = .comparing asker text)
    (hc : w.snapshot.isCurrent (contentHash text) = true) :
    Since v { w with stage := .renewing asker } (t ++ []) := by
  have hh := isCurrent_iff_hash.mp hc
  rw [List.append_nil]
  cases h with
  | rebuilt hr hg => exact .rebuilt hr hg
  | cleared he _ _ _ => exact absurd (hh.symm.trans he) (contentHash_ne_empty text)
  | overtaken late hv hg he ht _ =>
    refine .overtaken late hv hg he (fun _ hx => by cases hx) ?_
    intro _ _
    obtain ⟨bundle, hb, rfl⟩ := ht text (by rw [hw]; rfl)
    rcases he with he | he
    · exact absurd (hh.symm.trans he) (contentHash_ne_empty _)
    · exact ⟨bundle, hb, he.symm.trans hh⟩

theorem Since.differ (h : Since v w t) {asker : Asker} {text : String}
    (hw : w.stage = .comparing asker text) :
    Since v { w with stage := .publishing asker text } (t ++ []) := by
  have hx : w.stage.text? = some text := by rw [hw]; rfl
  rw [List.append_nil]
  cases h with
  | rebuilt hr hg => exact .rebuilt hr hg
  | cleared he hg ht _ =>
    refine .cleared he hg ?_ (by simp)
    rintro _ ⟨⟩
    exact ht text hx
  | overtaken late hv hg he ht _ =>
    refine .overtaken late hv hg he ?_ (by simp)
    rintro _ ⟨⟩
    exact ht text hx

theorem Since.publish (h : Since v w t) {asker : Asker} {text : String} (now : Nat)
    (hw : w.stage = .publishing asker text) :
    Since v ({ w with snapshot := w.snapshot.publish now text }.conclude asker
        (.ok (.published (Policy.read text).length)))
      (t ++ [.ended asker (.ok (.published (Policy.read text).length))]) := by
  have hx : w.stage.text? = some text := by rw [hw]; rfl
  cases h with
  | rebuilt hr hg => exact .rebuilt (hr.append _) (Nat.lt_succ_of_lt hg)
  | cleared he hg ht _ =>
    have hlt : v.snapshot.generation < w.snapshot.generation + 1 := by omega
    -- a text that was got before does not count as rebuilt, but only one refresh can have it
    rcases ht text hx with ⟨hv, -⟩ | ⟨bundle, hb, -⟩
    · exact .overtaken text hv hlt (.inr rfl) (fun _ hx => by cases hx) (fun _ hx => by cases hx)
    · exact .rebuilt (hb.rebuilt asker _) hlt
  | overtaken late hv hg he ht _ =>
    obtain ⟨bundle, hb, -⟩ := ht text hx
    exact .rebuilt (hb.rebuilt asker _) (Nat.lt_succ_of_lt hg)

theorem since_step (h : Since v w t) (hs : Step w a ms w') : Since v w' (t ++ ms) := by
  cases hs with
  | forget ticket => exact h.other (.inr rfl) rfl rfl rfl
  | take asker rest hw hp => exact h.idle rfl rfl rfl (by simp)
  | exit rest hw hp => exact h.idle rfl rfl rfl (by simp)
  | due hw => exact h.idle rfl rfl rfl (by simp)
  | fail asker e hw => exact h.idle rfl rfl rfl (by simp [conclude])
  | renew asker now hw => exact h.idle rfl rfl rfl (by simp [conclude])
  | fetched asker bundle hw => exact h.fetched asker bundle
  | same asker text hw hc => exact h.same hw hc
  | differ asker text hw hc => exact h.differ hw
  | publish asker text now hw => exact h.publish now hw
  | _ => exact h.other (.inl rfl) rfl rfl rfl

theorem since_run {ticket : Nat} {after : List Action}
    (hr : v.run? (.forget ticket :: after) = some w) :
    Since v w (v.trace (.forget ticket :: after)) := by
  obtain ⟨u, hu, hw, ht⟩ := run?_cons hr
  obtain rfl := Option.some.inj hu
  rw [ht]
  refine run_induction (P := Since v) (t := []) since_step ?_ hw
  exact .cleared rfl rfl (fun _ hx => .inl ⟨hx, rfl⟩) (fun _ _ => rfl)

/-! ## The refresh of an invalidation -/

theorem not_sent_of_not_askedAnew {actions : List Action} (hr : w.run? actions = some w')
    {ticket : Nat} (hn : .askAnew ticket ∉ actions) :
    .sent (.refresh (.invalidation ticket)) ∉ w.trace actions := by
  refine not_mem_trace hr fun a ha v ms v' hs => ?_
  have hne : .askAnew ticket ≠ a := by
    rintro rfl
    exact hn ha
  cases hs <;> simp_all

/-- A refresh that began later shows all that it got later. -/
theorem suffix_of_not_began {before after : List Mark} {asker : Asker} {m : Mark}
    (hn : .began asker ∉ before) (h : [.began asker, m] <:+ (before ++ after).filter Mark.isOfRefresh) :
    [.began asker, m] <:+ after.filter Mark.isOfRefresh := by
  rw [List.filter_append] at h
  rcases List.suffix_or_suffix_of_suffix h (List.suffix_append _ _) with hs | hs
  · exact hs
  · obtain ⟨x, hx⟩ := hs
    obtain ⟨z, hz⟩ := h
    cases x with
    | nil => exact ⟨[], hx.symm⟩
    | cons y rest =>
      obtain rfl := (List.cons.inj hx).1
      rw [← hx, ← List.append_assoc] at hz
      have hb := List.append_cancel_right hz
      have hm : .began asker ∈ before.filter Mark.isOfRefresh := by
        rw [← hb]
        simp
      exact absurd (List.mem_filter.mp hm).1 hn

theorem suffix_concat {bundle : Bundle} {asker : Asker}
    (h : [.began asker, .got (.ok bundle)] <:+ t.filter Mark.isOfRefresh)
    (outcome : Except FetchError Outcome) :
    [Mark.began asker, .got (.ok bundle), .ended asker outcome] <:+
      (t ++ [Mark.ended asker outcome]).filter Mark.isOfRefresh := by
  obtain ⟨before, hb⟩ := h
  refine ⟨before, ?_⟩
  rw [List.filter_append, ← hb, List.append_assoc]
  rfl

/-- **Invalidation.** When the refresh of an invalidation ends without failure, the generation
has grown since the content was forgotten, and the published rules are those that this refresh
got, as far as hashes tell. A content that was got since then has been published, unless a
refresh that had got the same content before was still to publish it. -/
theorem invalidation_run {before after : List Action} {ticket : Nat} {o : Outcome}
    (hv : (start .empty).run? before = some v) (hn : .askAnew ticket ∉ before)
    (hw : v.run? (.forget ticket :: after) = some w) (ha : w.act? a = some w')
    (he : .ended (.invalidation ticket) (.ok o) ∈ w.marks a) :
    let t := v.trace (.forget ticket :: after) ++ w.marks a
    ∃ bundle : Bundle,
      [.began (.invalidation ticket), .got (.ok bundle), .ended (.invalidation ticket) (.ok o)] <:+
        t.filter Mark.isOfRefresh ∧
      v.snapshot.generation < w'.snapshot.generation ∧ Holds w'.snapshot bundle ∧
      (Rebuilt t ∨
        ∃ late, v.stage.text? = some late ∧ contentHash late = contentHash bundle.combined) := by
  have hk := kept_run hv
  have hb : .began (.invalidation ticket) ∉ (start .empty).trace before :=
    hk.not_began (by simp) (not_sent_of_not_askedAnew hv hn)
  have hx := run_induction (P := Exclusive) exclusive_step hk.exclusive hw
  have hs := run_induction (P := Shown) shown_step (shown_run hv) hw
  have hi := since_run hw
  have hstep := step_of_act ha
  generalize w.marks a = ms at he hstep
  cases hstep with
  | renew asker now hst =>
    simp at he
    obtain ⟨rfl, rfl⟩ := he
    obtain ⟨bundle, hf, -⟩ := hx.exists_fetched (by rw [hst]; rfl) (by rw [hst]; simp)
    have hl := suffix_of_not_began hb hf
    have hft := fetched_of_suffix hl
    obtain ⟨bundle', hf', hh⟩ := hs.renewing _ hst
    obtain rfl := hf'.inj (fetched_of_suffix hf)
    cases hi with
    | rebuilt hr hg => exact ⟨bundle', suffix_concat hl _, hg, hh, .inl (hr.append _)⟩
    | cleared _ _ _ hn =>
      rw [hn _ hst] at hl
      exact absurd hl.length_le (by simp)
    | overtaken late hv hg _ _ hn =>
      obtain ⟨b, hb, hc⟩ := hn _ hst
      obtain rfl := hb.inj hft
      exact ⟨b, suffix_concat hl _, hg, hh, .inr ⟨late, hv, hc⟩⟩
  | publish asker text now hst =>
    simp at he
    obtain ⟨rfl, rfl⟩ := he
    obtain ⟨bundle, hf, ht⟩ := hx.exists_fetched (by rw [hst]; rfl) (by rw [hst]; simp)
    have hl := suffix_of_not_began hb hf
    have hft := fetched_of_suffix hl
    obtain rfl := ht text (by rw [hst]; rfl)
    refine ⟨bundle, suffix_concat hl _, ?_, ⟨_, rfl, rfl⟩, .inl (hft.rebuilt _ _)⟩
    show v.snapshot.generation < w.snapshot.generation + 1
    cases hi with
    | rebuilt _ hg => omega
    | cleared _ hg _ _ => omega
    | overtaken _ _ hg _ _ _ => omega
  | _ => simp at he

/-! ## Overtaken -/

/-- A refresh has asked the source and is about to publish. -/
def lateStart : List Action :=
  [.startDue, .fetched noPostsAnswer, .compare]

/-- An invalidation comes before that, and its refresh after it. -/
def lateFinish : List Action :=
  [.forget 0, .askAnew 0, .finish 1, .take, .fetched noPostsAnswer, .compare]

theorem combined_noPosts : (Bundle.ofText noPostsText).combined = noPostsText :=
  String.intercalate_singleton

/-- The worker when the content is forgotten. -/
def lateWorker : Worker :=
  { start .empty with stage := .publishing .schedule noPostsText }

theorem run_lateStart : (start .empty).run? lateStart = some lateWorker := by
  have hc : Snapshot.empty.isCurrent (contentHash noPostsText) = false :=
    decide_eq_false (contentHash_ne_empty noPostsText).symm
  simp [lateStart, lateWorker, run?, act?, start, noPostsAnswer, fetched?, compare?,
    combined_noPosts, hc]

/-- The worker when the refresh of the invalidation has compared. -/
def overtakenWorker : Worker where
  snapshot := Snapshot.empty.publish 1 noPostsText
  isReachable := true
  stopsNext := false
  pending := []
  stage := .renewing (.invalidation 0)
  sent := [.refresh (.invalidation 0)]
  taken := [.refresh (.invalidation 0)]
  replies := []

theorem run_lateFinish : lateWorker.run? lateFinish = some overtakenWorker := by
  have hc : (Snapshot.empty.publish 1 noPostsText).isCurrent (contentHash noPostsText) = true :=
    decide_eq_true rfl
  have hf : Snapshot.empty.forget = Snapshot.empty := rfl
  simp [lateFinish, lateWorker, overtakenWorker, run?, act?, start, noPostsAnswer, fetched?, compare?,
    finish?, take?, conclude, Worker.send, combined_noPosts, hc, hf]

theorem trace_lateFinish :
    lateWorker.trace lateFinish =
      [.sent (.refresh (.invalidation 0)),
        .ended .schedule (.ok (.published (Policy.read noPostsText).length)),
        .began (.invalidation 0), .got noPostsAnswer] := by
  have hc : (Snapshot.empty.publish 1 noPostsText).isCurrent (contentHash noPostsText) = true :=
    decide_eq_true rfl
  have hf : Snapshot.empty.forget = Snapshot.empty := rfl
  simp [lateFinish, lateWorker, trace, marks, act?, start, noPostsAnswer, fetched?, compare?,
    finish?, take?, conclude, Worker.send, combined_noPosts, hc, hf]

/-- The refresh of the invalidation takes for published what it got, although nothing was
published whose refresh got it since the content was forgotten. -/
theorem overtaken_noPosts :
    ∃ v w, (start .empty).run? lateStart = some v ∧ v.run? lateFinish = some w ∧
      w.marks (.finish 2) = [.ended (.invalidation 0) (.ok .unchanged)] ∧
      ¬ Rebuilt (v.trace lateFinish ++ w.marks (.finish 2)) := by
  refine ⟨lateWorker, overtakenWorker, run_lateStart, run_lateFinish, rfl, ?_⟩
  rintro ⟨asker, bundle, n, hi⟩
  rw [trace_lateFinish] at hi
  have hi : [Mark.got (.ok bundle), .ended asker (.ok (.published n))] <:+:
      [.ended .schedule (.ok (.published (Policy.read noPostsText).length)),
        .began (.invalidation 0), .got noPostsAnswer,
        .ended (.invalidation 0) (.ok .unchanged)] := hi
  simp [List.infix_cons_iff] at hi

/-- The invalidation counts all the same. -/
theorem invalidation_noPosts :
    ∃ w', overtakenWorker.act? (.finish 2) = some w' ∧
      lateWorker.snapshot.generation < w'.snapshot.generation ∧
      ∃ bundle, Holds w'.snapshot bundle := by
  have hw : lateWorker.run? (.forget 0 :: lateFinish.tail) = some overtakenWorker := run_lateFinish
  have ha : overtakenWorker.act? (.finish 2) = some _ := rfl
  have he : Mark.ended (.invalidation 0) (.ok .unchanged) ∈ overtakenWorker.marks (.finish 2) :=
    List.mem_singleton_self _
  obtain ⟨bundle, -, hg, hh, -⟩ := invalidation_run run_lateStart (by simp [lateStart]) hw ha he
  exact ⟨_, rfl, hg, bundle, hh⟩

end PolicyGuard.Cache.Worker
