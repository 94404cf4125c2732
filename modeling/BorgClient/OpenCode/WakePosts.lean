import BorgClient.Lib.Runs
import BorgClient.OpenCode.Wakes

/-!
# What the launch broker prompts

No wake is prompted under two ids, in two sessions or with two texts, none that the journal does
not hold, and none again but after its prompt failed.
-/

namespace BorgClient.OpenCode

namespace WakeBroker

variable {w w' : WakeBroker}

/-- The wakes of all deliveries, in the order in which they came. -/
def wakes (w : WakeBroker) : List Wake := w.deliveries.map (·.toWake)

def journaled (w : WakeBroker) : List Wake := w.journal.map (·.toWake)

/-- A delivery that the native host has, or that was settled. -/
def Finished (w : WakeBroker) (source : String) : Prop :=
  ∃ d, w.find source = some d ∧ (d.admitted || d.delivered || d.settled) = true

/-! ### What a step keeps -/

/-- From one broker to a later one: what is told to be finished stays so and is not prompted, a
delivery keeps its wake and a key its source. -/
structure Advances (w w' : WakeBroker) : Prop where
  finished : ∀ source, w.Finished source → w'.Finished source
  posted : ∃ new, w'.posted = new ++ w.posted ∧ ∀ p ∈ new, ¬ w.Finished p.wake.source
  wakes : w.wakes <+: w'.wakes
  aliases : ∀ key source, w.aliases.lookup key = some source → w'.aliases.lookup key = some source

namespace Advances

theorem refl (w : WakeBroker) : w.Advances w :=
  ⟨fun _ h => h, ⟨[], rfl, by simp⟩, List.prefix_rfl, fun _ _ h => h⟩

theorem trans {w₁ w₂ w₃ : WakeBroker} (h₁ : w₁.Advances w₂) (h₂ : w₂.Advances w₃) :
    w₁.Advances w₃ where
  finished source h := h₂.finished source (h₁.finished source h)
  posted := by
    obtain ⟨new₁, heq₁, hnew₁⟩ := h₁.posted
    obtain ⟨new₂, heq₂, hnew₂⟩ := h₂.posted
    refine ⟨new₂ ++ new₁, by rw [heq₂, heq₁, List.append_assoc], fun p hp => ?_⟩
    obtain hp | hp := List.mem_append.mp hp
    · exact fun h => hnew₂ p hp (h₁.finished _ h)
    · exact hnew₁ p hp
  wakes := h₁.wakes.trans h₂.wakes
  aliases key source h := h₂.aliases key source (h₁.aliases key source h)

/-- A step that touches neither deliveries nor prompts nor aliases. -/
theorem of_eq (hd : w'.deliveries = w.deliveries) (hp : w'.posted = w.posted)
    (ha : w'.aliases = w.aliases) : w.Advances w' where
  finished source h := by
    obtain ⟨d, hd', hflags⟩ := h
    exact ⟨d, by simpa only [find, hd] using hd', hflags⟩
  posted := ⟨[], by simp [hp], by simp⟩
  wakes := by simp [WakeBroker.wakes, hd]
  aliases key source h := by rw [ha, h]

end Advances

@[simp] theorem persist_deliveries (ok : Bool) : (w.persist ok).deliveries = w.deliveries := by
  cases ok <;> rfl

@[simp] theorem persist_posted (ok : Bool) : (w.persist ok).posted = w.posted := by
  cases ok <;> rfl

@[simp] theorem persist_aliases (ok : Bool) : (w.persist ok).aliases = w.aliases := by
  cases ok <;> rfl

@[simp] theorem persist_phase (ok : Bool) : (w.persist ok).phase = w.phase := by
  cases ok <;> rfl

@[simp] theorem persist_rejected (ok : Bool) : (w.persist ok).rejected = w.rejected := by
  cases ok <;> rfl

@[simp] theorem persist_verified (ok : Bool) : (w.persist ok).verified = w.verified := by
  cases ok <;> rfl

@[simp] theorem persist_sessionID (ok : Bool) : (w.persist ok).sessionID = w.sessionID := by
  cases ok <;> rfl

@[simp] theorem persist_prepared (ok : Bool) : (w.persist ok).prepared = w.prepared := by
  cases ok <;> rfl

theorem goto_advances (phase : QueuePhase) : w.Advances (w.goto phase) :=
  Advances.of_eq rfl rfl rfl

theorem persist_advances (ok : Bool) : w.Advances (w.persist ok) :=
  Advances.of_eq (by simp) (by simp) (by simp)

theorem find_source {source : String} {d : Delivery} (h : w.find source = some d) :
    d.source = source := by
  simpa using List.find?_some h

theorem find_mem {source : String} {d : Delivery} (h : w.find source = some d) :
    d.toWake ∈ w.wakes :=
  List.mem_map_of_mem (List.mem_of_find?_eq_some h)

theorem find_mark (source other : String) (flags : Delivery → Delivery) :
    (w.mark other flags).find source =
      (w.find source).map (fun d => if d.source = other then
        { flags d with toWake := d.toWake } else d) := by
  simp only [find, mark, List.find?_map]
  congr 2
  funext d
  simp only [Function.comp]
  split <;> rfl

theorem wakes_mark (source : String) (flags : Delivery → Delivery) :
    (w.mark source flags).wakes = w.wakes := by
  simp only [wakes, mark, List.map_map]
  refine List.map_congr_left (fun d _ => ?_)
  simp only [Function.comp]
  split <;> rfl

/-- Flags are only raised. -/
theorem mark_advances (source : String) (flags : Delivery → Delivery)
    (hflags : ∀ d, (d.admitted || d.delivered || d.settled) = true →
      ((flags d).admitted || (flags d).delivered || (flags d).settled) = true) :
    w.Advances (w.mark source flags) where
  finished other h := by
    obtain ⟨d, hd, hdone⟩ := h
    refine ⟨_, by rw [find_mark, hd]; rfl, ?_⟩
    beta_reduce
    split
    · exact hflags d hdone
    · exact hdone
  posted := ⟨[], rfl, by simp⟩
  wakes := by rw [wakes_mark]
  aliases _ _ h := h

theorem accept_advances (source : String) : w.Advances (w.accept source) :=
  mark_advances _ _ (fun d h => by simp)

theorem deliver_advances (source : String) : w.Advances (w.deliver source) :=
  mark_advances _ _ (fun d h => by simp)

theorem hold_advances (wake : Wake) : w.Advances (w.hold wake) where
  finished source h := by
    obtain ⟨d, hd, hdone⟩ := h
    refine ⟨d, ?_, hdone⟩
    simp only [find, hold, List.find?_append] at hd ⊢
    simp [hd]
  posted := ⟨[], rfl, by simp⟩
  wakes := by simp [wakes, hold]
  aliases _ _ h := h

theorem reconciled_advances (purpose : Reconcile) (source : String) (ok : Bool) :
    w.Advances (w.reconciled purpose source ok) := by
  cases purpose with
  | look => exact goto_advances _
  | rejected => exact goto_advances _
  | sweep => exact goto_advances _
  | submit resume =>
    simp only [reconciled]
    cases hfind : w.find source with
    | none => exact goto_advances _
    | some d =>
      dsimp only
      split
      · exact goto_advances _
      split
      · rename_i hopen _
        refine ⟨fun _ h => h, ⟨[⟨d.toWake, resume⟩], rfl, fun p hp => ?_⟩, List.prefix_rfl,
          fun _ _ h => h⟩
        rw [List.mem_singleton.mp hp]
        rintro ⟨d', hd', hdone⟩
        rw [find_source hfind, hfind] at hd'
        cases hd'
        exact hopen hdone
      · exact goto_advances _

theorem reconcile_advances (purpose : Reconcile) (source : String) (ok : Bool) :
    w.Advances (w.reconcile purpose source ok) := by
  unfold reconcile
  split
  · exact goto_advances _
  · split
    · exact reconciled_advances _ _ _
    · exact goto_advances _

theorem threw_advances (purpose : Reconcile) : w.Advances (w.threw purpose) := by
  cases purpose <;> exact goto_advances _

theorem verify_advances (sessionID : String) :
    w.Advances { w with verified := sessionID :: w.verified } :=
  Advances.of_eq rfl rfl rfl

theorem reject_advances (source : String) :
    w.Advances { w with rejected := source :: w.rejected } :=
  Advances.of_eq rfl rfl rfl

theorem attach_advances (request : WakeRequest) (source : String) (written ok : Bool)
    (halias : ∀ s, w.aliases.lookup request.key = some s → s = source) :
    w.Advances (w.attach request source written ok) := by
  have haliased : w.Advances { w with aliases := (request.key, source) :: w.aliases } := by
    refine ⟨fun _ h => h, ⟨[], rfl, by simp⟩, List.prefix_rfl, fun key s h => ?_⟩
    rw [List.lookup_cons]
    by_cases hkey : key = request.key
    · subst hkey
      simpa using (halias s h).symm
    · have hkey : (key == request.key) = false := by simpa using hkey
      rw [hkey]
      exact h
  unfold attach
  dsimp only
  split
  · exact haliased.trans ((persist_advances true).trans (reconcile_advances _ _ _))
  · exact haliased.trans (goto_advances _)

theorem openWake_advances (request : WakeRequest) (id : String) (created written ok : Bool) :
    w.Advances (w.openWake request id created written ok) := by
  unfold openWake
  split
  · exact goto_advances _
  cases request.text with
  | none => exact goto_advances _
  | some text =>
    dsimp only
    split
    · exact goto_advances _
    rename_i hsame
    have halias : ∀ s, w.aliases.lookup request.key = some s →
        s = request.source.getD ((w.aliases.lookup request.key).getD request.key) := by
      intro s hs
      simpa [hs] using hsame
    split
    · split
      · exact attach_advances _ _ _ _ halias
      · exact goto_advances _
    · split
      · split
        · exact (hold_advances _).trans ((persist_advances true).trans
            (attach_advances _ _ _ _ (by rw [persist_aliases]; exact halias)))
        · exact (hold_advances _).trans (goto_advances _)
      · exact goto_advances _

end WakeBroker

open WakeBroker

theorem brokerStep_advances (w : WakeBroker) (step : BrokerStep) :
    w.Advances (brokerStep w step) := by
  cases step with
  | wake request => simp only [brokerStep]; split <;> exact Advances.of_eq rfl rfl rfl
  | resolved ok => simp only [brokerStep]; split <;> exact Advances.of_eq rfl rfl rfl
  | verified ok id createdOk writtenOk promptOk =>
    simp only [brokerStep]
    split
    · split
      · exact (verify_advances _).trans (openWake_advances _ _ _ _ _)
      · exact goto_advances _
    · exact Advances.refl w
  | message own writtenOk promptOk =>
    simp only [brokerStep]
    split
    · split
      · split
        · exact (deliver_advances _).trans ((persist_advances true).trans
            (reconciled_advances _ _ _))
        · exact (deliver_advances _).trans (threw_advances _)
      · exact goto_advances _
    · exact Advances.refl w
  | inbox listed writtenOk promptOk =>
    simp only [brokerStep]
    split
    · split
      · exact threw_advances _
      · exact reconciled_advances _ _ _
      · split
        · exact (accept_advances _).trans ((persist_advances true).trans
            (reconciled_advances _ _ _))
        · exact (accept_advances _).trans (threw_advances _)
    · exact Advances.refl w
  | prompted ok writtenOk =>
    simp only [brokerStep]
    split
    · split
      · split
        · exact (accept_advances _).trans ((persist_advances true).trans (goto_advances _))
        · exact (accept_advances _).trans (reconcile_advances _ _ _)
      · exact (reject_advances _).trans (reconcile_advances _ _ _)
    · exact Advances.refl w
  | timer => simp only [brokerStep]; split <;> exact Advances.of_eq rfl rfl rfl
  | sweep source =>
    simp only [brokerStep]
    split
    · exact reconcile_advances _ _ _
    · exact Advances.refl w
  | swept => simp only [brokerStep]; split <;> exact Advances.of_eq rfl rfl rfl
  | settle source ok =>
    simp only [brokerStep]
    split
    · exact Advances.refl w
    · exact (mark_advances _ _ (fun d h => by simp)).trans (persist_advances ok)
  | human sessionID => exact Advances.of_eq rfl rfl rfl
  | capture => exact Advances.of_eq rfl rfl rfl
  | handoffVerified handoff =>
    simp only [brokerStep]; split <;> exact Advances.of_eq rfl rfl rfl
  | handoffPrepared handoff ok =>
    simp only [brokerStep]
    split
    · exact Advances.of_eq (by simp) (by simp) (by simp)
    · exact Advances.refl w
  | selectSession sessionID ok =>
    exact Advances.of_eq (by simp [brokerStep]) (by simp [brokerStep]) (by simp [brokerStep])
  | plugin ready => simp only [brokerStep]; split <;> exact Advances.of_eq rfl rfl rfl
  | catalog tools => simp only [brokerStep]; split <;> exact Advances.of_eq rfl rfl rfl
  | close => exact Advances.of_eq rfl rfl rfl

theorem run_advances (w : WakeBroker) (steps : List BrokerStep) :
    w.Advances (Runs.run brokerStep w steps) := by
  induction steps generalizing w with
  | nil => exact Advances.refl w
  | cons step steps ih => exact (brokerStep_advances w step).trans (ih _)

/-! ### Prompts, failures and the journal -/

namespace WakeBroker

variable {w w' : WakeBroker}

def postsOf (w : WakeBroker) (source : String) : ℕ := (w.posted.map (·.wake.source)).count source

/-- No prompt is under way. -/
def Quiet (w : WakeBroker) : Prop :=
  ∀ source, w.postsOf source ≤ w.rejected.count source + 1 ∧
    (¬ w.Finished source → w.postsOf source ≤ w.rejected.count source)

/-- Every prompt but the last of its source failed, and the last is under way, failed or told. -/
def Counted (w : WakeBroker) : Prop :=
  ∀ source, w.postsOf source ≤ w.rejected.count source + 1 ∧
    (¬ w.Finished source → w.phase ≠ .prompting source →
      w.postsOf source ≤ w.rejected.count source)

/-- What was prompted is in the journal, and what is in the journal is a delivery. -/
structure Written (w : WakeBroker) : Prop where
  posted : ∀ p ∈ w.posted, p.wake ∈ w.journaled
  journaled : ∀ v ∈ w.journaled, v ∈ w.wakes

theorem Quiet.counted (h : w.Quiet) : w.Counted :=
  fun source => ⟨(h source).1, fun hopen _ => (h source).2 hopen⟩

theorem Counted.quiet (h : w.Counted) (hphase : ∀ source, w.phase ≠ .prompting source) :
    w.Quiet :=
  fun source => ⟨(h source).1, fun hopen => (h source).2 hopen (hphase source)⟩

theorem Quiet.advance (h : w.Quiet) (hadv : w.Advances w') (hp : w'.posted = w.posted)
    (hr : w'.rejected = w.rejected) : w'.Quiet := by
  intro source
  simp only [postsOf, hp, hr]
  exact ⟨(h source).1, fun hopen => (h source).2 (fun hdone => hopen (hadv.finished _ hdone))⟩

theorem Counted.advance (h : w.Counted) (hadv : w.Advances w') (hp : w'.posted = w.posted)
    (hr : w'.rejected = w.rejected) (hphase : w'.phase = w.phase) : w'.Counted := by
  intro source
  simp only [postsOf, hp, hr, hphase]
  exact ⟨(h source).1, fun hopen => (h source).2 (fun hdone => hopen (hadv.finished _ hdone))⟩

/-- What comes before the way on of a task: the journal and the flags. -/
structure Keeps (w w' : WakeBroker) : Prop where
  written : w.Written → w'.Written
  quiet : w.Quiet → w'.Quiet
  wakes : w'.wakes = w.wakes
  verified : w'.verified = w.verified
  prepared : w'.prepared = w.prepared
  sessionID : w'.sessionID = w.sessionID

/-- The way on of a task that held no prompt. -/
structure Passes (w w' : WakeBroker) : Prop where
  written : w.Written → w'.Written
  counted : w.Quiet → w'.Counted
  wakes : w'.wakes = w.wakes
  verified : w'.verified = w.verified
  prepared : w'.prepared = w.prepared
  sessionID : w'.sessionID = w.sessionID
  phase : ∀ request sessionID, w'.phase ≠ .verifying request sessionID

theorem Keeps.passes {w₁ w₂ w₃ : WakeBroker} (h₁ : w₁.Keeps w₂) (h₂ : w₂.Passes w₃) :
    w₁.Passes w₃ where
  written h := h₂.written (h₁.written h)
  counted h := h₂.counted (h₁.quiet h)
  wakes := h₂.wakes.trans h₁.wakes
  verified := h₂.verified.trans h₁.verified
  prepared := h₂.prepared.trans h₁.prepared
  sessionID := h₂.sessionID.trans h₁.sessionID
  phase := h₂.phase

theorem Written.persist (h : w.Written) (ok : Bool) : (w.persist ok).Written := by
  cases ok with
  | false => exact h
  | true => exact ⟨fun p hp => h.journaled _ (h.posted p hp), fun v hv => hv⟩

theorem persist_keeps (ok : Bool) : w.Keeps (w.persist ok) where
  written h := h.persist ok
  quiet h := h.advance (persist_advances ok) (by simp) (by simp)
  wakes := by simp [WakeBroker.wakes]
  verified := by simp
  prepared := by simp
  sessionID := by simp

theorem mark_keeps {source : String} {flags : Delivery → Delivery}
    (hadv : w.Advances (w.mark source flags)) : w.Keeps (w.mark source flags) where
  written h := ⟨h.posted, fun v hv => by rw [wakes_mark]; exact h.journaled v hv⟩
  quiet h := h.advance hadv rfl rfl
  wakes := wakes_mark _ _
  verified := rfl
  prepared := rfl
  sessionID := rfl

theorem goto_passes (phase : QueuePhase)
    (hphase : ∀ request sessionID, phase ≠ .verifying request sessionID) :
    w.Passes (w.goto phase) where
  written h := ⟨h.posted, h.journaled⟩
  counted h := (h.advance (goto_advances phase) rfl rfl).counted
  wakes := rfl
  verified := rfl
  prepared := rfl
  sessionID := rfl
  phase := hphase

theorem threw_passes (purpose : Reconcile) : w.Passes (w.threw purpose) := by
  cases purpose <;> exact goto_passes _ (by simp)

/-- The prompt of a delivery that is not told to be finished. -/
theorem post_passes {source : String} {d : Delivery} (resume : Bool)
    (hfind : w.find source = some d)
    (hopen : ¬ (d.admitted || d.delivered || d.settled) = true) :
    w.Passes { w.persist true with
      phase := .prompting source
      posted := ⟨d.toWake, resume⟩ :: w.posted } where
  written h := by
    refine ⟨fun p hp => ?_, fun v hv => hv⟩
    obtain rfl | hp := List.mem_cons.mp hp
    · exact find_mem hfind
    · exact h.journaled _ (h.posted p hp)
  counted h := by
    have hunfinished : ¬ w.Finished source := by
      rintro ⟨d', hd', hdone⟩
      rw [hfind] at hd'
      cases hd'
      exact hopen hdone
    intro other
    have hcount : postsOf { w.persist true with
        phase := .prompting source
        posted := ⟨d.toWake, resume⟩ :: w.posted } other =
        w.postsOf other + if source = other then 1 else 0 := by
      simp [postsOf, List.count_cons, find_source hfind]
    rw [hcount]
    by_cases hsource : source = other
    · subst hsource
      have hle := (h source).2 hunfinished
      refine ⟨by simpa using hle, fun _ hphase => absurd rfl hphase⟩
    · simp only [if_neg hsource, add_zero]
      exact ⟨(h other).1, fun hother _ => (h other).2 hother⟩
  wakes := rfl
  verified := rfl
  prepared := rfl
  sessionID := rfl
  phase := by simp

theorem reconciled_passes (purpose : Reconcile) (source : String) (ok : Bool) :
    w.Passes (w.reconciled purpose source ok) := by
  cases purpose with
  | look => exact goto_passes _ (by simp)
  | rejected => exact goto_passes _ (by simp)
  | sweep => exact goto_passes _ (by simp)
  | submit resume =>
    simp only [reconciled]
    cases hfind : w.find source with
    | none => exact goto_passes _ (by simp)
    | some d =>
      dsimp only
      split
      · exact goto_passes _ (by simp)
      split
      · exact post_passes resume hfind ‹_›
      · exact goto_passes _ (by simp)

theorem reconcile_passes (purpose : Reconcile) (source : String) (ok : Bool) :
    w.Passes (w.reconcile purpose source ok) := by
  unfold reconcile
  split
  · exact goto_passes _ (by simp)
  · split
    · exact reconciled_passes _ _ _
    · exact goto_passes _ (by simp)

theorem alias_keeps (key source : String) :
    w.Keeps { w with aliases := (key, source) :: w.aliases } where
  written h := ⟨h.posted, h.journaled⟩
  quiet h := h
  wakes := rfl
  verified := rfl
  prepared := rfl
  sessionID := rfl

theorem attach_passes (request : WakeRequest) (source : String) (written ok : Bool) :
    w.Passes (w.attach request source written ok) := by
  unfold attach
  dsimp only
  split
  · exact (alias_keeps _ _).passes ((persist_keeps true).passes (reconcile_passes _ _ _))
  · exact (alias_keeps _ _).passes (goto_passes _ (by simp))

/-- A request makes at most one delivery: under its new id, for the session of the moment, and
of a source that had none. -/
theorem openWake_cases (request : WakeRequest) (id : String) (created written ok : Bool) :
    w.Passes (w.openWake request id created written ok) ∨
      ∃ v : Wake, v.id = id ∧ v.sessionID = w.sessionID ∧ w.find v.source = none ∧
        (w.hold v).Passes (w.openWake request id created written ok) := by
  unfold openWake
  split
  · exact .inl (goto_passes _ (by simp))
  cases request.text with
  | none => exact .inl (goto_passes _ (by simp))
  | some text =>
    dsimp only
    generalize request.source.getD ((w.aliases.lookup request.key).getD request.key) = source
    split
    · exact .inl (goto_passes _ (by simp))
    split
    · split
      · exact .inl (attach_passes _ _ _ _)
      · exact .inl (goto_passes _ (by simp))
    · rename_i hnone
      split
      · refine .inr ⟨⟨id, w.sessionID, text, source⟩, rfl, rfl, hnone, ?_⟩
        split
        · exact (persist_keeps true).passes (attach_passes _ _ _ _)
        · exact goto_passes _ (by simp)
      · exact .inl (goto_passes _ (by simp))

/-- The account of the prompts, and where a session comes from. -/
structure BrokerOk (w : WakeBroker) : Prop where
  written : w.Written
  counted : w.Counted
  verified : ∀ v ∈ w.wakes, v.sessionID ∈ w.verified
  sources : (w.wakes.map (·.source)).Nodup
  current : ∀ request sessionID, w.phase = .verifying request sessionID →
    w.sessionID = sessionID ∨ w.sessionID ∈ w.verified
  prepared : ∀ handoff ∈ w.prepared, handoff.sessionID ∈ w.verified

theorem Passes.brokerOk (h : w.Passes w') (hok : w.BrokerOk) (hquiet : w.Quiet) :
    w'.BrokerOk where
  written := h.written hok.written
  counted := h.counted hquiet
  verified := by rw [h.wakes, h.verified]; exact hok.verified
  sources := by rw [h.wakes]; exact hok.sources
  current request sessionID hphase := absurd hphase (h.phase request sessionID)
  prepared := by rw [h.prepared, h.verified]; exact hok.prepared

theorem not_mem_sources {source : String} (h : w.find source = none) :
    source ∉ w.wakes.map (·.source) := by
  intro hmem
  obtain ⟨v, hv, rfl⟩ := List.mem_map.mp hmem
  obtain ⟨d, hd, rfl⟩ := List.mem_map.mp hv
  have := List.find?_eq_none.mp h d hd
  simp at this

/-- A new delivery of the session of the moment, which was verified. -/
theorem BrokerOk.hold (h : w.BrokerOk) {v : Wake} (hfresh : w.find v.source = none)
    (hsession : v.sessionID ∈ w.verified) (hphase : ∀ source, w.phase ≠ .prompting source) :
    (w.hold v).BrokerOk ∧ (w.hold v).Quiet := by
  have hwakes : (w.hold v).wakes = w.wakes ++ [v] := by simp [wakes, WakeBroker.hold]
  have hquiet : (w.hold v).Quiet := (h.counted.quiet hphase).advance (hold_advances v) rfl rfl
  refine ⟨⟨⟨h.written.posted, fun u hu => ?_⟩, hquiet.counted, fun u hu => ?_, ?_, h.current,
    h.prepared⟩, hquiet⟩
  · rw [hwakes]
    exact List.mem_append_left _ (h.written.journaled u hu)
  · rw [hwakes] at hu
    obtain hu | hu := List.mem_append.mp hu
    · exact h.verified u hu
    · rw [List.mem_singleton.mp hu]
      exact hsession
  · rw [hwakes, List.map_append]
    refine List.Nodup.append h.sources (by simp) ?_
    simpa using not_mem_sources hfresh

/-- Outside the task: sessions and the plugin's answers. -/
theorem BrokerOk.outside (h : w.BrokerOk) (hadv : w.Advances w') (hd : w'.deliveries = w.deliveries)
    (hj : w'.journal = w.journal) (hp : w'.posted = w.posted) (hr : w'.rejected = w.rejected)
    (hphase : w'.phase = w.phase) (hv : ∀ s ∈ w.verified, s ∈ w'.verified)
    (hs : w'.sessionID = w.sessionID ∨ w'.sessionID ∈ w'.verified)
    (hprep : ∀ handoff ∈ w'.prepared, handoff ∈ w.prepared ∨ handoff.sessionID ∈ w'.verified) :
    w'.BrokerOk where
  written := ⟨by simpa [hp, journaled, hj] using h.written.posted,
    by simpa [wakes, hd, journaled, hj] using h.written.journaled⟩
  counted := h.counted.advance hadv hp hr hphase
  verified v hmem := hv _ (h.verified v (by simpa [wakes, hd] using hmem))
  sources := by simpa [wakes, hd] using h.sources
  current request sessionID heq := by
    rw [hphase] at heq
    obtain hs | hs := hs
    · rw [hs]
      exact (h.current request sessionID heq).imp_right (hv _)
    · exact .inr hs
  prepared handoff hmem := (hprep handoff hmem).elim (fun hw => hv _ (h.prepared handoff hw)) id

theorem BrokerOk.persist (h : w.BrokerOk) (ok : Bool) : (w.persist ok).BrokerOk where
  written := h.written.persist ok
  counted := h.counted.advance (persist_advances ok) (by simp) (by simp) (by simp)
  verified := by simpa [wakes] using h.verified
  sources := by simpa [wakes] using h.sources
  current := by simpa using h.current
  prepared := by simpa using h.prepared

/-- The source of a prompt under way has a delivery, or was never prompted. -/
theorem find_of_posted (h : w.BrokerOk) {source : String} (hpost : w.postsOf source ≠ 0) :
    ∃ d, w.find source = some d := by
  by_contra hnone
  have hfind : w.find source = none := by
    cases hf : w.find source with
    | none => rfl
    | some d => exact absurd ⟨d, hf⟩ hnone
  refine hpost (List.count_eq_zero.mpr (fun hmem => not_mem_sources hfind ?_))
  obtain ⟨p, hp, hsource⟩ := List.mem_map.mp hmem
  exact List.mem_map.mpr ⟨p.wake, h.written.journaled _ (h.written.posted p hp), hsource⟩

/-- An accepted prompt is told. -/
theorem BrokerOk.accept_quiet (h : w.BrokerOk) {source : String}
    (hphase : w.phase = .prompting source) : (w.accept source).Quiet := by
  intro other
  refine ⟨(h.counted other).1, fun hopen => ?_⟩
  by_cases hsource : other = source
  · subst hsource
    by_contra hlt
    have hpost : w.postsOf other ≠ 0 := by
      intro hzero
      exact hlt (le_of_eq_of_le hzero (Nat.zero_le _))
    obtain ⟨d, hd⟩ := find_of_posted h hpost
    refine hopen ⟨_, by rw [accept, find_mark, hd]; rfl, ?_⟩
    simp [find_source hd]
  · refine (h.counted other).2 (fun hdone => hopen ((accept_advances source).finished _ hdone)) ?_
    rw [hphase]
    simpa using Ne.symm hsource

theorem BrokerOk.reject_quiet (h : w.BrokerOk) {source : String}
    (hphase : w.phase = .prompting source) :
    Quiet { w with rejected := source :: w.rejected } := by
  intro other
  have hcount := h.counted other
  by_cases hsource : other = source
  · subst hsource
    have hrej : (other :: w.rejected).count other = w.rejected.count other + 1 := by simp
    constructor
    · exact (hcount.1).trans (by simp)
    · intro _
      exact hcount.1.trans hrej.ge
  · have hrej : (source :: w.rejected).count other = w.rejected.count other := by
      simp [Ne.symm hsource]
    refine ⟨hcount.1.trans (by simp [hrej]), fun hopen => ?_⟩
    refine (hcount.2 hopen ?_).trans hrej.ge
    rw [hphase]
    simpa using Ne.symm hsource

theorem BrokerOk.goto (h : w.BrokerOk) (hphase : ∀ source, w.phase ≠ .prompting source)
    {phase : QueuePhase} (hcurrent : ∀ request sessionID, phase = .verifying request sessionID →
      w.sessionID = sessionID) : (w.goto phase).BrokerOk where
  written := ⟨h.written.posted, h.written.journaled⟩
  counted := ((h.counted.quiet hphase).advance (goto_advances phase) rfl rfl).counted
  verified := h.verified
  sources := h.sources
  current request sessionID heq := .inl (hcurrent request sessionID heq)
  prepared := h.prepared

/-- The way on of a task after its answer was told. -/
theorem BrokerOk.passes (h : w.BrokerOk) (hphase : ∀ source, w.phase ≠ .prompting source)
    (hpass : w.Passes w') : w'.BrokerOk :=
  hpass.brokerOk h (h.counted.quiet hphase)

/-- The answer of `verifySession`, for the session of the moment or for one that was replaced by
another verified one. -/
theorem BrokerOk.openWake (h : w.BrokerOk) {request : WakeRequest} {sessionID : String}
    (hphase : w.phase = .verifying request sessionID) (id : String) (created written ok : Bool) :
    ({ w with verified := sessionID :: w.verified }.openWake request id created written
      ok).BrokerOk := by
  have hidle : ∀ source, w.phase ≠ .prompting source := by simp [hphase]
  have hverified : w.sessionID ∈ sessionID :: w.verified :=
    List.mem_cons.mpr ((h.current request sessionID hphase))
  have hw : BrokerOk { w with verified := sessionID :: w.verified } :=
    h.outside (verify_advances sessionID) rfl rfl rfl rfl rfl
      (fun s hs => List.mem_cons_of_mem _ hs) (.inl rfl) (fun handoff hmem => .inl hmem)
  obtain hpass | ⟨v, -, hsession, hfresh, hpass⟩ :=
    openWake_cases (w := { w with verified := sessionID :: w.verified }) request id created written
      ok
  · exact hw.passes hidle hpass
  · obtain ⟨hheld, hquiet⟩ := hw.hold hfresh (by rw [hsession]; exact hverified) hidle
    exact hpass.brokerOk hheld hquiet

theorem BrokerOk.step (h : w.BrokerOk) (step : BrokerStep) : (brokerStep w step).BrokerOk := by
  cases step with
  | wake request =>
    simp only [brokerStep]
    split
    · rename_i hphase
      rw [Bool.and_eq_true, decide_eq_true_iff] at hphase
      exact h.goto (by simp [hphase.1]) (by simp)
    · exact h
  | resolved ok =>
    simp only [brokerStep]
    split
    · rename_i hphase
      refine h.goto (by simp [hphase]) (fun request sessionID heq => ?_)
      split at heq
      · cases heq
        rfl
      · cases heq
    · exact h
  | verified ok id createdOk writtenOk promptOk =>
    simp only [brokerStep]
    split
    · rename_i hphase
      split
      · exact h.openWake hphase _ _ _ _
      · exact h.goto (by simp [hphase]) (by simp)
    · exact h
  | message own writtenOk promptOk =>
    simp only [brokerStep]
    split
    · rename_i hphase
      refine h.passes (by simp [hphase]) ?_
      split
      · split
        · exact (mark_keeps (deliver_advances _)).passes
            ((persist_keeps true).passes (reconciled_passes _ _ _))
        · exact (mark_keeps (deliver_advances _)).passes (threw_passes _)
      · exact goto_passes _ (by simp)
    · exact h
  | inbox listed writtenOk promptOk =>
    simp only [brokerStep]
    split
    · rename_i hphase
      refine h.passes (by simp [hphase]) ?_
      split
      · exact threw_passes _
      · exact reconciled_passes _ _ _
      · split
        · exact (mark_keeps (accept_advances _)).passes
            ((persist_keeps true).passes (reconciled_passes _ _ _))
        · exact (mark_keeps (accept_advances _)).passes (threw_passes _)
    · exact h
  | prompted ok writtenOk =>
    simp only [brokerStep]
    split
    · rename_i source hphase
      have hadmitted : (w.accept source).BrokerOk :=
        ⟨(mark_keeps (accept_advances source)).written h.written, (h.accept_quiet hphase).counted,
          by rw [accept, wakes_mark]; exact h.verified, by rw [accept, wakes_mark]; exact h.sources,
          h.current, h.prepared⟩
      split
      · split
        · exact ((persist_keeps true).passes (goto_passes _ (by simp))).brokerOk hadmitted
            (h.accept_quiet hphase)
        · exact (reconcile_passes _ _ _).brokerOk hadmitted (h.accept_quiet hphase)
      · have hrejected : BrokerOk { w with rejected := source :: w.rejected } :=
          ⟨⟨h.written.posted, h.written.journaled⟩, (h.reject_quiet hphase).counted, h.verified,
            h.sources, h.current, h.prepared⟩
        exact (reconcile_passes _ _ _).brokerOk hrejected (h.reject_quiet hphase)
    · exact h
  | timer =>
    simp only [brokerStep]
    split
    · exact h.goto (by simp [*]) (by simp)
    · exact h
  | sweep source =>
    simp only [brokerStep]
    split
    · exact h.passes (by simp [*]) (reconcile_passes _ _ _)
    · exact h
  | swept =>
    simp only [brokerStep]
    split
    · exact h.goto (by simp [*]) (by simp)
    · exact h
  | settle source ok =>
    simp only [brokerStep]
    split
    · exact h
    · have hadv : w.Advances (w.mark source (fun d => { d with settled := true })) :=
        mark_advances _ _ (fun d _ => by simp)
      refine BrokerOk.persist ⟨(mark_keeps hadv).written h.written, h.counted.advance hadv rfl rfl rfl,
        ?_, ?_, h.current, h.prepared⟩ ok
      · rw [wakes_mark]
        exact h.verified
      · rw [wakes_mark]
        exact h.sources
  | human sessionID =>
    exact h.outside (Advances.of_eq rfl rfl rfl) rfl rfl rfl rfl rfl
      (fun s hs => List.mem_cons_of_mem _ hs) (.inl rfl) (fun handoff hmem => .inl hmem)
  | capture =>
    exact h.outside (Advances.of_eq rfl rfl rfl) rfl rfl rfl rfl rfl (fun s hs => hs) (.inl rfl)
      (fun handoff hmem => .inl hmem)
  | handoffVerified handoff =>
    simp only [brokerStep]
    split
    · refine h.outside (Advances.of_eq rfl rfl rfl) rfl rfl rfl rfl rfl
        (fun s hs => List.mem_cons_of_mem _ hs) (.inl rfl) (fun other hmem => ?_)
      obtain rfl | hmem := List.mem_cons.mp hmem
      · exact .inr List.mem_cons_self
      · exact .inl hmem
    · exact h
  | handoffPrepared handoff ok =>
    simp only [brokerStep]
    split
    · rename_i hready
      have hmoved : BrokerOk
          { w with sessionID := handoff.sessionID, humanHandoff := none } :=
        h.outside (Advances.of_eq rfl rfl rfl) rfl rfl rfl rfl rfl (fun s hs => hs)
          (.inr (h.prepared handoff hready.1)) (fun other hmem => .inl hmem)
      exact hmoved.persist ok
    · exact h
  | selectSession sessionID ok =>
    have hmoved : BrokerOk
        { w with verified := sessionID :: w.verified, sessionID := sessionID } :=
      h.outside (Advances.of_eq rfl rfl rfl) rfl rfl rfl rfl rfl
        (fun s hs => List.mem_cons_of_mem _ hs) (.inr List.mem_cons_self)
        (fun handoff hmem => .inl hmem)
    exact hmoved.persist ok
  | plugin ready =>
    simp only [brokerStep]
    split
    · exact h
    · exact h.outside (Advances.of_eq rfl rfl rfl) rfl rfl rfl rfl rfl (fun s hs => hs) (.inl rfl)
        (fun handoff hmem => .inl hmem)
  | catalog tools =>
    simp only [brokerStep]
    split
    · exact h
    · exact h.outside (Advances.of_eq rfl rfl rfl) rfl rfl rfl rfl rfl (fun s hs => hs) (.inl rfl)
        (fun handoff hmem => .inl hmem)
  | close =>
    exact h.outside (Advances.of_eq rfl rfl rfl) rfl rfl rfl rfl rfl (fun s hs => hs) (.inl rfl)
      (fun handoff hmem => .inl hmem)

theorem start_brokerOk (assimilated : Bool) (sessionID : String) :
    (start assimilated sessionID).BrokerOk where
  written := ⟨by simp [start], by simp [start, journaled]⟩
  counted := by simp [Counted, start, postsOf]
  verified := by simp [start, wakes]
  sources := by simp [start, wakes]
  current := by simp [start]
  prepared := by simp [start]

end WakeBroker

/-- Over every order of requests, answers, failed writes, handoffs and timer runs: a prompt is of
the one wake of its source, which the journal holds and whose session was verified; all prompts of
a source but one failed; and after any further steps a key still has its source, and nothing is
prompted again that the host has or that was settled. -/
theorem wake_prompted_once (assimilated : Bool) (sessionID : String) (steps : List BrokerStep) :
    let w := Runs.run brokerStep (WakeBroker.start assimilated sessionID) steps
    (∀ p ∈ w.posted, p.wake ∈ w.journal.map (·.toWake) ∧ p.wake.sessionID ∈ w.verified) ∧
      (∀ p ∈ w.posted, ∀ q ∈ w.posted, p.wake.source = q.wake.source → p.wake = q.wake) ∧
      (∀ source, (w.posted.map (·.wake.source)).count source ≤ w.rejected.count source + 1) ∧
      ∀ further, w.Advances (Runs.run brokerStep w further) := by
  intro w
  have hok : w.BrokerOk := Runs.invariant brokerStep WakeBroker.BrokerOk
    (fun _ step h => h.step step) (WakeBroker.start_brokerOk assimilated sessionID) steps
  have hwake : ∀ p ∈ w.posted, p.wake ∈ w.wakes := fun p hp =>
    hok.written.journaled _ (hok.written.posted p hp)
  refine ⟨fun p hp => ⟨hok.written.posted p hp, hok.verified _ (hwake p hp)⟩,
    fun p hp q hq hsource => ?_, fun source => (hok.counted source).1,
    fun further => run_advances w further⟩
  exact List.inj_on_of_nodup_map hok.sources (hwake p hp) (hwake q hq) hsource

/-- A wake that comes again under another key after its prompt failed, and is in the inbox. -/
example : (Runs.run brokerStep (.start false "s")
    [.wake ⟨"a", some "t", some "e", true, true⟩, .resolved true, .verified true "m" true true true,
      .message false true true, .inbox (some false) true true, .prompted false true,
      .message false true true, .inbox (some false) true true,
      .wake ⟨"b", some "t", some "e", true, true⟩, .resolved true, .verified true "n" true true true,
      .message false true true, .inbox (some true) true true]).posted =
    [⟨⟨"m", "s", "t", "e"⟩, true⟩] := by decide

end BorgClient.OpenCode
