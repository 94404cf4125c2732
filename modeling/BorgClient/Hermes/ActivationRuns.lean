import BorgClient.Hermes.Activation

/-!
# What a confirmed activation means

Over all runs of install, uninstall and update beside an operator who starts and stops the
gateway: when the record names the desired generation, whether a gateway has loaded it.
-/

namespace BorgClient.Hermes
open List Runs

/-! ### Evidence -/

/-- Later than every managed write of a generation. -/
def After (w : World) (id : String) (t : ℕ) : Prop := ∀ s, w.written id = some s → s < t

/-- A run was shown a gateway that started after the last managed write of the generation, or
was shown after it that none runs. -/
def Loaded (w : World) (id : String) : Prop :=
  (∃ p ∈ w.seen, After w id p.started) ∨ ∃ t ∈ w.stopped, After w id t

/-- A record that is not pending stands for a generation no running gateway has missed. -/
def ActivationHolds (w : World) : Prop :=
  ∀ record, w.record = some record → record.activated = some record.desired.id →
    Loaded w record.desired.id

/-- The generation whose files and keys a run writes. -/
def Phase.writer : Phase → Option Generation
  | .put _ _ record true => some record.desired
  | .writing _ _ record => some record.desired
  | .rollback _ record => some record.desired
  | _ => none

/-- No managed write happens under a hand-started gateway that would count as restarted since
the generation began. -/
def WriteInTime (w : World) (a : Act) : Prop :=
  a = .write → ∀ g ∈ w.phase.writer, ∀ p ∈ w.gateway, p.supervisor = .manual →
    reloaded g.gateway_pid (validPid (some p.pid)) = false

instance (w : World) (a : Act) : Decidable (WriteInTime w a) :=
  inferInstanceAs (Decidable (a = .write → ∀ g ∈ w.phase.writer, ∀ p ∈ w.gateway,
    p.supervisor = .manual → reloaded g.gateway_pid (validPid (some p.pid)) = false))

def startedPids (acts : List Act) : List String :=
  acts.filterMap (fun a => match a with
    | .start pid _ => some pid
    | _ => none)

/-- A home without a record, and no gateway. -/
def World.start : World := ⟨0, none, none, .idle, fun _ => none, fun _ => none, [], []⟩

lemma Loaded.mono {w w' : World} {id : String} (h : Loaded w id)
    (hwritten : w'.written id = w.written id) (hseen : w.seen ⊆ w'.seen)
    (hstopped : w.stopped ⊆ w'.stopped) : Loaded w' id := by
  unfold Loaded After at h ⊢
  rw [hwritten]
  rcases h with ⟨p, hp, hafter⟩ | ⟨t, ht, hafter⟩
  · exact Or.inl ⟨p, hseen hp, hafter⟩
  · exact Or.inr ⟨t, hstopped ht, hafter⟩

/-! ### Status answers -/

section Status

variable (w : World) (answer : GatewaySupervision)

@[simp] lemma observe_gateway : (w.observe answer).gateway = w.gateway := by
  unfold World.observe
  split
  · split <;> rename_i hg <;> rw [hg]
  · rfl

@[simp] lemma observe_record : (w.observe answer).record = w.record := by
  unfold World.observe
  split
  · split <;> rfl
  · rfl

@[simp] lemma observe_written : (w.observe answer).written = w.written := by
  unfold World.observe
  split
  · split <;> rfl
  · rfl

@[simp] lemma observe_sampled : (w.observe answer).sampled = w.sampled := by
  unfold World.observe
  split
  · split <;> rfl
  · rfl

lemma seen_observe : w.seen ⊆ (w.observe answer).seen := by
  unfold World.observe
  split
  · split
    · exact Subset.refl _
    · exact subset_cons_self _ _
  · exact Subset.refl _

lemma stopped_observe : w.stopped ⊆ (w.observe answer).stopped := by
  unfold World.observe
  split
  · split
    · exact subset_cons_self _ _
    · exact Subset.refl _
  · exact Subset.refl _

variable {w answer}

/-- A shown answer is the command's. -/
lemma shown_of_ne {shown : GatewaySupervision} (h : w.shown answer = shown)
    (hne : shown ≠ .unknown) : truthful w.gateway shown = true ∧ w.shown answer = answer ∧
      truthful w.gateway answer = true := by
  unfold World.shown at h ⊢
  split at h
  · rename_i htrue
    rw [if_pos htrue]
    exact ⟨h ▸ htrue, rfl, htrue⟩
  · exact absurd h.symm hne

lemma shown_stopped (h : w.shown answer = .stopped) : w.now ∈ (w.observe answer).stopped := by
  obtain ⟨hshown, _, htrue⟩ := shown_of_ne h (by simp)
  unfold World.observe
  rw [if_pos htrue]
  cases hg : w.gateway with
  | none => exact mem_cons_self
  | some p =>
    rw [hg] at hshown
    cases hshown

/-- What a shown PID belongs to. -/
lemma seen_of_truthful {p : Process} (hg : w.gateway = some p)
    (htrue : truthful w.gateway answer = true) : p ∈ (w.observe answer).seen := by
  unfold World.observe
  rw [if_pos htrue, hg]
  exact mem_cons_self

lemma validPid_all {pid : Option String} {own : String} (h : pid.all (· == own) = true) :
    validPid pid = none ∨ validPid pid = validPid (some own) := by
  cases pid with
  | none => exact Or.inl rfl
  | some pid =>
    right
    rw [Option.all_some, beq_iff_eq] at h
    rw [h]

lemma shown_manual {pid : Option String} (h : w.shown answer = .manual pid) :
    ∃ p, w.gateway = some p ∧ p.supervisor = .manual ∧ p ∈ (w.observe answer).seen ∧
      (validPid pid = none ∨ validPid pid = validPid (some p.pid)) := by
  obtain ⟨hshown, _, htrue⟩ := shown_of_ne h (by simp)
  cases hg : w.gateway with
  | none =>
    rw [hg] at hshown
    cases hshown
  | some p =>
    rw [hg] at hshown
    simp only [truthful, Bool.and_eq_true, decide_eq_true_eq] at hshown
    exact ⟨p, rfl, hshown.1, seen_of_truthful hg htrue, validPid_all hshown.2⟩

lemma shown_service {pid : Option String} (h : w.shown answer = .service pid) :
    ∃ p, w.gateway = some p ∧ p ∈ (w.observe answer).seen ∧
      (validPid pid = none ∨ validPid pid = validPid (some p.pid)) := by
  obtain ⟨hshown, _, htrue⟩ := shown_of_ne h (by simp)
  cases hg : w.gateway with
  | none =>
    rw [hg] at hshown
    cases hshown
  | some p =>
    rw [hg] at hshown
    simp only [truthful, Bool.and_eq_true, decide_eq_true_eq] at hshown
    exact ⟨p, rfl, seen_of_truthful hg htrue, validPid_all hshown.2⟩

end Status

/-! ### The invariant -/

/-- The records a run holds in memory. -/
def Phase.records : Phase → List ActivationRecord
  | .idle => []
  | .begin _ previous _ _ _ => previous.toList
  | .put _ previous record _ => record :: previous.toList
  | .keep record => [record]
  | .writing _ previous record => record :: previous.toList
  | .rollback previous record => record :: previous.toList
  | .finish record => [record]
  | .restart record _ => [record]
  | .check record _ => [record]
  | .confirm record => [record]

def World.live (w : World) : List ActivationRecord := w.record.toList ++ w.phase.records

/-- A record of a generation begun, which stands for a loaded one when it is not pending. -/
structure RecordOk (w : World) (r : ActivationRecord) : Prop where
  sampled : w.sampled r.desired.id = some r.desired.gateway_pid
  activated : ∀ a, r.activated = some a → (w.sampled a).isSome
  loaded : r.activated = some r.desired.id → Loaded w r.desired.id

/-- Between the two answers of a restart, a gateway with another PID has started since. -/
def PhaseOk (w : World) : Phase → Prop
  | .restart record oldPid => ∀ p, w.gateway = some p →
      oldPid = none ∨ oldPid = validPid (some p.pid) ∨ After w record.desired.id p.started
  | .check record oldPid => ∀ p, w.gateway = some p →
      oldPid = none ∨ oldPid = validPid (some p.pid) ∨ After w record.desired.id p.started
  | .confirm record => Loaded w record.desired.id
  | _ => True

/-- The invariant at time `n`. -/
structure Inv (n : ℕ) (w : World) : Prop where
  clock : ∀ id t, w.written id = some t → t < n ∧ (w.sampled id).isSome
  records : ∀ r ∈ w.live, RecordOk w r
  fresh : ∀ id pid p, w.sampled id = some pid → w.gateway = some p → p.supervisor = .manual →
    reloaded pid (validPid (some p.pid)) = true → After w id p.started
  writing : ∀ g, w.phase.writer = some g → w.sampled g.id = some g.gateway_pid ∧
    ∀ r ∈ w.live, r.activated ≠ some g.id
  phase : PhaseOk w w.phase

lemma inv_start : Inv 0 World.start where
  clock := by
    intro id t ht
    cases ht
  records := by
    intro r hr
    cases hr
  fresh := by
    intro id pid p hid
    cases hid
  writing := by
    intro g hg
    cases hg
  phase := trivial

section Keep

variable {n : ℕ} {w w' : World}

lemma RecordOk.mono {r : ActivationRecord} (h : RecordOk w r) (hwritten : w'.written = w.written)
    (hsampled : w'.sampled = w.sampled) (hseen : w.seen ⊆ w'.seen)
    (hstopped : w.stopped ⊆ w'.stopped) : RecordOk w' r where
  sampled := hsampled ▸ h.sampled
  activated := hsampled ▸ h.activated
  loaded hr := (h.loaded hr).mono (by rw [hwritten]) hseen hstopped

/-- A step that writes no file and no key, and begins no generation. -/
lemma Inv.keep (h : Inv n w) (hgateway : w'.gateway = w.gateway ∨ w'.gateway = none)
    (hwritten : w'.written = w.written) (hsampled : w'.sampled = w.sampled)
    (hseen : w.seen ⊆ w'.seen) (hstopped : w.stopped ⊆ w'.stopped)
    (hlive : ∀ r ∈ w'.live, ∃ q ∈ w.live, q.desired = r.desired ∧ q.activated = r.activated)
    (hwriter : ∀ g, w'.phase.writer = some g → w.phase.writer = some g)
    (hphase : PhaseOk w' w'.phase) : Inv n w' where
  clock := by
    rw [hwritten, hsampled]
    exact h.clock
  records := by
    intro r hr
    obtain ⟨q, hq, hdesired, hactivated⟩ := hlive r hr
    obtain ⟨hs, ha, hl⟩ := (h.records q hq).mono hwritten hsampled hseen hstopped
    rw [hdesired] at hs hl
    rw [hactivated] at ha hl
    exact ⟨hs, ha, hl⟩
  fresh := by
    intro id pid p hid hp
    unfold After
    rw [hwritten]
    rcases hgateway with hg | hg
    · exact h.fresh id pid p (hsampled ▸ hid) (hg ▸ hp)
    · rw [hg] at hp
      cases hp
  writing := by
    intro g hg
    obtain ⟨hs, hr⟩ := h.writing g (hwriter g hg)
    refine ⟨hsampled ▸ hs, fun r hr' => ?_⟩
    obtain ⟨q, hq, _, hactivated⟩ := hlive r hr'
    exact hactivated ▸ hr q hq
  phase := hphase

/-- A run moves on with records it has. -/
lemma Inv.goto (h : Inv n w) {phase : Phase}
    (hrecords : ∀ r ∈ phase.records, r ∈ w.live)
    (hwriter : ∀ g, phase.writer = some g → w.phase.writer = some g)
    (hphase : PhaseOk w phase) : Inv n (w.goto phase) := by
  refine h.keep (Or.inl rfl) rfl rfl (Subset.refl _) (Subset.refl _) (fun r hr => ?_) hwriter ?_
  · refine ⟨r, ?_, rfl, rfl⟩
    rcases mem_append.mp hr with hr | hr
    · exact mem_append_left _ hr
    · exact hrecords r hr
  · cases phase <;> exact hphase

lemma Inv.later (h : Inv n w) : Inv (n + 1) w :=
  { h with clock := fun id t ht => ⟨(h.clock id t ht).1.trans n.lt_succ_self, (h.clock id t ht).2⟩ }

end Keep

/-! ### Each step keeps the invariant -/

section Step

variable {w : World}

lemma finishPhase_cases (call : Call) (record : ActivationRecord) :
    finishPhase call record = .idle ∨ finishPhase call record = .finish record := by
  unfold finishPhase
  split
  · exact Or.inl rfl
  · exact Or.inr rfl

/-- What a call sets out to write is a record it has read, but for the Desktop note. -/
lemma setOut_records {call : Call} {previous : Option ActivationRecord} {r : ActivationRecord}
    (h : setOut call previous = .keep r ∨ setOut call previous = .retry r) :
    ∃ q, previous = some q ∧ q.desired = r.desired ∧ q.activated = r.activated := by
  unfold setOut uninstall activate at h
  cases previous with
  | none => grind
  | some q =>
    refine ⟨q, rfl, ?_⟩
    dsimp only at h
    grind

lemma inv_start_step (h : Inv w.now w) (pid : String) (supervisor : Supervisor) :
    Inv w.now (act w (.start pid supervisor)) := by
  unfold act
  dsimp only
  split
  · have hafter : ∀ id, After w id w.now := fun id t ht => (h.clock id t ht).1
    refine { h with records := ?_, fresh := ?_, phase := ?_ }
    · intro r hr
      obtain ⟨hs, ha, hl⟩ := h.records r hr
      exact ⟨hs, ha, hl⟩
    · intro id pid' p hid hp _ _
      obtain rfl := Option.some.inj hp
      exact hafter id
    · have hphase := h.phase
      cases hw : w.phase <;> rw [hw] at hphase
      case restart record oldPid =>
        intro p hp
        obtain rfl := Option.some.inj hp
        exact Or.inr (Or.inr (hafter record.desired.id))
      case check record oldPid =>
        intro p hp
        obtain rfl := Option.some.inj hp
        exact Or.inr (Or.inr (hafter record.desired.id))
      case confirm record => exact hphase
      all_goals trivial
  · exact h

lemma inv_stop (h : Inv w.now w) : Inv w.now (act w .stop) := by
  refine h.keep (Or.inr rfl) rfl rfl (Subset.refl _) (Subset.refl _)
    (fun r hr => ⟨r, hr, rfl, rfl⟩) (fun g hg => hg) ?_
  have hphase := h.phase
  unfold act
  dsimp only
  cases hw : w.phase <;> rw [hw] at hphase
  case restart record oldPid =>
    intro p hp
    cases hp
  case check record oldPid =>
    intro p hp
    cases hp
  case confirm record => exact hphase
  all_goals trivial

lemma inv_call (h : Inv w.now w) (call : Call) : Inv w.now (act w (.call call)) := by
  have hprevious : ∀ r ∈ w.record.toList, r ∈ w.live := fun r hr => mem_append_left _ hr
  unfold act
  dsimp only
  split
  · rename_i hidle
    have hwrites : ∀ r, setOut call w.record = .keep r ∨ setOut call w.record = .retry r →
        ∃ q ∈ w.live, q.desired = r.desired ∧ q.activated = r.activated := by
      intro r hr
      obtain ⟨q, hq, hdesired, hactivated⟩ := setOut_records hr
      exact ⟨q, hprevious q (by simp [hq]), hdesired, hactivated⟩
    split
    · exact h
    · rename_i record hkeep
      refine h.keep (Or.inl rfl) rfl rfl (Subset.refl _) (Subset.refl _) (fun r hr => ?_)
        (fun g hg => by cases hg) trivial
      rcases mem_append.mp hr with hr | hr
      · exact ⟨r, hprevious r hr, rfl, rfl⟩
      · rw [mem_singleton.mp hr]
        exact hwrites record (Or.inl hkeep)
    · rename_i record hretry
      refine h.keep (Or.inl rfl) rfl rfl (Subset.refl _) (Subset.refl _) (fun r hr => ?_)
        (fun g hg => by cases hg) trivial
      rcases mem_append.mp hr with hr | hr
      · exact ⟨r, hprevious r hr, rfl, rfl⟩
      · rcases mem_cons.mp hr with rfl | hr
        · exact hwrites _ (Or.inr hretry)
        · exact ⟨r, hprevious r hr, rfl, rfl⟩
    · exact h.goto (fun r hr => hprevious r hr) (fun g hg => by cases hg) trivial
  · exact h

/-- A fresh generation: nothing is written of it, and no record names it activated. -/
lemma inv_begin (h : Inv w.now w) {call : Call} {previous : Option ActivationRecord}
    {digest : String} {desktopReload writes : Bool}
    (hphase : w.phase = .begin call previous digest desktopReload writes)
    (answer : GatewaySupervision) {id : String} (hid : w.sampled id = none) :
    Inv w.now { w.observe answer with
      phase := .put call previous
        (beginGeneration call.home digest previous desktopReload id (w.shown answer)) writes
      sampled := Function.update w.sampled id (some (gatewayPid (w.shown answer))) } := by
  have hne : ∀ id', (w.sampled id').isSome → id' ≠ id := by
    rintro id' hsome rfl
    rw [hid] at hsome
    cases hsome
  have hold : ∀ r ∈ w.record.toList ++ previous.toList, r ∈ w.live := by
    intro r hr
    unfold World.live
    rw [hphase]
    exact hr
  have hactivated : ∀ r ∈ w.live, r.activated ≠ some id := by
    intro r hr ha
    exact hne id ((h.records r hr).activated id ha) rfl
  have hbegun : (previous.bind (·.activated)) ≠ some id := by
    cases previous with
    | none => simp
    | some q => exact hactivated q (hold q (by simp))
  constructor
  · intro id' t ht
    dsimp only at ht ⊢
    rw [observe_written] at ht
    obtain ⟨hlt, hsome⟩ := h.clock id' t ht
    rw [Function.update_of_ne (hne id' hsome)]
    exact ⟨hlt, hsome⟩
  · have hkeep : ∀ r ∈ w.live, RecordOk { w.observe answer with
        phase := .put call previous
          (beginGeneration call.home digest previous desktopReload id (w.shown answer)) writes
        sampled := Function.update w.sampled id (some (gatewayPid (w.shown answer))) } r := by
      intro r hr
      obtain ⟨hs, ha, hl⟩ := h.records r hr
      refine ⟨?_, fun a haa => ?_, fun hr => (hl hr).mono (by simp) (seen_observe w answer)
        (stopped_observe w answer)⟩
      · dsimp only
        rw [Function.update_of_ne (hne _ (by simp [hs]))]
        exact hs
      · dsimp only
        rw [Function.update_of_ne (hne a (ha a haa))]
        exact ha a haa
    intro r hr
    unfold World.live at hr
    dsimp only [Phase.records] at hr
    rw [observe_record] at hr
    rcases mem_append.mp hr with hr | hr
    · exact hkeep r (hold r (mem_append_left _ hr))
    · rcases mem_cons.mp hr with rfl | hr
      · refine ⟨Function.update_self _ _ _, fun a ha => ?_, fun ha => absurd ha hbegun⟩
        dsimp only
        have hsome : (w.sampled a).isSome := by
          cases previous with
          | none => cases ha
          | some q => exact (h.records q (hold q (by simp))).activated a ha
        rw [Function.update_of_ne (hne a hsome)]
        exact hsome
      · exact hkeep r (hold r (mem_append_right _ hr))
  · intro id' pid p hid' hp hmanual hre
    dsimp only at hid' hp
    rw [observe_gateway] at hp
    unfold After
    dsimp only
    rw [observe_written]
    by_cases heq : id' = id
    · subst heq
      intro t ht
      exact absurd rfl (hne id' (h.clock id' t ht).2)
    · rw [Function.update_of_ne heq] at hid'
      exact h.fresh id' pid p hid' hp hmanual hre
  · intro g hg
    cases writes with
    | false => cases hg
    | true =>
      obtain rfl := Option.some.inj hg
      refine ⟨Function.update_self _ _ _, fun r hr => ?_⟩
      unfold World.live at hr
      dsimp only [Phase.records] at hr
      rw [observe_record] at hr
      rcases mem_append.mp hr with hr | hr
      · exact hactivated r (hold r (mem_append_left _ hr))
      · rcases mem_cons.mp hr with rfl | hr
        · exact hbegun
        · exact hactivated r (hold r (mem_append_right _ hr))
  · trivial

/-- A shown status leaves the run's records as they are. -/
lemma inv_observe (h : Inv w.now w) (answer : GatewaySupervision) {phase : Phase}
    (hrecords : ∀ r ∈ phase.records, r ∈ w.live) (hwriter : phase.writer = none)
    (hphase : PhaseOk ((w.observe answer).goto phase) phase) :
    Inv w.now ((w.observe answer).goto phase) := by
  refine h.keep (Or.inl (observe_gateway w answer)) (observe_written w answer)
    (observe_sampled w answer) (seen_observe w answer) (stopped_observe w answer)
    (fun r hr => ⟨r, ?_, rfl, rfl⟩) (fun g hg => ?_) hphase
  · unfold World.live World.goto at hr
    dsimp only at hr
    rw [observe_record] at hr
    rcases mem_append.mp hr with hr | hr
    · exact mem_append_left _ hr
    · exact hrecords r hr
  · exact absurd (hwriter.symm.trans hg) (by simp)

lemma afterOutcome_cases (record : ActivationRecord) (outcome : HostOutcome) :
    outcome = .complete ∧ afterOutcome record outcome = .confirm record ∨
      afterOutcome record outcome = .idle := by
  unfold afterOutcome
  split
  · rename_i h
    exact Or.inl ⟨h, rfl⟩
  · exact Or.inr rfl

/-- The host step goes on to confirm a generation only with evidence for it. -/
lemma inv_outcome (h : Inv w.now w) (answer : GatewaySupervision) {record : ActivationRecord}
    {outcome : HostOutcome} (hlive : record ∈ w.live)
    (hloaded : outcome = .complete → Loaded (w.observe answer) record.desired.id) :
    Inv w.now ((w.observe answer).goto (afterOutcome record outcome)) := by
  rcases afterOutcome_cases record outcome with ⟨hcomplete, heq⟩ | heq
  · rw [heq]
    refine inv_observe h answer (fun r hr => ?_) rfl ?_
    · rwa [mem_singleton.mp hr]
    · exact hloaded hcomplete
  · rw [heq]
    exact inv_observe h answer (fun r hr => by cases hr) rfl trivial

lemma isSome_of_reloaded {writtenWithPid current : Option String}
    (h : reloaded writtenWithPid current = true) : current.isSome := by
  unfold reloaded at h
  rw [Bool.and_eq_true, Bool.and_eq_true] at h
  exact h.1.2

/-- The first status of a host step. -/
lemma inv_finish (h : Inv w.now w) {record : ActivationRecord} (hphase : w.phase = .finish record)
    (answer : GatewaySupervision) (id : String) : Inv w.now (statusStep w answer id) := by
  have hlive : record ∈ w.live := by
    unfold World.live
    rw [hphase]
    exact mem_append_right _ mem_cons_self
  have hsampled := (h.records record hlive).sampled
  unfold statusStep
  rw [hphase]
  dsimp only
  cases hshown : w.shown answer with
  | stopped =>
    refine inv_outcome h answer hlive (fun _ => Or.inr ⟨w.now, shown_stopped hshown, ?_⟩)
    intro t ht
    rw [observe_written] at ht
    exact (h.clock _ t ht).1
  | manual pid =>
    obtain ⟨p, hp, hmanual, hseen, hpid⟩ := shown_manual hshown
    dsimp only [activateHosts]
    by_cases hre : reloaded record.desired.gateway_pid (gatewayPid (.manual pid)) = true
    · rw [if_pos hre]
      refine inv_outcome h answer hlive (fun _ => Or.inl ⟨p, hseen, ?_⟩)
      -- the shown PID is the running process's own
      have hown : reloaded record.desired.gateway_pid (validPid (some p.pid)) = true := by
        rcases hpid with hnone | hsame
        · have hsome := isSome_of_reloaded hre
          rw [gatewayPid, hnone] at hsome
          cases hsome
        · rwa [gatewayPid, hsame] at hre
      unfold After
      rw [observe_written]
      exact h.fresh _ _ p hsampled hp hmanual hown
    · rw [if_neg hre]
      exact inv_outcome h answer hlive (fun hc => by cases hc)
  | multiplexed => exact inv_outcome h answer hlive (fun hc => by cases hc)
  | unknown => exact inv_outcome h answer hlive (fun hc => by cases hc)
  | service pid =>
    obtain ⟨p, hp, _, hpid⟩ := shown_service hshown
    dsimp only [activateHosts]
    refine inv_observe h answer (fun r hr => ?_) rfl ?_
    · rwa [mem_singleton.mp hr]
    · intro p' hp'
      have hsame : p' = p := by
        unfold World.goto at hp'
        dsimp only at hp'
        rw [observe_gateway, hp] at hp'
        exact (Option.some.inj hp').symm
      rw [hsame]
      rcases hpid with hnone | hpid
      · exact Or.inl hnone
      · exact Or.inr (Or.inl hpid)

/-- The status after a restart: another PID is another process, which started since. -/
lemma inv_check (h : Inv w.now w) {record : ActivationRecord} {oldPid : Option String}
    (hphase : w.phase = .check record oldPid) (answer : GatewaySupervision) (id : String) :
    Inv w.now (statusStep w answer id) := by
  have hlive : record ∈ w.live := by
    unfold World.live
    rw [hphase]
    exact mem_append_right _ mem_cons_self
  have hsince : PhaseOk w (.check record oldPid) := hphase ▸ h.phase
  unfold statusStep
  rw [hphase]
  dsimp only
  refine inv_outcome h answer hlive (fun hcomplete => ?_)
  unfold restartOutcome at hcomplete
  split at hcomplete
  · rename_i pid hshown
    obtain ⟨p, hp, hseen, hpid⟩ := shown_service hshown
    split at hcomplete
    · cases hcomplete
    · rename_i hdiffer
      simp only [hshown, gatewayPid, Bool.or_eq_true, Option.isNone_iff_eq_none, beq_iff_eq,
        not_or] at hdiffer
      obtain ⟨⟨hold, hnew⟩, hne⟩ := hdiffer
      refine Or.inl ⟨p, hseen, ?_⟩
      unfold After
      rw [observe_written]
      rcases hsince p hp with hnone | hsame | hafter
      · exact absurd hnone hold
      · rcases hpid with hnone | hpid
        · exact absurd hnone hnew
        · exact absurd (hpid.trans hsame.symm) hne
      · exact hafter
  · cases hcomplete

lemma inv_status (h : Inv w.now w) (answer : GatewaySupervision) (id : String) :
    Inv w.now (act w (.status answer id)) := by
  show Inv w.now (statusStep w answer id)
  cases hphase : w.phase with
  | finish record => exact inv_finish h hphase answer id
  | check record oldPid => exact inv_check h hphase answer id
  | begin call previous digest desktopReload writes =>
    unfold statusStep
    rw [hphase]
    dsimp only
    split
    · exact h
    · rename_i hid
      exact inv_begin h hphase answer (by simpa using hid)
  | _ =>
    unfold statusStep
    rw [hphase]
    exact h

/-- The record written is one the run holds, or the confirmed one. -/
lemma inv_put (h : Inv w.now w) : Inv w.now (act w .put) := by
  have hrecords : ∀ r ∈ w.phase.records, r ∈ w.live := fun r hr => mem_append_right _ hr
  unfold act
  dsimp only
  cases hphase : w.phase with
  | keep record =>
    rw [hphase] at hrecords
    refine h.keep (Or.inl rfl) rfl rfl (Subset.refl _) (Subset.refl _)
      (fun r hr => ⟨r, ?_, rfl, rfl⟩) (fun g hg => by cases hg) trivial
    exact hrecords r (by simpa [World.live, Phase.records] using hr)
  | put call previous record writes =>
    rw [hphase] at hrecords
    have hheld : ∀ r, r = record ∨ r ∈ previous.toList → r ∈ w.live :=
      fun r hr => hrecords r (by simpa [Phase.records] using hr)
    cases writes with
    | true =>
      refine h.keep (Or.inl rfl) rfl rfl (Subset.refl _) (Subset.refl _)
        (fun r hr => ⟨r, ?_, rfl, rfl⟩) (fun g hg => ?_) trivial
      · apply hheld
        simp only [World.live, if_true, Phase.records, Option.toList_some, singleton_append,
          mem_cons] at hr
        rcases hr with hr | hr | hr
        · exact Or.inl hr
        · exact Or.inl hr
        · exact Or.inr hr
      · rw [hphase]
        exact hg
    | false =>
      refine h.keep (Or.inl rfl) rfl rfl (Subset.refl _) (Subset.refl _)
        (fun r hr => ⟨r, ?_, rfl, rfl⟩) (fun g hg => ?_) ?_
      · apply hheld
        left
        rcases finishPhase_cases call record with heq | heq <;>
          simpa [World.live, Phase.records, heq] using hr
      · rcases finishPhase_cases call record with heq | heq <;>
          simp [Phase.writer, heq] at hg
      · rcases finishPhase_cases call record with heq | heq <;> simp [PhaseOk, heq]
  | confirm record =>
    have hloaded : Loaded w record.desired.id := by
      have hp := h.phase
      rwa [hphase] at hp
    have hok := h.records record (hrecords record (by rw [hphase]; exact mem_cons_self))
    refine { h with records := ?_, writing := ?_, phase := trivial }
    · intro r hr
      have hr' : r = { record with activated := some record.desired.id } := by
        unfold World.live confirmed at hr
        dsimp only [Phase.records] at hr
        split at hr
        · cases hr
        · simpa using hr
      rw [hr']
      refine ⟨hok.sampled, fun a ha => ?_, fun _ => hloaded⟩
      obtain rfl : record.desired.id = a := Option.some.inj ha
      rw [hok.sampled]
      rfl
    · intro g hg
      cases hg
  | _ => exact h

/-- A managed write: the generation written is pending in every record, and no hand-started
gateway counts as restarted since it began. -/
lemma inv_writeStep (h : Inv w.now w) (hc : WriteInTime w .write) {g : Generation}
    {record : ActivationRecord} (hg : w.phase.writer = some g) (hrecord : record.desired = g)
    (hphase : PhaseOk (writeStep w record) w.phase) : Inv (w.now + 1) (writeStep w record) := by
  obtain ⟨hsampled, hpending⟩ := h.writing g hg
  subst hrecord
  have hother : ∀ id, id ≠ record.desired.id → (writeStep w record).written id = w.written id :=
    fun id hne => Function.update_of_ne hne _ _
  constructor
  · intro id t ht
    by_cases heq : id = record.desired.id
    · subst heq
      obtain rfl : w.now = t := by
        simpa [writeStep] using ht
      have hsome : (w.sampled record.desired.id).isSome := by
        rw [hsampled]
        rfl
      exact ⟨Nat.lt_succ_self _, hsome⟩
    · rw [hother id heq] at ht
      obtain ⟨hlt, hsome⟩ := h.clock id t ht
      exact ⟨hlt.trans (Nat.lt_succ_self _), hsome⟩
  · intro r hr
    obtain ⟨hs, ha, hl⟩ := h.records r hr
    refine ⟨hs, ha, fun hactivated => ?_⟩
    have hne : r.desired.id ≠ record.desired.id := by
      intro heq
      exact hpending r hr (hactivated.trans (congrArg some heq))
    exact (hl hactivated).mono (hother _ hne) (Subset.refl _) (Subset.refl _)
  · intro id pid p hid hp hmanual hre
    by_cases heq : id = record.desired.id
    · subst heq
      obtain rfl : pid = record.desired.gateway_pid :=
        Option.some.inj (hid.symm.trans hsampled)
      have hnot := hc rfl record.desired hg p hp hmanual
      rw [hnot] at hre
      cases hre
    · unfold After
      rw [hother id heq]
      exact h.fresh id pid p hid hp hmanual hre
  · exact h.writing
  · exact hphase

lemma inv_write (h : Inv w.now w) (hc : WriteInTime w .write) :
    Inv (w.now + 1) (act w .write) := by
  unfold act
  dsimp only
  cases hphase : w.phase with
  | writing call previous record =>
    exact inv_writeStep h hc (by rw [hphase]; rfl) rfl (by rw [hphase]; trivial)
  | rollback previous record =>
    exact inv_writeStep h hc (by rw [hphase]; rfl) rfl (by rw [hphase]; trivial)
  | _ => exact h.later

lemma inv_done (h : Inv w.now w) : Inv w.now (act w .done) := by
  unfold act
  dsimp only
  cases hphase : w.phase with
  | writing call previous record =>
    dsimp only
    have hlive : record ∈ w.live := by
      unfold World.live
      rw [hphase]
      exact mem_append_right _ mem_cons_self
    rcases finishPhase_cases call record with heq | heq <;> rw [heq]
    · exact h.goto (fun r hr => by cases hr) (fun g hg => by cases hg) trivial
    · exact h.goto (fun r hr => mem_singleton.mp hr ▸ hlive) (fun g hg => by cases hg) trivial
  | _ => exact h

lemma inv_fail (h : Inv w.now w) : Inv w.now (act w .fail) := by
  unfold act
  dsimp only
  cases hphase : w.phase with
  | writing call previous record =>
    refine h.goto (fun r hr => ?_) (fun g hg => ?_) trivial
    · unfold World.live
      rw [hphase]
      exact mem_append_right _ hr
    · rw [hphase]
      exact hg
  | _ => exact h

lemma inv_idle (h : Inv w.now w) : Inv w.now (w.goto .idle) :=
  h.goto (fun r hr => by cases hr) (fun g hg => by cases hg) trivial

/-- A complete rollback puts the previous record back. -/
lemma inv_restore (h : Inv w.now w) (complete : Bool) : Inv w.now (act w (.restore complete)) := by
  unfold act
  dsimp only
  cases hphase : w.phase with
  | rollback previous record =>
    dsimp only
    split
    · refine h.keep (Or.inl rfl) rfl rfl (Subset.refl _) (Subset.refl _)
        (fun r hr => ⟨r, ?_, rfl, rfl⟩) (fun g hg => by cases hg) trivial
      unfold World.live at hr ⊢
      rw [hphase]
      dsimp only [Phase.records] at hr ⊢
      rw [append_nil] at hr
      exact mem_append_right _ (mem_cons_of_mem _ hr)
    · exact inv_idle h
  | _ => exact h

lemma inv_restarted (h : Inv w.now w) (succeeded : Bool) :
    Inv w.now (act w (.restarted succeeded)) := by
  unfold act
  dsimp only
  cases hphase : w.phase with
  | restart record oldPid =>
    dsimp only
    split
    · have hsince : PhaseOk w (.restart record oldPid) := hphase ▸ h.phase
      refine h.goto (fun r hr => ?_) (fun g hg => by cases hg) hsince
      unfold World.live
      rw [hphase]
      exact mem_append_right _ hr
    · exact inv_idle h
  | _ => exact h

/-- Every step keeps the invariant, if it is no write under a gateway that would count as
restarted. -/
lemma inv_step (w : World) (a : Act) (h : Inv w.now w) (hc : WriteInTime w a) :
    Inv (step w a).now (step w a) := by
  have hact : Inv (w.now + 1) (act w a) := by
    cases a with
    | start pid supervisor => exact (inv_start_step h pid supervisor).later
    | stop => exact (inv_stop h).later
    | call call => exact (inv_call h call).later
    | status answer id => exact (inv_status h answer id).later
    | put => exact (inv_put h).later
    | write => exact inv_write h hc
    | done => exact (inv_done h).later
    | fail => exact (inv_fail h).later
    | restore complete => exact (inv_restore h complete).later
    | restarted succeeded => exact (inv_restarted h succeeded).later
    | crash => exact (inv_idle h).later
  obtain ⟨hclock, hrecords, hfresh, hwriting, hphase⟩ := hact
  refine ⟨hclock, fun r hr => ?_, hfresh, hwriting, ?_⟩
  · obtain ⟨hs, ha, hl⟩ := hrecords r hr
    exact ⟨hs, ha, hl⟩
  · show PhaseOk (step w a) (act w a).phase
    cases hp : (act w a).phase <;> rw [hp] at hphase <;> exact hphase

end Step

/-! ### Main results -/

/-- A confirmed generation is loaded. In every run whose managed writes meet no hand-started
gateway with a PID other than the one sampled when the generation began, a record that names
its desired generation as activated has its evidence: a gateway that started after the last
managed write of that generation, or none running after it. -/
theorem activation_holds (acts : List Act) (hm : Meets step WriteInTime World.start acts) :
    ActivationHolds (run step World.start acts) := by
  have hinv : Inv (run step World.start acts).now (run step World.start acts) :=
    invariant_of_meets step (fun w => Inv w.now w) inv_step inv_start hm
  intro record hrecord hactivated
  refine (hinv.records record ?_).loaded hactivated
  unfold World.live
  rw [hrecord]
  exact mem_append_left _ mem_cons_self

/-! ### An install beside a hand-started gateway -/

def installedId : String := "10000000-0000-4000-8000-000000000001"

/-- A first install. -/
def firstInstall : Call where
  uninstall := false
  home := "/home/agent/.hermes"
  state := .absent
  inPlace := false
  digest := "5891b5b522d5df086d0ff0b110fbd9d21bb4fc7163af34d08286a2e846f6be03"
  mcpChanged := false
  dryRun := false
  noRestart := false
  mayCreate := true

/-- The operator restarts the gateway by hand once the files are written. -/
def restartedAfter : List Act :=
  [.start "100" .manual, .call firstInstall, .status (.manual (some "100")) installedId, .put,
    .write, .done, .stop, .start "200" .manual, .status (.manual (some "200")) "", .put]

/-- The operator restarts it between the sample and the first write. -/
def restartedBefore : List Act :=
  [.start "100" .manual, .call firstInstall, .status (.manual (some "100")) installedId, .put,
    .stop, .start "200" .manual, .write, .done, .status (.manual (some "200")) "", .put]

def confirmedRecord : ActivationRecord where
  hermes_home := firstInstall.home
  desired := ⟨installedId, firstInstall.digest, some "100"⟩
  activated := some installedId
  desktop_reload := false

theorem activation_holds_after :
    (run step World.start restartedAfter).record = some confirmedRecord ∧
      Loaded (run step World.start restartedAfter) installedId := by
  have hrecord : (run step World.start restartedAfter).record = some confirmedRecord := by
    decide +kernel
  exact ⟨hrecord, activation_holds restartedAfter (by decide +kernel) confirmedRecord hrecord rfl⟩

/-- Restarted before the write, the gateway has the old files, and is confirmed to have loaded
the new ones. -/
theorem activation_confirms_unloaded :
    ¬ ∀ acts, (startedPids acts).Nodup → ActivationHolds (run step World.start acts) := by
  intro h
  have hrecord : (run step World.start restartedBefore).record = some confirmedRecord := by
    decide +kernel
  have hwritten : (run step World.start restartedBefore).written installedId = some 6 := by
    decide +kernel
  have hseen : ∀ p ∈ (run step World.start restartedBefore).seen, p.started ≤ 5 := by
    decide +kernel
  have hstopped : (run step World.start restartedBefore).stopped = [] := by
    decide +kernel
  rcases h restartedBefore (by decide) confirmedRecord hrecord rfl with
    ⟨p, hp, hafter⟩ | ⟨t, ht, _⟩
  · have hlt := hafter 6 hwritten
    have hle := hseen p hp
    omega
  · rw [hstopped] at ht
    cases ht

end BorgClient.Hermes
