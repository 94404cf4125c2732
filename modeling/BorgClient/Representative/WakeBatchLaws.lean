import BorgClient.Representative.WakeBatches

/-!
# The wake accounts hold

Every step of the listener's world keeps the stored wake state in agreement with the accounts of
its batches, whatever the host answers and wherever the listener dies.
-/

namespace BorgClient.Representative
open Platform List Tables Runs

/-! ### Steps of the world -/

section World

variable [Platform] {binding : RepresentativeBinding} {posted : Uuid → Instant} {w : WakeWorld}

/-- The event of a wake names a batch that is in the accounts, with its size. -/
def WakeWorld.Persisted (w : WakeWorld) (wake : WakeEmission) : Prop :=
  ∃ b ∈ w.batches, b.stored.batch = wake.wake_id ∧ b.stored.replies.length = wake.count

/-- The store holds a valid wake state that agrees with the accounts; a wake still to be
written is the stored batch. -/
structure Accounted (binding : RepresentativeBinding) (posted : Uuid → Instant)
    (w : WakeWorld) (s : WakeState) : Prop where
  holds : Holds binding w.db s
  accounts : Accounts posted w.clock w.batches w.answers s
  pending : ∀ wake, w.pending = some wake → ∃ o, s.document.outstanding = some o ∧
    o.batch = wake.wake_id ∧ o.replies.length = wake.count
  events : ∀ wake ∈ w.events, w.Persisted wake

lemma Holds.storedOutstanding {db : Db} {s : WakeState} (h : Holds binding db s) :
    storedOutstanding binding db = s.document.outstanding := by
  unfold Representative.storedOutstanding
  rw [h.document]

omit [Platform] in
/-- An answer changes no batch as it was stored. -/
lemma persisted_answered {wake : WakeEmission} {now : ℕ} {wake_id : Uuid} {accepted : Bool}
    {batches : List Batch}
    (h : ∃ b ∈ batches, b.stored.batch = wake.wake_id ∧ b.stored.replies.length = wake.count) :
    ∃ b ∈ answeredBatches now wake_id accepted batches,
      b.stored.batch = wake.wake_id ∧ b.stored.replies.length = wake.count := by
  obtain ⟨b, hb, hwake⟩ := h
  refine ⟨_, mem_map_of_mem hb, ?_⟩
  split <;> exact hwake

/-- Only a tick wakes the host. -/
lemma not_wake {db : Db} {fresh : Uuid} {c : EngineCall} (hc : ∀ now batch, c ≠ .tick now batch)
    (wake : Option WakeEmission) : (engineCall binding db fresh c).1 ≠ .wake wake := by
  have hof : ∀ {α : Type} {answer : α → EngineOutcome} (r : Except RepresentativeError α),
      (∀ a, answer a ≠ .wake wake) → EngineOutcome.of answer r ≠ .wake wake := by
    intro α answer r hanswer
    cases r with
    | ok a => exact hanswer a
    | error e => exact fun h => by cases h
  unfold engineCall
  cases c with
  | tick now batch => exact absurd rfl (hc now batch)
  | ack now line =>
    dsimp only
    split
    · exact fun h => by cases h
    · exact hof _ (fun a h => by cases h)
  | merge now epoch entries more => exact hof _ (fun a h => by cases h)
  | captureStart => exact hof _ (fun a h => by cases h)
  | capturePersist epoch count => exact hof _ (fun a h => by cases h)

lemma woken_other {outcome : EngineOutcome} (h : ∀ wake, outcome ≠ .wake wake) :
    WakeWorld.woken binding w outcome = w := by
  unfold WakeWorld.woken
  split
  · exact absurd rfl (h _)
  · rfl

lemma length_heard (w : WakeWorld) (line : AckLine) :
    (w.heard line).batches.length = w.batches.length := by
  unfold WakeWorld.heard
  split
  · rfl
  · split
    · exact length_map _
    · rfl

omit [Platform] in
lemma floor_le_advanced (d : DeliveryState) (p : LocalServerCursor) :
    d.floor ≤ (advanced d p).floor := by
  cases hc : d.checkpoint with
  | none =>
    rw [floor_of_none hc]
    exact start_le_floor (advanced d p)
  | some c =>
    have hnext : (advanced d p).checkpoint = some (max c p) := by
      show later d.checkpoint (some p) = _
      rw [hc, later_some]
    rw [floor_of_some hc, floor_of_some hnext]
    exact max_le_max le_rfl (le_max_left c p)

lemma Holds.deliveryWritten {db db' : Db} {s : WakeState} {next : DeliveryState}
    (h : Holds binding db s) (hw : DeliveryWritten db db' (bindingFingerprint binding) next) :
    Holds binding db' { s with
      delivery := some { next with returned := sortPoints next.returned }
      rows := s.rows.delete (deliveredRow next.checkpoint) } where
  current := by
    have hcurrent := h.current
    unfold requireCurrentGeneration at hcurrent ⊢
    rwa [currentBindingRow_congr hw.bindings]
  delivery := hw.loaded
  document := by
    have hdocument := h.document
    unfold loadDocument at hdocument ⊢
    rwa [hw.wake_state]
  rows := by rw [hw.wake_replies, h.rows]
  valid := fun row hrow => h.valid row (Table.mem_delete.mp hrow).1

namespace Accounted

variable {s : WakeState}

lemma persisted (h : Accounted binding posted w s) {wake : WakeEmission}
    (hp : w.pending = some wake) : w.Persisted wake := by
  obtain ⟨o, ho, hwake⟩ := h.pending wake hp
  obtain ⟨rest, hb⟩ := h.accounts.current o ho
  exact ⟨⟨o, none⟩, hb ▸ mem_cons_self, hwake⟩

/-- A transaction that wakes nobody and answers nothing. -/
lemma silent (h : Accounted binding posted w s) (hp : w.pending = none) {db : Db} {s' : WakeState}
    (hholds : Holds binding db s') (ha : Accounts posted w.clock w.batches w.answers s') :
    Accounted binding posted { w with db := db } s' where
  holds := hholds
  accounts := ha
  pending := by
    intro wake hwake
    rw [show w.pending = some wake from hwake] at hp
    cases hp
  events := h.events

lemma tick (h : Accounted binding posted w s) (hp : w.pending = none) (fresh batch : Uuid) :
    ∃ s', Accounted binding posted (WakeWorld.woken binding
      { w with db := (engineCall binding w.db fresh (.tick w.clock batch)).2 }
      (engineCall binding w.db fresh (.tick w.clock batch)).1) s' ∧
    ((engineCall binding w.db fresh (.tick w.clock batch)).1 = .wake none ∨
      ∀ b ∈ w.batches, b.over w.clock) := by
  obtain ⟨db, hcall, hholds⟩ := h.holds.call fresh (.tick w.clock batch)
  rw [hcall]
  dsimp only [WakeState.call, Prod.map, id] at hholds ⊢
  rcases h.accounts.tick batch with ⟨hnone, hnext⟩ | ⟨wake, o, hsome, hover, ho, hbatch, hlen, hnext⟩
  · rw [hnone]
    exact ⟨_, h.silent hp hholds hnext, Or.inl rfl⟩
  · rw [hsome]
    refine ⟨(s.tick w.clock batch).2, ?_, Or.inr hover⟩
    unfold WakeWorld.woken
    dsimp only
    rw [hholds.storedOutstanding, ho]
    refine ⟨hholds, hnext, ?_, ?_⟩
    · intro wake' hwake'
      obtain rfl : wake = wake' := Option.some.inj hwake'
      exact ⟨o, ho, hbatch, hlen⟩
    · intro wake' hwake'
      obtain ⟨b, hb, hb'⟩ := h.events wake' hwake'
      exact ⟨b, mem_cons_of_mem _ hb, hb'⟩

lemma ack (h : Accounted binding posted w s) (hp : w.pending = none) (fresh : Uuid)
    (line : AckLine) : ∃ s', Accounted binding posted
        { w.heard line with db := (engineCall binding w.db fresh (.ack w.clock line)).2 } s' := by
  obtain ⟨db, hcall, hholds⟩ := h.holds.call fresh (.ack w.clock line)
  rw [hcall]
  dsimp only [WakeState.call] at hholds ⊢
  unfold WakeWorld.heard
  cases hparse : parseAck line with
  | none =>
    rw [hparse] at hholds
    exact ⟨s, h.silent hp hholds h.accounts⟩
  | some parsed =>
    rw [hparse] at hholds
    dsimp only [Prod.map, id] at hholds ⊢
    refine ⟨(s.ack w.clock parsed.1 parsed.2).2, ?_⟩
    rcases h.accounts.ack parsed.1 parsed.2 with ⟨hany, hnext⟩ | ⟨hany, hnext⟩
    · rw [hany, if_neg Bool.false_ne_true]
      exact h.silent hp hholds hnext
    · rw [hany, if_pos rfl]
      refine ⟨hholds, hnext, ?_, ?_⟩
      · intro wake hwake
        rw [show w.pending = some wake from hwake] at hp
        cases hp
      · exact fun wake hwake => persisted_answered (h.events wake hwake)

/-- A page or a probe. -/
lemma other (h : Accounted binding posted w s) (hp : w.pending = none) (fresh : Uuid)
    {c : EngineCall} (ha : Accounts posted w.clock w.batches w.answers (s.call binding c).2) :
    Accounted binding posted { w with db := (engineCall binding w.db fresh c).2 }
      (s.call binding c).2 := by
  obtain ⟨db, hcall, hholds⟩ := h.holds.call fresh c
  rw [hcall]
  exact h.silent hp hholds ha

/-- A new batch is persisted only when every one before it is over. -/
lemma call (h : Accounted binding posted w s) (fresh : Uuid) {c : EngineCall}
    (hlog : (WakeStep.call fresh c).ofLog posted) : ∃ s',
      Accounted binding posted (wakeStep binding w (.call fresh c)) s' ∧
      (w.batches.length < (wakeStep binding w (.call fresh c)).batches.length →
        ∀ b ∈ w.batches, b.over w.clock) := by
  unfold wakeStep
  dsimp only
  by_cases henabled : w.enabled c = true
  · rw [if_pos henabled]
    unfold WakeWorld.enabled at henabled
    rw [Bool.and_eq_true, Option.isNone_iff_eq_none] at henabled
    obtain ⟨hp, hinstant⟩ := henabled
    cases c with
    | tick now batch =>
      obtain rfl : now = w.clock := by simpa [EngineCall.instant] using hinstant
      obtain ⟨s', hnext, hnone | hover⟩ := h.tick hp fresh batch
      · refine ⟨s', hnext, ?_⟩
        rw [hnone]
        exact fun hlt => absurd hlt (lt_irrefl _)
      · exact ⟨s', hnext, fun _ => hover⟩
    | ack now line =>
      obtain rfl : now = w.clock := by simpa [EngineCall.instant] using hinstant
      obtain ⟨s', hnext⟩ := h.ack hp fresh line
      rw [woken_other (not_wake (fun _ _ h => by cases h))]
      refine ⟨s', hnext, fun hlt => absurd hlt (not_lt.mpr (le_of_eq ?_))⟩
      exact length_heard w line
    | merge now epoch entries more =>
      obtain rfl : now = w.clock := by simpa [EngineCall.instant] using hinstant
      have hnext := h.other hp fresh (c := .merge w.clock epoch entries more)
        (h.accounts.merge binding epoch hlog more)
      rw [woken_other (not_wake (fun _ _ h => by cases h))]
      exact ⟨_, hnext, fun hlt => absurd hlt (lt_irrefl _)⟩
    | captureStart =>
      have hnext := h.other hp fresh (c := .captureStart) h.accounts
      rw [woken_other (not_wake (fun _ _ h => by cases h))]
      exact ⟨_, hnext, fun hlt => absurd hlt (lt_irrefl _)⟩
    | capturePersist epoch count =>
      have hnext := h.other hp fresh (c := .capturePersist epoch count)
        (h.accounts.capturePersist epoch count)
      rw [woken_other (not_wake (fun _ _ h => by cases h))]
      exact ⟨_, hnext, fun hlt => absurd hlt (lt_irrefl _)⟩
  · rw [if_neg henabled]
    exact ⟨s, h, fun hlt => absurd hlt (lt_irrefl _)⟩

/-- A write of the delivery state that does not move the floor back. -/
lemma deliveryWritten (h : Accounted binding posted w s) {db : Db} {d next : DeliveryState}
    (hd : loadDelivery w.db (bindingFingerprint binding) = some d)
    (hw : DeliveryWritten w.db db (bindingFingerprint binding) next)
    (hkind : next.startKind = d.startKind) (hfloor : d.floor ≤ next.floor) :
    ∃ s', Accounted binding posted { w with db := db } s' := by
  refine ⟨_, h.holds.deliveryWritten hw, ?_, h.pending, h.events⟩
  exact h.accounts.written (h.holds.delivery.symm.trans hd) hkind hfloor

lemma widen (h : Accounted binding posted w s) (window : List LocalServerCursor) :
    ∃ s', Accounted binding posted (wakeStep binding w (.widen window)) s' := by
  unfold wakeStep transact widenTransaction
  dsimp only
  rw [h.holds.current]
  dsimp only
  cases hw : widenReadWindow w.db (bindingFingerprint binding) window with
  | error e => exact ⟨s, h⟩
  | ok db =>
    unfold widenReadWindow at hw
    split at hw
    · rename_i before last hload _
      exact h.deliveryWritten hload (write_written hload (by rfl) (by rfl) hw) rfl le_rfl
    · cases hw
      exact ⟨s, h⟩

lemma deliver (h : Accounted binding posted w s) (point : LocalServerCursor) :
    ∃ s', Accounted binding posted (wakeStep binding w (.deliver point)) s' := by
  unfold wakeStep
  dsimp only
  rcases deliverTransaction_cases w.db binding point with hsame | ⟨_, _, _, _, _, _, _, _, hadv⟩
  · rw [hsame]
    exact ⟨s, h⟩
  · unfold advanceCheckpoint at hadv
    split at hadv
    · cases hadv
    · rename_i before hload
      cases hw : write w.db (bindingFingerprint binding) (advanced before point) with
      | error e => simp [hw, Except.map] at hadv
      | ok db =>
        simp only [hw, Except.map, Except.ok.injEq, Prod.mk.injEq] at hadv
        rw [← hadv.2]
        exact h.deliveryWritten hload (write_written hload (by rfl) (by rfl) hw) rfl
          (floor_le_advanced before point)

/-- With the delivery start resolved, a restart only loses the event not yet written. -/
lemma restart (h : Accounted binding posted w s) (head : ServerHead) :
    Accounted binding posted (wakeStep binding w (.restart head)) s := by
  obtain ⟨d, hd, hresolved⟩ := h.accounts.resolved
  have hload : loadDelivery w.db (bindingFingerprint binding) = some d := h.holds.delivery.trans hd
  obtain ⟨row, hrow, hrowd⟩ := Option.map_eq_some_iff.mp hload
  have hensure : (transact w.db (ensureRow binding)).2 = w.db := by
    rcases ensureRow_cases w.db binding with hdb | ⟨hnone, _⟩
    · exact hdb
    · rw [hrow] at hnone
      cases hnone
  have hresolve : (transact w.db (resolveHead binding head)).2 = w.db := by
    rcases resolveHead_cases w.db binding head with hdb | ⟨row', _, _, _, hrow', hpending, _⟩
    · exact hdb
    · obtain rfl : row = row' := Option.some.inj (hrow.symm.trans hrow')
      exact absurd (by rw [← hrowd]; exact hpending) hresolved
  unfold wakeStep
  dsimp only
  rw [hensure, hresolve]
  refine ⟨h.holds, h.accounts, ?_, h.events⟩
  intro wake hwake
  cases hwake

lemma emit (h : Accounted binding posted w s) :
    Accounted binding posted (wakeStep binding w .emit) s := by
  unfold wakeStep
  dsimp only
  cases hp : w.pending with
  | none => exact h
  | some wake =>
    refine ⟨h.holds, h.accounts, ?_, ?_⟩
    · intro wake' hwake'
      cases hwake'
    · intro wake' hwake'
      rcases mem_cons.mp hwake' with rfl | hold
      · exact h.persisted hp
      · exact h.events wake' hold

lemma step (h : Accounted binding posted w s) {l : WakeStep} (hlog : l.ofLog posted) : ∃ s',
    Accounted binding posted (wakeStep binding w l) s' := by
  cases l with
  | pass ms => exact ⟨s, h.holds, h.accounts.pass ms, h.pending, h.events⟩
  | call fresh c =>
    obtain ⟨s', hnext, _⟩ := h.call fresh hlog
    exact ⟨s', hnext⟩
  | emit => exact ⟨s, h.emit⟩
  | widen window => exact h.widen window
  | deliver point => exact h.deliver point
  | restart head => exact ⟨s, h.restart head⟩

/-- Only an engine call adds a batch, and only when every batch before it is over. -/
lemma over_of_grows (h : Accounted binding posted w s) {l : WakeStep} (hlog : l.ofLog posted)
    (hgrows : w.batches.length < (wakeStep binding w l).batches.length) :
    ∀ b ∈ w.batches, b.over w.clock := by
  cases l with
  | call fresh c =>
    obtain ⟨_, _, hover⟩ := h.call fresh hlog
    exact hover hgrows
  | emit =>
    refine absurd hgrows ?_
    unfold wakeStep
    dsimp only
    cases w.pending <;> exact lt_irrefl _
  | _ => exact absurd hgrows (lt_irrefl _)

end Accounted

/-- The wake state of a generation nothing was merged into, with its delivery start resolved. -/
structure FreshWake (binding : RepresentativeBinding) (db : Db) : Prop where
  current : requireCurrentGeneration db binding = .ok (bindingFingerprint binding)
  document : db.wake_state (bindingFingerprint binding) = none
  rows : (db.wake_replies (bindingFingerprint binding)).rows = []
  resolved : ∃ d, loadDelivery db (bindingFingerprint binding) = some d ∧
    d.startKind ≠ .headPending

lemma FreshWake.accounted {db : Db} (h : FreshWake binding db) (posted : Uuid → Instant)
    (clock : ℕ) : ∃ s, Accounted binding posted (.start db clock) s := by
  obtain ⟨d, hd, hresolved⟩ := h.resolved
  have hnone : ∀ row, row ∉ db.wake_replies (bindingFingerprint binding) := by
    intro row hrow
    rw [Table.mem_def, h.rows] at hrow
    cases hrow
  refine ⟨⟨some d, emptyDocument, db.wake_replies (bindingFingerprint binding)⟩,
    ⟨h.current, hd, ?_, rfl, ?_⟩, ⟨⟨d, rfl, hresolved⟩, ?_, ?_, ?_, ?_, rfl, ?_, ?_, ?_⟩, ?_, ?_⟩
  · show loadDocument db (bindingFingerprint binding) = .ok emptyDocument
    unfold loadDocument
    rw [h.document]
  · exact fun row hrow => absurd hrow (hnone row)
  · intro o ho
    cases ho
  · exact fun _ b hb => absurd hb not_mem_nil
  · exact fun b hb => absurd hb not_mem_nil
  · exact fun b hb => absurd hb not_mem_nil
  · exact fun row hrow => absurd hrow (hnone row)
  · exact fun row hrow => absurd hrow (hnone row)
  · exact fun _ _ b hb => absurd hb not_mem_nil
  · intro wake hwake
    cases hwake
  · exact fun wake hwake => absurd hwake not_mem_nil

lemma accounted_run {s : WakeState} (h : Accounted binding posted w s) {ls : List WakeStep}
    (hls : ∀ l ∈ ls, l.ofLog posted) : ∃ s', Accounted binding posted (run (wakeStep binding) w ls) s' := by
  induction ls generalizing w s with
  | nil => exact ⟨s, h⟩
  | cons l ls ih =>
    obtain ⟨s', hnext⟩ := h.step (hls l mem_cons_self)
    exact ih hnext (fun l hl => hls l (mem_cons_of_mem _ hl))

omit [Platform] in
/-- Of the accounts of a state all but the newest batch are over. -/
lemma length_open_le_one {clock : ℕ} {batches : List Batch}
    (h : ∀ b ∈ batches.tail, b.over clock) :
    (batches.filter (fun b => !b.over clock)).length ≤ 1 := by
  cases batches with
  | nil => exact Nat.zero_le 1
  | cons b rest =>
    have hrest : rest.filter (fun b => !b.over clock) = [] := by
      rw [filter_eq_nil_iff]
      intro old hold
      simpa using h old hold
    rw [filter_cons, hrest]
    split <;> simp

/-- In every run from a fresh wake state over the pages of one log, with ack lines of any kind,
deliveries and restarts at any point: at most one batch is outstanding, and the stored one is
it; a batch is persisted only when every one before it was accepted, refused in time, or has its
deadline behind it; the attempts of a reply row are the persisted batches with it less those
refused in time; the refusal count is that of the refusals since the last accept; and every
event `emit` was or is about to be called with is of a batch persisted before. -/
theorem wake_batches_accounted {db : Db} (h : FreshWake binding db) (clock : ℕ)
    (posted : Uuid → Instant) (ls : List WakeStep) (hls : ∀ l ∈ ls, l.ofLog posted) :
    (let w := run (wakeStep binding) (.start db clock) ls
    (w.batches.filter (fun b => !b.over w.clock)).length ≤ 1 ∧
    (∀ o, storedOutstanding binding w.db = some o → w.batches.head? = some ⟨o, none⟩) ∧
    (storedOutstanding binding w.db = none → ∀ b ∈ w.batches, b.over w.clock) ∧
    (∀ l : WakeStep, l.ofLog posted →
      w.batches.length < (wakeStep binding w l).batches.length → ∀ b ∈ w.batches, b.over w.clock) ∧
    (∀ row ∈ w.db.wake_replies (bindingFingerprint binding),
      (row.attempts : ℤ) = batchesWith row.entry_id w.batches - refusalsWith row.entry_id w.batches) ∧
    (∃ doc, loadDocument w.db (bindingFingerprint binding) = .ok doc ∧
      doc.refusals.count = refusalsSince w.answers) ∧
    (∀ wake ∈ w.pending.toList ++ w.events, w.Persisted wake)) := by
  obtain ⟨_, hstart⟩ := h.accounted posted clock
  obtain ⟨s, hs⟩ := accounted_run hstart hls
  dsimp only
  refine ⟨length_open_le_one hs.accounts.earlier, ?_, ?_, ?_, ?_, ?_, ?_⟩
  · intro o ho
    rw [hs.holds.storedOutstanding] at ho
    obtain ⟨rest, hb⟩ := hs.accounts.current o ho
    rw [hb, head?_cons]
  · intro ho
    rw [hs.holds.storedOutstanding] at ho
    exact hs.accounts.idle ho
  · intro l hl hgrows
    exact hs.over_of_grows hl hgrows
  · intro row hrow
    rw [hs.holds.rows] at hrow
    have hattempts := hs.accounts.attempts row hrow
    omega
  · exact ⟨s.document, hs.holds.document, hs.accounts.refusals⟩
  · intro wake hwake
    rcases mem_append.mp hwake with hp | hevent
    · exact hs.persisted (Option.mem_toList.mp hp)
    · exact hs.events wake hevent

end World

section Bound

attribute [local instance] plainPlatform

/-- The bound worktree with its delivery start at the binding. -/
def wakeDb : Db :=
  { boundDb ⟨[], nodup_nil⟩ with
    delivery := ⟨[⟨bindingFingerprint boundBinding, seatKey boundBinding, bindingStart boundBinding,
      .binding, none, none⟩], nodup_singleton _⟩ }

lemma freshWake_bound : FreshWake boundBinding wakeDb where
  current := by decide +kernel
  document := rfl
  rows := rfl
  resolved := ⟨⟨bindingStart boundBinding, .binding, none, none, []⟩, by decide +kernel, by decide⟩

/-- One reply is found and a batch persisted for it. -/
def persistedOne : List WakeStep :=
  [.call "fresh" (.merge 0 none [firstReply] false), .pass 2000,
    .call "fresh" (.tick 2000 "30000000-0000-4000-8000-000000000003")]

/-- A refusing line for the batch `wake_id`. -/
def refuseLine (wake_id : Uuid) : AckLine :=
  ⟨70, some [("wake_id", .text wake_id), ("accepted", .boolean false)]⟩

/-- The host refuses the batch, the reply wakes it again, and the listener dies. -/
def refusedOnce : List WakeStep :=
  persistedOne ++ [.emit,
    .call "fresh" (.ack 2000 (refuseLine "30000000-0000-4000-8000-000000000003")), .pass 30000,
    .call "fresh" (.tick 32000 "30000000-0000-4000-8000-000000000004"), .restart .empty]

/-- Two batches with the reply, one of them refused. -/
theorem wake_batches_accounted_refused :
    ∃ row ∈ (run (wakeStep boundBinding) (.start wakeDb 0) refusedOnce).db.wake_replies
        (bindingFingerprint boundBinding), row.attempts = 1 ∧
      (row.attempts : ℤ) =
        batchesWith row.entry_id (run (wakeStep boundBinding) (.start wakeDb 0) refusedOnce).batches -
          refusalsWith row.entry_id
            (run (wakeStep boundBinding) (.start wakeDb 0) refusedOnce).batches := by
  have hlog : ∀ l ∈ refusedOnce, l.ofLog (fun _ => firstReply.created_at) := by
    simp [refusedOnce, persistedOne, WakeStep.ofLog]
  obtain ⟨_, _, _, _, hattempts, _⟩ :=
    wake_batches_accounted freshWake_bound 0 (fun _ => firstReply.created_at) refusedOnce hlog
  have hrow : ∃ row ∈ ((run (wakeStep boundBinding) (.start wakeDb 0) refusedOnce).db.wake_replies
      (bindingFingerprint boundBinding)).rows, row.attempts = 1 := by
    decide +kernel
  obtain ⟨row, hrow, hone⟩ := hrow
  exact ⟨row, hrow, hone, hattempts row hrow⟩

/-- A listener that dies between the commit and the event leaves an attempt of a batch `emit` was
never called with. -/
theorem unwritten_wake_counted :
    ∃ row ∈ ((run (wakeStep boundBinding) (.start wakeDb 0)
        (persistedOne ++ [.restart .empty])).db.wake_replies (bindingFingerprint boundBinding)).rows,
      (row.attempts : ℤ) ≠
        batchesWith row.entry_id ((run (wakeStep boundBinding) (.start wakeDb 0)
          (persistedOne ++ [.restart .empty])).batches.filter (fun b =>
            (run (wakeStep boundBinding) (.start wakeDb 0)
              (persistedOne ++ [.restart .empty])).events.any (·.wake_id == b.stored.batch))) -
          refusalsWith row.entry_id (run (wakeStep boundBinding) (.start wakeDb 0)
            (persistedOne ++ [.restart .empty])).batches := by
  decide +kernel

end Bound

end BorgClient.Representative
