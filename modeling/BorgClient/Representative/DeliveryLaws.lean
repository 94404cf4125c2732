import BorgClient.Representative.DeliveryRuns
import BorgClient.Representative.SendRuns

/-!
# What a generation's delivery guarantees

From the first use of a generation on, in every run: nothing between the start and the
checkpoint is lost, and whatever a read returned after the checkpoint can be delivered.
-/

namespace BorgClient.Representative
open Platform List Tables Runs

section First

variable [Platform]

/-- The generation has no delivery row yet, or the one the 5.x import inserted. -/
def FirstUse (binding : RepresentativeBinding) (db : Db) : Prop :=
  (db.returned (bindingFingerprint binding)).rows = [] ∧
    (db.delivery.find (bindingFingerprint binding) = none ∨
      ∃ delivery history, db.delivery.find (bindingFingerprint binding) =
        some (seedRow binding delivery history))

/-- No process has called yet. -/
def DeliveryWorld.start (db : Db) (log : ServerLog) : DeliveryWorld := ⟨db, log, fun _ => none, []⟩

/-- An imported row has its checkpoint, start and fence at one position. -/
lemma seedRow_checkpoint (binding : RepresentativeBinding) (delivery : LegacyCheckpoint)
    (history : LegacyHistory) {c : LocalServerCursor}
    (h : (seedRow binding delivery history).checkpoint = some c) :
    (seedRow binding delivery history).startKind = .checkpoint ∧
      (seedRow binding delivery history).start = c ∧
      (seedRow binding delivery history).readThrough = some c := by
  unfold seedRow at h ⊢
  cases delivery with
  | absent => cases h
  | invalid => cases h
  | valid checkpoint =>
    obtain rfl : checkpoint = some c := h
    exact ⟨rfl, rfl, rfl⟩

lemma deliveryInv_start {binding : RepresentativeBinding} {db : Db} (h : FirstUse binding db)
    (log : ServerLog) : DeliveryInv binding (.start db log) := by
  have hno : ∀ p, ¬ Returned (.start db log) p := not_returned rfl
  constructor
  · intro _
    refine ⟨h.1, rfl, fun i input state requestIds s hi => ?_⟩
    cases hi
  · intro d hd
    obtain ⟨row, hrow, rfl⟩ := Option.map_eq_some_iff.mp hd
    have hseed : ∃ delivery history, row = seedRow binding delivery history := by
      rcases h.2 with hnone | ⟨delivery, history, hsome⟩
      · exact absurd (hrow.symm.trans hnone) (by simp)
      · exact ⟨delivery, history, Option.some.inj (hrow.symm.trans hsome)⟩
    obtain ⟨delivery, history, rfl⟩ := hseed
    have hrows : ((DeliveryWorld.start db log).db.returned (bindingFingerprint binding)).rows = [] :=
      h.1
    refine ⟨?_, ?_, ?_, ?_, ?_, ?_, ?_, ?_, ?_⟩
    · rw [fenced_iff]
      intro c hc
      exact ⟨c, (seedRow_checkpoint binding delivery history hc).2.2, le_rfl⟩
    · simp [hrows, sortPoints]
    · intro c hc
      obtain ⟨hkind, hstart, _⟩ := seedRow_checkpoint binding delivery history hc
      exact Or.inl ⟨hkind, hstart.symm⟩
    · exact fun p hp => absurd hp (hno p)
    · exact fun p hp => absurd hp (hno p)
    · intro p
      simp only [hrows, mem_sortPoints, not_mem_nil, false_iff, not_and]
      exact fun hp => absurd hp (hno p)
    · exact fun p hp => absurd hp (hno p)
    · intro _
      refine ⟨rfl, fun i input state requestIds s hi => ?_⟩
      cases hi
    · intro i input state requestIds s hi
      cases hi

variable [ReadText]

/-- The delivery invariant holds after every run from a first use. -/
lemma deliveryInv_run {binding : RepresentativeBinding} {db : Db} (h : FirstUse binding db)
    (log : ServerLog) (ls : List DeliveryStep) :
    DeliveryInv binding (run (deliveryStep binding) (.start db log) ls) :=
  invariant _ (DeliveryInv binding) (fun _ l hw => deliveryInv_step hw l)
    (deliveryInv_start h log) ls

end First

/-! ### The transactions of a state within its fence -/

section Fenced

variable [Platform] {binding : RepresentativeBinding} {db : Db} {d : DeliveryState}

/-- The refusal of another generation, or of an invalid binding row, is not the fence's. -/
lemma requireCurrentGeneration_ne_fence {e : RepresentativeError}
    (hg : requireCurrentGeneration db binding = .error e) : e ≠ fenceError := by
  unfold requireCurrentGeneration at hg
  split at hg
  · rename_i e' hrow
    cases hg
    unfold currentBindingRow at hrow
    split at hrow
    · cases hrow
    · split at hrow
      · cases hrow
        intro h
        have hmessage := congrArg (fun e => e.message.toList.head?) h
        simp [fenceError, stateError] at hmessage
      · cases hrow
  · cases hg
    simp [fenceError, stateError, generationError]
  · split at hg
    · cases hg
      simp [fenceError, stateError, generationError]
    · cases hg

/-- Widening a fenced state keeps its checkpoint, and never meets the fence. -/
lemma widenTransaction_fenced (hd : loadDelivery db (bindingFingerprint binding) = some d)
    (hf : d.fenced = true) (window : List LocalServerCursor) :
    (transact db (widenTransaction binding window)).1 ≠ .error fenceError ∧
      ∃ d', loadDelivery (transact db (widenTransaction binding window)).2
          (bindingFingerprint binding) = some d' ∧ d'.checkpoint = d.checkpoint := by
  unfold transact widenTransaction
  cases hg : requireCurrentGeneration db binding with
  | error e => exact ⟨by simpa using requireCurrentGeneration_ne_fence hg, d, hd, rfl⟩
  | ok generation =>
    obtain rfl := (requireCurrentGeneration_eq_ok.mp hg).1
    cases hlast : window.getLast? with
    | none => simp [widenReadWindow, hd, hlast, Except.map]
    | some last =>
      obtain ⟨db', hdb', hwritten⟩ := widenReadWindow_ok hd hf hlast
      simp only [hdb', Except.map]
      exact ⟨by simp, _, hwritten.loaded, rfl⟩

/-- Delivering from a fenced state never meets the fence, nor moves its checkpoint back. -/
lemma deliverTransaction_fenced (hd : loadDelivery db (bindingFingerprint binding) = some d)
    (hf : d.fenced = true) (hn : (d.returned.map (·.id)).Nodup) (p : LocalServerCursor) :
    (transact db (deliverTransaction binding p)).1 ≠ .error fenceError ∧
      ∃ d', loadDelivery (transact db (deliverTransaction binding p)).2
          (bindingFingerprint binding) = some d' ∧ NotBehind d.checkpoint d'.checkpoint := by
  unfold transact deliverTransaction
  cases hg : requireCurrentGeneration db binding with
  | error e => exact ⟨by simpa using requireCurrentGeneration_ne_fence hg, d, hd, .refl _⟩
  | ok generation =>
    obtain rfl := (requireCurrentGeneration_eq_ok.mp hg).1
    simp only [hd]
    by_cases hbefore : (d.checkpoint.isSome && comparePoints p d.checkpoint ≤ 0) = true
    · rw [if_pos hbefore]
      exact ⟨by simp, d, hd, .refl _⟩
    · rw [if_neg hbefore]
      by_cases hout : (!d.returned.contains p || d.readThrough.isNone ||
          comparePoints p d.readThrough > 0) = true
      · rw [if_pos hout]
        exact ⟨by simp [outside, fenceError, stateError], d, hd, .refl _⟩
      · rw [if_neg hout]
        simp only [Bool.or_eq_true, not_or, decide_eq_true_eq, Option.isNone_iff_eq_none] at hout
        obtain ⟨⟨_, hnone⟩, hle⟩ := hout
        obtain ⟨r, hr⟩ := Option.ne_none_iff_exists'.mp hnone
        have hpr : p ≤ r := by
          rw [hr] at hle
          exact comparePoints_nonpos.mp (by omega)
        obtain ⟨db', hdb', hwritten⟩ := advanceCheckpoint_ok hd hf hn hr hpr
        simp only [hdb', Except.map]
        exact ⟨by simp, _, hwritten.loaded, .later _ _⟩

lemma deliverReplies_fenced (hd : loadDelivery db (bindingFingerprint binding) = some d)
    (hf : d.fenced = true) (hn : (d.returned.map (·.id)).Nodup) (entries : List LogEntry)
    (through : Uuid) :
    (transact db (deliverReplies binding entries through)).1 ≠ .error fenceError ∧
      ∃ d', loadDelivery (transact db (deliverReplies binding entries through)).2
          (bindingFingerprint binding) = some d' ∧ NotBehind d.checkpoint d'.checkpoint := by
  have hstay : (.error outside : Except RepresentativeError DeliverResult) ≠ .error fenceError ∧
      ∃ d', loadDelivery db (bindingFingerprint binding) = some d' ∧
        NotBehind d.checkpoint d'.checkpoint :=
    ⟨by simp [outside, fenceError, stateError], d, hd, .refl _⟩
  have hdeliver := fun p => deliverTransaction_fenced hd hf hn p
  unfold transact at hdeliver ⊢
  unfold deliverReplies
  cases entries.find? (·.id == through) with
  | none => exact hstay
  | some entry =>
    by_cases ha : (isAddressedCoordinatorEntry binding entry).isNone = true
    · simp only [if_pos ha]
      exact hstay
    · simp only [if_neg ha]
      exact hdeliver entry.point

end Fenced

/-! ### The checkpoint only moves forward -/

section Forward

variable [Platform] [ReadText] {binding : RepresentativeBinding} {w : DeliveryWorld}
  {d : DeliveryState}

/-- One step keeps the row and never moves its checkpoint back. -/
lemma checkpoint_step (h : DeliveryInv binding w)
    (hd : loadDelivery w.db (bindingFingerprint binding) = some d) (l : DeliveryStep) :
    ∃ d', loadDelivery (deliveryStep binding w l).db (bindingFingerprint binding) = some d' ∧
      NotBehind d.checkpoint d'.checkpoint := by
  have hok := h.present d hd
  have hstay : ∃ d', loadDelivery w.db (bindingFingerprint binding) = some d' ∧
      NotBehind d.checkpoint d'.checkpoint := ⟨d, hd, .refl _⟩
  cases l with
  | append entry => exact hstay
  | ensureRow =>
    unfold deliveryStep
    dsimp only
    rcases ensureRow_cases w.db binding with hdb | ⟨hfind, _⟩
    · rwa [hdb]
    · simp [loadDelivery, hfind] at hd
  | resolveHead pages =>
    unfold deliveryStep
    dsimp only
    rcases resolveHead_cases w.db binding (serverHead pages) with
      hdb | ⟨row, delivery, kind, start, hrow, _, hdb, hnew⟩
    · rwa [hdb]
    · rw [hdb]
      simp only [loadDelivery, hrow, Option.map_some, Option.some.injEq] at hd
      simp only [loadDelivery, hnew, Option.map_some]
      exact ⟨_, rfl, hd ▸ .refl _⟩
  | readStart i raw =>
    unfold deliveryStep readStartStep
    dsimp only
    split
    · exact hstay
    · split
      · exact hstay
      · split
        · exact hstay
        · split <;> exact hstay
  | readPage i n has_more =>
    unfold deliveryStep
    dsimp only
    split
    · split <;> exact hstay
    · exact hstay
  | readFinish i =>
    unfold deliveryStep
    dsimp only
    split
    · rename_i input state requestIds s _
      split
      · unfold readFinishStep
        split
        · exact hstay
        · rename_i final _
          obtain ⟨_, d', hd', hcp⟩ := widenTransaction_fenced hd hok.fenced (readWindow s final)
          split <;> rename_i heq <;> rw [heq] at hd' <;> exact ⟨d', hd', hcp ▸ .refl _⟩
      · exact hstay
    · exact hstay
  | deliver through =>
    exact (deliverReplies_fenced hd hok.fenced hok.nodup w.log.entries through).2

lemma checkpoint_run (h : DeliveryInv binding w)
    (hd : loadDelivery w.db (bindingFingerprint binding) = some d) (ls : List DeliveryStep) :
    ∃ d', loadDelivery (run (deliveryStep binding) w ls).db (bindingFingerprint binding) = some d' ∧
      NotBehind d.checkpoint d'.checkpoint := by
  induction ls generalizing w d with
  | nil => exact ⟨d, hd, .refl _⟩
  | cons l ls ih =>
    obtain ⟨d₁, hd₁, hle₁⟩ := checkpoint_step h hd l
    obtain ⟨d₂, hd₂, hle₂⟩ := ih (deliveryInv_step h l) hd₁
    refine ⟨d₂, hd₂, fun c hc => ?_⟩
    obtain ⟨c₁, hc₁, hcc₁⟩ := hle₁ c hc
    obtain ⟨c₂, hc₂, hcc₂⟩ := hle₂ c₁ hc₁
    exact ⟨c₂, hc₂, hcc₁.trans hcc₂⟩

end Forward

/-! ### Two replies to the bound worktree -/

section Bound

attribute [local instance] plainPlatform

/-- No message quotes a UUID, and results are measured by their messages. -/
@[reducible] def plainText : ReadText where
  quoted := fun _ => []
  byteLength := fun result => 600 + (result.replies.map (fun reply => 300 + reply.message.length)).sum

attribute [local instance] plainText

/-- A direct reply of the bound Coordinator. -/
def boundReply (id : Uuid) (created_at : Instant) : LogEntry where
  id := id
  created_at := created_at
  drone_id := boundBinding.coordinatorDroneId
  visibility := .direct
  recipient_drone_ids := [boundBinding.representativeDroneId]
  message := "ok"
  documents := []

def firstReply : LogEntry :=
  boundReply "20000000-0000-4000-8000-000000000001" "2026-01-02T00:00:00.000Z"

def secondReply : LogEntry :=
  boundReply "20000000-0000-4000-8000-000000000002" "2026-01-03T00:00:00.000Z"

/-- Two replies arrive, one read returns both, and the first is delivered. -/
def deliveredOne : List DeliveryStep :=
  [.append firstReply, .append secondReply, .ensureRow, .readStart 0 ⟨none, none, none⟩,
    .readPage 0 500 false, .readFinish 0, .deliver firstReply.id]

def emptyLog : ServerLog := ⟨[], by simp, by simp⟩

lemma firstUse_bound : FirstUse boundBinding (boundDb ⟨[], nodup_nil⟩) := ⟨rfl, Or.inl rfl⟩

def deliveredWorld : DeliveryWorld :=
  run (deliveryStep boundBinding) (.start (boundDb ⟨[], nodup_nil⟩) emptyLog) deliveredOne

def deliveredState : DeliveryState :=
  ⟨bindingStart boundBinding, .binding, some firstReply.point, some secondReply.point,
    [secondReply.point]⟩

lemma load_delivered :
    loadDelivery deliveredWorld.db (bindingFingerprint boundBinding) = some deliveredState := by
  decide +kernel

end Bound

/-! ### Main results -/

section Laws

variable [Platform] [ReadText] {binding : RepresentativeBinding} {db : Db} {d : DeliveryState}

/-- Delivery loses nothing. In every run of a generation, every direct reply between the start
and the checkpoint was in the window of some completed read; the checkpoint is absent, the
imported start, or a reply some read returned, and no continuation of the run moves it back;
and it stays within the read fence, so no transaction meets the fence's guard. -/
theorem delivery_loses_nothing (hfirst : FirstUse binding db) (log : ServerLog)
    (ls ms : List DeliveryStep) {w : DeliveryWorld}
    (hw : w = run (deliveryStep binding) (.start db log) ls)
    (hd : loadDelivery w.db (bindingFingerprint binding) = some d) :
    (∀ c, d.checkpoint = some c → ∀ q ∈ wantedPoints binding false w.log,
        d.start < q → q ≤ c → Returned w q) ∧
    (∀ c, d.checkpoint = some c → (d.startKind = .checkpoint ∧ c = d.start) ∨ Returned w c) ∧
    (∀ c, d.checkpoint = some c → ∃ d' c',
        loadDelivery (run (deliveryStep binding) w ms).db (bindingFingerprint binding) = some d' ∧
          d'.checkpoint = some c' ∧ c ≤ c') ∧
    (∀ c, d.checkpoint = some c → ∃ r, d.readThrough = some r ∧ c ≤ r) ∧
    (∀ window, (transact w.db (widenTransaction binding window)).1 ≠ .error fenceError) ∧
    ∀ through, (transact w.db (deliverReplies binding w.log.entries through)).1 ≠
      .error fenceError := by
  have hinv : DeliveryInv binding w := hw ▸ deliveryInv_run hfirst log ls
  have hok := hinv.present d hd
  refine ⟨?_, hok.origin, ?_, fenced_iff.mp hok.fenced, ?_, ?_⟩
  · intro c hc q hq hstart hqc
    rcases hok.origin c hc with ⟨_, rfl⟩ | hr
    · exact absurd hstart (not_lt.mpr hqc)
    · exact hok.covered c hr q hq hstart hqc
  · intro c hc
    obtain ⟨d', hd', hle⟩ := checkpoint_run hinv hd ms
    obtain ⟨c', hc', hcc⟩ := hle c hc
    exact ⟨d', c', hd', hc', hcc⟩
  · exact fun window => (widenTransaction_fenced hd hok.fenced window).1
  · exact fun through => (deliverReplies_fenced hd hok.fenced hok.nodup w.log.entries through).1

end Laws

section

attribute [local instance] plainPlatform plainText

/-- The delivered checkpoint of the two-reply run is the reply its read returned. -/
theorem delivery_loses_nothing_first :
    deliveredState.checkpoint = some firstReply.point ∧ Returned deliveredWorld firstReply.point := by
  obtain ⟨_, horigin, _⟩ :=
    delivery_loses_nothing firstUse_bound emptyLog deliveredOne [] rfl load_delivered
  rcases horigin firstReply.point rfl with ⟨hkind, _⟩ | hr
  · cases hkind
  · exact ⟨rfl, hr⟩

/-- A generation imported with a 5.x checkpoint starts with a checkpoint no read returned. -/
theorem imported_checkpoint_not_returned :
    ∃ db, FirstUse boundBinding db ∧
      ((loadDelivery (DeliveryWorld.start db emptyLog).db (bindingFingerprint boundBinding)).bind
        (·.checkpoint)) = some firstReply.point ∧
      ¬ Returned (run (deliveryStep boundBinding) (.start db emptyLog) []) firstReply.point := by
  refine ⟨{ boundDb ⟨[], nodup_nil⟩ with
    delivery := ⟨[seedRow boundBinding (.valid (some firstReply.point)) .present],
      nodup_singleton _⟩ }, ⟨rfl, Or.inr ⟨.valid (some firstReply.point), .present, ?_⟩⟩, ?_,
    not_returned rfl _⟩
  · decide +kernel
  · decide +kernel

end

section Laws

variable [Platform] {binding : RepresentativeBinding} {db : Db} {d : DeliveryState}

/-- Whatever a completed read returned after the checkpoint is found by its id, passes the
membership and fence tests, and becomes the checkpoint. -/
lemma deliverReplies_accepts {w : DeliveryWorld} (hinv : DeliveryInv binding w)
    (hd : loadDelivery w.db (bindingFingerprint binding) = some d)
    (hg : requireCurrentGeneration w.db binding = .ok (bindingFingerprint binding))
    {p : LocalServerCursor} (hp : Returned w p) (hafter : d.floor < p) :
    (transact w.db (deliverReplies binding w.log.entries p.id)).1 =
      .ok ⟨checkpointView (some p), true, bindingFingerprint binding⟩ := by
  have hok := hinv.present d hd
  obtain ⟨_, hwanted, r, hr, hpr⟩ := hok.window p hp
  have hmem : p ∈ d.returned := (hok.stored p).mpr ⟨hp, hafter⟩
  obtain ⟨e, he, haddressed, rfl⟩ := mem_wantedPoints.mp hwanted
  have hfind : w.log.entries.find? (·.id == e.point.id) = some e := by
    cases hf : w.log.entries.find? (·.id == e.point.id) with
    | none => exact absurd (List.find?_eq_none.mp hf e he) (by simp [LogEntry.point])
    | some x =>
      have hx : x.id = e.id := by simpa [LogEntry.point] using List.find?_some hf
      rw [w.log.eq_of_id (List.mem_of_find?_eq_some hf) he hx]
  have hsome : (isAddressedCoordinatorEntry binding e).isNone = false := by
    unfold wanted at haddressed
    cases ha : isAddressedCoordinatorEntry binding e with
    | none => simp [ha] at haddressed
    | some _ => rfl
  have hbefore : (d.checkpoint.isSome && comparePoints e.point d.checkpoint ≤ 0) = false := by
    cases hc : d.checkpoint with
    | none => rfl
    | some c => simpa [comparePoints_nonpos] using (checkpoint_le_floor hc).trans_lt hafter
  have hinside : (!d.returned.contains e.point || d.readThrough.isNone ||
      decide (comparePoints e.point d.readThrough > 0)) = false := by
    simp [hmem, hr, comparePoints_nonpos.mpr hpr]
  obtain ⟨db', hdb', _⟩ := advanceCheckpoint_ok hd hok.fenced hok.nodup hr hpr
  have hcp : (advanced d e.point).checkpoint = some e.point := by
    unfold advanced
    cases hc : d.checkpoint with
    | none => rfl
    | some c => simp [later_some, max_eq_right ((checkpoint_le_floor hc).trans hafter.le)]
  have hmoved : 0 < comparePoints e.point d.checkpoint := by
    cases hc : d.checkpoint with
    | none => simp [comparePoints]
    | some c => exact comparePoints_pos.mpr ((checkpoint_le_floor hc).trans_lt hafter)
  unfold transact deliverReplies deliverTransaction
  simp only [hfind, hsome, hg, hd, hbefore, hinside, hdb', Except.map, hcp, Option.any_some,
    decide_eq_true hmoved, Bool.false_eq_true, if_false]

variable [ReadText]

/-- Everything returned stays deliverable. In every run of a generation, whatever a completed
read returned after the checkpoint is stored in the returned set, within the read fence, and
accepted by a deliver while the generation is current; and what a finishing read's widening
keeps never exceeds the cap, so the cap drops nothing. -/
theorem returned_stays_deliverable (hfirst : FirstUse binding db) (log : ServerLog)
    (ls : List DeliveryStep) {w : DeliveryWorld}
    (hw : w = run (deliveryStep binding) (.start db log) ls)
    (hd : loadDelivery w.db (bindingFingerprint binding) = some d) :
    (∀ p, Returned w p → (∀ c, d.checkpoint = some c → c < p) →
      p ∈ d.returned ∧ (∃ r, d.readThrough = some r ∧ p ≤ r) ∧
      (requireCurrentGeneration w.db binding = .ok (bindingFingerprint binding) →
        (transact w.db (deliverReplies binding w.log.entries p.id)).1 =
          .ok ⟨checkpointView (some p), true, bindingFingerprint binding⟩)) ∧
    ∀ i input state requestIds s final,
      w.reads i = some (.scanning input state requestIds s) →
      finalResult binding input state s = .ok final →
      (widened d (readWindow s final)).length ≤ RETURNED_CAP := by
  have hinv : DeliveryInv binding w := hw ▸ deliveryInv_run hfirst log ls
  have hok := hinv.present d hd
  constructor
  · intro p hp hafter
    obtain ⟨hstart, _, hread⟩ := hok.window p hp
    have hfloor : d.floor < p := by
      cases hc : d.checkpoint with
      | none => rwa [floor_of_none hc]
      | some c =>
        rw [floor_of_some hc]
        exact max_lt hstart (hafter c hc)
    exact ⟨(hok.stored p).mpr ⟨hp, hfloor⟩, hread,
      fun hg => deliverReplies_accepts hinv hd hg hp hfloor⟩
  · intro i input state requestIds s final hi hfinal
    have hn := (finalResult_length binding input state s hfinal).trans input.limit_bounds.2
    have hwindow : readWindow s final =
        (s.candidates.map (·.point)).take final.replies.length := map_take
    rw [hwindow]
    exact widened_length hok (hok.reads i input state requestIds s hi) hn

end Laws

section

attribute [local instance] plainPlatform plainText

/-- The second reply of the two-reply run can still be delivered. -/
theorem returned_stays_deliverable_second :
    (transact deliveredWorld.db (deliverReplies boundBinding deliveredWorld.log.entries
        secondReply.point.id)).1 =
      .ok ⟨checkpointView (some secondReply.point), true, bindingFingerprint boundBinding⟩ := by
  have hr : Returned deliveredWorld secondReply.point := by
    show ∃ window ∈ deliveredWorld.windows, secondReply.point ∈ window
    decide +kernel
  have hafter : ∀ c, deliveredState.checkpoint = some c → c < secondReply.point := by
    rintro c hc
    obtain rfl : firstReply.point = c := Option.some.inj hc
    decide +kernel
  exact ((returned_stays_deliverable firstUse_bound emptyLog deliveredOne rfl load_delivered).1
    _ hr hafter).2.2 (by decide +kernel)

end

end BorgClient.Representative
