import BorgClient.Lib.Runs
import BorgClient.Representative.Push
import BorgClient.Representative.SendRuns

/-!
# Isolation of binding generations

Every transaction of a call names the binding it began under. Over any run of such transactions
and operator rebinds, one whose generation is no longer current changes nothing, and one whose
generation is current changes rows of that generation only.
-/

namespace BorgClient.Representative
open Platform List Tables Runs

/-! ### The frame of a transaction -/

/-- Only rows of the generation differ. -/
structure OnlyAt (generation : String) (db db' : Db) : Prop where
  bindings : db'.bindings = db.bindings
  requests : ∀ g, g ≠ generation → db'.requests g = db.requests g
  delivery : ∀ g, g ≠ generation → db'.delivery.find g = db.delivery.find g
  returned : ∀ g, g ≠ generation → db'.returned g = db.returned g
  wake_state : ∀ g, g ≠ generation → db'.wake_state g = db.wake_state g
  wake_replies : ∀ g, g ≠ generation → db'.wake_replies g = db.wake_replies g

lemma OnlyAt.refl (generation : String) (db : Db) : OnlyAt generation db db :=
  ⟨rfl, fun _ _ => rfl, fun _ _ => rfl, fun _ _ => rfl, fun _ _ => rfl, fun _ _ => rfl⟩

lemma OnlyAt.trans {generation : String} {a b c : Db} (h : OnlyAt generation a b)
    (h' : OnlyAt generation b c) : OnlyAt generation a c where
  bindings := h'.bindings.trans h.bindings
  requests := fun g hg => (h'.requests g hg).trans (h.requests g hg)
  delivery := fun g hg => (h'.delivery g hg).trans (h.delivery g hg)
  returned := fun g hg => (h'.returned g hg).trans (h.returned g hg)
  wake_state := fun g hg => (h'.wake_state g hg).trans (h.wake_state g hg)
  wake_replies := fun g hg => (h'.wake_replies g hg).trans (h.wake_replies g hg)

lemma onlyAt_saveRows (generation : String) (db : Db) (rows : Table WakeRow.entry_id) :
    OnlyAt generation db (saveRows db generation rows) :=
  ⟨rfl, fun _ _ => rfl, fun _ _ => rfl, fun _ _ => rfl, fun _ _ => rfl,
    fun _ hg => Function.update_of_ne hg ..⟩

lemma onlyAt_saveDocument (generation : String) (db : Db) (doc : WakeDocument) :
    OnlyAt generation db (saveDocument db generation doc) :=
  ⟨rfl, fun _ _ => rfl, fun _ _ => rfl, fun _ _ => rfl, fun _ hg => Function.update_of_ne hg ..,
    fun _ _ => rfl⟩

lemma onlyAt_requests (generation : String) (db : Db)
    (requests : Table RepresentativeRequestRecord.requestId) :
    OnlyAt generation db { db with requests := Function.update db.requests generation requests } :=
  ⟨rfl, fun _ hg => Function.update_of_ne hg .., fun _ _ => rfl, fun _ _ => rfl, fun _ _ => rfl,
    fun _ _ => rfl⟩

/-- Rewriting the generation's delivery row. -/
lemma onlyAt_delivery (generation : String) (db : Db) (f : DeliveryRow → DeliveryRow)
    (hf : ∀ row, (if row.generation = generation then f row else row).generation = row.generation) :
    OnlyAt generation db { db with delivery := (db.delivery.update
      (fun row => if row.generation = generation then f row else row) hf) } := by
  refine ⟨rfl, fun _ _ => rfl, ?_, fun _ _ => rfl, fun _ _ => rfl, fun _ _ => rfl⟩
  intro g hg
  dsimp only
  rw [Table.find_update]
  cases hfind : db.delivery.find g with
  | none => rfl
  | some row =>
    have hkey : row.generation = g := (Table.find_eq_some.mp hfind).2
    simp [hkey, hg]

/-- A transaction that committed differs at its generation only when its body does. -/
lemma onlyAt_of_commit {α : Type} {body : Transaction α} {db : Db} {generation : String}
    (h : ∀ out db', body db = .ok (out, db') → OnlyAt generation db db') :
    OnlyAt generation db (transact db body).2 := by
  unfold transact
  cases hbody : body db with
  | error e => exact OnlyAt.refl generation db
  | ok out => exact h out.1 out.2 hbody

/-- A committed body of the generation changes its rows only. -/
def Framed {α : Type} (body : EngineBody α) : Prop :=
  ∀ db generation out db', body db generation = .ok (out, db') → OnlyAt generation db db'

lemma onlyAt_discard {db db' : Db} {generation : String} {fresh : Uuid} {text : Option String}
    (h : discardInvalidWakeState db generation fresh = .ok (text, db')) :
    OnlyAt generation db db' := by
  unfold discardInvalidWakeState at h
  dsimp only at h
  have hrebuilt : ∀ doc, OnlyAt generation db (saveDocument (saveRows db generation
      ((db.wake_replies generation).delete (fun _ => true))) generation doc) :=
    fun doc => (onlyAt_saveRows generation db _).trans (onlyAt_saveDocument generation _ doc)
  split at h
  · cases h
    exact OnlyAt.refl generation db
  · split at h
    · cases h
      exact hrebuilt _
    · rename_i delivery _
      cases hs : scanStart delivery with
      | error e => simp [hs, Except.map] at h
      | ok start =>
        simp only [hs, Except.map, Except.ok.injEq, Prod.mk.injEq] at h
        exact h.2 ▸ hrebuilt _

lemma framed_scanOnceStart : Framed scanOnceStart := by
  intro db generation out db' h
  unfold scanOnceStart at h
  split at h
  · cases h
  · split at h
    · cases h
    · cases h
      exact OnlyAt.refl generation db

lemma framed_merge (binding : RepresentativeBinding) (now : ℕ) (epoch : Option Uuid)
    (entries : List LogEntry) (more : Bool) : Framed (merge binding now epoch entries more) := by
  intro db generation out db' h
  unfold merge at h
  split at h
  · cases h
  · split at h
    · cases h
    · split at h
      · cases h
        exact OnlyAt.refl generation db
      · split at h
        · cases h
        · cases h
          exact (onlyAt_saveRows generation db _).trans (onlyAt_saveDocument generation _ _)

lemma framed_captureStart : Framed captureStart := by
  intro db generation out db' h
  unfold captureStart at h
  split at h
  · cases h
  · split at h
    · cases h
      exact OnlyAt.refl generation db
    · split at h
      · cases h
      · cases h
        exact OnlyAt.refl generation db

lemma framed_capturePersist (epoch : Option Uuid) (count : ℕ) :
    Framed (capturePersist epoch count) := by
  intro db generation out db' h
  unfold capturePersist at h
  split at h
  · cases h
  · split at h
    · cases h
      exact OnlyAt.refl generation db
    · split at h
      · cases h
        exact OnlyAt.refl generation db
      · cases h
        exact onlyAt_saveDocument generation db _

lemma framed_tick (now : ℕ) (batch : Uuid) : Framed (tick now batch) := by
  intro db generation out db' h
  unfold tick at h
  cases hdoc : loadDocument db generation with
  | error e => simp [hdoc] at h
  | ok doc =>
    simp only [hdoc] at h
    have hclamped := onlyAt_saveRows generation db (clampRows now (db.wake_replies generation))
    set clamped := saveRows db generation (clampRows now (db.wake_replies generation))
    set doc' := expireOutstanding now (clampDocument now doc)
    set due := if blocked now doc' then [] else (wakeRows clamped generation).filter (·.next_at ≤ now)
    by_cases hdue : due = []
    · rw [if_pos hdue] at h
      cases h
      exact hclamped.trans (onlyAt_saveDocument generation _ _)
    · rw [if_neg hdue] at h
      cases h
      exact (hclamped.trans (onlyAt_saveRows generation _ _)).trans
        (onlyAt_saveDocument generation _ _)

lemma framed_ackTransition (now : ℕ) (wake_id : Uuid) (accepted : Bool) :
    Framed (ackTransition now wake_id accepted) := by
  intro db generation out db' h
  unfold ackTransition at h
  split at h
  · cases h
  · split at h
    · cases h
      exact OnlyAt.refl generation db
    · split at h
      · cases h
        exact onlyAt_saveDocument generation db _
      · split at h
        · cases h
          exact OnlyAt.refl generation db
        · split at h
          · cases h
            exact onlyAt_saveDocument generation db _
          · cases h
            exact (onlyAt_saveRows generation db _).trans (onlyAt_saveDocument generation _ _)

lemma framed_nextDueAt (now : ℕ) : Framed (nextDueAt now) := by
  intro db generation out db' h
  have hsame : db' = db := by
    unfold nextDueAt at h
    split at h
    · cases h
    · dsimp only at h
      split at h
      · cases h
        rfl
      · split at h
        · cases h
          rfl
        · split at h
          · cases h
            rfl
          · split at h <;>
            · cases h
              rfl
  rw [hsame]
  exact OnlyAt.refl generation db

lemma framed_summarize : Framed summarize := by
  intro db generation out db' h
  unfold summarize at h
  split at h
  · cases h
  · cases h
    exact OnlyAt.refl generation db

lemma onlyAt_write {db db' : Db} {generation : String} {next : DeliveryState}
    (h : write db generation next = .ok db') : OnlyAt generation db db' := by
  unfold write at h
  split at h
  · cases h
  · split at h
    · cases h
    · rename_i returned _
      cases h
      have hrow := onlyAt_delivery generation db
        (fun row => { row with checkpoint := next.checkpoint, readThrough := next.readThrough })
        (by intro row; split <;> rfl)
      exact ⟨rfl, fun _ _ => rfl, hrow.delivery, fun _ hg => Function.update_of_ne hg ..,
        fun _ _ => rfl, fun _ hg => Function.update_of_ne hg ..⟩

/-- A transaction without its result. -/
def asUnit {α : Type} (body : Transaction α) : Transaction Unit := fun db =>
  (body db).map (fun out => ((), out.2))

lemma asUnit_ok {α : Type} {body : Transaction α} {db db' : Db} {out : Unit}
    (h : asUnit body db = .ok (out, db')) : ∃ a, body db = .ok (a, db') := by
  unfold asUnit at h
  cases hbody : body db with
  | error e => simp [hbody, Except.map] at h
  | ok a =>
    simp only [hbody, Except.map, Except.ok.injEq, Prod.mk.injEq, true_and] at h
    exact ⟨a.1, by rw [← h]⟩

variable [Platform]

/-- A transaction of a read, deliver, ack, send or settle call, or of the push engine, with what
it was given before it began. -/
inductive StateCall
  | reserve (a : Attempt) (stamp : Instant)
  | release (a : Attempt) (prior : Option RepresentativeRequestState)
  | settle (a : Attempt) (o : AppendOutcome) (stamp : Instant)
  | ensureRow (binding : RepresentativeBinding)
  | resolveHead (binding : RepresentativeBinding) (head : ServerHead)
  | snapshot (binding : RepresentativeBinding)
  | widen (binding : RepresentativeBinding) (window : List LocalServerCursor)
  | deliver (binding : RepresentativeBinding) (point : LocalServerCursor)
  | discover (binding : RepresentativeBinding) (fresh : Uuid)
  | merge (binding : RepresentativeBinding) (fresh : Uuid) (now : ℕ) (epoch : Option Uuid)
      (entries : List LogEntry) (more : Bool)
  | captureStart (binding : RepresentativeBinding) (fresh : Uuid)
  | capturePersist (binding : RepresentativeBinding) (fresh : Uuid) (epoch : Option Uuid) (count : ℕ)
  | tick (binding : RepresentativeBinding) (fresh : Uuid) (now : ℕ) (batch : Uuid)
  | hostAck (binding : RepresentativeBinding) (fresh : Uuid) (now : ℕ) (wake_id : Uuid)
      (accepted : Bool)
  | dueAt (binding : RepresentativeBinding) (fresh : Uuid) (now : ℕ)
  | summary (binding : RepresentativeBinding) (fresh : Uuid)

/-- The binding the call began under. -/
def StateCall.binding : StateCall → RepresentativeBinding
  | .reserve a _ | .release a _ | .settle a _ _ => a.binding
  | .ensureRow binding | .resolveHead binding _ | .snapshot binding | .widen binding _
  | .deliver binding _ | .discover binding _ | .merge binding _ _ _ _ _ | .captureStart binding _
  | .capturePersist binding _ _ _ | .tick binding _ _ _ | .hostAck binding _ _ _ _
  | .dueAt binding _ _ | .summary binding _ => binding

def StateCall.onStale : StateCall → OnStale
  | .release _ _ | .settle _ _ _ => .skip
  | _ => .refuse

def StateCall.transaction : StateCall → Transaction Unit
  | .reserve a stamp => asUnit (reserveTransaction a stamp)
  | .release a prior => asUnit (releaseTransaction a prior)
  | .settle a o stamp => asUnit (settleTransaction a o stamp)
  | .ensureRow binding => asUnit (Representative.ensureRow binding)
  | .resolveHead binding head => Representative.resolveHead binding head
  | .snapshot binding => asUnit (readSnapshot binding)
  | .widen binding window => widenTransaction binding window
  | .deliver binding point => asUnit (deliverTransaction binding point)
  | .discover binding fresh => asUnit (engineTransaction binding fresh scanOnceStart)
  | .merge binding fresh now epoch entries more =>
    asUnit (engineTransaction binding fresh (Representative.merge binding now epoch entries more))
  | .captureStart binding fresh => asUnit (engineTransaction binding fresh Representative.captureStart)
  | .capturePersist binding fresh epoch count =>
    asUnit (engineTransaction binding fresh (Representative.capturePersist epoch count))
  | .tick binding fresh now batch =>
    asUnit (engineTransaction binding fresh (Representative.tick now batch))
  | .hostAck binding fresh now wake_id accepted =>
    asUnit (engineTransaction binding fresh (ackTransition now wake_id accepted))
  | .dueAt binding fresh now => asUnit (engineTransaction binding fresh (nextDueAt now))
  | .summary binding fresh => asUnit (engineTransaction binding fresh summarize)

/-! ### A refused transaction -/

/-- The outcome of a transaction whose generation check failed. -/
def refusal (c : StateCall) (e : RepresentativeError) : Except RepresentativeError Unit :=
  if c.onStale = .skip ∧ e = generationError then .ok () else .error e

omit [Platform] in
lemma refusal_refuse {c : StateCall} (h : c.onStale = .refuse) (e : RepresentativeError) :
    refusal c e = .error e := by
  unfold refusal
  rw [if_neg]
  rintro ⟨hskip, -⟩
  simp [h] at hskip

lemma refused_engine {α : Type} {db : Db} {binding : RepresentativeBinding} {e : RepresentativeError}
    (h : requireCurrentGeneration db binding = .error e) (fresh : Uuid) (body : EngineBody α) :
    transact db (asUnit (engineTransaction binding fresh body)) = (.error e, db) := by
  simp [transact, asUnit, engineTransaction, h, Except.map]

lemma refused_requests {α : Type} {db : Db} {binding : RepresentativeBinding}
    {e : RepresentativeError} (h : requireCurrentGeneration db binding = .error e)
    (op : List RepresentativeRequestRecord →
      Except RepresentativeError (α × List RepresentativeRequestRecord)) (onStale : OnStale) :
    transact db (asUnit (transactRequests binding op onStale)) =
      (if onStale = .skip ∧ e = generationError then .ok () else .error e, db) := by
  unfold transact asUnit transactRequests
  rw [h]
  dsimp only
  by_cases hskip : onStale = .skip ∧ e = generationError
  · rw [if_pos hskip, if_pos hskip]
    rfl
  · rw [if_neg hskip, if_neg hskip]
    rfl

/-- Whatever it was about to do, a call whose generation is not current changes nothing. -/
lemma refused_transaction {db : Db} {c : StateCall} {e : RepresentativeError}
    (h : requireCurrentGeneration db c.binding = .error e) :
    transact db c.transaction = (refusal c e, db) := by
  cases c with
  | reserve a stamp => exact refused_requests h _ _
  | release a prior => exact refused_requests h _ _
  | settle a o stamp => exact refused_requests h _ _
  | ensureRow binding =>
    have hg : requireCurrentGeneration db binding = .error e := h
    rw [refusal_refuse rfl]
    simp [StateCall.transaction, transact, asUnit, Except.map, Representative.ensureRow, hg]
  | resolveHead binding head =>
    have hg : requireCurrentGeneration db binding = .error e := h
    rw [refusal_refuse rfl]
    simp [StateCall.transaction, transact, Representative.resolveHead, hg]
  | snapshot binding =>
    have hg : requireCurrentGeneration db binding = .error e := h
    rw [refusal_refuse rfl]
    simp [StateCall.transaction, transact, asUnit, Except.map, readSnapshot, hg]
  | widen binding window =>
    have hg : requireCurrentGeneration db binding = .error e := h
    rw [refusal_refuse rfl]
    simp [StateCall.transaction, transact, widenTransaction, hg]
  | deliver binding point =>
    have hg : requireCurrentGeneration db binding = .error e := h
    rw [refusal_refuse rfl]
    simp [StateCall.transaction, transact, asUnit, Except.map, deliverTransaction, hg]
  | discover binding fresh => exact (refused_engine h fresh _).trans (by rw [refusal_refuse rfl])
  | merge binding fresh now epoch entries more =>
    exact (refused_engine h fresh _).trans (by rw [refusal_refuse rfl])
  | captureStart binding fresh => exact (refused_engine h fresh _).trans (by rw [refusal_refuse rfl])
  | capturePersist binding fresh epoch count =>
    exact (refused_engine h fresh _).trans (by rw [refusal_refuse rfl])
  | tick binding fresh now batch =>
    exact (refused_engine h fresh _).trans (by rw [refusal_refuse rfl])
  | hostAck binding fresh now wake_id accepted =>
    exact (refused_engine h fresh _).trans (by rw [refusal_refuse rfl])
  | dueAt binding fresh now => exact (refused_engine h fresh _).trans (by rw [refusal_refuse rfl])
  | summary binding fresh => exact (refused_engine h fresh _).trans (by rw [refusal_refuse rfl])

/-! ### The frame of a call -/

lemma onlyAt_engine {α : Type} {binding : RepresentativeBinding} {fresh : Uuid}
    {body : EngineBody α} (hbody : Framed body) {db db' : Db} {out : α}
    (h : engineTransaction binding fresh body db = .ok (out, db')) :
    OnlyAt (bindingFingerprint binding) db db' := by
  unfold engineTransaction at h
  split at h
  · cases h
  · rename_i generation hg
    obtain rfl := (requireCurrentGeneration_eq_ok.mp hg).1
    split at h
    · cases h
    · rename_i text db₁ hdiscard
      exact (onlyAt_discard hdiscard).trans (hbody _ _ _ _ h)

lemma onlyAt_transactRequests {α : Type} {binding : RepresentativeBinding}
    {op : List RepresentativeRequestRecord →
      Except RepresentativeError (α × List RepresentativeRequestRecord)}
    {onStale : OnStale} {db db' : Db} {out : Option α}
    (h : transactRequests binding op onStale db = .ok (out, db')) :
    OnlyAt (bindingFingerprint binding) db db' := by
  rcases transactRequests_cases h with ⟨_, _, rfl⟩ | ⟨_, _, t, _, _, _, _, rfl⟩
  · exact OnlyAt.refl _ db'
  · exact onlyAt_requests _ db t

lemma onlyAt_ensureRow {db db' : Db} {binding : RepresentativeBinding} {out : Bool}
    (h : ensureRow binding db = .ok (out, db')) : OnlyAt (bindingFingerprint binding) db db' := by
  unfold ensureRow at h
  split at h
  · cases h
  · rename_i generation hg
    obtain rfl := (requireCurrentGeneration_eq_ok.mp hg).1
    split at h
    · cases h
      refine ⟨rfl, fun _ _ => rfl, ?_, fun _ _ => rfl, fun _ _ => rfl, fun _ _ => rfl⟩
      intro g hgen
      dsimp only
      rw [Table.find_insertOrIgnore, if_neg]
      rintro ⟨-, hkey⟩
      exact hgen hkey.symm
    · cases h
      exact OnlyAt.refl _ db

lemma onlyAt_resolveHead {db db' : Db} {binding : RepresentativeBinding} {head : ServerHead}
    {out : Unit} (h : resolveHead binding head db = .ok (out, db')) :
    OnlyAt (bindingFingerprint binding) db db' := by
  unfold resolveHead at h
  split at h
  · cases h
  · rename_i generation hg
    obtain rfl := (requireCurrentGeneration_eq_ok.mp hg).1
    split at h
    · cases h
      exact OnlyAt.refl _ db
    · cases h
      exact onlyAt_delivery _ db _ _

lemma onlyAt_snapshot {db db' : Db} {binding : RepresentativeBinding}
    {out : DeliveryState × List Uuid} (h : readSnapshot binding db = .ok (out, db')) :
    OnlyAt (bindingFingerprint binding) db db' := by
  unfold readSnapshot at h
  split at h
  · cases h
  · split at h
    · cases h
    · cases h
      exact OnlyAt.refl _ db

lemma onlyAt_widen {db db' : Db} {binding : RepresentativeBinding}
    {window : List LocalServerCursor} {out : Unit}
    (h : widenTransaction binding window db = .ok (out, db')) :
    OnlyAt (bindingFingerprint binding) db db' := by
  unfold widenTransaction at h
  split at h
  · cases h
  · rename_i generation hg
    obtain rfl := (requireCurrentGeneration_eq_ok.mp hg).1
    cases hw : widenReadWindow db (bindingFingerprint binding) window with
    | error e => simp [hw, Except.map] at h
    | ok db₁ =>
      simp only [hw, Except.map, Except.ok.injEq, Prod.mk.injEq, true_and] at h
      subst h
      unfold widenReadWindow at hw
      split at hw
      · exact onlyAt_write hw
      · cases hw
        exact OnlyAt.refl _ db

lemma onlyAt_deliver {db db' : Db} {binding : RepresentativeBinding} {point : LocalServerCursor}
    {out : DeliverResult} (h : deliverTransaction binding point db = .ok (out, db')) :
    OnlyAt (bindingFingerprint binding) db db' := by
  have hdb : (transact db (deliverTransaction binding point)).2 = db' := by
    simp [transact, h]
  rcases deliverTransaction_cases db binding point with hsame | ⟨_, _, _, _, _, _, _, _, hadv⟩
  · rw [← hdb, hsame]
    exact OnlyAt.refl _ db
  · rw [hdb] at hadv
    unfold advanceCheckpoint at hadv
    split at hadv
    · cases hadv
    · rename_i before _
      cases hw : write db (bindingFingerprint binding) (advanced before point) with
      | error e => simp [hw, Except.map] at hadv
      | ok db₁ =>
        simp only [hw, Except.map, Except.ok.injEq, Prod.mk.injEq] at hadv
        exact hadv.2 ▸ onlyAt_write hw

/-- Every transaction of a call changes rows of the call's own generation only. -/
theorem onlyAt_transaction (c : StateCall) (db : Db) :
    OnlyAt (bindingFingerprint c.binding) db (transact db c.transaction).2 := by
  apply onlyAt_of_commit
  intro out db' h
  cases c with
  | reserve a stamp =>
    obtain ⟨res, h⟩ := asUnit_ok h
    exact onlyAt_transactRequests h
  | release a prior =>
    obtain ⟨res, h⟩ := asUnit_ok h
    exact onlyAt_transactRequests h
  | settle a o stamp =>
    obtain ⟨res, h⟩ := asUnit_ok h
    exact onlyAt_transactRequests h
  | ensureRow binding =>
    obtain ⟨res, h⟩ := asUnit_ok h
    exact onlyAt_ensureRow h
  | resolveHead binding head => exact onlyAt_resolveHead h
  | snapshot binding =>
    obtain ⟨res, h⟩ := asUnit_ok h
    exact onlyAt_snapshot h
  | widen binding window => exact onlyAt_widen h
  | deliver binding point =>
    obtain ⟨res, h⟩ := asUnit_ok h
    exact onlyAt_deliver h
  | discover binding fresh =>
    obtain ⟨res, h⟩ := asUnit_ok h
    exact onlyAt_engine framed_scanOnceStart h
  | merge binding fresh now epoch entries more =>
    obtain ⟨res, h⟩ := asUnit_ok h
    exact onlyAt_engine (framed_merge binding now epoch entries more) h
  | captureStart binding fresh =>
    obtain ⟨res, h⟩ := asUnit_ok h
    exact onlyAt_engine framed_captureStart h
  | capturePersist binding fresh epoch count =>
    obtain ⟨res, h⟩ := asUnit_ok h
    exact onlyAt_engine (framed_capturePersist epoch count) h
  | tick binding fresh now batch =>
    obtain ⟨res, h⟩ := asUnit_ok h
    exact onlyAt_engine (framed_tick now batch) h
  | hostAck binding fresh now wake_id accepted =>
    obtain ⟨res, h⟩ := asUnit_ok h
    exact onlyAt_engine (framed_ackTransition now wake_id accepted) h
  | dueAt binding fresh now =>
    obtain ⟨res, h⟩ := asUnit_ok h
    exact onlyAt_engine (framed_nextDueAt now) h
  | summary binding fresh =>
    obtain ⟨res, h⟩ := asUnit_ok h
    exact onlyAt_engine framed_summarize h

end BorgClient.Representative
