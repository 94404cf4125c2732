import BorgClient.Representative.SendGuard

/-!
# Settled `sent` under overlapping attempts

Once one attempt settles an id `sent`, an overlapping attempt under the same id leaves it so
for as long as the bounded history keeps the record; when 200 later settlements crowd it out
first, the overlapping settlement writes the id again in its own state.
-/

namespace BorgClient.Representative
open Platform List Tables Runs

/-- The records a body hands to `pruneSettled`; a body that throws hands over none of its own. -/
def handedOver {α : Type} (records : List RepresentativeRequestRecord) :
    Except RepresentativeError (α × List RepresentativeRequestRecord) →
      List RepresentativeRequestRecord
  | .ok (_, records') => records'
  | .error _ => records

/-- The reply says that nothing was stored or sent. -/
def tellsNotStored : Except RepresentativeError RepresentativeSendResult → Bool
  | .error e => e.code == .SEND_REJECTED || e.code == .BINDING_MISMATCH
  | .ok _ => false

/-- The attempt stands at a definite refusal, or at a live check that found another seat. -/
def Refusing (b : Attempt) : Prop :=
  (∃ o, b.control = .answered o ∧ o.definiteRefusal b.binding = true) ∨
  ∃ prior e, b.control = .unverified prior e ∧ tellsNotStored (.error e) = true

/-- Whatever the attempt returned, it does not say that nothing was stored. -/
def Untold (b : Attempt) : Prop :=
  ∀ reply, b.control = .returned reply → tellsNotStored reply = false

lemma not_tells_of_state_error {e : RepresentativeError} (h : e.code = .STATE_ERROR) :
    tellsNotStored (.error e) = false := by
  simp [tellsNotStored, h]

lemma holds_not_ready {b : Attempt} (h : b.holdsReservation = true) : b.control ≠ .ready := by
  intro hc
  simp [Attempt.holdsReservation, hc] at h

section Terminal

variable [Platform]

/-- The ledger a move's transaction writes back, before pruning. -/
def stage (a : Attempt) (m : SendMove) (records : List RepresentativeRequestRecord) :
    List RepresentativeRequestRecord :=
  match a.control, m with
  | .ready, .reserve stamp =>
    handedOver records (reserve a.input a.candidateId a.digest stamp records)
  | .unverified prior _, .release => handedOver records (release a.candidateId prior records)
  | .answered o, .settle stamp =>
    handedOver records (settle a.input a.candidateId a.digest (o.settledState a.binding) o.entryId
      stamp records)
  | _, _ => records

/-- The step's transaction, if it is one that commits, stages fewer than the limit of settled
records behind the one under the id. -/
def Roomy (X : Uuid) (w : SendWorld) (l : SendStep) : Prop :=
  ∀ i m a g, l = .move i m → w.attempts i = some a → requireCurrentGeneration w.db a.binding = .ok g →
    settledBehind X (stage a m (w.db.requests g).rows) < SETTLED_REQUEST_LIMIT

lemma roomy_of_settledBehind {X : Uuid} {w : SendWorld} {i : ℕ} {m : SendMove} {a : Attempt}
    (hi : w.attempts i = some a)
    (h : settledBehind X (stage a m (w.db.requests (bindingFingerprint a.binding)).rows) <
      SETTLED_REQUEST_LIMIT) : Roomy X w (.move i m) := by
  intro i' m' a' g hl hi' hg
  cases hl
  obtain rfl : a = a' := Option.some.inj (hi.symm.trans hi')
  rw [(requireCurrentGeneration_eq_ok.mp hg).1]
  exact h

/-- The current ledger holds the id `sent`. -/
def SentIn (worktree : String) (w : SendWorld) (X : Uuid) : Prop :=
  ∃ t, currentLedger w.db worktree = some t ∧ ∃ r ∈ t, r.requestId = X ∧ r.state = .sent

section Steps

variable {worktree : String} {w : SendWorld} {i : ℕ} {a : Attempt}

/-- One move, seen from the ledger: it is left alone, or a transaction staged it. -/
lemma attemptStep_ledger (w : SendWorld) (i : ℕ) (hok : AttemptOk worktree a) (m : SendMove) :
    (attemptStep w i a m).db = w.db ∨
    ∃ t t' : Table RepresentativeRequestRecord.requestId,
      requireCurrentGeneration w.db a.binding = .ok (bindingFingerprint a.binding) ∧
      w.db.requests (bindingFingerprint a.binding) = t ∧
      currentLedger w.db worktree = some t ∧
      currentLedger (attemptStep w i a m).db worktree = some t' ∧
      t'.rows = pruneSettled (stage a m t.rows) ∧
      ((stage a m t.rows).map (·.requestId)).Nodup ∧
      ∀ r ∈ t, r.state = .sent → r ∈ stage a m t.rows := by
  have hW := hok.worktree
  rcases attemptStep_cases w i a m with h | ⟨control, append, h, _⟩ |
    ⟨stamp, rfl, hc, hf, h⟩ | ⟨prior, e, rfl, hc, h⟩ | ⟨o, stamp, rfl, hc, h⟩
  · exact Or.inl (by rw [h])
  · exact Or.inl (by rw [h]; rfl)
  · rw [h, reserveStep_db]
    rcases transact_requests_cases w.db a.binding (reserve a.input a.candidateId a.digest stamp)
      .refuse with ⟨hdb, _⟩ | ⟨result, records, t, t', hg, hgen, ht, hop, _, ht', hcur⟩
    · exact Or.inl hdb
    · have hstage : stage a (.reserve stamp) t.rows = records := by simp [stage, hc, hop, handedOver]
      have hfresh := hgen ▸ fresh_absent hf
      refine Or.inr ⟨t, t', hg, hgen, hW ▸ ht, hW ▸ hcur, by rw [hstage, ht'], ?_, ?_⟩
      · rw [hstage]
        exact (reserve_keepsOthers hop t.unique hok.candidate hfresh).nodup
      · rw [hstage]
        exact fun r hr hs => reserve_keeps_sent hop t.unique hr hs
  · rw [h, releaseStep_db]
    rcases transact_requests_cases w.db a.binding (release a.candidateId prior) .skip with
      ⟨hdb, _⟩ | ⟨result, records, t, t', hg, hgen, ht, hop, _, ht', hcur⟩
    · exact Or.inl hdb
    · have hstage : stage a .release t.rows = records := by simp [stage, hc, hop, handedOver]
      refine Or.inr ⟨t, t', hg, hgen, hW ▸ ht, hW ▸ hcur, by rw [hstage, ht'], ?_, ?_⟩
      · rw [hstage]
        exact (release_keepsOthers hop t.unique).nodup
      · rw [hstage]
        exact fun r hr hs => release_keeps_sent hop t.unique hr hs
  · rw [h, settleStep_db]
    rcases transact_requests_cases w.db a.binding (settle a.input a.candidateId a.digest
      (o.settledState a.binding) o.entryId stamp) .skip with
      ⟨hdb, _⟩ | ⟨result, records, t, t', hg, hgen, ht, hop, _, ht', hcur⟩
    · exact Or.inl hdb
    · have hstage : stage a (.settle stamp) t.rows = records := by simp [stage, hc, hop, handedOver]
      refine Or.inr ⟨t, t', hg, hgen, hW ▸ ht, hW ▸ hcur, by rw [hstage, ht'], ?_, ?_⟩
      · rw [hstage]
        exact (settle_keepsOthers hop t.unique).nodup
      · rw [hstage]
        exact fun r hr hs => settle_keeps_sent hop hr hs

/-- With room behind it, a `sent` record outlives every step. -/
lemma sentIn_step {X : Uuid} (hok : ∀ i a, w.attempts i = some a → AttemptOk worktree a)
    (hs : SentIn worktree w X) {l : SendStep} (hroom : Roomy X w l) :
    SentIn worktree (sendStep worktree w l) X := by
  obtain ⟨t, ht, r, hr, hrid, hsent⟩ := hs
  cases l with
  | call i binding input fresh =>
    unfold sendStep
    dsimp only
    split <;> exact ⟨t, ht, r, hr, hrid, hsent⟩
  | rebind binding =>
    obtain ⟨t', ht', hkeep⟩ := rebind_ledger binding t ht
    exact ⟨t', ht', r, hkeep r hr, hrid, hsent⟩
  | move i m =>
    unfold sendStep
    dsimp only
    split
    · rename_i a hi
      rcases attemptStep_ledger w i (hok i a hi) m with
        hdb | ⟨u, t', hg, hgen, hu, hcur, hrows, hnodup, hkeep⟩
      · exact ⟨t, by rw [hdb]; exact ht, r, hr, hrid, hsent⟩
      · obtain rfl : u = t := Option.some.inj (hu.symm.trans ht)
        refine ⟨t', hcur, r, ?_, hrid, hsent⟩
        rw [Table.mem_def, hrows]
        refine (mem_pruneSettled_iff hnodup (hkeep r hr hsent) ?_).mpr ?_
        · simp [RepresentativeRequestRecord.settled, hsent]
        · rw [hrid, ← hgen]
          exact hroom i m a _ rfl hi hg
    · exact ⟨t, ht, r, hr, hrid, hsent⟩

/-- A move rewrites its own attempt only; past `ready` it holds no reservation it did not hold. -/
lemma attemptStep_attempts (hi : w.attempts i = some a) (m : SendMove) :
    ∃ control append, (attemptStep w i a m).attempts =
        Function.update w.attempts i (some { a with control := control, append := append }) ∧
      (a.control ≠ .ready → control ≠ .ready ∧
        (({ a with control := control, append := append } : Attempt).holdsReservation = true →
          a.holdsReservation = true)) := by
  rcases attemptStep_cases w i a m with h | ⟨control, append, h, hne, _, hholds, _⟩ |
    ⟨stamp, rfl, hc, hf, h⟩ | ⟨prior, e, rfl, hc, h⟩ | ⟨o, stamp, rfl, hc, h⟩
  · refine ⟨a.control, a.append, ?_, fun hne => ⟨hne, fun h => h⟩⟩
    rw [h]
    exact (Function.update_eq_self_iff.mpr hi.symm).symm
  · exact ⟨control, append, by rw [h]; rfl, fun _ => ⟨hne, hholds⟩⟩
  · obtain ⟨control, hatt⟩ := reserveStep_attempts w i a stamp
    exact ⟨control, a.append, by rw [h, hatt], fun hne => absurd hc hne⟩
  · obtain ⟨e', hatt, _⟩ := releaseStep_attempts w i a prior e
    exact ⟨.returned (.error e'), a.append, by rw [h, hatt],
      fun _ => ⟨by simp, by simp [Attempt.holdsReservation]⟩⟩
  · obtain ⟨reply, hatt, _⟩ := settleStep_attempts w i a o stamp
    exact ⟨.returned reply, a.append, by rw [h, hatt],
      fun _ => ⟨by simp, by simp [Attempt.holdsReservation]⟩⟩

/-- A step of another attempt, a new call and a rebind leave the attempt as it is. -/
lemma attempt_frame {j : ℕ} {b : Attempt} (hj : w.attempts j = some b) {l : SendStep}
    (hl : ∀ m, l ≠ .move j m) : (sendStep worktree w l).attempts j = some b := by
  cases l with
  | call i binding input fresh =>
    unfold sendStep
    dsimp only
    split
    · rename_i h
      have hji : j ≠ i := by
        rintro rfl
        rw [h.1] at hj
        cases hj
      rwa [SendWorld.set_attempts, Function.update_of_ne hji]
    · exact hj
  | rebind binding =>
    unfold sendStep
    dsimp only
    rwa [(rebindStep_attempts worktree w binding).1]
  | move i m =>
    have hji : j ≠ i := by
      rintro rfl
      exact hl m rfl
    unfold sendStep
    dsimp only
    split
    · rename_i a hi
      obtain ⟨control, append, hatt, _⟩ := attemptStep_attempts hi m
      rwa [hatt, Function.update_of_ne hji]
    · exact hj

/-- An attempt past its reservation keeps its id, and holds no reservation it gave up. -/
lemma attempt_past_ready (worktree : String) {j : ℕ} {b : Attempt} (hj : w.attempts j = some b)
    (hb : b.control ≠ .ready) (l : SendStep) :
    ∃ b', (sendStep worktree w l).attempts j = some b' ∧ b'.candidateId = b.candidateId ∧
      b'.control ≠ .ready ∧ (b'.holdsReservation = true → b.holdsReservation = true) := by
  by_cases hl : ∀ m, l ≠ .move j m
  · exact ⟨b, attempt_frame hj hl, rfl, hb, fun h => h⟩
  · push Not at hl
    obtain ⟨m, rfl⟩ := hl
    obtain ⟨control, append, hatt, hpast⟩ := attemptStep_attempts hj m
    obtain ⟨hne, hholds⟩ := hpast hb
    refine ⟨{ b with control := control, append := append }, ?_, rfl, hne, hholds⟩
    simp only [sendStep, hj, hatt]
    exact Function.update_self ..

end Steps

lemma untold_step (worktree : String) {w : SendWorld} {j : ℕ} {b : Attempt} (hj : w.attempts j = some b)
    (hb : b.control ≠ .ready) (hr : ¬ Refusing b) (hu : Untold b) (l : SendStep) :
    ∃ b', (sendStep worktree w l).attempts j = some b' ∧ Untold b' := by
  by_cases hl : ∀ m, l ≠ .move j m
  · exact ⟨b, attempt_frame hj hl, hu⟩
  push Not at hl
  obtain ⟨m, rfl⟩ := hl
  simp only [sendStep, hj]
  rcases attemptStep_cases w j b m with h | ⟨control, append, h, _, hret, _⟩ |
    ⟨stamp, rfl, hc, hf, h⟩ | ⟨prior, e, rfl, hc, h⟩ | ⟨o, stamp, rfl, hc, h⟩
  · exact ⟨b, by rw [h, hj], hu⟩
  · exact ⟨_, by rw [h]; exact Function.update_self .., fun reply hreply => absurd hreply (hret reply)⟩
  · exact absurd hc hb
  · obtain ⟨e', hatt, he⟩ := releaseStep_attempts w j b prior e
    refine ⟨_, by rw [h, hatt]; exact Function.update_self .., ?_⟩
    intro reply hreply
    obtain rfl : .error e' = reply := by simpa using hreply
    rcases he with rfl | herr
    · by_contra ht
      exact hr (Or.inr ⟨prior, e', hc, by simpa using ht⟩)
    · exact not_tells_of_state_error
        (transactRequests_skip_error (release_ok b.candidateId prior) herr)
  · obtain ⟨reply', hatt, hreply'⟩ := settleStep_attempts w j b o stamp
    refine ⟨_, by rw [h, hatt]; exact Function.update_self .., ?_⟩
    intro reply hreply
    obtain rfl : reply' = reply := by simpa using hreply
    rcases hreply' with ⟨recorded, _, rfl⟩ | ⟨e, herr, rfl⟩
    · have hnd : o.definiteRefusal b.binding = false := by
        by_contra hd
        exact hr (Or.inl ⟨o, hc, by simpa using hd⟩)
      unfold settledReply
      cases o with
      | appended entry => rfl
      | failed error =>
        have hnd' : (classifyAppendFailure error b.binding).definite = false := hnd
        simp [hnd', tellsNotStored]
    · exact not_tells_of_state_error (transactRequests_skip_error
        (settle_ok b.input b.candidateId b.digest (o.settledState b.binding) o.entryId stamp) herr)

/-- Attempt `j` is past its reservation under the id, and while it holds one the current ledger
holds the id `sent`. -/
def HoldsSent (worktree : String) (j : ℕ) (X : Uuid) (w : SendWorld) : Prop :=
  ∃ b, w.attempts j = some b ∧ b.candidateId = X ∧ b.control ≠ .ready ∧
    (b.holdsReservation = true → SentIn worktree w X)

/-- While attempt `j` holds a reservation, the step has room behind the id. -/
def RoomyFor (j : ℕ) (X : Uuid) (w : SendWorld) (l : SendStep) : Prop :=
  ∀ b, w.attempts j = some b → b.holdsReservation = true → Roomy X w l

lemma holdsSent_step {worktree : String} {j : ℕ} {X : Uuid} {w : SendWorld}
    (hg : Guarded worktree w) (h : HoldsSent worktree j X w) {l : SendStep}
    (hroom : RoomyFor j X w l) : HoldsSent worktree j X (sendStep worktree w l) := by
  obtain ⟨b, hj, hX, hb, hs⟩ := h
  obtain ⟨b', hj', hid, hb', hholds⟩ := attempt_past_ready worktree hj hb l
  exact ⟨b', hj', hid.trans hX, hb',
    fun hh => sentIn_step hg.ok (hs (hholds hh)) (hroom b hj (hholds hh))⟩

/-- The settlement that records `sent` leaves the id so, with room behind it. -/
lemma sentIn_settle {worktree : String} {w : SendWorld} {i : ℕ} {a : Attempt} {o : AppendOutcome}
    {stamp : Instant} (hok : AttemptOk worktree a) (hi : w.attempts i = some a)
    (ha : a.control = .answered o)
    (hrec : (transact w.db (settleTransaction a o stamp)).1 = .ok (some .sent))
    (hroom : Roomy a.candidateId w (.move i (.settle stamp))) :
    SentIn worktree (sendStep worktree w (.move i (.settle stamp))) a.candidateId := by
  have hW := hok.worktree
  have hstep : sendStep worktree w (.move i (.settle stamp)) = settleStep w i a o stamp := by
    simp [sendStep, hi, attemptStep, ha]
  rw [hstep]
  rcases transact_requests_cases w.db a.binding (settle a.input a.candidateId a.digest
      (o.settledState a.binding) o.entryId stamp) .skip with
    ⟨_, hno⟩ | ⟨result, records, t, t', hgen, hreq, ht, hop, hres, ht', hcur⟩
  · exact absurd hrec (hno _)
  · obtain rfl : result = .sent := by
      rw [settleTransaction, hres] at hrec
      simpa using hrec
    have hstage : stage a (.settle stamp) t.rows = records := by simp [stage, ha, hop, handedOver]
    have hsent : ∃ r ∈ records, r.requestId = a.candidateId ∧ r.state = .sent := by
      rcases settle_cases hop with ⟨r, hr, hrid, hst, rfl⟩ | ⟨_, hst, rfl⟩
      · exact ⟨_, mem_modifyRecord_self hr hrid, by rw [settleRecord_requestId, hrid], hst.symm⟩
      · exact ⟨_, mem_append_right _ mem_cons_self, by simp [settledRecord], hst.symm⟩
    obtain ⟨r, hr, hrid, hst⟩ := hsent
    refine ⟨t', by rw [settleStep_db]; exact hW ▸ hcur, r, ?_, hrid, hst⟩
    rw [Table.mem_def, ht']
    refine (mem_pruneSettled_iff (settle_keepsOthers hop t.unique).nodup hr ?_).mpr ?_
    · simp [RepresentativeRequestRecord.settled, hst]
    · have hbehind := hroom i _ a _ rfl hi hgen
      rwa [hreq, hstage, ← hrid] at hbehind

/-- Attempts `i` and `j` under one id are both past their reservation, and `i` settles `sent`.
While `j` holds its reservation and no transaction crowds the id out of the bounded history,
every later transaction of `j` leaves the id `sent`; and while `j` meets no definite refusal
and no live check of another seat, its caller is not told that nothing was stored. -/
theorem sent_terminal (worktree : String) (db : Db) (ls₀ ls : List SendStep) (i j : ℕ)
    (w : SendWorld) (hw : w = run (sendStep worktree) (.start db) ls₀) (a b : Attempt)
    (hi : w.attempts i = some a) (hj : w.attempts j = some b)
    (hid : b.candidateId = a.candidateId) (o : AppendOutcome) (ha : a.control = .answered o)
    (hb : b.holdsReservation = true) (stamp : Instant)
    (hrec : (transact w.db (settleTransaction a o stamp)).1 = .ok (some .sent)) :
    (∀ m, Meets (sendStep worktree) (RoomyFor j a.candidateId) w
          (.move i (.settle stamp) :: ls ++ [.move j m]) →
        ∀ b', (run (sendStep worktree) w (.move i (.settle stamp) :: ls)).attempts j = some b' →
        b'.holdsReservation = true →
        SentIn worktree (run (sendStep worktree) w (.move i (.settle stamp) :: ls ++ [.move j m]))
          a.candidateId) ∧
    (Meets (sendStep worktree) (fun w _ => ∀ b', w.attempts j = some b' → ¬ Refusing b') w
        (.move i (.settle stamp) :: ls) →
      ∀ b', (run (sendStep worktree) w (.move i (.settle stamp) :: ls)).attempts j = some b' →
        Untold b') := by
  have hg : Guarded worktree w := hw ▸ invariant (sendStep worktree) (Guarded worktree)
    (fun _ l h => guarded_step h l) (guarded_start worktree db) ls₀
  have hready := holds_not_ready hb
  constructor
  · intro m hm b' hj' hb'
    obtain ⟨hm₀, hm₁⟩ := (meets_append (sendStep worktree)).mp hm
    have hfirst : SentIn worktree (sendStep worktree w (.move i (.settle stamp))) a.candidateId :=
      sentIn_settle (hg.ok i a hi) hi ha hrec (hm₀.1 b hj hb)
    obtain ⟨b₁, hj₁, hid₁, hready₁, _⟩ :=
      attempt_past_ready worktree hj hready (.move i (.settle stamp))
    -- the run keeps the guard and, while `j` holds a reservation, the `sent` record
    have hrun := invariant_of_meets (sendStep worktree)
      (fun w => Guarded worktree w ∧ HoldsSent worktree j a.candidateId w)
      (fun v l hv hroom => ⟨guarded_step hv.1 l, holdsSent_step hv.1 hv.2 hroom⟩)
      ⟨guarded_step hg _, b₁, hj₁, hid₁.trans hid, hready₁, fun _ => hfirst⟩ hm₀.2
    obtain ⟨hgr, b₂, hj₂, _, _, hsent⟩ := hrun
    obtain rfl : b' = b₂ := Option.some.inj (hj'.symm.trans hj₂)
    rw [run_append]
    exact sentIn_step hgr.ok (hsent hb') (hm₁.1 b' hj' hb')
  · intro hm
    have hstart : Untold b := by
      intro reply hreply
      simp [Attempt.holdsReservation, hreply] at hb
    have hrun := invariant_of_meets (sendStep worktree)
      (fun w => ∃ b', w.attempts j = some b' ∧ b'.control ≠ .ready ∧ Untold b')
      (fun v l hv hr => ?_) ⟨b, hj, hready, hstart⟩ hm
    swap
    · obtain ⟨b₁, hj₁, hready₁, hu₁⟩ := hv
      obtain ⟨b₂, hj₂, hu₂⟩ := untold_step worktree hj₁ hready₁ (hr b₁ hj₁) hu₁ l
      obtain ⟨b₃, hj₃, _, hready₃, _⟩ := attempt_past_ready worktree hj₁ hready₁ l
      obtain rfl : b₂ = b₃ := Option.some.inj (hj₂.symm.trans hj₃)
      exact ⟨b₂, hj₂, hready₃, hu₂⟩
    obtain ⟨b₁, hj₁, _, hu⟩ := hrun
    intro b' hj'
    obtain rfl : b' = b₁ := Option.some.inj (hj'.symm.trans hj₁)
    exact hu

/-- A settlement on the current generation commits what it stages, pruned, and moves no other
attempt. -/
lemma settle_move (worktree : String) {w : SendWorld} {i : ℕ} {a : Attempt} {o : AppendOutcome}
    (stamp : Instant) {row : BindingRow} {rows records : List RepresentativeRequestRecord}
    {result : RepresentativeRequestState} (hi : w.attempts i = some a)
    (hc : a.control = .answered o) (hW : a.binding.worktree = worktree)
    (hrow : currentBindingRow w.db worktree = .ok (some row))
    (hgen : row.generation = bindingFingerprint a.binding)
    (hrows : (w.db.requests row.generation).rows = rows)
    (hop : settle a.input a.candidateId a.digest (o.settledState a.binding) o.entryId stamp rows =
      .ok (result, records)) :
    (transact w.db (settleTransaction a o stamp)).1 = .ok (some result) ∧
    ∃ w', sendStep worktree w (.move i (.settle stamp)) = w' ∧
      currentBindingRow w'.db worktree = .ok (some row) ∧
      (w'.db.requests row.generation).rows = pruneSettled records ∧
      ∀ j, j ≠ i → w'.attempts j = w.attempts j := by
  subst hrows hW
  have hg : requireCurrentGeneration w.db a.binding = .ok (bindingFingerprint a.binding) :=
    requireCurrentGeneration_eq_ok.mpr ⟨rfl, row, hrow, hgen⟩
  rw [hgen] at hop
  obtain ⟨t, ht, htr⟩ := transactRequests_commits .skip hg hop
    (settle_keepsOthers hop (Table.unique _)).nodup
  have hstep : sendStep a.binding.worktree w (.move i (.settle stamp)) = settleStep w i a o stamp := by
    simp only [sendStep, hi, attemptStep, hc]
  have hdb : (settleStep w i a o stamp).db = { w.db with
      requests := Function.update w.db.requests (bindingFingerprint a.binding) t } := by
    rw [settleStep_db]
    exact congrArg Prod.snd htr
  refine ⟨congrArg Prod.fst htr, _, hstep, ?_, ?_, ?_⟩
  · rw [← hrow]
    exact currentBindingRow_congr (by rw [hdb]) a.binding.worktree
  · rw [hdb, hgen]
    dsimp only
    rw [Function.update_self, ht]
  · intro j hj
    obtain ⟨reply, hatt, _⟩ := settleStep_attempts w i a o stamp
    rw [hatt, Function.update_of_ne hj]

end Terminal

section Bound

attribute [local instance] plainPlatform

def storedEntry : AppendedEntry where
  id := "E"
  visibility := "direct"
  recipient_drone_ids := [boundBinding.coordinatorDroneId]
  deduplicated := false
  unreachableRecipients := []

/-- Two calls under id X, posted; the first was stored, the second lost its answer. -/
def bothPosted (requests : Table RepresentativeRequestRecord.requestId) : SendWorld :=
  run (sendStep "/w") (.start (boundDb requests))
    (postedCall 0 "X" "go" ++ postedCall 1 "X" "go" ++
      [.move 0 (.answer (.appended storedEntry)),
        .move 1 (.answer (.failed (.unreachable "timeout")))])

/-- One of the two calls, once its append was answered. -/
def answered (o : AppendOutcome) : Attempt where
  binding := boundBinding
  input := ⟨some "X", .request, .user_authorized, "go"⟩
  candidateId := "X"
  control := .answered o
  append := .answered o

/-- With nothing settled behind it, the lost answer leaves X `sent`. -/
theorem sent_terminal_two_calls :
    SentIn "/w" (run (sendStep "/w") (bothPosted ⟨[], nodup_nil⟩)
      [.move 0 (.settle "t2"), .move 1 (.settle "t3")]) "X" ∧
    ∀ b, (run (sendStep "/w") (bothPosted ⟨[], nodup_nil⟩)
      [.move 0 (.settle "t2")]).attempts 1 = some b → Untold b := by
  have hA : (bothPosted ⟨[], nodup_nil⟩).attempts 0 = some (answered (.appended storedEntry)) := by
    decide +kernel
  have hB : (bothPosted ⟨[], nodup_nil⟩).attempts 1 =
      some (answered (.failed (.unreachable "timeout"))) := by decide +kernel
  have hB₁ : (sendStep "/w" (bothPosted ⟨[], nodup_nil⟩) (.move 0 (.settle "t2"))).attempts 1 =
      some (answered (.failed (.unreachable "timeout"))) := by decide +kernel
  have hB₂ : (run (sendStep "/w") (bothPosted ⟨[], nodup_nil⟩) [.move 0 (.settle "t2")]).attempts 1 =
      some (answered (.failed (.unreachable "timeout"))) := by
    rw [run_cons, run_nil, hB₁]
  have hrec : (transact (bothPosted ⟨[], nodup_nil⟩).db (settleTransaction
      (answered (.appended storedEntry)) (.appended storedEntry) "t2")).1 = .ok (some .sent) := by
    decide +kernel
  have hroom : Meets (sendStep "/w") (RoomyFor 1 "X") (bothPosted ⟨[], nodup_nil⟩)
      [.move 0 (.settle "t2"), .move 1 (.settle "t3")] :=
    ⟨fun _ _ _ => roomy_of_settledBehind hA (by decide +kernel),
      fun _ _ _ => roomy_of_settledBehind hB₁ (by decide +kernel), trivial⟩
  have hrun : bothPosted ⟨[], nodup_nil⟩ = run (sendStep "/w") (.start (boundDb ⟨[], nodup_nil⟩)) _ :=
    rfl
  obtain ⟨hsent, huntold⟩ := sent_terminal "/w" (boundDb ⟨[], nodup_nil⟩) _ [] 0 1
    (bothPosted ⟨[], nodup_nil⟩) hrun _ _ hA hB rfl _ rfl rfl "t2" hrec
  refine ⟨hsent (.settle "t3") hroom _ hB₂ rfl, huntold ⟨?_, trivial⟩⟩
  intro b hb
  obtain rfl := Option.some.inj (hB.symm.trans hb)
  rintro (⟨o, ho, hd⟩ | ⟨prior, e, he, _⟩)
  · obtain rfl : AppendOutcome.failed (.unreachable "timeout") = o := by simpa [answered] using ho
    cases hd
  · cases he

/-- 200 refused requests. -/
def refusedRecords : List RepresentativeRequestRecord :=
  (range 200).map (fun n => ⟨String.ofList (replicate n 'r'), "other", .request, .user_authorized,
    .rejected, none, false, "t0", "t0"⟩)

/-- X under the content both calls send. -/
def recordX (state : RepresentativeRequestState) (entryId : Option Uuid) (maybeStored : Bool)
    (created updated : Instant) : RepresentativeRequestRecord :=
  ⟨"X", payloadDigest boundBinding ⟨some "X", .request, .user_authorized, "go"⟩, .request,
    .user_authorized, state, entryId, maybeStored, created, updated⟩

/-- An unresolved X in front of them. -/
def fullRecords : List RepresentativeRequestRecord :=
  recordX .pending none true "t0" "t1" :: refusedRecords

lemma refusedRecords_nodup : (refusedRecords.map (·.requestId)).Nodup := by
  have hmap : refusedRecords.map (·.requestId) =
      (range 200).map (fun n => String.ofList (replicate n 'r')) := by
    simp [refusedRecords]
  rw [hmap]
  refine nodup_range.map ?_
  intro m n h
  have hl := congrArg String.length h
  simpa using hl

def fullLedger : Table RepresentativeRequestRecord.requestId where
  rows := fullRecords
  unique := by
    have hX : "X" ∉ refusedRecords.map (·.requestId) := by decide +kernel
    exact nodup_cons.mpr ⟨hX, refusedRecords_nodup⟩

/-- The settlement prunes its own `sent` record, and the overlapping one writes the id again. -/
theorem sent_crowded_out :
    (bothPosted fullLedger).attempts 0 = some (answered (.appended storedEntry)) ∧
    (bothPosted fullLedger).attempts 1 = some (answered (.failed (.unreachable "timeout"))) ∧
    (transact (bothPosted fullLedger).db
      (settleTransaction (answered (.appended storedEntry)) (.appended storedEntry) "t2")).1 =
        .ok (some .sent) ∧
    ∃ t, currentLedger (run (sendStep "/w") (bothPosted fullLedger)
        [.move 0 (.settle "t2"), .move 1 (.settle "t3")]).db "/w" = some t ∧
      recordX .ambiguous none true "t3" "t3" ∈ t := by
  have hA : (bothPosted fullLedger).attempts 0 = some (answered (.appended storedEntry)) := by
    decide +kernel
  have hB : (bothPosted fullLedger).attempts 1 =
      some (answered (.failed (.unreachable "timeout"))) := by decide +kernel
  have hrow : currentBindingRow (bothPosted fullLedger).db "/w" = .ok (some boundRow) := by
    decide +kernel
  have hrows : ((bothPosted fullLedger).db.requests boundRow.generation).rows = fullRecords := by
    decide +kernel
  -- the first settlement drops X: 200 settled records lie behind it
  have hop₁ : settle ⟨some "X", .request, .user_authorized, "go"⟩ "X"
      (answered (.appended storedEntry)).digest .sent (some "E") "t2" fullRecords =
        .ok (.sent, recordX .sent (some "E") false "t0" "t2" :: refusedRecords) := by
    decide +kernel
  have hdrop : pruneSettled (recordX .sent (some "E") false "t0" "t2" :: refusedRecords) =
      refusedRecords := by decide +kernel
  obtain ⟨hsent, w₁, hstep₁, hrow₁, hrows₁, hatt₁⟩ := settle_move "/w" "t2" hA rfl rfl hrow rfl hrows hop₁
  -- the second settlement finds no X and writes it again
  have hop₂ : settle ⟨some "X", .request, .user_authorized, "go"⟩ "X"
      (answered (.failed (.unreachable "timeout"))).digest .ambiguous none "t3" refusedRecords =
        .ok (.ambiguous, refusedRecords ++ [recordX .ambiguous none true "t3" "t3"]) := by
    decide +kernel
  obtain ⟨_, w₂, hstep₂, hrow₂, hrows₂, _⟩ := settle_move "/w" "t3" ((hatt₁ 1 (by decide)).trans hB)
    rfl rfl hrow₁ rfl (hrows₁.trans hdrop) hop₂
  refine ⟨hA, hB, hsent, ?_⟩
  rw [run_cons, run_cons, run_nil, hstep₁, hstep₂]
  refine ⟨_, currentLedger_eq_some.mpr ⟨boundRow, hrow₂, rfl⟩, ?_⟩
  rw [Table.mem_def, hrows₂]
  exact mem_pruneSettled (settle_keepsOthers hop₂ refusedRecords_nodup).nodup
    (mem_append_right _ mem_cons_self) rfl

end Bound

end BorgClient.Representative
