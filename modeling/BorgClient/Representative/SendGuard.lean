import BorgClient.Representative.SendRuns

/-!
# The guard against duplicate sends

While an append may have stored its message, the current ledger keeps its request id
unresolved, so identical content under another id is refused.
-/

namespace BorgClient.Representative
open Platform List Tables Runs

/-! ### Attempts that may have stored something -/

/-- An append was started and did not end in a definite refusal. -/
def Attempt.unresolvedAppend (a : Attempt) : Bool :=
  match a.append with
  | .notStarted => false
  | .inFlight => true
  | .answered o => !o.definiteRefusal a.binding

/-- The attempt stands between its reserve transaction and its last one. -/
def Attempt.holdsReservation (a : Attempt) : Bool :=
  match a.control with
  | .reserved _ | .unverified _ _ | .verified | .appending | .answered _ => true
  | .ready | .returned _ | .dead => false

def Attempt.tracked (a : Attempt) : Bool := a.holdsReservation || a.unresolvedAppend

/-- How far the append is at each control point; it outlives a returned or dead attempt. -/
def Control.agrees : Control → AppendProgress → Prop
  | .ready, p | .reserved _, p | .unverified _ _, p | .verified, p => p = .notStarted
  | .appending, p => p = .inFlight
  | .answered o, p => p = .answered o
  | .returned _, _ | .dead, _ => True

structure AttemptOk (worktree : String) (a : Attempt) : Prop where
  worktree : a.binding.worktree = worktree
  candidate : ∀ id, a.input.request_id = some id → a.candidateId = id
  progress : a.control.agrees a.append

/-- An attempt that leaves `sendOnce` without having started its append tracks nothing. -/
lemma not_tracked_of_left {a : Attempt} {control : Control} (hn : a.append = .notStarted)
    (hc : (∃ reply, control = .returned reply) ∨ control = .dead) :
    ({ a with control := control } : Attempt).tracked = false := by
  rcases hc with ⟨reply, rfl⟩ | rfl <;>
    simp [Attempt.tracked, Attempt.holdsReservation, Attempt.unresolvedAppend, hn]

lemma AttemptOk.left {worktree : String} {a : Attempt} (hok : AttemptOk worktree a)
    {control : Control} (hc : (∃ reply, control = .returned reply) ∨ control = .dead) :
    AttemptOk worktree { a with control := control } :=
  ⟨hok.worktree, hok.candidate, by rcases hc with ⟨reply, rfl⟩ | rfl <;> trivial⟩

/-- Content with an unresolved record under another id is refused, unless the id the caller
passed holds a record of its own that is not `rejected` or is of other content. -/
lemma reserve_refused (input : RepresentativeSendInput) {candidateId : Uuid} {digest : String}
    (stamp : Instant) {records : List RepresentativeRequestRecord} {r : RepresentativeRequestRecord}
    (hr : r ∈ records) (hdig : r.payloadDigest = digest) (hun : r.unresolved = true)
    (hne : r.requestId ≠ candidateId)
    (hown : ∀ q ∈ records, input.request_id = some q.requestId →
      q.state = .rejected ∧ q.payloadDigest = digest) :
    ∃ other ∈ records, other.unresolved = true ∧ other.payloadDigest = digest ∧
      reserve input candidateId digest stamp records =
        .error (ambiguousSendUnresolved other.requestId) := by
  have hsome : (records.find? (fun candidate => candidate.payloadDigest == digest &&
      candidate.unresolved && candidate.requestId != candidateId)).isSome = true :=
    find?_isSome.mpr ⟨r, hr, by simp [hdig, hun, hne]⟩
  obtain ⟨other, hfind⟩ := Option.isSome_iff_exists.mp hsome
  have hother := find?_some hfind
  simp only [Bool.and_eq_true, beq_iff_eq] at hother
  refine ⟨other, mem_of_find?_eq_some hfind, hother.1.2, hother.1.1, ?_⟩
  unfold reserve
  dsimp only
  rw [hfind]
  split
  · rename_i record hrec
    obtain ⟨id, hid, hf⟩ := Option.bind_eq_some_iff.mp hrec
    obtain ⟨hmem, hrid⟩ := exists_of_find_id hf
    obtain ⟨hst, hrd⟩ := hown record hmem (by rw [hid, hrid])
    simp [hst, hrd]
  · rfl

section Guard

variable [Platform]

/-- No attempt but `i` is tracked under the id. -/
def SoleUnder (w : SendWorld) (i : ℕ) (X : Uuid) : Prop :=
  ∀ j b, w.attempts j = some b → b.tracked = true → b.candidateId = X → j = i

/-- The current ledger keeps the attempt's id unresolved under its digest; a record not
marked `maybeStored` belongs to this attempt alone. -/
def Held (worktree : String) (w : SendWorld) (i : ℕ) (a : Attempt) : Prop :=
  ∃ t, currentLedger w.db worktree = some t ∧ ∃ r ∈ t, r.requestId = a.candidateId ∧
    r.payloadDigest = a.digest ∧ r.unresolved = true ∧
    (r.maybeStored = true ∨ r.state = .pending ∧ SoleUnder w i a.candidateId)

structure Guarded (worktree : String) (w : SendWorld) : Prop where
  ok : ∀ i a, w.attempts i = some a → AttemptOk worktree a
  held : ∀ i a, w.attempts i = some a → a.tracked = true → a.candidateId ∉ w.settledSent →
    Held worktree w i a

/-! ### What one step does to the attempts -/

/-- One move: nothing, a move inside the process, or one of the three transactions. -/
lemma attemptStep_cases (w : SendWorld) (i : ℕ) (a : Attempt) (m : SendMove) :
    attemptStep w i a m = w ∨
    (∃ control append, attemptStep w i a m =
        w.set i { a with control := control, append := append } ∧
      control ≠ .ready ∧ (∀ reply, control ≠ .returned reply) ∧
      (({ a with control := control, append := append } : Attempt).holdsReservation = true →
        a.holdsReservation = true) ∧
      (a.control.agrees a.append → control.agrees append ∧
        (({ a with control := control, append := append } : Attempt).tracked = true →
          a.tracked = true))) ∨
    (∃ stamp, m = .reserve stamp ∧ a.control = .ready ∧ freshId w.db a = true ∧
      attemptStep w i a m = reserveStep w i a stamp) ∨
    (∃ prior e, m = .release ∧ a.control = .unverified prior e ∧
      attemptStep w i a m = releaseStep w i a prior e) ∨
    (∃ o stamp, m = .settle stamp ∧ a.control = .answered o ∧
      attemptStep w i a m = settleStep w i a o stamp) := by
  unfold attemptStep
  split
  · rename_i stamp hc
    split
    · rename_i hf
      exact Or.inr (Or.inr (Or.inl ⟨stamp, rfl, hc, hf, rfl⟩))
    · exact Or.inl rfl
  · rename_i prior answer hc
    have hholds : a.holdsReservation = true := by simp [Attempt.holdsReservation, hc]
    split
    · refine Or.inr (Or.inl ⟨.verified, a.append, rfl, by simp, by simp, by simp [hholds], ?_⟩)
      rw [hc]
      exact fun h => ⟨h, fun _ => by simp [Attempt.tracked, hholds]⟩
    · rename_i e _
      refine Or.inr (Or.inl ⟨.unverified prior e, a.append, rfl, by simp, by simp,
        by simp [hholds], ?_⟩)
      rw [hc]
      exact fun h => ⟨h, fun _ => by simp [Attempt.tracked, hholds]⟩
  · rename_i prior e hc
    exact Or.inr (Or.inr (Or.inr (Or.inl ⟨prior, e, rfl, hc, rfl⟩)))
  · rename_i hc
    have hholds : a.holdsReservation = true := by simp [Attempt.holdsReservation, hc]
    refine Or.inr (Or.inl ⟨.appending, .inFlight, rfl, by simp, by simp, by simp [hholds],
      fun _ => ⟨rfl, fun _ => ?_⟩⟩)
    simp [Attempt.tracked, hholds]
  · rename_i o hc
    have hholds : a.holdsReservation = true := by simp [Attempt.holdsReservation, hc]
    refine Or.inr (Or.inl ⟨.answered o, .answered o, rfl, by simp, by simp, by simp [hholds],
      fun _ => ⟨rfl, fun _ => ?_⟩⟩)
    simp [Attempt.tracked, hholds]
  · rename_i o stamp hc
    exact Or.inr (Or.inr (Or.inr (Or.inr ⟨o, stamp, rfl, hc, rfl⟩)))
  · exact Or.inl rfl
  · refine Or.inr (Or.inl ⟨.dead, a.append, rfl, by simp, by simp,
      by simp [Attempt.holdsReservation], fun _ => ⟨trivial, fun h => ?_⟩⟩)
    have hu : a.unresolvedAppend = true := by
      simpa [Attempt.tracked, Attempt.holdsReservation, Attempt.unresolvedAppend] using h
    simp [Attempt.tracked, hu]
  · exact Or.inl rfl

/-! ### Keeping the guard -/

section Steps

variable {worktree : String} {w : SendWorld} {i : ℕ} {a : Attempt}

/-- Attempt `i` moved and only the record under its own id may have changed: the guard has to
be re-established for that id alone. -/
lemma Guarded.set (hg : Guarded worktree w) {a' : Attempt} {db : Db} (sent : List Uuid)
    (hi : w.attempts i = some a) (hok : AttemptOk worktree a')
    (hid : a'.candidateId = a.candidateId) (hsub : ∀ X ∈ w.settledSent, X ∈ sent)
    (hframe : ∀ t, currentLedger w.db worktree = some t →
      ∃ t', currentLedger db worktree = some t' ∧
        ∀ r ∈ t, r.unresolved = true → r.requestId ≠ a.candidateId → r ∈ t')
    (hown : a.candidateId ∉ sent → ∀ j b,
      (Function.update w.attempts i (some a')) j = some b → b.tracked = true →
      b.candidateId = a.candidateId →
      Held worktree (({ w with db := db, settledSent := sent } : SendWorld).set i a') j b) :
    Guarded worktree (({ w with db := db, settledSent := sent } : SendWorld).set i a') where
  ok := by
    intro j b hj
    by_cases hji : j = i
    · subst hji
      simp only [SendWorld.set_attempts, Function.update_self, Option.some.injEq] at hj
      exact hj ▸ hok
    · rw [SendWorld.set_attempts, Function.update_of_ne hji] at hj
      exact hg.ok j b hj
  held := by
    intro j b hj hb hsent
    by_cases hX : b.candidateId = a.candidateId
    · exact hown (hX ▸ hsent) j b hj hb hX
    · have hji : j ≠ i := by
        rintro rfl
        simp only [SendWorld.set_attempts, Function.update_self, Option.some.injEq] at hj
        exact hX (by rw [← hj, hid])
      have hj' : w.attempts j = some b := by
        rwa [SendWorld.set_attempts, Function.update_of_ne hji] at hj
      obtain ⟨t, ht, r, hr, hrid, hdig, hun, hor⟩ :=
        hg.held j b hj' hb (fun h => hsent (hsub _ h))
      obtain ⟨t', ht', hkeep⟩ := hframe t ht
      refine ⟨t', ht', r, hkeep r hr hun (hrid ▸ hX), hrid, hdig, hun, ?_⟩
      rcases hor with hm | ⟨hp, honly⟩
      · exact Or.inl hm
      · refine Or.inr ⟨hp, ?_⟩
        intro k c hk hc hcid
        have hki : k ≠ i := by
          rintro rfl
          simp only [SendWorld.set_attempts, Function.update_self, Option.some.injEq] at hk
          exact hX (by rw [← hcid, ← hk, hid])
        exact honly k c (by rwa [SendWorld.set_attempts, Function.update_of_ne hki] at hk) hc hcid

/-- Whatever keeps every unresolved record and starts tracking nothing keeps the guard. -/
lemma Guarded.mono (hg : Guarded worktree w) {w' : SendWorld}
    (hok : ∀ j b, w'.attempts j = some b → AttemptOk worktree b)
    (hback : ∀ j b, w'.attempts j = some b → b.tracked = true →
      ∃ b', w.attempts j = some b' ∧ b'.tracked = true ∧ b'.candidateId = b.candidateId ∧
        b'.digest = b.digest)
    (hsent : w'.settledSent = w.settledSent)
    (hframe : ∀ t, currentLedger w.db worktree = some t →
      ∃ t', currentLedger w'.db worktree = some t' ∧ ∀ r ∈ t, r.unresolved = true → r ∈ t') :
    Guarded worktree w' where
  ok := hok
  held := by
    intro j b hj hb hX
    obtain ⟨b', hj', hb', hid, hdig⟩ := hback j b hj hb
    obtain ⟨t, ht, r, hr, hrid, hrdig, hun, hor⟩ :=
      hg.held j b' hj' hb' (by rw [hid, ← hsent]; exact hX)
    obtain ⟨t', ht', hkeep⟩ := hframe t ht
    refine ⟨t', ht', r, hkeep r hr hun, by rw [hrid, hid], by rw [hrdig, hdig], hun, ?_⟩
    rcases hor with hm | ⟨hp, hsole⟩
    · exact Or.inl hm
    · refine Or.inr ⟨hp, ?_⟩
      intro k c hk hc hcid
      obtain ⟨c', hk', hc', hcid', _⟩ := hback k c hk hc
      exact hsole k c' hk' hc' (by rw [hcid', hcid, hid])

/-- A move that keeps every unresolved record and starts tracking nothing keeps the guard. -/
lemma Guarded.quiet (hg : Guarded worktree w) {a' : Attempt} {db : Db}
    (hi : w.attempts i = some a) (hok : AttemptOk worktree a')
    (hid : a'.candidateId = a.candidateId) (hdig : a'.digest = a.digest)
    (htr : a'.tracked = true → a.tracked = true)
    (hframe : ∀ t, currentLedger w.db worktree = some t →
      ∃ t', currentLedger db worktree = some t' ∧ ∀ r ∈ t, r.unresolved = true → r ∈ t') :
    Guarded worktree (({ w with db := db } : SendWorld).set i a') := by
  refine hg.mono ?_ ?_ rfl hframe
  · intro j b hj
    by_cases hji : j = i
    · subst hji
      simp only [SendWorld.set_attempts, Function.update_self, Option.some.injEq] at hj
      exact hj ▸ hok
    · rw [SendWorld.set_attempts, Function.update_of_ne hji] at hj
      exact hg.ok j b hj
  · intro j b hj hb
    by_cases hji : j = i
    · subst hji
      simp only [SendWorld.set_attempts, Function.update_self, Option.some.injEq] at hj
      subst hj
      exact ⟨a, hi, htr hb, hid.symm, hdig.symm⟩
    · rw [SendWorld.set_attempts, Function.update_of_ne hji] at hj
      exact ⟨b, hj, hb, rfl, rfl⟩

/-- A committed body that keeps the other ids' records keeps the unresolved ones of the
current ledger: pruning only drops settled records. -/
lemma frame_of_keepsOthers {db' : Db} {t t' : Table RepresentativeRequestRecord.requestId}
    {X : Uuid} {records : List RepresentativeRequestRecord}
    (ht : currentLedger w.db worktree = some t) (ht' : currentLedger db' worktree = some t')
    (hrows : t'.rows = pruneSettled records) (hk : KeepsOthers X t.rows records) :
    ∀ u, currentLedger w.db worktree = some u → ∃ u', currentLedger db' worktree = some u' ∧
      ∀ r ∈ u, r.unresolved = true → r.requestId ≠ X → r ∈ u' := by
  intro u hu
  obtain rfl : u = t := Option.some.inj (hu.symm.trans ht)
  refine ⟨t', ht', fun r hr hun hid => ?_⟩
  rw [Table.mem_def, hrows]
  exact mem_pruneSettled hk.nodup (hk.keep r hr hid) (not_settled_of_unresolved hun)

lemma frame_rfl : ∀ t, currentLedger w.db worktree = some t →
    ∃ t', currentLedger w.db worktree = some t' ∧ ∀ r ∈ t, r.unresolved = true → r ∈ t' :=
  fun t ht => ⟨t, ht, fun _ hr _ => hr⟩

/-- The attempt leaves `sendOnce`, its append never started. -/
lemma Guarded.leave (hg : Guarded worktree w) {db : Db} {control : Control}
    (hi : w.attempts i = some a) (hn : a.append = .notStarted)
    (hc : (∃ reply, control = .returned reply) ∨ control = .dead)
    (hframe : ∀ t, currentLedger w.db worktree = some t →
      ∃ t', currentLedger db worktree = some t' ∧ ∀ r ∈ t, r.unresolved = true → r ∈ t') :
    Guarded worktree (({ w with db := db } : SendWorld).set i { a with control := control }) := by
  refine hg.quiet hi ((hg.ok i a hi).left hc) rfl rfl (fun h => ?_) hframe
  rw [not_tracked_of_left hn hc] at h
  cases h

/-- A drawn id is in no record yet. -/
lemma fresh_absent (hf : freshId w.db a = true) (hnone : a.input.request_id = none) :
    ∀ r ∈ (w.db.requests (bindingFingerprint a.binding)).rows, r.requestId ≠ a.candidateId := by
  intro r hr
  simp only [freshId, hnone, Option.isSome_none, Bool.false_or] at hf
  simpa using all_eq_true.mp hf r hr

/-- Attempt `i` stays tracked with an unresolved record of its own under its id. -/
lemma Guarded.own (hg : Guarded worktree w) {a' : Attempt} {db : Db}
    {t t' : Table RepresentativeRequestRecord.requestId} {records : List RepresentativeRequestRecord}
    (hi : w.attempts i = some a) (hok : AttemptOk worktree a')
    (hid : a'.candidateId = a.candidateId) (hdig : a'.digest = a.digest)
    (ht : currentLedger w.db worktree = some t) (ht' : currentLedger db worktree = some t')
    (hrows : t'.rows = pruneSettled records) (hkeep : KeepsOthers a.candidateId t.rows records)
    (hsame : a.candidateId ∉ w.settledSent →
      ∀ r ∈ t, r.requestId = a.candidateId → r.payloadDigest = a.digest)
    (hown : a.candidateId ∉ w.settledSent → ∃ r ∈ records, r.requestId = a.candidateId ∧
      r.payloadDigest = a.digest ∧ r.unresolved = true ∧
      (r.maybeStored = true ∨ r.state = .pending ∧ SoleUnder w i a.candidateId)) :
    Guarded worktree (({ w with db := db } : SendWorld).set i a') := by
  refine hg.set w.settledSent hi hok hid (fun _ h => h)
    (frame_of_keepsOthers ht ht' hrows hkeep) ?_
  intro hsent j b hj hb hX
  obtain ⟨r, hr, hrid, hrdig, hun, hor⟩ := hown hsent
  have hr' : r ∈ t' := by
    rw [Table.mem_def, hrows]
    exact mem_pruneSettled hkeep.nodup hr (not_settled_of_unresolved hun)
  -- tracked attempts under the id were tracked before, except `i` itself
  have hback : ∀ k c, (Function.update w.attempts i (some a')) k = some c → c.tracked = true →
      k = i ∨ w.attempts k = some c := by
    intro k c hk _
    by_cases hki : k = i
    · exact Or.inl hki
    · rw [Function.update_of_ne hki] at hk
      exact Or.inr hk
  have hdigb : b.digest = a.digest := by
    by_cases hji : j = i
    · subst hji
      simp only [Function.update_self, Option.some.injEq] at hj
      rw [← hj, hdig]
    · rw [Function.update_of_ne hji] at hj
      obtain ⟨u, hu, q, hq, hqid, hqdig, _⟩ := hg.held j b hj hb (hX ▸ hsent)
      obtain rfl : u = t := Option.some.inj (hu.symm.trans ht)
      rw [← hqdig]
      exact hsame hsent q hq (hqid.trans hX)
  refine ⟨t', ht', r, hr', by rw [hrid, hX], by rw [hrdig, hdigb], hun, ?_⟩
  rcases hor with hm | ⟨hp, hsole⟩
  · exact Or.inl hm
  · refine Or.inr ⟨hp, ?_⟩
    have honly : ∀ k c, (Function.update w.attempts i (some a')) k = some c →
        c.tracked = true → c.candidateId = a.candidateId → k = i := by
      intro k c hk hc hcX
      rcases hback k c hk hc with rfl | hk'
      · rfl
      · exact hsole k c hk' hc hcX
    intro k c hk hc hcX
    rw [honly k c hk hc (hcX.trans hX), honly j b hj hb hX]

/-- The record the guard keeps for a tracked attempt is the one under its id. -/
lemma Guarded.own_record (hg : Guarded worktree w)
    {t : Table RepresentativeRequestRecord.requestId} (hi : w.attempts i = some a)
    (hta : a.tracked = true) (ht : currentLedger w.db worktree = some t)
    (hsent : a.candidateId ∉ w.settledSent) :
    ∃ r ∈ t, r.requestId = a.candidateId ∧ r.payloadDigest = a.digest ∧ r.unresolved = true ∧
      (r.maybeStored = true ∨ r.state = .pending ∧ SoleUnder w i a.candidateId) ∧
      ∀ q ∈ t, q.requestId = a.candidateId → q = r := by
  obtain ⟨u, hu, r, hr, hrid, hdig, hun, hor⟩ := hg.held i a hi hta hsent
  obtain rfl : u = t := Option.some.inj (hu.symm.trans ht)
  exact ⟨r, hr, hrid, hdig, hun, hor, fun q hq hqid => Table.eq_of_key hq hr (hqid.trans hrid.symm)⟩

lemma Guarded.own_digest (hg : Guarded worktree w)
    {t : Table RepresentativeRequestRecord.requestId} (hi : w.attempts i = some a)
    (hta : a.tracked = true) (ht : currentLedger w.db worktree = some t) :
    a.candidateId ∉ w.settledSent →
      ∀ q ∈ t, q.requestId = a.candidateId → q.payloadDigest = a.digest := by
  intro hsent q hq hqid
  obtain ⟨_, _, _, hdig, _, _, hone⟩ := hg.own_record hi hta ht hsent
  rw [hone q hq hqid, hdig]

/-- The reserve transaction keeps the guard. -/
lemma guarded_reserve (hg : Guarded worktree w) (hi : w.attempts i = some a)
    (hc : a.control = .ready) (hf : freshId w.db a = true) (stamp : Instant) :
    Guarded worktree (reserveStep w i a stamp) := by
  have hok := hg.ok i a hi
  have hn : a.append = .notStarted := by
    have h := hok.progress
    rwa [hc] at h
  have hW := hok.worktree
  unfold reserveStep
  rcases transact_requests_cases w.db a.binding (reserve a.input a.candidateId a.digest stamp)
    .refuse with ⟨hdb, hres⟩ | ⟨result, records, t, t', _, hgen, ht, hop, hres, ht', hcur⟩
  · -- refused: nothing was written and the attempt is over
    split
    · rename_i prior db heq
      exact absurd (congrArg Prod.fst heq) (hres _)
    · rename_i entryId db heq
      exact absurd (congrArg Prod.fst heq) (hres _)
    · rename_i db heq
      obtain rfl : w.db = db := hdb ▸ congrArg Prod.snd heq
      exact hg.leave hi hn (Or.inr rfl) frame_rfl
    · rename_i e db heq
      obtain rfl : w.db = db := hdb ▸ congrArg Prod.snd heq
      exact hg.leave hi hn (Or.inl ⟨_, rfl⟩) frame_rfl
  · rw [hW] at ht hcur
    set out := transact w.db (reserveTransaction a stamp) with hout
    have hpair : out = (.ok (some result), out.2) := Prod.ext hres rfl
    rw [hpair]
    have hfresh := hgen ▸ fresh_absent hf
    have hkeep := reserve_keepsOthers hop t.unique hok.candidate hfresh
    rcases reserve_cases hop with ⟨entryId, rfl, rfl⟩ | ⟨r₀, hr₀, hid₀, hdig₀, hns, rfl, rfl⟩ |
      ⟨rfl, rfl, hno⟩
    · -- already sent: the records are as they were
      refine hg.leave hi hn (Or.inl ⟨_, rfl⟩) ?_
      intro u hu
      obtain rfl : u = t := Option.some.inj (hu.symm.trans ht)
      refine ⟨t', hcur, fun r hr hun => ?_⟩
      rw [Table.mem_def, ht']
      exact mem_pruneSettled u.unique hr (not_settled_of_unresolved hun)
    · -- an existing record is pending again
      have hcid : a.candidateId = r₀.requestId := hok.candidate _ hid₀
      have hone : ∀ r ∈ t, r.requestId = a.candidateId → r = r₀ :=
        fun r hr hrid => Table.eq_of_key hr hr₀ (hrid.trans hcid)
      refine hg.own hi ⟨hok.worktree, hok.candidate, hn⟩ rfl rfl ht hcur ht' hkeep
        (fun _ r hr hrid => hone r hr hrid ▸ hdig₀) ?_
      intro hsent
      refine ⟨reserveAgain stamp r₀, mem_modifyRecord_self hr₀ rfl, hcid.symm, hdig₀, rfl, ?_⟩
      by_cases hun : r₀.unresolved = true
      · exact Or.inl (by simp [reserveAgain, hun])
      · -- a second tracked attempt would have kept the record unresolved
        refine Or.inr ⟨rfl, ?_⟩
        intro k c hk htr hcX
        obtain ⟨u, hu, r, hr, hrid, _, hru, _⟩ := hg.held k c hk htr (hcX ▸ hsent)
        obtain rfl : u = t := Option.some.inj (hu.symm.trans ht)
        exact absurd (hone r hr (hrid.trans hcX) ▸ hru) hun
    · -- a fresh record: no tracked attempt held the id
      have habs : ∀ r ∈ t, r.requestId ≠ a.candidateId := by
        cases hid : a.input.request_id with
        | none => exact hfresh hid
        | some id => exact hok.candidate id hid ▸ hno id hid
      refine hg.own hi ⟨hok.worktree, hok.candidate, hn⟩ rfl rfl ht hcur ht' hkeep (fun _ r hr hrid => absurd hrid (habs r hr)) ?_
      intro hsent
      refine ⟨reservedRecord a.input a.candidateId a.digest stamp, by simp, rfl, rfl, rfl,
        Or.inr ⟨rfl, ?_⟩⟩
      intro k c hk htr hcX
      obtain ⟨u, hu, r, hr, hrid, _⟩ := hg.held k c hk htr (hcX ▸ hsent)
      obtain rfl : u = t := Option.some.inj (hu.symm.trans ht)
      exact absurd (hrid.trans hcX) (habs r hr)

/-- The release transaction keeps the guard: the record is dropped or put back to its prior
state only when no other attempt under the id is tracked. -/
lemma guarded_release (hg : Guarded worktree w) (hi : w.attempts i = some a)
    {prior : Option RepresentativeRequestState} {e : RepresentativeError}
    (hc : a.control = .unverified prior e) : Guarded worktree (releaseStep w i a prior e) := by
  have hok := hg.ok i a hi
  have hn : a.append = .notStarted := by
    have h := hok.progress
    rwa [hc] at h
  have hta : a.tracked = true := by simp [Attempt.tracked, Attempt.holdsReservation, hc]
  have hW := hok.worktree
  unfold releaseStep
  rcases transact_requests_cases w.db a.binding (release a.candidateId prior) .skip with
    ⟨hdb, hres⟩ | ⟨result, records, t, t', _, hgen, ht, hop, hres, ht', hcur⟩
  · -- a stale generation changes nothing
    split
    · rename_i res db heq
      obtain rfl : w.db = db := hdb ▸ congrArg Prod.snd heq
      exact hg.leave hi hn (Or.inl ⟨_, rfl⟩) frame_rfl
    · rename_i e' db heq
      obtain rfl : w.db = db := hdb ▸ congrArg Prod.snd heq
      exact hg.leave hi hn (Or.inl ⟨_, rfl⟩) frame_rfl
  · rw [hW] at ht hcur
    set out := transact w.db (releaseTransaction a prior) with hout
    have hpair : out = (.ok (some result), out.2) := Prod.ext hres rfl
    rw [hpair]
    dsimp only
    have hleft := not_tracked_of_left hn
      (Or.inl ⟨(.error e : Except RepresentativeError RepresentativeSendResult), rfl⟩)
    have hokl := hok.left
      (Or.inl ⟨(.error e : Except RepresentativeError RepresentativeSendResult), rfl⟩)
    have hkeep := release_keepsOthers hop t.unique
    rcases release_cases hop with rfl | ⟨r, hr, hrid, hp, hm, hcase⟩ | ⟨r, hr, hrid, hp, hm, rfl⟩
    · refine hg.leave hi hn (Or.inl ⟨_, rfl⟩) ?_
      intro u hu
      obtain rfl : u = t := Option.some.inj (hu.symm.trans ht)
      refine ⟨t', hcur, fun r hr hun => ?_⟩
      rw [Table.mem_def, ht']
      exact mem_pruneSettled u.unique hr (not_settled_of_unresolved hun)
    · -- not marked `maybeStored`: no other attempt under the id is tracked
      refine hg.set w.settledSent hi hokl rfl (fun _ h => h)
        (frame_of_keepsOthers ht hcur ht' hkeep) ?_
      intro hsent j b hj hb hX
      exfalso
      by_cases hji : j = i
      · subst hji
        simp only [Function.update_self, Option.some.injEq] at hj
        rw [← hj, hleft] at hb
        cases hb
      · rw [Function.update_of_ne hji] at hj
        obtain ⟨u, hu, q, hq, hqid, _, _, hor⟩ := hg.held j b hj hb (hX ▸ hsent)
        obtain rfl : u = t := Option.some.inj (hu.symm.trans ht)
        obtain rfl : q = r := Table.eq_of_key hq hr (by rw [hqid, hX, hrid])
        rcases hor with hm' | ⟨_, hsole⟩
        · rw [hm] at hm'
          cases hm'
        · exact hji (hsole i a hi hta hX.symm).symm
    · -- back to `ambiguous`, still marked
      have hsame := hg.own_digest hi hta ht
      refine hg.own hi hokl rfl rfl ht hcur ht' hkeep hsame ?_
      intro hsent
      exact ⟨withState .ambiguous r, mem_modifyRecord_self hr hrid, hrid, hsame hsent r hr hrid,
        rfl, Or.inl hm⟩

/-- The settle transaction keeps the guard: a refusal that would hide another attempt finds
the record marked `maybeStored` and leaves it `ambiguous`. -/
lemma guarded_settle (hg : Guarded worktree w) (hi : w.attempts i = some a)
    {o : AppendOutcome} (hc : a.control = .answered o) (stamp : Instant) :
    Guarded worktree (settleStep w i a o stamp) := by
  have hok := hg.ok i a hi
  have hp : a.append = .answered o := by
    have h := hok.progress
    rwa [hc] at h
  have hta : a.tracked = true := by simp [Attempt.tracked, Attempt.holdsReservation, hc]
  have hW := hok.worktree
  have hokl : ∀ reply, AttemptOk worktree { a with control := .returned reply } :=
    fun reply => hok.left (Or.inl ⟨reply, rfl⟩)
  unfold settleStep
  rcases transact_requests_cases w.db a.binding
    (settle a.input a.candidateId a.digest (o.settledState a.binding) o.entryId stamp) .skip with
    ⟨hdb, hres⟩ | ⟨result, records, t, t', _, hgen, ht, hop, hres, ht', hcur⟩
  · -- nothing was recorded
    split
    · rename_i recorded db heq
      obtain rfl : w.db = db := hdb ▸ congrArg Prod.snd heq
      have hnone : recorded.isSome = false := by
        cases recorded with
        | none => rfl
        | some x => exact absurd (congrArg Prod.fst heq) (hres x)
      simp only [hnone, Bool.false_eq_true, false_and, if_false]
      exact hg.quiet hi (hokl _) rfl rfl (fun _ => hta) frame_rfl
    · rename_i e db heq
      obtain rfl : w.db = db := hdb ▸ congrArg Prod.snd heq
      exact hg.quiet hi (hokl _) rfl rfl (fun _ => hta) frame_rfl
  · rw [hW] at ht hcur
    set out := transact w.db (settleTransaction a o stamp) with hout
    have hpair : out = (.ok (some result), out.2) := Prod.ext hres rfl
    rw [hpair]
    dsimp only
    have hkeep := settle_keepsOthers hop t.unique
    by_cases hs : o.settledState a.binding = .sent
    · -- settled `sent`: nothing is claimed of the id any more
      simp only [Option.isSome_some, hs, and_self, if_true]
      refine hg.set _ hi (hokl _) rfl (fun _ h => mem_cons_of_mem _ h)
        (frame_of_keepsOthers ht hcur ht' hkeep) ?_
      intro hsent
      exact absurd mem_cons_self hsent
    · simp only [hs, and_false, if_false]
      have hsame := hg.own_digest hi hta ht
      by_cases hsent : a.candidateId ∈ w.settledSent
      · exact hg.own hi (hokl _) rfl rfl ht hcur ht' hkeep hsame (fun h => absurd hsent h)
      obtain ⟨r, hr, hrid, hdig, hun, hor, _⟩ := hg.own_record hi hta ht hsent
      rcases settle_cases hop with ⟨_, _, _, _, rfl⟩ | ⟨habs, _⟩
      swap
      · exact absurd hrid (habs r hr)
      have hmem : settleRecord (o.settledState a.binding) o.entryId stamp r ∈
          modifyRecord a.candidateId (settleRecord (o.settledState a.binding) o.entryId stamp)
            t.rows := mem_modifyRecord_self hr hrid
      by_cases hm : (r.maybeStored || o.settledState a.binding == .ambiguous) = true
      · obtain ⟨hun', hm'⟩ := settleRecord_of_maybeStored o.entryId stamp hun hs hm
        exact hg.own hi (hokl _) rfl rfl ht hcur ht' hkeep hsame (fun _ =>
          ⟨_, hmem, by rw [settleRecord_requestId, hrid], by rw [settleRecord_payloadDigest, hdig],
            hun', Or.inl hm'⟩)
      · -- a definite refusal of the only tracked attempt under the id
        have hm' : r.maybeStored = false ∧ o.settledState a.binding ≠ .ambiguous := by
          simpa using hm
        have hsole : SoleUnder w i a.candidateId := by
          rcases hor with hmay | ⟨_, hsole⟩
          · rw [hm'.1] at hmay
            cases hmay
          · exact hsole
        refine hg.set w.settledSent hi (hokl _) rfl (fun _ h => h)
          (frame_of_keepsOthers ht hcur ht' hkeep) ?_
        intro _ j b hj hb hX
        exfalso
        by_cases hji : j = i
        · subst hji
          simp only [Function.update_self, Option.some.injEq] at hj
          have hdef := definiteRefusal_of_settledState hs hm'.2
          rw [← hj] at hb
          simp [Attempt.tracked, Attempt.holdsReservation, Attempt.unresolvedAppend, hp, hdef] at hb
        · rw [Function.update_of_ne hji] at hj
          exact hji (hsole j b hj hb hX)

/-- A rebind to the selection already bound carries every record over. -/
lemma rebind_ledger (binding : RepresentativeBinding) :
    ∀ t, currentLedger w.db worktree = some t →
      ∃ t', currentLedger (rebindStep worktree w binding).db worktree = some t' ∧ ∀ r ∈ t, r ∈ t' := by
  intro t ht
  unfold rebindStep
  split
  · rename_i row hrow
    split
    · rename_i hs
      obtain ⟨rfl, hsel⟩ := hs
      obtain ⟨row', hrow', rfl⟩ := currentLedger_eq_some.mp ht
      obtain rfl : row = row' := by
        rw [hrow] at hrow'
        simpa using hrow'
      obtain ⟨t', ht', hrows⟩ := saveBinding_sameSelection hrow hsel
      refine ⟨t', ht', fun r hr => ?_⟩
      rw [Table.mem_def, hrows (ne_nil_of_mem hr)]
      exact hr
    · exact ⟨t, ht, fun _ hr => hr⟩
  · exact ⟨t, ht, fun _ hr => hr⟩

lemma rebindStep_attempts (worktree : String) (w : SendWorld) (binding : RepresentativeBinding) :
    (rebindStep worktree w binding).attempts = w.attempts ∧
      (rebindStep worktree w binding).settledSent = w.settledSent := by
  unfold rebindStep
  split
  · split <;> exact ⟨rfl, rfl⟩
  · exact ⟨rfl, rfl⟩

lemma guarded_rebind (hg : Guarded worktree w) (binding : RepresentativeBinding) :
    Guarded worktree (rebindStep worktree w binding) := by
  obtain ⟨hatt, hsent⟩ := rebindStep_attempts worktree w binding
  refine hg.mono (by rw [hatt]; exact hg.ok) ?_ hsent ?_
  · rw [hatt]
    exact fun j b hj hb => ⟨b, hj, hb, rfl, rfl⟩
  · intro t ht
    obtain ⟨t', ht', hkeep⟩ := rebind_ledger binding t ht
    exact ⟨t', ht', fun r hr _ => hkeep r hr⟩

/-- Every step keeps the guard. -/
lemma guarded_step (hg : Guarded worktree w) (l : SendStep) :
    Guarded worktree (sendStep worktree w l) := by
  cases l with
  | call i binding input fresh =>
    unfold sendStep
    dsimp only
    split
    · rename_i h
      refine hg.mono ?_ ?_ rfl frame_rfl
      · intro j b hj
        by_cases hji : j = i
        · subst hji
          simp only [SendWorld.set_attempts, Function.update_self, Option.some.injEq] at hj
          subst hj
          exact ⟨h.2, fun id hid => Option.getD_eq_iff.mpr (Or.inl hid), rfl⟩
        · rw [SendWorld.set_attempts, Function.update_of_ne hji] at hj
          exact hg.ok j b hj
      · intro j b hj hb
        by_cases hji : j = i
        · subst hji
          simp only [SendWorld.set_attempts, Function.update_self, Option.some.injEq] at hj
          subst hj
          cases hb
        · rw [SendWorld.set_attempts, Function.update_of_ne hji] at hj
          exact ⟨b, hj, hb, rfl, rfl⟩
    · exact hg
  | rebind binding => exact guarded_rebind hg binding
  | move i m =>
    unfold sendStep
    dsimp only
    split
    · rename_i a hi
      have hok := hg.ok i a hi
      rcases attemptStep_cases w i a m with h | ⟨control, append, h, _, _, _, hstep⟩ |
        ⟨stamp, _, hc, hf, h⟩ | ⟨prior, e, _, hc, h⟩ | ⟨o, stamp, _, hc, h⟩
      · rw [h]
        exact hg
      · rw [h]
        obtain ⟨hagrees, htr⟩ := hstep hok.progress
        exact hg.quiet hi ⟨hok.worktree, hok.candidate, hagrees⟩ rfl rfl htr frame_rfl
      · rw [h]
        exact guarded_reserve hg hi hc hf stamp
      · rw [h]
        exact guarded_release hg hi hc
      · rw [h]
        exact guarded_settle hg hi hc stamp
    · exact hg

end Steps

lemma guarded_start (worktree : String) (db : Db) : Guarded worktree (SendWorld.start db) where
  ok := by
    intro i a h
    cases h
  held := by
    intro i a h
    cases h

/-- In every interleaving of attempts and rebinds: while an append under an id may have stored
its message and none under the id is settled `sent`, the current ledger holds the id
unresolved, and identical content is not reserved under another id. -/
theorem send_guard (worktree : String) (db : Db) (ls : List SendStep) (i : ℕ) (a : Attempt)
    (hi : (run (sendStep worktree) (.start db) ls).attempts i = some a)
    (hu : a.unresolvedAppend = true)
    (hsent : a.candidateId ∉ (run (sendStep worktree) (.start db) ls).settledSent) :
    ∃ t, currentLedger (run (sendStep worktree) (.start db) ls).db worktree = some t ∧
      (∃ r ∈ t, r.requestId = a.candidateId ∧ r.payloadDigest = a.digest ∧
        (r.state = .pending ∨ r.state = .ambiguous)) ∧
      ∀ (b : Attempt) (stamp : Instant), b.binding.worktree = worktree →
        requireCurrentGeneration (run (sendStep worktree) (.start db) ls).db b.binding =
          .ok (bindingFingerprint b.binding) →
        b.digest = a.digest → b.candidateId ≠ a.candidateId →
        (∀ q ∈ t, b.input.request_id = some q.requestId →
          q.state = .rejected ∧ q.payloadDigest = b.digest) →
        ∃ other, transact (run (sendStep worktree) (.start db) ls).db (reserveTransaction b stamp) =
          (.error (ambiguousSendUnresolved other),
            (run (sendStep worktree) (.start db) ls).db) := by
  have hg : Guarded worktree (run (sendStep worktree) (.start db) ls) :=
    invariant (sendStep worktree) (Guarded worktree) (fun _ l h => guarded_step h l)
      (guarded_start worktree db) ls
  obtain ⟨t, ht, r, hr, hrid, hdig, hun, _⟩ :=
    hg.held i a hi (by simp [Attempt.tracked, hu]) hsent
  refine ⟨t, ht, ⟨r, hr, hrid, hdig, (unresolved_iff.mp hun).symm⟩, ?_⟩
  intro b stamp hW hgen hbd hne hown
  obtain ⟨row, hrow, rfl⟩ := currentLedger_eq_some.mp ht
  obtain ⟨_, row', hrow', hg'⟩ := requireCurrentGeneration_eq_ok.mp hgen
  obtain rfl : row = row' := by
    rw [hW, hrow] at hrow'
    simpa using hrow'
  obtain ⟨other, _, _, _, href⟩ := reserve_refused b.input stamp hr (hdig.trans hbd.symm) hun
    (hrid.trans_ne hne.symm) hown
  refine ⟨other.requestId, ?_⟩
  rw [hg'] at href
  unfold transact reserveTransaction transactRequests
  rw [hgen]
  dsimp only
  rw [href]

end Guard

section Bound

attribute [local instance] plainPlatform

/-- A ledger whose one record, of other content, was refused. -/
def refusedLedger : Table RepresentativeRequestRecord.requestId :=
  ⟨[⟨"Y", "other", .request, .user_authorized, .rejected, none, false, "t0", "t0"⟩], by simp⟩

def secondAttempt : Attempt where
  binding := boundBinding
  input := ⟨some "Y", .request, .user_authorized, "go"⟩
  candidateId := "Y"
  control := .ready
  append := .notStarted

/-- One call under id X, its append in flight. -/
def afterPost (requests : Table RepresentativeRequestRecord.requestId) : SendWorld :=
  run (sendStep "/w") (.start (boundDb requests)) (postedCall 0 "X" "go")

/-- A reservation is refused as a conflict, not as ambiguous, when the id it names was refused
for other content. -/
theorem send_guard_other_content :
    ((afterPost refusedLedger).attempts 0).map
        (fun a => (a.unresolvedAppend, a.candidateId, a.digest)) =
      some (true, "X", secondAttempt.digest) ∧
    (afterPost refusedLedger).settledSent = [] ∧ secondAttempt.candidateId = "Y" ∧
    (currentLedger (afterPost refusedLedger).db "/w").bind
      (fun t => (t.find "Y").map (·.state)) = some .rejected ∧
    (transact (afterPost refusedLedger).db (reserveTransaction secondAttempt "t2")).1 =
      .error requestIdConflict ∧
    requestIdConflict.code ≠ .AMBIGUOUS_SEND_UNRESOLVED := by
  decide +kernel

theorem send_guard_posted :
    ∃ other, transact (afterPost ⟨[], nodup_nil⟩).db (reserveTransaction secondAttempt "t2") =
      (.error (ambiguousSendUnresolved other), (afterPost ⟨[], nodup_nil⟩).db) := by
  have hw : ((afterPost ⟨[], nodup_nil⟩).attempts 0).map
      (fun a => (a.unresolvedAppend, a.candidateId, a.digest)) =
        some (true, "X", secondAttempt.digest) := by decide +kernel
  have hsent : "X" ∉ (afterPost ⟨[], nodup_nil⟩).settledSent := by decide +kernel
  have hgen : requireCurrentGeneration (afterPost ⟨[], nodup_nil⟩).db boundBinding =
      .ok (bindingFingerprint boundBinding) := by decide +kernel
  have hrows : (currentLedger (afterPost ⟨[], nodup_nil⟩).db "/w").map
      (fun t => t.rows.map (·.requestId)) = some ["X"] := by decide +kernel
  obtain ⟨a, ha, hv⟩ := Option.map_eq_some_iff.mp hw
  simp only [Prod.mk.injEq] at hv
  obtain ⟨hu, hid, hdig⟩ := hv
  unfold afterPost at *
  obtain ⟨t, ht, _, hrefused⟩ := send_guard "/w" (boundDb ⟨[], nodup_nil⟩) (postedCall 0 "X" "go")
    0 a ha hu (hid ▸ hsent)
  refine hrefused secondAttempt "t2" rfl hgen hdig.symm (by rw [hid]; decide) ?_
  intro q hq hY
  rw [ht, Option.map_some, Option.some.injEq] at hrows
  have hX : q.requestId ∈ ["X"] := hrows ▸ mem_map_of_mem hq
  simp only [secondAttempt, Option.some.injEq] at hY
  simp [← hY] at hX

end Bound

end BorgClient.Representative
