import BorgClient.Seats.SeatRuns

/-!
# Sessions and bearers

In every store of a run an ACTIVE record's session was written for the bearer the record holds, and
a transaction whose expectation or digest does not fit changes nothing.
-/

namespace BorgClient.Seats
open List Tables Runs

section Invariants

variable [SeatPlatform]

/-- Each ACTIVE record's session was written by the last activation of its ref, for the digest of the
bearer it holds, or stands as it was at the start. -/
def Attached (initial : SeatsFile) (w : SeatWorld) (store : SeatsFile) : Prop :=
  ∀ ref record, (ref, record) ∈ store → record.state = .active →
    (∃ input, w.writer ref = some input ∧ seatRef input.toSeatIdentity = ref ∧
      record.droneId = some input.droneId ∧ record.sessionId = some input.sessionId ∧
      input.expectedPendingDigest = digestOf record.credential) ∨
    (w.writer ref = none ∧ ∃ o, (ref, o) ∈ initial ∧ o.state = .active ∧
      o.credential = record.credential ∧ o.droneId = record.droneId ∧ o.sessionId = record.sessionId)

/-- What another write of the entry keeps of it. -/
def SameSession (r o : SeatRecord) : Prop :=
  o.toSeatIdentity = r.toSeatIdentity ∧ o.credential = r.credential ∧ o.droneId = r.droneId ∧
    o.sessionId = r.sessionId ∧ o.worktree = r.worktree

lemma Attached.of_repair {initial written : SeatsFile} {w : SeatWorld}
    (h : Attached initial w written) :
    Attached initial w (repairOrderedDuplicateBindings written) := by
  intro ref record hmem hactive
  exact h ref record (mem_repair.mp hmem).1 hactive

lemma Attached.step {initial store written : SeatsFile} {w : SeatWorld} {call : SeatCall}
    (h : Attached initial w store) (hchange : SeatChange store written call) :
    Attached initial (w.commit store written call) written := by
  intro ref record hrec hactive
  cases hchange with
  | minted _ seed hcall hmem =>
    have hwriter : (w.commit store written call).writer = w.writer := by
      rcases hcall with rfl | ⟨input, rfl, -⟩ <;> rfl
    rw [hwriter]
    rcases (hmem _).mp hrec with heq | ⟨hold, -⟩
    · obtain rfl := (Prod.ext_iff.mp heq).2
      cases hactive
    · exact h ref record hold hactive
  | activated input r hrecord _ _ hdigest _ hmem =>
    have hwriter : (w.commit store written (.activate input)).writer =
        Function.update w.writer (seatRef input.toSeatIdentity) (some input) := rfl
    rw [hwriter]
    rcases (hmem _).mp hrec with heq | ⟨hold, hne, -⟩
    · obtain ⟨rfl, rfl⟩ := Prod.ext_iff.mp heq
      exact Or.inl ⟨input, Function.update_self .., rfl, rfl, rfl, hdigest.symm⟩
    · rw [Function.update_of_ne hne]
      exact h ref record hold hactive
  | boundPending input r hrecord hpending _ _ hmem =>
    rcases (hmem _).mp hrec with heq | ⟨hold, -⟩
    · obtain ⟨-, rfl⟩ := Prod.ext_iff.mp heq
      have hstate : r.state = .active := hactive
      rw [hpending] at hstate
      cases hstate
    · exact h ref record hold hactive
  | removed _ _ hcall hmem =>
    have hwriter : (w.commit store written call).writer = w.writer := by
      cases call with
      | reset _ => rfl
      | scrub _ _ _ => rfl
      | clear _ => rfl
      | _ => exact hcall.elim
    rw [hwriter]
    exact h ref record ((hmem _).mp hrec).1 hactive
  | refreshed input r hrecord hr hmem =>
    rcases (hmem _).mp hrec with heq | ⟨hold, -⟩
    · obtain ⟨rfl, rfl⟩ := Prod.ext_iff.mp heq
      exact h _ r hrecord hr
    · exact h ref record hold hactive

lemma attached_run {file : Option SeatsText} {initial : SeatsFile}
    (hload : seatsFormat.load file = some initial) (calls : List SeatCall) :
    ∀ store, seatsFormat.load (run seatStep (.start file) calls).file = some store →
      Attached initial (run seatStep (.start file) calls) store := by
  induction calls using List.reverseRecOn with
  | nil =>
    intro store hload' ref record hmem hactive
    obtain rfl : initial = store := Option.some.inj (hload.symm.trans hload')
    exact Or.inr ⟨rfl, record, hmem, hactive, rfl, rfl, rfl⟩
  | append_singleton calls call ih =>
    rw [run_append, run_cons, run_nil]
    rcases seatStep_cases (run seatStep (.start file) calls) call with
      heq | ⟨store, written, hstore, hcommit, heq⟩
    · rw [heq]
      exact ih
    · rw [heq]
      have hchange := SeatCall.commit_change hcommit
      intro store' hload'
      obtain rfl := load_written hload'
      exact ((ih store hstore).step hchange).of_repair

/-- The expectation of a `prepareSeat`: for EXACT, the ref holds this very ACTIVE record; for ABSENT,
no ACTIVE record holds the seat. -/
def Expected (input : PrepareSeat) (store : SeatsFile) : Prop :=
  let ref := seatRef input.seed.toSeatIdentity
  match input.expected with
  | .exact credentialRef droneId sessionDigest =>
    ∃ record, (ref, record) ∈ store ∧ record.toSeatAuthority = input.seed.toSeatAuthority ∧
      seatRef record.toSeatIdentity = ref ∧ record.state = .active ∧ ref = credentialRef ∧
      (∀ id, droneId = some id → record.droneId = some id) ∧
      ∀ digest, sessionDigest = some digest → digestOf record.credential = digest
  | .absent =>
    ∀ record, (ref, record) ∈ store → record.toSeatAuthority = input.seed.toSeatAuthority →
      seatRef record.toSeatIdentity = ref → record.state ≠ .active

lemma holds_iff_expected (input : PrepareSeat) (store : SeatsFile) :
    input.expected.holds (store.get (seatRef input.seed.toSeatIdentity))
        (seatRef input.seed.toSeatIdentity) input.seed.toSeatAuthority = true ↔
      Expected input store := by
  unfold SeatExpectation.holds Expected
  cases hmatch : recordMatches (store.get (seatRef input.seed.toSeatIdentity))
      (seatRef input.seed.toSeatIdentity) input.seed.toSeatAuthority with
  | none =>
    have hno : ∀ record, (seatRef input.seed.toSeatIdentity, record) ∈ store →
        record.toSeatAuthority = input.seed.toSeatAuthority →
        seatRef record.toSeatIdentity ≠ seatRef input.seed.toSeatIdentity := by
      intro record hrecord hauthority href
      have hsome := recordMatches_eq_some.mpr ⟨SeatsFile.get_eq_some.mpr hrecord, hauthority, href⟩
      rw [hmatch] at hsome
      cases hsome
    cases input.expected with
    | exact credentialRef droneId sessionDigest =>
      simp only [Bool.false_eq_true, false_iff]
      rintro ⟨record, hrecord, hauthority, href, -⟩
      exact hno record hrecord hauthority href
    | absent =>
      simp only [true_iff]
      intro record hrecord hauthority href
      exact absurd href (hno record hrecord hauthority)
  | some prior =>
    obtain ⟨hget, hauthority, href⟩ := recordMatches_eq_some.mp hmatch
    have hprior := SeatsFile.get_eq_some.mp hget
    have honly : ∀ record, (seatRef input.seed.toSeatIdentity, record) ∈ store → record = prior := by
      intro record hrecord
      exact (Prod.ext_iff.mp (Table.eq_of_key hrecord hprior rfl)).2
    cases input.expected with
    | exact credentialRef droneId sessionDigest =>
      simp only [Bool.and_eq_true, decide_eq_true_eq, beq_iff_eq, Option.all_eq_true, and_assoc]
      constructor
      · rintro ⟨hactive, hcred, hdrone, hdigest⟩
        exact ⟨prior, hprior, hauthority, href, hactive, hcred, hdrone, hdigest⟩
      · rintro ⟨record, hrecord, -, -, hactive, hcred, hdrone, hdigest⟩
        obtain rfl := honly record hrecord
        exact ⟨hactive, hcred, hdrone, hdigest⟩
    | absent =>
      simp only [Bool.not_eq_true', decide_eq_false_iff_not]
      constructor
      · intro hactive record hrecord _ _
        rw [honly record hrecord]
        exact hactive
      · intro h
        exact h prior hprior hauthority href

/-- The stored digest at the ref is not the given one. -/
def DigestDiffers (store : SeatsFile) (ref : String) (digest : HexDigest) : Prop :=
  ∀ record, (ref, record) ∈ store → digestOf record.credential ≠ digest

/-- A revalidating prepare whose expectation does not hold, or a scrub, bind or activate for
another digest. -/
def SeatCall.Unmet (store : SeatsFile) : SeatCall → Prop
  | .prepare input => input.revalidate = true ∧ ¬ Expected input store
  | .activate input => DigestDiffers store (seatRef input.toSeatIdentity) input.expectedPendingDigest
  | .bindPending input =>
    DigestDiffers store (seatRef input.toSeatIdentity) input.expectedPendingDigest
  | .scrub ref _ digest => DigestDiffers store ref digest
  | _ => False

lemma SeatCall.Unmet.commit_eq_none {store : SeatsFile} {call : SeatCall} (h : call.Unmet store) :
    call.commit store = none := by
  cases hcommit : call.commit store with
  | none => rfl
  | some written =>
    exfalso
    cases call with
    | prepare input =>
      have hholds : input.expected.holds (store.get (seatRef input.seed.toSeatIdentity))
          (seatRef input.seed.toSeatIdentity) input.seed.toSeatAuthority = false := by
        rw [← Bool.not_eq_true, holds_iff_expected]
        exact h.2
      simp [SeatCall.commit, prepareSeat, h.1, hholds] at hcommit
    | activate input =>
      cases activateAndBindSeat_change hcommit with
      | activated _ record hrecord _ _ hdigest _ _ => exact h record hrecord hdigest
      | minted _ _ hcall =>
        rcases hcall with hcall | ⟨_, hcall, _⟩
        · cases hcall
        · cases hcall
      | removed _ _ hcall => exact hcall
    | bindPending input =>
      cases bindPendingSeatToWorktree_change hcommit with
      | boundPending _ record hrecord _ hdigest _ _ => exact h record hrecord hdigest
      | minted _ _ hcall =>
        rcases hcall with hcall | ⟨_, hcall, _⟩
        · cases hcall
        · cases hcall
      | removed _ _ hcall => exact hcall
    | scrub ref binding digest =>
      obtain ⟨⟨record, hrecord, -, hdigest⟩, -⟩ := scrubPendingSeat_change hcommit
      exact h record hrecord hdigest
    | mint input => exact h
    | reset expected => exact h
    | clear ref => exact h
    | refresh input => exact h

lemma SeatCall.Unmet.step_eq {w : SeatWorld} {store : SeatsFile} {call : SeatCall}
    (hload : seatsFormat.load w.file = some store) (h : call.Unmet store) : seatStep w call = w := by
  unfold seatStep
  simp only [hload, h.commit_eq_none]

/-- A scrub or a pending bind leaves every ACTIVE record. -/
lemma keeps_active {store written : SeatsFile} {call : SeatCall}
    (hcall : (∃ ref binding digest, call = .scrub ref binding digest) ∨
      ∃ input, call = .bindPending input)
    (hcommit : call.commit store = some written) {e : String × SeatRecord} (he : e ∈ store)
    (hactive : e.2.state = .active) : e ∈ written := by
  have hother : ∀ ref record, (ref, record) ∈ store → record.state = .pending → e.1 ≠ ref := by
    rintro ref record hrecord hpending rfl
    obtain rfl : e.2 = record := (Prod.ext_iff.mp (Table.eq_of_key he hrecord rfl)).2
    rw [hactive] at hpending
    cases hpending
  rcases hcall with ⟨ref, binding, digest, rfl⟩ | ⟨input, rfl⟩
  · obtain ⟨⟨record, hrecord, hpending, -⟩, hmem⟩ := scrubPendingSeat_change hcommit
    exact (hmem e).mpr ⟨he, hother ref record hrecord hpending⟩
  · cases bindPendingSeatToWorktree_change hcommit with
    | boundPending _ record hrecord hpending _ _ hmem =>
      exact (hmem e).mpr (Or.inr ⟨he, hother _ record hrecord hpending⟩)
    | minted _ _ hcall =>
      rcases hcall with hcall | ⟨_, hcall, _⟩
      · cases hcall
      · cases hcall
    | removed _ _ hcall => exact hcall.elim

/-- A refresh keeps the refs, and of each record all but its display. -/
lemma refresh_sameSession {store written : SeatsFile} {input : RefreshSeat}
    (h : (refreshSeatMetadata input store).2 = some written) (ref : String) :
    (∀ r, (ref, r) ∈ store → ∃ o, (ref, o) ∈ written ∧ SameSession r o) ∧
    (∀ o, (ref, o) ∈ written → ∃ r, (ref, r) ∈ store ∧ SameSession r o) := by
  cases refreshSeatMetadata_change h with
  | refreshed _ record hrecord _ hmem =>
    have hsame : SameSession record (input.display.over record) := ⟨rfl, rfl, rfl, rfl, rfl⟩
    refine ⟨?_, ?_⟩
    · intro r hr
      by_cases href : ref = input.credentialRef
      · subst href
        obtain rfl := (Prod.ext_iff.mp (Table.eq_of_key hr hrecord rfl)).2
        exact ⟨_, (hmem _).mpr (Or.inl rfl), hsame⟩
      · exact ⟨r, (hmem _).mpr (Or.inr ⟨hr, href⟩), rfl, rfl, rfl, rfl, rfl⟩
    · intro o ho
      rcases (hmem _).mp ho with heq | ⟨hold, -⟩
      · obtain ⟨rfl, rfl⟩ := Prod.ext_iff.mp heq
        exact ⟨record, hrecord, hsame⟩
      · exact ⟨o, hold, rfl, rfl, rfl, rfl, rfl⟩
  | minted _ _ hcall =>
    rcases hcall with hcall | ⟨_, hcall, _⟩
    · cases hcall
    · cases hcall
  | removed _ _ hcall => exact hcall.elim

/-- A server session stays with the bearer it was given for, in every store of a run. -/
theorem bearers_bound {file : Option SeatsText} {initial : SeatsFile}
    (hload : seatsFormat.load file = some initial) (calls : List SeatCall) :
    let w := run seatStep (.start file) calls
    ∀ store, seatsFormat.load w.file = some store →
      Attached initial w store ∧
      (∀ (call : SeatCall) (written : SeatsFile), call.commit store = some written →
        (∃ ref binding digest, call = .scrub ref binding digest) ∨
          (∃ input, call = .bindPending input) →
        ∀ e ∈ store, e.2.state = .active → e ∈ written) ∧
      (∀ call : SeatCall, call.Unmet store → seatStep w call = w) ∧
      ∀ (input : RefreshSeat) (written : SeatsFile),
        (refreshSeatMetadata input store).2 = some written → ∀ ref,
          (∀ r, (ref, r) ∈ store → ∃ o, (ref, o) ∈ written ∧ SameSession r o) ∧
          (∀ o, (ref, o) ∈ written → ∃ r, (ref, r) ∈ store ∧ SameSession r o) := by
  intro w store hstore
  refine ⟨attached_run hload calls store hstore, ?_, ?_, ?_⟩
  · intro call written hcommit hcall e he hactive
    exact keeps_active hcall hcommit he hactive
  · intro call hunmet
    exact hunmet.step_eq hstore
  · intro input written hcommit ref
    exact refresh_sameSession hcommit ref

end Invariants

section Instances

attribute [local instance] plainSeats

/-- The sessions after a mint into no file. -/
theorem bearers_bound_mint :
    let w := run seatStep (.start none) [.mint mintedSeed]
    ∀ store, seatsFormat.load w.file = some store →
      Attached emptyStore w store ∧
      (∀ (call : SeatCall) (written : SeatsFile), call.commit store = some written →
        (∃ ref binding digest, call = .scrub ref binding digest) ∨
          (∃ input, call = .bindPending input) →
        ∀ e ∈ store, e.2.state = .active → e ∈ written) ∧
      (∀ call : SeatCall, call.Unmet store → seatStep w call = w) ∧
      ∀ (input : RefreshSeat) (written : SeatsFile),
        (refreshSeatMetadata input store).2 = some written → ∀ ref,
          (∀ r, (ref, r) ∈ store → ∃ o, (ref, o) ∈ written ∧ SameSession r o) ∧
          (∀ o, (ref, o) ∈ written → ∃ r, (ref, r) ∈ store ∧ SameSession r o) :=
  bearers_bound (rfl : seatsFormat.load none = some emptyStore) [.mint mintedSeed]

/-- A prepare that does not revalidate mints although its EXACT expectation does not hold. -/
theorem unrevalidated_mints :
    ∃ (input : PrepareSeat) (written : SeatsFile), seatsFormat.load none = some emptyStore ∧
      ¬ Expected input emptyStore ∧ (prepareSeat input emptyStore).2 = some written ∧
      ∃ e, e ∈ written := by
  have hmatch : recordMatches (emptyStore.get (seatRef mintedSeed.toSeatIdentity))
      (seatRef mintedSeed.toSeatIdentity) mintedSeed.toSeatAuthority = none := rfl
  refine ⟨⟨.exact (seatRef mintedSeed.toSeatIdentity) none none, false, false, mintedSeed⟩,
    emptyStore.put (seatRef mintedSeed.toSeatIdentity) mintedSeed.record, rfl, ?_, ?_,
    (seatRef mintedSeed.toSeatIdentity, mintedSeed.record), SeatsFile.mem_put.mpr (Or.inl rfl)⟩
  · rintro ⟨record, hrecord, -⟩
    exact absurd hrecord not_mem_nil
  · unfold prepareSeat
    simp [hmatch]

end Instances

end BorgClient.Seats
