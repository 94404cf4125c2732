import BorgClient.Assimilation.Flow

/-!
# The two lookups of a worktree's seat

`getSeatForWorktree` takes the first record bound to a worktree, `getActiveSeatForWorktree` the ACTIVE
one. They agree in the stores in which no other record of the worktree stands ahead of the ACTIVE one.
-/

namespace BorgClient.Seats
open List Tables Runs
open Assimilation (getActiveSeatForWorktree getSeatForWorktree)

section Invariants

variable [SeatPlatform]

/-! ### The rows a transaction writes -/

/-- The rows of `store` in their order, and at most one record put under its ref. -/
inductive RowChange (store written : SeatsFile) (call : SeatCall) : Prop
  | kept (h : written.rows <+ store.rows)
  | minted (kept : SeatsFile) (hkept : kept.rows <+ store.rows) (ref : String)
      (record : SeatRecord) (hpending : record.state = .pending) (hunbound : record.worktree = none)
      (hwritten : written = kept.put ref record)
  | activated (kept : SeatsFile) (hkept : kept.rows <+ store.rows) (input : ActivateSeat)
      (order : ℕ) (record : SeatRecord) (hcall : call = .activate input)
      (hrecord : (seatRef input.toSeatIdentity, record) ∈ kept)
      (hretired : ∀ e ∈ kept, e.1 ≠ seatRef input.toSeatIdentity → bound input.worktree e = false)
      (hwritten : written = kept.put (seatRef input.toSeatIdentity) (input.over order record))
  | rewritten (ref : String) (old new : SeatRecord) (hold : (ref, old) ∈ store)
      (hstate : new.state = old.state)
      (hworktree : new.worktree = old.worktree ∨ ∃ input, call = .bindPending input ∧
        ref = seatRef input.toSeatIdentity ∧ old.state = .pending ∧
        new.worktree = some input.worktree)
      (hwritten : written = store.put ref new)

lemma mintPendingSeat_rows {input : SeatSeed} {store written : SeatsFile}
    (h : (mintPendingSeat input store).2 = some written) :
    RowChange store written (.mint input) := by
  unfold mintPendingSeat at h
  dsimp only at h
  split at h
  · cases h
  · obtain rfl := Option.some.inj h
    exact .minted store (Sublist.refl _) _ input.record rfl rfl rfl

lemma prepareSeat_rows {input : PrepareSeat} {store written : SeatsFile}
    (h : (prepareSeat input store).2 = some written) :
    RowChange store written (.prepare input) := by
  unfold prepareSeat at h
  dsimp only at h
  split at h
  · cases h
  · split at h
    · cases h
    · obtain rfl := Option.some.inj h
      refine .minted _ ?_ _ input.seed.record rfl rfl rfl
      split
      · exact filter_sublist
      · exact Sublist.refl _

lemma activateAndBindSeat_rows {input : ActivateSeat} {store written : SeatsFile}
    (h : (activateAndBindSeat input store).2 = some written) :
    RowChange store written (.activate input) := by
  unfold activateAndBindSeat at h
  dsimp only at h
  split at h
  · cases h
  · split at h
    · cases h
    · rename_i record hmatch
      split at h
      · cases h
      · split at h
        · cases h
        · obtain ⟨hget, -, -⟩ := recordMatches_eq_some.mp hmatch
          obtain rfl := Option.some.inj h
          refine .activated _ filter_sublist input _ record rfl ?_ ?_ rfl
          · exact Table.mem_delete.mpr ⟨SeatsFile.get_eq_some.mp hget, by simp⟩
          · intro e he hne
            have hkeep := (Table.mem_delete.mp he).2
            simpa [hne] using hkeep

lemma bindPendingSeatToWorktree_rows {input : BindPendingSeat} {store written : SeatsFile}
    (h : (bindPendingSeatToWorktree input store).2 = some written) :
    RowChange store written (.bindPending input) := by
  unfold bindPendingSeatToWorktree at h
  dsimp only at h
  split at h
  · cases h
  · split at h
    · cases h
    · rename_i record hmatch
      split at h
      · cases h
      · rename_i hguard
        simp only [Bool.or_eq_true, decide_eq_true_eq, not_or, not_not] at hguard
        obtain ⟨hget, -, -⟩ := recordMatches_eq_some.mp hmatch
        obtain rfl := Option.some.inj h
        exact .rewritten _ record (input.over record) (SeatsFile.get_eq_some.mp hget) rfl
          (Or.inr ⟨input, rfl, rfl, hguard.1, rfl⟩) rfl

lemma refreshSeatMetadata_rows {input : RefreshSeat} {store written : SeatsFile}
    (h : (refreshSeatMetadata input store).2 = some written) :
    RowChange store written (.refresh input) := by
  unfold refreshSeatMetadata at h
  split at h
  · cases h
  · split at h
    · cases h
    · rename_i record hget
      split at h
      · cases h
      · obtain rfl := Option.some.inj h
        exact .rewritten _ record (input.display.over record) (SeatsFile.get_eq_some.mp hget) rfl
          (Or.inl rfl) rfl

lemma SeatCall.commit_rows {call : SeatCall} {store written : SeatsFile}
    (h : call.commit store = some written) : RowChange store written call := by
  have hremove : ∀ ref, written = store.remove ref → RowChange store written call := by
    rintro ref rfl
    exact .kept filter_sublist
  cases call with
  | mint input => exact mintPendingSeat_rows h
  | prepare input => exact prepareSeat_rows h
  | activate input => exact activateAndBindSeat_rows h
  | bindPending input => exact bindPendingSeatToWorktree_rows h
  | refresh input => exact refreshSeatMetadata_rows h
  | reset expected =>
    unfold SeatCall.commit resetSeatForWorktree at h
    dsimp only at h
    split at h
    · cases h
    · split at h
      · cases h
      · exact hremove _ (Option.some.inj h).symm
  | scrub ref binding digest =>
    unfold SeatCall.commit scrubPendingSeat at h
    dsimp only at h
    split at h
    · cases h
    · split at h
      · cases h
      · split at h
        · cases h
        · split at h
          · cases h
          · exact hremove _ (Option.some.inj h).symm
  | clear ref =>
    unfold SeatCall.commit clearSeat at h
    dsimp only at h
    split at h
    · cases h
    · dsimp only at h
      split at h
      · exact hremove _ (Option.some.inj h).symm
      · cases h

/-! ### No record ahead of the ACTIVE one -/

/-- No other record of its worktree stands ahead of an ACTIVE record. -/
def Led (store : SeatsFile) : Prop :=
  ∀ o e, [o, e] <+ store.rows → ∀ worktree, bound worktree e = true →
    o.2.worktree ≠ some worktree

/-- The transaction binds no pending record ahead of the ACTIVE one, and activates no record behind a
pending one of the worktree. -/
def SeatCall.KeepsAhead (call : SeatCall) (store : SeatsFile) : Prop :=
  match call with
  | .activate input => ∀ o record, [o, (seatRef input.toSeatIdentity, record)] <+ store.rows →
      o.2.state = .pending → o.2.worktree ≠ some input.worktree
  | .bindPending input => ∀ record e, [(seatRef input.toSeatIdentity, record), e] <+ store.rows →
      bound input.worktree e = false
  | _ => True

omit [SeatPlatform] in
lemma Led.sublist {store written : SeatsFile} (h : Led store) (hs : written.rows <+ store.rows) :
    Led written :=
  fun o e hoe => h o e (hoe.trans hs)

omit [SeatPlatform] in
lemma bound_of_eq {worktree ref ref' : String} {r o : SeatRecord} (hstate : r.state = o.state)
    (hworktree : r.worktree = o.worktree) : bound worktree (ref, r) = bound worktree (ref', o) := by
  unfold bound
  rw [hstate, hworktree]

lemma Led.step {store written : SeatsFile} {call : SeatCall} (h : Led store)
    (hahead : call.KeepsAhead store) (hchange : RowChange store written call) : Led written := by
  cases hchange with
  | kept hs => exact h.sublist hs
  | minted kept hkept ref record hpending hunbound hwritten =>
    subst hwritten
    intro o e hoe worktree hbound
    have he : e ≠ (ref, record) := by
      rintro rfl
      have hactive := (bound_iff.mp hbound).1
      rw [hpending] at hactive
      cases hactive
    rcases Table.ahead_upsert hoe with ⟨o', e', hold, ho, he'⟩ | ⟨heq, -⟩
    · split at he'
      · exact absurd he' he
      · subst he'
        split at ho
        · subst ho
          simp [hunbound]
        · subst ho
          exact h o e (hold.trans hkept) worktree hbound
    · exact absurd heq he
  | activated kept hkept input order record hcall hrecord hretired hwritten =>
    subst hwritten hcall
    have hrows : ∀ {o e : String × SeatRecord}, [o, e] <+ kept.rows → e.1 ≠ o.1 := by
      intro o e hoe hkey
      have hn := kept.unique.sublist (hoe.map Prod.fst)
      simp [hkey] at hn
    intro o e hoe worktree hbound
    rcases Table.ahead_upsert hoe with ⟨o', e', hold, ho, he⟩ | ⟨-, -, hnew⟩
    · have hmem : e' ∈ kept := hold.subset (by simp)
      have homem : o' ∈ kept := hold.subset (by simp)
      split at he
      · rename_i hkey
        subst he
        have hworktree : worktree = input.worktree :=
          (Option.some.inj (bound_iff.mp hbound).2).symm
        have hne : o'.1 ≠ seatRef input.toSeatIdentity := fun hk => hrows hold (hkey.trans hk.symm)
        rw [if_neg hne] at ho
        subst ho
        rw [hworktree]
        intro hbad
        -- an ACTIVE record of the worktree was retired
        have hstate : o.2.state = .pending := by
          cases hs : o.2.state with
          | pending => rfl
          | active =>
            have hnot := hretired o homem hne
            rw [bound_iff.mpr ⟨hs, hbad⟩] at hnot
            cases hnot
        obtain rfl := Table.eq_of_key hmem hrecord hkey
        exact hahead o record (hold.trans hkept) hstate hbad
      · rename_i hkey
        subst he
        split at ho
        · subst ho
          intro hsame
          have hworktree : input.worktree = worktree := Option.some.inj hsame
          have hnot := hretired e hmem hkey
          rw [hworktree, hbound] at hnot
          cases hnot
        · subst ho
          exact h o e (hold.trans hkept) worktree hbound
    · exact (hnew (_, record) hrecord rfl).elim
  | rewritten ref old new hold hstate hworktree hwritten =>
    subst hwritten
    intro o e hoe worktree hbound
    rcases Table.ahead_upsert hoe with ⟨o', e', hpair, ho, he⟩ | ⟨-, -, hnew⟩
    · have hmem : e' ∈ store := hpair.subset (by simp)
      have homem : o' ∈ store := hpair.subset (by simp)
      have hne : e'.1 ≠ o'.1 := by
        intro hkey
        have hn := store.unique.sublist (hpair.map Prod.fst)
        simp [hkey] at hn
      split at he
      · rename_i hkey
        obtain rfl := Table.eq_of_key hmem hold hkey
        rw [if_neg (fun hk => hne (hkey.trans hk.symm))] at ho
        subst he ho
        -- an ACTIVE record is never bound as a pending one
        rcases hworktree with hworktree | ⟨input, rfl, -, hpending, -⟩
        · rw [bound_of_eq hstate hworktree] at hbound
          exact h o (ref, old) hpair worktree hbound
        · have hactive : new.state = .active := (bound_iff.mp hbound).1
          rw [hstate, hpending] at hactive
          cases hactive
      · rename_i hkey
        subst he
        split at ho
        · rename_i hokey
          obtain rfl := Table.eq_of_key homem hold hokey
          subst ho
          rcases hworktree with hworktree | ⟨input, rfl, rfl, -, hworktree⟩
          · rw [hworktree]
            exact h (ref, old) e hpair worktree hbound
          · intro hsame
            rw [hworktree] at hsame
            have hbound' := hahead old e hpair
            rw [Option.some.inj hsame, hbound] at hbound'
            cases hbound'
        · subst ho
          exact h o e hpair worktree hbound
    · exact (hnew (ref, old) hold rfl).elim

/-! ### Runs -/

/-- The store a call leaves to the next one: what it commits, as that is loaded. -/
def loadedStep (store : SeatsFile) (call : SeatCall) : SeatsFile :=
  (call.commit store).elim store repairOrderedDuplicateBindings

lemma load_seatStep {w : SeatWorld} {store : SeatsFile} {call : SeatCall}
    (hload : seatsFormat.load w.file = some store) (hshape : call.WellShaped) :
    seatsFormat.load (seatStep w call).file = some (loadedStep store call) := by
  unfold seatStep loadedStep
  simp only [hload]
  cases hcommit : call.commit store with
  | none => exact hload
  | some written =>
    exact load_render ((SeatCall.commit_change hcommit).valid hshape (load_valid hload))

/-- A run of the file is a run of the stores. -/
lemma load_run {calls : List SeatCall} (hcalls : ∀ call ∈ calls, call.WellShaped) {w : SeatWorld}
    {store : SeatsFile} (hload : seatsFormat.load w.file = some store) :
    seatsFormat.load (run seatStep w calls).file = some (calls.foldl loadedStep store) := by
  induction calls generalizing w store with
  | nil => exact hload
  | cons call calls ih =>
    exact ih (fun c hc => hcalls c (mem_cons_of_mem _ hc))
      (load_seatStep hload (hcalls call mem_cons_self))

/-- Where the transaction commits, it keeps the worktree's ACTIVE record ahead. -/
def LooksAhead (w : SeatWorld) (call : SeatCall) : Prop :=
  ∀ store, seatsFormat.load w.file = some store → (call.commit store).isSome = true →
    call.KeepsAhead store

lemma led_run {calls : List SeatCall} (hm : Meets seatStep LooksAhead (.start none) calls) :
    ∀ store, seatsFormat.load (run seatStep (.start none) calls).file = some store → Led store := by
  refine invariant_of_meets seatStep
    (fun w => ∀ store, seatsFormat.load w.file = some store → Led store) ?_ ?_ hm
  · intro w call hled hahead
    rcases seatStep_cases w call with heq | ⟨store, written, hstore, hcommit, heq⟩
    · rw [heq]
      exact hled
    · rw [heq]
      intro store' hload
      obtain rfl := load_written hload
      have hkeeps := hahead store hstore (by rw [hcommit]; rfl)
      exact ((hled store hstore).step hkeeps (SeatCall.commit_rows hcommit)).sublist
        (repair_sublist written)
  · intro store hload
    obtain rfl : emptyStore = store := Option.some.inj hload
    intro o e hoe
    cases hoe

/-- Where the ACTIVE record leads, both lookups find it. -/
lemma Led.lookup {store : SeatsFile} (h : Led store) {worktree : String} {record : SeatRecord}
    (hactive : getActiveSeatForWorktree store worktree = .ok (some record)) :
    getSeatForWorktree store worktree = some record := by
  unfold getActiveSeatForWorktree at hactive
  split at hactive
  · cases hactive
  · rename_i e heq
    obtain rfl := Option.some.inj (Except.ok.inj hactive)
    have hmem : e ∈ store.rows.filter
        (fun e => bound worktree e && seatRef e.2.toSeatIdentity == e.1) := by
      rw [heq]
      exact mem_singleton_self e
    obtain ⟨hstore, hkey⟩ := mem_filter.mp hmem
    simp only [Bool.and_eq_true, beq_iff_eq] at hkey
    have hfits : (decide (e.2.worktree = some worktree) &&
        seatRef e.2.toSeatIdentity == e.1) = true := by
      simp [(bound_iff.mp hkey.1).2, hkey.2]
    unfold getSeatForWorktree
    cases hfind : store.rows.find? (fun e => e.2.worktree = some worktree &&
        seatRef e.2.toSeatIdentity == e.1) with
    | none => exact absurd hfits (find?_eq_none.mp hfind e hstore)
    | some o =>
      have hworktree := find?_some hfind
      simp only [Bool.and_eq_true, decide_eq_true_eq] at hworktree
      by_cases hoe : e = o
      · rw [hoe]
        rfl
      · exact absurd hworktree.1
          (h o e (Table.ahead_of_find? hfind hstore hfits hoe) worktree hkey.1)
  · cases hactive

/-- From no file, where each transaction keeps the ACTIVE record of a worktree ahead of its pending
ones: the two lookups agree wherever an ACTIVE seat is found. -/
theorem lookups_agree {calls : List SeatCall}
    (hm : Meets seatStep LooksAhead (.start none) calls) :
    ∀ store, seatsFormat.load (run seatStep (.start none) calls).file = some store →
      ∀ worktree record, getActiveSeatForWorktree store worktree = .ok (some record) →
        getSeatForWorktree store worktree = some record :=
  fun store hload _ _ hactive => (led_run hm store hload).lookup hactive

end Invariants

section Instances

attribute [local instance] plainSeats

def laterSeed : SeatSeed := { mintedSeed with operation := ⟨"/repo", .sibling, "another"⟩ }

def activateSeed (seed : SeatSeed) (worktree : String) : ActivateSeat :=
  { seed.toSeatIdentity with
    droneId := "00000000-0000-0000-0000-000000000000"
    sessionId := "00000000-0000-0000-0000-000000000000"
    expectedPendingDigest := digestOf seed.credential
    worktree := worktree
    commonDir := none
    repositoryOrigin := none
    name := "cube"
    droneLabel := "drone"
    roleName := none
    roleClass := none
    isHumanSeat := none }

def bindSeed (seed : SeatSeed) (worktree : String) : BindPendingSeat :=
  { seed.toSeatIdentity with
    expectedPendingDigest := digestOf seed.credential
    droneId := none
    worktree := worktree
    name := "cube"
    droneLabel := "drone"
    roleName := none
    roleClass := none
    isHumanSeat := none }

lemma ok_of_toOption_join {ε α : Type} {found : Except ε (Option α)} {value : α}
    (h : found.toOption.join = some value) : found = .ok (some value) := by
  cases found with
  | error error => cases h
  | ok found =>
    cases found with
    | none => cases h
    | some other =>
      cases h
      rfl

/-- Two seats minted, the later one activated in a worktree, the earlier one bound to it. -/
def shadowCalls : List SeatCall :=
  [.mint mintedSeed, .mint laterSeed, .activate (activateSeed laterSeed "/repo-1"),
    .bindPending (bindSeed mintedSeed "/repo-1")]

lemma shadowCalls_shape : ∀ call ∈ shadowCalls, call.WellShaped := by
  have hshape : ∀ seed ∈ [mintedSeed, laterSeed],
      isValidSeatRecord (seatRef seed.toSeatIdentity) seed.record = true := by
    decide +kernel
  intro call hcall
  simp only [shadowCalls, mem_cons, not_mem_nil, or_false] at hcall
  rcases hcall with rfl | rfl | rfl | rfl
  · exact hshape mintedSeed (by simp)
  · exact hshape laterSeed (by simp)
  · exact ⟨by decide, by decide⟩
  · trivial

/-- The bound pending record stands ahead, and shadows the ACTIVE one. -/
theorem pending_shadows_active :
    (∀ call ∈ shadowCalls, call.WellShaped) ∧
    ∃ store active pending,
      seatsFormat.load (run seatStep (.start none) shadowCalls).file = some store ∧
      getActiveSeatForWorktree store "/repo-1" = .ok (some active) ∧
      getSeatForWorktree store "/repo-1" = some pending ∧
      active.state = .active ∧ pending.state = .pending := by
  refine ⟨shadowCalls_shape, shadowCalls.foldl loadedStep emptyStore, ?_⟩
  have hactive : ((getActiveSeatForWorktree (shadowCalls.foldl loadedStep emptyStore)
      "/repo-1").toOption.join.any (·.state = .active)) = true := by
    decide +kernel
  have hpending : ((getSeatForWorktree (shadowCalls.foldl loadedStep emptyStore)
      "/repo-1").any (·.state = .pending)) = true := by
    decide +kernel
  obtain ⟨active, hfound, hactive⟩ := (Option.any_eq_true _ _).mp hactive
  obtain ⟨pending, hshadow, hpending⟩ := (Option.any_eq_true _ _).mp hpending
  exact ⟨active, pending, load_run shadowCalls_shape rfl, ok_of_toOption_join hfound, hshadow,
    of_decide_eq_true hactive, of_decide_eq_true hpending⟩

/-- Two seats minted, and one activated. -/
def leadingCalls : List SeatCall :=
  [.mint mintedSeed, .mint laterSeed, .activate (activateSeed laterSeed "/repo-1")]

/-- The lookups after an activation. -/
theorem lookups_agree_leading :
    ∃ store record, seatsFormat.load (run seatStep (.start none) leadingCalls).file = some store ∧
      getActiveSeatForWorktree store "/repo-1" = .ok (some record) ∧
        getSeatForWorktree store "/repo-1" = some record := by
  have hcalls : ∀ call ∈ leadingCalls, call.WellShaped :=
    fun call hcall => shadowCalls_shape call (mem_append_left _ hcall)
  have hunbound : ((leadingCalls.take 2).foldl loadedStep emptyStore).rows.all
      (fun e => e.2.worktree = none) = true := by
    decide +kernel
  have hsome : (getActiveSeatForWorktree (leadingCalls.foldl loadedStep emptyStore)
      "/repo-1").toOption.join.isSome = true := by
    decide +kernel
  have hload : seatsFormat.load (run seatStep (.start none) leadingCalls).file =
      some (leadingCalls.foldl loadedStep emptyStore) := load_run hcalls rfl
  obtain ⟨record, hfound⟩ := Option.isSome_iff_exists.mp hsome
  have hactive := ok_of_toOption_join hfound
  refine ⟨_, record, hload, hactive, ?_⟩
  refine @lookups_agree _ leadingCalls ⟨fun _ _ _ => trivial, fun _ _ _ => trivial, ?_, trivial⟩
    _ hload "/repo-1" record hactive
  intro store hstore _ o record hpair _ hworktree
  have hminted : seatsFormat.load (run seatStep (.start none) (leadingCalls.take 2)).file =
      some ((leadingCalls.take 2).foldl loadedStep emptyStore) :=
    load_run (fun call hcall => hcalls call (mem_of_mem_take hcall)) rfl
  obtain rfl : (leadingCalls.take 2).foldl loadedStep emptyStore = store :=
    Option.some.inj (hminted.symm.trans hstore)
  have hnone := all_eq_true.mp hunbound o (hpair.subset (by simp))
  simp [hworktree] at hnone

end Instances

end BorgClient.Seats
