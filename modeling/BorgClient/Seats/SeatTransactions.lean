import BorgClient.Seats.SeatStore

/-!
# The seat transactions

The eight transactions of `seats.ts`, each its outcome and the data it commits, `none` when it
commits nothing.
-/

namespace BorgClient.Seats
open List Tables
open Cursor (matchesUuid)

variable [SeatPlatform]

/-- The messages of the errors the transactions throw. -/
inductive SeatError
  | invalidIdentity
  | bindOrderExhausted
  | invalidReference
deriving DecidableEq, Repr

def SeatError.message : SeatError → String
  | .invalidIdentity => "invalid Borg server session identity"
  | .bindOrderExhausted =>
    "Borg private seat store bind order is exhausted; refusing to activate a seat"
  | .invalidReference => "invalid Borg server session credential reference"

/-- A well-formed seat for the ref, of the caller's authority. -/
def recordMatches (record : Option SeatRecord) (ref : String) (binding : SeatAuthority) :
    Option SeatRecord :=
  record.filter (fun r => r.toSeatAuthority = binding && seatRef r.toSeatIdentity == ref)

/-! ### Minting -/

structure SeatSeed extends SeatIdentity where
  credential : String
deriving DecidableEq, Repr

/-- The PENDING record minted for a seed. -/
def SeatSeed.record (seed : SeatSeed) : SeatRecord :=
  { seed with
    state := .pending, bindingOrder := none, droneId := none, sessionId := none, worktree := none,
    commonDir := none, repositoryOrigin := none, name := none, droneLabel := none,
    roleName := none, roleClass := none, isHumanSeat := none }

def mintPendingSeat (input : SeatSeed) (store : SeatsFile) : SeatRecord × Option SeatsFile :=
  let ref := seatRef input.toSeatIdentity
  match recordMatches (store.get ref) ref input.toSeatAuthority with
  | some existing => (existing, none)
  | none => (input.record, some (store.put ref input.record))

inductive SeatExpectation
  | exact (credentialRef : String) (droneId : Option String) (sessionDigest : Option HexDigest)
  | absent
deriving DecidableEq

inductive PrepareSeatOutcome
  | ok (record : SeatRecord)
  | expectationMismatch
deriving DecidableEq

/-- The expectation holds of the record at the ref. -/
def SeatExpectation.holds (expected : SeatExpectation) (prior : Option SeatRecord) (ref : String)
    (binding : SeatAuthority) : Bool :=
  match expected, recordMatches prior ref binding with
  | .exact credentialRef droneId sessionDigest, some prior =>
    prior.state = .active && ref == credentialRef && droneId.all (prior.droneId = some ·) &&
      sessionDigest.all (digestOf prior.credential = ·)
  | .exact _ _ _, none => false
  | .absent, some prior => !decide (prior.state = .active)
  | .absent, none => true

structure PrepareSeat where
  expected : SeatExpectation
  revalidate : Bool
  scrubBeforeMint : Bool
  seed : SeatSeed
deriving DecidableEq

def prepareSeat (input : PrepareSeat) (store : SeatsFile) : PrepareSeatOutcome × Option SeatsFile :=
  let ref := seatRef input.seed.toSeatIdentity
  let binding := input.seed.toSeatAuthority
  if input.revalidate && !input.expected.holds (store.get ref) ref binding then
    (.expectationMismatch, none)
  else
    let data := if input.scrubBeforeMint then store.remove ref else store
    match recordMatches (data.get ref) ref binding with
    | some existing => (.ok existing, none)
    | none => (.ok input.seed.record, some (data.put ref input.seed.record))

/-! ### Activating and binding -/

structure ActivateSeat extends SeatIdentity where
  droneId : String
  sessionId : String
  expectedPendingDigest : HexDigest
  worktree : String
  commonDir : Option String
  repositoryOrigin : Option String
  name : String
  droneLabel : String
  roleName : Option String
  roleClass : Option RoleClass
  isHumanSeat : Option Bool
deriving DecidableEq

inductive ActivateSeatOutcome | activated | missing | replaced
deriving DecidableEq, Repr

/-- The greatest order of the store, 0 without one. -/
def highestOrder (store : SeatsFile) : ℕ :=
  store.rows.foldl (fun highest e => max highest (e.2.bindingOrder.getD 0)) 0

/-- The order of an activation: the record's own where it is ACTIVE in the worktree already. -/
def nextOrder (store : SeatsFile) (record : SeatRecord) (worktree : String) : ℕ :=
  match record.bindingOrder with
  | some order =>
    if record.state = .active && record.worktree = some worktree then order
    else highestOrder store + 1
  | none => highestOrder store + 1

/-- The record an activation writes over `record`. -/
def ActivateSeat.over (input : ActivateSeat) (bindingOrder : ℕ) (record : SeatRecord) : SeatRecord :=
  { record with
    state := .active
    bindingOrder := some bindingOrder
    droneId := some input.droneId
    sessionId := some input.sessionId
    worktree := some input.worktree
    commonDir := input.commonDir <|> record.commonDir
    repositoryOrigin := input.repositoryOrigin <|> record.repositoryOrigin
    name := some input.name
    droneLabel := some input.droneLabel
    roleName := input.roleName <|> record.roleName
    roleClass := input.roleClass <|> record.roleClass
    isHumanSeat := input.isHumanSeat <|> record.isHumanSeat }

def activateAndBindSeat (input : ActivateSeat) (store : SeatsFile) :
    Except SeatError ActivateSeatOutcome × Option SeatsFile :=
  if !matchesUuid input.droneId || !matchesUuid input.sessionId then (.error .invalidIdentity, none)
  else
    let ref := seatRef input.toSeatIdentity
    match recordMatches (store.get ref) ref input.toSeatAuthority with
    | none => (.ok .missing, none)
    | some record =>
      if digestOf record.credential ≠ input.expectedPendingDigest then (.ok .replaced, none)
      else
        let bindingOrder := nextOrder store record input.worktree
        if bindingOrder > MAX_SAFE_INTEGER then (.error .bindOrderExhausted, none)
        else
          let retired : SeatsFile := store.delete (fun e => e.1 != ref && bound input.worktree e)
          (.ok .activated, some (retired.put ref (input.over bindingOrder record)))

structure BindPendingSeat extends SeatIdentity where
  expectedPendingDigest : HexDigest
  droneId : Option String
  worktree : String
  name : String
  droneLabel : String
  roleName : Option String
  roleClass : Option RoleClass
  isHumanSeat : Option Bool
deriving DecidableEq

inductive BindPendingSeatOutcome | bound | missing | replaced
deriving DecidableEq, Repr

def BindPendingSeat.over (input : BindPendingSeat) (record : SeatRecord) : SeatRecord :=
  { record with
    worktree := some input.worktree
    name := some input.name
    droneLabel := some input.droneLabel
    droneId := input.droneId <|> record.droneId
    roleName := input.roleName <|> record.roleName
    roleClass := input.roleClass <|> record.roleClass
    isHumanSeat := input.isHumanSeat <|> record.isHumanSeat }

def bindPendingSeatToWorktree (input : BindPendingSeat) (store : SeatsFile) :
    Except SeatError BindPendingSeatOutcome × Option SeatsFile :=
  if input.droneId.any (!matchesUuid ·) then (.error .invalidIdentity, none)
  else
    let ref := seatRef input.toSeatIdentity
    match recordMatches (store.get ref) ref input.toSeatAuthority with
    | none => (.ok .missing, none)
    | some record =>
      if record.state ≠ .pending || digestOf record.credential ≠ input.expectedPendingDigest then
        (.ok .replaced, none)
      else (.ok .bound, some (store.put ref (input.over record)))

/-! ### Removing and refreshing -/

inductive SeatObservation
  | active (digest : HexDigest) (droneId : String)
  | pending (digest : HexDigest)
  | absent
deriving DecidableEq

def SeatObservation.digest : SeatObservation → Option HexDigest
  | .active digest _ => some digest
  | .pending digest => some digest
  | .absent => none

structure ResetSeat where
  worktree : String
  ref : String
  droneId : Option String
  observation : SeatObservation
deriving DecidableEq

inductive ResetSeatOutcome
  | reset (ref : String)
  | noBinding
  | changed
deriving DecidableEq, Repr

def resetSeatForWorktree (expected : ResetSeat) (store : SeatsFile) :
    ResetSeatOutcome × Option SeatsFile :=
  match (store.get expected.ref).filter (fun r => r.worktree = some expected.worktree &&
      r.droneId = expected.droneId && seatRef r.toSeatIdentity == expected.ref) with
  | none =>
    (if store.rows.any (fun e => e.2.worktree = some expected.worktree) then .changed
      else .noBinding, none)
  | some record =>
    if expected.observation.digest.any (digestOf record.credential ≠ ·) then (.changed, none)
    else (.reset expected.ref, some (store.remove expected.ref))

def scrubPendingSeat (ref : String) (binding : SeatAuthority) (expectedPendingDigest : HexDigest)
    (store : SeatsFile) : Bool × Option SeatsFile :=
  if !matchesRef ref then (false, none)
  else
    match recordMatches (store.get ref) ref binding with
    | none => (false, none)
    | some record =>
      if record.state ≠ .pending then (false, none)
      else if digestOf record.credential ≠ expectedPendingDigest then (false, none)
      else (true, some (store.remove ref))

def clearSeat (ref : String) (store : SeatsFile) : Except SeatError Unit × Option SeatsFile :=
  if !matchesRef ref then (.error .invalidReference, none)
  else (.ok (), if (store.get ref).isSome then some (store.remove ref) else none)

structure SeatDisplay where
  name : String
  droneLabel : String
  roleName : Option String
  roleClass : Option RoleClass
  isHumanSeat : Option Bool
deriving DecidableEq

def SeatDisplay.over (display : SeatDisplay) (record : SeatRecord) : SeatRecord :=
  { record with
    name := some display.name
    droneLabel := some display.droneLabel
    roleName := display.roleName <|> record.roleName
    roleClass := display.roleClass <|> record.roleClass
    isHumanSeat := display.isHumanSeat <|> record.isHumanSeat }

structure RefreshSeat where
  worktree : String
  credentialRef : String
  cubeId : String
  droneId : String
  display : SeatDisplay
deriving DecidableEq

def refreshSeatMetadata (input : RefreshSeat) (store : SeatsFile) : Bool × Option SeatsFile :=
  if !matchesRef input.credentialRef then (false, none)
  else
    match store.get input.credentialRef with
    | none => (false, none)
    | some record =>
      if record.state ≠ .active || record.worktree ≠ some input.worktree ||
          record.cubeId ≠ input.cubeId || record.droneId ≠ some input.droneId ||
          seatRef record.toSeatIdentity ≠ input.credentialRef then (false, none)
      else (true, some (store.put input.credentialRef (input.display.over record)))

/-! ### One transaction -/

inductive SeatCall
  | mint (input : SeatSeed)
  | prepare (input : PrepareSeat)
  | activate (input : ActivateSeat)
  | bindPending (input : BindPendingSeat)
  | reset (expected : ResetSeat)
  | scrub (ref : String) (binding : SeatAuthority) (expectedPendingDigest : HexDigest)
  | clear (ref : String)
  | refresh (input : RefreshSeat)
deriving DecidableEq

/-- The data a transaction commits. -/
def SeatCall.commit (call : SeatCall) (store : SeatsFile) : Option SeatsFile :=
  match call with
  | .mint input => (mintPendingSeat input store).2
  | .prepare input => (prepareSeat input store).2
  | .activate input => (activateAndBindSeat input store).2
  | .bindPending input => (bindPendingSeatToWorktree input store).2
  | .reset expected => (resetSeatForWorktree expected store).2
  | .scrub ref binding digest => (scrubPendingSeat ref binding digest store).2
  | .clear ref => (clearSeat ref store).2
  | .refresh input => (refreshSeatMetadata input store).2

/-! ### What a commit changes -/

omit [SeatPlatform] in
lemma SeatsFile.get_eq_some {store : SeatsFile} {ref : String} {record : SeatRecord} :
    store.get ref = some record ↔ (ref, record) ∈ store := by
  unfold SeatsFile.get
  rw [Option.map_eq_some_iff]
  constructor
  · rintro ⟨⟨k, r⟩, hfind, rfl⟩
    obtain ⟨hmem, rfl⟩ := Table.find_eq_some.mp hfind
    exact hmem
  · intro h
    exact ⟨(ref, record), Table.find_eq_some.mpr ⟨h, rfl⟩, rfl⟩

omit [SeatPlatform] in
lemma SeatsFile.mem_put {store : SeatsFile} {ref : String} {record : SeatRecord}
    {e : String × SeatRecord} :
    e ∈ store.put ref record ↔ e = (ref, record) ∨ e ∈ store ∧ e.1 ≠ ref :=
  Table.mem_upsert

omit [SeatPlatform] in
lemma SeatsFile.mem_remove {store : SeatsFile} {ref : String} {e : String × SeatRecord} :
    e ∈ store.remove ref ↔ e ∈ store ∧ e.1 ≠ ref := by
  unfold SeatsFile.remove
  rw [Table.mem_delete, beq_eq_false_iff_ne]

lemma recordMatches_eq_some {record : Option SeatRecord} {ref : String} {binding : SeatAuthority}
    {r : SeatRecord} : recordMatches record ref binding = some r ↔
      record = some r ∧ r.toSeatAuthority = binding ∧ seatRef r.toSeatIdentity = ref := by
  unfold recordMatches
  rw [Option.filter_eq_some_iff]
  simp

/-- The transactions that only delete. -/
def SeatCall.Removes : SeatCall → Prop
  | .reset _ => True
  | .scrub _ _ _ => True
  | .clear _ => True
  | _ => False

/-- What a transaction that commits did to the store. -/
inductive SeatChange (store written : SeatsFile) : SeatCall → Prop
  | minted (call : SeatCall) (seed : SeatSeed)
      (hcall : call = .mint seed ∨ ∃ input : PrepareSeat, call = .prepare input ∧ input.seed = seed)
      (hmem : ∀ e, e ∈ written ↔ e = (seatRef seed.toSeatIdentity, seed.record) ∨
        e ∈ store ∧ e.1 ≠ seatRef seed.toSeatIdentity) : SeatChange store written call
  | activated (input : ActivateSeat) (record : SeatRecord)
      (hrecord : (seatRef input.toSeatIdentity, record) ∈ store)
      (hdrone : matchesUuid input.droneId = true) (hsession : matchesUuid input.sessionId = true)
      (hdigest : digestOf record.credential = input.expectedPendingDigest)
      (horder : nextOrder store record input.worktree ≤ MAX_SAFE_INTEGER)
      (hmem : ∀ e, e ∈ written ↔
        e = (seatRef input.toSeatIdentity,
          input.over (nextOrder store record input.worktree) record) ∨
        e ∈ store ∧ e.1 ≠ seatRef input.toSeatIdentity ∧ bound input.worktree e = false) :
      SeatChange store written (.activate input)
  | boundPending (input : BindPendingSeat) (record : SeatRecord)
      (hrecord : (seatRef input.toSeatIdentity, record) ∈ store)
      (hpending : record.state = .pending)
      (hdigest : digestOf record.credential = input.expectedPendingDigest)
      (hdrone : input.droneId.all matchesUuid = true)
      (hmem : ∀ e, e ∈ written ↔ e = (seatRef input.toSeatIdentity, input.over record) ∨
        e ∈ store ∧ e.1 ≠ seatRef input.toSeatIdentity) :
      SeatChange store written (.bindPending input)
  | removed (call : SeatCall) (ref : String)
      (hcall : call.Removes)
      (hmem : ∀ e, e ∈ written ↔ e ∈ store ∧ e.1 ≠ ref) : SeatChange store written call
  | refreshed (input : RefreshSeat) (record : SeatRecord)
      (hrecord : (input.credentialRef, record) ∈ store) (hactive : record.state = .active)
      (hmem : ∀ e, e ∈ written ↔ e = (input.credentialRef, input.display.over record) ∨
        e ∈ store ∧ e.1 ≠ input.credentialRef) : SeatChange store written (.refresh input)

lemma mintPendingSeat_change {input : SeatSeed} {store written : SeatsFile}
    (h : (mintPendingSeat input store).2 = some written) :
    SeatChange store written (.mint input) := by
  unfold mintPendingSeat at h
  dsimp only at h
  split at h
  · cases h
  · obtain rfl := Option.some.inj h
    exact .minted _ input (Or.inl rfl) (fun e => SeatsFile.mem_put)

lemma prepareSeat_change {input : PrepareSeat} {store written : SeatsFile}
    (h : (prepareSeat input store).2 = some written) :
    SeatChange store written (.prepare input) := by
  unfold prepareSeat at h
  dsimp only at h
  split at h
  · cases h
  · split at h
    · cases h
    · obtain rfl := Option.some.inj h
      refine .minted _ input.seed (Or.inr ⟨input, rfl, rfl⟩) ?_
      intro e
      rw [SeatsFile.mem_put]
      split
      · rw [SeatsFile.mem_remove]
        tauto
      · rfl

lemma activateAndBindSeat_change {input : ActivateSeat} {store written : SeatsFile}
    (h : (activateAndBindSeat input store).2 = some written) :
    SeatChange store written (.activate input) := by
  unfold activateAndBindSeat at h
  dsimp only at h
  split at h
  · cases h
  · rename_i huuid
    simp only [Bool.or_eq_true, Bool.not_eq_true', not_or, Bool.not_eq_false] at huuid
    split at h
    · cases h
    · rename_i record hmatch
      split at h
      · cases h
      · rename_i hdigest
        split at h
        · cases h
        · rename_i horder
          obtain ⟨hget, -, -⟩ := recordMatches_eq_some.mp hmatch
          obtain rfl := Option.some.inj h
          refine .activated input record (SeatsFile.get_eq_some.mp hget) huuid.1 huuid.2
            (not_not.mp hdigest) (by omega) ?_
          intro e
          rw [SeatsFile.mem_put, Table.mem_delete]
          refine or_congr_right ?_
          by_cases he : e.1 = seatRef input.toSeatIdentity <;> simp [he]

lemma bindPendingSeatToWorktree_change {input : BindPendingSeat} {store written : SeatsFile}
    (h : (bindPendingSeatToWorktree input store).2 = some written) :
    SeatChange store written (.bindPending input) := by
  unfold bindPendingSeatToWorktree at h
  dsimp only at h
  split at h
  · cases h
  · rename_i hdrone
    split at h
    · cases h
    · rename_i record hmatch
      split at h
      · cases h
      · rename_i hguard
        simp only [Bool.or_eq_true, decide_eq_true_eq, not_or, not_not] at hguard
        obtain ⟨hget, -, -⟩ := recordMatches_eq_some.mp hmatch
        obtain rfl := Option.some.inj h
        refine .boundPending input record (SeatsFile.get_eq_some.mp hget) hguard.1 hguard.2 ?_
          (fun e => SeatsFile.mem_put)
        cases hd : input.droneId with
        | none => rfl
        | some droneId => simpa [hd] using hdrone

lemma resetSeatForWorktree_change {expected : ResetSeat} {store written : SeatsFile}
    (h : (resetSeatForWorktree expected store).2 = some written) :
    SeatChange store written (.reset expected) := by
  unfold resetSeatForWorktree at h
  split at h
  · cases h
  · split at h
    · cases h
    · obtain rfl := Option.some.inj h
      exact .removed _ expected.ref trivial (fun e => SeatsFile.mem_remove)

lemma scrubPendingSeat_change {ref : String} {binding : SeatAuthority} {digest : HexDigest}
    {store written : SeatsFile} (h : (scrubPendingSeat ref binding digest store).2 = some written) :
    (∃ record, (ref, record) ∈ store ∧ record.state = .pending ∧
      digestOf record.credential = digest) ∧ ∀ e, e ∈ written ↔ e ∈ store ∧ e.1 ≠ ref := by
  unfold scrubPendingSeat at h
  split at h
  · cases h
  · split at h
    · cases h
    · rename_i record hmatch
      split at h
      · cases h
      · rename_i hpending
        split at h
        · cases h
        · rename_i hdigest
          obtain ⟨hget, -, -⟩ := recordMatches_eq_some.mp hmatch
          obtain rfl := Option.some.inj h
          exact ⟨⟨record, SeatsFile.get_eq_some.mp hget, not_not.mp hpending, not_not.mp hdigest⟩,
            fun e => SeatsFile.mem_remove⟩

lemma clearSeat_change {ref : String} {store written : SeatsFile}
    (h : (clearSeat ref store).2 = some written) : SeatChange store written (.clear ref) := by
  unfold clearSeat at h
  split at h
  · cases h
  · dsimp only at h
    split at h
    · obtain rfl := Option.some.inj h
      exact .removed _ ref trivial (fun e => SeatsFile.mem_remove)
    · cases h

lemma refreshSeatMetadata_change {input : RefreshSeat} {store written : SeatsFile}
    (h : (refreshSeatMetadata input store).2 = some written) :
    SeatChange store written (.refresh input) := by
  unfold refreshSeatMetadata at h
  split at h
  · cases h
  · split at h
    · cases h
    · rename_i record hget
      split at h
      · cases h
      · rename_i hguard
        simp only [Bool.or_eq_true, decide_eq_true_eq, not_or, not_not] at hguard
        obtain rfl := Option.some.inj h
        exact .refreshed input record (SeatsFile.get_eq_some.mp hget) hguard.1.1.1.1
          (fun e => SeatsFile.mem_put)

/-- What each transaction can commit. -/
lemma SeatCall.commit_change {call : SeatCall} {store written : SeatsFile}
    (h : call.commit store = some written) : SeatChange store written call := by
  cases call with
  | mint input => exact mintPendingSeat_change h
  | prepare input => exact prepareSeat_change h
  | activate input => exact activateAndBindSeat_change h
  | bindPending input => exact bindPendingSeatToWorktree_change h
  | reset expected => exact resetSeatForWorktree_change h
  | scrub ref binding digest =>
    exact .removed _ ref trivial (scrubPendingSeat_change h).2
  | clear ref => exact clearSeat_change h
  | refresh input => exact refreshSeatMetadata_change h

end BorgClient.Seats
