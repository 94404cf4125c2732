import BorgClient.Representative.Send

/-!
# Overlapping sends on one worktree

Any number of attempts, each somewhere inside `sendOnce`, over one ledger. A label names the
attempt that moves; `die` is process death between two steps, and `rebind` is an operator's
`saveBinding` for the selection already bound.
-/

namespace BorgClient.Representative
open Platform List Tables Runs

structure SendWorld where
  db : Db
  attempts : ℕ → Option Attempt
  /-- Request ids an attempt has settled `sent`. -/
  settledSent : List Uuid

/-- No attempt has started yet. -/
def SendWorld.start (db : Db) : SendWorld := ⟨db, fun _ => none, []⟩

/-- What one attempt can do next. -/
inductive SendMove
  | reserve (stamp : Instant)
  | check (answer : LiveAnswer)
  | release
  | append
  | answer (o : AppendOutcome)
  | settle (stamp : Instant)
  | die

inductive SendStep
  | call (i : ℕ) (binding : RepresentativeBinding) (input : RepresentativeSendInput) (fresh : Uuid)
  | move (i : ℕ) (m : SendMove)
  | rebind (binding : RepresentativeBinding)

def SendWorld.set (w : SendWorld) (i : ℕ) (a : Attempt) : SendWorld :=
  { w with attempts := Function.update w.attempts i (some a) }

@[simp] lemma SendWorld.set_attempts (w : SendWorld) (i : ℕ) (a : Attempt) :
    (w.set i a).attempts = Function.update w.attempts i (some a) := rfl

@[simp] lemma SendWorld.set_db (w : SendWorld) (i : ℕ) (a : Attempt) : (w.set i a).db = w.db := rfl

@[simp] lemma SendWorld.set_settledSent (w : SendWorld) (i : ℕ) (a : Attempt) :
    (w.set i a).settledSent = w.settledSent := rfl

section Steps

variable [Platform]

/-- An id `randomUUID` drew is not in the ledger; one the caller passed may be. -/
def freshId (db : Db) (a : Attempt) : Bool :=
  a.input.request_id.isSome ||
    (db.requests (bindingFingerprint a.binding)).rows.all (·.requestId != a.candidateId)

/-- The attempt's reserve transaction, once its drawn id is fresh. -/
def reserveStep (w : SendWorld) (i : ℕ) (a : Attempt) (stamp : Instant) : SendWorld :=
  match transact w.db (reserveTransaction a stamp) with
  | (.ok (some (.reserved prior)), db) =>
    { w with db := db }.set i { a with control := .reserved prior }
  | (.ok (some (.alreadySent entryId)), db) =>
    { w with db := db }.set i { a with control := .returned (.ok {
      outcome := .sent, request_id := a.candidateId, entry_id := entryId,
      duplicate := some true, deduplicated := some true,
      coordinator := ⟨a.binding.coordinatorDroneId, a.binding.coordinatorLabel⟩ }) }
  | (.ok none, db) => { w with db := db }.set i { a with control := .dead }
  | (.error e, db) => { w with db := db }.set i { a with control := .returned (.error e) }

/-- The settle transaction of an answered append; its recorded state shapes the reply. -/
def settleStep (w : SendWorld) (i : ℕ) (a : Attempt) (o : AppendOutcome) (stamp : Instant) :
    SendWorld :=
  match transact w.db (settleTransaction a o stamp) with
  | (.ok recorded, db) =>
    let settledSent :=
      if recorded.isSome ∧ o.settledState a.binding = .sent then a.candidateId :: w.settledSent
      else w.settledSent
    { w with db := db, settledSent := settledSent }.set i
      { a with control := .returned (settledReply a o recorded) }
  | (.error e, db) => { w with db := db }.set i { a with control := .returned (.error e) }

/-- The release transaction after a failed live check, which then throws. -/
def releaseStep (w : SendWorld) (i : ℕ) (a : Attempt) (prior : Option RepresentativeRequestState)
    (error : RepresentativeError) : SendWorld :=
  match transact w.db (releaseTransaction a prior) with
  | (.ok _, db) => { w with db := db }.set i { a with control := .returned (.error error) }
  | (.error e, db) => { w with db := db }.set i { a with control := .returned (.error e) }

/-- A move of attempt `i`, from its own control point. -/
def attemptStep (w : SendWorld) (i : ℕ) (a : Attempt) (m : SendMove) : SendWorld :=
  match a.control, m with
  | .ready, .reserve stamp => if freshId w.db a then reserveStep w i a stamp else w
  | .reserved prior, .check answer =>
    match verifyLiveBinding a.binding answer with
    | .ok _ => w.set i { a with control := .verified }
    | .error e => w.set i { a with control := .unverified prior e }
  | .unverified prior e, .release => releaseStep w i a prior e
  | .verified, .append => w.set i { a with control := .appending, append := .inFlight }
  | .appending, .answer o => w.set i { a with control := .answered o, append := .answered o }
  | .answered o, .settle stamp => settleStep w i a o stamp
  | .returned _, .die => w
  | _, .die => w.set i { a with control := .dead }
  | _, _ => w

/-- A rebind to the selection already bound. -/
def rebindStep (worktree : String) (w : SendWorld) (binding : RepresentativeBinding) : SendWorld :=
  match currentBindingRow w.db worktree with
  | .ok (some row) =>
    if binding.worktree = worktree ∧ sameSelection row.binding binding then
      { w with db := (transact w.db (saveBinding binding true)).2 }
    else w
  | _ => w

def sendStep (worktree : String) (w : SendWorld) : SendStep → SendWorld
  | .call i binding input fresh =>
    if w.attempts i = none ∧ binding.worktree = worktree then
      w.set i { binding := binding, input := input, candidateId := input.request_id.getD fresh,
                control := .ready, append := .notStarted }
    else w
  | .move i m =>
    match w.attempts i with
    | some a => attemptStep w i a m
    | none => w
  | .rebind binding => rebindStep worktree w binding

/-- The step of a transaction leaves the database as the transaction does. -/
@[simp] lemma reserveStep_db (w : SendWorld) (i : ℕ) (a : Attempt) (stamp : Instant) :
    (reserveStep w i a stamp).db = (transact w.db (reserveTransaction a stamp)).2 := by
  unfold reserveStep
  split <;> simp_all

@[simp] lemma settleStep_db (w : SendWorld) (i : ℕ) (a : Attempt) (o : AppendOutcome)
    (stamp : Instant) :
    (settleStep w i a o stamp).db = (transact w.db (settleTransaction a o stamp)).2 := by
  unfold settleStep
  split <;> simp_all

@[simp] lemma releaseStep_db (w : SendWorld) (i : ℕ) (a : Attempt)
    (prior : Option RepresentativeRequestState) (e : RepresentativeError) :
    (releaseStep w i a prior e).db = (transact w.db (releaseTransaction a prior)).2 := by
  unfold releaseStep
  split <;> simp_all

/-- A settling attempt returns what its recorded state makes of the append, or the store's
error. -/
lemma settleStep_attempts (w : SendWorld) (i : ℕ) (a : Attempt) (o : AppendOutcome)
    (stamp : Instant) :
    ∃ reply, (settleStep w i a o stamp).attempts =
        Function.update w.attempts i (some { a with control := .returned reply }) ∧
      ((∃ recorded, (transact w.db (settleTransaction a o stamp)).1 = .ok recorded ∧
          reply = settledReply a o recorded) ∨
        ∃ e, (transact w.db (settleTransaction a o stamp)).1 = .error e ∧ reply = .error e) := by
  unfold settleStep
  split
  · rename_i recorded db h
    exact ⟨_, rfl, Or.inl ⟨recorded, by rw [h], rfl⟩⟩
  · rename_i e db h
    exact ⟨_, rfl, Or.inr ⟨e, by rw [h], rfl⟩⟩

/-- A releasing attempt throws the live check's error, or the store's. -/
lemma releaseStep_attempts (w : SendWorld) (i : ℕ) (a : Attempt)
    (prior : Option RepresentativeRequestState) (e : RepresentativeError) :
    ∃ e', (releaseStep w i a prior e).attempts =
        Function.update w.attempts i (some { a with control := .returned (.error e') }) ∧
      (e' = e ∨ (transact w.db (releaseTransaction a prior)).1 = .error e') := by
  unfold releaseStep
  split
  · exact ⟨e, rfl, Or.inl rfl⟩
  · rename_i e' db h
    exact ⟨e', rfl, Or.inr (by rw [h])⟩

lemma reserveStep_attempts (w : SendWorld) (i : ℕ) (a : Attempt) (stamp : Instant) :
    ∃ control, (reserveStep w i a stamp).attempts =
      Function.update w.attempts i (some { a with control := control }) := by
  unfold reserveStep
  split <;> exact ⟨_, rfl⟩

end Steps

/-! ### A bound worktree -/

section Bound

attribute [local instance] plainPlatform

def boundBinding : RepresentativeBinding where
  worktree := "/w"
  origin := "https://borg.test:7091"
  trustIdentity := "pin"
  cubeId := "10000000-0000-4000-8000-000000000001"
  cubeName := "cube"
  representativeDroneId := "10000000-0000-4000-8000-000000000002"
  representativeLabel := "rep"
  representativeRoleName := "Rep"
  coordinatorDroneId := "10000000-0000-4000-8000-000000000003"
  coordinatorLabel := "queen"
  coordinatorRoleName := "Coordinator"
  repositoryOrigin := none
  boundAt := "2026-01-01T00:00:00.000Z"

def boundRow : BindingRow :=
  ⟨"/w", bindingFingerprint boundBinding, seatKey boundBinding, .prepared, boundBinding⟩

/-- The worktree bound, with the given ledger. -/
def boundDb (requests : Table RepresentativeRequestRecord.requestId) : Db where
  bindings := [boundRow]
  requests := fun generation =>
    if generation = bindingFingerprint boundBinding then requests else ⟨[], nodup_nil⟩
  delivery := ⟨[], nodup_nil⟩
  returned := fun _ => ⟨[], nodup_nil⟩
  wake_state := fun _ => none
  wake_replies := fun _ => ⟨[], nodup_nil⟩

/-- The cube as bound: the representative and its human-seat Coordinator. -/
def boundAnswer : LiveAnswer where
  whoami := .ok ⟨boundBinding.cubeId, boundBinding.representativeDroneId⟩
  roster := .ok {
    drones := [⟨boundBinding.representativeDroneId, "rep", "r1", false⟩,
      ⟨boundBinding.coordinatorDroneId, "queen", "r2", true⟩]
    roles := [⟨"r1", "Rep", false, some "worker"⟩, ⟨"r2", "Coordinator", true, some "queen"⟩] }

/-- A call with a request id of its own, up to and including the start of its append. -/
def postedCall (i : ℕ) (id : Uuid) (message : String) : List SendStep :=
  [.call i boundBinding ⟨some id, .request, .user_authorized, message⟩ id,
    .move i (.reserve "t1"), .move i (.check boundAnswer), .move i .append]

end Bound

end BorgClient.Representative
