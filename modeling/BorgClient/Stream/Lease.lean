import Mathlib

/-!
# The stream lease

`stream-owner.ts`: one process owns a drone's stream. The lease is a lock directory with a record
of its owner; a takeover renames it aside first. The paths are those without `privateRoot`, and
one process runs at a time, so every file operation sees the state the last one left.
-/

namespace BorgClient.Stream

def STREAM_OWNER_STALE_MS : ℤ := 70000
def STREAM_OWNER_INIT_STALE_MS : ℤ := 5000
def STREAM_OWNER_TAKEOVER_STALE_MS : ℤ := 5000
def SCHEMA_VERSION : ℕ := 1
def MAX_SAFE_INTEGER : ℤ := 2 ^ 53 - 1

/-- Timestamps stand for the instant their text parses to. -/
structure StreamOwnerRecord where
  schemaVersion : ℕ
  pid : ℤ
  processNonce : String
  cwd : String
  startedAt : ℤ
  heartbeatAt : ℤ
  worktree : Option String
  droneLabel : Option String
  cubeName : Option String
deriving DecidableEq, Repr

/-- Length in UTF-16 code units. -/
def utf16Length (s : String) : ℕ := (s.toList.map (fun c => if c.toNat < 0x10000 then 1 else 2)).sum

def isSafeLeaseText (value : String) (maxLength : ℕ) : Bool :=
  0 < utf16Length value && utf16Length value ≤ maxLength &&
    !value.toList.any (fun c => c.toNat ≤ 0x1f || c.toNat == 0x7f)

def isRecord (value : StreamOwnerRecord) : Bool :=
  value.schemaVersion == SCHEMA_VERSION && value.pid ≤ MAX_SAFE_INTEGER && value.pid > 0 &&
    isSafeLeaseText value.processNonce 128 && isSafeLeaseText value.cwd 4096 &&
    value.worktree.all (isSafeLeaseText · 4096) && value.droneLabel.all (isSafeLeaseText · 256) &&
    value.cubeName.all (isSafeLeaseText · 256)

/-- The text of `owner.json`: an object with the fields of a record, or anything else. -/
inductive OwnerText
  | shaped (value : StreamOwnerRecord)
  | malformed
deriving DecidableEq, Repr

def parseOwnershipRecord : OwnerText → Option StreamOwnerRecord
  | .shaped value => if isRecord value then some value else none
  | .malformed => none

/-- `takeover.json`. -/
structure TakeoverClaim where
  pid : ℤ
  processNonce : String
  claimedAt : ℤ
deriving DecidableEq, Repr

/-- A directory: its device and inode, its time, and the two files in it; `takeover` is `none`
when the file is missing or no valid claim. -/
structure LockDir where
  identity : ℕ
  mtime : ℤ
  owner : Option OwnerText
  takeover : Option TakeoverClaim
deriving DecidableEq, Repr

/-- The lock directory, its `.takeover` sibling, and the next free inode. -/
structure LeaseDisk where
  lock : Option LockDir
  claim : Option LockDir
  next : ℕ
deriving DecidableEq, Repr

/-- The process that asks, and its clock: when it inspects, and, no earlier, when it verifies and
writes. -/
structure StreamOwnerDeps where
  inspectAt : ℤ
  verifyAt : ℤ
  inspect_le_verify : inspectAt ≤ verifyAt
  pid : ℤ
  processNonce : String
  cwd : String
  processStartedAt : ℤ
  worktree : Option String
  droneLabel : Option String
  cubeName : Option String
  isPidAlive : ℤ → Bool

inductive OwnershipState
  | owner | ownedByOtherProcess | initializing | orphanedInitialization | unowned
deriving DecidableEq, Repr

/-- A number of milliseconds, or infinite for a record without a readable heartbeat. -/
inductive Age
  | ms (value : ℤ)
  | infinite
deriving DecidableEq, Repr

def Age.exceeds : Age → ℤ → Bool
  | .ms value, limit => value > limit
  | .infinite, _ => true

def Age.within : Age → ℤ → Bool
  | .ms value, limit => 0 ≤ value && value ≤ limit
  | .infinite, _ => false

structure StreamOwnershipSnapshot where
  state : OwnershipState
  record : Option StreamOwnerRecord
  ageMs : Option Age
  identity : Option ℕ
deriving DecidableEq, Repr

structure StreamLease where
  record : StreamOwnerRecord
  identity : ℕ
deriving DecidableEq, Repr

section Acquire

variable (deps : StreamOwnerDeps)

def makeRecord : StreamOwnerRecord where
  schemaVersion := SCHEMA_VERSION
  pid := deps.pid
  processNonce := deps.processNonce
  cwd := deps.cwd
  startedAt := deps.processStartedAt
  heartbeatAt := deps.verifyAt
  worktree := deps.worktree.filter (· != "")
  droneLabel := deps.droneLabel.filter (· != "")
  cubeName := deps.cubeName.filter (· != "")

def lostOwnership : String := "Borg stream lease initialization lost ownership"

/-- `mkdir`, the record, and the check that it reads back; a record that does not is removed. -/
def tryCreateLease (disk : LeaseDisk) : Except String (Option StreamLease) × LeaseDisk :=
  if disk.claim.isSome then (.ok none, disk)
  else
    match disk.lock with
    | some _ => (.ok none, disk)
    | none =>
      let record := makeRecord deps
      let created : LockDir := ⟨disk.next, deps.verifyAt, some (.shaped record), none⟩
      match created.owner.bind parseOwnershipRecord with
      | none => (.error lostOwnership, { disk with next := disk.next + 1 })
      | some _ => (.ok (some ⟨record, created.identity⟩),
          { disk with lock := some created, next := disk.next + 1 })

def snapshotFromOwner (dir : LockDir) : StreamOwnershipSnapshot :=
  match dir.owner with
  | none =>
    let ageMs := max 0 (deps.inspectAt - dir.mtime)
    ⟨if ageMs ≥ STREAM_OWNER_INIT_STALE_MS then .orphanedInitialization else .initializing,
      none, some (.ms ageMs), some dir.identity⟩
  | some raw =>
    match parseOwnershipRecord raw with
    | none => ⟨.ownedByOtherProcess, none, some .infinite, some dir.identity⟩
    | some parsed =>
      ⟨if parsed.pid = deps.pid ∧ parsed.processNonce = deps.processNonce then .owner
        else .ownedByOtherProcess,
        some parsed, some (.ms (deps.inspectAt - parsed.heartbeatAt)), some dir.identity⟩

def unownedSnapshot : StreamOwnershipSnapshot := ⟨.unowned, none, none, none⟩

/-- The lock's owner, or an intact, fresh and live owner that a refresh holds aside. -/
def readOwnershipSnapshot (disk : LeaseDisk) : StreamOwnershipSnapshot :=
  match disk.lock with
  | some dir => snapshotFromOwner deps dir
  | none =>
    match disk.claim with
    | none => unownedSnapshot
    | some claimed =>
      if claimed.owner.isNone then unownedSnapshot
      else
        let snapshot := snapshotFromOwner deps claimed
        let live := snapshot.record.any (fun r => deps.isPidAlive r.pid) &&
          (snapshot.ageMs.getD .infinite).within STREAM_OWNER_STALE_MS
        if live then snapshot else unownedSnapshot

def snapshotMatchesIdentity (snapshot : StreamOwnershipSnapshot) (dir : LockDir) : Bool :=
  snapshot.identity == some dir.identity

def isStillReclaimable (snapshot : StreamOwnershipSnapshot) (current : LockDir) (staleMs : ℤ) : Bool :=
  if !snapshotMatchesIdentity snapshot current then false
  else
    match current.owner.bind parseOwnershipRecord with
    | none => snapshot.state == .orphanedInitialization || snapshot.ageMs == some .infinite
    | some record =>
      if snapshot.record.map (fun r => (r.pid, r.processNonce, r.heartbeatAt)) !=
          some (record.pid, record.processNonce, record.heartbeatAt) then false
      else
        decide (deps.verifyAt - record.heartbeatAt > staleMs) || !deps.isPidAlive record.pid

/-- Renames the lock aside, verifies that it is the one inspected and still reclaimable, and
removes it; anything else is put back. -/
def moveStaleLockAside (snapshot : StreamOwnershipSnapshot) (staleMs : ℤ) (disk : LeaseDisk) :
    Bool × LeaseDisk :=
  match disk.lock, disk.claim with
  | none, _ => (false, disk)
  | some _, some _ => (false, disk)
  | some dir, none =>
    if !snapshotMatchesIdentity snapshot dir then (false, disk)
    else
      let claimed := { dir with takeover := some ⟨deps.pid, deps.processNonce, deps.verifyAt⟩ }
      if isStillReclaimable deps snapshot claimed staleMs then
        (true, { disk with lock := none, claim := none })
      else (false, disk)

/-- A takeover directory in the way: one a live claimant made lately stays; a reclaimable owner
in an abandoned one is removed; any other is put back as the lock, unless a successor is there. -/
def recoverTakeoverClaim (staleMs : ℤ) (disk : LeaseDisk) : Bool × LeaseDisk :=
  match disk.claim with
  | none => (true, disk)
  | some claimed =>
    let claimAge := deps.inspectAt -
      (match claimed.takeover with | some claimant => claimant.claimedAt | none => claimed.mtime)
    if claimAge ≤ STREAM_OWNER_TAKEOVER_STALE_MS ∧
        claimed.takeover.all (fun claimant => deps.isPidAlive claimant.pid) then (false, disk)
    else
      let reclaimable := match claimed.owner.bind parseOwnershipRecord with
        | none => true
        | some owner => decide (deps.inspectAt - owner.heartbeatAt > staleMs) ||
            !deps.isPidAlive owner.pid
      if reclaimable then (true, { disk with claim := none })
      else
        let restored := { claimed with takeover := none }
        match disk.lock with
        | none => (false, { disk with lock := some restored, claim := none })
        | some dir =>
          -- an empty directory is replaced by the rename
          if dir.owner.isNone ∧ dir.takeover.isNone then
            (false, { disk with lock := some restored, claim := none })
          else (false, { disk with claim := none })

def acquireStreamLease (staleMs : ℤ) (disk : LeaseDisk) :
    Except String (Option StreamLease) × LeaseDisk :=
  match recoverTakeoverClaim deps staleMs disk with
  | (false, disk) => (.ok none, disk)
  | (true, disk) =>
    match tryCreateLease deps disk with
    | (.error e, disk) => (.error e, disk)
    | (.ok (some lease), disk) => (.ok (some lease), disk)
    | (.ok none, disk) =>
      let snapshot := readOwnershipSnapshot deps disk
      let takeOver : Except String (Option StreamLease) × LeaseDisk :=
        match moveStaleLockAside deps snapshot staleMs disk with
        | (false, disk) => (.ok none, disk)
        | (true, disk) => tryCreateLease deps disk
      match snapshot.state with
      | .unowned => tryCreateLease deps disk
      | .initializing => (.ok none, disk)
      | .orphanedInitialization => takeOver
      | .owner => (.ok none, disk)
      | .ownedByOtherProcess =>
        let stale := (snapshot.ageMs.getD (.ms 0)).exceeds staleMs
        let pidDead := snapshot.record.any (fun r => !deps.isPidAlive r.pid)
        if !stale && !pidDead then (.ok none, disk) else takeOver

end Acquire

/-! ### Which states can be taken over -/

section Reclaim

variable (deps : StreamOwnerDeps) (staleMs : ℤ)

/-- The lock is absent, without its record for long enough, or has a record that is corrupt,
older than `staleMs`, or of a dead process. -/
def Reclaimable (disk : LeaseDisk) : Prop :=
  match disk.lock with
  | none => True
  | some dir =>
    match dir.owner with
    | none => STREAM_OWNER_INIT_STALE_MS ≤ deps.inspectAt - dir.mtime
    | some raw =>
      match parseOwnershipRecord raw with
      | none => True
      | some record =>
        staleMs < deps.inspectAt - record.heartbeatAt ∨ deps.isPidAlive record.pid = false

/-- The lock's record names this very process. -/
def OwnRecord (disk : LeaseDisk) : Prop :=
  ∃ dir raw record, disk.lock = some dir ∧ dir.owner = some raw ∧
    parseOwnershipRecord raw = some record ∧ record.pid = deps.pid ∧
    record.processNonce = deps.processNonce

/-- The process's own record passes the check it reads back through. -/
def SelfValid : Prop := isRecord (makeRecord deps) = true

variable {deps staleMs} {disk : LeaseDisk} {dir : LockDir}

lemma tryCreateLease_absent (hclaim : disk.claim = none) (hlock : disk.lock = none) :
    (∃ lease, (tryCreateLease deps disk).1 = .ok (some lease)) ↔ SelfValid deps := by
  unfold tryCreateLease SelfValid
  simp only [hclaim, hlock, Option.isSome_none, Bool.false_eq_true, if_false, Option.bind_some,
    parseOwnershipRecord]
  by_cases hself : isRecord (makeRecord deps) = true
  · simp [hself]
  · simp [hself]

/-- With a lock in the way the first try changes nothing, and the snapshot decides. -/
lemma acquire_held (deps : StreamOwnerDeps) (staleMs : ℤ) (hclaim : disk.claim = none)
    (hlock : disk.lock = some dir) :
    tryCreateLease deps disk = (.ok none, disk) ∧
      recoverTakeoverClaim deps staleMs disk = (true, disk) ∧
      readOwnershipSnapshot deps disk = snapshotFromOwner deps dir := by
  refine ⟨?_, ?_, ?_⟩
  · simp [tryCreateLease, hclaim, hlock]
  · simp [recoverTakeoverClaim, hclaim]
  · simp [readOwnershipSnapshot, hlock]

/-- A lock that is still reclaimable when verified is removed. -/
lemma moveStaleLockAside_ok (hclaim : disk.claim = none) (hlock : disk.lock = some dir)
    {snapshot : StreamOwnershipSnapshot} (hid : snapshot.identity = some dir.identity)
    (hstill : ∀ takeover, isStillReclaimable deps snapshot { dir with takeover := takeover } staleMs =
      true) :
    moveStaleLockAside deps snapshot staleMs disk =
      (true, { disk with lock := none, claim := none }) := by
  unfold moveStaleLockAside
  simp [hlock, hclaim, snapshotMatchesIdentity, hid, hstill]

/-- After the move the lease is created. -/
lemma takeOver_lease (hclaim : disk.claim = none) (hlock : disk.lock = some dir)
    {snapshot : StreamOwnershipSnapshot} (hid : snapshot.identity = some dir.identity)
    (hstill : ∀ takeover, isStillReclaimable deps snapshot { dir with takeover := takeover } staleMs =
      true) :
    (∃ lease, (match moveStaleLockAside deps snapshot staleMs disk with
      | (false, disk) => (Except.ok none, disk)
      | (true, disk) => tryCreateLease deps disk).1 = .ok (some lease)) ↔ SelfValid deps := by
  rw [moveStaleLockAside_ok hclaim hlock hid hstill]
  exact tryCreateLease_absent rfl rfl

/-- A record that names this process is never taken over, and stays. -/
lemma acquire_own (hclaim : disk.claim = none) (hown : OwnRecord deps disk) :
    acquireStreamLease deps staleMs disk = (.ok none, disk) := by
  obtain ⟨dir, raw, record, hlock, howner, hparse, hpid, hnonce⟩ := hown
  obtain ⟨htry, hrecover, hsnapshot⟩ := acquire_held deps staleMs hclaim hlock
  unfold acquireStreamLease
  simp [hrecover, htry, hsnapshot, snapshotFromOwner, howner, hparse, hpid, hnonce]

/-- A reclaimable record of another process, an orphaned initialisation or a corrupt record is
taken over. -/
lemma acquire_takeOver (hclaim : disk.claim = none) (hlock : disk.lock = some dir)
    (hr : Reclaimable deps staleMs disk) (hown : ¬ OwnRecord deps disk) :
    (∃ lease, (acquireStreamLease deps staleMs disk).1 = .ok (some lease)) ↔ SelfValid deps := by
  obtain ⟨htry, hrecover, hsnapshot⟩ := acquire_held deps staleMs hclaim hlock
  have hid : (snapshotFromOwner deps dir).identity = some dir.identity := by
    unfold snapshotFromOwner
    split
    · rfl
    · split <;> rfl
  unfold Reclaimable at hr
  simp only [hlock] at hr
  unfold acquireStreamLease
  simp only [hrecover, htry, hsnapshot]
  cases howner : dir.owner with
  | none =>
    rw [howner] at hr
    have hstate : (snapshotFromOwner deps dir).state = .orphanedInitialization := by
      simp only [snapshotFromOwner, howner]
      exact if_pos (hr.trans (le_max_right _ _))
    have hstill : ∀ takeover, isStillReclaimable deps (snapshotFromOwner deps dir)
        { dir with takeover := takeover } staleMs = true := by
      intro takeover
      simp [isStillReclaimable, snapshotMatchesIdentity, hid, howner, hstate]
    simp only [hstate]
    exact takeOver_lease hclaim hlock hid hstill
  | some raw =>
    rw [howner] at hr
    cases hparse : parseOwnershipRecord raw with
    | none =>
      have hsnap : snapshotFromOwner deps dir =
          ⟨.ownedByOtherProcess, none, some .infinite, some dir.identity⟩ := by
        simp only [snapshotFromOwner, howner, hparse]
      have hstill : ∀ takeover, isStillReclaimable deps (snapshotFromOwner deps dir)
          { dir with takeover := takeover } staleMs = true := by
        intro takeover
        simp [isStillReclaimable, snapshotMatchesIdentity, howner, hparse, hsnap]
      have hlease := takeOver_lease hclaim hlock hid hstill
      rw [hsnap] at hlease ⊢
      simpa [Age.exceeds] using hlease
    | some record =>
      simp only [hparse] at hr
      have hother : ¬ (record.pid = deps.pid ∧ record.processNonce = deps.processNonce) := by
        rintro ⟨hpid, hnonce⟩
        exact hown ⟨dir, raw, record, hlock, howner, hparse, hpid, hnonce⟩
      have hsnap : snapshotFromOwner deps dir = ⟨.ownedByOtherProcess, some record,
          some (.ms (deps.inspectAt - record.heartbeatAt)), some dir.identity⟩ := by
        simp only [snapshotFromOwner, howner, hparse, if_neg hother]
      have hlate : deps.verifyAt - record.heartbeatAt > staleMs ∨
          deps.isPidAlive record.pid = false := by
        have hclock := deps.inspect_le_verify
        rcases hr with hstale | hdead
        · left
          omega
        · exact Or.inr hdead
      have hstill : ∀ takeover, isStillReclaimable deps (snapshotFromOwner deps dir)
          { dir with takeover := takeover } staleMs = true := by
        intro takeover
        simp only [isStillReclaimable, snapshotMatchesIdentity, hsnap, howner, Option.bind_some, hparse]
        simpa using hlate
      have hlease := takeOver_lease hclaim hlock hid hstill
      have hgo : (!(Age.ms (deps.inspectAt - record.heartbeatAt)).exceeds staleMs &&
          !(some record).any (fun r => !deps.isPidAlive r.pid)) = false := by
        rcases hr with hstale | hdead
        · simp [Age.exceeds, hstale]
        · simp [hdead]
      rw [hsnap] at hlease ⊢
      simp only [Option.getD_some, hgo, Bool.false_eq_true, if_false]
      exact hlease

end Reclaim

/-! ### The process's own record -/

/-- A process whose clock reads 100 s. -/
def streamProcess : StreamOwnerDeps :=
  ⟨100000, 100000, le_rfl, 7, "nonce", "/w", 0, none, none, none, fun _ => true⟩

/-- A lock whose record was written at 0. -/
def lockWith (record : StreamOwnerRecord) : LeaseDisk :=
  ⟨some ⟨1, 0, some (.shaped record), none⟩, none, 2⟩

def recordOf (pid : ℤ) (nonce : String) : StreamOwnerRecord :=
  ⟨SCHEMA_VERSION, pid, nonce, "/w", 0, 0, none, none, none⟩

lemma parseOwnershipRecord_shaped {value record : StreamOwnerRecord}
    (h : parseOwnershipRecord (.shaped value) = some record) : record = value := by
  unfold parseOwnershipRecord at h
  dsimp only at h
  split at h
  · exact (Option.some.inj h).symm
  · cases h

lemma lockWith_reclaimable (pid : ℤ) (nonce : String) :
    Reclaimable streamProcess STREAM_OWNER_STALE_MS (lockWith (recordOf pid nonce)) := by
  unfold Reclaimable lockWith
  dsimp only
  cases hparse : parseOwnershipRecord (.shaped (recordOf pid nonce)) with
  | none => trivial
  | some record =>
    obtain rfl := parseOwnershipRecord_shaped hparse
    left
    show STREAM_OWNER_STALE_MS < 100000 - 0
    decide

end BorgClient.Stream
