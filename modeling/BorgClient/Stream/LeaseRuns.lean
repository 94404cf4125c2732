import BorgClient.Lib.Runs
import BorgClient.Stream.Lease

/-!
# Holding the stream lease

`refresh` and `release` of `stream-owner.ts`, and runs of any number of processes that acquire,
refresh, release and die. A call may stop inside, where its process dies or an operation throws.
-/

namespace BorgClient.Stream
open Runs

/-- Where `mutateClaimedLease` stops. -/
inductive LeaseFate
  | whole
  /-- After the lock was renamed aside. -/
  | renamed
  /-- After `takeover.json` was written. -/
  | claimed
  /-- After the record was written, or files were removed. -/
  | mutated
deriving DecidableEq, Repr

section Mutate

variable (deps : StreamOwnerDeps) (lease : StreamLease)

/-- Renames the lock aside, checks that it is the caller's and carries its record, and changes it:
a changed one is put back, and with no change to put back it is removed. -/
def mutateClaimedLease (mutation : LockDir → Option LockDir) (fate : LeaseFate)
    (disk : LeaseDisk) : Bool × LeaseDisk :=
  match disk.lock, disk.claim with
  | none, _ => (false, disk)
  | some _, some _ => (false, disk)
  | some dir, none =>
    let aside (dir : LockDir) : LeaseDisk := { disk with lock := none, claim := some dir }
    if fate = .renamed then (false, aside dir)
    else if dir.identity ≠ lease.identity then (false, disk)
    -- the file is written with `wx`
    else if dir.takeover.isSome then (false, aside dir)
    else
      let claimed := { dir with takeover := some ⟨deps.pid, deps.processNonce, deps.verifyAt⟩ }
      if fate = .claimed then (false, aside claimed)
      else if dir.owner.bind parseOwnershipRecord ≠ some lease.record then
        (false, { disk with lock := some { dir with takeover := none } })
      else
        match mutation claimed with
        | none =>
          if fate = .mutated then (false, aside { claimed with owner := none, takeover := none })
          else (true, { disk with lock := none })
        | some changed =>
          if fate = .mutated then (false, aside changed)
          else (true, { disk with lock := some { changed with takeover := none } })

/-- The record with the heartbeat of the moment. -/
def refreshedRecord : StreamOwnerRecord := { lease.record with heartbeatAt := deps.verifyAt }

def refresh (fate : LeaseFate) (disk : LeaseDisk) : Bool × LeaseDisk :=
  mutateClaimedLease deps lease
    (fun dir => some { dir with
      owner := some (.shaped (refreshedRecord deps lease))
      mtime := deps.verifyAt }) fate disk

def release (fate : LeaseFate) (disk : LeaseDisk) : Bool × LeaseDisk :=
  mutateClaimedLease deps lease (fun _ => none) fate disk

end Mutate

/-- The disk, and the leases of live processes that none of them lost or gave back. -/
structure LeaseWorld where
  disk : LeaseDisk
  holders : List StreamLease
deriving DecidableEq, Repr

inductive LeaseStep
  | acquire (deps : StreamOwnerDeps)
  | refresh (lease : StreamLease) (deps : StreamOwnerDeps) (fate : LeaseFate)
  | release (lease : StreamLease) (deps : StreamOwnerDeps) (fate : LeaseFate)
  | die (lease : StreamLease)
  /-- What processes that die inside their own acquire leave, while nobody holds the lease. -/
  | leave (disk : LeaseDisk)

namespace LeaseWorld

def drop (w : LeaseWorld) (lease : StreamLease) : LeaseWorld :=
  { w with holders := w.holders.erase lease }

/-- The caller holds a new record, or takes the lease for lost. -/
def refreshed (w : LeaseWorld) (lease : StreamLease) (deps : StreamOwnerDeps)
    (answer : Bool × LeaseDisk) : LeaseWorld :=
  { disk := answer.2
    holders := if answer.1 then
        { lease with record := refreshedRecord deps lease } :: w.holders.erase lease
      else w.holders.erase lease }

end LeaseWorld

def leaseStep (w : LeaseWorld) : LeaseStep → LeaseWorld
  | .acquire deps =>
    match acquireStreamLease deps STREAM_OWNER_STALE_MS w.disk with
    | (.ok (some lease), disk) => ⟨disk, lease :: w.holders⟩
    | (_, disk) => { w with disk := disk }
  | .refresh lease deps fate =>
    if lease ∈ w.holders then w.refreshed lease deps (refresh deps lease fate w.disk) else w
  | .release lease deps fate =>
    if lease ∈ w.holders then { w.drop lease with disk := (release deps lease fate w.disk).2 }
    else w
  | .die lease => w.drop lease
  | .leave disk => if w.holders.isEmpty then { w with disk := disk } else w

/-- An acquire comes while each holder's heartbeat is not older than the limit, and its process is
seen alive. -/
def Timely (w : LeaseWorld) : LeaseStep → Prop
  | .acquire deps => ∀ lease ∈ w.holders,
      deps.verifyAt - lease.record.heartbeatAt ≤ STREAM_OWNER_STALE_MS ∧
        deps.isPidAlive lease.record.pid = true
  | _ => True

/-! ### Who holds the lock -/

/-- The lock is the directory of a lease, with its record in it. -/
structure Holds (disk : LeaseDisk) (lease : StreamLease) : Prop where
  claim : disk.claim = none
  valid : isRecord lease.record = true
  lock : ∃ mtime, disk.lock = some ⟨lease.identity, mtime, some (.shaped lease.record), none⟩

variable {deps : StreamOwnerDeps} {disk disk' : LeaseDisk} {lease : StreamLease} {staleMs : ℤ}

theorem tryCreateLease_holds (h : tryCreateLease deps disk = (.ok (some lease), disk')) :
    Holds disk' lease := by
  unfold tryCreateLease at h
  split at h
  · simp at h
  rename_i hclaim
  split at h
  · simp at h
  · dsimp only at h
    split at h
    · simp at h
    · rename_i record hparse
      simp only [Prod.mk.injEq, Except.ok.injEq, Option.some.injEq] at h
      obtain ⟨rfl, rfl⟩ := h
      refine ⟨by simpa using hclaim, ?_, deps.verifyAt, rfl⟩
      simp only [Option.bind_some, parseOwnershipRecord] at hparse
      split at hparse
      · assumption
      · cases hparse

/-- A lease is only given with the lock just made for it. -/
theorem acquire_holds (h : acquireStreamLease deps staleMs disk = (.ok (some lease), disk')) :
    Holds disk' lease := by
  unfold acquireStreamLease at h
  split at h
  · simp at h
  split at h
  · simp at h
  · rename_i htry
    simp only [Prod.mk.injEq, Except.ok.injEq, Option.some.injEq] at h
    obtain ⟨rfl, rfl⟩ := h
    exact tryCreateLease_holds htry
  · dsimp only at h
    split at h
    · exact tryCreateLease_holds h
    · simp at h
    · split at h
      · simp at h
      · exact tryCreateLease_holds h
    · simp at h
    · split at h
      · simp at h
      · split at h
        · simp at h
        · exact tryCreateLease_holds h

/-- Against a fresh record of a live process an acquire does nothing. -/
theorem Holds.acquire (h : Holds disk lease)
    (hfresh : deps.verifyAt - lease.record.heartbeatAt ≤ staleMs)
    (halive : deps.isPidAlive lease.record.pid = true) :
    acquireStreamLease deps staleMs disk = (.ok none, disk) := by
  obtain ⟨mtime, hlock⟩ := h.lock
  obtain ⟨htry, hrecover, hsnapshot⟩ := acquire_held deps staleMs h.claim hlock
  have hage : ¬ deps.inspectAt - lease.record.heartbeatAt > staleMs := by
    have := deps.inspect_le_verify
    omega
  unfold acquireStreamLease
  simp only [hrecover, htry, hsnapshot, snapshotFromOwner, parseOwnershipRecord, h.valid, if_true]
  by_cases hself : lease.record.pid = deps.pid ∧ lease.record.processNonce = deps.processNonce
  · simp [hself]
  · simp [hself, Age.exceeds, halive, hage]

/-- The holder's own refresh finds its record, and leaves the new one. -/
theorem Holds.refresh (h : Holds disk lease) :
    (refresh deps lease .whole disk).1 = true ∧
      Holds (refresh deps lease .whole disk).2
        { lease with record := refreshedRecord deps lease } := by
  obtain ⟨mtime, hlock⟩ := h.lock
  have hrefresh : Stream.refresh deps lease .whole disk = (true, { disk with
      lock := some ⟨lease.identity, deps.verifyAt,
        some (.shaped (refreshedRecord deps lease)), none⟩ }) := by
    simp [Stream.refresh, mutateClaimedLease, hlock, h.claim, parseOwnershipRecord, h.valid]
  rw [hrefresh]
  exact ⟨rfl, h.claim, h.valid, deps.verifyAt, rfl⟩

/-- A refresh that stops inside tells the caller that the lease is gone. -/
theorem refresh_true {fate : LeaseFate} (h : (refresh deps lease fate disk).1 = true) :
    fate = .whole := by
  unfold refresh mutateClaimedLease at h
  cases fate with
  | whole => rfl
  | renamed =>
    simp only [if_true] at h
    split at h <;> cases h
  | claimed =>
    simp only [reduceCtorEq, if_true, if_false] at h
    repeat' split at h
    all_goals cases h
  | mutated =>
    simp only [reduceCtorEq, if_true, if_false] at h
    repeat' split at h
    all_goals cases h

/-- Nobody holds the lease, or one process does, and the lock is its own. -/
def LeaseSafe (w : LeaseWorld) : Prop :=
  w.holders = [] ∨ ∃ lease, w.holders = [lease] ∧ Holds w.disk lease

variable {w : LeaseWorld}

theorem LeaseSafe.step (h : LeaseSafe w) {step : LeaseStep} (htimely : Timely w step) :
    LeaseSafe (leaseStep w step) := by
  cases step with
  | acquire deps =>
    obtain hnone | ⟨lease, hone, hholds⟩ := h
    · simp only [leaseStep]
      split
      · rename_i lease disk hacquire
        exact .inr ⟨lease, by rw [hnone], acquire_holds hacquire⟩
      · exact .inl hnone
    · obtain ⟨hfresh, halive⟩ := htimely lease (by simp [hone])
      have hnothing := @Holds.acquire deps w.disk lease STREAM_OWNER_STALE_MS hholds hfresh halive
      simp only [leaseStep, hnothing]
      exact .inr ⟨lease, hone, hholds⟩
  | refresh lease deps fate =>
    simp only [leaseStep]
    split
    · rename_i hmem
      obtain hnone | ⟨other, hone, hholds⟩ := h
      · rw [hnone] at hmem
        cases hmem
      · obtain rfl : lease = other := by simpa [hone] using hmem
        cases htrue : (refresh deps lease fate w.disk).1 with
        | false => exact .inl (by simp [LeaseWorld.refreshed, htrue, hone])
        | true =>
          obtain rfl := refresh_true htrue
          refine .inr ⟨_, by simp [LeaseWorld.refreshed, htrue, hone], hholds.refresh.2⟩
    · exact h
  | release lease deps fate =>
    simp only [leaseStep]
    split
    · rename_i hmem
      obtain hnone | ⟨other, hone, -⟩ := h
      · rw [hnone] at hmem
        cases hmem
      · obtain rfl : lease = other := by simpa [hone] using hmem
        exact .inl (by simp [LeaseWorld.drop, hone])
    · exact h
  | die lease =>
    obtain hnone | ⟨other, hone, hholds⟩ := h
    · exact .inl (by simp [leaseStep, LeaseWorld.drop, hnone])
    · by_cases hsame : lease = other
      · exact .inl (by simp [leaseStep, LeaseWorld.drop, hone, hsame])
      · exact .inr ⟨other, by simp [leaseStep, LeaseWorld.drop, hone, Ne.symm hsame], hholds⟩
  | leave disk =>
    simp only [leaseStep]
    split
    · rename_i hempty
      exact .inl (by simpa using hempty)
    · exact h

/-- A process that asks while the first one's record is a minute old. -/
def laterProcess : StreamOwnerDeps :=
  ⟨160000, 160000, le_rfl, 8, "later", "/w", 0, none, none, none, fun _ => true⟩

lemma acquired_first : leaseStep ⟨⟨none, none, 0⟩, []⟩ (.acquire streamProcess) =
    ⟨⟨some ⟨0, 100000, some (.shaped (makeRecord streamProcess)), none⟩, none, 1⟩,
      [⟨makeRecord streamProcess, 0⟩]⟩ := by
  decide +kernel

end BorgClient.Stream
