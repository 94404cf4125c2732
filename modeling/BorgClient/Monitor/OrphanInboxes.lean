import BorgClient.Monitor.EventLine
import BorgClient.Monitor.TailHeal

/-!
# Orphan inboxes

`gc-orphan-inboxes.ts`: the sweep over a cube's inbox files that an assimilation runs, and its check
for a live holder. The check reads the state files under the root of the worktree that runs the
sweep and beside the inbox; a monitor writes them under the root of its own worktree.
-/

namespace BorgClient.Monitor
open List

def HEARTBEAT_STALE_MS : ℤ := 5 * MONITOR_TICK_MS
def ORPHAN_INBOX_STALE_MS : ℤ := 30 * 24 * 60 * 60 * 1000

/-- `.monitor.pid`, `.monitor.heartbeat`, `.monitor.cursor` -/
inductive Sidecar
  | pid | heartbeat | cursor
deriving DecidableEq, Repr

/-- The paths of one cube's monitors. A file under a state root is named by the digest of its inbox
path; the drone stands for the digest. -/
inductive MonitorPath
  /-- `inboxes/<cube_id>/<drone_id>.log` -/
  | inbox (droneId : String)
  /-- Beside the inbox. -/
  | legacy (droneId : String) (kind : Sidecar)
  | under (stateRoot droneId : String) (kind : Sidecar)
deriving DecidableEq, Repr

def monitorStateRootForWorktree (worktreePath : String) : String :=
  worktreePath ++ "/.borgmcp/inbox-monitor"

/-- An empty root counts as none. -/
def sidecarPathFor (kind : Sidecar) (droneId : String) (stateRoot : Option String) : MonitorPath :=
  match stateRoot.filter (· ≠ "") with
  | none => .legacy droneId kind
  | some root => .under root droneId kind

def pidfilePathFor := sidecarPathFor .pid
def heartbeatPathFor := sidecarPathFor .heartbeat

structure PgrepResult where
  /-- `res.error`: `pgrep` was not started, or timed out. -/
  error : Bool
  status : Option ℤ
  stdout : List Char
deriving DecidableEq, Repr

/-- What the sweep reads of the machine. -/
structure InboxMachine where
  now : ℤ
  /-- `readdirSync(cubeInboxDir)`; `none` when it throws. -/
  names : Option (List String)
  /-- `statSync(path).mtimeMs`; `none` when it throws. -/
  mtimeMs : MonitorPath → Option ℤ
  /-- The number a pidfile starts with; `none` without a file or a number. -/
  pidfilePid : MonitorPath → Option ℤ
  /-- `process.kill(pid, 0)` succeeds, or is refused for another user's process. -/
  isAlive : ℤ → Bool
  /-- `pgrep -f <inboxPath>`; `none` when it throws. -/
  pgrep : String → Option PgrepResult
  /-- `unlinkSync(path)` succeeds. -/
  unlinks : MonitorPath → Bool

inductive DroneRosterState
  | present | evicted | absent
deriving DecidableEq, Repr

structure OrphanInboxEntry where
  droneId : String
  mtimeMs : ℤ
deriving DecidableEq, Repr

section Sweep
variable (m : InboxMachine)

def pgrepTailMatch (droneId : String) : Bool :=
  match m.pgrep droneId with
  | none => false
  | some res => !res.error && res.status == some 0 && trim res.stdout ≠ []

def freshHeartbeat (path : MonitorPath) : Bool :=
  (m.mtimeMs path).any (fun hbMs => m.now - hbMs < HEARTBEAT_STALE_MS)

def livePid (path : MonitorPath) : Bool := (m.pidfilePid path).any m.isAlive

/-- The roots whose files are read: the caller's and, behind it, the place beside the inbox. -/
def vetoRoots (monitorStateRoot : Option String) : List (Option String) :=
  if (monitorStateRoot.filter (· ≠ "")).isSome then [monitorStateRoot, none] else [monitorStateRoot]

def isInboxLive (droneId : String) (monitorStateRoot : Option String) : Bool :=
  pgrepTailMatch m droneId ||
    (vetoRoots monitorStateRoot).any (fun root => freshHeartbeat m (heartbeatPathFor droneId root)) ||
    (vetoRoots monitorStateRoot).any (fun root => livePid m (pidfilePathFor droneId root))

def selectOrphanInboxes (entries : List OrphanInboxEntry) (isLive : String → Bool)
    (droneState : String → DroneRosterState) (staleMs : ℤ) : List OrphanInboxEntry :=
  entries.filter (fun e =>
    if isLive e.droneId then false
    else if m.now - e.mtimeMs < staleMs then false
    else droneState e.droneId ≠ .present)

/-- The `<drone_id>.log` files; one that cannot be read any more is left out. -/
def defaultListInboxLogs : List OrphanInboxEntry :=
  (m.names.getD []).filterMap (fun name =>
    if !".log".toList.isSuffixOf name.toList then none
    else
      let droneId := String.ofList (name.toList.take (name.toList.length - 4))
      (m.mtimeMs (.inbox droneId)).map (fun mtime => ⟨droneId, mtime⟩))

/-- The inbox of an orphan and its sidecars under the caller's root. -/
def orphanPaths (monitorStateRoot : Option String) (droneId : String) : List MonitorPath :=
  [.inbox droneId, pidfilePathFor droneId monitorStateRoot,
    heartbeatPathFor droneId monitorStateRoot] ++
    (if (monitorStateRoot.filter (· ≠ "")).isSome then
      [sidecarPathFor .cursor droneId monitorStateRoot] else [])

structure Sweep where
  /-- The paths `unlink` is called on. -/
  unlinked : List MonitorPath
  /-- Those on which it succeeds. -/
  removed : List MonitorPath
deriving DecidableEq, Repr

def gcOrphanInboxesForCube (selfDroneId : String) (monitorStateRoot : Option String)
    (isLive : String → Bool) (droneState : String → DroneRosterState) (staleMs : ℤ) : Sweep :=
  let entries := (defaultListInboxLogs m).filter (·.droneId ≠ selfDroneId)
  let orphans := selectOrphanInboxes m entries isLive droneState staleMs
  let paths := orphans.flatMap (fun o => orphanPaths monitorStateRoot o.droneId)
  ⟨paths, paths.filter m.unlinks⟩

/-- The sweep of an assimilation into a worktree: it knows no roster. -/
def assimilationSweep (selfDroneId worktreePath : String) : Sweep :=
  let monitorStateRoot := some (monitorStateRootForWorktree worktreePath)
  gcOrphanInboxesForCube m selfDroneId monitorStateRoot (fun d => isInboxLive m d monitorStateRoot)
    (fun _ => .absent) ORPHAN_INBOX_STALE_MS

end Sweep

/-! ### Holders -/

/-- A monitor of a drone's inbox: the worktree whose root has its files, `none` for a binary that
writes them beside the inbox. -/
structure InboxHolder where
  droneId : String
  worktree : Option String
deriving DecidableEq, Repr

def InboxHolder.root (h : InboxHolder) : Option String := h.worktree.map monitorStateRootForWorktree

variable {m : InboxMachine} {selfDroneId worktreePath : String}

/-- The holder's pid is alive or its heartbeat fresh. -/
def InboxHolder.Live (m : InboxMachine) (h : InboxHolder) : Prop :=
  livePid m (pidfilePathFor h.droneId h.root) = true ∨
    freshHeartbeat m (heartbeatPathFor h.droneId h.root) = true

/-- The sweep leaves the files of every live holder alone. -/
def KeepsLiveHolders (m : InboxMachine) (selfDroneId worktreePath : String)
    (holders : List InboxHolder) : Prop :=
  ∀ h ∈ holders, h.Live m →
    MonitorPath.inbox h.droneId ∉ (assimilationSweep m selfDroneId worktreePath).unlinked ∧
      pidfilePathFor h.droneId h.root ∉ (assimilationSweep m selfDroneId worktreePath).unlinked ∧
      heartbeatPathFor h.droneId h.root ∉ (assimilationSweep m selfDroneId worktreePath).unlinked

/-- The sweep would take the drone's inbox, but for a live holder: another drone's inbox that is
listed and stale. -/
def SweptUnlessLive (m : InboxMachine) (selfDroneId droneId : String) : Prop :=
  droneId ≠ selfDroneId ∧ ∃ e ∈ defaultListInboxLogs m, e.droneId = droneId ∧
    ORPHAN_INBOX_STALE_MS ≤ m.now - e.mtimeMs

lemma monitorStateRoot_ne (worktreePath : String) : monitorStateRootForWorktree worktreePath ≠ "" := by
  intro h
  have hlength := congrArg String.length h
  simp [monitorStateRootForWorktree] at hlength

@[simp] lemma sidecarPathFor_some (kind : Sidecar) (droneId worktree : String) :
    sidecarPathFor kind droneId (some (monitorStateRootForWorktree worktree)) =
      .under (monitorStateRootForWorktree worktree) droneId kind := by
  simp [sidecarPathFor, Option.filter, monitorStateRoot_ne]

@[simp] lemma sidecarPathFor_none (kind : Sidecar) (droneId : String) :
    sidecarPathFor kind droneId none = .legacy droneId kind := rfl

@[simp] lemma vetoRoots_some (worktree : String) :
    vetoRoots (some (monitorStateRootForWorktree worktree)) =
      [some (monitorStateRootForWorktree worktree), none] := by
  simp [vetoRoots, Option.filter, monitorStateRoot_ne]

/-- The inboxes a sweep takes. -/
lemma mem_unlinked_iff {path : MonitorPath} :
    path ∈ (assimilationSweep m selfDroneId worktreePath).unlinked ↔
      ∃ droneId, SweptUnlessLive m selfDroneId droneId ∧
        isInboxLive m droneId (some (monitorStateRootForWorktree worktreePath)) = false ∧
        path ∈ orphanPaths (some (monitorStateRootForWorktree worktreePath)) droneId := by
  simp only [assimilationSweep, gcOrphanInboxesForCube, selectOrphanInboxes, mem_flatMap,
    mem_filter, SweptUnlessLive]
  constructor
  · rintro ⟨e, ⟨⟨he, hself⟩, hselect⟩, hpath⟩
    split at hselect
    · cases hselect
    · rename_i hlive
      split at hselect
      · cases hselect
      · rename_i hstale
        exact ⟨e.droneId, ⟨by simpa using hself, e, he, rfl, by omega⟩, by simpa using hlive, hpath⟩
  · rintro ⟨droneId, ⟨hself, e, he, rfl, hstale⟩, hlive, hpath⟩
    refine ⟨e, ⟨⟨he, by simpa using hself⟩, ?_⟩, hpath⟩
    rw [if_neg (by simp [hlive]), if_neg (by omega)]
    rfl

/-- The state files of a drone that the sweep takes are its own. -/
lemma mem_orphanPaths {path : MonitorPath} {droneId : String}
    (h : path ∈ orphanPaths (some (monitorStateRootForWorktree worktreePath)) droneId) :
    path = .inbox droneId ∨
      ∃ kind, path = .under (monitorStateRootForWorktree worktreePath) droneId kind := by
  simp only [orphanPaths, pidfilePathFor, heartbeatPathFor, sidecarPathFor_some, mem_append,
    mem_cons, not_mem_nil, or_false] at h
  rcases h with (h | h | h) | h
  · exact Or.inl h
  · exact Or.inr ⟨_, h⟩
  · exact Or.inr ⟨_, h⟩
  · split at h
    · exact Or.inr ⟨_, mem_singleton.mp h⟩
    · cases h

/-- A live signal for a drone that a sweep from the worktree reads: `pgrep`, or a state file under
that worktree's root or beside the inbox. -/
def SeenBy (m : InboxMachine) (worktreePath droneId : String) : Prop :=
  pgrepTailMatch m droneId = true ∨
    ∃ worktree ∈ [some worktreePath, none], (⟨droneId, worktree⟩ : InboxHolder).Live m

lemma isInboxLive_iff {droneId : String} :
    isInboxLive m droneId (some (monitorStateRootForWorktree worktreePath)) = true ↔
      SeenBy m worktreePath droneId := by
  simp only [isInboxLive, SeenBy, InboxHolder.Live, InboxHolder.root, vetoRoots_some, any_cons,
    any_nil, Bool.or_eq_true, Bool.or_false, mem_cons, not_mem_nil, or_false, exists_eq_or_imp,
    exists_eq_left, Option.map_some, Option.map_none]
  tauto

/-- The state files of a live holder are left alone, whoever holds. -/
lemma sidecar_kept {h : InboxHolder} (kind : Sidecar) (hlive : h.Live m) :
    sidecarPathFor kind h.droneId h.root ∉
      (assimilationSweep m selfDroneId worktreePath).unlinked := by
  intro hmem
  obtain ⟨droneId, _, hdead, hpath⟩ := mem_unlinked_iff.mp hmem
  cases hworktree : h.worktree with
  | none =>
    rw [InboxHolder.root, hworktree, Option.map_none, sidecarPathFor_none] at hpath
    rcases mem_orphanPaths hpath with heq | ⟨_, heq⟩
    · cases heq
    · cases heq
  | some worktree =>
    rw [InboxHolder.root, hworktree, Option.map_some, sidecarPathFor_some] at hpath
    rcases mem_orphanPaths hpath with heq | ⟨_, heq⟩
    · cases heq
    · -- the file is the caller's own for this drone, so the check has read its holder's
      rw [MonitorPath.under.injEq] at heq
      obtain ⟨hroot, rfl, _⟩ := heq
      have hseen : SeenBy m worktreePath h.droneId := by
        refine Or.inr ⟨some worktreePath, by simp, ?_⟩
        unfold InboxHolder.Live at hlive ⊢
        rw [InboxHolder.root, hworktree, Option.map_some, hroot] at hlive
        exact hlive
      rw [isInboxLive_iff.mpr hseen] at hdead
      cases hdead

/-- The sweep keeps the files of every live holder exactly when, for each whose inbox it would take,
it reads a live signal. -/
theorem keepsLiveHolders_iff (m : InboxMachine) (selfDroneId worktreePath : String)
    (holders : List InboxHolder) :
    KeepsLiveHolders m selfDroneId worktreePath holders ↔
      ∀ h ∈ holders, h.Live m → SweptUnlessLive m selfDroneId h.droneId →
        SeenBy m worktreePath h.droneId := by
  constructor
  · intro hkeeps h hh hlive hswept
    by_contra hseen
    have hdead : isInboxLive m h.droneId (some (monitorStateRootForWorktree worktreePath)) = false :=
      Bool.eq_false_iff.mpr (fun htrue => hseen (isInboxLive_iff.mp htrue))
    exact (hkeeps h hh hlive).1 (mem_unlinked_iff.mpr ⟨_, hswept, hdead, by simp [orphanPaths]⟩)
  · intro hall h hh hlive
    refine ⟨fun hmem => ?_, sidecar_kept .pid hlive, sidecar_kept .heartbeat hlive⟩
    obtain ⟨droneId, hswept, hdead, hpath⟩ := mem_unlinked_iff.mp hmem
    rcases mem_orphanPaths hpath with heq | ⟨_, heq⟩
    · cases heq
      have hseen := hall h hh hlive hswept
      rw [isInboxLive_iff.mpr hseen] at hdead
      cases hdead
    · cases heq

/-- A machine without `pgrep`: drone `b`, silent for 31 days, is monitored from `/w2` and its
heartbeat is fresh. -/
def quietMachine : InboxMachine where
  now := 31 * 24 * 60 * 60 * 1000
  names := some ["a.log", "b.log"]
  mtimeMs := fun path =>
    if path = .inbox "b" then some 0
    else if path = heartbeatPathFor "b" (some (monitorStateRootForWorktree "/w2")) then
      some (31 * 24 * 60 * 60 * 1000)
    else none
  pidfilePid := fun path =>
    if path = pidfilePathFor "b" (some (monitorStateRootForWorktree "/w2")) then some 7 else none
  isAlive := fun pid => pid = 7
  pgrep := fun _ => some ⟨true, none, []⟩
  unlinks := fun _ => true

/-- An assimilation of drone `a` into `/w1` removes the inbox that the monitor in `/w2` follows. -/
theorem sweep_removes_live_inbox :
    (⟨"b", some "/w2"⟩ : InboxHolder).Live quietMachine ∧
      MonitorPath.inbox "b" ∈ (assimilationSweep quietMachine "a" "/w1").removed ∧
      ¬ KeepsLiveHolders quietMachine "a" "/w1" [⟨"b", some "/w2"⟩] := by
  have hlive : (⟨"b", some "/w2"⟩ : InboxHolder).Live quietMachine := Or.inl (by decide +kernel)
  have hunlinked : MonitorPath.inbox "b" ∈ (assimilationSweep quietMachine "a" "/w1").unlinked := by
    decide +kernel
  refine ⟨hlive, by decide +kernel, fun hkeeps => ?_⟩
  exact (hkeeps _ (by simp) hlive).1 hunlinked

end BorgClient.Monitor
