import BorgClient.Monitor.EventLine

/-!
# `borg cleanup`

`cleanup-cmd.ts` over `worktree-lifecycle.ts`: the report on the worktrees of a repository and the
removal of those it calls prunable. Every subprocess call has an answer of its own; the run records
the calls it made, each with the place of the worktree it was made for.
-/

namespace BorgClient.Worktrees
open List
open Monitor (trim)

abbrev Text := List Char

structure RunResult where
  /-- `null` when the process was not started or was killed. -/
  status : Option ℤ
  stdout : Text
  stderr : Text
deriving DecidableEq, Repr

def RunResult.ok (r : RunResult) : Bool := r.status == some 0

inductive SeatStatus
  | live | evicted | revoked | rejected | indeterminate
deriving DecidableEq, Repr

inductive CleanupReason
  | PRUNABLE | SURVIVES_dirty | SURVIVES_clobber | SURVIVES_unmerged | SURVIVES_detached
  | SURVIVES_revoked | SURVIVES_superseded | SURVIVES_live | SURVIVES_self
  | UNKNOWN_indeterminate | UNKNOWN_no_connection | LEGACY_manual_review
deriving DecidableEq, Repr

/-! ### Reading what git printed -/

structure DirtyClassification where
  staged : List Text := []
  unstaged : List Text := []
  untracked : List Text := []
  localConfig : List Text := []
deriving DecidableEq, Repr

def classifyLine (out : DirtyClassification) (line : Text) : DirtyClassification :=
  if trim line = [] then out
  else
    let path := line.drop 3
    let out :=
      if "??".toList.isPrefixOf line then { out with untracked := out.untracked ++ [path] }
      else
        let x := line.head?
        let y := line.tail.head?
        let out := if x ≠ some ' ' ∧ x ≠ some '?' then { out with staged := out.staged ++ [path] }
          else out
        if y ≠ some ' ' ∧ y ≠ some '?' then { out with unstaged := out.unstaged ++ [path] } else out
    if ".claude/".toList.isPrefixOf path then { out with localConfig := out.localConfig ++ [path] }
    else out

/-- `git status --porcelain`; a failed call leaves every bucket empty. -/
def classifyDirty (r : RunResult) : DirtyClassification :=
  if !r.ok then {} else (r.stdout.splitOn '\n').foldl classifyLine {}

def dirtyCount (dirty : DirtyClassification) : ℕ :=
  dirty.staged.length + dirty.unstaged.length + dirty.untracked.length

def REGENERABLE_DIRS : List Text :=
  ["node_modules", "dist", "build", ".next", "coverage", ".wrangler", ".playwright-mcp",
    ".claude"].map String.toList

def REGENERABLE_FILES : List Text := [".DS_Store", "worker-configuration.d.ts"].map String.toList

def REGENERABLE_SUFFIXES : List Text := [".log", ".tsbuildinfo", ".tmp"].map String.toList

def isRegenerableIgnored (ignoredPath : Text) : Bool :=
  let clean := (ignoredPath.reverse.dropWhile (· == '/')).reverse
  let segments := (clean.splitOn '/').filter (· ≠ [])
  let base := segments.getLast?.getD clean
  segments.any (REGENERABLE_DIRS.contains ·) || REGENERABLE_FILES.contains base ||
    REGENERABLE_SUFFIXES.any (fun suffix => suffix.isSuffixOf base)

/-- The paths of the `!!` lines of `git status --porcelain --ignored`. -/
def ignoredPaths (stdout : Text) : List Text :=
  (((stdout.splitOn '\n').filter ("!!".toList.isPrefixOf ·)).map
    (fun line => trim (line.drop 3))).filter (· ≠ [])

/-- The ignored paths that are not regenerable; a failed call counts as one. -/
def clobberClassIgnored (r : RunResult) : List Text :=
  if !r.ok then ["<git status --ignored failed — cannot verify clean>".toList]
  else (ignoredPaths r.stdout).filter (fun path => !isRegenerableIgnored path)

structure WorktreeEntry where
  path : Text
  branch : Option Text
deriving DecidableEq, Repr

def dropPrefix (start text : Text) : Text :=
  if start.isPrefixOf text then text.drop start.length else text

/-- `entries` and `cur` of the loop. -/
def parseWorktreeLine (s : List WorktreeEntry × Option WorktreeEntry) (line : Text) :
    List WorktreeEntry × Option WorktreeEntry :=
  if "worktree ".toList.isPrefixOf line then
    (s.1 ++ s.2.toList, some ⟨trim (line.drop 9), none⟩)
  else
    match s.2 with
    | some cur =>
      if "branch ".toList.isPrefixOf line then
        (s.1, some { cur with branch := some (dropPrefix "refs/heads/".toList (trim (line.drop 7))) })
      else s
    | none => s

def parseWorktreeEntries (porcelain : Text) : List WorktreeEntry :=
  let s := (porcelain.splitOn '\n').foldl parseWorktreeLine ([], none)
  s.1 ++ s.2.toList

/-! ### Paths -/

def basename (path : Text) : Text :=
  ((path.reverse.dropWhile (· == '/')).takeWhile (· != '/')).reverse

def dirname (path : Text) : Text :=
  match (path.reverse.dropWhile (· == '/')).dropWhile (· != '/') with
  | [] => if path.head? = some '/' then ['/'] else ['.']
  | ['/'] => ['/']
  | ['/', '/'] => ['/', '/']
  | _ :: rest => rest.reverse

def perWorktreeBranchName (worktreeBasename repoBasename : Text) : Text :=
  "wt-".toList ++ dropPrefix (repoBasename ++ ['-']) worktreeBasename

/-- `wt-<suffix>` of a worktree path. -/
def derivedWtBranch (worktreePath : Text) : Text :=
  perWorktreeBranchName (basename worktreePath) (basename (dirname worktreePath))

def isUnderReal (rp rc : Text) : Bool :=
  if rc = rp then false else (if rp.getLast? = some '/' then rp else rp ++ ['/']).isPrefixOf rc

def isStrictlyUnder (realpath : Text → Option Text) (parent child : Text) : Bool :=
  match realpath parent, realpath child with
  | some rp, some rc => isUnderReal rp rc
  | _, _ => false

/-- An empty answer counts as none. -/
def safeRealpath (realpath : Text → Option Text) (p : Text) : Option Text :=
  (realpath p).filter (· ≠ [])

/-! ### The answers of one run -/

/-- The calls made for one worktree of the list. -/
structure EntryAnswers where
  /-- `git status --porcelain` -/
  status : RunResult
  /-- `git status --porcelain --ignored` -/
  ignored : RunResult
  /-- `git merge-base --is-ancestor <branch> origin/main` -/
  merged : RunResult
  /-- `probeSeat`; `none` when it throws. -/
  probe : Option SeatStatus
  /-- `git worktree remove` -/
  remove : RunResult
  /-- `git branch -d <branch>` -/
  branchDelete : RunResult
  /-- `git rev-parse --verify --quiet refs/heads/<base>` -/
  baseExists : RunResult
  /-- `git merge-base --is-ancestor <base> origin/main` -/
  baseMerged : RunResult
  /-- `git branch -d <base>` -/
  baseDelete : RunResult

structure CleanupHost (Seat : Type*) where
  homeDir : Text
  cwd : Text
  join : List Text → Text
  realpath : Text → Option Text
  /-- `none` when it throws. -/
  listSeats : Option (List (Text × Seat))
  toplevel : RunResult
  fetch : RunResult
  worktreeList : RunResult
  /-- The answers for the worktree at a place of the list. -/
  answers : ℕ → EntryAnswers

inductive Call (Seat : Type*)
  | git (args : List Text) (cwd : Text) (result : RunResult)
  | probe (seat : Seat) (answer : Option SeatStatus)

/-- A call, and the place of the worktree it was made for. -/
abbrev Step (Seat : Type*) := Option ℕ × Call Seat

structure CleanupRow where
  place : ℕ
  worktreePath : Text
  wtBranch : Option Text
  reason : CleanupReason
deriving DecidableEq, Repr

def words (s : List String) : List Text := s.map String.toList

def DEFAULT_REF : Text := "origin/main".toList

section Report
variable {Seat : Type*} (host : CleanupHost Seat)

def CleanupHost.wtHome : Text := host.join [host.homeDir, ".borg".toList, "worktrees".toList]

def CleanupHost.entries : List WorktreeEntry := parseWorktreeEntries host.worktreeList.stdout

/-- `branchByPath.get(path)`: the last entry of a path. -/
def branchOf (entries : List WorktreeEntry) (path : Text) : Option Text :=
  (entries.reverse.find? (·.path = path)).bind WorktreeEntry.branch

/-- `seatByReal.get(real)`: the last seat of a real path. -/
def seatOf (seats : List (Text × Seat)) (real : Text) : Option Seat :=
  (seats.reverse.find? (fun s => safeRealpath host.realpath s.1 = some real)).map Prod.snd

def statusCall (path : Text) (r : RunResult) : Call Seat :=
  .git (words ["status", "--porcelain"]) path r

def ignoredCall (path : Text) (r : RunResult) : Call Seat :=
  .git (words ["status", "--porcelain", "--ignored"]) path r

def mergedCall (branch path : Text) (r : RunResult) : Call Seat :=
  .git (words ["merge-base", "--is-ancestor"] ++ [branch, DEFAULT_REF]) path r

def fetchCall : Call Seat := .git (words ["fetch", "origin", "--prune"]) host.cwd host.fetch

def reasonOf : Option SeatStatus → CleanupReason
  | none => .UNKNOWN_indeterminate
  | some .evicted => .PRUNABLE
  | some .rejected => .SURVIVES_superseded
  | some .revoked => .SURVIVES_revoked
  | some .live => .SURVIVES_live
  | some .indeterminate => .UNKNOWN_indeterminate

/-- The gates in their order; the first that keeps the worktree ends the calls. -/
def classifyWorktree (a : EntryAnswers) (worktreePath : Text) (actualBranch : Option Text)
    (seat : Seat) : List (Call Seat) × CleanupReason :=
  let status := statusCall worktreePath a.status
  if dirtyCount (classifyDirty a.status) > 0 then ([status], .SURVIVES_dirty)
  else
    let ignored := ignoredCall worktreePath a.ignored
    if (clobberClassIgnored a.ignored).length > 0 then ([status, ignored], .SURVIVES_clobber)
    else
      match actualBranch with
      | none => ([status, ignored], .SURVIVES_detached)
      | some branch =>
        let merged := mergedCall branch worktreePath a.merged
        if !a.merged.ok then ([status, ignored, merged], .SURVIVES_unmerged)
        else ([status, ignored, merged, .probe seat a.probe], reasonOf a.probe)

/-- One turn of the loop over the worktrees. -/
def reportEntry (seats : List (Text × Seat)) (i : ℕ) (wt : Text) :
    List (Call Seat) × Option CleanupRow :=
  match safeRealpath host.realpath wt with
  | none => ([], none)
  | some real =>
    let mainReal := host.entries.head?.bind (fun e => safeRealpath host.realpath e.path)
    let seat := seatOf host seats real
    if mainReal = some real then ([], none)
    else if safeRealpath host.realpath host.cwd = some real then
      ([], some ⟨i, wt, none, .SURVIVES_self⟩)
    else if !isStrictlyUnder host.realpath host.wtHome wt then
      ([], seat.map (fun _ => ⟨i, wt, none, .LEGACY_manual_review⟩))
    else
      match seat with
      | none => ([], some ⟨i, wt, none, .UNKNOWN_no_connection⟩)
      | some seat =>
        let actualBranch := branchOf host.entries wt
        let c := classifyWorktree (host.answers i) wt actualBranch seat
        (c.1, some ⟨i, wt, actualBranch, c.2⟩)

/-- The calls, and the rows; `none` when an error ends the report. -/
def buildCleanupReport : List (Step Seat) × Option (List CleanupRow) :=
  let toplevel := (none, .git (words ["rev-parse", "--show-toplevel"]) host.cwd host.toplevel)
  if !host.toplevel.ok then ([toplevel], none)
  else
    let fetch := (none, fetchCall host)
    if !host.fetch.ok then ([toplevel, fetch], none)
    else
      let list := (none, .git (words ["worktree", "list", "--porcelain"]) host.cwd host.worktreeList)
      if !host.worktreeList.ok then ([toplevel, fetch, list], none)
      else
        match host.listSeats with
        | none => ([toplevel, fetch, list], none)
        | some seats =>
          let turns := host.entries.zipIdx.map (fun e => (e.2, reportEntry host seats e.2 e.1.path))
          ([toplevel, fetch, list] ++ turns.flatMap (fun t => t.2.1.map (fun c => (some t.1, c))),
            some (turns.filterMap (fun t => t.2.2)))

end Report

/-! ### The prune -/

inductive PruneOutcome
  | removed | remove_failed | branch_delete_failed
deriving DecidableEq, Repr

section Prune
variable {Seat : Type*} (host : CleanupHost Seat)

def removeCall (path cwd : Text) (r : RunResult) : Call Seat :=
  .git (words ["worktree", "remove"] ++ [path]) cwd r

def branchDeleteCall (branch cwd : Text) (r : RunResult) : Call Seat :=
  .git (words ["branch", "-d"] ++ [branch]) cwd r

def baseExistsCall (base cwd : Text) (r : RunResult) : Call Seat :=
  .git (words ["rev-parse", "--verify", "--quiet"] ++ ["refs/heads/".toList ++ base]) cwd r

/-- The derived base branch, looked for and deleted when it is merged. -/
def pruneBase (row : CleanupRow) : List (Call Seat) :=
  let a := host.answers row.place
  let base := derivedWtBranch row.worktreePath
  if some base = row.wtBranch then []
  else
    let found := baseExistsCall base host.cwd a.baseExists
    if !a.baseExists.ok then [found]
    else
      let merged := mergedCall base host.cwd a.baseMerged
      if !a.baseMerged.ok then [found, merged]
      else [found, merged, branchDeleteCall base host.cwd a.baseDelete]

def pruneRow (row : CleanupRow) : List (Call Seat) × PruneOutcome :=
  let a := host.answers row.place
  let remove := removeCall row.worktreePath host.cwd a.remove
  if !a.remove.ok then ([remove], .remove_failed)
  else
    match row.wtBranch.filter (· ≠ []) with
    | none => (remove :: pruneBase host row, .removed)
    | some branch =>
      let delete := branchDeleteCall branch host.cwd a.branchDelete
      if !a.branchDelete.ok then ([remove, delete], .branch_delete_failed)
      else (remove :: delete :: pruneBase host row, .removed)

structure CleanupRun (Seat : Type*) where
  report : List (Step Seat)
  rows : List CleanupRow
  prune : List (Step Seat)
  /-- How each row that was to be removed ended. -/
  outcomes : List PruneOutcome
  exitCode : ℕ

def runCleanup (prune : Bool) : CleanupRun Seat :=
  match buildCleanupReport host with
  | (report, none) => ⟨report, [], [], [], 1⟩
  | (report, some rows) =>
    let prunable := rows.filter (·.reason = .PRUNABLE)
    if !prune then ⟨report, rows, [], [], 0⟩
    else
      let ends := prunable.map (fun row => (pruneRow host row).2)
      ⟨report, rows,
        prunable.flatMap (fun row => (pruneRow host row).1.map (fun c => (some row.place, c))),
        ends, if ends.any (· = .remove_failed) then 1 else 0⟩

end Prune

end BorgClient.Worktrees
