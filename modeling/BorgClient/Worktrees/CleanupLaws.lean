import BorgClient.Worktrees.Cleanup

/-!
# What cleanup removes

The promise of `borg cleanup --prune` on every call it makes, and when it is kept: `classifyDirty`
takes a failed `git status` for a clean tree, and the current worktree is known only where the
command is started at its root.
-/

namespace BorgClient.Worktrees
open List

variable {Seat : Type*} (host : CleanupHost Seat)

/-! ### The promise -/

/-- The command runs in the worktree of this real path, at its root or deeper. -/
def HoldsCwd (real : Text) : Prop :=
  ∃ cwd, safeRealpath host.realpath host.cwd = some cwd ∧ (cwd = real ∨ isUnderReal real cwd = true)

/-- The real path of the first worktree listed. -/
def mainReal : Option Text := host.entries.head?.bind (fun e => safeRealpath host.realpath e.path)

/-- What must have been found before the worktree at place `i` is removed. -/
structure RemovalSafe (run : CleanupRun Seat) (i : ℕ) (wt : Text) : Prop where
  listed : ∃ e, host.entries[i]? = some e ∧ e.path = wt
  under : isStrictlyUnder host.realpath host.wtHome wt = true
  evicted : ∃ real seats seat, safeRealpath host.realpath wt = some real ∧
    mainReal host ≠ some real ∧ ¬ HoldsCwd host real ∧ host.listSeats = some seats ∧
    seatOf host seats real = some seat ∧ (some i, .probe seat (some .evicted)) ∈ run.report
  clean : ∃ r, (some i, statusCall wt r) ∈ run.report ∧ r.ok = true ∧
    dirtyCount (classifyDirty r) = 0
  regenerable : ∃ r, (some i, ignoredCall wt r) ∈ run.report ∧ r.ok = true ∧
    ∀ path ∈ ignoredPaths r.stdout, isRegenerableIgnored path = true
  merged : ∃ branch r, branchOf host.entries wt = some branch ∧ host.fetch.ok = true ∧
    r.ok = true ∧ [(none, fetchCall host), (some i, mergedCall branch wt r)] <+ run.report

/-- A branch is deleted after its worktree, when it was found merged: the one checked out there or
the derived base. -/
def DeletionSafe (run : CleanupRun Seat) (i : ℕ) (branch : Text) : Prop :=
  ∃ wt r merged, (some i, removeCall wt host.cwd r) ∈ run.prune ∧ r.ok = true ∧ merged.ok = true ∧
    ((branchOf host.entries wt = some branch ∧
        (some i, mergedCall branch wt merged) ∈ run.report) ∨
      (branch = derivedWtBranch wt ∧ (some i, mergedCall branch host.cwd merged) ∈ run.prune))

structure CleanupSafe (prune : Bool) : Prop where
  removals : ∀ place args cwd r,
    (place, .git args cwd r) ∈ (runCleanup host prune).report ++ (runCleanup host prune).prune →
    words ["worktree", "remove"] <+: args →
    ∃ i wt, place = some i ∧ args = words ["worktree", "remove"] ++ [wt] ∧
      RemovalSafe host (runCleanup host prune) i wt
  deletions : ∀ place args cwd r,
    (place, .git args cwd r) ∈ (runCleanup host prune).report ++ (runCleanup host prune).prune →
    words ["branch"] <+: args →
    ∃ i branch, place = some i ∧ args = words ["branch", "-d"] ++ [branch] ∧
      DeletionSafe host (runCleanup host prune) i branch

/-! ### The worktrees that are removed -/

/-- What the code asks of the worktree at place `i` before it removes it. -/
structure Candidate (prune : Bool) (i : ℕ) (e : WorktreeEntry) (real : Text)
    (seats : List (Text × Seat)) (seat : Seat) (branch : Text) : Prop where
  asked : prune = true
  toplevel : host.toplevel.ok = true
  fetch : host.fetch.ok = true
  list : host.worktreeList.ok = true
  seats_eq : host.listSeats = some seats
  listed : host.entries[i]? = some e
  real_eq : safeRealpath host.realpath e.path = some real
  not_main : mainReal host ≠ some real
  not_self : safeRealpath host.realpath host.cwd ≠ some real
  under : isStrictlyUnder host.realpath host.wtHome e.path = true
  seat_eq : seatOf host seats real = some seat
  /-- Also when the call failed. -/
  dirty : dirtyCount (classifyDirty (host.answers i).status) = 0
  ignored : clobberClassIgnored (host.answers i).ignored = []
  branch_eq : branchOf host.entries e.path = some branch
  merged : (host.answers i).merged.ok = true
  probe : (host.answers i).probe = some .evicted

lemma reasonOf_prunable {answer : Option SeatStatus} (h : reasonOf answer = .PRUNABLE) :
    answer = some .evicted := by
  cases answer with
  | none => cases h
  | some status => cases status <;> first | rfl | cases h

/-- A worktree is called prunable by all gates, and then every call was made. -/
lemma classifyWorktree_prunable {a : EntryAnswers} {wt : Text} {branch : Option Text} {seat : Seat}
    (h : (classifyWorktree a wt branch seat).2 = .PRUNABLE) :
    ∃ b, branch = some b ∧ dirtyCount (classifyDirty a.status) = 0 ∧
      clobberClassIgnored a.ignored = [] ∧ a.merged.ok = true ∧ a.probe = some .evicted := by
  unfold classifyWorktree at h
  split at h
  · cases h
  · rename_i hdirty
    split at h
    · cases h
    · rename_i hignored
      split at h
      · cases h
      · rename_i b
        dsimp only at h
        split at h
        · cases h
        · rename_i hmerged
          refine ⟨b, rfl, by omega, ?_, by simpa using hmerged, reasonOf_prunable h⟩
          exact length_eq_zero_iff.mp (by omega)

lemma classifyWorktree_of_gates {a : EntryAnswers} {wt b : Text} {seat : Seat}
    (hdirty : dirtyCount (classifyDirty a.status) = 0) (hignored : clobberClassIgnored a.ignored = [])
    (hmerged : a.merged.ok = true) (hprobe : a.probe = some .evicted) :
    classifyWorktree a wt (some b) seat =
      ([statusCall wt a.status, ignoredCall wt a.ignored, mergedCall b wt a.merged,
        .probe seat (some .evicted)], .PRUNABLE) := by
  simp [classifyWorktree, hdirty, hignored, hmerged, hprobe, reasonOf]

/-- The row of a candidate. -/
def candidateRow (i : ℕ) (e : WorktreeEntry) (branch : Text) : CleanupRow :=
  ⟨i, e.path, some branch, .PRUNABLE⟩

variable {host} {prune : Bool} {i : ℕ} {e : WorktreeEntry} {real : Text}
  {seats : List (Text × Seat)} {seat : Seat} {branch : Text}

lemma Candidate.reportEntry (h : Candidate host prune i e real seats seat branch) :
    reportEntry host seats i e.path =
      ([statusCall e.path (host.answers i).status, ignoredCall e.path (host.answers i).ignored,
        mergedCall branch e.path (host.answers i).merged, .probe seat (some .evicted)],
        some (candidateRow i e branch)) := by
  unfold Worktrees.reportEntry
  have hmain := h.not_main
  unfold mainReal at hmain
  simp only [h.real_eq, hmain, h.not_self, h.under, h.seat_eq, h.branch_eq, if_false,
    Bool.not_true, Bool.false_eq_true]
  rw [classifyWorktree_of_gates h.dirty h.ignored h.merged h.probe]
  rfl

lemma reportEntry_prunable {row : CleanupRow} {wt : Text}
    (h : (reportEntry host seats i wt).2 = some row) (hrow : row.reason = .PRUNABLE) :
    ∃ real seat branch, safeRealpath host.realpath wt = some real ∧ mainReal host ≠ some real ∧
      safeRealpath host.realpath host.cwd ≠ some real ∧
      isStrictlyUnder host.realpath host.wtHome wt = true ∧
      seatOf host seats real = some seat ∧
      dirtyCount (classifyDirty (host.answers i).status) = 0 ∧
      clobberClassIgnored (host.answers i).ignored = [] ∧
      branchOf host.entries wt = some branch ∧ (host.answers i).merged.ok = true ∧
      (host.answers i).probe = some .evicted ∧ row = ⟨i, wt, some branch, .PRUNABLE⟩ := by
  unfold Worktrees.reportEntry at h
  split at h
  · cases h
  · rename_i real hreal
    dsimp only at h
    split at h
    · cases h
    · rename_i hmain
      split at h
      · cases h
        cases hrow
      · rename_i hself
        split at h
        · obtain ⟨_, _, rfl⟩ := Option.map_eq_some_iff.mp h
          cases hrow
        · rename_i hunder
          split at h
          · cases h
            cases hrow
          · rename_i seat hseat
            cases h
            obtain ⟨branch, hbranch, hdirty, hignored, hmerged, hprobe⟩ :=
              classifyWorktree_prunable hrow
            refine ⟨real, seat, branch, hreal, hmain, hself, by simpa using hunder, hseat, hdirty,
              hignored, hbranch, hmerged, hprobe, ?_⟩
            rw [CleanupRow.mk.injEq]
            exact ⟨rfl, rfl, hbranch, hrow⟩

/-! ### The calls of a run -/

/-- The three calls before the loop. -/
def headerSteps (host : CleanupHost Seat) : List (Step Seat) :=
  [(none, .git (words ["rev-parse", "--show-toplevel"]) host.cwd host.toplevel),
    (none, fetchCall host),
    (none, .git (words ["worktree", "list", "--porcelain"]) host.cwd host.worktreeList)]

def entrySteps (host : CleanupHost Seat) (seats : List (Text × Seat)) (x : WorktreeEntry × ℕ) :
    List (Step Seat) :=
  (reportEntry host seats x.2 x.1.path).1.map (fun c => (some x.2, c))

lemma buildCleanupReport_of_ok (htop : host.toplevel.ok = true) (hfetch : host.fetch.ok = true)
    (hlist : host.worktreeList.ok = true) (hseats : host.listSeats = some seats) :
    buildCleanupReport host =
      (headerSteps host ++ host.entries.zipIdx.flatMap (entrySteps host seats),
        some (host.entries.zipIdx.filterMap (fun x => (reportEntry host seats x.2 x.1.path).2))) := by
  simp only [buildCleanupReport, htop, hfetch, hlist, hseats, Bool.not_true, Bool.false_eq_true,
    if_false, flatMap_map, filterMap_map]
  rfl

lemma buildCleanupReport_some {report : List (Step Seat)} {rows : List CleanupRow}
    (h : buildCleanupReport host = (report, some rows)) :
    host.toplevel.ok = true ∧ host.fetch.ok = true ∧ host.worktreeList.ok = true ∧
      ∃ seats, host.listSeats = some seats := by
  unfold buildCleanupReport at h
  split at h
  · cases h
  · rename_i htop
    dsimp only at h
    split at h
    · cases h
    · rename_i hfetch
      split at h
      · cases h
      · rename_i hlist
        split at h
        · cases h
        · rename_i seats hseats
          exact ⟨by simpa using htop, by simpa using hfetch, by simpa using hlist, seats, hseats⟩

lemma runCleanup_report : (runCleanup host prune).report = (buildCleanupReport host).1 := by
  unfold runCleanup
  split
  · rename_i heq
    rw [heq]
  · rename_i heq
    rw [heq]
    dsimp only
    split <;> rfl

/-- The calls a turn of the loop may make. -/
lemma mem_reportEntry {wt : Text} {c : Call Seat} (h : c ∈ (reportEntry host seats i wt).1) :
    c = statusCall wt (host.answers i).status ∨ c = ignoredCall wt (host.answers i).ignored ∨
      (∃ b, c = mergedCall b wt (host.answers i).merged) ∨ ∃ seat answer, c = .probe seat answer := by
  unfold reportEntry at h
  split at h
  · cases h
  · dsimp only at h
    split at h
    · cases h
    · split at h
      · cases h
      · split at h
        · cases h
        · split at h
          · cases h
          · unfold classifyWorktree at h
            split at h
            · exact Or.inl (mem_singleton.mp h)
            · split at h
              · simp only [mem_cons, not_mem_nil, or_false] at h
                tauto
              · split at h
                · simp only [mem_cons, not_mem_nil, or_false] at h
                  tauto
                · dsimp only at h
                  split at h
                  · simp only [mem_cons, not_mem_nil, or_false] at h
                    rcases h with h | h | h
                    · exact Or.inl h
                    · exact Or.inr (Or.inl h)
                    · exact Or.inr (Or.inr (Or.inl ⟨_, h⟩))
                  · simp only [mem_cons, not_mem_nil, or_false] at h
                    rcases h with h | h | h | h
                    · exact Or.inl h
                    · exact Or.inr (Or.inl h)
                    · exact Or.inr (Or.inr (Or.inl ⟨_, h⟩))
                    · exact Or.inr (Or.inr (Or.inr ⟨_, _, h⟩))

/-- A step of the report is one of the three first calls, or one of a worktree's turn. -/
lemma mem_report {step : Step Seat} (h : step ∈ (runCleanup host prune).report) :
    step ∈ headerSteps host ∨ ∃ i e seats c, step = (some i, c) ∧ host.entries[i]? = some e ∧
      c ∈ (reportEntry host seats i e.path).1 := by
  rw [runCleanup_report] at h
  have hheader : ∀ steps, steps <+: headerSteps host → step ∈ steps →
      step ∈ headerSteps host := fun steps hsteps hmem => hsteps.subset hmem
  unfold buildCleanupReport at h
  split at h
  · exact Or.inl (hheader _ ⟨_, rfl⟩ h)
  · dsimp only at h
    split at h
    · exact Or.inl (hheader _ ⟨_, rfl⟩ h)
    · split at h
      · exact Or.inl (hheader _ ⟨_, rfl⟩ h)
      · split at h
        · exact Or.inl (hheader _ ⟨_, rfl⟩ h)
        · rename_i seats _
          rcases mem_append.mp h with h | h
          · exact Or.inl h
          · right
            simp only [mem_flatMap, mem_map] at h
            obtain ⟨turn, ⟨x, hx, rfl⟩, c, hc, rfl⟩ := h
            exact ⟨x.2, x.1, seats, c, rfl, mem_zipIdx_iff_getElem?.mp hx, hc⟩

/-- The steps of a candidate are in the report, in their order and after the fetch. -/
lemma Candidate.report (h : Candidate host prune i e real seats seat branch) :
    [(none, fetchCall host), (some i, statusCall e.path (host.answers i).status),
      (some i, ignoredCall e.path (host.answers i).ignored),
      (some i, mergedCall branch e.path (host.answers i).merged),
      (some i, .probe seat (some .evicted))] <+ (runCleanup host prune).report := by
  rw [runCleanup_report, buildCleanupReport_of_ok h.toplevel h.fetch h.list h.seats_eq]
  have hfetch : [(none, fetchCall host)] <+ headerSteps host := by simp [headerSteps]
  have hmem : (e, i) ∈ host.entries.zipIdx := mem_zipIdx_iff_getElem?.mpr h.listed
  have hentry : entrySteps host seats (e, i) <+
      host.entries.zipIdx.flatMap (entrySteps host seats) := by
    obtain ⟨before, after, hsplit⟩ := append_of_mem hmem
    rw [hsplit, flatMap_append, flatMap_cons]
    exact (sublist_append_left _ _).trans (sublist_append_right _ _)
  have hsteps : entrySteps host seats (e, i) =
      [(some i, statusCall e.path (host.answers i).status),
        (some i, ignoredCall e.path (host.answers i).ignored),
        (some i, mergedCall branch e.path (host.answers i).merged),
        (some i, .probe seat (some .evicted))] := by
    unfold entrySteps
    rw [h.reportEntry]
    rfl
  rw [hsteps] at hentry
  exact hfetch.append hentry

/-! ### The rows that are removed -/

def prunable (host : CleanupHost Seat) : List CleanupRow :=
  ((buildCleanupReport host).2.getD []).filter (·.reason = .PRUNABLE)

lemma Candidate.mem_prunable (h : Candidate host prune i e real seats seat branch) :
    candidateRow i e branch ∈ prunable host := by
  unfold prunable
  rw [buildCleanupReport_of_ok h.toplevel h.fetch h.list h.seats_eq, Option.getD_some, mem_filter]
  refine ⟨mem_filterMap.mpr ⟨(e, i), mem_zipIdx_iff_getElem?.mpr h.listed, ?_⟩, rfl⟩
  rw [h.reportEntry]

lemma candidate_of_mem_prunable {row : CleanupRow} (h : row ∈ prunable host) :
    ∃ i e real seats seat branch, Candidate host true i e real seats seat branch ∧
      row = candidateRow i e branch := by
  unfold prunable at h
  obtain ⟨hmem, hreason⟩ := mem_filter.mp h
  cases hrows : (buildCleanupReport host).2 with
  | none =>
    rw [hrows] at hmem
    cases hmem
  | some rows =>
    have hbuild : buildCleanupReport host = ((buildCleanupReport host).1, some rows) := by
      rw [← hrows]
    obtain ⟨htop, hfetch, hlist, seats, hseats⟩ := buildCleanupReport_some hbuild
    rw [buildCleanupReport_of_ok htop hfetch hlist hseats, Option.getD_some] at hmem
    obtain ⟨⟨e, i⟩, he, hrow⟩ := mem_filterMap.mp hmem
    obtain ⟨real, seat, branch, hreal, hmain, hself, hunder, hseat, hdirty, hignored, hbranch,
      hmerged, hprobe, rfl⟩ := reportEntry_prunable hrow (by simpa using hreason)
    exact ⟨i, e, real, seats, seat, branch, ⟨rfl, htop, hfetch, hlist, hseats,
      mem_zipIdx_iff_getElem?.mp he, hreal, hmain, hself, hunder, hseat, hdirty, hignored, hbranch,
      hmerged, hprobe⟩, rfl⟩

/-- The steps of the prune are the calls of the prunable rows. -/
lemma runCleanup_prune :
    (runCleanup host true).prune =
      (prunable host).flatMap (fun row => (pruneRow host row).1.map (fun c => (some row.place, c))) ∧
      (runCleanup host false).prune = [] := by
  unfold runCleanup prunable
  cases hbuild : buildCleanupReport host with
  | mk report rows =>
    cases rows with
    | none => exact ⟨rfl, rfl⟩
    | some rows => exact ⟨rfl, rfl⟩

/-- The calls made for a row. -/
lemma mem_pruneBase {row : CleanupRow} {c : Call Seat} (h : c ∈ pruneBase host row) :
    c = baseExistsCall (derivedWtBranch row.worktreePath) host.cwd (host.answers row.place).baseExists ∨
      c = mergedCall (derivedWtBranch row.worktreePath) host.cwd (host.answers row.place).baseMerged ∨
      (c = branchDeleteCall (derivedWtBranch row.worktreePath) host.cwd
          (host.answers row.place).baseDelete ∧
        (host.answers row.place).baseMerged.ok = true ∧
        mergedCall (derivedWtBranch row.worktreePath) host.cwd (host.answers row.place).baseMerged ∈
          pruneBase host row) := by
  unfold pruneBase at h ⊢
  dsimp only at h ⊢
  split at h
  · cases h
  · rename_i hbase
    rw [if_neg hbase]
    split at h
    · exact Or.inl (mem_singleton.mp h)
    · rename_i hexists
      rw [if_neg hexists]
      split at h
      · simp only [mem_cons, not_mem_nil, or_false] at h
        rcases h with h | h
        · exact Or.inl h
        · exact Or.inr (Or.inl h)
      · rename_i hmerged
        rw [if_neg hmerged]
        simp only [mem_cons, not_mem_nil, or_false] at h
        rcases h with h | h | h
        · exact Or.inl h
        · exact Or.inr (Or.inl h)
        · exact Or.inr (Or.inr ⟨h, by simpa using hmerged, by simp⟩)

lemma remove_mem_pruneRow (row : CleanupRow) :
    removeCall row.worktreePath host.cwd (host.answers row.place).remove ∈ (pruneRow host row).1 := by
  unfold pruneRow
  dsimp only
  split
  · simp
  · split
    · simp
    · split <;> simp

lemma mem_pruneRow {row : CleanupRow} {c : Call Seat} (h : c ∈ (pruneRow host row).1) :
    c = removeCall row.worktreePath host.cwd (host.answers row.place).remove ∨
      ((host.answers row.place).remove.ok = true ∧ ∃ b, row.wtBranch = some b ∧
        c = branchDeleteCall b host.cwd (host.answers row.place).branchDelete) ∨
      ((host.answers row.place).remove.ok = true ∧ c ∈ pruneBase host row ∧
        pruneBase host row ⊆ (pruneRow host row).1) := by
  unfold pruneRow at h ⊢
  dsimp only at h ⊢
  split at h
  · exact Or.inl (mem_singleton.mp h)
  · rename_i hremove
    rw [if_neg hremove]
    have hok : (host.answers row.place).remove.ok = true := by simpa using hremove
    split at h
    · rcases mem_cons.mp h with h | h
      · exact Or.inl h
      · exact Or.inr (Or.inr ⟨hok, h, subset_cons_self _ _⟩)
    · rename_i b hb
      have hbranch := (Option.filter_eq_some_iff.mp hb).1
      split at h
      · simp only [mem_cons, not_mem_nil, or_false] at h
        rcases h with h | h
        · exact Or.inl h
        · exact Or.inr (Or.inl ⟨hok, b, hbranch, h⟩)
      · rename_i hdelete
        rw [if_neg hdelete]
        simp only [mem_cons] at h
        rcases h with h | h | h
        · exact Or.inl h
        · exact Or.inr (Or.inl ⟨hok, b, hbranch, h⟩)
        · refine Or.inr (Or.inr ⟨hok, h, fun c hc => ?_⟩)
          exact mem_cons_of_mem _ (mem_cons_of_mem _ hc)

/-! ### Destructive calls -/

/-- The report makes no call that removes a worktree or touches a branch. -/
lemma report_args {place : Option ℕ} {args : List Text} {cwd : Text} {r : RunResult}
    (h : (place, Call.git args cwd r) ∈ (runCleanup host prune).report) :
    ¬ words ["worktree", "remove"] <+: args ∧ ¬ words ["branch"] <+: args := by
  rcases mem_report h with h | ⟨i, e, seats, c, hstep, _, hc⟩
  · simp only [headerSteps, fetchCall, mem_cons, not_mem_nil, or_false, Prod.mk.injEq,
      Call.git.injEq] at h
    rcases h with ⟨_, rfl, _⟩ | ⟨_, rfl, _⟩ | ⟨_, rfl, _⟩ <;> simp [words, cons_prefix_cons]
  · cases hstep
    rcases mem_reportEntry hc with h | h | ⟨b, h⟩ | ⟨seat, answer, h⟩
    · cases h
      simp [words, cons_prefix_cons]
    · cases h
      simp [words, cons_prefix_cons]
    · cases h
      simp [words, cons_prefix_cons]
    · cases h

lemma mem_prune_iff {step : Step Seat} :
    step ∈ (runCleanup host prune).prune ↔
      ∃ i e real seats seat branch, Candidate host prune i e real seats seat branch ∧
        ∃ c ∈ (pruneRow host (candidateRow i e branch)).1, step = (some i, c) := by
  cases prune with
  | false =>
    rw [runCleanup_prune.2]
    constructor
    · intro h
      cases h
    · rintro ⟨i, e, real, seats, seat, branch, hcandidate, _⟩
      cases hcandidate.asked
  | true =>
    rw [runCleanup_prune.1]
    simp only [mem_flatMap, mem_map]
    constructor
    · rintro ⟨row, hrow, c, hc, rfl⟩
      obtain ⟨i, e, real, seats, seat, branch, hcandidate, rfl⟩ := candidate_of_mem_prunable hrow
      exact ⟨i, e, real, seats, seat, branch, hcandidate, c, hc, rfl⟩
    · rintro ⟨i, e, real, seats, seat, branch, hcandidate, c, hc, rfl⟩
      exact ⟨_, hcandidate.mem_prunable, c, hc, rfl⟩

/-- Every candidate is removed. -/
lemma Candidate.removed (h : Candidate host prune i e real seats seat branch) :
    (some i, removeCall e.path host.cwd (host.answers i).remove) ∈ (runCleanup host prune).prune :=
  mem_prune_iff.mpr ⟨i, e, real, seats, seat, branch, h, _, remove_mem_pruneRow _, rfl⟩

/-- The gates the code does ask for make a removal safe, if `git status` was read and the command
does not run in the worktree. -/
lemma Candidate.safe (h : Candidate host prune i e real seats seat branch)
    (hstatus : (host.answers i).status.ok = true) (hcwd : ¬ HoldsCwd host real) :
    RemovalSafe host (runCleanup host prune) i e.path := by
  have hreport := h.report
  have hmem := hreport.subset
  refine ⟨⟨e, h.listed, rfl⟩, h.under, ⟨real, seats, seat, h.real_eq, h.not_main, hcwd, h.seats_eq,
    h.seat_eq, hmem (by simp)⟩, ⟨_, hmem (by simp), hstatus, h.dirty⟩, ?_,
    ⟨branch, _, h.branch_eq, h.fetch, h.merged, ?_⟩⟩
  · have hignored := h.ignored
    unfold clobberClassIgnored at hignored
    split at hignored
    · cases hignored
    · rename_i hok
      refine ⟨_, hmem (mem_cons_of_mem _ (mem_cons_of_mem _ mem_cons_self)), by simpa using hok, ?_⟩
      intro path hpath
      simpa using filter_eq_nil_iff.mp hignored path hpath
  · refine Sublist.trans ?_ hreport
    simp

/-- The status call recorded for a place is the one answered there. -/
lemma statusCall_unique {wt : Text} {r : RunResult}
    (h : (some i, statusCall wt r) ∈ (runCleanup host prune).report) :
    r = (host.answers i).status := by
  rcases mem_report h with h | ⟨j, e, seats, c, hstep, _, hc⟩
  · simp [headerSteps] at h
  · cases hstep
    rcases mem_reportEntry hc with h | h | ⟨b, h⟩ | ⟨seat, answer, h⟩
    · cases h
      rfl
    · have hargs := (Call.git.injEq _ _ _ _ _ _ ▸ h : _ ∧ _).1
      simp [words] at hargs
    · have hargs := (Call.git.injEq _ _ _ _ _ _ ▸ h : _ ∧ _).1
      simp [words] at hargs
    · cases h

/-- A safe run reads the status of every worktree it removes and removes none it runs in. -/
lemma CleanupSafe.of_candidate (hsafe : CleanupSafe host prune)
    (hcandidate : Candidate host prune i e real seats seat branch) :
    (host.answers i).status.ok = true ∧ ¬ HoldsCwd host real := by
  obtain ⟨j, wt, hplace, hargs, hremoval⟩ := hsafe.removals (some i) _ _ _
    (mem_append_right _ hcandidate.removed) (prefix_append _ _)
  cases hplace
  have hwt : e.path = wt := by simpa using hargs
  subst hwt
  obtain ⟨r, hr, hok, _⟩ := hremoval.clean
  obtain ⟨real', _, _, hreal, _, hcwd, _⟩ := hremoval.evicted
  rw [hcandidate.real_eq, Option.some.injEq] at hreal
  subst hreal
  exact ⟨statusCall_unique hr ▸ hok, hcwd⟩

/-- Every removal is safe exactly when each worktree that passes the gates the code asks for had its
`git status` read and does not hold the directory the command runs in. -/
theorem cleanupSafe_iff (host : CleanupHost Seat) (prune : Bool) :
    CleanupSafe host prune ↔
      ∀ i e real seats seat branch, Candidate host prune i e real seats seat branch →
        (host.answers i).status.ok = true ∧ ¬ HoldsCwd host real := by
  constructor
  · intro hsafe i e real seats seat branch hcandidate
    exact hsafe.of_candidate hcandidate
  · intro hall
    constructor
    · intro place args cwd r hmem hargs
      rcases mem_append.mp hmem with hmem | hmem
      · exact absurd hargs (report_args hmem).1
      · obtain ⟨i, e, real, seats, seat, branch, hcandidate, c, hc, hstep⟩ := mem_prune_iff.mp hmem
        cases hstep
        have hremove : (Call.git args cwd r : Call Seat) =
            removeCall e.path host.cwd (host.answers i).remove := by
          rcases mem_pruneRow hc with h | ⟨_, b, _, h⟩ | ⟨_, h, _⟩
          · exact h
          · cases h
            simp [words, cons_prefix_cons] at hargs
          · rcases mem_pruneBase h with h | h | ⟨h, _⟩
            · cases h
              simp [words, cons_prefix_cons] at hargs
            · cases h
              simp [words, cons_prefix_cons] at hargs
            · cases h
              simp [words, cons_prefix_cons] at hargs
        cases hremove
        obtain ⟨hstatus, hcwd⟩ := hall i e real seats seat branch hcandidate
        exact ⟨i, e.path, rfl, rfl, hcandidate.safe hstatus hcwd⟩
    · intro place args cwd r hmem hargs
      rcases mem_append.mp hmem with hmem | hmem
      · exact absurd hargs (report_args hmem).2
      · obtain ⟨i, e, real, seats, seat, branch, hcandidate, c, hc, hstep⟩ := mem_prune_iff.mp hmem
        cases hstep
        have hinReport : (some i, mergedCall branch e.path (host.answers i).merged) ∈
            (runCleanup host prune).report := hcandidate.report.subset (by simp)
        rcases mem_pruneRow hc with h | ⟨hok, b, hb, h⟩ | ⟨hok, h, hsub⟩
        · cases h
          simp [words, cons_prefix_cons] at hargs
        · cases h
          cases hb
          exact ⟨i, branch, rfl, rfl, e.path, _, _, hcandidate.removed, hok, hcandidate.merged,
            Or.inl ⟨hcandidate.branch_eq, hinReport⟩⟩
        · rcases mem_pruneBase h with h | h | ⟨h, hmerged, hcall⟩
          · cases h
            simp [words, cons_prefix_cons] at hargs
          · cases h
            simp [words, cons_prefix_cons] at hargs
          · cases h
            exact ⟨i, _, rfl, rfl, e.path, _, _, hcandidate.removed, hok, hmerged,
              Or.inr ⟨rfl, mem_prune_iff.mpr ⟨i, e, real, seats, seat, branch, hcandidate, _,
                hsub hcall, rfl⟩⟩⟩

/-! ### The two ways it is not kept -/

def answered (status : ℤ) (stdout : String) : RunResult := ⟨some status, stdout.toList, []⟩

/-- A repository with one evicted drone's worktree beside its primary one. -/
def evictedHost (cwd : String) (status : RunResult) (ignored : String) : CleanupHost Unit where
  homeDir := "/h".toList
  cwd := cwd.toList
  join := fun parts => (parts.intersperse ['/']).flatten
  realpath := some
  listSeats := some [("/h/.borg/worktrees/r/a".toList, ())]
  toplevel := answered 0 "/r"
  fetch := answered 0 ""
  worktreeList := answered 0
    "worktree /r\nbranch refs/heads/main\n\nworktree /h/.borg/worktrees/r/a\nbranch refs/heads/wt-a\n"
  answers := fun _ => ⟨status, answered 0 ignored, answered 0 "", some .evicted, answered 0 "",
    answered 0 "", answered 1 "", answered 1 "", answered 1 ""⟩

/-- The worktree's `git status` fails and its next one lists an untracked file; or the command is
started in a directory of the worktree. Both are removed. -/
theorem cleanup_removes_unread_and_current :
    ¬ CleanupSafe (evictedHost "/r" (answered 128 "") "?? notes.txt\n") true ∧
      ¬ CleanupSafe (evictedHost "/h/.borg/worktrees/r/a/src" (answered 0 "") "") true := by
  constructor
  · intro hsafe
    have hcandidate : Candidate (evictedHost "/r" (answered 128 "") "?? notes.txt\n") true 1
        ⟨"/h/.borg/worktrees/r/a".toList, some "wt-a".toList⟩ "/h/.borg/worktrees/r/a".toList
        [("/h/.borg/worktrees/r/a".toList, ())] () "wt-a".toList := by
      constructor <;> first | rfl | decide +kernel
    exact absurd (hsafe.of_candidate hcandidate).1 (by decide +kernel)
  · intro hsafe
    have hcandidate : Candidate (evictedHost "/h/.borg/worktrees/r/a/src" (answered 0 "") "") true 1
        ⟨"/h/.borg/worktrees/r/a".toList, some "wt-a".toList⟩ "/h/.borg/worktrees/r/a".toList
        [("/h/.borg/worktrees/r/a".toList, ())] () "wt-a".toList := by
      constructor <;> first | rfl | decide +kernel
    exact (hsafe.of_candidate hcandidate).2 ⟨"/h/.borg/worktrees/r/a/src".toList, by decide +kernel,
      Or.inr (by decide +kernel)⟩

end BorgClient.Worktrees
