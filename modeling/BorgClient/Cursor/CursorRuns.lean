import BorgClient.Cursor.CursorFile

/-!
# Overlapping updates of the cursor file

Any number of calls of `advanceLocalServerCursor` and `clearLocalServerCursor`, each between two
file-system steps of `withLock`, `readState` and `writeState`.
-/

namespace BorgClient.Cursor
open Representative Platform Runs Exclusion

def STALE_LOCK_MS : ℕ := 30000
def LOCK_ATTEMPTS : ℕ := 200

/-- The lock file: the call that created it and when. -/
structure LockFile where
  creator : ℕ
  mtimeMs : ℕ
deriving DecidableEq, Repr

/-- Where a call is. The lock is held from `locked` to `releasing`. -/
inductive CursorControl
  | opening (attempt : ℕ)
  | inspecting (attempt : ℕ)
  | reclaiming (attempt : ℕ)
  | locked
  | reading
  | staging (next : CursorMap)
  | publishing (next : CursorMap)
  | releasing (outcome : Except CursorError Unit)
  | finished (outcome : Except CursorError Unit)
  | dead

/-- Inside the critical section. -/
def CursorControl.inside : CursorControl → Bool
  | .locked | .reading | .staging _ | .publishing _ | .releasing _ => true
  | _ => false

structure CursorCall where
  op : CursorOp
  control : CursorControl

structure CursorWorld where
  now : ℕ
  file : CursorState
  lock : Option LockFile
  calls : ℕ → Option CursorCall
  /-- The updates written, in the order of their renames. -/
  commits : List CursorOp

/-- No call has started; a lock file may be left over. -/
def CursorWorld.start (file : CursorState) (lock : Option LockFile) : CursorWorld :=
  ⟨0, file, lock, fun _ => none, []⟩

inductive CursorMove
  | openLock | inspect | reclaim | guard | read | stage | publish | unlock
  /-- A file operation or the caller's guard throws. -/
  | fail
  | die
deriving DecidableEq, Repr

inductive CursorStep
  | advance (i : ℕ) (binding : LocalServerCursorBinding) (cursor : LocalServerCursor)
  | clear (i : ℕ) (binding : LocalServerCursorBinding)
  | move (i : ℕ) (m : CursorMove)
  | wait (ms : ℕ)
deriving DecidableEq, Repr

def CursorWorld.set (w : CursorWorld) (i : ℕ) (call : CursorCall) : CursorWorld :=
  { w with calls := Function.update w.calls i (some call) }

/-- Call `i` is inside its critical section. -/
def CursorWorld.Inside (w : CursorWorld) (i : ℕ) : Prop :=
  ∃ call, w.calls i = some call ∧ call.control.inside = true

instance (w : CursorWorld) (i : ℕ) : Decidable (w.Inside i) :=
  match h : w.calls i with
  | none => isFalse (by rintro ⟨call, hc, _⟩; simp [h] at hc)
  | some call =>
    if hi : call.control.inside = true then isTrue ⟨call, h, hi⟩
    else isFalse (by
      rintro ⟨call', hc, hi'⟩
      rw [h, Option.some.injEq] at hc
      exact hi (hc ▸ hi'))

/-- A new call, or the refusal of its arguments. -/
def startCall (w : CursorWorld) (i : ℕ) (call : Except CursorError CursorOp) : CursorWorld :=
  match w.calls i, call with
  | none, .ok op => w.set i ⟨op, .opening 0⟩
  | _, _ => w

/-- A move of call `i`, from its own control point. -/
def callStep (w : CursorWorld) (i : ℕ) (call : CursorCall) (m : CursorMove) : CursorWorld :=
  let goto (w : CursorWorld) (control : CursorControl) := w.set i { call with control := control }
  match call.control, m with
  | .opening attempt, .openLock =>
    if attempt ≥ LOCK_ATTEMPTS then goto w (.finished (.error .busy))
    else
      match w.lock with
      | none => goto { w with lock := some ⟨i, w.now⟩ } .locked
      | some _ => goto w (.inspecting attempt)
  | .inspecting attempt, .inspect =>
    match w.lock with
    | none => goto w (.opening (attempt + 1))
    | some lock =>
      if w.now - lock.mtimeMs > STALE_LOCK_MS then goto w (.reclaiming attempt)
      else goto w (.opening (attempt + 1))
  | .reclaiming attempt, .reclaim => goto { w with lock := none } (.opening (attempt + 1))
  | .locked, .guard => goto w .reading
  | .reading, .read =>
    match readState w.file with
    | .error e => goto w (.releasing (.error e))
    | .ok cursors =>
      match call.op.next cursors with
      | none => goto w (.releasing (.ok ()))
      | some next => goto w (.staging next)
  | .staging next, .stage => goto w (.publishing next)
  | .publishing next, .publish =>
    goto { w with file := .state next, commits := w.commits ++ [call.op] } (.releasing (.ok ()))
  | .releasing outcome, .unlock => goto { w with lock := none } (.finished outcome)
  | .opening _, .fail | .inspecting _, .fail | .reclaiming _, .fail | .releasing _, .fail =>
    goto w (.finished (.error .threw))
  | .locked, .fail | .reading, .fail | .staging _, .fail | .publishing _, .fail =>
    goto w (.releasing (.error .threw))
  | .finished _, .die => w
  | _, .die => goto w .dead
  | _, _ => w

section Steps

variable [Platform] [CursorText]

def cursorStep (w : CursorWorld) : CursorStep → CursorWorld
  | .advance i binding cursor => startCall w i (advanceLocalServerCursor binding cursor)
  | .clear i binding => startCall w i (clearLocalServerCursor binding)
  | .move i m =>
    match w.calls i with
    | some call => callStep w i call m
    | none => w
  | .wait ms => { w with now := w.now + ms }

end Steps

/-- The move is an unlink of the lock file: a reclaim, or the release. -/
def CursorCall.unlinks (call : CursorCall) (m : CursorMove) : Bool :=
  match call.control, m with
  | .reclaiming _, .reclaim => true
  | .releasing _, .unlock => true
  | _, _ => false

/-- The step unlinks the lock file of another call that is still inside. -/
def StealsLock (w : CursorWorld) : CursorStep → Prop
  | .move i m => (w.calls i).any (·.unlinks m) = true ∧
      w.lock.any (fun lock => lock.creator ≠ i && decide (w.Inside lock.creator)) = true
  | _ => False

instance (w : CursorWorld) (l : CursorStep) : Decidable (StealsLock w l) := by
  unfold StealsLock
  split <;> infer_instance

/-! ### The invariant -/

/-- Only the creator of the lock file is inside, what it is about to write is its update of the
file as it is now, and the file holds every committed update in order. -/
structure CursorInv (file : CursorState) (w : CursorWorld) : Prop where
  exclusive : Exclusive (w.lock.map (·.creator)) w.Inside
  current : ∀ i call next, w.calls i = some call →
    call.control = .staging next ∨ call.control = .publishing next →
    call.op.next w.file.cursors = some next
  replay : w.file.cursors = w.commits.foldl CursorOp.apply file.cursors

section Keep

variable {file : CursorState} {w : CursorWorld} {i : ℕ} {call : CursorCall}

/-- Who is inside after a call moved. -/
lemma inside_set (control : CursorControl) (j : ℕ) :
    (w.set i { call with control := control }).Inside j ↔
      if j = i then control.inside = true else w.Inside j := by
  unfold CursorWorld.Inside CursorWorld.set
  by_cases hji : j = i
  · subst hji
    simp
  · simp [hji]

lemma CursorInv.start (file : CursorState) (lock : Option LockFile) :
    CursorInv file (.start file lock) := by
  refine ⟨?_, ?_, rfl⟩
  · rintro i ⟨call, hc, _⟩
    cases hc
  · intro i call next hc
    cases hc

/-- A call that stays inside or outside, and has nothing to write yet, changes nothing. -/
lemma CursorInv.goto (h : CursorInv file w) (hi : w.calls i = some call) {control : CursorControl}
    (hin : control.inside = true → call.control.inside = true)
    (hnext : ∀ next, control = .staging next ∨ control = .publishing next →
      call.op.next w.file.cursors = some next) :
    CursorInv file (w.set i { call with control := control }) := by
  refine ⟨?_, ?_, h.replay⟩
  · apply h.exclusive.mono
    intro j hj
    rw [inside_set] at hj
    by_cases hji : j = i
    · subst hji
      rw [if_pos rfl] at hj
      exact ⟨call, hi, hin hj⟩
    · rwa [if_neg hji] at hj
  · intro j call' next hj hc
    by_cases hji : j = i
    · subst hji
      obtain rfl : { call with control := control } = call' := by simpa [CursorWorld.set] using hj
      exact hnext next hc
    · exact h.current j call' next (by simpa [CursorWorld.set, hji] using hj) hc

/-- An unlink of the lock file that nobody else inside created. -/
lemma CursorInv.unlink (h : CursorInv file w) (hi : w.calls i = some call) {control : CursorControl}
    (hout : control.inside = false)
    (hsteal : ∀ lock, w.lock = some lock → lock.creator = i ∨ ¬ w.Inside lock.creator) :
    CursorInv file ({ w with lock := none }.set i { call with control := control }) := by
  have hsub : ∀ j, (w.set i { call with control := control }).Inside j → j ≠ i ∧ w.Inside j := by
    intro j hj
    rw [inside_set] at hj
    by_cases hji : j = i
    · rw [if_pos hji, hout] at hj
      cases hj
    · rw [if_neg hji] at hj
      exact ⟨hji, hj⟩
  refine ⟨?_, (h.goto hi (by simp [hout]) ?_).current, h.replay⟩
  · refine h.exclusive.unlink (fun j hj => (hsub j hj).2) ?_
    intro j hj hin
    obtain ⟨lock, hlock, rfl⟩ := Option.map_eq_some_iff.mp hj
    obtain ⟨hne, hin⟩ := hsub _ hin
    rcases hsteal lock hlock with heq | hn
    · exact hne heq
    · exact hn hin
  · rintro next (rfl | rfl) <;> cases hout

/-- Creating the lock file where there is none. -/
lemma CursorInv.acquire (h : CursorInv file w) (hi : w.calls i = some call) (hfree : w.lock = none) :
    CursorInv file
      ({ w with lock := some ⟨i, w.now⟩ }.set i { call with control := .locked }) := by
  refine ⟨?_, ?_, h.replay⟩
  · have hex := h.exclusive
    rw [hfree] at hex
    apply hex.enter i
    intro j hj
    by_cases hji : j = i
    · exact Or.inl hji
    · right
      have hj' := (inside_set (w := w) (i := i) .locked j).mp hj
      rwa [if_neg hji] at hj'
  · intro j call' next hj hc
    by_cases hji : j = i
    · subst hji
      obtain rfl : { call with control := .locked } = call' := by simpa [CursorWorld.set] using hj
      rcases hc with hc | hc <;> cases hc
    · exact h.current j call' next (by simpa [CursorWorld.set, hji] using hj) hc

/-- The rename of the call inside: nobody else is about to write. -/
lemma CursorInv.publish (h : CursorInv file w) (hi : w.calls i = some call) {next : CursorMap}
    (hc : call.control = .publishing next) :
    CursorInv file ({ w with file := .state next, commits := w.commits ++ [call.op] }.set i
      { call with control := .releasing (.ok ()) }) := by
  have hnext := h.current i call next hi (Or.inr hc)
  have hin : w.Inside i := ⟨call, hi, by rw [hc]; rfl⟩
  refine ⟨?_, ?_, ?_⟩
  · have hgoto : CursorInv file (w.set i { call with control := .releasing (.ok ()) }) :=
      h.goto hi (fun _ => by rw [hc]; rfl) (by rintro n (hn | hn) <;> cases hn)
    exact hgoto.exclusive
  · intro j call' n hj hcj
    by_cases hji : j = i
    · subst hji
      obtain rfl : { call with control := .releasing (.ok ()) } = call' := by
        simpa [CursorWorld.set] using hj
      rcases hcj with hcj | hcj <;> cases hcj
    · -- another call about to write would be inside too
      have hj' : w.calls j = some call' := by simpa [CursorWorld.set, hji] using hj
      have hinj : w.Inside j := ⟨call', hj', by rcases hcj with hcj | hcj <;> rw [hcj] <;> rfl⟩
      exact absurd (h.exclusive.eq hinj hin) hji
  · show next = (w.commits ++ [call.op]).foldl CursorOp.apply file.cursors
    rw [List.foldl_append, ← h.replay]
    simp [CursorOp.apply, hnext]

/-- A move that steals no lock keeps the invariant. -/
lemma CursorInv.move (h : CursorInv file w) (hi : w.calls i = some call) (m : CursorMove)
    (hsteal : ¬ (call.unlinks m = true ∧
      w.lock.any (fun lock => lock.creator ≠ i && decide (w.Inside lock.creator)) = true)) :
    CursorInv file (callStep w i call m) := by
  have hkeep : ∀ control : CursorControl, (control.inside = true → call.control.inside = true) →
      (∀ next, control ≠ .staging next ∧ control ≠ .publishing next) →
      CursorInv file (w.set i { call with control := control }) := by
    intro control hin hnone
    exact h.goto hi hin (fun next hn => by
      rcases hn with hn | hn
      · exact absurd hn (hnone next).1
      · exact absurd hn (hnone next).2)
  have hlock : call.unlinks m = true → ∀ lock, w.lock = some lock →
      lock.creator = i ∨ ¬ w.Inside lock.creator := by
    intro hu lock hlock
    by_contra hn
    rw [not_or, not_not] at hn
    exact hsteal ⟨hu, by simp [hlock, hn.1, hn.2]⟩
  unfold callStep
  dsimp only
  split
  · -- the exclusive create
    split
    · exact hkeep _ (by simp [CursorControl.inside]) (by simp)
    · split
      · rename_i hfree
        exact h.acquire hi hfree
      · exact hkeep _ (by simp [CursorControl.inside]) (by simp)
  · split
    · exact hkeep _ (by simp [CursorControl.inside]) (by simp)
    · split <;> exact hkeep _ (by simp [CursorControl.inside]) (by simp)
  · rename_i attempt hc
    exact h.unlink hi rfl (hlock (by simp [CursorCall.unlinks, hc]))
  · rename_i hc
    exact hkeep _ (fun _ => by rw [hc]; rfl) (by simp)
  · rename_i hc
    cases hread : readState w.file with
    | error e => exact hkeep _ (fun _ => by rw [hc]; rfl) (by simp)
    | ok cursors =>
      have hcursors : w.file.cursors = cursors := by simp [CursorState.cursors, hread]
      dsimp only
      cases hnext : call.op.next cursors with
      | none => exact hkeep _ (fun _ => by rw [hc]; rfl) (by simp)
      | some next =>
        refine h.goto hi (fun _ => by rw [hc]; rfl) ?_
        rintro n (hn | hn)
        · obtain rfl : next = n := by simpa using hn
          rw [hcursors, hnext]
        · cases hn
  · rename_i next hc
    refine h.goto hi (fun _ => by rw [hc]; rfl) ?_
    rintro n (hn | hn)
    · cases hn
    · obtain rfl : next = n := by simpa using hn
      exact h.current i call next hi (Or.inl hc)
  · rename_i next hc
    exact h.publish hi hc
  · rename_i outcome hc
    exact h.unlink hi rfl (hlock (by simp [CursorCall.unlinks, hc]))
  -- a throw outside the critical section, then inside it, death, and moves not enabled here
  iterate 4 exact hkeep _ (by simp [CursorControl.inside]) (by simp)
  iterate 4
    apply hkeep _ _ (by simp)
    simp [CursorControl.inside, *]
  · exact h
  · exact hkeep _ (by simp [CursorControl.inside]) (by simp)
  · exact h

variable [Platform] [CursorText]

lemma CursorInv.step (h : CursorInv file w) (l : CursorStep) (hsteal : ¬ StealsLock w l) :
    CursorInv file (cursorStep w l) := by
  have hcall : ∀ i c, CursorInv file (startCall w i c) := by
    intro i c
    unfold startCall
    split
    · rename_i op hi
      refine ⟨h.exclusive.mono ?_, ?_, h.replay⟩
      · rintro j ⟨call, hj, hin⟩
        by_cases hji : j = i
        · subst hji
          obtain rfl : (⟨op, .opening 0⟩ : CursorCall) = call := by simpa [CursorWorld.set] using hj
          cases hin
        · exact ⟨call, by simpa [CursorWorld.set, hji] using hj, hin⟩
      · intro j call next hj hc
        by_cases hji : j = i
        · subst hji
          obtain rfl : (⟨op, .opening 0⟩ : CursorCall) = call := by simpa [CursorWorld.set] using hj
          rcases hc with hc | hc <;> cases hc
        · exact h.current j call next (by simpa [CursorWorld.set, hji] using hj) hc
    · exact h
  cases l with
  | advance i binding cursor => exact hcall i _
  | clear i binding => exact hcall i _
  | wait ms => exact ⟨h.exclusive, h.current, h.replay⟩
  | move i m =>
    unfold cursorStep
    dsimp only
    cases hi : w.calls i with
    | none => exact h
    | some call =>
      refine h.move hi m ?_
      rintro ⟨hu, hl⟩
      exact hsteal ⟨by simp [hi, hu], hl⟩

/-- Commits are only added. -/
lemma commits_step (w : CursorWorld) (l : CursorStep) :
    ∃ new, (cursorStep w l).commits = w.commits ++ new := by
  have hstay : ∃ new, w.commits = w.commits ++ new := ⟨[], by simp⟩
  have hcall : ∀ i c, ∃ new, (startCall w i c).commits = w.commits ++ new := by
    intro i c
    unfold startCall
    split <;> exact hstay
  cases l with
  | advance i binding cursor => exact hcall i _
  | clear i binding => exact hcall i _
  | wait ms => exact hstay
  | move i m =>
    unfold cursorStep
    dsimp only
    split
    · unfold callStep
      dsimp only
      split
      case h_7 => exact ⟨_, rfl⟩
      all_goals try exact hstay
      all_goals split
      all_goals try exact hstay
      all_goals split <;> exact hstay
    · exact hstay

lemma commits_run (w : CursorWorld) (ls : List CursorStep) :
    ∃ new, (run cursorStep w ls).commits = w.commits ++ new := by
  induction ls generalizing w with
  | nil => exact ⟨[], by simp⟩
  | cons l ls ih =>
    obtain ⟨new, hnew⟩ := commits_step w l
    obtain ⟨new', hnew'⟩ := ih (cursorStep w l)
    exact ⟨new ++ new', by rw [run_cons, hnew', hnew, List.append_assoc]⟩

end Keep

/-! ### Updates in order -/

lemma foldl_apply_other {ops : List CursorOp} {key : String} (h : ∀ op ∈ ops, op.key ≠ key)
    (cursors : CursorMap) : ops.foldl CursorOp.apply cursors key = cursors key := by
  induction ops generalizing cursors with
  | nil => rfl
  | cons op ops ih =>
    rw [List.foldl_cons, ih (fun o ho => h o (List.mem_cons_of_mem _ ho)),
      op.apply_other cursors (h op List.mem_cons_self)]

lemma foldl_apply_notBehind {ops : List CursorOp} {key : String} (h : .clear key ∉ ops)
    (cursors : CursorMap) : NotBehind (cursors key) (ops.foldl CursorOp.apply cursors key) := by
  induction ops generalizing cursors with
  | nil => exact NotBehind.refl _
  | cons op ops ih =>
    have hfirst : NotBehind (cursors key) (op.apply cursors key) :=
      op.apply_notBehind cursors (fun he => h (by simp [he]))
    have hrest := ih (fun hm => h (List.mem_cons_of_mem _ hm)) (op.apply cursors)
    intro c hc
    obtain ⟨c₁, hc₁, hle₁⟩ := hfirst c hc
    obtain ⟨c₂, hc₂, hle₂⟩ := hrest c₁ hc₁
    exact ⟨c₂, hc₂, hle₁.trans hle₂⟩

/-- The cursor file keeps every update. In every run in which no call unlinks the lock file of
another call that is still inside: at most one call is inside, the file holds every committed
update in commit order, and from any state to any later one a key's cursor moves back only by a
clear of that key, and changes only by an update of that key. -/
theorem cursor_keeps_updates [Platform] [CursorText] (file : CursorState) (lock : Option LockFile)
    (ls ms : List CursorStep)
    (hm : Meets cursorStep (fun w l => ¬ StealsLock w l) (.start file lock) (ls ++ ms))
    {w w' : CursorWorld} (hw : w = run cursorStep (.start file lock) ls)
    (hw' : w' = run cursorStep w ms) :
    (∀ i j, w.Inside i → w.Inside j → i = j) ∧
    w.file.cursors = w.commits.foldl CursorOp.apply file.cursors ∧
    ∃ new, w'.commits = w.commits ++ new ∧ ∀ key,
      (CursorOp.clear key ∉ new → NotBehind (w.file.cursors key) (w'.file.cursors key)) ∧
      ((∀ op ∈ new, op.key ≠ key) → w'.file.cursors key = w.file.cursors key) := by
  rw [meets_append, ← hw] at hm
  have hinv : CursorInv file w := hw ▸ invariant_of_meets _ (CursorInv file)
    (fun _ l hi hs => hi.step l hs) (CursorInv.start file lock) hm.1
  have hinv' : CursorInv file w' := hw' ▸ invariant_of_meets _ (CursorInv file)
    (fun _ l hi hs => hi.step l hs) hinv hm.2
  obtain ⟨new, hnew⟩ := commits_run w ms
  rw [← hw'] at hnew
  have hcursors : w'.file.cursors = new.foldl CursorOp.apply w.file.cursors := by
    rw [hinv'.replay, hnew, List.foldl_append, ← hinv.replay]
  refine ⟨fun i j hi hj => hinv.exclusive.eq hi hj, hinv.replay, new, hnew, fun key => ⟨?_, ?_⟩⟩
  · intro hclear
    rw [hcursors]
    exact foldl_apply_notBehind hclear _
  · intro hother
    rw [hcursors]
    exact foldl_apply_other hother _

section Two

@[reducible] def plainCursorText : CursorText where
  isOrigin := fun origin => origin == "https://borg.test:7091"
  isCanonicalInstant := fun instant => instant.length == 24

attribute [local instance] plainPlatform plainCursorText

/-- The unread watermark of one drone, and of another. -/
def binding₁ : LocalServerCursorBinding :=
  ⟨"https://borg.test:7091", "pin", "10000000-0000-4000-8000-000000000001",
    "10000000-0000-4000-8000-000000000002", none⟩

def binding₂ : LocalServerCursorBinding :=
  { binding₁ with droneId := "10000000-0000-4000-8000-000000000003" }

def cursor₁ : LocalServerCursor :=
  ⟨"20000000-0000-4000-8000-000000000001", "2026-01-02T00:00:00.000Z"⟩

def moves (i : ℕ) (ms : List CursorMove) : List CursorStep := ms.map (.move i)

/-- One whole update. -/
def updateMoves : List CursorMove := [.openLock, .guard, .read, .stage, .publish, .unlock]

/-- The first update, and the second one after it. -/
def firstUpdate : List CursorStep := .advance 0 binding₁ cursor₁ :: moves 0 updateMoves

def secondUpdate : List CursorStep := .advance 1 binding₂ cursor₁ :: moves 1 updateMoves

def keyOf (binding : LocalServerCursorBinding) : String := (cursorKey binding).toOption.getD ""

/-- One update after the other keeps the first. -/
theorem cursor_keeps_updates_twice :
    (run cursorStep (.start .missing none) (firstUpdate ++ secondUpdate)).file.cursors
      (keyOf binding₁) = some cursor₁ := by
  obtain ⟨_, _, new, hnew, hkeys⟩ := cursor_keeps_updates .missing none firstUpdate secondUpdate
    (by decide +kernel) rfl rfl
  have hcommits : (run cursorStep (run cursorStep (.start .missing none) firstUpdate)
      secondUpdate).commits = [.advance (keyOf binding₁) cursor₁, .advance (keyOf binding₂) cursor₁] := by
    decide +kernel
  have hfirst : (run cursorStep (.start .missing none) firstUpdate).commits =
      [.advance (keyOf binding₁) cursor₁] := by decide +kernel
  rw [hcommits, hfirst, List.singleton_append, List.cons.injEq] at hnew
  rw [run_append, (hkeys (keyOf binding₁)).2 (by rw [← hnew.2]; decide +kernel)]
  decide +kernel

/-- The first update stalls after its read for longer than the stale limit; a second one reclaims
the lock and completes. -/
def stalledUpdate : List CursorStep :=
  .advance 0 binding₁ cursor₁ :: moves 0 [.openLock, .guard, .read, .stage] ++
    [.wait 30001, .advance 1 binding₂ cursor₁] ++
    moves 1 ([.openLock, .inspect, .reclaim] ++ updateMoves)

/-- A stalled holder overlaps its successor and writes over the successor's completed update. -/
theorem cursor_update_lost :
    (∃ ls, (run cursorStep (.start .missing none) ls).Inside 0 ∧
      (run cursorStep (.start .missing none) ls).Inside 1) ∧
    (run cursorStep (.start .missing none) stalledUpdate).file.cursors (keyOf binding₂) =
      some cursor₁ ∧
    (run cursorStep (.start .missing none) (stalledUpdate ++ moves 0 [.publish])).commits =
      [.advance (keyOf binding₂) cursor₁, .advance (keyOf binding₁) cursor₁] ∧
    (run cursorStep (.start .missing none) (stalledUpdate ++ moves 0 [.publish])).file.cursors
      (keyOf binding₂) = none := by
  refine ⟨⟨stalledUpdate.dropLast, ?_⟩, ?_⟩
  · decide +kernel
  · decide +kernel

end Two

end BorgClient.Cursor
