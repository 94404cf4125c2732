import BorgClient.Lib.Exclusion
import BorgClient.Lib.Runs

/-!
# The private store and its lock

`withStoreLock` and `withStore` of `seat-store.ts`: any number of calls by any number of processes,
each between two file-system steps, over one store file and its lock file.
-/

namespace BorgClient.Seats
open Runs Exclusion

def LOCK_ATTEMPTS : ℕ := 500

structure LockPayload where
  pid : ℕ
  startTime : String
deriving DecidableEq, Repr

/-- The text of a lock file: a payload, or anything else. -/
inductive LockText
  | payload (p : LockPayload)
  | other (text : String)
deriving DecidableEq, Repr

def parseLockPayload : LockText → Option LockPayload
  | .payload p => if p.pid > 0 then some p else none
  | .other _ => none

/-- A store of states `S` in a file of texts `R`. -/
structure StoreFormat (S R : Type) where
  emptyState : S
  /-- `none` for a text that is malformed or has another version. -/
  parse : R → Option S
  render : S → R

variable {S R : Type}

/-- The state a transaction starts from: only a missing file is an empty one. -/
def StoreFormat.load (F : StoreFormat S R) : Option R → Option S
  | none => some F.emptyState
  | some raw => F.parse raw

/-- How a call ends. -/
inductive LockOutcome
  | done
  | threw
  | malformed
  | busy
  | stale (held : Option LockPayload)
deriving DecidableEq, Repr

/-- Where a call is; the lock is held from `entered` to `leaving`. In `running` the transaction's
data is `applied loaded`. -/
inductive StoreControl (S : Type)
  | linking (attempt : ℕ)
  | observing (attempt : ℕ)
  | checking (attempt : ℕ) (raw : LockText)
  | rechecking (attempt : ℕ) (raw : LockText)
  | entered
  | running (loaded : S) (applied : S → S)
  | leaving (outcome : LockOutcome)
  | finished (outcome : LockOutcome)

def StoreControl.inside : StoreControl S → Bool
  | .entered | .running _ _ | .leaving _ => true
  | _ => false

/-- A call of a process, with the payload it staged. -/
structure StoreCall (S : Type) where
  process : ℕ
  payload : LockPayload
  control : StoreControl S

/-- The lock file: its text, and the call that linked it. -/
structure StoreLockFile where
  text : LockText
  owner : ℕ
deriving DecidableEq, Repr

/-- A transaction that committed: all its mutations up to its last commit. -/
structure Txn (S : Type) where
  call : ℕ
  mutation : S → S

structure StoreWorld (S R : Type) where
  file : Option R
  lock : Option StoreLockFile
  /-- The process running under a pid. -/
  alive : ℕ → Option ℕ
  /-- Processes spawned so far. -/
  spawned : ℕ
  calls : ℕ → Option (StoreCall S)
  /-- The committed transactions, the last one first. -/
  log : List (Txn S)

def StoreWorld.start (file : Option R) : StoreWorld S R := ⟨file, none, fun _ => none, 0, fun _ => none, []⟩

inductive StoreMove (S : Type)
  | link
  /-- Reading the lock file, which may report that it was replaced meanwhile. -/
  | observe (turnover : Bool)
  | check
  | recheck (turnover : Bool)
  | load
  | mutate (f : S → S)
  /-- A commit that may report an error, before or after its rename took effect. -/
  | commit (took : Bool)
  | return_
  /-- A file operation, or the caller's code, throws. -/
  | fail
  | unlink

inductive StoreStep (S : Type)
  | spawn (pid : ℕ)
  | die (pid : ℕ)
  | call (i : ℕ) (pid : ℕ) (startTime : String)
  | move (i : ℕ) (m : StoreMove S)

/-- The process of a call still runs. -/
def StoreWorld.Live (w : StoreWorld S R) (call : StoreCall S) : Prop :=
  w.alive call.payload.pid = some call.process

instance (w : StoreWorld S R) (call : StoreCall S) : Decidable (w.Live call) :=
  inferInstanceAs (Decidable (_ = _))

/-- Call `i` is inside its operation. -/
def StoreWorld.Inside (w : StoreWorld S R) (i : ℕ) : Prop :=
  ∃ call, w.calls i = some call ∧ w.Live call ∧ call.control.inside = true

def StoreWorld.set (w : StoreWorld S R) (i : ℕ) (call : StoreCall S) : StoreWorld S R :=
  { w with calls := Function.update w.calls i (some call) }

/-- A commit of call `i`, whose mutations so far are `mutation`. -/
def recordCommit (i : ℕ) (mutation : S → S) : List (Txn S) → List (Txn S)
  | [] => [⟨i, mutation⟩]
  | t :: rest => if t.call = i then ⟨i, mutation⟩ :: rest else ⟨i, mutation⟩ :: t :: rest

section Steps

variable (F : StoreFormat S R)

/-- A move of call `i`, from its own control point. -/
def storeMove (w : StoreWorld S R) (i : ℕ) (call : StoreCall S) (m : StoreMove S) :
    StoreWorld S R :=
  let goto (w : StoreWorld S R) (control : StoreControl S) :=
    w.set i { call with control := control }
  match call.control, m with
  | .linking attempt, .link =>
    if attempt ≥ LOCK_ATTEMPTS then goto w (.finished .busy)
    else
      match w.lock with
      | none => goto { w with lock := some ⟨.payload call.payload, i⟩ } .entered
      | some _ => goto w (.observing attempt)
  | .observing attempt, .observe turnover =>
    match turnover, w.lock with
    | false, some lock => goto w (.checking attempt lock.text)
    | _, _ => goto w (.linking (attempt + 1))
  | .checking attempt raw, .check =>
    match parseLockPayload raw with
    | some held =>
      if (w.alive held.pid).isSome then goto w (.linking (attempt + 1))
      else goto w (.rechecking attempt raw)
    | none => goto w (.rechecking attempt raw)
  | .rechecking attempt raw, .recheck turnover =>
    match turnover, w.lock with
    | false, some lock =>
      if lock.text = raw then goto w (.finished (.stale (parseLockPayload raw)))
      else goto w (.linking (attempt + 1))
    | _, _ => goto w (.linking (attempt + 1))
  | .entered, .load =>
    match F.load w.file with
    | none => goto w (.leaving .malformed)
    | some loaded => goto w (.running loaded id)
  | .running loaded applied, .mutate f => goto w (.running loaded (f ∘ applied))
  | .running loaded applied, .commit took =>
    if took then
      { w with file := some (F.render (applied loaded)), log := recordCommit i applied w.log }
    else w
  | .entered, .return_ | .running _ _, .return_ => goto w (.leaving .done)
  | .entered, .fail | .running _ _, .fail => goto w (.leaving .threw)
  | .linking _, .fail | .observing _, .fail | .rechecking _ _, .fail | .leaving _, .fail =>
    goto w (.finished .threw)
  | .leaving outcome, .unlink => goto { w with lock := none } (.finished outcome)
  | _, _ => w

def storeStep (w : StoreWorld S R) : StoreStep S → StoreWorld S R
  | .spawn pid =>
    if pid > 0 ∧ w.alive pid = none then
      { w with alive := Function.update w.alive pid (some w.spawned), spawned := w.spawned + 1 }
    else w
  | .die pid => { w with alive := Function.update w.alive pid none }
  | .call i pid startTime =>
    match w.calls i, w.alive pid with
    | none, some process => w.set i ⟨process, ⟨pid, startTime⟩, .linking 0⟩
    | _, _ => w
  | .move i m =>
    match w.calls i with
    | some call => if w.Live call then storeMove F w i call m else w
    | none => w

/-- The file after a transaction run whole. -/
def Txn.apply (t : Txn S) (file : Option R) : Option R :=
  match F.load file with
  | none => file
  | some loaded => some (F.render (t.mutation loaded))

/-- The committed transactions one after the other, each run whole. -/
def replay (file : Option R) (log : List (Txn S)) : Option R := log.foldr (Txn.apply F) file

end Steps

/-! ### The invariant -/

/-- `before` is the log without the commits of call `i`'s running transaction. -/
def Before (i : ℕ) (before log : List (Txn S)) : Prop :=
  (log = before ∧ ∀ t, log.head? = some t → t.call ≠ i) ∨ ∃ mutation, log = ⟨i, mutation⟩ :: before

/-- The call has loaded the file, or has no more to do with it. -/
def StoreControl.past : StoreControl S → Bool
  | .running _ _ | .leaving _ | .finished _ => true
  | _ => false

/-- Only the lock's owner is inside, its transaction started from the file as the transactions
committed before it left it, and the file holds the committed transactions in order. -/
structure StoreInv (F : StoreFormat S R) (file : Option R) (w : StoreWorld S R) : Prop where
  exclusive : Exclusive (w.lock.map (·.owner)) w.Inside
  text : ∀ lock, w.lock = some lock → ∃ p, lock.text = .payload p ∧ 0 < p.pid
  alive : ∀ pid process, w.alive pid = some process → 0 < pid ∧ process < w.spawned
  calls : ∀ i call, w.calls i = some call → 0 < call.payload.pid ∧ call.process < w.spawned
  logged : ∀ t ∈ w.log, ∃ call, w.calls t.call = some call ∧ call.control.past = true
  running : ∀ i call loaded applied, w.calls i = some call → w.Live call →
    call.control = .running loaded applied →
    ∃ before, Before i before w.log ∧ F.load (replay F file before) = some loaded
  file : w.file = replay F file w.log

section Keep

variable {F : StoreFormat S R} {file : Option R} {w : StoreWorld S R} {i : ℕ} {call : StoreCall S}

lemma StoreInv.start (F : StoreFormat S R) (file : Option R) : StoreInv F file (.start file) := by
  refine ⟨?_, ?_, ?_, ?_, ?_, ?_, rfl⟩
  · rintro i ⟨call, hc, _⟩
    cases hc
  · intro lock hl
    cases hl
  · intro pid process hp
    cases hp
  · intro i call hc
    cases hc
  · intro t ht
    cases ht
  · intro i call loaded applied hc
    cases hc

lemma inside_goto (control : StoreControl S) (hlive : w.Live call) (j : ℕ) :
    (w.set i { call with control := control }).Inside j ↔
      if j = i then control.inside = true else w.Inside j := by
  unfold StoreWorld.Inside StoreWorld.set StoreWorld.Live at *
  by_cases hji : j = i
  · subst hji
    simp [hlive]
  · simp [hji]

lemma calls_set {new call' : StoreCall S} {j : ℕ} (h : (w.set i new).calls j = some call') :
    (j = i ∧ call' = new) ∨ (j ≠ i ∧ w.calls j = some call') := by
  by_cases hji : j = i
  · subst hji
    exact Or.inl ⟨rfl, by simpa [StoreWorld.set, eq_comm] using h⟩
  · exact Or.inr ⟨hji, by simpa [StoreWorld.set, hji] using h⟩

/-- A call moves without touching the lock or the file. -/
lemma StoreInv.goto (h : StoreInv F file w) (hi : w.calls i = some call) (hlive : w.Live call)
    {control : StoreControl S} (hin : control.inside = true → call.control.inside = true)
    (hpast : call.control.past = true → control.past = true)
    (hrun : ∀ loaded applied, control = .running loaded applied →
      ∃ before, Before i before w.log ∧ F.load (replay F file before) = some loaded) :
    StoreInv F file (w.set i { call with control := control }) := by
  refine ⟨?_, h.text, h.alive, ?_, ?_, ?_, h.file⟩
  · apply h.exclusive.mono
    intro j hj
    rw [inside_goto _ hlive] at hj
    by_cases hji : j = i
    · subst hji
      rw [if_pos rfl] at hj
      exact ⟨call, hi, hlive, hin hj⟩
    · rwa [if_neg hji] at hj
  · intro j call' hj
    rcases calls_set hj with ⟨rfl, rfl⟩ | ⟨_, hold⟩
    · exact h.calls j call hi
    · exact h.calls j call' hold
  · intro t ht
    obtain ⟨call', hc, hp⟩ := h.logged t ht
    by_cases hti : t.call = i
    · refine ⟨{ call with control := control }, by simp [StoreWorld.set, hti], hpast ?_⟩
      obtain rfl : call' = call := Option.some.inj (hc.symm.trans (hti ▸ hi))
      exact hp
    · exact ⟨call', by simpa [StoreWorld.set, hti] using hc, hp⟩
  · intro j call' loaded applied hj hl hc
    rcases calls_set hj with ⟨rfl, rfl⟩ | ⟨_, hold⟩
    · exact hrun loaded applied hc
    · exact h.running j call' loaded applied hold hl hc

/-- Linking the lock file where there is none. -/
lemma StoreInv.acquire (h : StoreInv F file w) (hi : w.calls i = some call) (hlive : w.Live call)
    (hfree : w.lock = none) (hpast : call.control.past = false) :
    StoreInv F file ({ w with lock := some ⟨.payload call.payload, i⟩ }.set i
      { call with control := .entered }) := by
  have hold := h.exclusive
  rw [hfree] at hold
  refine ⟨?_, ?_, h.alive, ?_, ?_, ?_, h.file⟩
  · apply hold.enter i
    intro j hj
    by_cases hji : j = i
    · exact Or.inl hji
    · have hj' := (inside_goto .entered hlive j).mp hj
      rw [if_neg hji] at hj'
      exact Or.inr hj'
  · intro lock hlock
    obtain rfl := Option.some.inj hlock
    exact ⟨call.payload, rfl, (h.calls i call hi).1⟩
  · intro j call' hj
    rcases calls_set hj with ⟨rfl, rfl⟩ | ⟨_, hold⟩
    · exact h.calls j call hi
    · exact h.calls j call' hold
  · intro t ht
    obtain ⟨call', hc, hp⟩ := h.logged t ht
    have hti : t.call ≠ i := by
      rintro rfl
      obtain rfl := Option.some.inj (hc.symm.trans hi)
      rw [hpast] at hp
      cases hp
    exact ⟨call', by simpa [StoreWorld.set, hti] using hc, hp⟩
  · intro j call' loaded applied hj hl hc
    rcases calls_set hj with ⟨rfl, rfl⟩ | ⟨_, hold⟩
    · cases hc
    · exact h.running j call' loaded applied hold hl hc

/-- The call inside unlinks its own lock file. -/
lemma StoreInv.release (h : StoreInv F file w) (hi : w.calls i = some call) (hlive : w.Live call)
    {outcome : LockOutcome} (hc : call.control = .leaving outcome) :
    StoreInv F file ({ w with lock := none }.set i { call with control := .finished outcome }) := by
  have hgoto : StoreInv F file (w.set i { call with control := .finished outcome }) :=
    h.goto hi hlive (by simp [StoreControl.inside]) (fun _ => rfl)
      (by rintro loaded applied hr; cases hr)
  refine ⟨?_, ?_, h.alive, hgoto.calls, hgoto.logged, hgoto.running, h.file⟩
  · have hin : w.Inside i := ⟨call, hi, hlive, by rw [hc]; rfl⟩
    refine h.exclusive.unlink ?_ ?_
    · intro j hj
      have hj' := (inside_goto (.finished outcome) hlive j).mp hj
      by_cases hji : j = i
      · rw [if_pos hji] at hj'
        cases hj'
      · rwa [if_neg hji] at hj'
    · intro j hlock hj
      obtain rfl : i = j := Option.some.inj ((h.exclusive i hin).symm.trans hlock)
      have hj' := (inside_goto (.finished outcome) hlive i).mp hj
      rw [if_pos rfl] at hj'
      cases hj'
  · intro lock hlock
    cases hlock

/-- A commit of the call inside: nobody else has a transaction running. -/
lemma StoreInv.commit (h : StoreInv F file w) (hi : w.calls i = some call) (hlive : w.Live call)
    {loaded : S} {applied : S → S} (hc : call.control = .running loaded applied) :
    StoreInv F file { w with
      file := some (F.render (applied loaded)), log := recordCommit i applied w.log } := by
  obtain ⟨before, hbefore, hload⟩ := h.running i call loaded applied hi hlive hc
  have hlog : recordCommit i applied w.log = ⟨i, applied⟩ :: before := by
    rcases hbefore with ⟨rfl, hhead⟩ | ⟨mutation, hl⟩
    · cases hlog : w.log with
      | nil => rfl
      | cons t rest =>
        have hne := hhead t (by simp [hlog])
        simp [recordCommit, hne]
    · simp [hl, recordCommit]
  have hin : w.Inside i := ⟨call, hi, hlive, by rw [hc]; rfl⟩
  refine ⟨h.exclusive, h.text, h.alive, h.calls, ?_, ?_, ?_⟩
  · intro t ht
    rw [hlog] at ht
    rcases List.mem_cons.mp ht with rfl | ht
    · exact ⟨call, hi, by rw [hc]; rfl⟩
    · apply h.logged t
      rcases hbefore with ⟨rfl, _⟩ | ⟨mutation, hl⟩
      · exact ht
      · rw [hl]
        exact List.mem_cons_of_mem _ ht
  · intro j call' loaded' applied' hj hl hcj
    have hinj : w.Inside j := ⟨call', hj, hl, by rw [hcj]; rfl⟩
    obtain rfl := h.exclusive.eq hin hinj
    obtain rfl : call = call' := Option.some.inj (hi.symm.trans hj)
    rw [hc] at hcj
    cases hcj
    exact ⟨before, Or.inr ⟨applied, hlog⟩, hload⟩
  · show some (F.render (applied loaded)) = replay F file (recordCommit i applied w.log)
    rw [hlog]
    simp only [replay, List.foldr_cons, Txn.apply]
    unfold replay at hload
    rw [hload]

lemma StoreInv.move (h : StoreInv F file w) (hi : w.calls i = some call) (hlive : w.Live call)
    (m : StoreMove S) : StoreInv F file (storeMove F w i call m) := by
  -- where the call can go without an argument about the file
  have hgo : ∀ control : StoreControl S, (control.inside = true → call.control.inside = true) →
      (call.control.past = true → control.past = true) →
      (∀ loaded applied, control ≠ .running loaded applied) →
      StoreInv F file (w.set i { call with control := control }) :=
    fun control hin hpast hrun => h.goto hi hlive hin hpast
      (fun loaded applied hr => absurd hr (hrun loaded applied))
  have hout : ∀ control : StoreControl S, control.inside = false → call.control.past = false →
      (∀ loaded applied, control ≠ .running loaded applied) →
      StoreInv F file (w.set i { call with control := control }) :=
    fun control hin hpast hrun => hgo control (by simp [hin]) (by simp [hpast]) hrun
  unfold storeMove
  dsimp only
  split
  · rename_i attempt hc
    have hpast : call.control.past = false := by rw [hc]; rfl
    split
    · exact hout _ rfl hpast (by simp)
    · split
      · rename_i hfree
        exact h.acquire hi hlive hfree hpast
      · exact hout _ rfl hpast (by simp)
  · rename_i attempt turnover hc
    have hpast : call.control.past = false := by rw [hc]; rfl
    split <;> exact hout _ rfl hpast (by simp)
  · rename_i attempt raw hc
    have hpast : call.control.past = false := by rw [hc]; rfl
    split
    · split <;> exact hout _ rfl hpast (by simp)
    · exact hout _ rfl hpast (by simp)
  · rename_i attempt raw turnover hc
    have hpast : call.control.past = false := by rw [hc]; rfl
    split
    · split <;> exact hout _ rfl hpast (by simp)
    · exact hout _ rfl hpast (by simp)
  · rename_i hc
    have hin : call.control.inside = true := by rw [hc]; rfl
    split
    · exact hgo _ (fun _ => hin) (fun _ => rfl) (by simp)
    · rename_i loaded hload
      refine h.goto hi hlive (fun _ => hin) (fun _ => rfl) ?_
      intro loaded' applied' hr
      obtain ⟨rfl, -⟩ : loaded = loaded' ∧ _ := by simpa using hr
      refine ⟨w.log, Or.inl ⟨rfl, ?_⟩, h.file ▸ hload⟩
      -- a logged call has loaded already
      rintro t ht rfl
      obtain ⟨call', hc', hp⟩ := h.logged t (List.mem_of_head? ht)
      obtain rfl := Option.some.inj (hc'.symm.trans hi)
      rw [hc] at hp
      cases hp
  · rename_i loaded applied f hc
    refine h.goto hi hlive (fun _ => by rw [hc]; rfl) (fun _ => rfl) ?_
    intro loaded' applied' hr
    obtain ⟨rfl, -⟩ : loaded = loaded' ∧ _ := by simpa using hr
    exact h.running i call loaded applied hi hlive hc
  · rename_i loaded applied took hc
    split
    · exact h.commit hi hlive hc
    · exact h
  · rename_i hc
    exact hgo _ (fun _ => by rw [hc]; rfl) (fun _ => rfl) (by simp)
  · rename_i hc
    exact hgo _ (fun _ => by rw [hc]; rfl) (fun _ => rfl) (by simp)
  · rename_i hc
    exact hgo _ (fun _ => by rw [hc]; rfl) (fun _ => rfl) (by simp)
  · rename_i hc
    exact hgo _ (fun _ => by rw [hc]; rfl) (fun _ => rfl) (by simp)
  iterate 4 exact hgo _ (by simp [StoreControl.inside]) (fun _ => rfl) (by simp)
  · rename_i outcome hc
    exact h.release hi hlive hc
  · exact h

lemma StoreInv.step (h : StoreInv F file w) (l : StoreStep S) : StoreInv F file (storeStep F w l) := by
  cases l with
  | move i m =>
    unfold storeStep
    dsimp only
    split
    · rename_i call hi
      split
      · rename_i hlive
        exact h.move hi hlive m
      · exact h
    · exact h
  | call i pid startTime =>
    unfold storeStep
    dsimp only
    split
    · rename_i process hi hp
      obtain ⟨hpid, hprocess⟩ := h.alive pid process hp
      set new : StoreCall S := ⟨process, ⟨pid, startTime⟩, .linking 0⟩
      have hcalls : ∀ j call', (w.set i new).calls j = some call' →
          (j = i ∧ call' = new) ∨ (j ≠ i ∧ w.calls j = some call') := fun j call' hj => calls_set hj
      refine ⟨?_, h.text, h.alive, ?_, ?_, ?_, h.file⟩
      · apply h.exclusive.mono
        rintro j ⟨call', hj, hl, hin⟩
        rcases hcalls j call' hj with ⟨rfl, rfl⟩ | ⟨_, hold⟩
        · cases hin
        · exact ⟨call', hold, hl, hin⟩
      · intro j call' hj
        rcases hcalls j call' hj with ⟨rfl, rfl⟩ | ⟨_, hold⟩
        · exact ⟨hpid, hprocess⟩
        · exact h.calls j call' hold
      · intro t ht
        obtain ⟨call', hc, hpast⟩ := h.logged t ht
        have hti : t.call ≠ i := by
          rintro rfl
          simp [hi] at hc
        exact ⟨call', by simpa [StoreWorld.set, hti] using hc, hpast⟩
      · intro j call' loaded applied hj hl hc
        rcases hcalls j call' hj with ⟨rfl, rfl⟩ | ⟨_, hold⟩
        · cases hc
        · exact h.running j call' loaded applied hold hl hc
    · exact h
  | spawn pid =>
    unfold storeStep
    dsimp only
    split
    · rename_i hspawn
      -- no call was made by the new process
      have hlive : ∀ j call, w.calls j = some call →
          Function.update w.alive pid (some w.spawned) call.payload.pid = some call.process →
          w.Live call := by
        intro j call hj hl
        by_cases hp : call.payload.pid = pid
        · rw [hp, Function.update_self] at hl
          have hlt := (h.calls j call hj).2
          have heq : w.spawned = call.process := Option.some.inj hl
          omega
        · rwa [Function.update_of_ne hp] at hl
      refine ⟨?_, h.text, ?_, ?_, h.logged, ?_, h.file⟩
      · apply h.exclusive.mono
        rintro j ⟨call, hj, hl, hin⟩
        exact ⟨call, hj, hlive j call hj hl, hin⟩
      · intro pid' process hp
        dsimp only at hp ⊢
        by_cases hpid : pid' = pid
        · rw [hpid, Function.update_self] at hp
          have heq : w.spawned = process := Option.some.inj hp
          exact ⟨hpid ▸ hspawn.1, by omega⟩
        · rw [Function.update_of_ne hpid] at hp
          obtain ⟨hpos, hlt⟩ := h.alive pid' process hp
          exact ⟨hpos, by omega⟩
      · intro j call hj
        obtain ⟨hpos, hlt⟩ := h.calls j call hj
        exact ⟨hpos, Nat.lt_succ_of_lt hlt⟩
      · intro j call loaded applied hj hl hc
        exact h.running j call loaded applied hj (hlive j call hj hl) hc
    · exact h
  | die pid =>
    have hlive : ∀ call : StoreCall S,
        Function.update w.alive pid none call.payload.pid = some call.process → w.Live call := by
      intro call hl
      by_cases hp : call.payload.pid = pid
      · rw [hp, Function.update_self] at hl
        cases hl
      · rwa [Function.update_of_ne hp] at hl
    refine ⟨?_, h.text, ?_, h.calls, h.logged, ?_, h.file⟩
    · apply h.exclusive.mono
      rintro j ⟨call, hj, hl, hin⟩
      exact ⟨call, hj, hlive call hl, hin⟩
    · intro pid' process hp
      apply h.alive pid' process
      dsimp only [storeStep] at hp
      by_cases hpid : pid' = pid
      · rw [hpid, Function.update_self] at hp
        cases hp
      · rwa [Function.update_of_ne hpid] at hp
    · intro j call loaded applied hj hl hc
      exact h.running j call loaded applied hj (hlive call hl) hc

/-! ### A file nobody can read -/

/-- No live call has a transaction running. -/
def Idle (w : StoreWorld S R) : Prop :=
  ∀ i call loaded applied, w.calls i = some call → w.Live call →
    call.control ≠ .running loaded applied

/-- While the file is refused at load, no transaction starts and none commits. -/
lemma idle_step (h : StoreInv F file w) (hbad : F.load w.file = none) (hidle : Idle w)
    (l : StoreStep S) : (storeStep F w l).file = w.file ∧ Idle (storeStep F w l) := by
  have hset : ∀ (lock : Option StoreLockFile) (i : ℕ) (call : StoreCall S) (control : StoreControl S),
      (∀ loaded applied, control ≠ .running loaded applied) →
      Idle ({ w with lock := lock }.set i { call with control := control }) := by
    intro lock i call control hc j call' loaded applied hj hl
    rcases calls_set hj with ⟨rfl, rfl⟩ | ⟨_, hold⟩
    · exact hc loaded applied
    · exact hidle j call' loaded applied hold hl
  cases l with
  | call i pid startTime =>
    unfold storeStep
    dsimp only
    split
    · refine ⟨rfl, ?_⟩
      intro j call' loaded applied hj hl
      rcases calls_set hj with ⟨rfl, rfl⟩ | ⟨_, hold⟩
      · simp
      · exact hidle j call' loaded applied hold hl
    · exact ⟨rfl, hidle⟩
  | spawn pid =>
    unfold storeStep
    dsimp only
    split
    · refine ⟨rfl, fun j call loaded applied hj hl => hidle j call loaded applied hj ?_⟩
      by_cases hp : call.payload.pid = pid
      · have hl' : Function.update w.alive pid (some w.spawned) call.payload.pid =
            some call.process := hl
        rw [hp, Function.update_self] at hl'
        have heq : w.spawned = call.process := Option.some.inj hl'
        have hlt := (h.calls j call hj).2
        omega
      · have hl' : Function.update w.alive pid (some w.spawned) call.payload.pid =
            some call.process := hl
        rwa [Function.update_of_ne hp] at hl'
    · exact ⟨rfl, hidle⟩
  | die pid =>
    refine ⟨rfl, fun j call loaded applied hj hl => hidle j call loaded applied hj ?_⟩
    have hl' : Function.update w.alive pid none call.payload.pid = some call.process := hl
    by_cases hp : call.payload.pid = pid
    · rw [hp, Function.update_self] at hl'
      cases hl'
    · rwa [Function.update_of_ne hp] at hl'
  | move i m =>
    unfold storeStep
    dsimp only
    split
    · rename_i call hi
      split
      · rename_i hlive
        have hnot := fun loaded applied => hidle i call loaded applied hi hlive
        unfold storeMove
        dsimp only
        split
        case h_5 => simp only [hbad]; exact ⟨rfl, hset _ i call _ (by simp)⟩
        case h_6 hc => exact absurd hc (hnot _ _)
        case h_7 hc => exact absurd hc (hnot _ _)
        all_goals try split
        all_goals try split
        all_goals first
          | exact ⟨rfl, hidle⟩
          | exact ⟨rfl, hset _ i call _ (by simp)⟩
      · exact ⟨rfl, hidle⟩
    · exact ⟨rfl, hidle⟩

end Keep

/-! ### What a stale-lock error has seen -/

section Stale

variable (F : StoreFormat S R) (file : Option R)

/-- The lock text after a run. -/
def lockText (ls : List (StoreStep S)) : Option LockText :=
  (run (storeStep F) (.start file) ls).lock.map (·.text)

/-- The lock file was read as `raw` in the run. -/
def Seen (ls : List (StoreStep S)) (raw : LockText) : Prop :=
  ∃ l₁, l₁ <+: ls ∧ lockText F file l₁ = some raw

/-- After that its recorded process was found dead. -/
def FoundDead (ls : List (StoreStep S)) (raw : LockText) (p : LockPayload) : Prop :=
  ∃ l₂, l₂ <+: ls ∧ Seen F file l₂ raw ∧ parseLockPayload raw = some p ∧
    (run (storeStep F) (.start file) l₂).alive p.pid = none

/-- And after that it was read as `raw` again. -/
def SeenTwice (ls : List (StoreStep S)) (p : LockPayload) : Prop :=
  ∃ l₃ raw, l₃ <+: ls ∧ FoundDead F file l₃ raw p ∧ lockText F file l₃ = some raw

/-- What each control point of a call has seen. -/
def Witnessed (ls : List (StoreStep S)) : StoreControl S → Prop
  | .checking _ raw => Seen F file ls raw
  | .rechecking _ raw => ∃ p, FoundDead F file ls raw p
  | .leaving (.stale _) => False
  | .finished (.stale held) => ∃ p, held = some p ∧ SeenTwice F file ls p
  | _ => True

variable {F file}

lemma Witnessed.mono {ls ls' : List (StoreStep S)} {control : StoreControl S}
    (hls : ls <+: ls') (h : Witnessed F file ls control) : Witnessed F file ls' control := by
  unfold Witnessed at h ⊢
  split at h
  · obtain ⟨l₁, h₁, ht⟩ := h
    exact ⟨l₁, h₁.trans hls, ht⟩
  · obtain ⟨p, l₂, h₂, hrest⟩ := h
    exact ⟨p, l₂, h₂.trans hls, hrest⟩
  · exact h
  · obtain ⟨p, hp, l₃, raw, h₃, hrest⟩ := h
    exact ⟨p, hp, l₃, raw, h₃.trans hls, hrest⟩
  · trivial

/-- A payload this code staged parses. -/
lemma parse_seen {ls : List (StoreStep S)} {raw : LockText} (h : Seen F file ls raw) :
    ∃ p, parseLockPayload raw = some p := by
  obtain ⟨l₁, _, ht⟩ := h
  have hinv : StoreInv F file (run (storeStep F) (.start file) l₁) :=
    invariant _ (StoreInv F file) (fun _ l h => h.step l) (StoreInv.start F file) l₁
  obtain ⟨lock, hlock, rfl⟩ := Option.map_eq_some_iff.mp ht
  obtain ⟨p, hp, hpos⟩ := hinv.text lock hlock
  exact ⟨p, by simp [hp, parseLockPayload, hpos]⟩

/-- A move takes its call to a control point whose history the run has. -/
lemma witnessed_move {ls : List (StoreStep S)} {w : StoreWorld S R} {i : ℕ} {call : StoreCall S}
    (hw : w = run (storeStep F) (.start file) ls) (hi : w.calls i = some call)
    (h : Witnessed F file ls call.control) (m : StoreMove S) :
    ∃ control, (storeMove F w i call m).calls =
        Function.update w.calls i (some { call with control := control }) ∧
      Witnessed F file ls control := by
  have hself : Function.update w.calls i (some { call with control := call.control }) = w.calls := by
    rw [← hi, Function.update_eq_self]
  have hstay : ∃ control, w.calls = Function.update w.calls i (some { call with control := control }) ∧
      Witnessed F file ls control := ⟨call.control, hself.symm, h⟩
  have htext : ∀ lock, w.lock = some lock → lockText F file ls = some lock.text := by
    intro lock hl
    rw [lockText, ← hw, hl, Option.map_some]
  unfold storeMove
  dsimp only
  split
  · split
    · exact ⟨_, rfl, trivial⟩
    · split <;> exact ⟨_, rfl, trivial⟩
  · split
    · rename_i lock hl
      exact ⟨_, rfl, ls, List.prefix_rfl, htext lock hl⟩
    · exact ⟨_, rfl, trivial⟩
  · rename_i attempt raw hc
    rw [hc] at h
    obtain ⟨p, hp⟩ := parse_seen h
    simp only [hp]
    split
    · exact ⟨_, rfl, trivial⟩
    · rename_i hdead
      refine ⟨_, rfl, p, ls, List.prefix_rfl, h, hp, ?_⟩
      rw [← hw]
      simpa using hdead
  · rename_i attempt raw turnover hc
    rw [hc] at h
    obtain ⟨p, hdead⟩ := h
    have hp : parseLockPayload raw = some p := hdead.choose_spec.2.2.1
    split
    · rename_i lock hl
      split
      · rename_i hraw
        exact ⟨_, rfl, p, hp, ls, raw, List.prefix_rfl, hdead, hraw ▸ htext lock hl⟩
      · exact ⟨_, rfl, trivial⟩
    · exact ⟨_, rfl, trivial⟩
  · split <;> exact ⟨_, rfl, trivial⟩
  · exact ⟨_, rfl, trivial⟩
  · split
    · exact hstay
    · exact hstay
  iterate 8 exact ⟨_, rfl, trivial⟩
  · rename_i outcome hc
    refine ⟨_, rfl, ?_⟩
    rw [hc] at h
    cases outcome with
    | stale held => cases h
    | _ => trivial
  · exact hstay

lemma witnessed_run (ls : List (StoreStep S)) :
    ∀ i call, (run (storeStep F) (.start file) ls).calls i = some call →
      Witnessed F file ls call.control := by
  refine invariant_of_history (storeStep F) (s := .start file)
    (fun ls w => ∀ i call, w.calls i = some call → Witnessed F file ls call.control) ?_ ?_ ls
  · intro i call hc
    cases hc
  · intro ls l h
    have hgrow : ls <+: ls ++ [l] := List.prefix_append _ _
    intro i call hc
    revert hc
    generalize hw : run (storeStep F) (.start file) ls = w at h ⊢
    intro hc
    cases l with
    | spawn pid =>
      refine (h i call ?_).mono hgrow
      unfold storeStep at hc
      dsimp only at hc
      split at hc <;> exact hc
    | die pid => exact (h i call hc).mono hgrow
    | call j pid startTime =>
      unfold storeStep at hc
      dsimp only at hc
      split at hc
      · rcases calls_set hc with ⟨rfl, rfl⟩ | ⟨_, hold⟩
        · trivial
        · exact (h i call hold).mono hgrow
      · exact (h i call hc).mono hgrow
    | move j m =>
      unfold storeStep at hc
      dsimp only at hc
      split at hc
      · rename_i mover hj
        split at hc
        · obtain ⟨control, hcalls, hwit⟩ := witnessed_move hw.symm hj (h j mover hj) m
          rw [hcalls] at hc
          by_cases hij : i = j
          · subst hij
            rw [Function.update_self, Option.some.injEq] at hc
            exact hc ▸ hwit.mono hgrow
          · rw [Function.update_of_ne hij] at hc
            exact (h i call hc).mono hgrow
        · exact (h i call hc).mono hgrow
      · exact (h i call hc).mono hgrow

end Stale

/-! ### Main result -/

/-- The private store's lock. In every run: at most one call of a live process is inside its
operation; the file is what the committed transactions leave, each run whole in commit order; a
file that is refused at load while no transaction runs is never overwritten; and a call fails
with the stale-lock error only after it read the lock file, found the recorded process dead, and
read the same lock text again. -/
theorem store_lock (F : StoreFormat S R) (file : Option R) (ls : List (StoreStep S)) :
    let w := run (storeStep F) (.start file) ls
    (∀ i j, w.Inside i → w.Inside j → i = j) ∧
    w.file = replay F file w.log ∧
    (F.load w.file = none → Idle w → ∀ ms, (run (storeStep F) w ms).file = w.file) ∧
    ∀ i call held, w.calls i = some call → call.control = .finished (.stale held) →
      ∃ p, held = some p ∧ SeenTwice F file ls p := by
  intro w
  have hinv : StoreInv F file w :=
    invariant _ (StoreInv F file) (fun _ l h => h.step l) (StoreInv.start F file) ls
  refine ⟨fun i j hi hj => hinv.exclusive.eq hi hj, hinv.file, ?_, ?_⟩
  · intro hbad hidle ms
    have hrun : StoreInv F file (run (storeStep F) w ms) ∧ (run (storeStep F) w ms).file = w.file ∧
        Idle (run (storeStep F) w ms) := by
      refine invariant _ (fun v => StoreInv F file v ∧ v.file = w.file ∧ Idle v) ?_
        ⟨hinv, rfl, hidle⟩ ms
      rintro v l ⟨hv, hfile, hi⟩
      obtain ⟨hfile', hi'⟩ := idle_step hv (hfile ▸ hbad) hi l
      exact ⟨hv.step l, hfile'.trans hfile, hi'⟩
    exact hrun.2.1
  · intro i call held hi hc
    have hwit := witnessed_run ls i call hi
    rw [hc] at hwit
    exact hwit

end BorgClient.Seats
