import BorgClient.Seats.SeatTransactions

/-!
# Finalizing an assimilation

`finalizeAssimilationSeat` of `assimilate-cmd.ts` with `finalizeServerSeat` of `assimilate-deps.ts`,
for a run that spawned a worktree: activate the seat and bind it there, else bind the PENDING
record, else remove the worktree.
-/

namespace BorgClient.Assimilation
open List Tables Seats

/-- A transaction on the store runs, throws before its rename took effect, or throws after. -/
inductive StoreFate
  | runs
  | failsBefore
  | failsAfter
deriving DecidableEq, Repr

/-- The caller's side of a transaction, `none` where it throws. -/
def attempt {α : Type} (fate : StoreFate)
    (transaction : SeatsFile → Except SeatError α × Option SeatsFile) (store : SeatsFile) :
    Option α × SeatsFile :=
  match fate with
  | .runs =>
    match (transaction store).1 with
    | .ok outcome => (some outcome, (transaction store).2.getD store)
    | .error _ => (none, store)
  | .failsBefore => (none, store)
  | .failsAfter => (none, (transaction store).2.getD store)

/-- A transaction that writes nothing and does not answer `outcome` leaves the store, whatever its
fate. -/
lemma attempt_of_none {α : Type} {outcome : α} {store : SeatsFile}
    {transaction : SeatsFile → Except SeatError α × Option SeatsFile} (fate : StoreFate)
    (hwritten : (transaction store).2 = none) (hanswer : (transaction store).1 ≠ .ok outcome) :
    (attempt fate transaction store).1 ≠ some outcome ∧
      (attempt fate transaction store).2 = store := by
  cases fate with
  | runs =>
    unfold attempt
    dsimp only
    split
    · rename_i answer hok
      rw [hok] at hanswer
      exact ⟨fun h => hanswer (congrArg Except.ok (Option.some.inj h)), by rw [hwritten]; rfl⟩
    · exact ⟨by simp, rfl⟩
  | failsBefore => exact ⟨by simp [attempt], rfl⟩
  | failsAfter => exact ⟨by simp [attempt], by simp [attempt, hwritten]⟩

section Finalize

variable [SeatPlatform]

structure SeatBinding where
  worktree : String
  commonDir : Option String
  repositoryOrigin : Option String
  name : String
  droneLabel : String
  roleName : Option String
  roleClass : Option RoleClass
  isHumanSeat : Option Bool

/-- What `sendBorgServerAttach` leaves to finalize with. -/
structure FinalizeHandles where
  seat : SeatIdentity
  droneId : String
  sessionId : String
  pendingBearer : String
  /-- The handle `bindPending` is there. -/
  bindsPending : Bool

def FinalizeHandles.activate (handles : FinalizeHandles) (binding : SeatBinding) : ActivateSeat :=
  { handles.seat with
    droneId := handles.droneId
    sessionId := handles.sessionId
    expectedPendingDigest := digestOf handles.pendingBearer
    worktree := binding.worktree
    commonDir := binding.commonDir
    repositoryOrigin := binding.repositoryOrigin
    name := binding.name
    droneLabel := binding.droneLabel
    roleName := binding.roleName
    roleClass := binding.roleClass
    isHumanSeat := binding.isHumanSeat }

def FinalizeHandles.bindPending (handles : FinalizeHandles) (binding : SeatBinding) :
    BindPendingSeat :=
  { handles.seat with
    expectedPendingDigest := digestOf handles.pendingBearer
    droneId := some handles.droneId
    worktree := binding.worktree
    name := binding.name
    droneLabel := binding.droneLabel
    roleName := binding.roleName
    roleClass := binding.roleClass
    isHumanSeat := binding.isHumanSeat }

/-- Where the run is left: a run that does not continue stops. -/
structure Finalized where
  continues : Bool
  worktreeKept : Bool
  store : SeatsFile

/-- After a failed activation the worktree stays where the PENDING record is bound to it. -/
def FinalizeHandles.preserve (handles : FinalizeHandles) (binding : SeatBinding)
    (pending : StoreFate) (store : SeatsFile) : Finalized :=
  if handles.bindsPending then
    let outcome := attempt pending (bindPendingSeatToWorktree (handles.bindPending binding)) store
    ⟨false, outcome.1 = some .bound, outcome.2⟩
  else ⟨false, false, store⟩

/-- Without handles the worktree is removed at once. -/
def finalizeAssimilationSeat (handles : Option FinalizeHandles) (binding : SeatBinding)
    (activation pending : StoreFate) (store : SeatsFile) : Finalized :=
  match handles with
  | none => ⟨false, false, store⟩
  | some handles =>
    let activated := attempt activation (activateAndBindSeat (handles.activate binding)) store
    if activated.1 = some .activated then ⟨true, true, activated.2⟩
    else handles.preserve binding pending activated.2

/-! ### Seat and worktree -/

/-- No ACTIVE record names the worktree. -/
def Unnamed (worktree : String) (store : SeatsFile) : Prop :=
  ∀ e ∈ store, bound worktree e = false

/-- A record that names the worktree is stored under the bearer that was sent. -/
def KeptUnderBearer (handles : FinalizeHandles) (worktree : String) (store : SeatsFile) : Prop :=
  ∃ e ∈ store, e.2.worktree = some worktree ∧
    digestOf e.2.credential = digestOf handles.pendingBearer

/-- Seat and worktree are kept together or go together. -/
def Together (handles : Option FinalizeHandles) (worktree : String) (left : Finalized) : Prop :=
  if left.continues then
    left.worktreeKept = true ∧ ∃ e ∈ left.store, bound worktree e = true
  else left.worktreeKept = true ∧ (∃ h ∈ handles, KeptUnderBearer h worktree left.store) ∨
    left.worktreeKept = false ∧ Unnamed worktree left.store

/-- The activation would be committed. -/
def FinalizeHandles.Activates (handles : FinalizeHandles) (binding : SeatBinding)
    (store : SeatsFile) : Prop :=
  (activateAndBindSeat (handles.activate binding) store).2.isSome = true

/-- The PENDING record would be bound. -/
def FinalizeHandles.Binds (handles : FinalizeHandles) (binding : SeatBinding)
    (store : SeatsFile) : Prop :=
  handles.bindsPending = true ∧
    (bindPendingSeatToWorktree (handles.bindPending binding) store).2.isSome = true

/-- The activation runs where it would be committed; or its commit does not take effect under an
error, and the PENDING record is bound or no ACTIVE record names the worktree. -/
def FinalizesWhole (handles : Option FinalizeHandles) (binding : SeatBinding)
    (activation pending : StoreFate) (store : SeatsFile) : Prop :=
  match handles with
  | none => Unnamed binding.worktree store
  | some handles =>
    handles.Activates binding store ∧ activation = .runs ∨
      ¬ (handles.Activates binding store ∧ activation = .failsAfter) ∧
        (handles.Binds binding store ∧ pending = .runs ∨ Unnamed binding.worktree store)

variable {handles : FinalizeHandles} {binding : SeatBinding} {store store' : SeatsFile}

lemma activated_answer_iff {input : ActivateSeat} :
    (activateAndBindSeat input store).1 = .ok .activated ↔
      (activateAndBindSeat input store).2.isSome = true := by
  unfold activateAndBindSeat
  dsimp only
  repeat' split
  all_goals simp

lemma bound_answer_iff {input : BindPendingSeat} :
    (bindPendingSeatToWorktree input store).1 = .ok .bound ↔
      (bindPendingSeatToWorktree input store).2.isSome = true := by
  unfold bindPendingSeatToWorktree
  dsimp only
  repeat' split
  all_goals simp

lemma activate_written (h : (activateAndBindSeat (handles.activate binding) store).2 =
    some store') : ∃ record bindingOrder, ∀ e, e ∈ store' ↔
      e = (seatRef handles.seat, (handles.activate binding).over bindingOrder record) ∨
        e ∈ store ∧ e.1 ≠ seatRef handles.seat ∧ bound binding.worktree e = false := by
  cases activateAndBindSeat_change h with
  | activated _ record _ _ _ _ _ hmem => exact ⟨record, _, hmem⟩
  | minted _ _ hcall _ => simp at hcall
  | removed _ _ hcall _ => exact hcall.elim

lemma bindPending_written
    (h : (bindPendingSeatToWorktree (handles.bindPending binding) store).2 = some store') :
    ∃ record, (seatRef handles.seat, record) ∈ store ∧ record.state = .pending ∧
      digestOf record.credential = digestOf handles.pendingBearer ∧ ∀ e, e ∈ store' ↔
        e = (seatRef handles.seat, (handles.bindPending binding).over record) ∨
          e ∈ store ∧ e.1 ≠ seatRef handles.seat := by
  cases bindPendingSeatToWorktree_change h with
  | boundPending _ record hrecord hstate hdigest _ hmem =>
    exact ⟨record, hrecord, hstate, hdigest, hmem⟩
  | minted _ _ hcall _ => simp at hcall
  | removed _ _ hcall _ => exact hcall.elim

/-- A committed activation leaves an ACTIVE record for the worktree. -/
lemma named_of_activate (h : (activateAndBindSeat (handles.activate binding) store).2 =
    some store') : ∃ e ∈ store', bound binding.worktree e = true := by
  obtain ⟨record, bindingOrder, hmem⟩ := activate_written h
  exact ⟨_, (hmem _).mpr (Or.inl rfl), bound_iff.mpr ⟨rfl, rfl⟩⟩

/-- A committed activation leaves no PENDING record to bind. -/
lemma not_binds_of_activate (h : (activateAndBindSeat (handles.activate binding) store).2 =
    some store') :
    (bindPendingSeatToWorktree (handles.bindPending binding) store').2 = none := by
  refine Option.eq_none_iff_forall_ne_some.mpr (fun written hwritten => ?_)
  obtain ⟨record, bindingOrder, hmem⟩ := activate_written h
  obtain ⟨pending, hpending, hstate, -⟩ := bindPending_written hwritten
  obtain heq | ⟨-, hne, -⟩ := (hmem _).mp hpending
  · obtain rfl := (Prod.ext_iff.mp heq).2
    cases hstate
  · exact hne rfl

/-- A committed binding leaves the record of the sent bearer with the worktree. -/
lemma kept_of_bindPending
    (h : (bindPendingSeatToWorktree (handles.bindPending binding) store).2 = some store') :
    KeptUnderBearer handles binding.worktree store' := by
  obtain ⟨record, -, -, hdigest, hmem⟩ := bindPending_written h
  exact ⟨_, (hmem _).mpr (Or.inl rfl), rfl, hdigest⟩

/-- A committed binding names the worktree by no other ACTIVE record. -/
lemma unnamed_of_bindPending
    (h : (bindPendingSeatToWorktree (handles.bindPending binding) store).2 = some store') :
    Unnamed binding.worktree store' ↔ Unnamed binding.worktree store := by
  obtain ⟨record, hrecord, hstate, -, hmem⟩ := bindPending_written h
  have hpending : ∀ e : String × SeatRecord, e.2.state = .pending →
      bound binding.worktree e = false := by
    intro e he
    simp [bound, he]
  constructor
  · intro hunnamed e he
    by_cases hkey : e.1 = seatRef handles.seat
    · obtain rfl := Table.eq_of_key he hrecord hkey
      exact hpending _ hstate
    · exact hunnamed e ((hmem e).mpr (Or.inr ⟨he, hkey⟩))
  · intro hunnamed e he
    obtain rfl | ⟨he, -⟩ := (hmem e).mp he
    · exact hpending _ hstate
    · exact hunnamed e he

/-- Seat and worktree stay together where the PENDING record is bound or no ACTIVE record names the
worktree. -/
lemma preserve_together (pending : StoreFate) :
    Together (some handles) binding.worktree (handles.preserve binding pending store) ↔
      handles.Binds binding store ∧ pending = .runs ∨ Unnamed binding.worktree store := by
  unfold FinalizeHandles.preserve FinalizeHandles.Binds
  split
  · rename_i hhandle
    cases hbind : (bindPendingSeatToWorktree (handles.bindPending binding) store).2 with
    | none =>
      have hanswer : (bindPendingSeatToWorktree (handles.bindPending binding) store).1 ≠
          .ok .bound := by
        rw [Ne, bound_answer_iff, hbind]
        simp
      have hattempt := attempt_of_none pending hbind hanswer
      simp [Together, hattempt]
    | some store' =>
      have hanswer := bound_answer_iff.mpr (Option.isSome_iff_exists.mpr ⟨_, hbind⟩)
      have hkept := kept_of_bindPending hbind
      have hunnamed := unnamed_of_bindPending hbind
      cases pending with
      | runs => simp [Together, attempt, hanswer, hbind, hhandle, hkept]
      | failsBefore => simp [Together, attempt]
      | failsAfter => simp [Together, attempt, hbind, hunnamed]
  · rename_i hhandle
    simp [Together, hhandle]

/-- The binding finds the record ACTIVE, and the worktree goes from under it. -/
lemma not_together_of_failsAfter (pending : StoreFate)
    (hactivate : (activateAndBindSeat (handles.activate binding) store).2 = some store') :
    ¬ Together (some handles) binding.worktree
      (finalizeAssimilationSeat (some handles) binding .failsAfter pending store) := by
  have hbinds : ¬ handles.Binds binding store' := by
    rintro ⟨-, hsome⟩
    rw [not_binds_of_activate hactivate] at hsome
    cases hsome
  have hunnamed : ¬ Unnamed binding.worktree store' := by
    obtain ⟨e, he, hbound⟩ := named_of_activate hactivate
    intro h
    rw [h e he] at hbound
    cases hbound
  simp [finalizeAssimilationSeat, attempt, hactivate, preserve_together, hbinds, hunnamed]

/-- Seat and worktree are kept together just where the activation runs to its commit, or has none
that takes effect and the PENDING record is bound or no ACTIVE record names the worktree. -/
theorem finalize_keeps_together (handles : Option FinalizeHandles) (binding : SeatBinding)
    (activation pending : StoreFate) (store : SeatsFile) :
    Together handles binding.worktree
        (finalizeAssimilationSeat handles binding activation pending store) ↔
      FinalizesWhole handles binding activation pending store := by
  cases handles with
  | none => simp [finalizeAssimilationSeat, Together, FinalizesWhole]
  | some handles =>
    unfold FinalizesWhole FinalizeHandles.Activates
    dsimp only
    cases hactivate : (activateAndBindSeat (handles.activate binding) store).2 with
    | none =>
      have hanswer : (activateAndBindSeat (handles.activate binding) store).1 ≠
          .ok .activated := by
        rw [Ne, activated_answer_iff, hactivate]
        simp
      obtain ⟨hthrown, hstore⟩ := attempt_of_none activation hactivate hanswer
      unfold finalizeAssimilationSeat
      dsimp only
      rw [if_neg hthrown, hstore, preserve_together]
      simp
    | some store' =>
      have hanswer := activated_answer_iff.mpr (Option.isSome_iff_exists.mpr ⟨_, hactivate⟩)
      have hnamed := named_of_activate hactivate
      cases activation with
      | runs =>
        simpa [finalizeAssimilationSeat, attempt, hanswer, hactivate, Together] using hnamed
      | failsBefore => simp [finalizeAssimilationSeat, attempt, preserve_together]
      | failsAfter => simpa using not_together_of_failsAfter pending hactivate

end Finalize

section Instances

attribute [local instance] plainSeats

def sentSeed : SeatSeed where
  origin := "https://borg"
  trustIdentity := "trust"
  cubeId := "cube"
  roleId := "role"
  operation := ⟨"/repo", .sibling, "attempt"⟩
  credential := String.ofList (replicate 43 'a')

/-- The bearer was sent and the drone is there. -/
def sentHandles : FinalizeHandles where
  seat := sentSeed.toSeatIdentity
  droneId := "00000000-0000-0000-0000-000000000000"
  sessionId := "00000000-0000-0000-0000-000000000001"
  pendingBearer := sentSeed.credential
  bindsPending := true

def spawnedBinding : SeatBinding where
  worktree := "/repo-worker-1"
  commonDir := some "/repo/.git"
  repositoryOrigin := none
  name := "cube"
  droneLabel := "worker-1"
  roleName := none
  roleClass := none
  isHumanSeat := none

/-- The store with the minted record. -/
def sentStore : SeatsFile := emptyStore.put (seatRef sentSeed.toSeatIdentity) sentSeed.record

/-- The directory sync fails after the rename of the activation: the worktree is removed, and the
ACTIVE record names it. -/
theorem late_failure_parts_worktree :
    ¬ Together (some sentHandles) spawnedBinding.worktree
      (finalizeAssimilationSeat (some sentHandles) spawnedBinding .failsAfter .runs sentStore) := by
  have hsome : (activateAndBindSeat (sentHandles.activate spawnedBinding) sentStore).2.isSome =
      true := by decide
  obtain ⟨store', hactivate⟩ := Option.isSome_iff_exists.mp hsome
  exact not_together_of_failsAfter .runs hactivate

end Instances

end BorgClient.Assimilation
