import BorgClient.Assimilation.Flow
import BorgClient.Seats.SeatBearers

/-!
# The moves of a run

What one transaction does to the store, what a run knows at each control point, and what one of its
moves can do.
-/

namespace BorgClient.Assimilation
open List Tables Runs Seats

/-! ### The store under one transaction -/

/-- The ref's record is ACTIVE in the worktree. -/
def Seated (store : SeatsFile) (ref worktree : String) : Prop :=
  ∃ record, (ref, record) ∈ store ∧ record.state = .active ∧ record.worktree = some worktree

/-- The ref's record holds the bearer. -/
def Saved (store : SeatsFile) (ref credential : String) : Prop :=
  ∃ record, (ref, record) ∈ store ∧ record.credential = credential

/-- A key of the store names one record. -/
lemma Seated.unique {store : SeatsFile} {ref left right : String} (h : Seated store ref left)
    (h' : Seated store ref right) : left = right := by
  obtain ⟨record, hmem, -, hleft⟩ := h
  obtain ⟨record', hmem', -, hright⟩ := h'
  obtain rfl := (Prod.ext_iff.mp (Table.eq_of_key hmem hmem' rfl)).2
  exact Option.some.inj (hleft.symm.trans hright)

section Store

variable [SeatPlatform] {store written : SeatsFile} {call : SeatCall} {ref worktree : String}

lemma seated_of_change (hchange : SeatChange store written call)
    (h : Seated written ref worktree) :
    Seated store ref worktree ∨ ∃ input, call = .activate input ∧
      ref = seatRef input.toSeatIdentity ∧ worktree = input.worktree := by
  obtain ⟨record, hrec, hactive, hworktree⟩ := h
  cases hchange with
  | minted _ seed hcall hmem =>
    rcases (hmem _).mp hrec with heq | ⟨hold, -⟩
    · obtain rfl := (Prod.ext_iff.mp heq).2
      cases hactive
    · exact Or.inl ⟨record, hold, hactive, hworktree⟩
  | activated input r hrecord _ _ _ _ hmem =>
    rcases (hmem _).mp hrec with heq | ⟨hold, -⟩
    · obtain ⟨rfl, rfl⟩ := Prod.ext_iff.mp heq
      exact Or.inr ⟨input, rfl, rfl, (Option.some.inj hworktree).symm⟩
    · exact Or.inl ⟨record, hold, hactive, hworktree⟩
  | boundPending input r hrecord hpending _ _ hmem =>
    rcases (hmem _).mp hrec with heq | ⟨hold, -⟩
    · obtain ⟨-, rfl⟩ := Prod.ext_iff.mp heq
      have hstate : r.state = .active := hactive
      rw [hpending] at hstate
      cases hstate
    · exact Or.inl ⟨record, hold, hactive, hworktree⟩
  | removed _ _ _ hmem =>
    exact Or.inl ⟨record, ((hmem _).mp hrec).1, hactive, hworktree⟩
  | refreshed input r hrecord hr hmem =>
    rcases (hmem _).mp hrec with heq | ⟨hold, -⟩
    · obtain ⟨rfl, rfl⟩ := Prod.ext_iff.mp heq
      exact Or.inl ⟨r, hrecord, hr, hworktree⟩
    · exact Or.inl ⟨record, hold, hactive, hworktree⟩

lemma saved_of_change {credential : String} (hchange : SeatChange store written call)
    (h : Saved written ref credential) :
    Saved store ref credential ∨ ∃ seed : SeatSeed,
      (call = .mint seed ∨ ∃ input : PrepareSeat, call = .prepare input ∧ input.seed = seed) ∧
      ref = seatRef seed.toSeatIdentity ∧ credential = seed.credential := by
  obtain ⟨record, hrec, hcredential⟩ := h
  cases hchange with
  | minted _ seed hcall hmem =>
    rcases (hmem _).mp hrec with heq | ⟨hold, -⟩
    · obtain ⟨rfl, rfl⟩ := Prod.ext_iff.mp heq
      exact Or.inr ⟨seed, hcall, rfl, hcredential.symm⟩
    · exact Or.inl ⟨record, hold, hcredential⟩
  | activated input r hrecord _ _ _ _ hmem =>
    rcases (hmem _).mp hrec with heq | ⟨hold, -⟩
    · obtain ⟨rfl, rfl⟩ := Prod.ext_iff.mp heq
      exact Or.inl ⟨r, hrecord, hcredential⟩
    · exact Or.inl ⟨record, hold, hcredential⟩
  | boundPending input r hrecord _ _ _ hmem =>
    rcases (hmem _).mp hrec with heq | ⟨hold, -⟩
    · obtain ⟨rfl, rfl⟩ := Prod.ext_iff.mp heq
      exact Or.inl ⟨r, hrecord, hcredential⟩
    · exact Or.inl ⟨record, hold, hcredential⟩
  | removed _ _ _ hmem => exact Or.inl ⟨record, ((hmem _).mp hrec).1, hcredential⟩
  | refreshed input r hrecord _ hmem =>
    rcases (hmem _).mp hrec with heq | ⟨hold, -⟩
    · obtain ⟨rfl, rfl⟩ := Prod.ext_iff.mp heq
      exact Or.inl ⟨r, hrecord, hcredential⟩
    · exact Or.inl ⟨record, hold, hcredential⟩

/-- A transaction that took effect or not: as before, or committed and repaired. -/
lemma transactedUnless_cases (store : SeatsFile) (call : SeatCall) (fault : Fault) :
    transactedUnless store call fault = store ∨
      ∃ written, call.commit store = some written ∧ fault ≠ .threw false ∧
        transactedUnless store call fault = repairOrderedDuplicateBindings written := by
  have htook : transacted store call = store ∨ ∃ written, call.commit store = some written ∧
      transacted store call = repairOrderedDuplicateBindings written := by
    unfold transacted
    cases call.commit store with
    | none => exact Or.inl rfl
    | some written => exact Or.inr ⟨written, rfl, rfl⟩
  cases fault with
  | none =>
    rcases htook with h | ⟨written, hcommit, h⟩
    · exact Or.inl h
    · exact Or.inr ⟨written, hcommit, by simp, h⟩
  | threw took =>
    cases took with
    | false => exact Or.inl rfl
    | true =>
      rcases htook with h | ⟨written, hcommit, h⟩
      · exact Or.inl h
      · exact Or.inr ⟨written, hcommit, by simp, h⟩

/-- Only an activation that commits seats a ref anew. -/
lemma seated_of_transacted {fault : Fault}
    (h : Seated (transactedUnless store call fault) ref worktree) :
    Seated store ref worktree ∨ ∃ input, call = .activate input ∧
      (call.commit store).isSome = true ∧ fault ≠ .threw false ∧
      ref = seatRef input.toSeatIdentity ∧ worktree = input.worktree := by
  rcases transactedUnless_cases store call fault with heq | ⟨written, hcommit, hfault, heq⟩
  · rw [heq] at h
    exact Or.inl h
  · rw [heq] at h
    obtain ⟨record, hrec, hactive⟩ := h
    have hseated : Seated written ref worktree := ⟨record, (mem_repair.mp hrec).1, hactive⟩
    rcases seated_of_change (SeatCall.commit_change hcommit) hseated with h | ⟨input, hcall, h⟩
    · exact Or.inl h
    · exact Or.inr ⟨input, hcall, by rw [hcommit]; rfl, hfault, h⟩

/-- Only a mint saves a bearer anew. -/
lemma saved_of_transacted {fault : Fault} {credential : String}
    (h : Saved (transactedUnless store call fault) ref credential) :
    Saved store ref credential ∨ ∃ seed : SeatSeed,
      (call = .mint seed ∨ ∃ input : PrepareSeat, call = .prepare input ∧ input.seed = seed) ∧
      ref = seatRef seed.toSeatIdentity ∧ credential = seed.credential := by
  rcases transactedUnless_cases store call fault with heq | ⟨written, hcommit, -, heq⟩
  · rw [heq] at h
    exact Or.inl h
  · rw [heq] at h
    obtain ⟨record, hrec, hcredential⟩ := h
    exact saved_of_change (SeatCall.commit_change hcommit)
      ⟨record, (mem_repair.mp hrec).1, hcredential⟩

/-- A prepared seat: the expectation held, and the record is the saved one or the seed's. -/
lemma prepareSeat_ok {input : PrepareSeat} {record : SeatRecord}
    (h : (prepareSeat input store).1 = .ok record) (hrevalidate : input.revalidate = true) :
    Expected input store ∧ (Saved store (seatRef input.seed.toSeatIdentity) record.credential ∨
      record.credential = input.seed.credential) := by
  unfold prepareSeat at h
  dsimp only at h
  split at h
  · cases h
  · rename_i hguard
    rw [hrevalidate, Bool.true_and, Bool.not_eq_true', Bool.not_eq_false] at hguard
    refine ⟨(holds_iff_expected input store).mp hguard, ?_⟩
    split at h
    · rename_i existing hmatch
      obtain rfl := PrepareSeatOutcome.ok.inj h
      obtain ⟨hget, -, -⟩ := recordMatches_eq_some.mp hmatch
      have hmem := SeatsFile.get_eq_some.mp hget
      refine Or.inl ⟨existing, ?_, rfl⟩
      split at hmem
      · exact (SeatsFile.mem_remove.mp hmem).1
      · exact hmem
    · obtain rfl := PrepareSeatOutcome.ok.inj h
      exact Or.inr rfl

/-- After a seat was prepared where none was expected, its ref is not seated. -/
lemma not_seated_of_prepared {input : PrepareSeat} {record : SeatRecord}
    (h : (prepareSeat input store).1 = .ok record) (hrevalidate : input.revalidate = true)
    (habsent : input.expected = .absent) :
    ¬ Seated (transacted store (.prepare input)) (seatRef input.seed.toSeatIdentity) worktree := by
  have hexpected := (prepareSeat_ok h hrevalidate).1
  unfold Expected at hexpected
  rw [habsent] at hexpected
  dsimp only at hexpected
  rintro ⟨r, hmem, hactive, -⟩
  unfold transacted SeatCall.commit at hmem
  unfold prepareSeat at h hmem
  dsimp only at h hmem
  split at h
  · cases h
  · rename_i hguard
    rw [if_neg hguard] at hmem
    split at h
    · rename_i existing hmatch
      rw [hmatch] at hmem
      dsimp only at hmem
      obtain ⟨hget, hauthority, href⟩ := recordMatches_eq_some.mp hmatch
      have hsaved : (seatRef input.seed.toSeatIdentity, existing) ∈ store := by
        have hget := SeatsFile.get_eq_some.mp hget
        split at hget
        · exact (SeatsFile.mem_remove.mp hget).1
        · exact hget
      have heq : r = existing := (Prod.ext_iff.mp (Table.eq_of_key hmem hsaved rfl)).2
      exact hexpected existing hsaved hauthority href (heq ▸ hactive)
    · rename_i hmatch
      rw [hmatch] at hmem
      dsimp only at hmem
      rcases SeatsFile.mem_put.mp (mem_repair.mp hmem).1 with heq | ⟨-, hne⟩
      · obtain rfl := (Prod.ext_iff.mp heq).2
        cases hactive
      · exact hne rfl

end Store

/-! ### One run -/

/-- Before the seat is prepared. -/
def Control.Early (c : Control) : Prop :=
  c ∈ [.reading, .hydrating, .checkingSaved, .choosing, .resuming, .peeking, .probing, .preparing]

/-- The run looks for a saved seat to resume or to reattach. -/
def Control.Looking (c : Control) : Prop := c ∈ [.resuming, .peeking, .probing]

/-- From the attach request to the activation. -/
def Control.Attached (c : Control) : Prop := c ∈ [.attaching, .scrubbing, .spawning, .activating]

section Run

variable [SeatPlatform]

/-- The run has read the seat of its worktree at the ref. -/
def AssimilationRun.Reads (r : AssimilationRun) (ref : String) : Prop :=
  (∃ record, r.record = some record ∧ seatRef record.toSeatIdentity = ref) ∨
  (∃ existing, r.existing = some existing ∧ existing.localSessionCredentialRef = ref) ∨
  ∃ persisted, r.persisted = some persisted ∧ persisted.state = .active ∧
    persisted.localSessionCredentialRef = ref

/-- The run was given the seat, and is in flight or has activated it. -/
def AssimilationRun.Holds (r : AssimilationRun) (ref : String) : Prop :=
  ∃ sent, r.sent = some sent ∧ sent.ref = ref ∧ (r.control ≠ .stopped ∨ r.placed = true)

/-- The run has activated the seat in the worktree. -/
def AssimilationRun.PlacedAt (r : AssimilationRun) (ref worktree : String) : Prop :=
  ∃ sent, r.sent = some sent ∧ sent.ref = ref ∧ r.placed = true ∧ r.target = some worktree

/-- The choice of a run resumes no ACTIVE seat yet, and reattaches none. -/
def SeatChoice.Fresh (choice : SeatChoice) : Prop :=
  (∀ resume, choice.resume = some resume → resume.state = .pending) ∧
    choice.remintInvalidPrior = false ∧ choice.reattachPriorId = none

omit [SeatPlatform] in
/-- What the choice rests on. -/
structure AssimilationRun.Planned (r : AssimilationRun) : Prop where
  own : r.control = .peeking → r.wantSibling = false
  here : r.control = .probing → r.args.flags.here = true
  fresh : r.control.Looking → r.choice.Fresh
  resumes : r.control = .preparing → ∀ resume, r.choice.resume = some resume →
    resume.state = .active → r.wantSibling = false ∧ ∃ persisted, r.persisted = some persisted ∧
      persisted.state = .active ∧ persisted.localSessionCredentialRef = resume.credentialRef
  reattaches : r.control = .preparing →
    (r.choice.remintInvalidPrior = true ∨ r.choice.reattachPriorId.isSome = true) →
      r.args.flags.here = true

omit [SeatPlatform] in
structure AssimilationRun.Formed (r : AssimilationRun) : Prop where
  unsent : r.control.Early → r.sent = none
  unplaced : r.control.Early ∨ r.control.Attached → r.placed = false
  planned : r.Planned
  untargeted : r.control = .spawning ∨ r.control = .attaching ∧ r.wantSibling = true →
    r.target = none
  separate : r.args.flags.here = true → r.args.flags.worktree = none

/-- The saved active seat of a worktree with its bearer. -/
def activeCubeOf (store : SeatsFile) (worktree : String) : Option ActiveCube :=
  match getActiveSeatForWorktree store worktree with
  | .ok (some record) =>
    (getActiveSeatCredential store record).map (fun token => hydrateActiveCube record token)
  | _ => none

/-- The run has read this store's seats of its worktree. -/
structure AssimilationRun.Located (store : SeatsFile) (r : AssimilationRun) : Prop where
  found : ∃ record, getActiveSeatForWorktree store r.context.projectRoot = .ok record
  existing : r.existing = activeCubeOf store r.context.projectRoot
  persisted : r.hasPersistedIdentity =
    (r.existing.isSome || hasSeatForWorktree store r.context.projectRoot)

/-- The choice of a sibling, with the attempt in flight for one without a name. -/
def siblingChoice (store : SeatsFile) (r : AssimilationRun) (uuid : String) : SeatChoice :=
  let choice : SeatChoice :=
    ⟨sessionOperation r.args r.context.projectRoot uuid r.existing, none, none, none, false⟩
  if r.args.flags.worktree.isNone then
    adoptSibling r.context choice
      (findIncompleteSiblingAttempt store r.context.authority r.context.projectRoot)
  else choice

/-- How a run that prepares its seat came to its choice. -/
inductive AssimilationRun.Chosen (store : SeatsFile) (r : AssimilationRun) : Prop
  | sibling (uuid : String) (hsibling : r.wantSibling = true)
      (hhere : r.args.flags.here = false) (hchoice : r.choice = siblingChoice store r uuid)
  | resumed (persisted : PersistedLocalSeat) (choice : SeatChoice) (hnone : r.existing = none)
      (hsibling : r.wantSibling = false)
      (hread : readPersistedLocalSeat store r.context.projectRoot = some persisted)
      (hfresh : choice.Fresh) (hchoice : resumePersisted r.context choice persisted = some r.choice)
  | reattached (hexisting : r.existing ≠ none) (hhere : r.args.flags.here = true)

/-- What the run knows of the store, by where it is. -/
def AssimilationRun.Read (store : SeatsFile) (r : AssimilationRun) : Prop :=
  match r.control with
  | .reading => r.existing = none ∧ r.hasPersistedIdentity = false
  | .hydrating => r.existing = none ∧ ∃ record, r.record = some record ∧
      getActiveSeatForWorktree store r.context.projectRoot = .ok (some record)
  | .checkingSaved => r.existing = none ∧ activeCubeOf store r.context.projectRoot = none ∧
      ∃ record, getActiveSeatForWorktree store r.context.projectRoot = .ok record
  | .choosing => r.Located store
  | .resuming => r.Located store ∧ r.existing = none ∧ r.hasPersistedIdentity = true ∧
      r.choice.Fresh
  | .peeking => r.Located store ∧ r.existing = none ∧ r.wantSibling = false ∧ r.choice.Fresh ∧
      r.persisted = readPersistedLocalSeat store r.context.projectRoot
  | .probing => r.Located store ∧ r.existing ≠ none ∧ r.args.flags.here = true
  | .preparing => r.Located store ∧ r.Chosen store
  | _ => True

/-- A move before the seat is prepared: reads of the store and choices. -/
structure Decides (store : SeatsFile) (r r' : AssimilationRun) : Prop where
  args : r'.args = r.args
  context : r'.context = r.context
  sent : r'.sent = r.sent
  target : r'.target = r.target
  placed : r'.placed = r.placed
  control : r'.control.Early ∨ r'.control = .stopped
  reads : ∀ ref, r'.Reads ref → r.Reads ref ∨ Seated store ref r.context.projectRoot
  planned : r.Planned → r'.Planned
  read : r.Read store → r'.Read store

omit [SeatPlatform] in
lemma planned_of_control {r : AssimilationRun} (hlooking : ¬ r.control.Looking)
    (hpreparing : r.control ≠ .preparing) : r.Planned where
  own h := absurd (by rw [h]; simp [Control.Looking]) hlooking
  here h := absurd (by rw [h]; simp [Control.Looking]) hlooking
  fresh h := absurd h hlooking
  resumes h := absurd h hpreparing
  reattaches h := absurd h hpreparing

lemma decides_stopped (store : SeatsFile) (r : AssimilationRun) :
    Decides store r (r.goto .stopped) where
  args := rfl
  context := rfl
  sent := rfl
  target := rfl
  placed := rfl
  control := Or.inr rfl
  reads _ h := Or.inl h
  planned _ := planned_of_control (by simp [AssimilationRun.goto, Control.Looking])
    (by simp [AssimilationRun.goto])
  read _ := trivial

lemma seated_of_getActive {store : SeatsFile} {worktree : String} {record : SeatRecord}
    (h : getActiveSeatForWorktree store worktree = .ok (some record)) :
    Seated store (seatRef record.toSeatIdentity) worktree := by
  unfold getActiveSeatForWorktree at h
  split at h
  · cases h
  · rename_i e heq
    obtain rfl := Option.some.inj (Except.ok.inj h)
    have hmem : e ∈ store.rows.filter
        (fun e => bound worktree e && seatRef e.2.toSeatIdentity == e.1) := by
      rw [heq]
      exact mem_singleton_self e
    obtain ⟨hstore, hkey⟩ := mem_filter.mp hmem
    simp only [bound, Bool.and_eq_true, decide_eq_true_eq, beq_iff_eq] at hkey
    obtain ⟨⟨hactive, hworktree⟩, href⟩ := hkey
    exact ⟨e.2, by rw [href]; exact hstore, hactive, hworktree⟩
  · cases h

lemma seated_of_getSeat {store : SeatsFile} {worktree : String} {record : SeatRecord}
    (h : getSeatForWorktree store worktree = some record) (hactive : record.state = .active) :
    Seated store (seatRef record.toSeatIdentity) worktree := by
  unfold getSeatForWorktree at h
  obtain ⟨e, hfind, rfl⟩ := Option.map_eq_some_iff.mp h
  have hkey := find?_some hfind
  simp only [Bool.and_eq_true, decide_eq_true_eq, beq_iff_eq] at hkey
  exact ⟨e.2, by rw [hkey.2]; exact mem_of_find?_eq_some hfind, hactive, hkey.1⟩

lemma fresh_adoptSibling {context : Context} {choice : SeatChoice} (h : choice.Fresh)
    (inflight : Option SeatRecord) : (adoptSibling context choice inflight).Fresh := by
  unfold adoptSibling
  split
  · exact h
  · split
    · exact h
    · refine ⟨?_, h.2⟩
      intro resume hresume
      obtain rfl := Option.some.inj hresume
      rfl

omit [SeatPlatform] in
lemma planned_of_fresh {r : AssimilationRun} (hfresh : r.choice.Fresh)
    (hown : r.control ≠ .peeking) (hhere : r.control = .probing → r.args.flags.here = true) :
    r.Planned where
  own h := absurd h hown
  here := hhere
  fresh _ := hfresh
  resumes _ resume hresume hactive := by
    rw [hfresh.1 resume hresume] at hactive
    cases hactive
  reattaches _ h := by
    rw [hfresh.2.1, hfresh.2.2] at h
    simp at h

lemma afterChoice_decides (store : SeatsFile) {r r₀ : AssimilationRun} (hfresh : r.choice.Fresh)
    (hr : r = { r₀ with choice := r.choice })
    (hread : r₀.Read store → r.Located store ∧
      (r.existing = none ∨ r.args.flags.here = false → (r.goto .preparing).Chosen store)) :
    Decides store r₀ r.afterChoice := by
  have hargs : r.args = r₀.args := by rw [hr]
  have hpreparing : r.existing = none ∨ r.args.flags.here = false →
      Decides store r₀ (r.goto .preparing) := by
    intro hsibling
    refine ⟨hargs, by rw [hr]; rfl, by rw [hr]; rfl, by rw [hr]; rfl, by rw [hr]; rfl,
      Or.inl (by simp [AssimilationRun.goto, Control.Early]), ?_, fun _ => ?_, ?_⟩
    · intro ref h
      rw [hr] at h
      exact Or.inl h
    · exact planned_of_fresh hfresh (by simp [AssimilationRun.goto])
        (by simp [AssimilationRun.goto])
    · intro h
      obtain ⟨hlocated, hchosen⟩ := hread h
      exact ⟨⟨hlocated.found, hlocated.existing, hlocated.persisted⟩, hchosen hsibling⟩
  unfold AssimilationRun.afterChoice
  split
  · rename_i hnone
    exact hpreparing (Or.inl hnone)
  · rename_i existing hexisting
    split
    · rename_i hhere
      exact hpreparing (Or.inr (by simpa using hhere))
    · rename_i hhere
      have hhere : r.args.flags.here = true := by simpa using hhere
      split
      · refine ⟨hargs, by rw [hr]; rfl, by rw [hr]; rfl, by rw [hr]; rfl, by rw [hr]; rfl,
          Or.inr rfl, ?_, fun _ => ?_, fun _ => trivial⟩
        · intro ref h
          rw [hr] at h
          exact Or.inl h
        · exact planned_of_control (by simp [AssimilationRun.goto, Control.Looking])
            (by simp [AssimilationRun.goto])
      · refine ⟨hargs, by rw [hr], by rw [hr], by rw [hr], by rw [hr],
          Or.inl (by simp [Control.Early]), ?_, fun _ => ?_, ?_⟩
        · intro ref h
          rw [hr] at h
          exact Or.inl h
        · exact planned_of_fresh ⟨hfresh.1, hfresh.2⟩ (by simp) (fun _ => hhere)
        · intro h
          obtain ⟨hlocated, -⟩ := hread h
          exact ⟨⟨hlocated.found, hlocated.existing, hlocated.persisted⟩,
            by simp [hexisting], hhere⟩

lemma choose_decides {store : SeatsFile} {r : AssimilationRun} (hcontrol : r.control = .choosing)
    (uuid : String) : Decides store r (r.choose store uuid) := by
  have hlocated : r.Read store → r.Located store := by
    intro h
    unfold AssimilationRun.Read at h
    rw [hcontrol] at h
    exact h
  unfold AssimilationRun.choose
  dsimp only
  split
  · exact decides_stopped store r
  · rename_i hhere
    split
    · exact decides_stopped store r
    · have hfresh : SeatChoice.Fresh
          ⟨sessionOperation r.args r.context.projectRoot uuid r.existing, none, none, none, false⟩ := by
        refine ⟨?_, rfl, rfl⟩
        intro resume h
        cases h
      split
      · rename_i hresuming
        simp only [Bool.and_eq_true, Option.isNone_iff_eq_none] at hresuming
        have hadopted : SeatChoice.Fresh (if r.wantSibling && r.args.flags.worktree.isNone then
            adoptSibling r.context
              ⟨sessionOperation r.args r.context.projectRoot uuid r.existing, none, none, none, false⟩
              (findIncompleteSiblingAttempt store r.context.authority r.context.projectRoot)
            else ⟨sessionOperation r.args r.context.projectRoot uuid r.existing, none, none, none,
              false⟩) := by
          split
          · exact fresh_adoptSibling hfresh _
          · exact hfresh
        refine ⟨rfl, rfl, rfl, rfl, rfl, Or.inl (by simp [AssimilationRun.goto, Control.Early]),
          fun _ h => Or.inl h, fun _ => planned_of_fresh hadopted ?_ ?_, ?_⟩
        · simp [AssimilationRun.goto]
        · simp [AssimilationRun.goto]
        · intro h
          obtain ⟨hfound, hexisting, hpersisted⟩ := hlocated h
          exact ⟨⟨hfound, hexisting, hpersisted⟩, hresuming.1, hresuming.2, hadopted⟩
      · rename_i hresuming
        refine afterChoice_decides store ?_ rfl ?_
        · dsimp only
          split
          · exact fresh_adoptSibling hfresh _
          · exact hfresh
        · intro h
          obtain ⟨hfound, hexisting, hpersisted⟩ := hlocated h
          refine ⟨⟨hfound, hexisting, hpersisted⟩, ?_⟩
          intro hsibling
          dsimp only at hsibling
          -- without a saved seat to resume or to reattach, the run wants a sibling
          have hhere : r.args.flags.here = false := by
            rcases hsibling with hnone | hhere
            · simp only [hnone, Option.isNone_none, Bool.true_and, Bool.not_eq_true,
                Bool.and_true] at hresuming hhere
              simpa [hresuming] using hhere
            · exact hhere
          have hwant : r.wantSibling = true := by
            unfold AssimilationRun.wantSibling wantSibling
            rw [hhere]
            cases hexisting : r.existing with
            | none =>
              have hflag : r.hasPersistedIdentity = false := by simpa [hexisting] using hresuming
              simp [hflag]
            | some existing => simp
          refine .sibling uuid hwant hhere ?_
          dsimp only [AssimilationRun.goto, siblingChoice]
          rw [hwant, Bool.true_and]

lemma readPersisted_decides {store : SeatsFile} {r : AssimilationRun}
    (hcontrol : r.control = .resuming) : Decides store r (r.readPersisted store) := by
  unfold AssimilationRun.readPersisted
  split
  · exact decides_stopped store r
  · rename_i persisted hread
    split
    · exact decides_stopped store r
    · rename_i hguard
      simp only [Bool.or_eq_true, not_or, Bool.not_eq_true] at hguard
      refine ⟨rfl, rfl, rfl, rfl, rfl, Or.inl (by simp [Control.Early]), ?_, ?_, ?_⟩
      · rintro ref (h | h | ⟨p, hp, hactive, href⟩)
        · exact Or.inl (Or.inl h)
        · exact Or.inl (Or.inr (Or.inl h))
        · obtain rfl := Option.some.inj hp
          obtain ⟨record, hseat, rfl⟩ := Option.map_eq_some_iff.mp hread
          rw [← href]
          exact Or.inr (seated_of_getSeat hseat hactive)
      · intro hplanned
        have hfresh := hplanned.fresh (by rw [hcontrol]; simp [Control.Looking])
        exact ⟨fun _ => hguard.1.1, by simp, fun _ => hfresh, by simp, by simp⟩
      · intro h
        unfold AssimilationRun.Read at h
        rw [hcontrol] at h
        obtain ⟨⟨hfound, hexisting, hpersisted⟩, hnone, -, hfresh⟩ := h
        exact ⟨⟨hfound, hexisting, hpersisted⟩, hnone, hguard.1.1, hfresh, hread.symm⟩

lemma peek_decides {store : SeatsFile} {r : AssimilationRun} (hcontrol : r.control = .peeking) :
    Decides store r (r.peek store) := by
  unfold AssimilationRun.peek
  split
  · exact decides_stopped store r
  · rename_i persisted hpersisted
    dsimp only
    split
    · rename_i choice _ hchoice
      refine ⟨rfl, rfl, rfl, rfl, rfl, Or.inl (by simp [Control.Early]), fun _ h => Or.inl h, ?_, ?_⟩
      · intro hplanned
        have hfresh := hplanned.fresh (by rw [hcontrol]; simp [Control.Looking])
        have hown := hplanned.own hcontrol
        simp only [resumePersisted, Option.bind_eq_bind, Option.bind_eq_some_iff, Option.pure_def,
          Option.some.injEq] at hchoice
        obtain ⟨name, -, role, -, rfl⟩ := hchoice
        refine ⟨by simp, by simp, by simp [Control.Looking], ?_, ?_⟩
        · intro _ resume hresume hactive
          obtain rfl := Option.some.inj hresume
          exact ⟨hown, persisted, hpersisted, hactive, rfl⟩
        · intro _ h
          dsimp only at h
          rw [hfresh.2.1, hfresh.2.2] at h
          simp at h
      · intro h
        unfold AssimilationRun.Read at h
        rw [hcontrol] at h
        obtain ⟨⟨hfound, hexisting, hlocated⟩, hnone, hown, hfresh, hread⟩ := h
        exact ⟨⟨hfound, hexisting, hlocated⟩,
          .resumed persisted r.choice hnone hown (hread.symm.trans hpersisted) hfresh hchoice⟩
    · exact decides_stopped store r

lemma probe_decides {store : SeatsFile} {r : AssimilationRun} (hcontrol : r.control = .probing)
    (status : SeatStatus) (holder : Bool) : Decides store r (r.probe status holder) := by
  unfold AssimilationRun.probe
  split
  · exact decides_stopped store r
  · split
    · exact decides_stopped store r
    · refine ⟨rfl, rfl, rfl, rfl, rfl, Or.inl (by simp [Control.Early]), fun _ h => Or.inl h, ?_, ?_⟩
      · intro hplanned
        have hfresh := hplanned.fresh (by rw [hcontrol]; simp [Control.Looking])
        have hhere := hplanned.here hcontrol
        refine ⟨by simp, by simp, by simp [Control.Looking], ?_, fun _ _ => hhere⟩
        intro _ resume hresume hactive
        rw [hfresh.1 resume hresume] at hactive
        cases hactive
      · intro h
        unfold AssimilationRun.Read at h
        rw [hcontrol] at h
        obtain ⟨⟨hfound, hexisting, hlocated⟩, hsome, hhere⟩ := h
        exact ⟨⟨hfound, hexisting, hlocated⟩, .reattached hsome hhere⟩

omit [SeatPlatform] in
lemma not_looking {c : Control} (h : ¬ c.Early) : ¬ c.Looking ∧ c ≠ .preparing := by
  unfold Control.Early at h
  unfold Control.Looking
  cases c <;> simp_all

omit [SeatPlatform] in
lemma formed_start {args : AssimilateArgs} (context : Context)
    (h : args.flags.here = true → args.flags.worktree = none) :
    (AssimilationRun.start args context).Formed where
  unsent _ := rfl
  unplaced _ := rfl
  planned := planned_of_control (by simp [AssimilationRun.start, Control.Looking])
    (by simp [AssimilationRun.start])
  untargeted _ := rfl
  separate := h

lemma Decides.formed {store : SeatsFile} {r r' : AssimilationRun} (h : Decides store r r')
    (hcontrol : r.control.Early) (hformed : r.Formed) : r'.Formed where
  unsent _ := h.sent.trans (hformed.unsent hcontrol)
  unplaced _ := h.placed.trans (hformed.unplaced (Or.inl hcontrol))
  planned := h.planned hformed.planned
  untargeted hafter := by
    rcases h.control with hearly | hstopped
    · rcases hafter with hspawning | ⟨hattaching, -⟩
      · rw [hspawning] at hearly
        simp [Control.Early] at hearly
      · rw [hattaching] at hearly
        simp [Control.Early] at hearly
    · simp [hstopped] at hafter
  separate := by
    rw [h.args]
    exact hformed.separate

omit [SeatPlatform] in
lemma wantSibling_of_here {r : AssimilationRun} (hformed : r.Formed)
    (hhere : r.args.flags.here = true) : r.wantSibling = false := by
  unfold AssimilationRun.wantSibling wantSibling
  rw [hformed.separate hhere, hhere]
  rfl

/-- A run expects an ACTIVE seat only where it read one in its own worktree, which it then binds. -/
lemma reads_of_exact [RoleText] {r : AssimilationRun} {credential ref : String} {role : Role}
    {input : PrepareSeat} {droneId : Option String} {digest : Option HexDigest}
    (hformed : r.Formed) (hcontrol : r.control = .preparing)
    (hinput : r.prepareInput credential = some (role, input))
    (hexact : input.expected = .exact ref droneId digest) :
    r.Reads ref ∧ r.wantSibling = false := by
  obtain ⟨role', -, heq⟩ := Option.map_eq_some_iff.mp hinput
  obtain ⟨rfl, rfl⟩ := Prod.ext_iff.mp heq
  have hexpected : sessionExpected r.choice r.existing = .exact ref droneId digest := hexact
  unfold sessionExpected at hexpected
  split at hexpected
  · rename_i resume hresume
    split at hexpected
    · cases hexpected
    · rename_i hstate
      have hactive : resume.state = .active := by
        cases h : resume.state with
        | active => rfl
        | pending => exact absurd h hstate
      obtain ⟨hown, persisted, hpersisted, hactive', href⟩ :=
        hformed.planned.resumes hcontrol resume hresume hactive
      injection hexpected with hcredentialRef
      exact ⟨Or.inr (Or.inr ⟨persisted, hpersisted, hactive', href.trans hcredentialRef⟩), hown⟩
  · split at hexpected
    · cases hexpected
    · rename_i existing hexisting
      have hreattach : existing.localSessionCredentialRef = ref ∧
          (r.choice.remintInvalidPrior = true ∨ r.choice.reattachPriorId.isSome = true) := by
        split at hexpected
        · rename_i hremint
          injection hexpected with hcredentialRef
          exact ⟨hcredentialRef, Or.inl hremint⟩
        · split at hexpected
          · rename_i hprior
            injection hexpected with hcredentialRef
            exact ⟨hcredentialRef, Or.inr hprior⟩
          · cases hexpected
      exact ⟨Or.inr (Or.inl ⟨existing, hexisting, hreattach.1⟩),
        wantSibling_of_here hformed (hformed.planned.reattaches hcontrol hreattach.2)⟩

lemma not_placed {r : AssimilationRun} (hformed : r.Formed)
    (hcontrol : r.control.Early ∨ r.control.Attached) (ref left : String) :
    ¬ r.PlacedAt ref left := by
  rintro ⟨sent, -, -, hplaced, -⟩
  rw [hformed.unplaced hcontrol] at hplaced
  cases hplaced

end Run

/-! ### One move -/

lemma set_runs_self (w : AssimilationWorld) (i : ℕ) (r : AssimilationRun) :
    (w.set i r).runs i = some r := by
  simp [AssimilationWorld.set]

lemma set_runs_of_ne {w : AssimilationWorld} {i j : ℕ} (r : AssimilationRun) (h : j ≠ i) :
    (w.set i r).runs j = w.runs j := by
  simp [AssimilationWorld.set, h]

lemma runs_set (w : AssimilationWorld) (i : ℕ) (r : AssimilationRun) (j : ℕ) :
    (w.set i r).runs j = if j = i then some r else w.runs j := by
  by_cases hj : j = i
  · rw [if_pos hj, hj, set_runs_self]
  · rw [if_neg hj, set_runs_of_ne r hj]


section Moves

variable [SeatPlatform] [RoleText]

/-- A transaction on the prepared seat that activates nothing. -/
def Handles (call : SeatCall) (ref : String) : Prop :=
  (∃ binding digest, call = .scrub ref binding digest) ∨
    ∃ input, call = .bindPending input ∧ seatRef input.toSeatIdentity = ref

/-- What a move of run `i` did to the world. -/
inductive Moved (w : AssimilationWorld) (i : ℕ) (r : AssimilationRun) (m : RunMove) :
    AssimilationWorld → Prop
  | idle : Moved w i r m w
  | decided (r' : AssimilationRun) (hcontrol : r.control.Early) (h : Decides w.store r r') :
      Moved w i r m (w.set i r')
  | prepared (credential : String) (fault : Fault) (role : Role) (input : PrepareSeat)
      (r' : AssimilationRun) (hmove : m = .prepare credential fault)
      (hcontrol : r.control = .preparing) (hused : credential ∉ w.used)
      (hinput : r.prepareInput credential = some (role, input))
      (hafter : r' = r.goto .stopped ∨ ∃ record, (prepareSeat input w.store).1 = .ok record ∧
        fault = .none ∧ r' = r.prepared role input record) :
      Moved w i r m ({ w with
        store := transactedUnless w.store (.prepare input) fault
        used := credential :: w.used }.set i r')
  | proceeded (store : SeatsFile) (worktrees : List String) (answer : AttachAnswer)
      (control : Control)
      (hstore : store = w.store ∨ ∃ sent call fault, r.sent = some sent ∧
        Handles call sent.ref ∧ store = transactedUnless w.store call fault)
      (hbefore : ¬ r.control.Early) (hafter : ¬ control.Early)
      (hattached : control.Attached → r.control.Attached)
      (hspawning : control = .spawning → r.control = .attaching ∧ r.wantSibling = true)
      (hattaching : control ≠ .attaching) (hstopped : r.control = .stopped → control = .stopped) :
      Moved w i r m ({ w with store := store, worktrees := worktrees }.set i
        { r with answer := answer, control := control })
  | spawned (path : String) (hcontrol : r.control = .spawning) :
      Moved w i r m ({ w with worktrees := path :: w.worktrees }.set i
        { r with target := some path, control := .activating })
  | activated (sent : SentAttach) (worktree : String) (input : ActivateSeat) (fault : Fault)
      (took : Bool) (control : Control) (hcontrol : r.control = .activating)
      (hsent : r.sent = some sent) (htarget : r.target = some worktree)
      (href : seatRef input.toSeatIdentity = sent.ref) (hworktree : input.worktree = worktree)
      (htook : took = ((activateAndBindSeat input w.store).2.isSome && fault ≠ .threw false))
      (hafter : control = .committed ∧ took = true ∨ control = .bindingPending) :
      Moved w i r m ({ w with
        store := transactedUnless w.store (.activate input) fault
        moves := if took then w.moves ++ movedFrom w.store sent.ref worktree else w.moves }.set i
          { r with placed := r.placed || took, control := control })

omit [RoleText] in
lemma activate_some {store : SeatsFile} {input : ActivateSeat}
    (h : (activateAndBindSeat input store).1 = .ok .activated) :
    (activateAndBindSeat input store).2.isSome = true := by
  unfold activateAndBindSeat at h ⊢
  dsimp only at h ⊢
  split at h
  · cases h
  · rename_i huuid
    rw [if_neg huuid]
    split at h
    · cases h
    · split at h
      · cases h
      · rename_i hdigest
        simp only [if_neg hdigest]
        split at h
        · cases h
        · rename_i horder
          rw [if_neg horder]
          rfl

lemma activate_moved {w : AssimilationWorld} {i : ℕ} {r : AssimilationRun} {m : RunMove} {sent : SentAttach}
    {worktree : String} (fault : Fault) (hcontrol : r.control = .activating)
    (hsent : r.sent = some sent) (htarget : r.target = some worktree) :
    Moved w i r m (w.activate i r sent worktree fault) := by
  unfold AssimilationWorld.activate
  dsimp only
  split
  · rename_i hok
    have hsome := activate_some hok
    have h := Moved.activated (w := w) (i := i) (r := r) (m := m) sent worktree
      (activateInput r.context (assignedRole r.context r.role) sent r.answer worktree) .none true
      .committed hcontrol hsent htarget rfl rfl (by rw [hsome]; rfl) (Or.inl ⟨rfl, rfl⟩)
    rw [Bool.or_true] at h
    simpa [hsome] using h
  · rename_i fault _ _ _
    exact Moved.activated (w := w) (i := i) (r := r) (m := m) sent worktree
      (activateInput r.context (assignedRole r.context r.role) sent r.answer worktree) fault _
      .bindingPending hcontrol hsent htarget rfl rfl rfl (Or.inr rfl)

/-- A later move that leaves the seat store as it is. -/
lemma moved_to {w : AssimilationWorld} {i : ℕ} {r : AssimilationRun} {m : RunMove} (worktrees : List String)
    (answer : AttachAnswer) {control : Control} (hbefore : ¬ r.control.Early)
    (hafter : control ∈ [.stopped, .rollingBack, .scrubbing, .activating] ∨
      control = .spawning ∧ r.control = .attaching ∧ r.wantSibling = true)
    (hattached : control.Attached → r.control.Attached)
    (hstopped : r.control = .stopped → control = .stopped) :
    Moved w i r m ({ w with worktrees := worktrees }.set i
      { r with answer := answer, control := control }) := by
  have hcontrol : ¬ control.Early ∧ control ≠ .attaching ∧
      (control = .spawning → r.control = .attaching ∧ r.wantSibling = true) := by
    rcases hafter with h | ⟨rfl, h⟩
    · simp only [mem_cons, not_mem_nil, or_false] at h
      rcases h with rfl | rfl | rfl | rfl <;> simp [Control.Early]
    · exact ⟨by simp [Control.Early], by simp, fun _ => h⟩
  exact .proceeded w.store worktrees answer control (Or.inl rfl) hbefore hcontrol.1 hattached
    hcontrol.2.2 hcontrol.2.1 hstopped

lemma moved_stop {w : AssimilationWorld} {i : ℕ} {r : AssimilationRun} {m : RunMove} :
    Moved w i r m (w.set i (r.goto .stopped)) := by
  by_cases hearly : r.control.Early
  · exact .decided _ hearly (decides_stopped w.store r)
  · exact moved_to w.worktrees r.answer hearly (Or.inl (by simp)) (by simp [Control.Attached])
      (fun _ => rfl)

/-- A read that keeps the choice open. -/
lemma moved_reading {w : AssimilationWorld} {i : ℕ} {r r' : AssimilationRun} {m : RunMove}
    (hcontrol : r.control.Early) (hargs : r'.args = r.args) (hcontext : r'.context = r.context)
    (hsent : r'.sent = r.sent) (htarget : r'.target = r.target) (hplaced : r'.placed = r.placed)
    (hafter : r'.control ∈ [.hydrating, .checkingSaved, .choosing])
    (hreads : ∀ ref, r'.Reads ref → r.Reads ref ∨ Seated w.store ref r.context.projectRoot)
    (hread : r.Read w.store → r'.Read w.store) : Moved w i r m (w.set i r') := by
  simp only [mem_cons, not_mem_nil, or_false] at hafter
  refine .decided r' hcontrol
    ⟨hargs, hcontext, hsent, htarget, hplaced, Or.inl ?_, hreads, fun _ => ?_, hread⟩
  · rcases hafter with h | h | h <;> simp [h, Control.Early]
  · rcases hafter with h | h | h <;>
      exact planned_of_control (by simp [h, Control.Looking]) (by simp [h])

/-- What a move can do. -/
lemma moveStep_moved (w : AssimilationWorld) (i : ℕ) (r : AssimilationRun) (m : RunMove) :
    Moved w i r m (moveStep w i r m) := by
  unfold moveStep
  split
  · rename_i hcontrol
    have hearly : r.control.Early := by simp [hcontrol, Control.Early]
    have hread : r.Read w.store → r.existing = none ∧ r.hasPersistedIdentity = false := by
      intro h
      unfold AssimilationRun.Read at h
      rw [hcontrol] at h
      exact h
    split
    · exact moved_stop
    · rename_i hnone
      refine moved_reading hearly rfl rfl rfl rfl rfl (by simp [AssimilationRun.goto])
        (fun _ h => Or.inl h) ?_
      have hcube : activeCubeOf w.store r.context.projectRoot = none := by
        unfold activeCubeOf
        rw [hnone]
      exact fun h => ⟨(hread h).1, hcube, none, hnone⟩
    · rename_i record hactive
      refine moved_reading hearly rfl rfl rfl rfl rfl (by simp) ?_ ?_
      · rintro ref (⟨record', hrecord, rfl⟩ | h | h)
        · obtain rfl := Option.some.inj hrecord
          exact Or.inr (seated_of_getActive hactive)
        · exact Or.inl (Or.inr (Or.inl h))
        · exact Or.inl (Or.inr (Or.inr h))
      · intro h
        exact ⟨(hread h).1, record, rfl, hactive⟩
  · rename_i hcontrol
    have hearly : r.control.Early := by simp [hcontrol, Control.Early]
    split
    · exact .idle
    · rename_i record hrecord
      have hread : r.Read w.store → r.existing = none ∧
          getActiveSeatForWorktree w.store r.context.projectRoot = .ok (some record) := by
        intro h
        unfold AssimilationRun.Read at h
        rw [hcontrol] at h
        obtain ⟨hnone, record', hrecord', hactive⟩ := h
        rw [hrecord] at hrecord'
        obtain rfl := Option.some.inj hrecord'
        exact ⟨hnone, hactive⟩
      split
      · rename_i htoken
        refine moved_reading hearly rfl rfl rfl rfl rfl (by simp [AssimilationRun.goto])
          (fun _ h => Or.inl h) ?_
        intro h
        have hcube : activeCubeOf w.store r.context.projectRoot = none := by
          unfold activeCubeOf
          rw [(hread h).2]
          dsimp only
          rw [htoken]
          rfl
        exact ⟨(hread h).1, hcube, _, (hread h).2⟩
      · rename_i sessionToken htoken
        refine moved_reading hearly rfl rfl rfl rfl rfl (by simp) ?_ ?_
        · rintro ref (h | ⟨existing, hexisting, rfl⟩ | h)
          · exact Or.inl (Or.inl h)
          · obtain rfl := Option.some.inj hexisting
            exact Or.inl (Or.inl ⟨record, hrecord, rfl⟩)
          · exact Or.inl (Or.inr (Or.inr h))
        · intro h
          refine ⟨⟨_, (hread h).2⟩, ?_, rfl⟩
          unfold activeCubeOf
          rw [(hread h).2]
          dsimp only
          rw [htoken]
          rfl
  · rename_i hcontrol
    refine moved_reading (by simp [hcontrol, Control.Early]) rfl rfl rfl rfl rfl (by simp)
      (fun _ h => Or.inl h) ?_
    intro h
    unfold AssimilationRun.Read at h
    rw [hcontrol] at h
    obtain ⟨hnone, hactive, hfound⟩ := h
    refine ⟨hfound, hnone.trans hactive.symm, ?_⟩
    dsimp only
    rw [hnone]
    rfl
  · rename_i hcontrol
    exact .decided _ (by simp [hcontrol, Control.Early]) (choose_decides hcontrol _)
  · rename_i hcontrol
    exact .decided _ (by simp [hcontrol, Control.Early]) (readPersisted_decides hcontrol)
  · rename_i hcontrol
    exact .decided _ (by simp [hcontrol, Control.Early]) (peek_decides hcontrol)
  · rename_i hcontrol
    exact .decided _ (by simp [hcontrol, Control.Early]) (probe_decides hcontrol _ _)
  · rename_i credential fault hcontrol
    split
    · exact .idle
    · rename_i hused
      split
      · exact moved_stop
      · rename_i role input hinput
        dsimp only
        split
        · rename_i record hok
          exact .prepared credential .none role input _ rfl hcontrol hused hinput
            (Or.inr ⟨record, hok, rfl, rfl⟩)
        · exact .prepared credential _ role input _ rfl hcontrol hused hinput (Or.inl rfl)
  · rename_i hcontrol
    have hbefore : ¬ r.control.Early := by simp [hcontrol, Control.Early]
    have hattached : r.control.Attached := by simp [hcontrol, Control.Attached]
    split
    · exact moved_stop
    · split
      · exact moved_to w.worktrees _ hbefore (Or.inl (by simp)) (fun _ => hattached)
          (by simp [hcontrol])
      · cases hsibling : r.wantSibling with
        | true =>
          exact moved_to w.worktrees _ hbefore (Or.inr ⟨rfl, hcontrol, hsibling⟩)
            (fun _ => hattached) (by simp [hcontrol])
        | false =>
          exact moved_to w.worktrees _ hbefore (Or.inl (by simp)) (fun _ => hattached)
            (by simp [hcontrol])
  · rename_i hcontrol
    split
    · exact .idle
    · rename_i sent hsent
      exact .proceeded _ w.worktrees r.answer .stopped
        (Or.inr ⟨sent, _, _, hsent, Or.inl ⟨_, _, rfl⟩, rfl⟩) (by simp [hcontrol, Control.Early])
        (by simp [Control.Early]) (by simp [Control.Attached]) (by simp) (by simp) (fun _ => rfl)
  · rename_i hcontrol
    split
    · exact .idle
    · exact .spawned _ hcontrol
  · rename_i hcontrol
    exact moved_to w.worktrees r.answer (by simp [hcontrol, Control.Early]) (Or.inl (by simp))
      (by simp [Control.Attached]) (by simp [hcontrol])
  · rename_i hcontrol
    split
    · rename_i sent worktree hsent htarget
      exact activate_moved _ hcontrol hsent htarget
    · exact .idle
  · rename_i hcontrol
    split
    · rename_i sent worktree hsent htarget
      dsimp only
      split
      · exact .proceeded _ w.worktrees r.answer .stopped
          (Or.inr ⟨sent, _, _, hsent, Or.inr ⟨_, rfl, rfl⟩, rfl⟩) (by simp [hcontrol, Control.Early])
          (by simp [Control.Early]) (by simp [Control.Attached]) (by simp) (by simp) (fun _ => rfl)
      · exact .proceeded _ w.worktrees r.answer .rollingBack
          (Or.inr ⟨sent, _, _, hsent, Or.inr ⟨_, rfl, rfl⟩, rfl⟩) (by simp [hcontrol, Control.Early])
          (by simp [Control.Early]) (by simp [Control.Attached]) (by simp) (by simp)
          (by simp [hcontrol])
    · exact .idle
  · rename_i hcontrol
    exact moved_to _ r.answer (by simp [hcontrol, Control.Early]) (Or.inl (by simp))
      (by simp [Control.Attached]) (fun _ => rfl)
  · exact .idle
  · exact moved_stop
  · exact .idle

/-- A move leaves the other runs as they are. -/
lemma Moved.other {w w' : AssimilationWorld} {i j : ℕ} {r : AssimilationRun} {m : RunMove}
    (h : Moved w i r m w') (hj : j ≠ i) : w'.runs j = w.runs j := by
  cases h with
  | idle => rfl
  | decided r' => exact set_runs_of_ne r' hj
  | prepared _ _ _ _ r' => exact set_runs_of_ne r' hj
  | proceeded => exact set_runs_of_ne _ hj
  | spawned => exact set_runs_of_ne _ hj
  | activated => exact set_runs_of_ne _ hj

/-- No run is there that was not begun. -/
lemma runs_of_unbegun {w : AssimilationWorld} {j : ℕ} (hj : w.runs j = none)
    {steps : List AssimilationStep} (h : ∀ args context, .begin j args context ∉ steps) :
    (run assimilationStep w steps).runs j = none := by
  induction steps generalizing w with
  | nil => exact hj
  | cons l steps ih =>
    refine ih ?_ (fun args context hmem => h args context (mem_cons_of_mem l hmem))
    cases l with
    | begin i args context =>
      have hij : j ≠ i := by
        rintro rfl
        exact h args context mem_cons_self
      unfold assimilationStep
      dsimp only
      split
      · exact hj
      · rw [set_runs_of_ne _ hij]
        exact hj
    | move i m =>
      unfold assimilationStep
      dsimp only
      split
      · exact hj
      · rename_i r hr
        have hij : j ≠ i := by
          rintro rfl
          rw [hj] at hr
          cases hr
        rw [(moveStep_moved w i r m).other hij]
        exact hj

end Moves

end BorgClient.Assimilation
