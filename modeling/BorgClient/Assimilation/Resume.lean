import BorgClient.Assimilation.Moves

/-!
# Interrupted runs

One run that is interrupted after its seat was prepared, and the runs that follow it: when each sends
the bearer of the first again.
-/

namespace BorgClient.Assimilation
open List Tables Runs Seats

/-! ### The prepared record -/

section Store

variable [SeatPlatform]

/-- The ref of a prepared seat holds the record `prepareSeat` returned. -/
lemma prepared_record {input : PrepareSeat} {store : SeatsFile} {record r : SeatRecord}
    (h : (prepareSeat input store).1 = .ok record)
    (hr : (seatRef input.seed.toSeatIdentity, r) ∈ transacted store (.prepare input)) :
    r = record ∧ r.toSeatAuthority = input.seed.toSeatAuthority ∧
      seatRef r.toSeatIdentity = seatRef input.seed.toSeatIdentity := by
  unfold transacted SeatCall.commit at hr
  unfold prepareSeat at h hr
  dsimp only at h hr
  split at h
  · cases h
  · rename_i hguard
    rw [if_neg hguard] at hr
    split at h
    · rename_i existing hmatch
      rw [hmatch] at hr
      dsimp only at hr
      obtain rfl := PrepareSeatOutcome.ok.inj h
      obtain ⟨hget, hauthority, href⟩ := recordMatches_eq_some.mp hmatch
      have hmem : (seatRef input.seed.toSeatIdentity, existing) ∈ store := by
        have hmem := SeatsFile.get_eq_some.mp hget
        split at hmem
        · exact (SeatsFile.mem_remove.mp hmem).1
        · exact hmem
      obtain rfl : r = existing := (Prod.ext_iff.mp (Table.eq_of_key hr hmem rfl)).2
      exact ⟨rfl, hauthority, href⟩
    · rename_i hmatch
      rw [hmatch] at hr
      dsimp only at hr
      obtain rfl := PrepareSeatOutcome.ok.inj h
      rcases SeatsFile.mem_put.mp (mem_repair.mp hr).1 with heq | ⟨-, hne⟩
      · obtain rfl := (Prod.ext_iff.mp heq).2
        exact ⟨rfl, rfl, rfl⟩
      · exact absurd rfl hne

/-- A pending seat is prepared as it is. -/
lemma prepared_again {input : PrepareSeat} {store : SeatsFile} {record : SeatRecord}
    (habsent : input.expected = .absent) (hscrub : input.scrubBeforeMint = false)
    (hrecord : (seatRef input.seed.toSeatIdentity, record) ∈ store)
    (hpending : record.state = .pending)
    (hauthority : record.toSeatAuthority = input.seed.toSeatAuthority)
    (href : seatRef record.toSeatIdentity = seatRef input.seed.toSeatIdentity) :
    prepareSeat input store = (.ok record, none) := by
  have hmatch : recordMatches (store.get (seatRef input.seed.toSeatIdentity))
      (seatRef input.seed.toSeatIdentity) input.seed.toSeatAuthority = some record :=
    recordMatches_eq_some.mpr ⟨SeatsFile.get_eq_some.mpr hrecord, hauthority, href⟩
  unfold prepareSeat
  simp [habsent, SeatExpectation.holds, hmatch, hscrub, hpending]

/-- The first attempt in flight, after a seat was prepared: the prepared one, or the first before. -/
lemma foremost_prepared {input : PrepareSeat} {store : SeatsFile} {record : SeatRecord}
    {authority : SeatAuthority} {root : String}
    (h : (prepareSeat input store).1 = .ok record) (hscrub : input.scrubBeforeMint = false)
    (hrecord : isIncompleteSibling authority root (seatRef input.seed.toSeatIdentity, record) = true) :
    findIncompleteSiblingAttempt (transacted store (.prepare input)) authority root = some record ∨
      ∃ first, findIncompleteSiblingAttempt store authority root = some first ∧
        findIncompleteSiblingAttempt (transacted store (.prepare input)) authority root =
          some first := by
  unfold transacted SeatCall.commit
  unfold prepareSeat at h ⊢
  dsimp only at h ⊢
  split at h
  · cases h
  · rename_i hguard
    rw [if_neg hguard]
    rw [hscrub] at h ⊢
    split at h
    · rename_i existing hmatch
      simp only at h ⊢
      obtain rfl := PrepareSeatOutcome.ok.inj h
      obtain ⟨hget, -, -⟩ := recordMatches_eq_some.mp hmatch
      have hmem := SeatsFile.get_eq_some.mp hget
      right
      cases hfind : store.rows.find? (isIncompleteSibling authority root) with
      | none =>
        have hnot := find?_eq_none.mp hfind _ hmem
        exact absurd hrecord hnot
      | some first => exact ⟨first.2, by simp [findIncompleteSiblingAttempt, hfind],
          by simp [findIncompleteSiblingAttempt, hfind]⟩
    · rename_i hmatch
      simp only at h ⊢
      obtain rfl := PrepareSeatOutcome.ok.inj h
      have hpending : ∀ e, isIncompleteSibling authority root e = true → e.2.state = .pending := by
        intro e he
        simp only [isIncompleteSibling, Bool.and_eq_true, decide_eq_true_eq] at he
        tauto
      unfold findIncompleteSiblingAttempt
      rw [find?_repair hpending]
      rcases Table.find?_upsert (t := store) hrecord with hfind | ⟨first, hold, hfind⟩
      · left
        exact congrArg (Option.map Prod.snd) hfind
      · right
        refine ⟨first.2, by rw [hold]; rfl, ?_⟩
        exact congrArg (Option.map Prod.snd) hfind

end Store

/-! ### The run that follows -/

/-- The role an automatic choice picks for the cube's drones. -/
def autoRole (context : Context) : Option Role :=
  pickDefaultRole context.roles (context.drones.length == 0)
    (occupiedRoleIdsForAutoRole context.drones)

section Rerun

variable [SeatPlatform]

/-- The directory has an active seat of its own, or no saved seat. -/
def SiblingSite (store : SeatsFile) (worktree : String) : Prop :=
  (∃ record, getActiveSeatForWorktree store worktree = .ok record) ∧
    (activeCubeOf store worktree ≠ none ∨ hasSeatForWorktree store worktree = false)

/-- The attempt of `first` is saved as it was sent, and a run of `args` in `context` finds it. -/
inductive Resumable (first : AssimilationRun) (sent : SentAttach) (store : SeatsFile)
    (args : AssimilateArgs) (context : Context) : Prop
  /-- The same sibling command in the same directory; only who occupies the roles may differ. -/
  | sibling (record : SeatRecord) (hrecord : (sent.ref, record) ∈ store)
      (hpending : record.state = .pending) (hsibling : first.wantSibling = true)
      (hhere : first.args.flags.here = false) (hargs : args = first.args)
      (hcontext : context = { first.context with drones := context.drones })
      (hsite : SiblingSite store context.projectRoot)
      (hrole : args.flags.worktree ≠ none → args.role = none →
        autoRole context = autoRole first.context)
      (hinflight : args.flags.worktree = none → record.worktree = none ∧
        isIncompleteSibling context.authority context.projectRoot (sent.ref, record) = true ∧
        ∀ inflight, findIncompleteSiblingAttempt store context.authority context.projectRoot =
          some inflight → ∃ role ∈ context.roles, role.id = inflight.roleId)
  /-- In the worktree the attempt is bound to, which no other seat is bound to. -/
  | bound (record : SeatRecord) (hrecord : (sent.ref, record) ∈ store)
      (hpending : record.state = .pending)
      (hworktree : record.worktree = some context.projectRoot)
      (hname : args.flags.worktree = none)
      (hauthority : context.authority = first.context.authority)
      (hown : ∀ e ∈ store, e.2.worktree = some context.projectRoot → e.1 = sent.ref)
      (hrole : ∃ name role, record.roleName = some name ∧
        context.roles.find? (fun r => r.name == name) = some role ∧ role.id = record.roleId)

/-- What is saved of the attempt, while it is pending. -/
def Pending (first : AssimilationRun) (sent : SentAttach) (store : SeatsFile) : Prop :=
  ∀ record, (sent.ref, record) ∈ store → record.state = .pending →
    record.credential = sent.credential ∧ record.toSeatAuthority = first.context.authority ∧
    seatRef record.toSeatIdentity = sent.ref ∧
    (first.wantSibling = true → first.args.flags.here = false → first.args.flags.worktree = none →
      record.worktree = none →
      isIncompleteSibling first.context.authority first.context.projectRoot (sent.ref, record) = true →
      ∃ inflight, findIncompleteSiblingAttempt store first.context.authority
        first.context.projectRoot = some inflight ∧
        (inflight = record ∨ ∀ role ∈ first.context.roles, role.id ≠ inflight.roleId))

lemma wantSibling_of_site {store : SeatsFile} {r : AssimilationRun} (hlocated : r.Located store)
    (hsite : SiblingSite store r.context.projectRoot) (hhere : r.args.flags.here = false) :
    r.wantSibling = true ∧ (r.existing = none → r.hasPersistedIdentity = false) := by
  have hflag : r.existing = none → r.hasPersistedIdentity = false := by
    intro hnone
    rw [hlocated.persisted, hnone]
    rcases hsite.2 with h | h
    · exact absurd (hlocated.existing.symm.trans hnone) h
    · simpa using h
  refine ⟨?_, hflag⟩
  unfold AssimilationRun.wantSibling wantSibling
  rw [hhere]
  cases hexisting : r.existing with
  | none => simp [hflag hexisting]
  | some existing => simp

/-- In a worktree only the pending attempt is bound to, nothing is active and the seat is saved. -/
lemma bound_site {store : SeatsFile} {ref worktree : String} {record : SeatRecord}
    (hrecord : (ref, record) ∈ store) (hpending : record.state = .pending)
    (hworktree : record.worktree = some worktree)
    (hown : ∀ e ∈ store, e.2.worktree = some worktree → e.1 = ref) :
    getActiveSeatForWorktree store worktree = .ok none ∧
      hasSeatForWorktree store worktree = true ∧
      (seatRef record.toSeatIdentity = ref →
        getSeatForWorktree store worktree = some record) := by
  have hone : ∀ e ∈ store.rows, e.2.worktree = some worktree → e = (ref, record) := by
    intro e he hbound
    exact Table.eq_of_key he hrecord (hown e he hbound)
  refine ⟨?_, ?_, ?_⟩
  · have hnil : store.rows.filter
        (fun e => bound worktree e && seatRef e.2.toSeatIdentity == e.1) = [] := by
      rw [filter_eq_nil_iff]
      intro e he hkey
      simp only [bound, Bool.and_eq_true, decide_eq_true_eq] at hkey
      obtain rfl := hone e he hkey.1.2
      rw [hpending] at hkey
      cases hkey.1.1
    unfold getActiveSeatForWorktree
    rw [hnil]
  · unfold hasSeatForWorktree
    rw [any_eq_true]
    exact ⟨(ref, record), hrecord, by simpa using hworktree⟩
  · intro href
    unfold getSeatForWorktree
    cases hfind : store.rows.find? (fun e => e.2.worktree = some worktree &&
        seatRef e.2.toSeatIdentity == e.1) with
    | none =>
      have hnot := find?_eq_none.mp hfind (ref, record) hrecord
      simp [hworktree, href] at hnot
    | some e =>
      have hkey := find?_some hfind
      simp only [Bool.and_eq_true, decide_eq_true_eq] at hkey
      obtain rfl := hone e (mem_of_find?_eq_some hfind) hkey.1
      rfl

end Rerun

section Asks

variable [SeatPlatform] [RoleText]

/-- The run asks for the seat of the ref as one that is not active, with any fresh bearer. -/
def AssimilationRun.Asks (r : AssimilationRun) (ref : String) (authority : SeatAuthority) : Prop :=
  ∀ credential, ∃ role input, r.prepareInput credential = some (role, input) ∧
    seatRef input.seed.toSeatIdentity = ref ∧ input.seed.toSeatAuthority = authority ∧
    input.expected = .absent ∧ input.scrubBeforeMint = false

/-- The seat a run with this choice asks for in a role. -/
def seatOf (context : Context) (choice : SeatChoice) (role : Role) : SeatIdentity :=
  { context.authority with roleId := role.id, operation := choice.sessionOperation }

lemma asks_of_choice {r : AssimilationRun} {role : Role} {ref : String}
    (hrole : resolveConnectionRole r.args r.context r.choice.savedLocalRole = some role)
    (hexpected : sessionExpected r.choice r.existing = .absent)
    (hremint : r.choice.remintInvalidPrior = false)
    (href : seatRef (seatOf r.context r.choice role) = ref) :
    r.Asks ref r.context.authority := by
  intro credential
  refine ⟨role, prepareInput r.context r.choice r.existing role credential, ?_, href, rfl,
    hexpected, hremint⟩
  unfold AssimilationRun.prepareInput
  rw [hrole]
  rfl

omit [SeatPlatform] [RoleText] in
lemma sessionOperation_sibling {args : AssimilateArgs} (root uuid : String)
    (existing : Option ActiveCube) (hhere : args.flags.here = false) :
    sessionOperation args root uuid existing =
      ⟨root, .sibling, match args.flags.worktree with
        | none => IMPLICIT_SIBLING ++ uuid
        | some name => "named-sibling:" ++ name⟩ := by
  unfold sessionOperation
  cases existing with
  | none => rfl
  | some existing =>
    dsimp only
    rw [hhere]
    rfl

omit [RoleText] in
/-- A sibling expects no active seat, and evicts none. -/
lemma sibling_expected (store : SeatsFile) (r : AssimilationRun) (uuid : String) :
    sessionExpected (siblingChoice store r uuid) r.existing = .absent ∧
      (siblingChoice store r uuid).remintInvalidPrior = false := by
  have hbase : ∀ operation : SeatOperation,
      sessionExpected ⟨operation, none, none, none, false⟩ r.existing = .absent := by
    intro operation
    unfold sessionExpected
    cases r.existing with
    | none => rfl
    | some existing => rfl
  unfold siblingChoice
  dsimp only
  split
  · unfold adoptSibling
    split
    · exact ⟨hbase _, rfl⟩
    · split
      · exact ⟨hbase _, rfl⟩
      · exact ⟨rfl, rfl⟩
  · exact ⟨hbase _, rfl⟩

/-- The seat of a sibling with a name: of its role, for the directory and the name. -/
def Named (first : AssimilationRun) (sent : SentAttach) : Prop :=
  first.wantSibling = true → first.args.flags.here = false →
    ∀ name, first.args.flags.worktree = some name →
      ∃ role, resolveConnectionRole first.args first.context none = some role ∧
        sent.identity = { first.context.authority with
          roleId := role.id
          operation := ⟨first.context.projectRoot, .sibling, "named-sibling:" ++ name⟩ }

omit [SeatPlatform] in
lemma resolve_again {args : AssimilateArgs} {context context' : Context}
    (hroles : context'.roles = context.roles)
    (hauto : args.role = none → autoRole context' = autoRole context) :
    resolveConnectionRole args context' none = resolveConnectionRole args context none := by
  unfold resolveConnectionRole
  cases hrole : args.role with
  | none => exact hauto hrole
  | some requested =>
    dsimp only
    rw [hroles]

/-- The attempt in flight, adopted. -/
lemma asks_adopted {r : AssimilationRun} {record : SeatRecord} {role : Role} {ref : String}
    (hchoice : r.choice.sessionOperation = record.operation)
    (hsaved : r.choice.savedLocalRole = some role) (hid : role.id = record.roleId)
    (hexpected : sessionExpected r.choice r.existing = .absent)
    (hremint : r.choice.remintInvalidPrior = false)
    (hauthority : record.toSeatAuthority = r.context.authority)
    (href : seatRef record.toSeatIdentity = ref) : r.Asks ref r.context.authority := by
  refine @asks_of_choice _ _ r role _ ?_ hexpected hremint ?_
  · rw [hsaved]
    rfl
  · rw [← href]
    congr 1
    unfold seatOf
    rw [hchoice, hid, ← hauthority]

omit [RoleText] in
/-- A run in the worktree of the pending attempt finds the saved seat, and no active one. -/
lemma bound_located {store : SeatsFile} {r : AssimilationRun} {ref : String} {record : SeatRecord}
    (hlocated : r.Located store) (hrecord : (ref, record) ∈ store)
    (hpending : record.state = .pending)
    (hworktree : record.worktree = some r.context.projectRoot)
    (hname : r.args.flags.worktree = none)
    (hown : ∀ e ∈ store, e.2.worktree = some r.context.projectRoot → e.1 = ref) :
    r.existing = none ∧ r.hasPersistedIdentity = true ∧ r.wantSibling = false := by
  obtain ⟨hactive, hsaved, -⟩ := bound_site hrecord hpending hworktree hown
  have hnone : r.existing = none := by
    rw [hlocated.existing]
    unfold activeCubeOf
    rw [hactive]
  have hflag : r.hasPersistedIdentity = true := by
    rw [hlocated.persisted, hsaved, Bool.or_true]
  refine ⟨hnone, hflag, ?_⟩
  unfold AssimilationRun.wantSibling wantSibling
  rw [hname, hnone, hflag]
  simp

/-- A run that finds the attempt asks for its seat. -/
lemma Resumable.asks {first r : AssimilationRun} {sent : SentAttach} {store : SeatsFile}
    (h : Resumable first sent store r.args r.context) (hpending : Pending first sent store)
    (hnamed : Named first sent) (hlocated : r.Located store) (hchosen : r.Chosen store) :
    r.Asks sent.ref first.context.authority := by
  cases h with
  | sibling record hrecord hstate hsibling hhere hargs hcontext hsite hrole hinflight =>
    have hhere' : r.args.flags.here = false := by rw [hargs]; exact hhere
    have hauthority : r.context.authority = first.context.authority := by rw [hcontext]
    have hroot : r.context.projectRoot = first.context.projectRoot := by rw [hcontext]
    have hroles : r.context.roles = first.context.roles := by rw [hcontext]
    obtain ⟨-, -, href, hforemost⟩ := hpending record hrecord hstate
    cases hchosen with
    | resumed persisted choice hnone hown =>
      rw [(wantSibling_of_site hlocated hsite hhere').1] at hown
      cases hown
    | reattached _ hreattach =>
      rw [hhere'] at hreattach
      cases hreattach
    | sibling uuid _ _ hchoice =>
      obtain ⟨hexpected, hremint⟩ := sibling_expected store r uuid
      rw [← hchoice] at hexpected hremint
      rw [← hauthority]
      cases hname : r.args.flags.worktree with
      | some name =>
        have hname' : first.args.flags.worktree = some name := by rw [← hargs]; exact hname
        obtain ⟨role, hresolve, hidentity⟩ := hnamed hsibling hhere name hname'
        have hbase : r.choice = ⟨sessionOperation r.args r.context.projectRoot uuid r.existing,
            none, none, none, false⟩ := by
          rw [hchoice]
          simp [siblingChoice, hname]
        refine @asks_of_choice _ _ r role _ ?_ hexpected hremint ?_
        · rw [hbase]
          refine (resolve_again hroles (hrole (by simp [hname]))).trans ?_
          rw [hargs]
          exact hresolve
        · unfold SentAttach.ref
          rw [hidentity, hbase]
          congr 1
          unfold seatOf
          rw [sessionOperation_sibling _ _ _ hhere', hname, hroot, hauthority]
      | none =>
        have hname' : first.args.flags.worktree = none := by rw [← hargs]; exact hname
        obtain ⟨hunbound, hincomplete, hroleOf⟩ := hinflight hname
        rw [hauthority, hroot] at hincomplete hroleOf
        obtain ⟨inflight, hfind, hcase⟩ :=
          hforemost hsibling hhere hname' hunbound hincomplete
        obtain ⟨role, hmem, hid⟩ := hroleOf inflight hfind
        have hsame : inflight = record := by
          rcases hcase with rfl | hstuck
          · rfl
          · exact absurd hid (hstuck role (hroles ▸ hmem))
        subst hsame
        have hsome : ∃ found, r.context.roles.find? (fun r => r.id == inflight.roleId) =
            some found := by
          cases hf : r.context.roles.find? (fun r => r.id == inflight.roleId) with
          | none =>
            have hnot := find?_eq_none.mp hf role hmem
            simp [hid] at hnot
          | some found => exact ⟨found, rfl⟩
        obtain ⟨found, hfound⟩ := hsome
        have hadopted : r.choice = ⟨inflight.operation, some found,
            some ⟨seatRef inflight.toSeatIdentity, none, .pending⟩, none, false⟩ := by
          rw [hchoice]
          simp [siblingChoice, hname, hauthority, hroot, hfind, adoptSibling, hfound]
        simp only [isIncompleteSibling, Bool.and_eq_true, decide_eq_true_eq] at hincomplete
        refine @asks_adopted _ _ r inflight found _ ?_ ?_ ?_ hexpected hremint ?_ href
        · rw [hadopted]
        · rw [hadopted]
        · simpa using find?_some hfound
        · rw [hauthority]
          tauto
  | bound record hrecord hstate hworktree hname hauthority hown hrole =>
    obtain ⟨-, hrecordAuthority, href, -⟩ := hpending record hrecord hstate
    obtain ⟨-, -, hseat⟩ := bound_site hrecord hstate hworktree hown
    obtain ⟨hnone, -, hown'⟩ := bound_located hlocated hrecord hstate hworktree hname hown
    cases hchosen with
    | sibling _ hsibling =>
      rw [hown'] at hsibling
      cases hsibling
    | reattached hexisting =>
      exact absurd hnone hexisting
    | resumed persisted choice _ _ hread hfresh hchoice =>
      obtain ⟨name, role, hroleName, hfind, hid⟩ := hrole
      unfold readPersistedLocalSeat at hread
      rw [hseat href] at hread
      obtain rfl := Option.some.inj hread
      simp only [resumePersisted, hroleName, hfind, Option.bind_eq_bind, Option.bind_some,
        Option.pure_def, Option.some.injEq] at hchoice
      have hpersisted : r.choice.sessionOperation = record.operation ∧
          r.choice.savedLocalRole = some role ∧
          r.choice.resume = some ⟨seatRef record.toSeatIdentity, none, .pending⟩ ∧
          r.choice.remintInvalidPrior = choice.remintInvalidPrior := by
        rw [← hchoice]
        simp [hstate]
      rw [← hauthority]
      refine @asks_adopted _ _ r record role _ hpersisted.1 hpersisted.2.1 hid ?_ ?_
        (hrecordAuthority.trans hauthority.symm) href
      · unfold sessionExpected
        rw [hpersisted.2.2.1]
        rfl
      · exact hpersisted.2.2.2.trans hfresh.2.1

end Asks

/-! ### The chain of runs -/

section Chain

variable [SeatPlatform] [RoleText]

/-- A later run may begin once the earlier ones have stopped, where it finds the attempt. -/
def Continues (w : AssimilationWorld) : AssimilationStep → Prop
  | .begin _ args context => ∃ first sent, w.runs 0 = some first ∧ first.sent = some sent ∧
      (∀ j r, w.runs j = some r → r.control = .stopped) ∧
      Resumable first sent w.store args context
  | .move _ _ => True

/-- The first run has not sent its attach request. -/
structure Beginning (initial : SeatsFile) (w : AssimilationWorld) (first : AssimilationRun) :
    Prop where
  unsent : first.sent = none
  control : first.control.Early ∨ first.control = .stopped
  alone : ∀ j r, w.runs j = some r → j = 0
  read : first.control.Early → w.store = initial ∧ first.Read initial

/-- The first run has sent its request, and each run sends the same. -/
structure Waiting (initial : SeatsFile) (w : AssimilationWorld) (first : AssimilationRun)
    (sent : SentAttach) : Prop where
  request : first.sent = some sent
  late : ¬ first.control.Early
  named : Named first sent
  pending : Pending first sent w.store
  saved : ∀ ref c, Saved w.store ref c →
    Saved initial ref c ∨ ref = sent.ref ∧ c = sent.credential
  others : ∀ j r again, w.runs j = some r → r.sent = some again →
    again.ref = sent.ref ∧ again.credential = sent.credential
  reruns : ∀ j r, w.runs j = some r → r.control.Early →
    r.sent = none ∧ Resumable first sent w.store r.args r.context ∧ r.Read w.store

structure Chain (initial : SeatsFile) (w : AssimilationWorld) : Prop where
  solo : ∀ i j r s, i ≠ j → w.runs i = some r → w.runs j = some s →
    r.control = .stopped ∨ s.control = .stopped
  first : ∃ first, w.runs 0 = some first ∧
    (Beginning initial w first ∨ ∃ sent, Waiting initial w first sent)

/-- What the first run saves of its attempt. -/
lemma first_prepared {store : SeatsFile} {first : AssimilationRun} {credential : String}
    {role : Role} {input : PrepareSeat} {record : SeatRecord} (hread : first.Chosen store)
    (hinput : first.prepareInput credential = some (role, input))
    (hok : (prepareSeat input store).1 = .ok record) :
    Named (first.prepared role input record)
        ⟨input.seed.toSeatIdentity, record.credential⟩ ∧
      Pending (first.prepared role input record) ⟨input.seed.toSeatIdentity, record.credential⟩
        (transacted store (.prepare input)) := by
  obtain ⟨role', hresolve, heq⟩ := Option.map_eq_some_iff.mp hinput
  obtain ⟨rfl, rfl⟩ := Prod.ext_iff.mp heq
  have hsibling : first.wantSibling = true → first.args.flags.here = false →
      ∃ uuid, first.choice = siblingChoice store first uuid := by
    intro hwant hhere
    cases hread with
    | sibling uuid _ _ hchoice => exact ⟨uuid, hchoice⟩
    | resumed _ _ _ hown =>
      rw [hwant] at hown
      cases hown
    | reattached _ hreattach =>
      rw [hhere] at hreattach
      cases hreattach
  refine ⟨?_, ?_⟩
  · intro hwant hhere name hname
    have hname : first.args.flags.worktree = some name := hname
    have hhere : first.args.flags.here = false := hhere
    obtain ⟨uuid, hchoice⟩ := hsibling hwant hhere
    have hbase : first.choice = ⟨sessionOperation first.args first.context.projectRoot uuid
        first.existing, none, none, none, false⟩ := by
      rw [hchoice]
      simp [siblingChoice, hname]
    refine ⟨role', ?_, ?_⟩
    · rw [hbase] at hresolve
      exact hresolve
    · have hoperation : first.choice.sessionOperation =
          ⟨first.context.projectRoot, .sibling, "named-sibling:" ++ name⟩ := by
        rw [hbase]
        dsimp only
        rw [sessionOperation_sibling _ _ _ hhere, hname]
      change ({ first.context.authority with
          roleId := role'.id, operation := first.choice.sessionOperation } : SeatIdentity) = _
      rw [hoperation]
      rfl
  · intro r hr hpending
    obtain ⟨rfl, hauthority, href⟩ := prepared_record hok hr
    refine ⟨rfl, hauthority, href, ?_⟩
    intro hwant hhere hname _ hincomplete
    have hname : first.args.flags.worktree = none := hname
    obtain ⟨uuid, hchoice⟩ := hsibling hwant hhere
    obtain ⟨hexpected, hremint⟩ := sibling_expected store first uuid
    rw [← hchoice] at hexpected hremint
    rcases foremost_prepared hok hremint hincomplete with hfind | ⟨before, hold, hfind⟩
    · exact ⟨r, hfind, Or.inl rfl⟩
    · refine ⟨before, hfind, ?_⟩
      have hadopt : first.choice = adoptSibling first.context
          ⟨sessionOperation first.args first.context.projectRoot uuid first.existing, none, none,
            none, false⟩ (some before) := by
        have hold : findIncompleteSiblingAttempt store first.context.authority
            first.context.projectRoot = some before := hold
        rw [hchoice]
        simp [siblingChoice, hname, hold]
      unfold adoptSibling at hadopt
      cases hrole : first.context.roles.find? (fun r => r.id == before.roleId) with
      | none =>
        right
        intro role hmem hid
        have hnot := find?_eq_none.mp hrole role hmem
        simp [hid] at hnot
      | some found =>
        left
        simp only [hrole] at hadopt
        unfold findIncompleteSiblingAttempt at hold
        obtain ⟨e, he, rfl⟩ := Option.map_eq_some_iff.mp hold
        have hkey := find?_some he
        have hmem : e ∈ store := mem_of_find?_eq_some he
        simp only [isIncompleteSibling, Bool.and_eq_true, decide_eq_true_eq, beq_iff_eq] at hkey
        have hbefore : e.2.state = .pending ∧ e.2.toSeatAuthority = first.context.authority ∧
            seatRef e.2.toSeatIdentity = e.1 := by
          refine ⟨?_, ?_, hkey.2⟩ <;> tauto
        have hsaved : first.choice.savedLocalRole = some found := by rw [hadopt]
        have hrole' : role' = found := by
          rw [hsaved] at hresolve
          exact (Option.some.inj hresolve).symm
        have hidentity : ({ first.context.authority with
            roleId := role'.id, operation := first.choice.sessionOperation } : SeatIdentity) =
              e.2.toSeatIdentity := by
          have hid : role'.id = e.2.roleId := by
            rw [hrole']
            simpa using find?_some hrole
          rw [hid, hadopt, ← hbefore.2.1]
        have hagain := @prepared_again _ (prepareInput first.context first.choice
          first.existing role' credential) store e.2 hexpected hremint
          (by
            change (seatRef ({ first.context.authority with
              roleId := role'.id, operation := first.choice.sessionOperation } : SeatIdentity), e.2) ∈ store
            rw [hidentity, hbefore.2.2]
            exact hmem)
          hbefore.1 hbefore.2.1
          (by
            change _ = seatRef ({ first.context.authority with
              roleId := role'.id, operation := first.choice.sessionOperation } : SeatIdentity)
            rw [hidentity])
        have hok' : (prepareSeat (prepareInput first.context first.choice first.existing role'
            credential) store).1 = .ok r := hok
        rw [hagain] at hok'
        exact PrepareSeatOutcome.ok.inj hok'

lemma moveStep_stopped {w : AssimilationWorld} {i : ℕ} {r : AssimilationRun} (m : RunMove)
    (hr : w.runs i = some r) (hstopped : r.control = .stopped) : moveStep w i r m = w := by
  have hsame : w.set i (r.goto .stopped) = w := by
    have hgoto : r.goto .stopped = r := by
      unfold AssimilationRun.goto
      rw [← hstopped]
    unfold AssimilationWorld.set
    rw [hgoto, ← hr, Function.update_eq_self]
  unfold moveStep
  cases m <;> simp [hstopped, hsame]

omit [RoleText] in
/-- What a transaction on the prepared seat leaves of it. -/
lemma pending_transacted {first : AssimilationRun} {sent : SentAttach} {store : SeatsFile}
    {call : SeatCall} {fault : Fault} (h : Pending first sent store)
    (hcall : Handles call sent.ref ∨
      ∃ input, call = .activate input ∧ seatRef input.toSeatIdentity = sent.ref) :
    Pending first sent (transactedUnless store call fault) := by
  rcases transactedUnless_cases store call fault with heq | ⟨written, hcommit, -, heq⟩
  · rw [heq]
    exact h
  · rw [heq]
    intro record hrecord hpending
    have hwritten := (mem_repair.mp hrecord).1
    rcases hcall with (⟨binding, digest, rfl⟩ | ⟨input, rfl, href⟩) | ⟨input, rfl, href⟩
    · exact absurd rfl (((scrubPendingSeat_change hcommit).2 _).mp hwritten).2
    · cases bindPendingSeatToWorktree_change hcommit with
      | boundPending _ old hold hstate _ _ hmem =>
        rw [href] at hold hmem
        rcases (hmem _).mp hwritten with hnew | ⟨-, hne⟩
        · obtain rfl := (Prod.ext_iff.mp hnew).2
          obtain ⟨hcredential, hauthority, hown, -⟩ := h old hold hstate
          refine ⟨hcredential, hauthority, hown, fun _ _ _ hunbound => ?_⟩
          cases hunbound
        · exact absurd rfl hne
      | minted _ _ hminted =>
        rcases hminted with hminted | ⟨_, hminted, _⟩ <;> cases hminted
      | removed _ _ hremoves => exact hremoves.elim
    · cases activateAndBindSeat_change hcommit with
      | activated _ old hold _ _ _ _ hmem =>
        rw [href] at hold hmem
        rcases (hmem _).mp hwritten with hnew | ⟨-, hne, -⟩
        · obtain rfl := (Prod.ext_iff.mp hnew).2
          cases hpending
        · exact absurd rfl hne
      | minted _ _ hminted =>
        rcases hminted with hminted | ⟨_, hminted, _⟩ <;> cases hminted
      | removed _ _ hremoves => exact hremoves.elim

omit [RoleText] in
lemma saved_handled {store : SeatsFile} {call : SeatCall} {fault : Fault} {own ref c : String}
    (hcall : Handles call own ∨ ∃ input, call = .activate input)
    (h : Saved (transactedUnless store call fault) ref c) : Saved store ref c := by
  rcases saved_of_transacted h with h | ⟨seed, hseed, -⟩
  · exact h
  · rcases hcall with (⟨_, _, rfl⟩ | ⟨_, rfl, -⟩) | ⟨_, rfl⟩ <;>
      rcases hseed with hseed | ⟨_, hseed, -⟩ <;> cases hseed

/-- A run alone in flight that goes on after its request was sent. -/
lemma Chain.later {initial : SeatsFile} {w v : AssimilationWorld} {i : ℕ}
    {r r' : AssimilationRun} (h : Chain initial w) (hr : w.runs i = some r)
    (halone : ∀ j s, j ≠ i → w.runs j = some s → s.control = .stopped)
    (hv : v.runs = w.runs) (hbefore : ¬ r.control.Early) (hstopped : r.control ≠ .stopped)
    (hafter : ¬ r'.control.Early) (hsent : r'.sent = r.sent)
    (hsibling : r'.wantSibling = r.wantSibling) (hargs : r'.args = r.args)
    (hcontext : r'.context = r.context)
    (hstore : v.store = w.store ∨ ∃ sent call fault, r.sent = some sent ∧
      (Handles call sent.ref ∨
        ∃ input, call = .activate input ∧ seatRef input.toSeatIdentity = sent.ref) ∧
      v.store = transactedUnless w.store call fault) : Chain initial (v.set i r') := by
  have hruns : ∀ j s, (v.set i r').runs j = some s → j = i ∧ s = r' ∨ j ≠ i ∧ w.runs j = some s := by
    intro j s hs
    rw [runs_set] at hs
    split at hs
    · rename_i hj
      exact Or.inl ⟨hj, (Option.some.inj hs).symm⟩
    · rename_i hj
      exact Or.inr ⟨hj, by rw [← hv]; exact hs⟩
  refine ⟨?_, ?_⟩
  · intro j k p q hjk hp hq
    rcases hruns j p hp with ⟨rfl, rfl⟩ | ⟨hj, hp⟩
    · rcases hruns k q hq with ⟨rfl, -⟩ | ⟨hk, hq⟩
      · exact absurd rfl hjk
      · exact Or.inr (halone k q hk hq)
    · exact Or.inl (halone j p hj hp)
  · obtain ⟨first, hfirst, hbegin | ⟨sent, hwait⟩⟩ := h.first
    · have hi : i = 0 := hbegin.alone i r hr
      subst hi
      rw [hr] at hfirst
      obtain rfl := Option.some.inj hfirst
      rcases hbegin.control with hearly | hstop
      · exact absurd hearly hbefore
      · exact absurd hstop hstopped
    · have hpending : Pending first sent v.store := by
        rcases hstore with heq | ⟨again, call, fault, hagain, hcall, heq⟩
        · rw [heq]
          exact hwait.pending
        · rw [heq]
          obtain ⟨href, -⟩ := hwait.others i r again hr hagain
          rw [href] at hcall
          exact pending_transacted hwait.pending hcall
      have hsaved : ∀ ref c, Saved v.store ref c →
          Saved initial ref c ∨ ref = sent.ref ∧ c = sent.credential := by
        intro ref c hs
        refine hwait.saved ref c ?_
        rcases hstore with heq | ⟨again, call, fault, hagain, hcall, heq⟩
        · rw [← heq]
          exact hs
        · rw [heq] at hs
          exact saved_handled (hcall.imp id (fun ⟨input, hinput, _⟩ => ⟨input, hinput⟩)) hs
      have hothers : ∀ j s again, (v.set i r').runs j = some s → s.sent = some again →
          again.ref = sent.ref ∧ again.credential = sent.credential := by
        intro j s again hs hagain
        rcases hruns j s hs with ⟨rfl, rfl⟩ | ⟨-, hs⟩
        · exact hwait.others j r again hr (hsent.symm.trans hagain)
        · exact hwait.others j s again hs hagain
      have hreruns : ∀ j s, (v.set i r').runs j = some s → ¬ s.control.Early := by
        intro j s hs
        rcases hruns j s hs with ⟨rfl, rfl⟩ | ⟨hj, hs⟩
        · exact hafter
        · rw [halone j s hj hs]
          simp [Control.Early]
      by_cases hi : i = 0
      · subst hi
        rw [hr] at hfirst
        obtain rfl := Option.some.inj hfirst
        refine ⟨r', set_runs_self v 0 r', Or.inr ⟨sent, hsent.trans hwait.request, hafter, ?_, ?_,
          hsaved, hothers, fun j s hs hearly => absurd hearly (hreruns j s hs)⟩⟩
        · have hnamed := hwait.named
          unfold Named at hnamed ⊢
          rw [hsibling, hargs, hcontext]
          exact hnamed
        · change Pending r' sent v.store
          unfold Pending at hpending ⊢
          rw [hsibling, hargs, hcontext]
          exact hpending
      · refine ⟨first, ?_, Or.inr ⟨sent, hwait.request, hwait.late, hwait.named, hpending, hsaved,
          hothers, fun j s hs hearly => absurd hearly (hreruns j s hs)⟩⟩
        rw [set_runs_of_ne r' (Ne.symm hi), hv]
        exact hfirst

/-- A run alone in flight that has not prepared its seat: the first, or one that finds the
attempt. -/
lemma Chain.early {initial : SeatsFile} {w : AssimilationWorld} {i : ℕ} {r : AssimilationRun}
    (h : Chain initial w) (hr : w.runs i = some r) (hearly : r.control.Early) :
    (i = 0 ∧ Beginning initial w r) ∨ i ≠ 0 ∧ ∃ first sent, w.runs 0 = some first ∧
      Waiting initial w first sent := by
  obtain ⟨first, hfirst, hbegin | ⟨sent, hwait⟩⟩ := h.first
  · have hi : i = 0 := hbegin.alone i r hr
    subst hi
    rw [hr] at hfirst
    obtain rfl := Option.some.inj hfirst
    exact Or.inl ⟨rfl, hbegin⟩
  · refine Or.inr ⟨?_, first, sent, hfirst, hwait⟩
    rintro rfl
    rw [hr] at hfirst
    obtain rfl := Option.some.inj hfirst
    exact hwait.late hearly

omit [SeatPlatform] [RoleText] in
lemma solo_set {w v : AssimilationWorld} {i : ℕ} {r' : AssimilationRun} (hv : v.runs = w.runs)
    (halone : ∀ j s, j ≠ i → w.runs j = some s → s.control = .stopped) (j k : ℕ)
    (p q : AssimilationRun) (hjk : j ≠ k) (hp : (v.set i r').runs j = some p)
    (hq : (v.set i r').runs k = some q) : p.control = .stopped ∨ q.control = .stopped := by
  by_cases hj : j = i
  · have hk : k ≠ i := fun hk => hjk (hj.trans hk.symm)
    rw [set_runs_of_ne r' hk, hv] at hq
    exact Or.inr (halone k q hk hq)
  · rw [set_runs_of_ne r' hj, hv] at hp
    exact Or.inl (halone j p hj hp)

/-- The seat a following run prepares is the saved one, and nothing is stored. -/
lemma Waiting.again {initial : SeatsFile} {w : AssimilationWorld} {first r : AssimilationRun}
    {sent : SentAttach} {i : ℕ} (h : Waiting initial w first sent) (hr : w.runs i = some r)
    (hcontrol : r.control = .preparing) (credential : String) :
    ∃ role input record, r.prepareInput credential = some (role, input) ∧
      prepareSeat input w.store = (.ok record, none) ∧
      seatRef input.seed.toSeatIdentity = sent.ref ∧ record.credential = sent.credential := by
  obtain ⟨-, hresumable, hread⟩ := h.reruns i r hr (by simp [hcontrol, Control.Early])
  unfold AssimilationRun.Read at hread
  rw [hcontrol] at hread
  obtain ⟨role, input, hinput, href, hauthority, habsent, hscrub⟩ :=
    hresumable.asks h.pending h.named hread.1 hread.2 credential
  have hrecord : ∃ record, (sent.ref, record) ∈ w.store ∧ record.state = .pending := by
    cases hresumable with
    | sibling record hrecord hstate => exact ⟨record, hrecord, hstate⟩
    | bound record hrecord hstate => exact ⟨record, hrecord, hstate⟩
  obtain ⟨record, hmem, hstate⟩ := hrecord
  obtain ⟨hcredential, hown, hownRef, -⟩ := h.pending record hmem hstate
  refine ⟨role, input, record, hinput, ?_, href, hcredential⟩
  exact prepared_again habsent hscrub (href ▸ hmem) hstate (hown.trans hauthority.symm)
    (hownRef.trans href.symm)

omit [RoleText] in
lemma transactedUnless_of_none {store : SeatsFile} {call : SeatCall} (fault : Fault)
    (h : call.commit store = none) : transactedUnless store call fault = store := by
  rcases transactedUnless_cases store call fault with heq | ⟨written, hcommit, -⟩
  · exact heq
  · rw [h] at hcommit
    cases hcommit

lemma Chain.moved {initial : SeatsFile} {w w' : AssimilationWorld} {i : ℕ} {r : AssimilationRun}
    {m : RunMove} (h : Chain initial w) (hr : w.runs i = some r) (hactive : r.control ≠ .stopped)
    (hm : Moved w i r m w') : Chain initial w' := by
  have halone : ∀ j s, j ≠ i → w.runs j = some s → s.control = .stopped := by
    intro j s hj hs
    rcases h.solo i j r s (Ne.symm hj) hr hs with hstop | hstop
    · exact absurd hstop hactive
    · exact hstop
  have hnoneEarly : ∀ j s, j ≠ i → w.runs j = some s → ¬ s.control.Early := by
    intro j s hj hs
    rw [halone j s hj hs]
    simp [Control.Early]
  cases hm with
  | idle => exact h
  | decided r' hcontrol hd =>
    refine ⟨solo_set rfl halone, ?_⟩
    rcases h.early hr hcontrol with ⟨rfl, hbegin⟩ | ⟨hi, first, sent, hfirst, hwait⟩
    · refine ⟨r', set_runs_self w 0 r', Or.inl ⟨hd.sent.trans hbegin.unsent, hd.control, ?_, ?_⟩⟩
      · intro j s hs
        by_contra hj
        rw [set_runs_of_ne r' hj] at hs
        exact hj (hbegin.alone j s hs)
      · intro _
        obtain ⟨hstore, hread⟩ := hbegin.read hcontrol
        refine ⟨hstore, ?_⟩
        rw [hstore] at hd
        exact hd.read hread
    · obtain ⟨hunsent, hresumable, hread⟩ := hwait.reruns i r hr hcontrol
      refine ⟨first, ?_, Or.inr ⟨sent, hwait.request, hwait.late, hwait.named, hwait.pending,
        hwait.saved, ?_, ?_⟩⟩
      · rw [set_runs_of_ne r' (Ne.symm hi)]
        exact hfirst
      · intro j s again hs hagain
        by_cases hj : j = i
        · subst hj
          rw [set_runs_self] at hs
          obtain rfl := Option.some.inj hs
          rw [hd.sent, hunsent] at hagain
          cases hagain
        · rw [set_runs_of_ne r' hj] at hs
          exact hwait.others j s again hs hagain
      · intro j s hs hearly
        by_cases hj : j = i
        · subst hj
          rw [set_runs_self] at hs
          obtain rfl := Option.some.inj hs
          refine ⟨hd.sent.trans hunsent, ?_, hd.read hread⟩
          rw [hd.args, hd.context]
          exact hresumable
        · rw [set_runs_of_ne r' hj] at hs
          exact absurd hearly (hnoneEarly j s hj hs)
  | prepared credential fault role input r' hmove hcontrol hused hinput hafter =>
    have hearly : r.control.Early := by simp [hcontrol, Control.Early]
    refine ⟨solo_set rfl halone, ?_⟩
    rcases h.early hr hearly with ⟨rfl, hbegin⟩ | ⟨hi, first, sent, hfirst, hwait⟩
    · obtain ⟨hstore, hread⟩ := hbegin.read hearly
      refine ⟨r', set_runs_self _ 0 r', ?_⟩
      have halone' : ∀ j s, ({ w with
          store := transactedUnless w.store (.prepare input) fault
          used := credential :: w.used }.set 0 r').runs j = some s → j = 0 := by
        intro j s hs
        by_contra hj
        rw [set_runs_of_ne r' hj] at hs
        exact hj (hbegin.alone j s hs)
      rcases hafter with rfl | ⟨record, hok, rfl, rfl⟩
      · refine Or.inl ⟨hbegin.unsent, Or.inr rfl, halone', fun hcontrol => ?_⟩
        simp [AssimilationRun.goto, Control.Early] at hcontrol
      · right
        unfold AssimilationRun.Read at hread
        rw [hcontrol] at hread
        obtain ⟨-, hchosen⟩ := hread
        have hok' := hok
        rw [hstore] at hok
        obtain ⟨hnamed, hpending⟩ := first_prepared hchosen hinput hok
        refine ⟨_, rfl, by simp [AssimilationRun.prepared, Control.Early], hnamed, ?_, ?_, ?_, ?_⟩
        · change Pending _ _ (transacted w.store (.prepare input))
          rw [hstore]
          exact hpending
        · intro ref c hsaved
          have hsaved : Saved (transactedUnless w.store (.prepare input) .none) ref c := hsaved
          rcases saved_of_transacted hsaved with hold | ⟨seed, hcall, rfl, rfl⟩
          · rw [hstore] at hold
            exact Or.inl hold
          · rcases hcall with hcall | ⟨input', hcall, rfl⟩
            · cases hcall
            · obtain rfl := SeatCall.prepare.inj hcall
              obtain ⟨saved, hmem, hcredential⟩ := hsaved
              obtain ⟨rfl, -⟩ := prepared_record hok' hmem
              exact Or.inr ⟨rfl, hcredential.symm⟩
        · intro j s again hs hagain
          obtain rfl := halone' j s hs
          rw [set_runs_self] at hs
          obtain rfl := Option.some.inj hs
          obtain rfl := Option.some.inj hagain
          exact ⟨rfl, rfl⟩
        · intro j s hs hcontrol
          obtain rfl := halone' j s hs
          rw [set_runs_self] at hs
          obtain rfl := Option.some.inj hs
          simp [AssimilationRun.prepared, Control.Early] at hcontrol
    · obtain ⟨role', input', record, hinput', hprepared, href, hcredential⟩ :=
        hwait.again hr hcontrol credential
      rw [hinput] at hinput'
      obtain ⟨rfl, rfl⟩ := Prod.ext_iff.mp (Option.some.inj hinput')
      have hsame : transactedUnless w.store (.prepare input) fault = w.store :=
        transactedUnless_of_none fault (by
          unfold SeatCall.commit
          dsimp only
          rw [hprepared])
      rw [hsame]
      obtain ⟨hunsent, -, -⟩ := hwait.reruns i r hr hearly
      refine ⟨first, ?_, Or.inr ⟨sent, hwait.request, hwait.late, hwait.named, hwait.pending,
        hwait.saved, ?_, ?_⟩⟩
      · rw [set_runs_of_ne r' (Ne.symm hi)]
        exact hfirst
      · intro j s again hs hagain
        by_cases hj : j = i
        · subst hj
          rw [set_runs_self] at hs
          obtain rfl := Option.some.inj hs
          rcases hafter with rfl | ⟨record', hok, -, rfl⟩
          · have hagain : r.sent = some again := hagain
            rw [hunsent] at hagain
            cases hagain
          · rw [hprepared] at hok
            obtain rfl := PrepareSeatOutcome.ok.inj hok
            obtain rfl := Option.some.inj hagain
            exact ⟨href, hcredential⟩
        · rw [set_runs_of_ne r' hj] at hs
          exact hwait.others j s again hs hagain
      · intro j s hs hcontrol'
        by_cases hj : j = i
        · subst hj
          rw [set_runs_self] at hs
          obtain rfl := Option.some.inj hs
          rcases hafter with rfl | ⟨record', -, -, rfl⟩
          · simp [AssimilationRun.goto, Control.Early] at hcontrol'
          · simp [AssimilationRun.prepared, Control.Early] at hcontrol'
        · rw [set_runs_of_ne r' hj] at hs
          exact absurd hcontrol' (hnoneEarly j s hj hs)
  | proceeded store worktrees answer control hstore hbefore hafter _ _ _ _ =>
    refine h.later (v := { w with store := store, worktrees := worktrees }) hr halone rfl hbefore
      hactive hafter rfl rfl rfl rfl ?_
    rcases hstore with rfl | ⟨sent, call, fault, hsent, hcall, rfl⟩
    · exact Or.inl rfl
    · exact Or.inr ⟨sent, call, fault, hsent, Or.inl hcall, rfl⟩
  | spawned path hcontrol =>
    exact h.later (v := { w with worktrees := path :: w.worktrees }) hr halone rfl
      (by simp [hcontrol, Control.Early]) hactive (by simp [Control.Early]) rfl rfl rfl rfl
      (Or.inl rfl)
  | activated sent worktree input fault took control hcontrol hsent htarget href hworktree htook
      hafter =>
    refine h.later (v := { w with
      store := transactedUnless w.store (.activate input) fault
      moves := if took then w.moves ++ movedFrom w.store sent.ref worktree else w.moves }) hr halone
      rfl (by simp [hcontrol, Control.Early]) hactive ?_ rfl rfl rfl rfl
      (Or.inr ⟨sent, _, fault, hsent, Or.inr ⟨input, rfl, href⟩, rfl⟩)
    rcases hafter with ⟨rfl, -⟩ | rfl <;> simp [Control.Early]

omit [RoleText] in
lemma read_start (store : SeatsFile) (args : AssimilateArgs) (context : Context) :
    (AssimilationRun.start args context).Read store := ⟨rfl, rfl⟩

lemma Chain.step {initial : SeatsFile} {w : AssimilationWorld} {l : AssimilationStep}
    (h : Chain initial w) (hc : Continues w l) : Chain initial (assimilationStep w l) := by
  cases l with
  | begin i args context =>
    unfold assimilationStep
    dsimp only
    split
    · exact h
    · rename_i hnone
      obtain ⟨first, sent, hfirst, hsent, hstopped, hresumable⟩ := hc
      have hi : i ≠ 0 := by
        rintro rfl
        rw [hfirst] at hnone
        exact hnone rfl
      refine ⟨solo_set rfl (fun j s _ hs => hstopped j s hs), first, ?_, ?_⟩
      · rw [set_runs_of_ne _ (Ne.symm hi)]
        exact hfirst
      · obtain ⟨first', hfirst', hbegin | ⟨sent', hwait⟩⟩ := h.first
        · rw [hfirst] at hfirst'
          obtain rfl := Option.some.inj hfirst'
          rw [hbegin.unsent] at hsent
          cases hsent
        · rw [hfirst] at hfirst'
          obtain rfl := Option.some.inj hfirst'
          have hsame : sent = sent' := Option.some.inj (hsent.symm.trans hwait.request)
          subst hsame
          refine Or.inr ⟨sent, hwait.request, hwait.late, hwait.named, hwait.pending, hwait.saved,
            ?_, ?_⟩
          · intro j s again hs hagain
            by_cases hj : j = i
            · subst hj
              rw [set_runs_self] at hs
              obtain rfl := Option.some.inj hs
              cases hagain
            · rw [set_runs_of_ne _ hj] at hs
              exact hwait.others j s again hs hagain
          · intro j s hs hearly
            by_cases hj : j = i
            · subst hj
              rw [set_runs_self] at hs
              obtain rfl := Option.some.inj hs
              exact ⟨rfl, hresumable, read_start w.store args context⟩
            · rw [set_runs_of_ne _ hj] at hs
              rw [hstopped j s hs] at hearly
              simp [Control.Early] at hearly
  | move i m =>
    unfold assimilationStep
    dsimp only
    split
    · exact h
    · rename_i r hr
      by_cases hstopped : r.control = .stopped
      · rw [moveStep_stopped m hr hstopped]
        exact h
      · exact h.moved hr hstopped (moveStep_moved w i r m)

/-- The first run alone. -/
def firstRun (initial : SeatsFile) (worktrees : List String) (args : AssimilateArgs)
    (context : Context) : AssimilationWorld :=
  assimilationStep (.start initial worktrees) (.begin 0 args context)

lemma chain_first (initial : SeatsFile) (worktrees : List String) (args : AssimilateArgs)
    (context : Context) : Chain initial (firstRun initial worktrees args context) := by
  have hruns : ∀ j r, (firstRun initial worktrees args context).runs j = some r → j = 0 := by
    intro j r hr
    by_contra hj
    have hnone : (firstRun initial worktrees args context).runs j = none := set_runs_of_ne _ hj
    rw [hnone] at hr
    cases hr
  refine ⟨?_, .start args context, set_runs_self _ 0 _, Or.inl ⟨rfl, Or.inl ?_, hruns, ?_⟩⟩
  · intro i j r s hij hr hs
    exact absurd ((hruns i r hr).trans (hruns j s hs).symm) hij
  · simp [AssimilationRun.start, Control.Early]
  · exact fun _ => ⟨rfl, read_start initial args context⟩

/-- How far a run is from preparing its seat. -/
def Control.distance : Control → ℕ
  | .reading => 6
  | .hydrating => 5
  | .checkingSaved => 4
  | .choosing => 3
  | .resuming => 2
  | .peeking => 1
  | _ => 0

/-- A following run that has not come to its seat yet has a move that brings it closer. -/
lemma Waiting.progress {initial : SeatsFile} {w : AssimilationWorld} {first r : AssimilationRun}
    {sent : SentAttach} {i : ℕ} (h : Waiting initial w first sent) (hr : w.runs i = some r)
    (hearly : r.control.Early) (hne : r.control ≠ .preparing) (uuid : String) :
    ∃ m r', moveStep w i r m = w.set i r' ∧ r'.control.Early ∧
      r'.control.distance < r.control.distance := by
  obtain ⟨-, hresumable, hread⟩ := h.reruns i r hr hearly
  unfold AssimilationRun.Read at hread
  have hfound : ∃ found, getActiveSeatForWorktree w.store r.context.projectRoot = .ok found := by
    cases hresumable with
    | sibling _ _ _ _ _ _ _ hsite => exact hsite.1
    | bound record hrecord hstate hworktree _ _ hown =>
      exact ⟨none, (bound_site hrecord hstate hworktree hown).1⟩
  cases hcontrol : r.control with
  | reading =>
    obtain ⟨found, hfound⟩ := hfound
    cases found with
    | none =>
      exact ⟨.readActive, r.goto .checkingSaved, by simp [moveStep, hcontrol, hfound],
        by simp [AssimilationRun.goto, Control.Early], by simp [AssimilationRun.goto, Control.distance]⟩
    | some record =>
      exact ⟨.readActive, { r with record := some record, control := .hydrating },
        by simp [moveStep, hcontrol, hfound], by simp [Control.Early], by simp [Control.distance]⟩
  | hydrating =>
    rw [hcontrol] at hread
    obtain ⟨-, record, hrecord, -⟩ := hread
    cases htoken : getActiveSeatCredential w.store record with
    | none =>
      exact ⟨.hydrate, r.goto .checkingSaved, by simp [moveStep, hcontrol, hrecord, htoken],
        by simp [AssimilationRun.goto, Control.Early], by simp [AssimilationRun.goto, Control.distance]⟩
    | some token =>
      exact ⟨.hydrate, _, by
        simp only [moveStep, hcontrol, hrecord, htoken]
        rfl, by simp [Control.Early], by simp [Control.distance]⟩
  | checkingSaved =>
    exact ⟨.checkSaved, _, by
      simp only [moveStep, hcontrol]
      rfl, by simp [Control.Early], by simp [Control.distance]⟩
  | choosing =>
    rw [hcontrol] at hread
    refine ⟨.choose uuid, r.choose w.store uuid, by simp [moveStep, hcontrol], ?_⟩
    cases hresumable with
    | sibling _ _ _ _ hhere hargs _ hsite =>
      have hhere : r.args.flags.here = false := by rw [hargs]; exact hhere
      obtain ⟨-, hflag⟩ := wantSibling_of_site hread hsite hhere
      have hpreparing : (r.choose w.store uuid).control = .preparing := by
        unfold AssimilationRun.choose AssimilationRun.afterChoice
        cases hexisting : r.existing with
        | none => simp [hhere, hflag hexisting, AssimilationRun.goto]
        | some existing => simp [hhere, AssimilationRun.goto]
      rw [hpreparing]
      exact ⟨by simp [Control.Early], by simp [Control.distance]⟩
    | bound record hrecord hstate hworktree hname _ hown =>
      obtain ⟨hnone, hflag, -⟩ := bound_located hread hrecord hstate hworktree hname hown
      have hresuming : (r.choose w.store uuid).control = .resuming := by
        unfold AssimilationRun.choose
        simp [hnone, hflag, AssimilationRun.goto]
      rw [hresuming]
      exact ⟨by simp [Control.Early], by simp [Control.distance]⟩
  | resuming =>
    rw [hcontrol] at hread
    obtain ⟨hlocated, hnone, hflag, -⟩ := hread
    cases hresumable with
    | sibling _ _ _ _ hhere hargs _ hsite =>
      have hhere : r.args.flags.here = false := by rw [hargs]; exact hhere
      obtain ⟨-, hfree⟩ := wantSibling_of_site hlocated hsite hhere
      rw [hfree hnone] at hflag
      cases hflag
    | bound record hrecord hstate hworktree hname hauthority hown =>
      obtain ⟨-, hauthority', href, -⟩ := h.pending record hrecord hstate
      obtain ⟨-, -, hseat⟩ := bound_site hrecord hstate hworktree hown
      obtain ⟨-, -, hsibling⟩ := bound_located hlocated hrecord hstate hworktree hname hown
      have hsame : record.toSeatAuthority = r.context.authority :=
        hauthority'.trans hauthority.symm
      have horigin : record.origin = r.context.authority.origin := by rw [← hsame]
      have htrust : record.trustIdentity = r.context.authority.trustIdentity := by rw [← hsame]
      refine ⟨.readPersisted, r.readPersisted w.store, by simp [moveStep, hcontrol], ?_⟩
      have hpeeking : (r.readPersisted w.store).control = .peeking := by
        unfold AssimilationRun.readPersisted readPersistedLocalSeat
        rw [hseat href]
        simp [hsibling, horigin, htrust]
      rw [hpeeking]
      exact ⟨by simp [Control.Early], by simp [Control.distance]⟩
  | peeking =>
    rw [hcontrol] at hread
    obtain ⟨hlocated, hnone, hown', hfresh, hpersisted⟩ := hread
    cases hresumable with
    | sibling _ _ _ _ hhere hargs _ hsite =>
      have hhere : r.args.flags.here = false := by rw [hargs]; exact hhere
      rw [(wantSibling_of_site hlocated hsite hhere).1] at hown'
      cases hown'
    | bound record hrecord hstate hworktree hname hauthority hown hrole =>
      obtain ⟨-, hauthority', href, -⟩ := h.pending record hrecord hstate
      obtain ⟨-, -, hseat⟩ := bound_site hrecord hstate hworktree hown
      have hsame : record.toSeatAuthority = r.context.authority :=
        hauthority'.trans hauthority.symm
      obtain ⟨name, role, hroleName, hfind, -⟩ := hrole
      have hmatch : recordMatches (w.store.get sent.ref) sent.ref
          { r.context.authority with cubeId := record.cubeId } = some record := by
        refine recordMatches_eq_some.mpr ⟨SeatsFile.get_eq_some.mpr hrecord, ?_, href⟩
        rw [← hsame]
      refine ⟨.peek, r.peek w.store, by simp [moveStep, hcontrol], ?_⟩
      have hpreparing : (r.peek w.store).control = .preparing := by
        unfold AssimilationRun.peek
        rw [hpersisted]
        unfold readPersistedLocalSeat
        rw [hseat href]
        simp [resumePersisted, hroleName, hfind, href, hmatch]
      rw [hpreparing]
      exact ⟨by simp [Control.Early], by simp [Control.distance]⟩
  | probing =>
    rw [hcontrol] at hread
    obtain ⟨hlocated, hsome, hhere'⟩ := hread
    cases hresumable with
    | sibling _ _ _ _ hhere hargs =>
      rw [hargs, hhere] at hhere'
      cases hhere'
    | bound record hrecord hstate hworktree hname _ hown =>
      exact absurd (bound_located hlocated hrecord hstate hworktree hname hown).1 hsome
  | preparing => exact absurd hcontrol hne
  | _ => simp [hcontrol, Control.Early] at hearly

/-- What a run does when nothing interrupts it: it sends the bearer of the first run again. -/
lemma Chain.sends {initial : SeatsFile} {i : ℕ} (credential uuid : String) (hi : i ≠ 0) (n : ℕ) :
    ∀ (w : AssimilationWorld) (r : AssimilationRun), Chain initial w → w.runs i = some r →
      r.control.Early → r.control.distance ≤ n → credential ∉ w.used →
      ∃ (moves : List RunMove) (r' : AssimilationRun) (again : SentAttach),
        (run assimilationStep w (moves.map (AssimilationStep.move i))).runs i = some r' ∧
        r'.control = .attaching ∧ r'.sent = some again ∧
        ∀ first sent, w.runs 0 = some first → first.sent = some sent →
          again.ref = sent.ref ∧ again.credential = sent.credential := by
  have hprepares : ∀ (w : AssimilationWorld) (r : AssimilationRun), Chain initial w →
      w.runs i = some r → r.control = .preparing → credential ∉ w.used →
      ∃ (moves : List RunMove) (r' : AssimilationRun) (again : SentAttach),
        (run assimilationStep w (moves.map (AssimilationStep.move i))).runs i = some r' ∧
        r'.control = .attaching ∧ r'.sent = some again ∧
        ∀ first sent, w.runs 0 = some first → first.sent = some sent →
          again.ref = sent.ref ∧ again.credential = sent.credential := by
    intro w r h hr hcontrol hused
    have hearly : r.control.Early := by simp [hcontrol, Control.Early]
    rcases h.early hr hearly with ⟨hzero, -⟩ | ⟨-, first, sent, hfirst, hwait⟩
    · exact absurd hzero hi
    · obtain ⟨role, input, record, hinput, hprepared, href, hcredential⟩ :=
        hwait.again hr hcontrol credential
      refine ⟨[.prepare credential .none], r.prepared role input record,
        ⟨input.seed.toSeatIdentity, record.credential⟩, ?_, rfl, rfl, ?_⟩
      · simp only [map_cons, map_nil, run_cons, run_nil, assimilationStep, hr, moveStep, hcontrol,
          if_neg hused, hinput, hprepared]
        exact set_runs_self _ i _
      · intro first' sent' hfirst' hsent'
        rw [hfirst] at hfirst'
        obtain rfl := Option.some.inj hfirst'
        obtain rfl := Option.some.inj (hsent'.symm.trans hwait.request)
        exact ⟨href, hcredential⟩
  induction n with
  | zero =>
    intro w r h hr hearly hn hused
    by_cases hcontrol : r.control = .preparing
    · exact hprepares w r h hr hcontrol hused
    · rcases h.early hr hearly with ⟨hzero, -⟩ | ⟨-, first, sent, hfirst, hwait⟩
      · exact absurd hzero hi
      · obtain ⟨m, r', -, -, hlt⟩ := hwait.progress hr hearly hcontrol uuid
        omega
  | succ n ih =>
    intro w r h hr hearly hn hused
    by_cases hcontrol : r.control = .preparing
    · exact hprepares w r h hr hcontrol hused
    · rcases h.early hr hearly with ⟨hzero, -⟩ | ⟨-, first, sent, hfirst, hwait⟩
      · exact absurd hzero hi
      · obtain ⟨m, r', hmove, hearly', hlt⟩ := hwait.progress hr hearly hcontrol uuid
        have hstep : assimilationStep w (.move i m) = w.set i r' := by
          unfold assimilationStep
          dsimp only
          rw [hr]
          exact hmove
        have hchain : Chain initial (w.set i r') := by
          rw [← hstep]
          exact h.step (l := .move i m) trivial
        obtain ⟨moves, r'', again, hruns, hattaching, hsent, hsame⟩ :=
          ih (w.set i r') r' hchain (set_runs_self w i r') hearly' (by omega) hused
        refine ⟨m :: moves, r'', again, ?_, hattaching, hsent, ?_⟩
        · rw [map_cons, run_cons, hstep]
          exact hruns
        · intro first' sent' hfirst' hsent'
          refine hsame first' sent' ?_ hsent'
          rw [set_runs_of_ne r' (Ne.symm hi)]
          exact hfirst'

/-- An interrupted attempt and the runs that follow it, each begun once the earlier ones have stopped
and where it finds the attempt: every request carries the bearer and the ref of the first, no other
bearer is saved, and a run that nothing interrupts does send its request. -/
theorem interrupted_attach_resumes (initial : SeatsFile) (worktrees : List String)
    (args : AssimilateArgs) (context : Context) (steps : List AssimilationStep)
    (hm : Meets assimilationStep Continues (firstRun initial worktrees args context) steps) :
    let w := run assimilationStep (firstRun initial worktrees args context) steps
    ∀ first sent, w.runs 0 = some first → first.sent = some sent →
      (∀ j r again, w.runs j = some r → r.sent = some again →
        again.ref = sent.ref ∧ again.credential = sent.credential) ∧
      (∀ ref c, Saved w.store ref c →
        Saved initial ref c ∨ ref = sent.ref ∧ c = sent.credential) ∧
      ∀ i args' context' credential, w.runs i = none →
        Continues w (.begin i args' context') → credential ∉ w.used →
        ∃ (moves : List RunMove) (r : AssimilationRun) (again : SentAttach),
          (run assimilationStep (assimilationStep w (.begin i args' context'))
            (moves.map (AssimilationStep.move i))).runs i = some r ∧
          r.control = .attaching ∧ r.sent = some again ∧ again.ref = sent.ref ∧
          again.credential = sent.credential := by
  intro w first sent hfirst hsent
  have h : Chain initial w :=
    invariant_of_meets assimilationStep (Chain initial) (fun _ _ h hc => h.step hc)
      (chain_first initial worktrees args context) hm
  obtain ⟨first', hfirst', hbegin | ⟨sent', hwait⟩⟩ := h.first
  · rw [hfirst] at hfirst'
    obtain rfl := Option.some.inj hfirst'
    rw [hbegin.unsent] at hsent
    cases hsent
  · rw [hfirst] at hfirst'
    obtain rfl := Option.some.inj hfirst'
    have hsame : sent = sent' := Option.some.inj (hsent.symm.trans hwait.request)
    subst hsame
    refine ⟨hwait.others, hwait.saved, ?_⟩
    intro i args' context' credential hnone hbegin hused
    have hi : i ≠ 0 := by
      rintro rfl
      rw [hfirst] at hnone
      cases hnone
    have hstep : assimilationStep w (.begin i args' context') =
        w.set i (.start args' context') := by
      unfold assimilationStep
      dsimp only
      rw [hnone]
      rfl
    have hchain : Chain initial (w.set i (.start args' context')) := by
      rw [← hstep]
      exact h.step hbegin
    obtain ⟨moves, r, again, hruns, hattaching, hagain, href⟩ :=
      Chain.sends credential "" hi 6 (w.set i (.start args' context')) _ hchain
        (set_runs_self w i _) (by simp [AssimilationRun.start, Control.Early])
        (by simp [AssimilationRun.start, Control.distance]) hused
    refine ⟨moves, r, again, ?_, hattaching, hagain, href first sent ?_ hsent⟩
    · rw [hstep]
      exact hruns
    · rw [set_runs_of_ne _ (Ne.symm hi)]
      exact hfirst

end Chain

section Instances

lemma isDigest_summed (parts : List String) :
    isDigest (String.ofList (replicate 64 ("0123456789abcdef".toList.getD
      (((parts.flatMap String.toList).map Char.toNat).sum % 16) '0'))).toList = true := by
  have hdigit : ∀ k : Fin 16, (fun c : Char => c.isDigit || ('a' ≤ c && c ≤ 'f'))
      ("0123456789abcdef".toList.getD k '0') = true := by decide
  rw [String.toList_ofList, isDigest, length_replicate, Bool.and_eq_true]
  refine ⟨rfl, all_eq_true.mpr ?_⟩
  intro c hc
  rw [eq_of_mem_replicate hc]
  exact hdigit ⟨_, Nat.mod_lt _ (by omega)⟩

/-- A digest that tells texts apart by their characters. -/
@[reducible] def summedSeats : SeatPlatform where
  sha256 parts :=
    ⟨String.ofList (replicate 64 ("0123456789abcdef".toList.getD
      (((parts.flatMap String.toList).map Char.toNat).sum % 16) '0')), isDigest_summed parts⟩
  isHttpsOrigin := fun text => text.startsWith "https://"

attribute [local instance] summedSeats plainRoles

def builderRole : Role :=
  ⟨"6d3f4c1e-9a57-4b7b-8c1d-2f6e7a8b9c0d", "builder", true, false, false, some .worker⟩

def reviewerRole : Role :=
  ⟨"7d3f4c1e-9a57-4b7b-8c1d-2f6e7a8b9c0d", "reviewer", false, true, false, none⟩

/-- A cube with two free roles and these occupants. -/
def twoRoles (drones : List RoleOccupant) : Context where
  projectRoot := "/repo"
  commonDir := "/repo/.git"
  repositoryOrigin := none
  authority := ⟨"https://borg.local:7091", "sha256-trust", "11111111-1111-4111-8111-111111111111"⟩
  cubeName := "cube"
  roles := [reviewerRole, builderRole]
  drones := drones

def namedArgs : AssimilateArgs := ⟨none, ⟨some "x", false, false⟩⟩

/-- A run up to its attach request, and the response lost. -/
def lostSteps (i : ℕ) (uuid credential : String) : List AssimilationStep :=
  [.move i .readActive, .move i .checkSaved, .move i (.choose uuid),
    .move i (.prepare credential .none), .move i .stop]

/-- A named sibling without a role: the server has seated the first attempt, whose response was lost,
so the second run picks another role, and with it another ref and another bearer. -/
theorem lost_response_mints_again :
    let w := run assimilationStep (firstRun emptyStore ["/repo"] namedArgs (twoRoles []))
      (lostSteps 0 "u0" "bearer-0" ++
        [.begin 1 namedArgs (twoRoles [⟨reviewerRole.id, false⟩])] ++ lostSteps 1 "u1" "bearer-1")
    ∃ sent again, (w.runs 0).bind AssimilationRun.sent = some sent ∧
      (w.runs 1).bind AssimilationRun.sent = some again ∧
      again.ref ≠ sent.ref ∧ again.credential ≠ sent.credential ∧
      w.store.rows.map (fun e => (e.2.state, e.2.credential)) =
        [(.pending, "bearer-0"), (.pending, "bearer-1")] := by
  refine ⟨⟨{ (twoRoles []).authority with
      roleId := reviewerRole.id, operation := ⟨"/repo", .sibling, "named-sibling:x"⟩ }, "bearer-0"⟩,
    ⟨{ (twoRoles []).authority with
      roleId := builderRole.id, operation := ⟨"/repo", .sibling, "named-sibling:x"⟩ }, "bearer-1"⟩,
    ?_⟩
  decide +kernel

def builderArgs : AssimilateArgs := ⟨some "builder", ⟨some "x", false, false⟩⟩

/-- The world after the first run's response was lost. -/
def builderLost : AssimilationWorld :=
  run assimilationStep (firstRun emptyStore ["/repo"] builderArgs (twoRoles []))
    (lostSteps 0 "u0" "bearer-0")

lemma builderLost_saved :
    ∃ first sent record, builderLost.runs 0 = some first ∧ first.sent = some sent ∧
      first.wantSibling = true ∧ first.args = builderArgs ∧ first.context = twoRoles [] ∧
      first.control = .stopped ∧ builderLost.store.get sent.ref = some record ∧
      record.state = .pending := by
  have hsome : ((builderLost.runs 0).bind (fun first => first.sent.bind (fun sent =>
      (builderLost.store.get sent.ref).bind (fun record =>
        if first.wantSibling = true ∧ first.args = builderArgs ∧ first.context = twoRoles [] ∧
          first.control = .stopped ∧ record.state = .pending then some () else none)))).isSome =
        true := by
    decide +kernel
  obtain ⟨_, hsome⟩ := Option.isSome_iff_exists.mp hsome
  obtain ⟨first, hfirst, hsome⟩ := Option.bind_eq_some_iff.mp hsome
  obtain ⟨sent, hsent, hsome⟩ := Option.bind_eq_some_iff.mp hsome
  obtain ⟨record, hrecord, hsome⟩ := Option.bind_eq_some_iff.mp hsome
  split at hsome
  · rename_i hall
    obtain ⟨hsibling, hargs, hcontext, hstopped, hpending⟩ := hall
    exact ⟨first, sent, record, hfirst, hsent, hsibling, hargs, hcontext, hstopped, hrecord,
      hpending⟩
  · cases hsome

lemma builderLost_site : SiblingSite builderLost.store "/repo" := by
  have hfree : builderLost.store.rows.all (fun e => e.2.worktree ≠ some "/repo") = true := by
    decide +kernel
  have hnot : ∀ e ∈ builderLost.store.rows, e.2.worktree ≠ some "/repo" := by
    intro e he
    simpa using all_eq_true.mp hfree e he
  refine ⟨⟨none, ?_⟩, Or.inr ?_⟩
  · have hnil : builderLost.store.rows.filter
        (fun e => bound "/repo" e && seatRef e.2.toSeatIdentity == e.1) = [] := by
      rw [filter_eq_nil_iff]
      intro e he hkey
      simp only [bound, Bool.and_eq_true, decide_eq_true_eq] at hkey
      exact hnot e he hkey.1.2
    unfold getActiveSeatForWorktree
    rw [hnil]
  · unfold hasSeatForWorktree
    rw [any_eq_false]
    intro e he
    simpa using hnot e he

lemma builderLost_stopped (j : ℕ) (r : AssimilationRun) (hr : builderLost.runs j = some r) :
    j = 0 := by
  by_contra hj
  have hnone : builderLost.runs j = none := by
    refine runs_of_unbegun (set_runs_of_ne _ hj) ?_
    intro args context hmem
    simp [lostSteps] at hmem
  rw [hnone] at hr
  cases hr

lemma builderLost_continues :
    Continues builderLost (.begin 1 builderArgs (twoRoles [⟨builderRole.id, false⟩])) := by
  obtain ⟨first, sent, record, hfirst, hsent, hsibling, hargs, hcontext, hstopped, hrecord,
    hpending⟩ := builderLost_saved
  refine ⟨first, sent, hfirst, hsent, ?_, .sibling record (SeatsFile.get_eq_some.mp hrecord)
    hpending hsibling ?_ hargs.symm ?_ builderLost_site ?_ ?_⟩
  · intro j r hr
    obtain rfl := builderLost_stopped j r hr
    rw [hfirst] at hr
    exact Option.some.inj hr ▸ hstopped
  · rw [hargs]
    rfl
  · rw [hcontext]
    rfl
  · intro _ hrole
    exact absurd hrole (by decide)
  · intro hname
    exact absurd hname (by decide)

lemma builder_continues :
    Meets assimilationStep Continues (firstRun emptyStore ["/repo"] builderArgs (twoRoles []))
      (lostSteps 0 "u0" "bearer-0" ++ [.begin 1 builderArgs (twoRoles [⟨builderRole.id, false⟩])]) :=
  (meets_append assimilationStep).mpr
    ⟨⟨trivial, trivial, trivial, trivial, trivial, trivial⟩, builderLost_continues, trivial⟩

/-- The attempt of a named role and the run that follows it. -/
theorem interrupted_attach_resumes_builder :
    let w := run assimilationStep (firstRun emptyStore ["/repo"] builderArgs (twoRoles []))
      (lostSteps 0 "u0" "bearer-0" ++ [.begin 1 builderArgs (twoRoles [⟨builderRole.id, false⟩])])
    ∀ first sent, w.runs 0 = some first → first.sent = some sent →
      (∀ j r again, w.runs j = some r → r.sent = some again →
        again.ref = sent.ref ∧ again.credential = sent.credential) ∧
      (∀ ref c, Saved w.store ref c →
        Saved emptyStore ref c ∨ ref = sent.ref ∧ c = sent.credential) ∧
      ∀ i args' context' credential, w.runs i = none →
        Continues w (.begin i args' context') → credential ∉ w.used →
        ∃ (moves : List RunMove) (r : AssimilationRun) (again : SentAttach),
          (run assimilationStep (assimilationStep w (.begin i args' context'))
            (moves.map (AssimilationStep.move i))).runs i = some r ∧
          r.control = .attaching ∧ r.sent = some again ∧ again.ref = sent.ref ∧
          again.credential = sent.credential :=
  interrupted_attach_resumes emptyStore ["/repo"] builderArgs (twoRoles []) _ builder_continues

end Instances

end BorgClient.Assimilation
