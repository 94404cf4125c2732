import BorgClient.Cubes.CreationRetry

/-!
# One key for one creation

A key is sent with one payload; it leaves the store once it was acknowledged, or once when a legacy
record is migrated.
-/

namespace BorgClient.Cubes
open List Runs

/-! ### Records -/

/-- The current record of an attempt. -/
structure Describes (record : Json) (pending : PendingCreation) : Prop where
  key : record.string? "retryKey" = some pending.retryKey
  name : record.string? "name" = some pending.name
  workingRepoName : record.string? "workingRepoName" = some pending.workingRepoName
  template : record.string? "template" = some pending.template
  version : isVersion record SERVER_CUBE_RETRY_RECORD_VERSION = true

lemma Describes.eq {record : Json} {r r' : PendingCreation} (h : Describes record r)
    (h' : Describes record r') : r = r' := by
  obtain ⟨⟨name, workingRepoName, template⟩, retryKey⟩ := r
  obtain ⟨⟨name', workingRepoName', template'⟩, retryKey'⟩ := r'
  have hkey := Option.some.inj (h.key.symm.trans h'.key)
  have hname := Option.some.inj (h.name.symm.trans h'.name)
  have hworking := Option.some.inj (h.workingRepoName.symm.trans h'.workingRepoName)
  have htemplate := Option.some.inj (h.template.symm.trans h'.template)
  dsimp only at hkey hname hworking htemplate
  rw [hkey, hname, hworking, htemplate]

lemma describes_pendingRecord (account : RetryAccount) (pending : PendingCreation) :
    Describes (pendingRecord account pending) pending :=
  ⟨rfl, rfl, rfl, rfl, rfl⟩

lemma not_legacy_of_current {record : Json}
    (h : isVersion record SERVER_CUBE_RETRY_RECORD_VERSION = true) :
    isVersion record LEGACY_SERVER_CUBE_RETRY_RECORD_VERSION = false := by
  unfold isVersion at h ⊢
  split at h
  · rename_i value hvalue
    rw [beq_iff_eq] at h
    subst h
    decide
  · cases h

section Laws

variable [RetryPlatform] {account : RetryAccount} {w : CreationWorld}

/-! ### The transaction -/

/-- What `getOrCreatePending` makes of the stored entry. -/
inductive Prepared (account : RetryAccount) (stored : RetryEntry) (input : CreationInput)
    (fresh : String) : PendingCreation → RetryEntry → Prop
  | created (h : stored = none) :
    Prepared account stored input fresh ⟨input, fresh⟩
      (some (some (pendingRecord account ⟨input, fresh⟩)))
  | reused (record : Json) (retryKey : String) (h : stored = some (some record))
      (hrecord : Describes record ⟨input, retryKey⟩) :
    Prepared account stored input fresh ⟨input, retryKey⟩ stored
  | upgraded (record : Json) (retryKey : String) (h : stored = some (some record))
      (hkey : record.string? "retryKey" = some retryKey)
      (hlegacy : isVersion record LEGACY_SERVER_CUBE_RETRY_RECORD_VERSION = true) :
    Prepared account stored input fresh ⟨input, retryKey⟩
      (some (some (pendingRecord account ⟨input, retryKey⟩)))
  | migrated (record : Json) (h : stored = some (some record))
      (hlegacy : isVersion record LEGACY_SERVER_CUBE_RETRY_RECORD_VERSION = true)
      (hdefault : record.string? "template" = some "default") :
    Prepared account stored input fresh ⟨input, fresh⟩
      (some (some (pendingRecord account ⟨input, fresh⟩)))

/-- The name and the working name of the stored attempt are the input's, and so is its template, but
for the migrated one. -/
def SameAttempt (record : Json) (input : CreationInput) : Prop :=
  record.string? "name" = some input.name ∧
    record.string? "workingRepoName" = some input.workingRepoName ∧
    (record.string? "template" = some input.template ∨
      (isVersion record LEGACY_SERVER_CUBE_RETRY_RECORD_VERSION = true ∧
        record.string? "template" = some "default"))

omit [RetryPlatform] in
lemma sameOperation_names {record : Json} {input : CreationInput}
    (h : sameOperation account record input = true) :
    record.string? "name" = some input.name ∧
      record.string? "workingRepoName" = some input.workingRepoName := by
  simp only [sameOperation, Bool.and_eq_true, beq_iff_eq] at h
  exact ⟨h.1.2, h.2⟩

lemma getOrCreatePending_spec {stored stored' : RetryEntry} {input : CreationInput}
    {fresh : String} {pending : PendingCreation}
    (h : getOrCreatePending account stored input fresh = some (pending, stored')) :
    Prepared account stored input fresh pending stored' ∧
      ∀ record, stored = some (some record) → SameAttempt record input := by
  unfold getOrCreatePending at h
  dsimp only at h
  split at h
  · cases h
  · split at h
    · cases h
      exact ⟨.created rfl, nofun⟩
    · cases h
    · rename_i record
      split at h
      · cases h
      · rename_i retryKey hkey
        have hkey : record.string? "retryKey" = some retryKey := (Option.filter_eq_some_iff.mp hkey).1
        split at h
        · cases h
        · rename_i hsame
          obtain ⟨hname, hworking⟩ := sameOperation_names (Bool.eq_true_of_not_eq_false hsame)
          split at h
          · rename_i hversion
            split at h
            · rename_i htemplate
              cases h
              refine ⟨.reused record retryKey rfl ⟨hkey, hname, hworking, htemplate, hversion⟩, ?_⟩
              rintro _ ⟨⟩
              exact ⟨hname, hworking, Or.inl htemplate⟩
            · cases h
          · split at h
            · rename_i hlegacy
              split at h
              · rename_i htemplate
                cases h
                refine ⟨.upgraded record retryKey rfl hkey hlegacy, ?_⟩
                rintro _ ⟨⟩
                exact ⟨hname, hworking, Or.inl htemplate⟩
              · split at h
                · rename_i hdefault
                  cases h
                  refine ⟨.migrated record rfl hlegacy hdefault, ?_⟩
                  rintro _ ⟨⟩
                  exact ⟨hname, hworking, Or.inr ⟨hlegacy, hdefault⟩⟩
                · cases h
            · cases h

/-! ### The invariant -/

structure RetrySound (w : CreationWorld) : Prop where
  agree : ∀ r ∈ w.handed, ∀ r' ∈ w.handed, r.retryKey = r'.retryKey → r = r'
  /-- A stored key that was handed out is that of the stored attempt. -/
  stored : ∀ record, w.stored = some (some record) → ∀ r ∈ w.handed,
    record.string? "retryKey" = some r.retryKey → Describes record r
  pending : ∀ call r n, w.calls call = .pending r n → r ∈ w.handed
  confirmed : ∀ call r, w.calls call = .confirmed r →
    r ∈ w.handed ∧ r.retryKey ∈ w.acknowledged
  sent : ∀ e ∈ w.sent, e.2 ∈ w.handed ∧ w.calls e.1 ≠ .idle
  migrations : w.migrations = 0 ∨ (w.migrations = 1 ∧ w.legacy = false)

omit [RetryPlatform] in
lemma retrySound_start (stored : RetryEntry) : RetrySound (.start stored) :=
  ⟨nofun, nofun, nofun, nofun, nofun, Or.inl rfl⟩

omit [RetryPlatform] in
/-- A call that ends, or goes on with its attempt. -/
lemma RetrySound.setCall (h : RetrySound w) (call : ℕ) {state : CreationCall}
    (hidle : state ≠ .idle) (hpending : ∀ r n, state = .pending r n → r ∈ w.handed)
    (hconfirmed : ∀ r, state = .confirmed r → r ∈ w.handed ∧ r.retryKey ∈ w.acknowledged) :
    RetrySound (w.setCall call state) := by
  have hcalls : ∀ other, (w.setCall call state).calls other =
      if other = call then state else w.calls other :=
    fun other => Function.update_apply w.calls call state other
  refine ⟨h.agree, h.stored, ?_, ?_, ?_, h.migrations⟩
  · intro other r n heq
    rw [hcalls] at heq
    split at heq
    · exact hpending r n heq
    · exact h.pending other r n heq
  · intro other r heq
    rw [hcalls] at heq
    split at heq
    · exact hconfirmed r heq
    · exact h.confirmed other r heq
  · intro e he
    refine ⟨(h.sent e he).1, ?_⟩
    rw [hcalls]
    split
    · exact hidle
    · exact (h.sent e he).2

omit [RetryPlatform] in
lemma legacy_eq {record : Json} (h : w.stored = some (some record)) :
    w.legacy = isVersion record LEGACY_SERVER_CUBE_RETRY_RECORD_VERSION := by
  unfold CreationWorld.legacy
  rw [h]
  rfl

/-- The world after the transaction of a call. -/
def CreationWorld.prepared (w : CreationWorld) (pending : PendingCreation) (stored : RetryEntry) :
    CreationWorld :=
  { w with
    stored := stored
    handed := w.handed ++ [pending]
    migrations := w.migrations + if w.legacy && storedKey w.stored != some pending.retryKey
      then 1 else 0 }

omit [RetryPlatform] in
lemma isVersion_pendingRecord (account : RetryAccount) (pending : PendingCreation) :
    isVersion (pendingRecord account pending) LEGACY_SERVER_CUBE_RETRY_RECORD_VERSION = false :=
  not_legacy_of_current rfl

omit [RetryPlatform] in
/-- A transaction that writes: its key is not one of another attempt. -/
lemma RetrySound.written (h : RetrySound w) {pending : PendingCreation}
    (hnew : ∀ r ∈ w.handed, r.retryKey ≠ pending.retryKey)
    (hmigrations : w.migrations = 0 ∨ w.legacy = false) :
    RetrySound (w.prepared pending (some (some (pendingRecord account pending)))) := by
  refine ⟨?_, ?_, ?_, ?_, ?_, ?_⟩
  · intro r hr r' hr' hkey
    rcases mem_append.mp hr with hr | hr <;> rcases mem_append.mp hr' with hr' | hr'
    · exact h.agree r hr r' hr' hkey
    · rw [mem_singleton.mp hr'] at hkey
      exact absurd hkey (hnew r hr)
    · rw [mem_singleton.mp hr] at hkey
      exact absurd hkey.symm (hnew r' hr')
    · rw [mem_singleton.mp hr, mem_singleton.mp hr']
  · rintro _ ⟨⟩ r hr hkey
    rcases mem_append.mp hr with hr | hr
    · exact absurd (Option.some.inj hkey).symm (hnew r hr)
    · rw [mem_singleton.mp hr]
      exact describes_pendingRecord account pending
  · exact fun call r n hcall => mem_append_left _ (h.pending call r n hcall)
  · exact fun call r hcall => ⟨mem_append_left _ (h.confirmed call r hcall).1,
      (h.confirmed call r hcall).2⟩
  · exact fun e he => ⟨mem_append_left _ (h.sent e he).1, (h.sent e he).2⟩
  · have hlegacy : (w.prepared pending (some (some (pendingRecord account pending)))).legacy =
        false := isVersion_pendingRecord account pending
    change w.migrations + _ = 0 ∨ w.migrations + _ = 1 ∧ _
    rcases hmigrations with hzero | hcurrent
    · rw [hzero, hlegacy]
      split
      · exact Or.inr ⟨rfl, rfl⟩
      · exact Or.inl rfl
    · rw [hcurrent, hlegacy]
      rcases h.migrations with hzero | ⟨hone, -⟩
      · exact Or.inl (by rw [hzero]; rfl)
      · exact Or.inr ⟨by rw [hone]; rfl, rfl⟩

omit [RetryPlatform] in
/-- A transaction that reuses the stored attempt. -/
lemma RetrySound.reused (h : RetrySound w) {pending : PendingCreation} {record : Json}
    (hstored : w.stored = some (some record)) (hrecord : Describes record pending) :
    RetrySound (w.prepared pending w.stored) := by
  have hsame : ∀ r ∈ w.handed, r.retryKey = pending.retryKey → r = pending := by
    intro r hr hkey
    refine (h.stored record hstored r hr ?_).eq hrecord
    rw [hkey]
    exact hrecord.key
  have hlegacy : w.legacy = false := by
    rw [legacy_eq hstored]
    exact not_legacy_of_current hrecord.version
  refine ⟨?_, ?_, ?_, ?_, ?_, ?_⟩
  · intro r hr r' hr' hkey
    rcases mem_append.mp hr with hr | hr <;> rcases mem_append.mp hr' with hr' | hr'
    · exact h.agree r hr r' hr' hkey
    · rw [mem_singleton.mp hr'] at hkey ⊢
      exact hsame r hr hkey
    · rw [mem_singleton.mp hr] at hkey ⊢
      exact (hsame r' hr' hkey.symm).symm
    · rw [mem_singleton.mp hr, mem_singleton.mp hr']
  · intro record' hrecord' r hr hkey
    rcases mem_append.mp hr with hr | hr
    · exact h.stored record' hrecord' r hr hkey
    · obtain rfl : record = record' :=
        Option.some.inj (Option.some.inj (hstored.symm.trans hrecord'))
      rw [mem_singleton.mp hr]
      exact hrecord
  · exact fun call r n hcall => mem_append_left _ (h.pending call r n hcall)
  · exact fun call r hcall => ⟨mem_append_left _ (h.confirmed call r hcall).1,
      (h.confirmed call r hcall).2⟩
  · exact fun e he => ⟨mem_append_left _ (h.sent e he).1, (h.sent e he).2⟩
  · change w.migrations + _ = 0 ∨ w.migrations + _ = 1 ∧ w.legacy = false
    rw [hlegacy]
    rcases h.migrations with hzero | ⟨hone, -⟩
    · exact Or.inl (by rw [hzero]; rfl)
    · exact Or.inr ⟨by rw [hone]; rfl, rfl⟩

omit [RetryPlatform] in
lemma RetrySound.prepared (h : RetrySound w) {input : CreationInput} {fresh : String}
    {pending : PendingCreation} {stored : RetryEntry}
    (hfresh : ∀ r ∈ w.handed, r.retryKey ≠ fresh)
    (hp : Prepared account w.stored input fresh pending stored) :
    RetrySound (w.prepared pending stored) := by
  have hzero : w.legacy = true → w.migrations = 0 := by
    intro hlegacy
    rcases h.migrations with hzero | ⟨-, hcurrent⟩
    · exact hzero
    · exact absurd hlegacy (by rw [hcurrent]; decide)
  cases hp with
  | created hstored =>
    refine h.written hfresh (Or.inr ?_)
    unfold CreationWorld.legacy
    rw [hstored]
    rfl
  | reused record retryKey hstored hrecord => exact h.reused hstored hrecord
  | upgraded record retryKey hstored hkey hlegacy =>
    refine h.written ?_ (Or.inl (hzero (by rw [legacy_eq hstored]; exact hlegacy)))
    intro r hr heq
    have hversion := (h.stored record hstored r hr (by rw [heq]; exact hkey)).version
    exact absurd hlegacy (by rw [not_legacy_of_current hversion]; decide)
  | migrated record hstored hlegacy hdefault =>
    exact h.written hfresh (Or.inl (hzero (by rw [legacy_eq hstored]; exact hlegacy)))

omit [RetryPlatform] in
lemma RetrySound.cleared (h : RetrySound w) (record : PendingCreation) :
    RetrySound { w with stored := clearPending w.stored record } := by
  unfold clearPending
  split
  · refine ⟨h.agree, nofun, h.pending, h.confirmed, h.sent, ?_⟩
    rcases h.migrations with hzero | ⟨hone, -⟩
    · exact Or.inl hzero
    · exact Or.inr ⟨hone, rfl⟩
  · exact h

lemma RetrySound.step (h : RetrySound w) {step : CreationStep} (hunused : Unused w step) :
    RetrySound (creationStep account w step) := by
  cases step with
  | prepare call input fresh =>
    simp only [creationStep]
    split
    · split
      · exact h.setCall call nofun nofun nofun
      · rename_i pending stored hprepared
        have hnext : RetrySound (w.prepared pending stored) :=
          h.prepared hunused.2 (getOrCreatePending_spec hprepared).1
        split
        · refine hnext.setCall call nofun ?_ nofun
          rintro r n ⟨⟩
          exact mem_append_right _ mem_cons_self
        · exact hnext.setCall call nofun nofun nofun
    · exact h
  | send call =>
    simp only [creationStep]
    split
    · rename_i record attempts hcall
      split
      · have hsent : RetrySound { w with sent := w.sent ++ [(call, record)] } := by
          refine ⟨h.agree, h.stored, h.pending, h.confirmed, ?_, h.migrations⟩
          intro e he
          rcases mem_append.mp he with he | he
          · exact h.sent e he
          · rw [mem_singleton.mp he]
            exact ⟨h.pending call record attempts hcall, by rw [hcall]; nofun⟩
        refine hsent.setCall call nofun ?_ nofun
        rintro r n ⟨⟩
        exact h.pending call record attempts hcall
      · exact h
    · exact h
  | answer call answer =>
    simp only [creationStep]
    split
    · rename_i record attempts hcall
      split
      · split
        · have hacknowledged : RetrySound
              { w with acknowledged := w.acknowledged ++ [record.retryKey] } :=
            ⟨h.agree, h.stored, h.pending, fun call r hcall =>
              ⟨(h.confirmed call r hcall).1, mem_append_left _ (h.confirmed call r hcall).2⟩,
              h.sent, h.migrations⟩
          refine hacknowledged.setCall call nofun nofun ?_
          rintro r ⟨⟩
          exact ⟨h.pending call record _ hcall, mem_append_right _ mem_cons_self⟩
        · exact h.setCall call nofun nofun nofun
      · exact h.setCall call nofun nofun nofun
    · exact h
  | clear call =>
    simp only [creationStep]
    split
    · exact (h.cleared _).setCall call nofun nofun nofun
    · exact h

/-! ### The stored key -/

/-- A legacy record whose template was the default. -/
def Migratable (stored : RetryEntry) : Prop :=
  ∃ record, stored = some (some record) ∧
    isVersion record LEGACY_SERVER_CUBE_RETRY_RECORD_VERSION = true ∧
    record.string? "template" = some "default"

/-- A stored key goes once it was acknowledged, or by the one migration. -/
lemma RetrySound.key_kept (h : RetrySound w) {step : CreationStep} {key : String}
    (hkey : storedKey w.stored = some key)
    (hchanged : storedKey (creationStep account w step).stored ≠ some key) :
    key ∈ w.acknowledged ∨ (w.migrations = 0 ∧ Migratable w.stored) := by
  cases step with
  | prepare call input fresh =>
    simp only [creationStep] at hchanged
    split at hchanged
    · split at hchanged
      · exact absurd hkey hchanged
      · rename_i pending stored hprepared
        have hstored : storedKey stored ≠ some key := by
          split at hchanged
          · exact hchanged
          · exact hchanged
        cases (getOrCreatePending_spec hprepared).1 with
        | created hnone =>
          rw [hnone] at hkey
          cases hkey
        | reused record retryKey hrecord hdescribes => exact absurd hkey hstored
        | upgraded record retryKey hrecord hretry hlegacy =>
          rw [hrecord] at hkey
          exact absurd (hretry.symm.trans hkey) hstored
        | migrated record hrecord hlegacy hdefault =>
          refine Or.inr ⟨?_, record, hrecord, hlegacy, hdefault⟩
          rcases h.migrations with hzero | ⟨-, hcurrent⟩
          · exact hzero
          · rw [legacy_eq hrecord, hlegacy] at hcurrent
            cases hcurrent
    · exact absurd hkey hchanged
  | send call =>
    simp only [creationStep] at hchanged
    split at hchanged
    · split at hchanged
      · exact absurd hkey hchanged
      · exact absurd hkey hchanged
    · exact absurd hkey hchanged
  | answer call answer =>
    simp only [creationStep] at hchanged
    split at hchanged
    · split at hchanged
      · split at hchanged
        · exact absurd hkey hchanged
        · exact absurd hkey hchanged
      · exact absurd hkey hchanged
    · exact absurd hkey hchanged
  | clear call =>
    simp only [creationStep] at hchanged
    split at hchanged
    · rename_i record hcall
      change storedKey (clearPending w.stored record) ≠ some key at hchanged
      unfold clearPending at hchanged
      split at hchanged
      · rename_i hmatch
        obtain rfl : key = record.retryKey := Option.some.inj (hkey.symm.trans hmatch)
        exact Or.inl (h.confirmed call record hcall).2
      · exact absurd hkey hchanged
    · exact absurd hkey hchanged

/-! ### Refused calls -/

/-- A call that has ended sends nothing more. -/
lemma ended_step {call : ℕ} (h : w.calls call = .ended) (hunsent : ∀ e ∈ w.sent, e.1 ≠ call)
    (step : CreationStep) :
    (creationStep account w step).calls call = .ended ∧
      ∀ e ∈ (creationStep account w step).sent, e.1 ≠ call := by
  have hset : ∀ (w' : CreationWorld) (other : ℕ) (state : CreationCall), w'.calls call = .ended →
      other ≠ call → (w'.setCall other state).calls call = .ended := by
    intro w' other state hended hne
    exact (Function.update_of_ne hne.symm state w'.calls).trans hended
  have hother : ∀ other, w.calls other ≠ .ended → other ≠ call := by
    rintro other hne rfl
    exact hne h
  cases step with
  | prepare other input fresh =>
    simp only [creationStep]
    split
    · rename_i hidle
      have hne := hother other (by rw [hidle]; nofun)
      split
      · exact ⟨hset w other _ h hne, hunsent⟩
      · split
        · exact ⟨hset _ other _ h hne, hunsent⟩
        · exact ⟨hset _ other _ h hne, hunsent⟩
    · exact ⟨h, hunsent⟩
  | send other =>
    simp only [creationStep]
    split
    · rename_i record attempts hpending
      have hne := hother other (by rw [hpending]; nofun)
      split
      · refine ⟨hset _ other _ h hne, ?_⟩
        intro e he
        rcases mem_append.mp he with he | he
        · exact hunsent e he
        · rw [mem_singleton.mp he]
          exact hne
      · exact ⟨h, hunsent⟩
    · exact ⟨h, hunsent⟩
  | answer other answer =>
    simp only [creationStep]
    split
    · rename_i record attempts hpending
      have hne := hother other (by rw [hpending]; nofun)
      split
      · split
        · exact ⟨hset _ other _ h hne, hunsent⟩
        · exact ⟨hset _ other _ h hne, hunsent⟩
      · exact ⟨hset _ other _ h hne, hunsent⟩
    · exact ⟨h, hunsent⟩
  | clear other =>
    simp only [creationStep]
    split
    · rename_i record hconfirmed
      exact ⟨hset _ other _ h (hother other (by rw [hconfirmed]; nofun)), hunsent⟩
    · exact ⟨h, hunsent⟩

lemma ended_run {call : ℕ} (h : w.calls call = .ended) (hunsent : ∀ e ∈ w.sent, e.1 ≠ call)
    (steps : List CreationStep) :
    ∀ e ∈ (run (creationStep account) w steps).sent, e.1 ≠ call :=
  (invariant (creationStep account)
    (fun w => w.calls call = .ended ∧ ∀ e ∈ w.sent, e.1 ≠ call)
    (fun _ step hw => ended_step hw.1 hw.2 step) ⟨h, hunsent⟩ steps).2

/-- A call whose input is not that of the stored attempt sends nothing and changes nothing. -/
lemma RetrySound.refused (h : RetrySound w) {call : ℕ} {input : CreationInput} {fresh : String}
    {record : Json} (hidle : w.calls call = .idle) (hstored : w.stored = some (some record))
    (hdiffers : ¬SameAttempt record input) (more : List CreationStep) :
    (creationStep account w (.prepare call input fresh)).stored = w.stored ∧
      ∀ e ∈ (run (creationStep account) w (.prepare call input fresh :: more)).sent,
        e.1 ≠ call := by
  have hnone : getOrCreatePending account w.stored input fresh = none := by
    cases hprepared : getOrCreatePending account w.stored input fresh with
    | none => rfl
    | some prepared =>
      exact absurd ((getOrCreatePending_spec hprepared).2 record hstored) hdiffers
  have hstep : creationStep account w (.prepare call input fresh) = w.setCall call .ended := by
    simp only [creationStep, hidle, hnone]
  rw [run_cons, hstep]
  refine ⟨rfl, ended_run (Function.update_self call CreationCall.ended w.calls) ?_ more⟩
  rintro e he rfl
  exact (h.sent e he).2 hidle

/-- In every run whose new keys are new: a key is sent with one payload; a stored key goes once it was
acknowledged or by the one migration of a legacy record; and a call for another attempt than the
stored one sends nothing and leaves the store. -/
theorem creation_retried_under_one_key (account : RetryAccount) (stored : RetryEntry)
    {steps : List CreationStep} (hm : Meets (creationStep account) Unused (.start stored) steps) :
    (∀ e ∈ (run (creationStep account) (.start stored) steps).sent,
      ∀ e' ∈ (run (creationStep account) (.start stored) steps).sent,
        e.2.retryKey = e'.2.retryKey → e.2 = e'.2) ∧
    (run (creationStep account) (.start stored) steps).migrations ≤ 1 ∧
    (∀ step key, storedKey (run (creationStep account) (.start stored) steps).stored = some key →
      storedKey (run (creationStep account) (.start stored) (steps ++ [step])).stored ≠ some key →
      key ∈ (run (creationStep account) (.start stored) steps).acknowledged ∨
        ((run (creationStep account) (.start stored) steps).migrations = 0 ∧
          Migratable (run (creationStep account) (.start stored) steps).stored)) ∧
    ∀ call input fresh record more,
      (run (creationStep account) (.start stored) steps).calls call = .idle →
      (run (creationStep account) (.start stored) steps).stored = some (some record) →
      ¬SameAttempt record input →
        (run (creationStep account) (.start stored) (steps ++ [.prepare call input fresh])).stored =
          some (some record) ∧
        ∀ e ∈ (run (creationStep account) (.start stored)
          (steps ++ .prepare call input fresh :: more)).sent, e.1 ≠ call := by
  have h : RetrySound (run (creationStep account) (.start stored) steps) :=
    invariant_of_meets (creationStep account) RetrySound (fun _ _ hw hunused => hw.step hunused)
      (retrySound_start stored) hm
  refine ⟨?_, ?_, ?_, ?_⟩
  · intro e he e' he' hkey
    exact h.agree e.2 (h.sent e he).1 e'.2 (h.sent e' he').1 hkey
  · rcases h.migrations with hzero | ⟨hone, -⟩
    · omega
    · omega
  · intro step key hkey hchanged
    rw [run_append] at hchanged
    exact h.key_kept hkey hchanged
  · intro call input fresh record more hidle hstored hdiffers
    rw [run_append, run_append]
    obtain ⟨hkept, hunsent⟩ := h.refused hidle hstored hdiffers more
    exact ⟨hkept.trans hstored, hunsent⟩

end Laws

/-- Checks that pass. -/
@[reducible] def plainRetry : RetryPlatform := ⟨fun _ => true, fun _ _ => true⟩

attribute [local instance] plainRetry

def retryAccount : RetryAccount where
  origin := "https://borg.local:7091"
  trustIdentity := "sha256-trust"
  clientId := "11111111-1111-4111-8111-111111111111"
  repository := ⟨"local", "repo"⟩
  repositoryBinding := "digest"

/-- A creation whose first answer is lost. -/
def retrySteps : List CreationStep :=
  [.prepare 0 ⟨"cube", "repo", "starter"⟩ "22222222-2222-4222-8222-222222222222", .send 0, .send 0,
    .answer 0 (.created ⟨"local", "repo"⟩), .clear 0]

theorem creation_retried_once_lost :
    (run (creationStep retryAccount) (.start none) retrySteps).migrations ≤ 1 ∧
      ∀ e ∈ (run (creationStep retryAccount) (.start none) retrySteps).sent,
        ∀ e' ∈ (run (creationStep retryAccount) (.start none) retrySteps).sent,
          e.2.retryKey = e'.2.retryKey → e.2 = e'.2 := by
  have hm : Meets (creationStep retryAccount) Unused (.start none) retrySteps :=
    ⟨⟨by decide, nofun⟩, trivial, trivial, trivial, trivial, trivial⟩
  obtain ⟨hkeys, hmigrations, -⟩ := creation_retried_under_one_key retryAccount none hm
  exact ⟨hmigrations, hkeys⟩

end BorgClient.Cubes
