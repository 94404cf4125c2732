import BorgClient.Settings.HookPeek

/-!
# When a peek agrees with adding

A peek says the hook is registered exactly where adding it writes nothing, if and only if the
event's entries can be reached, and are settled where the hook is there.
-/

namespace BorgClient.Settings
open List GroupDedup

section Laws

variable [Installation]

/-- The event's entries as the functions that add hooks reach them: absent ones are empty. -/
def entriesAt (parsed : Option Json) (eventName : String) : Option (List Json) :=
  parsed.bind (fun file =>
    match eventOf file eventName with
    | some (_, _, .arr entries) => some entries
    | _ => none)

omit [Installation] in
lemma entriesAt_arr {file after hooks : Json} {eventName : String} {entries : List Json}
    (h : eventOf file eventName = some (after, hooks, .arr entries)) :
    entriesAt (some file) eventName = some entries := by
  unfold entriesAt
  rw [Option.bind_some, h]

omit [Installation] in
lemma entriesAt_none {file : Json} {eventName : String}
    (h : ∀ after hooks entries, eventOf file eventName ≠ some (after, hooks, .arr entries)) :
    entriesAt (some file) eventName = none := by
  unfold entriesAt
  rw [Option.bind_some]
  split
  · rename_i after hooks entries hevent
    exact absurd hevent (h after hooks entries)
  · rfl

/-! ### Reading the entries -/

omit [Installation] in
lemma nullish_field {value field : Json} {name : String} (h : value.field? name = some field)
    (hne : field ≠ .null) (fallback : Json) : nullish value name fallback = some (value, field) := by
  cases value with
  | obj fields =>
    change fields.lookup name = some field at h
    unfold nullish
    dsimp only
    rw [h]
    cases field <;> first | rfl | exact absurd rfl hne
  | _ => cases h

omit [Installation] in
/-- Without a field to read, what is assigned is the default. -/
lemma nullish_default {value after field fallback : Json} {name : String}
    (h : nullish value name fallback = some (after, field)) :
    value.field? name = some field ∨
      ((value.field? name = none ∨ value.field? name = some .null) ∧ field = fallback) := by
  unfold nullish at h
  split at h
  · rename_i fields
    change fields.lookup name = some field ∨
      ((fields.lookup name = none ∨ fields.lookup name = some .null) ∧ field = fallback)
    split at h
    · rename_i hl
      cases h
      exact .inr ⟨.inl hl, rfl⟩
    · rename_i hl
      cases h
      exact .inr ⟨.inr hl, rfl⟩
    · rename_i hl
      cases h
      exact .inl hl
  · cases h
    exact .inr ⟨.inl rfl, rfl⟩
  · cases h

omit [Installation] in
lemma entriesAt_of_readEntries {parsed : Option Json} {eventName : String} {entries : List Json}
    (h : readEntries parsed eventName = some entries) :
    entriesAt parsed eventName = some entries := by
  unfold readEntries at h
  split at h
  · rename_i items hread
    cases h
    obtain ⟨hooks, hhooks, hevent⟩ := Option.bind_eq_some_iff.mp hread
    obtain ⟨file, rfl, hfield⟩ := Option.bind_eq_some_iff.mp hhooks
    have hne : hooks ≠ .null := by
      rintro rfl
      cases hevent
    have hreach : eventOf file eventName = some (file, hooks, .arr entries) := by
      unfold eventOf
      rw [nullish_field hfield hne, Option.bind_some]
      dsimp only
      rw [nullish_field hevent (by rintro ⟨⟩)]
      rfl
    unfold entriesAt
    rw [Option.bind_some, hreach]
  · cases h

omit [Installation] in
lemma readEntries_array {file : Json} {eventName : String} {entries : List Json}
    (h : (file.field? "hooks").bind (·.field? eventName) = some (.arr entries)) :
    readEntries (some file) eventName = some entries := by
  unfold readEntries
  rw [Option.bind_some, h]

omit [Installation] in
lemma readEntries_none {file : Json} {eventName : String}
    (h : ∀ entries, (file.field? "hooks").bind (·.field? eventName) ≠ some (.arr entries)) :
    readEntries (some file) eventName = none := by
  unfold readEntries
  split
  · rename_i entries hread
    exact absurd hread (h entries)
  · rfl

omit [Installation] in
lemma readEntries_of_entriesAt {parsed : Option Json} {eventName : String} {entries : List Json}
    (h : entriesAt parsed eventName = some entries) :
    readEntries parsed eventName = some entries ∨
      (readEntries parsed eventName = none ∧ entries = []) := by
  unfold entriesAt at h
  obtain ⟨file, rfl, hmatch⟩ := Option.bind_eq_some_iff.mp h
  split at hmatch
  · rename_i after hooksAfter items hevent
    cases hmatch
    unfold eventOf at hevent
    obtain ⟨⟨file', hooks⟩, hfile, hmap⟩ := Option.bind_eq_some_iff.mp hevent
    obtain ⟨⟨hooks', event⟩, hhooks, heq⟩ := Option.map_eq_some_iff.mp hmap
    cases heq
    rcases nullish_default hfile with hf | ⟨hf, rfl⟩
    · have hbind : (file.field? "hooks").bind (·.field? eventName) = hooks.field? eventName := by
        rw [hf, Option.bind_some]
      rcases nullish_default hhooks with he | ⟨he | he, hd⟩
      · exact .inl (readEntries_array (hbind.trans he))
      · cases hd
        refine .inr ⟨readEntries_none (fun entries h => ?_), rfl⟩
        cases (hbind.trans he).symm.trans h
      · cases hd
        refine .inr ⟨readEntries_none (fun entries h => ?_), rfl⟩
        cases (hbind.trans he).symm.trans h
    · have hnone : (file.field? "hooks").bind (·.field? eventName) = none := by
        rcases hf with hf | hf <;> rw [hf] <;> rfl
      refine .inr ⟨readEntries_none (fun entries h => ?_), ?_⟩
      · cases hnone.symm.trans h
      rcases nullish_default hhooks with he | ⟨-, hd⟩
      · cases he
      · cases hd
        rfl
  · cases hmatch

/-! ### The hooks there -/

omit [Installation] in
lemma hasCanonicalCommandHook_iff (entries : List Json) (command : String) :
    hasCanonicalCommandHook entries command = true ↔
      ∃ hook ∈ entryView.all entries, commandOf hook = some command := by
  unfold hasCanonicalCommandHook
  rw [any_eq_true]
  constructor
  · rintro ⟨entry, hentry, h⟩
    obtain ⟨hooks, hhooks, h⟩ := (Option.any_eq_true _ _).mp h
    obtain ⟨hook, hhook, h⟩ := any_eq_true.mp h
    exact ⟨hook, mem_all.mpr ⟨entry, hentry, by rwa [hhooks]⟩, by simpa using h⟩
  · rintro ⟨hook, hhook, h⟩
    obtain ⟨entry, hentry, hmem⟩ := mem_all.mp hhook
    refine ⟨entry, hentry, ?_⟩
    cases hhooks : hooksOf entry with
    | none =>
      rw [hhooks] at hmem
      cases hmem
    | some hooks =>
      rw [hhooks] at hmem
      exact any_eq_true.mpr ⟨hook, hmem, by simpa using h⟩

lemma hasCommandHook_iff (entries : List Json) :
    hasCommandHook entries HOOK_COMMAND = true ↔
      ∃ hook ∈ entryView.all entries, ownedKey hook = some HOOK_COMMAND := by
  unfold hasCommandHook
  rw [any_eq_true]
  constructor
  · rintro ⟨entry, hentry, h⟩
    obtain ⟨hooks, hhooks, h⟩ := (Option.any_eq_true _ _).mp h
    obtain ⟨hook, hhook, h⟩ := any_eq_true.mp h
    rw [if_pos mem_cons_self] at h
    exact ⟨hook, mem_all.mpr ⟨entry, hentry, by rwa [hhooks]⟩, by simpa using h⟩
  · rintro ⟨hook, hhook, h⟩
    obtain ⟨entry, hentry, hmem⟩ := mem_all.mp hhook
    refine ⟨entry, hentry, ?_⟩
    cases hhooks : hooksOf entry with
    | none =>
      rw [hhooks] at hmem
      cases hmem
    | some hooks =>
      rw [hhooks] at hmem
      refine any_eq_true.mpr ⟨hook, hmem, ?_⟩
      rw [if_pos mem_cons_self]
      simpa using h

lemma hasCommandHook_of_settled {entries : List Json} (h : Settled entries) :
    hasCommandHook entries HOOK_COMMAND = hasCanonicalCommandHook entries HOOK_COMMAND := by
  rw [Bool.eq_iff_iff, hasCommandHook_iff, hasCanonicalCommandHook_iff]
  constructor
  · rintro ⟨hook, hhook, hkey⟩
    exact ⟨hook, hhook, (misspelled_iff hook).mp (h.spelled hook hhook) _ hkey⟩
  · rintro ⟨hook, hhook, hcommand⟩
    refine ⟨hook, hhook, ?_⟩
    unfold ownedKey
    rw [hcommand]
    rfl

omit [Installation] in
@[simp] lemma written_writes (file : Json) : (Added.written file).Writes := ⟨file, rfl⟩

omit [Installation] in
@[simp] lemma not_unchanged_writes : ¬ Added.unchanged.Writes := by
  rintro ⟨file, h⟩
  cases h

omit [Installation] in
@[simp] lemma not_thrown_writes : ¬ Added.thrown.Writes := by
  rintro ⟨file, h⟩
  cases h

/-! ### What is written -/

lemma changed_of_not_settled {entries : List Json} (h : ¬ Settled entries) :
    (migrateAndDedupOwnedHooks entries).2 = true := by
  rw [← Bool.not_eq_false, migrateAndDedup_changed_iff]
  exact h

/-- Nothing is written where the entries cannot be reached, and where they are settled and have
the hook. -/
lemma addCodexHook_writes (eventName command : String) (matcher : Option String)
    (timeout : Option ℕ) (parsed : Option Json) :
    (addCodexHook eventName command matcher timeout parsed).Writes ↔
      ∃ entries, entriesAt parsed eventName = some entries ∧
        ¬ (hasCanonicalCommandHook entries command = true ∧ Settled entries) := by
  unfold addCodexHook
  cases parsed with
  | none => simp [entriesAt]
  | some file =>
    dsimp only
    split
    · rename_i after hooks entries hevent
      rw [entriesAt_arr hevent]
      by_cases hs : Settled entries
      · rw [migrateAndDedup_of_settled hs]
        by_cases hc : hasCanonicalCommandHook entries command = true <;> simp [hc, hs]
      · have hchanged := changed_of_not_settled hs
        rw [hchanged]
        by_cases hc : hasCanonicalCommandHook (migrateAndDedupOwnedHooks entries).1 command = true <;>
          simp [hc, hs]
    · rename_i value hno hevent
      have hother : ∀ after hooks entries,
          eventOf file eventName ≠ some (after, hooks, .arr entries) := by
        intro after hooks entries h
        exact hno after hooks entries (Option.some.inj (hevent.symm.trans h))
      rw [entriesAt_none hother]
      simp
    · rename_i hevent
      rw [entriesAt_none (fun after hooks entries h => by rw [hevent] at h; cases h)]
      simp

lemma addUserPromptSubmitHook_writes (parsed : Option Json) :
    (addUserPromptSubmitHook parsed).Writes ↔
      ∃ entries, entriesAt parsed "UserPromptSubmit" = some entries ∧
        ¬ (hasCanonicalCommandHook entries AUDIT_HOOK_COMMAND = true ∧ Settled entries) := by
  unfold addUserPromptSubmitHook
  cases parsed with
  | none => simp [entriesAt]
  | some file =>
    dsimp only
    split
    · rename_i after hooks entries hevent
      rw [entriesAt_arr hevent]
      by_cases hs : Settled entries
      · rw [migrateAndDedup_of_settled hs]
        by_cases hc : hasCanonicalCommandHook entries AUDIT_HOOK_COMMAND = true <;> simp [hc, hs]
      · rw [changed_of_not_settled hs]
        by_cases hc : hasCanonicalCommandHook (migrateAndDedupOwnedHooks entries).1
          AUDIT_HOOK_COMMAND = true <;> simp [hc, hs]
    · rename_i hno
      rw [entriesAt_none hno]
      simp

/-- Where the entries are settled and have the hook they stay as they are. -/
lemma oriented_of_settled {entries : List Json} (hs : Settled entries)
    (hc : hasCanonicalCommandHook entries HOOK_COMMAND = true) :
    oriented entries = (entries, false) := by
  unfold oriented
  rw [migrateAndDedup_of_settled hs]
  dsimp only
  rw [hasCommandHook_of_settled hs, if_pos hc]

lemma oriented_changed {entries : List Json}
    (h : ¬ (hasCanonicalCommandHook entries HOOK_COMMAND = true ∧ Settled entries)) :
    (oriented entries).2 = true := by
  unfold oriented
  by_cases hs : Settled entries
  · rw [migrateAndDedup_of_settled hs]
    dsimp only
    rw [hasCommandHook_of_settled hs, if_neg (fun hc => h ⟨hc, hs⟩)]
  · dsimp only
    split
    · exact changed_of_not_settled hs
    · rfl

lemma addSessionStartHook_writes (parsed : Option Json) :
    (addSessionStartHook parsed).Writes ↔
      ∃ entries, entriesAt parsed "SessionStart" = some entries ∧
        ¬ (hasCanonicalCommandHook entries HOOK_COMMAND = true ∧ Settled entries) := by
  unfold addSessionStartHook addSessionStartHookAt
  cases parsed with
  | none => simp [entriesAt]
  | some file =>
    dsimp only
    split
    · rename_i after hooks entries hevent
      rw [entriesAt_arr hevent]
      by_cases h : hasCanonicalCommandHook entries HOOK_COMMAND = true ∧ Settled entries
      · rw [oriented_of_settled h.2 h.1]
        simp [h.1, h.2]
      · rw [oriented_changed h]
        simpa using h
    · rename_i hno
      rw [entriesAt_none hno]
      simp

/-- With the rewake entry nothing is written, besides, where an entry stops the function. -/
lemma addProjectSessionStartHook_writes (parsed : Option Json) :
    (addProjectSessionStartHook parsed).Writes ↔
      ∃ entries, entriesAt parsed "SessionStart" = some entries ∧
        normalizeClearRewakeHook (oriented entries).1 ≠ none ∧
        ¬ (hasCanonicalCommandHook entries HOOK_COMMAND = true ∧ Settled entries ∧
          normalizeClearRewakeHook entries = some none) := by
  unfold addProjectSessionStartHook addSessionStartHookAt
  cases parsed with
  | none => simp [entriesAt]
  | some file =>
    dsimp only
    split
    · rename_i after hooks entries hevent
      rw [entriesAt_arr hevent]
      rw [if_pos rfl]
      by_cases h : hasCanonicalCommandHook entries HOOK_COMMAND = true ∧ Settled entries
      · have hsame := oriented_of_settled h.2 h.1
        rw [hsame]
        dsimp only
        cases hn : normalizeClearRewakeHook entries with
        | none => simp [hn, hsame]
        | some normalized => cases normalized <;> simp [hn, hsame, h.1, h.2]
      · rw [oriented_changed h]
        cases hn : normalizeClearRewakeHook (oriented entries).1 with
        | none => simp [hn]
        | some normalized => cases normalized <;> simp [hn] <;> tauto
    · rename_i hno
      rw [entriesAt_none hno]
      simp

/-! ### Agreement -/

/-- What agreement takes: the entries can be reached, and are settled where they have the hook. -/
def PeekExact (eventName command : String) (parsed : Option Json) : Prop :=
  ∃ entries, entriesAt parsed eventName = some entries ∧
    (hasCanonicalCommandHook entries command = true → Settled entries)

omit [Installation] in
lemma peek_iff (eventName command : String) (parsed : Option Json) :
    (readEntries parsed eventName).any (hasCanonicalCommandHook · command) = true ↔
      ∃ entries, entriesAt parsed eventName = some entries ∧
        hasCanonicalCommandHook entries command = true := by
  constructor
  · intro h
    obtain ⟨entries, hread, hc⟩ := (Option.any_eq_true _ _).mp h
    exact ⟨entries, entriesAt_of_readEntries hread, hc⟩
  · rintro ⟨entries, hreach, hc⟩
    rcases readEntries_of_entriesAt hreach with hread | ⟨-, rfl⟩
    · rw [hread]
      exact hc
    · cases hc

lemma agree_iff {eventName command : String} {parsed : Option Json} {writes : Prop}
    (hwrites : writes ↔ ∃ entries, entriesAt parsed eventName = some entries ∧
      ¬ (hasCanonicalCommandHook entries command = true ∧ Settled entries)) :
    ((readEntries parsed eventName).any (hasCanonicalCommandHook · command) = true ↔ ¬ writes) ↔
      PeekExact eventName command parsed := by
  rw [peek_iff, hwrites]
  unfold PeekExact
  cases entriesAt parsed eventName with
  | none => simp
  | some entries => simp

/-- The entries can be reached; where the peek is true they are settled or an entry stops the
function that adds, and where it is not no entry does. -/
def ProjectPeekExact (parsed : Option Json) : Prop :=
  ∃ entries, entriesAt parsed "SessionStart" = some entries ∧
    (hasCanonicalCommandHook entries HOOK_COMMAND = true ∧
        normalizeClearRewakeHook entries = some none →
      Settled entries ∨ normalizeClearRewakeHook (oriented entries).1 = none) ∧
    (¬ (hasCanonicalCommandHook entries HOOK_COMMAND = true ∧
        normalizeClearRewakeHook entries = some none) →
      normalizeClearRewakeHook (oriented entries).1 ≠ none)

lemma projectPeek_iff (parsed : Option Json) :
    isProjectSessionStartHookRegistered parsed = some true ↔
      ∃ entries, entriesAt parsed "SessionStart" = some entries ∧
        hasCanonicalCommandHook entries HOOK_COMMAND = true ∧
        normalizeClearRewakeHook entries = some none := by
  unfold isProjectSessionStartHookRegistered sessionStartHookRegisteredAt
  constructor
  · intro h
    split at h
    · cases h
    · rename_i entries hread
      split at h
      · rename_i hc
        rw [if_pos rfl, Option.map_eq_some_iff] at h
        obtain ⟨normalized, hn, hnone⟩ := h
        rw [Option.isNone_iff_eq_none] at hnone
        subst hnone
        exact ⟨entries, entriesAt_of_readEntries hread, hc, hn⟩
      · cases h
  · rintro ⟨entries, hreach, hc, hn⟩
    rcases readEntries_of_entriesAt hreach with hread | ⟨-, rfl⟩
    · rw [hread]
      dsimp only
      rw [if_pos hc, if_pos rfl, hn]
      rfl
    · cases hc

end Laws

/-! ### A doubled hook -/

@[reducible] def packaged : Installation := ⟨"/opt/borg-mcp/dist"⟩

def doubledHook : Json :=
  .obj [("hooks", .obj [("SessionStart", .arr
    [.obj [("hooks", .arr [commandHook HOOK_COMMAND, commandHook HOOK_COMMAND])]])])]

end BorgClient.Settings
