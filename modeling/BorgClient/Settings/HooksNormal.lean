import BorgClient.Settings.Hooks

/-!
# Owned hooks in normal form

What the migration of owned hooks keeps, and that it has nothing to do on its own result.
-/

namespace BorgClient.Settings
open List GroupDedup

variable [Installation]

/-! ### One hook -/

omit [Installation] in
lemma ite_some {p : Prop} [Decidable p] {a c : String} {rest : Option String}
    (h : (if p then some a else rest) = some c) : c = a ∨ rest = some c := by
  split at h
  · exact .inl (Option.some.inj h).symm
  · exact .inr h

/-- The name a spelling stands for stands for itself. -/
lemma ownedCanonical_canonical {command canonical : String}
    (h : ownedCanonical command = some canonical) : ownedCanonical canonical = some canonical := by
  have hregen : ownedCanonical HOOK_COMMAND = some HOOK_COMMAND := rfl
  have hrewake : ownedCanonical CLEAR_REWAKE_HOOK_COMMAND = some CLEAR_REWAKE_HOOK_COMMAND := rfl
  have haudit : ownedCanonical AUDIT_HOOK_COMMAND = some AUDIT_HOOK_COMMAND := rfl
  have hforeign : ownedCanonical FOREIGN_PATH_REMINDER_HOOK_COMMAND =
    some FOREIGN_PATH_REMINDER_HOOK_COMMAND := rfl
  unfold ownedCanonical at h
  dsimp only at h
  rcases ite_some h with rfl | h
  · exact hregen
  rcases ite_some h with rfl | h
  · exact hrewake
  rcases ite_some h with rfl | h
  · exact haudit
  rcases ite_some h with rfl | h
  · exact hforeign
  rcases ite_some h with rfl | h
  · exact hregen
  rcases ite_some h with rfl | h
  · exact hrewake
  rcases ite_some h with rfl | h
  · exact haudit
  rcases ite_some h with rfl | h
  · exact hforeign
  split at h
  · split at h
    · rcases ite_some h with rfl | h
      · exact hregen
      rcases ite_some h with rfl | h
      · exact hrewake
      rcases ite_some h with rfl | h
      · exact haudit
      rcases ite_some h with rfl | h
      · exact hforeign
      cases h
    · cases h
  · cases h

omit [Installation] in
lemma commandOf_withField {hook : Json} {command : String} (h : commandOf hook = some command)
    (canonical : String) :
    commandOf (hook.withField "command" (.str canonical)) = some canonical := by
  cases hook with
  | obj fields =>
    have htype : (Json.obj fields).string? "type" = some "command" := by
      unfold commandOf at h
      split at h
      · assumption
      · cases h
    have htype' : ((Json.obj fields).withField "command" (.str canonical)).string? "type" =
        some "command" := by
      unfold Json.string? at htype ⊢
      rw [Json.field?_withField, if_neg (by decide)]
      exact htype
    unfold commandOf
    rw [if_pos htype']
    unfold Json.string?
    rw [Json.field?_withField, if_pos rfl]
  | _ => cases h

lemma migrateHook_owned {hook : Json} {canonical : String} (h : ownedKey hook = some canonical) :
    commandOf (migrateHook hook) = some canonical := by
  unfold ownedKey at h
  obtain ⟨command, hcommand, howned⟩ := Option.bind_eq_some_iff.mp h
  unfold migrateHook
  rw [hcommand]
  dsimp only
  rw [howned]
  dsimp only
  split
  · exact commandOf_withField hcommand canonical
  · rename_i hne
    rw [hcommand, not_not.mp hne]

lemma migrateHook_unowned {hook : Json} (h : ownedKey hook = none) : migrateHook hook = hook := by
  unfold ownedKey at h
  unfold migrateHook
  cases hcommand : commandOf hook with
  | none => rfl
  | some command =>
    rw [hcommand, Option.bind_some] at h
    dsimp only
    rw [h]

@[simp] lemma ownedKey_migrateHook (hook : Json) : ownedKey (migrateHook hook) = ownedKey hook := by
  cases h : ownedKey hook with
  | none => rw [migrateHook_unowned h, h]
  | some canonical =>
    obtain ⟨command, -, howned⟩ := Option.bind_eq_some_iff.mp h
    unfold ownedKey
    rw [migrateHook_owned h, Option.bind_some, ownedCanonical_canonical howned]

/-- A hook is misspelled where its command is not the name it stands for. -/
lemma misspelled_iff (hook : Json) : misspelled hook = false ↔
    ∀ canonical, ownedKey hook = some canonical → commandOf hook = some canonical := by
  unfold misspelled ownedKey
  cases commandOf hook with
  | none => simp
  | some command =>
    cases ho : ownedCanonical command with
    | none => simp [ho]
    | some canonical =>
      rw [Option.bind_some]
      dsimp only
      rw [ho, Option.any_some, bne_eq_false_iff_eq]
      constructor
      · rintro rfl c hc
        rw [Option.some.inj hc]
      · intro h
        exact (Option.some.inj (h canonical rfl)).symm

lemma misspelled_migrateHook (hook : Json) : misspelled (migrateHook hook) = false := by
  rw [misspelled_iff]
  intro canonical h
  rw [ownedKey_migrateHook] at h
  exact migrateHook_owned h

lemma migrateHook_of_spelled {hook : Json} (h : misspelled hook = false) :
    migrateHook hook = hook := by
  cases hkey : ownedKey hook with
  | none => exact migrateHook_unowned hkey
  | some canonical =>
    have hcommand := (misspelled_iff hook).mp h canonical hkey
    have howned : ownedCanonical canonical = some canonical := by
      unfold ownedKey at hkey
      rwa [hcommand, Option.bind_some] at hkey
    unfold migrateHook
    rw [hcommand]
    dsimp only
    rw [howned]
    dsimp only
    rw [if_neg (not_not.mpr rfl)]

/-! ### The entries -/

lemma hooksOf_migrateEntry (entry : Json) :
    hooksOf (migrateEntry entry) = (hooksOf entry).map (·.map migrateHook) := by
  unfold migrateEntry
  cases h : hooksOf entry with
  | none => exact h
  | some hooks => exact entryView.items_put entry hooks _ h

lemma migrateEntry_of_spelled {entry : Json}
    (h : ∀ hook ∈ (hooksOf entry).getD [], misspelled hook = false) :
    migrateEntry entry = entry := by
  unfold migrateEntry
  cases he : hooksOf entry with
  | none => rfl
  | some hooks =>
    rw [he, Option.getD_some] at h
    have hsame : hooks.map migrateHook = hooks :=
      (map_congr_left (fun hook hhook => migrateHook_of_spelled (h hook hhook))).trans (map_id' _)
    dsimp only
    rw [hsame]
    exact entryView.put_items entry hooks he

lemma all_migrateEntry (entries : List Json) :
    entryView.all (entries.map migrateEntry) = (entryView.all entries).map migrateHook := by
  unfold View.all
  rw [flatMap_map, map_flatMap]
  congr 1
  funext entry
  change (hooksOf (migrateEntry entry)).getD [] = map migrateHook ((hooksOf entry).getD [])
  rw [hooksOf_migrateEntry]
  cases hooksOf entry <;> rfl

omit [Installation] in
lemma mem_all {entries : List Json} {hook : Json} : hook ∈ entryView.all entries ↔
    ∃ entry ∈ entries, hook ∈ (hooksOf entry).getD [] := by
  unfold View.all
  exact mem_flatMap

lemma unowned_migrateHooks (hooks : List Json) :
    (hooks.map migrateHook).filter (fun hook => (ownedKey hook).isNone) =
      hooks.filter (fun hook => (ownedKey hook).isNone) := by
  induction hooks with
  | nil => rfl
  | cons hook hooks ih =>
    rw [map_cons, filter_cons, filter_cons, ih, ownedKey_migrateHook]
    split
    · rename_i h
      rw [migrateHook_unowned (Option.isNone_iff_eq_none.mp h)]
    · rfl

lemma ownedKeys_migrateHooks (hooks : List Json) :
    (hooks.map migrateHook).filterMap ownedKey = hooks.filterMap ownedKey := by
  rw [filterMap_map]
  exact filterMap_congr (fun hook _ => ownedKey_migrateHook hook)

/-- The entry with only its hooks that are not Borg's. -/
def foreignPart (entry : Json) : Json := entryView.unkeyed ownedKey entry

/-- The entry has hooks, and all of them are Borg's. -/
def ownedOnly (entry : Json) : Bool := entryView.keyedOnly ownedKey entry

/-- No hook of the entry is Borg's. -/
def foreignOnly (entry : Json) : Bool :=
  ((hooksOf entry).getD []).all (fun hook => (ownedKey hook).isNone)

lemma foreignPart_migrateEntry (entry : Json) :
    foreignPart (migrateEntry entry) = foreignPart entry := by
  unfold migrateEntry
  split
  · rename_i hooks h
    exact unkeyed_put h (unowned_migrateHooks hooks)
  · rfl

lemma ownedOnly_migrateEntry (entry : Json) :
    ownedOnly (migrateEntry entry) = ownedOnly entry := by
  unfold migrateEntry
  split
  · rename_i hooks h
    have hput : entryView.items (entryView.put entry (hooks.map migrateHook)) = _ :=
      entryView.items_put entry hooks _ h
    rw [Bool.eq_iff_iff]
    unfold ownedOnly
    rw [keyedOnly_some hput, keyedOnly_some h, unowned_migrateHooks, ne_eq, map_eq_nil_iff]
  · rfl

lemma migrateEntry_of_foreignOnly {entry : Json} (h : foreignOnly entry = true) :
    migrateEntry entry = entry := by
  refine migrateEntry_of_spelled (fun hook hhook => ?_)
  have hnone := Option.isNone_iff_eq_none.mp (all_eq_true.mp h hook hhook)
  rw [misspelled_iff, hnone]
  intro canonical hc
  cases hc

lemma foreignOnly_migrateEntry (entry : Json) :
    foreignOnly (migrateEntry entry) = foreignOnly entry := by
  unfold foreignOnly
  rw [hooksOf_migrateEntry]
  cases hooksOf entry with
  | none => rfl
  | some hooks => simp [all_map, Function.comp_def]

lemma filter_foreignOnly_migrate (entries : List Json) :
    (entries.map migrateEntry).filter foreignOnly = entries.filter foreignOnly := by
  induction entries with
  | nil => rfl
  | cons entry entries ih =>
    rw [map_cons, filter_cons, filter_cons, ih, foreignOnly_migrateEntry]
    split
    · rename_i h
      rw [migrateEntry_of_foreignOnly h]
    · rfl

/-! ### The result -/

/-- Every owned hook runs its command under the command's name, and no command is run twice. -/
structure Settled (entries : List Json) : Prop where
  spelled : ∀ hook ∈ entryView.all entries, misspelled hook = false
  once : ((entryView.all entries).filterMap ownedKey).Nodup

lemma all_result (entries : List Json) :
    entryView.all (migrateAndDedupOwnedHooks entries).1 =
      (dedup ownedKey [] ((entryView.all entries).map migrateHook)).1 := by
  unfold migrateAndDedupOwnedHooks
  dsimp only
  rw [all_dropEmptied, all_migrateEntry]

lemma settled_result (entries : List Json) : Settled (migrateAndDedupOwnedHooks entries).1 := by
  refine ⟨fun hook hhook => ?_, ?_⟩
  · rw [all_result] at hhook
    obtain ⟨before, -, rfl⟩ := mem_map.mp ((dedup_sublist _ _).subset hhook)
    exact misspelled_migrateHook before
  · rw [all_result]
    exact dedup_nodup [] _

/-- Settled entries stay as they are. -/
lemma migrateAndDedup_of_settled {entries : List Json} (h : Settled entries) :
    migrateAndDedupOwnedHooks entries = (entries, false) := by
  have hsame : entries.map migrateEntry = entries := by
    refine (map_congr_left (fun entry hentry => ?_)).trans (map_id' _)
    exact migrateEntry_of_spelled
      (fun hook hhook => h.spelled hook (mem_all.mpr ⟨entry, hentry, hhook⟩))
  have hself : dedupGroups entryView ownedKey [] entries =
      entries.map (fun entry => ⟨entry, false, false⟩) := by
    apply dedupGroups_eq_self
    rw [dedup_eq_self_iff]
    exact ⟨h.once, by simp⟩
  have hspelled : (entryView.all entries).any misspelled = false := by
    rw [any_eq_false]
    exact fun hook hhook => by simp [h.spelled hook hhook]
  unfold migrateAndDedupOwnedHooks
  dsimp only
  rw [hsame, hself, hspelled]
  unfold dropEmptied
  rw [filter_map, map_map, any_map, any_map]
  simp [Function.comp_def]

/-- A change is reported exactly where the entries were not settled. -/
lemma migrateAndDedup_changed_iff (entries : List Json) :
    (migrateAndDedupOwnedHooks entries).2 = false ↔ Settled entries := by
  constructor
  · intro h
    unfold migrateAndDedupOwnedHooks at h
    dsimp only at h
    rw [Bool.or_eq_false_iff, Bool.or_eq_false_iff, any_eq_false, any_eq_false] at h
    obtain ⟨⟨hspelled, hshorter⟩, -⟩ := h
    have honce := ((not_shorter_iff [] (entries.map migrateEntry)).mp
      (fun d hd => by simpa using hshorter d hd)).1
    rw [all_migrateEntry, ownedKeys_migrateHooks] at honce
    exact ⟨fun hook hhook => by simpa using hspelled hook hhook, honce⟩
  · intro h
    rw [migrateAndDedup_of_settled h]

lemma map_filter_migrate {p : Json → Bool} (hp : ∀ entry, p (migrateEntry entry) = p entry)
    (entries : List Json) :
    ((entries.map migrateEntry).filter p).map foreignPart =
      (entries.filter p).map foreignPart := by
  rw [filter_map, map_map]
  have hpc : p ∘ migrateEntry = p := funext hp
  rw [hpc]
  exact map_congr_left (fun entry _ => foreignPart_migrateEntry entry)

/-- For every list of entries: each command that had a hook is left exactly one, under the
command's name; the hooks that are not Borg's are the same, in order and in place, and so are the
entries, but for those that had only Borg's hooks and lost them all to earlier ones; a second run
changes nothing. -/
theorem migrateAndDedupOwnedHooks_normalises (entries : List Json) :
    (∀ command, ((entryView.all (migrateAndDedupOwnedHooks entries).1).filterMap ownedKey).count
        command = if command ∈ (entryView.all entries).filterMap ownedKey then 1 else 0) ∧
    (∀ hook ∈ entryView.all (migrateAndDedupOwnedHooks entries).1, ∀ command,
      ownedKey hook = some command → commandOf hook = some command) ∧
    (entryView.all (migrateAndDedupOwnedHooks entries).1).filter
        (fun hook => (ownedKey hook).isNone) =
      (entryView.all entries).filter (fun hook => (ownedKey hook).isNone) ∧
    (migrateAndDedupOwnedHooks entries).1.map foreignPart <+ entries.map foreignPart ∧
    ((migrateAndDedupOwnedHooks entries).1.filter (!ownedOnly ·)).map foreignPart =
      (entries.filter (!ownedOnly ·)).map foreignPart ∧
    entries.filter foreignOnly <+ (migrateAndDedupOwnedHooks entries).1 ∧
    migrateAndDedupOwnedHooks (migrateAndDedupOwnedHooks entries).1 =
      ((migrateAndDedupOwnedHooks entries).1, false) := by
  have hsettled := settled_result entries
  refine ⟨fun command => ?_, fun hook hhook => ?_, ?_, ?_, ?_, ?_, ?_⟩
  · have hkeys : command ∈ (entryView.all (migrateAndDedupOwnedHooks entries).1).filterMap
        ownedKey ↔ command ∈ (entryView.all entries).filterMap ownedKey := by
      rw [all_result, mem_dedup_keys, ownedKeys_migrateHooks]
      simp
    split
    · rename_i h
      exact count_eq_one_of_mem hsettled.once (hkeys.mpr h)
    · rename_i h
      exact count_eq_zero.mpr (fun hc => h (hkeys.mp hc))
  · exact (misspelled_iff hook).mp (hsettled.spelled hook hhook)
  · rw [all_result, dedup_unkeyed, unowned_migrateHooks]
  · have hparts : (entries.map migrateEntry).map foreignPart = entries.map foreignPart := by
      rw [map_map]
      exact map_congr_left (fun entry _ => foreignPart_migrateEntry entry)
    have hsub : (migrateAndDedupOwnedHooks entries).1.map foreignPart <+
        (entries.map migrateEntry).map foreignPart := unkeyed_sublist [] _
    rwa [hparts] at hsub
  · rw [← map_filter_migrate (fun entry => by rw [ownedOnly_migrateEntry]) entries]
    exact unkeyed_groups [] (entries.map migrateEntry)
  · rw [← filter_foreignOnly_migrate]
    have hsub : (entries.map migrateEntry).filter (fun entry =>
        ((entryView.items entry).getD []).all (fun hook => (ownedKey hook).isNone)) <+
          dropEmptied (dedupGroups entryView ownedKey [] (entries.map migrateEntry)) :=
      unkeyed_groups_sublist [] _
    exact hsub
  · exact migrateAndDedup_of_settled hsettled

end BorgClient.Settings
