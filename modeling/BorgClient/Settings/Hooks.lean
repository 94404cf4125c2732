import BorgClient.Lib.GroupDedup
import BorgClient.Lib.Json

/-!
# Borg's own hooks in an agent's settings

A hook event has a list of entries, each with a list of hooks. Of the hooks that run one of Borg's
commands, in any spelling, one is kept for each command, under the command's name
(`config-utils.ts`).
-/

namespace BorgClient.Settings
open List GroupDedup

def HOOK_COMMAND : String := "borg-regen"

def CLEAR_REWAKE_HOOK_COMMAND : String := "borg-clear-rewake"

def AUDIT_HOOK_COMMAND : String := "borg-log-audit"

def FOREIGN_PATH_REMINDER_HOOK_COMMAND : String := "borg-foreign-path-reminder"

def BARE_BORG_REGEN : String := "borg-regen"

def BARE_CLEAR_REWAKE : String := "borg-clear-rewake"

def BARE_LOG_AUDIT : String := "borg-log-audit"

def BARE_FOREIGN_PATH_REMINDER : String := "borg-foreign-path-reminder"

/-- The directory of this installation's programs. -/
class Installation where
  DIST_DIR : String

variable [Installation]

def resolveSelfBinPath (binName : String) : String := Installation.DIST_DIR ++ "/" ++ binName

def resolveRegenPath : String := resolveSelfBinPath "regen.js"

def resolveClearRewakePath : String := resolveSelfBinPath "clear-rewake.js"

def resolveLogAuditPath : String := resolveSelfBinPath "log-audit.js"

def resolveForeignPathReminderPath : String := resolveSelfBinPath "foreign-path-reminder.js"

/-- Without one quote at the start and one at the end. -/
def stripQuotes (command : String) : String :=
  let text := command.toList
  let text := if text.head? = some '\'' then text.tail else text
  let text := if text.getLast? = some '\'' then text.dropLast else text
  String.ofList text

/-- The last segment of a path that ends in `borgmcp/dist/<name>` or `borg-mcp/dist/<name>`. -/
def packageShaped (stripped : String) : Option String :=
  match (stripped.toList.splitOn '/').reverse with
  | name :: dist :: package :: _ =>
    let package := String.ofList package
    if (package = "borgmcp" ∨ package = "borg-mcp") ∧ String.ofList dist = "dist"
    then some (String.ofList name) else none
  | _ => none

/-- The command a spelling of it stands for: the bare name, this installation's path, or another
installation's, each also in quotes. -/
def ownedCanonical (command : String) : Option String :=
  let stripped := stripQuotes command
  if stripped = BARE_BORG_REGEN then some HOOK_COMMAND
  else if stripped = BARE_CLEAR_REWAKE then some CLEAR_REWAKE_HOOK_COMMAND
  else if stripped = BARE_LOG_AUDIT then some AUDIT_HOOK_COMMAND
  else if stripped = BARE_FOREIGN_PATH_REMINDER then some FOREIGN_PATH_REMINDER_HOOK_COMMAND
  else if command = HOOK_COMMAND ∨ stripped = resolveRegenPath then some HOOK_COMMAND
  else if command = CLEAR_REWAKE_HOOK_COMMAND ∨ stripped = resolveClearRewakePath then
    some CLEAR_REWAKE_HOOK_COMMAND
  else if command = AUDIT_HOOK_COMMAND ∨ stripped = resolveLogAuditPath then
    some AUDIT_HOOK_COMMAND
  else if command = FOREIGN_PATH_REMINDER_HOOK_COMMAND ∨
      stripped = resolveForeignPathReminderPath then
    some FOREIGN_PATH_REMINDER_HOOK_COMMAND
  else if stripped.toList.head? = some '/' then
    match packageShaped stripped with
    | some name =>
      if name = "regen.js" then some HOOK_COMMAND
      else if name = "clear-rewake.js" then some CLEAR_REWAKE_HOOK_COMMAND
      else if name = "log-audit.js" then some AUDIT_HOOK_COMMAND
      else if name = "foreign-path-reminder.js" then some FOREIGN_PATH_REMINDER_HOOK_COMMAND
      else none
    | none => none
  else none

/-! ### Entries and hooks -/

/-- The command of a hook that runs one. -/
def commandOf (hook : Json) : Option String :=
  if hook.string? "type" = some "command" then hook.string? "command" else none

/-- The hooks of an entry that has a list of them. -/
def hooksOf (entry : Json) : Option (List Json) :=
  match entry.field? "hooks" with
  | some (.arr hooks) => some hooks
  | _ => none

def entryView : View Json Json where
  items := hooksOf
  put entry hooks := entry.withField "hooks" (.arr hooks)
  items_put := by
    intro entry before after h
    cases entry with
    | obj fields =>
      unfold hooksOf
      rw [Json.field?_withField, if_pos rfl]
    | _ => cases h
  put_items := by
    intro entry before h
    unfold hooksOf at h
    split at h
    · cases h
      exact Json.withField_self ‹_›
    · cases h
  put_put := fun entry first second => entry.withField_withField _ _ _

def ownedKey (hook : Json) : Option String := (commandOf hook).bind ownedCanonical

def migrateHook (hook : Json) : Json :=
  match commandOf hook with
  | some command =>
    match ownedCanonical command with
    | some canonical =>
      if command ≠ canonical then hook.withField "command" (.str canonical) else hook
    | none => hook
  | none => hook

/-- The hook runs one of the commands under another spelling. -/
def misspelled (hook : Json) : Bool :=
  match commandOf hook with
  | some command => (ownedCanonical command).any (· != command)
  | none => false

def migrateEntry (entry : Json) : Json :=
  match hooksOf entry with
  | some hooks => entryView.put entry (hooks.map migrateHook)
  | none => entry

/-- The entries with their hooks under the commands' names, one for each command, and whether
anything changed. -/
def migrateAndDedupOwnedHooks (entries : List Json) : List Json × Bool :=
  let migrated := entries.map migrateEntry
  let migratedAny := (entryView.all entries).any misspelled
  let deduped := dedupGroups entryView ownedKey [] migrated
  (dropEmptied deduped, migratedAny || deduped.any (·.shorter) || deduped.any (·.emptied))

end BorgClient.Settings
