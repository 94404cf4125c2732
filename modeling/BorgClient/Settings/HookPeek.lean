import BorgClient.Settings.HooksNormal

/-!
# Peeking at a hook, and adding it

The predicates that say a hook is registered look only for the hook itself. The functions that add
it also migrate and deduplicate the event's owned hooks, so the two agree on settled entries
(`config-utils.ts`).
-/

namespace BorgClient.Settings
open List GroupDedup

variable [Installation]

/-! ### The settings file -/

/-- What adding a hook to a file comes to. `unchanged` is returned as `false`, and a file that is
not written is left as it was where the function throws. -/
inductive Added
  | written (file : Json)
  | unchanged
  | thrown

def Added.Writes (added : Added) : Prop := ∃ file, added = .written file

/-- `value.name ??= fallback`: the value after it and the field's value. Nothing can be assigned
to `null` and to a primitive; what is assigned to an array is not written with it. -/
def nullish (value : Json) (name : String) (fallback : Json) : Option (Json × Json) :=
  match value with
  | .obj fields =>
    match fields.lookup name with
    | none => some ((Json.obj fields).withField name fallback, fallback)
    | some .null => some ((Json.obj fields).withField name fallback, fallback)
    | some field => some (.obj fields, field)
  | .arr items => some (.arr items, fallback)
  | _ => none

/-- The file and its hooks with the event's value in them, and that value. -/
def eventOf (file : Json) (eventName : String) : Option (Json × Json × Json) :=
  (nullish file "hooks" (.obj [])).bind (fun (file, hooks) =>
    (nullish hooks eventName (.arr [])).map (fun (hooks, event) => (file, hooks, event)))

def withEntries (file hooks : Json) (eventName : String) (entries : List Json) : Json :=
  file.withField "hooks" (hooks.withField eventName (.arr entries))

/-- The hook is there, in its current spelling. -/
def hasCanonicalCommandHook (entries : List Json) (command : String) : Bool :=
  entries.any (fun entry => (hooksOf entry).any
    (fun hooks => hooks.any (fun hook => commandOf hook == some command)))

/-- The hook is there, for an owned command in any spelling. -/
def hasCommandHook (entries : List Json) (command : String) : Bool :=
  entries.any (fun entry => (hooksOf entry).any (fun hooks => hooks.any (fun hook =>
    if command ∈ [HOOK_COMMAND, CLEAR_REWAKE_HOOK_COMMAND, AUDIT_HOOK_COMMAND,
        FOREIGN_PATH_REMINDER_HOOK_COMMAND] then ownedKey hook == some command
    else commandOf hook == some command)))

def commandHook (command : String) : Json :=
  .obj [("type", .str "command"), ("command", .str command)]

/-! ### The rewake hook -/

def shellEscape (s : String) : String :=
  "'" ++ String.ofList (s.toList.flatMap (fun c => if c = '\'' then "'\\''".toList else [c])) ++ "'"

def commandMatches (entryCommand bareName absolutePath : String) : Bool :=
  entryCommand == shellEscape absolutePath || entryCommand == absolutePath ||
    entryCommand == bareName ||
    (entryCommand.toList.head? == some '/' &&
      ("/" ++ bareName).toList.isSuffixOf entryCommand.toList)

def isClearRewakeCommand (hook : Json) : Bool :=
  (commandOf hook).any (fun command =>
    commandMatches command BARE_CLEAR_REWAKE resolveClearRewakePath)

/-- `none` where the entry's one hook is `null`, whose members are read. -/
def isCanonicalClearRewakeEntry (entry : Json) : Option Bool :=
  if entry.string? "matcher" = some "clear" then
    match hooksOf entry with
    | some [.null] => none
    | some [hook] =>
      some (hook.string? "command" == some CLEAR_REWAKE_HOOK_COMMAND &&
        ((hook.field? "asyncRewake").bind Json.asBool == some true))
    | _ => some false
  else some false

/-- Whether some entry is the canonical one, up to the first that is; `none` where one before it
cannot be read. -/
def someCanonicalEntry : List Json → Option Bool
  | [] => some false
  | entry :: rest =>
    match isCanonicalClearRewakeEntry entry with
    | none => none
    | some true => some true
    | some false => someCanonicalEntry rest

def rewakeSpelling (hook : Json) : Json :=
  if isClearRewakeCommand hook ∧ commandOf hook ≠ some CLEAR_REWAKE_HOOK_COMMAND then
    hook.withField "command" (.str CLEAR_REWAKE_HOOK_COMMAND)
  else hook

/-- The entries with one rewake entry, `none` where they have it; the outer `none` where an entry
cannot be read. -/
def normalizeClearRewakeHook (entries : List Json) : Option (Option (List Json)) :=
  let migrated := (entryView.all entries).any (fun hook =>
    isClearRewakeCommand hook && commandOf hook != some CLEAR_REWAKE_HOOK_COMMAND)
  let result := entries.map (fun entry =>
    match hooksOf entry with
    | none => entry
    | some hooks => entryView.put entry (hooks.map rewakeSpelling))
  let commandCount := (entryView.all result).countP isClearRewakeCommand
  let withoutOwnedCommand := result.filterMap (fun entry =>
    match hooksOf entry with
    | none => some entry
    | some hooks =>
      let hooks := hooks.filter (fun hook => !isClearRewakeCommand hook)
      if hooks.length > 0 then some (entryView.put entry hooks) else none)
  let rebuilt := withoutOwnedCommand ++ [.obj [("matcher", .str "clear"), ("hooks", .arr
    [.obj [("type", .str "command"), ("command", .str CLEAR_REWAKE_HOOK_COMMAND),
      ("asyncRewake", .bool true)]])]]
  if commandCount = 1 then
    (someCanonicalEntry result).map (fun found =>
      if found then if migrated then some result else none else some rebuilt)
  else some (some rebuilt)

/-! ### Adding a hook -/

/-- The event's entries with the hook, and whether that changed them. -/
def oriented (entries : List Json) : List Json × Bool :=
  let (entries, changed) := migrateAndDedupOwnedHooks entries
  if hasCommandHook entries HOOK_COMMAND then (entries, changed)
  else (entries ++ [.obj [("matcher", .str "*"), ("hooks", .arr [commandHook HOOK_COMMAND])]], true)

/-- `parsed` is the file's value, `{}` for a missing or blank file, `none` where it is no JSON. -/
def addSessionStartHookAt (includeClearRewake : Bool) (parsed : Option Json) : Added :=
  match parsed with
  | none => .unchanged
  | some settings =>
    match eventOf settings "SessionStart" with
    | some (settings, hooks, .arr entries) =>
      let (entries, changed) := oriented entries
      if includeClearRewake then
        match normalizeClearRewakeHook entries with
        | none => .thrown
        | some (some normalized) =>
          .written (withEntries settings hooks "SessionStart" normalized)
        | some none =>
          if changed then .written (withEntries settings hooks "SessionStart" entries)
          else .unchanged
      else if changed then .written (withEntries settings hooks "SessionStart" entries)
      else .unchanged
    | _ => .thrown

def addSessionStartHook (parsed : Option Json) : Added := addSessionStartHookAt false parsed

def addProjectSessionStartHook (parsed : Option Json) : Added := addSessionStartHookAt true parsed

def addUserPromptSubmitHook (parsed : Option Json) : Added :=
  match parsed with
  | none => .unchanged
  | some settings =>
    match eventOf settings "UserPromptSubmit" with
    | some (settings, hooks, .arr entries) =>
      let (entries, changed) := migrateAndDedupOwnedHooks entries
      if hasCanonicalCommandHook entries AUDIT_HOOK_COMMAND then
        if changed then .written (withEntries settings hooks "UserPromptSubmit" entries)
        else .unchanged
      else .written (withEntries settings hooks "UserPromptSubmit" (entries ++
        [.obj [("matcher", .str "*"), ("hooks", .arr [commandHook AUDIT_HOOK_COMMAND])]]))
    | _ => .thrown

def addCodexHook (eventName command : String) (matcher : Option String) (timeout : Option ℕ)
    (parsed : Option Json) : Added :=
  match parsed with
  | none => .unchanged
  | some hooksFile =>
    match eventOf hooksFile eventName with
    | some (hooksFile, hooks, .arr entries) =>
      let (entries, changed) := migrateAndDedupOwnedHooks entries
      if hasCanonicalCommandHook entries command then
        if changed then .written (withEntries hooksFile hooks eventName entries) else .unchanged
      else
        let hook := match timeout with
          | some timeout => (commandHook command).withField "timeout" (.num timeout)
          | none => commandHook command
        let entry := Json.obj ([("hooks", .arr [hook])] ++ Json.entry "matcher" .str matcher)
        .written (withEntries hooksFile hooks eventName (entries ++ [entry]))
    | some _ => .unchanged
    | none => .thrown

def addCodexSessionStartHook (parsed : Option Json) : Added :=
  addCodexHook "SessionStart" HOOK_COMMAND (some "startup|resume") (some 30) parsed

def addCodexUserPromptSubmitHook (parsed : Option Json) : Added :=
  addCodexHook "UserPromptSubmit" AUDIT_HOOK_COMMAND none (some 10) parsed

/-! ### Peeking -/

/-- The event's entries, as they are read without a default. -/
def readEntries (parsed : Option Json) (eventName : String) : Option (List Json) :=
  match (parsed.bind (·.field? "hooks")).bind (·.field? eventName) with
  | some (.arr entries) => some entries
  | _ => none

/-- `none` where the rewake entries cannot be read. -/
def sessionStartHookRegisteredAt (includeClearRewake : Bool) (parsed : Option Json) : Option Bool :=
  match readEntries parsed "SessionStart" with
  | none => some false
  | some entries =>
    if hasCanonicalCommandHook entries HOOK_COMMAND then
      if includeClearRewake then (normalizeClearRewakeHook entries).map Option.isNone else some true
    else some false

def isSessionStartHookRegistered (parsed : Option Json) : Bool :=
  (readEntries parsed "SessionStart").any (hasCanonicalCommandHook · HOOK_COMMAND)

def isProjectSessionStartHookRegistered (parsed : Option Json) : Option Bool :=
  sessionStartHookRegisteredAt true parsed

def isUserPromptSubmitHookRegistered (parsed : Option Json) : Bool :=
  (readEntries parsed "UserPromptSubmit").any (hasCanonicalCommandHook · AUDIT_HOOK_COMMAND)

def isCodexHookRegistered (eventName command : String) (parsed : Option Json) : Bool :=
  (readEntries parsed eventName).any (hasCanonicalCommandHook · command)

def isCodexSessionStartHookRegistered (parsed : Option Json) : Bool :=
  isCodexHookRegistered "SessionStart" HOOK_COMMAND parsed

def isCodexUserPromptSubmitHookRegistered (parsed : Option Json) : Bool :=
  isCodexHookRegistered "UserPromptSubmit" AUDIT_HOOK_COMMAND parsed

end BorgClient.Settings
