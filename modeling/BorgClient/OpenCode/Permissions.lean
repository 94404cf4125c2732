import BorgClient.Lib.Glob

/-!
# Launch permissions of an OpenCode V2 session

`opencode-v2-permissions.ts`: ordered wildcard rules of which the last match decides, and the list a
launch writes back to the session. A text is the list of its UTF-16 code units, the unit `.` and `*`
work on.
-/

namespace BorgClient.OpenCode
open List

abbrev Text := List UInt16

/-- The code units of an ASCII literal of the source. -/
def units (text : String) : Text := text.toList.map (fun c => UInt16.ofNat c.toNat)

def star : UInt16 := 0x2a
def question : UInt16 := 0x3f
def slash : UInt16 := 0x2f
def backslash : UInt16 := 0x5c

/-- `.` matches every other code unit. -/
def isTerminator (u : UInt16) : Bool := u == 0x0a || u == 0x0d || u == 0x2028 || u == 0x2029

inductive Effect where
  | allow
  | deny
  | ask
deriving DecidableEq, Repr

structure OpenCodeV2Permission where
  action : Text
  resource : Text
  effect : Effect
deriving DecidableEq, Repr

/-! ### Matching -/

def symOf (u : UInt16) : Glob.Sym UInt16 :=
  if u = star then .star else if u = question then .one else .lit u

/-- `matches` of the source, case sensitive. -/
def patternMatches (pattern input : Text) : Bool :=
  Glob.accepts (fun u => !isTerminator u) (pattern.map symOf) input

def OpenCodeV2Permission.appliesTo (rule : OpenCodeV2Permission) (action resource : Text) : Bool :=
  patternMatches rule.action action && patternMatches rule.resource resource

def effectiveOpenCodeV2Permission (rules : List OpenCodeV2Permission) (action resource : Text) :
    Effect :=
  rules.foldl (fun result rule => if rule.appliesTo action resource then rule.effect else result) .ask

/-! ### Sets in insertion order -/

def addNew {β : Type*} [DecidableEq β] (values : List β) (value : β) : List β :=
  if value ∈ values then values else values ++ [value]

def setOf {β : Type*} [DecidableEq β] (values : List β) : List β := values.foldl addNew []

/-! ### Scoping a pattern to a directory -/

/-- One turn of the loop in `close`; the loop also visits the positions it adds. -/
def closeStep (pattern : Text) (positions : List ℕ) (turn : ℕ) : List ℕ :=
  match positions[turn]? with
  | some index => if pattern[index]? = some star then addNew positions (index + 1) else positions
  | none => positions

/-- A position is at most the pattern's length, so these turns reach the end of the set. -/
def close (pattern : Text) (positions : List ℕ) : List ℕ :=
  (range (pattern.length + 1)).foldl (closeStep pattern) positions

def advanceStep (pattern : Text) (u : UInt16) (next : List ℕ) (position : ℕ) : List ℕ :=
  match pattern[position]? with
  | some token =>
    if token = star then addNew next position
    else if token = question ∨ patternMatches [token] [u] then addNew next (position + 1)
    else next
  | none => next

def advance (pattern : Text) (u : UInt16) (positions : List ℕ) : List ℕ :=
  positions.foldl (advanceStep pattern u) []

def reached (pattern directory : Text) : List ℕ :=
  directory.foldl (fun positions u => close pattern (advance pattern u positions))
    (close pattern [0])

def scopeDirectoryPattern (pattern directory : Text) : List Text :=
  if pattern ≠ [] ∧ ∀ u ∈ pattern, u = star then [directory ++ [star]]
  else setOf ((reached pattern directory).map (fun position => directory ++ pattern.drop position))

/-! ### Tool names -/

def COORDINATION_NAMES : List String :=
  ["borg_regen", "borg_log", "borg_read_log", "borg_roster", "borg_ack", "borg_stream_status",
    "borg_whoami", "borg_cube", "borg_role", "borg_playbook", "borg_tool", "borg_describe_tool"]

def BORG_COORDINATION_TOOLS : List Text := COORDINATION_NAMES.map (fun name => (units name).drop 5)

/-- `[a-zA-Z0-9_-]`. -/
def isToolUnit (u : UInt16) : Bool :=
  (0x61 ≤ u && u ≤ 0x7a) || (0x41 ≤ u && u ≤ 0x5a) || (0x30 ≤ u && u ≤ 0x39) || u == 0x5f || u == 0x2d

def OPENCODE_V2_COORDINATION_TOOLS : List Text :=
  BORG_COORDINATION_TOOLS.map
    (fun name => (units "borg_borg_" ++ name).map (fun u => if isToolUnit u then u else 0x5f))

/-- Each old spelling of a tool with its canonical name. -/
def LEGACY_TOOL_ALIASES : List (String × String) :=
  [("borg_role-rationale", "borg_role_rationale"), ("borg_stream-status", "borg_stream_status"),
    ("borg_read-log", "borg_read_log"), ("borg_read-entry", "borg_read_entry"),
    ("borg_ack-status", "borg_ack_status"), ("borg_remove-decision", "borg_remove_decision"),
    ("borg_put-document", "borg_put_document"), ("borg_get-document", "borg_get_document"),
    ("borg_list-documents", "borg_list_documents"),
    ("borg_remove-document", "borg_remove_document"), ("borg_list-cubes", "borg_list_cubes"),
    ("borg_create-cube", "borg_create_cube"), ("borg_update-cube", "borg_update_cube"),
    ("borg_patch-taxonomy-class", "borg_patch_taxonomy_class"),
    ("borg_delete-cube", "borg_delete_cube"), ("borg_create-role", "borg_create_role"),
    ("borg_update-role", "borg_update_role"),
    ("borg_patch-role-section", "borg_patch_role_section"),
    ("borg_delete-role", "borg_delete_role"), ("borg_reassign-drone", "borg_reassign_drone"),
    ("borg_evict-drone", "borg_evict_drone"), ("borg_list-drones", "borg_list_drones"),
    ("borg_list-roles", "borg_list_roles"), ("borg_list-templates", "borg_list_templates"),
    ("borg_apply-template", "borg_apply_template"), ("borg_sync-roles", "borg_sync_roles"),
    ("borg_describe-tool", "borg_describe_tool"),
    ("borg_representative-status", "borg_representative_status"),
    ("borg_representative-send", "borg_representative_send"),
    ("borg_representative-read", "borg_representative_read"),
    ("borg_representative-deliver", "borg_representative_deliver"),
    ("borg_representative-ack", "borg_representative_ack")]

/-- The spellings an OpenCode policy may use. -/
def spellings (raw : String) : List Text := [units "borg_" ++ units raw, units raw]

def toolPolicySpellings (name : Text) : List Text :=
  match LEGACY_TOOL_ALIASES.findSome? (fun entry =>
      ((spellings entry.2).idxOf? name).bind (fun index => (spellings entry.1)[index]?)) with
  | some old => [name, old]
  | none => [name]

/-! ### Applying the launch permissions -/

def catchAll : Text := [star]
def externalDirectory : Text := units "external_directory"

inductive LaunchWarning where
  | wildcardDirectory
  | deniedDirectory
  | deniedExecute
  | restricted (tools : ℕ) (additions : List OpenCodeV2Permission)
  | applied (tools : ℕ)
deriving DecidableEq, Repr

inductive LaunchError where
  | migrationRequired
  | notCanonical
deriving DecidableEq, Repr

/-- What the launch asks of the tool-name migration check and of the file system. -/
structure LaunchHost where
  toolNamesMigrated : List OpenCodeV2Permission → Bool
  isCanonicalPath : Text → Bool

def restrictive (rules : List OpenCodeV2Permission) : List Text :=
  OPENCODE_V2_COORDINATION_TOOLS.filter
    (fun tool => effectiveOpenCodeV2Permission rules tool catchAll ≠ .allow)

def accessResource (pathname : Text) : Text :=
  let normalized := pathname.map (fun u => if u = backslash then slash else u)
  (if normalized.getLast? = some slash then normalized.dropLast else normalized) ++ [slash, star]

/-- A rule of its own, other than the catch-all, decides against the directory. -/
def explicitlyRestricted (rules : List OpenCodeV2Permission) (resource : Text) : Bool :=
  rules.any (fun rule => patternMatches rule.action externalDirectory && rule.resource ≠ catchAll &&
    patternMatches rule.resource resource && rule.effect ≠ .allow)

def accessDecision (rules : List OpenCodeV2Permission) (pathname : Text) :
    List LaunchWarning × List OpenCodeV2Permission :=
  if pathname.any (fun u => u = star ∨ u = question) then ([.wildcardDirectory], [])
  else
    let resource := accessResource pathname
    let decision := effectiveOpenCodeV2Permission rules externalDirectory resource
    (if decision = .deny then [.deniedDirectory] else [],
      if explicitlyRestricted rules resource = false ∧ decision = .ask then
        [⟨externalDirectory, resource, .allow⟩] else [])

def toolAllows (rules : List OpenCodeV2Permission) : List OpenCodeV2Permission :=
  ((restrictive rules).flatMap toolPolicySpellings).map (fun action => ⟨action, catchAll, .allow⟩)

def directoryRules (rules : List OpenCodeV2Permission) : List OpenCodeV2Permission :=
  (rules.filter (fun rule => patternMatches rule.action externalDirectory)).map
    (fun rule => { rule with action := externalDirectory })

/-- One past the index of the last catch-all rule. -/
def boundary (rules : List OpenCodeV2Permission) : ℕ :=
  rules.zipIdx.foldl (fun last entry => if entry.1.resource = catchAll then entry.2 + 1 else last) 0

def scopedRules (directory : Text) (entries : List OpenCodeV2Permission) : List OpenCodeV2Permission :=
  entries.flatMap (fun rule =>
    (scopeDirectoryPattern rule.resource directory).map (fun resource => { rule with resource }))

def grantAdditions (rules : List OpenCodeV2Permission) (grant : OpenCodeV2Permission) :
    List OpenCodeV2Permission :=
  let directory := grant.resource.dropLast
  scopedRules directory (rules.take (boundary rules)) ++ [grant] ++
    scopedRules directory (rules.drop (boundary rules))

/-- The map from a directory pattern to the index of its last rule. -/
def lastIndex (rules : List (OpenCodeV2Permission × ℕ)) (last : Text → Option ℕ) :
    Text → Option ℕ :=
  rules.foldl (fun last entry => if entry.1.action = externalDirectory then
    Function.update last entry.1.resource (some entry.2) else last) last

def dropShadowed (combined : List OpenCodeV2Permission) : List OpenCodeV2Permission :=
  let last := lastIndex combined.zipIdx (fun _ => none)
  (combined.zipIdx.filter (fun entry =>
    entry.1.action ≠ externalDirectory ∨ last entry.1.resource = some entry.2)).map Prod.fst

def accessGrants (rules : List OpenCodeV2Permission) (accessDirectories : List Text) :
    List OpenCodeV2Permission :=
  (setOf accessDirectories).flatMap (fun pathname => (accessDecision rules pathname).2)

/-- The warnings and, where the session is updated, its new permissions. `agent` and `session` are
the rules the server reports. -/
def applyOpenCodeV2LaunchPermissions (host : LaunchHost) (agent : List OpenCodeV2Permission)
    (session : Option (List OpenCodeV2Permission)) (skipOverride : Bool)
    (accessDirectories : List Text) :
    Except LaunchError (List LaunchWarning × Option (List OpenCodeV2Permission)) :=
  let rules := agent ++ session.getD []
  if host.toolNamesMigrated rules = false then .error .migrationRequired
  else if (setOf accessDirectories).any (fun pathname => !host.isCanonicalPath pathname) then
    .error .notCanonical
  else
    let access := accessGrants rules accessDirectories
    let tools := (restrictive rules).length
    let warnings :=
      (setOf accessDirectories).flatMap (fun pathname => (accessDecision rules pathname).1) ++
      (if effectiveOpenCodeV2Permission rules (units "execute") catchAll = .deny then
        [.deniedExecute] else []) ++
      (if tools ≠ 0 then [if skipOverride then .restricted tools (toolAllows rules)
        else .applied tools] else [])
    let permissions := if access ≠ [] then
        dropShadowed (session.getD [] ++ access.flatMap (grantAdditions (directoryRules rules)))
      else session.getD []
    .ok (warnings, if access ≠ [] ∨ (tools ≠ 0 ∧ skipOverride = false) then
      some (permissions ++ if skipOverride then [] else toolAllows rules) else none)

end BorgClient.OpenCode
