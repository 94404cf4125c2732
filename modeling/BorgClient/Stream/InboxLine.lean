import BorgClient.Representative.Db

/-!
# Inbox lines

The line a log entry becomes in a drone's inbox file, the file's capped append, and the check
whether the file already holds an entry (`log-stream.ts`).
-/

namespace BorgClient.Stream
open Representative (LocalServerCursor Uuid)
open List

abbrev BroadcastHwm := LocalServerCursor

/-- What the session takes from outside: `new Date(s).toISOString()`, `none` where it throws, and
the shared order on broadcast positions. -/
class StreamText where
  toISOString : String → Option String
  compareBroadcastHwm : BroadcastHwm → BroadcastHwm → Int

structure DocumentCitation where
  id : Uuid
  title : String
  state : String
  size_bytes : ℕ
deriving DecidableEq, Repr

/-- The members of a log event's `data`; a member of the wrong type is absent. -/
structure EnrichedEntry where
  id : Option String := none
  entry_id : Option String := none
  created_at : Option String := none
  drone_id : Option Uuid := none
  drone_label : Option String := none
  role_name : Option String := none
  message : Option String := none
  documents : List DocumentCitation := []
  kind : Option String := none
  author_drone_id : Option Uuid := none
  visibility : Option String := none
  recipient_drone_ids : Option (List Uuid) := none
deriving DecidableEq, Repr

/-! ### Formatting -/

/-- First argument that is a non-empty string, else `""`. -/
def firstNonEmptyString (candidates : List (Option String)) : String :=
  ((candidates.filterMap id).find? (· != "")).getD ""

def withSseEventId (entry : EnrichedEntry) (eventId : String) : EnrichedEntry :=
  if entry.id.any (· != "") then entry else { entry with id := some eventId }

/-- `/\r\n|\r|\n/g` replaced by ` ⏎ `. -/
def joinLines : List Char → List Char
  | [] => []
  | '\r' :: '\n' :: rest => ' ' :: '⏎' :: ' ' :: joinLines rest
  | '\r' :: rest => ' ' :: '⏎' :: ' ' :: joinLines rest
  | '\n' :: rest => ' ' :: '⏎' :: ' ' :: joinLines rest
  | c :: rest => c :: joinLines rest

def formatDocumentCitation (citation : DocumentCitation) : String :=
  citation.id ++ " (" ++ citation.state ++ ", " ++ toString citation.size_bytes ++
    " UTF-8 bytes): " ++ citation.title

/-- `none` where the entry's instant is none. -/
def formatInboxLine [StreamText] (now : String) (entry : EnrichedEntry) : Option String :=
  let ts := match entry.created_at with
    | some created_at => StreamText.toISOString created_at
    | none => some now
  let entryId := firstNonEmptyString [entry.id, entry.entry_id]
  let idPrefix := if entryId = "" then "" else "[entry_id: " ++ entryId ++ "] "
  let citations := entry.documents.map formatDocumentCitation
  let rawMessage := entry.message.getD ""
  let withDocuments :=
    if citations.length > 0 then rawMessage ++ "\nDocuments: " ++ "; ".intercalate citations
    else rawMessage
  ts.map (fun ts => ts ++ " " ++ entry.drone_label.getD "?" ++ " (" ++ entry.role_name.getD "?" ++
    "): " ++ idPrefix ++ String.ofList (joinLines withDocuments.toList))

def EVICTED_RESULT_MARKER : String := "[CUBE-EVICTED]"

def formatEvictionSentinelLine (now : String) (reason : Option String) : String :=
  let detail := match reason with
    | some reason => if reason.trimAscii.isEmpty then "evicted from cube" else reason
    | none => "evicted from cube"
  now ++ " SYSTEM (eviction): " ++ EVICTED_RESULT_MARKER ++ " " ++ detail ++
    " — confirm with any borg_* call; on typed DRONE_EVICTED, stop this session without " ++
    "retrying or restarting the loop."

/-! ### The file -/

def INBOX_TAIL_LINES_CAP : ℕ := 512

/-- `split(/\r?\n/)`. -/
def splitLines : List Char → List (List Char)
  | [] => [[]]
  | '\r' :: '\n' :: rest => [] :: splitLines rest
  | '\n' :: rest => [] :: splitLines rest
  | c :: rest =>
    match splitLines rest with
    | [] => [[c]]
    | line :: lines => (c :: line) :: lines

/-- Past `trimThresholdLines` lines only the last `maxLines` are kept. -/
def trimInboxFileToRecentLines (maxLines trimThresholdLines : ℕ) (raw : List Char) : List Char :=
  let lines := splitLines raw
  let lines := if lines.getLast? = some [] then lines.dropLast else lines
  if lines.length ≤ trimThresholdLines then raw
  else ((lines.drop (lines.length - maxLines)).map (· ++ ['\n'])).flatten

def appendCappedInboxLine (raw : List Char) (line : String) : List Char :=
  trimInboxFileToRecentLines INBOX_TAIL_LINES_CAP (INBOX_TAIL_LINES_CAP * 2)
    (raw ++ line.toList ++ ['\n'])

/-- The text without the first occurrence of the pattern. -/
def removeFirst (pattern : List Char) : List Char → List Char
  | [] => []
  | c :: rest =>
    if pattern.isPrefixOf (c :: rest) then (c :: rest).drop pattern.length
    else c :: removeFirst pattern rest

/-- The line as it was written before lines carried the entry id. -/
def legacyForm (entryId renderedLine : String) : List Char :=
  if entryId = "" then renderedLine.toList
  else removeFirst ("[entry_id: " ++ entryId ++ "] ").toList renderedLine.toList

/-- Whether the text occurs, at any position. -/
def includesText (raw text : List Char) : Bool := raw.tails.any (fun rest => text.isPrefixOf rest)

/-- The file has the id's marker somewhere, or the legacy rendering as a line. -/
def inboxRawHasEntry (raw : List Char) (entryId renderedLine : String) : Bool :=
  (entryId != "" && includesText raw ("[entry_id: " ++ entryId ++ "]").toList) ||
    ((legacyForm entryId renderedLine) != [] &&
      (splitLines raw).contains (legacyForm entryId renderedLine))

end BorgClient.Stream
