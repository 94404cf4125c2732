import BorgClient.Cursor.CursorFile
import BorgClient.Representative.ServerLog

/-!
# Reading the unread log

`readLog` of `remote-client.ts`: the request position, the first page, the digest pages, the
composition, and the writes of the unread watermark between them. Each call runs against a script
of the server's pages and of what fails.
-/

namespace BorgClient.Cursor
open Representative Runs List

def DIGEST_THRESHOLD : ℕ := 50
def DIGEST_FETCH_CAP : ℕ := 2000

/-- A decoded read-log response. -/
structure LogPage where
  entries : List LogEntry
  cursor : Option LocalServerCursor
  has_more : Bool
  behind_by : Option ℕ
deriving DecidableEq, Repr

/-- How a write of the watermark ends: done, refused before it takes effect, or thrown after it when
the lock file cannot be given back. -/
inductive Advance | done | refused | unreleased
deriving DecidableEq, Repr

/-- One request of the log, the guard after it, and the write of its cursor. -/
structure Answer where
  page : Option LogPage
  guard : Bool
  advance : Advance
deriving DecidableEq, Repr

inductive Since
  | uuid (id : Uuid)
  | timestamp (at_ : Instant)
  | malformed
deriving DecidableEq, Repr

structure ReadLogOpts where
  since : Option Since
  cursor : Option (Option LocalServerCursor)
  unreadOnly : Bool
deriving DecidableEq, Repr

/-- What a call meets: whether the authority and the first guard let it in, whether the cursor file
is readable, the pages that resolve `since`, the log requests, and whether the cube composes. A
request beyond the list fails. -/
structure Script where
  enters : Bool
  readable : Bool
  since : List (Option LogPage)
  first : Answer
  more : List Answer
  composes : Bool
deriving DecidableEq, Repr

structure ReadLogResult where
  entries : List LogEntry
  behind_by : Option ℕ
  has_more : Bool
  digest : Bool
  capped : ℕ
deriving DecidableEq, Repr

structure Call where
  opts : ReadLogOpts
  script : Script

/-! ### The position a read starts from -/

/-- The scan of one page: the resolved cursor, or the last position before the timestamp. -/
def scanEntries (since : Since) :
    List LogEntry → Option LocalServerCursor → Option LocalServerCursor ⊕ Option LocalServerCursor
  | [], before => .inr before
  | entry :: entries, before =>
    match since with
    | .uuid id => if entry.id = id then .inl (some entry.point) else scanEntries since entries before
    | .timestamp at_ =>
      if entry.created_at > at_ then .inl before else scanEntries since entries (some entry.point)
    | .malformed => scanEntries since entries before

/-- The pages from the start of the log until the position is found; `none` when it throws. -/
def resolvePages (since : Since) :
    List (Option LogPage) → Option LocalServerCursor → Option (Option LocalServerCursor)
  | [], _ => none
  | none :: _, _ => none
  | some page :: pages, before =>
    match scanEntries since page.entries before with
    | .inl found => some found
    | .inr before =>
      if !page.has_more || page.cursor.isNone then
        match since with
        | .uuid _ => none
        | _ => some before
      else resolvePages since pages before

def resolveLocalLogCursor (since : Since) (pages : List (Option LogPage)) :
    Option (Option LocalServerCursor) :=
  match since with
  | .malformed => none
  | since => resolvePages since pages none

/-- The cursor of the first request; `none` when it cannot be had. -/
def requestCursor (key : String) (call : Call) (cursors : CursorMap) :
    Option (Option LocalServerCursor) :=
  if call.opts.unreadOnly && !call.script.readable then none
  else
    match call.opts.since with
    | some since => resolveLocalLogCursor since call.script.since
    | none =>
      if call.opts.unreadOnly then some (cursors key) else some (call.opts.cursor.getD none)

/-! ### The call -/

/-- The write of a page's cursor, and whether the call goes on. -/
def recordPage (key : String) (cursors : CursorMap) (page : LogPage) (answer : Answer) :
    CursorMap × Bool :=
  match page.cursor with
  | none => (cursors, true)
  | some cursor =>
    if !answer.guard then (cursors, false)
    else
      match answer.advance with
      | .refused => (cursors, false)
      | .unreleased => (CursorOp.apply cursors (.advance key cursor), false)
      | .done => (CursorOp.apply cursors (.advance key cursor), true)

/-- The digest loop; `none` when it throws. -/
def drainDigest (key : String) : List Answer → CursorMap → LogPage → List LogEntry →
    CursorMap × Option (LogPage × List LogEntry)
  | answers, cursors, page, entries =>
    if page.has_more && entries.length < DIGEST_FETCH_CAP then
      if page.cursor.isNone || page.entries.isEmpty then (cursors, none)
      else
        match answers with
        | [] => (cursors, none)
        | answer :: answers =>
          match answer.page with
          | none => (cursors, none)
          | some next =>
            match recordPage key cursors next answer with
            | (cursors, false) => (cursors, none)
            | (cursors, true) => drainDigest key answers cursors next (entries ++ next.entries)
    else (cursors, some (page, entries))

def isDigest (opts : ReadLogOpts) (page : LogPage) : Bool :=
  opts.unreadOnly && opts.since.isNone &&
    decide (page.entries.length + page.behind_by.getD 0 > DIGEST_THRESHOLD)

def readLogResult (digest : Bool) (page : LogPage) (entries : List LogEntry) : ReadLogResult where
  entries := entries
  behind_by := page.behind_by
  has_more := page.has_more
  digest := digest
  capped := if digest && page.has_more then page.behind_by.getD 0 else 0

/-- The call: the cursors it leaves, and what it returns unless it throws. -/
def readLog (key : String) (cursors : CursorMap) (call : Call) :
    CursorMap × Option ReadLogResult :=
  if !call.script.enters ||
      call.opts.cursor.isSome && (call.opts.unreadOnly || call.opts.since.isSome) then
    (cursors, none)
  else
    match requestCursor key call cursors, call.script.first.page with
    | none, _ | some _, none => (cursors, none)
    | some _, some page =>
      match if call.opts.unreadOnly then recordPage key cursors page call.script.first
        else (cursors, true) with
      | (cursors, false) => (cursors, none)
      | (cursors, true) =>
        let digest := isDigest call.opts page
        match if digest then drainDigest key call.script.more cursors page page.entries
          else (cursors, some (page, page.entries)) with
        | (cursors, none) => (cursors, none)
        | (cursors, some (last, entries)) =>
          if call.script.composes then (cursors, some (readLogResult digest last entries))
          else (cursors, none)

/-! ### Runs of calls -/

/-- The cursor file, and every entry a call has returned. -/
structure UnreadWorld where
  cursors : CursorMap
  returned : List LogEntry

def readStep (key : String) (w : UnreadWorld) (call : Call) : UnreadWorld where
  cursors := (readLog key w.cursors call).1
  returned := w.returned ++ ((readLog key w.cursors call).2.map ReadLogResult.entries).getD []

/-- The position is after the cursor, if there is one. -/
def Beyond (cursor : Option LocalServerCursor) (p : LocalServerCursor) : Prop :=
  ∀ c, cursor = some c → c < p

/-- The server's contract for a page: it holds the entries after the request's cursor up to its
own. -/
def Contiguous (log : ServerLog) (cursor : Option LocalServerCursor) (page : LogPage) : Prop :=
  ∀ d, page.cursor = some d → ∀ e ∈ log.entries, Beyond cursor e.point → e.point ≤ d →
    e ∈ page.entries

/-- Every page answers the cursor of the page before. -/
def ContiguousFrom (log : ServerLog) : Option LocalServerCursor → List Answer → Prop
  | _, [] => True
  | cursor, answer :: answers => ∀ page, answer.page = some page →
      Contiguous log cursor page ∧ ContiguousFrom log page.cursor answers

def Honest (log : ServerLog) (key : String) (w : UnreadWorld) (call : Call) : Prop :=
  ∀ cursor, requestCursor key call w.cursors = some cursor →
    ContiguousFrom log cursor (call.script.first :: call.script.more)

/-! ### Failures after the watermark moved -/

/-- The write of the page's cursor and its guard succeed. -/
def Accepted (page : LogPage) (answer : Answer) : Prop :=
  page.cursor = none ∨ answer.guard = true ∧ answer.advance = .done

/-- The watermark has moved already, or the write of this page's cursor moves it. -/
def Moves (watermark : Option LocalServerCursor) (moved : Prop) (page : LogPage)
    (answer : Answer) : Prop :=
  moved ∨ ∃ d, page.cursor = some d ∧ answer.guard = true ∧ answer.advance ≠ .refused ∧
    Beyond watermark d

/-- Among the digest pages and the composition, something fails once the watermark has moved. -/
def DigestStumbles (watermark : Option LocalServerCursor) (composes : Bool) :
    List Answer → Prop → LogPage → ℕ → Prop
  | answers, moved, page, count =>
    if page.has_more = true ∧ count < DIGEST_FETCH_CAP then
      if page.cursor = none ∨ page.entries = [] then moved
      else
        match answers with
        | [] => moved
        | answer :: answers =>
          match answer.page with
          | none => moved
          | some next =>
            (¬ Accepted next answer ∧ Moves watermark moved next answer) ∨
            (Accepted next answer ∧ DigestStumbles watermark composes answers
              (Moves watermark moved next answer) next (count + next.entries.length))
    else composes = false ∧ moved

/-- An unread call that comes to its first page, and in which something fails once the watermark
has moved: a later request, an ill-formed page, the guard, the release of the lock, or the
composition. -/
def Stumbles (key : String) (cursors : CursorMap) (call : Call) : Prop :=
  call.opts.unreadOnly = true ∧ call.opts.cursor = none ∧ call.script.enters = true ∧
  (requestCursor key call cursors).isSome = true ∧
  ∃ page, call.script.first.page = some page ∧
    ((¬ Accepted page call.script.first ∧
        Moves (cursors key) False page call.script.first) ∨
      (Accepted page call.script.first ∧
        if isDigest call.opts page = true then
          DigestStumbles (cursors key) call.script.composes call.script.more
            (Moves (cursors key) False page call.script.first) page page.entries.length
        else call.script.composes = false ∧
          Moves (cursors key) False page call.script.first))

/-- An unread call does not start past the watermark, as one with a `since` can. -/
def StartsBehind (key : String) (w : UnreadWorld) (call : Call) : Prop :=
  call.opts.unreadOnly = true → ∀ cursor, requestCursor key call w.cursors = some cursor →
    NotBehind cursor (w.cursors key)

/-- The call throws only with the watermark as it was. -/
def Atomic (key : String) (cursors : CursorMap) (call : Call) : Prop :=
  (readLog key cursors call).2 = none → (readLog key cursors call).1 key = cursors key

/-- Every entry after the first watermark and up to the present one has been returned. -/
def Drained (log : ServerLog) (key : String) (first : Option LocalServerCursor)
    (w : UnreadWorld) : Prop :=
  ∀ e ∈ log.entries, Beyond first e.point → (∃ c, w.cursors key = some c ∧ e.point ≤ c) →
    e ∈ w.returned

end BorgClient.Cursor
