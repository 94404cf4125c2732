import BorgClient.Lib.Json
import BorgClient.Lib.Utf8
import BorgClient.Monitor.EventLine

/-!
# The SSE event parser

`parseSSE` of `log-stream.ts`: the chunks of a response body, decoded and cut at blank lines into
frames, and `parseEventBlock` on each frame. The body ends without a read error, and the consumer
takes every event.
-/

namespace BorgClient.Stream
open List Utf8
open Monitor (trim)

def LOCAL_SERVER_SSE_FRAME_LIMIT_BYTES : ℕ := 64 * 1024

/-- `JSON.parse`, and the decoders of the protocol package; `none` where they throw. -/
class SseHost where
  parseJSON : List Char → Option Json
  decodeDocumentCitations : Json → Option Json
  /-- The `error.code` of the envelope. -/
  decodeProtocolErrorEnvelope : Json → Option String

inductive ParsedEvent
  | log (id : String) (data : Json) (wake_nonce : Option String) (cursor : Option Json)
  | heartbeat (ts : Option String) (hwm : Option BroadcastHwm)
  | bookmark (as_of : Option String)
  | eviction (id cube_id reason : Option String)
  | error (code : String)
  | unknown (raw : List Char)

/-! ### One block -/

structure BlockFields where
  eventName : Option String := none
  id : Option String := none
  dataLines : List (List Char) := []
deriving DecidableEq, Repr

/-- `line.slice(n).trim()` behind a prefix of length `n`. -/
def fieldValue (name : String) (line : List Char) : Option (List Char) :=
  if name.toList.isPrefixOf line then some (trim (line.drop name.toList.length)) else none

def readField (fields : BlockFields) (line : List Char) : BlockFields :=
  match fieldValue "event:" line with
  | some value => { fields with eventName := some (String.ofList value) }
  | none =>
    match fieldValue "id:" line with
    | some value => { fields with id := some (String.ofList value) }
    | none =>
      match fieldValue "data:" line with
      | some value => { fields with dataLines := fields.dataLines ++ [value] }
      | none => fields

def truthy (text : Option String) : Option String := text.filter (· != "")

def parseHeartbeatHwm (value : Option Json) : Option BroadcastHwm := do
  let candidate ← value
  let id ← truthy (candidate.string? "id")
  let created_at ← truthy (candidate.string? "created_at")
  return ⟨id, created_at⟩

/-- `parsed?.entry ?? parsed`. -/
def entryOf (parsed : Json) : Json :=
  match parsed.field? "entry" with
  | none => parsed
  | some .null => parsed
  | some entry => entry

/-- `{ ...entry, documents }` for an entry that has the field. -/
def withDocuments (entry documents : Json) : Json :=
  match entry with
  | .obj fields => .obj (fields.map (fun f => if f.1 = "documents" then (f.1, documents) else f))
  | other => other

def isCursor (cursor : Json) : Bool :=
  (cursor.string? "id").isSome && (cursor.string? "created_at").isSome

section Parser
variable [SseHost]

def parseLog (block : List Char) (id : String) (parsed : Json) : ParsedEvent :=
  let cursor := (parsed.field? "cursor").filter isCursor
  let entry := entryOf parsed
  let event (entry : Json) := ParsedEvent.log id entry (entry.string? "wake_nonce") cursor
  match entry.field? "documents" with
  | none => event entry
  | some documents =>
    match SseHost.decodeDocumentCitations documents with
    | none => .unknown block
    | some decoded => event (withDocuments entry decoded)

def parseEventBlock (block : List Char) : Option ParsedEvent :=
  let fields := (block.splitOn '\n').foldl readField {}
  let dataStr := ['\n'].intercalate fields.dataLines
  let parsed := SseHost.parseJSON dataStr
  let text (name : String) := parsed.bind (fun value => value.string? name)
  match truthy fields.eventName with
  | none => none
  | some "log" =>
    match truthy fields.id with
    | none => none
    | some id => parsed.map (parseLog block id)
  | some "heartbeat" =>
    some (.heartbeat (text "ts")
      (parsed.bind (fun value => parseHeartbeatHwm (value.field? "hwm"))))
  | some "bookmark" => some (.bookmark (text "as_of"))
  | some "eviction" => some (.eviction (truthy fields.id) (text "cube_id") (text "reason"))
  | some "error" =>
    match parsed.bind SseHost.decodeProtocolErrorEnvelope with
    | some code => some (.error code)
    | none => some (.unknown block)
  | some _ => some (.unknown block)

end Parser

/-! ### The frame buffer -/

/-- The retained part of a frame, within the limit where there is one. -/
structure FrameBuffer (maxFrameBytes : Option ℕ) where
  buffer : List Char
  bufferBytes : ℕ
  bytes_eq : bufferBytes = byteLength buffer
  le_max : ∀ limit ∈ maxFrameBytes, bufferBytes ≤ limit

namespace FrameBuffer
variable {maxFrameBytes : Option ℕ}

def empty : FrameBuffer maxFrameBytes := ⟨[], 0, rfl, fun _ _ => Nat.zero_le _⟩

/-- `none` when the frame exceeds the limit. -/
def appendFragment (b : FrameBuffer maxFrameBytes) (fragment : List Char) :
    Option (FrameBuffer maxFrameBytes) :=
  let nextBytes := b.bufferBytes + byteLength fragment
  if h : ∀ limit ∈ maxFrameBytes, nextBytes ≤ limit then
    some ⟨b.buffer ++ fragment, nextBytes, by simp [nextBytes, b.bytes_eq, byteLength], h⟩
  else none

/-- The text before the first blank line's two line feeds and the text after them. -/
def cutAtTerminator : List Char → Option (List Char × List Char)
  | [] => none
  | c :: rest =>
    if c = '\n' ∧ rest.head? = some '\n' then some ([], rest.tail)
    else (cutAtTerminator rest).map (fun cut => (c :: cut.1, cut.2))

lemma cutAtTerminator_length {text : List Char} {cut : List Char × List Char}
    (h : cutAtTerminator text = some cut) : cut.2.length < text.length := by
  induction text generalizing cut with
  | nil => cases h
  | cons c rest ih =>
    unfold cutAtTerminator at h
    split at h
    · cases h
      simp only [length_tail, length_cons]
      omega
    · obtain ⟨inner, hinner, rfl⟩ := Option.map_eq_some_iff.mp h
      have := ih hinner
      simp only [length_cons]
      omega

/-- The blocks given to `parseEventBlock` and the buffer left, `none` when a frame exceeded the
limit. -/
def drainText (b : FrameBuffer maxFrameBytes) :
    List Char → List (List Char) × Option (FrameBuffer maxFrameBytes)
  | [] => ([], some b)
  | c :: rest =>
    -- a terminator split across two chunks
    if b.buffer.getLast? = some '\n' ∧ c = '\n' then
      let after := drainText empty rest
      (b.buffer.dropLast :: after.1, after.2)
    else
      match _hcut : cutAtTerminator (c :: rest) with
      | none => ([], b.appendFragment (c :: rest))
      | some cut =>
        match b.appendFragment cut.1 with
        | none => ([], none)
        | some frame =>
          let after := drainText empty cut.2
          (frame.buffer :: after.1, after.2)
termination_by remaining => remaining.length
decreasing_by
  · simp
  · exact cutAtTerminator_length _hcut

end FrameBuffer

/-! ### The reader loop -/

/-- What a run gave to `parseEventBlock`, and whether it reached the end of the body. -/
structure ParseRun where
  blocks : List (List Char)
  completed : Bool
deriving DecidableEq, Repr

section Loop
variable {maxFrameBytes : Option ℕ}

/-- The chunks read until the body is done: the blocks so far, and the decoder and the buffer left,
`none` when a frame exceeded the limit. -/
def readLoop (decoder : Decoder) (b : FrameBuffer maxFrameBytes) :
    List (List UInt8) → List (List Char) × Option (Decoder × FrameBuffer maxFrameBytes)
  | [] => ([], some (decoder, b))
  | value :: chunks =>
    let text := decode decoder value
    match b.drainText text.2 with
    | (blocks, none) => (blocks, none)
    | (blocks, some b) =>
      let after := readLoop text.1 b chunks
      (blocks ++ after.1, after.2)

/-- `done`: the decoder's rest, and the frame without a terminator. -/
def readEnd (blocks : List (List Char)) (decoder : Decoder) (b : FrameBuffer maxFrameBytes) :
    ParseRun :=
  match b.drainText (flush decoder) with
  | (more, none) => ⟨blocks ++ more, false⟩
  | (more, some b) =>
    ⟨blocks ++ more ++ (if trim b.buffer = [] then [] else [b.buffer]), true⟩

end Loop

def parseBlocks (maxFrameBytes : Option ℕ) (chunks : List (List UInt8)) : ParseRun :=
  match readLoop {} (FrameBuffer.empty : FrameBuffer maxFrameBytes) chunks with
  | (blocks, none) => ⟨blocks, false⟩
  | (blocks, some (decoder, b)) => readEnd blocks decoder b

/-- The events a run yields. -/
def parseSSE [SseHost] (maxFrameBytes : Option ℕ) (chunks : List (List UInt8)) :
    List ParsedEvent :=
  (parseBlocks maxFrameBytes chunks).blocks.filterMap parseEventBlock

/-- The run throws: a frame exceeded the limit. -/
def hitsFrameLimit (maxFrameBytes : Option ℕ) (chunks : List (List UInt8)) : Bool :=
  !(parseBlocks maxFrameBytes chunks).completed

end BorgClient.Stream
