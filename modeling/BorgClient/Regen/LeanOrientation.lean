import BorgClient.Lib.Utf16

/-!
# The lean orientation

`fitLeanOrientation` of `regen-format.ts` with what it calls: the fixed instructions, one identity
line and the Monitor command within a budget of UTF-8 bytes.
-/

namespace BorgClient.Regen
open List Utf16

abbrev Text := List UInt16

def LEAN_ORIENTATION_BUDGET_BYTES : ℕ := 2048

def LEAN_IDENTITY_FIELD_MAX : ℕ := 48

def CLAUDE_MONITOR_COMMAND_POINTER : Text :=
  literal "**Monitor command:** in `borg_stream_status` (too long here)."

def newline : UInt16 := 0x0a

def marker : Text := literal "…"

/-- `Buffer.byteLength`. -/
def utf8Bytes (text : Text) : ℕ := byteLength text

/-! ### Cutting a field -/

/-- The loop over the code points: it stops at the first one without room. -/
def keptPoints (room : ℤ) : List Point → List Point
  | [] => []
  | point :: value =>
    if point.byteLength > room then [] else point :: keptPoints (room - point.byteLength) value

def truncateUtf8 (value : Text) (maxBytes : ℤ) : Text :=
  if utf8Bytes value ≤ maxBytes then value
  else
    let room := maxBytes - utf8Bytes marker
    if room < 0 then [] else unitsOf (keptPoints room (points value)) ++ marker

/-- The class `[\r\n\t]`. -/
def isBreak (u : UInt16) : Bool := u == 0x0d || u == 0x0a || u == 0x09

/-- A blank for each run of breaks. -/
def oneLine (inRun : Bool) : Text → Text
  | [] => []
  | u :: value =>
    if isBreak u then (if inRun then oneLine true value else 0x20 :: oneLine true value)
    else u :: oneLine false value

def boundLeanIdentityField (value : Text) : Text :=
  let chars := points (oneLine false value)
  if chars.length ≤ LEAN_IDENTITY_FIELD_MAX then oneLine false value
  else unitsOf (chars.take (LEAN_IDENTITY_FIELD_MAX - 1)) ++ marker

/-! ### Sharing the budget -/

/-- Each field's index and size, the smallest first; equal sizes keep their order. -/
def order (values : List Text) : List (ℕ × ℕ) :=
  (values.zipIdx.map (fun field => (field.2, utf8Bytes field.1))).insertionSort
    (fun a b => a.2 ≤ b.2)

/-- The value of a field at its turn. -/
def fitField (value : Text) (size : ℕ) (share : ℤ) : Text :=
  if size ≤ share then value else truncateUtf8 value share

/-- The loop over the fields. `order.length - position` counts the turns that are left. -/
def shareOut (values : List Text) : List (ℕ × ℕ) → List Text → ℤ → List Text
  | [], result, _ => result
  | (index, size) :: order, result, remaining =>
    let share := remaining / (order.length + 1 : ℕ)
    let value := fitField (values.getD index []) size share
    shareOut values order (result.set index value) (remaining - utf8Bytes value)

/-- Every place of the new array is written before it is returned. -/
def fitFieldsToBytes (values : List Text) (budget : ℤ) : List Text :=
  shareOut values (order values) (replicate values.length []) (max 0 budget)

/-! ### Assembling -/

/-- A field that is not there is rendered as `undefined`. -/
def rendered (fields : List Text) (index : ℕ) : Text :=
  fields[index]?.getD (literal "undefined")

def renderLeanIdentity (fields : List Text) : Text :=
  literal "**Cube:** " ++ rendered fields 0 ++ literal " — **Drone:** " ++ rendered fields 1 ++
    literal "\n**Your role:** " ++ rendered fields 2

def assemble (fixed : Text) (identity tail : Option Text) : Text :=
  [newline].intercalate (fixed :: (identity.toList ++ tail.toList)) ++ [newline]

/-- Only a Claude drone has a command. -/
def pointerFor (command : Option Text) : Option Text :=
  command.map (fun _ => CLAUDE_MONITOR_COMMAND_POINTER)

def skeleton (fixed : Text) (fields : List Text) (command : Option Text) : ℕ :=
  utf8Bytes (assemble fixed (some (renderLeanIdentity (fields.map (fun _ => []))))
    (pointerFor command))

/-- An identity with nothing left in a field is left out. -/
def identityOf (fitted : List Text) : Option Text :=
  if fitted.any (· == []) then none else some (renderLeanIdentity fitted)

def fitLeanOrientation (fixed : Text) (fields : List Text) (command : Option Text) :
    Except String Text :=
  let limit := LEAN_ORIENTATION_BUDGET_BYTES - 1
  let pointer := pointerFor command
  let fitted := fitFieldsToBytes fields (limit - skeleton fixed fields command)
  let identity := identityOf fitted
  let out := assemble fixed identity pointer
  let out := if command.isSome && utf8Bytes (assemble fixed identity command) ≤ limit then
    assemble fixed identity command else out
  let out := if utf8Bytes out > limit then assemble fixed none pointer else out
  if utf8Bytes out > limit then
    .error s!"lean orientation fixed text exceeds {LEAN_ORIENTATION_BUDGET_BYTES} bytes"
  else .ok out

end BorgClient.Regen
