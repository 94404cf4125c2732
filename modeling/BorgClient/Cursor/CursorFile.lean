import BorgClient.Lib.Exclusion
import BorgClient.Lib.Runs
import BorgClient.Representative.Delivery

/-!
# The cursor file

`local-server-cursor.ts`: the keys of the cursors, the read-compare-write of one update, and the
lock file around it, as the file-system steps of any number of calls.
-/

namespace BorgClient.Cursor
open Representative Platform Runs Exclusion

/-! ### Keys and cursors -/

/-- The URL and date parsers the file's checks use. -/
class CursorText where
  /-- `new URL(origin).origin === origin`. -/
  isOrigin : String → Bool
  /-- `Date.parse` accepts the instant and `toISOString` gives it back. -/
  isCanonicalInstant : String → Bool

def isHex (c : Char) : Bool := c.isDigit || ('a' ≤ c && c ≤ 'f') || ('A' ≤ c && c ≤ 'F')

/-- `UUID_RE`. -/
def matchesUuid (value : String) : Bool :=
  let parts := value.toList.splitOn '-'
  parts.map List.length == [8, 4, 4, 4, 12] && parts.all (·.all isHex)

structure LocalServerCursorBinding where
  origin : String
  trustIdentity : String
  cubeId : String
  droneId : String
  /-- `'stream'`, or absent for the unread watermark. -/
  purpose : Option String
deriving DecidableEq, Repr

/-- The messages of the file's errors. -/
inductive CursorError
  | invalidBinding
  | invalidCursor
  | corrupt
  | busy
  /-- A file operation or the caller's guard threw. -/
  | threw
deriving DecidableEq, Repr

variable [Platform] [CursorText]

def cursorKey (binding : LocalServerCursorBinding) : Except CursorError String :=
  if !CursorText.isOrigin binding.origin || !matchesUuid binding.cubeId ||
      !matchesUuid binding.droneId then .error .invalidBinding
  else .ok (sha256 ([binding.origin, binding.trustIdentity, binding.cubeId, binding.droneId] ++
    match binding.purpose with
    | none => []
    | some "" => []
    | some purpose => [purpose]))

def validCursor (cursor : LocalServerCursor) : Bool :=
  matchesUuid cursor.id && CursorText.isCanonicalInstant cursor.created_at

/-! ### The file -/

abbrev CursorMap := String → Option LocalServerCursor

/-- What `readState` finds: no file, a state it refuses, or the cursors. -/
inductive CursorState
  | missing
  | corrupt
  | state (cursors : CursorMap)

def readState : CursorState → Except CursorError CursorMap
  | .missing => .ok (fun _ => none)
  | .corrupt => .error .corrupt
  | .state cursors => .ok cursors

/-- The cursors a reader of the file is given. -/
def CursorState.cursors (file : CursorState) : CursorMap :=
  match readState file with
  | .ok cursors => cursors
  | .error _ => fun _ => none

inductive CursorOp
  | advance (key : String) (cursor : LocalServerCursor)
  | clear (key : String)
deriving DecidableEq, Repr

def CursorOp.key : CursorOp → String
  | .advance key _ => key
  | .clear key => key

/-- The state an operation writes, `none` when it writes nothing. -/
def CursorOp.next (op : CursorOp) (cursors : CursorMap) : Option CursorMap :=
  match op with
  | .advance key cursor =>
    match cursors key with
    | some prior =>
      if prior.created_at > cursor.created_at ||
          (prior.created_at == cursor.created_at && prior.id ≥ cursor.id) then none
      else some (Function.update cursors key (some cursor))
    | none => some (Function.update cursors key (some cursor))
  | .clear key =>
    if (cursors key).isNone then none else some (Function.update cursors key none)

/-- An update carried out whole on the given cursors. -/
def CursorOp.apply (cursors : CursorMap) (op : CursorOp) : CursorMap :=
  (op.next cursors).getD cursors

/-- `advanceLocalServerCursor`, up to its lock. -/
def advanceLocalServerCursor (binding : LocalServerCursorBinding) (cursor : LocalServerCursor) :
    Except CursorError CursorOp :=
  if !validCursor cursor then .error .invalidCursor
  else (cursorKey binding).map (fun key => .advance key cursor)

/-- `clearLocalServerCursor`, up to its lock. -/
def clearLocalServerCursor (binding : LocalServerCursorBinding) : Except CursorError CursorOp :=
  (cursorKey binding).map .clear

omit [Platform] [CursorText] in
/-- An update leaves every other key as it is. -/
lemma CursorOp.apply_other (op : CursorOp) (cursors : CursorMap) {key : String}
    (h : op.key ≠ key) : op.apply cursors key = cursors key := by
  unfold CursorOp.apply CursorOp.next
  cases op with
  | advance k cursor =>
    have hne : key ≠ k := fun he => h he.symm
    dsimp only
    split
    · split <;> simp [hne]
    · simp [hne]
  | clear k =>
    have hne : key ≠ k := fun he => h he.symm
    dsimp only
    split <;> simp [hne]

omit [Platform] [CursorText] in
/-- Only a clear of its key moves a cursor back. -/
lemma CursorOp.apply_notBehind (op : CursorOp) (cursors : CursorMap) {key : String}
    (h : op ≠ .clear key) : NotBehind (cursors key) (op.apply cursors key) := by
  by_cases hk : op.key = key
  · cases op with
    | clear k =>
      obtain rfl : k = key := hk
      exact absurd rfl h
    | advance k cursor =>
      obtain rfl : k = key := hk
      intro prior hprior
      unfold CursorOp.apply CursorOp.next
      simp only [hprior]
      split
      · exact ⟨prior, hprior, le_rfl⟩
      · rename_i hlater
        refine ⟨cursor, by simp, ?_⟩
        rw [← not_lt, cursor_lt_iff]
        simp only [Bool.or_eq_true, Bool.and_eq_true, decide_eq_true_eq, beq_iff_eq, not_or,
          not_and, not_le, not_lt] at hlater
        rintro (hlt | ⟨heq, hlt⟩)
        · exact absurd hlt (not_lt.mpr hlater.1)
        · exact absurd hlt (lt_asymm (hlater.2 heq.symm))
  · rw [CursorOp.apply_other op cursors hk]
    exact NotBehind.refl _

end BorgClient.Cursor
