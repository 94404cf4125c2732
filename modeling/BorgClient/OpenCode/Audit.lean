import BorgClient.Lib.Runs

/-!
# The audit of material operations

`/audit-begin`, `/audit` and `/logged` of `opencode-v2-broker.ts` for one session, each handled
without an await: how many material operations were completed since the last log.
-/

namespace BorgClient.OpenCode
open List

/-- What the tool names take from the string library. -/
class AuditText where
  toLowerCase : String → String

/-- A row of the runtime's `toolCalls`. -/
structure ToolRow where
  tool : String
  status : String
deriving DecidableEq, Repr

inductive AuditCall
  | auditBegin (messageID id : String)
  | audit (messageID id : String) (row : ToolRow) (operations : Option (List ToolRow))
  | logged
deriving DecidableEq, Repr

/-- A name that is not in a record counts as zero. -/
structure AuditExecution where
  active : Bool
  observed : String → ℕ
  reset : String → ℕ
  contribution : ℕ
  epoch : ℕ

structure Audit where
  seen : List String
  material : ℤ
  epoch : ℕ
  executions : String → Option AuditExecution

def Audit.fresh : Audit := ⟨[], 0, 0, fun _ => none⟩

def material : List String :=
  ["shell", "bash", "edit", "write", "apply_patch", "exec_command", "multiedit", "notebookedit"]

def executionKey (messageID id : String) : String := messageID ++ ":" ++ id

def codemodeMark (execution : String) : String := execution ++ ":codemode"

def directMark (execution : String) : String := execution ++ ":direct"

namespace Audit

variable (audit : Audit)

def group (execution : String) : AuditExecution :=
  (audit.executions execution).getD ⟨false, fun _ => 0, fun _ => 0, 0, audit.epoch⟩

def setGroup (execution : String) (group : AuditExecution) : Audit :=
  { audit with executions := Function.update audit.executions execution (some group) }

end Audit

section Calls

variable [AuditText]

def materialName (name : String) : String :=
  AuditText.toLowerCase (String.ofList ((name.toList.splitOn '.').getLastD []))

/-- The row is a completed operation of the name. -/
def ToolRow.completes (name : String) (row : ToolRow) : Bool :=
  row.status == "completed" && materialName row.tool == name

/-- The row is a completed material operation. -/
def ToolRow.isMaterial (row : ToolRow) : Bool :=
  row.status == "completed" && material.contains (materialName row.tool)

/-- How many operations a final result adds to those that a log has reset. -/
def finalCount (group : AuditExecution) (operations : Option (List ToolRow)) : ℕ :=
  (material.map (fun name =>
    (match operations with
      | some rows => rows.countP (ToolRow.completes name)
      | none => group.observed name) - group.reset name)).sum

/-- The result of a whole Code Mode script. -/
def Audit.final (audit : Audit) (execution : String) (status : String)
    (operations : Option (List ToolRow)) : Audit :=
  let group := audit.group execution
  if codemodeMark execution ∉ audit.seen ∧ (operations.isSome = true ∨ status = "error") then
    let count := finalCount group operations
    { audit with
      material := audit.material + count -
        (if group.epoch = audit.epoch then group.contribution else 0)
      seen := audit.seen ++ [codemodeMark execution]
      }.setGroup execution
        { group with contribution := count, epoch := audit.epoch, active := false }
  else audit.setGroup execution { group with active := false }

/-- A completion of any other tool. -/
def Audit.completion (audit : Audit) (execution : String) (row : ToolRow) : Audit :=
  let group := audit.group execution
  let name := materialName row.tool
  if codemodeMark execution ∉ audit.seen ∧ row.isMaterial = true then
    if group.active then
      audit.setGroup execution
        { group with observed := Function.update group.observed name (group.observed name + 1) }
    else if directMark execution ∉ audit.seen then
      { audit with
        seen := audit.seen ++ [directMark execution]
        material := audit.material + 1
        }.setGroup execution { group with contribution := 1, epoch := audit.epoch }
    else audit.setGroup execution group
  else audit.setGroup execution group

def Audit.log (audit : Audit) : Audit where
  seen := audit.seen
  material := 0
  epoch := audit.epoch + 1
  executions := fun execution => (audit.executions execution).map
    (fun group => if group.active then { group with reset := group.observed } else group)

/-- `dispatch` on the session's audit. -/
def auditStep (audit : Option Audit) : AuditCall → Option Audit
  | .auditBegin messageID id =>
    let audit := audit.getD .fresh
    some (audit.setGroup (executionKey messageID id)
      { audit.group (executionKey messageID id) with active := true })
  | .audit messageID id row operations =>
    let audit := audit.getD .fresh
    if row.tool = "execute" then
      some (audit.final (executionKey messageID id) row.status operations)
    else some (audit.completion (executionKey messageID id) row)
  | .logged => audit.map Audit.log

/-! ### What the host reports -/

namespace AuditCall

/-- The execution a call is about. -/
def execution : AuditCall → Option String
  | .auditBegin messageID id => some (executionKey messageID id)
  | .audit messageID id _ _ => some (executionKey messageID id)
  | .logged => none

def isBegin : AuditCall → Bool
  | .auditBegin .. => true
  | _ => false

def isFinal : AuditCall → Bool
  | .audit _ _ row _ => row.tool == "execute"
  | _ => false

/-- The row of a completion that is no final result. -/
def completion? : AuditCall → Option ToolRow
  | .audit _ _ row _ => if row.tool = "execute" then none else some row
  | _ => none

/-- A completed material operation is reported. -/
def counts (call : AuditCall) : Bool := call.completion?.any ToolRow.isMaterial

end AuditCall

/-- The calls about one execution. A direct one is a completion, delivered any number of times; Code
Mode begins, reports its nested completions and ends, once it does, with a result that lists them,
delivered any number of times. -/
inductive HostReports : List AuditCall → Prop
  | direct (call : AuditCall) (deliveries : ℕ) (hcall : call.completion?.isSome = true) :
    HostReports (replicate deliveries call)
  | codeMode (messageID id : String) (nested finals : List AuditCall)
    (hnested : ∀ call ∈ nested, call.completion?.isSome = true)
    (hfinals : ∀ call ∈ finals, ∃ messageID id row rows,
      call = .audit messageID id row (some rows) ∧ row.tool = "execute" ∧
        rows.Perm (nested.filterMap AuditCall.completion?)) :
    HostReports (.auditBegin messageID id :: nested ++ finals)

/-- The calls about an execution. -/
def ownCalls (execution : String) (calls : List AuditCall) : List AuditCall :=
  calls.filter (fun call => call.execution == some execution)

/-- The calls up to the last log and those after it. -/
def splitLogged (calls : List AuditCall) : List AuditCall × List AuditCall :=
  calls.foldl (fun parts call =>
    if call = .logged then (parts.1 ++ parts.2 ++ [call], []) else (parts.1, parts.2 ++ [call]))
    ([], [])

def untilLogged (calls : List AuditCall) : List AuditCall := (splitLogged calls).1

def sinceLogged (calls : List AuditCall) : List AuditCall := (splitLogged calls).2

def executionsOf (calls : List AuditCall) : Finset String :=
  (calls.filterMap AuditCall.execution).toFinset

/-- The execution is a direct one whose completion was first reported since the last log. -/
def DirectSince (calls : List AuditCall) (execution : String) : Prop :=
  (ownCalls execution calls).any AuditCall.isBegin = false ∧
    (ownCalls execution (untilLogged calls)).any AuditCall.counts = false ∧
    (ownCalls execution (sinceLogged calls)).any AuditCall.counts = true

/-- The execution is one of Code Mode that finished since the last log. -/
def FinishedSince (calls : List AuditCall) (execution : String) : Prop :=
  (ownCalls execution calls).any AuditCall.isBegin = true ∧
    (ownCalls execution (untilLogged calls)).any AuditCall.isFinal = false ∧
    (ownCalls execution (sinceLogged calls)).any AuditCall.isFinal = true

instance (calls : List AuditCall) : DecidablePred (DirectSince calls) :=
  fun _ => inferInstanceAs (Decidable (_ ∧ _ ∧ _))

instance (calls : List AuditCall) : DecidablePred (FinishedSince calls) :=
  fun _ => inferInstanceAs (Decidable (_ ∧ _ ∧ _))

/-- The nested material completions reported since the last log. -/
def nestedSince (calls : List AuditCall) (execution : String) : ℕ :=
  (ownCalls execution (sinceLogged calls)).countP AuditCall.counts

end Calls

end BorgClient.OpenCode
