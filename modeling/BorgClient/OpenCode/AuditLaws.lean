import BorgClient.OpenCode.Audit

/-!
# Each material operation counts once

An execution is followed by its reports until the last log and since then; the count is the sum of
what the executions contribute.
-/

namespace BorgClient.OpenCode
open List Runs

/-! ### The reports of one execution -/

section Reports

variable {call : AuditCall}

lemma isFinal_of_completion (h : call.completion?.isSome = true) :
    call.isFinal = false ∧ call.isBegin = false := by
  cases call with
  | audit messageID id row operations =>
    by_cases htool : row.tool = "execute"
    · simp [AuditCall.completion?, htool] at h
    · simp [AuditCall.isFinal, AuditCall.isBegin, htool]
  | _ => cases h

lemma countP_completion (p : ToolRow → Bool) (calls : List AuditCall) :
    (calls.filterMap AuditCall.completion?).countP p =
      calls.countP (fun call => call.completion?.any p) := by
  induction calls with
  | nil => rfl
  | cons call calls ih =>
    cases hcall : call.completion? with
    | none => simp [hcall, ih]
    | some row => simp [hcall, ih, countP_cons]

/-- What the last call of an execution is, and what was reported before it. -/
inductive LastReport (calls : List AuditCall) (call : AuditCall) : Prop
  | begins (hcall : call.isBegin = true) (hnil : calls = [])
  | direct (hcall : call.completion?.isSome = true) (hbegin : calls.any AuditCall.isBegin = false)
    (hfinal : calls.any AuditCall.isFinal = false)
  | nested (hcall : call.completion?.isSome = true) (hbegin : calls.any AuditCall.isBegin = true)
    (hfinal : calls.any AuditCall.isFinal = false)
  | final (messageID id : String) (row : ToolRow) (rows : List ToolRow)
    (hcall : call = .audit messageID id row (some rows)) (htool : row.tool = "execute")
    (hbegin : calls.any AuditCall.isBegin = true)
    (hrows : ∀ p : ToolRow → Bool,
      rows.countP p = calls.countP (fun call => call.completion?.any p))

lemma any_eq_false_of_completions {calls : List AuditCall}
    (h : ∀ call ∈ calls, call.completion?.isSome = true) :
    calls.any AuditCall.isBegin = false ∧ calls.any AuditCall.isFinal = false := by
  simp only [any_eq_false]
  exact ⟨fun call hcall => by simp [(isFinal_of_completion (h call hcall)).2],
    fun call hcall => by simp [(isFinal_of_completion (h call hcall)).1]⟩

lemma HostReports.last {calls : List AuditCall} (h : HostReports (calls ++ [call])) :
    HostReports calls ∧ LastReport calls call := by
  generalize hall : calls ++ [call] = all at h
  cases h with
  | direct call' deliveries hcall =>
    have hmem : ∀ c ∈ calls ++ [call], c = call' := by
      rw [hall]
      exact fun c hc => eq_of_mem_replicate hc
    obtain rfl : call = call' := hmem call (by simp)
    have hcalls : calls = replicate calls.length call :=
      eq_replicate_iff.mpr ⟨rfl, fun c hc => hmem c (mem_append_left _ hc)⟩
    have hcompletions : ∀ c ∈ calls, c.completion?.isSome = true := fun c hc => by
      rw [hmem c (mem_append_left _ hc)]
      exact hcall
    obtain ⟨hbegin, hfinal⟩ := any_eq_false_of_completions hcompletions
    refine ⟨?_, .direct hcall hbegin hfinal⟩
    rw [hcalls]
    exact .direct call _ hcall
  | codeMode messageID id nested finals hnested hfinals =>
    rcases eq_nil_or_concat finals with rfl | ⟨finals', final, rfl⟩
    · rw [append_nil] at hall
      rcases eq_nil_or_concat nested with rfl | ⟨nested', last, rfl⟩
      · change calls ++ [call] = [] ++ [_] at hall
        obtain ⟨rfl, hcall⟩ := append_inj' hall rfl
        obtain rfl : call = .auditBegin messageID id := by simpa using hcall
        exact ⟨.direct (.audit "" "" ⟨"", ""⟩ none) 0 rfl, .begins rfl rfl⟩
      · rw [concat_eq_append, ← cons_append] at hall
        obtain ⟨rfl, hcall⟩ := append_inj' hall rfl
        obtain rfl : call = last := by simpa using hcall
        have hnested' : ∀ c ∈ nested', c.completion?.isSome = true :=
          fun c hc => hnested c (by simp [hc])
        refine ⟨?_, .nested (hnested call (by simp)) rfl ?_⟩
        · simpa using HostReports.codeMode messageID id nested' [] hnested' nofun
        · simpa [AuditCall.isFinal] using (any_eq_false_of_completions hnested').2
    · rw [concat_eq_append, ← append_assoc] at hall
      obtain ⟨rfl, hcall⟩ := append_inj' hall rfl
      obtain rfl : call = final := by simpa using hcall
      have hfinals' := fun c (hc : c ∈ finals') => hfinals c (by simp [hc])
      obtain ⟨messageID', id', row, rows, rfl, htool, hrows⟩ := hfinals call (by simp)
      refine ⟨.codeMode messageID id nested finals' hnested hfinals',
        .final messageID' id' row rows rfl htool rfl (fun p => ?_)⟩
      have hnone : finals'.countP (fun c => c.completion?.any p) = 0 := by
        rw [countP_eq_zero]
        intro c hc
        obtain ⟨m, i, r, rs, rfl, ht, -⟩ := hfinals' c hc
        simp [AuditCall.completion?, ht]
      rw [hrows.countP_eq, countP_completion, cons_append, countP_cons_of_neg (by nofun),
        countP_append, hnone, add_zero]

/-! ### The last log -/

lemma splitLogged_append (calls : List AuditCall) (call : AuditCall) :
    splitLogged (calls ++ [call]) =
      if call = .logged then (untilLogged calls ++ sinceLogged calls ++ [call], [])
      else (untilLogged calls, sinceLogged calls ++ [call]) := by
  rw [splitLogged, foldl_append]
  rfl

lemma splitLogged_logged (calls : List AuditCall) :
    untilLogged (calls ++ [.logged]) = untilLogged calls ++ sinceLogged calls ++ [.logged] ∧
      sinceLogged (calls ++ [.logged]) = [] := by
  unfold untilLogged sinceLogged
  rw [splitLogged_append, if_pos rfl]
  exact ⟨rfl, rfl⟩

lemma splitLogged_other (calls : List AuditCall) {call : AuditCall} (hcall : call ≠ .logged) :
    untilLogged (calls ++ [call]) = untilLogged calls ∧
      sinceLogged (calls ++ [call]) = sinceLogged calls ++ [call] := by
  unfold untilLogged sinceLogged
  rw [splitLogged_append, if_neg hcall]
  exact ⟨rfl, rfl⟩

lemma until_append_since (calls : List AuditCall) :
    untilLogged calls ++ sinceLogged calls = calls := by
  induction calls using reverseRecOn with
  | nil => rfl
  | append_singleton calls call ih =>
    by_cases hcall : call = .logged
    · subst hcall
      rw [(splitLogged_logged calls).1, (splitLogged_logged calls).2, append_nil, ih]
    · rw [(splitLogged_other calls hcall).1, (splitLogged_other calls hcall).2, ← append_assoc, ih]

lemma ownCalls_append (execution : String) (calls more : List AuditCall) :
    ownCalls execution (calls ++ more) = ownCalls execution calls ++ ownCalls execution more :=
  filter_append ..

lemma ownCalls_singleton (execution : String) (call : AuditCall) :
    ownCalls execution [call] = if call.execution = some execution then [call] else [] := by
  by_cases hcall : call.execution = some execution <;> simp [ownCalls, hcall]

end Reports

section Marks

variable {audit : Audit} {execution : String}

/-! ### Marks and groups -/

lemma material_nodup : material.Nodup := by decide

lemma codemodeMark_inj {other : String} (h : codemodeMark other = codemodeMark execution) :
    other = execution := by
  have := congrArg String.toList h
  simp only [codemodeMark, String.toList_append] at this
  exact String.toList_inj.mp (append_cancel_right this)

lemma directMark_inj {other : String} (h : directMark other = directMark execution) :
    other = execution := by
  have := congrArg String.toList h
  simp only [directMark, String.toList_append] at this
  exact String.toList_inj.mp (append_cancel_right this)

lemma codemodeMark_ne_directMark (execution other : String) :
    codemodeMark execution ≠ directMark other := by
  intro h
  have := congrArg (fun text => text.toList.getLast?) h
  simp [codemodeMark, directMark, String.toList_append, getLast?_append] at this

@[simp] lemma group_setGroup (group : AuditExecution) :
    (audit.setGroup execution group).group execution = group := by
  simp [Audit.setGroup, Audit.group]

@[simp] lemma seen_setGroup (group : AuditExecution) :
    (audit.setGroup execution group).seen = audit.seen := rfl

@[simp] lemma epoch_setGroup (group : AuditExecution) :
    (audit.setGroup execution group).epoch = audit.epoch := rfl

lemma group_setGroup_of_ne {other : String} (h : other ≠ execution) (group : AuditExecution) :
    (audit.setGroup execution group).group other = audit.group other := by
  simp [Audit.setGroup, Audit.group, Function.update_of_ne h]

namespace Audit

/-- What the execution has contributed since the last log. -/
def value (audit : Audit) (execution : String) : ℕ :=
  if (audit.group execution).epoch = audit.epoch then (audit.group execution).contribution else 0

end Audit

/-- A log keeps an execution, with the reset of an active one at what it observed. -/
lemma group_log (audit : Audit) (execution : String) :
    (audit.log.group execution).active = (audit.group execution).active ∧
    (audit.log.group execution).observed = (audit.group execution).observed ∧
    (audit.log.group execution).reset = (if (audit.group execution).active then
      (audit.group execution).observed else (audit.group execution).reset) ∧
    (audit.log.group execution).contribution = (audit.group execution).contribution ∧
    ((audit.log.group execution).epoch = (audit.group execution).epoch ∨
      audit.executions execution = none) := by
  cases hg : audit.executions execution with
  | none => simp [Audit.log, Audit.group, hg]
  | some group => by_cases hactive : group.active <;> simp [Audit.log, Audit.group, hg, hactive]

lemma value_log (h : (audit.group execution).epoch ≤ audit.epoch) :
    audit.log.value execution = 0 ∧ (audit.log.group execution).epoch ≤ audit.log.epoch := by
  obtain ⟨-, -, -, -, hepoch⟩ := group_log audit execution
  have hnow : audit.log.epoch = audit.epoch + 1 := rfl
  rcases hepoch with hepoch | hnone
  · refine ⟨?_, by omega⟩
    rw [Audit.value, if_neg (by omega)]
  · have hfresh : audit.log.group execution =
        ⟨false, fun _ => 0, fun _ => 0, 0, audit.log.epoch⟩ := by
      simp [Audit.log, Audit.group, hnone]
    rw [Audit.value, hfresh]
    exact ⟨if_pos rfl, le_refl _⟩

/-- What a call about another execution leaves alone. -/
structure SameExecution (audit audit' : Audit) (execution : String) : Prop where
  group : audit'.group execution = audit.group execution
  epoch : audit'.epoch = audit.epoch
  codemode : codemodeMark execution ∈ audit'.seen ↔ codemodeMark execution ∈ audit.seen
  direct : directMark execution ∈ audit'.seen ↔ directMark execution ∈ audit.seen

lemma SameExecution.value {audit' : Audit} (hs : SameExecution audit audit' execution) :
    audit'.value execution = audit.value execution := by
  rw [Audit.value, Audit.value, hs.group, hs.epoch]

/-- What a call about an execution leaves of the other ones and adds to the count. -/
structure Credited (audit audit' : Audit) (execution : String) : Prop where
  others : ∀ other, other ≠ execution → SameExecution audit audit' other
  material : audit'.material =
    audit.material + audit'.value execution - audit.value execution

lemma sameExecution_setGroup {audit' : Audit} {other : String} (hother : other ≠ execution)
    (hexecutions : audit'.executions = audit.executions) (hepoch : audit'.epoch = audit.epoch)
    (hseen : audit'.seen = audit.seen ∨ audit'.seen = audit.seen ++ [codemodeMark execution] ∨
      audit'.seen = audit.seen ++ [directMark execution]) (group : AuditExecution) :
    SameExecution audit (audit'.setGroup execution group) other where
  group := by
    rw [group_setGroup_of_ne hother, Audit.group, Audit.group, hexecutions, hepoch]
  epoch := hepoch
  codemode := by
    change _ ∈ audit'.seen ↔ _
    rcases hseen with hseen | hseen | hseen <;> rw [hseen]
    · rw [mem_append, mem_singleton, or_iff_left (fun h => hother (codemodeMark_inj h))]
    · rw [mem_append, mem_singleton, or_iff_left (codemodeMark_ne_directMark _ _)]
  direct := by
    change _ ∈ audit'.seen ↔ _
    rcases hseen with hseen | hseen | hseen <;> rw [hseen]
    · rw [mem_append, mem_singleton, or_iff_left (codemodeMark_ne_directMark _ _).symm]
    · rw [mem_append, mem_singleton, or_iff_left (fun h => hother (directMark_inj h))]

lemma credited_setGroup (audit : Audit) (execution : String) (group : AuditExecution)
    (hepoch : group.epoch = (audit.group execution).epoch)
    (hcontribution : group.contribution = (audit.group execution).contribution) :
    Credited audit (audit.setGroup execution group) execution ∧
      (audit.setGroup execution group).value execution = audit.value execution := by
  have hvalue : (audit.setGroup execution group).value execution = audit.value execution := by
    simp only [Audit.value, group_setGroup, hepoch, hcontribution]
    rfl
  refine ⟨⟨fun other hother => ?_, ?_⟩, hvalue⟩
  · exact sameExecution_setGroup hother rfl rfl (Or.inl rfl) group
  · rw [hvalue]
    change audit.material = _
    omega

end Marks

section Laws

variable [AuditText] {audit : Audit} {execution : String} {before after : List AuditCall}
  {call : AuditCall}

/-! ### Counting -/

/-- The reported completions of an operation. -/
def countOf (name : String) (calls : List AuditCall) : ℕ :=
  calls.countP (fun call => call.completion?.any (ToolRow.completes name))

lemma countOf_append (name : String) (calls more : List AuditCall) :
    countOf name (calls ++ more) = countOf name calls + countOf name more := countP_append

/-- An operation is counted under its own name alone. -/
lemma sum_completes (row : ToolRow) {names : List String} (h : names.Nodup) :
    (names.map (fun name => if row.completes name then 1 else 0)).sum =
      if row.status = "completed" ∧ materialName row.tool ∈ names then 1 else 0 := by
  induction names with
  | nil => simp
  | cons name names ih =>
    rw [nodup_cons] at h
    rw [map_cons, sum_cons, ih h.2]
    simp only [ToolRow.completes, Bool.and_eq_true, beq_iff_eq, mem_cons]
    by_cases hstatus : row.status = "completed"
    · by_cases hname : materialName row.tool = name
      · subst hname
        simp [hstatus, h.1]
      · simp [hstatus, hname]
    · simp [hstatus]

lemma sum_countOf (calls : List AuditCall) :
    (material.map (fun name => countOf name calls)).sum = calls.countP AuditCall.counts := by
  induction calls with
  | nil => simp [countOf]
  | cons call calls ih =>
    have hcons : ∀ name, countOf name (call :: calls) = countOf name calls +
        if call.completion?.any (ToolRow.completes name) then 1 else 0 :=
      fun name => countP_cons
    simp only [hcons]
    rw [sum_map_add, ih, countP_cons]
    congr 1
    unfold AuditCall.counts
    cases call.completion? with
    | none => simp
    | some row =>
      simp only [Option.any_some]
      rw [sum_completes row material_nodup]
      simp [ToolRow.isMaterial]

/-! ### The state of one execution -/

/-- The material operations of an execution that count, from its reports until the last log and
those after it. -/
def share (before after : List AuditCall) : ℕ :=
  if (before ++ after).any AuditCall.isBegin then
    if before.any AuditCall.isFinal = false ∧ after.any AuditCall.isFinal = true then
      after.countP AuditCall.counts else 0
  else if before.any AuditCall.counts = false ∧ after.any AuditCall.counts = true then 1 else 0

structure ExecutionOk (audit : Audit) (execution : String) (before after : List AuditCall) :
    Prop where
  codemode : codemodeMark execution ∈ audit.seen ↔ (before ++ after).any AuditCall.isFinal = true
  direct : (before ++ after).any AuditCall.isBegin = false →
    (directMark execution ∈ audit.seen ↔ (before ++ after).any AuditCall.counts = true)
  active : (audit.group execution).active =
    ((before ++ after).any AuditCall.isBegin && !(before ++ after).any AuditCall.isFinal)
  idle : (before ++ after).any AuditCall.isBegin = false → ∀ name,
    (audit.group execution).observed name = 0 ∧ (audit.group execution).reset name = 0
  observed : (audit.group execution).active = true → ∀ name ∈ material,
    (audit.group execution).observed name = countOf name (before ++ after)
  reset : (audit.group execution).active = true → ∀ name ∈ material,
    (audit.group execution).reset name = countOf name before
  value : audit.value execution = share before after
  epoch : (audit.group execution).epoch ≤ audit.epoch

lemma executionOk_fresh : ExecutionOk .fresh execution [] [] := by
  constructor <;> simp [Audit.fresh, Audit.group, Audit.value, share]

/-- A log starts a new count. -/
lemma ExecutionOk.log (h : ExecutionOk audit execution before after) :
    ExecutionOk audit.log execution (before ++ after) [] := by
  obtain ⟨hactive, hobserved, hreset, -, -⟩ := group_log audit execution
  obtain ⟨hvalue, hepoch⟩ := value_log h.epoch
  constructor
  · rw [append_nil]
    exact h.codemode
  · rw [append_nil]
    exact h.direct
  · rw [append_nil, hactive]
    exact h.active
  · rw [append_nil, hobserved, hreset]
    intro hbegin name
    rw [if_neg (by rw [h.active, hbegin]; simp)]
    exact h.idle hbegin name
  · rw [append_nil, hactive, hobserved]
    exact h.observed
  · rw [hactive, hreset]
    intro hon name hname
    rw [if_pos hon]
    exact h.observed hon name hname
  · rw [hvalue]
    simp [share]
  · exact hepoch

lemma ExecutionOk.same {audit' : Audit} (h : ExecutionOk audit execution before after)
    (hs : SameExecution audit audit' execution) : ExecutionOk audit' execution before after where
  codemode := hs.codemode.trans h.codemode
  direct hbegin := hs.direct.trans (h.direct hbegin)
  active := by rw [hs.group]; exact h.active
  idle := by rw [hs.group]; exact h.idle
  observed := by rw [hs.group]; exact h.observed
  reset := by rw [hs.group]; exact h.reset
  value := hs.value.trans h.value
  epoch := by rw [hs.group, hs.epoch]; exact h.epoch

/-! ### A call -/

lemma begin_ok (h : ExecutionOk audit execution [] []) (hcall : call.isBegin = true) :
    ExecutionOk (audit.setGroup execution { audit.group execution with active := true }) execution
      [] [call] := by
  obtain ⟨-, hvalue⟩ := credited_setGroup audit execution
    { audit.group execution with active := true } rfl rfl
  have hfinal : call.isFinal = false ∧ call.counts = false := by
    cases call with
    | auditBegin messageID id => exact ⟨rfl, rfl⟩
    | _ => cases hcall
  have hidle := h.idle rfl
  constructor
  · simpa [hfinal.1] using h.codemode
  · simp [hcall]
  · simp [hcall, hfinal.1]
  · simp [hcall]
  · intro _ name _
    have hnone : call.completion? = none := by
      cases call with
      | auditBegin messageID id => rfl
      | _ => cases hcall
    simp [countOf, hnone, (hidle name).1]
  · intro _ name _
    simp [countOf, (hidle name).2]
  · rw [hvalue, h.value]
    simp [share, hcall, hfinal.1]
  · simpa using h.epoch

lemma countOf_of_material {row : ToolRow} (hcall : call.completion? = some row)
    (h : row.isMaterial = false) {name : String} (hname : name ∈ material) :
    countOf name [call] = 0 := by
  have hnot : row.completes name = false := by
    by_contra hcompletes
    rw [Bool.not_eq_false, ToolRow.completes, Bool.and_eq_true, beq_iff_eq, beq_iff_eq]
      at hcompletes
    rw [ToolRow.isMaterial, hcompletes.1, hcompletes.2] at h
    simp [hname] at h
  simp [countOf, hcall, hnot]

/-- A Code Mode execution that has not finished counts nothing yet. -/
lemma share_running (hbegun : (before ++ after).any AuditCall.isBegin = true)
    (hafter : after.any AuditCall.isFinal = false) : share before after = 0 := by
  rw [share, if_pos hbegun, if_neg (by rw [hafter]; simp)]

lemma share_direct (hdirect : (before ++ after).any AuditCall.isBegin = false) :
    share before after = if before.any AuditCall.counts = false ∧
      after.any AuditCall.counts = true then 1 else 0 := by
  rw [share, if_neg (by rw [hdirect]; decide)]

/-- A call that counts nothing and is no final result. -/
lemma ExecutionOk.quiet (h : ExecutionOk audit execution before after) {row : ToolRow}
    (hcall : call.completion? = some row) (hrow : row.isMaterial = false) :
    ExecutionOk (audit.setGroup execution (audit.group execution)) execution before
      (after ++ [call]) := by
  obtain ⟨-, hvalue⟩ := credited_setGroup audit execution (audit.group execution) rfl rfl
  obtain ⟨hfinal, hbegin⟩ := isFinal_of_completion (Option.isSome_iff_exists.mpr ⟨row, hcall⟩)
  have hcounts : call.counts = false := by rw [AuditCall.counts, hcall]; exact hrow
  constructor
  · simpa [hfinal, ← append_assoc] using h.codemode
  · simpa [hbegin, hcounts, ← append_assoc] using h.direct
  · simpa [hfinal, hbegin, ← append_assoc] using h.active
  · simpa [hbegin, ← append_assoc] using h.idle
  · intro hactive name hname
    rw [group_setGroup] at hactive ⊢
    rw [← append_assoc, countOf_append, countOf_of_material hcall hrow hname, add_zero]
    exact h.observed hactive name hname
  · simpa using h.reset
  · rw [hvalue, h.value]
    simp [share, hfinal, hbegin, hcounts, countP_append]
  · simpa using h.epoch

lemma nested_ok (h : ExecutionOk audit execution before after) {row : ToolRow}
    (hcall : call.completion? = some row) (hrow : row.isMaterial = true)
    (hbegun : (before ++ after).any AuditCall.isBegin = true)
    (hrunning : (before ++ after).any AuditCall.isFinal = false) :
    ExecutionOk (audit.setGroup execution
      { audit.group execution with
        observed := Function.update (audit.group execution).observed (materialName row.tool)
          ((audit.group execution).observed (materialName row.tool) + 1) }) execution before
      (after ++ [call]) := by
  obtain ⟨-, hvalue⟩ := credited_setGroup audit execution
    { audit.group execution with
      observed := Function.update (audit.group execution).observed (materialName row.tool)
        ((audit.group execution).observed (materialName row.tool) + 1) } rfl rfl
  obtain ⟨hfinal, hbegin⟩ := isFinal_of_completion (Option.isSome_iff_exists.mpr ⟨row, hcall⟩)
  have hactive : (audit.group execution).active = true := by rw [h.active, hbegun, hrunning]; rfl
  have hcompleted : row.status = "completed" := by
    rw [ToolRow.isMaterial, Bool.and_eq_true, beq_iff_eq] at hrow
    exact hrow.1
  constructor
  · simpa [hfinal, ← append_assoc] using h.codemode
  · rw [← append_assoc, any_append, hbegun]
    nofun
  · simpa [hfinal, hbegin, ← append_assoc] using h.active
  · rw [← append_assoc, any_append, hbegun]
    nofun
  · intro _ name hname
    rw [group_setGroup, ← append_assoc, countOf_append, ← h.observed hactive name hname]
    by_cases heq : name = materialName row.tool
    · subst heq
      simp [countOf, hcall, ToolRow.completes, hcompleted]
    · simp [countOf, hcall, ToolRow.completes, Function.update_of_ne heq, Ne.symm heq]
  · simpa using h.reset
  · rw [hvalue, h.value]
    rw [any_append, Bool.or_eq_false_iff] at hrunning
    rw [share_running hbegun hrunning.2, share_running]
    · rw [← append_assoc, any_append, hbegun]
      rfl
    · simpa [hfinal] using hrunning.2
  · simpa using h.epoch

lemma direct_ok (h : ExecutionOk audit execution before after) {row : ToolRow}
    (hcall : call.completion? = some row) (hrow : row.isMaterial = true)
    (hdirect : (before ++ after).any AuditCall.isBegin = false)
    (hunseen : directMark execution ∉ audit.seen) {audit' : Audit}
    (haudit : audit' = { audit with
      seen := audit.seen ++ [directMark execution]
      material := audit.material + 1
      }.setGroup execution
        { audit.group execution with contribution := 1, epoch := audit.epoch }) :
    ExecutionOk audit' execution before (after ++ [call]) ∧ Credited audit audit' execution := by
  obtain ⟨hfinal, hbegin⟩ := isFinal_of_completion (Option.isSome_iff_exists.mpr ⟨row, hcall⟩)
  have hcounts : call.counts = true := by rw [AuditCall.counts, hcall]; exact hrow
  have hnone : (before ++ after).any AuditCall.counts = false := by
    by_contra hany
    rw [Bool.not_eq_false] at hany
    exact hunseen ((h.direct hdirect).mpr hany)
  have hidle := h.idle hdirect
  have hoff : (audit.group execution).active = false := by rw [h.active, hdirect]; simp
  have hgroup : audit'.group execution =
      { audit.group execution with contribution := 1, epoch := audit.epoch } := by
    rw [haudit, group_setGroup]
  have hepoch : audit'.epoch = audit.epoch := by rw [haudit]; rfl
  have hseen : audit'.seen = audit.seen ++ [directMark execution] := by rw [haudit]; rfl
  have hvalue : audit'.value execution = 1 := by
    rw [Audit.value, hgroup, hepoch, if_pos rfl]
  rw [any_append, Bool.or_eq_false_iff] at hnone
  have hbefore : audit.value execution = 0 := by
    rw [h.value, share_direct hdirect, if_neg (by rw [hnone.2]; simp)]
  refine ⟨⟨?_, ?_, ?_, ?_, ?_, ?_, ?_, ?_⟩, ⟨?_, ?_⟩⟩
  · rw [hseen, mem_append, mem_singleton, or_iff_left (codemodeMark_ne_directMark _ _), h.codemode]
    simp [hfinal, ← append_assoc]
  · rw [hseen]
    simp [hcounts]
  · rw [hgroup]
    simpa [hfinal, hbegin, ← append_assoc] using h.active
  · rw [hgroup]
    exact fun _ => hidle
  · rw [hgroup]
    exact fun hactive => absurd (hactive.symm.trans hoff) (by decide)
  · rw [hgroup]
    exact fun hactive => absurd (hactive.symm.trans hoff) (by decide)
  · rw [hvalue, share_direct, if_pos ⟨hnone.1, by simp [hcounts]⟩]
    rw [← append_assoc, any_append, hdirect]
    simp [hbegin]
  · rw [hgroup, hepoch]
  · intro other hother
    rw [haudit]
    refine sameExecution_setGroup hother ?_ ?_ (Or.inr (Or.inr ?_)) _ <;> rfl
  · rw [hvalue, hbefore, haudit]
    change audit.material + 1 = _
    omega

/-- A direct completion that is delivered again. -/
lemma directAgain_ok (h : ExecutionOk audit execution before after) {row : ToolRow}
    (hcall : call.completion? = some row)
    (hdirect : (before ++ after).any AuditCall.isBegin = false)
    (hseen : directMark execution ∈ audit.seen) :
    ExecutionOk (audit.setGroup execution (audit.group execution)) execution before
      (after ++ [call]) := by
  obtain ⟨-, hvalue⟩ := credited_setGroup audit execution (audit.group execution) rfl rfl
  obtain ⟨hfinal, hbegin⟩ := isFinal_of_completion (Option.isSome_iff_exists.mpr ⟨row, hcall⟩)
  have hcounted := (h.direct hdirect).mp hseen
  have hoff : (audit.group execution).active = false := by rw [h.active, hdirect]; simp
  have hnever : (before ++ (after ++ [call])).any AuditCall.isBegin = false := by
    rw [← append_assoc, any_append, hdirect]
    simp [hbegin]
  constructor
  · simpa [hfinal, ← append_assoc] using h.codemode
  · intro _
    rw [seen_setGroup, ← append_assoc, any_append, hcounted]
    exact ⟨fun _ => rfl, fun _ => hseen⟩
  · simpa [hfinal, hbegin, ← append_assoc] using h.active
  · rw [group_setGroup]
    exact fun _ => h.idle hdirect
  · rw [group_setGroup]
    exact fun hactive => absurd (hactive.symm.trans hoff) (by decide)
  · rw [group_setGroup]
    exact fun hactive => absurd (hactive.symm.trans hoff) (by decide)
  · rw [hvalue, h.value, share_direct hdirect, share_direct hnever]
    rw [any_append, Bool.or_eq_true] at hcounted
    rcases hcounted with hbefore | hafter
    · rw [if_neg (by rw [hbefore]; simp), if_neg (by rw [hbefore]; simp)]
    · simp [hafter]
  · simpa using h.epoch

/-- What the final result adds is what was reported since the last log. -/
lemma finalCount_eq (h : ExecutionOk audit execution before after) {rows : List ToolRow}
    (hactive : (audit.group execution).active = true)
    (hrows : ∀ p : ToolRow → Bool,
      rows.countP p = (before ++ after).countP (fun call => call.completion?.any p)) :
    finalCount (audit.group execution) (some rows) = after.countP AuditCall.counts := by
  rw [finalCount, ← sum_countOf]
  congr 1
  refine map_congr_left (fun name hname => ?_)
  dsimp only
  rw [h.reset hactive name hname, hrows]
  change countOf name (before ++ after) - _ = _
  rw [countOf_append]
  omega

/-- A result that is delivered again. -/
lemma finalAgain_ok (h : ExecutionOk audit execution before after) (hfinal : call.isFinal = true)
    (hcounts : call.counts = false) (hbegun : (before ++ after).any AuditCall.isBegin = true)
    (hbegun' : (before ++ (after ++ [call])).any AuditCall.isBegin = true)
    (hseen : codemodeMark execution ∈ audit.seen) (status : String) (rows : List ToolRow) :
    ExecutionOk (audit.final execution status (some rows)) execution before (after ++ [call]) ∧
      Credited audit (audit.final execution status (some rows)) execution := by
  have hdone := h.codemode.mp hseen
  have haudit : audit.final execution status (some rows) =
      audit.setGroup execution { audit.group execution with active := false } := by
    rw [Audit.final, if_neg (fun hnew => hnew.1 hseen)]
  obtain ⟨hcredited, hvalue⟩ := credited_setGroup audit execution
    { audit.group execution with active := false } rfl rfl
  rw [haudit]
  refine ⟨⟨?_, ?_, ?_, ?_, ?_, ?_, ?_, ?_⟩, hcredited⟩
  · rw [seen_setGroup, ← append_assoc, any_append, hdone]
    exact ⟨fun _ => rfl, fun _ => hseen⟩
  · exact fun hnever => absurd (hnever.symm.trans hbegun') (by decide)
  · rw [group_setGroup]
    simp [hfinal]
  · exact fun hnever => absurd (hnever.symm.trans hbegun') (by decide)
  · rw [group_setGroup]
    nofun
  · rw [group_setGroup]
    nofun
  · rw [hvalue, h.value, share, share, if_pos hbegun, if_pos hbegun']
    rw [any_append, Bool.or_eq_true] at hdone
    rcases hdone with hbefore | hafter
    · rw [if_neg (by rw [hbefore]; simp), if_neg (by rw [hbefore]; simp)]
    · simp [hafter, countP_append, hcounts]
  · simpa using h.epoch

lemma finalFirst_ok (h : ExecutionOk audit execution before after) (hfinal : call.isFinal = true)
    (hcounts : call.counts = false) (hbegun : (before ++ after).any AuditCall.isBegin = true)
    (hbegun' : (before ++ (after ++ [call])).any AuditCall.isBegin = true)
    (hseen : codemodeMark execution ∉ audit.seen) (status : String) {rows : List ToolRow}
    (hrows : ∀ p : ToolRow → Bool,
      rows.countP p = (before ++ after).countP (fun call => call.completion?.any p)) :
    ExecutionOk (audit.final execution status (some rows)) execution before (after ++ [call]) ∧
      Credited audit (audit.final execution status (some rows)) execution := by
  have hrunning : (before ++ after).any AuditCall.isFinal = false := by
    by_contra hany
    rw [Bool.not_eq_false] at hany
    exact hseen (h.codemode.mpr hany)
  have hactive : (audit.group execution).active = true := by rw [h.active, hbegun, hrunning]; rfl
  have hcount := finalCount_eq h hactive hrows
  have haudit : audit.final execution status (some rows) =
      { audit with
        material := audit.material + finalCount (audit.group execution) (some rows) -
          (if (audit.group execution).epoch = audit.epoch
            then (audit.group execution).contribution else 0)
        seen := audit.seen ++ [codemodeMark execution]
        }.setGroup execution
          { audit.group execution with
            contribution := finalCount (audit.group execution) (some rows)
            epoch := audit.epoch
            active := false } := by
    rw [Audit.final, if_pos ⟨hseen, Or.inl rfl⟩]
  have hgroup : ((audit.final execution status (some rows)).group execution) =
      { audit.group execution with
        contribution := finalCount (audit.group execution) (some rows)
        epoch := audit.epoch
        active := false } := by
    rw [haudit, group_setGroup]
  have hepoch : (audit.final execution status (some rows)).epoch = audit.epoch := by
    rw [haudit]
    rfl
  have hmarks : (audit.final execution status (some rows)).seen =
      audit.seen ++ [codemodeMark execution] := by
    rw [haudit]
    rfl
  have hvalue : (audit.final execution status (some rows)).value execution =
      after.countP AuditCall.counts := by
    rw [Audit.value, hgroup, hepoch, if_pos rfl, hcount]
  rw [any_append, Bool.or_eq_false_iff] at hrunning
  refine ⟨⟨?_, ?_, ?_, ?_, ?_, ?_, ?_, ?_⟩, ⟨?_, ?_⟩⟩
  · rw [hmarks]
    simp [hfinal]
  · exact fun hnever => absurd (hnever.symm.trans hbegun') (by decide)
  · rw [hgroup]
    simp [hfinal]
  · exact fun hnever => absurd (hnever.symm.trans hbegun') (by decide)
  · rw [hgroup]
    nofun
  · rw [hgroup]
    nofun
  · rw [hvalue, share, if_pos hbegun', if_pos ⟨hrunning.1, by simp [hfinal]⟩, countP_append]
    simp [hcounts]
  · rw [hgroup, hepoch]
  · intro other hother
    rw [haudit]
    refine sameExecution_setGroup hother ?_ ?_ (Or.inr (Or.inl ?_)) _ <;> rfl
  · rw [hvalue, haudit, ← hcount, Audit.value]
    change audit.material + _ - _ = _
    push_cast
    rfl

lemma final_ok (h : ExecutionOk audit execution before after) {messageID id : String}
    {row : ToolRow} {rows : List ToolRow} (hcall : call = .audit messageID id row (some rows))
    (htool : row.tool = "execute") (hbegun : (before ++ after).any AuditCall.isBegin = true)
    (hrows : ∀ p : ToolRow → Bool,
      rows.countP p = (before ++ after).countP (fun call => call.completion?.any p)) :
    ExecutionOk (audit.final execution row.status (some rows)) execution before (after ++ [call]) ∧
      Credited audit (audit.final execution row.status (some rows)) execution := by
  have hfinal : call.isFinal = true := by simp [hcall, AuditCall.isFinal, htool]
  have hbegin : call.isBegin = false := by rw [hcall]; rfl
  have hcompletion : call.completion? = none := by simp [hcall, AuditCall.completion?, htool]
  have hcounts : call.counts = false := by rw [AuditCall.counts, hcompletion]; rfl
  have hbegun' : (before ++ (after ++ [call])).any AuditCall.isBegin = true := by
    rw [← append_assoc, any_append, hbegun]
    rfl
  by_cases hseen : codemodeMark execution ∈ audit.seen
  · exact finalAgain_ok h hfinal hcounts hbegun hbegun' hseen row.status rows
  · exact finalFirst_ok h hfinal hcounts hbegun hbegun' hseen row.status hrows

lemma completion_ok (h : ExecutionOk audit execution before after) {row : ToolRow}
    (hcall : call.completion? = some row)
    (hrunning : (before ++ after).any AuditCall.isFinal = false) :
    ExecutionOk (audit.completion execution row) execution before (after ++ [call]) ∧
      Credited audit (audit.completion execution row) execution := by
  have hunseen : codemodeMark execution ∉ audit.seen := by
    rw [h.codemode, hrunning]
    decide
  obtain ⟨hsame, -⟩ := credited_setGroup audit execution (audit.group execution) rfl rfl
  cases hrow : row.isMaterial with
  | false =>
    rw [Audit.completion, if_neg (by rw [hrow]; simp)]
    exact ⟨h.quiet hcall hrow, hsame⟩
  | true =>
    rw [Audit.completion, if_pos ⟨hunseen, hrow⟩]
    cases hbegun : (before ++ after).any AuditCall.isBegin with
    | true =>
      rw [if_pos (by rw [h.active, hbegun, hrunning]; rfl)]
      refine ⟨nested_ok h hcall hrow hbegun hrunning,
        (credited_setGroup audit execution _ ?_ ?_).1⟩ <;> rfl
    | false =>
      rw [if_neg (by rw [h.active, hbegun]; simp)]
      by_cases hseen : directMark execution ∈ audit.seen
      · rw [if_neg (not_not_intro hseen)]
        exact ⟨directAgain_ok h hcall hbegun hseen, hsame⟩
      · rw [if_pos hseen]
        exact direct_ok h hcall hrow hbegun hseen rfl

/-- A call about an execution. -/
lemma call_ok (h : ExecutionOk audit execution before after)
    (hlast : LastReport (before ++ after) call) (hcall : call.execution = some execution) :
    ∃ audit', auditStep (some audit) call = some audit' ∧
      ExecutionOk audit' execution before (after ++ [call]) ∧
      Credited audit audit' execution := by
  have hcompletes : call.completion?.isSome = true →
      (before ++ after).any AuditCall.isFinal = false →
      ∃ audit', auditStep (some audit) call = some audit' ∧
        ExecutionOk audit' execution before (after ++ [call]) ∧
        Credited audit audit' execution := by
    intro hsome hrunning
    obtain ⟨row, hrow⟩ := Option.isSome_iff_exists.mp hsome
    refine ⟨audit.completion execution row, ?_, completion_ok h hrow hrunning⟩
    cases call with
    | audit messageID id row' operations =>
      obtain rfl := Option.some.inj hcall
      unfold AuditCall.completion? at hrow
      dsimp only at hrow
      split at hrow
      · cases hrow
      · rename_i htool
        obtain rfl := Option.some.inj hrow
        rw [auditStep, if_neg htool]
        rfl
    | _ => cases hsome
  cases hlast with
  | begins hbegin hnil =>
    obtain ⟨rfl, rfl⟩ := append_eq_nil_iff.mp hnil
    cases call with
    | auditBegin messageID id =>
      obtain rfl := Option.some.inj hcall
      exact ⟨_, rfl, begin_ok h rfl, (credited_setGroup audit _
        { audit.group (executionKey messageID id) with active := true } rfl rfl).1⟩
    | _ => cases hbegin
  | direct hcompletion hbegin hfinal => exact hcompletes hcompletion hfinal
  | nested hcompletion hbegin hfinal => exact hcompletes hcompletion hfinal
  | final messageID id row rows hfinal htool hbegin hrows =>
    obtain ⟨hok, hcredited⟩ := final_ok h hfinal htool hbegin hrows
    subst hfinal
    obtain rfl := Option.some.inj hcall
    refine ⟨_, ?_, hok, hcredited⟩
    rw [auditStep, if_pos htool]
    rfl

/-! ### Runs -/

/-- The state of the audit after the calls. -/
structure AuditOk (audit : Audit) (calls : List AuditCall) : Prop where
  execution : ∀ execution, ExecutionOk audit execution (ownCalls execution (untilLogged calls))
    (ownCalls execution (sinceLogged calls))
  total : ∀ all : Finset String, executionsOf calls ⊆ all →
    audit.material = ∑ execution ∈ all, (audit.value execution : ℤ)

lemma ExecutionOk.log_fresh (h : ExecutionOk .fresh execution before after) :
    ExecutionOk .fresh execution (before ++ after) [] where
  codemode := by rw [append_nil]; exact h.codemode
  direct := by rw [append_nil]; exact h.direct
  active := by rw [append_nil]; exact h.active
  idle := by rw [append_nil]; exact h.idle
  observed := nofun
  reset := nofun
  value := by
    rw [share]
    simp [Audit.value, Audit.fresh, Audit.group]
  epoch := h.epoch

lemma logged_ok {state : Option Audit} {calls : List AuditCall}
    (h : AuditOk (state.getD .fresh) calls) :
    AuditOk ((auditStep state .logged).getD .fresh) (calls ++ [.logged]) := by
  have hown : ∀ execution, ownCalls execution (untilLogged (calls ++ [.logged])) =
      ownCalls execution (untilLogged calls) ++ ownCalls execution (sinceLogged calls) ∧
      ownCalls execution (sinceLogged (calls ++ [.logged])) = [] := by
    intro execution
    rw [(splitLogged_logged calls).1, (splitLogged_logged calls).2]
    refine ⟨?_, rfl⟩
    rw [ownCalls_append, ownCalls_append, ownCalls_singleton, if_neg nofun, append_nil]
  have hstep : ∀ execution, ExecutionOk ((auditStep state .logged).getD .fresh) execution
      (ownCalls execution (untilLogged (calls ++ [.logged])))
      (ownCalls execution (sinceLogged (calls ++ [.logged]))) := by
    intro execution
    rw [(hown execution).1, (hown execution).2]
    cases state with
    | none => exact (h.execution execution).log_fresh
    | some audit => exact (h.execution execution).log
  refine ⟨hstep, fun all _ => ?_⟩
  have hzero : ∀ execution, ((auditStep state .logged).getD .fresh).value execution = 0 := by
    intro execution
    rw [(hstep execution).value, (hown execution).2]
    simp [share]
  rw [Finset.sum_eq_zero (fun execution _ => by rw [hzero execution]; rfl)]
  cases state <;> rfl

lemma called_ok {audit : Audit} {calls : List AuditCall} (h : AuditOk audit calls)
    (hcall : call.execution = some execution)
    (hlast : LastReport (ownCalls execution calls) call) :
    ∃ audit', auditStep (some audit) call = some audit' ∧ AuditOk audit' (calls ++ [call]) := by
  have hlogged : call ≠ .logged := by
    rintro rfl
    cases hcall
  rw [← until_append_since calls, ownCalls_append] at hlast
  obtain ⟨audit', hstep, hown, hcredited⟩ := call_ok (h.execution execution) hlast hcall
  refine ⟨audit', hstep, ⟨fun other => ?_, fun all hall => ?_⟩⟩
  · rw [(splitLogged_other calls hlogged).1, (splitLogged_other calls hlogged).2, ownCalls_append,
      ownCalls_singleton]
    by_cases hother : other = execution
    · subst hother
      rw [if_pos hcall]
      exact hown
    · rw [if_neg (fun heq => hother (Option.some.inj (heq.symm.trans hcall))), append_nil]
      exact (h.execution other).same (hcredited.others other hother)
  · have hmem : execution ∈ all := hall (by simp [executionsOf, hcall])
    have hsub : executionsOf calls ⊆ all := by
      refine Finset.Subset.trans (fun other hmem => ?_) hall
      simp only [executionsOf, mem_toFinset, filterMap_append, mem_append] at hmem ⊢
      exact Or.inl hmem
    rw [hcredited.material, h.total all hsub, ← Finset.add_sum_erase all _ hmem,
      ← Finset.add_sum_erase all (fun execution => (audit'.value execution : ℤ)) hmem]
    have hrest : ∑ other ∈ all.erase execution, (audit'.value other : ℤ) =
        ∑ other ∈ all.erase execution, (audit.value other : ℤ) :=
      Finset.sum_congr rfl (fun other hother => by
        rw [(hcredited.others other (Finset.ne_of_mem_erase hother)).value])
    rw [hrest]
    ring

lemma auditOk_run {calls : List AuditCall}
    (h : ∀ execution, HostReports (ownCalls execution calls)) :
    AuditOk ((run auditStep none calls).getD .fresh) calls := by
  induction calls using reverseRecOn with
  | nil =>
    refine ⟨fun execution => executionOk_fresh, fun all _ => ?_⟩
    have hzero : ∀ execution, Audit.fresh.value execution = 0 := fun execution => by
      rw [executionOk_fresh.value]
      rfl
    change (0 : ℤ) = ∑ execution ∈ all, (Audit.fresh.value execution : ℤ)
    rw [Finset.sum_eq_zero (fun execution _ => by rw [hzero execution]; rfl)]
  | append_singleton calls call ih =>
    have hbefore : ∀ execution, HostReports (ownCalls execution calls) := by
      intro execution
      have hall := h execution
      rw [ownCalls_append, ownCalls_singleton] at hall
      split at hall
      · exact hall.last.1
      · rwa [append_nil] at hall
    rw [run_append]
    change AuditOk ((auditStep (run auditStep none calls) call).getD .fresh) _
    cases hcall : call.execution with
    | none =>
      cases call with
      | logged => exact logged_ok (ih hbefore)
      | _ => cases hcall
    | some execution =>
      have hall := h execution
      rw [ownCalls_append, ownCalls_singleton, if_pos hcall] at hall
      obtain ⟨audit', hstep, hok⟩ := called_ok (ih hbefore) hcall hall.last.2
      have hfresh : auditStep (some ((run auditStep none calls).getD .fresh)) call =
          auditStep (run auditStep none calls) call := by
        cases run auditStep none calls with
        | some audit => rfl
        | none =>
          cases call with
          | logged => cases hcall
          | _ => rfl
      rw [← hfresh, hstep]
      exact hok

lemma share_eq (calls : List AuditCall) (execution : String) :
    share (ownCalls execution (untilLogged calls)) (ownCalls execution (sinceLogged calls)) =
      (if DirectSince calls execution then 1 else 0) +
        if FinishedSince calls execution then nestedSince calls execution else 0 := by
  have hown : ownCalls execution (untilLogged calls) ++ ownCalls execution (sinceLogged calls) =
      ownCalls execution calls := by rw [← ownCalls_append, until_append_since]
  rw [share, hown]
  by_cases hbegin : (ownCalls execution calls).any AuditCall.isBegin = true
  · have hdirect : ¬ DirectSince calls execution :=
      fun h => absurd (h.1.symm.trans hbegin) (by decide)
    rw [if_pos hbegin, if_neg hdirect, zero_add]
    exact if_congr ⟨fun h => ⟨hbegin, h⟩, fun h => h.2⟩ rfl rfl
  · have hfinished : ¬ FinishedSince calls execution := fun h => hbegin h.1
    rw [if_neg hbegin, if_neg hfinished, add_zero]
    rw [Bool.not_eq_true] at hbegin
    exact if_congr ⟨fun h => ⟨hbegin, h⟩, fun h => h.2⟩ rfl rfl

/-- For every interleaving of what the host reports: the count is that of the direct material
completions first reported since the last log, and for each Code Mode execution finished since then
that of its nested material completions reported since then. -/
theorem audit_counts_once {calls : List AuditCall}
    (h : ∀ execution, HostReports (ownCalls execution calls)) :
    ((run auditStep none calls).getD .fresh).material =
      (((executionsOf calls).filter (DirectSince calls)).card : ℤ) +
        ∑ execution ∈ (executionsOf calls).filter (FinishedSince calls),
          (nestedSince calls execution : ℤ) := by
  obtain ⟨hexecution, htotal⟩ := auditOk_run h
  rw [htotal _ (Finset.Subset.refl _), Finset.sum_filter, Finset.card_filter, Nat.cast_sum,
    ← Finset.sum_add_distrib]
  refine Finset.sum_congr rfl (fun execution _ => ?_)
  rw [(hexecution execution).value, share_eq]
  push_cast
  rfl

end Laws

/-- Names in lower case. -/
@[reducible] def lowerNames : AuditText := ⟨id⟩

attribute [local instance] lowerNames

/-- A script that logs between its two operations, and its result. -/
def loggedScript : List AuditCall :=
  [.auditBegin "msg_1" "call_1", .audit "msg_1" "call_1" ⟨"shell", "completed"⟩ none, .logged,
    .audit "msg_1" "call_1" ⟨"edit", "completed"⟩ none,
    .audit "msg_1" "call_1" ⟨"execute", "completed"⟩
      (some [⟨"shell", "completed"⟩, ⟨"edit", "completed"⟩])]

theorem audit_counts_once_logged :
    ((run auditStep none loggedScript).getD .fresh).material =
      (((executionsOf loggedScript).filter (DirectSince loggedScript)).card : ℤ) +
        ∑ execution ∈ (executionsOf loggedScript).filter (FinishedSince loggedScript),
          (nestedSince loggedScript execution : ℤ) := by
  refine audit_counts_once (fun execution => ?_)
  by_cases hkey : executionKey "msg_1" "call_1" = execution
  · have hown : ownCalls execution loggedScript = AuditCall.auditBegin "msg_1" "call_1" ::
        [.audit "msg_1" "call_1" ⟨"shell", "completed"⟩ none,
          .audit "msg_1" "call_1" ⟨"edit", "completed"⟩ none] ++
        [.audit "msg_1" "call_1" ⟨"execute", "completed"⟩
          (some [⟨"shell", "completed"⟩, ⟨"edit", "completed"⟩])] := by
      simp [ownCalls, loggedScript, AuditCall.execution, hkey]
    rw [hown]
    refine .codeMode _ _ _ _ (by decide) (fun call hcall => ?_)
    rw [mem_singleton] at hcall
    exact ⟨_, _, _, _, hcall, rfl, .refl _⟩
  · have hown : ownCalls execution loggedScript = [] := by
      simp [ownCalls, loggedScript, AuditCall.execution, hkey]
    rw [hown]
    exact .direct (.audit "" "" ⟨"", ""⟩ none) 0 rfl

end BorgClient.OpenCode
