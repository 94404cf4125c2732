import BorgClient.OpenCode.ScopedRules

/-!
# Merging the tool permissions of an OpenCode V1 session

A permission is one action for every tool, or an ordered object of wildcard patterns of which the
last match decides. Merging puts the exact names of the granted tools behind all other patterns
(`cli-tool-approval.ts`).
-/

namespace BorgClient.OpenCode
open List

/-- A configured permission. The entries are in the order of `Object.entries`, and `none` is a
value that is no action; `other` is a missing value or one of another type. -/
inductive Permission where
  | other
  | action (effect : Effect)
  | rules (entries : List (Text × Option Effect))
deriving DecidableEq, Repr

def globMatches (pattern value : Text) : Bool :=
  Glob.accepts (fun u => !isTerminator u) (pattern.map symOf) value

/-- The result after an entry: a matching one with an action decides, until the next. -/
def decided (tool : Text) (result : Option Effect) (entry : Text × Option Effect) :
    Option Effect :=
  if globMatches entry.1 tool && entry.2.isSome then entry.2 else result

def effectiveOpenCodePermission (permission : Permission) (tool : Text) : Option Effect :=
  match permission with
  | .action effect => some effect
  | .other => none
  | .rules entries => entries.foldl (decided tool) none

def OPENCODE_BORG_COORDINATION_TOOLS : List Text :=
  BORG_COORDINATION_TOOLS.map (fun name => units "borg_borg_" ++ name)

def openCodeApprovalRepairObject (tools : List Text) : List (Text × Option Effect) :=
  (setOf (tools.flatMap toolPolicySpellings)).map (fun tool => (tool, some .allow))

/-- Exact names of granted tools are taken out of their places and put at the end. -/
def mergeOpenCodePermission (permission : Permission) (tools : List Text) : Permission :=
  let existing := match permission with
    | .action effect => [(catchAll, some effect)]
    | .rules entries => entries
    | .other => []
  let toolSet := setOf (tools.flatMap toolPolicySpellings)
  let preserved := existing.filter (fun entry => !toolSet.contains entry.1)
  .rules (preserved ++ openCodeApprovalRepairObject tools)

/-- A name of Borg's as OpenCode writes tool names: no character of it is a wildcard, and it is no
array index, which an object would list before its other keys. -/
structure BorgTool (name : Text) : Prop where
  plain : ∀ u ∈ name, isToolUnit u = true
  named : units "borg_" <+: name

/-! ### Names without wildcards -/

lemma symOf_toolUnit {u : UInt16} (h : isToolUnit u = true) : symOf u = .lit u := by
  have hs : u ≠ star := by
    rintro rfl
    revert h
    decide
  have hq : u ≠ question := by
    rintro rfl
    revert h
    decide
  simp [symOf, hs, hq]

/-- A name without wildcards matches itself alone. -/
lemma globMatches_plain {name : Text} (h : ∀ u ∈ name, isToolUnit u = true) (value : Text) :
    globMatches name value = true ↔ value = name := by
  have hmap : name.map symOf = name.map Glob.Sym.lit :=
    map_congr_left (fun u hu => symOf_toolUnit (h u hu))
  unfold globMatches
  rw [hmap]
  exact Glob.accepts_lits name value

lemma legacy_plain : ∀ entry ∈ LEGACY_TOOL_ALIASES, ∀ name ∈ spellings entry.1,
    ∀ u ∈ name, isToolUnit u = true := by
  have hall : (LEGACY_TOOL_ALIASES.all (fun entry =>
      (spellings entry.1).all (fun name => name.all isToolUnit))) = true := by
    decide +kernel
  intro entry hentry name hname u hu
  exact all_eq_true.mp (all_eq_true.mp (all_eq_true.mp hall entry hentry) name hname) u hu

/-- Every spelling of such a name is one without wildcards. -/
lemma spelling_plain {tool name : Text} (h : ∀ u ∈ tool, isToolUnit u = true)
    (hname : name ∈ toolPolicySpellings tool) : ∀ u ∈ name, isToolUnit u = true := by
  unfold toolPolicySpellings at hname
  split at hname
  · rename_i old hold
    rcases mem_cons.mp hname with rfl | hname
    · exact h
    · rw [mem_singleton] at hname
      subst hname
      obtain ⟨entry, hentry, hbind⟩ := exists_of_findSome?_eq_some hold
      obtain ⟨index, -, hget⟩ := Option.bind_eq_some_iff.mp hbind
      exact legacy_plain entry hentry _ (mem_of_getElem? hget)
  · rw [mem_singleton] at hname
    exact hname ▸ h

/-! ### Entries that do not decide -/

lemma foldl_decided_of_no_match {tool : Text} {entries : List (Text × Option Effect)}
    (h : ∀ entry ∈ entries, globMatches entry.1 tool = false) (result : Option Effect) :
    entries.foldl (decided tool) result = result := by
  induction entries generalizing result with
  | nil => rfl
  | cons entry entries ih =>
    rw [foldl_cons]
    have hstep : decided tool result entry = result := by
      unfold decided
      rw [h entry mem_cons_self]
      simp
    rw [hstep]
    exact ih (fun e he => h e (mem_cons_of_mem entry he)) result

/-- Taking out entries that do not match changes nothing. -/
lemma foldl_decided_filter {tool : Text} {p : Text × Option Effect → Bool}
    {entries : List (Text × Option Effect)}
    (h : ∀ entry ∈ entries, p entry = false → globMatches entry.1 tool = false)
    (result : Option Effect) :
    (entries.filter p).foldl (decided tool) result = entries.foldl (decided tool) result := by
  induction entries generalizing result with
  | nil => rfl
  | cons entry entries ih =>
    have hrest := ih (fun e he => h e (mem_cons_of_mem entry he))
    rw [filter_cons, foldl_cons]
    split
    · rw [foldl_cons]
      exact hrest _
    · rename_i hp
      have hstep : decided tool result entry = result := by
        unfold decided
        rw [h entry mem_cons_self (by simpa using hp)]
        simp
      rw [hstep]
      exact hrest result

/-- Among allowing entries with plain names the tool's own decides. -/
lemma foldl_decided_own {tool : Text} {names : List Text}
    (hplain : ∀ name ∈ names, ∀ u ∈ name, isToolUnit u = true) (hmem : tool ∈ names)
    (result : Option Effect) :
    (names.map (fun name => (name, some Effect.allow))).foldl (decided tool) result =
      some .allow := by
  induction names generalizing result with
  | nil => cases hmem
  | cons name names ih =>
    rw [map_cons, foldl_cons]
    have hrest := fun n hn => hplain n (mem_cons_of_mem name hn)
    by_cases hin : tool ∈ names
    · exact ih hrest hin _
    · have hself : tool = name := (mem_cons.mp hmem).resolve_right hin
      have hfirst : decided tool result (name, some .allow) = some .allow := by
        unfold decided
        have hm := (globMatches_plain (hplain name mem_cons_self) tool).mpr hself
        simp [hm]
      rw [hfirst]
      refine foldl_decided_of_no_match (fun entry hentry => ?_) _
      obtain ⟨other, hother, rfl⟩ := mem_map.mp hentry
      rw [← Bool.not_eq_true, globMatches_plain (hrest other hother)]
      rintro rfl
      exact hin hother

/-- The catch-all matches a name exactly when the name is on one line. -/
lemma globMatches_catchAll (value : Text) :
    globMatches catchAll value = true ↔ ∀ u ∈ value, isTerminator u = false := by
  change Glob.accepts (fun u => !isTerminator u) [.star] value = true ↔ _
  induction value with
  | nil => simp
  | cons u value ih =>
    rw [Glob.accepts_star_cons, Glob.accepts_nil_cons, Bool.false_or, Bool.and_eq_true, ih]
    simp

/-- After the merge every spelling of a granted tool is allowed. Every other name keeps its
effective permission, save where that was one action for all tools and the name has a line
terminator in it, which the catch-all that takes the action's place does not match. -/
theorem mergeOpenCodePermission_grants (permission : Permission) (tools : List Text)
    (htools : ∀ tool ∈ tools, BorgTool tool) :
    (∀ tool ∈ tools, ∀ name ∈ toolPolicySpellings tool,
      effectiveOpenCodePermission (mergeOpenCodePermission permission tools) name =
        some .allow) ∧
    ∀ other, (∀ tool ∈ tools, other ∉ toolPolicySpellings tool) →
      (effectiveOpenCodePermission (mergeOpenCodePermission permission tools) other =
          effectiveOpenCodePermission permission other ↔
        ((∃ effect, permission = .action effect) → ∀ u ∈ other, isTerminator u = false)) := by
  have hplain : ∀ name ∈ setOf (tools.flatMap toolPolicySpellings),
      ∀ u ∈ name, isToolUnit u = true := by
    intro name hname
    obtain ⟨tool, htool, hspelled⟩ := mem_flatMap.mp (mem_setOf.mp hname)
    exact spelling_plain (htools tool htool).plain hspelled
  refine ⟨fun tool htool name hname => ?_, fun other hother => ?_⟩
  · unfold mergeOpenCodePermission effectiveOpenCodePermission openCodeApprovalRepairObject
    dsimp only
    rw [foldl_append]
    exact foldl_decided_own hplain (mem_setOf.mpr (mem_flatMap.mpr ⟨tool, htool, hname⟩)) _
  · have hnew : other ∉ setOf (tools.flatMap toolPolicySpellings) := by
      rw [mem_setOf, mem_flatMap]
      rintro ⟨tool, htool, hspelled⟩
      exact hother tool htool hspelled
    have hnone : ∀ name ∈ setOf (tools.flatMap toolPolicySpellings),
        globMatches name other = false := by
      intro name hname
      rw [← Bool.not_eq_true, globMatches_plain (hplain name hname)]
      rintro rfl
      exact hnew hname
    have hmerged : ∀ existing : List (Text × Option Effect),
        ((existing.filter (fun entry =>
            !(setOf (tools.flatMap toolPolicySpellings)).contains entry.1)) ++
          openCodeApprovalRepairObject tools).foldl (decided other) none =
        existing.foldl (decided other) none := by
      intro existing
      rw [foldl_append, foldl_decided_of_no_match, foldl_decided_filter]
      · intro entry hentry hout
        exact hnone entry.1 (by simpa using hout)
      · intro entry hentry
        obtain ⟨name, hname, rfl⟩ := mem_map.mp hentry
        exact hnone name hname
    cases permission with
    | other =>
      simp only [reduceCtorEq, exists_false, false_implies, iff_true]
      exact hmerged []
    | rules entries =>
      simp only [reduceCtorEq, exists_false, false_implies, iff_true]
      exact hmerged entries
    | action effect =>
      have hafter : effectiveOpenCodePermission
          (mergeOpenCodePermission (.action effect) tools) other =
            [(catchAll, some effect)].foldl (decided other) none := hmerged _
      have hbefore : effectiveOpenCodePermission (.action effect) other = some effect := rfl
      rw [hafter, hbefore, foldl_cons, foldl_nil]
      unfold decided
      by_cases hm : globMatches catchAll other = true
      · have hline := (globMatches_catchAll other).mp hm
        simp only [hm, Option.isSome_some, Bool.and_self, if_true, true_iff]
        exact fun _ => hline
      · have hline : ¬ ∀ u ∈ other, isTerminator u = false :=
          fun h => hm ((globMatches_catchAll other).mpr h)
        rw [Bool.not_eq_true] at hm
        simp only [hm, Bool.false_and, Bool.false_eq_true, if_false, reduceCtorEq, false_iff]
        exact fun h => hline (h ⟨effect, rfl⟩)

/-- One action for all tools allows a name with a line feed in it, and after the merge the name
has no permission. -/
theorem one_action_misses_line_feed :
    effectiveOpenCodePermission (.action .allow) (units "a\nb") = some .allow ∧
      effectiveOpenCodePermission
        (mergeOpenCodePermission (.action .allow) OPENCODE_BORG_COORDINATION_TOOLS)
        (units "a\nb") = none := by
  decide +kernel

lemma coordinationTools_borgTool : ∀ tool ∈ OPENCODE_BORG_COORDINATION_TOOLS, BorgTool tool := by
  have hplain : (OPENCODE_BORG_COORDINATION_TOOLS.all (fun tool => tool.all isToolUnit)) = true := by
    decide +kernel
  have hnamed : (OPENCODE_BORG_COORDINATION_TOOLS.all
      (fun tool => (units "borg_").isPrefixOf tool)) = true := by
    decide +kernel
  intro tool htool
  exact ⟨all_eq_true.mp (all_eq_true.mp hplain tool htool),
    isPrefixOf_iff_prefix.mp (all_eq_true.mp hnamed tool htool)⟩

theorem mergeOpenCodePermission_grants_coordination :
    (∀ tool ∈ OPENCODE_BORG_COORDINATION_TOOLS, ∀ name ∈ toolPolicySpellings tool,
      effectiveOpenCodePermission
        (mergeOpenCodePermission .other OPENCODE_BORG_COORDINATION_TOOLS) name = some .allow) ∧
    ∀ other, (∀ tool ∈ OPENCODE_BORG_COORDINATION_TOOLS, other ∉ toolPolicySpellings tool) →
      (effectiveOpenCodePermission
          (mergeOpenCodePermission .other OPENCODE_BORG_COORDINATION_TOOLS) other =
          effectiveOpenCodePermission .other other ↔
        ((∃ effect, Permission.other = .action effect) → ∀ u ∈ other, isTerminator u = false)) :=
  mergeOpenCodePermission_grants .other OPENCODE_BORG_COORDINATION_TOOLS
    coordinationTools_borgTool

end BorgClient.OpenCode
