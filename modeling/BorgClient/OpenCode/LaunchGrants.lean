import BorgClient.OpenCode.ScopedRules

/-!
# What a launch leaves of the operator's rules

The effect of every action and resource before and after `applyOpenCodeV2LaunchPermissions`.
-/

namespace BorgClient.OpenCode
open List Glob

/-! ### The last rule -/

/-- The effect of the last rule that applies. -/
def lastEffect (rules : List OpenCodeV2Permission) (action resource : Text) : Option Effect :=
  (rules.filter (fun rule => rule.appliesTo action resource)).getLast?.map (·.effect)

@[simp] lemma lastEffect_nil (action resource : Text) : lastEffect [] action resource = none := rfl

lemma lastEffect_append (before after : List OpenCodeV2Permission) (action resource : Text) :
    lastEffect (before ++ after) action resource =
      (lastEffect after action resource).or (lastEffect before action resource) := by
  rw [lastEffect, filter_append, getLast?_append, lastEffect, lastEffect]
  cases (after.filter (fun rule => rule.appliesTo action resource)).getLast? <;> simp

lemma lastEffect_singleton (rule : OpenCodeV2Permission) (action resource : Text) :
    lastEffect [rule] action resource =
      if rule.appliesTo action resource then some rule.effect else none := by
  rw [lastEffect, filter_singleton]
  cases rule.appliesTo action resource <;> simp

lemma lastEffect_cons (rule : OpenCodeV2Permission) (rules : List OpenCodeV2Permission)
    (action resource : Text) :
    lastEffect (rule :: rules) action resource = (lastEffect rules action resource).or
      (if rule.appliesTo action resource then some rule.effect else none) := by
  rw [← lastEffect_singleton, ← lastEffect_append]
  rfl

lemma lastEffect_eq_none {rules : List OpenCodeV2Permission} {action resource : Text}
    (h : ∀ rule ∈ rules, rule.appliesTo action resource = false) :
    lastEffect rules action resource = none := by
  rw [lastEffect, filter_eq_nil_iff.mpr (fun rule hr => by simp [h rule hr])]
  rfl

lemma exists_of_lastEffect {rules : List OpenCodeV2Permission} {action resource : Text}
    {effect : Effect} (h : lastEffect rules action resource = some effect) :
    ∃ rule ∈ rules, rule.appliesTo action resource = true ∧ rule.effect = effect := by
  rw [lastEffect, Option.map_eq_some_iff] at h
  obtain ⟨rule, hrule, heffect⟩ := h
  have hmem := mem_filter.mp (mem_of_getLast? hrule)
  exact ⟨rule, hmem.1, hmem.2, heffect⟩

/-- The loop keeps the last rule's effect, and `ask` without one. -/
lemma effective_eq_lastEffect (rules : List OpenCodeV2Permission) (action resource : Text) :
    effectiveOpenCodeV2Permission rules action resource =
      (lastEffect rules action resource).getD .ask := by
  have hgen : ∀ init : Effect, rules.foldl (fun result rule =>
      if rule.appliesTo action resource then rule.effect else result) init =
        (lastEffect rules action resource).getD init := by
    induction rules with
    | nil => exact fun init => rfl
    | cons rule rules ih =>
      intro init
      rw [foldl_cons, ih, lastEffect_cons]
      cases lastEffect rules action resource <;> cases rule.appliesTo action resource <;> simp
  exact hgen .ask

/-! ### Patterns without wildcards -/

lemma literal_matches {pattern input : Text} (h : ∀ u ∈ pattern, u ≠ star ∧ u ≠ question) :
    patternMatches pattern input = true ↔ input = pattern := by
  rw [patternMatches, map_symOf_lit h, accepts_lits]

set_option maxRecDepth 4000 in
lemma externalDirectory_literal : ∀ u ∈ externalDirectory, u ≠ star ∧ u ≠ question := by
  simp [externalDirectory, units, star, question]

lemma externalDirectory_matches {action : Text} :
    patternMatches externalDirectory action = true ↔ action = externalDirectory :=
  literal_matches externalDirectory_literal

/-- A text of a tool's kind: it begins with `b` and has no wildcard. -/
def ToolText (text : Text) : Prop :=
  text.head? = some 0x62 ∧ ∀ u ∈ text, u ≠ star ∧ u ≠ question

lemma ToolText.ne_externalDirectory {text : Text} (h : ToolText text) :
    text ≠ externalDirectory := by
  rintro rfl
  exact absurd h.1 (by simp [externalDirectory, units])

set_option maxRecDepth 4000 in
lemma toolText_legacy : ∀ entry ∈ LEGACY_TOOL_ALIASES, ToolText (units entry.1) := by
  simp [LEGACY_TOOL_ALIASES, ToolText, units, star, question]

lemma toolText_spellings {entry : String × String} (h : entry ∈ LEGACY_TOOL_ALIASES) {name : Text}
    (hname : name ∈ spellings entry.1) : ToolText name := by
  have hlegacy := toolText_legacy entry h
  have hborg : ∀ u ∈ units "borg_", u ≠ star ∧ u ≠ question := by
    simp [units, star, question]
  simp only [spellings, mem_cons, not_mem_nil, or_false] at hname
  rcases hname with rfl | rfl
  · refine ⟨by simp [units], ?_⟩
    intro u hu
    rcases mem_append.mp hu with hu | hu
    · exact hborg u hu
    · exact hlegacy.2 u hu
  · exact hlegacy

lemma isToolUnit_literal {u : UInt16} (h : isToolUnit u = true) : u ≠ star ∧ u ≠ question := by
  constructor <;> rintro rfl <;> exact absurd h (by decide)

lemma toolText_tool {tool : Text} (h : tool ∈ OPENCODE_V2_COORDINATION_TOOLS) : ToolText tool := by
  obtain ⟨name, -, rfl⟩ := mem_map.mp h
  refine ⟨by simp [units, isToolUnit], ?_⟩
  intro u hu
  obtain ⟨v, -, rfl⟩ := mem_map.mp hu
  split_ifs with hv
  · exact isToolUnit_literal hv
  · decide

lemma mem_toolPolicySpellings {name spelling : Text} (h : spelling ∈ toolPolicySpellings name) :
    spelling = name ∨ ∃ entry ∈ LEGACY_TOOL_ALIASES, spelling ∈ spellings entry.1 := by
  unfold toolPolicySpellings at h
  split at h
  · rename_i old hold
    simp only [mem_cons, not_mem_nil, or_false] at h
    rcases h with rfl | rfl
    · exact .inl rfl
    · obtain ⟨entry, hentry, hbind⟩ := exists_of_findSome?_eq_some hold
      obtain ⟨index, -, hget⟩ := Option.bind_eq_some_iff.mp hbind
      exact .inr ⟨entry, hentry, mem_of_getElem? hget⟩
  · exact .inl (mem_singleton.mp h)

lemma toolText_toolPolicySpellings {tool name : Text}
    (htool : tool ∈ OPENCODE_V2_COORDINATION_TOOLS) (h : name ∈ toolPolicySpellings tool) :
    ToolText name := by
  rcases mem_toolPolicySpellings h with rfl | ⟨entry, hentry, hname⟩
  · exact toolText_tool htool
  · exact toolText_spellings hentry hname

lemma catchAll_matches {text : Text} (h : ∀ u ∈ text, isTerminator u = false) :
    patternMatches catchAll text = true :=
  accepts_stars (by simp [catchAll, symOf_star]) (by simp [catchAll])
    (fun u hu => by simp [h u hu])

/-! ### Scoped rules -/

lemma append_matches {directory pattern text : Text}
    (hlit : ∀ u ∈ directory, u ≠ star ∧ u ≠ question) :
    patternMatches (directory ++ pattern) text = true ↔
      ∃ rest, text = directory ++ rest ∧ patternMatches pattern rest = true := by
  unfold patternMatches
  rw [map_append, map_symOf_lit hlit]
  constructor
  · exact split_of_accepts_lits
  · rintro ⟨rest, rfl, h⟩
    rw [accepts_lits_append]
    exact h

lemma stars_match {pattern : Text} (hne : pattern ≠ []) (hstars : ∀ u ∈ pattern, u = star)
    {text : Text} (h : ∀ u ∈ text, isTerminator u = false) : patternMatches pattern text = true :=
  accepts_stars (by
      intro t ht
      obtain ⟨u, hu, rfl⟩ := mem_map.mp ht
      rw [hstars u hu, symOf_star])
    (by simpa using hne) (fun u hu => by simp [h u hu])

/-- Scoping meets the pattern with the directory. -/
theorem scopeDirectoryPattern_matches {pattern directory text : Text}
    (hlit : ∀ u ∈ directory, u ≠ star ∧ u ≠ question)
    (htext : ∀ u ∈ text, isTerminator u = false) :
    (∃ scopedPattern ∈ scopeDirectoryPattern pattern directory,
        patternMatches scopedPattern text = true) ↔
      directory <+: text ∧ patternMatches pattern text = true := by
  unfold scopeDirectoryPattern
  split_ifs with hstars
  · rw [and_iff_left (stars_match hstars.1 hstars.2 htext)]
    simp only [mem_singleton, exists_eq_left, append_matches hlit]
    constructor
    · rintro ⟨rest, rfl, -⟩
      exact prefix_append directory rest
    · rintro ⟨rest, rfl⟩
      exact ⟨rest, rfl, catchAll_matches (fun u hu => htext u (mem_append_right _ hu))⟩
  · have hreached : ∀ rest, text = directory ++ rest →
        (AcceptsAt pattern (reached pattern directory) rest ↔
          patternMatches pattern text = true) := by
      rintro rest rfl
      refine acceptsAt_reached ?_ rest
      intro u hu
      simp [dot, htext u (mem_append_left _ hu)]
    constructor
    · rintro ⟨scopedPattern, hmem, hmatch⟩
      obtain ⟨i, hi, rfl⟩ := mem_map.mp (mem_setOf.mp hmem)
      obtain ⟨rest, hrest, hleft⟩ := (append_matches hlit).mp hmatch
      exact ⟨⟨rest, hrest.symm⟩, (hreached rest hrest).mp ⟨i, hi, hleft⟩⟩
    · rintro ⟨⟨rest, hrest⟩, hmatch⟩
      obtain ⟨i, hi, hleft⟩ := (hreached rest hrest.symm).mpr hmatch
      exact ⟨directory ++ pattern.drop i, mem_setOf.mpr (mem_map_of_mem hi),
        (append_matches hlit).mpr ⟨rest, hrest.symm, hleft⟩⟩

/-- A scoped pattern accepts texts of its directory only. -/
lemma prefix_of_scoped {pattern directory text scopedPattern : Text}
    (hlit : ∀ u ∈ directory, u ≠ star ∧ u ≠ question)
    (hmem : scopedPattern ∈ scopeDirectoryPattern pattern directory)
    (hmatch : patternMatches scopedPattern text = true) : directory <+: text := by
  obtain ⟨rest, rfl⟩ : ∃ rest, scopedPattern = directory ++ rest := by
    unfold scopeDirectoryPattern at hmem
    split_ifs at hmem
    · exact ⟨[star], mem_singleton.mp hmem⟩
    · obtain ⟨i, -, rfl⟩ := mem_map.mp (mem_setOf.mp hmem)
      exact ⟨_, rfl⟩
  obtain ⟨rest', rfl, -⟩ := (append_matches hlit).mp hmatch
  exact prefix_append directory rest'

lemma lastEffect_uniform {rules : List OpenCodeV2Permission} {action resource : Text}
    {effect : Effect} (h : ∀ rule ∈ rules, rule.effect = effect) :
    lastEffect rules action resource =
      if ∃ rule ∈ rules, rule.appliesTo action resource = true then some effect else none := by
  split_ifs with hex
  · cases hl : lastEffect rules action resource with
    | none =>
      obtain ⟨rule, hr, ha⟩ := hex
      rw [lastEffect, Option.map_eq_none_iff, getLast?_eq_none_iff, filter_eq_nil_iff] at hl
      exact absurd ha (hl rule hr)
    | some effect' =>
      obtain ⟨rule, hr, -, rfl⟩ := exists_of_lastEffect hl
      rw [h rule hr]
  · push Not at hex
    exact lastEffect_eq_none (fun rule hr => by simpa using hex rule hr)

/-- Inside the directory, scoped rules decide as the rules do. -/
theorem lastEffect_scopedRules {directory text action : Text}
    (hlit : ∀ u ∈ directory, u ≠ star ∧ u ≠ question)
    (htext : ∀ u ∈ text, isTerminator u = false) (hin : directory <+: text)
    (rules : List OpenCodeV2Permission) :
    lastEffect (scopedRules directory rules) action text = lastEffect rules action text := by
  induction rules with
  | nil => rfl
  | cons rule rules ih =>
    have hhead : lastEffect ((scopeDirectoryPattern rule.resource directory).map
          (fun resource => { rule with resource })) action text =
        if rule.appliesTo action text then some rule.effect else none := by
      have huniform : ∀ scopedRule ∈ (scopeDirectoryPattern rule.resource directory).map
          (fun resource => { rule with resource }), scopedRule.effect = rule.effect := by simp
      rw [lastEffect_uniform huniform]
      refine if_congr ?_ rfl rfl
      have hscope := @scopeDirectoryPattern_matches rule.resource directory text hlit htext
      simp only [mem_map, exists_exists_and_eq_and, OpenCodeV2Permission.appliesTo,
        Bool.and_eq_true]
      constructor
      · rintro ⟨resource, hmem, haction, hmatch⟩
        exact ⟨haction, (hscope.mp ⟨resource, hmem, hmatch⟩).2⟩
      · rintro ⟨haction, hmatch⟩
        obtain ⟨resource, hmem, hmatch⟩ := hscope.mpr ⟨hin, hmatch⟩
        exact ⟨resource, hmem, haction, hmatch⟩
    have hsplit : scopedRules directory (rule :: rules) =
        (scopeDirectoryPattern rule.resource directory).map
          (fun resource => { rule with resource }) ++ scopedRules directory rules := flatMap_cons
    rw [hsplit, lastEffect_append, ih, hhead, lastEffect_cons]

/-! ### Shadowed rules -/

lemma lastIndex_of_later {rules : List OpenCodeV2Permission} {resource : Text} (k : ℕ)
    (last : Text → Option ℕ)
    (h : ∀ rule ∈ rules, rule.action = externalDirectory → rule.resource ≠ resource) :
    lastIndex (rules.zipIdx k) last resource = last resource := by
  induction rules generalizing k last with
  | nil => rfl
  | cons rule rules ih =>
    rw [zipIdx_cons, lastIndex, foldl_cons]
    refine (ih (k + 1) _ (fun rule hr => h rule (mem_cons_of_mem _ hr))).trans ?_
    split_ifs with haction
    · exact Function.update_of_ne (h rule mem_cons_self haction).symm _ _
    · rfl

/-- Removing what a later rule shadows changes no effect. -/
lemma lastEffect_unshadowed (rules : List OpenCodeV2Permission) (action resource : Text) (k : ℕ)
    (last : Text → Option ℕ) :
    lastEffect (((rules.zipIdx k).filter (fun entry =>
        entry.1.action ≠ externalDirectory ∨
          lastIndex (rules.zipIdx k) last entry.1.resource = some entry.2)).map Prod.fst)
      action resource = lastEffect rules action resource := by
  induction rules generalizing k last with
  | nil => rfl
  | cons rule rules ih =>
    rw [zipIdx_cons]
    set last' : Text → Option ℕ := if rule.action = externalDirectory then
      Function.update last rule.resource (some k) else last with hlast'
    have hindex : lastIndex ((rule, k) :: rules.zipIdx (k + 1)) last =
        lastIndex (rules.zipIdx (k + 1)) last' := rfl
    rw [hindex, filter_cons]
    split_ifs with hkept
    · rw [map_cons, lastEffect_cons, ih (k + 1) last', lastEffect_cons]
    · rw [ih (k + 1) last', lastEffect_cons]
      simp only [decide_eq_true_eq, not_or, not_not] at hkept
      obtain ⟨haction, hshadow⟩ := hkept
      obtain ⟨later, hlater, hlaterAction, hlaterResource⟩ : ∃ later ∈ rules,
          later.action = externalDirectory ∧ later.resource = rule.resource := by
        by_contra hnone
        push Not at hnone
        rw [lastIndex_of_later (k + 1) last' hnone, hlast', if_pos haction,
          Function.update_self] at hshadow
        exact hshadow rfl
      cases hrest : lastEffect rules action resource with
      | some effect => rfl
      | none =>
        have hnot : rule.appliesTo action resource = false := by
          by_contra happly
          rw [lastEffect, Option.map_eq_none_iff, getLast?_eq_none_iff,
            filter_eq_nil_iff] at hrest
          refine hrest later hlater ?_
          rw [OpenCodeV2Permission.appliesTo, hlaterAction, hlaterResource, ← haction]
          simpa [OpenCodeV2Permission.appliesTo] using happly
        simp [hnot]

lemma lastEffect_dropShadowed (combined : List OpenCodeV2Permission) (action resource : Text) :
    lastEffect (dropShadowed combined) action resource = lastEffect combined action resource :=
  lastEffect_unshadowed combined action resource 0 (fun _ => none)

/-! ### The boundary -/

lemma boundary_append (rules : List OpenCodeV2Permission) (rule : OpenCodeV2Permission) :
    boundary (rules ++ [rule]) =
      if rule.resource = catchAll then rules.length + 1 else boundary rules := by
  simp [boundary, zipIdx_append, foldl_append]

lemma boundary_le (rules : List OpenCodeV2Permission) : boundary rules ≤ rules.length := by
  induction rules using reverseRecOn with
  | nil => exact Nat.le_refl 0
  | append_singleton rules rule ih =>
    rw [boundary_append, length_append, length_singleton]
    split_ifs <;> omega

/-- Behind the boundary are the rules after the last catch-all. -/
lemma drop_boundary (rules : List OpenCodeV2Permission) :
    rules.drop (boundary rules) = rules.rtakeWhile (fun rule => rule.resource ≠ catchAll) := by
  induction rules using reverseRecOn with
  | nil => rfl
  | append_singleton rules rule ih =>
    rw [boundary_append]
    split_ifs with hrule
    · rw [rtakeWhile_concat_neg _ _ _ (by simpa using hrule)]
      exact drop_eq_nil_of_le (by simp)
    · rw [rtakeWhile_concat_pos _ _ _ (by simpa using hrule),
        drop_append_of_le_length (boundary_le rules), ih]

/-- Before the boundary is nothing, or the last rule is a catch-all. -/
lemma take_boundary (rules : List OpenCodeV2Permission) :
    rules.take (boundary rules) = [] ∨ ∃ before rule,
      rules.take (boundary rules) = before ++ [rule] ∧ rule ∈ rules ∧ rule.resource = catchAll := by
  induction rules using reverseRecOn with
  | nil => exact .inl rfl
  | append_singleton rules rule ih =>
    rw [boundary_append]
    split_ifs with hrule
    · exact .inr ⟨rules, rule, take_of_length_le (by simp), by simp, hrule⟩
    · rw [take_append_of_le_length (boundary_le rules)]
      rcases ih with h | ⟨before, last, htake, hmem, hlast⟩
      · exact .inl h
      · exact .inr ⟨before, last, htake, mem_append_left _ hmem, hlast⟩

lemma mem_of_drop_boundary {rules : List OpenCodeV2Permission} {rule : OpenCodeV2Permission}
    (h : rule ∈ rules.drop (boundary rules)) : rule ∈ rules ∧ rule.resource ≠ catchAll := by
  refine ⟨mem_of_mem_drop h, ?_⟩
  rw [drop_boundary] at h
  simpa using mem_rtakeWhile_imp h

/-! ### Directory rules -/

lemma directoryRules_action {rules : List OpenCodeV2Permission} {rule : OpenCodeV2Permission}
    (h : rule ∈ directoryRules rules) : rule.action = externalDirectory := by
  obtain ⟨_, -, rfl⟩ := mem_map.mp h
  rfl

lemma appliesTo_directory {rule : OpenCodeV2Permission} (h : rule.action = externalDirectory)
    (resource : Text) :
    rule.appliesTo externalDirectory resource = patternMatches rule.resource resource := by
  rw [OpenCodeV2Permission.appliesTo, h, externalDirectory_matches.mpr rfl, Bool.true_and]

lemma lastEffect_directoryRules (rules : List OpenCodeV2Permission) (resource : Text) :
    lastEffect (directoryRules rules) externalDirectory resource =
      lastEffect rules externalDirectory resource := by
  induction rules with
  | nil => rfl
  | cons rule rules ih =>
    rw [lastEffect_cons, ← ih]
    cases hmatch : patternMatches rule.action externalDirectory with
    | false =>
      have hsame : directoryRules (rule :: rules) = directoryRules rules := by
        simp [directoryRules, hmatch]
      rw [hsame, OpenCodeV2Permission.appliesTo, hmatch]
      simp
    | true =>
      have hsplit : directoryRules (rule :: rules) =
          { rule with action := externalDirectory } :: directoryRules rules := by
        simp [directoryRules, hmatch]
      rw [hsplit, lastEffect_cons, appliesTo_directory rfl, OpenCodeV2Permission.appliesTo, hmatch,
        Bool.true_and]

/-! ### Grants -/

/-- A grant of the launch: everything in a directory whose name has no wildcard. -/
structure IsGrant (grant : OpenCodeV2Permission) : Prop where
  action : grant.action = externalDirectory
  effect : grant.effect = .allow
  literal : ∀ u ∈ grant.resource.dropLast, u ≠ star ∧ u ≠ question
  resource : grant.resource = grant.resource.dropLast ++ catchAll

lemma accessResource_eq (pathname : Text) :
    ∃ directory, accessResource pathname = directory ++ [slash] ++ catchAll ∧
      ∀ u ∈ directory, u = slash ∨ u ∈ pathname := by
  have hunits : ∀ u ∈ pathname.map (fun u => if u = backslash then slash else u),
      u = slash ∨ u ∈ pathname := by
    intro u hu
    obtain ⟨v, hv, rfl⟩ := mem_map.mp hu
    split_ifs
    · exact .inl rfl
    · exact .inr hv
  unfold accessResource
  dsimp only
  split_ifs
  · exact ⟨_, by simp [catchAll], fun u hu => hunits u (mem_of_mem_dropLast hu)⟩
  · exact ⟨_, by simp [catchAll], hunits⟩

lemma mem_accessGrants {rules : List OpenCodeV2Permission} {dirs : List Text}
    {grant : OpenCodeV2Permission} (h : grant ∈ accessGrants rules dirs) :
    ∃ pathname ∈ dirs, (∀ u ∈ pathname, u ≠ star ∧ u ≠ question) ∧
      grant = ⟨externalDirectory, accessResource pathname, .allow⟩ ∧
      explicitlyRestricted rules grant.resource = false ∧
      effectiveOpenCodeV2Permission rules externalDirectory grant.resource = .ask := by
  obtain ⟨pathname, hmem, hgrant⟩ := mem_flatMap.mp h
  unfold accessDecision at hgrant
  split_ifs at hgrant with hwild
  · exact absurd hgrant not_mem_nil
  · dsimp only at hgrant
    split_ifs at hgrant with hask
    · have heq := mem_singleton.mp hgrant
      refine ⟨pathname, mem_setOf.mp hmem, ?_, heq, ?_⟩
      · intro u hu
        by_contra hbad
        refine hwild (any_eq_true.mpr ⟨u, hu, ?_⟩)
        rw [decide_eq_true_eq]
        tauto
      · rw [heq]
        exact hask
    · exact absurd hgrant not_mem_nil

lemma isGrant_of_mem {rules : List OpenCodeV2Permission} {dirs : List Text}
    {grant : OpenCodeV2Permission} (h : grant ∈ accessGrants rules dirs) : IsGrant grant := by
  obtain ⟨pathname, -, hliteral, rfl, -, -⟩ := mem_accessGrants h
  obtain ⟨directory, hresource, hunits⟩ := accessResource_eq pathname
  have hdrop : (accessResource pathname).dropLast = directory ++ [slash] := by
    rw [hresource]
    exact dropLast_concat
  refine ⟨rfl, rfl, ?_, ?_⟩
  · intro u hu
    rw [hdrop, mem_append, mem_singleton] at hu
    rcases hu with hu | rfl
    · rcases hunits u hu with rfl | hu
      · decide
      · exact hliteral u hu
    · decide
  · rw [hdrop, hresource]

lemma grant_text {rules : List OpenCodeV2Permission} {dirs : List Text}
    (hdirs : ∀ pathname ∈ dirs, ∀ u ∈ pathname, isTerminator u = false)
    {grant : OpenCodeV2Permission} (h : grant ∈ accessGrants rules dirs) :
    ∀ u ∈ grant.resource, isTerminator u = false := by
  obtain ⟨pathname, hmem, -, rfl, -, -⟩ := mem_accessGrants h
  obtain ⟨directory, hresource, hunits⟩ := accessResource_eq pathname
  intro u hu
  rw [hresource, append_assoc, mem_append] at hu
  rcases hu with hu | hu
  · rcases hunits u hu with rfl | hu
    · decide
    · exact hdirs pathname hmem u hu
  · simp only [catchAll, cons_append, nil_append, mem_cons, not_mem_nil, or_false] at hu
    rcases hu with rfl | rfl <;> decide

/-- The effect a grant leaves inside its directory: a later rule's, else `allow`. -/
def grantedEffect (rules : List OpenCodeV2Permission) (resource : Text) : Effect :=
  (lastEffect ((directoryRules rules).rtakeWhile (fun rule => rule.resource ≠ catchAll))
    externalDirectory resource).getD .allow

/-- Inside the directory of a grant. -/
def Granted (grants : List OpenCodeV2Permission) (resource : Text) : Prop :=
  ∃ grant ∈ grants, grant.resource.dropLast <+: resource

lemma grantAdditions_inside {rules : List OpenCodeV2Permission} {grant : OpenCodeV2Permission}
    (hgrant : IsGrant grant) {resource : Text} (htext : ∀ u ∈ resource, isTerminator u = false)
    (hin : grant.resource.dropLast <+: resource) :
    lastEffect (grantAdditions (directoryRules rules) grant) externalDirectory resource =
      some (grantedEffect rules resource) := by
  have happly : grant.appliesTo externalDirectory resource = true := by
    rw [appliesTo_directory hgrant.action, hgrant.resource, append_matches hgrant.literal]
    obtain ⟨rest, rfl⟩ := hin
    exact ⟨rest, rfl, catchAll_matches (fun u hu => htext u (mem_append_right _ hu))⟩
  unfold grantAdditions
  dsimp only
  rw [lastEffect_append, lastEffect_append, lastEffect_singleton, happly, if_pos rfl,
    hgrant.effect, lastEffect_scopedRules hgrant.literal htext hin, grantedEffect, drop_boundary]
  cases lastEffect ((directoryRules rules).rtakeWhile (fun rule => rule.resource ≠ catchAll))
    externalDirectory resource <;> rfl

lemma mem_grantAdditions {rules : List OpenCodeV2Permission} {grant rule : OpenCodeV2Permission}
    (h : rule ∈ grantAdditions rules grant) : rule = grant ∨ ∃ source ∈ rules,
      rule.action = source.action ∧
        rule.resource ∈ scopeDirectoryPattern source.resource grant.resource.dropLast := by
  have hscoped : ∀ entries, entries ⊆ rules →
      rule ∈ scopedRules grant.resource.dropLast entries → ∃ source ∈ rules,
        rule.action = source.action ∧
          rule.resource ∈ scopeDirectoryPattern source.resource grant.resource.dropLast := by
    intro entries hsub hmem
    obtain ⟨source, hsource, hrule⟩ := mem_flatMap.mp hmem
    obtain ⟨resource, hresource, rfl⟩ := mem_map.mp hrule
    exact ⟨source, hsub hsource, rfl, hresource⟩
  unfold grantAdditions at h
  dsimp only at h
  rw [mem_append, mem_append, mem_singleton] at h
  rcases h with (h | h) | h
  · exact .inr (hscoped _ (take_subset _ _) h)
  · exact .inl h
  · exact .inr (hscoped _ (drop_subset _ _) h)

lemma grantAdditions_action {rules : List OpenCodeV2Permission}
    {grant rule : OpenCodeV2Permission} (hgrant : IsGrant grant)
    (h : rule ∈ grantAdditions (directoryRules rules) grant) :
    rule.action = externalDirectory := by
  rcases mem_grantAdditions h with rfl | ⟨source, hsource, haction, -⟩
  · exact hgrant.action
  · rw [haction, directoryRules_action hsource]

lemma grantAdditions_outside {rules : List OpenCodeV2Permission} {grant : OpenCodeV2Permission}
    (hgrant : IsGrant grant) {resource : Text} (hout : ¬grant.resource.dropLast <+: resource) :
    lastEffect (grantAdditions (directoryRules rules) grant) externalDirectory resource = none := by
  refine lastEffect_eq_none ?_
  intro rule hrule
  rw [appliesTo_directory (grantAdditions_action hgrant hrule)]
  by_contra hmatch
  rw [Bool.not_eq_false] at hmatch
  rcases mem_grantAdditions hrule with rfl | ⟨source, -, -, hscope⟩
  · rw [hgrant.resource, append_matches hgrant.literal] at hmatch
    obtain ⟨rest, rfl, -⟩ := hmatch
    exact hout (prefix_append _ rest)
  · exact hout (prefix_of_scoped hgrant.literal hscope hmatch)

/-- All grants together leave one effect inside their directories and none outside. -/
theorem lastEffect_additions {rules grants : List OpenCodeV2Permission}
    (hgrants : ∀ grant ∈ grants, IsGrant grant) (resource : Text) :
    (Granted grants resource → (∀ u ∈ resource, isTerminator u = false) →
      lastEffect (grants.flatMap (grantAdditions (directoryRules rules))) externalDirectory
        resource = some (grantedEffect rules resource)) ∧
    (¬Granted grants resource →
      lastEffect (grants.flatMap (grantAdditions (directoryRules rules))) externalDirectory
        resource = none) := by
  induction grants with
  | nil => exact ⟨fun h => by simp [Granted] at h, fun _ => rfl⟩
  | cons grant grants ih =>
    have ih := ih (fun g hg => hgrants g (mem_cons_of_mem grant hg))
    have hgrant := hgrants grant mem_cons_self
    rw [flatMap_cons, lastEffect_append]
    constructor
    · intro hin htext
      by_cases hrest : Granted grants resource
      · rw [ih.1 hrest htext]
        rfl
      · rw [ih.2 hrest, Option.none_or]
        obtain ⟨g, hg, hprefix⟩ := hin
        rcases mem_cons.mp hg with rfl | hg
        · exact grantAdditions_inside hgrant htext hprefix
        · exact absurd ⟨g, hg, hprefix⟩ hrest
    · intro hout
      rw [ih.2 (fun ⟨g, hg, hprefix⟩ => hout ⟨g, mem_cons_of_mem grant hg, hprefix⟩),
        Option.none_or]
      exact grantAdditions_outside hgrant (fun hin => hout ⟨grant, mem_cons_self, hin⟩)

/-! ### Before and after -/

lemma updated_eq {host : LaunchHost} {agent : List OpenCodeV2Permission}
    {session : Option (List OpenCodeV2Permission)} {skip : Bool} {dirs : List Text}
    {warnings : List LaunchWarning} {updated rules : List OpenCodeV2Permission}
    (hrules : rules = agent ++ session.getD [])
    (h : applyOpenCodeV2LaunchPermissions host agent session skip dirs =
      .ok (warnings, some updated)) :
    updated = (if accessGrants rules dirs ≠ [] then
        dropShadowed (session.getD [] ++
          (accessGrants rules dirs).flatMap (grantAdditions (directoryRules rules)))
      else session.getD []) ++ (if skip then [] else toolAllows rules) := by
  unfold applyOpenCodeV2LaunchPermissions at h
  dsimp only at h
  rw [← hrules] at h
  by_cases hmigrated : host.toolNamesMigrated rules = false
  · rw [if_pos hmigrated] at h
    cases h
  by_cases hcanonical :
      ((OpenCode.setOf dirs).any fun pathname => !host.isCanonicalPath pathname) = true
  · rw [if_neg hmigrated, if_pos hcanonical] at h
    cases h
  rw [if_neg hmigrated, if_neg hcanonical, Except.ok.injEq, Prod.mk.injEq] at h
  have hsome := h.2
  by_cases hupdates : accessGrants rules dirs ≠ [] ∨
      ((restrictive rules).length ≠ 0 ∧ skip = false)
  · rw [if_pos hupdates, Option.some.injEq] at hsome
    exact hsome.symm
  · rw [if_neg hupdates] at hsome
    cases hsome

/-- What decides after the update: the tool approvals, the grants, and the rules from before. -/
lemma lastEffect_updated {host : LaunchHost} {agent : List OpenCodeV2Permission}
    {session : Option (List OpenCodeV2Permission)} {skip : Bool} {dirs : List Text}
    {warnings : List LaunchWarning} {updated rules : List OpenCodeV2Permission}
    (hrules : rules = agent ++ session.getD [])
    (h : applyOpenCodeV2LaunchPermissions host agent session skip dirs =
      .ok (warnings, some updated)) (action resource : Text) :
    lastEffect (agent ++ updated) action resource =
      ((lastEffect (if skip then [] else toolAllows rules) action resource).or
        (lastEffect ((accessGrants rules dirs).flatMap (grantAdditions (directoryRules rules)))
          action resource)).or (lastEffect rules action resource) := by
  have hpermissions : lastEffect (if accessGrants rules dirs ≠ [] then
        dropShadowed (session.getD [] ++
          (accessGrants rules dirs).flatMap (grantAdditions (directoryRules rules)))
      else session.getD []) action resource = lastEffect (session.getD [] ++
        (accessGrants rules dirs).flatMap (grantAdditions (directoryRules rules)))
          action resource := by
    split_ifs with haccess
    · exact lastEffect_dropShadowed _ _ _
    · rw [not_not.mp haccess, flatMap_nil, append_nil]
  rw [updated_eq hrules h, lastEffect_append, lastEffect_append, hpermissions, lastEffect_append,
    hrules, lastEffect_append agent]
  simp only [Option.or_assoc]

/-- Approvals and grants decide nothing but their own actions. -/
lemma toolAllows_other {rules : List OpenCodeV2Permission} {action : Text}
    (h : action ∉ (restrictive rules).flatMap toolPolicySpellings) (resource : Text) :
    lastEffect (toolAllows rules) action resource = none := by
  refine lastEffect_eq_none ?_
  intro rule hrule
  obtain ⟨name, hname, rfl⟩ := mem_map.mp hrule
  obtain ⟨tool, htool, hspelling⟩ := mem_flatMap.mp hname
  have hliteral := toolText_toolPolicySpellings (mem_of_mem_filter htool) hspelling
  rw [OpenCodeV2Permission.appliesTo, Bool.and_eq_false_iff]
  left
  by_contra hmatch
  rw [Bool.not_eq_false, literal_matches hliteral.2] at hmatch
  exact h (hmatch ▸ hname)

lemma externalDirectory_not_tool (rules : List OpenCodeV2Permission) :
    externalDirectory ∉ (restrictive rules).flatMap toolPolicySpellings := by
  intro h
  obtain ⟨tool, htool, hspelling⟩ := mem_flatMap.mp h
  exact (toolText_toolPolicySpellings (mem_of_mem_filter htool) hspelling).ne_externalDirectory rfl

lemma additions_other {rules : List OpenCodeV2Permission} {dirs : List Text} {action : Text}
    (h : action ≠ externalDirectory) (resource : Text) :
    lastEffect ((accessGrants rules dirs).flatMap (grantAdditions (directoryRules rules)))
      action resource = none := by
  refine lastEffect_eq_none ?_
  intro rule hrule
  obtain ⟨grant, hgrant, hmem⟩ := mem_flatMap.mp hrule
  rw [OpenCodeV2Permission.appliesTo, grantAdditions_action (isGrant_of_mem hgrant) hmem,
    Bool.and_eq_false_iff]
  left
  by_contra hmatch
  rw [Bool.not_eq_false, externalDirectory_matches] at hmatch
  exact h hmatch

lemma lastEffect_allows_directory (rules : List OpenCodeV2Permission) (skip : Bool)
    (resource : Text) :
    lastEffect (if skip then [] else toolAllows rules) externalDirectory resource = none := by
  split_ifs
  · rfl
  · exact toolAllows_other (externalDirectory_not_tool rules) resource

/-- What the rules denied inside a grant, a rule behind the boundary denies. -/
lemma denied_behind_boundary {rules : List OpenCodeV2Permission} {dirs : List Text}
    (hdirs : ∀ pathname ∈ dirs, ∀ u ∈ pathname, isTerminator u = false)
    {resource : Text} (htext : ∀ u ∈ resource, isTerminator u = false)
    (hin : Granted (accessGrants rules dirs) resource)
    (hdeny : effectiveOpenCodeV2Permission rules externalDirectory resource = .deny) :
    grantedEffect rules resource = .deny := by
  obtain ⟨grant, hgrant, -⟩ := hin
  obtain ⟨-, -, -, -, hexplicit, hask⟩ := mem_accessGrants hgrant
  have hgrantText := grant_text hdirs hgrant
  set directory := directoryRules rules with hdirectory
  have hsplit : ∀ text, lastEffect rules externalDirectory text =
      (lastEffect (directory.drop (boundary directory)) externalDirectory text).or
        (lastEffect (directory.take (boundary directory)) externalDirectory text) := by
    intro text
    rw [← lastEffect_append, take_append_drop, hdirectory, lastEffect_directoryRules]
  -- A rule behind the boundary that meets the grant would have been explicit.
  have hnone : lastEffect (directory.drop (boundary directory)) externalDirectory
      grant.resource = none := by
    cases hlast : lastEffect (directory.drop (boundary directory)) externalDirectory
        grant.resource with
    | none => rfl
    | some effect =>
      have heffect : effect = .ask := by
        rw [effective_eq_lastEffect, hsplit, hlast] at hask
        exact hask
      obtain ⟨rule, hrule, happly, hruleEffect⟩ := exists_of_lastEffect hlast
      obtain ⟨hmem, hresource⟩ := mem_of_drop_boundary hrule
      obtain ⟨source, hsource, rfl⟩ := mem_map.mp hmem
      obtain ⟨hsource, haction⟩ := mem_filter.mp hsource
      rw [appliesTo_directory rfl] at happly
      have hexplicit' : explicitlyRestricted rules grant.resource = true := by
        refine any_eq_true.mpr ⟨source, hsource, ?_⟩
        have hnot : source.effect ≠ .allow := by
          rw [hruleEffect, heffect]
          decide
        simp only [haction, happly, Bool.true_and, Bool.and_eq_true, decide_eq_true_eq]
        exact ⟨⟨hresource, trivial⟩, hnot⟩
      rw [hexplicit] at hexplicit'
      cases hexplicit'
  rw [grantedEffect, ← drop_boundary, ← hdirectory]
  cases hpost : lastEffect (directory.drop (boundary directory)) externalDirectory resource with
  | some effect =>
    rw [effective_eq_lastEffect, hsplit, hpost] at hdeny
    exact hdeny
  | none =>
    exfalso
    rcases take_boundary directory with htake | ⟨before, rule, htake, hmem, hcatch⟩
    · rw [effective_eq_lastEffect, hsplit, hpost, htake] at hdeny
      cases hdeny
    · have hlast : ∀ text : Text, (∀ u ∈ text, isTerminator u = false) →
          lastEffect (directory.take (boundary directory)) externalDirectory text =
            some rule.effect := by
        intro text hunits
        have happly : rule.appliesTo externalDirectory text = true := by
          rw [appliesTo_directory (directoryRules_action hmem), hcatch]
          exact catchAll_matches hunits
        rw [htake, lastEffect_append, lastEffect_singleton, happly]
        rfl
      rw [effective_eq_lastEffect, hsplit, hpost, hlast resource htext] at hdeny
      rw [effective_eq_lastEffect, hsplit, hnone, hlast _ hgrantText] at hask
      rw [Option.none_or, Option.getD_some] at hdeny hask
      rw [hdeny] at hask
      cases hask

/-- An update changes nothing for other actions and outside the granted directories. Inside one,
the operator's rules behind the last catch-all decide, else `allow`, and what was denied stays
denied. -/
theorem launch_never_loosens (host : LaunchHost) (agent : List OpenCodeV2Permission)
    (session : Option (List OpenCodeV2Permission)) (skip : Bool) (dirs : List Text)
    (hdirs : ∀ pathname ∈ dirs, ∀ u ∈ pathname, isTerminator u = false)
    (warnings : List LaunchWarning) (updated rules after : List OpenCodeV2Permission)
    (hrules : rules = agent ++ session.getD []) (hafter : after = agent ++ updated)
    (h : applyOpenCodeV2LaunchPermissions host agent session skip dirs =
      .ok (warnings, some updated)) :
    (∀ action, action ≠ externalDirectory →
      action ∉ (restrictive rules).flatMap toolPolicySpellings → ∀ resource,
        effectiveOpenCodeV2Permission after action resource =
          effectiveOpenCodeV2Permission rules action resource) ∧
    (∀ resource, ¬Granted (accessGrants rules dirs) resource →
      effectiveOpenCodeV2Permission after externalDirectory resource =
        effectiveOpenCodeV2Permission rules externalDirectory resource) ∧
    (∀ resource, (∀ u ∈ resource, isTerminator u = false) →
      Granted (accessGrants rules dirs) resource →
        effectiveOpenCodeV2Permission after externalDirectory resource =
          grantedEffect rules resource) ∧
    (∀ resource, (∀ u ∈ resource, isTerminator u = false) →
      effectiveOpenCodeV2Permission rules externalDirectory resource = .deny →
        effectiveOpenCodeV2Permission after externalDirectory resource = .deny) := by
  have hadditions := @lastEffect_additions rules (accessGrants rules dirs)
    (fun grant hgrant => isGrant_of_mem hgrant)
  have hupdated := lastEffect_updated hrules h
  rw [← hafter] at hupdated
  have houtside : ∀ resource, ¬Granted (accessGrants rules dirs) resource →
      effectiveOpenCodeV2Permission after externalDirectory resource =
        effectiveOpenCodeV2Permission rules externalDirectory resource := by
    intro resource hout
    rw [effective_eq_lastEffect, hupdated, lastEffect_allows_directory,
      (hadditions resource).2 hout, effective_eq_lastEffect]
    rfl
  have hinside : ∀ resource, (∀ u ∈ resource, isTerminator u = false) →
      Granted (accessGrants rules dirs) resource →
        effectiveOpenCodeV2Permission after externalDirectory resource =
          grantedEffect rules resource := by
    intro resource htext hin
    rw [effective_eq_lastEffect, hupdated, lastEffect_allows_directory,
      (hadditions resource).1 hin htext]
    rfl
  refine ⟨?_, houtside, hinside, ?_⟩
  · intro action hother htool resource
    have hallows : lastEffect (if skip then [] else toolAllows rules) action resource = none := by
      split_ifs
      · rfl
      · exact toolAllows_other htool resource
    rw [effective_eq_lastEffect, hupdated, hallows, additions_other hother,
      effective_eq_lastEffect]
    rfl
  · intro resource htext hdeny
    by_cases hin : Granted (accessGrants rules dirs) resource
    · rw [hinside resource htext hin]
      exact denied_behind_boundary hdirs htext hin hdeny
    · rw [houtside resource hin, hdeny]

/-- An update, where a directory is granted. -/
lemma launch_updates {host : LaunchHost} {agent : List OpenCodeV2Permission} {dirs : List Text}
    (hmigrated : host.toolNamesMigrated agent = true)
    (hcanonical : ∀ pathname ∈ dirs, host.isCanonicalPath pathname = true)
    (haccess : accessGrants agent dirs ≠ []) :
    ∃ warnings updated, applyOpenCodeV2LaunchPermissions host agent none true dirs =
      .ok (warnings, some updated) := by
  unfold applyOpenCodeV2LaunchPermissions
  dsimp only
  have hnone :
      ¬((OpenCode.setOf dirs).any fun pathname => !host.isCanonicalPath pathname) = true := by
    rw [Bool.not_eq_true, any_eq_false]
    intro pathname hmem
    simp [hcanonical pathname (mem_setOf.mp hmem)]
  have hupdates : accessGrants agent dirs ≠ [] ∨
      ((restrictive agent).length ≠ 0 ∧ true = false) := .inl haccess
  rw [Option.getD_none, append_nil, hmigrated, if_neg (by decide), if_neg hnone, if_pos hupdates]
  exact ⟨_, _, rfl⟩

/-- A launch in `/a` leaves the denied `/a/s` denied. -/
theorem launch_never_loosens_denied :
    ∃ warnings updated, applyOpenCodeV2LaunchPermissions ⟨fun _ => true, fun _ => true⟩
        [⟨externalDirectory, [slash, 0x61, slash, 0x73, star], .deny⟩] none true
        [[slash, 0x61]] = .ok (warnings, some updated) ∧
      effectiveOpenCodeV2Permission
        ([⟨externalDirectory, [slash, 0x61, slash, 0x73, star], .deny⟩] ++ updated)
        externalDirectory [slash, 0x61, slash, 0x73] = .deny := by
  set rule : OpenCodeV2Permission :=
    ⟨externalDirectory, [slash, 0x61, slash, 0x73, star], .deny⟩ with hrule
  have hother : patternMatches rule.resource (accessResource [slash, 0x61]) = false := by decide
  have hgrant : accessGrants [rule] [[slash, 0x61]] ≠ [] := by
    have hexplicit : explicitlyRestricted [rule] (accessResource [slash, 0x61]) = false := by
      simp [explicitlyRestricted, hother]
    have hask : effectiveOpenCodeV2Permission [rule] externalDirectory
        (accessResource [slash, 0x61]) = .ask := by
      simp [effectiveOpenCodeV2Permission, OpenCodeV2Permission.appliesTo, hother]
    have hplain : ¬((slash = star ∨ slash = question) ∨ (0x61 : UInt16) = star ∨
        (0x61 : UInt16) = question) := by
      decide
    simp [accessGrants, OpenCode.setOf, addNew, accessDecision, hplain, hexplicit, hask]
  have hdenied : effectiveOpenCodeV2Permission [rule] externalDirectory
      [slash, 0x61, slash, 0x73] = .deny := by
    have hmatch : patternMatches rule.resource [slash, 0x61, slash, 0x73] = true := by decide
    rw [effective_eq_lastEffect, lastEffect_singleton, appliesTo_directory rfl, hmatch]
    rfl
  obtain ⟨warnings, updated, h⟩ := @launch_updates ⟨fun _ => true, fun _ => true⟩ [rule]
    [[slash, 0x61]] rfl (fun _ _ => rfl) hgrant
  have hdirs : ∀ pathname ∈ ([[slash, 0x61]] : List Text), ∀ u ∈ pathname,
      isTerminator u = false := by
    simp [slash, isTerminator]
  have htext : ∀ u ∈ ([slash, 0x61, slash, 0x73] : Text), isTerminator u = false := by
    simp [slash, isTerminator]
  refine ⟨warnings, updated, h, ?_⟩
  exact (launch_never_loosens _ [rule] none true _ hdirs _ updated [rule] _ rfl rfl h).2.2.2
    [slash, 0x61, slash, 0x73] htext hdenied

end BorgClient.OpenCode
