import BorgClient.OpenCode.LaunchGrants

/-!
# The migration of tool names in ordered rules

`tool-name-migration.ts`: a rule that treats the old and the new name of a tool differently must
stand beside its counterpart, the same rule for the other name.
-/

namespace BorgClient.OpenCode
open List

/-! ### The check -/

def colon : UInt16 := 0x3a

/-- `selector.split(':')[0]` -/
def patternOf (selector : Text) : Text := selector.takeWhile (· ≠ colon)

/-- The same selector under the name at the other side of an alias. -/
def renamed (name other : String) (selector : Text) : Option Text :=
  ((spellings name).idxOf? (patternOf selector)).bind (fun index =>
    ((spellings other)[index]?).map (· ++ selector.drop (patternOf selector).length))

def counterpart (selector : Text) : Option Text :=
  LEGACY_TOOL_ALIASES.findSome? (fun entry =>
    (renamed entry.1 entry.2 selector).or (renamed entry.2 entry.1 selector))

def canonicalSelector (selector : Text) : Text :=
  (LEGACY_TOOL_ALIASES.findSome? (fun entry => renamed entry.1 entry.2 selector)).getD selector

def toolUse : Text := units "tool.use"

/-- The texts of two comparable rules are equal when their fields are. -/
def comparableRule (rule : OpenCodeV2Permission) : OpenCodeV2Permission where
  action := canonicalSelector rule.action
  resource := if rule.action = toolUse then canonicalSelector rule.resource else rule.resource
  effect := rule.effect

inductive ToolNameMigrationError where
  | uncovered (oldName newName : Text)
  | unsupportedSyntax
deriving DecidableEq, Repr

/-- Whether a pattern matches one spelling of the names and not the other. -/
def differs (pattern : Text) (entry : String × String) : Bool :=
  ((spellings entry.1).zip (spellings entry.2)).any
    (fun names => patternMatches pattern names.1 != patternMatches pattern names.2)

def isBracket (u : UInt16) : Bool := u == 0x5b || u == 0x5d || u == 0x7b || u == 0x7d

def check (selector : Text) (peers : List Text) : Option ToolNameMigrationError :=
  let pattern := patternOf selector
  match LEGACY_TOOL_ALIASES.find? (fun entry =>
      differs pattern entry && !(counterpart selector).any (peers.contains ·)) with
  | some entry =>
    some (.uncovered (units "borg_" ++ units entry.1) (units "borg_" ++ units entry.2))
  | none =>
    if (decide (units "borg" <:+: pattern) || pattern.head? == some star) &&
        pattern.any isBracket then some .unsupportedSyntax
    else none

def effectText : Effect → Text
  | .allow => units "allow"
  | .deny => units "deny"
  | .ask => units "ask"

/-- `Object.entries(rule)` -/
def fields (rule : OpenCodeV2Permission) : List (Text × Text) :=
  [(units "action", rule.action), (units "resource", rule.resource),
    (units "effect", effectText rule.effect)]

/-- The elements before and behind an index. -/
def neighbors {β : Type} (values : List β) (index : ℕ) : List β :=
  (if index = 0 then none else values[index - 1]?).toList ++ (values[index + 1]?).toList

/-- `visit` of one rule, with the rules beside it as peers. Another resource than that of a tool use
is no selector. -/
def visitRule (rule : OpenCodeV2Permission) (peers : List OpenCodeV2Permission) :
    Option ToolNameMigrationError :=
  (fields rule).zipIdx.findSome? (fun entry =>
    if entry.1.1 = units "resource" ∧ rule.action ≠ toolUse then none
    else
      (check entry.1.1 (((neighbors (fields rule) entry.2).filter (·.2 == entry.1.2)).map
        (·.1))).or
      (check entry.1.2 ((peers.filter (fun peer => comparableRule peer = comparableRule rule)).filterMap
        (fun peer => (fields peer).lookup entry.1.1))))

/-- `assertToolNamePoliciesMigrated('opencode', { permissions: rules })` -/
def assertToolNamePoliciesMigrated (rules : List OpenCodeV2Permission) :
    Except ToolNameMigrationError Unit :=
  match rules.zipIdx.findSome? (fun rule => visitRule rule.1 (neighbors rules rule.2)) with
  | some error => .error error
  | none => .ok ()

/-! ### The last match -/

section LastMatch
variable {β γ : Type*} {first second : β → Bool} {effect : β → γ}

/-- A value that only one of two predicates holds of has beside it one with the same effect that
only the other holds of. -/
def Paired (first second : β → Bool) (effect : β → γ) (values : List β) : Prop :=
  ∀ index value, values[index]? = some value → first value ≠ second value →
    ∃ place partner, (place + 1 = index ∨ place = index + 1) ∧ values[place]? = some partner ∧
      first partner = second value ∧ second partner = first value ∧ effect partner = effect value

lemma Paired.symm {values : List β} (h : Paired first second effect values) :
    Paired second first effect values := by
  intro index value hvalue hne
  obtain ⟨place, partner, hplace, hpartner, hone, htwo, heffect⟩ := h index value hvalue hne.symm
  exact ⟨place, partner, hplace, hpartner, htwo, hone, heffect⟩

/-- Where the last value is one that both hold of, or neither, it is nobody's partner. -/
lemma Paired.front {values : List β} {value : β} (h : Paired first second effect (values ++ [value]))
    (hsame : first value = second value) : Paired first second effect values := by
  intro index other hother hne
  have hlt := (List.getElem?_eq_some_iff.mp hother).1
  obtain ⟨place, partner, hplace, hpartner, hone, htwo, heffect⟩ :=
    h index other (by rw [getElem?_append_left hlt, hother]) hne
  refine ⟨place, partner, hplace, ?_, hone, htwo, heffect⟩
  rcases Nat.lt_or_ge place values.length with hlt' | hge
  · rwa [getElem?_append_left hlt'] at hpartner
  · rw [getElem?_append_right hge] at hpartner
    have hmem := mem_of_getElem? hpartner
    rw [mem_singleton.mp hmem] at hone htwo
    exact absurd (htwo.symm.trans (hsame.symm.trans hone)) hne

/-- The partner of the last value stands just before it. -/
lemma Paired.last {values : List β} {value : β} (h : Paired first second effect (values ++ [value]))
    (hone : first value = true) (htwo : second value = false) :
    ((values ++ [value]).filter first).getLast?.map effect =
      ((values ++ [value]).filter second).getLast?.map effect := by
  obtain ⟨place, partner, hplace, hpartner, -, hsecond, heffect⟩ :=
    h values.length value getElem?_concat_length (by rw [hone, htwo]; decide)
  have hlt : place < values.length := by
    have := (List.getElem?_eq_some_iff.mp hpartner).1
    rw [length_append, length_singleton] at this
    omega
  rw [getElem?_append_left hlt] at hpartner
  have hlast : values.getLast? = some partner := by
    rw [getLast?_eq_getElem?, ← hpartner]
    congr 1
    omega
  obtain ⟨front, rfl⟩ := getLast?_eq_some_iff.mp hlast
  rw [filter_append, filter_append (front ++ [partner])]
  simp [filter_append, hone, htwo, hsecond, heffect]

/-- Each predicate's last value has the same effect. -/
theorem Paired.decision {values : List β} (h : Paired first second effect values) :
    (values.filter first).getLast?.map effect = (values.filter second).getLast?.map effect := by
  induction values using List.reverseRecOn with
  | nil => rfl
  | append_singleton values value ih =>
    cases hone : first value <;> cases htwo : second value
    · have hrest := ih (h.front (by rw [hone, htwo]))
      rw [filter_append, filter_append]
      simpa [hone, htwo] using hrest
    · exact (h.symm.last htwo hone).symm
    · exact h.last hone htwo
    · rw [filter_append, filter_append]
      simp [hone, htwo]

end LastMatch

/-! ### The names -/

/-- Each spelling of an old name with that of its new one. -/
def namePairs : List (Text × Text) :=
  LEGACY_TOOL_ALIASES.flatMap (fun entry => (spellings entry.1).zip (spellings entry.2))

/-- A text as one number. -/
def textCode (text : Text) : ℕ := text.foldl (fun code u => code * 65536 + u.toNat) 0

lemma names_nodup : (namePairs.map (·.1) ++ namePairs.map (·.2)).Nodup := by
  have hcodes : ((namePairs.map (·.1) ++ namePairs.map (·.2)).map textCode).Nodup := by
    decide +kernel
  exact hcodes.of_map

lemma names_plain : ∀ names ∈ namePairs,
    (names.1.all isToolUnit && names.2.all isToolUnit) = true := by
  decide +kernel

/-- No name holds a wildcard or a colon. -/
lemma toolUnit_ne {u : UInt16} (h : isToolUnit u = true) :
    u ≠ star ∧ u ≠ question ∧ u ≠ colon := by
  refine ⟨?_, ?_, ?_⟩ <;> (rintro rfl; exact absurd h (by decide))

lemma toolUse_not_plain : toolUse.all isToolUnit = false := by decide +kernel

/-- The one text a name matches is itself. -/
lemma name_matches {name : Text} (h : name.all isToolUnit = true) (input : Text) :
    patternMatches name input = true ↔ input = name :=
  literal_matches (fun u hu =>
    ⟨(toolUnit_ne (all_eq_true.mp h u hu)).1, (toolUnit_ne (all_eq_true.mp h u hu)).2.1⟩)

/-- A pattern with a colon matches no name. -/
lemma colon_matches {pattern name : Text} (hcolon : colon ∈ pattern)
    (h : name.all isToolUnit = true) : patternMatches pattern name = false := by
  by_contra hmatch
  rw [Bool.not_eq_false] at hmatch
  have hmem : Glob.Sym.lit colon ∈ pattern.map symOf := mem_map.mpr ⟨colon, hcolon, rfl⟩
  exact (toolUnit_ne (all_eq_true.mp h colon (Glob.mem_of_lit hmatch hmem))).2.2 rfl

lemma patternOf_self {selector : Text} (h : colon ∉ selector) : patternOf selector = selector := by
  rw [patternOf, takeWhile_eq_self_iff]
  intro u hu
  rw [decide_eq_true_eq]
  rintro rfl
  exact h hu

lemma renamed_pair {name other : String} {selector paired : Text} (hcolon : colon ∉ selector)
    (h : renamed name other selector = some paired) :
    (selector, paired) ∈ (spellings name).zip (spellings other) := by
  rw [renamed, patternOf_self hcolon, drop_length] at h
  obtain ⟨index, hindex, hpaired⟩ := Option.bind_eq_some_iff.mp h
  obtain ⟨text, htext, rfl⟩ := Option.map_eq_some_iff.mp hpaired
  rw [append_nil]
  have hself : (spellings name)[index]? = some selector := by
    rw [idxOf?, findIdx?_eq_some_iff_getElem] at hindex
    obtain ⟨hlt, heq, -⟩ := hindex
    rw [getElem?_eq_getElem hlt, beq_iff_eq.mp heq]
  exact mem_of_getElem? (i := index) (by rw [getElem?_zip_eq_some]; exact ⟨hself, htext⟩)

/-- A counterpart is the other name of a pair. -/
lemma counterpart_pair {selector paired : Text} (hcolon : colon ∉ selector)
    (h : counterpart selector = some paired) :
    (selector, paired) ∈ namePairs ∨ (paired, selector) ∈ namePairs := by
  obtain ⟨entry, hentry, hpaired⟩ := exists_of_findSome?_eq_some h
  rcases Option.or_eq_some_iff.mp hpaired with hold | ⟨-, hnew⟩
  · exact .inl (mem_flatMap.mpr ⟨entry, hentry, renamed_pair hcolon hold⟩)
  · refine .inr (mem_flatMap.mpr ⟨entry, hentry, ?_⟩)
    have hzip := renamed_pair hcolon hnew
    rw [← zip_swap, mem_map] at hzip
    obtain ⟨names, hnames, heq⟩ := hzip
    rw [Prod.swap_eq_iff_eq_swap] at heq
    rwa [heq] at hnames

lemma pair_plain {names : Text × Text} (h : names ∈ namePairs) :
    names.1.all isToolUnit = true ∧ names.2.all isToolUnit = true :=
  (Bool.and_eq_true _ _).mp (names_plain names h)

/-- No text is a name twice. -/
lemma pair_of_fst {names other : Text × Text} (h : names ∈ namePairs) (hother : other ∈ namePairs)
    (heq : names.1 = other.1) : names = other :=
  inj_on_of_nodup_map (nodup_append.mp names_nodup).1 h hother heq

lemma pair_of_snd {names other : Text × Text} (h : names ∈ namePairs) (hother : other ∈ namePairs)
    (heq : names.2 = other.2) : names = other :=
  inj_on_of_nodup_map (nodup_append.mp names_nodup).2.1 h hother heq

lemma pair_apart {names other : Text × Text} (h : names ∈ namePairs) (hother : other ∈ namePairs) :
    names.1 ≠ other.2 :=
  (nodup_append.mp names_nodup).2.2 _ (mem_map_of_mem h) _ (mem_map_of_mem hother)

/-! ### What the check asks of a rule -/

lemma mem_neighbors {β : Type} {values : List β} {index : ℕ} {value : β}
    (h : value ∈ neighbors values index) :
    ∃ place, (place + 1 = index ∨ place = index + 1) ∧ values[place]? = some value := by
  rcases mem_append.mp h with h | h
  · rw [Option.mem_toList] at h
    split at h
    · cases h
    · exact ⟨index - 1, .inl (by omega), h⟩
  · rw [Option.mem_toList] at h
    exact ⟨index + 1, .inr rfl, h⟩

lemma lookup_action (rule : OpenCodeV2Permission) :
    (fields rule).lookup (units "action") = some rule.action := by
  rw [fields, lookup_cons_self]

/-- The action of each rule is checked against those of the comparable rules beside it. -/
lemma check_action {rules : List OpenCodeV2Permission}
    (h : assertToolNamePoliciesMigrated rules = .ok ()) {index : ℕ} {rule : OpenCodeV2Permission}
    (hrule : rules[index]? = some rule) :
    ∃ peers, check rule.action peers = none ∧ ∀ action ∈ peers, ∃ place partner,
      (place + 1 = index ∨ place = index + 1) ∧ rules[place]? = some partner ∧
        comparableRule partner = comparableRule rule ∧ partner.action = action := by
  have hnone : rules.zipIdx.findSome? (fun rule => visitRule rule.1 (neighbors rules rule.2)) =
      none := by
    unfold assertToolNamePoliciesMigrated at h
    split at h
    · cases h
    · assumption
  have hvisit := findSome?_eq_none_iff.mp hnone (rule, index)
    (mk_mem_zipIdx_iff_getElem?.mpr hrule)
  have hfield := findSome?_eq_none_iff.mp hvisit ((units "action", rule.action), 0)
    (mk_mem_zipIdx_iff_getElem?.mpr rfl)
  have hkey : ¬ (units "action" = units "resource" ∧ rule.action ≠ toolUse) :=
    fun heq => absurd heq.1 (by decide)
  rw [if_neg hkey, Option.or_eq_none_iff] at hfield
  refine ⟨_, hfield.2, fun action haction => ?_⟩
  obtain ⟨partner, hpartner, hlookup⟩ := mem_filterMap.mp haction
  obtain ⟨hmem, hcomparable⟩ := mem_filter.mp hpartner
  obtain ⟨place, hplace, hat⟩ := mem_neighbors hmem
  rw [lookup_action, Option.some.injEq] at hlookup
  exact ⟨place, partner, hplace, hat, of_decide_eq_true hcomparable, hlookup⟩

/-- An action that one name of a pair matches alone is the counterpart of a peer's. -/
lemma check_covers {selector : Text} {peers : List Text} (h : check selector peers = none)
    (hcolon : colon ∉ selector) {names : Text × Text} (hnames : names ∈ namePairs)
    (hne : patternMatches selector names.1 ≠ patternMatches selector names.2) :
    ∃ paired ∈ peers, counterpart selector = some paired := by
  obtain ⟨entry, hentry, hzip⟩ := mem_flatMap.mp hnames
  unfold check at h
  rw [patternOf_self hcolon] at h
  dsimp only at h
  split at h
  · cases h
  · rename_i hfind
    have hcovered := find?_eq_none.mp hfind entry hentry
    have hdiffers : differs selector entry = true :=
      any_eq_true.mpr ⟨names, hzip, bne_iff_ne.mpr hne⟩
    rw [hdiffers, Bool.true_and, Bool.not_eq_true', Bool.not_eq_false, Option.any_eq_true] at hcovered
    obtain ⟨paired, hpaired, hcontains⟩ := hcovered
    exact ⟨paired, contains_iff_mem.mp hcontains, hpaired⟩

lemma comparable_fields {rule partner : OpenCodeV2Permission}
    (h : comparableRule partner = comparableRule rule) (hrule : rule.action ≠ toolUse)
    (hpartner : partner.action ≠ toolUse) :
    partner.resource = rule.resource ∧ partner.effect = rule.effect := by
  have hresource := congrArg OpenCodeV2Permission.resource h
  have heffect := congrArg OpenCodeV2Permission.effect h
  simp only [comparableRule, if_neg hrule, if_neg hpartner] at hresource heffect
  exact ⟨hresource, heffect⟩

/-- A rule for one name of a pair has the rule for the other beside it. -/
lemma migrated_paired {rules : List OpenCodeV2Permission}
    (h : assertToolNamePoliciesMigrated rules = .ok ()) {names : Text × Text}
    (hnames : names ∈ namePairs) (resource : Text) :
    Paired (fun rule => rule.appliesTo names.1 resource) (fun rule => rule.appliesTo names.2 resource)
      (·.effect) rules := by
  intro index rule hrule hne
  obtain ⟨hold, hnew⟩ := pair_plain hnames
  have hneAction : patternMatches rule.action names.1 ≠ patternMatches rule.action names.2 := by
    intro heq
    exact hne (by simp only [OpenCodeV2Permission.appliesTo, heq])
  have hcolon : colon ∉ rule.action := fun hmem =>
    hneAction (by rw [colon_matches hmem hold, colon_matches hmem hnew])
  obtain ⟨peers, hcheck, hpeers⟩ := check_action h hrule
  obtain ⟨paired, hpaired, hcounterpart⟩ := check_covers hcheck hcolon hnames hneAction
  obtain ⟨place, partner, hplace, hat, hcomparable, rfl⟩ := hpeers paired hpaired
  -- the action is one of the two names, and the partner's is the other
  have hplain : rule.action.all isToolUnit = true ∧ partner.action.all isToolUnit = true := by
    rcases counterpart_pair hcolon hcounterpart with hpair | hpair
    · exact pair_plain hpair
    · exact (pair_plain hpair).symm
  have hself : ∀ name : Text, patternMatches rule.action name = decide (name = rule.action) :=
    fun name => Bool.eq_iff_iff.mpr ((name_matches hplain.1 name).trans decide_eq_true_iff.symm)
  have hpartner : ∀ name : Text, patternMatches partner.action name = decide (name = partner.action) :=
    fun name => Bool.eq_iff_iff.mpr ((name_matches hplain.2 name).trans decide_eq_true_iff.symm)
  have hother : (rule.action = names.1 ∧ partner.action = names.2) ∨
      (rule.action = names.2 ∧ partner.action = names.1) := by
    have hone : names.1 = rule.action ∨ names.2 = rule.action := by
      by_contra hnot
      rw [not_or] at hnot
      exact hneAction (by rw [hself, hself, decide_eq_false hnot.1, decide_eq_false hnot.2])
    rcases counterpart_pair hcolon hcounterpart with hpair | hpair
    · rcases hone with heq | heq
      · exact .inl ⟨heq.symm, congrArg Prod.snd (pair_of_fst hpair hnames heq.symm)⟩
      · exact absurd heq.symm (pair_apart hpair hnames)
    · rcases hone with heq | heq
      · exact absurd heq (pair_apart hnames hpair)
      · exact .inr ⟨heq.symm, congrArg Prod.fst (pair_of_snd hpair hnames heq.symm)⟩
  have huse : ∀ {action : Text}, action.all isToolUnit = true → action ≠ toolUse := by
    rintro _ hall rfl
    exact Bool.noConfusion (toolUse_not_plain.symm.trans hall)
  obtain ⟨hresource, heffect⟩ := comparable_fields hcomparable (huse hplain.1) (huse hplain.2)
  have hdistinct : names.1 ≠ names.2 := pair_apart hnames hnames
  refine ⟨place, partner, hplace, hat, ?_, ?_, heffect⟩
  · simp only [OpenCodeV2Permission.appliesTo, hself, hpartner, hresource]
    rcases hother with ⟨hrule, hpart⟩ | ⟨hrule, hpart⟩
    · rw [hrule, hpart, decide_eq_false hdistinct, decide_eq_false hdistinct.symm]
    · rw [hrule, hpart, decide_eq_true rfl, decide_eq_true rfl]
  · simp only [OpenCodeV2Permission.appliesTo, hself, hpartner, hresource]
    rcases hother with ⟨hrule, hpart⟩ | ⟨hrule, hpart⟩
    · rw [hrule, hpart, decide_eq_true rfl, decide_eq_true rfl]
    · rw [hrule, hpart, decide_eq_false hdistinct.symm, decide_eq_false hdistinct]

/-! ### Main result -/

/-- A pair of rules around a shared neighbor. -/
def readLogRules : List OpenCodeV2Permission :=
  [⟨units "borg_borg_read-log", catchAll, .deny⟩, ⟨units "borg_borg_read_log", catchAll, .deny⟩,
    ⟨units "borg_borg_read-log", catchAll, .deny⟩]

end BorgClient.OpenCode
