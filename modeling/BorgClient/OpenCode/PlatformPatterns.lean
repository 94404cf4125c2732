import BorgClient.OpenCode.LaunchGrants

/-!
# Scoped patterns on each platform

On Windows `matches` of `opencode-v2-permissions.ts` builds its `RegExp` with the flag `i`, and
`scopeDirectoryPattern` asks it for each literal. A pattern there is a pattern of canonical units.
-/

namespace BorgClient.OpenCode
open List Glob

/-- What the flag `i` compares units by. A wildcard or the end of a line has no other case. -/
structure CaseFold where
  canonicalize : UInt16 → UInt16
  canonicalize_star : ∀ u, canonicalize u = star ↔ u = star
  canonicalize_question : ∀ u, canonicalize u = question ↔ u = question
  isTerminator_canonicalize : ∀ u, isTerminator (canonicalize u) = isTerminator u

/-- `process.platform`, as far as `matches` reads it. -/
inductive Platform where
  | posix
  | win32 (fold : CaseFold)

namespace Platform
variable (platform : Platform)

def canonical : UInt16 → UInt16 :=
  match platform with
  | posix => id
  | win32 fold => fold.canonicalize

/-- `startsWith`, of the units as the platform compares them. -/
def StartsWith (text start : Text) : Prop :=
  match platform with
  | posix => start <+: text
  | win32 fold => start.map fold.canonicalize <+: text.map fold.canonicalize

def symOf (u : UInt16) : Glob.Sym UInt16 :=
  if u = star then .star else if u = question then .one else .lit (platform.canonical u)

/-- `matches` of the source. -/
def patternMatches (pattern input : Text) : Bool :=
  Glob.accepts (fun u => !isTerminator u) (pattern.map platform.symOf)
    (input.map platform.canonical)

def advanceStep (pattern : Text) (u : UInt16) (next : List ℕ) (position : ℕ) : List ℕ :=
  match pattern[position]? with
  | some token =>
    if token = star then addNew next position
    else if token = question ∨ platform.patternMatches [token] [u] then addNew next (position + 1)
    else next
  | none => next

def advance (pattern : Text) (u : UInt16) (positions : List ℕ) : List ℕ :=
  positions.foldl (platform.advanceStep pattern u) []

def reached (pattern directory : Text) : List ℕ :=
  directory.foldl (fun positions u => close pattern (platform.advance pattern u positions))
    (close pattern [0])

def scopeDirectoryPattern (pattern directory : Text) : List Text :=
  if pattern ≠ [] ∧ ∀ u ∈ pattern, u = star then [directory ++ [star]]
  else setOf ((platform.reached pattern directory).map
    (fun position => directory ++ pattern.drop position))

/-! ### Canonical patterns -/

variable {platform}

@[simp] lemma canonical_star {u : UInt16} : platform.canonical u = star ↔ u = star := by
  cases platform with
  | posix => exact Iff.rfl
  | win32 fold => exact fold.canonicalize_star u

@[simp] lemma canonical_question {u : UInt16} :
    platform.canonical u = question ↔ u = question := by
  cases platform with
  | posix => exact Iff.rfl
  | win32 fold => exact fold.canonicalize_question u

@[simp] lemma isTerminator_canonical (u : UInt16) :
    isTerminator (platform.canonical u) = isTerminator u := by
  cases platform with
  | posix => rfl
  | win32 fold => exact fold.isTerminator_canonicalize u

lemma startsWith_iff {text start : Text} : platform.StartsWith text start ↔
    start.map platform.canonical <+: text.map platform.canonical := by
  cases platform with
  | posix => simp only [StartsWith, canonical, map_id]
  | win32 fold => exact Iff.rfl

lemma symOf_canonical (u : UInt16) :
    OpenCode.symOf (platform.canonical u) = platform.symOf u := by
  unfold OpenCode.symOf symOf
  simp only [canonical_star, canonical_question]

/-- The platform matches as the canonical units do. -/
lemma patternMatches_map (pattern input : Text) :
    OpenCode.patternMatches (pattern.map platform.canonical) (input.map platform.canonical) =
      platform.patternMatches pattern input := by
  unfold OpenCode.patternMatches patternMatches
  rw [map_map]
  congr 1
  exact map_congr_left (fun u _ => symOf_canonical u)

lemma closeStep_map (pattern : Text) (positions : List ℕ) (turn : ℕ) :
    closeStep (pattern.map platform.canonical) positions turn =
      closeStep pattern positions turn := by
  unfold closeStep
  simp only [getElem?_map, Option.map_eq_some_iff, canonical_star, exists_eq_right]

lemma close_map (pattern : Text) (positions : List ℕ) :
    close (pattern.map platform.canonical) positions = close pattern positions := by
  unfold close
  rw [length_map]
  congr 1
  funext positions turn
  exact closeStep_map pattern positions turn

lemma advanceStep_map (pattern : Text) (u : UInt16) (next : List ℕ) (position : ℕ) :
    OpenCode.advanceStep (pattern.map platform.canonical) (platform.canonical u) next position =
      platform.advanceStep pattern u next position := by
  unfold OpenCode.advanceStep advanceStep
  rw [getElem?_map]
  cases pattern[position]? with
  | none => rfl
  | some token =>
    have hliteral := @patternMatches_map platform [token] [u]
    rw [map_singleton, map_singleton] at hliteral
    simp only [Option.map_some, canonical_star, canonical_question, hliteral]

lemma reached_map (pattern directory : Text) :
    OpenCode.reached (pattern.map platform.canonical) (directory.map platform.canonical) =
      platform.reached pattern directory := by
  unfold OpenCode.reached reached
  rw [foldl_map, close_map]
  congr 1
  funext positions u
  rw [close_map]
  congr 1
  unfold OpenCode.advance advance
  congr 1
  funext next position
  exact advanceStep_map pattern u next position

/-- The scoped patterns of the canonical units are those of the platform. -/
lemma mem_scopeDirectoryPattern_map {pattern directory canonicalPattern : Text} :
    canonicalPattern ∈ OpenCode.scopeDirectoryPattern (pattern.map platform.canonical)
        (directory.map platform.canonical) ↔
      ∃ scopedPattern ∈ platform.scopeDirectoryPattern pattern directory,
        scopedPattern.map platform.canonical = canonicalPattern := by
  have hstar : platform.canonical star = star := canonical_star.mpr rfl
  unfold OpenCode.scopeDirectoryPattern scopeDirectoryPattern
  simp only [ne_eq, map_eq_nil_iff, forall_mem_map, canonical_star, reached_map]
  split_ifs with hstars
  · simp [hstar, eq_comm]
  · simp [map_drop, eq_comm]

lemma posix_scopeDirectoryPattern (pattern directory : Text) :
    posix.scopeDirectoryPattern pattern directory =
      OpenCode.scopeDirectoryPattern pattern directory := by
  have hreached := @reached_map posix pattern directory
  simp only [canonical, map_id] at hreached
  unfold scopeDirectoryPattern OpenCode.scopeDirectoryPattern
  rw [hreached]

end Platform

/-- The scoped patterns together accept what the pattern accepts of the texts that start with the
directory. -/
theorem scoped_patterns_intersect (platform : Platform) {pattern directory text : Text}
    (hliteral : ∀ u ∈ directory, u ≠ star ∧ u ≠ question)
    (htext : ∀ u ∈ text, isTerminator u = false) :
    (∃ scopedPattern ∈ platform.scopeDirectoryPattern pattern directory,
        platform.patternMatches scopedPattern text = true) ↔
      platform.StartsWith text directory ∧ platform.patternMatches pattern text = true := by
  have hcanonical := @scopeDirectoryPattern_matches (pattern.map platform.canonical)
    (directory.map platform.canonical) (text.map platform.canonical)
    (by simpa using hliteral) (by simpa using htext)
  rw [Platform.patternMatches_map, ← Platform.startsWith_iff] at hcanonical
  rw [← hcanonical]
  constructor
  · rintro ⟨scopedPattern, hmem, hmatch⟩
    refine ⟨_, Platform.mem_scopeDirectoryPattern_map.mpr ⟨scopedPattern, hmem, rfl⟩, ?_⟩
    rw [Platform.patternMatches_map]
    exact hmatch
  · rintro ⟨canonicalPattern, hmem, hmatch⟩
    obtain ⟨scopedPattern, hscoped, rfl⟩ := Platform.mem_scopeDirectoryPattern_map.mp hmem
    rw [Platform.patternMatches_map] at hmatch
    exact ⟨scopedPattern, hscoped, hmatch⟩

/-- The case of the Latin letters. -/
def latinFold : CaseFold where
  canonicalize u := if 0x61 ≤ u ∧ u ≤ 0x7a then u - 0x20 else u
  canonicalize_star u := by
    unfold star
    split_ifs with h <;> grind
  canonicalize_question u := by
    unfold question
    split_ifs with h <;> grind
  isTerminator_canonicalize u := by
    unfold isTerminator
    split_ifs with h <;> grind

/-- `/*.ts` in `/a/`, for `/A/b.ts` on Windows. -/
theorem scoped_patterns_intersect_case :
    (∃ scopedPattern ∈ (Platform.win32 latinFold).scopeDirectoryPattern
        [0x2f, 0x2a, 0x2e, 0x74, 0x73] [0x2f, 0x61, 0x2f],
      (Platform.win32 latinFold).patternMatches scopedPattern
        [0x2f, 0x41, 0x2f, 0x62, 0x2e, 0x74, 0x73] = true) ↔
      (Platform.win32 latinFold).StartsWith [0x2f, 0x41, 0x2f, 0x62, 0x2e, 0x74, 0x73]
        [0x2f, 0x61, 0x2f] ∧
      (Platform.win32 latinFold).patternMatches [0x2f, 0x2a, 0x2e, 0x74, 0x73]
        [0x2f, 0x41, 0x2f, 0x62, 0x2e, 0x74, 0x73] = true :=
  scoped_patterns_intersect (.win32 latinFold) (by simp [star, question]) (by simp [isTerminator])

/-- On Windows `/a/*` accepts `/A/x`, which does not start with `/a/`. -/
theorem windows_prefix_ignores_case :
    ¬ ((∃ scopedPattern ∈
          (Platform.win32 latinFold).scopeDirectoryPattern [0x2a] [0x2f, 0x61, 0x2f],
        (Platform.win32 latinFold).patternMatches scopedPattern [0x2f, 0x41, 0x2f, 0x78] = true) ↔
      [0x2f, 0x61, 0x2f] <+: ([0x2f, 0x41, 0x2f, 0x78] : Text) ∧
        (Platform.win32 latinFold).patternMatches [0x2a] [0x2f, 0x41, 0x2f, 0x78] = true) := by
  intro h
  have hscoped : [0x2f, 0x61, 0x2f, 0x2a] ∈
      (Platform.win32 latinFold).scopeDirectoryPattern [0x2a] [0x2f, 0x61, 0x2f] := by
    simp [Platform.scopeDirectoryPattern, star]
  have hmatch : (Platform.win32 latinFold).patternMatches [0x2f, 0x61, 0x2f, 0x2a]
      [0x2f, 0x41, 0x2f, 0x78] = true := by
    simp [Platform.patternMatches, Platform.symOf, Platform.canonical, latinFold, star, question,
      isTerminator]
  have hstarts := (h.mp ⟨_, hscoped, hmatch⟩).1
  simp at hstarts

end BorgClient.OpenCode
