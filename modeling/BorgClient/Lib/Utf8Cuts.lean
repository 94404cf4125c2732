import BorgClient.Lib.Utf8

/-!
# Bytes decoded in pieces

Where each piece of a stream is decoded on its own, a cut inside a character breaks it into
replacement marks. What the cuts change is how long the runs of characters beyond ASCII are, never
where they stand, and cuts only make a text longer.
-/

namespace Utf8
open List

/-- What is written where a piece ends. -/
def atEnd (p : Pending) : List Char := if p.needed = 0 then [] else [replacement]

/-- Bytes, and `none` where a piece ends and the next is decoded afresh. -/
def decodeCuts (p : Pending) : List (Option UInt8) → List Char
  | [] => atEnd p
  | none :: rest => atEnd p ++ decodeCuts {} rest
  | some byte :: rest => (stepByte p byte).2 ++ decodeCuts (stepByte p byte).1 rest

def bytesOf (events : List (Option UInt8)) : List UInt8 := events.filterMap id

/-- The stream without its cuts. -/
def uncut (events : List (Option UInt8)) : List (Option UInt8) := (bytesOf events).map some

lemma bytesOf_none (rest : List (Option UInt8)) : bytesOf (none :: rest) = bytesOf rest := rfl

lemma bytesOf_some (byte : UInt8) (rest : List (Option UInt8)) :
    bytesOf (some byte :: rest) = byte :: bytesOf rest := rfl

/-! ### Steps -/

/-- The sequences that can be pending with the number of bytes seen: what is left makes them a
character whose encoding has the bytes seen and those needed. -/
def Sound (p : Pending) (seen : ℕ) : Prop :=
  (p = {} ∧ seen = 0) ∨
  (p.needed = 1 ∧ p.lower = 0x80 ∧ p.upper = 0xbf ∧
    ((seen = 1 ∧ 2 ≤ p.codePoint ∧ p.codePoint ≤ 0x1f) ∨
      (seen = 2 ∧ 0x20 ≤ p.codePoint ∧ p.codePoint ≤ 0x3ff ∧
        ¬ (0x360 ≤ p.codePoint ∧ p.codePoint ≤ 0x37f)) ∨
      (seen = 3 ∧ 0x400 ≤ p.codePoint ∧ p.codePoint ≤ 0x43ff))) ∨
  (p.needed = 2 ∧
    ((seen = 1 ∧ p.codePoint ≤ 0xf ∧ p.lower = (if p.codePoint = 0 then 0xa0 else 0x80) ∧
        p.upper = (if p.codePoint = 0xd then 0x9f else 0xbf)) ∨
      (seen = 2 ∧ p.lower = 0x80 ∧ p.upper = 0xbf ∧ 0x10 ≤ p.codePoint ∧ p.codePoint ≤ 0x10f))) ∨
  (p.needed = 3 ∧ seen = 1 ∧ p.codePoint ≤ 4 ∧
    p.lower = (if p.codePoint = 0 then 0x90 else 0x80) ∧
    p.upper = (if p.codePoint = 4 then 0x8f else 0xbf))

lemma sound_idle : Sound {} 0 := .inl ⟨rfl, rfl⟩

lemma Sound.idle {p : Pending} {seen : ℕ} (h : Sound p seen) (hp : p.needed = 0) :
    p = {} ∧ seen = 0 := by
  rcases h with h | ⟨hn, -⟩ | ⟨hn, -⟩ | ⟨hn, -⟩
  · exact h
  · omega
  · omega
  · omega

lemma Sound.bounds {p : Pending} {seen : ℕ} (h : Sound p seen) (hp : p.needed ≠ 0) :
    0x80 ≤ p.lower ∧ p.upper ≤ 0xbf ∧ seen ≤ 3 := by
  rcases h with ⟨rfl, -⟩ | ⟨-, hl, hu, hcase⟩ | ⟨-, hcase⟩ | ⟨-, hs, -, hl, hu⟩
  · exact absurd rfl hp
  · omega
  · rcases hcase with ⟨hs, -, hl, hu⟩ | ⟨hs, hl, hu, -⟩
    · split_ifs at hl hu <;> omega
    · omega
  · split_ifs at hl hu <;> omega

/-- A byte between sequences. -/
lemma startByte_spec (b : ℕ) (hb : b < 256) :
    (b ≤ 0x7f ∧ startByte b = ({}, [Char.ofNat b])) ∨
    (0x7f < b ∧ startByte b = ({}, [replacement])) ∨
    (0xc2 ≤ b ∧ ∃ p, startByte b = (p, []) ∧ p.needed ≠ 0 ∧ Sound p 1) := by
  unfold startByte
  by_cases h1 : b ≤ 0x7f
  · rw [if_pos h1]
    exact .inl ⟨h1, rfl⟩
  rw [if_neg h1]
  by_cases h2 : 0xc2 ≤ b ∧ b ≤ 0xdf
  · rw [if_pos h2]
    refine .inr (.inr ⟨h2.1, _, rfl, one_ne_zero, .inr (.inl ⟨rfl, rfl, rfl, .inl ⟨rfl, ?_, ?_⟩⟩)⟩)
    · change 2 ≤ b - 0xc0
      omega
    · change b - 0xc0 ≤ 0x1f
      omega
  rw [if_neg h2]
  by_cases h3 : 0xe0 ≤ b ∧ b ≤ 0xef
  · rw [if_pos h3]
    refine .inr (.inr ⟨by omega, _, rfl, two_ne_zero, .inr (.inr (.inl ⟨rfl, .inl ⟨rfl, ?_, ?_, ?_⟩⟩))⟩)
    · change b - 0xe0 ≤ 0xf
      omega
    · dsimp only
      split_ifs <;> omega
    · dsimp only
      split_ifs <;> omega
  rw [if_neg h3]
  by_cases h4 : 0xf0 ≤ b ∧ b ≤ 0xf4
  · rw [if_pos h4]
    refine .inr (.inr ⟨by omega, _, rfl, three_ne_zero, .inr (.inr (.inr ⟨rfl, rfl, ?_, ?_, ?_⟩))⟩)
    · change b - 0xf0 ≤ 4
      omega
    · dsimp only
      split_ifs <;> omega
    · dsimp only
      split_ifs <;> omega
  rw [if_neg h4]
  exact .inr (.inl ⟨by omega, rfl⟩)

lemma toNat_ofNat {n : ℕ} (hv : n.isValidChar) : (Char.ofNat n).toNat = n := by
  rw [Char.toNat_ofNat, if_pos hv]

/-- The size of a code point's encoding. -/
lemma utf8Size_ofNat {n : ℕ} (hv : n.isValidChar) : (Char.ofNat n).utf8Size =
    if n ≤ 0x7f then 1 else if n ≤ 0x7ff then 2 else if n ≤ 0xffff then 3 else 4 := by
  have hn : (Char.ofNat n).val.toNat = n := toNat_ofNat hv
  simp only [Char.utf8Size, UInt32.le_iff_toNat_le, hn]
  rfl

/-- A byte inside a sequence goes on with it, ends it with a character beyond ASCII, or breaks it
and is read afresh. -/
lemma stepByte_pending {p : Pending} {seen : ℕ} (h : Sound p seen) (hp : p.needed ≠ 0)
    (byte : UInt8) :
    (0x80 ≤ byte.toNat ∧ byte.toNat ≤ 0xbf ∧ (stepByte p byte).2 = [] ∧
      (stepByte p byte).1.needed ≠ 0 ∧ Sound (stepByte p byte).1 (seen + 1)) ∨
    (0x80 ≤ byte.toNat ∧ byte.toNat ≤ 0xbf ∧ ∃ c, stepByte p byte = ({}, [c]) ∧
      0x7f < c.toNat ∧ c.utf8Size = seen + 1) ∨
    stepByte p byte = ((startByte byte.toNat).1, replacement :: (startByte byte.toNat).2) := by
  obtain ⟨hlow, hhigh, -⟩ := h.bounds hp
  simp only [stepByte, if_neg hp]
  generalize byte.toNat = b
  by_cases hbreak : b < p.lower ∨ p.upper < b
  · rw [if_pos hbreak]
    exact .inr (.inr rfl)
  rw [if_neg hbreak]
  rcases h with ⟨rfl, -⟩ | ⟨hn, hl, hu, hcase⟩ | ⟨hn, hcase⟩ | ⟨hn, rfl, hcp, hl, hu⟩
  · exact absurd rfl hp
  · -- the last byte
    have hvalid : (p.codePoint * 0x40 + (b - 0x80)).isValidChar := by
      unfold Nat.isValidChar
      omega
    rw [if_pos hn]
    refine .inr (.inl ⟨by omega, by omega, _, rfl, ?_, ?_⟩)
    · rw [toNat_ofNat hvalid]
      omega
    · rw [utf8Size_ofNat hvalid]
      split_ifs <;> omega
  · rw [if_neg (by omega)]
    refine .inl ⟨by omega, by omega, rfl, by simp [hn], .inr (.inl ⟨by simp [hn], rfl, rfl, ?_⟩)⟩
    dsimp only
    rcases hcase with ⟨hs, hcp, hl, hu⟩ | ⟨hs, hl, hu, hcp⟩
    · refine .inr (.inl ⟨by omega, ?_⟩)
      split_ifs at hl hu <;> omega
    · exact .inr (.inr (by omega))
  · rw [if_neg (by omega)]
    refine .inl ⟨by omega, by omega, rfl, by simp [hn],
      .inr (.inr (.inl ⟨by simp [hn], .inr ⟨rfl, rfl, rfl, ?_⟩⟩))⟩
    dsimp only
    split_ifs at hl hu <;> omega

/-- A byte between sequences, as a step. -/
lemma stepByte_idle (byte : UInt8) : stepByte {} byte = startByte byte.toNat := by
  simp only [stepByte]
  exact if_pos trivial

lemma startByte_spec' (byte : UInt8) :
    (byte.toNat ≤ 0x7f ∧ startByte byte.toNat = ({}, [Char.ofNat byte.toNat])) ∨
    (0x7f < byte.toNat ∧ startByte byte.toNat = ({}, [replacement])) ∨
    (0xc2 ≤ byte.toNat ∧ ∃ p, startByte byte.toNat = (p, []) ∧ p.needed ≠ 0 ∧ Sound p 1) :=
  startByte_spec byte.toNat (UInt8.toNat_lt byte)

lemma stepByte_sound {p : Pending} {seen : ℕ} (h : Sound p seen) (byte : UInt8) :
    ∃ seen', Sound (stepByte p byte).1 seen' := by
  have hstart : ∃ seen', Sound (startByte byte.toNat).1 seen' := by
    rcases startByte_spec' byte with ⟨-, heq⟩ | ⟨-, heq⟩ | ⟨-, p', heq, -, hsound⟩
    · exact ⟨0, heq ▸ sound_idle⟩
    · exact ⟨0, heq ▸ sound_idle⟩
    · exact ⟨1, heq ▸ hsound⟩
  by_cases hp : p.needed = 0
  · obtain ⟨rfl, -⟩ := h.idle hp
    rw [stepByte_idle]
    exact hstart
  · rcases stepByte_pending h hp byte with ⟨-, -, -, -, hsound⟩ | ⟨-, -, c, heq, -⟩ | heq
    · exact ⟨_, hsound⟩
    · exact ⟨0, heq ▸ sound_idle⟩
    · rw [heq]
      exact hstart

lemma startByte_tail {byte : UInt8} (hlow : 0x80 ≤ byte.toNat) (hhigh : byte.toNat ≤ 0xbf) :
    startByte byte.toNat = ({}, [replacement]) := by
  rcases startByte_spec' byte with ⟨hb, -⟩ | ⟨-, hb⟩ | ⟨hb, -⟩
  · omega
  · exact hb
  · omega

lemma atEnd_pending {p : Pending} (hp : p.needed ≠ 0) : atEnd p = [replacement] := if_neg hp

lemma byteLength_replacement : byteLength [replacement] = 3 := by
  decide

/-! ### Where ASCII stands -/

def isAscii (c : Char) : Bool := c.toNat ≤ 0x7f

/-- Every run of characters beyond ASCII as one mark. -/
def outline (inRun : Bool) : List Char → List Char
  | [] => []
  | c :: rest =>
    if isAscii c then c :: outline false rest
    else if inRun then outline true rest
    else replacement :: outline true rest

/-- The outline of the text of the bytes. -/
def outlineBytes (inRun : Bool) : List UInt8 → List Char
  | [] => []
  | byte :: rest =>
    if byte.toNat ≤ 0x7f then Char.ofNat byte.toNat :: outlineBytes false rest
    else if inRun then outlineBytes true rest
    else replacement :: outlineBytes true rest

def mark (inRun : Bool) : List Char := if inRun then [] else [replacement]

lemma outline_ascii {c : Char} (hc : isAscii c = true) (inRun : Bool) (rest : List Char) :
    outline inRun (c :: rest) = c :: outline false rest := if_pos hc

lemma outline_beyond {c : Char} (hc : isAscii c = false) (inRun : Bool) (rest : List Char) :
    outline inRun (c :: rest) = mark inRun ++ outline true rest := by
  rw [outline, if_neg (by simp [hc])]
  cases inRun <;> rfl

lemma isAscii_ofNat {n : ℕ} (hn : n ≤ 0x7f) : isAscii (Char.ofNat n) = true := by
  rw [isAscii, toNat_ofNat (.inl (by omega)), decide_eq_true_eq]
  exact hn

/-- A sequence that is pending stands for a mark that is still to come. -/
lemma outline_decodeCuts {p : Pending} {seen : ℕ} (h : Sound p seen) (inRun : Bool)
    (events : List (Option UInt8)) : outline inRun (decodeCuts p events) =
      if p.needed = 0 then outlineBytes inRun (bytesOf events)
      else mark inRun ++ outlineBytes true (bytesOf events) := by
  induction events generalizing p seen inRun with
  | nil =>
    by_cases hp : p.needed = 0
    · rw [if_pos hp, decodeCuts, atEnd, if_pos hp]
      rfl
    · rw [if_neg hp, decodeCuts, atEnd_pending hp, outline_beyond (by decide)]
      rfl
  | cons event rest ih =>
    cases event with
    | none =>
      rw [bytesOf_none, decodeCuts]
      by_cases hp : p.needed = 0
      · rw [if_pos hp, atEnd, if_pos hp, nil_append, ih sound_idle, if_pos rfl]
      · rw [if_neg hp, atEnd_pending hp, singleton_append, outline_beyond (by decide),
          ih sound_idle, if_pos rfl]
    | some byte =>
      rw [bytesOf_some, decodeCuts]
      have hstart : ∀ inRun, outline inRun ((startByte byte.toNat).2 ++
          decodeCuts (startByte byte.toNat).1 rest) =
            outlineBytes inRun (byte :: bytesOf rest) := by
        intro inRun
        rcases startByte_spec' byte with ⟨hb, heq⟩ | ⟨hb, heq⟩ | ⟨hb, p', heq, hp', hsound⟩
        · rw [heq, singleton_append, outline_ascii (isAscii_ofNat hb), ih sound_idle, if_pos rfl,
            outlineBytes, if_pos hb]
        · rw [heq, singleton_append, outline_beyond (by decide), ih sound_idle, if_pos rfl,
            outlineBytes, if_neg (by omega)]
          cases inRun <;> rfl
        · rw [heq, nil_append, ih hsound, if_neg hp', outlineBytes, if_neg (by omega)]
          cases inRun <;> rfl
      by_cases hp : p.needed = 0
      · obtain ⟨rfl, -⟩ := h.idle hp
        rw [if_pos hp, stepByte_idle]
        exact hstart inRun
      · rw [if_neg hp]
        rcases stepByte_pending h hp byte with ⟨hlow, -, hout, hp', hsound⟩ |
          ⟨hlow, -, c, heq, hc, -⟩ | heq
        · rw [hout, nil_append, ih hsound, if_neg hp', outlineBytes, if_neg (by omega)]
          rfl
        · have hbeyond : isAscii c = false := by
            rw [isAscii, decide_eq_false_iff_not]
            omega
          rw [heq, singleton_append, outline_beyond hbeyond, ih sound_idle, if_pos rfl,
            outlineBytes, if_neg (by omega)]
          rfl
        · rw [heq, cons_append, outline_beyond (by decide), hstart]

/-- Cuts do not change the outline. -/
theorem outline_uncut (events : List (Option UInt8)) :
    outline false (decodeCuts {} events) = outline false (decodeCuts {} (uncut events)) := by
  rw [outline_decodeCuts sound_idle, outline_decodeCuts sound_idle, if_pos rfl, if_pos rfl, uncut]
  congr 1
  rw [bytesOf, bytesOf, filterMap_map]
  exact filterMap_some.symm

/-! ### Lengths -/

/-- A text is at least as long as its bytes. -/
lemma length_le_decodeCuts {p : Pending} {seen : ℕ} (h : Sound p seen)
    (events : List (Option UInt8)) :
    (bytesOf events).length + seen ≤ byteLength (decodeCuts p events) := by
  have hend : ∀ {p : Pending} {seen : ℕ}, Sound p seen → seen ≤ byteLength (atEnd p) := by
    intro p seen h
    by_cases hp : p.needed = 0
    · rw [(h.idle hp).2]
      exact Nat.zero_le _
    · rw [atEnd_pending hp, byteLength_replacement]
      exact (h.bounds hp).2.2
  induction events generalizing p seen with
  | nil =>
    change 0 + seen ≤ byteLength (atEnd p)
    rw [Nat.zero_add]
    exact hend h
  | cons event rest ih =>
    cases event with
    | none =>
      rw [bytesOf_none, decodeCuts, byteLength_append]
      have hrest := ih sound_idle
      have := hend h
      omega
    | some byte =>
      rw [bytesOf_some, decodeCuts, byteLength_append, length_cons]
      have hstart : (bytesOf rest).length + 1 ≤ byteLength (startByte byte.toNat).2 +
          byteLength (decodeCuts (startByte byte.toNat).1 rest) := by
        rcases startByte_spec' byte with ⟨-, heq⟩ | ⟨-, heq⟩ | ⟨-, p', heq, -, hsound⟩
        · have hrest := ih sound_idle
          have hpos := Char.utf8Size_pos (Char.ofNat byte.toNat)
          rw [heq, byteLength_cons]
          dsimp only
          omega
        · have hrest := ih sound_idle
          rw [heq, byteLength_replacement]
          dsimp only
          omega
        · have hrest := ih hsound
          rw [heq]
          dsimp only
          omega
      by_cases hp : p.needed = 0
      · obtain ⟨rfl, rfl⟩ := h.idle hp
        rw [stepByte_idle]
        exact hstart
      · have hseen := (h.bounds hp).2.2
        rcases stepByte_pending h hp byte with ⟨-, -, hout, -, hsound⟩ | ⟨-, -, c, heq, -, hc⟩ | heq
        · have hrest := ih hsound
          omega
        · have hrest := ih sound_idle
          rw [heq, byteLength_cons]
          dsimp only
          omega
        · rw [heq, byteLength_cons]
          have hsize : replacement.utf8Size = 3 := by decide
          dsimp only
          omega

/-- Cuts only make a text longer, and reading afresh where a sequence is pending costs no more than
the mark that is written for it. -/
lemma uncut_le_decodeCuts {p : Pending} {seen : ℕ} (h : Sound p seen)
    (events : List (Option UInt8)) :
    byteLength (decodeCuts p (uncut events)) ≤ byteLength (decodeCuts p events) ∧
      (p.needed ≠ 0 →
        byteLength (decodeCuts p (uncut events)) ≤ 3 + byteLength (decodeCuts {} events)) := by
  induction events generalizing p seen with
  | nil =>
    refine ⟨le_refl _, fun hp => ?_⟩
    change byteLength (atEnd p) ≤ 3 + byteLength (atEnd {})
    rw [atEnd_pending hp, byteLength_replacement]
    exact Nat.le_add_right _ _
  | cons event rest ih =>
    cases event with
    | none =>
      have huncut : uncut (none :: rest) = uncut rest := rfl
      have hidle : decodeCuts {} (none :: rest) = decodeCuts {} rest := rfl
      rw [huncut, hidle]
      refine ⟨?_, (ih h).2⟩
      rw [decodeCuts, byteLength_append]
      by_cases hp : p.needed = 0
      · obtain ⟨rfl, -⟩ := h.idle hp
        exact (ih sound_idle).1.trans (Nat.le_add_left _ _)
      · rw [atEnd_pending hp, byteLength_replacement]
        exact (ih h).2 hp
    | some byte =>
      have huncut : uncut (some byte :: rest) = some byte :: uncut rest := rfl
      rw [huncut, decodeCuts, decodeCuts, decodeCuts, stepByte_idle, byteLength_append,
        byteLength_append, byteLength_append]
      have hstart : byteLength (decodeCuts (startByte byte.toNat).1 (uncut rest)) ≤
          byteLength (decodeCuts (startByte byte.toNat).1 rest) := by
        rcases startByte_spec' byte with ⟨-, heq⟩ | ⟨-, heq⟩ | ⟨-, p', heq, -, hsound⟩
        · rw [heq]
          exact (ih sound_idle).1
        · rw [heq]
          exact (ih sound_idle).1
        · rw [heq]
          exact (ih hsound).1
      by_cases hp : p.needed = 0
      · obtain ⟨rfl, -⟩ := h.idle hp
        rw [stepByte_idle]
        exact ⟨Nat.add_le_add_left hstart _, fun hne => absurd rfl hne⟩
      · rcases stepByte_pending h hp byte with ⟨hlow, hhigh, hout, hp', hsound⟩ |
          ⟨hlow, hhigh, c, heq, -, hc⟩ | heq
        · obtain ⟨hrest, hafresh⟩ := ih hsound
          rw [hout, startByte_tail hlow hhigh, byteLength_replacement]
          refine ⟨Nat.add_le_add_left hrest _, fun _ => ?_⟩
          have := hafresh hp'
          rw [byteLength_nil]
          dsimp only
          omega
        · have hrest := (ih sound_idle).1
          rw [heq, startByte_tail hlow hhigh, byteLength_replacement]
          refine ⟨Nat.add_le_add_left hrest _, fun _ => ?_⟩
          have hseen := (h.bounds hp).2.2
          rw [byteLength_cons, byteLength_nil]
          dsimp only
          omega
        · rw [heq]
          have hsize : replacement.utf8Size = 3 := by decide
          dsimp only
          refine ⟨Nat.add_le_add_left hstart _, fun _ => ?_⟩
          rw [byteLength_cons]
          omega

/-! ### Lines -/

section
variable {α : Type*} [DecidableEq α] (newline : α)

/-- The lines that are complete, without what ends them, and what stands behind the last. -/
def linesOf : List α → List (List α) × List α
  | [] => ([], [])
  | a :: rest =>
    if a = newline then ([] :: (linesOf rest).1, (linesOf rest).2)
    else
      match (linesOf rest).1 with
      | [] => ([], a :: (linesOf rest).2)
      | line :: lines => ((a :: line) :: lines, (linesOf rest).2)

variable {newline}

lemma linesOf_none {text : List α} (h : newline ∉ text) : linesOf newline text = ([], text) := by
  induction text with
  | nil => rfl
  | cons a rest ih =>
    rw [mem_cons, not_or] at h
    rw [linesOf, if_neg (Ne.symm h.1), ih h.2]

lemma linesOf_line {line : List α} (h : newline ∉ line) (rest : List α) :
    linesOf newline (line ++ newline :: rest) =
      (line :: (linesOf newline rest).1, (linesOf newline rest).2) := by
  induction line with
  | nil => exact if_pos rfl
  | cons a line ih =>
    rw [mem_cons, not_or] at h
    rw [cons_append, linesOf, if_neg (Ne.symm h.1), ih h.2]

/-- A text is its lines, and no line holds an end. -/
lemma linesOf_induction (newline : α) {motive : List α → Prop} (hlast : ∀ text, newline ∉ text → motive text)
    (hline : ∀ line rest, newline ∉ line → motive rest → motive (line ++ newline :: rest))
    (text : List α) : motive text := by
  induction hn : text.length using Nat.strong_induction_on generalizing text with
  | _ n ih =>
    by_cases hmem : newline ∈ text
    · obtain ⟨line, rest, rfl, hline'⟩ := eq_append_cons_of_mem hmem
      refine hline line rest hline' (ih rest.length ?_ rest rfl)
      rw [← hn, length_append, length_cons]
      omega
    · exact hlast text hmem

lemma linesOf_last (text : List α) : newline ∉ (linesOf newline text).2 := by
  induction text using linesOf_induction newline with
  | hlast text h =>
    rw [linesOf_none h]
    exact h
  | hline line rest h ih =>
    rw [linesOf_line h]
    exact ih

lemma linesOf_append (text more : List α) : linesOf newline (text ++ more) =
    ((linesOf newline text).1 ++ (linesOf newline ((linesOf newline text).2 ++ more)).1,
      (linesOf newline ((linesOf newline text).2 ++ more)).2) := by
  induction text using linesOf_induction newline with
  | hlast text h => rw [linesOf_none h, nil_append]
  | hline line rest h ih =>
    rw [append_assoc, cons_append, linesOf_line h, linesOf_line h, ih, cons_append]

end

/-- A line feed ends what is pending. -/
lemma decodeCuts_newline {p : Pending} {seen : ℕ} (h : Sound p seen)
    (before after : List (Option UInt8)) :
    decodeCuts p (before ++ some 10 :: after) = decodeCuts p before ++ '\n' :: decodeCuts {} after := by
  induction before generalizing p seen with
  | nil =>
    by_cases hp : p.needed = 0
    · obtain ⟨rfl, -⟩ := h.idle hp
      rfl
    · have hstep : stepByte p 10 = ({}, [replacement, '\n']) := by
        rcases stepByte_pending h hp 10 with ⟨hlow, -⟩ | ⟨hlow, -⟩ | heq
        · exact absurd hlow (by decide)
        · exact absurd hlow (by decide)
        · exact heq
      rw [nil_append, decodeCuts, decodeCuts, hstep, atEnd_pending hp]
      rfl
  | cons event before ih =>
    cases event with
    | none => rw [cons_append, decodeCuts, decodeCuts, ih sound_idle, append_assoc]
    | some byte =>
      obtain ⟨seen', hsound⟩ := stepByte_sound h byte
      rw [cons_append, decodeCuts, decodeCuts, ih hsound, append_assoc]

lemma mem_outline {c : Char} (hc : isAscii c = true) (inRun : Bool) {text : List Char} :
    c ∈ outline inRun text ↔ c ∈ text := by
  induction text generalizing inRun with
  | nil => rfl
  | cons d rest ih =>
    by_cases hd : isAscii d = true
    · rw [outline_ascii hd, mem_cons, mem_cons, ih]
    · rw [Bool.not_eq_true] at hd
      have hne : c ≠ d := by
        rintro rfl
        rw [hc] at hd
        cases hd
      have hmark : c ∉ mark inRun := by
        cases inRun
        · rw [mark, if_neg (by decide), mem_singleton]
          rintro rfl
          exact absurd hc (by decide)
        · exact not_mem_nil
      rw [outline_beyond hd, mem_append, mem_cons, ih]
      exact ⟨fun h => .inr (h.resolve_left hmark), fun h => .inr (h.resolve_left hne)⟩

lemma newline_outlineBytes (inRun : Bool) {bytes : List UInt8} (h : (10 : UInt8) ∉ bytes) :
    '\n' ∉ outlineBytes inRun bytes := by
  induction bytes generalizing inRun with
  | nil => exact not_mem_nil
  | cons byte rest ih =>
    rw [mem_cons, not_or] at h
    rw [outlineBytes]
    split
    · rename_i hb
      rw [mem_cons, not_or]
      refine ⟨fun heq => h.1 ?_, ih false h.2⟩
      have hn := congrArg Char.toNat heq
      have hvalid : byte.toNat.isValidChar := .inl (by omega)
      rw [toNat_ofNat hvalid] at hn
      exact UInt8.toNat_inj.mp hn
    · split
      · exact ih true h.2
      · rw [mem_cons, not_or]
        exact ⟨by decide, ih true h.2⟩

lemma newline_not_mem {p : Pending} {seen : ℕ} (h : Sound p seen) {events : List (Option UInt8)}
    (hevents : some 10 ∉ events) : '\n' ∉ decodeCuts p events := by
  have hbytes : (10 : UInt8) ∉ bytesOf events := by
    intro hmem
    obtain ⟨event, hevent, heq⟩ := mem_filterMap.mp hmem
    cases event with
    | none => cases heq
    | some byte =>
      cases heq
      exact hevents hevent
  have hclear : ∀ inRun, '\n' ∉ outlineBytes inRun (bytesOf events) :=
    fun inRun => newline_outlineBytes inRun hbytes
  intro hmem
  have hout := (mem_outline (by decide) false).mpr hmem
  rw [outline_decodeCuts h] at hout
  split at hout
  · exact hclear false hout
  · rcases mem_append.mp hout with hmark | hrest
    · exact absurd hmark (by decide)
    · exact hclear true hrest

/-- The lines of the text are those of the bytes, each decoded on its own. -/
theorem linesOf_decodeCuts (events : List (Option UInt8)) :
    linesOf '\n' (decodeCuts {} events) =
      ((linesOf (some 10) events).1.map (decodeCuts {}), decodeCuts {} (linesOf (some 10) events).2) := by
  induction events using linesOf_induction (some (10 : UInt8)) with
  | hlast events h => rw [linesOf_none h, linesOf_none (newline_not_mem sound_idle h), map_nil]
  | hline line rest h ih =>
    rw [decodeCuts_newline sound_idle, linesOf_line (newline_not_mem sound_idle h), ih,
      linesOf_line h, map_cons]

end Utf8
