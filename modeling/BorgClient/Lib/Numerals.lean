import Mathlib

/-!
# Numbers written with a fixed number of digits

Texts of decimal digits of one length are ordered as their numbers are, whatever follows them.
-/

namespace Numerals
open List

/-- The number a text of digits names. -/
def value (text : List Char) : ℕ := Nat.ofDigitChars 10 text 0

/-- The digits of the number, with zeros in front up to the width. -/
def padStart (width n : ℕ) : List Char :=
  replicate (width - (Nat.toDigits 10 n).length) '0' ++ Nat.toDigits 10 n

lemma value_cons (c : Char) (text : List Char) :
    value (c :: text) = 10 ^ text.length * (c.toNat - '0'.toNat) + value text := by
  unfold value
  rw [Nat.ofDigitChars_cons, Nat.ofDigitChars_eq_ofDigitChars_zero, Nat.mul_zero, Nat.zero_add]

lemma digit_range {c : Char} (h : c.isDigit = true) : 48 ≤ c.toNat ∧ c.toNat ≤ 57 := by
  simp only [Char.isDigit, Bool.and_eq_true, decide_eq_true_eq] at h
  have hval : c.toNat = c.val.toNat := rfl
  rw [hval]
  have h1 := UInt32.le_iff_toNat_le.mp h.1
  have h2 := UInt32.le_iff_toNat_le.mp h.2
  simpa using And.intro h1 h2

lemma value_lt {text : List Char} (h : ∀ c ∈ text, c.isDigit = true) :
    value text < 10 ^ text.length := by
  induction text with
  | nil => simp [value]
  | cons c text ih =>
    rw [value_cons, length_cons, Nat.pow_succ]
    obtain ⟨-, hle⟩ := digit_range (h c mem_cons_self)
    have hdigit : c.toNat - '0'.toNat ≤ 9 := by
      have h0 : '0'.toNat = 48 := rfl
      omega
    have hrest := ih (fun d hd => h d (mem_cons_of_mem c hd))
    have hmul := Nat.mul_le_mul_left (10 ^ text.length) hdigit
    omega

/-- Of two texts of digits of one length the one that names less comes first. -/
theorem append_lt_append {a b : List Char} (hlen : a.length = b.length)
    (ha : ∀ c ∈ a, c.isDigit = true) (hb : ∀ c ∈ b, c.isDigit = true) (h : value a < value b)
    (x y : List Char) : a ++ x < b ++ y := by
  induction a generalizing b with
  | nil =>
    cases b with
    | nil => exact absurd h (lt_irrefl _)
    | cons d b => cases hlen
  | cons c a ih =>
    cases b with
    | nil => cases hlen
    | cons d b =>
      have hlen' : a.length = b.length := Nat.succ.inj hlen
      have hrest := fun e he => ha e (mem_cons_of_mem c he)
      have hrest' := fun e he => hb e (mem_cons_of_mem d he)
      rw [cons_append, cons_append, cons_lt_cons_iff]
      rw [value_cons, value_cons, hlen'] at h
      obtain ⟨hc, -⟩ := digit_range (ha c mem_cons_self)
      obtain ⟨hd, -⟩ := digit_range (hb d mem_cons_self)
      have h0 : '0'.toNat = 48 := rfl
      rcases lt_trichotomy c d with hlt | rfl | hgt
      · exact .inl hlt
      · exact .inr ⟨rfl, ih hlen' hrest hrest' (by omega)⟩
      · -- A larger first digit outweighs all that follow.
        have hgt' : d.toNat < c.toNat := hgt
        have hv := value_lt hrest'
        have hstep : 10 ^ b.length * (d.toNat - '0'.toNat) + 10 ^ b.length ≤
            10 ^ b.length * (c.toNat - '0'.toNat) := by
          have hmul := Nat.mul_le_mul_left (10 ^ b.length)
            (show (d.toNat - '0'.toNat) + 1 ≤ c.toNat - '0'.toNat by omega)
          rwa [Nat.mul_add, Nat.mul_one] at hmul
        omega

lemma padStart_digits (width n : ℕ) : ∀ c ∈ padStart width n, c.isDigit = true := by
  intro c hc
  rcases mem_append.mp hc with hc | hc
  · rw [eq_of_mem_replicate hc]
    rfl
  · exact Nat.isDigit_of_mem_toDigits (by decide) (by decide) hc

lemma padStart_length {width n : ℕ} (hw : 0 < width) (h : n < 10 ^ width) :
    (padStart width n).length = width := by
  have hle := (Nat.length_toDigits_le_iff (by decide) hw).mpr h
  unfold padStart
  rw [length_append, length_replicate]
  omega

@[simp] lemma value_padStart (width n : ℕ) : value (padStart width n) = n := by
  unfold value padStart
  rw [Nat.ofDigitChars_append, Nat.ofDigitChars_replicate_zero, Nat.mul_zero,
    Nat.ofDigitChars_ten_toDigits]

end Numerals
