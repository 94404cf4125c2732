import BorgClient.Lib.Transducer

/-!
# A streaming UTF-8 decoder

The decoder of the encoding standard: a replacement mark for each broken sequence, the byte that
broke it read again, and a byte order mark at the start dropped.
-/

namespace Utf8
open List Transducer

/-- The bytes of a text. -/
def byteLength (text : List Char) : ℕ := (text.map Char.utf8Size).sum

@[simp] lemma byteLength_nil : byteLength [] = 0 := rfl

@[simp] lemma byteLength_cons (c : Char) (text : List Char) :
    byteLength (c :: text) = c.utf8Size + byteLength text := by
  simp [byteLength]

@[simp] lemma byteLength_append (xs ys : List Char) :
    byteLength (xs ++ ys) = byteLength xs + byteLength ys := by
  simp [byteLength]

/-- What is known of the sequence being read: the bytes still needed, the bits of those seen and
the range of the next byte. -/
structure Pending where
  needed : ℕ := 0
  codePoint : ℕ := 0
  lower : ℕ := 0x80
  upper : ℕ := 0xbf
deriving DecidableEq, Repr

def replacement : Char := '\uFFFD'

def byteOrderMark : Char := '\uFEFF'

/-- A byte between sequences. -/
def startByte (b : ℕ) : Pending × List Char :=
  if b ≤ 0x7f then ({}, [Char.ofNat b])
  else if 0xc2 ≤ b ∧ b ≤ 0xdf then ({ needed := 1, codePoint := b - 0xc0 }, [])
  else if 0xe0 ≤ b ∧ b ≤ 0xef then
    ({ needed := 2, codePoint := b - 0xe0, lower := if b = 0xe0 then 0xa0 else 0x80,
       upper := if b = 0xed then 0x9f else 0xbf }, [])
  else if 0xf0 ≤ b ∧ b ≤ 0xf4 then
    ({ needed := 3, codePoint := b - 0xf0, lower := if b = 0xf0 then 0x90 else 0x80,
       upper := if b = 0xf4 then 0x8f else 0xbf }, [])
  else ({}, [replacement])

def stepByte (p : Pending) (byte : UInt8) : Pending × List Char :=
  let b := byte.toNat
  if p.needed = 0 then startByte b
  else if b < p.lower ∨ p.upper < b then
    let again := startByte b
    (again.1, replacement :: again.2)
  else
    let codePoint := p.codePoint * 0x40 + (b - 0x80)
    if p.needed = 1 then ({}, [Char.ofNat codePoint])
    else ({ needed := p.needed - 1, codePoint := codePoint }, [])

/-- The first character is dropped when it is the byte order mark. -/
def stepMark (seen : Bool) (c : Char) : Bool × List Char :=
  (true, if !seen && c == byteOrderMark then [] else [c])

structure Decoder where
  pending : Pending := {}
  markSeen : Bool := false
deriving DecidableEq, Repr

def step (d : Decoder) (byte : UInt8) : Decoder × List Char :=
  let next := stepByte d.pending byte
  let out := run stepMark d.markSeen next.2
  (⟨next.1, out.1⟩, out.2)

/-- A piece of the stream. -/
def decode (d : Decoder) (bytes : List UInt8) : Decoder × List Char := run step d bytes

/-- The end of the stream. -/
def flush (d : Decoder) : List Char :=
  if d.pending.needed = 0 then [] else (run stepMark d.markSeen [replacement]).2

/-- The text of a whole stream. -/
def decodeAll (bytes : List UInt8) : List Char :=
  (decode {} bytes).2 ++ flush (decode {} bytes).1

/-- An ASCII byte between sequences is its own character. -/
lemma step_ascii {d : Decoder} {byte : UInt8} (hd : d.pending = {}) (hb : byte.toNat ≤ 0x7f) :
    step d byte = ({ pending := {}, markSeen := true }, [Char.ofNat byte.toNat]) := by
  have hmark : (Char.ofNat byte.toNat == byteOrderMark) = false := by
    rw [beq_eq_false_iff_ne]
    intro h
    have hn := congrArg Char.toNat h
    rw [Char.toNat_ofNat, if_pos (Or.inl (by omega))] at hn
    have hm : byteOrderMark.toNat = 0xfeff := by decide
    omega
  simp [step, stepByte, startByte, hd, hb, run, stepMark, hmark]

lemma decode_ascii {bytes : List UInt8} (h : ∀ b ∈ bytes, b.toNat ≤ 0x7f) (markSeen : Bool) :
    (decode { markSeen := markSeen } bytes).1.pending = {} ∧
      (decode { markSeen := markSeen } bytes).2 = bytes.map (fun b => Char.ofNat b.toNat) := by
  induction bytes generalizing markSeen with
  | nil => exact ⟨rfl, rfl⟩
  | cons b rest ih =>
    have hstep := step_ascii (d := { markSeen := markSeen }) rfl (h b (by simp))
    have hrest := ih (fun c hc => h c (by simp [hc])) true
    unfold decode at hrest ⊢
    rw [run_cons, hstep]
    exact ⟨hrest.1, by rw [hrest.2]; rfl⟩

/-- The replacement mark is no line feed, so a flush never completes a line. -/
lemma flush_eq (d : Decoder) : flush d = [] ∨ flush d = [replacement] := by
  unfold flush
  split
  · exact Or.inl rfl
  · right
    have hmark : (replacement == byteOrderMark) = false := by decide
    simp [run, stepMark, hmark]

end Utf8
