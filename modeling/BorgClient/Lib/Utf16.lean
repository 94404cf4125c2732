import Mathlib

/-!
# Texts of UTF-16 code units

The code points of a text, a lone surrogate being one of its own, and the bytes it takes in UTF-8,
where a lone surrogate is written as the replacement mark.
-/

namespace Utf16
open List

def isHigh (u : UInt16) : Bool := 0xd800 ≤ u && u ≤ 0xdbff

def isLow (u : UInt16) : Bool := 0xdc00 ≤ u && u ≤ 0xdfff

/-- A code point of a text: a unit by itself, or a surrogate pair. -/
inductive Point
  | unit (u : UInt16)
  | pair (high low : UInt16)
deriving DecidableEq, Repr

def Point.units : Point → List UInt16
  | .unit u => [u]
  | .pair high low => [high, low]

/-- The bytes of a code point in UTF-8. -/
def Point.byteLength : Point → ℕ
  | .unit u => if u < 0x80 then 1 else if u < 0x800 then 2 else 3
  | .pair _ _ => 4

/-- The iterator of a string. -/
def points : List UInt16 → List Point
  | [] => []
  | [u] => [.unit u]
  | u :: v :: text =>
    if isHigh u && isLow v then .pair u v :: points text else .unit u :: points (v :: text)

def unitsOf (ps : List Point) : List UInt16 := ps.flatMap Point.units

def pointBytes (ps : List Point) : ℕ := (ps.map Point.byteLength).sum

def byteLength (text : List UInt16) : ℕ := pointBytes (points text)

/-- The units of a literal without surrogates. -/
def literal (text : String) : List UInt16 := text.toList.map (fun c => UInt16.ofNat c.toNat)

@[simp] lemma unitsOf_nil : unitsOf [] = [] := rfl

@[simp] lemma unitsOf_cons (p : Point) (ps : List Point) :
    unitsOf (p :: ps) = p.units ++ unitsOf ps := flatMap_cons

@[simp] lemma pointBytes_nil : pointBytes [] = 0 := rfl

@[simp] lemma pointBytes_cons (p : Point) (ps : List Point) :
    pointBytes (p :: ps) = p.byteLength + pointBytes ps := by
  simp [pointBytes]

@[simp] lemma pointBytes_append (ps qs : List Point) :
    pointBytes (ps ++ qs) = pointBytes ps + pointBytes qs := by
  simp [pointBytes]

@[simp] lemma byteLength_nil : byteLength [] = 0 := rfl

lemma points_cons_unit {u : UInt16} {text : List UInt16}
    (h : ∀ v ∈ text.head?, (isHigh u && isLow v) = false) :
    points (u :: text) = .unit u :: points text := by
  cases text with
  | nil => rfl
  | cons v text => rw [points, h v rfl, if_neg Bool.false_ne_true]

lemma points_cons_pair {u v : UInt16} (h : (isHigh u && isLow v) = true) (text : List UInt16) :
    points (u :: v :: text) = .pair u v :: points text := by
  rw [points, if_pos h]

/-- The code points spell the text. -/
lemma unitsOf_points (text : List UInt16) : unitsOf (points text) = text := by
  fun_induction points text with
  | case1 => rfl
  | case2 u => rfl
  | case3 u v text h ih => simp [Point.units, ih]
  | case4 u v text h ih => simp [Point.units, ih]

/-- A prefix of the code points is read back as it is. -/
lemma points_unitsOf {ps : List Point} {text : List UInt16} (h : ps <+: points text) :
    points (unitsOf ps) = ps := by
  fun_induction points text generalizing ps with
  | case1 =>
    rw [prefix_nil] at h
    rw [h]
    rfl
  | case2 u =>
    cases ps with
    | nil => rfl
    | cons p ps =>
      obtain ⟨rfl, htail⟩ := cons_prefix_cons.mp h
      rw [prefix_nil] at htail
      rw [htail]
      rfl
  | case3 u v text hpair ih =>
    cases ps with
    | nil => rfl
    | cons p ps =>
      obtain ⟨rfl, htail⟩ := cons_prefix_cons.mp h
      rw [unitsOf_cons, Point.units, cons_append, cons_append, nil_append,
        points_cons_pair hpair, ih htail]
  | case4 u v text hpair ih =>
    cases ps with
    | nil => rfl
    | cons p ps =>
      obtain ⟨rfl, htail⟩ := cons_prefix_cons.mp h
      have hunits : unitsOf ps <+: v :: text := by
        obtain ⟨rest, hrest⟩ := htail
        rw [← unitsOf_points (v :: text), ← hrest, unitsOf, unitsOf, flatMap_append]
        exact prefix_append _ _
      have hhead : ∀ w ∈ (unitsOf ps).head?, (isHigh u && isLow w) = false := by
        intro w hw
        cases hps : unitsOf ps with
        | nil => simp [hps] at hw
        | cons x rest =>
          rw [hps] at hunits hw
          obtain ⟨rfl, -⟩ := cons_prefix_cons.mp hunits
          obtain rfl := Option.some.inj hw
          simpa using hpair
      rw [unitsOf_cons, Point.units, cons_append, nil_append, points_cons_unit hhead, ih htail]

/-! ### Texts one after the other -/

/-- No pair forms where the texts meet. -/
def Apart (xs ys : List UInt16) : Prop :=
  ∀ u ∈ xs.getLast?, ∀ v ∈ ys.head?, (isHigh u && isLow v) = false

lemma points_append {xs ys : List UInt16} (h : Apart xs ys) :
    points (xs ++ ys) = points xs ++ points ys := by
  fun_induction points xs with
  | case1 => rfl
  | case2 u => exact points_cons_unit (h u rfl)
  | case3 u v text hpair ih =>
    rw [cons_append, cons_append, points_cons_pair hpair, ih ?_, cons_append]
    intro w hw
    refine h w ?_
    rw [Option.mem_def] at hw
    rw [getLast?_cons, getLast?_cons, hw]
    rfl
  | case4 u v text hpair ih =>
    rw [cons_append, points_cons_unit (by simpa using hpair), ih ?_, cons_append]
    intro w hw
    refine h w ?_
    rw [Option.mem_def] at hw
    rw [getLast?_cons, hw]
    rfl

lemma byteLength_append {xs ys : List UInt16} (h : Apart xs ys) :
    byteLength (xs ++ ys) = byteLength xs + byteLength ys := by
  rw [byteLength, points_append h, pointBytes_append]
  rfl

/-- No unit of the text is a surrogate. -/
def Plain (text : List UInt16) : Prop := ∀ u ∈ text, isHigh u = false ∧ isLow u = false

lemma Plain.apart_left {xs : List UInt16} (h : Plain xs) (ys : List UInt16) : Apart xs ys := by
  intro u hu v _
  rw [(h u (mem_of_getLast? hu)).1, Bool.false_and]

lemma Plain.apart_right {ys : List UInt16} (h : Plain ys) (xs : List UInt16) : Apart xs ys := by
  intro u _ v hv
  rw [(h v (mem_of_head? hv)).2, Bool.and_false]

/-- A plain text between two others keeps them apart. -/
lemma byteLength_between {xs sep ys : List UInt16} (h : Plain sep) (hne : sep ≠ []) :
    byteLength (xs ++ sep ++ ys) = byteLength xs + byteLength sep + byteLength ys := by
  have hmeet : Apart (xs ++ sep) ys := by
    intro u hu v _
    rw [getLast?_append_of_ne_nil _ hne] at hu
    rw [(h u (mem_of_getLast? hu)).1, Bool.false_and]
  rw [byteLength_append hmeet, byteLength_append (h.apart_right xs)]

end Utf16
