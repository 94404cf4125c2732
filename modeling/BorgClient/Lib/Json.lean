import Mathlib

/-!
# Values of a JSON text

A parsed text, the fields of an object, and readers of a field by its type. The keys of an
object are those left by a parser that keeps one field for each.
-/

inductive Json
  | null
  | bool (value : Bool)
  | num (value : ℚ)
  | str (text : String)
  | arr (items : List Json)
  | obj (fields : List (String × Json))

namespace Json

/-- A field the object itself has. -/
def field? : Json → String → Option Json
  | .obj fields, name => fields.lookup name
  | _, _ => none

/-- A field that must be there and be a string. -/
def string? (value : Json) (name : String) : Option String :=
  match value.field? name with
  | some (.str text) => some text
  | _ => none

/-- A field that may be missing, read by `read` where it is there. -/
def optional {α : Type} (read : Json → Option α) (value : Json) (name : String) :
    Option (Option α) :=
  match value.field? name with
  | none => some none
  | some field => (read field).map some

def asString : Json → Option String
  | .str text => some text
  | _ => none

def asBool : Json → Option Bool
  | .bool value => some value
  | _ => none

/-- A natural number. -/
def asNat : Json → Option ℕ
  | .num value => if value.den = 1 ∧ 0 ≤ value.num then some value.num.toNat else none
  | _ => none

/-- An optional field as it is written: nothing for a missing value. -/
def entry {α : Type} (name : String) (write : α → Json) (value : Option α) :
    List (String × Json) :=
  value.toList.map (fun a => (name, write a))

lemma lookup_entry {α : Type} (name other : String) (write : α → Json) (value : Option α) :
    (entry name write value).lookup other = if other = name then value.map write else none := by
  unfold entry
  cases value with
  | none => simp
  | some a =>
    by_cases h : other = name
    · simp [h]
    · have hb : (other == name) = false := by simpa using h
      simp [List.lookup_cons, hb, h]

/-- A field written by `write` is read back. -/
lemma optional_eq {α : Type} {read : Json → Option α} {write : α → Json} {value : Json}
    {name : String} {a : Option α} (hread : ∀ a, read (write a) = some a)
    (hfield : value.field? name = a.map write) : value.optional read name = some a := by
  unfold optional
  rw [hfield]
  cases a with
  | none => rfl
  | some a => simp [hread]

@[simp] lemma asString_str (text : String) : asString (.str text) = some text := rfl

@[simp] lemma asBool_bool (value : Bool) : asBool (.bool value) = some value := rfl

@[simp] lemma asNat_num (n : ℕ) : asNat (.num n) = some n := by
  simp [asNat]

/-! ### Assigning a field -/

/-- The field in its place, or at the end where it was missing. -/
def assign (name : String) (value : Json) : List (String × Json) → List (String × Json)
  | [] => [(name, value)]
  | (k, v) :: rest => if k = name then (k, value) :: rest else (k, v) :: assign name value rest

/-- A field of an object; nothing else takes one. -/
def withField (object : Json) (name : String) (value : Json) : Json :=
  match object with
  | .obj fields => .obj (assign name value fields)
  | other => other

lemma lookup_assign (name : String) (value : Json) (fields : List (String × Json))
    (other : String) : (assign name value fields).lookup other =
      if other = name then some value else fields.lookup other := by
  induction fields with
  | nil =>
    by_cases h : other = name
    · simp [assign, h]
    · have hb : (other == name) = false := by simpa using h
      simp [assign, List.lookup_cons, hb, h]
  | cons pair rest ih =>
    obtain ⟨k, v⟩ := pair
    unfold assign
    by_cases hk : k = name
    · subst hk
      rw [if_pos rfl]
      by_cases h : other = k
      · simp [h]
      · have hb : (other == k) = false := by simpa using h
        simp [List.lookup_cons, hb, h]
    · rw [if_neg hk, List.lookup_cons, List.lookup_cons, ih]
      by_cases h : other = k
      · subst h
        simp [hk]
      · have hb : (other == k) = false := by simpa using h
        simp [hb]

lemma assign_self {name : String} {value : Json} {fields : List (String × Json)}
    (h : fields.lookup name = some value) : assign name value fields = fields := by
  induction fields with
  | nil => simp at h
  | cons pair rest ih =>
    obtain ⟨k, v⟩ := pair
    unfold assign
    by_cases hk : k = name
    · subst hk
      simp only [List.lookup_cons, beq_self_eq_true, Option.some.injEq] at h
      rw [if_pos rfl, h]
    · have hb : (name == k) = false := by simpa using fun he : name = k => hk he.symm
      rw [List.lookup_cons, hb] at h
      rw [if_neg hk, ih h]

lemma assign_assign (name : String) (first second : Json) (fields : List (String × Json)) :
    assign name second (assign name first fields) = assign name second fields := by
  induction fields with
  | nil => simp [assign]
  | cons pair rest ih =>
    obtain ⟨k, v⟩ := pair
    by_cases hk : k = name
    · simp [assign, hk]
    · simp [assign, hk, ih]

lemma field?_withField (fields : List (String × Json)) (name : String) (value : Json)
    (other : String) : ((obj fields).withField name value).field? other =
      if other = name then some value else fields.lookup other :=
  lookup_assign name value fields other

lemma withField_self {object : Json} {name : String} {value : Json}
    (h : object.field? name = some value) : object.withField name value = object := by
  cases object with
  | obj fields => exact congrArg Json.obj (assign_self h)
  | _ => cases h

lemma withField_withField (object : Json) (name : String) (first second : Json) :
    (object.withField name first).withField name second = object.withField name second := by
  cases object with
  | obj fields => exact congrArg Json.obj (assign_assign name first second fields)
  | _ => rfl

end Json
