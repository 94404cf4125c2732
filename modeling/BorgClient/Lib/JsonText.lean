import BorgClient.Lib.Json

/-!
# Reading a JSON text

A text is cut into tokens from left to right, and the tokens drive a machine with a stack of the
arrays and objects that are open. Two of the machine's states tell what may not follow: a comma is
followed by no closing bracket, and a word by no word.
-/

namespace JsonText
open List

/-! ### Tokens -/

/-- The body of a string is kept as written, escapes and all. -/
inductive Token
  | punct (c : Char)
  | str (body : List Char)
  | word (text : List Char)
deriving DecidableEq, Repr

def isPunct (c : Char) : Bool := ['[', ']', '{', '}', ':', ','].contains c

/-- White space between tokens. -/
def isWs (c : Char) : Bool := [' ', '\t', '\n', '\r'].contains c

def isWordChar (c : Char) : Bool := !isWs c && !isPunct c && c != '"'

/-- Between tokens, in a word so far, or in a string's body so far, behind a backslash or not. -/
inductive LexState
  | idle
  | word (text : List Char)
  | str (body : List Char) (escaped : Bool)

/-- Whether the next character of a string is escaped. -/
def nextEscaped (escaped : Bool) (c : Char) : Bool := !escaped && c == '\\'

/-- The tokens of a text, `none` where a string is not closed. -/
def lex : LexState → List Char → Option (List Token)
  | .idle, [] => some []
  | .word text, [] => some [.word text]
  | .str _ _, [] => none
  | .idle, c :: rest =>
    if isWs c then lex .idle rest
    else if c = '"' then lex (.str [] false) rest
    else if isPunct c then (lex .idle rest).map (.punct c :: ·)
    else lex (.word [c]) rest
  | .word text, c :: rest =>
    if isWs c then (lex .idle rest).map (.word text :: ·)
    else if c = '"' then (lex (.str [] false) rest).map (.word text :: ·)
    else if isPunct c then (lex .idle rest).map (fun tokens => .word text :: .punct c :: tokens)
    else lex (.word (text ++ [c])) rest
  | .str body escaped, c :: rest =>
    if !escaped && c == '"' then (lex .idle rest).map (.str body :: ·)
    else lex (.str (body ++ [c]) (nextEscaped escaped c)) rest

/-! ### Words and strings -/

def digitsValue (digits : List Char) : ℕ := Nat.ofDigitChars 10 digits 0

/-- The sign and digits behind an `e`; nothing is no exponent. -/
def readExponent : List Char → Option ℤ
  | [] => some 0
  | e :: rest =>
    if e = 'e' ∨ e = 'E' then
      let (negative, digits) := match rest with
        | '-' :: digits => (true, digits)
        | '+' :: digits => (false, digits)
        | digits => (false, digits)
      if digits.isEmpty || !digits.all Char.isDigit then none
      else some (if negative then -(digitsValue digits : ℤ) else digitsValue digits)
    else none

def isNumberChar (c : Char) : Bool := c.isDigit || ['+', '-', '.', 'e', 'E'].contains c

def readNumber (text : List Char) : Option ℚ :=
  if !text.all isNumberChar then none
  else
    let (sign, text) := match text with
      | '-' :: text => ((-1 : ℚ), text)
      | text => (1, text)
    let whole := text.takeWhile Char.isDigit
    let rest := text.dropWhile Char.isDigit
    if whole.isEmpty || (whole.length > 1 && whole.head? == some '0') then none
    else
      match rest with
      | '.' :: rest =>
        let fraction := rest.takeWhile Char.isDigit
        if fraction.isEmpty then none
        else (readExponent (rest.dropWhile Char.isDigit)).map (fun exponent =>
          sign * digitsValue (whole ++ fraction) * (10 : ℚ) ^ (exponent - (fraction.length : ℤ)))
      | rest => (readExponent rest).map (fun exponent =>
          sign * digitsValue whole * (10 : ℚ) ^ exponent)

/-- A literal or a number. -/
def readWord (text : List Char) : Option Json :=
  if text = "true".toList then some (.bool true)
  else if text = "false".toList then some (.bool false)
  else if text = "null".toList then some .null
  else (readNumber text).map .num

def hexValue (c : Char) : Option ℕ :=
  if c.isDigit then some (c.toNat - 48)
  else if 'a' ≤ c ∧ c ≤ 'f' then some (c.toNat - 87)
  else if 'A' ≤ c ∧ c ≤ 'F' then some (c.toNat - 55)
  else none

def readHex : List Char → Option ℕ
  | [a, b, c, d] =>
    match hexValue a, hexValue b, hexValue c, hexValue d with
    | some a, some b, some c, some d => some (((a * 16 + b) * 16 + c) * 16 + d)
    | _, _, _, _ => none
  | _ => none

/-- What an escape stands for, by its letter. -/
def simpleEscape (c : Char) : Option Char :=
  match c with
  | '"' => some '"'
  | '\\' => some '\\'
  | '/' => some '/'
  | 'b' => some '\x08'
  | 'f' => some '\x0c'
  | 'n' => some '\n'
  | 'r' => some '\r'
  | 't' => some '\t'
  | _ => none

/-- The characters of a body, code units of escapes joined in pairs; a lone half of a pair, which
has no character, becomes the replacement mark. -/
def readBody : ℕ → List Char → Option (List Char)
  | 0, _ => some []
  | _ + 1, [] => some []
  | fuel + 1, '\\' :: 'u' :: rest =>
    match readHex (rest.take 4) with
    | none => none
    | some high =>
      let rest := rest.drop 4
      let low := if rest.take 2 = ['\\', 'u'] then readHex ((rest.drop 2).take 4) else none
      if 0xd800 ≤ high ∧ high ≤ 0xdbff ∧ low.any (fun low => 0xdc00 ≤ low && low ≤ 0xdfff) then
        (readBody fuel (rest.drop 6)).map
          (Char.ofNat (0x10000 + (high - 0xd800) * 0x400 + (low.getD 0 - 0xdc00)) :: ·)
      else if 0xd800 ≤ high ∧ high ≤ 0xdfff then (readBody fuel rest).map ('\uFFFD' :: ·)
      else (readBody fuel rest).map (Char.ofNat high :: ·)
  | fuel + 1, '\\' :: c :: rest =>
    (simpleEscape c).bind (fun c => (readBody fuel rest).map (c :: ·))
  | fuel + 1, c :: rest =>
    if c.toNat < 0x20 ∨ c = '\\' then none else (readBody fuel rest).map (c :: ·)

def readString (body : List Char) : Option String :=
  (readBody body.length body).map String.ofList

/-- A token that is a whole value. -/
def scalar : Token → Option Json
  | .str body => (readString body).map .str
  | .word text => readWord text
  | .punct _ => none

/-! ### The machine -/

/-- An open array with its items so far, or an open object with its fields and the key that waits
for its value. -/
inductive Frame
  | item (items : List Json)
  | field (fields : List (String × Json)) (key : String)

/-- What has to come, with the open frames: a value, the first item or key, a key, a colon; or what
has been read, when a value is complete. -/
inductive Reading
  | value (stack : List Frame)
  | firstItem (stack : List Frame)
  | firstKey (stack : List Frame)
  | key (stack : List Frame) (fields : List (String × Json))
  | colon (stack : List Frame) (fields : List (String × Json)) (key : String)
  | after (stack : List Frame) (value : Json)

/-- A token where a value has to come. -/
def stepValue (stack : List Frame) : Token → Option Reading
  | .punct '[' => some (.firstItem stack)
  | .punct '{' => some (.firstKey stack)
  | token => (scalar token).map (.after stack)

def stepKey (stack : List Frame) (fields : List (String × Json)) : Token → Option Reading
  | .str body => (readString body).map (.colon stack fields)
  | _ => none

/-- A token behind a complete value. A key that is there already takes the new value. -/
def stepAfter (stack : List Frame) (value : Json) (token : Token) : Option Reading :=
  match stack, token with
  | .item items :: stack, .punct ',' => some (.value (.item (items ++ [value]) :: stack))
  | .item items :: stack, .punct ']' => some (.after stack (.arr (items ++ [value])))
  | .field fields key :: stack, .punct ',' => some (.key stack (Json.assign key value fields))
  | .field fields key :: stack, .punct '}' =>
    some (.after stack (.obj (Json.assign key value fields)))
  | _, _ => none

def stepToken (reading : Reading) (token : Token) : Option Reading :=
  match reading with
  | .value stack => stepValue stack token
  | .firstItem stack =>
    if token = .punct ']' then some (.after stack (.arr []))
    else stepValue (.item [] :: stack) token
  | .firstKey stack =>
    if token = .punct '}' then some (.after stack (.obj [])) else stepKey stack [] token
  | .key stack fields => stepKey stack fields token
  | .colon stack fields key =>
    if token = .punct ':' then some (.value (.field fields key :: stack)) else none
  | .after stack value => stepAfter stack value token

def runTokens (reading : Reading) (tokens : List Token) : Option Reading :=
  tokens.foldlM stepToken reading

/-- The value of the tokens. -/
def valueOf (tokens : List Token) : Option Json :=
  match runTokens (.value []) tokens with
  | some (.after [] value) => some value
  | _ => none

/-- `JSON.parse`, `none` where it throws. -/
def parse (text : List Char) : Option Json := (lex .idle text).bind valueOf

/-! ### What may not follow -/

def isCloser (token : Token) : Bool := token == .punct ']' || token == .punct '}'

/-- A comma before no closing bracket, a word before no word, and words that are values. -/
def Follows (first second : Token) : Prop :=
  (first = .punct ',' → isCloser second = false) ∧
    ∀ text, first = .word text → ∀ text', second ≠ .word text'

lemma runTokens_cons (reading : Reading) (token : Token) (tokens : List Token) :
    runTokens reading (token :: tokens) =
      (stepToken reading token).bind (fun reading => runTokens reading tokens) := by
  unfold runTokens
  rw [foldlM_cons]
  rfl

/-- After a comma a value or a key has to come. -/
lemma step_comma {reading after : Reading} (h : stepToken reading (.punct ',') = some after) :
    (∃ stack, after = .value stack) ∨ ∃ stack fields, after = .key stack fields := by
  cases reading with
  | after stack value =>
    cases stack with
    | nil => cases h
    | cons frame stack =>
      cases frame with
      | item items =>
        cases h
        exact .inl ⟨_, rfl⟩
      | field fields key =>
        cases h
        exact .inr ⟨_, _, rfl⟩
  | value stack => cases h
  | firstItem stack => cases h
  | firstKey stack => cases h
  | key stack fields => cases h
  | colon stack fields key => cases h

lemma step_word_after {stack : List Frame} {value : Json} (text : List Char) :
    stepToken (.after stack value) (.word text) = none := by
  cases stack with
  | nil => rfl
  | cons frame stack => cases frame <;> rfl

/-- After a word a value is complete, and the word is that value. -/
lemma step_word {reading after : Reading} {text : List Char}
    (h : stepToken reading (.word text) = some after) :
    ∃ stack value, after = .after stack value ∧ readWord text = some value := by
  have hvalue : ∀ stack, stepValue stack (.word text) = some after →
      ∃ stack value, after = .after stack value ∧ readWord text = some value := by
    intro stack hs
    obtain ⟨value, hv, rfl⟩ := Option.map_eq_some_iff.mp hs
    exact ⟨stack, value, rfl, hv⟩
  cases reading with
  | value stack => exact hvalue stack h
  | firstItem stack => exact hvalue (.item [] :: stack) h
  | firstKey stack => cases h
  | key stack fields => cases h
  | colon stack fields key => cases h
  | after stack value =>
    rw [step_word_after] at h
    cases h

lemma step_closer_value {stack : List Frame} {token : Token} (hc : isCloser token = true) :
    stepToken (.value stack) token = none ∧
      ∀ fields, stepToken (.key stack fields) token = none := by
  unfold isCloser at hc
  rw [Bool.or_eq_true, beq_iff_eq, beq_iff_eq] at hc
  rcases hc with rfl | rfl <;> exact ⟨rfl, fun fields => rfl⟩

/-- The tokens of a value follow each other as they may, and its words are values. -/
lemma chain_of_run {reading after : Reading} {tokens : List Token}
    (h : runTokens reading tokens = some after) :
    tokens.IsChain Follows ∧ ∀ text, .word text ∈ tokens → (readWord text).isSome := by
  induction tokens generalizing reading with
  | nil => exact ⟨.nil, by simp⟩
  | cons token tokens ih =>
    rw [runTokens_cons] at h
    obtain ⟨middle, hstep, hrest⟩ := Option.bind_eq_some_iff.mp h
    obtain ⟨hchain, hwords⟩ := ih hrest
    refine ⟨?_, fun text hmem => ?_⟩
    · cases tokens with
      | nil => exact .singleton _
      | cons second tokens =>
        rw [runTokens_cons] at hrest
        obtain ⟨last, hsecond, -⟩ := Option.bind_eq_some_iff.mp hrest
        refine .cons_cons ⟨fun hcomma => ?_, fun text hword text' hword' => ?_⟩ hchain
        · subst hcomma
          rw [← Bool.not_eq_true]
          intro hc
          rcases step_comma hstep with ⟨stack, rfl⟩ | ⟨stack, fields, rfl⟩
          · rw [(step_closer_value hc).1] at hsecond
            cases hsecond
          · rw [(step_closer_value hc).2] at hsecond
            cases hsecond
        · subst hword hword'
          obtain ⟨stack, value, rfl, -⟩ := step_word hstep
          rw [step_word_after] at hsecond
          cases hsecond
    · rcases mem_cons.mp hmem with rfl | hmem
      · obtain ⟨-, value, -, hv⟩ := step_word hstep
        rw [hv]
        rfl
      · exact hwords text hmem

/-- A visible ASCII character that starts no comment. -/
def isPlain (c : Char) : Bool := 0x21 ≤ c.toNat && c.toNat ≤ 0x7e && c != '/'

lemma isPlain_of_numberChar {c : Char} (h : isNumberChar c = true) : isPlain c = true := by
  unfold isNumberChar at h
  rw [Bool.or_eq_true] at h
  rcases h with h | h
  · simp only [Char.isDigit, Bool.and_eq_true, decide_eq_true_eq] at h
    have h1 : 48 ≤ c.toNat := UInt32.le_iff_toNat_le.mp h.1
    have h2 : c.toNat ≤ 57 := UInt32.le_iff_toNat_le.mp h.2
    have hne : c ≠ '/' := by
      rintro rfl
      revert h1
      decide
    simp only [isPlain, Bool.and_eq_true, decide_eq_true_eq, bne_iff_ne]
    exact ⟨⟨by omega, by omega⟩, hne⟩
  · simp only [contains_eq_mem, decide_eq_true_eq, mem_cons, not_mem_nil, or_false] at h
    rcases h with rfl | rfl | rfl | rfl | rfl <;> decide

/-- A word that is a value has plain characters only. -/
lemma readWord_plain {text : List Char} (h : (readWord text).isSome) :
    ∀ c ∈ text, isPlain c = true := by
  unfold readWord at h
  split at h
  · rename_i ht
    rw [ht]
    exact all_eq_true.mp (by decide +kernel)
  · split at h
    · rename_i ht
      rw [ht]
      exact all_eq_true.mp (by decide +kernel)
    · split at h
      · rename_i ht
        rw [ht]
        exact all_eq_true.mp (by decide +kernel)
      · rw [Option.isSome_map] at h
        unfold readNumber at h
        split at h
        · cases h
        · rename_i hall
          rw [Bool.not_eq_true, Bool.not_eq_false', all_eq_true] at hall
          exact fun c hc => isPlain_of_numberChar (hall c hc)

/-! ### Texts of tokens -/

def Token.text : Token → List Char
  | .punct c => [c]
  | .str body => '"' :: (body ++ ['"'])
  | .word text => text

/-- The body ends with no escape open, and no quote in it ends it before. -/
def closed : Bool → List Char → Bool
  | escaped, [] => !escaped
  | escaped, c :: rest => !(!escaped && c == '"') && closed (nextEscaped escaped c) rest

def Token.WellFormed : Token → Prop
  | .punct c => isPunct c = true
  | .str body => closed false body = true
  | .word text => text ≠ [] ∧ ∀ c ∈ text, isWordChar c = true

def White (text : List Char) : Prop := ∀ c ∈ text, isWs c = true

/-- The tokens in their order, with trivia around them and, where `commas` allows it, one more comma
before a closing bracket. -/
inductive Rendered (trivia last : List Char → Prop) (commas : Bool) : List Token → List Char → Prop
  | done {rest : List Char} : last rest → Rendered trivia last commas [] rest
  | token {before rest : List Char} {token : Token} {tokens : List Token} : trivia before →
      token.WellFormed → Rendered trivia last commas tokens rest →
      Rendered trivia last commas (token :: tokens) (before ++ (token.text ++ rest))
  | comma {before between rest : List Char} {token : Token} {tokens : List Token} :
      commas = true → trivia before → trivia between → isCloser token = true →
      Rendered trivia last commas tokens rest →
      Rendered trivia last commas (token :: tokens)
        (before ++ ',' :: (between ++ (token.text ++ rest)))

/-! ### Reading what is rendered -/

lemma isPunct_cases {c : Char} (h : isPunct c = true) :
    c = '[' ∨ c = ']' ∨ c = '{' ∨ c = '}' ∨ c = ':' ∨ c = ',' := by
  simpa [isPunct] using h

lemma lex_idle_cons (c : Char) (rest : List Char) : lex .idle (c :: rest) =
    if isWs c then lex .idle rest
    else if c = '"' then lex (.str [] false) rest
    else if isPunct c then (lex .idle rest).map (.punct c :: ·)
    else lex (.word [c]) rest := by
  rw [lex]

lemma lex_word_cons (text : List Char) (c : Char) (rest : List Char) :
    lex (.word text) (c :: rest) =
      if isWs c then (lex .idle rest).map (.word text :: ·)
      else if c = '"' then (lex (.str [] false) rest).map (.word text :: ·)
      else if isPunct c then (lex .idle rest).map (fun tokens => .word text :: .punct c :: tokens)
      else lex (.word (text ++ [c])) rest := by
  rw [lex]

lemma lex_str_cons (body : List Char) (escaped : Bool) (c : Char) (rest : List Char) :
    lex (.str body escaped) (c :: rest) =
      if !escaped && c == '"' then (lex .idle rest).map (.str body :: ·)
      else lex (.str (body ++ [c]) (nextEscaped escaped c)) rest := by
  rw [lex]

lemma lex_white {white : List Char} (h : White white) (rest : List Char) :
    lex .idle (white ++ rest) = lex .idle rest := by
  induction white with
  | nil => rfl
  | cons c white ih =>
    rw [cons_append, lex_idle_cons, if_pos (h c mem_cons_self)]
    exact ih (fun d hd => h d (mem_cons_of_mem c hd))

lemma lex_punct {c : Char} (h : isPunct c = true) (rest : List Char) :
    lex .idle (c :: rest) = (lex .idle rest).map (.punct c :: ·) := by
  rcases isPunct_cases h with rfl | rfl | rfl | rfl | rfl | rfl <;> rfl

lemma lex_body {escaped : Bool} {body : List Char} (h : closed escaped body = true)
    (seen rest : List Char) : lex (.str seen escaped) (body ++ '"' :: rest) =
      (lex .idle rest).map (.str (seen ++ body) :: ·) := by
  induction body generalizing escaped seen with
  | nil =>
    have he : escaped = false := by simpa [closed] using h
    subst he
    rw [nil_append, append_nil, lex_str_cons, if_pos (by decide)]
  | cons c body ih =>
    unfold closed at h
    rw [Bool.and_eq_true, Bool.not_eq_true'] at h
    rw [cons_append, lex_str_cons, if_neg (by rw [h.1]; decide), ih h.2, append_assoc,
      singleton_append]

lemma isWordChar_iff {c : Char} : isWordChar c = true ↔
    isWs c = false ∧ c ≠ '"' ∧ isPunct c = false := by
  simp only [isWordChar, Bool.and_eq_true, Bool.not_eq_true', bne_iff_ne]
  tauto

lemma lex_word_chars {word : List Char} (h : ∀ c ∈ word, isWordChar c = true)
    (seen rest : List Char) : lex (.word seen) (word ++ rest) = lex (.word (seen ++ word)) rest := by
  induction word generalizing seen with
  | nil => rw [nil_append, append_nil]
  | cons c word ih =>
    obtain ⟨hws, hq, hp⟩ := isWordChar_iff.mp (h c mem_cons_self)
    rw [cons_append, lex_word_cons, if_neg (by simp [hws]), if_neg hq, if_neg (by simp [hp]),
      ih (fun d hd => h d (mem_cons_of_mem c hd)), append_assoc, singleton_append]

/-- What a word is not part of ends it. -/
lemma lex_word_end (word : List Char) {rest : List Char}
    (h : ∀ c ∈ rest.head?, isWordChar c = false) :
    lex (.word word) rest = (lex .idle rest).map (.word word :: ·) := by
  cases rest with
  | nil => rfl
  | cons c rest =>
    have hc : isWordChar c = false := h c rfl
    rw [lex_word_cons, lex_idle_cons]
    by_cases hws : isWs c = true
    · rw [if_pos hws, if_pos hws]
    · rw [if_neg hws, if_neg hws]
      by_cases hq : c = '"'
      · rw [if_pos hq, if_pos hq]
      · rw [if_neg hq, if_neg hq]
        have hp : isPunct c = true := by
          by_contra hp
          have := isWordChar_iff.mpr ⟨by simpa using hws, hq, by simpa using hp⟩
          rw [hc] at this
          cases this
        rw [if_pos hp, if_pos hp, Option.map_map]
        rfl

/-- What is rendered starts with no character of a word unless its first token is a word. -/
lemma rendered_head {tokens : List Token} {text : List Char}
    (h : Rendered White White false tokens text)
    (hfirst : ∀ token ∈ tokens.head?, ∀ word, token ≠ .word word) :
    ∀ c ∈ text.head?, isWordChar c = false := by
  have hwhite : ∀ {c : Char}, isWs c = true → isWordChar c = false := by
    intro c hc
    simp [isWordChar, hc]
  cases h with
  | done hlast =>
    intro c hc
    exact hwhite (hlast c (mem_of_mem_head? hc))
  | comma hcommas => cases hcommas
  | @token before rest token tokens hbefore hwell hrest =>
    cases before with
    | cons d before =>
      intro c hc
      cases hc
      exact hwhite (hbefore d mem_cons_self)
    | nil =>
      intro c hc
      cases token with
      | punct d =>
        have hd : d = c := Option.some_inj.mp hc
        have hp : isPunct d = true := hwell
        rw [← hd]
        simp [isWordChar, hp]
      | str body =>
        cases hc
        decide
      | word word => exact absurd rfl (hfirst (.word word) rfl word)

/-- The tokens are read back from their text. -/
theorem lex_rendered {tokens : List Token} {text : List Char}
    (h : Rendered White White false tokens text) (hchain : tokens.IsChain Follows) :
    lex .idle text = some tokens := by
  induction h with
  | @done rest hlast =>
    rw [← append_nil rest, lex_white hlast]
    rfl
  | comma hcommas => cases hcommas
  | @token before rest token tokens hbefore hwell hrest ih =>
    have ih := ih hchain.tail
    rw [lex_white hbefore]
    cases token with
    | punct c =>
      change lex .idle (c :: rest) = _
      rw [lex_punct hwell, ih]
      rfl
    | str body =>
      have hbody : lex .idle ('"' :: (body ++ ['"']) ++ rest) =
          lex (.str [] false) (body ++ '"' :: rest) := by
        rw [cons_append, append_assoc]
        rfl
      change lex .idle ('"' :: (body ++ ['"']) ++ rest) = _
      rw [hbody, lex_body hwell, ih]
      rfl
    | word word =>
      obtain ⟨hne, hchars⟩ := hwell
      change lex .idle (word ++ rest) = _
      have hnext : ∀ c ∈ rest.head?, isWordChar c = false := by
        refine rendered_head hrest (fun second hsecond text' => ?_)
        cases tokens with
        | nil => cases hsecond
        | cons first tokens =>
          cases hsecond
          exact (isChain_cons_cons.mp hchain).1.2 word rfl text'
      cases word with
      | nil => exact absurd rfl hne
      | cons c word =>
        obtain ⟨hws, hq, hp⟩ := isWordChar_iff.mp (hchars c mem_cons_self)
        have hfirst : lex .idle (c :: word ++ rest) = lex (.word [c]) (word ++ rest) := by
          rw [cons_append, lex_idle_cons, if_neg (by simp [hws]), if_neg hq, if_neg (by simp [hp])]
        rw [hfirst, lex_word_chars (fun d hd => hchars d (mem_cons_of_mem c hd)),
          singleton_append, lex_word_end _ hnext, ih]
        rfl

/-! ### What is read is rendered -/

/-- What a lexer's state makes of the rest of a text. -/
def Reads (state : LexState) (tokens : List Token) (text : List Char) : Prop :=
  match state with
  | .idle => Rendered White White false tokens text
  | .word word => ∃ more rest tokens', text = more ++ rest ∧
      tokens = .word (word ++ more) :: tokens' ∧ (∀ c ∈ more, isWordChar c = true) ∧
      Rendered White White false tokens' rest
  | .str body escaped => ∃ more rest tokens', text = more ++ '"' :: rest ∧
      tokens = .str (body ++ more) :: tokens' ∧ closed escaped more = true ∧
      Rendered White White false tokens' rest

lemma rendered_white {c : Char} (hc : isWs c = true) {tokens : List Token} {text : List Char}
    (h : Rendered White White false tokens text) :
    Rendered White White false tokens (c :: text) := by
  have hcons : ∀ {white : List Char}, White white → White (c :: white) := by
    intro white hwhite d hd
    rcases mem_cons.mp hd with rfl | hd
    · exact hc
    · exact hwhite d hd
  cases h with
  | done hlast => exact .done (hcons hlast)
  | token hbefore hwell hrest => exact .token (hcons hbefore) hwell hrest
  | comma hcommas => cases hcommas

lemma white_nil : White [] := by
  simp [White]

lemma rendered_token (token : Token) (hwell : token.WellFormed) {tokens : List Token}
    {text : List Char} (h : Rendered White White false tokens text) :
    Rendered White White false (token :: tokens) (token.text ++ text) :=
  Rendered.token white_nil hwell h

lemma rendered_string {rest : List Char} {tokens : List Token}
    (h : Reads (.str [] false) tokens rest) :
    Rendered White White false tokens ('"' :: rest) := by
  obtain ⟨more, rest, tokens, rfl, rfl, hclosed, h⟩ := h
  have htext : '"' :: (more ++ '"' :: rest) = (Token.str more).text ++ rest := by
    simp [Token.text]
  rw [nil_append, htext]
  exact rendered_token (.str more) hclosed h

theorem reads_of_lex {state : LexState} {text : List Char} {tokens : List Token}
    (h : lex state text = some tokens) : Reads state tokens text := by
  induction text generalizing state tokens with
  | nil =>
    cases state with
    | idle =>
      cases h
      exact .done white_nil
    | word word =>
      cases h
      exact ⟨[], [], [], rfl, by rw [append_nil], by simp, .done white_nil⟩
    | str body escaped => cases h
  | cons c text ih =>
    cases state with
    | idle =>
      rw [lex_idle_cons] at h
      by_cases hws : isWs c = true
      · rw [if_pos hws] at h
        exact rendered_white hws (ih h)
      rw [if_neg hws] at h
      by_cases hq : c = '"'
      · rw [if_pos hq] at h
        subst hq
        exact rendered_string (ih h)
      rw [if_neg hq] at h
      by_cases hp : isPunct c = true
      · rw [if_pos hp] at h
        obtain ⟨tokens, htokens, rfl⟩ := Option.map_eq_some_iff.mp h
        exact rendered_token (.punct c) hp (ih htokens)
      · rw [if_neg hp] at h
        obtain ⟨more, rest, tokens, rfl, rfl, hmore, hrest⟩ := ih h
        have hc : isWordChar c = true := isWordChar_iff.mpr ⟨by simpa using hws, hq, by simpa using hp⟩
        refine rendered_token (.word (c :: more)) ⟨cons_ne_nil _ _, ?_⟩ hrest
        exact forall_mem_cons.mpr ⟨hc, hmore⟩
    | word word =>
      rw [lex_word_cons] at h
      by_cases hws : isWs c = true
      · rw [if_pos hws] at h
        obtain ⟨tokens, htokens, rfl⟩ := Option.map_eq_some_iff.mp h
        exact ⟨[], _, tokens, rfl, by rw [append_nil], by simp, rendered_white hws (ih htokens)⟩
      rw [if_neg hws] at h
      by_cases hq : c = '"'
      · rw [if_pos hq] at h
        obtain ⟨tokens, htokens, rfl⟩ := Option.map_eq_some_iff.mp h
        subst hq
        exact ⟨[], _, tokens, rfl, by rw [append_nil], by simp, rendered_string (ih htokens)⟩
      rw [if_neg hq] at h
      by_cases hp : isPunct c = true
      · rw [if_pos hp] at h
        obtain ⟨tokens, htokens, rfl⟩ := Option.map_eq_some_iff.mp h
        exact ⟨[], _, .punct c :: tokens, rfl, by rw [append_nil], by simp,
          rendered_token (.punct c) hp (ih htokens)⟩
      · rw [if_neg hp] at h
        obtain ⟨more, rest, tokens, rfl, rfl, hmore, hrest⟩ := ih h
        have hc : isWordChar c = true := isWordChar_iff.mpr ⟨by simpa using hws, hq, by simpa using hp⟩
        exact ⟨c :: more, rest, tokens, rfl, by rw [append_assoc, singleton_append],
          forall_mem_cons.mpr ⟨hc, hmore⟩, hrest⟩
    | str body escaped =>
      rw [lex_str_cons] at h
      by_cases hend : (!escaped && c == '"') = true
      · rw [if_pos hend] at h
        obtain ⟨tokens, htokens, rfl⟩ := Option.map_eq_some_iff.mp h
        rw [Bool.and_eq_true, Bool.not_eq_true', beq_iff_eq] at hend
        obtain ⟨rfl, rfl⟩ := hend
        exact ⟨[], text, tokens, rfl, by rw [append_nil], rfl, ih htokens⟩
      · rw [if_neg hend] at h
        obtain ⟨more, rest, tokens, rfl, rfl, hclosed, hrest⟩ := ih h
        refine ⟨c :: more, rest, tokens, rfl, by rw [append_assoc, singleton_append], ?_, hrest⟩
        rw [closed, hclosed, Bool.and_true, Bool.not_eq_true']
        exact Bool.eq_false_iff.mpr hend

/-- A text that is read is its tokens with white space around them. -/
theorem rendered_of_lex {text : List Char} {tokens : List Token}
    (h : lex .idle text = some tokens) : Rendered White White false tokens text :=
  reads_of_lex h

end JsonText
