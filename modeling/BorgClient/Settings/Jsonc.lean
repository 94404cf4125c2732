import BorgClient.Lib.JsonText
import BorgClient.Monitor.EventLine

/-!
# JSON with comments

Two scanners run over the text before it is parsed, one that blanks comments and one that drops a
comma before a closing bracket. Both know whether they are in a string. Run over the tokens of a
JSON text with comments between them, the first leaves white space between them and the second
the tokens alone.
-/

namespace BorgClient.Settings
open List JsonText
open Monitor (isSpace)

inductive Mode
  | plain
  | lineComment
  | blockComment
  | inString (escaped : Bool)

def isNewline (c : Char) : Bool := c == '\n' || c == '\r'

/-- One space for each code unit of the character. -/
def blank (c : Char) : List Char := if c.toNat < 0x10000 then [' '] else [' ', ' ']

def Mode.afterString (escaped : Bool) (c : Char) : Mode :=
  if !escaped && c == '"' then .plain else .inString (nextEscaped escaped c)

/-- The text with its comments blanked, `none` where a string or a block comment is not closed. -/
def stripComments : Mode → List Char → Option (List Char)
  | .plain, [] => some []
  | .lineComment, [] => some []
  | .blockComment, [] => none
  | .inString _, [] => none
  | .lineComment, c :: rest =>
    if isNewline c then (stripComments .plain rest).map (c :: ·)
    else (stripComments .lineComment rest).map (blank c ++ ·)
  | .blockComment, '*' :: '/' :: rest => (stripComments .plain rest).map ([' ', ' '] ++ ·)
  | .blockComment, c :: rest =>
    (stripComments .blockComment rest).map ((if isNewline c then [c] else blank c) ++ ·)
  | .inString escaped, c :: rest => (stripComments (.afterString escaped c) rest).map (c :: ·)
  | .plain, '/' :: '/' :: rest => (stripComments .lineComment rest).map ([' ', ' '] ++ ·)
  | .plain, '/' :: '*' :: rest => (stripComments .blockComment rest).map ([' ', ' '] ++ ·)
  | .plain, c :: rest =>
    (stripComments (if c = '"' then .inString false else .plain) rest).map (c :: ·)

lemma strip_lineComment (c : Char) (rest : List Char) : stripComments .lineComment (c :: rest) =
    if isNewline c then (stripComments .plain rest).map (c :: ·)
    else (stripComments .lineComment rest).map (blank c ++ ·) := rfl

lemma strip_blockEnd (rest : List Char) : stripComments .blockComment ('*' :: '/' :: rest) =
    (stripComments .plain rest).map ([' ', ' '] ++ ·) := rfl

lemma strip_inString (escaped : Bool) (c : Char) (rest : List Char) :
    stripComments (.inString escaped) (c :: rest) =
      (stripComments (.afterString escaped c) rest).map (c :: ·) := rfl

lemma strip_slashSlash (rest : List Char) : stripComments .plain ('/' :: '/' :: rest) =
    (stripComments .lineComment rest).map ([' ', ' '] ++ ·) := rfl

lemma strip_slashStar (rest : List Char) : stripComments .plain ('/' :: '*' :: rest) =
    (stripComments .blockComment rest).map ([' ', ' '] ++ ·) := rfl

lemma strip_quote (rest : List Char) : stripComments .plain ('"' :: rest) =
    (stripComments (.inString false) rest).map ('"' :: ·) := rfl

/-- The scanner's two default branches. -/
lemma strip_default (c : Char) (rest : List Char) :
    ((∀ rest', c = '*' → rest = '/' :: rest' → False) → stripComments .blockComment (c :: rest) =
      (stripComments .blockComment rest).map ((if isNewline c then [c] else blank c) ++ ·)) ∧
    (c ≠ '"' → c ≠ '/' →
      stripComments .plain (c :: rest) = (stripComments .plain rest).map ([c] ++ ·)) := by
  refine ⟨fun hend => ?_, fun hq hs => ?_⟩
  · rw [stripComments]
    exact hend
  · rw [stripComments, if_neg hq]
    · rfl
    · rintro rest' rfl
      exact absurd rfl hs
    · rintro rest' rfl
      exact absurd rfl hs

/-- Whether the next character that is no white space closes an object or an array. -/
def closesNext (rest : List Char) : Bool :=
  (rest.dropWhile isSpace).head? == some '}' || (rest.dropWhile isSpace).head? == some ']'

def dropTrailingCommas (inString escaped : Bool) : List Char → List Char
  | [] => []
  | c :: rest =>
    if inString then
      c :: dropTrailingCommas (escaped || c != '"') (nextEscaped escaped c) rest
    else if c = '"' then c :: dropTrailingCommas true escaped rest
    else if c = ',' ∧ closesNext rest then dropTrailingCommas false escaped rest
    else c :: dropTrailingCommas false escaped rest

lemma drop_cons (inString escaped : Bool) (c : Char) (rest : List Char) :
    dropTrailingCommas inString escaped (c :: rest) =
      if inString then
        c :: dropTrailingCommas (escaped || c != '"') (nextEscaped escaped c) rest
      else if c = '"' then c :: dropTrailingCommas true escaped rest
      else if c = ',' ∧ closesNext rest then dropTrailingCommas false escaped rest
      else c :: dropTrailingCommas false escaped rest := rfl

def dropByteOrderMark : List Char → List Char
  | '\uFEFF' :: rest => rest
  | text => text

def parseJsonc (text : List Char) : Option Json :=
  (stripComments .plain text).bind (fun stripped =>
    parse (dropByteOrderMark (dropTrailingCommas false false stripped)))

/-! ### Comments -/

/-- White space and comments, a line comment with its end. -/
inductive Trivia : List Char → Prop
  | nil : Trivia []
  | white {c : Char} {rest : List Char} : isWs c = true → Trivia rest → Trivia (c :: rest)
  | line {body rest : List Char} {c : Char} : (∀ d ∈ body, isNewline d = false) →
      isNewline c = true → Trivia rest → Trivia ('/' :: '/' :: (body ++ c :: rest))
  | block {body rest : List Char} : ¬ ['*', '/'] <:+: body → Trivia rest →
      Trivia ('/' :: '*' :: (body ++ '*' :: '/' :: rest))

/-- At the end of a text a line comment needs no end. -/
inductive LastTrivia : List Char → Prop
  | closed {text : List Char} : Trivia text → LastTrivia text
  | line {before body : List Char} : Trivia before → (∀ d ∈ body, isNewline d = false) →
      LastTrivia (before ++ '/' :: '/' :: body)

lemma white_cons {c : Char} {text : List Char} (hc : isWs c = true) (h : White text) :
    White (c :: text) := forall_mem_cons.mpr ⟨hc, h⟩

lemma white_append {text text' : List Char} (h : White text) (h' : White text') :
    White (text ++ text') := forall_mem_append.mpr ⟨h, h'⟩

lemma white_two : White [' ', ' '] := white_cons rfl (white_cons rfl white_nil)

lemma white_blank (c : Char) : White (blank c) := by
  unfold blank
  split
  · exact white_cons rfl white_nil
  · exact white_two

lemma isWs_of_isNewline {c : Char} (h : isNewline c = true) : isWs c = true := by
  rw [isNewline, Bool.or_eq_true, beq_iff_eq, beq_iff_eq] at h
  rcases h with rfl | rfl <;> decide

lemma map_append_map (stripped : Option (List Char)) (first second : List Char) :
    (stripped.map (second ++ ·)).map (first ++ ·) = stripped.map (first ++ second ++ ·) := by
  rw [Option.map_map]
  congr 1
  funext text
  exact (append_assoc first second text).symm

lemma strip_line_body {body : List Char} (h : ∀ d ∈ body, isNewline d = false) :
    ∃ white, White white ∧ ∀ rest, stripComments .lineComment (body ++ rest) =
      (stripComments .lineComment rest).map (white ++ ·) := by
  induction body with
  | nil => exact ⟨[], white_nil, fun rest => by simp⟩
  | cons c body ih =>
    obtain ⟨white, hwhite, hstrip⟩ := ih (fun d hd => h d (mem_cons_of_mem c hd))
    refine ⟨blank c ++ white, white_append (white_blank c) hwhite, fun rest => ?_⟩
    have hc := h c mem_cons_self
    rw [cons_append, strip_lineComment, if_neg (by simp [hc]), hstrip, map_append_map]

lemma strip_line {body : List Char} (h : ∀ d ∈ body, isNewline d = false) {c : Char}
    (hc : isNewline c = true) :
    ∃ white, White white ∧ ∀ rest, stripComments .plain ('/' :: '/' :: (body ++ c :: rest)) =
      (stripComments .plain rest).map (white ++ ·) := by
  obtain ⟨white, hwhite, hstrip⟩ := strip_line_body h
  refine ⟨[' ', ' '] ++ (white ++ [c]), ?_, fun rest => ?_⟩
  · exact white_append white_two
      (white_append hwhite (white_cons (isWs_of_isNewline hc) white_nil))
  · have hend : stripComments .lineComment (c :: rest) =
        (stripComments .plain rest).map ([c] ++ ·) := by
      rw [strip_lineComment, if_pos hc]
      rfl
    rw [strip_slashSlash, hstrip, hend, map_append_map, map_append_map, append_assoc]

lemma strip_block_body {body : List Char} (h : ¬ ['*', '/'] <:+: body) :
    ∃ white, White white ∧ ∀ rest, stripComments .blockComment (body ++ '*' :: '/' :: rest) =
      (stripComments .plain rest).map (white ++ ·) := by
  induction body with
  | nil => exact ⟨[' ', ' '], white_two, fun rest => strip_blockEnd rest⟩
  | cons c body ih =>
    obtain ⟨white, hwhite, hstrip⟩ := ih (fun hin => h (hin.trans (suffix_cons c body).isInfix))
    refine ⟨(if isNewline c then [c] else blank c) ++ white, white_append ?_ hwhite, fun rest => ?_⟩
    · split
      · rename_i hc
        exact white_cons (isWs_of_isNewline hc) white_nil
      · exact white_blank c
    · rw [cons_append, (strip_default c _).1 ?_, hstrip, map_append_map]
      rintro rest' rfl hbody
      cases body with
      | nil => cases hbody
      | cons d body =>
        cases hbody
        exact h ⟨[], body, rfl⟩

lemma strip_block {body : List Char} (h : ¬ ['*', '/'] <:+: body) :
    ∃ white, White white ∧ ∀ rest,
      stripComments .plain ('/' :: '*' :: (body ++ '*' :: '/' :: rest)) =
        (stripComments .plain rest).map (white ++ ·) := by
  obtain ⟨white, hwhite, hstrip⟩ := strip_block_body h
  refine ⟨[' ', ' '] ++ white, white_append white_two hwhite, fun rest => ?_⟩
  rw [strip_slashStar, hstrip, map_append_map]

lemma strip_chars {word : List Char} (h : ∀ c ∈ word, c ≠ '"' ∧ c ≠ '/') (rest : List Char) :
    stripComments .plain (word ++ rest) = (stripComments .plain rest).map (word ++ ·) := by
  induction word with
  | nil => simp
  | cons c word ih =>
    obtain ⟨hq, hs⟩ := h c mem_cons_self
    rw [cons_append, (strip_default c _).2 hq hs, ih (fun d hd => h d (mem_cons_of_mem c hd)), map_append_map]
    rfl

lemma strip_string {escaped : Bool} {body : List Char} (h : closed escaped body = true)
    (rest : List Char) : stripComments (.inString escaped) (body ++ '"' :: rest) =
      (stripComments .plain rest).map (body ++ ['"'] ++ ·) := by
  induction body generalizing escaped with
  | nil =>
    have he : escaped = false := by simpa [closed] using h
    subst he
    rw [nil_append, nil_append, strip_inString]
    rfl
  | cons c body ih =>
    rw [closed, Bool.and_eq_true, Bool.not_eq_true'] at h
    rw [cons_append, strip_inString, Mode.afterString, if_neg (by rw [h.1]; decide), ih h.2]
    exact map_append_map _ [c] _

lemma strip_trivia {text : List Char} (h : Trivia text) :
    ∃ white, White white ∧ ∀ rest, stripComments .plain (text ++ rest) =
      (stripComments .plain rest).map (white ++ ·) := by
  induction h with
  | nil => exact ⟨[], white_nil, fun rest => by simp⟩
  | @white c text hc _ ih =>
    obtain ⟨white, hwhite, hstrip⟩ := ih
    have hne : c ≠ '"' ∧ c ≠ '/' := by
      constructor <;> (rintro rfl; revert hc; decide)
    refine ⟨[c] ++ white, white_cons hc hwhite, fun rest => ?_⟩
    rw [cons_append, (strip_default c _).2 hne.1 hne.2, hstrip, map_append_map]
  | @line body text c hbody hc _ ih =>
    obtain ⟨white, hwhite, hstrip⟩ := ih
    obtain ⟨white', hwhite', hstrip'⟩ := strip_line hbody hc
    refine ⟨white' ++ white, white_append hwhite' hwhite, fun rest => ?_⟩
    rw [cons_append, cons_append, append_assoc, cons_append, hstrip', hstrip, map_append_map]
  | @block body text hbody _ ih =>
    obtain ⟨white, hwhite, hstrip⟩ := ih
    obtain ⟨white', hwhite', hstrip'⟩ := strip_block hbody
    refine ⟨white' ++ white, white_append hwhite' hwhite, fun rest => ?_⟩
    rw [cons_append, cons_append, append_assoc, cons_append, cons_append, hstrip', hstrip,
      map_append_map]

lemma strip_last {text : List Char} (h : LastTrivia text) :
    ∃ white, White white ∧ stripComments .plain text = some white := by
  cases h with
  | closed h =>
    obtain ⟨white, hwhite, hstrip⟩ := strip_trivia h
    have hend := hstrip []
    rw [append_nil] at hend
    exact ⟨white ++ [], by rwa [append_nil], hend⟩
  | @line before body h hbody =>
    obtain ⟨white, hwhite, hstrip⟩ := strip_trivia h
    obtain ⟨white', hwhite', hstrip'⟩ := strip_line_body hbody
    have hend := hstrip' []
    rw [append_nil] at hend
    refine ⟨white ++ ([' ', ' '] ++ (white' ++ [])), ?_, ?_⟩
    · exact white_append hwhite
        (white_append white_two (white_append hwhite' white_nil))
    · rw [hstrip, strip_slashSlash, hend]
      rfl

/-- The words of the tokens hold visible ASCII and no slash. -/
def PlainWords (tokens : List Token) : Prop :=
  ∀ text, Token.word text ∈ tokens → ∀ c ∈ text, isPlain c = true

lemma PlainWords.tail {token : Token} {tokens : List Token} (h : PlainWords (token :: tokens)) :
    PlainWords tokens := fun text hmem => h text (mem_cons_of_mem token hmem)

lemma plainWords_of_run {reading after : Reading} {tokens : List Token}
    (h : runTokens reading tokens = some after) : PlainWords tokens :=
  fun text hmem => readWord_plain ((chain_of_run h).2 text hmem)

/-- Tokens are untouched. -/
lemma strip_token {token : Token} (hwell : token.WellFormed)
    (hplain : ∀ text, token = .word text → ∀ c ∈ text, isPlain c = true) (rest : List Char) :
    stripComments .plain (token.text ++ rest) =
      (stripComments .plain rest).map (token.text ++ ·) := by
  cases token with
  | punct c =>
    have hp : isPunct c = true := hwell
    refine (strip_default c rest).2 ?_ ?_ <;> (rintro rfl; revert hp; decide)
  | str body =>
    have htext : (Token.str body).text ++ rest = '"' :: (body ++ '"' :: rest) := by
      simp [Token.text]
    rw [htext, strip_quote, strip_string hwell]
    exact map_append_map _ ['"'] _
  | word text =>
    refine strip_chars (fun c hc => ⟨?_, ?_⟩) rest
    · exact (isWordChar_iff.mp (hwell.2 c hc)).2.1
    · have hpc := hplain text rfl c hc
      rintro rfl
      revert hpc
      decide

/-- Comments between the tokens become white space. -/
theorem strip_rendered {commas : Bool} {tokens : List Token} {text : List Char}
    (h : Rendered Trivia LastTrivia commas tokens text) (hplain : PlainWords tokens) :
    ∃ stripped, stripComments .plain text = some stripped ∧
      Rendered White White commas tokens stripped := by
  induction h with
  | done hlast =>
    obtain ⟨white, hwhite, hstrip⟩ := strip_last hlast
    exact ⟨white, hstrip, .done hwhite⟩
  | @token before rest token tokens hbefore hwell _ ih =>
    obtain ⟨stripped, hstripped, hrendered⟩ := ih hplain.tail
    obtain ⟨white, hwhite, hstrip⟩ := strip_trivia hbefore
    refine ⟨white ++ (token.text ++ stripped), ?_, .token hwhite hwell hrendered⟩
    rw [hstrip, strip_token hwell, hstripped]
    · rfl
    · rintro text rfl
      exact hplain text mem_cons_self
  | @comma before between rest token tokens hcommas hbefore hbetween hcloser _ ih =>
    obtain ⟨stripped, hstripped, hrendered⟩ := ih hplain.tail
    obtain ⟨white, hwhite, hstrip⟩ := strip_trivia hbefore
    obtain ⟨white', hwhite', hstrip'⟩ := strip_trivia hbetween
    have hwell : token.WellFormed := by
      rw [isCloser, Bool.or_eq_true, beq_iff_eq, beq_iff_eq] at hcloser
      rcases hcloser with rfl | rfl <;> rfl
    refine ⟨white ++ ',' :: (white' ++ (token.text ++ stripped)), ?_,
      .comma hcommas hwhite hwhite' hcloser hrendered⟩
    rw [hstrip, (strip_default _ _).2 (by decide) (by decide), hstrip', strip_token hwell, hstripped]
    · rfl
    · rintro text rfl
      exact hplain text mem_cons_self

/-! ### Commas -/

lemma isSpace_of_isWs {c : Char} (h : isWs c = true) : isSpace c = true := by
  simp only [isWs, contains_eq_mem, decide_eq_true_eq, mem_cons, not_mem_nil, or_false] at h
  rcases h with rfl | rfl | rfl | rfl <;> decide

lemma not_space_of_plain {c : Char} (h : isPlain c = true) : isSpace c = false := by
  simp only [isPlain, Bool.and_eq_true, decide_eq_true_eq, bne_iff_ne] at h
  obtain ⟨⟨hlow, hhigh⟩, -⟩ := h
  have hne : ∀ d : Char, d.toNat < 0x21 → c ≠ d := by
    rintro d hd rfl
    omega
  simp only [isSpace, Bool.or_eq_false_iff, Bool.and_eq_false_iff, beq_eq_false_iff_ne,
    decide_eq_false_iff_not]
  refine ⟨⟨⟨⟨⟨⟨⟨⟨⟨⟨⟨⟨⟨⟨hne _ (by decide), hne _ (by decide)⟩, ?_⟩, ?_⟩, hne _ (by decide)⟩,
    hne _ (by decide)⟩, ?_⟩, ?_⟩, ?_⟩, ?_⟩, ?_⟩, ?_⟩, ?_⟩, ?_⟩, ?_⟩ <;> omega

/-- A token starts with no white space, and closes something only as a closing bracket. -/
lemma token_head {token : Token} (hwell : token.WellFormed)
    (hplain : ∀ text, token = .word text → ∀ c ∈ text, isPlain c = true) :
    ∃ c rest, token.text = c :: rest ∧ isSpace c = false ∧
      (isCloser token = true ↔ c = '}' ∨ c = ']') := by
  cases token with
  | punct c =>
    have hp : isPunct c = true := hwell
    refine ⟨c, [], rfl, ?_, ?_⟩
    · rcases isPunct_cases hp with rfl | rfl | rfl | rfl | rfl | rfl <;> decide
    · simp [isCloser, or_comm]
  | str body => exact ⟨'"', body ++ ['"'], rfl, by decide, by simp [isCloser]⟩
  | word text =>
    obtain ⟨hne, hchars⟩ := hwell
    cases text with
    | nil => exact absurd rfl hne
    | cons c text =>
      refine ⟨c, text, rfl, not_space_of_plain (hplain _ rfl c mem_cons_self), ?_⟩
      obtain ⟨-, -, hp⟩ := isWordChar_iff.mp (hchars c mem_cons_self)
      constructor
      · intro h
        cases h
      · rintro (rfl | rfl) <;> exact absurd hp (by decide)

lemma dropWhile_white {white : List Char} (h : White white) {c : Char} (hc : isSpace c = false)
    (rest : List Char) : (white ++ c :: rest).dropWhile isSpace = c :: rest := by
  rw [dropWhile_append_of_pos (fun d hd => isSpace_of_isWs (h d hd)),
    dropWhile_cons_of_neg (by simp [hc])]

/-- Behind white space the next token decides. -/
lemma closesNext_token {white : List Char} (h : White white) {token : Token}
    (hwell : token.WellFormed)
    (hplain : ∀ text, token = .word text → ∀ c ∈ text, isPlain c = true) (rest : List Char) :
    closesNext (white ++ (token.text ++ rest)) = isCloser token := by
  obtain ⟨c, tail, htext, hspace, hcloser⟩ := token_head hwell hplain
  rw [closesNext, htext, cons_append, dropWhile_white h hspace, Bool.eq_iff_iff, hcloser]
  simp

lemma closesNext_white {white : List Char} (h : White white) : closesNext white = false := by
  rw [closesNext, dropWhile_eq_nil_iff.mpr (fun c hc => isSpace_of_isWs (h c hc))]
  rfl

lemma drop_char {c : Char} {escaped : Bool} (hq : c ≠ '"') {rest : List Char}
    (hcomma : c = ',' → closesNext rest = false) :
    dropTrailingCommas false escaped (c :: rest) =
      c :: dropTrailingCommas false escaped rest := by
  have hc : ¬ (c = ',' ∧ closesNext rest = true) := by
    rintro ⟨hc, hnext⟩
    rw [hcomma hc] at hnext
    cases hnext
  rw [drop_cons, if_neg (by decide), if_neg hq, if_neg hc]

lemma drop_chars {escaped : Bool} {text : List Char} (h : ∀ c ∈ text, c ≠ '"' ∧ c ≠ ',')
    (rest : List Char) : dropTrailingCommas false escaped (text ++ rest) =
      text ++ dropTrailingCommas false escaped rest := by
  induction text with
  | nil => rfl
  | cons c text ih =>
    obtain ⟨hq, hc⟩ := h c mem_cons_self
    rw [cons_append, drop_char hq (fun hcomma => absurd hcomma hc),
      ih (fun d hd => h d (mem_cons_of_mem c hd)), cons_append]

lemma drop_white {white : List Char} (h : White white) (rest : List Char) :
    dropTrailingCommas false false (white ++ rest) =
      white ++ dropTrailingCommas false false rest := by
  refine drop_chars (fun c hc => ?_) rest
  have hws := h c hc
  constructor <;> (rintro rfl; revert hws; decide)

lemma drop_string {escaped : Bool} {body : List Char} (h : closed escaped body = true)
    (rest : List Char) : dropTrailingCommas true escaped (body ++ '"' :: rest) =
      body ++ '"' :: dropTrailingCommas false false rest := by
  induction body generalizing escaped with
  | nil =>
    have he : escaped = false := by simpa [closed] using h
    subst he
    rfl
  | cons c body ih =>
    rw [closed, Bool.and_eq_true, Bool.not_eq_true'] at h
    have hin : (escaped || c != '"') = true := by
      have := h.1
      revert this
      cases escaped <;> simp [bne]
    rw [cons_append, drop_cons, if_pos rfl, hin, ih h.2, cons_append]

/-- A token stays unless it is a comma before a closing bracket. -/
lemma drop_token {token : Token} (hwell : token.WellFormed) {rest : List Char}
    (hcomma : token = .punct ',' → closesNext rest = false) :
    dropTrailingCommas false false (token.text ++ rest) =
      token.text ++ dropTrailingCommas false false rest := by
  cases token with
  | punct c =>
    have hp : isPunct c = true := hwell
    refine drop_char ?_ (fun hc => hcomma (by rw [hc]))
    rintro rfl
    revert hp
    decide
  | str body =>
    have htext : ∀ rest, (Token.str body).text ++ rest = '"' :: (body ++ '"' :: rest) := by
      simp [Token.text]
    rw [htext, htext, drop_cons, if_neg (by decide), if_pos rfl, drop_string hwell]
  | word text =>
    refine drop_chars (fun c hc => ?_) rest
    obtain ⟨-, hq, hp⟩ := isWordChar_iff.mp (hwell.2 c hc)
    refine ⟨hq, ?_⟩
    rintro rfl
    revert hp
    decide

/-- No closing bracket stands behind what may follow a comma. -/
lemma closesNext_rendered {tokens : List Token} {text : List Char}
    (h : Rendered White White true tokens text) (hplain : PlainWords tokens)
    (hnext : ∀ token ∈ tokens.head?, isCloser token = false) : closesNext text = false := by
  cases h with
  | done hlast => exact closesNext_white hlast
  | @token before rest token tokens hbefore hwell _ =>
    rw [closesNext_token hbefore hwell, hnext token rfl]
    rintro text rfl
    exact hplain text mem_cons_self
  | @comma before between rest token tokens _ _ _ hcloser =>
    have := hnext token rfl
    rw [hcloser] at this
    cases this

/-- Where the tokens may follow each other, the added commas go and no other does. -/
theorem drop_rendered {tokens : List Token} {text : List Char}
    (h : Rendered White White true tokens text) (hplain : PlainWords tokens)
    (hchain : tokens.IsChain Follows) :
    Rendered White White false tokens (dropTrailingCommas false false text) := by
  induction h with
  | @done rest hlast =>
    have hdrop : dropTrailingCommas false false (rest ++ []) = rest ++ [] := drop_white hlast []
    rw [append_nil] at hdrop
    rw [hdrop]
    exact .done hlast
  | @token before rest token tokens hbefore hwell hrest ih =>
    rw [drop_white hbefore, drop_token hwell]
    · exact .token hbefore hwell (ih hplain.tail hchain.tail)
    · rintro rfl
      refine closesNext_rendered hrest hplain.tail (fun second hsecond => ?_)
      cases tokens with
      | nil => cases hsecond
      | cons first tokens =>
        cases hsecond
        exact (isChain_cons_cons.mp hchain).1.1 rfl
  | @comma before between rest token tokens _ hbefore hbetween hcloser hrest ih =>
    have hbracket : token = .punct ']' ∨ token = .punct '}' := by
      rw [isCloser, Bool.or_eq_true, beq_iff_eq, beq_iff_eq] at hcloser
      exact hcloser
    have hwell : token.WellFormed := by
      rcases hbracket with rfl | rfl <;> rfl
    have hword : ∀ text, token = .word text → ∀ c ∈ text, isPlain c = true := by
      rintro text rfl
      exact hplain text mem_cons_self
    have hnocomma : token = .punct ',' → closesNext rest = false := by
      rintro rfl
      exact absurd hcloser (by decide)
    rw [drop_white hbefore, drop_cons, if_neg (by decide), if_neg (by decide),
      if_pos ⟨rfl, by rw [closesNext_token hbetween hwell hword, hcloser]⟩,
      drop_white hbetween, drop_token hwell hnocomma, ← append_assoc]
    exact .token (white_append hbefore hbetween) hwell (ih hplain.tail hchain.tail)

/-- A rendered text starts with no byte order mark. -/
lemma dropByteOrderMark_rendered {tokens : List Token} {text : List Char}
    (h : Rendered White White false tokens text) (hplain : PlainWords tokens) :
    dropByteOrderMark text = text := by
  have hhead : text.head? ≠ some '\uFEFF' := by
    have hwhite : ∀ c, isWs c = true → c ≠ '\uFEFF' := by
      rintro c hc rfl
      revert hc
      decide
    cases h with
    | done hlast => exact fun hc => hwhite _ (hlast _ (mem_of_mem_head? hc)) rfl
    | comma hcommas => cases hcommas
    | @token before rest token tokens hbefore hwell _ =>
      cases before with
      | cons c before =>
        intro hc
        exact hwhite c (hbefore c mem_cons_self) (Option.some_inj.mp hc)
      | nil =>
        obtain ⟨c, tail, htext, hspace, -⟩ := token_head hwell (by
          rintro text rfl
          exact hplain text mem_cons_self)
        rw [nil_append, htext, cons_append, head?_cons]
        intro hc
        rw [Option.some_inj.mp hc] at hspace
        revert hspace
        decide
  unfold dropByteOrderMark
  split
  · exact absurd rfl hhead
  · rfl

/-! ### Parsing -/

lemma run_of_parse {text : List Char} {tokens : List Token} {value : Json}
    (hlex : lex .idle text = some tokens) (h : parse text = some value) :
    ∃ after, runTokens (.value []) tokens = some after := by
  rw [parse, hlex, Option.bind_some, valueOf] at h
  split at h
  · rename_i hrun
    exact ⟨_, hrun⟩
  · cases h

lemma parseJsonc_rendered {text : List Char} {tokens : List Token} {value : Json}
    (hlex : lex .idle text = some tokens) (h : parse text = some value) {decorated : List Char}
    (hdecorated : Rendered Trivia LastTrivia true tokens decorated) :
    parseJsonc decorated = parse text := by
  obtain ⟨after, hrun⟩ := run_of_parse hlex h
  have hplain := plainWords_of_run hrun
  obtain ⟨stripped, hstripped, hwhite⟩ := strip_rendered hdecorated hplain
  have hdropped := drop_rendered hwhite hplain (chain_of_run hrun).1
  rw [parseJsonc, hstripped, Option.bind_some, dropByteOrderMark_rendered hdropped hplain, parse,
    lex_rendered hdropped (chain_of_run hrun).1, parse, hlex]

lemma trivia_of_white {text : List Char} (h : White text) : Trivia text := by
  induction text with
  | nil => exact .nil
  | cons c text ih =>
    exact .white (h c mem_cons_self) (ih (fun d hd => h d (mem_cons_of_mem c hd)))

lemma rendered_trivia {tokens : List Token} {text : List Char}
    (h : Rendered White White false tokens text) : Rendered Trivia LastTrivia true tokens text := by
  induction h with
  | done hlast => exact .done (.closed (trivia_of_white hlast))
  | token hbefore hwell _ ih => exact .token (trivia_of_white hbefore) hwell ih
  | comma hcommas => cases hcommas

/-- Comments, white space and trailing commas between the tokens of a JSON text change nothing, and
on the text itself the two parsers agree. -/
theorem parseJsonc_ignores_comments :
    (∀ (text decorated : List Char) (tokens : List Token) (value : Json),
      lex .idle text = some tokens → parse text = some value →
      Rendered Trivia LastTrivia true tokens decorated → parseJsonc decorated = parse text) ∧
    ∀ (text : List Char) (value : Json), parse text = some value →
      parseJsonc text = parse text := by
  refine ⟨fun text decorated tokens value hlex h hdecorated =>
    parseJsonc_rendered hlex h hdecorated, fun text value h => ?_⟩
  obtain ⟨tokens, hlex, -⟩ := Option.bind_eq_some_iff.mp h
  exact parseJsonc_rendered hlex h (rendered_trivia (rendered_of_lex hlex))

theorem parseJsonc_ignores_comments_once :
    parseJsonc "/*a,*/[true, // b]\n\"/*//,]*/\",]".toList =
      some (.arr [.bool true, .str "/*//,]*/"]) ∧
    parseJsonc "[true,\"/*//,]*/\"]".toList = some (.arr [.bool true, .str "/*//,]*/"]) := by
  have hlex : lex .idle "[true,\"/*//,]*/\"]".toList =
      some [.punct '[', .word "true".toList, .punct ',', .str "/*//,]*/".toList, .punct ']'] := by
    decide +kernel
  have hparse : parse "[true,\"/*//,]*/\"]".toList =
      some (.arr [.bool true, .str "/*//,]*/"]) := by
    rw [parse, hlex]
    rfl
  have hblock : Trivia ('/' :: '*' :: (['a', ','] ++ '*' :: '/' :: [])) :=
    .block (by decide) .nil
  have hline : Trivia (' ' :: '/' :: '/' :: ([' ', 'b', ']'] ++ '\n' :: [])) :=
    .white rfl (.line (by simp [isNewline]) rfl .nil)
  have hword : (Token.word ['t', 'r', 'u', 'e']).WellFormed :=
    ⟨cons_ne_nil _ _, all_eq_true.mp (by decide +kernel)⟩
  have hclosed : closed false "/*//,]*/".toList = true := by
    decide +kernel
  have hstring : (Token.str "/*//,]*/".toList).WellFormed := hclosed
  have hpunct : ∀ c, isPunct c = true → (Token.punct c).WellFormed := fun c hc => hc
  have hdecorated : Rendered Trivia LastTrivia true
      [.punct '[', .word ['t', 'r', 'u', 'e'], .punct ',', .str "/*//,]*/".toList, .punct ']']
      "/*a,*/[true, // b]\n\"/*//,]*/\",]".toList :=
    .token hblock (hpunct _ rfl) (.token .nil hword (.token .nil (hpunct _ rfl)
      (.token hline hstring (.comma rfl .nil .nil rfl (.done (.closed .nil))))))
  exact ⟨(parseJsonc_ignores_comments.1 _ _ _ _ hlex hparse hdecorated).trans hparse,
    (parseJsonc_ignores_comments.2 _ _ hparse).trans hparse⟩

end BorgClient.Settings
