import BorgClient.Stream.InboxLine

/-!
# Inbox lines read back

The line `formatInboxLine` writes, as the monitor's line reader splits it and as `ENTRY_LINE_RE` and
`formatEventLine` of `inbox-monitor.ts` take it apart.
-/

namespace BorgClient.Monitor
open List
open Stream (EnrichedEntry StreamText formatInboxLine firstNonEmptyString formatDocumentCitation
  joinLines)

/-! ### Characters -/

/-- What `\s` and `trim()` take as white space. -/
def isSpace (c : Char) : Bool :=
  c == '\t' || c == '\n' || c.toNat == 0x0b || c.toNat == 0x0c || c == '\r' || c == ' ' ||
    c.toNat == 0xa0 || c.toNat == 0x1680 || (0x2000 ≤ c.toNat && c.toNat ≤ 0x200a) ||
    c.toNat == 0x2028 || c.toNat == 0x2029 || c.toNat == 0x202f || c.toNat == 0x205f ||
    c.toNat == 0x3000 || c.toNat == 0xfeff

/-- What ends a line for `readline`, and what `.` does not match. -/
def isTerminator (c : Char) : Bool :=
  c == '\n' || c == '\r' || c.toNat == 0x2028 || c.toNat == 0x2029

lemma isSpace_of_isTerminator {c : Char} (h : isTerminator c = true) : isSpace c = true := by
  simp only [isTerminator, Bool.or_eq_true, beq_iff_eq] at h
  rcases h with ((rfl | rfl) | h) | h <;> simp [isSpace, *]

def trim (text : List Char) : List Char :=
  ((text.dropWhile isSpace).reverse.dropWhile isSpace).reverse

/-! ### The line reader -/

/-- `/\r?\n|\r(?!\n)|\u2028|\u2029/`: a carriage return before a line feed is part of its
break. -/
def splitTerminators : List Char → List (List Char)
  | [] => [[]]
  | c :: rest =>
    if c == '\r' && rest.head? == some '\n' then splitTerminators rest
    else if isTerminator c then [] :: splitTerminators rest
    else
      match splitTerminators rest with
      | [] => [[c]]
      | line :: lines => (c :: line) :: lines

/-- The lines a reader of the whole text is given; an empty rest at the end is none. -/
def readLines (text : List Char) : List (List Char) :=
  let lines := splitTerminators text
  if lines.getLast? = some [] then lines.dropLast else lines

/-! ### The entry line -/

structure EntryLine where
  ts : List Char
  label : List Char
  role : List Char
  body : List Char
deriving DecidableEq, Repr

/-- `\d{4}-\d{2}-\d{2}T\d{2}:\d{2}:\d{2}` -/
def stampTemplate : List Char := "dddd-dd-ddTdd:dd:dd".toList

def fits (template c : Char) : Bool := if template = 'd' then c.isDigit else c == template

def startsWithStamp (text : List Char) : Bool :=
  stampTemplate.length ≤ text.length && (stampTemplate.zip text).all (fun p => fits p.1 p.2)

def isText (c : Char) : Bool := !isSpace c

/-- `/^(\d{4}-\d{2}-\d{2}T\d{2}:\d{2}:\d{2}\S*)\s+(\S+)\s+\(([^)]+)\):\s*(.*)$/`. Each repetition is
followed by a character it cannot match, so it takes the longest run. -/
def ENTRY_LINE_RE (line : List Char) : Option EntryLine :=
  let ts := line.takeWhile isText
  let rest := line.dropWhile isText
  let gap := rest.takeWhile isSpace
  let rest := rest.dropWhile isSpace
  let label := rest.takeWhile isText
  let rest := rest.dropWhile isText
  let gap' := rest.takeWhile isSpace
  if !startsWithStamp ts || gap.isEmpty || label.isEmpty || gap'.isEmpty then none
  else
    match rest.dropWhile isSpace with
    | '(' :: rest =>
      let role := rest.takeWhile (· != ')')
      match rest.dropWhile (· != ')') with
      | ')' :: ':' :: rest =>
        let body := rest.dropWhile isSpace
        if role.isEmpty || body.any isTerminator then none else some ⟨ts, label, role, body⟩
      | _ => none
    | _ => none

/-- The label, the role and the summary of an entry line. -/
def formatEventLine (inboxLine : List Char) : Option (List Char) :=
  (ENTRY_LINE_RE inboxLine).map (fun m => m.label ++ " (".toList ++ m.role ++ "): ".toList ++
    trim m.body)

/-! ### The parts of a written line -/

def labelOf (entry : EnrichedEntry) : List Char := (entry.drone_label.getD "?").toList

def roleOf (entry : EnrichedEntry) : List Char := (entry.role_name.getD "?").toList

/-- The message as it is written: the id's marker, the message and its citations, line breaks shown
as the replacement mark. -/
def shownMessage (entry : EnrichedEntry) : List Char :=
  let entryId := firstNonEmptyString [entry.id, entry.entry_id]
  let idPrefix := if entryId = "" then "" else "[entry_id: " ++ entryId ++ "] "
  let citations := entry.documents.map formatDocumentCitation
  let rawMessage := entry.message.getD ""
  let withDocuments :=
    if citations.length > 0 then rawMessage ++ "\nDocuments: " ++ "; ".intercalate citations
    else rawMessage
  idPrefix.toList ++ joinLines withDocuments.toList

/-- A reader of the line is given exactly it, and its fields come back from the two readers. -/
def RoundTrips (line label role message : List Char) : Prop :=
  readLines (line ++ ['\n']) = [line] ∧
  (∃ ts body, ENTRY_LINE_RE line = some ⟨ts, label, role, body⟩ ∧ trim body = message) ∧
  formatEventLine line = some (label ++ " (".toList ++ role ++ "): ".toList ++ message)

/-- A year of four digits, a label of non-blank characters, a role without a closing parenthesis,
no line terminator in what is written, and a message without white space around it. -/
structure Readable (ts label role message : List Char) : Prop where
  stamp : startsWithStamp ts = true
  label : label ≠ [] ∧ ∀ c ∈ label, isSpace c = false
  role : role ≠ [] ∧ ')' ∉ role ∧ ∀ c ∈ role, isTerminator c = false
  message : (∀ c ∈ message, isTerminator c = false) ∧ trim message = message

/-! ### Splitting -/

/-- No piece of a split holds a terminator. -/
lemma splitTerminators_piece (text : List Char) : ∀ line ∈ splitTerminators text, ∀ c ∈ line,
    isTerminator c = false := by
  induction text with
  | nil => simp [splitTerminators]
  | cons c rest ih =>
    unfold splitTerminators
    split
    · exact ih
    · split
      · intro line hline
        rcases mem_cons.mp hline with rfl | hline
        · simp
        · exact ih line hline
      · rename_i ht
        have hc : isTerminator c = false := by simpa using ht
        cases hs : splitTerminators rest with
        | nil => simpa using hc
        | cons first lines =>
          rw [hs] at ih
          dsimp only
          intro line hline x hx
          rcases mem_cons.mp hline with rfl | hline
          · rcases mem_cons.mp hx with rfl | hx
            · exact hc
            · exact ih first mem_cons_self x hx
          · exact ih line (mem_cons_of_mem first hline) x hx

lemma splitTerminators_line {line : List Char} (h : ∀ c ∈ line, isTerminator c = false) :
    splitTerminators (line ++ ['\n']) = [line, []] := by
  induction line with
  | nil => rfl
  | cons c line ih =>
    have hc := h c mem_cons_self
    have hne : c ≠ '\r' := by
      rintro rfl
      simp [isTerminator] at hc
    rw [cons_append]
    unfold splitTerminators
    simp [hne, hc, ih (fun x hx => h x (mem_cons_of_mem c hx))]

/-- A text with a line break after it is read as one line when it holds no terminator. -/
lemma readLines_eq_iff (line : List Char) :
    readLines (line ++ ['\n']) = [line] ↔ ∀ c ∈ line, isTerminator c = false := by
  constructor
  · intro h
    have hmem : line ∈ splitTerminators (line ++ ['\n']) := by
      unfold readLines at h
      dsimp only at h
      have hin : line ∈ [line] := mem_cons_self
      rw [← h] at hin
      split at hin
      · exact mem_of_mem_dropLast hin
      · exact hin
    exact splitTerminators_piece _ line hmem
  · intro h
    unfold readLines
    rw [splitTerminators_line h]
    rfl

/-! ### Runs of characters -/

lemma takeWhile_stop {p : Char → Bool} {run : List Char} {c : Char} {rest : List Char}
    (h : ∀ x ∈ run, p x = true) (hc : p c = false) :
    (run ++ c :: rest).takeWhile p = run ∧ (run ++ c :: rest).dropWhile p = c :: rest := by
  rw [takeWhile_append_of_pos h, dropWhile_append_of_pos h]
  simp [hc]

lemma dropWhile_idem (p : Char → Bool) (text : List Char) :
    (text.dropWhile p).dropWhile p = text.dropWhile p := by
  induction text with
  | nil => rfl
  | cons c text ih =>
    rw [dropWhile_cons]
    split
    · exact ih
    · rename_i hc
      rw [dropWhile_cons, if_neg hc]

/-- A text without white space around it starts with a character, if it is not empty. -/
lemma dropWhile_of_trim {text : List Char} (h : trim text = text) :
    text.dropWhile isSpace = text := by
  have hlen : (trim text).length ≤ (text.dropWhile isSpace).length := by
    unfold trim
    rw [length_reverse]
    exact (length_dropWhile_le _ _).trans (by simp)
  rw [h] at hlen
  exact (dropWhile_suffix isSpace).eq_of_length_le hlen

/-- What the expression takes apart obeys its own classes. -/
lemma entryLine_classes {line : List Char} {m : EntryLine} (h : ENTRY_LINE_RE line = some m) :
    startsWithStamp m.ts = true ∧ m.ts = line.takeWhile isText ∧
      (m.label ≠ [] ∧ ∀ c ∈ m.label, isSpace c = false) ∧ (m.role ≠ [] ∧ ')' ∉ m.role) := by
  unfold ENTRY_LINE_RE at h
  dsimp only at h
  split at h
  · cases h
  · rename_i hgate
    simp only [Bool.or_eq_true, not_or, Bool.not_eq_true, Bool.not_eq_false',
      List.isEmpty_eq_false_iff] at hgate
    split at h
    · split at h
      · split at h
        · cases h
        · rename_i hrole
          cases h
          simp only [Bool.or_eq_true, not_or, List.isEmpty_iff] at hrole
          refine ⟨by simpa using hgate.1.1.1, rfl, ⟨hgate.1.2, fun c hc => ?_⟩, hrole.1,
            fun hc => ?_⟩
          · have := mem_takeWhile_imp hc
            simpa [isText] using this
          · have := mem_takeWhile_imp hc
            simp at this
      · cases h
    · cases h

/-! ### Reading a written line back -/

def lineOf (ts label role message : List Char) : List Char :=
  ts ++ ' ' :: (label ++ ' ' :: '(' :: (role ++ ')' :: ':' :: ' ' :: message))

/-- A run of white space before a text that starts with none. -/
lemma space_run {rest : List Char} (h : rest.dropWhile isSpace = rest) (hne : rest ≠ []) :
    (' ' :: rest).takeWhile isSpace = [' '] ∧ (' ' :: rest).dropWhile isSpace = rest := by
  cases rest with
  | nil => exact absurd rfl hne
  | cons c rest =>
    have hc : isSpace c = false := by
      by_contra hs
      rw [Bool.not_eq_false] at hs
      rw [dropWhile_cons, if_pos hs] at h
      have hlen := length_dropWhile_le isSpace rest
      rw [h, length_cons] at hlen
      omega
    exact @takeWhile_stop isSpace [' '] c rest (by simp [isSpace]) hc

lemma entryLine_lineOf {ts label role message : List Char} (h : Readable ts label role message)
    (hts : ∀ c ∈ ts, isSpace c = false) :
    ENTRY_LINE_RE (lineOf ts label role message) = some ⟨ts, label, role, message⟩ := by
  obtain ⟨hstamp, ⟨hlne, hl⟩, ⟨hrne, hparen, hr⟩, ⟨hm, htrim⟩⟩ := h
  obtain ⟨h1, h2⟩ := @takeWhile_stop isText ts ' '
    (label ++ ' ' :: '(' :: (role ++ ')' :: ':' :: ' ' :: message))
    (fun c hc => by simp [isText, hts c hc]) (by decide)
  have hlabel : (label ++ ' ' :: '(' :: (role ++ ')' :: ':' :: ' ' :: message)).dropWhile isSpace =
      label ++ ' ' :: '(' :: (role ++ ')' :: ':' :: ' ' :: message) := by
    cases label with
    | nil => exact absurd rfl hlne
    | cons c label => simp [hl c mem_cons_self]
  obtain ⟨h3, h4⟩ := space_run hlabel (by simp)
  obtain ⟨h5, h6⟩ := @takeWhile_stop isText label ' '
    ('(' :: (role ++ ')' :: ':' :: ' ' :: message))
    (fun c hc => by simp [isText, hl c hc]) (by decide)
  obtain ⟨h7, h8⟩ := @takeWhile_stop isSpace [' '] '('
    (role ++ ')' :: ':' :: ' ' :: message) (by simp [isSpace]) (by decide)
  obtain ⟨h9, h10⟩ := @takeWhile_stop (fun c => c != ')') role ')'
    (':' :: ' ' :: message)
    (fun c hc => by simpa using fun he : c = ')' => hparen (he ▸ hc)) (by decide)
  have hbody : (' ' :: message).dropWhile isSpace = message := by
    rw [dropWhile_cons, if_pos (by decide)]
    exact dropWhile_of_trim htrim
  have hany : message.any isTerminator = false := by
    rw [any_eq_false]
    exact fun c hc => by simp [hm c hc]
  unfold ENTRY_LINE_RE lineOf
  rw [singleton_append] at h7 h8
  simp only [h1, h2, h3, h4, h5, h6, h7, h8, h9, h10, hstamp, hbody, hany]
  simp [hlne, hrne]

/-- A prefix of a text that starts with no white space starts with none. -/
lemma dropWhile_of_prefix {text start : List Char} (h : text.dropWhile isSpace = text)
    (hp : start <+: text) : start.dropWhile isSpace = start := by
  cases start with
  | nil => rfl
  | cons c start =>
    obtain ⟨rest, rfl⟩ := hp
    have hc : isSpace c = false := by
      by_contra hs
      rw [Bool.not_eq_false] at hs
      rw [cons_append, dropWhile_cons, if_pos hs] at h
      have hlen := length_dropWhile_le isSpace (start ++ rest)
      rw [h, length_cons] at hlen
      omega
    simp [hc]

lemma trim_idem {text : List Char} : trim (trim text) = trim text := by
  have hprefix : trim text <+: text.dropWhile isSpace := by
    unfold trim
    rw [← reverse_suffix, reverse_reverse]
    exact dropWhile_suffix isSpace
  have hstart := dropWhile_of_prefix (dropWhile_idem isSpace text) hprefix
  change (((trim text).dropWhile isSpace).reverse.dropWhile isSpace).reverse = trim text
  rw [hstart]
  unfold trim
  rw [reverse_reverse, dropWhile_idem]

lemma roundTrips_iff {ts label role message : List Char} (hts : ∀ c ∈ ts, isSpace c = false) :
    RoundTrips (lineOf ts label role message) label role message ↔
      Readable ts label role message := by
  constructor
  · rintro ⟨hread, ⟨ts', body, hm, hbody⟩, -⟩
    have hline := (readLines_eq_iff _).mp hread
    obtain ⟨hstamp, hts', hl, hr⟩ := entryLine_classes hm
    have hrun := (@takeWhile_stop isText ts ' '
      (label ++ ' ' :: '(' :: (role ++ ')' :: ':' :: ' ' :: message))
      (fun c hc => by simp [isText, hts c hc]) (by decide)).1
    have hsame : ts' = ts := hts'.trans hrun
    refine ⟨hsame ▸ hstamp, hl, ⟨hr.1, hr.2, fun c hc => hline c ?_⟩,
      fun c hc => hline c ?_, ?_⟩
    · simp [lineOf, hc]
    · simp [lineOf, hc]
    · rw [← hbody]
      exact trim_idem
  · intro h
    have hm := entryLine_lineOf h hts
    refine ⟨(readLines_eq_iff _).mpr (fun c hc => ?_), ⟨ts, message, hm, h.message.2⟩, ?_⟩
    · have hspace : ∀ x, isSpace x = false → isTerminator x = false := by
        intro x hx
        by_contra ht
        rw [isSpace_of_isTerminator (by simpa using ht)] at hx
        cases hx
      simp only [lineOf, mem_append, mem_cons] at hc
      rcases hc with hc | rfl | hc | rfl | rfl | hc | rfl | rfl | rfl | hc
      · exact hspace c (hts c hc)
      · rfl
      · exact hspace c (h.label.2 c hc)
      · rfl
      · rfl
      · exact h.role.2.2 c hc
      · rfl
      · rfl
      · rfl
      · exact h.message.1 c hc
    · unfold formatEventLine
      rw [hm, Option.map_some]
      dsimp only
      rw [h.message.2]

/-- The instant a line starts with, `none` where the entry's is none. -/
def stampOf [StreamText] (now : String) (entry : EnrichedEntry) : Option String :=
  match entry.created_at with
  | some created_at => StreamText.toISOString created_at
  | none => some now

lemma formatInboxLine_eq [StreamText] (now : String) (entry : EnrichedEntry) {ts : String}
    (h : stampOf now entry = some ts) : ∃ line, formatInboxLine now entry = some line ∧
      line.toList = lineOf ts.toList (labelOf entry) (roleOf entry) (shownMessage entry) := by
  have hline : formatInboxLine now entry = (stampOf now entry).map (fun ts => ts ++ " " ++
      entry.drone_label.getD "?" ++ " (" ++ entry.role_name.getD "?" ++ "): " ++
      String.ofList (shownMessage entry)) := by
    unfold formatInboxLine stampOf shownMessage
    cases entry.created_at <;> simp [String.ofList_append, String.append_assoc]
  rw [hline, h]
  refine ⟨_, rfl, ?_⟩
  simp [lineOf, labelOf, roleOf, String.toList_append]

def entryWith (message : String) : EnrichedEntry :=
  { id := some "e1", drone_label := some "builder-1", role_name := some "Builder",
    message := some message }

@[reducible] def plainStamps : StreamText := ⟨some, fun _ _ => 0⟩

def stamp : String := "2026-01-01T00:00:00.000Z"

end BorgClient.Monitor
