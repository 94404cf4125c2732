import BorgClient.Lib.Utf8
import BorgClient.Representative.Read

/-!
# The text of a read result

`JSON.stringify(body, null, 2)` of the result of a read, and how its length grows with the
replies.
-/

namespace BorgClient.Representative
open Platform List Utf8

/-! ### JSON text -/

def hexDigit (n : ℕ) : Char := (Nat.digitChar n)

/-- A character inside a quoted string. -/
def quoteChar (c : Char) : List Char :=
  if c = '"' then ['\\', '"']
  else if c = '\\' then ['\\', '\\']
  else if c = '\n' then ['\\', 'n']
  else if c = '\r' then ['\\', 'r']
  else if c = '\t' then ['\\', 't']
  else if c.toNat = 0x08 then ['\\', 'b']
  else if c.toNat = 0x0c then ['\\', 'f']
  else if c.toNat < 0x20 then
    ['\\', 'u', '0', '0', hexDigit (c.toNat / 16), hexDigit (c.toNat % 16)]
  else [c]

def quote (text : String) : List Char := '"' :: text.toList.flatMap quoteChar ++ ['"']

def quoteOr (text : Option String) : List Char :=
  match text with
  | none => "null".toList
  | some text => quote text

def boolText (b : Bool) : List Char := if b then "true".toList else "false".toList

/-- A count is a double: adding one to `2 ^ 53` leaves it as it is. -/
def countText (n : ℕ) : List Char :=
  let digits := Nat.digits 10 (min n (2 ^ 53))
  if digits = [] then ['0'] else (digits.map Nat.digitChar).reverse

def indentation (indent : ℕ) : List Char := replicate indent ' '

/-- The members of an object, or the items of an array, each on a line of its own. -/
def block (indent : ℕ) (opening closing : Char) : List (List Char) → List Char
  | [] => [opening, closing]
  | first :: rest =>
    opening :: '\n' :: indentation (indent + 2) ++ first ++
      rest.flatMap (fun item => ',' :: '\n' :: indentation (indent + 2) ++ item) ++
      '\n' :: indentation indent ++ [closing]

def member (name : String) (value : List Char) : List Char := quote name ++ ": ".toList ++ value

/-- `details` is the text of the other members, as it stands in the citation. -/
def citationText (indent : ℕ) (document : DocumentCitation) : List Char :=
  block indent '{' '}' (member "id" (quote document.id) ::
    document.details.toList.map String.toList)

def addressedText : Addressed → String
  | .direct => "direct"
  | .broadcast => "broadcast"

def replyText (indent : ℕ) (reply : RepresentativeReply) : List Char :=
  block indent '{' '}' (
    [member "entry_id" (quote reply.entry_id), member "created_at" (quote reply.created_at),
      member "from_drone_id" (quote reply.from_drone_id),
      member "from_label" (quote reply.from_label),
      member "addressed" (quote (addressedText reply.addressed)),
      member "in_reply_to" (quoteOr reply.in_reply_to), member "message" (quote reply.message)] ++
    (if reply.documents.isEmpty then [] else
      [member "documents" (block (indent + 2) '[' ']'
        (reply.documents.map (citationText (indent + 4))))]) ++
    reply.document_delivery.toList.map (fun text => member "document_delivery" (quote text)) ++
    (if reply.oversize then [member "oversize" "true".toList] else []) ++
    (if reply.documents_reduced then [member "documents_reduced" "true".toList] else []))

def checkpointText (indent : ℕ) (checkpoint : CheckpointView) : List Char :=
  block indent '{' '}' [member "entry_id" (quoteOr checkpoint.entry_id),
    member "created_at" (quoteOr checkpoint.created_at)]

def serializeRepresentativeResult (body : ReadResult) : List Char :=
  block 0 '{' '}'
    [member "replies" (block 2 '[' ']' (body.replies.map (replyText 4))),
      member "checkpoint" (checkpointText 2 body.checkpoint),
      member "has_more" (boolText body.has_more),
      member "ignored_entries" (countText body.ignored_entries),
      member "binding_fingerprint" (quote body.binding_fingerprint),
      member "delivery" (quote body.delivery)]

/-- The lower-cased UUIDs a message quotes. -/
class QuotedUuids where
  quoted : String → List Uuid

@[reducible] def jsonText [QuotedUuids] : ReadText where
  quoted := QuotedUuids.quoted
  byteLength := fun body => byteLength (serializeRepresentativeResult body)

/-! ### Lengths -/

lemma byteLength_ascii {text : List Char} (h : ∀ c ∈ text, c.utf8Size = 1) :
    byteLength text = text.length := by
  induction text with
  | nil => rfl
  | cons c rest ih =>
    rw [byteLength_cons, h c (by simp), ih (fun d hd => h d (by simp [hd])), length_cons]
    omega

lemma digitChar_size {n : ℕ} (h : n < 10) : (Nat.digitChar n).utf8Size = 1 := by
  interval_cases n <;> rfl

/-- The digits of a count. -/
lemma byteLength_countText (n : ℕ) :
    byteLength (countText n) = max 1 (Nat.digits 10 (min n (2 ^ 53))).length := by
  have hlt : ∀ d ∈ Nat.digits 10 (min n (2 ^ 53)), d < 10 :=
    fun d hd => Nat.digits_lt_base (by decide) hd
  unfold countText
  dsimp only
  split
  · rename_i hnil
    rw [hnil]
    rfl
  · rename_i hne
    have hpos := length_pos_iff.mpr hne
    rw [byteLength_ascii, length_reverse, length_map]
    · omega
    · intro c hc
      obtain ⟨d, hd, rfl⟩ := mem_map.mp (mem_reverse.mp hc)
      exact digitChar_size (hlt d hd)

lemma byteLength_countText_mono {m n : ℕ} (h : m ≤ n) :
    byteLength (countText m) ≤ byteLength (countText n) := by
  rw [byteLength_countText, byteLength_countText]
  have := Nat.le_length_digits_le 10 _ _ (min_le_min_right (2 ^ 53) h)
  omega

lemma byteLength_countText_le (n : ℕ) : byteLength (countText n) ≤ 16 := by
  rw [byteLength_countText]
  have hmono := Nat.le_length_digits_le 10 _ _ (min_le_right n (2 ^ 53))
  have htop : (Nat.digits 10 (2 ^ 53)).length = 16 := by norm_num
  omega

lemma byteLength_block_append (indent : ℕ) (opening closing : Char) (items : List (List Char))
    (item : List Char) :
    byteLength (block indent opening closing items) ≤
      byteLength (block indent opening closing (items ++ [item])) := by
  cases items with
  | nil =>
    simp only [nil_append, block, byteLength_append, byteLength_cons, byteLength_nil,
      flatMap_nil, append_nil]
    omega
  | cons first rest =>
    simp only [cons_append, block, byteLength_append, byteLength_cons, flatMap_append]
    omega

/-- One more reply, fewer to come and no fewer ignored make the text longer. -/
lemma byteLength_serialize_mono {body body' : ReadResult} {reply : RepresentativeReply}
    (hreplies : body'.replies = body.replies ++ [reply])
    (hcheckpoint : body'.checkpoint = body.checkpoint)
    (hmore : body'.has_more = true → body.has_more = true)
    (hignored : body.ignored_entries ≤ body'.ignored_entries)
    (hfingerprint : body'.binding_fingerprint = body.binding_fingerprint)
    (hdelivery : body'.delivery = body.delivery) :
    byteLength (serializeRepresentativeResult body) ≤
      byteLength (serializeRepresentativeResult body') := by
  have hblock := byteLength_block_append 2 '[' ']' (body.replies.map (replyText 4))
    (replyText 4 reply)
  have hcount := byteLength_countText_mono hignored
  have hbool : byteLength (boolText body.has_more) ≤ byteLength (boolText body'.has_more) := by
    cases hb : body'.has_more with
    | true =>
      rw [hmore hb]
    | false =>
      cases body.has_more <;> decide
  unfold serializeRepresentativeResult
  rw [hreplies, map_append, map_singleton, hcheckpoint, hfingerprint, hdelivery]
  simp only [block, member, byteLength_append, byteLength_cons, flatMap_cons, flatMap_nil,
    byteLength_nil] at hblock ⊢
  omega

/-- The texts of a result that have a fixed form: a hex SHA-256 has 64 digits, and a UUID and an
ISO instant are far from 14000 bytes. -/
structure ShortTexts (body : ReadResult) : Prop where
  fingerprint : byteLength (quote body.binding_fingerprint) ≤ 1000
  checkpoint : byteLength (quoteOr body.checkpoint.entry_id) +
    byteLength (quoteOr body.checkpoint.created_at) ≤ 14000

/-- A result without replies is short. -/
lemma byteLength_serialize_nil {body : ReadResult} (h : ShortTexts body) (hnil : body.replies = [])
    (hdelivery : body.delivery = REPRESENTATIVE_DELIVERY_NOTE) :
    byteLength (serializeRepresentativeResult body) ≤ REPRESENTATIVE_ENVELOPE_FLOOR := by
  have hcount := byteLength_countText_le body.ignored_entries
  have hbool : byteLength (boolText body.has_more) ≤ 5 := by
    cases body.has_more <;> decide
  have hnote : byteLength (quote REPRESENTATIVE_DELIVERY_NOTE) ≤ 1000 := by
    -- each part of the text on its own: one long text is slow to take apart
    unfold quote REPRESENTATIVE_DELIVERY_NOTE
    simp only [String.toList_append, flatMap_append, byteLength_append, byteLength_cons]
    decide +kernel
  have hkeys : byteLength (quote "replies") = 9 ∧ byteLength (quote "checkpoint") = 12 ∧
      byteLength (quote "has_more") = 10 ∧ byteLength (quote "ignored_entries") = 17 ∧
      byteLength (quote "binding_fingerprint") = 21 ∧ byteLength (quote "delivery") = 10 ∧
      byteLength (quote "entry_id") = 10 ∧ byteLength (quote "created_at") = 12 ∧
      byteLength ": ".toList = 2 := by decide +kernel
  have hmarks : Char.utf8Size '{' = 1 ∧ Char.utf8Size '}' = 1 ∧ Char.utf8Size '[' = 1 ∧
      Char.utf8Size ']' = 1 ∧ Char.utf8Size ',' = 1 ∧ Char.utf8Size '\n' = 1 := by decide
  have hindent : byteLength (indentation 0) = 0 ∧ byteLength (indentation 2) = 2 ∧
      byteLength (indentation 4) = 4 := by decide
  obtain ⟨hfingerprint, hcheckpoint⟩ := h
  unfold serializeRepresentativeResult checkpointText REPRESENTATIVE_ENVELOPE_FLOOR
  rw [hnil, hdelivery, map_nil]
  simp only [block, member, byteLength_append, byteLength_cons, flatMap_cons, flatMap_nil,
    byteLength_nil, Nat.reduceAdd]
  omega

end BorgClient.Representative
