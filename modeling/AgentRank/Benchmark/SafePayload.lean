import AgentRank.Benchmark.AgentTrace
import AgentRank.Representation.JsonAscii

/-!
# What `safe_payload` leaves of a payload

A payload that has passed `safe_payload` is within its bound, holds no value under a key that
names a credential, and passes again as it is.
-/

namespace AgentRank.Benchmark.Llm

open Constraints Representation Store Text

/-- What stands in the place of a credential. -/
def redacted : Json :=
  Payload.text "[redacted]"

theorem length_truncated (length : Nat) (text : String) :
    (truncated length text).toList.length ≤ length := by
  rw [truncated, String.toList_ofList, List.length_take]
  exact Nat.min_le_left _ _

theorem truncated_of_short {length : Nat} {text : String} (short : text.toList.length ≤ length) :
    truncated length text = text := by
  rw [truncated, List.take_of_length_le short, String.ofList_toList]

/-- A key whose beginning names a credential names one. -/
theorem isSecret_of_truncated {length : Nat} {key : String}
    (secret : isSecret (truncated length key) = true) : isSecret key = true :=
  @search_isSome_of_take asciiTables secretPart key length rfl secret

/-! ## Clean values -/

/-- A value as `_sanitize` leaves one. -/
inductive Clean : Json → Prop
  | null : Clean .null
  | text (text : String) (short : text.toList.length ≤ maxTextLength) : Clean (Payload.text text)
  | number (value : Number) : Clean (.scalar (.number value))
  | boolean (value : Bool) : Clean (.scalar (.boolean value))
  | array (items : List Json) (few : items.length ≤ maxItems) (each : ∀ item ∈ items, Clean item) :
      Clean (.array items)
  | object (fields : List (String × Json)) (keys : (fields.map Prod.fst).Nodup)
      (short : ∀ field ∈ fields, field.1.toList.length ≤ maxKeyCharacters)
      (secrets : ∀ field ∈ fields, isSecret field.1 = true → field.2 = redacted)
      (each : ∀ field ∈ fields, Clean field.2) : Clean (.object fields)

variable {fields : List (String × Json)}

/-- Values under short keys, none of which names a credential. -/
theorem clean_object_of_plain (keys : (fields.map Prod.fst).Nodup)
    (plain : ∀ field ∈ fields, (field.1.toList.length ≤ maxKeyCharacters ∧
      isSecret field.1 = false) ∧ Clean field.2) : Clean (.object fields) := by
  apply Clean.object
  · exact keys
  · exact fun field member => (plain field member).1.1
  · intro field member secret
    rw [(plain field member).1.2] at secret
    cases secret
  · exact fun field member => (plain field member).2

theorem clean_redacted : Clean redacted :=
  .text _ (by decide)

theorem length_sanitizeItems (most : Nat) (items : List Json) :
    (sanitizeItems most items).length ≤ most := by
  induction most generalizing items with
  | zero => simp [sanitizeItems]
  | succ most ih =>
      cases items with
      | nil => exact Nat.zero_le _
      | cons item rest => exact Nat.succ_le_succ (ih rest)

mutual

/-- Sanitizing leaves a clean value. -/
theorem clean_sanitize : (value : Json) → Clean (sanitize value)
  | .null => .null
  | .scalar (.string text) => .text _ (length_truncated maxTextLength text)
  | .scalar (.number value) => .number value
  | .scalar (.boolean value) => .boolean value
  | .array items =>
      .array _ (length_sanitizeItems maxItems items) (clean_sanitizeItems maxItems items)
  | .object fields => by
      obtain ⟨keys, among⟩ := dictOf_fields (sanitizeFields fields)
      have each := clean_sanitizeFields fields
      apply Clean.object
      · exact keys
      · exact fun field member => (each field (among field member)).1
      · exact fun field member => (each field (among field member)).2.1
      · exact fun field member => (each field (among field member)).2.2

theorem clean_sanitizeItems (most : Nat) :
    (items : List Json) → ∀ item ∈ sanitizeItems most items, Clean item
  | [] => by cases most <;> simp [sanitizeItems]
  | first :: rest => by
      cases most with
      | zero => simp [sanitizeItems]
      | succ most =>
          exact List.forall_mem_cons.mpr
            ⟨clean_sanitize first, clean_sanitizeItems most rest⟩

theorem clean_sanitizeFields :
    (fields : List (String × Json)) → ∀ field ∈ sanitizeFields fields,
      field.1.toList.length ≤ maxKeyCharacters ∧
        (isSecret field.1 = true → field.2 = redacted) ∧ Clean field.2
  | [] => by simp [sanitizeFields]
  | (name, value) :: rest => by
      refine List.forall_mem_cons.mpr ⟨⟨length_truncated _ _, ?_, ?_⟩, clean_sanitizeFields rest⟩
      · intro secret
        exact if_pos (isSecret_of_truncated secret)
      · dsimp only
        split
        · exact clean_redacted
        · exact clean_sanitize value

end

theorem sanitizeItems_of_same {items : List Json} (each : ∀ item ∈ items, sanitize item = item)
    (most : Nat) (few : items.length ≤ most) : sanitizeItems most items = items := by
  induction items generalizing most with
  | nil => cases most <;> rfl
  | cons item rest ih =>
      obtain ⟨first, later⟩ := List.forall_mem_cons.mp each
      cases most with
      | zero => cases few
      | succ most => rw [sanitizeItems, first, ih later most (Nat.le_of_succ_le_succ few)]

theorem sanitizeFields_of_same
    (each : ∀ field ∈ fields, truncated maxKeyCharacters field.1 = field.1 ∧
      (if isSecret field.1 then redacted else sanitize field.2) = field.2) :
    sanitizeFields fields = fields := by
  induction fields with
  | nil => rfl
  | cons field rest ih =>
      obtain ⟨⟨key, value⟩, later⟩ := List.forall_mem_cons.mp each
      obtain ⟨name, held⟩ := field
      rw [sanitizeFields, ih later, key]
      exact congrArg (fun kept => (name, kept) :: rest) value

/-- A clean value is sanitized to itself. -/
theorem sanitize_of_clean {value : Json} (clean : Clean value) : sanitize value = value := by
  induction clean with
  | null => rfl
  | text text short => exact congrArg Payload.text (truncated_of_short short)
  | number => rfl
  | boolean => rfl
  | array items few _ ih => exact congrArg Json.array (sanitizeItems_of_same ih maxItems few)
  | object fields keys short secrets _ ih =>
      have same : sanitizeFields fields = fields := by
        apply sanitizeFields_of_same
        intro field member
        refine ⟨truncated_of_short (short field member), ?_⟩
        split
        · rename_i secret
          exact (secrets field member secret).symm
        · exact ih field member
      rw [sanitize, same, dictOf_distinct keys]

/-! ## Payloads -/

theorem isAscii_canonicalText (value : Json) : IsAscii (canonicalText value) := by
  rw [canonicalText]
  cases written : write compact (sortKeys value) with
  | none => exact isAscii_nil
  | some text => exact isAscii_write _ written

/-- What is left of a payload that is too long. -/
def cutPayload (encoded : List Char) : Json :=
  .object
    [("truncated", .scalar (.boolean true)),
      ("sha256_length", Payload.number encoded.length),
      ("preview", Payload.text (String.ofList (encoded.take maxTextLength)))]

theorem clean_cut (encoded : List Char) : Clean (cutPayload encoded) := by
  apply Clean.object
  · simp
  · simp only [List.forall_mem_cons]
    exact ⟨by decide, by decide, by decide, List.forall_mem_nil _⟩
  · simp only [List.forall_mem_cons]
    have named : isSecret "truncated" = false ∧ isSecret "sha256_length" = false ∧
        isSecret "preview" = false := by
      decide +kernel
    simp [named]
  · simp only [List.forall_mem_cons]
    refine ⟨.boolean true, .number _, .text _ ?_, List.forall_mem_nil _⟩
    rw [String.toList_ofList, List.length_take]
    exact Nat.min_le_left _ _

theorem fieldLength_text (name text : String) :
    fieldLength name (sortKeys (Payload.text text)) =
      (Representation.quoted name).toList.length + (Representation.quoted text).toList.length + 2 :=
  rfl

theorem fieldLength_number_le (name : String) (value : Number) :
    fieldLength name (sortKeys (.scalar (.number value))) ≤
      (Representation.quoted name).toList.length + maxIntegerDigits + 3 := by
  have digits : ((numberText value).getD []).length ≤ maxIntegerDigits + 1 := by
    cases written : numberText value with
    | none => exact Nat.zero_le _
    | some text => exact length_number_le written
  change (Representation.quoted name).toList.length + ((numberText value).getD []).length + 2 ≤ _
  omega

/-- What is left of a payload that is too long is short. -/
theorem length_cut {encoded : List Char} (ascii : IsAscii encoded) :
    (canonicalText (cutPayload encoded)).length ≤ maxPayloadBytes := by
  have preview : (Representation.quoted (String.ofList (encoded.take maxTextLength))).toList.length ≤
      6 * maxTextLength + 2 := by
    have small : ∀ char ∈ (String.ofList (encoded.take maxTextLength)).toList,
        char.toNat < 65536 := by
      intro char member
      rw [String.toList_ofList] at member
      exact (ascii char (List.mem_of_mem_take member)).trans (by decide)
    have length := length_quoted_le small
    rw [String.toList_ofList, List.length_take] at length
    have least := Nat.min_le_left maxTextLength encoded.length
    omega
  have distinct : (["truncated", "sha256_length", "preview"] : List String).Nodup := by decide
  have total := @length_write_object_le
    [("truncated", .scalar (.boolean true)), ("sha256_length", Payload.number encoded.length),
      ("preview", Payload.text (String.ofList (encoded.take maxTextLength)))] distinct
  have number := fieldLength_number_le "sha256_length" (.finite encoded.length)
  have flag : fieldLength "truncated" (sortKeys (.scalar (.boolean true))) = 17 := by
    decide +kernel
  have names : (Representation.quoted "sha256_length").toList.length = 15 ∧
      (Representation.quoted "preview").toList.length = 9 := by
    decide +kernel
  simp only [List.map_cons, List.map_nil, List.sum_cons, List.sum_nil, fieldLength_text, flag,
    names] at total number
  simp only [maxTextLength, maxIntegerDigits, Payload.number] at *
  exact total.trans (by simp only [maxPayloadBytes]; omega)

/-- A payload is what `_sanitize` leaves, unless that is too long. -/
theorem safePayload_eq (value : Json) :
    ∃ fields, Clean (.object fields) ∧
      safePayload value =
        if (canonicalText (.object fields)).length ≤ maxPayloadBytes then .object fields
        else cutPayload (canonicalText (.object fields)) := by
  have clean := clean_sanitize value
  have wrapped : ∀ inner, Clean inner → Clean (.object [("value", inner)]) := by
    intro inner isClean
    have named : isSecret "value" = false := by decide +kernel
    apply Clean.object
    · simp
    · simp only [List.forall_mem_singleton]
      decide
    · simp [named]
    · simpa using isClean
  unfold safePayload
  cases isSanitized : sanitize value with
  | object fields =>
      rw [isSanitized] at clean
      exact ⟨fields, clean, rfl⟩
  | null =>
      rw [isSanitized] at clean
      exact ⟨_, wrapped _ clean, rfl⟩
  | scalar inner =>
      rw [isSanitized] at clean
      exact ⟨_, wrapped _ clean, rfl⟩
  | array items =>
      rw [isSanitized] at clean
      exact ⟨_, wrapped _ clean, rfl⟩

theorem clean_safePayload (value : Json) : Clean (safePayload value) := by
  obtain ⟨fields, clean, isPayload⟩ := safePayload_eq value
  rw [isPayload]
  split
  · exact clean
  · exact clean_cut _

/-- Every payload is within the bound. -/
theorem length_safePayload (value : Json) :
    (canonicalText (safePayload value)).length ≤ maxPayloadBytes := by
  obtain ⟨fields, _, isPayload⟩ := safePayload_eq value
  rw [isPayload]
  split
  · rename_i within
    exact within
  · exact length_cut (isAscii_canonicalText _)

/-- A clean object within the bound is kept. -/
theorem safePayload_of_clean (clean : Clean (.object fields))
    (within : (canonicalText (.object fields)).length ≤ maxPayloadBytes) :
    safePayload (.object fields) = .object fields := by
  rw [safePayload, sanitize_of_clean clean]
  exact if_pos within

/-- A clean object whose fields are short is kept. -/
theorem safePayload_of_short (clean : Clean (.object fields))
    (short : (fields.map fun field => fieldLength field.1 (sortKeys field.2)).sum + 2 ≤
      maxPayloadBytes) : safePayload (.object fields) = .object fields := by
  apply safePayload_of_clean clean
  cases clean with
  | object _ keys => exact (length_write_object_le keys).trans short

/-- What has passed is an object. -/
theorem safePayload_object (value : Json) : ∃ kept, safePayload value = .object kept := by
  obtain ⟨fields, _, isPayload⟩ := safePayload_eq value
  rw [isPayload]
  split
  · exact ⟨_, rfl⟩
  · exact ⟨_, rfl⟩

/-- What has passed once passes again as it is. -/
theorem safePayload_safePayload (value : Json) :
    safePayload (safePayload value) = safePayload value := by
  have clean := clean_safePayload value
  have within := length_safePayload value
  obtain ⟨kept, isObject⟩ := safePayload_object value
  rw [isObject] at clean within ⊢
  exact safePayload_of_clean clean within

/-- A field that stands somewhere in a value. -/
inductive HasField : Json → String × Json → Prop
  | here {fields : List (String × Json)} {field : String × Json} (member : field ∈ fields) :
      HasField (.object fields) field
  | inField {fields : List (String × Json)} {outer field : String × Json}
      (member : outer ∈ fields) (inside : HasField outer.2 field) : HasField (.object fields) field
  | inItem {items : List Json} {item : Json} {field : String × Json} (member : item ∈ items)
      (inside : HasField item field) : HasField (.array items) field

/-- Nothing but the mark stands under a key that names a credential. -/
def IsRedacted (value : Json) : Prop :=
  ∀ field, HasField value field → isSecret field.1 = true → field.2 = redacted

theorem Clean.isRedacted {value : Json} (clean : Clean value) : IsRedacted value := by
  intro field held secret
  induction held with
  | here member =>
      cases clean with
      | object fields keys short secrets each => exact secrets _ member secret
  | inField member _ ih =>
      cases clean with
      | object fields keys short secrets each => exact ih (each _ member) secret
  | inItem member _ ih =>
      cases clean with
      | array items few each => exact ih (each _ member) secret

end AgentRank.Benchmark.Llm
