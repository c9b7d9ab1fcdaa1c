import Boron.Audit.Secrets

namespace Boron.Audit
open List

variable {lower : String → String}

theorem mem_texts {value text : List Char} : text ∈ (Value.text value).texts ↔ value ≠ [] ∧ text = value := by
  rw [Value.texts]
  cases value with
  | nil => simp
  | cons c rest => simp

theorem isPrivate_of_isSensitive {key : String} (sensitive : isSensitive lower key = true) : isPrivate lower key = true := by
  unfold isPrivate
  rw [sensitive, Bool.or_true]

mutual

theorem texts_collected {key : String} (marked : isPrivate lower key = true) {text : List Char} :
    ∀ value : Value, text ∈ value.texts → text ∈ collectSecretValues lower key value
  | .text value, member => by
    rw [collectSecretValues, marked, Bool.true_and]
    obtain ⟨some_value, rfl⟩ := mem_texts.mp member
    cases text with
    | nil => exact absurd rfl some_value
    | cons c rest => exact mem_cons_self
  | .plain, member => by cases member
  | .list items, member => by
    exact texts_collected_items marked items member
  | .record fields, member => by
    rw [collectSecretValues, if_pos marked]
    exact texts_collected_fields marked fields member

theorem texts_collected_items {key : String} (marked : isPrivate lower key = true) {text : List Char} :
    ∀ items : List Value, text ∈ textsOfItems items → text ∈ collectItems lower key items
  | [], member => by cases member
  | item :: rest, member => by
    rcases mem_append.mp member with own | later
    · exact mem_append_left _ (texts_collected marked item own)
    · exact mem_append_right _ (texts_collected_items marked rest later)

theorem texts_collected_fields {key : String} (marked : isPrivate lower key = true) {text : List Char} :
    ∀ fields : List (String × Value), text ∈ textsOfFields fields → text ∈ collectFields lower (some key) fields
  | [], member => by cases member
  | (name, value) :: rest, member => by
    rcases mem_append.mp member with own | later
    · exact mem_append_left _ (texts_collected marked value own)
    · exact mem_append_right _ (texts_collected_fields marked rest later)

end

mutual

theorem secrets_texts {key : String} {text : List Char} :
    ∀ value : Value, text ∈ secrets lower key value → text ∈ value.texts
  | .text value, member => by
    rw [secrets] at member
    split at member
    · exact member
    · cases member
  | .plain, member => by cases member
  | .list items, member => by
    rw [secrets] at member
    split at member
    · exact member
    · exact secrets_texts_items items member
  | .record fields, member => by
    rw [secrets] at member
    split at member
    · exact member
    · exact secrets_texts_fields fields member

theorem secrets_texts_items {key : String} {text : List Char} :
    ∀ items : List Value, text ∈ secretsOfItems lower key items → text ∈ textsOfItems items
  | [], member => by cases member
  | item :: rest, member => by
    rcases mem_append.mp member with own | later
    · exact mem_append_left _ (secrets_texts item own)
    · exact mem_append_right _ (secrets_texts_items rest later)

theorem secrets_texts_fields {text : List Char} :
    ∀ fields : List (String × Value), text ∈ secretsOfFields lower fields → text ∈ textsOfFields fields
  | [], member => by cases member
  | (_, value) :: rest, member => by
    rcases mem_append.mp member with own | later
    · exact mem_append_left _ (secrets_texts value own)
    · exact mem_append_right _ (secrets_texts_fields rest later)

end

mutual

theorem secrets_collected {key : String} {text : List Char} :
    ∀ value : Value, text ∈ secrets lower key value → text ∈ collectSecretValues lower key value
  | .text value, member => by
    rw [secrets] at member
    split at member
    · next sensitive => exact texts_collected (isPrivate_of_isSensitive sensitive) _ member
    · cases member
  | .plain, member => by cases member
  | .list items, member => by
    rw [secrets] at member
    split at member
    · next sensitive => exact texts_collected (isPrivate_of_isSensitive sensitive) _ member
    · exact secrets_collected_items items member
  | .record fields, member => by
    by_cases marked : isPrivate lower key = true
    · exact texts_collected marked _ (secrets_texts _ member)
    · have open_ : ¬ isSensitive lower key = true := fun sensitive => marked (isPrivate_of_isSensitive sensitive)
      rw [secrets, if_neg open_] at member
      rw [collectSecretValues, if_neg marked]
      exact secrets_collected_fields fields member

theorem secrets_collected_items {key : String} {text : List Char} :
    ∀ items : List Value, text ∈ secretsOfItems lower key items → text ∈ collectItems lower key items
  | [], member => by cases member
  | item :: rest, member => by
    rcases mem_append.mp member with own | later
    · exact mem_append_left _ (secrets_collected item own)
    · exact mem_append_right _ (secrets_collected_items rest later)

theorem secrets_collected_fields {text : List Char} :
    ∀ fields : List (String × Value), text ∈ secretsOfFields lower fields → text ∈ collectFields lower none fields
  | [], member => by cases member
  | (_, value) :: rest, member => by
    rcases mem_append.mp member with own | later
    · exact mem_append_left _ (secrets_collected value own)
    · exact mem_append_right _ (secrets_collected_fields rest later)

end

mutual

theorem texts_secret {key : String} {inherited : Bool} (marked : (inherited || isPrivate lower key) = true)
    {text : List Char} : ∀ value : Value, text ∈ value.texts → text ∈ secretValues lower key inherited value
  | .text value, member => by
    rw [secretValues, marked, Bool.true_and]
    obtain ⟨some_value, rfl⟩ := mem_texts.mp member
    cases text with
    | nil => exact absurd rfl some_value
    | cons c rest => exact mem_cons_self
  | .plain, member => by cases member
  | .list items, member => by
    rw [secretValues, marked]
    exact texts_secret_items items member
  | .record fields, member => by
    rw [secretValues, marked]
    exact texts_secret_fields fields member

theorem texts_secret_items {key : String} {text : List Char} :
    ∀ items : List Value, text ∈ textsOfItems items → text ∈ secretItems lower key true items
  | [], member => by cases member
  | item :: rest, member => by
    rcases mem_append.mp member with own | later
    · exact mem_append_left _ (texts_secret (Bool.true_or _) item own)
    · exact mem_append_right _ (texts_secret_items rest later)

theorem texts_secret_fields {text : List Char} :
    ∀ fields : List (String × Value), text ∈ textsOfFields fields → text ∈ secretFields lower true fields
  | [], member => by cases member
  | (_, value) :: rest, member => by
    rcases mem_append.mp member with own | later
    · exact mem_append_left _ (texts_secret (Bool.true_or _) value own)
    · exact mem_append_right _ (texts_secret_fields rest later)

end

mutual

theorem secrets_secret {key : String} {inherited : Bool} {text : List Char} :
    ∀ value : Value, text ∈ secrets lower key value → text ∈ secretValues lower key inherited value
  | .text value, member => by
    rw [secrets] at member
    split at member
    · next sensitive => exact texts_secret (by rw [isPrivate_of_isSensitive sensitive, Bool.or_true]) _ member
    · cases member
  | .plain, member => by cases member
  | .list items, member => by
    rw [secrets] at member
    split at member
    · next sensitive => exact texts_secret (by rw [isPrivate_of_isSensitive sensitive, Bool.or_true]) _ member
    · exact secrets_secret_items items member
  | .record fields, member => by
    rw [secrets] at member
    split at member
    · next sensitive => exact texts_secret (by rw [isPrivate_of_isSensitive sensitive, Bool.or_true]) _ member
    · exact secrets_secret_fields fields member

theorem secrets_secret_items {key : String} {inherited : Bool} {text : List Char} :
    ∀ items : List Value, text ∈ secretsOfItems lower key items → text ∈ secretItems lower key inherited items
  | [], member => by cases member
  | item :: rest, member => by
    rcases mem_append.mp member with own | later
    · exact mem_append_left _ (secrets_secret item own)
    · exact mem_append_right _ (secrets_secret_items rest later)

theorem secrets_secret_fields {inherited : Bool} {text : List Char} :
    ∀ fields : List (String × Value), text ∈ secretsOfFields lower fields → text ∈ secretFields lower inherited fields
  | [], member => by cases member
  | (_, value) :: rest, member => by
    rcases mem_append.mp member with own | later
    · exact mem_append_left _ (secrets_secret value own)
    · exact mem_append_right _ (secrets_secret_fields rest later)

end

mutual

theorem sanitize_secrets {key : String} {text : List Char} :
    ∀ value : Value, text ∈ secrets lower key (sanitize lower key value) → text = stars
  | .text value, member => by
    rw [sanitize, secrets] at member
    split at member
    · next sensitive =>
      rw [if_pos (isPrivate_of_isSensitive sensitive)] at member
      exact (mem_texts.mp member).2
    · cases member
  | .plain, member => by
    rw [sanitize] at member
    split at member
    · exact (mem_texts.mp (secrets_texts _ member)).2
    · cases member
  | .list items, member => by
    rw [sanitize] at member
    split at member
    · exact (mem_texts.mp (secrets_texts _ member)).2
    · next open_ =>
      rw [secrets, if_neg fun sensitive => open_ (isPrivate_of_isSensitive sensitive)] at member
      exact sanitize_secrets_items items member
  | .record fields, member => by
    rw [sanitize] at member
    split at member
    · exact (mem_texts.mp (secrets_texts _ member)).2
    · next open_ =>
      rw [secrets, if_neg fun sensitive => open_ (isPrivate_of_isSensitive sensitive)] at member
      exact sanitize_secrets_fields fields member

theorem sanitize_secrets_items {key : String} {text : List Char} :
    ∀ items : List Value, text ∈ secretsOfItems lower key (sanitizeItems lower key items) → text = stars
  | [], member => by cases member
  | item :: rest, member => by
    rcases mem_append.mp member with own | later
    · exact sanitize_secrets item own
    · exact sanitize_secrets_items rest later

theorem sanitize_secrets_fields {text : List Char} :
    ∀ fields : List (String × Value), text ∈ secretsOfFields lower (sanitizeFields lower fields) → text = stars
  | [], member => by cases member
  | (_, value) :: rest, member => by
    rcases mem_append.mp member with own | later
    · exact sanitize_secrets value own
    · exact sanitize_secrets_fields rest later

end

def replaceAll (message : List Char) (values : List (List Char)) : List Char :=
  values.foldl (fun message old => Text.replace old stars 0 message) message

mutual

theorem visit_eq {key : String} {message : List Char} :
    ∀ value : Value, visit lower key message value = replaceAll message (direct lower key value)
  | .text value => by
    rw [visit, direct, Value.texts]
    cases isSensitive lower key with
    | false => rfl
    | true =>
      cases value with
      | nil => rfl
      | cons c rest => rfl
  | .plain => by rw [visit, direct]; rfl
  | .list items => by
    rw [visit, direct]
    split
    · rfl
    · exact visit_eq_items items
  | .record fields => by
    rw [visit, direct]
    split
    · rfl
    · exact visit_eq_fields fields

theorem visit_eq_items {key : String} {message : List Char} :
    ∀ items : List Value, visitItems lower key message items = replaceAll message (directOfItems lower key items)
  | [] => by rw [visitItems, directOfItems]; rfl
  | item :: rest => by
    rw [visitItems, directOfItems, visit_eq item, visit_eq_items rest]
    exact foldl_append.symm

theorem visit_eq_fields {message : List Char} :
    ∀ fields : List (String × Value), visitFields lower message fields = replaceAll message (directOfFields lower fields)
  | [] => by rw [visitFields, directOfFields]; rfl
  | (_, value) :: rest => by
    rw [visitFields, directOfFields, visit_eq value, visit_eq_fields rest]
    exact foldl_append.symm

end

mutual

theorem direct_some {key : String} {text : List Char} : ∀ value : Value, text ∈ direct lower key value → text ≠ []
  | .text value, member => by
    rw [direct] at member
    split at member
    · obtain ⟨some_value, rfl⟩ := mem_texts.mp member
      exact some_value
    · cases member
  | .plain, member => by cases member
  | .list items, member => by
    rw [direct] at member
    split at member
    · cases member
    · exact direct_some_items items member
  | .record fields, member => by
    rw [direct] at member
    split at member
    · cases member
    · exact direct_some_fields fields member

theorem direct_some_items {key : String} {text : List Char} :
    ∀ items : List Value, text ∈ directOfItems lower key items → text ≠ []
  | [], member => by cases member
  | item :: rest, member => by
    rcases mem_append.mp member with own | later
    · exact direct_some item own
    · exact direct_some_items rest later

theorem direct_some_fields {text : List Char} :
    ∀ fields : List (String × Value), text ∈ directOfFields lower fields → text ≠ []
  | [], member => by cases member
  | (_, value) :: rest, member => by
    rcases mem_append.mp member with own | later
    · exact direct_some value own
    · exact direct_some_fields rest later

end

/-- A text that no `***` put in beside it can complete. -/
structure Unstarred (text : List Char) : Prop where
  starts : text.head? ≠ some '*'
  ends : text.getLast? ≠ some '*'
  inside : ¬ stars <:+: text

theorem star_of_stars {part : List Char} (within : part <:+: stars) {c : Char} (member : c ∈ part) : c = '*' :=
  eq_of_mem_replicate (show c ∈ replicate 3 '*' from within.subset member)

theorem Unstarred.clear {text : List Char} (unstarred : Unstarred text) (some_text : text ≠ []) : Text.Clear stars text := by
  refine ⟨fun part some_part suffixed prefixed => ?_, fun part some_part prefixed suffixed => ?_, unstarred.inside,
    fun within => ?_⟩
  · obtain ⟨c, rest, rfl⟩ := exists_cons_of_ne_nil some_part
    obtain ⟨after, rfl⟩ := prefixed
    rw [star_of_stars suffixed.isInfix mem_cons_self] at unstarred
    exact unstarred.starts rfl
  · obtain ⟨before, rfl⟩ := suffixed
    have last := getLast_mem some_part
    refine unstarred.ends ?_
    rw [getLast?_append, getLast?_eq_some_getLast some_part, Option.some_or, star_of_stars prefixed.isInfix last]
  · obtain ⟨c, rest, rfl⟩ := exists_cons_of_ne_nil some_text
    rw [star_of_stars within mem_cons_self] at unstarred
    exact unstarred.starts rfl

def Silent (lower : String → String) (params : List (String × Value)) : Prop :=
  ∀ message, ∀ text ∈ secretsOfFields lower params, ¬ text <:+: redactRequestSecrets lower message params

variable {params : List (String × Value)}

theorem redactRequestSecrets_eq {message : List Char} :
    redactRequestSecrets lower message params = (replaceAll message (directOfFields lower params)).take 1000 := by
  unfold redactRequestSecrets
  rw [visit_eq_fields]

theorem silent_of_covered (covered : ∀ text ∈ secretsOfFields lower params,
      text.length ≤ 1000 → ∃ old ∈ directOfFields lower params, Unstarred old ∧ old <:+: text) : Silent lower params := by
  intro message text member shown
  rw [redactRequestSecrets_eq] at shown
  have short : text.length ≤ 1000 := Nat.le_trans shown.length_le (length_take_le _ _)
  obtain ⟨old, direct, unstarred, within⟩ := covered text member short
  have there : old <:+: replaceAll message (directOfFields lower params) :=
    within.trans (shown.trans (List.take_prefix _ _).isInfix)
  obtain ⟨_, replaced⟩ := Text.replaced_infix (fun other known => direct_some_fields params known)
    (unstarred.clear (direct_some_fields params direct)) there
  exact replaced old direct infix_rfl

theorem covered_of_silent (silent : Silent lower params) :
    ∀ text ∈ secretsOfFields lower params, text.length ≤ 1000 → ∃ old ∈ directOfFields lower params, old <:+: text := by
  intro text member short
  by_contra uncovered
  have absent : ∀ old ∈ directOfFields lower params, ¬ old <:+: text := fun old direct within =>
    uncovered ⟨old, direct, within⟩
  have same : redactRequestSecrets lower text params = text := by
    rw [redactRequestSecrets_eq, replaceAll, Text.replaced_absent absent, take_of_length_le short]
  exact silent text text member (same.symm ▸ infix_rfl)

/-- Both walks of the audit log find every secret, and it stores none; a message shows none as long
as each contains one that is itself the value of a sensitive key, and, among values that no `***`
completes, only then. -/
theorem secrets_redacted (lower : String → String) (params : List (String × Value)) :
    (∀ text ∈ secretsOfFields lower params,
      text ∈ collectFields lower none params ∧ text ∈ secretValues lower "" false (.record params)) ∧
    (∀ text ∈ secretsOfFields lower (sanitizeFields lower params), text = stars) ∧
    ((∀ text ∈ secretsOfFields lower params, text.length ≤ 1000 →
        ∃ old ∈ directOfFields lower params, Unstarred old ∧ old <:+: text) → Silent lower params) ∧
    ((∀ old ∈ directOfFields lower params, Unstarred old) →
      (Silent lower params ↔ ∀ text ∈ secretsOfFields lower params, text.length ≤ 1000 →
        ∃ old ∈ directOfFields lower params, old <:+: text)) := by
  refine ⟨fun text member => ⟨secrets_collected_fields params member, ?_⟩,
    fun text member => sanitize_secrets_fields params member, silent_of_covered, fun unstarred =>
      ⟨covered_of_silent, fun covered => silent_of_covered fun text member short => ?_⟩⟩
  · rw [secretValues]
    exact secrets_secret_fields params member
  · obtain ⟨old, direct, within⟩ := covered text member short
    exact ⟨old, direct, unstarred old direct, within⟩

def asciiLower (key : String) : String := String.ofList (key.toList.map Char.toLower)

/-- A password below a key that is itself sensitive goes into the message as it is. -/
theorem nested_secret_shown :
    ¬ ∀ (params : List (String × Value)) (message : List Char), ∀ text ∈ secretsOfFields asciiLower params,
      ¬ text <:+: redactRequestSecrets asciiLower message params ∧ text ∈ collectFields asciiLower none params := by
  intro claimed
  have shown := claimed [("credentials", .record [("password", .text "hunter2".toList)])]
    "'hunter2' is too short".toList "hunter2".toList (by decide)
  exact shown.1 (by decide)

end Boron.Audit
