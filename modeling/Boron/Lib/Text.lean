import Mathlib.Data.List.Basic

namespace Text

/-- Drop the characters that satisfy `P` at both ends. -/
def trim (P : Char → Bool) (text : List Char) : List Char := ((text.dropWhile P).reverse.dropWhile P).reverse

/-- Python's white space: what `strip` takes off, `split` cuts at and `\s` matches. -/
def isSpace (c : Char) : Bool :=
  c = ' ' || ('\t' ≤ c && c ≤ '\r') || ('\x1c' ≤ c && c ≤ '\x1f') || c = '\u0085' || c = '\u00a0' ||
    c = '\u1680' || ('\u2000' ≤ c && c ≤ '\u200a') || c = '\u2028' || c = '\u2029' || c = '\u202f' ||
    c = '\u205f' || c = '\u3000'

/-- Python's `strip()`. -/
def strip (text : String) : String := String.ofList (trim isSpace text.toList)

/-- `str.replace` of a text that is not empty: the matches from the left that do not overlap. The
number counts down what is left of the last match. -/
def replace (old new : List Char) : Nat → List Char → List Char
  | _, [] => []
  | skip + 1, _ :: rest => replace old new skip rest
  | 0, c :: rest =>
    if old.isPrefixOf (c :: rest) then new ++ replace old new (old.length - 1) rest
    else c :: replace old new 0 rest

/-- Python's `split(maxsplit=k)`. -/
def splitWords : Nat → List Char → List (List Char)
  | 0, text => match text.dropWhile isSpace with
    | [] => []
    | rest => [rest]
  | k + 1, text => match text.dropWhile isSpace with
    | [] => []
    | rest => rest.takeWhile (¬ isSpace ·) :: splitWords k (rest.dropWhile (¬ isSpace ·))

def natOf (digits : List Char) : Nat := digits.foldl (fun n c => 10 * n + (c.toNat - '0'.toNat)) 0

end Text

namespace Text

variable {old new part text : List Char}

/-- A text that no copy of `new` overlaps, wherever the two stand. -/
structure Clear (new text : List Char) : Prop where
  starts : ∀ part, part ≠ [] → part <:+ new → ¬ part <+: text
  ends : ∀ part, part ≠ [] → part <+: new → ¬ part <:+ text
  inside : ¬ new <:+: text
  outside : ¬ text <:+: new

theorem replace_match {c : Char} {rest : List Char} (found : old.isPrefixOf (c :: rest) = true) :
    replace old new 0 (c :: rest) = new ++ replace old new (old.length - 1) rest := by
  rw [replace, if_pos found]

theorem replace_skip {c : Char} {rest : List Char} (missing : old.isPrefixOf (c :: rest) ≠ true) :
    replace old new 0 (c :: rest) = c :: replace old new 0 rest := by
  rw [replace, if_neg missing]

theorem replace_absent (absent : ¬ old <:+: text) : replace old new 0 text = text := by
  induction text with
  | nil => rfl
  | cons c rest ih =>
    have missing : old.isPrefixOf (c :: rest) ≠ true := fun found =>
      absent (List.isPrefixOf_iff_prefix.mp found).isInfix
    rw [replace_skip missing, ih fun found => absent (List.infix_cons_iff.mpr (.inr found))]

variable {whole : List Char}

theorem replace_prefix (some_old : old ≠ []) (ends : ∀ part, part ≠ [] → part <+: new → ¬ part <:+ text)
    (inside : ¬ new <:+: text) (begins : text <+: replace old new 0 whole) :
    text <+: whole ∧ ¬ old <:+: text := by
  have nothing : ¬ old <:+: [] := fun found => some_old (List.infix_nil.mp found)
  induction whole generalizing text with
  | nil =>
    rw [List.prefix_nil.mp begins]
    exact ⟨List.prefix_rfl, nothing⟩
  | cons c rest ih =>
    by_cases found : old.isPrefixOf (c :: rest) = true
    · rw [replace_match found] at begins
      rcases List.prefix_or_prefix_of_prefix begins (List.prefix_append _ _) with within | around
      · by_cases empty : text = []
        · rw [empty]
          exact ⟨List.nil_prefix, nothing⟩
        · exact absurd List.suffix_rfl (ends text empty within)
      · exact absurd around.isInfix inside
    · rw [replace_skip found] at begins
      rcases List.prefix_cons_iff.mp begins with empty | ⟨tail, rfl, later⟩
      · rw [empty]
        exact ⟨List.nil_prefix, nothing⟩
      · obtain ⟨there, kept⟩ := ih
          (fun part some_part prefixed suffixed => ends part some_part prefixed (suffixed.trans (List.suffix_cons c tail)))
          (fun held => inside (held.trans (List.suffix_cons c tail).isInfix)) later
        have whole : c :: tail <+: c :: rest := (List.prefix_cons_inj c).mpr there
        refine ⟨whole, fun held => ?_⟩
        rcases List.infix_cons_iff.mp held with first | later
        · exact found (List.isPrefixOf_iff_prefix.mpr (first.trans whole))
        · exact kept later

theorem infix_append_cases {first second : List Char} (held : text <:+: first ++ second) :
    text <:+: first ∨ text <:+: second ∨ ∃ part, part ≠ [] ∧ part <:+ first ∧ part <+: text := by
  induction first with
  | nil => exact .inr (.inl held)
  | cons c rest ih =>
    rcases List.infix_cons_iff.mp held with begins | later
    · rcases List.prefix_or_prefix_of_prefix begins (List.prefix_append (c :: rest) second) with within | around
      · exact .inl within.isInfix
      · exact .inr (.inr ⟨c :: rest, List.cons_ne_nil c rest, List.suffix_rfl, around⟩)
    · rcases ih later with inFirst | inSecond | ⟨part, some_part, suffixed, prefixed⟩
      · exact .inl (List.infix_cons_iff.mpr (.inr inFirst))
      · exact .inr (.inl inSecond)
      · exact .inr (.inr ⟨part, some_part, suffixed.trans (List.suffix_cons c rest), prefixed⟩)

theorem replace_infix (some_old : old ≠ []) (clear : Clear new text) {skipped : Nat} (held : text <:+: replace old new skipped whole) : text <:+: whole ∧ ¬ old <:+: text := by
  have something : ¬ text <:+: [] := fun empty =>
    clear.outside ((List.infix_nil.mp empty) ▸ List.nil_infix)
  induction whole generalizing skipped with
  | nil => exact absurd (by rwa [replace] at held) something
  | cons c rest ih =>
    have later : text <:+: rest ∧ ¬ old <:+: text → text <:+: c :: rest ∧ ¬ old <:+: text :=
      fun found => ⟨List.infix_cons_iff.mpr (.inr found.1), found.2⟩
    cases skipped with
    | succ skipped =>
      exact later (ih held)
    | zero =>
      by_cases found : old.isPrefixOf (c :: rest) = true
      · rw [replace_match found] at held
        rcases infix_append_cases held with within | after | ⟨part, some_part, suffixed, prefixed⟩
        · exact absurd within clear.outside
        · exact later (ih after)
        · exact absurd prefixed (clear.starts part some_part suffixed)
      · rw [replace_skip found] at held
        rcases List.infix_cons_iff.mp held with begins | after
        · rw [← replace_skip found] at begins
          obtain ⟨there, kept⟩ := replace_prefix some_old clear.ends clear.inside begins
          exact ⟨there.isInfix, kept⟩
        · exact later (ih after)

/-- A run of replacements, in which none of the texts replaced is empty. -/
theorem replaced_infix {olds : List (List Char)} (some_olds : ∀ old ∈ olds, old ≠ []) (clear : Clear new text)
    (held : text <:+: olds.foldl (fun message old => replace old new 0 message) whole) :
    text <:+: whole ∧ ∀ old ∈ olds, ¬ old <:+: text := by
  induction olds generalizing whole with
  | nil => exact ⟨held, nofun⟩
  | cons old rest ih =>
    obtain ⟨there, kept⟩ := ih (fun other member => some_olds other (List.mem_cons_of_mem old member)) held
    obtain ⟨before, own⟩ := replace_infix (some_olds old List.mem_cons_self) clear there
    refine ⟨before, fun other member => ?_⟩
    rcases List.mem_cons.mp member with rfl | member
    · exact own
    · exact kept other member

theorem replaced_absent {olds : List (List Char)} (absent : ∀ old ∈ olds, ¬ old <:+: whole) :
    olds.foldl (fun message old => replace old new 0 message) whole = whole := by
  induction olds with
  | nil => rfl
  | cons old rest ih =>
    rw [List.foldl_cons, replace_absent (absent old List.mem_cons_self)]
    exact ih fun other member => absent other (List.mem_cons_of_mem old member)

/-- A single character is replaced wherever it stands. -/
theorem replace_char (c : Char) : replace [c] new 0 text = text.flatMap fun d => if d = c then new else [d] := by
  induction text with
  | nil => rfl
  | cons d text ih =>
    rw [List.flatMap_cons, ← ih]
    by_cases same : d = c
    · have found : List.isPrefixOf [c] (d :: text) = true := List.isPrefixOf_iff_prefix.mpr ⟨text, by rw [same]; rfl⟩
      rw [replace_match found, if_pos same]
      rfl
    · have missing : List.isPrefixOf [c] (d :: text) ≠ true := by
        intro found
        obtain ⟨tail, begins⟩ := List.isPrefixOf_iff_prefix.mp found
        exact same (List.cons.inj begins).1.symm
      rw [replace_skip missing, if_neg same, List.singleton_append]

section
variable {c separator : Char} {parts lines : List (List Char)}

theorem mem_intercalate (member : c ∈ [separator].intercalate parts) :
    c = separator ∨ ∃ part ∈ parts, c ∈ part := by
  induction parts with
  | nil => exact absurd member List.not_mem_nil
  | cons part parts ih =>
    by_cases last : parts = []
    · rw [last, List.intercalate_singleton] at member
      exact .inr ⟨part, List.mem_cons_self, member⟩
    · rw [List.intercalate_cons_of_ne_nil last, List.mem_append, List.mem_append] at member
      rcases member with (member | member) | member
      · exact .inr ⟨part, List.mem_cons_self, member⟩
      · exact .inl (List.mem_singleton.mp member)
      · rcases ih member with same | ⟨other, listed, held⟩
        · exact .inl same
        · exact .inr ⟨other, List.mem_cons_of_mem part listed, held⟩

theorem join_lines (some_line : lines ≠ []) : [separator].intercalate lines ++ [separator] = lines.flatMap (· ++ [separator]) := by
  induction lines with
  | nil => exact absurd rfl some_line
  | cons line lines ih =>
    cases lines with
    | nil => simp [List.intercalate]
    | cons next lines =>
      have later := ih (List.cons_ne_nil next lines)
      rw [List.flatMap_cons, ← later]
      simp [List.intercalate]

theorem unjoin_lines (text : List Char) : (text.splitOn separator).flatMap (· ++ [separator]) = text ++ [separator] := by
  have some_line : text.splitOn separator ≠ [] := List.splitOn_ne_nil _ _
  rw [← join_lines some_line, List.intercalate_splitOn]

theorem not_mem_splitOn {line : List Char} (member : line ∈ text.splitOn separator) : separator ∉ line := by
  induction text generalizing line with
  | nil => simp_all
  | cons c text ih =>
    rw [List.splitOn_cons_eq_if_modifyHead] at member
    split at member
    · rcases List.mem_cons.mp member with rfl | later
      · exact List.not_mem_nil
      · exact ih later
    · next other =>
      obtain ⟨head, tail, split⟩ := List.exists_cons_of_ne_nil (List.splitOn_ne_nil separator text)
      rw [split, List.modifyHead_cons] at member
      have here : separator ∉ head := ih (split ▸ List.mem_cons_self)
      have different : c ≠ separator := by simpa using other
      rcases List.mem_cons.mp member with rfl | later
      · simp [here, different.symm]
      · exact ih (split ▸ List.mem_cons_of_mem head later)

end

end Text
