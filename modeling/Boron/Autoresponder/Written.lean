import Boron.Autoresponder.Script

namespace Boron.Autoresponder
open Sieve

section
variable {text rest : List Char}

theorem newlines_pair : newlines ('\r' :: '\n' :: rest) = '\n' :: newlines rest := rfl

theorem newlines_skip {c : Char} (other : c = '\r' → rest.head? ≠ some '\n') : newlines (c :: rest) = c :: newlines rest := by
  refine Text.replace_skip fun found => ?_
  obtain ⟨tail, same⟩ := List.isPrefixOf_iff_prefix.mp found
  cases same
  exact other rfl rfl

theorem newlines_of_lineEnds {read : List Char} (reads : lineEnds text = some read) : read = newlines text := by
  fun_induction lineEnds text generalizing read with
  | case1 =>
    cases reads
    rfl
  | case2 text ih =>
    obtain ⟨tail, later, rfl⟩ := Option.map_eq_some_iff.mp reads
    rw [newlines_pair, ih later]
  | case3 => cases reads
  | case4 => cases reads
  | case5 c text _ plain _ ih =>
    obtain ⟨tail, later, rfl⟩ := Option.map_eq_some_iff.mp reads
    rw [newlines_skip fun same => absurd same plain, ih later]

/-- Every carriage return stands before a line feed. -/
def Paired (text : List Char) : Prop := ∀ front rest, text = front ++ '\r' :: rest → rest.head? = some '\n'

theorem paired_cons {c : Char} : Paired (c :: rest) ↔ (c = '\r' → rest.head? = some '\n') ∧ Paired rest := by
  constructor
  · intro paired
    refine ⟨fun same => paired [] rest (by rw [same]; rfl), fun front tail split => ?_⟩
    exact paired (c :: front) tail (by rw [split]; rfl)
  · rintro ⟨here, later⟩ front tail split
    cases front with
    | nil =>
      obtain ⟨same, rfl⟩ := List.cons.inj split
      exact here same
    | cons d front =>
      obtain ⟨_, rfl⟩ := List.cons.inj split
      exact later front tail rfl

theorem paired_iff : Paired text ↔ '\r' ∉ newlines text := by
  induction size : text.length using Nat.strongRecOn generalizing text with
  | ind size ih =>
    cases text with
    | nil => exact ⟨fun _ => List.not_mem_nil, fun _ front tail split => by simp at split⟩
    | cons c rest =>
      rw [List.length_cons] at size
      by_cases pair : c = '\r' ∧ rest.head? = some '\n'
      · obtain ⟨rfl, next⟩ := pair
        obtain ⟨tail, rfl⟩ := List.head?_eq_some_iff.mp next
        rw [List.length_cons] at size
        rw [newlines_pair, paired_cons, paired_cons, ih tail.length (by omega) rfl]
        simp
      · have skip := newlines_skip fun same found => pair ⟨same, found⟩
        rw [skip, paired_cons, ih rest.length (by omega) rfl, List.mem_cons, not_or]
        refine and_congr_left fun _ => ⟨fun here same => pair ⟨same.symm, here same.symm⟩, fun other same => ?_⟩
        exact absurd same.symm other

theorem escapeQuotedString_eq (value : List Char) : escapeQuotedString value = quote value := by
  show Text.replace ['"'] ['\\', '"'] 0 (Text.replace ['\\'] ['\\', '\\'] 0 value) = _
  rw [Text.replace_char, Text.replace_char, List.flatMap_assoc]
  refine congrArg (List.flatMap · value) (funext fun c => ?_)
  by_cases slash : c = '\\'
  · subst slash
    rfl
  · by_cases mark : c = '"'
    · subst mark
      rfl
    · simp [slash, mark]

theorem stuffed_lines (lines : List (List Char)) (some_line : lines ≠ []) :
    "\n".toList.intercalate (lines.map fun ln => if ".".toList.isPrefixOf ln then ".".toList ++ ln else ln) ++ ['\n'] =
      lines.flatMap (stuff · ++ ['\n']) := by
  have same : (fun ln => if ".".toList.isPrefixOf ln then ".".toList ++ ln else ln) = stuff := by
    funext ln
    cases ln with
    | nil => rfl
    | cons c ln =>
      by_cases dotted : c = '.'
      · subst dotted
        rfl
      · have missing : ¬".".toList.isPrefixOf (c :: ln) = true := by
          intro found
          obtain ⟨tail, begins⟩ := List.isPrefixOf_iff_prefix.mp found
          exact dotted (List.cons.inj begins).1.symm
        have other : ¬(c :: ln).head? = some '.' := fun found => dotted (Option.some.inj found)
        rw [if_neg missing, stuff, if_neg other]
  have joined := @Text.join_lines '\n' (lines.map stuff) (by simpa using some_line)
  rw [same]
  rw [List.flatMap_map] at joined
  exact joined

theorem run_textBlock (body rest : List Char) : run .between (" :days 1 :mime ".toList ++ textBlock body ++ "\n;".toList ++ rest) =
    (lineEnds (newlines body ++ ['\n'])).bind fun read =>
      emits [.tag "days".toList, .number 1, .tag "mime".toList, .string read, .mark ';'] (run .between rest) := by
  have lines : (newlines body).splitOn '\n' ≠ [] := List.splitOn_ne_nil _ _
  have pieces : " :days 1 :mime ".toList ++ textBlock body ++ "\n;".toList ++ rest =
      " :days 1 :mime text:\n".toList ++ (((newlines body).splitOn '\n').flatMap (stuff · ++ ['\n']) ++
        (".\n;".toList ++ rest)) := by
    rw [← stuffed_lines _ lines]
    unfold textBlock
    simp
  have head : run .between " :days 1 :mime text:\n".toList =
      some (.lineStart [], [.tag "days".toList, .number 1, .tag "mime".toList]) := by
    rfl
  have last (read : List Char) : run (.lineStart read) ".\n;".toList = some (.between, [.string read, .mark ';']) := rfl
  rw [pieces, run_piece head, run_stuffed [] fun line member => Text.not_mem_splitOn member, Text.unjoin_lines, emits_bind]
  refine congrArg _ (funext fun read => ?_)
  rw [List.nil_append, run_piece (last read), emits_emits]
  rfl

end

def addressClause (address : List Char) : List Char := " :addresses [\"".toList ++ address ++ "\"]".toList

theorem run_vacation {address : List Char} (plain : Plain address) (subject body rest : List Char) :
    run .between ("vacation :subject \"".toList ++ escapeQuotedString subject ++ "\"".toList ++ addressClause address ++
        " :days 1 :mime ".toList ++ textBlock body ++ "\n;".toList ++ rest) =
      (lineEnds subject).bind fun title => (lineEnds (newlines body ++ ['\n'])).bind fun read =>
        emits [.identifier "vacation".toList, .tag "subject".toList, .string title, .tag "addresses".toList, .mark '[',
          .string address, .mark ']', .tag "days".toList, .number 1, .tag "mime".toList, .string read, .mark ';']
          (run .between rest) := by
  have head : run .between "vacation :subject \"".toList =
      some (.quoted [], [.identifier "vacation".toList, .tag "subject".toList]) := by
    rfl
  have clause : run .between " :addresses [\"".toList = some (.quoted [], [.tag "addresses".toList, .mark '[']) := by
    rfl
  have closing : run .between "]".toList = some (.between, [.mark ']']) := by
    rfl
  have block := run_textBlock body rest
  have pieces : "vacation :subject \"".toList ++ escapeQuotedString subject ++ "\"".toList ++ addressClause address ++
      " :days 1 :mime ".toList ++ textBlock body ++ "\n;".toList ++ rest =
      "vacation :subject \"".toList ++ (quote subject ++ '"' :: (" :addresses [\"".toList ++ (address ++ '"' ::
        ("]".toList ++ (" :days 1 :mime ".toList ++ textBlock body ++ "\n;".toList ++ rest))))) := by
    rw [escapeQuotedString_eq]
    unfold addressClause
    simp
  rw [pieces, run_piece head, run_quote, emits_bind]
  refine congrArg _ (funext fun title => ?_)
  rw [run_piece clause, run_plain plain, run_piece closing, block, emits_bind, emits_bind, emits_bind, emits_bind, emits_bind]
  refine congrArg _ (funext fun read => ?_)
  simp only [emits_emits, List.nil_append]
  rfl

def requireTokens : List Token :=
  [.identifier "require".toList, .mark '[', .string "vacation".toList, .mark ',', .string "date".toList, .mark ',',
    .string "relational".toList, .mark ']', .mark ';']

def currentdateTokens (op : List Char) (date : List Char) : List Token :=
  [.identifier "currentdate".toList, .tag "value".toList, .string op, .string "date".toList, .string date]

def conditionTokens : Option (List Char) → Option (List Char) → List Token
  | some startDate, some endDate =>
    [.identifier "if".toList, .identifier "allof".toList, .mark '('] ++ currentdateTokens "ge".toList startDate ++
      [.mark ','] ++ currentdateTokens "le".toList endDate ++ [.mark ')', .mark '{']
  | some startDate, none => .identifier "if".toList :: currentdateTokens "ge".toList startDate ++ [.mark '{']
  | none, some endDate => .identifier "if".toList :: currentdateTokens "le".toList endDate ++ [.mark '{']
  | none, none => []

def vacationTokens (subject address text : List Char) : List Token :=
  [.identifier "vacation".toList, .tag "subject".toList, .string subject, .tag "addresses".toList, .mark '[',
    .string address, .mark ']', .tag "days".toList, .number 1, .tag "mime".toList, .string text, .mark ';']

def scriptTokens (startDate endDate : Option (List Char)) (subject address text : List Char) : List Token :=
  requireTokens ++ conditionTokens startDate endDate ++ vacationTokens subject address text ++
    if startDate.isSome || endDate.isSome then [.mark '}'] else []

def vacation (subject address text : List Char) : Command :=
  .mk "vacation".toList [.tag "subject".toList, .strings [subject], .tag "addresses".toList, .strings [address],
    .tag "days".toList, .number 1, .tag "mime".toList, .strings [text]] [] none

def currentdate (op : List Char) (date : List Char) : Test :=
  .mk "currentdate".toList [.tag "value".toList, .strings [op], .strings ["date".toList], .strings [date]] []

/-- The commands of an autoresponder: the one `vacation` action, within its dates if there are any. -/
def responder (startDate endDate : Option (List Char)) (subject address text : List Char) : List Command :=
  .mk "require".toList [.strings ["vacation".toList, "date".toList, "relational".toList]] [] none ::
    match startDate, endDate with
    | some startDate, some endDate =>
      [.mk "if".toList [] [.mk "allof".toList [] [currentdate "ge".toList startDate, currentdate "le".toList endDate]]
        (some [vacation subject address text])]
    | some startDate, none => [.mk "if".toList [] [currentdate "ge".toList startDate] (some [vacation subject address text])]
    | none, some endDate => [.mk "if".toList [] [currentdate "le".toList endDate] (some [vacation subject address text])]
    | none, none => [vacation subject address text]

theorem parseTokens_script (startDate endDate : Option (List Char)) (subject address text : List Char) :
    parseTokens (scriptTokens startDate endDate subject address text) =
      some (responder startDate endDate subject address text) := by
  cases startDate <;> cases endDate <;> rfl

theorem responder_inj {startDate endDate : Option (List Char)} {subject address text other : List Char} :
    responder startDate endDate subject address text = responder startDate endDate subject address other ↔ text = other := by
  cases startDate <;> cases endDate <;> simp [responder, vacation]

section
variable {subject body address : List Char} {startDate endDate : Option (List Char)}

def requireLine : List Char := "require [\"vacation\", \"date\", \"relational\"];\n\n".toList

theorem run_require (rest : List Char) : run .between (requireLine ++ rest) = emits requireTokens (run .between rest) := by
  have piece : run .between requireLine = some (.between, requireTokens) := by
    rfl
  exact run_piece piece rest

theorem run_condition {condition : List Char} (starts : ∀ date, startDate = some date → Plain date)
    (ends : ∀ date, endDate = some date → Plain date) (given : Autoresponder.condition startDate endDate = some condition)
    (rest : List Char) :
    run .between ("if ".toList ++ condition ++ " \x7b\n".toList ++ rest) =
      emits (conditionTokens startDate endDate) (run .between rest) := by
  have closing : run .between " \x7b\n".toList = some (.between, [.mark '{']) := by
    rfl
  cases startDate with
  | none =>
    cases endDate with
    | none => cases given
    | some endDate =>
      cases given
      have head : run .between "if currentdate :value \"le\" \"date\" \"".toList = some (.quoted [],
          [.identifier "if".toList, .identifier "currentdate".toList, .tag "value".toList, .string "le".toList,
            .string "date".toList]) := by
        rfl
      have pieces : "if ".toList ++ ("currentdate :value \"le\" \"date\" \"".toList ++ endDate ++ "\"".toList) ++
          " \x7b\n".toList ++ rest = "if currentdate :value \"le\" \"date\" \"".toList ++ (endDate ++ '"' ::
            (" \x7b\n".toList ++ rest)) := by simp
      rw [pieces, run_piece head, run_plain (ends endDate rfl), run_piece closing, emits_emits, emits_emits]
      rfl
  | some startDate =>
    cases endDate with
    | none =>
      cases given
      have head : run .between "if currentdate :value \"ge\" \"date\" \"".toList = some (.quoted [],
          [.identifier "if".toList, .identifier "currentdate".toList, .tag "value".toList, .string "ge".toList,
            .string "date".toList]) := by
        rfl
      have pieces : "if ".toList ++ ("currentdate :value \"ge\" \"date\" \"".toList ++ startDate ++ "\"".toList) ++
          " \x7b\n".toList ++ rest = "if currentdate :value \"ge\" \"date\" \"".toList ++ (startDate ++ '"' ::
            (" \x7b\n".toList ++ rest)) := by simp
      rw [pieces, run_piece head, run_plain (starts startDate rfl), run_piece closing, emits_emits, emits_emits]
      rfl
    | some endDate =>
      cases given
      have head : run .between "if allof(currentdate :value \"ge\" \"date\" \"".toList = some (.quoted [],
          [.identifier "if".toList, .identifier "allof".toList, .mark '(', .identifier "currentdate".toList,
            .tag "value".toList, .string "ge".toList, .string "date".toList]) := by
        rfl
      have between : run .between ", currentdate :value \"le\" \"date\" \"".toList = some (.quoted [],
          [.mark ',', .identifier "currentdate".toList, .tag "value".toList, .string "le".toList,
            .string "date".toList]) := by
        rfl
      have last : run .between ") \x7b\n".toList = some (.between, [.mark ')', .mark '{']) := by
        rfl
      have pieces : "if ".toList ++ ("allof(currentdate :value \"ge\" \"date\" \"".toList ++ startDate ++
          "\", currentdate :value \"le\" \"date\" \"".toList ++ endDate ++ "\")".toList) ++ " \x7b\n".toList ++ rest =
          "if allof(currentdate :value \"ge\" \"date\" \"".toList ++ (startDate ++ '"' ::
            (", currentdate :value \"le\" \"date\" \"".toList ++ (endDate ++ '"' :: (") \x7b\n".toList ++ rest)))) := by simp
      rw [pieces, run_piece head, run_plain (starts startDate rfl), run_piece between, run_plain (ends endDate rfl),
        run_piece last, emits_emits, emits_emits, emits_emits, emits_emits]
      rfl

theorem truthy_some {text : List Char} (some_text : text ≠ []) : truthy (some text) = some text := by
  cases text with
  | nil => exact absurd rfl some_text
  | cons => rfl

def vacationStmt (subject address body : List Char) : List Char :=
  "vacation :subject \"".toList ++ escapeQuotedString subject ++ "\"".toList ++ addressClause address ++
    " :days 1 :mime ".toList ++ textBlock body ++ "\n;".toList

theorem join_two (a b : List Char) : "\n".toList.intercalate ([a, []] ++ [b]) ++ "\n".toList =
    a ++ "\n".toList ++ "\n".toList ++ b ++ "\n".toList := by
  simp [List.intercalate]

theorem join_four (a b c d : List Char) : "\n".toList.intercalate ([a, []] ++ [b, c, d]) ++ "\n".toList =
    a ++ "\n".toList ++ "\n".toList ++ (b ++ "\n".toList ++ (c ++ ("\n".toList ++ d ++ "\n".toList))) := by
  simp [List.intercalate]

theorem requireLine_eq : requireLine =
    "require [\"vacation\", \"date\", \"relational\"];".toList ++ "\n".toList ++ "\n".toList := by
  rfl

theorem rendered_always (some_address : address ≠ []) : renderSieveScript subject body none none (some address) =
    requireLine ++ (vacationStmt subject address body ++ "\n".toList) := by
  have whole : renderSieveScript subject body none none (some address) =
      "\n".toList.intercalate (["require [\"vacation\", \"date\", \"relational\"];".toList, []] ++
        [vacationStmt subject address body]) ++ "\n".toList := by
    unfold renderSieveScript
    rw [truthy_some some_address]
    rfl
  rw [whole, join_two, requireLine_eq, List.append_assoc]

theorem rendered_within {condition : List Char} (some_address : address ≠ [])
    (given : Autoresponder.condition (truthy startDate) (truthy endDate) = some condition) :
    renderSieveScript subject body startDate endDate (some address) =
      requireLine ++ ("if ".toList ++ condition ++ " \x7b\n".toList ++
        (vacationStmt subject address body ++ "\n\x7d\n".toList)) := by
  have whole : renderSieveScript subject body startDate endDate (some address) =
      "\n".toList.intercalate (["require [\"vacation\", \"date\", \"relational\"];".toList, []] ++
        ["if ".toList ++ condition ++ " \x7b".toList, vacationStmt subject address body, "\x7d".toList]) ++ "\n".toList := by
    unfold renderSieveScript
    rw [truthy_some some_address, given]
    rfl
  have opens : " \x7b\n".toList = " \x7b".toList ++ "\n".toList := by
    rfl
  have closes : "\n\x7d\n".toList = "\n".toList ++ "\x7d".toList ++ "\n".toList := by
    rfl
  rw [whole, join_four, requireLine_eq, opens, closes]
  simp only [List.append_assoc]

theorem lex_script (plain : Plain address) (some_address : address ≠ [])
    (starts : ∀ date, startDate = some date → Plain date ∧ date ≠ [])
    (ends : ∀ date, endDate = some date → Plain date ∧ date ≠ []) :
    lex (renderSieveScript subject body startDate endDate (some address)) =
      (lineEnds subject).bind fun title => (lineEnds (newlines body ++ ['\n'])).bind fun read =>
        some (scriptTokens startDate endDate title address read) := by
  have startTruthy : truthy startDate = startDate := by
    cases startDate with
    | none => rfl
    | some date => exact truthy_some (starts date rfl).2
  have endTruthy : truthy endDate = endDate := by
    cases endDate with
    | none => rfl
    | some date => exact truthy_some (ends date rfl).2
  cases given : condition startDate endDate with
  | none =>
    obtain ⟨rfl, rfl⟩ : startDate = none ∧ endDate = none := by
      cases startDate <;> cases endDate <;> first | exact ⟨rfl, rfl⟩ | cases given
    have ran := (run_require (vacationStmt subject address body ++ "\n".toList)).trans
      (congrArg (emits requireTokens) (run_vacation plain subject body "\n".toList))
    rw [← rendered_always some_address] at ran
    unfold lex
    rw [ran]
    cases lineEnds subject with
    | none => rfl
    | some title =>
      cases lineEnds (newlines body ++ ['\n']) with
      | none => rfl
      | some read => rfl
  | some condition =>
    have inside : startDate.isSome || endDate.isSome := by
      cases startDate <;> cases endDate <;> first | rfl | cases given
    have closing : run .between "\n\x7d\n".toList = some (.between, [.mark '}']) := by
      rfl
    have first := fun date given => (starts date given).1
    have last := fun date given => (ends date given).1
    have ran := (run_require _).trans (congrArg (emits requireTokens)
      ((run_condition first last given (vacationStmt subject address body ++ "\n\x7d\n".toList)).trans
        (congrArg (emits (conditionTokens startDate endDate)) (run_vacation plain subject body "\n\x7d\n".toList))))
    have whole : Autoresponder.condition (truthy startDate) (truthy endDate) = some condition := by
      rw [startTruthy, endTruthy]
      exact given
    rw [← rendered_within some_address whole] at ran
    unfold lex scriptTokens
    rw [ran, if_pos inside, closing]
    cases lineEnds subject with
    | none => rfl
    | some title =>
      cases lineEnds (newlines body ++ ['\n']) with
      | none => rfl
      | some read =>
        simp [emits, vacationTokens, finish]

end

section
variable {host : Host} {params : Params} {checked : Checked} {text : List Char}

def isNameChar (c : Char) : Bool := isLower c || c.isDigit || c = '.' || c = '_' || c = '-' || c = '@'

theorem plain_of_names (names : ∀ c ∈ text, isNameChar c = true) : Plain text := by
  intro c member
  have name := names c member
  refine ⟨?_, ?_, ?_, ?_⟩ <;> rintro rfl <;> exact absurd name (by decide)

theorem domainRe_names (valid : domainRe text = true) : ∀ c ∈ text, isNameChar c = true := by
  intro c member
  obtain ⟨-, labels⟩ := Bool.and_eq_true_iff.mp valid
  rw [← @List.intercalate_splitOn _ text _ _ '.'] at member
  rcases Text.mem_intercalate member with rfl | ⟨label, listed, held⟩
  · rfl
  · have fits := List.all_eq_true.mp labels label listed
    unfold isLabel at fits
    simp only [Bool.and_eq_true] at fits
    have name := List.all_eq_true.mp fits.1.2 c held
    unfold isNameChar
    simp only [Bool.or_eq_true] at name ⊢
    rcases name with (letter | digit) | hyphen
    · simp [letter]
    · simp [digit]
    · simp [hyphen]

theorem localPartRe_names (valid : localPartRe text = true) : text ≠ [] ∧ ∀ c ∈ text, isNameChar c = true := by
  cases text with
  | nil => cases valid
  | cons first rest =>
    unfold localPartRe at valid
    simp only [Bool.and_eq_true] at valid
    obtain ⟨⟨letter, -⟩, others⟩ := valid
    refine ⟨List.cons_ne_nil first rest, fun c member => ?_⟩
    unfold isNameChar
    rcases List.mem_cons.mp member with rfl | later
    · simp [letter]
    · have name := List.all_eq_true.mp others c later
      simp only [Bool.or_eq_true] at name ⊢
      rcases name with (((lower | digit) | dot) | underscore) | hyphen
      · simp [lower]
      · simp [digit]
      · simp [dot]
      · simp [underscore]
      · simp [hyphen]

theorem dateRe_plain (valid : dateRe text = true) : Plain text ∧ text ≠ [] := by
  unfold dateRe at valid
  split at valid
  · next a b c d e f g h =>
    have digits := List.all_eq_true.mp valid
    refine ⟨plain_of_names fun char member => ?_, List.cons_ne_nil _ _⟩
    unfold isNameChar
    by_cases hyphen : char = '-'
    · simp [hyphen]
    · have digit : char ∈ [a, b, c, d, e, f, g, h] := by simpa [hyphen] using member
      simp [digits char digit]
  · cases valid

theorem optionalDate_ok {given found : Option (List Char)} (valid : optionalDate host given = .ok found) :
    ∀ date, found = some date → dateRe date = true := by
  unfold optionalDate at valid
  split at valid
  · next date _ =>
    unfold validateIsoDate at valid
    split at valid
    · cases valid
    · next shaped =>
      split at valid
      · cases valid
        rintro _ ⟨⟩
        exact Bool.of_not_eq_false shaped
      · cases valid
  · cases valid
    rintro _ ⟨⟩

/-- What a request that is accepted has passed. -/
theorem setAutoresponder_ok (accepted : setAutoresponder host params = .ok checked) :
    host.sievec checked.script = .ok () ∧ checked.subject = Text.trim Text.isSpace params.subject ∧
      checked.body = params.body ∧ domainRe checked.domain = true ∧ localPartRe checked.localPart = true ∧
      (∀ date, checked.startDate = some date → dateRe date = true) ∧
      ∀ date, checked.endDate = some date → dateRe date = true := by
  obtain ⟨passed, checks, compiled⟩ := Checks.bind_eq_ok.mp accepted
  split at compiled
  · next compiles =>
    cases Checks.pure_eq_ok.mp compiled
    obtain ⟨domain, validDomain, checks⟩ := Checks.bind_eq_ok.mp checks
    obtain ⟨localPart, validLocal, checks⟩ := Checks.bind_eq_ok.mp checks
    obtain ⟨_, _, checks⟩ := Checks.bind_eq_ok.mp checks
    obtain ⟨_, _, checks⟩ := Checks.bind_eq_ok.mp checks
    obtain ⟨startDate, validStart, checks⟩ := Checks.bind_eq_ok.mp checks
    obtain ⟨endDate, validEnd, checks⟩ := Checks.bind_eq_ok.mp checks
    obtain ⟨_, _, checks⟩ := Checks.bind_eq_ok.mp checks
    cases Checks.pure_eq_ok.mp checks
    have named : domainRe domain = true := by
      unfold validateDomain at validDomain
      dsimp only at validDomain
      split at validDomain
      · cases validDomain
      · split at validDomain
        · next matched =>
          cases validDomain
          exact matched
        · cases validDomain
    have boxed : localPartRe localPart = true := by
      unfold validateMailboxLocalPart at validLocal
      split at validLocal
      · next matched =>
        cases validLocal
        exact matched
      · cases validLocal
    exact ⟨compiles, rfl, rfl, named, boxed, optionalDate_ok validStart, optionalDate_ok validEnd⟩
  · cases compiled

/-- The text of a body, whose last line has an end as well. -/
def Checked.reason (checked : Checked) : List Char := newlines checked.body ++ ['\n']

def Checked.address (checked : Checked) : List Char := checked.localPart ++ "@".toList ++ checked.domain

def Checked.responder (checked : Checked) : List Command :=
  Autoresponder.responder checked.startDate checked.endDate (newlines checked.subject) checked.address checked.reason

theorem parse_script_iff (strict : ∀ text, host.sievec text = .ok () → (parse text).isSome)
    (accepted : setAutoresponder host params = .ok checked) :
    parse checked.script = some checked.responder ↔ Paired params.body := by
  obtain ⟨compiles, _, body, domain, localPart, starts, ends⟩ := setAutoresponder_ok accepted
  obtain ⟨some_local, localNames⟩ := localPartRe_names localPart
  have names : ∀ c ∈ checked.address, isNameChar c = true := by
    intro c member
    unfold Checked.address at member
    rw [List.append_assoc, List.mem_append] at member
    rcases member with inLocal | later
    · exact localNames c inLocal
    · rcases List.mem_append.mp later with at_sign | inDomain
      · rw [List.mem_singleton.mp at_sign]
        rfl
      · exact domainRe_names domain c inDomain
  have some_address : checked.address ≠ [] := by
    unfold Checked.address
    simp [some_local]
  have lexed := @lex_script checked.subject checked.body _ _ _ (plain_of_names names) some_address
    (fun date given => dateRe_plain (starts date given)) fun date given => dateRe_plain (ends date given)
  have parses := strict checked.script compiles
  unfold parse at parses ⊢
  unfold Checked.script at parses ⊢
  unfold Checked.address at lexed
  rw [lexed] at parses ⊢
  cases titled : lineEnds checked.subject with
  | none =>
    rw [titled] at parses
    cases parses
  | some title =>
    cases texted : lineEnds (newlines checked.body ++ ['\n']) with
    | none =>
      rw [titled, texted] at parses
      cases parses
    | some read =>
      have same := newlines_of_lineEnds titled
      rw [Option.bind_some, Option.bind_some, Option.bind_some, parseTokens_script, same]
      rw [Option.some.injEq]
      refine responder_inj.trans ?_
      rw [Checked.reason, lineEnds_eq_self_iff texted, paired_iff, ← body]
      simp

/-- A script that is accepted has the one action, with the subject and the text given, exactly if every carriage
return of the body stands before a line feed. -/
theorem script_means_iff (strict : ∀ text, host.sievec text = .ok () → (parse text).isSome)
    (accepted : setAutoresponder host params = .ok checked) :
    checked.subject = Text.trim Text.isSpace params.subject ∧ checked.body = params.body ∧
      (parse checked.script = some checked.responder ↔ Paired params.body) := by
  obtain ⟨_, subject, body, _⟩ := setAutoresponder_ok accepted
  exact ⟨subject, body, parse_script_iff strict accepted⟩

end

def grammarHost : Host where
  lower := id
  idna _ := true
  fromisoformat _ := true
  sievec text := if (parse text).isSome then .ok () else .error "error"

def awayParams (body : List Char) : Params where
  domain := "a.example".toList
  localPart := "john".toList
  subject := "Re: \"x\"".toList
  body
  startDate := some "2026-07-01".toList
  endDate := none

def awayChecked (body : List Char) : Checked where
  domain := "a.example".toList
  localPart := "john".toList
  subject := "Re: \"x\"".toList
  body
  startDate := some "2026-07-01".toList
  endDate := none

theorem grammarHost_strict (text : List Char) (compiles : grammarHost.sievec text = .ok ()) : (parse text).isSome := by
  unfold grammarHost at compiles
  dsimp only at compiles
  split at compiles
  · assumption
  · cases compiles

theorem script_means_iff_demo : parse (awayChecked "Away.\r\n.\r\nBye".toList).script =
    some (awayChecked "Away.\r\n.\r\nBye".toList).responder := by
  have accepted : setAutoresponder grammarHost (awayParams "Away.\r\n.\r\nBye".toList) =
      .ok (awayChecked "Away.\r\n.\r\nBye".toList) := by decide +kernel
  have paired : Paired (awayParams "Away.\r\n.\r\nBye".toList).body := paired_iff.mpr (by decide +kernel)
  exact (script_means_iff grammarHost_strict accepted).2.2.mpr paired

/-- A carriage return in front of a line end is lost. -/
theorem carriage_return_lost : ¬∀ (host : Host) (params : Params) (checked : Checked),
    (∀ text, host.sievec text = .ok () → (parse text).isSome) → setAutoresponder host params = .ok checked →
      parse checked.script = some checked.responder := by
  intro means
  have accepted : setAutoresponder grammarHost (awayParams "Away\r\r\nBye".toList) =
      .ok (awayChecked "Away\r\r\nBye".toList) := by decide +kernel
  have parsed := means grammarHost _ _ grammarHost_strict accepted
  have paired := paired_iff.mp ((parse_script_iff grammarHost_strict accepted).mp parsed)
  revert paired
  decide +kernel

end Boron.Autoresponder
