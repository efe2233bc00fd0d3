import TenantSchema.Proofs.Text.JoinedLines

namespace TenantSchema.Text

/-!
# Translated newlines

Reading a file leaves newlines in the place of carriage returns.  Those with a newline behind them
are replaced together with it, and then all others, so that no carriage return is left.  What ended
a line still ends one: the text has the lines that it had before.
-/

/-- Where the first character of a part does not stand, nothing is replaced. -/
theorem replaceAll_cons_of_ne
    {expected character : Char}
    (other : expected ≠ character)
    (part replacement rest : Text) :
    replaceAll (expected :: part) replacement (character :: rest) =
      character :: replaceAll (expected :: part) replacement rest := by
  have differs : startsWith (expected :: part) (character :: rest) = false := by
    rw [startsWith, dropLead?, if_neg other]
    rfl
  rw [replaceAll, replaceFrom, differs]
  rfl

/-- A carriage return without a newline behind it is left alone at first. -/
theorem replaceAll_pair_of_single
    {rest : Text}
    (single : ∀ later, rest = '\n' :: later → False) :
    replaceAll ['\r', '\n'] ['\n'] ('\r' :: rest) =
      '\r' :: replaceAll ['\r', '\n'] ['\n'] rest := by
  have alone : startsWith ['\r', '\n'] ('\r' :: rest) = false := by
    cases rest with
    | nil =>
        rfl
    | cons next others =>
        have other : '\n' ≠ next := by
          rintro rfl
          exact single others rfl
        rw [startsWith, dropLead?, if_pos rfl, dropLead?, if_neg other]
        rfl
  rw [replaceAll, replaceFrom, alone]
  rfl

/-- Pairs of carriage return and newline are replaced first, then what is left of the former. -/
theorem translateNewlines_eq_replaceAll (text : Text) :
    translateNewlines text =
      replaceAll ['\r'] ['\n'] (replaceAll ['\r', '\n'] ['\n'] text) := by
  fun_induction translateNewlines text with
  | case1 =>
      rfl
  | case2 rest inductionHypothesis =>
      have pair :
          replaceAll ['\r', '\n'] ['\n'] ('\r' :: '\n' :: rest) =
            '\n' :: replaceAll ['\r', '\n'] ['\n'] rest :=
        rfl
      rw [pair, replaceAll_cons_of_ne (by decide), inductionHypothesis]
  | case3 rest single inductionHypothesis =>
      have lone (later : Text) :
          replaceAll ['\r'] ['\n'] ('\r' :: later) = '\n' :: replaceAll ['\r'] ['\n'] later :=
        rfl
      rw [replaceAll_pair_of_single fun later => single later rfl, lone, inductionHypothesis]
  | case4 character rest single other inductionHypothesis =>
      rw [replaceAll_cons_of_ne (Ne.symm other), replaceAll_cons_of_ne (Ne.symm other),
        inductionHypothesis]

/-- No carriage return is left. -/
theorem not_mem_translateNewlines (text : Text) :
    '\r' ∉ translateNewlines text := by
  fun_induction translateNewlines text with
  | case1 =>
      exact List.not_mem_nil
  | case2 rest inductionHypothesis | case3 rest _ inductionHypothesis =>
      rw [List.mem_cons, not_or]
      exact ⟨by decide, inductionHypothesis⟩
  | case4 character rest _ other inductionHypothesis =>
      rw [List.mem_cons, not_or]
      exact ⟨Ne.symm other, inductionHypothesis⟩

/-- A boundary of one character ends the line in front of it. -/
theorem lines_cons_of_isLineBreak
    {character : Char}
    {rest : Text}
    (single : ∀ later, character = '\r' → rest = '\n' :: later → False)
    (breaks : isLineBreak character = true) :
    lines (character :: rest) = [] :: lines rest := by
  rw [lines.eq_3 _ _ single, if_pos breaks]

/-- Translating newlines leaves the lines of a text as they are. -/
theorem lines_translateNewlines (text : Text) :
    lines (translateNewlines text) = lines text := by
  have newline (rest : Text) : lines ('\n' :: rest) = [] :: lines rest :=
    lines_cons_of_isLineBreak (by rintro _ ⟨⟩) rfl
  fun_induction translateNewlines text with
  | case1 =>
      rfl
  | case2 rest inductionHypothesis =>
      rw [newline, inductionHypothesis, lines]
  | case3 rest single inductionHypothesis =>
      rw [newline, inductionHypothesis, lines_cons_of_isLineBreak single rfl]
  | case4 character rest single other inductionHypothesis =>
      have stillSingle (later : Text) (isReturn : character = '\r') :
          translateNewlines rest = '\n' :: later → False :=
        (other isReturn).elim
      rw [lines.eq_3 _ _ stillSingle, lines.eq_3 _ _ single, inductionHypothesis]

end TenantSchema.Text
