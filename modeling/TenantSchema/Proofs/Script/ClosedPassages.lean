import TenantSchema.Proofs.Script.Concatenation

namespace TenantSchema.Script

open Text

/-!
# Where no block is open

Lines leave no block open exactly if they are complete passages.  So every passage of a script
that can be cut into blocks is met outside every block.
-/

/-- Whether the line of a number is met outside every block: those before it leave none open. -/
def IsMetOutside
    (substitution : Substitution)
    (source : List Text)
    (lineNumber : Nat) :
    Prop :=
  stateAfter substitution .outside 1 (source.take (lineNumber - 1)) = .ok .outside

/--
Whether a passage stands in a script between the given lines.  It is met outside every block,
and lines follow it only if it is complete.
-/
structure Passage.StandsBetween
    (substitution : Substitution)
    (source before : List Text)
    (passage : Passage)
    (after : List Text) :
    Prop where
  split :
    source = before ++ passage.lines ++ after
  outside :
    stateAfter substitution .outside 1 before = .ok .outside
  whole :
    passage.IsComplete substitution.placeholder ∨ passage.IsCutShort ∧ after = []

section

variable
  {substitution : Substitution}
  {lineNumber : Nat}
  {source before after : List Text}
  {passages : List Passage}

theorem isMetOutside_iff
    (split : source = before ++ after) :
    IsMetOutside substitution source (before.length + 1) ↔
      stateAfter substitution .outside 1 before = .ok .outside := by
  rw [IsMetOutside, Nat.add_sub_cancel, split, List.take_left]

theorem stateAfter_cons_of_ok
    {state : ScanState}
    {progress : Progress}
    {line : Text}
    {rest : List Text}
    (reads : readLine substitution state lineNumber line = .ok progress) :
    stateAfter substitution state lineNumber (line :: rest) =
      stateAfter substitution progress.next (lineNumber + 1) rest := by
  rw [stateAfter, reads]

/-- Lines that only continue what is open lead to the state that they continue it to. -/
theorem Continues.stateAfter_append
    {state next : ScanState}
    {opening : List Text}
    (continues : Continues substitution state lineNumber opening next)
    (rest : List Text) :
    stateAfter substitution state lineNumber (opening ++ rest) =
      stateAfter substitution next (lineNumber + opening.length) rest := by
  induction continues with
  | nil =>
      rfl
  | cons reads _ inductionHypothesis =>
      rw [List.cons_append, stateAfter_cons_of_ok reads, Progress.continue,
        inductionHypothesis, List.length_cons, Nat.add_assoc, Nat.add_comm 1]

theorem Continues.stateAfter_eq
    {state next : ScanState}
    {opening : List Text}
    (continues : Continues substitution state lineNumber opening next) :
    stateAfter substitution state lineNumber opening = .ok next := by
  rw [← List.append_nil opening, continues.stateAfter_append, stateAfter]

theorem stateAfter_first
    {form : Form}
    {first : Text}
    (rest : List Text)
    (opens : LineClass.ofLine (statementLine first) = form.lineClass) :
    stateAfter substitution .outside lineNumber (first :: rest) =
      stateAfter substitution (form.opened lineNumber []) lineNumber (first :: rest) := by
  rw [stateAfter, stateAfter, readLine_first opens, readLine_opened]

/-- A definition is closed behind the line that closes it. -/
theorem stateAfter_definition
    {form : Form}
    {first : Text}
    {rest : List Text}
    (opens : LineClass.ofLine (statementLine first) = form.lineClass)
    (ends : EndsAt form.closes (first :: rest)) :
    stateAfter substitution .outside lineNumber (first :: rest) = .ok .outside := by
  obtain ⟨opening, last, split, closes, goesOn⟩ := ends
  rw [stateAfter_first _ opens, split, (continues_opened goesOn).stateAfter_append,
    stateAfter_cons_of_ok (readLine_opened _ _ _ _), closes]
  rfl

/-- A section is open behind its marker and lines that do not close it. -/
theorem stateAfter_marker
    {token marker : Text}
    {body : List Text}
    (opens : LineClass.ofLine (statementLine marker) = .sectionStart token)
    (goesOn : ∀ line ∈ body, isClosingMarker line = false) :
    stateAfter substitution .outside lineNumber (marker :: body) =
      .ok (sectionState lineNumber token body) := by
  have numbered : lineNumber + 1 = lineNumber + 1 + ([] : List Text).length := rfl
  rw [stateAfter_cons_of_ok (readLine_marker opens)]
  exact (continues_sectionState numbered goesOn).stateAfter_eq

/-- A section is closed behind the marker that closes it. -/
theorem stateAfter_delimited
    {token marker closing : Text}
    {body : List Text}
    (opens : LineClass.ofLine (statementLine marker) = .sectionStart token)
    (ends : EndsAt isClosingMarker (body ++ [closing])) :
    stateAfter substitution .outside lineNumber (marker :: (body ++ [closing])) =
      .ok .outside := by
  obtain ⟨closes, goesOn⟩ := endsAt_concat_iff.mp ends
  have numbered : lineNumber + (marker :: body).length = lineNumber + 1 + body.length := by
    rw [List.length_cons, Nat.add_assoc, Nat.add_comm 1]
  rw [← List.cons_append, stateAfter_append, stateAfter_marker opens goesOn]
  dsimp only [Except.bind]
  rw [stateAfter_cons_of_ok (readLine_sectionState _ _ _ _ numbered), closes]
  rfl

/-- A complete passage leaves no block open. -/
theorem Passage.IsComplete.stateAfter_lines
    {passage : Passage}
    (complete : passage.IsComplete substitution.placeholder) :
    stateAfter substitution .outside lineNumber passage.lines = .ok .outside := by
  cases passage with
  | skipped line =>
      exact stateAfter_cons_of_ok (readLine_skipped complete)
  | database line =>
      exact stateAfter_cons_of_ok (readLine_database complete)
  | insert line =>
      exact stateAfter_cons_of_ok (readLine_insert complete)
  | definition form first rest =>
      exact stateAfter_definition complete.1 complete.2
  | delimited token marker body closing =>
      exact stateAfter_delimited complete.1 complete.2

/-- Complete passages leave no block open. -/
theorem stateAfter_linesOf
    (complete : ∀ passage ∈ passages, passage.IsComplete substitution.placeholder) :
    stateAfter substitution .outside lineNumber (linesOf passages) = .ok .outside := by
  induction passages generalizing lineNumber with
  | nil =>
      rfl
  | cons passage rest inductionHypothesis =>
      rw [List.forall_mem_cons] at complete
      rw [linesOf, List.flatMap_cons, ← linesOf, stateAfter_append,
        complete.1.stateAfter_lines]
      exact inductionHypothesis complete.2

/-- What is left behind complete passages leaves a block open or cannot be read. -/
theorem Ending.eq_complete_of_stateAfter
    {ending : Ending}
    (ends : ending.Occurs substitution.placeholder)
    (closed : stateAfter substitution .outside lineNumber ending.lines = .ok .outside) :
    ending = .complete := by
  cases ending with
  | complete =>
      rfl
  | cutShort form first rest =>
      obtain ⟨opens, goesOn⟩ := ends
      rw [Ending.lines, stateAfter_first _ opens,
        (continues_opened goesOn).stateAfter_eq] at closed
      cases form <;> cases closed
  | withoutPlaceholder line rest =>
      obtain ⟨opens, lacks⟩ := ends
      rw [statementLine] at opens lacks
      simp only [Ending.lines, stateAfter, readLine, readOutside, opens, lacks,
        Bool.false_eq_true, if_false] at closed
      cases closed
  | openSection token marker body =>
      obtain ⟨opens, goesOn⟩ := ends
      rw [Ending.lines, stateAfter_marker opens goesOn] at closed
      cases body <;> cases closed

/-- Lines leave no block open exactly if they are complete passages. -/
theorem stateAfter_eq_outside_iff :
    stateAfter substitution .outside lineNumber source = .ok .outside ↔
      ∃ passages,
        source = linesOf passages ∧
          ∀ passage ∈ passages, passage.IsComplete substitution.placeholder := by
  constructor
  · intro closed
    obtain ⟨passages, ending, divides⟩ := exists_divides substitution.placeholder source
    rw [divides.covers, stateAfter_append, stateAfter_linesOf divides.complete] at closed
    obtain rfl := ending.eq_complete_of_stateAfter divides.ends closed
    exact ⟨passages, by rw [divides.covers, Ending.lines, List.append_nil], divides.complete⟩
  · rintro ⟨passages, rfl, complete⟩
    exact stateAfter_linesOf complete

/-- Complete passages can stand in front of a row of passages. -/
theorem Composes.append
    {placeholder : Text}
    {leading : List Passage}
    (composes : Composes placeholder source passages)
    (complete : ∀ passage ∈ leading, passage.IsComplete placeholder) :
    Composes placeholder (linesOf leading ++ source) (leading ++ passages) where
  covers := by
    rw [composes.covers, linesOf, linesOf, linesOf, List.flatMap_append]
  complete := by
    by_cases empty : passages = []
    · rw [empty, List.append_nil]
      exact fun passage member => complete passage (List.dropLast_subset _ member)
    · rw [List.dropLast_append_of_ne_nil empty]
      exact List.forall_mem_append.mpr ⟨complete, composes.complete⟩
  whole :=
    List.forall_mem_append.mpr
      ⟨fun passage member => .inl (complete passage member), composes.whole⟩

/-- Every passage of a row stands between the lines of those before and behind it. -/
theorem Composes.standsBetween
    {front back : List Passage}
    {passage : Passage}
    (composes : Composes substitution.placeholder source (front ++ passage :: back)) :
    passage.StandsBetween substitution source (linesOf front) (linesOf back) where
  split := by
    rw [composes.covers]
    simp [linesOf]
  outside := by
    have complete := composes.complete
    rw [List.dropLast_append_of_ne_nil (List.cons_ne_nil _ _), List.forall_mem_append]
      at complete
    exact stateAfter_linesOf complete.1
  whole := by
    rcases composes.whole passage (by simp) with complete | cut
    · exact .inl complete
    · exact .inr ⟨cut, by rw [composes.eq_nil_of_isCutShort cut]; rfl⟩

/-- A passage is met outside every block. -/
theorem Passage.StandsBetween.isMetOutside
    {passage : Passage}
    (stands : passage.StandsBetween substitution source before after) :
    IsMetOutside substitution source (before.length + 1) := by
  have split := stands.split
  rw [List.append_assoc] at split
  exact (isMetOutside_iff split).mpr stands.outside

end

end TenantSchema.Script
