import TenantSchema.Proofs.Script.Passages

namespace TenantSchema.Script

open Text

/-!
# The division of a script

The lines of every script are complete passages followed by an ending.  The ending tells how
the script ends: after a complete passage, inside a definition that no line closes, or with
one of the errors.  A script that can be cut into blocks is a row of passages of which at
most the last one is cut short.
-/

/-- Whether a passage is a definition that no line closes. -/
def Passage.IsCutShort : Passage → Prop
  | .definition form first rest =>
      LineClass.ofLine (statementLine first) = form.lineClass ∧
        ∀ line ∈ first :: rest, form.closes line = false
  | .skipped _ | .database _ | .insert _ | .delimited .. =>
      False

/-- Whether a passage can stand in a script that is cut into blocks. -/
def Passage.IsWhole (placeholder : Text) (passage : Passage) : Prop :=
  passage.IsComplete placeholder ∨ passage.IsCutShort

/-- What is left of a script after complete passages. -/
inductive Ending where
  | complete
  /-- A definition that no line closes. -/
  | cutShort (form : Form) (first : Text) (rest : List Text)
  /-- A line that creates a database without the placeholder, and what follows it. -/
  | withoutPlaceholder (line : Text) (rest : List Text)
  /-- A section that no marker closes. -/
  | openSection (token marker : Text) (body : List Text)
  deriving Repr, DecidableEq

namespace Ending

/-- The lines of an ending. -/
def lines : Ending → List Text
  | .complete =>
      []
  | .cutShort _ first rest | .withoutPlaceholder first rest =>
      first :: rest
  | .openSection _ marker body =>
      marker :: body

/-- Whether the lines of an ending are what it says they are. -/
def Occurs (placeholder : Text) : Ending → Prop
  | .complete =>
      True
  | .cutShort form first rest =>
      (Passage.definition form first rest).IsCutShort
  | .withoutPlaceholder line _ =>
      LineClass.ofLine (statementLine line) = .database ∧
        occursIn placeholder (statementLine line) = false
  | .openSection token marker body =>
      LineClass.ofLine (statementLine marker) = .sectionStart token ∧
        ∀ line ∈ body, isClosingMarker line = false

/-- The scan of an ending whose first line has the given number. -/
def scan (placeholder : Text) (lineNumber : Nat) : Ending → Scan
  | .complete =>
      finish .outside
  | .cutShort form first rest =>
      .cutShort form.kind lineNumber ((first :: rest).map unquoteIdentifiers)
  | .withoutPlaceholder _ _ =>
      .stop .outside (.missingPlaceholder lineNumber placeholder)
  | .openSection token _ body =>
      finish (sectionState lineNumber token body)

end Ending

/-- Lines that are complete passages and an ending. -/
structure Divides
    (placeholder : Text)
    (source : List Text)
    (passages : List Passage)
    (ending : Ending) :
    Prop where
  covers :
    source = linesOf passages ++ ending.lines
  complete :
    ∀ passage ∈ passages, passage.IsComplete placeholder
  ends :
    ending.Occurs placeholder

/-- A row of passages of which at most the last one is cut short. -/
structure Composes
    (placeholder : Text)
    (source : List Text)
    (passages : List Passage) :
    Prop where
  covers :
    source = linesOf passages
  complete :
    ∀ passage ∈ passages.dropLast, passage.IsComplete placeholder
  whole :
    ∀ passage ∈ passages, passage.IsWhole placeholder

theorem Passage.not_isCutShort_of_isComplete
    {placeholder : Text}
    {passage : Passage}
    (complete : passage.IsComplete placeholder) :
    ¬ passage.IsCutShort := by
  cases passage with
  | skipped | database | insert | delimited =>
      exact id
  | definition form first rest =>
      rintro ⟨_, goesOn⟩
      obtain ⟨_, opening, last, split, closes, _⟩ := complete
      rw [goesOn last (by rw [split]; simp)] at closes
      cases closes

/-- Only the last passage of a script is cut short. -/
theorem Composes.eq_nil_of_isCutShort
    {placeholder : Text}
    {source : List Text}
    {front back : List Passage}
    {passage : Passage}
    (composes : Composes placeholder source (front ++ passage :: back))
    (cut : passage.IsCutShort) :
    back = [] := by
  by_contra more
  have earlier : passage ∈ (front ++ passage :: back).dropLast := by
    rw [List.dropLast_append_of_ne_nil (List.cons_ne_nil _ _),
      List.dropLast_cons_of_ne_nil more]
    simp
  exact Passage.not_isCutShort_of_isComplete (composes.complete passage earlier) cut

theorem Passage.length_lines_pos
    (passage : Passage) :
    0 < passage.lines.length := by
  cases passage <;>
    simp [Passage.lines]

section

variable
  {substitution : Substitution}
  {placeholder : Text}
  {lineNumber : Nat}

/-- Lines end where a test first accepts one, or it accepts none of them. -/
theorem exists_endsAt
    (test : Text → Bool)
    (source : List Text) :
    (∀ line ∈ source, test line = false) ∨
      ∃ opening last later,
        source = opening ++ [last] ++ later ∧ EndsAt test (opening ++ [last]) := by
  induction source with
  | nil =>
      left
      intro line member
      cases member
  | cons line rest inductionHypothesis =>
      by_cases accepts : test line = true
      · right
        have noneBefore : ∀ earlier ∈ ([] : List Text), test earlier = false := by
          intro earlier member
          cases member
        exact ⟨[], line, rest, rfl, [], line, rfl, accepts, noneBefore⟩
      · have refuses : test line = false := by
          rw [Bool.eq_false_iff]
          exact accepts
        rcases inductionHypothesis with refusesAll |
          ⟨opening, last, later, split, opening', last', sameLines, ends, refusesAll⟩
        · left
          exact List.forall_mem_cons.mpr ⟨refuses, refusesAll⟩
        · right
          refine ⟨line :: opening, last, later, ?_, line :: opening', last', ?_, ends, ?_⟩
          · rw [split, List.cons_append, List.cons_append]
          · rw [List.cons_append, List.cons_append, sameLines]
          · exact List.forall_mem_cons.mpr ⟨refuses, refusesAll⟩

theorem Divides.cons
    {passage : Passage}
    {passages : List Passage}
    {ending : Ending}
    {later : List Text}
    (complete : passage.IsComplete placeholder)
    (divides : Divides placeholder later passages ending) :
    Divides placeholder (passage.lines ++ later) (passage :: passages) ending where
  covers := by
    rw [divides.covers, linesOf, linesOf, List.flatMap_cons, List.append_assoc]
  complete :=
    List.forall_mem_cons.mpr ⟨complete, divides.complete⟩
  ends := divides.ends

theorem Divides.of_ending
    {ending : Ending}
    (ends : ending.Occurs placeholder) :
    Divides placeholder ending.lines [] ending where
  covers := rfl
  complete := by
    intro passage member
    cases member
  ends := ends

/-- The first passage of a script that is not empty, unless the script is an ending. -/
theorem exists_passage_or_ending
    (placeholder line : Text)
    (rest : List Text) :
    (∃ ending : Ending, line :: rest = ending.lines ∧ ending.Occurs placeholder) ∨
      ∃ passage : Passage, ∃ later,
        line :: rest = passage.lines ++ later ∧ passage.IsComplete placeholder := by
  have definition
      (form : Form)
      (opens : LineClass.ofLine (statementLine line) = form.lineClass) :
      (∃ ending : Ending, line :: rest = ending.lines ∧ ending.Occurs placeholder) ∨
        ∃ passage : Passage, ∃ later,
          line :: rest = passage.lines ++ later ∧ passage.IsComplete placeholder := by
    rcases exists_endsAt form.closes (line :: rest) with goesOn |
      ⟨opening, last, later, split, ends⟩
    · exact .inl ⟨.cutShort form line rest, rfl, opens, goesOn⟩
    · right
      cases opening with
      | nil =>
          obtain ⟨rfl, rfl⟩ := List.cons.inj split
          exact ⟨.definition form line [], rest, rfl, opens, ends⟩
      | cons first others =>
          obtain ⟨rfl, rfl⟩ := List.cons.inj split
          exact ⟨.definition form line (others ++ [last]), later, rfl, opens, ends⟩
  cases opens : LineClass.ofLine (statementLine line) with
  | silent | ignored | remark =>
      right
      refine ⟨.skipped line, rest, rfl, ?_⟩
      rw [Passage.IsComplete, opens]
      decide
  | database =>
      cases carries : occursIn placeholder (statementLine line) with
      | true =>
          exact .inr ⟨.database line, rest, rfl, opens, carries⟩
      | false =>
          exact .inl ⟨.withoutPlaceholder line rest, rfl, opens, carries⟩
  | table =>
      exact definition .table opens
  | statement =>
      exact definition .statement opens
  | sectionStart token =>
      rcases exists_endsAt isClosingMarker rest with goesOn |
        ⟨body, closing, later, split, ends⟩
      · exact .inl ⟨.openSection token line rest, rfl, opens, goesOn⟩
      · right
        refine ⟨.delimited token line body closing, later, ?_, opens, ends⟩
        rw [split, Passage.lines, List.cons_append]
  | insert =>
      exact .inr ⟨.insert line, rest, rfl, opens⟩

/-- Every script is complete passages and an ending. -/
theorem exists_divides
    (placeholder : Text)
    (source : List Text) :
    ∃ passages ending, Divides placeholder source passages ending := by
  induction size : source.length using Nat.strongRecOn generalizing source with
  | ind _ inductionHypothesis =>
      cases source with
      | nil =>
          have ends : Ending.complete.Occurs placeholder := trivial
          exact ⟨[], .complete, .of_ending ends⟩
      | cons line rest =>
          rcases exists_passage_or_ending placeholder line rest with
            ⟨ending, isEnding, ends⟩ | ⟨passage, later, split, complete⟩
          · rw [isEnding]
            exact ⟨[], ending, .of_ending ends⟩
          · -- A passage takes a line at least, so what is left to divide gets shorter.
            have nonempty := passage.length_lines_pos
            rw [split, List.length_append] at size
            obtain ⟨passages, ending, divides⟩ :=
              inductionHypothesis later.length (by omega) later rfl
            rw [split]
            exact ⟨passage :: passages, ending, divides.cons complete⟩

/-- The scan of an ending. -/
theorem scanLines_ending
    {ending : Ending}
    (ends : ending.Occurs substitution.placeholder) :
    scanLines substitution .outside lineNumber ending.lines =
      ending.scan substitution.placeholder lineNumber := by
  cases ending with
  | complete =>
      rfl
  | cutShort form first rest =>
      obtain ⟨opens, goesOn⟩ := ends
      rw [Ending.lines, scanLines_first _ opens, ← List.append_nil (first :: rest),
        (continues_opened goesOn).scanLines_append, List.nil_append]
      cases form <;> rfl
  | withoutPlaceholder line rest =>
      obtain ⟨opens, lacks⟩ := ends
      rw [statementLine] at opens lacks
      simp only [Ending.lines, scanLines, readLine, readOutside, opens, lacks,
        Bool.false_eq_true, if_false]
      rfl
  | openSection token marker body =>
      obtain ⟨opens, goesOn⟩ := ends
      have numbered : lineNumber + 1 = lineNumber + 1 + ([] : List Text).length := rfl
      rw [Ending.lines, scanLines_cons_of_continue (readLine_marker opens),
        ← List.append_nil body, (continues_sectionState numbered goesOn).scanLines_append]
      simp [scanLines, Ending.scan]

/-- The scan of a script is what its passages lead to and the scan of its ending. -/
theorem scanLines_of_divides
    {source : List Text}
    {passages : List Passage}
    {ending : Ending}
    (divides : Divides substitution.placeholder source passages ending) :
    scanLines substitution .outside lineNumber source =
      let rest :=
        ending.scan substitution.placeholder (lineNumber + (linesOf passages).length)
      { rest with
        drafts := draftsOf substitution lineNumber passages ++ rest.drafts
        notes := notesOf lineNumber passages ++ rest.notes } := by
  rw [divides.covers, scanLines_passages _ divides.complete, scanLines_ending divides.ends]

/-- The blocks of a script are those of its passages and its ending, unless that fails. -/
theorem blocks_of_divides
    {script : Text}
    {passages : List Passage}
    {ending : Ending}
    (divides : Divides substitution.placeholder (Text.lines script) passages ending) :
    (read substitution script).blocks =
      let rest := ending.scan substitution.placeholder (1 + (linesOf passages).length)
      match rest.failure with
      | some failure =>
          .error failure
      | none =>
          .ok (numberDrafts 0 (draftsOf substitution 1 passages ++ rest.drafts)) := by
  rw [read, scanLines_of_divides divides]
  dsimp only
  cases (ending.scan substitution.placeholder (1 + (linesOf passages).length)).failure with
  | none | some _ =>
      rfl

/-- Complete passages can be cut into blocks. -/
theorem blocks_of_complete
    {script : Text}
    {passages : List Passage}
    (divides : Divides substitution.placeholder (Text.lines script) passages .complete) :
    (read substitution script).blocks =
      .ok (numberDrafts 0 (draftsOf substitution 1 passages)) := by
  simpa [Ending.scan, finish] using blocks_of_divides divides

theorem draftsOf_append
    (passages later : List Passage) :
    draftsOf substitution lineNumber (passages ++ later) =
      draftsOf substitution lineNumber passages ++
        draftsOf substitution (lineNumber + (linesOf passages).length) later := by
  induction passages generalizing lineNumber with
  | nil =>
      rfl
  | cons passage others inductionHypothesis =>
      rw [List.cons_append, draftsOf, draftsOf, inductionHypothesis, List.append_assoc,
        linesOf, linesOf, List.flatMap_cons, List.length_append, Nat.add_assoc]

/-- Lines that are scanned without an error are a row of passages and have the blocks of those. -/
theorem exists_composes_of_scan
    {source : List Text}
    (reads : (scanLines substitution .outside lineNumber source).failure = none) :
    ∃ passages,
      Composes substitution.placeholder source passages ∧
        (scanLines substitution .outside lineNumber source).drafts =
          draftsOf substitution lineNumber passages := by
  obtain ⟨passages, ending, divides⟩ := exists_divides substitution.placeholder source
  rw [scanLines_of_divides divides] at reads ⊢
  cases ending with
  | complete =>
      refine ⟨passages, ⟨?_, ?_, ?_⟩, List.append_nil _⟩
      · rw [divides.covers, Ending.lines, List.append_nil]
      · exact fun passage member => divides.complete passage (List.dropLast_subset _ member)
      · exact fun passage member => .inl (divides.complete passage member)
  | cutShort form first rest =>
      refine ⟨passages ++ [.definition form first rest], ⟨?_, ?_, ?_⟩, ?_⟩
      · rw [divides.covers, linesOf, linesOf, List.flatMap_append, List.flatMap_singleton]
        rfl
      · rw [List.dropLast_concat]
        exact divides.complete
      · intro passage member
        rcases List.mem_append.mp member with earlier | isLast
        · exact .inl (divides.complete passage earlier)
        · rw [List.mem_singleton.mp isLast]
          exact .inr divides.ends
      · rw [draftsOf_append, Ending.scan, Scan.cutShort, closeBlock_definition divides.ends.1]
        rfl
  | withoutPlaceholder line rest =>
      cases reads
  | openSection token marker body =>
      cases body with
      | nil | cons =>
          cases reads

/-- A script that can be cut into blocks is a row of passages and has the blocks of those. -/
theorem exists_composes_of_read
    {script : Text}
    {blocks : List Block}
    (readable : (read substitution script).blocks = .ok blocks) :
    ∃ passages,
      Composes substitution.placeholder (Text.lines script) passages ∧
        blocks = numberDrafts 0 (draftsOf substitution 1 passages) := by
  obtain ⟨noFailure, rfl⟩ := blocks_eq_ok_iff.mp readable
  obtain ⟨passages, composes, drafts⟩ := exists_composes_of_scan noFailure
  exact ⟨passages, composes, congrArg (numberDrafts 0) drafts⟩

end

end TenantSchema.Script
