import Mathlib.Data.List.Forall2
import TenantSchema.Proofs.Script.ClosedPassages
import TenantSchema.Proofs.Script.LineClasses

namespace TenantSchema.Script

open Text

/-!
# Where the text of a script goes

Every block of a script is made from lines that stand together in it, and no line is in two
blocks.  The lines of a passage that has a block are its stretch; a section gives its body
without the two markers, and every line of the body without the delimiter at its end.  A line
outside every stretch is met outside every block and starts no statement, or it is a marker,
or it belongs to a section in which nothing but delimiters is left.
-/

/-- Lines that stand together; `first` is the number of the first of them. -/
structure Stretch where
  first : Nat
  lines : List Text
  deriving Repr, DecidableEq

namespace Stretch

/-- The number of the line after a stretch. -/
def next (stretch : Stretch) : Nat :=
  stretch.first + stretch.lines.length

/-- Whether the line with a number belongs to a stretch. -/
def Holds (stretch : Stretch) (lineNumber : Nat) : Prop :=
  stretch.first ≤ lineNumber ∧ lineNumber < stretch.next

/-- Whether the lines of a stretch have their numbers in the script. -/
def IsPartOf (source : List Text) (stretch : Stretch) : Prop :=
  stretch.lines ≠ [] ∧
    ∃ before after,
      source = before ++ stretch.lines ++ after ∧ stretch.first = before.length + 1

/--
Whether a stretch is all that stands between the two markers of a section with a delimiter of
its own.  The first marker is met outside every block, and the second one is the next marker
that gives the ordinary delimiter back.
-/
def IsBody
    (substitution : Substitution)
    (source : List Text)
    (token : Text)
    (stretch : Stretch) :
    Prop :=
  ∃ before marker closing after,
    source = before ++ (marker :: (stretch.lines ++ [closing])) ++ after ∧
      stretch.first = before.length + 2 ∧
      IsMetOutside substitution source (before.length + 1) ∧
      delimiterToken? (statementLine marker) = some token ∧
      token ≠ ordinaryDelimiter ∧
      isClosingMarker closing = true ∧
      ∀ line ∈ stretch.lines, isClosingMarker line = false

/--
Whether a stretch ends like a definition of a form: with the first line that closes it, or with
the script if no line does.
-/
def EndsLike (source : List Text) (form : Form) (stretch : Stretch) : Prop :=
  EndsAt form.closes stretch.lines ∨
    (∀ line ∈ stretch.lines, form.closes line = false) ∧
      stretch.next = source.length + 1

end Stretch

/-- What a section keeps of a line: all of it, or what stands before the delimiter at its end. -/
inductive LosesDelimiter (token : Text) : Text → Text → Prop
  | ended
      {line kept : Text}
      (ends : trimRight line = kept ++ token) :
      LosesDelimiter token line (trimRight kept)
  | whole
      {line : Text}
      (noEnd : ∀ kept, trimRight line ≠ kept ++ token) :
      LosesDelimiter token line line

/--
How the kind and the text of a block are made from the lines of a stretch.  The lines of a
section are transcribed in one way only, because none of them is met outside every block.
-/
inductive Transcribes
    (substitution : Substitution)
    (source : List Text)
    (stretch : Stretch) :
    Kind → Text → Prop
  | database
      {line : Text}
      (outside : IsMetOutside substitution source stretch.first)
      (single : stretch.lines = [line])
      (creates : CreatesDatabase substitution.placeholder line) :
      Transcribes substitution source stretch .createDatabase
        (replaceAll substitution.placeholder substitution.target
          (trim (unquoteIdentifiers line)))
  | insert
      {line : Text}
      (outside : IsMetOutside substitution source stretch.first)
      (single : stretch.lines = [line])
      (inserts : LineClass.ofLine (statementLine line) = .insert) :
      Transcribes substitution source stretch .insert (trim (unquoteIdentifiers line))
  | definition
      {form : Form}
      {first : Text}
      {rest : List Text}
      (outside : IsMetOutside substitution source stretch.first)
      (lines : stretch.lines = first :: rest)
      (opens : LineClass.ofLine (statementLine first) = form.lineClass)
      (ends : stretch.EndsLike source form) :
      Transcribes substitution source stretch form.kind
        (blockText (stretch.lines.map unquoteIdentifiers))
  | delimited
      {token : Text}
      {kept : List Text}
      (body : stretch.IsBody substitution source token)
      (loses :
        List.Forall₂ (LosesDelimiter token) (stretch.lines.map unquoteIdentifiers) kept)
      (solid : ∃ line ∈ kept, allBlank line = false) :
      Transcribes substitution source stretch (bodyKind stretch.lines) (blockText kept)

/-- Whether a line belongs to the body of a section in which nothing but delimiters is left. -/
def IsInEmptySection
    (substitution : Substitution)
    (source : List Text)
    (lineNumber : Nat) :
    Prop :=
  ∃ (token : Text) (stretch : Stretch),
    stretch.IsBody substitution source token ∧
      stretch.Holds lineNumber ∧
      ∀ inner ∈ stretch.lines,
        ∃ kept,
          LosesDelimiter token (unquoteIdentifiers inner) kept ∧ allBlank kept = true

/-- Whether a line of a script may be in no block. -/
inductive IsLeftOut
    (substitution : Substitution)
    (source : List Text)
    (lineNumber : Nat)
    (line : Text) :
    Prop
  | noStatement
      (outside : IsMetOutside substitution source lineNumber)
      (noCreate : startsWithCapitals "CREATE".toList (statementLine line) = false)
      (noInsert : startsWithCapitals "INSERT INTO".toList (statementLine line) = false)
  | marker
      {token : Text}
      (marks : delimiterToken? (statementLine line) = some token)
  | emptySection
      (inside : IsInEmptySection substitution source lineNumber)

/--
Where a line of a passage stands if it is in no stretch; `first` is the number of the first
line of the passage.
-/
inductive StandsOutside
    (substitution : Substitution)
    (source : List Text)
    (first : Nat)
    (line : Text) :
    Nat → Passage → Prop
  | skipped
      (outside : IsMetOutside substitution source first) :
      StandsOutside substitution source first line first (.skipped line)
  | marker
      {lineNumber : Nat}
      {passage : Passage}
      {token : Text}
      (marks : delimiterToken? (statementLine line) = some token) :
      StandsOutside substitution source first line lineNumber passage
  | emptySection
      {lineNumber : Nat}
      {passage : Passage}
      (inside : IsInEmptySection substitution source lineNumber) :
      StandsOutside substitution source first line lineNumber passage

/-- What it means that blocks are made from stretches of a script. -/
structure Conserves
    (substitution : Substitution)
    (source : List Text)
    (blocks : List Block)
    (stretches : List Stretch) :
    Prop where
  parts :
    ∀ stretch ∈ stretches, stretch.IsPartOf source
  ordered :
    stretches.Pairwise fun earlier later => earlier.next ≤ later.first
  transcribed :
    List.Forall₂
      (fun block stretch =>
        block.lineNumber = stretch.first ∧
          Transcribes substitution source stretch block.kind block.text)
      blocks stretches
  others :
    ∀ before line after,
      source = before ++ line :: after →
      (∀ stretch ∈ stretches, ¬ stretch.Holds (before.length + 1)) →
      IsLeftOut substitution source (before.length + 1) line

theorem losesDelimiter_bodyLine
    (token line : Text) :
    LosesDelimiter token (unquoteIdentifiers line) (bodyLine token line) := by
  unfold bodyLine dropTrailingDelimiter endsWith
  dsimp only
  split
  case isTrue ends =>
    obtain ⟨kept, sameText⟩ := List.isSuffixOf_iff_suffix.mp ends
    rw [← sameText, List.length_append, Nat.add_sub_cancel, List.take_left]
    exact .ended sameText.symm
  case isFalse noEnd =>
    apply LosesDelimiter.whole
    intro kept sameText
    apply noEnd
    rw [sameText, List.isSuffixOf_iff_suffix]
    exact List.suffix_append kept token

theorem forall₂_losesDelimiter_bodyLine
    (token : Text)
    (lines : List Text) :
    List.Forall₂ (LosesDelimiter token) (lines.map unquoteIdentifiers)
      (lines.map (bodyLine token)) := by
  rw [List.forall₂_map_left_iff, List.forall₂_map_right_iff, List.forall₂_same]
  exact fun line _ => losesDelimiter_bodyLine token line

/-- A section keeps of a line what its delimiter decides. -/
theorem LosesDelimiter.unique
    {token line first second : Text}
    (losesFirst : LosesDelimiter token line first)
    (losesSecond : LosesDelimiter token line second) :
    first = second := by
  cases losesFirst with
  | ended firstEnds =>
      cases losesSecond with
      | ended secondEnds =>
          rw [firstEnds] at secondEnds
          rw [List.append_cancel_right secondEnds]
      | whole noEnd =>
          exact (noEnd _ firstEnds).elim
  | whole noEnd =>
      cases losesSecond with
      | ended secondEnds =>
          exact (noEnd _ secondEnds).elim
      | whole =>
          rfl

section

variable
  {substitution : Substitution}
  {source : List Text}
  {token : Text}
  {stretch : Stretch}

/-- Neither a line of a section nor the marker that closes it is met outside every block. -/
theorem Stretch.IsBody.not_isMetOutside
    {lineNumber : Nat}
    (body : stretch.IsBody substitution source token)
    (behind : stretch.first ≤ lineNumber)
    (ahead : lineNumber ≤ stretch.next) :
    ¬ IsMetOutside substitution source lineNumber := by
  obtain ⟨before, marker, closing, after, split, first, outside, marks, custom, _, goesOn⟩ :=
    body
  obtain ⟨opening, rest, lines, number⟩ :
      ∃ opening rest,
        stretch.lines = opening ++ rest ∧ lineNumber = stretch.first + opening.length := by
    refine ⟨stretch.lines.take (lineNumber - stretch.first), _,
      (List.take_append_drop _ _).symm, ?_⟩
    rw [List.length_take]
    unfold Stretch.next at ahead
    omega
  rw [lines] at split goesOn
  have splitHere :
      source = (before ++ marker :: opening) ++ (rest ++ [closing] ++ after) := by
    rw [split]
    simp
  have numberHere : lineNumber = (before ++ marker :: opening).length + 1 := by
    rw [number, first, List.length_append, List.length_cons]
    omega
  have opened :
      stateAfter substitution .outside (1 + before.length) (marker :: opening) =
        .ok (sectionState (1 + before.length) token opening) :=
    stateAfter_marker (ofLine_of_marker marks custom)
      (fun line member => goesOn line (List.mem_append_left _ member))
  rw [List.append_assoc] at split
  rw [isMetOutside_iff split] at outside
  intro met
  rw [numberHere, isMetOutside_iff splitHere, stateAfter_append, outside] at met
  have nothingOpen := opened.symm.trans met
  cases opening <;> cases nothingOpen

/-- The delimiter of a section is told by where the section stands. -/
theorem Stretch.IsBody.token_unique
    {otherToken : Text}
    (body : stretch.IsBody substitution source token)
    (otherBody : stretch.IsBody substitution source otherToken) :
    token = otherToken := by
  obtain ⟨before, marker, closing, after, split, first, _, marks, _⟩ := body
  obtain ⟨others, otherMarker, otherClosing, later, otherSplit, otherFirst, _, otherMarks, _⟩ :=
    otherBody
  have sameLength : before.length = others.length := by
    omega
  rw [split, List.append_assoc, List.append_assoc] at otherSplit
  have sameMarker := (List.append_inj otherSplit sameLength).2
  rw [List.cons_append, List.cons_append] at sameMarker
  rw [(List.cons.inj sameMarker).1, otherMarks] at marks
  exact (Option.some.inj marks).symm

/-- A block that is made from the body of a section has its lines without the delimiter. -/
theorem Transcribes.of_isBody
    {kind : Kind}
    {text : Text}
    (transcribes : Transcribes substitution source stretch kind text)
    (body : stretch.IsBody substitution source token) :
    kind = bodyKind stretch.lines ∧
      text = blockText (stretch.lines.map (bodyLine token)) := by
  cases transcribes with
  | database outside | insert outside | definition outside =>
      exact (body.not_isMetOutside (Nat.le_refl _) (Nat.le_add_right _ _) outside).elim
  | @delimited otherToken kept otherBody loses =>
      obtain rfl := body.token_unique otherBody
      have decides : Relator.RightUnique (LosesDelimiter token) :=
        fun _ _ _ => LosesDelimiter.unique
      have sameLines : kept = stretch.lines.map (bodyLine token) :=
        decides.forall₂ loses (forall₂_losesDelimiter_bodyLine token stretch.lines)
      rw [sameLines]
      exact ⟨rfl, rfl⟩

end

namespace Passage

/-- The lines of a passage that its block is made from; its first line has the given number. -/
def stretch? (lineNumber : Nat) : Passage → Option Stretch
  | .skipped _ =>
      none
  | .database line | .insert line =>
      some { first := lineNumber, lines := [line] }
  | .definition _ first rest =>
      some { first := lineNumber, lines := first :: rest }
  | .delimited token _ body _ =>
      if ∀ line ∈ body, allBlank (bodyLine token line) = true then
        none
      else
        some { first := lineNumber + 1, lines := body }

section

variable
  {substitution : Substitution}
  {source before after : List Text}
  {passage : Passage}
  {stretch : Stretch}

/-- The stretch of a passage lies among the lines of the passage. -/
theorem bounds_of_stretch?
    {lineNumber : Nat}
    (found : passage.stretch? lineNumber = some stretch) :
    lineNumber ≤ stretch.first ∧ stretch.next ≤ lineNumber + passage.lines.length := by
  cases passage with
  | skipped line =>
      cases found
  | database line | insert line | definition form first rest =>
      cases found
      exact ⟨Nat.le_refl _, Nat.le_refl _⟩
  | delimited token marker body closing =>
      rw [stretch?] at found
      split at found
      · cases found
      · cases found
        simp only [Stretch.next, lines, List.length_cons, List.length_append]
        omega

theorem isPartOf_of_stretch?
    (split : source = before ++ passage.lines ++ after)
    (found : passage.stretch? (before.length + 1) = some stretch) :
    stretch.IsPartOf source := by
  cases passage with
  | skipped line =>
      cases found
  | database line | insert line | definition form first rest =>
      cases found
      exact ⟨List.cons_ne_nil _ _, before, after, split, rfl⟩
  | delimited token marker body closing =>
      rw [stretch?] at found
      split at found
      case isTrue =>
        cases found
      case isFalse notBlank =>
        cases found
        refine ⟨?_, before ++ [marker], closing :: after, ?_, ?_⟩
        · rintro rfl
          apply notBlank
          intro line member
          cases member
        · simp [split, lines]
        · simp

/-- The body of a section stands between its markers. -/
theorem StandsBetween.isBody
    {token marker closing : Text}
    {body : List Text}
    (stands :
      (Passage.delimited token marker body closing).StandsBetween substitution source before
        after) :
    Stretch.IsBody substitution source token
      { first := before.length + 2, lines := body } := by
  have outside := stands.isMetOutside
  obtain ⟨split, _, ⟨opens, ends⟩ | ⟨cut, _⟩⟩ := stands
  · obtain ⟨closes, goesOn⟩ := endsAt_concat_iff.mp ends
    exact ⟨before, marker, closing, after, split, rfl, outside,
      delimiterToken?_of_ofLine opens, ne_ordinaryDelimiter_of_ofLine opens, closes, goesOn⟩
  · exact cut.elim

/-- A definition ends where its form says that it does. -/
theorem StandsBetween.endsLike
    {form : Form}
    {first : Text}
    {rest : List Text}
    (stands :
      (Passage.definition form first rest).StandsBetween substitution source before after) :
    LineClass.ofLine (statementLine first) = form.lineClass ∧
      Stretch.EndsLike source form
        { first := before.length + 1, lines := first :: rest } := by
  obtain ⟨split, _, ⟨opens, ends⟩ | ⟨⟨opens, goesOn⟩, rfl⟩⟩ := stands
  · exact ⟨opens, .inl ends⟩
  · refine ⟨opens, .inr ⟨goesOn, ?_⟩⟩
    simp only [split, Stretch.next, lines, List.append_nil, List.length_append]
    exact Nat.add_right_comm _ _ _

/-- A passage has a stretch exactly if it has a block, which is made from that stretch. -/
theorem StandsBetween.draft?_rel_stretch?
    (stands : passage.StandsBetween substitution source before after) :
    Option.Rel
      (fun draft stretch =>
        draft.lineNumber = stretch.first ∧
          Transcribes substitution source stretch draft.kind draft.text)
      (passage.draft? substitution (before.length + 1))
      (passage.stretch? (before.length + 1)) := by
  have outside := stands.isMetOutside
  cases passage with
  | skipped line =>
      exact .none
  | database line =>
      rcases stands.whole with creates | ⟨cut, _⟩
      · exact .some ⟨rfl, .database outside rfl creates⟩
      · exact cut.elim
  | insert line =>
      rcases stands.whole with inserts | ⟨cut, _⟩
      · exact .some ⟨rfl, .insert outside rfl inserts⟩
      · exact cut.elim
  | definition form first rest =>
      obtain ⟨opens, ends⟩ := stands.endsLike
      exact .some ⟨rfl, .definition outside rfl opens ends⟩
  | delimited token marker body closing =>
      rw [draft?, stretch?]
      split
      case isTrue =>
        exact .none
      case isFalse notBlank =>
        have solid : ∃ line ∈ body.map (bodyLine token), allBlank line = false := by
          simpa using notBlank
        have loses := forall₂_losesDelimiter_bodyLine token body
        exact .some ⟨rfl, .delimited stands.isBody loses solid⟩

end

end Passage

/-- The stretches of passages; `lineNumber` is the number of the first of their lines. -/
def stretchesOf (lineNumber : Nat) : List Passage → List Stretch
  | [] =>
      []
  | passage :: rest =>
      (passage.stretch? lineNumber).toList ++
        stretchesOf (lineNumber + passage.lines.length) rest

section

variable
  {substitution : Substitution}
  {source before after : List Text}
  {passages : List Passage}

theorem stretchesOf_append
    (lineNumber : Nat)
    (passages later : List Passage) :
    stretchesOf lineNumber (passages ++ later) =
      stretchesOf lineNumber passages ++
        stretchesOf (lineNumber + (linesOf passages).length) later := by
  induction passages generalizing lineNumber with
  | nil =>
      rfl
  | cons passage others inductionHypothesis =>
      rw [List.cons_append, stretchesOf, stretchesOf, inductionHypothesis, List.append_assoc,
        linesOf, linesOf, List.flatMap_cons, List.length_append, Nat.add_assoc]

/-- A stretch is the one of a passage, whose first line comes after the passages before it. -/
theorem mem_stretchesOf_iff
    {lineNumber : Nat}
    {stretch : Stretch} :
    stretch ∈ stretchesOf lineNumber passages ↔
      ∃ front passage back,
        passages = front ++ passage :: back ∧
          passage.stretch? (lineNumber + (linesOf front).length) = some stretch := by
  constructor
  · intro member
    induction passages generalizing lineNumber with
    | nil =>
        cases member
    | cons passage rest inductionHypothesis =>
        rcases List.mem_append.mp member with here | later
        · exact ⟨[], passage, rest, rfl, Option.mem_toList.mp here⟩
        · obtain ⟨front, other, back, rfl, found⟩ := inductionHypothesis later
          refine ⟨passage :: front, other, back, rfl, ?_⟩
          rw [← found, linesOf, linesOf, List.flatMap_cons, List.length_append, Nat.add_assoc]
  · rintro ⟨front, passage, back, rfl, found⟩
    rw [stretchesOf_append, stretchesOf, found]
    simp

/-- The stretches of passages follow each other. -/
theorem pairwise_stretchesOf
    (lineNumber : Nat)
    (passages : List Passage) :
    (stretchesOf lineNumber passages).Pairwise fun earlier later =>
      earlier.next ≤ later.first := by
  induction passages generalizing lineNumber with
  | nil =>
      exact .nil
  | cons passage rest inductionHypothesis =>
      rw [stretchesOf, List.pairwise_append]
      refine ⟨?_, inductionHypothesis _, ?_⟩
      · cases passage.stretch? lineNumber with
        | none =>
            exact .nil
        | some stretch =>
            exact List.pairwise_singleton _ _
      · intro earlier isHead later isLater
        have headBounds := Passage.bounds_of_stretch? (Option.mem_toList.mp isHead)
        obtain ⟨front, other, back, _, found⟩ := mem_stretchesOf_iff.mp isLater
        have laterBounds := Passage.bounds_of_stretch? found
        omega

theorem Composes.isPartOf
    {stretch : Stretch}
    (composes : Composes substitution.placeholder source passages)
    (member : stretch ∈ stretchesOf 1 passages) :
    stretch.IsPartOf source := by
  obtain ⟨front, passage, back, rfl, found⟩ := mem_stretchesOf_iff.mp member
  rw [Nat.add_comm] at found
  exact Passage.isPartOf_of_stretch? composes.standsBetween.split found

/-- Blocks and stretches come in pairs if those of every single passage do. -/
theorem forall₂_of_passages
    {related : Draft → Stretch → Prop}
    {lineNumber : Nat}
    (pairs :
      ∀ front passage back,
        passages = front ++ passage :: back →
        Option.Rel related
          (passage.draft? substitution (lineNumber + (linesOf front).length))
          (passage.stretch? (lineNumber + (linesOf front).length))) :
    List.Forall₂ related (draftsOf substitution lineNumber passages)
      (stretchesOf lineNumber passages) := by
  induction passages generalizing lineNumber with
  | nil =>
      exact .nil
  | cons passage rest inductionHypothesis =>
      have here :
          Option.Rel related (passage.draft? substitution lineNumber)
            (passage.stretch? lineNumber) :=
        pairs [] passage rest rfl
      have later :
          List.Forall₂ related
            (draftsOf substitution (lineNumber + passage.lines.length) rest)
            (stretchesOf (lineNumber + passage.lines.length) rest) := by
        apply inductionHypothesis
        rintro front other back rfl
        have further := pairs (passage :: front) other back rfl
        rwa [linesOf, List.flatMap_cons, List.length_append, ← Nat.add_assoc] at further
      rw [draftsOf, stretchesOf]
      generalize passage.draft? substitution lineNumber = draft at here ⊢
      generalize passage.stretch? lineNumber = stretch at here ⊢
      cases here with
      | none =>
          exact later
      | some pair =>
          exact .cons pair later

/-- The blocks of a script are made from its stretches, one from each, in one order. -/
theorem forall₂_draftsOf
    (composes : Composes substitution.placeholder source passages) :
    List.Forall₂
      (fun draft stretch =>
        draft.lineNumber = stretch.first ∧
          Transcribes substitution source stretch draft.kind draft.text)
      (draftsOf substitution 1 passages)
      (stretchesOf 1 passages) := by
  apply forall₂_of_passages
  rintro front passage back rfl
  rw [Nat.add_comm]
  exact composes.standsBetween.draft?_rel_stretch?

theorem forall₂_numberDrafts
    {drafts : List Draft}
    {stretches : List Stretch}
    (place : Nat)
    (pairs :
      List.Forall₂
        (fun draft stretch =>
          draft.lineNumber = stretch.first ∧
            Transcribes substitution source stretch draft.kind draft.text)
        drafts stretches) :
    List.Forall₂
      (fun block stretch =>
        block.lineNumber = stretch.first ∧
          Transcribes substitution source stretch block.kind block.text)
      (numberDrafts place drafts) stretches := by
  induction pairs generalizing place with
  | nil =>
      exact .nil
  | cons pair _ inductionHypothesis =>
      refine .cons ⟨?_, pair.2⟩ (inductionHypothesis _)
      exact congrArg Int.ofNat pair.1

/-- A line of some passages is a line of one of them. -/
theorem exists_passage_of_line
    {line : Text}
    (split : linesOf passages = before ++ line :: after) :
    ∃ front passage back lead trail,
      passages = front ++ passage :: back ∧
        passage.lines = lead ++ line :: trail ∧
        before = linesOf front ++ lead := by
  induction passages generalizing before with
  | nil =>
      simp [linesOf] at split
  | cons passage rest inductionHypothesis =>
      rw [linesOf, List.flatMap_cons, List.append_eq_append_iff] at split
      rcases split with ⟨later, rfl, splitRest⟩ | ⟨trail, inPassage, splitLine⟩
      · obtain ⟨front, other, back, lead, trail, rfl, inside, rfl⟩ :=
          inductionHypothesis splitRest
        refine ⟨passage :: front, other, back, lead, trail, rfl, inside, ?_⟩
        rw [linesOf, linesOf, List.flatMap_cons, List.append_assoc]
      · cases trail with
        | nil =>
            have splitRest : linesOf rest = [] ++ line :: after := splitLine.symm
            obtain ⟨front, other, back, lead, trail, rfl, inside, atStart⟩ :=
              inductionHypothesis splitRest
            refine ⟨passage :: front, other, back, lead, trail, rfl, inside, ?_⟩
            rw [← List.append_nil before, ← inPassage, linesOf, List.flatMap_cons,
              List.append_assoc, ← linesOf, ← atStart, List.append_nil]
        | cons first others =>
            cases splitLine
            exact ⟨[], passage, rest, before, others, rfl, inPassage, rfl⟩

/-- A line of a section that is not in the stretch of the section stands outside it. -/
theorem standsOutside_of_delimited
    {token marker closing line : Text}
    {body lead trail : List Text}
    (stands :
      (Passage.delimited token marker body closing).StandsBetween substitution source before
        after)
    (inside : (Passage.delimited token marker body closing).lines = lead ++ line :: trail)
    (outside :
      ∀ stretch,
        (Passage.delimited token marker body closing).stretch? (before.length + 1) =
            some stretch →
          ¬ stretch.Holds (before.length + 1 + lead.length)) :
    StandsOutside substitution source (before.length + 1) line
      (before.length + 1 + lead.length) (.delimited token marker body closing) := by
  have isBody := stands.isBody
  obtain ⟨_, _, ⟨opens, ends⟩ | ⟨cut, _⟩⟩ := stands
  case inr =>
    exact cut.elim
  cases lead with
  | nil =>
      cases inside
      exact .marker (delimiterToken?_of_ofLine opens)
  | cons first others =>
      have insideBody : body ++ [closing] = others ++ line :: trail :=
        (List.cons.inj inside).2
      cases trail with
      | nil =>
          obtain ⟨_, sameLine⟩ := List.append_inj' insideBody rfl
          cases sameLine
          exact .marker (beq_iff_eq.mp (endsAt_concat_iff.mp ends).1)
      | cons next more =>
          have sameLength := congrArg List.length insideBody
          simp only [List.length_append, List.length_cons, List.length_nil] at sameLength
          have holds :
              Stretch.Holds { first := before.length + 2, lines := body }
                (before.length + 1 + (first :: others).length) := by
            simp only [Stretch.Holds, Stretch.next, List.length_cons]
            omega
          by_cases blank : ∀ inner ∈ body, allBlank (bodyLine token inner) = true
          · refine .emptySection ⟨token, _, isBody, holds, ?_⟩
            intro inner member
            exact ⟨bodyLine token inner, losesDelimiter_bodyLine token inner,
              blank inner member⟩
          · refine (outside _ ?_ holds).elim
            rw [Passage.stretch?, if_neg blank]

/-- A line of a passage that is not in the stretch of the passage stands outside it. -/
theorem standsOutside_of_passage
    {passage : Passage}
    {lead trail : List Text}
    {line : Text}
    (stands : passage.StandsBetween substitution source before after)
    (inside : passage.lines = lead ++ line :: trail)
    (outside :
      ∀ stretch,
        passage.stretch? (before.length + 1) = some stretch →
        ¬ stretch.Holds (before.length + 1 + lead.length)) :
    StandsOutside substitution source (before.length + 1) line
      (before.length + 1 + lead.length) passage := by
  cases passage with
  | skipped skippedLine =>
      rw [Passage.lines, List.singleton_eq_append_iff] at inside
      rcases inside with ⟨rfl, isLine⟩ | ⟨_, impossible⟩
      · cases isLine
        exact .skipped stands.isMetOutside
      · cases impossible
  | database | insert | definition =>
      have sameLength := congrArg List.length inside
      rw [List.length_append, List.length_cons] at sameLength
      refine (outside _ rfl ⟨Nat.le_add_right _ _, Nat.add_lt_add_left ?_ _⟩).elim
      exact sameLength ▸ Nat.lt_add_of_pos_right (Nat.succ_pos _)
  | delimited token marker body closing =>
      exact standsOutside_of_delimited stands inside outside

/-- A line that is in no stretch stands outside the stretch of its passage. -/
theorem Composes.exists_standsOutside
    {line : Text}
    (composes : Composes substitution.placeholder source passages)
    (split : source = before ++ line :: after)
    (outside : ∀ stretch ∈ stretchesOf 1 passages, ¬ stretch.Holds (before.length + 1)) :
    ∃ front passage back,
      passages = front ++ passage :: back ∧
        StandsOutside substitution source ((linesOf front).length + 1) line
          (before.length + 1) passage := by
  obtain ⟨front, passage, back, lead, trail, rfl, inside, rfl⟩ :=
    exists_passage_of_line (composes.covers.symm.trans split)
  have position :
      (linesOf front ++ lead).length + 1 = (linesOf front).length + 1 + lead.length := by
    rw [List.length_append, Nat.add_right_comm]
  rw [position] at outside ⊢
  refine ⟨front, passage, back, rfl, ?_⟩
  apply standsOutside_of_passage composes.standsBetween inside
  intro stretch found
  apply outside
  rw [Nat.add_comm] at found
  exact mem_stretchesOf_iff.mpr ⟨front, passage, back, rfl, found⟩

/-- A line that stands outside the stretch of its passage is left out. -/
theorem StandsOutside.isLeftOut
    {line : Text}
    {first lineNumber : Nat}
    {passage : Passage}
    (stands : StandsOutside substitution source first line lineNumber passage)
    (whole : passage.IsWhole substitution.placeholder) :
    IsLeftOut substitution source lineNumber line := by
  cases stands with
  | skipped outside =>
      rcases whole with complete | cut
      · obtain ⟨noCreate, noInsert⟩ := not_starts_of_skipped complete
        exact .noStatement outside noCreate noInsert
      · exact cut.elim
  | marker marks =>
      exact .marker marks
  | emptySection inside =>
      exact .emptySection inside

/-- Blocks are made from lines that stand together, and no other line starts a statement. -/
theorem source_text_is_conserved
    {script : Text}
    {blocks : List Block}
    (readable : (read substitution script).blocks = .ok blocks) :
    ∃ stretches, Conserves substitution (Text.lines script) blocks stretches := by
  obtain ⟨passages, composes, rfl⟩ := exists_composes_of_read readable
  refine ⟨stretchesOf 1 passages, fun _ => composes.isPartOf, pairwise_stretchesOf 1 passages,
    forall₂_numberDrafts 0 (forall₂_draftsOf composes), ?_⟩
  intro before line after split outside
  obtain ⟨front, passage, back, rfl, stands⟩ := composes.exists_standsOutside split outside
  exact stands.isLeftOut (composes.whole passage (by simp))

/-- A section without content, a section that starts with a blank line, and a cut table. -/
theorem unfinished_script_is_conserved :
    let substitution : Substitution :=
      { placeholder := defaultPlaceholder, target := "acme".toList }
    let script : Text :=
      joinWith ['\n']
        [
          "SET NAMES utf8;".toList, "DELIMITER ;;".toList, " ;;".toList, "DELIMITER ;".toList,
          "DELIMITER $$".toList, [], "CREATE EVENT e;".toList, "END $$ ".toList,
          "DELIMITER ;".toList, "CREATE TABLE \x60t\x60 (".toList, "id INT;".toList
        ]
    let blocks : List Block :=
      [
        { kind := .other, text := "CREATE EVENT e;\nEND".toList, order := 0, lineNumber := 6 },
        { kind := .createTable, text := "CREATE TABLE t (\nid INT;".toList, order := 1,
          lineNumber := 10 }
      ]
    (read substitution script).blocks = .ok blocks ∧
      ∃ stretches, Conserves substitution (Text.lines script) blocks stretches :=
  ⟨rfl, source_text_is_conserved rfl⟩

end

end TenantSchema.Script
