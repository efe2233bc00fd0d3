import TenantSchema.Text.Blank
import TenantSchema.Text.Word

/-!
# Keywords

Keywords are recognised in two ways.  Patterns ignore case: a keyword is written in small
letters and a character stands for a letter when both have one simple case folding.  Line
starts are compared in upper case: a keyword is written in capitals and a character stands
for a capital when the capital is its upper-case form.  The two differ on the dotted capital
`İ`, which folds to `i` and whose upper-case form is itself.

Some characters have several letters as their upper-case form, such as `ß` with `SS` and
`ﬆ` with `ST`.  No keyword at the start of a line holds one of those pairs, so there one
character stands for one capital throughout; whole names are compared by their full forms.
-/

namespace TenantSchema.Text

/-- Whether a character stands for a small letter once case is ignored. -/
def foldsTo (letter character : Char) : Bool :=
  character.toLower == letter ||
    match letter with
    | 'i' =>
        character == 'ı' || character == 'İ'
    | 's' =>
        character == 'ſ'
    | 'k' =>
        character == '\u212A'
    | _ =>
        false

/-- Whether the upper-case form of a character is the given capital letter. -/
def capitalizesTo (capital character : Char) : Bool :=
  character.toUpper == capital ||
    match capital with
    | 'I' =>
        character == 'ı'
    | 'S' =>
        character == 'ſ'
    | _ =>
        false

/-- What follows a keyword, given in small letters, when the text starts with it in any case. -/
def dropKeyword? : Text → Text → Option Text
  | [], text =>
      some text
  | _ :: _, [] =>
      none
  | letter :: keyword, character :: text =>
      if foldsTo letter character then dropKeyword? keyword text else none

/-- Whether the upper-case form of the text starts with the given capitals. -/
def startsWithCapitals : Text → Text → Bool
  | [], _ =>
      true
  | _ :: _, [] =>
      false
  | capital :: keyword, character :: text =>
      capitalizesTo capital character && startsWithCapitals keyword text

/-- The upper-case form of a character, as far as it consists of plain capitals. -/
def capitalForm (character : Char) : Text :=
  match character with
  | 'ı' =>
      ['I']
  | 'ſ' =>
      ['S']
  | 'ß' =>
      ['S', 'S']
  | 'ﬀ' =>
      ['F', 'F']
  | 'ﬁ' =>
      ['F', 'I']
  | 'ﬂ' =>
      ['F', 'L']
  | 'ﬃ' =>
      ['F', 'F', 'I']
  | 'ﬄ' =>
      ['F', 'F', 'L']
  | 'ﬅ' | 'ﬆ' =>
      ['S', 'T']
  | other =>
      [other.toUpper]

/-- Whether the upper-case form of the whole text is the given capitals. -/
def equalsCapitals (capitals text : Text) : Bool :=
  text.flatMap capitalForm == capitals

/-- What follows a run of at least one blank character. -/
def dropBlanks? : Text → Option Text
  | [] =>
      none
  | character :: rest =>
      if isBlank character then some (trimLeft rest) else none

/-- Whether no word continues at the start of the text. -/
def wordEndsAt : Text → Bool
  | [] =>
      true
  | character :: _ =>
      !isWord character

/-- The longest run of word characters at the start, when there is one, and what follows. -/
def takeWord? (text : Text) : Option (Text × Text) :=
  match text.takeWhile isWord with
  | [] =>
      none
  | first :: others =>
      some (first :: others, text.dropWhile isWord)

/--
Whether `accepts` holds of some rest of the text at which a word may start.  `afterWord`
tells whether the character before the text belongs to a word.
-/
def anyWordStart (accepts : Text → Bool) (afterWord : Bool) : Text → Bool
  | [] =>
      false
  | character :: rest =>
      (!afterWord && accepts (character :: rest)) ||
        anyWordStart accepts (isWord character) rest

/-- What is left after a keyword is a suffix of the text. -/
theorem dropKeyword?_suffix
    {keyword text rest : Text}
    (found : dropKeyword? keyword text = some rest) :
    ∃ lead, text = lead ++ rest ∧ lead.length = keyword.length := by
  induction keyword generalizing text with
  | nil =>
      exact ⟨[], by simp_all [dropKeyword?]⟩
  | cons letter keyword inductionHypothesis =>
      cases text with
      | nil =>
          simp [dropKeyword?] at found
      | cons character text =>
          by_cases folds : foldsTo letter character = true
          · simp only [dropKeyword?, folds, if_true] at found
            obtain ⟨lead, split, sameLength⟩ := inductionHypothesis found
            exact ⟨character :: lead, by simp [split], by simp [sameLength]⟩
          · simp [dropKeyword?, folds] at found

end TenantSchema.Text
