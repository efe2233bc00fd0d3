import TenantSchema.Text.Basic

/-!
# Blank characters

The class of white space has twenty-nine characters, the four information separators among
them.  Trimming, splitting into words and every pattern that skips white space use this one
class.
-/

namespace TenantSchema.Text

/-- Whether a character is white space. -/
def isBlank (character : Char) : Bool :=
  let code := character.toNat
  (9 ≤ code && code ≤ 13) ||
    (28 ≤ code && code ≤ 32) ||
    code == 0x85 ||
    code == 0xA0 ||
    code == 0x1680 ||
    (0x2000 ≤ code && code ≤ 0x200A) ||
    code == 0x2028 ||
    code == 0x2029 ||
    code == 0x202F ||
    code == 0x205F ||
    code == 0x3000

/-- Whether a text has no character other than white space. -/
def allBlank (text : Text) : Bool :=
  text.all isBlank

/-- Drop the white space at the start. -/
def trimLeft (text : Text) : Text :=
  text.dropWhile isBlank

/-- Drop the white space at the end. -/
def trimRight : Text → Text
  | [] =>
      []
  | character :: rest =>
      match trimRight rest with
      | [] =>
          if isBlank character then [] else [character]
      | kept =>
          character :: kept

/-- Drop the white space at both ends. -/
def trim (text : Text) : Text :=
  trimRight (trimLeft text)

/--
Split into maximal runs of characters that are not white space.  `word` holds the
characters of the run being read, last one first.
-/
def wordsFrom (word : Text) : Text → List Text
  | [] =>
      if word.isEmpty then [] else [word.reverse]
  | character :: rest =>
      if isBlank character then
        if word.isEmpty then
          wordsFrom [] rest
        else
          word.reverse :: wordsFrom [] rest
      else
        wordsFrom (character :: word) rest

/-- The maximal runs of characters that are not white space. -/
def words (text : Text) : List Text :=
  wordsFrom [] text

/-- The text with every run of white space collapsed into one space and none at the ends. -/
def flatten (text : Text) : Text :=
  joinWith [' '] (words text)

/-- Every white-space character of the core library is blank. -/
theorem isBlank_of_isWhitespace
    {character : Char}
    (whitespace : character.isWhitespace = true) :
    isBlank character = true := by
  simp only [Char.isWhitespace, Bool.or_eq_true, decide_eq_true_eq] at whitespace
  rcases whitespace with ((rfl | rfl) | rfl) | rfl <;> decide

/-- A character is trimmed on the right if it is white space with nothing left behind it. -/
theorem trimRight_cons (character : Char) (rest : Text) :
    trimRight (character :: rest) =
      if isBlank character && (trimRight rest).isEmpty then []
      else character :: trimRight rest := by
  rw [trimRight]
  cases trimRight rest with
  | nil =>
      cases isBlank character <;> rfl
  | cons first others =>
      rw [List.isEmpty_cons, Bool.and_false]
      rfl

/-- Nothing is left exactly of the texts that hold only white space. -/
theorem trimRight_eq_nil_iff
    {text : Text} :
    trimRight text = [] ↔ allBlank text = true := by
  induction text with
  | nil =>
      exact ⟨fun _ => rfl, fun _ => rfl⟩
  | cons character rest inductionHypothesis =>
      have blankIff :
          allBlank (character :: rest) = true ↔
            isBlank character = true ∧ trimRight rest = [] := by
        rw [allBlank, List.all_cons, ← allBlank, Bool.and_eq_true, inductionHypothesis]
      rw [blankIff, trimRight_cons]
      simp

end TenantSchema.Text
