import Mathlib.Data.List.Forall2
import TenantSchema.Proofs.Text.Keywords
import TenantSchema.Proofs.Text.LineEnds

namespace TenantSchema.Text

/-!
# Letters in either case

Texts may differ in the case of the letters of the seven-bit range alone.  A test is blind to
that case if it says the same of a text and of its small letters, and a cut is blind to it if
what it leaves of the small letters are the small letters of what it leaves.
-/

/-- A text with small letters in the place of capitals. -/
def lowered (text : Text) : Text :=
  text.map Char.toLower

@[simp]
theorem lowered_cons
    (character : Char)
    (rest : Text) :
    lowered (character :: rest) = character.toLower :: lowered rest :=
  rfl

@[simp]
theorem lowered_append
    (first second : Text) :
    lowered (first ++ second) = lowered first ++ lowered second :=
  List.map_append

@[simp]
theorem length_lowered (text : Text) :
    (lowered text).length = text.length :=
  List.length_map _

/-- Whether two texts differ at most in the case of letters. -/
def SameLetters (first second : Text) : Prop :=
  lowered first = lowered second

instance (first second : Text) : Decidable (SameLetters first second) :=
  inferInstanceAs (Decidable (lowered first = lowered second))

/-- Whether a text has no letters of the seven-bit range. -/
def IsLetterless (text : Text) : Prop :=
  ∀ character ∈ text, character.isAlpha = false

instance : DecidablePred IsLetterless :=
  fun text => List.decidableBAll _ text

namespace SameLetters

variable {first second : Text}

theorem refl (text : Text) :
    SameLetters text text :=
  rfl

theorem forall₂
    (same : SameLetters first second) :
    List.Forall₂ (fun firstChar secondChar => firstChar.toLower = secondChar.toLower)
      first second := by
  rw [SameLetters, lowered, lowered, ← List.forall₂_eq_eq_eq] at same
  rwa [List.forall₂_map_left_iff, List.forall₂_map_right_iff] at same

theorem exists_cons
    {character : Char}
    {rest : Text}
    (same : SameLetters (character :: rest) second) :
    ∃ secondChar secondRest,
      second = secondChar :: secondRest ∧
        character.toLower = secondChar.toLower ∧
        SameLetters rest secondRest := by
  cases second with
  | nil =>
      cases same
  | cons secondChar secondRest =>
      exact ⟨secondChar, secondRest, rfl, List.cons.inj same⟩

theorem length
    (same : SameLetters first second) :
    first.length = second.length :=
  same.forall₂.length_eq

theorem append
    {firstLater secondLater : Text}
    (same : SameLetters first second)
    (later : SameLetters firstLater secondLater) :
    SameLetters (first ++ firstLater) (second ++ secondLater) := by
  rw [SameLetters, lowered_append, lowered_append, same, later]

/-- What is blind to the case of letters does not tell the texts apart. -/
theorem congr
    {Value : Type}
    {test : Text → Value}
    (same : SameLetters first second)
    (blind : ∀ text, test (lowered text) = test text) :
    test first = test second := by
  rw [← blind first, same, blind second]

theorem map
    {cut : Text → Text}
    (same : SameLetters first second)
    (blind : ∀ text, cut (lowered text) = lowered (cut text)) :
    SameLetters (cut first) (cut second) := by
  rw [SameLetters, ← blind first, same, blind second]

end SameLetters

section

variable {character : Char}

/-- What agrees on the two cases of every letter does not depend on case. -/
theorem toLower_congr
    {Value : Type}
    {test : Char → Value}
    (letters :
      ∀ place < 26, test (Char.ofNat (97 + place)) = test (Char.ofNat (65 + place)))
    (character : Char) :
    test character.toLower = test character := by
  have code := toNat_toLower character
  by_cases capital : 65 ≤ character.toNat ∧ character.toNat ≤ 90
  · rw [if_pos capital] at code
    have agree := letters (character.toNat - 65) (by omega)
    rw [show 97 + (character.toNat - 65) = character.toLower.toNat by omega,
      show 65 + (character.toNat - 65) = character.toNat by omega,
      Char.ofNat_toNat, Char.ofNat_toNat] at agree
    exact agree
  · rw [if_neg capital] at code
    rw [Char.toNat_inj.mp code]

@[simp]
theorem toLower_toLower (character : Char) :
    character.toLower.toLower = character.toLower :=
  toLower_congr (by decide) character

/-- A character that is no letter is the lower-case form of itself alone. -/
theorem toLower_eq_iff
    {other : Char}
    (noLetter : other.isAlpha = false) :
    character.toLower = other ↔ character = other := by
  rw [Bool.eq_false_iff, ne_eq, isAlpha_iff] at noLetter
  rw [← Char.toNat_inj, ← Char.toNat_inj, toNat_toLower]
  split <;> omega

theorem toLower_beq
    (other : Char)
    (noLetter : other.isAlpha = false) :
    (character.toLower == other) = (character == other) := by
  rw [Bool.eq_iff_iff, beq_iff_eq, beq_iff_eq]
  exact toLower_eq_iff noLetter

theorem isBlank_toLower (character : Char) :
    isBlank character.toLower = isBlank character :=
  toLower_congr (by decide) character

theorem isLineBreak_toLower (character : Char) :
    isLineBreak character.toLower = isLineBreak character :=
  toLower_congr (by decide) character

theorem isWord_toLower (character : Char) :
    isWord character.toLower = isWord character :=
  toLower_congr (by decide) character

theorem foldsTo_toLower (letter character : Char) :
    foldsTo letter character.toLower = foldsTo letter character := by
  unfold foldsTo
  rw [toLower_toLower]
  split
  · rw [toLower_beq 'ı' rfl, toLower_beq 'İ' rfl]
  · rw [toLower_beq 'ſ' rfl]
  · rw [toLower_beq '\u212A' rfl]
  · rfl

theorem capitalizesTo_toLower (capital character : Char) :
    capitalizesTo capital character.toLower = capitalizesTo capital character := by
  unfold capitalizesTo
  rw [toUpper_toLower]
  split
  · rw [toLower_beq 'ı' rfl]
  · rw [toLower_beq 'ſ' rfl]
  · rfl

end

section

variable
  {test : Char → Bool}
  (blind : ∀ character, test character.toLower = test character)

include blind

theorem takeWhile_lowered (text : Text) :
    (lowered text).takeWhile test = lowered (text.takeWhile test) := by
  have same : test ∘ Char.toLower = test := funext blind
  rw [lowered, List.takeWhile_map, same, lowered]

theorem dropWhile_lowered (text : Text) :
    (lowered text).dropWhile test = lowered (text.dropWhile test) := by
  have same : test ∘ Char.toLower = test := funext blind
  rw [lowered, List.dropWhile_map, same, lowered]

theorem filter_lowered (text : Text) :
    (lowered text).filter test = lowered (text.filter test) := by
  have same : test ∘ Char.toLower = test := funext blind
  rw [lowered, List.filter_map, same, lowered]

theorem all_lowered (text : Text) :
    (lowered text).all test = text.all test := by
  have same : test ∘ Char.toLower = test := funext blind
  rw [lowered, List.all_map, same]

end

theorem take_lowered
    (count : Nat)
    (text : Text) :
    (lowered text).take count = lowered (text.take count) :=
  List.map_take.symm

theorem isEmpty_lowered (text : Text) :
    (lowered text).isEmpty = text.isEmpty :=
  List.isEmpty_map

theorem allBlank_lowered (text : Text) :
    allBlank (lowered text) = allBlank text :=
  all_lowered isBlank_toLower text

theorem trimLeft_lowered (text : Text) :
    trimLeft (lowered text) = lowered (trimLeft text) :=
  dropWhile_lowered isBlank_toLower text

theorem trimRight_lowered (text : Text) :
    trimRight (lowered text) = lowered (trimRight text) := by
  induction text with
  | nil =>
      rfl
  | cons character rest inductionHypothesis =>
      rw [lowered_cons, trimRight_cons, trimRight_cons, inductionHypothesis, isBlank_toLower,
        isEmpty_lowered]
      split <;> rfl

theorem trim_lowered (text : Text) :
    trim (lowered text) = lowered (trim text) := by
  rw [trim, trimLeft_lowered, trimRight_lowered, ← trim]

theorem firstLine_lowered (text : Text) :
    firstLine (lowered text) = lowered (firstLine text) :=
  takeWhile_lowered (fun character => congrArg (! ·) (isLineBreak_toLower character)) text

theorem dropKeyword?_lowered (keyword text : Text) :
    dropKeyword? keyword (lowered text) = (dropKeyword? keyword text).map lowered := by
  induction keyword generalizing text with
  | nil =>
      rfl
  | cons letter keyword inductionHypothesis =>
      cases text with
      | nil =>
          rfl
      | cons character rest =>
          rw [lowered_cons, dropKeyword?, dropKeyword?, foldsTo_toLower, inductionHypothesis]
          split <;> rfl

theorem startsWithCapitals_lowered (keyword text : Text) :
    startsWithCapitals keyword (lowered text) = startsWithCapitals keyword text := by
  induction keyword generalizing text with
  | nil =>
      rfl
  | cons capital keyword inductionHypothesis =>
      cases text with
      | nil =>
          rfl
      | cons character rest =>
          rw [lowered_cons, startsWithCapitals, startsWithCapitals, capitalizesTo_toLower,
            inductionHypothesis]

theorem dropBlanks?_lowered (text : Text) :
    dropBlanks? (lowered text) = (dropBlanks? text).map lowered := by
  cases text with
  | nil =>
      rfl
  | cons character rest =>
      rw [lowered_cons, dropBlanks?, dropBlanks?, isBlank_toLower, trimLeft_lowered]
      split <;> rfl

theorem wordEndsAt_lowered (text : Text) :
    wordEndsAt (lowered text) = wordEndsAt text := by
  cases text with
  | nil =>
      rfl
  | cons character rest =>
      rw [lowered_cons, wordEndsAt, wordEndsAt, isWord_toLower]

theorem isSome_takeWord?_lowered (text : Text) :
    (takeWord? (lowered text)).isSome = (takeWord? text).isSome := by
  unfold takeWord?
  rw [takeWhile_lowered isWord_toLower]
  cases text.takeWhile isWord <;> rfl

theorem anyWordStart_lowered
    {accepts : Text → Bool}
    (blind : ∀ text, accepts (lowered text) = accepts text)
    (afterWord : Bool)
    (text : Text) :
    anyWordStart accepts afterWord (lowered text) = anyWordStart accepts afterWord text := by
  induction text generalizing afterWord with
  | nil =>
      rfl
  | cons character rest inductionHypothesis =>
      rw [lowered_cons, anyWordStart, anyWordStart, ← lowered_cons, blind, isWord_toLower,
        inductionHypothesis]

theorem joinWith_map_lowered
    {separator : Text}
    (letterless : lowered separator = separator)
    (parts : List Text) :
    joinWith separator (parts.map lowered) = lowered (joinWith separator parts) := by
  fun_induction joinWith separator parts with
  | case1 =>
      rfl
  | case2 part =>
      rfl
  | case3 part rest more inductionHypothesis =>
      rw [List.map_cons, joinWith, inductionHypothesis, lowered_append, lowered_append,
        letterless]
      simpa using more

/-- Letters are all that the small letters of a text differ from it in. -/
theorem lowered_eq_iff
    {text part : Text}
    (letterless : IsLetterless part) :
    lowered text = part ↔ text = part := by
  induction part generalizing text with
  | nil =>
      exact List.map_eq_nil_iff
  | cons expected part inductionHypothesis =>
      obtain ⟨noLetter, more⟩ := List.forall_mem_cons.mp letterless
      cases text with
      | nil =>
          exact ⟨nofun, nofun⟩
      | cons character rest =>
          rw [lowered_cons, List.cons_eq_cons, List.cons_eq_cons, toLower_eq_iff noLetter,
            inductionHypothesis more]

theorem startsWith_iff
    {lead text : Text} :
    startsWith lead text = true ↔ lead <+: text := by
  rw [startsWith, Option.isSome_iff_exists]
  constructor
  · rintro ⟨rest, found⟩
    exact ⟨rest, (dropLead?_eq_some_iff.mp found).symm⟩
  · rintro ⟨rest, rfl⟩
    exact ⟨rest, dropLead?_eq_some_iff.mpr rfl⟩

theorem startsWith_lowered
    {lead : Text}
    (letterless : IsLetterless lead)
    (text : Text) :
    startsWith lead (lowered text) = startsWith lead text := by
  rw [Bool.eq_iff_iff, startsWith_iff, startsWith_iff, lowered, List.prefix_map_iff]
  constructor
  · rintro ⟨part, starts, isLead⟩
    rwa [← (lowered_eq_iff letterless).mp isLead.symm]
  · intro starts
    exact ⟨lead, starts, ((lowered_eq_iff letterless).mpr rfl).symm⟩

theorem endsWith_lowered
    {tail : Text}
    (letterless : IsLetterless tail)
    (text : Text) :
    endsWith tail (lowered text) = endsWith tail text := by
  rw [Bool.eq_iff_iff, endsWith, endsWith, List.isSuffixOf_iff_suffix,
    List.isSuffixOf_iff_suffix, lowered, List.suffix_map_iff]
  constructor
  · rintro ⟨part, ends, isTail⟩
    rwa [← (lowered_eq_iff letterless).mp isTail.symm]
  · intro ends
    exact ⟨tail, ends, ((lowered_eq_iff letterless).mpr rfl).symm⟩

end TenantSchema.Text
