import TenantSchema.Proofs.Text.LetterCase

namespace TenantSchema.Text

/-!
# Where a part occurs

A part that occurs in two texts at the same places occurs at the same places in what is cut
out of both alike.  If the texts differ only in the case of letters, so do the texts that come
out when the part is replaced.
-/

/-- Whether a part occurs in two texts at the same places. -/
def SamePlaces (part first second : Text) : Prop :=
  ∀ position,
    startsWith part (first.drop position) = startsWith part (second.drop position)

/-- Behind the end of both texts every part occurs alike. -/
theorem samePlaces_iff
    {part first second : Text} :
    SamePlaces part first second ↔
      ∀ position < max first.length second.length,
        startsWith part (first.drop position) = startsWith part (second.drop position) := by
  constructor
  · exact fun places position _ => places position
  · intro places position
    by_cases inside : position < max first.length second.length
    · exact places position inside
    · rw [List.drop_of_length_le (by omega), List.drop_of_length_le (by omega)]

instance (part first second : Text) : Decidable (SamePlaces part first second) :=
  decidable_of_iff _ samePlaces_iff.symm

/-- A part occurs in the front of a text where it occurs in the text and ends in time. -/
theorem startsWith_drop_append
    (part lead text : Text)
    (position : Nat) :
    startsWith part (lead.drop position) = true ↔
      startsWith part ((lead ++ text).drop position) = true ∧
        part.length ≤ (lead.drop position).length := by
  rw [startsWith_iff, startsWith_iff, List.drop_append]
  constructor
  · intro starts
    exact ⟨starts.trans (List.prefix_append _ _), starts.length_le⟩
  · rintro ⟨starts, fits⟩
    exact List.prefix_of_prefix_length_le starts (List.prefix_append _ _) fits

namespace SamePlaces

variable {part first second : Text}

theorem tail
    {firstChar secondChar : Char}
    (places : SamePlaces part (firstChar :: first) (secondChar :: second)) :
    SamePlaces part first second :=
  fun position => places (position + 1)

section

variable
  {firstLead secondLead : Text}
  (places : SamePlaces part (firstLead ++ first) (secondLead ++ second))
  (length : firstLead.length = secondLead.length)

include places length

theorem left :
    SamePlaces part firstLead secondLead := by
  intro position
  rw [Bool.eq_iff_iff, startsWith_drop_append part firstLead first,
    startsWith_drop_append part secondLead second, places position, List.length_drop,
    List.length_drop, length]

theorem right :
    SamePlaces part first second := by
  intro position
  have here := places (firstLead.length + position)
  rwa [List.drop_length_add_append, length, List.drop_length_add_append] at here

end

/-- Trimming cuts the same places out of texts that differ only in the case of letters. -/
theorem trimmed
    (places : SamePlaces part first second)
    (same : SameLetters first second) :
    SamePlaces part (trim first) (trim second) := by
  have sameLead : SameLetters (first.takeWhile isBlank) (second.takeWhile isBlank) :=
    same.map (takeWhile_lowered isBlank_toLower)
  have sameLeft : SameLetters (trimLeft first) (trimLeft second) :=
    same.map trimLeft_lowered
  have sameTrimmed : SameLetters (trim first) (trim second) :=
    same.map trim_lowered
  have placesLeft : SamePlaces part (trimLeft first) (trimLeft second) := by
    have split (text : Text) : text = text.takeWhile isBlank ++ trimLeft text :=
      List.takeWhile_append_dropWhile.symm
    rw [split first, split second] at places
    exact places.right sameLead.length
  obtain ⟨firstBlanks, firstSplit, _⟩ := exists_eq_trimRight_append (trimLeft first)
  obtain ⟨secondBlanks, secondSplit, _⟩ := exists_eq_trimRight_append (trimLeft second)
  rw [firstSplit, secondSplit] at placesLeft
  exact placesLeft.left sameTrimmed.length

theorem head
    {firstChar secondChar : Char}
    (places : SamePlaces part (firstChar :: first) (secondChar :: second)) :
    startsWith part (firstChar :: first) = startsWith part (secondChar :: second) :=
  places 0

theorem occursIn_eq
    (places : SamePlaces part first second)
    (same : SameLetters first second) :
    occursIn part first = occursIn part second := by
  have letters := same.forall₂
  clear same
  induction letters with
  | nil =>
      rfl
  | cons _ _ inductionHypothesis =>
      rw [occursIn, occursIn, places.head, inductionHypothesis places.tail]

theorem sameLetters_replaceFrom
    (places : SamePlaces part first second)
    (same : SameLetters first second)
    (replacement : Text)
    (pending : Nat) :
    SameLetters (replaceFrom part replacement pending first)
      (replaceFrom part replacement pending second) := by
  have letters := same.forall₂
  clear same
  induction letters generalizing pending with
  | nil =>
      exact .refl _
  | cons sameChar _ inductionHypothesis =>
      cases pending with
      | succ pending =>
          exact inductionHypothesis places.tail pending
      | zero =>
          rw [replaceFrom, replaceFrom, places.head]
          split
          · exact .append (.refl replacement) (inductionHypothesis places.tail _)
          · exact congrArg₂ List.cons sameChar (inductionHypothesis places.tail 0)

end SamePlaces

end TenantSchema.Text
