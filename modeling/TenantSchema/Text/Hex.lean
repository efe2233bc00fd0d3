import TenantSchema.Text.Basic

/-!
# Base sixteen

Code points and bytes are written and read in base sixteen.
-/

namespace TenantSchema.Text

/-- One digit of base sixteen, in small letters. -/
def hexDigit (value : Nat) : Char :=
  if value < 10 then Char.ofNat (48 + value) else Char.ofNat (87 + value)

/-- The last `width` digits of a number in base sixteen. -/
def hexDigits : Nat → Nat → Text
  | 0, _ =>
      []
  | width + 1, number =>
      hexDigits width (number / 16) ++ [hexDigit (number % 16)]

/-- The value of a digit of base sixteen, in small or capital letters. -/
def hexValue? (character : Char) : Option Nat :=
  if character.isDigit then
    some (character.toNat - 48)
  else if 'a' ≤ character && character ≤ 'f' then
    some (character.toNat - 87)
  else if 'A' ≤ character && character ≤ 'F' then
    some (character.toNat - 55)
  else
    none

/-- There are as many digits as asked for. -/
@[simp] theorem length_hexDigits
    (width number : Nat) :
    (hexDigits width number).length = width := by
  induction width generalizing number with
  | zero =>
      rfl
  | succ width inductionHypothesis =>
      simp [hexDigits, inductionHypothesis]

/-- A digit is read as the value it was written for. -/
theorem hexValue?_hexDigit
    {value : Nat}
    (small : value < 16) :
    hexValue? (hexDigit value) = some value := by
  revert value
  decide

end TenantSchema.Text
