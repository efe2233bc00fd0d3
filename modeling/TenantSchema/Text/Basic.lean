/-!
# Texts

A text is a list of characters, so that everything said about it can be proved by
induction.  Offsets, lengths and cuts count characters.  Messages and other output that is
never inspected again stay in `String`.
-/

namespace TenantSchema

/-- A text, one character after the other. -/
abbrev Text := List Char

namespace Text

/-- The test of two texts for equality agrees with equality. -/
instance lawfulEquality : LawfulBEq Text :=
  inferInstance

/-- The characters of a string literal or of decoded input. -/
def ofString (source : String) : Text :=
  source.toList

/-- The text as output. -/
def toOutput (text : Text) : String :=
  String.ofList text

/-- What follows `lead` when the text starts with it. -/
def dropLead? : Text → Text → Option Text
  | [], text =>
      some text
  | _ :: _, [] =>
      none
  | expected :: lead, actual :: text =>
      if expected = actual then dropLead? lead text else none

/-- Whether the text starts with `lead`. -/
def startsWith (lead text : Text) : Bool :=
  (dropLead? lead text).isSome

/-- Whether the text ends with `tail`. -/
def endsWith (tail text : Text) : Bool :=
  tail.isSuffixOf text

/-- Whether `part` occurs somewhere in the text. -/
def occursIn (part : Text) : Text → Bool
  | [] =>
      part.isEmpty
  | character :: rest =>
      startsWith part (character :: rest) || occursIn part rest

/--
Replace every occurrence of `part`, found from left to right without overlap.  `pending`
counts the characters of the current occurrence that are still to be passed over.
-/
def replaceFrom (part replacement : Text) : Nat → Text → Text
  | _, [] =>
      []
  | pending + 1, _ :: rest =>
      replaceFrom part replacement pending rest
  | 0, character :: rest =>
      if startsWith part (character :: rest) then
        replacement ++ replaceFrom part replacement (part.length - 1) rest
      else
        character :: replaceFrom part replacement 0 rest

/-- Replace every occurrence of a non-empty `part`, from left to right without overlap. -/
def replaceAll (part replacement text : Text) : Text :=
  replaceFrom part replacement 0 text

/-- The parts with `separator` between neighbours. -/
def joinWith (separator : Text) : List Text → Text
  | [] =>
      []
  | [part] =>
      part
  | part :: rest =>
      part ++ separator ++ joinWith separator rest

/-- The parts of a list between separators, empty ones included. -/
def splitAt {α : Type} [DecidableEq α] (separator : α) : List α → List (List α)
  | [] =>
      [[]]
  | item :: rest =>
      if item = separator then
        [] :: splitAt separator rest
      else
        match splitAt separator rest with
        | [] =>
            [[item]]
        | part :: others =>
            (item :: part) :: others

/-- Drop the characters of a class at both ends. -/
def trimBy (belongs : Char → Bool) (text : Text) : Text :=
  ((text.dropWhile belongs).reverse.dropWhile belongs).reverse

/-- A text starts with `lead` exactly when it is `lead` followed by the returned rest. -/
theorem dropLead?_eq_some_iff
    {lead text rest : Text} :
    dropLead? lead text = some rest ↔ text = lead ++ rest := by
  induction lead generalizing text with
  | nil =>
      simp [dropLead?]
  | cons expected lead inductionHypothesis =>
      cases text with
      | nil =>
          simp [dropLead?]
      | cons actual text =>
          by_cases same : expected = actual
          · simp [dropLead?, same, inductionHypothesis]
          · simp [dropLead?, same, Ne.symm same]

end Text

end TenantSchema
