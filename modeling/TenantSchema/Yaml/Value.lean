import TenantSchema.Text.CodePoint
import TenantSchema.Text.Integer
import TenantSchema.Yaml.Calendar

/-!
# Values of a configuration file

A configuration file holds scalars, sequences, pairs, sets and mappings.  A value can be written
as text: a string is its own text at the top and is quoted inside a collection.
-/

namespace TenantSchema.Yaml

/-- A value of a configuration file. -/
inductive Value where
  | null
  | bool (value : Bool)
  | int (value : Int)
  | float (value : Decimal.Double)
  /-- The float that is no number; one that its notation makes is one with all of these. -/
  | notANumber (isOfNotation : Bool)
  | text (value : CodeText)
  | bytes (value : List UInt8)
  | day (value : Day)
  | moment (value : Moment)
  | sequence (items : List Value)
  | pairs (entries : List (Value × Value))
  | set (members : List Value)
  | mapping (entries : List (Value × Value))
  /-- A sequence that the value lies in itself. -/
  | enclosingSequence
  /-- A mapping that the value lies in itself. -/
  | enclosingMapping
  deriving Repr

/-- The name of the kind of a value in messages. -/
def Value.kindName : Value → String
  | .null =>
      "NoneType"
  | .bool _ =>
      "bool"
  | .int _ =>
      "int"
  | .float _ | .notANumber _ =>
      "float"
  | .text _ =>
      "str"
  | .bytes _ =>
      "bytes"
  | .day _ =>
      "date"
  | .moment _ =>
      "datetime"
  | .sequence _ | .pairs _ | .enclosingSequence =>
      "list"
  | .set _ =>
      "set"
  | .mapping _ | .enclosingMapping =>
      "dict"

/-- Whether a value counts as present: it is neither null nor false nor zero nor empty. -/
def Value.isPresent : Value → Bool
  | .null =>
      false
  | .bool value =>
      value
  | .int value =>
      value ≠ 0
  | .float (.finite _ significand _) =>
      significand ≠ 0
  | .float _ =>
      true
  | .text value =>
      !value.isEmpty
  | .bytes value =>
      !value.isEmpty
  | .notANumber _ | .day _ | .moment _ | .enclosingSequence | .enclosingMapping =>
      true
  | .sequence items =>
      !items.isEmpty
  | .set members =>
      !members.isEmpty
  | .pairs entries | .mapping entries =>
      !entries.isEmpty

mutual

/-- The written form of a value inside a collection. -/
def Value.written : Value → String
  | .null =>
      "None"
  | .bool value =>
      if value then "True" else "False"
  | .int value =>
      toString value
  | .float value =>
      Text.toOutput value.text
  | .notANumber _ =>
      Text.toOutput Decimal.Double.notANumber.text
  | .text value =>
      value.quoted
  | .bytes value =>
      Text.quotedBytes value
  | .day value =>
      value.written
  | .moment value =>
      value.written
  | .sequence items =>
      "[" ++ String.intercalate ", " (writtenItems items) ++ "]"
  | .pairs entries =>
      let pairs := (writtenEntries ", " entries).map fun pair => "(" ++ pair ++ ")"
      "[" ++ String.intercalate ", " pairs ++ "]"
  | .set [] =>
      "set()"
  | .set members =>
      "\x7b" ++ String.intercalate ", " (writtenItems members) ++ "\x7d"
  | .mapping entries =>
      "\x7b" ++ String.intercalate ", " (writtenEntries ": " entries) ++ "\x7d"
  | .enclosingSequence =>
      "[...]"
  | .enclosingMapping =>
      "\x7b...\x7d"

/-- The written forms of the items of a sequence. -/
def writtenItems : List Value → List String
  | [] =>
      []
  | item :: rest =>
      item.written :: writtenItems rest

/-- The written forms of entries, with a mark between key and value. -/
def writtenEntries (mark : String) : List (Value × Value) → List String
  | [] =>
      []
  | (key, value) :: rest =>
      (key.written ++ mark ++ value.written) :: writtenEntries mark rest

end

mutual

/-- Whether every number in a value has few enough digits to be written. -/
def Value.isWritable : Value → Bool
  | .int value =>
      Text.isWritable value
  | .sequence items =>
      areWritable items
  | .set members =>
      areWritable members
  | .pairs entries | .mapping entries =>
      areEntriesWritable entries
  | _ =>
      true

/-- Whether all values of a list can be written. -/
def areWritable : List Value → Bool
  | [] =>
      true
  | item :: rest =>
      item.isWritable && areWritable rest

/-- Whether all keys and values of entries can be written. -/
def areEntriesWritable : List (Value × Value) → Bool
  | [] =>
      true
  | (key, value) :: rest =>
      key.isWritable && value.isWritable && areEntriesWritable rest

end

/-- The text of a value; a string is its own text. -/
def Value.asText : Value → Text
  | .text value =>
      value.joined
  | .day value =>
      value.text.toList
  | .moment value =>
      value.text.toList
  | other =>
      other.written.toList

/-- A finite double with a whole value, a truth value or a whole number, as a number. -/
def Value.wholeNumber? : Value → Option Int
  | .bool value =>
      some (if value then 1 else 0)
  | .int value =>
      some value
  | .float (.finite negative significand exponent) =>
      let whole := Decimal.truncate negative significand exponent
      let isWhole :=
        0 ≤ exponent || significand % Nat.pow 2 (-exponent).toNat == 0
      if isWhole then some whole else none
  | _ =>
      none

/--
Whether two keys are one: equal scalars of one kind, or equal numbers of any kind.  What is no
number is equal to nothing, but all that its notation makes are one.
-/
def Value.sameKey (left right : Value) : Bool :=
  match left, right with
  | .null, .null =>
      true
  | .notANumber left, .notANumber right =>
      left && right
  | .text left, .text right =>
      left == right
  | .bytes left, .bytes right =>
      left == right
  | .day left, .day right =>
      left == right
  | .moment left, .moment right =>
      left.same right
  | left, right =>
      match left.wholeNumber?, right.wholeNumber? with
      | some left, some right =>
          left == right
      | none, none =>
          match left, right with
          | .float left, .float right =>
              left == right
          | _, _ =>
              false
      | _, _ =>
          false

/-- The value of a string key of a mapping. -/
def lookup? (entries : List (Value × Value)) (name : Text) : Option Value :=
  (entries.find? fun entry => entry.1.sameKey (.text (CodeText.ofText name))).map (·.2)

end TenantSchema.Yaml
