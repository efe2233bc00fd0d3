import TenantSchema.Text.Feed
import TenantSchema.Yaml.Fault

/-!
# Sources of configuration files

The text of a configuration file is loaded portion by portion, as far as it is looked at; the first
load is of two portions.  A load fails when the bytes of a portion cannot be decoded or when a
character is not allowed.  So a source is the text up to the first load that fails, together with
the fault of that load.
-/

namespace TenantSchema.Yaml

/-- Whether a character may stand in a configuration file. -/
def isAllowed (character : Char) : Bool :=
  let code := character.toNat
  code == 9 || code == 10 || code == 13 || code == 0x85 ||
    (0x20 ≤ code && code ≤ 0x7E) ||
    (0xA0 ≤ code && code ≤ 0xD7FF) ||
    (0xE000 ≤ code && code ≤ 0xFFFD) ||
    0x10000 ≤ code

/-- The text of a file that can be loaded, and the fault of loading more, if there is more. -/
structure Source where
  text : Text
  fault : Option Fault
  deriving Repr, DecidableEq

namespace Source

/-- The characters of a portion. -/
def portionSize : Nat :=
  4096

/-- Load a count of portions. -/
def load : Nat → Text.Feed → Except Fault (Text × Text.Feed)
  | 0, feed =>
      .ok ([], feed)
  | count + 1, feed => do
      let (portion, feed) ← (feed.takePortion portionSize).mapError .undecodable
      let (rest, feed) ← load count feed
      .ok (portion ++ rest, feed)

/-- A source of which a text can be loaded, and then what another one holds. -/
def prepend (text : Text) (source : Source) : Source :=
  { source with text := text ++ source.text }

/-- Load a count of portions, and go on portion by portion.  The fuel bounds the loads. -/
def loadAll : Nat → (count : Nat) → Text.Feed → Source
  | 0, _, _ =>
      { text := [], fault := none }
  | fuel + 1, count, feed =>
      match load count feed with
      | .error fault =>
          { text := [], fault := some fault }
      | .ok (loaded, feed) =>
          if loaded.isEmpty then
            { text := [], fault := none }
          else if loaded.all isAllowed then
            (loadAll fuel 1 feed).prepend loaded
          else
            { text := [], fault := some .malformed }

/-- The source that bytes make. -/
def ofBytes (bytes : List UInt8) : Source :=
  loadAll (bytes.length + 1) 2 (.ofBytes bytes)

/-- The fault that a refusal of the loaded text comes to: one of loading if that came first. -/
def faultOf (source : Source) (refusal : Refusal) : Fault :=
  if refusal.reach ≤ source.text.length then
    refusal.fault
  else
    source.fault.getD refusal.fault

end Source

end TenantSchema.Yaml
