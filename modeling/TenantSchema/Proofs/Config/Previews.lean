import TenantSchema.Proofs.Config.Fields
import TenantSchema.Proofs.Outcome
import TenantSchema.Proofs.Text.Words

namespace TenantSchema

open Text

/-!
# Previews of statements

A configuration limits how much of a statement is shown; it can set any limit that is greater than
zero.  A statement that fits is shown whole, with its white space collapsed.  Of any other one the
front is shown, followed by three dots for which room is left.  A limit below three has no room for
them, and they exceed it.
-/

namespace Config

open Yaml

/-- Whether what a file and the environment give can set a limit on previews. -/
def IsPreviewLimit (limit : Int) : Prop :=
  ∃ root environment entries config,
    ofEntries root environment entries = .ok config ∧ config.previewLimit = limit

theorem checkPreview_of_pos
    {limit : Int}
    (positive : 0 < limit) :
    checkPreview limit = .ok limit :=
  if_pos positive

theorem pos_of_checkPreview
    {limit accepted : Int}
    (checked : checkPreview limit = .ok accepted) :
    0 < accepted := by
  unfold checkPreview at checked
  split at checked
  case isTrue positive =>
    cases checked
    exact positive
  case isFalse =>
    split at checked <;> cases checked

/-- The limit of a configuration was checked. -/
theorem previewLimit_pos_of_assemble
    {root : Path}
    {template given : Text}
    {limit : Int}
    {config : Config}
    (made : assemble root template given limit = .ok config) :
    0 < config.previewLimit := by
  obtain ⟨placeholder, _, made⟩ := exists_of_bind_eq_ok made
  cases checked : checkPreview limit with
  | error error =>
      rw [checked] at made
      cases made
  | ok accepted =>
      rw [checked] at made
      cases made
      exact pos_of_checkPreview checked

theorem previewLimit_pos_of_ofEntries
    {root : Path}
    {environment : Environment}
    {entries : List (Value × Value)}
    {config : Config}
    (made : ofEntries root environment entries = .ok config) :
    0 < config.previewLimit := by
  obtain ⟨located, _, made⟩ := exists_of_bind_eq_ok made
  rw [ofSection_eq] at made
  obtain ⟨template, _, made⟩ := exists_of_bind_eq_ok made
  obtain ⟨given, _, made⟩ := exists_of_bind_eq_ok made
  obtain ⟨limit, _, made⟩ := exists_of_bind_eq_ok made
  exact previewLimit_pos_of_assemble made

/-- The entries of a file that gives a limit on previews and nothing else. -/
def entriesGiving (limit : Int) : List (Value × Value) :=
  let given : List (Value × Value) := [(.text (.ofText previewKey.toList), .int limit)]
  [(.text (.ofText sectionKey.toList), .mapping given)]

theorem ofEntries_entriesGiving
    {limit : Int}
    (positive : 0 < limit)
    (root : Path) :
    ofEntries root .empty (entriesGiving limit) =
      .ok {
        templatePath := Path.under root (.ofText defaultTemplate)
        placeholder := Script.defaultPlaceholder
        previewLimit := limit
      } := by
  have same :
      ofEntries root .empty (entriesGiving limit) =
        assemble root defaultTemplate Script.defaultPlaceholder limit :=
    rfl
  rw [same, assemble, checkPreview_of_pos positive]
  rfl

/-- A configuration can set exactly the limits that are greater than zero. -/
theorem isPreviewLimit_iff
    {limit : Int} :
    IsPreviewLimit limit ↔ 1 ≤ limit := by
  constructor
  · rintro ⟨root, environment, entries, config, made, rfl⟩
    exact previewLimit_pos_of_ofEntries made
  · intro positive
    exact ⟨.ofText [], .empty, entriesGiving limit, _, ofEntries_entriesGiving positive _, rfl⟩

end Config

namespace Block

section

variable
  {block : Block}
  {limit : Int}

theorem preview_of_fits
    (fits : ((flatten block.text).length : Int) ≤ limit) :
    block.preview limit = flatten block.text :=
  if_pos fits

theorem preview_of_exceeds
    (exceeds : limit < (flatten block.text).length) :
    block.preview limit = (flatten block.text).take (limit - 3).toNat ++ "...".toList :=
  if_neg (Int.not_le.mpr exceeds)

/-- What is cut has the limit as its length, if that leaves room for the dots. -/
theorem length_preview_of_exceeds
    (exceeds : limit < (flatten block.text).length) :
    ((block.preview limit).length : Int) = max limit 3 := by
  have dots : "...".toList.length = 3 := rfl
  rw [preview_of_exceeds exceeds, List.length_append, List.length_take, dots]
  omega

theorem singleSpaced_preview :
    SingleSpaced (block.preview limit) := by
  have whole : SingleSpaced (flatten block.text) := singleSpaced_flatten block.text
  by_cases fits : ((flatten block.text).length : Int) ≤ limit
  · rw [preview_of_fits fits]
    exact whole
  · have exceeds := Int.not_le.mp fits
    have dotsSolid : ∀ character ∈ "...".toList, Text.isBlank character = false := by
      simp [Text.isBlank]
    have front := whole.of_prefix (List.take_prefix (limit - 3).toNat _)
    rw [preview_of_exceeds exceeds]
    refine front.append (.of_solid dotsSolid) ?_
    intro _ _ next isHead _
    exact dotsSolid next (List.mem_of_head? isHead)

end

/--
For every limit that a configuration can set, and for any other one, a preview holds no white space
but single spaces.  It is the collapsed text if that fits, and otherwise a front of it with three
dots behind.  It keeps to the limit exactly if the collapsed text or at least the dots do.
-/
theorem preview_keeps_to_limit_iff
    (block : Block)
    (limit : Int) :
    (Config.IsPreviewLimit limit ↔ 1 ≤ limit) ∧
      ∃ flat,
        Collapses block.text flat ∧
          SingleSpaced (block.preview limit) ∧
          ((flat.length : Int) ≤ limit → block.preview limit = flat) ∧
          (limit < flat.length →
            ((block.preview limit).length : Int) = max limit 3 ∧
              ∃ front, front <+: flat ∧ block.preview limit = front ++ "...".toList) ∧
          (((block.preview limit).length : Int) ≤ limit ↔
            (flat.length : Int) ≤ limit ∨ 3 ≤ limit) := by
  refine ⟨Config.isPreviewLimit_iff, flatten block.text, collapses_flatten block.text,
    singleSpaced_preview, preview_of_fits, ?_, ?_⟩
  · intro exceeds
    exact ⟨length_preview_of_exceeds exceeds, _, List.take_prefix (limit - 3).toNat _,
      preview_of_exceeds exceeds⟩
  · by_cases fits : ((flatten block.text).length : Int) ≤ limit
    · rw [preview_of_fits fits]
      exact iff_of_true fits (.inl fits)
    · rw [length_preview_of_exceeds (Int.not_le.mp fits), or_iff_right fits]
      omega

namespace Sample

/-- A statement with more than one kind of white space. -/
def insertion : Block :=
  { kind := .insert, text := "INSERT INTO t\n\t VALUES (1);".toList, order := 0 }

end Sample

/-- A cut may come behind a space. -/
example : Sample.insertion.preview 15 = "INSERT INTO ...".toList := by
  decide +kernel

/-- A limit of two is accepted, and three characters are shown; cut off at it there are two. -/
theorem dots_exceed_limit :
    let tree :=
      Config.Sample.directory
        [("short.yaml", "provisioning:\n  statement_preview_chars: 2\n")]
    let path := Path.ofText "short.yaml".toList
    (Config.load tree (.ofText []) .empty path).toOption.map (·.previewLimit) = some 2 ∧
      Sample.insertion.preview 2 = "...".toList ∧
      ¬ ((Sample.insertion.preview 2).length : Int) ≤ 2 ∧
      Applier.cutAt (flatten Sample.insertion.text) 2 = "IN".toList := by
  decide +kernel

end Block

end TenantSchema
