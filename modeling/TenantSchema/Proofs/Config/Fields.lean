import TenantSchema.Config

namespace TenantSchema

/-!
# The fields of a configuration

A configuration is made from what the section of a file gives for three fields.  The two texts are
made first and then the preview limit; whether the placeholder and the limit can be used is
checked at the end.  The first fault on this way is the error of the whole, and a fault of making
the limit is never one of the checks.
-/

/-- Whether an error is about something that no whole number can be made of. -/
def ConfigError.isOfNumber : ConfigError → Bool
  | .notNumber | .integer _ | .infiniteNumber | .notANumber =>
      true
  | _ =>
      false

namespace Config

open Yaml

/-- The fault of an outcome, if it has one. -/
def fault? {Made : Type} : Except ConfigError Made → Option ConfigError
  | .error error =>
      some error
  | .ok _ =>
      none

theorem fault?_eq_some_iff
    {Made : Type}
    {outcome : Except ConfigError Made}
    {error : ConfigError} :
    fault? outcome = some error ↔ outcome = .error error := by
  cases outcome with
  | error other =>
      rw [fault?, Option.some_inj, Except.error.injEq]
  | ok made =>
      rw [fault?]
      simp

/-- A field of a configuration. -/
inductive Field where
  | template
  | placeholder
  | preview
  deriving Repr, DecidableEq

namespace Field

/-- The key of a field in the section of a file. -/
def key : Field → String
  | .template =>
      templateKey
  | .placeholder =>
      placeholderKey
  | .preview =>
      previewKey

/-- The variable that overrides a field. -/
def variableName : Field → String
  | .template =>
      templateVariable
  | .placeholder =>
      placeholderVariable
  | .preview =>
      previewVariable

/-- Whether the environment overrides a field. -/
def IsOverridden (field : Field) (environment : Environment) : Prop :=
  (environment.getNonempty? field.variableName).isSome = true

instance (field : Field) (environment : Environment) :
    Decidable (field.IsOverridden environment) :=
  inferInstanceAs (Decidable (_ = true))

theorem not_isOverridden_iff
    {field : Field}
    {environment : Environment} :
    ¬ field.IsOverridden environment ↔
      environment.getNonempty? field.variableName = none := by
  rw [IsOverridden, Bool.not_eq_true, Option.isSome_eq_false_iff, Option.isNone_iff_eq_none]

/-- What a section gives for a field. -/
def given? (field : Field) (entries : List (Value × Value)) : Option Value :=
  lookup? entries field.key.toList

end Field

/-- The section of the file at a path. -/
def sectionAt (tree : FileTree) (path : Path) : Except ConfigError (List (Value × Value)) :=
  (entriesAt tree path).bind sectionOf

/-- The template that a section and the environment give. -/
def templateField
    (environment : Environment)
    (entries : List (Value × Value)) :
    Except ConfigError Text :=
  textField environment templateVariable entries templateKey defaultTemplate

/-- The placeholder that a section and the environment give, before it is checked. -/
def placeholderField
    (environment : Environment)
    (entries : List (Value × Value)) :
    Except ConfigError Text :=
  textField environment placeholderVariable entries placeholderKey Script.defaultPlaceholder

/-- Whether one of the two texts cannot be made. -/
def TextsFail (environment : Environment) (entries : List (Value × Value)) : Prop :=
  (fault? (templateField environment entries)).isSome = true ∨
    (fault? (placeholderField environment entries)).isSome = true

/-- The fault of what a file gives for the preview limit. -/
def givenLimitFault? (entries : List (Value × Value)) : Option ConfigError :=
  (Field.preview.given? entries).bind fun value => fault? (integerOfValue value)

/-- The fault of what overrides the preview limit. -/
def overrideFault? (environment : Environment) : Option ConfigError :=
  (environment.getNonempty? previewVariable).bind fun text => fault? (integerOfText text)

/-- The configuration of fields that were made, if they can be used. -/
def assemble (root : Path) (template given : Text) (limit : Int) : Except ConfigError Config :=
  (checkPlaceholder given).bind fun placeholder =>
    (checkPreview limit).map fun previewLimit =>
      {
        templatePath := Path.under root (.ofText template)
        placeholder := placeholder
        previewLimit := previewLimit
      }

section

variable
  {tree : FileTree}
  {root path : Path}
  {environment : Environment}
  {entries first second : List (Value × Value)}

theorem load_of_sectionAt
    (located : sectionAt tree path = .ok entries) :
    load tree root environment path = ofSection root environment entries := by
  have split :
      load tree root environment path =
        (sectionAt tree path).bind (ofSection root environment) := by
    rw [load, sectionAt]
    cases entriesAt tree path with
    | error | ok =>
        rfl
  rw [split, located]
  rfl

/-- A configuration is made field by field. -/
theorem ofSection_eq :
    ofSection root environment entries =
      (templateField environment entries).bind fun template =>
        (placeholderField environment entries).bind fun given =>
          (previewField environment entries).bind (assemble root template given) :=
  rfl

/-- Texts that are overridden, or for which two sections give the same, are one text. -/
theorem textField_congr
    {variableName key : String}
    (same :
      environment.getNonempty? variableName = none →
        lookup? first key.toList = lookup? second key.toList)
    (fallback : Text) :
    textField environment variableName first key fallback =
      textField environment variableName second key fallback := by
  rw [textField, textField]
  cases overriding : environment.getNonempty? variableName with
  | some override =>
      rfl
  | none =>
      rw [same overriding]

theorem templateField_congr
    (same :
      ¬ Field.template.IsOverridden environment →
        Field.template.given? first = Field.template.given? second) :
    templateField environment first = templateField environment second :=
  textField_congr (fun free => same (Field.not_isOverridden_iff.mpr free)) defaultTemplate

theorem placeholderField_congr
    (same :
      ¬ Field.placeholder.IsOverridden environment →
        Field.placeholder.given? first = Field.placeholder.given? second) :
    placeholderField environment first = placeholderField environment second :=
  textField_congr (fun free => same (Field.not_isOverridden_iff.mpr free))
    Script.defaultPlaceholder

/-- The limit is what the last of file and environment gives, if both give numbers. -/
theorem fault?_previewField :
    fault? (previewField environment entries) =
      (givenLimitFault? entries).or (overrideFault? environment) := by
  rw [previewField, givenLimitFault?, overrideFault?, Field.given?, Field.key]
  cases lookup? entries previewKey.toList with
  | none =>
      cases environment.getNonempty? previewVariable with
      | none | some override =>
          rfl
  | some value =>
      dsimp only [Option.getD_some, Option.bind_some]
      cases integerOfValue value with
      | error error =>
          rfl
      | ok number =>
          cases environment.getNonempty? previewVariable with
          | none | some override =>
              rfl

/-- The limits of sections that give the same are the same. -/
theorem previewField_congr
    (same : Field.preview.given? first = Field.preview.given? second) :
    previewField environment first = previewField environment second := by
  rw [Field.given?, Field.given?, Field.key] at same
  rw [previewField, previewField, same]

/-- A limit that is made and overridden is the number of the override. -/
theorem integerOfText_of_previewField
    {override : Text}
    {limit : Int}
    (overriding : environment.getNonempty? previewVariable = some override)
    (made : previewField environment entries = .ok limit) :
    integerOfText override = .ok limit := by
  unfold previewField at made
  dsimp only at made
  split at made
  · cases made
  · rw [overriding] at made
    exact made

theorem exists_fault_of_integerOfText
    {text : Text}
    {error : ConfigError}
    (refused : integerOfText text = .error error) :
    ∃ fault, error = .integer fault := by
  rw [integerOfText] at refused
  cases read : Text.readInteger 10 text with
  | ok number =>
      rw [read] at refused
      cases refused
  | error fault =>
      rw [read] at refused
      exact ⟨fault, (Except.error.inj refused).symm⟩

theorem isOfNumber_of_integerOfDigits
    {digits : Text}
    {shown : String}
    {error : ConfigError}
    (refused : integerOfDigits digits shown = .error error) :
    error.isOfNumber = true := by
  unfold integerOfDigits at refused
  split at refused <;> cases refused <;> rfl

theorem isOfNumber_of_integerOfValue
    {value : Value}
    {error : ConfigError}
    (refused : integerOfValue value = .error error) :
    error.isOfNumber = true := by
  cases value with
  | bool | int =>
      cases refused
  | float value =>
      cases value with
      | finite =>
          cases refused
      | infinite | notANumber =>
          cases refused
          rfl
  | text | bytes =>
      exact isOfNumber_of_integerOfDigits refused
  | null | notANumber | day | moment | sequence | pairs | set | mapping | enclosingSequence
  | enclosingMapping =>
      cases refused
      rfl

theorem isOfNumber_of_previewField
    {error : ConfigError}
    (refused : previewField environment entries = .error error) :
    error.isOfNumber = true := by
  unfold previewField at refused
  dsimp only at refused
  split at refused
  case h_1 unmade =>
    cases refused
    exact isOfNumber_of_integerOfValue unmade
  case h_2 =>
    split at refused
    · cases refused
    · obtain ⟨fault, rfl⟩ := exists_fault_of_integerOfText refused
      rfl

/-- The checks of placeholder and limit find no fault of making a number. -/
theorem isOfNumber_of_assemble
    {template given : Text}
    {limit : Int}
    {error : ConfigError}
    (refused : assemble root template given limit = .error error) :
    error.isOfNumber = false := by
  unfold assemble checkPlaceholder checkPreview at refused
  split at refused
  · cases refused
    rfl
  · split at refused
    · cases refused
    · split at refused <;> cases refused <;> rfl

/-- A fault of making a number that ends a configuration is a fault of the preview limit. -/
theorem previewField_of_bind_assemble
    {made : Except ConfigError Int}
    {template given : Text}
    {error : ConfigError}
    (ofNumber : error.isOfNumber = true)
    (refused : made.bind (assemble root template given) = .error error) :
    made = .error error := by
  cases made with
  | error other =>
      cases refused
      rfl
  | ok limit =>
      have notOfNumber : error.isOfNumber = false := isOfNumber_of_assemble refused
      rw [ofNumber] at notOfNumber
      cases notOfNumber

end

/-- A directory of configuration files, by name and content. -/
def Sample.directory (files : List (String × String)) : FileTree :=
  {
    files := files.map fun (name, content) =>
      ([name.toList], Text.Utf8.encode content.toList)
    directories := []
    working := .ofText []
  }

end Config

end TenantSchema
