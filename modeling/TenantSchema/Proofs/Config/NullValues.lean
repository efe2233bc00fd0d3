import TenantSchema.Proofs.Config.Fields
import TenantSchema.Proofs.Outcome

namespace TenantSchema.Config

open Yaml

/-!
# Null in the place of a value

A section that is null counts as absent.  A field that is null does not: a text becomes the word
that null is written with, and the preview limit is refused, also when it is overridden.
-/

/-- Whether two files give one section, but null for it in the first and nothing in the second. -/
structure SectionIsNull (nulled erased : List (Value × Value)) : Prop where
  isNull :
    lookup? nulled sectionKey.toList = some .null
  isAbsent :
    lookup? erased sectionKey.toList = none

/-- Whether a section is another one in which a field is null instead of absent. -/
structure FieldIsNull (field : Field) (nulled erased : List (Value × Value)) : Prop where
  isNull :
    field.given? nulled = some .null
  isAbsent :
    field.given? erased = none
  others :
    ∀ other : Field, other ≠ field → other.given? nulled = other.given? erased

/-- The word that null is written with. -/
def nullWord : Text :=
  "None".toList

/--
Whether nothing can be seen of a null for a field in a file that without it comes to `loaded`: of a
text, because it is overridden or `loaded` is an error anyway; of the preview limit, because a text
fails before.
-/
def NullIsMasked
    (environment : Environment)
    (erased : List (Value × Value))
    (loaded : Except ConfigError Config) :
    Field → Prop
  | .template =>
      Field.template.IsOverridden environment ∨ (fault? loaded).isSome = true
  | .placeholder =>
      Field.placeholder.IsOverridden environment ∨ (fault? loaded).isSome = true
  | .preview =>
      TextsFail environment erased

section

variable
  {root : Path}
  {environment : Environment}
  {nulled erased : List (Value × Value)}

/-- A section that is null is read as one that is absent. -/
theorem sectionOf_eq_of_isNull
    (differ : SectionIsNull nulled erased) :
    sectionOf nulled = sectionOf erased := by
  rw [sectionOf, sectionOf, differ.isNull, differ.isAbsent]
  rfl

/-- A preview limit that is null is refused whatever overrides it. -/
theorem previewField_of_null
    (isNull : Field.preview.given? nulled = some .null) :
    previewField environment nulled = .error .notNumber := by
  rw [Field.given?, Field.key] at isNull
  rw [previewField, isNull]
  rfl

/-- A preview limit that is absent is not refused for being no number. -/
theorem previewField_of_absent
    (isAbsent : Field.preview.given? erased = none) :
    previewField environment erased ≠ .error .notNumber := by
  intro refused
  have fault := fault?_eq_some_iff.mpr refused
  rw [fault?_previewField, givenLimitFault?, isAbsent, Option.bind_none, Option.none_or,
    overrideFault?, Option.bind_eq_some_iff] at fault
  obtain ⟨override, _, unread⟩ := fault
  obtain ⟨fault, isFault⟩ := exists_fault_of_integerOfText (fault?_eq_some_iff.mp unread)
  cases isFault

/-- Outcomes that fail alike, and differ otherwise, are one exactly if they fail. -/
theorem eq_iff_of_sameOutcome
    {first second : Except ConfigError Config}
    (alike : SameOutcome (· ≠ ·) first second) :
    first = second ↔ (fault? second).isSome = true := by
  cases alike with
  | error error =>
      exact iff_of_true rfl rfl
  | ok differ =>
      exact iff_of_false (fun same => differ (Except.ok.inj same)) Bool.false_ne_true

/--
A text that is null is the word for null, and one that is absent the default.  If what comes of the
two differs, the null can be seen unless it is overridden or an error hides it.
-/
theorem bind_textField_eq_iff
    {variableName key : String}
    {fallback : Text}
    {next : Text → Except ConfigError Config}
    (isNull : lookup? nulled key.toList = some .null)
    (isAbsent : lookup? erased key.toList = none)
    (differ : SameOutcome (· ≠ ·) (next nullWord) (next fallback)) :
    (textField environment variableName nulled key fallback).bind next =
        (textField environment variableName erased key fallback).bind next ↔
      (environment.getNonempty? variableName).isSome = true ∨
        (fault? ((textField environment variableName erased key fallback).bind next)).isSome =
          true := by
  rw [textField, textField, isNull, isAbsent]
  cases environment.getNonempty? variableName with
  | some override =>
      exact iff_of_true rfl (.inl rfl)
  | none =>
      exact (eq_iff_of_sameOutcome differ).trans (or_iff_right Bool.false_ne_true).symm

/-- The word for null and the default template are different paths. -/
theorem under_nullWord_ne (root : Path) :
    Path.under root (.ofText nullWord) ≠ Path.under root (.ofText defaultTemplate) := by
  intro same
  have sameComponents := List.append_cancel_left (congrArg Path.components same)
  revert sameComponents
  decide

theorem assemble_differ_in_template
    (given : Text)
    (limit : Int) :
    SameOutcome (· ≠ ·) (assemble root nullWord given limit)
      (assemble root defaultTemplate given limit) := by
  rw [assemble, assemble]
  apply SameOutcome.bind
  intro placeholder
  cases checkPreview limit with
  | error error =>
      exact .error error
  | ok limit =>
      exact .ok fun same => under_nullWord_ne root (congrArg Config.templatePath same)

theorem assemble_differ_in_placeholder
    (template : Text)
    (limit : Int) :
    SameOutcome (· ≠ ·) (assemble root template nullWord limit)
      (assemble root template Script.defaultPlaceholder limit) := by
  have nullPasses : checkPlaceholder nullWord = .ok nullWord := rfl
  have defaultPasses :
      checkPlaceholder Script.defaultPlaceholder = .ok Script.defaultPlaceholder :=
    rfl
  have differ : nullWord ≠ Script.defaultPlaceholder := by
    decide
  rw [assemble, assemble, nullPasses, defaultPasses]
  cases checkPreview limit with
  | error error =>
      exact .error error
  | ok limit =>
      exact .ok fun same => differ (congrArg Config.placeholder same)

/-- A null for the template is seen unless it is overridden or an error hides it. -/
theorem ofSection_eq_iff_of_null_template
    (differ : FieldIsNull .template nulled erased) :
    ofSection root environment nulled = ofSection root environment erased ↔
      Field.template.IsOverridden environment ∨
        (fault? (ofSection root environment erased)).isSome = true := by
  rw [ofSection_eq, ofSection_eq,
    placeholderField_congr fun _ => differ.others .placeholder (by decide),
    previewField_congr (differ.others .preview (by decide))]
  apply bind_textField_eq_iff differ.isNull differ.isAbsent
  exact SameOutcome.bind _ fun given => SameOutcome.bind _ fun limit =>
    assemble_differ_in_template given limit

/-- A null for the placeholder is seen unless it is overridden or an error hides it. -/
theorem ofSection_eq_iff_of_null_placeholder
    (differ : FieldIsNull .placeholder nulled erased) :
    ofSection root environment nulled = ofSection root environment erased ↔
      Field.placeholder.IsOverridden environment ∨
        (fault? (ofSection root environment erased)).isSome = true := by
  rw [ofSection_eq, ofSection_eq,
    templateField_congr fun _ => differ.others .template (by decide),
    previewField_congr (differ.others .preview (by decide))]
  cases templateField environment erased with
  | error error =>
      exact iff_of_true rfl (.inr rfl)
  | ok template =>
      apply bind_textField_eq_iff differ.isNull differ.isAbsent
      exact SameOutcome.bind _ fun limit => assemble_differ_in_placeholder template limit

/-- A null for the preview limit is seen unless a text fails before. -/
theorem ofSection_eq_iff_of_null_preview
    (differ : FieldIsNull .preview nulled erased) :
    ofSection root environment nulled = ofSection root environment erased ↔
      TextsFail environment erased := by
  have refused : previewField environment nulled = .error .notNumber :=
    previewField_of_null differ.isNull
  rw [ofSection_eq, ofSection_eq,
    templateField_congr fun _ => differ.others .template (by decide),
    placeholderField_congr fun _ => differ.others .placeholder (by decide), refused, TextsFail]
  cases templateField environment erased with
  | error error =>
      exact iff_of_true rfl (.inl rfl)
  | ok template =>
      cases placeholderField environment erased with
      | error error =>
          exact iff_of_true rfl (.inr rfl)
      | ok given =>
          apply iff_of_false
          · intro same
            have sameRefusal := previewField_of_bind_assemble rfl same.symm
            exact previewField_of_absent differ.isAbsent sameRefusal
          · simp [fault?]

/--
A section that is null counts as absent, and a field that is null does so exactly if the null is
masked.
-/
theorem null_counts_as_absent_iff
    (tree : FileTree)
    (root : Path)
    (environment : Environment)
    (nulledPath erasedPath : Path) :
    (∀ nulled erased,
        entriesAt tree nulledPath = .ok nulled →
        entriesAt tree erasedPath = .ok erased →
        SectionIsNull nulled erased →
        load tree root environment nulledPath = load tree root environment erasedPath) ∧
      ∀ field nulled erased,
        sectionAt tree nulledPath = .ok nulled →
        sectionAt tree erasedPath = .ok erased →
        FieldIsNull field nulled erased →
        (load tree root environment nulledPath = load tree root environment erasedPath ↔
          NullIsMasked environment erased (load tree root environment erasedPath) field) := by
  constructor
  · intro nulled erased nulledParsed erasedParsed differ
    rw [load, load, nulledParsed, erasedParsed]
    exact congrArg (·.bind (ofSection root environment)) (sectionOf_eq_of_isNull differ)
  · intro field nulled erased nulledLocated erasedLocated differ
    rw [load_of_sectionAt nulledLocated, load_of_sectionAt erasedLocated]
    cases field with
    | template =>
        exact ofSection_eq_iff_of_null_template differ
    | placeholder =>
        exact ofSection_eq_iff_of_null_placeholder differ
    | preview =>
        exact ofSection_eq_iff_of_null_preview differ

namespace Sample

/-- Files in which something is null, and files in which it is absent. -/
def nulls : FileTree :=
  directory [
    ("null.yaml", "provisioning: null\n"),
    ("absent.yaml", "audit: true\n"),
    ("null-template.yaml", "provisioning:\n  template_path: null\n"),
    ("empty.yaml", "provisioning: \x7b\x7d\n")
  ]

/-- Whether what is given is null. -/
def isNull : Option Value → Bool
  | some .null =>
      true
  | _ =>
      false

theorem eq_null_of_isNull
    {given : Option Value}
    (isNull : Sample.isNull given = true) :
    given = some .null := by
  unfold Sample.isNull at isNull
  split at isNull
  · rfl
  · cases isNull

/-- Whether a section gives nothing for the last two fields. -/
def lacksOthers (entries : List (Value × Value)) : Bool :=
  (Field.placeholder.given? entries).isNone && (Field.preview.given? entries).isNone

theorem fieldIsNull_template
    {nulled erased : List (Value × Value)}
    (nulls : (isNull (Field.template.given? nulled) && lacksOthers nulled) = true)
    (lacks : ((Field.template.given? erased).isNone && lacksOthers erased) = true) :
    FieldIsNull .template nulled erased := by
  simp only [lacksOthers, Bool.and_eq_true, Option.isNone_iff_eq_none] at nulls lacks
  obtain ⟨isNull, nulledPlaceholder, nulledPreview⟩ := nulls
  obtain ⟨isAbsent, erasedPlaceholder, erasedPreview⟩ := lacks
  refine ⟨eq_null_of_isNull isNull, isAbsent, ?_⟩
  intro other isOther
  cases other with
  | template =>
      exact (isOther rfl).elim
  | placeholder =>
      rw [nulledPlaceholder, erasedPlaceholder]
  | preview =>
      rw [nulledPreview, erasedPreview]

/-- A null for the template, and its absence, in files that can be read. -/
theorem template_located :
    ∃ nulled erased,
      sectionAt nulls (Path.ofText "null-template.yaml".toList) = .ok nulled ∧
        sectionAt nulls (Path.ofText "empty.yaml".toList) = .ok erased ∧
        FieldIsNull .template nulled erased := by
  have nulledParses :
      (sectionAt nulls (Path.ofText "null-template.yaml".toList)).toOption.any
        (fun entries => isNull (Field.template.given? entries) && lacksOthers entries) =
          true := by
    decide +kernel
  have erasedParses :
      (sectionAt nulls (Path.ofText "empty.yaml".toList)).toOption.any
        (fun entries => (Field.template.given? entries).isNone && lacksOthers entries) =
          true := by
    decide +kernel
  obtain ⟨nulled, nulledKept, isNulled⟩ := (Option.any_eq_true _ _).mp nulledParses
  obtain ⟨erased, erasedKept, isErased⟩ := (Option.any_eq_true _ _).mp erasedParses
  exact ⟨nulled, erased, eq_ok_of_toOption nulledKept, eq_ok_of_toOption erasedKept,
    fieldIsNull_template isNulled isErased⟩

end Sample

/-- A section that is null, and a template that is null under an override. -/
theorem null_section_and_overridden_template :
    let root := Path.ofText ".".toList
    let environment := Environment.empty.set templateVariable "t.sql".toList
    let nullSection := Path.ofText "null.yaml".toList
    let noSection := Path.ofText "absent.yaml".toList
    let nullTemplate := Path.ofText "null-template.yaml".toList
    let noTemplate := Path.ofText "empty.yaml".toList
    (∃ nulled erased,
      entriesAt Sample.nulls nullSection = .ok nulled ∧
        entriesAt Sample.nulls noSection = .ok erased ∧
        SectionIsNull nulled erased ∧
        load Sample.nulls root environment nullSection =
          load Sample.nulls root environment noSection) ∧
      ∃ nulled erased,
        sectionAt Sample.nulls nullTemplate = .ok nulled ∧
          sectionAt Sample.nulls noTemplate = .ok erased ∧
          FieldIsNull .template nulled erased ∧
          (load Sample.nulls root environment nullTemplate =
              load Sample.nulls root environment noTemplate ↔
            NullIsMasked environment erased (load Sample.nulls root environment noTemplate)
              .template) := by
  intro root environment nullSection noSection nullTemplate noTemplate
  have nulledParses :
      (entriesAt Sample.nulls nullSection).toOption.any
        (fun entries => Sample.isNull (lookup? entries sectionKey.toList)) = true := by
    decide +kernel
  have erasedParses :
      (entriesAt Sample.nulls noSection).toOption.any
        (fun entries => (lookup? entries sectionKey.toList).isNone) = true := by
    decide +kernel
  obtain ⟨nulled, nulledKept, isNulled⟩ := (Option.any_eq_true _ _).mp nulledParses
  obtain ⟨erased, erasedKept, isErased⟩ := (Option.any_eq_true _ _).mp erasedParses
  have nulledParsed := eq_ok_of_toOption nulledKept
  have erasedParsed := eq_ok_of_toOption erasedKept
  have isNull : SectionIsNull nulled erased :=
    ⟨Sample.eq_null_of_isNull isNulled, Option.isNone_iff_eq_none.mp isErased⟩
  have ofSections :=
    null_counts_as_absent_iff Sample.nulls root environment nullSection noSection
  have ofFields :=
    null_counts_as_absent_iff Sample.nulls root environment nullTemplate noTemplate
  have sameSection := ofSections.1 nulled erased nulledParsed erasedParsed isNull
  obtain ⟨nulledSection, erasedSection, nulledLocated, erasedLocated, differ⟩ :=
    Sample.template_located
  exact ⟨⟨nulled, erased, nulledParsed, erasedParsed, isNull, sameSection⟩, nulledSection,
    erasedSection, nulledLocated, erasedLocated, differ,
    ofFields.2 .template nulledSection erasedSection nulledLocated erasedLocated differ⟩

/-- A null for the template is a path of one word, where its absence is the default. -/
theorem null_template_is_a_word :
    let root := Path.ofText ".".toList
    let nullTemplate := Path.ofText "null-template.yaml".toList
    let noTemplate := Path.ofText "empty.yaml".toList
    (∃ nulled erased,
      sectionAt Sample.nulls nullTemplate = .ok nulled ∧
        sectionAt Sample.nulls noTemplate = .ok erased ∧
        FieldIsNull .template nulled erased) ∧
      (load Sample.nulls root .empty nullTemplate).map (·.templatePath) =
        .ok (Path.ofText "None".toList) ∧
      (load Sample.nulls root .empty noTemplate).map (·.templatePath) =
        .ok (Path.ofText defaultTemplate) := by
  intro root nullTemplate noTemplate
  have nulledPath :
      ((load Sample.nulls root .empty nullTemplate).map (·.templatePath)).toOption =
        some (Path.ofText "None".toList) := by
    decide +kernel
  have erasedPath :
      ((load Sample.nulls root .empty noTemplate).map (·.templatePath)).toOption =
        some (Path.ofText defaultTemplate) := by
    decide +kernel
  exact ⟨Sample.template_located, eq_ok_of_toOption nulledPath,
    eq_ok_of_toOption erasedPath⟩

end

end TenantSchema.Config
