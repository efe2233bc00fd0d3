import TenantSchema.Proofs.Config.Fields
import TenantSchema.Proofs.Outcome

namespace TenantSchema.Config

open Yaml

/-!
# What an override masks

A text that a variable overrides is not even looked at in the file.  The preview limit of the file
is made into a number before its override is read.  So files that differ only in what variables
override are loaded alike exactly if the same fault, or none, comes of making the limit; and that
matters only if both texts can be made.
-/

/-- Whether two sections give the same for every field that the environment does not override. -/
def AgreeUnlessOverridden
    (environment : Environment)
    (first second : List (Value × Value)) :
    Prop :=
  ∀ field : Field,
    ¬ field.IsOverridden environment → field.given? first = field.given? second

section

variable
  {tree : FileTree}
  {root firstPath secondPath : Path}
  {environment : Environment}
  {first second : List (Value × Value)}

/-- Of two limits that can be made and agree unless overridden the numbers are one. -/
theorem limit_eq_of_agree
    {firstLimit secondLimit : Int}
    (agree : AgreeUnlessOverridden environment first second)
    (firstMade : previewField environment first = .ok firstLimit)
    (secondMade : previewField environment second = .ok secondLimit) :
    firstLimit = secondLimit := by
  cases overriding : environment.getNonempty? previewVariable with
  | some override =>
      have firstRead := integerOfText_of_previewField overriding firstMade
      rw [integerOfText_of_previewField overriding secondMade] at firstRead
      exact (Except.ok.inj firstRead).symm
  | none =>
      have free : ¬ Field.preview.IsOverridden environment :=
        Field.not_isOverridden_iff.mpr overriding
      rw [previewField_congr (agree .preview free), secondMade] at firstMade
      exact (Except.ok.inj firstMade).symm

/-- Behind the same texts, limits come to one outcome exactly if their faults are the same. -/
theorem bind_assemble_eq_iff
    {template given : Text}
    (agree : AgreeUnlessOverridden environment first second) :
    (previewField environment first).bind (assemble root template given) =
        (previewField environment second).bind (assemble root template given) ↔
      fault? (previewField environment first) = fault? (previewField environment second) := by
  cases firstMade : previewField environment first with
  | error firstError =>
      have ofNumber := isOfNumber_of_previewField firstMade
      constructor
      · intro same
        rw [previewField_of_bind_assemble ofNumber same.symm]
      · intro same
        rw [fault?_eq_some_iff.mp same.symm]
  | ok firstLimit =>
      cases secondMade : previewField environment second with
      | error secondError =>
          have ofNumber := isOfNumber_of_previewField secondMade
          constructor
          · intro same
            cases previewField_of_bind_assemble ofNumber same
          · intro same
            cases same
      | ok secondLimit =>
          rw [limit_eq_of_agree agree firstMade secondMade]
          exact iff_of_true rfl rfl

/--
Files that differ only in what variables override are loaded alike if the preview limit is not
overridden; if it is, exactly if a text fails already or the limits come to the same fault.
-/
theorem files_load_alike_iff
    (firstLocated : sectionAt tree firstPath = .ok first)
    (secondLocated : sectionAt tree secondPath = .ok second)
    (agree : AgreeUnlessOverridden environment first second) :
    (¬ Field.preview.IsOverridden environment →
        load tree root environment firstPath = load tree root environment secondPath) ∧
      (load tree root environment firstPath = load tree root environment secondPath ↔
        TextsFail environment first ∨
          (givenLimitFault? first).or (overrideFault? environment) =
            (givenLimitFault? second).or (overrideFault? environment)) := by
  have exactly :
      load tree root environment firstPath = load tree root environment secondPath ↔
        TextsFail environment first ∨
          (givenLimitFault? first).or (overrideFault? environment) =
            (givenLimitFault? second).or (overrideFault? environment) := by
    rw [load_of_sectionAt firstLocated, load_of_sectionAt secondLocated, ofSection_eq,
      ofSection_eq, ← templateField_congr (agree .template),
      ← placeholderField_congr (agree .placeholder), ← fault?_previewField,
      ← fault?_previewField, TextsFail]
    cases templateField environment first with
    | error error =>
        exact iff_of_true rfl (.inl (.inl rfl))
    | ok template =>
        cases placeholderField environment first with
        | error error =>
            exact iff_of_true rfl (.inl (.inr rfl))
        | ok given =>
            have textsMade :
                ¬ ((fault? (Except.ok template : Except ConfigError Text)).isSome = true ∨
                  (fault? (Except.ok given : Except ConfigError Text)).isSome = true) := by
              simp [fault?]
            rw [or_iff_right textsMade]
            exact bind_assemble_eq_iff agree
  refine ⟨fun free => exactly.mpr (.inr ?_), exactly⟩
  rw [givenLimitFault?, givenLimitFault?, agree .preview free]

namespace Sample

/-- Files that give something, and not the same, for fields that may be overridden. -/
def given : FileTree :=
  directory [
    ("list.yaml", "provisioning:\n  template_path: [a, b]\n  statement_preview_chars: 10\n"),
    ("null.yaml", "provisioning:\n  database_placeholder: null\n"),
    ("word.yaml", "provisioning:\n  statement_preview_chars: ten\n")
  ]

/-- An environment that overrides everything. -/
def overridingAll : Environment :=
  ((Environment.empty.set templateVariable "t.sql".toList).set
    placeholderVariable "db".toList).set previewVariable "50".toList

/-- Everything agrees when everything is overridden. -/
theorem agree_of_overridingAll (first second : List (Value × Value)) :
    AgreeUnlessOverridden overridingAll first second := by
  intro field free
  cases field with
  | template | placeholder | preview =>
      exact (free (by decide)).elim

end Sample

/-- A list in the place of the template, and no limit, do not matter when all is overridden. -/
theorem overridden_list_loads_alike :
    let root := Path.ofText ".".toList
    let list := Path.ofText "list.yaml".toList
    let null := Path.ofText "null.yaml".toList
    ∃ first second,
      sectionAt Sample.given list = .ok first ∧
        sectionAt Sample.given null = .ok second ∧
        AgreeUnlessOverridden Sample.overridingAll first second ∧
        (¬ Field.preview.IsOverridden Sample.overridingAll →
          load Sample.given root Sample.overridingAll list =
            load Sample.given root Sample.overridingAll null) ∧
        (load Sample.given root Sample.overridingAll list =
            load Sample.given root Sample.overridingAll null ↔
          TextsFail Sample.overridingAll first ∨
            (givenLimitFault? first).or (overrideFault? Sample.overridingAll) =
              (givenLimitFault? second).or (overrideFault? Sample.overridingAll)) := by
  intro root list null
  have firstParses : (sectionAt Sample.given list).toOption.isSome = true := by
    decide +kernel
  have secondParses : (sectionAt Sample.given null).toOption.isSome = true := by
    decide +kernel
  obtain ⟨first, firstKept⟩ := Option.isSome_iff_exists.mp firstParses
  obtain ⟨second, secondKept⟩ := Option.isSome_iff_exists.mp secondParses
  have firstLocated := eq_ok_of_toOption firstKept
  have secondLocated := eq_ok_of_toOption secondKept
  have agree := Sample.agree_of_overridingAll first second
  exact ⟨first, second, firstLocated, secondLocated, agree,
    files_load_alike_iff firstLocated secondLocated agree⟩

/-- A word in the place of the limit is an error although the limit is overridden. -/
theorem masked_word_spoils_override :
    let root := Path.ofText ".".toList
    let word := Path.ofText "word.yaml".toList
    let null := Path.ofText "null.yaml".toList
    (∃ first second,
      sectionAt Sample.given word = .ok first ∧
        sectionAt Sample.given null = .ok second ∧
        AgreeUnlessOverridden Sample.overridingAll first second) ∧
      load Sample.given root Sample.overridingAll word =
        .error (.integer (.invalid 10 "'ten'")) ∧
      load Sample.given root Sample.overridingAll null =
        .ok {
          templatePath := Path.ofText "t.sql".toList
          placeholder := "db".toList
          previewLimit := 50
        } := by
  intro root word null
  have firstParses : (sectionAt Sample.given word).toOption.isSome = true := by
    decide +kernel
  have secondParses : (sectionAt Sample.given null).toOption.isSome = true := by
    decide +kernel
  obtain ⟨first, firstKept⟩ := Option.isSome_iff_exists.mp firstParses
  obtain ⟨second, secondKept⟩ := Option.isSome_iff_exists.mp secondParses
  have refused :
      fault? (load Sample.given root Sample.overridingAll word) =
        some (.integer (.invalid 10 "'ten'")) := by
    decide +kernel
  have loaded :
      (load Sample.given root Sample.overridingAll null).toOption =
        some {
          templatePath := Path.ofText "t.sql".toList
          placeholder := "db".toList
          previewLimit := 50
        } := by
    decide +kernel
  have located :
      ∃ first second,
        sectionAt Sample.given word = .ok first ∧
          sectionAt Sample.given null = .ok second ∧
          AgreeUnlessOverridden Sample.overridingAll first second :=
    ⟨first, second, eq_ok_of_toOption firstKept, eq_ok_of_toOption secondKept,
      Sample.agree_of_overridingAll first second⟩
  exact ⟨located, fault?_eq_some_iff.mp refused, eq_ok_of_toOption loaded⟩

end

end TenantSchema.Config
