import TenantSchema.Proofs.Text.Patterns
import TenantSchema.Table.Name

namespace TenantSchema.Table

open Text

/-!
# References in a definition

A reference is written as the word `REFERENCES` in any case, white space, the name of a table,
perhaps white space, and an opening bracket.  References are searched for from left to right,
and the search goes on behind the bracket of the one it found.  No reference starts within
another: the word does not start again within itself, white space and the bracket are no part
of it, and behind a name there is a bracket and no second name.  So the search finds the
references at all places of the text.
-/

/--
The parts of a reference to a table in front of its bracket: the word, white space, the name
of the table, and perhaps white space.
-/
structure ReferenceParts (keyword blanks name gap : Text) : Prop where
  spelt : Spells "references".toList keyword
  separated : IsBlankRun blanks
  named : IsWordRun name
  blank : allBlank gap = true

/-- Whether a text refers to a table of the given name right behind `lead`. -/
def RefersBehind (text name lead : Text) : Prop :=
  ∃ keyword blanks gap rest,
    ReferenceParts keyword blanks name gap ∧
      text = lead ++ keyword ++ blanks ++ name ++ gap ++ '(' :: rest

/-- The names in the references at all places of a text, from left to right. -/
def mentions (text : Text) : List Text :=
  text.tails.filterMap fun rest => (referenceAt? rest).map Prod.fst

/-- An identifier in front of a bracket is a run of word characters, perhaps with a gap. -/
theorem identifierBeforeBracket?_eq_some_iff
    {text name after : Text} :
    identifierBeforeBracket? text = some (name, after) ↔
      IsWordRun name ∧
        ∃ gap,
          allBlank gap = true ∧ text = name ++ (gap ++ '(' :: after) := by
  constructor
  · intro found
    unfold identifierBeforeBracket? at found
    split at found
    case h_1 =>
      cases found
    case h_2 identifier rest taken =>
      split at found
      case h_1 bracketed behind =>
        cases found
        obtain ⟨run, _, rfl⟩ := takeWord?_eq_some_iff.mp taken
        obtain ⟨gap, blank, shape⟩ := exists_eq_append_trimLeft rest
        rw [behind] at shape
        exact ⟨run, gap, blank, by rw [shape]⟩
      case h_2 =>
        cases found
  · rintro ⟨run, gap, blank, rfl⟩
    have ends : wordEndsAt (gap ++ '(' :: after) = true :=
      wordEndsAt_append (wordEndsAt_of_allBlank blank) rfl
    have taken := takeWord?_eq_some_iff.mpr ⟨run, ends, rfl⟩
    have bracket : trimLeft ('(' :: after) = '(' :: after :=
      trimLeft_cons_of_not_isBlank rfl after
    simp only [identifierBeforeBracket?, taken, trimLeft_append_of_allBlank blank,
      bracket]

/-- Behind a word there is a bracket or a second word, and a text cannot have both. -/
theorem bracket_ne_second_word
    {name gap after word blanks second rest : Text}
    (inName : ∀ character ∈ name, isWord character = true)
    (blank : allBlank gap = true)
    (inWord : ∀ character ∈ word, isWord character = true)
    (separated : IsBlankRun blanks)
    (another : IsWordRun second) :
    name ++ (gap ++ '(' :: after) ≠ word ++ (blanks ++ (second ++ rest)) := by
  intro same
  obtain ⟨_, sameRest⟩ :=
    append_inj_of_ends same inName inWord
      (wordEndsAt_iff.mp (wordEndsAt_append (wordEndsAt_of_allBlank blank) rfl))
      (wordEndsAt_iff.mp (separated.wordEndsAt_append _))
  have sameTrimmed := congrArg trimLeft sameRest
  rw [trimLeft_append_of_allBlank blank, trimLeft_append_of_allBlank separated.blank,
    another.trimLeft_append, trimLeft_cons_of_not_isBlank rfl] at sameTrimmed
  obtain ⟨letter, others, rfl, inside⟩ := another.exists_cons
  have bracket : '(' = letter := (List.cons.inj sameTrimmed).1
  rw [← bracket] at inside
  cases inside

/-- A reference is found exactly where one is written. -/
theorem referenceAt?_eq_some_iff
    {text name after : Text} :
    referenceAt? text = some (name, after) ↔
      ∃ keyword blanks gap,
        ReferenceParts keyword blanks name gap ∧
          text = keyword ++ (blanks ++ (name ++ (gap ++ '(' :: after))) := by
  constructor
  · intro found
    obtain ⟨behind, separated, identified⟩ := Option.bind_eq_some_iff.mp found
    obtain ⟨rest, dropped, blanked⟩ := Option.bind_eq_some_iff.mp separated
    obtain ⟨keyword, spells, rfl⟩ := dropKeyword?_eq_some_iff.mp dropped
    obtain ⟨blanks, run, rfl⟩ := exists_of_dropBlanks? blanked
    obtain ⟨named, gap, blank, rfl⟩ :=
      identifierBeforeBracket?_eq_some_iff.mp identified
    exact ⟨keyword, blanks, gap, ⟨spells, run, named, blank⟩, rfl⟩
  · rintro ⟨keyword, blanks, gap, parts, rfl⟩
    rw [referenceAt?, dropKeyword?_eq_some_iff.mpr ⟨keyword, parts.spelt, rfl⟩]
    simp only [Option.bind_some, dropBlanks?_append parts.separated,
      parts.named.trimLeft_append]
    exact identifierBeforeBracket?_eq_some_iff.mpr
      ⟨parts.named, gap, parts.blank, rfl⟩

theorem refersBehind_iff
    {text name lead : Text} :
    RefersBehind text name lead ↔
      ∃ rest after,
        text = lead ++ rest ∧ referenceAt? rest = some (name, after) := by
  simp only [referenceAt?_eq_some_iff]
  constructor
  · rintro ⟨keyword, blanks, gap, after, parts, rfl⟩
    exact ⟨_, after, by simp only [List.append_assoc],
      keyword, blanks, gap, parts, rfl⟩
  · rintro ⟨_, after, rfl, keyword, blanks, gap, parts, rfl⟩
    exact ⟨keyword, blanks, gap, after, parts, by simp only [List.append_assoc]⟩

/-- The word of a reference is given in small letters, as a pattern takes it. -/
theorem isLower_of_mem_references :
    ∀ letter ∈ "references".toList, letter.isLower = true := by
  -- Decided over the list, since characters as a whole are too many to go through.
  have small : "references".toList.all Char.isLower = true := by
    decide
  exact List.all_eq_true.mp small

theorem isWord_of_mem_references :
    ∀ letter ∈ "references".toList,
      isWord letter = true ∧ isWord letter.toUpper = true := by
  have word :
      "references".toList.all
        (fun letter => isWord letter && isWord letter.toUpper) = true := by
    decide
  intro letter member
  exact Bool.and_eq_true_iff.mp (List.all_eq_true.mp word letter member)

theorem isBorderless_references : IsBorderless "references".toList := by
  decide

/-- A reference starts with its word. -/
theorem referenceAt?_eq_none_of_dropKeyword?
    {text : Text}
    (unspelt : dropKeyword? "references".toList text = none) :
    referenceAt? text = none := by
  rw [referenceAt?, unspelt]
  rfl

/-- No reference starts with white space. -/
theorem referenceAt?_eq_none_of_isBlank
    {first : Char}
    (blank : isBlank first = true)
    (rest : Text) :
    referenceAt? (first :: rest) = none := by
  apply referenceAt?_eq_none_of_dropKeyword?
  have different : ¬ foldsTo 'r' first = true := by
    intro folds
    rw [not_isBlank_of_foldsTo rfl rfl folds] at blank
    cases blank
  exact if_neg different

/--
No reference starts with word characters that only a gap separates from a bracket: they would
spell the word, and the bracket would have to be the name behind it.
-/
theorem referenceAt?_eq_none_of_bracket
    {word gap : Text}
    (inside : ∀ character ∈ word, isWord character = true)
    (blank : allBlank gap = true)
    (after : Text) :
    referenceAt? (word ++ (gap ++ '(' :: after)) = none := by
  rw [Option.eq_none_iff_forall_ne_some]
  rintro ⟨name, behind⟩ found
  obtain ⟨keyword, blanks, otherGap, parts, shape⟩ := referenceAt?_eq_some_iff.mp found
  exact bracket_ne_second_word inside blank (parts.spelt.isWord isWord_of_mem_references)
    parts.separated parts.named shape

/-- No reference starts within `part` when `after` follows it. -/
def NoneStartsIn (part after : Text) : Prop :=
  ∀ first second,
    part = first ++ second →
    second ≠ [] →
    referenceAt? (second ++ after) = none

theorem NoneStartsIn.append
    {first second after : Text}
    (inFirst : NoneStartsIn first (second ++ after))
    (inSecond : NoneStartsIn second after) :
    NoneStartsIn (first ++ second) after := by
  intro front back shape nonempty
  rcases List.append_eq_append_iff.mp shape with
    ⟨between, rfl, rest⟩ | ⟨between, rfl, rfl⟩
  · exact inSecond between back rest nonempty
  · cases between with
    | nil =>
        exact inSecond [] _ rfl nonempty
    | cons next others =>
        rw [List.append_assoc]
        exact inFirst front (next :: others) rfl (by simp)

/-- No reference starts within the word of one. -/
theorem noneStartsIn_of_spells
    {first : Char}
    {others : Text}
    (spells : Spells "references".toList (first :: others))
    (after : Text) :
    NoneStartsIn others after := by
  rintro front back rfl nonempty
  apply referenceAt?_eq_none_of_dropKeyword?
  exact dropKeyword?_eq_none_of_spells isBorderless_references
    isLower_of_mem_references spells (List.cons_ne_nil first front) nonempty after

theorem noneStartsIn_of_allBlank
    {blanks : Text}
    (blank : allBlank blanks = true)
    (after : Text) :
    NoneStartsIn blanks after := by
  rintro front back rfl nonempty
  obtain ⟨next, others, rfl⟩ := List.exists_cons_of_ne_nil nonempty
  rw [allBlank, List.all_append, List.all_cons] at blank
  simp only [Bool.and_eq_true] at blank
  exact referenceAt?_eq_none_of_isBlank blank.2.1 _

theorem noneStartsIn_of_bracket
    {word gap after : Text}
    (inside : ∀ character ∈ word, isWord character = true)
    (blank : allBlank gap = true) :
    NoneStartsIn word (gap ++ '(' :: after) := by
  rintro front back rfl _
  exact referenceAt?_eq_none_of_bracket
    (fun character member => inside character (List.mem_append_right _ member))
    blank after

/-- No reference starts within another one, its bracket included. -/
theorem ReferenceParts.noneStartsIn
    {first : Char}
    {others blanks name gap : Text}
    (parts : ReferenceParts (first :: others) blanks name gap)
    (after : Text) :
    NoneStartsIn (others ++ (blanks ++ (name ++ (gap ++ ['('])))) after := by
  have inBracket : NoneStartsIn ['('] after := by
    rintro front back shape nonempty
    have whole : back = ['('] := by
      rcases List.singleton_eq_append_iff.mp shape with ⟨_, same⟩ | ⟨_, none⟩
      · exact same
      · exact (nonempty none).elim
    have noWord : ∀ character ∈ ([] : Text), isWord character = true := by
      simp
    have noGap : allBlank [] = true := rfl
    rw [whole]
    exact referenceAt?_eq_none_of_bracket noWord noGap after
  have inGap : NoneStartsIn (gap ++ ['(']) after :=
    (noneStartsIn_of_allBlank parts.blank _).append inBracket
  have inName : NoneStartsIn (name ++ (gap ++ ['('])) after := by
    apply NoneStartsIn.append _ inGap
    rw [List.append_assoc]
    exact noneStartsIn_of_bracket parts.named.word parts.blank
  exact (noneStartsIn_of_spells parts.spelt _).append
    ((noneStartsIn_of_allBlank parts.separated.blank _).append inName)

theorem mentions_cons
    (first : Char)
    (rest : Text) :
    mentions (first :: rest) =
      ((referenceAt? (first :: rest)).map Prod.fst).toList ++ mentions rest := by
  rw [mentions, List.tails_cons, List.filterMap_cons]
  cases referenceAt? (first :: rest) <;> rfl

/-- A part in which no reference starts adds no name. -/
theorem NoneStartsIn.mentions_append
    {part after : Text}
    (noneStarts : NoneStartsIn part after) :
    mentions (part ++ after) = mentions after := by
  induction part with
  | nil =>
      rfl
  | cons first others inductionHypothesis =>
      have atFirst : referenceAt? (first :: (others ++ after)) = none :=
        noneStarts [] (first :: others) rfl (by simp)
      rw [List.cons_append, mentions_cons, atFirst, inductionHypothesis]
      · rfl
      · rintro front back rfl nonempty
        exact noneStarts (first :: front) back rfl nonempty

/-- Characters to be passed over are dropped. -/
theorem referencesFrom_eq_drop
    (pending : Nat)
    (text : Text) :
    referencesFrom pending text = referencesFrom 0 (text.drop pending) := by
  induction text generalizing pending with
  | nil =>
      rw [List.drop_nil, referencesFrom, referencesFrom]
  | cons first rest inductionHypothesis =>
      cases pending with
      | zero =>
          rfl
      | succ pending =>
          rw [referencesFrom, List.drop_succ_cons]
          exact inductionHypothesis pending

/-- A reference that was found has a part behind its first character that no other starts in. -/
theorem exists_part_of_referenceAt?
    {first : Char}
    {rest name after : Text}
    (found : referenceAt? (first :: rest) = some (name, after)) :
    ∃ part, rest = part ++ after ∧ NoneStartsIn part after := by
  obtain ⟨keyword, blanks, gap, parts, shape⟩ := referenceAt?_eq_some_iff.mp found
  obtain ⟨letter, others, rfl⟩ := parts.spelt.exists_cons (by decide)
  refine ⟨_, ?_, parts.noneStartsIn after⟩
  simpa using (List.cons.inj shape).2

/--
The search finds the references at all places.  The induction is on the length of the text,
since the search goes on behind a reference that it found; what it passes over there holds no
other one.
-/
theorem referencesFrom_eq_mentions (text : Text) :
    referencesFrom 0 text = mentions text := by
  induction measure : text.length using Nat.strongRecOn generalizing text with
  | ind bound shorter =>
      cases text with
      | nil =>
          rfl
      | cons first rest =>
          rw [referencesFrom, mentions_cons]
          cases found : referenceAt? (first :: rest) with
          | none =>
              exact shorter rest.length (by rw [← measure]; simp) rest rfl
          | some reference =>
              obtain ⟨name, after⟩ := reference
              obtain ⟨part, rfl, noneStarts⟩ := exists_part_of_referenceAt? found
              have passed : (part ++ after).length - after.length = part.length := by
                simp
              have fewer : after.length < bound := by
                rw [← measure, List.length_cons, List.length_append]
                omega
              simp only [Option.map_some, Option.toList_some, List.singleton_append]
              rw [passed, referencesFrom_eq_drop, List.drop_left,
                noneStarts.mentions_append, shorter _ fewer after rfl]

theorem mem_mentions_iff
    {text name : Text} :
    name ∈ mentions text ↔ ∃ lead, RefersBehind text name lead := by
  simp only [mentions, List.mem_filterMap, List.mem_tails, Option.map_eq_some_iff,
    refersBehind_iff]
  constructor
  · rintro ⟨rest, ⟨lead, rfl⟩, ⟨_, after⟩, found, rfl⟩
    exact ⟨lead, rest, after, rfl, found⟩
  · rintro ⟨lead, rest, after, rfl, found⟩
    exact ⟨rest, ⟨lead, rfl⟩, ⟨name, after⟩, found, rfl⟩

/-- Whether some reference to a table stands in front of all references to another. -/
def IsMentionedBefore (text earlier later : Text) : Prop :=
  ∀ lead,
    RefersBehind text later lead →
    ∃ shorter,
      RefersBehind text earlier shorter ∧ shorter.length < lead.length

theorem RefersBehind.cons
    {text name lead : Text}
    (refers : RefersBehind text name lead)
    (first : Char) :
    RefersBehind (first :: text) name (first :: lead) := by
  obtain ⟨rest, after, rfl, found⟩ := refersBehind_iff.mp refers
  exact refersBehind_iff.mpr ⟨rest, after, rfl, found⟩

/-- A reference does not stand at the start of a text, or it stands in the rest of it. -/
theorem RefersBehind.cases_cons
    {first : Char}
    {text name lead : Text}
    (refers : RefersBehind (first :: text) name lead) :
    (lead = [] ∧ (referenceAt? (first :: text)).map Prod.fst = some name) ∨
      ∃ others, lead = first :: others ∧ RefersBehind text name others := by
  obtain ⟨rest, after, shape, found⟩ := refersBehind_iff.mp refers
  cases lead with
  | nil =>
      rw [shape, List.nil_append, found]
      exact .inl ⟨rfl, rfl⟩
  | cons character others =>
      obtain ⟨rfl, rfl⟩ := List.cons.inj shape
      exact .inr ⟨others, rfl, refersBehind_iff.mpr ⟨rest, after, rfl, found⟩⟩

/-- What is mentioned first in a text is mentioned first behind one more character. -/
theorem IsMentionedBefore.cons
    {first : Char}
    {text earlier later : Text}
    (before : IsMentionedBefore text earlier later)
    (notHere : (referenceAt? (first :: text)).map Prod.fst ≠ some later) :
    IsMentionedBefore (first :: text) earlier later := by
  intro lead refers
  rcases refers.cases_cons with ⟨_, here⟩ | ⟨others, rfl, refersLater⟩
  · exact (notHere here).elim
  · obtain ⟨shorter, refersEarlier, less⟩ := before others refersLater
    exact ⟨first :: shorter, refersEarlier.cons first, by simpa using less⟩

/-- The names in the references of a text, each once, are in the order of their first mention. -/
theorem pairwise_distinct_mentions (text : Text) :
    (distinct (mentions text)).Pairwise (IsMentionedBefore text) := by
  induction text with
  | nil =>
      exact .nil
  | cons first rest inductionHypothesis =>
      rw [mentions_cons]
      cases here : (referenceAt? (first :: rest)).map Prod.fst with
      | none =>
          refine inductionHypothesis.imp fun before => before.cons ?_
          simp [here]
      | some name =>
          have atStart : RefersBehind (first :: rest) name [] := by
            obtain ⟨⟨_, after⟩, found, rfl⟩ := Option.map_eq_some_iff.mp here
            exact refersBehind_iff.mpr ⟨_, after, rfl, found⟩
          refine List.pairwise_cons.mpr ⟨?_, ?_⟩
          · intro later member lead refers
            have other : later ≠ name := by
              simpa using (List.mem_filter.mp member).2
            rcases refers.cases_cons with ⟨_, same⟩ | ⟨others, rfl, _⟩
            · rw [here] at same
              exact (other (Option.some.inj same).symm).elim
            · exact ⟨[], atStart, by simp⟩
          · refine (inductionHypothesis.filter _).imp_of_mem ?_
            intro earlier later _ member before
            have other : later ≠ name := by
              simpa using (List.mem_filter.mp member).2
            apply before.cons
            rw [here]
            exact fun same => other (Option.some.inj same).symm

/--
The references of a definition are the names that the word, white space and a bracket stand
around at some place of it.  None is listed twice, each comes in the order of its first
mention, and the search finds the references at all places, one after the other.
-/
theorem references_are_exact (definition : Text) :
    (∀ name,
      name ∈ references definition ↔
        ∃ lead, RefersBehind definition name lead) ∧
      (references definition).Nodup ∧
      (references definition).Pairwise (IsMentionedBefore definition) ∧
      referencesFrom 0 definition =
        definition.tails.filterMap fun rest => (referenceAt? rest).map Prod.fst := by
  have found := referencesFrom_eq_mentions definition
  refine ⟨?_, nodup_distinct _, ?_, found⟩
  · intro name
    rw [references, mem_distinct_iff, found, mem_mentions_iff]
  · rw [references, found]
    exact pairwise_distinct_mentions definition

/-- A repeated word is the name of a table to which the first one refers. -/
example :
    references "REFERENCES REFERENCES (a)".toList = ["REFERENCES".toList] := by
  decide +kernel

/-- A name that ends in the word starts a reference of its own, on the next line here. -/
example :
    references "REFERENCES old_references\n\tusers\n(id)".toList = ["users".toList] := by
  decide +kernel

end TenantSchema.Table
