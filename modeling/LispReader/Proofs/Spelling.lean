import LispReader.Proofs.Name

/-!
# Names read back

Reading a normalized name back divides it, from left to right, into spellings
of signs and other characters. `Reads` says which division that is: where an
underscore stands, the longest spelling that begins there is taken. Main
statements: which names come back when they are normalized and then read back,
and which come back when they are read back and then normalized.
-/

namespace LispReader.Name

/-- The words that stand between two underscores in the spellings of signs. -/
def words : List String :=
  ["BANG", "PERCENT", "STAR", "PLUS", "SLASH", "LT", "EQ", "GT", "QMARK"]

/-- Whether what follows an underscore makes it the beginning of a longer
spelling. -/
def EndsSpelling (rest : List Char) : Prop :=
  ∃ word ∈ words, word.toList ++ ['_'] <+: rest

theorem exists_sign_of_mem_words {word : String} (isWord : word ∈ words) :
    ∃ sign ∈ special, sign ≠ '-' ∧
      spell sign = '_' :: (word.toList ++ ['_']) := by
  have named : ∀ word ∈ words, ∃ pair ∈ spellings,
      pair.1 ≠ '-' ∧ spell pair.1 = '_' :: (word.toList ++ ['_']) := by decide
  obtain ⟨pair, member, other, spelled⟩ := named word isWord
  rw [special_eq_map]
  exact ⟨pair.1, List.mem_map_of_mem member, other, spelled⟩

theorem letter_of_mem_words {word : String} (isWord : word ∈ words) :
    ∀ letter ∈ word.toList, letter ∉ special ∧ letter ≠ '_' := by
  have tested : ∀ word ∈ words,
      (word.toList.all fun letter => decide (letter ∉ special ∧ letter ≠ '_')) =
        true := by decide
  intro letter member
  exact of_decide_eq_true
    (List.all_eq_true.mp (tested word isWord) letter member)

theorem ne_underscore_of_mem_special {sign : Char}
    (isSpecial : sign ∈ special) : sign ≠ '_' := by
  rintro rfl
  exact absurd isSpecial (by decide)

theorem spelled?_of_ne_underscore {first : Char} (other : first ≠ '_')
    (rest : List Char) :
    spelled? (first :: rest) = none := by
  simp [spelled?, spellings, other.symm]

/-- An underscore is a hyphen where no longer spelling begins with it. -/
theorem spelled?_underscore {rest : List Char} (alone : ¬ EndsSpelling rest) :
    spelled? ('_' :: rest) = some ('-', 1) := by
  have longerFirst : spellings = spellings.dropLast ++ [('-', "_")] := rfl
  have isLonger : ∀ pair ∈ spellings.dropLast, ∃ word ∈ words,
      pair.2.toList = '_' :: (word.toList ++ ['_']) := by decide
  rw [spelled?, longerFirst, List.findSome?_append,
    List.findSome?_eq_none_iff.mpr]
  · rfl
  · rintro ⟨sign, spelling⟩ member
    obtain ⟨word, isWord, written⟩ := isLonger _ member
    refine if_neg fun begins => alone ⟨word, isWord, ?_⟩
    rw [List.isPrefixOf_iff_prefix, written] at begins
    exact (List.cons_prefix_cons.mp begins).2

/-- The spelling of a sign is found, unless a longer spelling begins with it. -/
theorem spelled?_spell {sign : Char} {rest : List Char}
    (isSpecial : sign ∈ special) (longest : sign = '-' → ¬ EndsSpelling rest) :
    spelled? (spell sign ++ rest) = some (sign, (spell sign).length) := by
  by_cases hyphen : sign = '-'
  · subst hyphen
    exact spelled?_underscore (longest rfl)
  · simp only [special, List.mem_cons, List.not_mem_nil, or_false,
      hyphen] at isSpecial
    rcases isSpecial with
      rfl | rfl | rfl | rfl | rfl | rfl | rfl | rfl | rfl <;> rfl

/-- The characters of a name with every spelling read back as its sign. -/
def readBack (text : List Char) : List Char :=
  readSpellings [] 0 text

/-- The characters that are covered are passed over, and the rest is read back
behind the result so far. -/
theorem readSpellings_eq (reversed : List Char) (covered : Nat)
    (text : List Char) :
    readSpellings reversed covered text =
      reversed.reverse ++ readBack (text.drop covered) := by
  induction text generalizing reversed covered with
  | nil => simp [readSpellings, readBack]
  | cons first rest inductionHypothesis =>
      cases covered with
      | succ fewer =>
          rw [readSpellings, inductionHypothesis, List.drop_succ_cons]
      | zero =>
          rw [List.drop_zero, readBack, readSpellings, readSpellings]
          cases spelled? (first :: rest) with
          | none => simp [inductionHypothesis]
          | some found => simp [inductionHypothesis]

theorem readBack_cons_of_ne_underscore {first : Char} (other : first ≠ '_')
    (rest : List Char) :
    readBack (first :: rest) = first :: readBack rest := by
  rw [readBack, readSpellings, spelled?_of_ne_underscore other]
  exact readSpellings_eq [first] 0 rest

theorem readBack_spell {sign : Char} {rest : List Char}
    (isSpecial : sign ∈ special) (longest : sign = '-' → ¬ EndsSpelling rest) :
    readBack (spell sign ++ rest) = sign :: readBack rest := by
  have found := spelled?_spell isSpecial longest
  obtain ⟨letters, spelled, -⟩ := exists_spell_of_mem isSpecial
  rw [spelled, List.cons_append] at found ⊢
  rw [readBack, readSpellings, found]
  refine (readSpellings_eq [sign] letters.length (letters ++ rest)).trans ?_
  rw [List.drop_left, List.reverse_singleton, List.singleton_append]

/-- Whether a text is read back as a name: as signs, each where its spelling
stands and no longer one begins, and as other characters. -/
inductive Reads : List Char → List Char → Prop
  | nil : Reads [] []
  | plain {first : Char} {rest name : List Char} :
      first ≠ '_' → Reads rest name → Reads (first :: rest) (first :: name)
  | sign {sign : Char} {rest name : List Char} :
      sign ∈ special → (sign = '-' → ¬ EndsSpelling rest) → Reads rest name →
        Reads (spell sign ++ rest) (sign :: name)

/-- Where an underscore stands, exactly one sign is spelled out. -/
theorem exists_spell_of_underscore (rest : List Char) :
    ∃ sign ∈ special, ∃ others, '_' :: rest = spell sign ++ others ∧
      (sign = '-' → ¬ EndsSpelling others) := by
  by_cases longer : EndsSpelling rest
  · obtain ⟨word, isWord, others, rfl⟩ := longer
    obtain ⟨sign, isSpecial, named, spelled⟩ := exists_sign_of_mem_words isWord
    exact ⟨sign, isSpecial, others, by
      simp [spelled], fun hyphen => absurd hyphen named⟩
  · exact ⟨'-', by decide, rest, rfl, fun _ => longer⟩

/-- Reading back follows the rules for reading a name: a spelling is passed
over as a whole. -/
theorem reads_readBack (text : List Char) : Reads text (readBack text) := by
  induction size : text.length using Nat.strongRecOn generalizing text with
  | _ bound inductionHypothesis =>
  cases text with
  | nil => exact .nil
  | cons first rest =>
      by_cases underscore : first = '_'
      · subst underscore
        obtain ⟨sign, isSpecial, others, split, longest⟩ :=
          exists_spell_of_underscore rest
        obtain ⟨letters, spelled, -⟩ := exists_spell_of_mem isSpecial
        have shorter : others.length < bound := by
          rw [← size, split, spelled, List.length_append, List.length_cons]
          omega
        rw [split, readBack_spell isSpecial longest]
        exact .sign isSpecial longest (inductionHypothesis _ shorter others rfl)
      · have shorter : rest.length < bound := by
          rw [← size]
          exact Nat.lt_succ_self _
        rw [readBack_cons_of_ne_underscore underscore]
        exact .plain underscore (inductionHypothesis _ shorter rest rfl)

theorem Reads.readBack_eq {text name : List Char} (reads : Reads text name) :
    readBack text = name := by
  induction reads with
  | nil => rfl
  | plain other _ inductionHypothesis =>
      rw [readBack_cons_of_ne_underscore other, inductionHypothesis]
  | sign isSpecial longest _ inductionHypothesis =>
      rw [readBack_spell isSpecial longest, inductionHypothesis]

theorem reads_iff {text name : List Char} :
    Reads text name ↔ readBack text = name :=
  ⟨Reads.readBack_eq, fun same => same ▸ reads_readBack text⟩

theorem toList_denormalize (name : String) :
    (denormalize name).toList = readBack name.toList := by
  rw [denormalize, String.toList_ofList, readBack]

/-! ## What survives normalization -/

/-- A character that was spelled out is read back as itself unless it is an
underscore, or a hyphen that what follows makes part of a longer spelling. -/
theorem reads_spell_append_iff (character : Char) (rest name : List Char) :
    Reads (spell character ++ rest) (character :: name) ↔
      character ≠ '_' ∧ (character = '-' → ¬ EndsSpelling rest) ∧
        Reads rest name := by
  constructor
  · intro reads
    generalize whole : spell character ++ rest = text at reads
    cases reads with
    | @plain _ others _ other reads =>
        have notSpecial : character ∉ special := by
          intro isSpecial
          obtain ⟨letters, spelled, -⟩ := exists_spell_of_mem isSpecial
          rw [spelled, List.cons_append] at whole
          exact other (List.head_eq_of_cons_eq whole).symm
        rw [spell_of_not_mem notSpecial] at whole
        cases whole
        refine ⟨other, ?_, reads⟩
        rintro rfl
        exact absurd (by decide) notSpecial
    | sign isSpecial longest reads =>
        cases List.append_cancel_left whole
        exact ⟨ne_underscore_of_mem_special isSpecial, longest, reads⟩
  · rintro ⟨other, longest, reads⟩
    by_cases isSpecial : character ∈ special
    · exact .sign isSpecial longest reads
    · rw [spell_of_not_mem isSpecial]
      exact .plain other reads

/-- A word and an underscore stand at the front of what was spelled out exactly
when the word and a sign stood there before. -/
theorem prefix_flatMap_spell_iff {word characters : List Char}
    (letters : ∀ letter ∈ word, letter ∉ special ∧ letter ≠ '_')
    (noUnderscore : '_' ∉ characters) :
    word ++ ['_'] <+: characters.flatMap spell ↔
      ∃ sign ∈ special, word ++ [sign] <+: characters := by
  induction word generalizing characters with
  | nil =>
      cases characters with
      | nil => simp
      | cons first rest =>
          have other : first ≠ '_' :=
            fun same => noUnderscore (same ▸ List.mem_cons_self)
          by_cases isSpecial : first ∈ special
          · obtain ⟨after, spelled, -⟩ := exists_spell_of_mem isSpecial
            simp [spelled, isSpecial]
          · simp [spell_of_not_mem isSpecial, other.symm, isSpecial]
  | cons letter word inductionHypothesis =>
      obtain ⟨⟨notSpecial, notUnderscore⟩, others⟩ :=
        List.forall_mem_cons.mp letters
      cases characters with
      | nil => simp
      | cons first rest =>
          rw [List.mem_cons, not_or] at noUnderscore
          have tail := inductionHypothesis others noUnderscore.2
          by_cases isSpecial : first ∈ special
          · obtain ⟨after, spelled, -⟩ := exists_spell_of_mem isSpecial
            have different : letter ≠ first :=
              fun same => notSpecial (same ▸ isSpecial)
            simp [spelled, notUnderscore, different]
          · simp [spell_of_not_mem isSpecial, tail, and_left_comm]

/-- Whether a hyphen stands directly before a word and a sign, so that the
underscore it is written as begins a longer spelling. -/
def LosesHyphen (characters : List Char) : Prop :=
  ∃ word ∈ words, ∃ sign ∈ special,
    '-' :: (word.toList ++ [sign]) <:+: characters

theorem losesHyphen_cons_iff (character : Char) (rest : List Char) :
    LosesHyphen (character :: rest) ↔
      (character = '-' ∧
          ∃ word ∈ words, ∃ sign ∈ special, word.toList ++ [sign] <+: rest) ∨
        LosesHyphen rest := by
  simp only [LosesHyphen, List.infix_cons_iff, List.cons_prefix_cons]
  constructor
  · rintro ⟨word, isWord, sign, isSpecial, ⟨rfl, front⟩ | later⟩
    · exact .inl ⟨rfl, word, isWord, sign, isSpecial, front⟩
    · exact .inr ⟨word, isWord, sign, isSpecial, later⟩
  · rintro (⟨rfl, word, isWord, sign, isSpecial, front⟩ |
      ⟨word, isWord, sign, isSpecial, later⟩)
    · exact ⟨word, isWord, sign, isSpecial, .inl ⟨rfl, front⟩⟩
    · exact ⟨word, isWord, sign, isSpecial, .inr later⟩

theorem endsSpelling_flatMap_spell_iff {characters : List Char}
    (noUnderscore : '_' ∉ characters) :
    EndsSpelling (characters.flatMap spell) ↔
      ∃ word ∈ words, ∃ sign ∈ special,
        word.toList ++ [sign] <+: characters := by
  refine exists_congr fun word => and_congr_right fun isWord => ?_
  exact prefix_flatMap_spell_iff (letter_of_mem_words isWord) noUnderscore

/-- Normalized characters are read back unless one of them is an underscore or
a hyphen is lost. -/
theorem reads_flatMap_spell_iff (characters : List Char) :
    Reads (characters.flatMap spell) characters ↔
      '_' ∉ characters ∧ ¬ LosesHyphen characters := by
  induction characters with
  | nil => simp [Reads.nil, LosesHyphen]
  | cons character rest inductionHypothesis =>
      rw [List.flatMap_cons, reads_spell_append_iff, inductionHypothesis,
        losesHyphen_cons_iff, List.mem_cons, not_or, not_or, not_and]
      constructor
      · rintro ⟨other, longest, noUnderscore, noLoss⟩
        rw [endsSpelling_flatMap_spell_iff noUnderscore] at longest
        exact ⟨⟨other.symm, noUnderscore⟩, longest, noLoss⟩
      · rintro ⟨⟨other, noUnderscore⟩, longest, noLoss⟩
        rw [← endsSpelling_flatMap_spell_iff noUnderscore] at longest
        exact ⟨Ne.symm other, longest, noUnderscore, noLoss⟩

/-- A name comes back when it is normalized and then read back, unless it is a
percent sign alone, holds an underscore, or has a hyphen directly before one of
the words and a sign. -/
theorem denormalize_normalize_eq_iff (name : String) :
    denormalize (normalize name) = name ↔
      name ≠ "%" ∧ '_' ∉ name.toList ∧ ¬ LosesHyphen name.toList := by
  by_cases percent : name = "%"
  · subst percent
    have numbered : denormalize (normalize "%") ≠ "%" := by decide
    simp [numbered]
  · rw [← String.toList_inj, toList_denormalize, toList_normalize,
      if_neg percent, ← reads_iff, reads_flatMap_spell_iff]
    simp [percent]

example : denormalize (normalize "-GT-") = ">" := by decide

/-- What was read back from a text without signs is spelled out as the text
again. -/
theorem Reads.flatMap_spell {text name : List Char} (reads : Reads text name)
    (noSigns : ∀ character ∈ text, character ∉ special) :
    name.flatMap spell = text := by
  induction reads with
  | nil => rfl
  | plain _ _ inductionHypothesis =>
      obtain ⟨firstPlain, restPlain⟩ := List.forall_mem_cons.mp noSigns
      rw [List.flatMap_cons, spell_of_not_mem firstPlain,
        inductionHypothesis restPlain, List.singleton_append]
  | sign _ _ _ inductionHypothesis =>
      have restPlain := fun character member =>
          noSigns character (List.mem_append_right _ member)
      rw [List.flatMap_cons, inductionHypothesis restPlain]

theorem flatMap_spell_denormalize {name : String}
    (noSigns : ∀ character ∈ name.toList, character ∉ special) :
    (denormalize name).toList.flatMap spell = name.toList := by
  rw [toList_denormalize]
  exact (reads_readBack _).flatMap_spell noSigns

theorem denormalize_injOn {left right : String}
    (leftPlain : ∀ character ∈ left.toList, character ∉ special)
    (rightPlain : ∀ character ∈ right.toList, character ∉ special)
    (same : denormalize left = denormalize right) : left = right := by
  refine String.toList_injective ?_
  rw [← flatMap_spell_denormalize leftPlain,
    ← flatMap_spell_denormalize rightPlain, same]

/-- A name comes back when it is read back and then normalized, unless it holds
a sign or is the spelling of a percent sign alone. Names without signs are told
apart by what they are read back as, and so are normalized names. -/
theorem normalize_denormalize_eq_iff_and_injective :
    (∀ name, normalize (denormalize name) = name ↔
      (∀ character ∈ name.toList, character ∉ special) ∧ name ≠ "_PERCENT_") ∧
    (∀ left right : String, (∀ character ∈ left.toList, character ∉ special) →
      (∀ character ∈ right.toList, character ∉ special) →
        denormalize left = denormalize right → left = right) ∧
    (∀ left right, denormalize (normalize left) =
        denormalize (normalize right) →
      normalize left = normalize right) := by
  refine ⟨fun name => ⟨?_, ?_⟩, fun _ _ => denormalize_injOn, fun _ _ =>
    denormalize_injOn not_mem_special_of_mem_normalize
      not_mem_special_of_mem_normalize⟩
  · intro same
    constructor
    · rw [← same]
      exact not_mem_special_of_mem_normalize
    · rintro rfl
      exact absurd same (by decide)
  · rintro ⟨noSigns, notPercent⟩
    have spelled := flatMap_spell_denormalize noSigns
    have other : denormalize name ≠ "%" := by
      intro percent
      rw [percent] at spelled
      exact notPercent (String.toList_injective spelled.symm)
    refine String.toList_injective ?_
    rw [toList_normalize, if_neg other, spelled]

/-- A hyphen before a sign, and a name in which the two are spelled out
already. -/
theorem normalize_eq_of_read_alike :
    ((∀ character ∈ "__GT_".toList, character ∉ special) ∧
      denormalize (normalize "->") = denormalize (normalize "__GT_")) ∧
    normalize (denormalize "__GT_") = "__GT_" ∧ normalize "->" = "__GT_" ∧
      normalize "->" = normalize "__GT_" := by
  have isPlain : IsPlain "__GT_".toList := by decide
  have readAlike : denormalize (normalize "->") =
      denormalize (normalize "__GT_") := by decide
  obtain ⟨comesBack, injective, displayed⟩ :=
    normalize_denormalize_eq_iff_and_injective
  exact ⟨⟨isPlain.plain, readAlike⟩,
    (comesBack "__GT_").mpr ⟨isPlain.plain, by decide⟩,
    injective (normalize "->") "__GT_" not_mem_special_of_mem_normalize
      isPlain.plain readAlike,
    displayed "->" "__GT_" readAlike⟩

end LispReader.Name
