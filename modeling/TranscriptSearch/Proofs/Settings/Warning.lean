import TranscriptSearch.Proofs.Index.Agreement
import TranscriptSearch.Proofs.Query.Canonical
import TranscriptSearch.Proofs.Query.Overlay
import TranscriptSearch.Settings.Warning

/-!
# Settings — warnings and the engine

What counts of a qualifier name is its lower case.  A name that no search can decide is warned of
just when a query can use it, the empty name apart, which no query can use; the key of the free text
is warned of as such; and each further spelling of a name adds one warning and nothing else.
Settings without warnings have only names that some session can satisfy.

* `Index.neverSatisfied_iff`: the names that no session satisfies.
* `Index.exists_search`: a session that a known name finds.
* `Settings.mem_nameWarnings_iff`: the warnings on first and on further spellings of names.
* `Settings.nameWarnings_again`: a further spelling adds one warning.
* `Settings.warnings_truthful`: the warnings against the engine.
* `Settings.emptyName_warned`: the warning on the empty name does not tell the truth.
-/

namespace TranscriptSearch

open Text

/-! ### Names that a session can satisfy -/

namespace Index

/-- No session of any index satisfies a query with a qualifier of some name. -/
def NeverSatisfied (name : Text) : Prop :=
  ∀ (x : Index) (k : SessionKey) (q : Query), q.qualifiers.contains name = true →
    x.satisfies k q = false

/-- A qualifier with an unknown name is satisfied by no session. -/
theorem satisfiesQualifier_of_unknown (x : Index) (s : Session) {name : Text}
    (h : name ∉ Settings.knownQualifiers) (value : Text) :
    x.satisfiesQualifier s name value = false := by
  have other : ∀ known ∈ Settings.knownQualifiers, name ≠ known := by
    rintro known hknown rfl
    exact h hknown
  rw [satisfiesQualifier, if_neg (other _ (by decide)), if_neg (other _ (by decide)),
    if_neg (other _ (by decide)), if_neg (other _ (by decide))]

theorem neverSatisfied_of_unknown {name : Text} (h : lowercase name ∉ Settings.knownQualifiers) :
    NeverSatisfied name := by
  intro x k q hq
  rw [Query.Qualifiers.contains, Option.isSome_iff_exists] at hq
  obtain ⟨value, hvalue⟩ := hq
  have hmem : (lowercase name, value) ∈ q.qualifiers.toList :=
    (SortedMap.get?_eq_some_iff _ _ _).1 hvalue
  rw [satisfies]
  cases x.sessions.get? k with
  | none => rfl
  | some s =>
      have undecided :
          q.qualifiers.toList.all (fun p => x.satisfiesQualifier s p.1 p.2) = false := by
        rw [List.all_eq_false]
        exact ⟨_, hmem, by rw [x.satisfiesQualifier_of_unknown s h value]; decide⟩
      simp only [undecided, Bool.false_and]

/-- A session with a year, a number, a track and a line. -/
def knownTalk : Transcript := ⟨2015, 101, some "web".toList, [⟨"swift".toList, ⟨0⟩⟩]⟩

/-- An index of this session alone. -/
def ofKnownTalk (rule : TermRule) : Index := build rule [knownTalk]

theorem get?_ofKnownTalk (rule : TermRule) :
    (ofKnownTalk rule).sessions.get? knownTalk.key = some (sessionOf rule knownTalk) := by
  have standing : Batch.standing? knownTalk.key [knownTalk] = some knownTalk := by decide
  rw [ofKnownTalk, build, sessions_merge, standing]
  rfl

/-- The terms of a line are terms of its session. -/
theorem hasTerms_knownTalk (rule : TermRule) :
    (ofKnownTalk rule).hasTerms (sessionOf rule knownTalk) "swift".toList = true := by
  have same : (ofKnownTalk rule).rule = rule := rule_merge _ _
  rw [hasTerms, same, List.all_eq_true]
  intro term hterm
  rw [sessionOf, SortedSet.contains_ofList]
  simpa [TermRule.occurrences, knownTalk] using hterm

/-- **A session that a known name finds**, by a query that has the name. -/
theorem exists_search (rule : TermRule) {v : Query.Vocabulary} {name : Text}
    (hrecognized : v.recognizes name = true) (hknown : lowercase name ∈ Settings.knownQualifiers) :
    ∃ (t : Transcript) (raw : Text), (v.parse raw).qualifiers.contains name = true ∧
      (build rule [t]).search v raw t.key = true := by
  -- one value for each name
  suffices pair : ∃ value, v.IsPair (lowercase name) value ∧
      (ofKnownTalk rule).satisfiesQualifier (sessionOf rule knownTalk) (lowercase name) value =
        true by
    obtain ⟨value, hpair, hsatisfied⟩ := pair
    have read := Query.Vocabulary.parse_canonicalPair hpair
    refine ⟨knownTalk, Query.canonicalPair (lowercase name) value, ?_, ?_⟩
    · rw [read, Query.Qualifiers.contains, Query.Qualifiers.get?, Query.Qualifiers.entries_ofList,
        List.map_singleton, lowercase_lowercase, SortedMap.get?_ofList]
      simp
    · have only : (Query.Qualifiers.ofList [(lowercase name, value)]).toList =
          [(lowercase name, value)] := by
        rw [Query.Qualifiers.toList, Query.Qualifiers.entries_ofList, List.map_singleton,
          lowercase_lowercase]
        rfl
      rw [search, read, satisfies, ← ofKnownTalk, get?_ofKnownTalk]
      simp only [only, List.all_cons, List.all_nil, hsatisfied, Bool.and_true, Bool.true_and]
      rfl
  have isPair : ∀ value : Text, (lowercase name).all isAlphanumeric = true → lowercase name ≠ [] →
      value.all isAlphanumeric = true → value ≠ [] → v.IsPair (lowercase name) value := by
    intro value hname hne hvalue hvalueNe
    rw [List.all_eq_true] at hname hvalue
    have plain := Query.isName_of_isAlphanumeric hvalueNe hvalue
    refine ⟨Query.isName_of_isAlphanumeric hne hname, lowercase_lowercase name, ?_,
      trim_eq_self fun c hc => (plain.solid c hc).1, hvalueNe, fun hquote => ?_⟩
    · rw [Query.Vocabulary.recognizes_lowercase, hrecognized]
    · exact (plain.solid _ hquote).2 rfl
  have known : lowercase name = "year".toList ∨ lowercase name = "session".toList ∨
      lowercase name = "track".toList ∨ lowercase name = "transcript".toList := by
    simpa [Settings.knownQualifiers] using hknown
  rcases known with h | h | h | h <;> rw [h] at isPair ⊢
  · have year : (Number.decimal 2015 == "2015".toList) = true := by decide
    exact ⟨"2015".toList, isPair _ (by decide) (by decide) (by decide) (by decide), year⟩
  · have number : (Number.decimal 101 == "101".toList) = true := by decide
    exact ⟨"101".toList, isPair _ (by decide) (by decide) (by decide) (by decide), number⟩
  · exact ⟨"web".toList, isPair _ (by decide) (by decide) (by decide) (by decide), rfl⟩
  · exact ⟨"swift".toList, isPair _ (by decide) (by decide) (by decide) (by decide),
      hasTerms_knownTalk rule⟩

/-- **The names that no session satisfies** are the unknown ones. -/
theorem neverSatisfied_iff {name : Text} :
    NeverSatisfied name ↔ lowercase name ∉ Settings.knownQualifiers := by
  refine ⟨fun h hknown => ?_, neverSatisfied_of_unknown⟩
  have known : ∀ n ∈ Settings.knownQualifiers, n ≠ [] ∧ n ≠ Query.freeTextKey := by decide
  have recognized : (Query.Vocabulary.ofNames [name]).recognizes name = true :=
    Query.Vocabulary.recognizes_ofNames_iff.2
      ⟨⟨name, List.mem_singleton_self name, rfl⟩, known _ hknown⟩
  obtain ⟨t, raw, hcontains, hsearch⟩ := exists_search (.ofMinLength 1) recognized hknown
  rw [search, h _ _ _ hcontains] at hsearch
  cases hsearch

end Index

/-! ### Warnings on listed names -/

namespace Settings

variable {seen seen' names before after : List Text} {name n : Text} {w : Warning}

/-- A warning is told of one of some listed names. -/
inductive IsTold (names : List Text) : Warning → Prop where
  /-- At its first spelling. -/
  | first {before after : List Text} {name : Text} {w : Warning} : names = before ++ name :: after →
      lowercase name ∉ before.map lowercase → nameWarning? name = some w → IsTold names w
  /-- At a further spelling. -/
  | again {before after : List Text} {name : Text} : names = before ++ name :: after →
      lowercase name ∈ before.map lowercase → IsTold names (.duplicateQualifier (lowercase name))

/-- The names listed before count as a set. -/
theorem nameWarnings_congr (h : ∀ n, n ∈ seen ↔ n ∈ seen') (names : List Text) :
    nameWarnings seen names = nameWarnings seen' names := by
  induction names generalizing seen seen' with
  | nil => rfl
  | cons name rest ih =>
      have longer : ∀ n, n ∈ lowercase name :: seen ↔ n ∈ lowercase name :: seen' := by
        intro n
        rw [List.mem_cons, List.mem_cons, h n]
      simp only [nameWarnings, List.contains_iff_mem, h, ih h, ih longer]

/-- Names are warned of one after another. -/
theorem nameWarnings_append (seen before after : List Text) :
    nameWarnings seen (before ++ after) =
      nameWarnings seen before ++ nameWarnings (before.map lowercase ++ seen) after := by
  induction before generalizing seen with
  | nil => rfl
  | cons name rest ih =>
      rw [List.cons_append, nameWarnings, nameWarnings]
      split
      next h =>
        -- a name that was listed before adds nothing to those listed before
        rw [ih, List.cons_append]
        congr 2
        refine nameWarnings_congr (fun n => ?_) after
        have hseen : lowercase name ∈ seen := List.contains_iff_mem.1 h
        simp only [List.map_cons, List.cons_append, List.mem_cons, List.mem_append]
        constructor
        · exact .inr
        · rintro (rfl | hn)
          · exact .inr hseen
          · exact hn
      next =>
        rw [ih, List.append_assoc]
        congr 2
        refine nameWarnings_congr (fun n => ?_) after
        simp only [List.map_cons, List.cons_append, List.mem_cons, List.mem_append]
        exact or_left_comm

/-- **A further spelling of a name** adds one warning and nothing else. -/
theorem nameWarnings_again (h : lowercase name ∈ before.map lowercase) :
    nameWarnings [] (before ++ name :: after) =
      nameWarnings [] before ++
        .duplicateQualifier (lowercase name) ::
          nameWarnings (before.map lowercase ++ []) after := by
  have listed : (before.map lowercase ++ []).contains (lowercase name) = true := by
    rw [List.append_nil]
    exact List.contains_iff_mem.2 h
  rw [nameWarnings_append, nameWarnings, if_pos listed]

/-- The first spelling of a name is warned of by itself. -/
theorem nameWarnings_first (h : lowercase name ∉ before.map lowercase) :
    nameWarnings [] (before ++ name :: after) =
      nameWarnings [] before ++ ((nameWarning? name).toList ++
        nameWarnings (lowercase name :: (before.map lowercase ++ [])) after) := by
  have unlisted : ¬(before.map lowercase ++ []).contains (lowercase name) = true := by
    rwa [List.append_nil, List.contains_iff_mem]
  rw [nameWarnings_append, nameWarnings, if_neg unlisted]

/-- More names take no warning back. -/
theorem IsTold.append (h : IsTold names w) (more : List Text) : IsTold (names ++ more) w := by
  cases h with
  | first h hfirst hwarn => exact .first (by rw [h, List.append_assoc]; rfl) hfirst hwarn
  | again h hagain => exact .again (by rw [h, List.append_assoc]; rfl) hagain

/-- **The warnings on some names** are those told of one of them. -/
theorem mem_nameWarnings_iff : w ∈ nameWarnings [] names ↔ IsTold names w := by
  constructor
  · intro hw
    -- from the last name, since a warning looks at the names before
    induction names using List.reverseRecOn with
    | nil => cases hw
    | append_singleton front last ih =>
        by_cases hlisted : lowercase last ∈ front.map lowercase
        · rw [nameWarnings_again hlisted, List.mem_append] at hw
          rcases hw with hw | hw
          · exact (ih hw).append [last]
          · obtain rfl := List.mem_singleton.1 hw
            exact .again rfl hlisted
        · rw [nameWarnings_first hlisted, List.mem_append] at hw
          rcases hw with hw | hw
          · exact (ih hw).append [last]
          · rw [nameWarnings, List.append_nil, Option.mem_toList] at hw
            exact .first rfl hlisted hw
  · rintro (⟨rfl, hfirst, hwarn⟩ | ⟨rfl, hagain⟩)
    · rw [nameWarnings_first hfirst, hwarn]
      simp
    · rw [nameWarnings_again hagain]
      simp

/-- A name is warned of as a further spelling each time but the first. -/
theorem count_nameWarnings (seen names : List Text) (n : Text) :
    (nameWarnings seen names).count (.duplicateQualifier n) =
      (names.map lowercase).count n - if n ∈ seen then 0 else 1 := by
  induction names generalizing seen with
  | nil => simp [nameWarnings]
  | cons name rest ih =>
      have other : (nameWarning? name).toList.count (.duplicateQualifier n) = 0 := by
        rw [List.count_eq_zero, Option.mem_toList, nameWarning?]
        split
        · simp
        · split <;> simp
      rw [nameWarnings]
      split
      next h =>
        have hseen : lowercase name ∈ seen := List.contains_iff_mem.1 h
        rw [List.count_cons, ih, List.map_cons, List.count_cons]
        by_cases hn : lowercase name = n
        · subst hn
          simp [hseen]
        · simp [hn]
      next h =>
        rw [List.contains_iff_mem] at h
        rw [List.count_append, other, ih, List.map_cons, List.count_cons, Nat.zero_add]
        by_cases hn : lowercase name = n
        · subst hn
          simp [h]
        · simp [hn, Ne.symm hn]

/-- Every name has a first spelling. -/
theorem exists_first (h : n ∈ names.map lowercase) : ∃ before name after,
    names = before ++ name :: after ∧ lowercase name = n ∧
      lowercase name ∉ before.map lowercase := by
  obtain ⟨front, back, hnames, hfront⟩ := List.eq_append_cons_of_mem h
  obtain ⟨before, rest, rfl, rfl, hrest⟩ := List.map_eq_append_iff.1 hnames
  obtain ⟨name, after, rfl, rfl, -⟩ := List.map_eq_cons_iff.1 hrest
  exact ⟨before, name, after, rfl, rfl, hfront⟩

/-! ### Warnings on the settings -/

variable {s : Settings}

/-- A warning on the qualifier names. -/
theorem mem_warnings_iff (hw : w ≠ .zeroMinTermLength) :
    w ∈ s.warnings ↔ IsTold s.qualifiers w := by
  rw [warnings, List.mem_append, mem_nameWarnings_iff, or_iff_left]
  split
  · exact fun h => hw (List.mem_singleton.1 h)
  · exact List.not_mem_nil

theorem nameWarning?_eq_unsupported_iff :
    nameWarning? name = some (.unsupportedQualifier n) ↔
      n = name ∧ lowercase name ≠ Query.freeTextKey ∧ lowercase name ∉ knownQualifiers := by
  rw [nameWarning?]
  split
  next h => simp [h]
  next h =>
    split
    next hknown => simp [List.contains_iff_mem.1 hknown]
    next hknown =>
      rw [List.contains_iff_mem] at hknown
      simp [h, hknown, eq_comm]

theorem nameWarning?_eq_reserved_iff :
    nameWarning? name = some .reservedQualifier ↔ lowercase name = Query.freeTextKey := by
  rw [nameWarning?]
  split
  next h => simp [h]
  next h => split <;> simp [h]

/-- A name in lower case is warned of as unsupported, in one of its spellings. -/
def TellsUnsupported (s : Settings) (n : Text) : Prop :=
  ∃ name ∈ s.qualifiers, lowercase name = n ∧ .unsupportedQualifier name ∈ s.warnings

/-- **A name is warned of as unsupported** just when it is no known one and not the key of the free
text. -/
theorem tellsUnsupported_iff (hn : n ∈ s.qualifiers.map lowercase) :
    s.TellsUnsupported n ↔ n ≠ Query.freeTextKey ∧ n ∉ knownQualifiers := by
  constructor
  · rintro ⟨name, -, rfl, hw⟩
    rw [mem_warnings_iff (by simp)] at hw
    cases hw with
    | first _ _ hwarn =>
        obtain ⟨rfl, hkey, hunknown⟩ := nameWarning?_eq_unsupported_iff.1 hwarn
        exact ⟨hkey, hunknown⟩
  · rintro ⟨hkey, hunknown⟩
    obtain ⟨before, name, after, hnames, rfl, hfirst⟩ := exists_first hn
    refine ⟨name, by rw [hnames]; simp, rfl, ?_⟩
    rw [mem_warnings_iff (by simp)]
    exact .first hnames hfirst (nameWarning?_eq_unsupported_iff.2 ⟨rfl, hkey, hunknown⟩)

/-- **The key of the free text is warned of** just when it is listed. -/
theorem reserved_mem_warnings_iff :
    .reservedQualifier ∈ s.warnings ↔ Query.freeTextKey ∈ s.qualifiers.map lowercase := by
  rw [mem_warnings_iff (by simp)]
  constructor
  · intro hw
    cases hw with
    | first hnames _ hwarn =>
        rw [← nameWarning?_eq_reserved_iff.1 hwarn, hnames]
        simp
  · intro hkey
    obtain ⟨before, name, after, hnames, hname, hfirst⟩ := exists_first hkey
    exact .first hnames hfirst (nameWarning?_eq_reserved_iff.2 hname)

/-- A listed name is known if there are no warnings. -/
theorem mem_knownQualifiers_of_warnings_eq_nil (h : s.warnings = []) (hname : name ∈ s.qualifiers) :
    lowercase name ∈ knownQualifiers := by
  have hn := List.mem_map_of_mem (f := lowercase) hname
  by_contra hunknown
  have none_told : ∀ w, w ∉ s.warnings := by
    intro w
    rw [h]
    exact List.not_mem_nil
  have hkey : lowercase name ≠ Query.freeTextKey := by
    intro hkey
    exact none_told _ (reserved_mem_warnings_iff.2 (hkey ▸ hn))
  obtain ⟨_, -, -, hw⟩ := (tellsUnsupported_iff hn).2 ⟨hkey, hunknown⟩
  exact none_told _ hw

theorem recognizes_vocabulary_iff (hn : n ∈ s.qualifiers.map lowercase) :
    s.vocabulary.recognizes n = true ↔ n ≠ [] ∧ n ≠ Query.freeTextKey := by
  obtain ⟨name, hname, rfl⟩ := List.mem_map.1 hn
  rw [vocabulary, Query.Vocabulary.recognizes_ofNames_iff, lowercase_lowercase]
  exact and_iff_right ⟨name, hname, rfl⟩

/-- **The warnings tell the truth about the engine.**  A listed name other than the empty one is
warned of as unsupported just when a query can use it and no session of any index satisfies a query
that does; the empty name is warned of as such too, but no query can use it.  The key of the free
text is warned of as reserved just when it is listed, and no query can use it as a qualifier.  Each
further spelling of a name adds a warning that it is listed again, and changes nothing else; without
further spellings there is no such warning.  Where there are no warnings, a query can use every
listed name, and some session satisfies one that does. -/
theorem warnings_truthful (s : Settings) :
    (∀ n ∈ s.qualifiers.map lowercase,
      (n ≠ [] → (s.TellsUnsupported n ↔
        s.vocabulary.recognizes n = true ∧ Index.NeverSatisfied n)) ∧
      (n = [] → s.TellsUnsupported n ∧ s.vocabulary.recognizes n = false)) ∧
    (.reservedQualifier ∈ s.warnings ↔ Query.freeTextKey ∈ s.qualifiers.map lowercase) ∧
    s.vocabulary.recognizes Query.freeTextKey = false ∧
    (∀ before name after, s.qualifiers = before ++ name :: after →
      lowercase name ∈ before.map lowercase →
        ∃ earlier later, s.warnings = earlier ++ .duplicateQualifier (lowercase name) :: later ∧
          { s with qualifiers := before ++ after }.warnings = earlier ++ later) ∧
    (∀ n, s.warnings.count (.duplicateQualifier n) = (s.qualifiers.map lowercase).count n - 1) ∧
    (s.warnings = [] → ∀ name ∈ s.qualifiers, s.vocabulary.recognizes name = true ∧
      ∃ (t : Transcript) (raw : Text), (s.vocabulary.parse raw).qualifiers.contains name = true ∧
        (Index.build s.rule [t]).search s.vocabulary raw t.key = true) := by
  have key : lowercase Query.freeTextKey = Query.freeTextKey := by decide
  refine ⟨fun n hn => ⟨fun hne => ?_, ?_⟩, reserved_mem_warnings_iff, ?_, ?_, fun n => ?_, ?_⟩
  · obtain ⟨name, -, rfl⟩ := List.mem_map.1 hn
    rw [tellsUnsupported_iff hn, recognizes_vocabulary_iff hn, Index.neverSatisfied_iff,
      lowercase_lowercase]
    exact and_congr_left fun _ => (and_iff_right hne).symm
  · rintro rfl
    refine ⟨(tellsUnsupported_iff hn).2 (by decide), ?_⟩
    rw [← Bool.not_eq_true, recognizes_vocabulary_iff hn]
    exact fun h => h.1 rfl
  · rw [← Bool.not_eq_true, vocabulary, Query.Vocabulary.recognizes_ofNames_iff, key]
    exact fun h => h.2.2 rfl
  · intro before name after hnames hagain
    let length : List Warning := if s.minTermLength = 0 then [.zeroMinTermLength] else []
    refine ⟨nameWarnings [] before, nameWarnings (before.map lowercase ++ []) after ++ length, ?_,
      ?_⟩
    · rw [warnings, hnames, nameWarnings_again hagain, List.append_assoc]
      rfl
    · rw [warnings, nameWarnings_append, List.append_assoc]
  · have length : (if s.minTermLength = 0 then [Warning.zeroMinTermLength] else []).count
        (.duplicateQualifier n) = 0 := by
      split <;> simp
    rw [warnings, List.count_append, length, count_nameWarnings, if_neg List.not_mem_nil]
    rfl
  · intro h name hname
    have hknown := mem_knownQualifiers_of_warnings_eq_nil h hname
    have usable : ∀ n ∈ knownQualifiers, n ≠ [] ∧ n ≠ Query.freeTextKey := by decide
    have recognized : s.vocabulary.recognizes name = true :=
      Query.Vocabulary.recognizes_ofNames_iff.2 ⟨⟨name, hname, rfl⟩, usable _ hknown⟩
    exact ⟨recognized, Index.exists_search s.rule recognized hknown⟩

/-- Settings with some qualifier names. -/
def ofQualifiers (names : List String) : Settings :=
  { default with qualifiers := names.map String.toList }

/-- A known name in another case, an unknown one in two cases, and the key of the free text in
capitals. -/
theorem spoken_warnings_truthful :
    (ofQualifiers ["YEAR", "Speaker", "speaker", "_QUERY"]).warnings =
        [.unsupportedQualifier "Speaker".toList, .duplicateQualifier "speaker".toList,
          .reservedQualifier] ∧
      (ofQualifiers ["YEAR", "Speaker", "speaker", "_QUERY"]).vocabulary.recognizes
        "speaker".toList = true ∧
      Index.NeverSatisfied "speaker".toList ∧
      ∃ (t : Transcript) (raw : Text),
        ((ofQualifiers ["YEAR"]).vocabulary.parse raw).qualifiers.contains "YEAR".toList = true ∧
          (Index.build (ofQualifiers ["YEAR"]).rule [t]).search
            (ofQualifiers ["YEAR"]).vocabulary raw
            t.key = true := by
  have told : (ofQualifiers ["YEAR", "Speaker", "speaker", "_QUERY"]).TellsUnsupported
      "speaker".toList :=
    ⟨"Speaker".toList, by decide, by decide, by decide⟩
  obtain ⟨truthful, -⟩ := warnings_truthful (ofQualifiers ["YEAR", "Speaker", "speaker", "_QUERY"])
  obtain ⟨recognized, never⟩ :=
    ((truthful "speaker".toList (by decide)).1 (by decide)).1 told
  obtain ⟨-, -, -, -, -, clean⟩ := warnings_truthful (ofQualifiers ["YEAR"])
  exact ⟨by decide, recognized, never,
    (clean (by decide) "YEAR".toList (by decide)).2⟩

/-- Settings that list the empty name and let a term have any length. -/
def listsNothing : Settings := { ofQualifiers [""] with minTermLength := 0 }

/-- **The warning on the empty name does not tell the truth.**  It says that the name is one that no
search can decide, but no query can use the name in the first place: what stands after a colon
without a name is searched for as it is. -/
theorem emptyName_warned :
    listsNothing.warnings = [.unsupportedQualifier [], .zeroMinTermLength] ∧
      listsNothing.vocabulary.recognizes [] = false ∧
      listsNothing.vocabulary.parse ":swift".toList = ⟨.empty, ":swift".toList⟩ := by
  refine ⟨?_, ?_, ?_⟩ <;> decide

end Settings

end TranscriptSearch
