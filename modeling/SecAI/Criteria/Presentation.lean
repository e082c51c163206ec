/-
Module: SecAI.Criteria.Presentation
Purpose: Which changes of the lists of a criteria document leave its normalized
  values and their digest as they are.
Trusted boundary: SHA-256 and the Unicode database are parameters
Main exports:
  firstSpelling, Rearranged, SamePresentation
-/
import SecAI.Criteria.Requests

namespace SecAI.Criteria

open SecAI.Text
open Outcome (bind_eq_ok)

variable (env : CriteriaEnvironment)

/-- The name of an entry, if it has one. -/
def entryName : Decoded → Option (List CodePoint)
  | .str text =>
      let name := foldPoints (stripPoints text)
      if name = [] then none else some name
  | _ => none

def firstSpelling (items : List Decoded) (key : List CodePoint) :
    Option (List CodePoint) :=
  (items.filterMap entryName).find? fun name =>
    decide (casefoldPoints env name = key)

/-- An entry whose name is not refused. -/
def IsAllowedEntry (item : Decoded) : Prop :=
  ∃ text, item = .str text ∧ (foldPoints (stripPoints text)).length ≤ 80 ∧
    (foldPoints (stripPoints text)).any isForbiddenInName = false

/-- Entries that are moved, or repeated with an allowed name, while the first
spelling of each name stays the first. -/
structure Rearranged (items others : List Decoded) : Prop where
  allowed : ∀ other ∈ others, other ∈ items ∨ IsAllowedEntry other
  first : ∀ key, firstSpelling env others key = firstSpelling env items key

/-- The entries of a list, which may be the lines of a text. -/
def entriesOf : Decoded → Option (List Decoded)
  | .str text => some ((pointLines text).map .str)
  | .list items => some items
  | _ => none

/-- Documents with the same values, the order and the repetitions of their
lists apart. -/
def SamePresentation (members others : Members) : Prop :=
  List.Forall₂ (fun member other => member.1 = other.1 ∧
    (member.2 = other.2 ∨ ∃ items moved, entriesOf member.2 = some items ∧
      other.2 = .list moved ∧ Rearranged env items moved)) members others

variable {env} {messages : NameMessages}

variable {value : Decoded} {items : List Decoded}

theorem namesSource_eq_ok :
    namesSource messages value = .ok items ↔ entriesOf value = some items := by
  cases value <;> simp [namesSource, entriesOf]

theorem firstSpelling_cons (item : Decoded) (rest : List Decoded)
    (key : List CodePoint) :
    firstSpelling env (item :: rest) key =
      match entryName item with
      | none => firstSpelling env rest key
      | some name =>
          if casefoldPoints env name = key then some name
          else firstSpelling env rest key := by
  unfold firstSpelling
  cases named : entryName item with
  | none => rw [List.filterMap_cons_none named]
  | some name =>
      rw [List.filterMap_cons_some named, List.find?_cons]
      dsimp only
      by_cases same : casefoldPoints env name = key
      · rw [if_pos same, decide_eq_true same]
      · rw [if_neg same, decide_eq_false same]

/-- An entry of an accepted list is allowed. -/
theorem isAllowedEntry_of_addName {item : Decoded}
    {names next : List (List CodePoint)}
    (added : addName env messages names item = .ok next) :
    IsAllowedEntry item := by
  unfold addName at added
  split at added
  · next text =>
      dsimp only at added
      split at added
      · next empty =>
          refine ⟨text, rfl, ?_, ?_⟩
          · rw [empty]
            exact Nat.zero_le _
          · rw [empty]
            rfl
      · split at added
        · cases added
        rename_i short
        split at added
        · cases added
        · next plain =>
            exact ⟨text, rfl, Nat.le_of_not_lt short,
              Bool.eq_false_of_not_eq_true plain⟩
  · cases added

theorem addName_of_allowed {item : Decoded} (allowed : IsAllowedEntry item)
    (names : List (List CodePoint)) :
    ∃ next, addName env messages names item = .ok next := by
  obtain ⟨text, rfl, short, plain⟩ := allowed
  unfold addName
  dsimp only
  rw [if_neg (Nat.not_lt_of_le short), plain]
  split
  · exact ⟨_, rfl⟩
  · rw [if_neg Bool.false_ne_true]
    split <;> exact ⟨_, rfl⟩

theorem foldlM_addName_of_allowed
    (allowed : ∀ item ∈ items, IsAllowedEntry item) :
    ∀ names, ∃ gathered,
      items.foldlM (addName env messages) names = .ok gathered := by
  induction items with
  | nil => exact fun names => ⟨names, rfl⟩
  | cons item rest ih =>
      intro names
      obtain ⟨isAllowed, others⟩ := List.forall_mem_cons.mp allowed
      obtain ⟨next, added⟩ :=
        @addName_of_allowed env messages item isAllowed names
      obtain ⟨gathered, done⟩ := ih others next
      exact ⟨gathered, bind_eq_ok.mpr ⟨next, added, done⟩⟩

theorem allowed_of_foldlM_addName :
    ∀ {names gathered : List (List CodePoint)},
      items.foldlM (addName env messages) names = .ok gathered →
        ∀ item ∈ items, IsAllowedEntry item := by
  induction items with
  | nil => exact fun _ => List.forall_mem_nil _
  | cons item rest ih =>
      intro names gathered done
      obtain ⟨next, added, later⟩ := bind_eq_ok.mp done
      exact List.forall_mem_cons.mpr
        ⟨isAllowedEntry_of_addName added, ih later⟩

/-- The loop gathers the first spellings. -/
theorem mem_foldlM_addName :
    ∀ {names gathered : List (List CodePoint)},
      items.foldlM (addName env messages) names = .ok gathered →
      ∀ name, name ∈ gathered ↔ name ∈ names ∨
        (casefoldPoints env name ∉ names.map (casefoldPoints env) ∧
          firstSpelling env items (casefoldPoints env name) = some name) := by
  induction items with
  | nil =>
      intro names gathered done name
      obtain rfl := Except.ok.inj done
      simp [firstSpelling]
  | cons item rest ih =>
      intro names gathered done name
      obtain ⟨next, added, later⟩ := bind_eq_ok.mp done
      rw [ih later name, firstSpelling_cons]
      obtain ⟨text, rfl, ⟨empty, rfl⟩ | ⟨known, rfl⟩ |
        ⟨filled, -, -, fresh, rfl⟩⟩ := addName_cases added
      · simp only [entryName, empty, if_true]
      · by_cases empty : foldPoints (stripPoints text) = []
        · simp only [entryName, empty, if_true]
        simp only [entryName, empty, if_false]
        apply or_congr_right
        apply and_congr_right
        intro unknown
        rw [if_neg]
        intro same
        exact unknown (same ▸ known)
      · simp only [entryName, filled, if_false, List.mem_append,
          List.mem_singleton, List.map_append, List.map_singleton]
        by_cases same : casefoldPoints env (foldPoints (stripPoints text)) =
            casefoldPoints env name
        · rw [if_pos same]
          constructor
          · rintro ((earlier | rfl) | ⟨unknown, -⟩)
            · exact .inl earlier
            · exact .inr ⟨fresh, rfl⟩
            · exact (unknown (.inr same.symm)).elim
          · rintro (earlier | ⟨-, isName⟩)
            · exact .inl (.inl earlier)
            · exact .inl (.inr (Option.some.inj isName).symm)
        · rw [if_neg same]
          constructor
          · rintro ((earlier | rfl) | ⟨unknown, first⟩)
            · exact .inl earlier
            · exact (same rfl).elim
            · exact .inr ⟨fun known => unknown (.inl known), first⟩
          · rintro (earlier | ⟨unknown, first⟩)
            · exact .inl (.inl earlier)
            · refine .inr ⟨?_, first⟩
              rintro (known | isName)
              · exact unknown known
              · exact same isName.symm

theorem areGathered_foldlM {gathered : List (List CodePoint)}
    (done : items.foldlM (addName env messages) [] = .ok gathered) :
    AreGathered env gathered :=
  @Outcome.foldlM_invariant _ _ _ _ (fun _ names => AreGathered env names)
    (fun _ _ _ _ holds added => areGathered_addName holds added)
    items [] [] gathered areGathered_nil done

/-- Rearranged entries are normalized to the same names. -/
theorem normalizedNames_of_rearranged {others : List Decoded}
    {names : List (List CodePoint)} (isSource : entriesOf value = some items)
    (moved : Rearranged env items others)
    (normalizes : normalizedNames env messages value = .ok names) :
    normalizedNames env messages (.list others) = .ok names := by
  obtain ⟨source, gathered, isItems, done, few, rfl⟩ :=
    normalizedNames_eq_ok.mp normalizes
  obtain rfl := Option.some.inj
    (isSource.symm.trans (namesSource_eq_ok.mp isItems))
  have allowed : ∀ other ∈ others, IsAllowedEntry other := by
    intro other member
    rcases moved.allowed other member with isItem | isAllowed
    · exact allowed_of_foldlM_addName done other isItem
    · exact isAllowed
  obtain ⟨regathered, redone⟩ :=
    @foldlM_addName_of_allowed env messages others allowed []
  have distinct := (areGathered_foldlM done).distinct
  have same : regathered.Perm gathered := by
    rw [List.perm_ext_iff_of_nodup
      (List.Nodup.of_map _ (areGathered_foldlM redone).distinct)
      (List.Nodup.of_map _ distinct)]
    intro name
    rw [mem_foldlM_addName redone, mem_foldlM_addName done, moved.first]
  refine normalizedNames_eq_ok.mpr
    ⟨others, regathered, rfl, redone, same.length_eq ▸ few, ?_⟩
  exact Ordered.sortedBy_of_perm same.symm distinct

theorem criterionValue_of_rearranged {definition : Server.CriterionDefinition}
    {others : List Decoded} {result : CriteriaValue}
    (isSource : entriesOf value = some items)
    (moved : Rearranged env items others)
    (returned : Server.criterionValue env definition value = .ok result) :
    Server.criterionValue env definition (.list others) = .ok result := by
  unfold Server.criterionValue at returned ⊢
  cases isType : definition.valueType with
  | integer =>
      rw [isType] at returned
      cases value with
      | int _ => cases isSource
      | _ => cases returned
  | boolean =>
      rw [isType] at returned
      cases value with
      | bool _ => cases isSource
      | _ => cases returned
  | stringList =>
      rw [isType] at returned
      dsimp only at returned ⊢
      cases normalizes : Server.normalizeList env definition value with
      | error raised =>
          rw [normalizes] at returned
          cases returned
      | ok names =>
          rw [normalizes] at returned
          unfold Server.normalizeList at normalizes ⊢
          obtain ⟨normalized, isNames, check⟩ := bind_eq_ok.mp normalizes
          rw [normalizedNames_of_rearranged isSource moved isNames,
            Outcome.ok_bind, check]
          exact returned

/-- A document with the same presentation has the same normalized values. -/
theorem validateCriteriaValues_of_samePresentation {members others : Members}
    {values : CriteriaValues} (same : SamePresentation env members others)
    (accepted : Server.validateCriteriaValues env (.dict members) =
      .ok values) :
    Server.validateCriteriaValues env (.dict others) = .ok values := by
  have paired := Outcome.mapM_eq_ok.mp accepted
  refine Outcome.mapM_eq_ok.mpr ?_
  clear accepted
  induction same generalizing values with
  | nil =>
      cases paired
      exact .nil
  | @cons member other _ _ alike _ ih =>
      cases paired with
      | cons head tail =>
          refine .cons ?_ (ih tail)
          obtain ⟨sameKey, sameValue | ⟨items, moved, isSource, isList,
            rearranged⟩⟩ := alike
          · rw [← Prod.ext sameKey sameValue]
            exact head
          · unfold Server.criterionEntry at head ⊢
            rw [← sameKey]
            split at head
            · cases head
            rename_i definition found
            obtain ⟨value, returned, isResult⟩ := bind_eq_ok.mp head
            rw [isList]
            exact bind_eq_ok.mpr ⟨value, criterionValue_of_rearranged
              isSource rearranged returned, isResult⟩

/-- The normalization of an accepted document is idempotent, and rearranging
its lists leaves the normalized values and their digest as they are, as long as
the first spelling of every name stays the first. -/
theorem presentation_does_not_matter {members : Members}
    {values : CriteriaValues}
    (accepted : Server.validateCriteriaValues env (.dict members) =
      .ok values) :
    Server.validateCriteriaValues env (jsonValues values) = .ok values ∧
    ∀ others, SamePresentation env members others →
      Server.validateCriteriaValues env (.dict others) = .ok values ∧
      Server.canonicalCriteriaSha256 env (.dict others) =
        Server.canonicalCriteriaSha256 env (.dict members) := by
  obtain ⟨-, -, -, settled⟩ := settled_of_validateCriteriaValues accepted
  refine ⟨validateCriteriaValues_of_settled settled, ?_⟩
  intro others same
  have again := validateCriteriaValues_of_samePresentation same accepted
  refine ⟨again, ?_⟩
  unfold Server.canonicalCriteriaSha256
  rw [accepted, again]

def serviceDocument (names : List String) : Members :=
  [(points "unnecessary_service_ids".toList,
    .list (names.map fun name => .str (points name.toList)))]

/-- Two names, in another order and one of them twice. -/
theorem two_names_are_rearranged :
    Server.validateCriteriaValues sampleEnvironment
      (.dict (serviceDocument ["bar", "Foo", "FOO"])) =
      Server.validateCriteriaValues sampleEnvironment
        (.dict (serviceDocument ["Foo", "bar"])) := by
  have accepted : Server.validateCriteriaValues sampleEnvironment
      (.dict (serviceDocument ["Foo", "bar"])) =
      .ok [("unnecessary_service_ids",
        .names [points "bar".toList, points "Foo".toList])] := by
    decide +kernel
  rw [accepted]
  refine ((presentation_does_not_matter accepted).2
    (serviceDocument ["bar", "Foo", "FOO"]) (.cons ⟨rfl, .inr
      ⟨_, _, rfl, rfl, ⟨?_, ?_⟩⟩⟩ .nil)).1
  · intro other member
    refine .inr ?_
    simp only [List.map_cons, List.map_nil, List.mem_cons, List.not_mem_nil,
      or_false] at member
    rcases member with rfl | rfl | rfl
    · exact ⟨_, rfl, by decide, by decide⟩
    · exact ⟨_, rfl, by decide, by decide⟩
    · exact ⟨_, rfl, by decide, by decide⟩
  · intro key
    have entries : ∀ name ∈ ["bar", "Foo", "FOO"],
        entryName (.str (points name.toList)) = some (points name.toList) := by
      decide +kernel
    have folded : casefoldPoints sampleEnvironment (points "FOO".toList) =
        casefoldPoints sampleEnvironment (points "Foo".toList) ∧
        casefoldPoints sampleEnvironment (points "bar".toList) ≠
          casefoldPoints sampleEnvironment (points "Foo".toList) := by
      decide +kernel
    simp only [List.map_cons, List.map_nil, firstSpelling_cons,
      entries "bar" (by decide), entries "Foo" (by decide),
      entries "FOO" (by decide), folded.1]
    split
    · next isBar =>
        rw [if_neg fun isFoo => folded.2 (isBar.trans isFoo.symm)]
    · split <;> rfl

/-- Which spelling is kept depends on the order. -/
theorem first_spelling_is_kept :
    ["Foo", "foo"].Perm ["foo", "Foo"] ∧
    Server.validateCriteriaValues sampleEnvironment
      (.dict (serviceDocument ["Foo", "foo"])) =
      .ok [("unnecessary_service_ids", .names [points "Foo".toList])] ∧
    Server.validateCriteriaValues sampleEnvironment
      (.dict (serviceDocument ["foo", "Foo"])) =
      .ok [("unnecessary_service_ids", .names [points "foo".toList])] := by
  refine ⟨List.Perm.swap _ _ _, ?_, ?_⟩ <;> decide +kernel

end SecAI.Criteria
