/-
Module: SecAI.Package.Json
Purpose: JSON documents as the strict loader returns them, with the lookups
  the validators make.
Trusted boundary: none
Main exports:
  Json, Json.same, Json.member, Json.stringAt
-/
import Mathlib.Data.List.Basic

namespace SecAI

/-- A loaded JSON document.  A finite double is kept by its bits.  The members
of an object stand in the order of their keys: nothing reads the order in
which a `dict` was filled. -/
inductive Json where
  | null
  | bool (value : Bool)
  | int (value : Int)
  | float (bits : UInt64)
  | str (value : String)
  | arr (items : List Json)
  | obj (members : List (String × Json))

namespace Json

mutual

def same : Json → Json → Bool
  | .null, .null => true
  | .bool first, .bool second => decide (first = second)
  | .int first, .int second => decide (first = second)
  | .float first, .float second => decide (first = second)
  | .str first, .str second => decide (first = second)
  | .arr first, .arr second => sameItems first second
  | .obj first, .obj second => sameMembers first second
  | _, _ => false

def sameItems : List Json → List Json → Bool
  | [], [] => true
  | first :: firsts, second :: seconds =>
      same first second && sameItems firsts seconds
  | _, _ => false

def sameMembers : List (String × Json) → List (String × Json) → Bool
  | [], [] => true
  | (firstKey, first) :: firsts, (secondKey, second) :: seconds =>
      decide (firstKey = secondKey) && same first second &&
        sameMembers firsts seconds
  | _, _ => false

end

mutual

theorem same_iff : ∀ first second : Json, same first second = true ↔ first = second
  | .null, second => by cases second <;> simp [same]
  | .bool value, second => by cases second <;> simp [same]
  | .int value, second => by cases second <;> simp [same]
  | .float bits, second => by cases second <;> simp [same]
  | .str value, second => by cases second <;> simp [same]
  | .arr items, second => by
      cases second with
      | arr others => simp [same, sameItems_iff items others]
      | _ => simp [same]
  | .obj members, second => by
      cases second with
      | obj others => simp [same, sameMembers_iff members others]
      | _ => simp [same]

theorem sameItems_iff : ∀ firsts seconds : List Json,
    sameItems firsts seconds = true ↔ firsts = seconds
  | [], seconds => by cases seconds <;> simp [sameItems]
  | first :: firsts, seconds => by
      cases seconds with
      | nil => simp [sameItems]
      | cons second seconds =>
          simp [sameItems, same_iff first second,
            sameItems_iff firsts seconds]

theorem sameMembers_iff : ∀ firsts seconds : List (String × Json),
    sameMembers firsts seconds = true ↔ firsts = seconds
  | [], seconds => by cases seconds <;> simp [sameMembers]
  | (firstKey, first) :: firsts, seconds => by
      cases seconds with
      | nil => simp [sameMembers]
      | cons second seconds =>
          obtain ⟨secondKey, second⟩ := second
          simp [sameMembers, same_iff first second,
            sameMembers_iff firsts seconds]

end

instance : DecidableEq Json := fun first second =>
  decidable_of_iff (same first second = true) (same_iff first second)

/-- `value.get(key)` of a mapping; anything else has no members. -/
def member (document : Json) (key : String) : Option Json :=
  match document with
  | .obj members =>
      (members.find? fun entry => decide (entry.1 = key)).map Prod.snd
  | _ => none

/-- `isinstance(value, Mapping)`. -/
def isObject : Json → Bool
  | .obj _ => true
  | _ => false

/-- The string under a key, if there is one. -/
def stringAt (document : Json) (key : String) : Option String :=
  match document.member key with
  | some (.str value) => some value
  | _ => none

/-- The integer under a key; `bool` is no integer here. -/
def integerAt (document : Json) (key : String) : Option Int :=
  match document.member key with
  | some (.int value) => some value
  | _ => none

/-- `without_top_level_fields`. -/
def without (document : Json) (excluded : List String) : Json :=
  match document with
  | .obj members =>
      .obj (members.filter fun entry => decide (entry.1 ∉ excluded))
  | other => other

/-- A number, however it is spelt. -/
def isNumber : Json → Bool
  | .int _ | .float _ => true
  | _ => false

mutual

/-- Two documents differ at most in their numbers. -/
inductive Alike : Json → Json → Prop where
  | null : Alike .null .null
  | bool (value : Bool) : Alike (.bool value) (.bool value)
  | number {first second : Json} (firstNumber : first.isNumber = true)
      (secondNumber : second.isNumber = true) : Alike first second
  | str (value : String) : Alike (.str value) (.str value)
  | arr {firsts seconds : List Json} (items : AlikeItems firsts seconds) :
      Alike (.arr firsts) (.arr seconds)
  | obj {firsts seconds : List (String × Json)}
      (members : AlikeMembers firsts seconds) :
      Alike (.obj firsts) (.obj seconds)

/-- Two arrays differ at most in the numbers of their items. -/
inductive AlikeItems : List Json → List Json → Prop where
  | nil : AlikeItems [] []
  | cons {first second : Json} {firsts seconds : List Json}
      (head : Alike first second) (tail : AlikeItems firsts seconds) :
      AlikeItems (first :: firsts) (second :: seconds)

/-- Two objects differ at most in the numbers of their members. -/
inductive AlikeMembers :
    List (String × Json) → List (String × Json) → Prop where
  | nil : AlikeMembers [] []
  | cons {first second : Json} {firsts seconds : List (String × Json)}
      (key : String) (head : Alike first second)
      (tail : AlikeMembers firsts seconds) :
      AlikeMembers ((key, first) :: firsts) ((key, second) :: seconds)

end

mutual

theorem Alike.refl : ∀ document : Json, Alike document document
  | .null => .null
  | .bool value => .bool value
  | .int _ | .float _ => .number rfl rfl
  | .str value => .str value
  | .arr items => .arr (AlikeItems.refl items)
  | .obj members => .obj (AlikeMembers.refl members)

theorem AlikeItems.refl : ∀ items : List Json, AlikeItems items items
  | [] => .nil
  | item :: items => .cons (Alike.refl item) (AlikeItems.refl items)

theorem AlikeMembers.refl :
    ∀ members : List (String × Json), AlikeMembers members members
  | [] => .nil
  | (key, value) :: members =>
      .cons key (Alike.refl value) (AlikeMembers.refl members)

end

namespace Alike

theorem eq_str {value : String} {second : Json}
    (alike : Alike (.str value) second) : second = .str value := by
  cases alike with
  | number firstNumber secondNumber => cases firstNumber
  | str value => rfl

theorem eq_arr {items : List Json} {second : Json}
    (alike : Alike (.arr items) second) :
    ∃ others, second = .arr others ∧ AlikeItems items others := by
  cases alike with
  | number firstNumber secondNumber => cases firstNumber
  | arr items => exact ⟨_, rfl, items⟩

/-- A member of one document has its like in the other. -/
theorem member {first second value : Json} {key : String}
    (alike : Alike first second) (found : first.member key = some value) :
    ∃ other, second.member key = some other ∧ Alike value other := by
  cases first with
  | obj firsts =>
      cases alike with
      | number firstNumber secondNumber => cases firstNumber
      | @obj firsts seconds members =>
          simp only [Json.member] at found ⊢
          induction firsts generalizing seconds with
          | nil => cases found
          | cons head tail ih =>
              cases members with
              | @cons first second firsts seconds name head tail =>
                  rw [List.find?_cons] at found ⊢
                  by_cases named : name = key
                  · rw [decide_eq_true named] at found ⊢
                    cases found
                    exact ⟨second, rfl, head⟩
                  · rw [decide_eq_false named] at found ⊢
                    exact ih found tail
  | _ => cases found

theorem stringAt {first second : Json} {key value : String}
    (alike : Alike first second) (found : first.stringAt key = some value) :
    second.stringAt key = some value := by
  unfold Json.stringAt at found
  split at found
  · next same =>
      cases found
      obtain ⟨other, foundOther, likeness⟩ := alike.member same
      rw [likeness.eq_str] at foundOther
      rw [Json.stringAt, foundOther]
  · cases found

end Alike

end Json

end SecAI
