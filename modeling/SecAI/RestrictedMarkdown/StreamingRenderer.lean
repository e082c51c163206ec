/-
Module: SecAI.RestrictedMarkdown.StreamingRenderer
Purpose: The renderer that shows an answer while its text still arrives: what
  it keeps of the text, and what stands on the page.
Trusted boundary: the container takes a text and a class without an exception;
  the transform of the caller is a function of the text it is given
Main exports:
  Settings, Renderer, Action, source_depends_on_text_iff
-/
import Mathlib.Algebra.Order.Ring.Rat
import Mathlib.Data.List.Infix
import SecAI.RestrictedMarkdown.Sanitizer

namespace SecAI.RestrictedMarkdown

def truncationNotice : Units :=
  unitsOf "\n\n[AI 설명이 길어 일부 내용을 표시하지 않았습니다.]"

/-- What a call of `settings.sourceTransform` ends with. -/
inductive Transformed where
  | text (units : Units)
  | otherValue
  | raised

/-- The options of a renderer, and the page it renders on. -/
structure Settings where
  /-- `settings.throttleMs`, where it is a finite number. -/
  throttleMs : Option ℚ
  sourceTransform : Option (Units → Transformed)
  /-- Whether `render` shows a text without an exception. -/
  renders : Units → Bool

def Settings.throttle (settings : Settings) : ℚ :=
  match settings.throttleMs with
  | some milliseconds => max 0 (min 1000 milliseconds)
  | none => 75

/-- What the container shows. -/
inductive Shown where
  | untouched
  | plainText (units : Units)
  | rendered (units : Units)

/-- The variables of `createStreamingRenderer`, and what the container shows. -/
structure Renderer where
  source : Units
  timer : Bool
  destroyed : Bool
  exceeded : Bool
  shown : Shown

namespace Renderer

def initial : Renderer := ⟨[], false, false, false, .untouched⟩

/-- `sourceForDisplay`, where it raises nothing. -/
def sourceForDisplay (settings : Settings) (renderer : Renderer) :
    Option Units :=
  match settings.sourceTransform with
  | none => some renderer.source
  | some transform =>
      match transform renderer.source with
      | .text units => some units
      | .otherValue => some renderer.source
      | .raised => none

def clearTimer (renderer : Renderer) : Renderer :=
  { renderer with timer := false }

def fallbackToPlainText (settings : Settings) (renderer : Renderer) :
    Renderer :=
  { renderer.clearTimer with
    shown := .plainText
      ((renderer.sourceForDisplay settings).getD renderer.source) }

def flush (settings : Settings) (renderer : Renderer) : Renderer :=
  if renderer.destroyed then renderer
  else if renderer.exceeded then renderer.fallbackToPlainText settings
  else
    match renderer.sourceForDisplay settings with
    | some units =>
        if settings.renders units then
          { renderer.clearTimer with shown := .rendered units }
        else renderer.fallbackToPlainText settings
    | none => renderer.fallbackToPlainText settings

def schedule (settings : Settings) (renderer : Renderer) : Renderer :=
  if settings.throttle = 0 then renderer.flush settings
  else { renderer with timer := true }

/-- What is handed to `append`. -/
inductive Delta where
  | text (units : Units)
  | otherValue

def append (settings : Settings) (renderer : Renderer) :
    Delta → Renderer
  | .otherValue => renderer
  | .text delta =>
      if renderer.destroyed ∨ delta = [] then renderer
      else if maxSourceChars < renderer.source.length + delta.length then
        let remaining := maxSourceChars - renderer.source.length
        fallbackToPlainText settings
          { renderer with
            source :=
              renderer.source ++ delta.take remaining ++ truncationNotice
            exceeded := true }
      else
        schedule settings
          { renderer with source := renderer.source ++ delta }

def destroy (renderer : Renderer) : Renderer :=
  { renderer.clearTimer with destroyed := true }

def getSource (renderer : Renderer) : Units := renderer.source

end Renderer

/-- What happens to a renderer: its operations are called, or its timer goes
off. -/
inductive Action where
  | append (delta : Renderer.Delta)
  | flush
  | complete
  | fallbackToPlainText
  | destroy
  | timeout

def Renderer.step (settings : Settings) (renderer : Renderer) :
    Action → Renderer
  | .append delta => renderer.append settings delta
  | .flush | .complete => renderer.flush settings
  | .fallbackToPlainText => renderer.fallbackToPlainText settings
  | .destroy => renderer.destroy
  | .timeout => if renderer.timer then renderer.flush settings else renderer

def Renderer.run (settings : Settings) (actions : List Action) : Renderer :=
  actions.foldl (Renderer.step settings) .initial

/-- The texts that reach the source of a renderer: those that are not empty and
not handed over after it was destroyed. -/
def appendedText : List Action → List Units
  | [] => []
  | .destroy :: _ => []
  | .append (.text delta) :: later =>
      if delta = [] then appendedText later
      else delta :: appendedText later
  | _ :: later => appendedText later

def extended (source delta : Units) : Units :=
  if maxSourceChars < source.length + delta.length then
    source ++ delta.take (maxSourceChars - source.length) ++ truncationNotice
  else source ++ delta

section Steps

variable (settings : Settings) (renderer : Renderer)

theorem flush_keeps :
    (renderer.flush settings).source = renderer.source ∧
      (renderer.flush settings).destroyed = renderer.destroyed ∧
      (renderer.flush settings).exceeded = renderer.exceeded := by
  unfold Renderer.flush
  split
  · exact ⟨rfl, rfl, rfl⟩
  split
  · exact ⟨rfl, rfl, rfl⟩
  · split
    · split <;> exact ⟨rfl, rfl, rfl⟩
    · exact ⟨rfl, rfl, rfl⟩

theorem schedule_keeps :
    (renderer.schedule settings).source = renderer.source ∧
      (renderer.schedule settings).destroyed = renderer.destroyed ∧
      (renderer.schedule settings).exceeded = renderer.exceeded := by
  unfold Renderer.schedule
  split
  · exact flush_keeps settings renderer
  · exact ⟨rfl, rfl, rfl⟩

/-- A text that is not empty extends the source, until the renderer is
destroyed. -/
theorem append_extends {delta : Units} (alive : renderer.destroyed = false)
    (nonempty : delta ≠ []) :
    (renderer.append settings (.text delta)).source =
        extended renderer.source delta ∧
      (renderer.append settings (.text delta)).destroyed = false := by
  have goesOn : ¬(renderer.destroyed = true ∨ delta = []) := by
    rw [alive]
    exact not_or.mpr ⟨Bool.false_ne_true, nonempty⟩
  rw [Renderer.append, if_neg goesOn, extended]
  split
  · exact ⟨rfl, alive⟩
  · obtain ⟨source, destroyed, _⟩ := schedule_keeps settings
      { renderer with source := renderer.source ++ delta }
    exact ⟨source, destroyed.trans alive⟩

/-- A renderer that was destroyed keeps its source. -/
theorem destroyed_keeps (gone : renderer.destroyed = true) (action : Action) :
    (renderer.step settings action).source = renderer.source ∧
      (renderer.step settings action).destroyed = true := by
  have flushed : (renderer.flush settings).source = renderer.source ∧
      (renderer.flush settings).destroyed = true :=
    ⟨(flush_keeps settings renderer).1,
      (flush_keeps settings renderer).2.1.trans gone⟩
  cases action with
  | append delta =>
      cases delta with
      | text units =>
          simp only [Renderer.step, Renderer.append, gone, true_or, if_true,
            and_self]
      | otherValue => exact ⟨rfl, gone⟩
  | flush => exact flushed
  | complete => exact flushed
  | fallbackToPlainText => exact ⟨rfl, gone⟩
  | destroy => exact ⟨rfl, rfl⟩
  | timeout =>
      rw [Renderer.step]
      split
      · exact flushed
      · exact ⟨rfl, gone⟩

end Steps

theorem source_of_destroyed (settings : Settings) (actions : List Action) :
    ∀ {renderer : Renderer}, renderer.destroyed = true →
      (actions.foldl (Renderer.step settings) renderer).source =
        renderer.source := by
  induction actions with
  | nil => exact fun _ => rfl
  | cons action later ih =>
      intro renderer gone
      obtain ⟨source, stillGone⟩ :=
        destroyed_keeps settings renderer gone action
      exact (ih stillGone).trans source

/-- From any renderer, the source is extended by the texts that reach it, one
after the other. -/
theorem source_from (settings : Settings) (actions : List Action) :
    ∀ {renderer : Renderer}, renderer.destroyed = false →
      (actions.foldl (Renderer.step settings) renderer).source =
        (appendedText actions).foldl extended renderer.source := by
  induction actions with
  | nil => exact fun _ => rfl
  | cons action later ih =>
      intro renderer alive
      -- A step that appends nothing leaves all to the later ones.
      have passes : (renderer.step settings action).source = renderer.source →
          (renderer.step settings action).destroyed = false →
          appendedText (action :: later) = appendedText later →
          ((action :: later).foldl (Renderer.step settings) renderer).source =
            (appendedText (action :: later)).foldl extended
              renderer.source := by
        intro source stillAlive ignored
        rw [ignored, ← source]
        exact ih stillAlive
      have flushed := flush_keeps settings renderer
      cases action with
      | append delta =>
          cases delta with
          | otherValue => exact passes rfl alive rfl
          | text delta =>
              by_cases empty : delta = []
              case pos =>
                have ignored : renderer.step settings (.append (.text delta)) =
                    renderer := by
                  rw [Renderer.step, Renderer.append, if_pos (.inr empty)]
                refine passes (by rw [ignored]) (by rw [ignored]; exact alive) ?_
                rw [appendedText, if_pos empty]
              case neg =>
                obtain ⟨source, stillAlive⟩ :=
                  append_extends settings renderer alive empty
                rw [appendedText, if_neg empty, List.foldl_cons,
                  List.foldl_cons, ← source]
                exact ih stillAlive
      | flush => exact passes flushed.1 (flushed.2.1.trans alive) rfl
      | complete => exact passes flushed.1 (flushed.2.1.trans alive) rfl
      | fallbackToPlainText => exact passes rfl alive rfl
      | destroy => exact source_of_destroyed settings later rfl
      | timeout =>
          refine passes ?_ ?_ rfl
          all_goals
            rw [Renderer.step]
            split
          · exact flushed.1
          · rfl
          · exact flushed.2.1.trans alive
          · exact alive

theorem source_of_run (settings : Settings) (actions : List Action) :
    (Renderer.run settings actions).getSource =
      (appendedText actions).foldl extended [] :=
  source_from settings actions rfl

/-- How many of the texts are appended, or cut, past the limit. -/
def crossings (deltas : List Units) : Nat :=
  deltas.inits.countP fun earlier =>
    decide (maxSourceChars < earlier.flatten.length)

theorem crossings_concat (deltas : List Units) (delta : Units) :
    crossings (deltas ++ [delta]) = crossings deltas +
      if maxSourceChars < (deltas ++ [delta]).flatten.length then 1 else 0 := by
  have inits : (deltas ++ [delta]).inits =
      deltas.inits ++ [deltas ++ [delta]] := by
    simp [List.inits_append]
  rw [crossings, inits, List.countP_append, List.countP_singleton]
  simp only [crossings, decide_eq_true_eq]

theorem crossings_eq_zero_iff (deltas : List Units) :
    crossings deltas = 0 ↔ deltas.flatten.length ≤ maxSourceChars := by
  rw [crossings, List.countP_eq_zero]
  constructor
  case mp =>
    intro none
    have whole := none deltas ((List.mem_inits _ _).mpr List.prefix_rfl)
    simpa using whole
  case mpr =>
    intro within earlier isEarlier
    obtain ⟨later, rfl⟩ := (List.mem_inits _ _).mp isEarlier
    rw [List.flatten_append, List.length_append] at within
    simp only [decide_eq_true_eq]
    omega

theorem extended_past {source : Units} (delta : Units)
    (past : maxSourceChars < source.length) :
    extended source delta = source ++ truncationNotice := by
  rw [extended, if_pos (by omega), Nat.sub_eq_zero_of_le (by omega),
    List.take_zero, List.append_nil]

theorem extended_within {source : Units} (delta : Units)
    (within : source.length ≤ maxSourceChars) :
    extended source delta = (source ++ delta).take maxSourceChars ++
      (List.replicate
        (if maxSourceChars < (source ++ delta).length then 1 else 0)
        truncationNotice).flatten := by
  rw [extended, List.length_append]
  split
  · rw [List.take_append, List.take_of_length_le within]
    simp only [List.replicate_one, List.flatten_cons, List.flatten_nil,
      List.append_nil]
  · next fits =>
      rw [List.take_of_length_le (by rw [List.length_append]; omega)]
      simp only [List.replicate_zero, List.flatten_nil, List.append_nil]

/-- The source is what fits of the texts, with a notice for every text that was
cut or left out. -/
theorem extended_texts (deltas : List Units) :
    deltas.foldl extended [] = deltas.flatten.take maxSourceChars ++
      (List.replicate (crossings deltas) truncationNotice).flatten := by
  induction deltas using List.reverseRecOn with
  | nil => rfl
  | append_singleton deltas delta ih =>
      rw [List.foldl_concat, ih, crossings_concat,
        List.flatten_concat]
      by_cases within : deltas.flatten.length ≤ maxSourceChars
      case pos =>
        rw [(crossings_eq_zero_iff deltas).mpr within, List.replicate_zero,
          List.flatten_nil, List.append_nil, List.take_of_length_le within,
          extended_within delta within, Nat.zero_add]
      case neg =>
        -- A notice stands behind the cut text already.
        have noticed : crossings deltas ≠ 0 :=
          fun none => within ((crossings_eq_zero_iff deltas).mp none)
        obtain ⟨others, counted⟩ := Nat.exists_eq_succ_of_ne_zero noticed
        have cut : (deltas.flatten.take maxSourceChars).length =
            maxSourceChars := by
          rw [List.length_take]
          omega
        rw [extended_past, if_pos (by rw [List.length_append]; omega),
          List.take_append_of_le_length (by omega), List.replicate_succ',
          List.flatten_concat, List.append_assoc]
        rw [List.length_append, cut, counted, List.replicate_succ,
          List.flatten_cons, List.length_append]
        have written : 0 < truncationNotice.length := by decide
        omega

def limitedText (text : Units) : Units :=
  if text.length ≤ maxSourceChars then text
  else text.take maxSourceChars ++ truncationNotice

/-- Nothing is appended once the limit is crossed. -/
def CrossesLast (deltas : List Units) : Prop :=
  deltas.dropLast.flatten.length ≤ maxSourceChars

instance (deltas : List Units) : Decidable (CrossesLast deltas) :=
  inferInstanceAs (Decidable (_ ≤ _))

/-- The texts leave what they are meant to leave exactly if none of them is
appended past the limit. -/
theorem extended_eq_limitedText_iff (deltas : List Units) :
    deltas.foldl extended [] = limitedText deltas.flatten ↔
      CrossesLast deltas := by
  have written : 0 < truncationNotice.length := by decide
  rw [extended_texts, limitedText, CrossesLast]
  induction deltas using List.reverseRecOn with
  | nil => exact iff_of_true rfl (Nat.zero_le _)
  | append_singleton deltas delta _ =>
      rw [List.dropLast_concat, ← crossings_eq_zero_iff deltas,
        crossings_concat]
      by_cases fits : (deltas ++ [delta]).flatten.length ≤ maxSourceChars
      case pos =>
        -- All together are within the limit, so the first ones are.
        have earlier : crossings deltas = 0 := by
          rw [crossings_eq_zero_iff]
          rw [List.flatten_concat, List.length_append] at fits
          omega
        rw [if_pos fits, if_neg (by omega), earlier,
          List.take_of_length_le fits]
        exact iff_of_true (List.append_nil _) rfl
      case neg =>
        rw [if_neg fits, if_pos (by omega), List.append_right_inj,
          List.replicate_succ, List.flatten_cons, List.append_right_eq_self]
        constructor
        case mp =>
          intro nothing
          by_contra noticed
          obtain ⟨others, counted⟩ := Nat.exists_eq_succ_of_ne_zero noticed
          rw [counted, List.replicate_succ, List.flatten_cons] at nothing
          have lengths := congrArg List.length nothing
          rw [List.length_append, List.length_nil] at lengths
          omega
        case mpr =>
          intro none
          rw [none]
          rfl

/-- What a renderer keeps depends on the total text exactly as long as nothing
is appended past the limit. -/
theorem source_depends_on_text_iff (settings : Settings)
    (actions : List Action) :
    (Renderer.run settings actions).getSource =
        limitedText (appendedText actions).flatten ↔
      CrossesLast (appendedText actions) := by
  rw [source_of_run]
  exact extended_eq_limitedText_iff _

def plainSettings : Settings := ⟨none, none, fun _ => true⟩

/-- A text that comes past the limit leaves a second notice. -/
theorem second_notice :
    (Renderer.run plainSettings
        ([List.replicate 102401 97, [98]].map fun delta : Units =>
          Action.append (.text delta))).getSource ≠
      limitedText ([List.replicate 102401 97, [98]] : List Units).flatten := by
  let deltas : List Units := [List.replicate 102401 97, [98]]
  have nonempty : List.replicate 102401 (97 : UInt16) ≠ [] := by
    rw [Ne, List.replicate_eq_nil_iff]
    decide
  have appended : appendedText
      (deltas.map fun delta => Action.append (.text delta)) = deltas := by
    rw [List.map_cons, appendedText, if_neg nonempty]
    rfl
  have crossed : ¬CrossesLast deltas := by
    rw [CrossesLast, show deltas.dropLast = [List.replicate 102401 97] from rfl,
      List.flatten_cons, List.flatten_nil, List.append_nil,
      List.length_replicate]
    decide
  rw [source_of_run, appended]
  exact fun same => crossed ((extended_eq_limitedText_iff deltas).mp same)

end SecAI.RestrictedMarkdown
