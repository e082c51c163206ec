/-
Module: SecAI.Explanation.SummaryStream
Purpose: The summary of a Windows PC leaves out the lines in which the model
  counts statuses while the text arrives: as it would line by line.
Trusted boundary: the Unicode database is a parameter; the texts of the model
  have no lone surrogates
Main exports:
  keptLines, keptLines_append, streamWithoutStatusCountLines
-/
import SecAI.Explanation.InstructionGuard

namespace SecAI.Text

def ontoFirst (character : Char) : List (List Char) → List (List Char)
  | [] => [[character]]
  | line :: lines => (character :: line) :: lines

/-- `text.splitlines(keepends=True)`. -/
def keptLines : List Char → List (List Char)
  | [] => []
  | '\r' :: '\n' :: rest => ['\r', '\n'] :: keptLines rest
  | character :: rest =>
      if isLineBreak character then [character] :: keptLines rest
      else ontoFirst character (keptLines rest)

def isReturn (character : Char) : Bool :=
  decide (character = '\n' ∨ character = '\r')

/-- `line.endswith(("\n", "\r"))`. -/
def endsLine (line : List Char) : Bool := line.getLast?.any isReturn

/-- The border between two texts is within a line end. -/
def Halves (first second : List Char) : Prop :=
  first.getLast? = some '\r' ∧ second.head? = some '\n'

/-- No other character than a feed or a return breaks lines. -/
def HasPlainBreaks (text : List Char) : Prop :=
  ∀ character ∈ text, isLineBreak character = true →
    isReturn character = true

variable {character : Char} {text rest : List Char}

theorem keptLines_cons (whole : ¬Halves [character] rest) :
    keptLines (character :: rest) =
      if isLineBreak character then [character] :: keptLines rest
      else ontoFirst character (keptLines rest) := by
  rw [keptLines]
  rintro behind rfl rfl
  exact whole ⟨rfl, rfl⟩

theorem not_halves (inside : isLineBreak character = false) :
    ¬Halves [character] rest := by
  rintro ⟨⟨⟩, _⟩
  cases inside

theorem keptLines_ne_nil (filled : text ≠ []) : keptLines text ≠ [] := by
  fun_cases keptLines text with
  | case1 => exact absurd rfl filled
  | case2 | case3 => exact List.cons_ne_nil _ _
  | case4 character rest => cases keptLines rest <;> exact List.cons_ne_nil _ _

/-- A text without line breaks is one line, unless it is empty. -/
theorem keptLines_open : ∀ {tail : List Char},
    (∀ character ∈ tail, isLineBreak character = false) →
      keptLines tail = if tail = [] then [] else [tail]
  | [], _ => rfl
  | character :: tail, inside => by
      have first := inside character List.mem_cons_self
      rw [keptLines_cons (not_halves first), first, keptLines_open
        fun other member => inside other (List.mem_cons_of_mem _ member)]
      cases tail <;> rfl

/-- A text that is empty, or has ended its last line where `rest` begins. -/
structure EndsBefore (rest text : List Char) : Prop where
  plain : HasPlainBreaks text
  ended : text = [] ∨ endsLine text = true
  whole : ¬Halves text rest

theorem EndsBefore.tail (ends : EndsBefore rest (character :: text)) :
    EndsBefore rest text := by
  obtain ⟨plain, ended, whole⟩ := ends
  have shorter : HasPlainBreaks text :=
    fun other member => plain other (List.mem_cons_of_mem _ member)
  cases text with
  | nil => exact ⟨shorter, .inl rfl, nofun⟩
  | cons next text =>
      rw [endsLine, List.getLast?_cons_cons] at ended
      rw [Halves, List.getLast?_cons_cons] at whole
      exact ⟨shorter, .inr (ended.resolve_left nofun), whole⟩

/-- Lines that have ended stay as they are, whatever follows. -/
theorem keptLines_append (ends : EndsBefore rest text) :
    keptLines (text ++ rest) = keptLines text ++ keptLines rest ∧
      ∀ line ∈ keptLines text, endsLine line = true := by
  fun_induction keptLines text with
  | case1 => exact ⟨rfl, nofun⟩
  | case2 behind ih =>
      obtain ⟨same, ended⟩ := ih ends.tail.tail
      refine ⟨?_, List.forall_mem_cons.mpr ⟨rfl, ended⟩⟩
      rw [List.cons_append, List.cons_append, keptLines, same]
      rfl
  | case3 character behind apart isBreak ih =>
      obtain ⟨same, ended⟩ := ih ends.tail
      have isEnd := ends.plain character List.mem_cons_self isBreak
      refine ⟨?_, List.forall_mem_cons.mpr ⟨isEnd, ended⟩⟩
      rw [List.cons_append, keptLines_cons, if_pos isBreak, same]
      · rfl
      · cases behind with
        | nil => exact ends.whole
        | cons next behind =>
            rintro ⟨⟨⟩, ⟨⟩⟩
            exact apart _ rfl rfl
  | case4 character behind _ inside ih =>
      obtain ⟨same, ended⟩ := ih ends.tail
      have notBreak : isLineBreak character = false := by simpa using inside
      have filled : keptLines behind ≠ [] := by
        apply keptLines_ne_nil
        rintro rfl
        have isEnd := of_decide_eq_true (ends.ended.resolve_left nofun)
        rcases isEnd with rfl | rfl <;> cases notBreak
      rw [List.cons_append, keptLines_cons (not_halves notBreak), notBreak,
        same]
      obtain ⟨line, lines, isLines⟩ := List.exists_cons_of_ne_nil filled
      rw [isLines] at ended ⊢
      refine ⟨rfl, fun other member => ?_⟩
      rcases List.mem_cons.mp member with rfl | later
      · have filled := ended line List.mem_cons_self
        cases line with
        | nil => cases filled
        | cons next line => exact filled
      · exact ended other (List.mem_cons_of_mem _ later)

end SecAI.Text

namespace SecAI.Explanation

open SecAI.Text

/-- `.*(?:양호|취약|수집\s*오류|기준\s*확인\s*필요|PASS|FAIL|ERROR|REVIEW)`. -/
def statusName : Pattern :=
  .seq (.many (fun character => decide (character ≠ '\n')) 0 none)
    (.oneOf [oneOfTexts ["양호", "취약"],
      .sequence [.literal "수집", anyBlanks, .literal "오류"],
      .sequence [.literal "기준", anyBlanks, .literal "확인", anyBlanks,
        .literal "필요"],
      oneOfTexts ["PASS", "FAIL", "ERROR", "REVIEW"]])

/-- `.*\d+\s*개`. -/
def statusCount (database : CharacterDatabase) : Pattern :=
  .sequence [.many (fun character => decide (character ≠ '\n')) 0 none,
    .many (fun character => (database.decimal character).isSome) 1 none,
    anyBlanks, .literal "개"]

/-- `_STATUS_COUNT_LINE.search(line)`: two parts that look ahead. -/
def isStatusCountLine (database : CharacterDatabase) (line : List Char) :
    Bool :=
  line.tails.any fun rest =>
    (statusName.here none rest).isSome &&
      ((statusCount database).here none rest).isSome

section Stream

variable (database : CharacterDatabase)

/-- The loop over the lines of what is pending: what is pending then, and what
is sent. -/
def sendLines (pending : List Char) :
    List (List Char) → List Char × List (List Char)
  | [] => (pending, [])
  | line :: lines =>
      if endsLine line then
        let (later, sent) := sendLines pending lines
        (later, if isStatusCountLine database line then sent else line :: sent)
      else sendLines line lines

def streamBehind (pending : List Char) : List (List Char) → List (List Char)
  | [] =>
      if pending = [] ∨ isStatusCountLine database pending then []
      else [pending]
  | delta :: deltas =>
      let (later, sent) := sendLines database [] (keptLines (pending ++ delta))
      sent ++ streamBehind later deltas

def streamWithoutStatusCountLines (deltas : List (List Char)) :
    List (List Char) :=
  streamBehind database [] deltas

/-- No line end is cut in half between two deltas. -/
def KeepsLineEnds : List (List Char) → Prop
  | [] => True
  | delta :: deltas => ¬Halves delta deltas.flatten ∧ KeepsLineEnds deltas

variable {database} {deltas : List (List Char)} {pending : List Char}

theorem sendLines_append {lines : List (List Char)}
    (ended : ∀ line ∈ lines, endsLine line = true) :
    sendLines database [] (lines ++ keptLines pending) =
      ((sendLines database [] (keptLines pending)).1,
        lines.filter (!isStatusCountLine database ·) ++
          (sendLines database [] (keptLines pending)).2) := by
  induction lines with
  | nil => rfl
  | cons line lines ih =>
      obtain ⟨ends, later⟩ := List.forall_mem_cons.mp ended
      rw [List.cons_append, sendLines, if_pos ends, ih later, List.filter_cons]
      cases isStatusCountLine database line <;> rfl

/-- Nothing that no line break ends is sent yet. -/
theorem sendLines_open
    (isOpen : ∀ character ∈ pending, isLineBreak character = false) :
    sendLines database [] (keptLines pending) = (pending, []) := by
  rw [keptLines_open isOpen]
  split
  · next empty => rw [empty]; rfl
  · next filled =>
      have unended : ¬endsLine pending = true := by
        rw [endsLine, List.getLast?_eq_some_getLast filled]
        have last := isOpen _ (List.getLast_mem filled)
        intro isEnd
        rcases of_decide_eq_true isEnd with same | same
        · rw [same] at last; cases last
        · rw [same] at last; cases last
      rw [sendLines, if_neg unended]
      rfl

/-- Every text has a part without line breaks behind its last one. -/
theorem exists_open (text : List Char) :
    ∃ done pending, text = done ++ pending ∧
      (done = [] ∨ ∃ last, done.getLast? = some last ∧
        isLineBreak last = true) ∧
      ∀ character ∈ pending, isLineBreak character = false := by
  induction text using List.reverseRecOn with
  | nil => exact ⟨[], [], rfl, .inl rfl, nofun⟩
  | append_singleton text character ih =>
      obtain ⟨done, pending, rfl, ended, isOpen⟩ := ih
      cases breaks : isLineBreak character with
      | true =>
          refine ⟨done ++ pending ++ [character], [], by simp, .inr
            ⟨character, by simp, breaks⟩, nofun⟩
      | false =>
          refine ⟨done, pending ++ [character], by simp, ended, ?_⟩
          intro other member
          rcases List.mem_append.mp member with old | new
          · exact isOpen other old
          · rwa [List.mem_singleton.mp new]

/-- A text that is cut between its line ends only is sent as its lines are,
but for those that count statuses. -/
theorem streamBehind_eq_filter
    (isOpen : ∀ character ∈ pending, isLineBreak character = false)
    (plain : HasPlainBreaks (pending ++ deltas.flatten))
    (kept : KeepsLineEnds deltas) :
    streamBehind database pending deltas =
      (keptLines (pending ++ deltas.flatten)).filter
        (!isStatusCountLine database ·) := by
  induction deltas generalizing pending with
  | nil =>
      rw [streamBehind, List.flatten_nil, List.append_nil, keptLines_open isOpen]
      by_cases empty : pending = []
      · simp [empty]
      · cases counts : isStatusCountLine database pending <;>
          simp [empty, counts]
  | cons delta deltas ih =>
      obtain ⟨whole, kept⟩ := kept
      rw [List.flatten_cons, ← List.append_assoc] at plain ⊢
      obtain ⟨done, later, split, ended, laterOpen⟩ :=
        exists_open (pending ++ delta)
      rw [split, List.append_assoc] at plain ⊢
      have donePlain : HasPlainBreaks done :=
        fun other member => plain other (List.mem_append_left _ member)
      have doneEnds : ∀ {rest : List Char}, ¬Halves done rest →
          EndsBefore rest done := by
        intro rest apart
        refine ⟨donePlain, ended.imp_right ?_, apart⟩
        rintro ⟨last, isLast, breaks⟩
        rw [endsLine, isLast]
        exact donePlain last (List.mem_of_getLast? isLast) breaks
      have apart : ∀ {rest : List Char}, (later = [] → ¬Halves done rest) →
          ¬Halves done (later ++ rest) := by
        rintro rest border ⟨returns, feeds⟩
        cases later with
        | nil => exact border rfl ⟨returns, feeds⟩
        | cons next later =>
            obtain rfl := Option.some.inj feeds
            cases laterOpen '\n' List.mem_cons_self
      have border (empty : later = []) : ¬Halves done deltas.flatten := by
        rintro ⟨returns, feeds⟩
        rw [empty, List.append_nil] at split
        rw [← split, List.getLast?_append] at returns
        cases last : delta.getLast? with
        | none =>
            rw [last, Option.none_or] at returns
            cases isOpen '\r' (List.mem_of_getLast? returns)
        | some other =>
            rw [last] at returns
            exact whole ⟨last.trans returns, feeds⟩
      have here := keptLines_append (doneEnds (@apart []
        fun _ halves => nomatch halves.2))
      rw [List.append_nil] at here
      rw [streamBehind, split, here.1, sendLines_append here.2,
        sendLines_open laterOpen, (keptLines_append (doneEnds (apart border))).1,
        List.filter_append]
      dsimp only
      rw [List.append_nil, ih laterOpen
        (fun other member => plain other (List.mem_append_right _ member)) kept]

/-- However the text of the model is cut into deltas, as long as no return is
cut off its feed, what is sent are its lines that count no statuses. -/
theorem stream_is_filtered (database : CharacterDatabase)
    (deltas : List (List Char)) (plain : HasPlainBreaks deltas.flatten)
    (kept : KeepsLineEnds deltas) :
    streamWithoutStatusCountLines database deltas =
      (keptLines deltas.flatten).filter (!isStatusCountLine database ·) :=
  streamBehind_eq_filter nofun plain kept

/-- A line that counts statuses is left out, in whatever parts it arrives. -/
theorem counting_line_is_left_out :
    streamWithoutStatusCountLines asciiDatabase
        ["양호 3".toList, "개\n- 암".toList, "호\n".toList] =
      ["- 암호\n".toList] := by
  rw [stream_is_filtered asciiDatabase]
  · decide
  · exact @of_decide_eq_true _ (List.decidableBAll _ _) rfl
  · simp [KeepsLineEnds, Halves]

end Stream

end SecAI.Explanation
