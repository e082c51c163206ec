/-
Module: SecAI.LinuxKisa.Firewall
Purpose: U-28: which numbers the rule takes for ports, and when it passes
  exactly behind an active firewall with approved ports.
Trusted boundary: the Unicode database is a parameter
Main exports:
  EndsInPort, mem_listeningPorts_iff, ReportsActive, firewall_rule_exact_iff
-/
import SecAI.LinuxKisa.Rules
import SecAI.Text.PatternMatches

namespace SecAI.LinuxKisa

open SecAI.Text
open SecAI.Platforms (AssessmentStatus)

section Ports

variable {database : CharacterDatabase}

def isDecimal (database : CharacterDatabase) (character : Char) : Bool :=
  (database.decimal character).isSome

theorem isSpace_of_isDecimal {character : Char}
    (decimal : isDecimal database character = true) :
    isSpace character = false := by
  obtain ⟨digit, isDigit⟩ := Option.isSome_iff_exists.mp decimal
  exact database.decimal_not_space isDigit

/-- One to five digits at the front, and a blank behind them. -/
def IsPortRun (database : CharacterDatabase) (text : List Char) : Prop :=
  1 ≤ (text.takeWhile (isDecimal database)).length ∧
    (text.takeWhile (isDecimal database)).length ≤ 5 ∧
    ∀ next ∈ (text.dropWhile (isDecimal database)).head?, isSpace next = true

instance (text : List Char) : Decidable (IsPortRun database text) :=
  @instDecidableAnd _ _ inferInstance
    (@instDecidableAnd _ _ inferInstance (Option.decidableForallMem _))

/-- The pattern of the ports at a colon. -/
theorem here_port_colon (before : Option Char) (text : List Char) :
    (portPattern database).here before (':' :: text) =
      if IsPortRun database text then
        some ⟨':' :: text.takeWhile (isDecimal database),
          text.dropWhile (isDecimal database),
          some (text.takeWhile (isDecimal database))⟩
      else none := by
  have blankBehind : ∀ rest : List Char, Option.all isSpace rest.head? = true ↔
      ∀ next ∈ rest.head?, isSpace next = true := by
    intro rest
    rw [Option.all_eq_true]
    exact Iff.rfl
  change (Pattern.seq (.one (sameCharacter ':'))
    (.seq (.group (.many (isDecimal database) 1 (some 5)))
      (.check fun _ next => next.all isSpace))).here before (':' :: text) = _
  rw [Pattern.here_one_seq, if_pos (by decide)]
  unfold Pattern.here
  rw [Pattern.occurrences, Pattern.occurrences, Pattern.occurrences,
    List.flatMap_map, flatMap_repetitions_within]
  · by_cases run : IsPortRun database text
    case pos =>
      rw [if_pos run, if_pos ⟨run.1, by simpa using run.2.1⟩,
        Pattern.occurrences, if_pos ((blankBehind _).mpr run.2.2)]
      simp [Occurrence.followedBy]
    case neg =>
      rw [if_neg run]
      split
      · next few =>
          rw [Pattern.occurrences, if_neg]
          · rfl
          · intro blank
            refine run ⟨few.1, ?_, (blankBehind _).mp blank⟩
            simpa using few.2
      · rfl
  · -- Where a digit follows, the run is not over.
    intro found character rest decimal behind
    rw [Pattern.occurrences, if_neg]
    · rfl
    · rw [behind]
      exact fun blank => by
        rw [List.head?_cons, Option.all_some, isSpace_of_isDecimal decimal] at blank
        cases blank

theorem here_port_other (before : Option Char) {text : List Char}
    (other : text.head? ≠ some ':') :
    (portPattern database).here before text = none := by
  cases text with
  | nil => rfl
  | cons character rest =>
      change (Pattern.seq (.one (sameCharacter ':')) _).here before
        (character :: rest) = _
      rw [Pattern.here_one_seq, if_neg]
      intro same
      exact other (congrArg some (of_decide_eq_true same))

theorem port_beginsWithMark : (portPattern database).BeginsWithMark ':' := by
  intro before text found here
  by_cases colon : text.head? = some ':'
  case neg =>
    rw [here_port_other before colon] at here
    cases here
  case pos =>
    obtain ⟨rest, rfl⟩ := List.head?_eq_some_iff.mp colon
    rw [here_port_colon] at here
    split at here
    · cases here
      refine ⟨_, rfl, fun member => ?_⟩
      have decimal := List.mem_takeWhile_imp member
      rw [isDecimal, database.decimal_ascii ':' (by decide)] at decimal
      cases decimal
    · cases here

/-- A word that ends in a colon and one to five digits. -/
def EndsInDigits (database : CharacterDatabase) (word digits : List Char) :
    Prop :=
  (∃ front, word = front ++ ':' :: digits) ∧ 1 ≤ digits.length ∧
    digits.length ≤ 5 ∧ ∀ digit ∈ digits, isDecimal database digit = true

/-- The rule reads the digits at the end of a word, whatever its column. -/
theorem mem_captures_port_iff {text digits : List Char} :
    digits ∈ captures (portPattern database) text ↔
      ∃ word ∈ words text, EndsInDigits database word digits := by
  constructor
  case mp =>
    intro member
    obtain ⟨found, inAll, isCaptured⟩ := List.mem_map.mp member
    obtain ⟨left, right, rfl, here⟩ :=
      (Pattern.mem_findAll_iff port_beginsWithMark).mp inAll
    by_cases colon : right.head? = some ':'
    case neg =>
      rw [here_port_other _ colon] at here
      cases here
    case pos =>
      obtain ⟨rest, rfl⟩ := List.head?_eq_some_iff.mp colon
      rw [here_port_colon] at here
      split at here
      case isFalse => cases here
      case isTrue run =>
        cases here
        have isDigits : rest.takeWhile (isDecimal database) = digits :=
          isCaptured
        have decimals : ∀ digit ∈ digits, isDecimal database digit = true := by
          rw [← isDigits]
          exact fun digit => List.mem_takeWhile_imp
        -- The word goes back to the last blank before the colon.
        let front := left.rtakeWhile fun character => !isSpace character
        refine ⟨front ++ ':' :: digits, mem_words_iff.mpr ⟨by simp, ?_,
          left.rdropWhile fun character => !isSpace character,
          rest.dropWhile (isDecimal database), ?_, ?_, run.2.2⟩,
          ⟨front, rfl⟩, isDigits ▸ run.1, isDigits ▸ run.2.1, decimals⟩
        · intro character inWord
          rcases List.mem_append.mp inWord with inFront | inEnd
          · simpa using List.mem_rtakeWhile_imp inFront
          · rcases List.mem_cons.mp inEnd with rfl | inDigits
            · decide
            · exact isSpace_of_isDecimal (decimals character inDigits)
        · rw [← isDigits, List.append_assoc, List.cons_append,
            List.takeWhile_append_dropWhile, ← List.append_assoc,
            List.rdropWhile_append_rtakeWhile]
        · intro last isLast
          have filled : (left.rdropWhile fun character =>
              !isSpace character) ≠ [] := List.ne_nil_of_mem
            (List.mem_of_getLast? isLast)
          have stops := List.rdropWhile_last_not _ _ filled
          rw [List.getLast?_eq_some_getLast filled] at isLast
          cases isLast
          simpa using stops
  case mpr =>
    rintro ⟨word, isWord, ⟨front, rfl⟩, one, five, decimals⟩
    obtain ⟨-, -, left, right, rfl, -, blank⟩ := mem_words_iff.mp isWord
    have stops : right.takeWhile (isDecimal database) = [] ∧
        right.dropWhile (isDecimal database) = right := by
      cases right with
      | nil => exact ⟨rfl, rfl⟩
      | cons next right =>
          have notDecimal : ¬isDecimal database next = true := by
            intro decimal
            have space := blank next rfl
            rw [isSpace_of_isDecimal decimal] at space
            cases space
          exact ⟨List.takeWhile_cons_of_neg notDecimal,
            List.dropWhile_cons_of_neg notDecimal⟩
    have isRun : (digits ++ right).takeWhile (isDecimal database) = digits := by
      rw [List.takeWhile_append_of_pos decimals, stops.1, List.append_nil]
    have isRest : (digits ++ right).dropWhile (isDecimal database) = right := by
      rw [List.dropWhile_append_of_pos decimals, stops.2]
    have run : IsPortRun database (digits ++ right) := by
      rw [IsPortRun, isRun, isRest]
      exact ⟨one, five, blank⟩
    refine List.mem_map.mpr ⟨⟨':' :: digits, right, some digits⟩,
      (Pattern.mem_findAll_iff port_beginsWithMark).mpr
        ⟨left ++ front, ':' :: (digits ++ right), by simp, ?_⟩, rfl⟩
    rw [here_port_colon, if_pos run, isRun, isRest]

def EndsInPort (database : CharacterDatabase) (word : List Char) (port : Int) :
    Prop :=
  ∃ digits, EndsInDigits database word digits ∧
    integerOf database 10 digits = some port ∧ 1 ≤ port ∧ port ≤ 65535

theorem mem_listeningPorts_iff {text : List Char} {port : Int} :
    port ∈ listeningPorts database text ↔
      ∃ word ∈ words text, EndsInPort database word port := by
  rw [listeningPorts, List.mem_filter, List.mem_filterMap]
  constructor
  case mp =>
    rintro ⟨⟨digits, isCaptured, isNumber⟩, inRange⟩
    obtain ⟨word, isWord, ends⟩ := mem_captures_port_iff.mp isCaptured
    obtain ⟨low, high⟩ := of_decide_eq_true inRange
    exact ⟨word, isWord, digits, ends, isNumber, low, high⟩
  case mpr =>
    rintro ⟨word, isWord, digits, ends, isNumber, low, high⟩
    exact ⟨⟨digits, mem_captures_port_iff.mpr ⟨word, isWord, ends⟩, isNumber⟩,
      decide_eq_true ⟨low, high⟩⟩

end Ports

section Outputs

variable (database : CharacterDatabase)

def stateLine (state : List Char) : List Char :=
  state.takeWhile fun character => !isLineBreak character

/-- The state line of `ufw status` reports an active firewall, or that of
`firewall-cmd --state` a running one. -/
def ReportsActive (state : List Char) : Prop :=
  casefold database (stateLine state) ∈
    ["status: active".toList, "running".toList]

/-- The local port of a line of `ss`: the number behind the last colon of the
fifth column. -/
def localPort (line : List Char) : Option Int :=
  match words line with
  | _ :: _ :: _ :: _ :: address :: _ =>
      if ':' ∈ address then
        integerOf database 10 (address.rtakeWhile (· ≠ ':'))
      else none
  | _ => none

def listedPorts (sockets : List Char) : List Int :=
  (lines sockets).filterMap (localPort database)

def ListedApproved (profile : KisaUnixAssessmentProfile)
    (sockets : List Char) : Prop :=
  ∀ port ∈ listedPorts database sockets,
    port ∈ profile.approvedListeningPorts

/-- Every port at the end of a word, of whatever column, is approved. -/
def ReadApproved (profile : KisaUnixAssessmentProfile)
    (sockets : List Char) : Prop :=
  ∀ word ∈ words sockets, ∀ port, EndsInPort database word port →
    port ∈ profile.approvedListeningPorts

/-- The state has one of the two words in it, as a part of whatever word. -/
def MentionsActive (state : List Char) : Prop :=
  "active".toList <:+: casefold database state ∨
    "running".toList <:+: casefold database state

end Outputs

section Results

variable {database : CharacterDatabase}

variable {state : List Char}

theorem firewallActive_iff :
    firewallActive database state = true ↔ MentionsActive database state := by
  rw [firewallActive, Bool.or_eq_true, decide_eq_true_eq, decide_eq_true_eq,
    MentionsActive]

theorem ReportsActive.mentions (reports : ReportsActive database state) :
    MentionsActive database state := by
  have inState : casefold database (stateLine state) <:+:
      casefold database state := by
    obtain ⟨rest, whole⟩ : stateLine state <+: state :=
      List.takeWhile_prefix _
    refine List.IsPrefix.isInfix ⟨casefold database rest, ?_⟩
    rw [casefold, casefold, ← List.flatMap_append, whole]
    rfl
  rcases List.mem_pair.mp reports with active | running
  · rw [active] at inState
    exact .inl (.trans ⟨"status: ".toList, [], by decide⟩ inState)
  · rw [running] at inState
    exact .inr inState

variable {profile : KisaUnixAssessmentProfile}

/-- When U-28 passes. -/
theorem firewallRule_eq_pass_iff {sockets : List Char} :
    (firewallRule database profile state sockets).1 = .pass ↔
      MentionsActive database state ∧ ReadApproved database profile sockets := by
  have approved : ((listeningPorts database sockets).eraseDups.filter
      (· ∉ profile.approvedListeningPorts)) = [] ↔
      ReadApproved database profile sockets := by
    rw [List.filter_eq_nil_iff]
    simp only [List.mem_eraseDups, mem_listeningPorts_iff, decide_eq_true_eq,
      not_not]
    exact ⟨fun all word isWord port ends => all port ⟨word, isWord, ends⟩,
      fun all port ⟨word, isWord, ends⟩ => all word isWord port ends⟩
  rw [firewallRule]
  split
  · next active =>
      have mentions := firewallActive_iff.mp active
      dsimp only
      rw [← approved, passOrFail]
      split
      · next none => exact iff_of_true rfl ⟨mentions, of_decide_eq_true none⟩
      · next some =>
          exact iff_of_false nofun fun both => some (decide_eq_true both.2)
  · next inactive =>
      exact iff_of_false nofun fun both =>
        inactive (firewallActive_iff.mpr both.1)

theorem assessControl_firewall {outputs : Outputs}
    {distribution : LinuxDistribution}
    (collected : ∀ probe ∈ probeIds 28, (outputs probe).isSome = true) :
    (∃ summary, assessControl database outputs distribution profile 28 =
        .ok (.pass, summary)) ↔
      MentionsActive database (textOf outputs "linux.firewall-state") ∧
        ReadApproved database profile
          (textOf outputs "linux.listening-sockets") := by
  rw [← firewallRule_eq_pass_iff, assessControl_of_collected collected]
  exact exists_summary_iff

/-- U-28 passes exactly behind a firewall that is reported active, with all
listed ports approved, if and only if: behind such a firewall, the ports at the
ends of words and the listed ports are approved alike; and without one, the
state does not mention it, or a port at the end of a word is not approved. -/
theorem firewall_rule_exact_iff (database : CharacterDatabase)
    (outputs : Outputs) (distribution : LinuxDistribution)
    (profile : KisaUnixAssessmentProfile)
    (collected : ∀ probe ∈ probeIds 28, (outputs probe).isSome = true) :
    ((∃ summary, assessControl database outputs distribution profile 28 =
        .ok (.pass, summary)) ↔
      ReportsActive database (textOf outputs "linux.firewall-state") ∧
        ListedApproved database profile
          (textOf outputs "linux.listening-sockets")) ↔
    (ReportsActive database (textOf outputs "linux.firewall-state") →
      (ReadApproved database profile
          (textOf outputs "linux.listening-sockets") ↔
        ListedApproved database profile
          (textOf outputs "linux.listening-sockets"))) ∧
    (¬ReportsActive database (textOf outputs "linux.firewall-state") →
      ¬MentionsActive database (textOf outputs "linux.firewall-state") ∨
        ¬ReadApproved database profile
          (textOf outputs "linux.listening-sockets")) := by
  rw [assessControl_firewall collected]
  by_cases reports : ReportsActive database
      (textOf outputs "linux.firewall-state")
  case pos =>
    have mentions := reports.mentions
    tauto
  case neg => tauto

end Results

/-- Characters of ASCII, as bytes. -/
def asciiBytes (text : List Char) : List UInt8 :=
  text.map fun character => UInt8.ofNat character.toNat

/-- One socket that listens on port 22. -/
def sshSocket : List Char :=
  ['t', 'c', 'p', ' ', 'L', ' ', '0', ' ', '9', ' ', '*', ':', '2', '2', ' ',
    '*', ':', '*']

/-- The state of `ufw status`. -/
def ufwState (word : List Char) : List Char :=
  ['S', 't', 'a', 't', 'u', 's', ':', ' '] ++ word

/-- The outputs of a server with this state and that socket. -/
def firewallOutputs (word : List Char) : Outputs := fun probe =>
  if probe = "linux.firewall-state" then some (asciiBytes (ufwState word))
  else if probe = "linux.firewall-rules" then some []
  else if probe = "linux.listening-sockets" then some (asciiBytes sshSocket)
  else none

theorem textOf_sshSocket (word : List Char) :
    textOf (firewallOutputs word) "linux.listening-sockets" = sshSocket := by
  have decoded : probeText (asciiBytes sshSocket) = sshSocket := by
    decide +kernel
  exact decoded

theorem sshSocket_readApproved :
    ReadApproved asciiDatabase {} sshSocket := by
  have ports : listeningPorts asciiDatabase sshSocket = [22] := by
    decide +kernel
  intro word isWord port ends
  have member := mem_listeningPorts_iff.mpr ⟨word, isWord, ends⟩
  rw [ports] at member
  exact member

/-- Behind an active firewall U-28 passes exactly. -/
theorem active_firewall_passes_exactly :
    (∃ summary, assessControl asciiDatabase
        (firewallOutputs ['a', 'c', 't', 'i', 'v', 'e']) .ubuntu2204 {} 28 =
          .ok (.pass, summary)) ↔
      ReportsActive asciiDatabase (textOf
          (firewallOutputs ['a', 'c', 't', 'i', 'v', 'e'])
          "linux.firewall-state") ∧
        ListedApproved asciiDatabase {} (textOf
          (firewallOutputs ['a', 'c', 't', 'i', 'v', 'e'])
          "linux.listening-sockets") := by
  refine (firewall_rule_exact_iff asciiDatabase _ .ubuntu2204 {}
    (by decide)).mpr ⟨fun _ => ?_, fun inactive => (inactive ?_).elim⟩
  · rw [textOf_sshSocket]
    refine iff_of_true sshSocket_readApproved fun port isListed => ?_
    have ports : listedPorts asciiDatabase sshSocket = [22] := by
      decide +kernel
    rw [ports] at isListed
    exact isListed
  · have state : casefold asciiDatabase (stateLine (probeText (asciiBytes
        (ufwState ['a', 'c', 't', 'i', 'v', 'e'])))) =
        "status: active".toList := by decide +kernel
    exact List.mem_pair.mpr (.inl state)

/-- U-28 passes behind an inactive firewall. -/
theorem inactive_firewall_passes :
    (∃ summary, assessControl asciiDatabase
        (firewallOutputs ['i', 'n', 'a', 'c', 't', 'i', 'v', 'e']) .ubuntu2204
          {} 28 = .ok (.pass, summary)) ∧
      ¬ReportsActive asciiDatabase (textOf
        (firewallOutputs ['i', 'n', 'a', 'c', 't', 'i', 'v', 'e'])
        "linux.firewall-state") := by
  constructor
  · have folded : casefold asciiDatabase (probeText (asciiBytes
        (ufwState ['i', 'n', 'a', 'c', 't', 'i', 'v', 'e']))) =
        "status: in".toList ++ "active".toList := by decide +kernel
    refine (assessControl_firewall (by decide)).mpr ⟨.inl ?_, ?_⟩
    · exact ⟨"status: in".toList, [], by rw [List.append_nil]; exact folded.symm⟩
    · rw [textOf_sshSocket]
      exact sshSocket_readApproved
  · intro reports
    have state : casefold asciiDatabase (stateLine (probeText (asciiBytes
        (ufwState ['i', 'n', 'a', 'c', 't', 'i', 'v', 'e'])))) =
        "status: inactive".toList := by decide +kernel
    have read : "status: inactive".toList ∈
        ["status: active".toList, "running".toList] := state ▸ reports
    exact absurd read (by decide)

end SecAI.LinuxKisa
