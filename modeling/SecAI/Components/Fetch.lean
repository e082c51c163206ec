/-
Module: SecAI.Components.Fetch
Purpose: The vulnerabilities that are returned for packages, merged under one
  identifier each.
Trusted boundary: the Unicode database, SHA-256 and the fetched details are
  parameters
Main exports:
  fetchItems, fetchComponents, ItemsPartition, AliasesSettled
-/
import SecAI.Components.Coverage

namespace SecAI.Components

open SecAI.Text
open Outcome (bind_eq_ok)

variable (env : ComponentEnvironment)

/-! ## Returned vulnerabilities -/

/-- What a result says of a vulnerability. -/
structure Vulnerability where
  id : List CodePoint
  modified : List CodePoint
deriving DecidableEq

/-- `_OSV_ID.fullmatch`. -/
def isOsvId : List CodePoint → Bool
  | [] => false
  | first :: rest =>
      isWordPoint first && decide (2 ≤ rest.length ∧ rest.length ≤ 127) &&
        rest.all fun point => isWordPoint point || isOneOf ['.', '_', '-'] point

def vulnerabilityOf : Decoded → Except ComponentFault Vulnerability
  | .dict members =>
      match getItem members "id", getItem members "modified" with
      | .str id, .str modified =>
          if isOsvId id = false ∨ 64 < modified.length then
            .error (.source "OSV 후보 식별값이 올바르지 않습니다.")
          else .ok ⟨id, modified⟩
      | _, _ => .error (.source "OSV 후보 식별값이 올바르지 않습니다.")
  | _ => .error (.source "OSV 후보가 올바르지 않습니다.")

def vulnerabilitiesOf : Decoded → Except ComponentFault (List Vulnerability)
  | .dict members =>
      if members.any fun member =>
          decide (member.1 = points "next_page_token".toList) then
        .error (.source "OSV 결과가 완전하지 않습니다.")
      else if members.any fun member =>
          decide (member.1 ≠ points "vulns".toList) then
        .error (.source "OSV 결과 필드가 올바르지 않습니다.")
      else
        match getItemOr members "vulns" (.list []) with
        | .list vulns =>
            if 1000 < vulns.length then
              .error (.source "OSV 후보 목록이 올바르지 않습니다.")
            else vulns.mapM vulnerabilityOf
        | _ => .error (.source "OSV 후보 목록이 올바르지 않습니다.")
  | _ => .error (.source "OSV 결과가 완전하지 않습니다.")

/-- The first of the vulnerabilities of an id is the one that counts. -/
def seenRule : Gathered.Rule Vulnerability Vulnerability (List CodePoint) where
  itemKey := Vulnerability.id
  rowKey := Vulnerability.id
  create := id
  change := fun seen _ => seen
  create_key := fun _ => rfl
  change_key := fun _ _ _ => rfl

/-- The vulnerabilities whose id is not in `seen_ids`. -/
def firstSeen (vulns : List Vulnerability) : List Vulnerability :=
  Gathered.gather seenRule vulns

/-! ## Details -/

/-- What `_severity_from_score` returns. -/
inductive Severity where
  | critical
  | high
  | medium
  | low
  | none
  | unknown

/-- `_severity_from_score`, of a score in tenths. -/
def severityFromScore : Option Nat → Severity
  | .none => .unknown
  | some score =>
      if 90 ≤ score then .critical
      else if 70 ≤ score then .high
      else if 40 ≤ score then .medium
      else if 0 < score then .low
      else .none

/-- `_severity_ko`. -/
def Severity.korean : Severity → String
  | .critical => "매우 높은"
  | .high => "높은"
  | .medium => "보통"
  | .low => "낮은"
  | .none => "정보성"
  | .unknown => "영향도 산정 전"

/-- What `_fetch_detail` returns, next to its constants.  A score is a number
of tenths. -/
structure Detail where
  publishedAt : List CodePoint
  modifiedAt : List CodePoint
  cvssScore : Option Nat
  cvssVector : List CodePoint
  originalDescription : List CodePoint
  aliases : List (List CodePoint)
deriving DecidableEq

def missingDetail (modified : List CodePoint) : Detail where
  publishedAt := []
  modifiedAt := modified
  cvssScore := none
  cvssVector := []
  originalDescription := points
    ("패키지 이름과 버전의 정확 일치는 확인했지만 " ++
      "OSV 세부 영향도 설명은 이번 조회에서 확인하지 못했습니다.").toList
  aliases := []

def maxDetailRecords : Nat := 100

/-- `detail_cache.get`: the details of the first ids. -/
def detailCache (fetch : List CodePoint → Option Detail)
    (ids : List (List CodePoint)) (id : List CodePoint) : Option Detail :=
  if id ∈ (Ordered.sortedSet ids).take maxDetailRecords then fetch id else none

/-! ## Items -/

/-- A vulnerability of a package, with its details. -/
structure Match where
  package : Package
  id : List CodePoint
  detail : Detail
deriving DecidableEq

def Match.identifiers (found : Match) : List (List CodePoint) :=
  found.id :: found.detail.aliases

/-- `identifier.startswith("CVE-")`. -/
def isCve (identifier : List CodePoint) : Bool :=
  (points "CVE-".toList).isPrefixOf identifier

def Match.canonicalId (found : Match) : List CodePoint :=
  (Ordered.sortedSet (found.identifiers.filter isCve)).head?.getD found.id

def Match.severity (found : Match) : Severity :=
  severityFromScore found.detail.cvssScore

/-- The members of an item that a better score replaces. -/
structure Record where
  sourceRecordId : List CodePoint
  sourceUrl : List CodePoint
  publishedAt : List CodePoint
  modifiedAt : List CodePoint
  severity : Severity
  cvssScore : Option Nat
  cvssVector : List CodePoint
  originalDescription : List CodePoint

def Match.record (found : Match) : Record where
  sourceRecordId := found.id
  sourceUrl := points "https://osv.dev/vulnerability/".toList ++ found.id
  publishedAt := found.detail.publishedAt
  modifiedAt := found.detail.modifiedAt
  severity := found.severity
  cvssScore := found.detail.cvssScore
  cvssVector := found.detail.cvssVector
  originalDescription := found.detail.originalDescription

/-- An item of the snapshot, next to its constants. -/
@[ext] structure Item where
  package : Package
  vulnerabilityId : List CodePoint
  alternateIds : List (List CodePoint)
  record : Record
  koreanTitle : List CodePoint

def Match.koreanTitle (found : Match) : List CodePoint :=
  found.package.name ++ points (" 패키지의 ".toList) ++
    points (found.severity.korean ++ " " ++ "수준 보안 문제 후보").toList

/-- A score is a number above another one, or there is no other one. -/
def outscores (candidate existing : Option Nat) : Bool :=
  match candidate, existing with
  | none, _ => false
  | some _, none => true
  | some score, some other => decide (other < score)

def Item.key (item : Item) :
    (Ecosystem × List CodePoint × List CodePoint) × List CodePoint :=
  (item.package.key env, item.vulnerabilityId)

def itemRule : Gathered.Rule Match Item
    ((Ecosystem × List CodePoint × List CodePoint) × List CodePoint) where
  itemKey := fun found => (found.package.key env, found.canonicalId)
  rowKey := Item.key env
  create := fun found => {
    package := found.package
    vulnerabilityId := found.canonicalId
    alternateIds := Ordered.sortedSet
      (found.identifiers.filter fun other => decide (other ≠ found.canonicalId))
    record := found.record
    koreanTitle := found.koreanTitle }
  change := fun item found => { item with
    alternateIds := Ordered.sortedSet
      ((item.alternateIds ++ found.identifiers).filter fun other =>
        decide (other ≠ found.canonicalId))
    record := if outscores found.detail.cvssScore item.record.cvssScore then
        found.record
      else item.record }
  create_key := fun _ => rfl
  change_key := fun _ _ _ => rfl

def matchOf (details : List CodePoint → Option Detail) (package : Package)
    (vulnerability : Vulnerability) : Match :=
  ⟨package, vulnerability.id, (details vulnerability.id).getD
    (missingDetail vulnerability.modified)⟩

def matchesOf (details : List CodePoint → Option Detail) (package : Package)
    (vulns : List Vulnerability) : List Match :=
  (firstSeen vulns).map (matchOf details package)

def detailsOf (fetch : List CodePoint → Option Detail)
    (results : List (Package × List Vulnerability)) :
    List CodePoint → Option Detail :=
  detailCache fetch (results.flatMap fun result =>
    (firstSeen result.2).map Vulnerability.id)

def fetchItems (fetch : List CodePoint → Option Detail)
    (results : List (Package × List Vulnerability)) : List Item :=
  let matched := results.flatMap fun result =>
    matchesOf (detailsOf fetch results) result.1 result.2
  Ordered.sortedBy (fun item : Item =>
      toLex (points item.package.ecosystem.text.toList,
        toLex (casefold env item.package.name, item.vulnerabilityId)))
    (Gathered.gather (itemRule env) matched)

/-- `fetch_components`, with what the batch of queries and the ids are answered
by. -/
def fetchComponents
    (respond : List Query → Except ComponentFault (List Decoded))
    (fetch : List CodePoint → Option Detail) (values : List Decoded) :
    Except ComponentFault (List Item) := do
  let queries ← componentQueries env values
  let packages ← osvComponents env values
  let results ← respond queries
  if results.length ≠ packages.length then
    throw (.source "OSV 결과 개수가 올바르지 않습니다.")
  else do
    let vulns ← results.mapM vulnerabilitiesOf
    return fetchItems env fetch (packages.zip vulns)

variable {env} {fetch details : List CodePoint → Option Detail}
  {package : Package} {vulns : List Vulnerability}

/-! ## Seen vulnerabilities -/

theorem foldl_seen (first : Vulnerability) (rest : List Vulnerability) :
    rest.foldl seenRule.change (seenRule.create first) = first := by
  induction rest with
  | nil => rfl
  | cons next more ih => exact ih

theorem mem_of_firstSeen {vulnerability : Vulnerability}
    (member : vulnerability ∈ firstSeen vulns) : vulnerability ∈ vulns := by
  obtain ⟨first, rest, group, isFirst⟩ := Gathered.mem_gather_iff.mp member
  rw [foldl_seen] at isFirst
  have inGroup : first ∈ Gathered.ofKey seenRule
      (seenRule.rowKey vulnerability) vulns := by
    rw [group]
    exact List.mem_cons_self
  exact isFirst ▸ (Gathered.mem_ofKey.mp inGroup).1

theorem exists_firstSeen {vulnerability : Vulnerability}
    (member : vulnerability ∈ vulns) :
    ∃ seen ∈ firstSeen vulns, seen.id = vulnerability.id :=
  List.mem_map.mp ((@Gathered.mem_gather_keys _ _ _ _ seenRule _ _).mpr
    (List.mem_map_of_mem member))

theorem nodup_firstSeen (vulns : List Vulnerability) :
    ((firstSeen vulns).map Vulnerability.id).Nodup :=
  @Gathered.nodup_gather_keys _ _ _ _ seenRule _

/-- The first vulnerability is seen first. -/
theorem firstSeen_cons (first : Vulnerability) (rest : List Vulnerability) :
    ∃ others, firstSeen (first :: rest) = first :: others := by
  have kept : ∀ (rest others : List Vulnerability),
      ∃ more, rest.foldl (Gathered.put seenRule) (first :: others) =
        first :: more := by
    intro rest
    induction rest with
    | nil => exact fun others => ⟨others, rfl⟩
    | cons next rest ih =>
        intro others
        rw [List.foldl_cons, Gathered.put]
        split
        · rw [List.map_cons]
          have same : (if seenRule.rowKey first = seenRule.itemKey next then
              seenRule.change first next else first) = first := by
            split <;> rfl
          rw [same]
          exact ih _
        · exact ih _
  exact kept rest []

/-! ## Groups of matches -/

def groupOf (details : List CodePoint → Option Detail) (package : Package)
    (vulns : List Vulnerability) (canonical : List CodePoint) : List Match :=
  (matchesOf details package vulns).filter fun found =>
    decide (found.canonicalId = canonical)

theorem mem_groupOf {canonical : List CodePoint} {found : Match} :
    found ∈ groupOf details package vulns canonical ↔
      (∃ seen ∈ firstSeen vulns, matchOf details package seen = found) ∧
        found.canonicalId = canonical := by
  rw [groupOf, List.mem_filter, matchesOf, List.mem_map, decide_eq_true_eq]

theorem nodup_matchesOf : (matchesOf details package vulns).Nodup := by
  apply List.Nodup.of_map Match.id
  rw [matchesOf, List.map_map]
  exact nodup_firstSeen vulns

/-- The matches of one package make the items of the package. -/
theorem mem_fetchItems_iff {before behind : List (Package × List Vulnerability)}
    (distinct : ((before ++ (package, vulns) :: behind).map fun result =>
      result.1.key env).Nodup) {item : Item}
    (own : item.package.key env = package.key env) :
    item ∈ fetchItems env fetch (before ++ (package, vulns) :: behind) ↔
      ∃ first rest, groupOf (detailsOf fetch
          (before ++ (package, vulns) :: behind)) package vulns
          item.vulnerabilityId = first :: rest ∧
        item = rest.foldl (itemRule env).change
          ((itemRule env).create first) := by
  generalize isDetails : detailsOf fetch (before ++ (package, vulns) :: behind)
    = details
  rw [List.map_append, List.map_cons, List.nodup_append, List.nodup_cons]
    at distinct
  obtain ⟨-, ⟨notBehind, -⟩, apart⟩ := distinct
  have packages : ∀ {results : List (Package × List Vulnerability)} {found},
      found ∈ results.flatMap (fun result =>
        matchesOf details result.1 result.2) →
      ∃ result ∈ results, result.1 = found.package := by
    intro results found member
    obtain ⟨result, isResult, isMatch⟩ := List.mem_flatMap.mp member
    obtain ⟨seen, -, rfl⟩ := List.mem_map.mp isMatch
    exact ⟨result, isResult, rfl⟩
  have group : Gathered.ofKey (itemRule env) (item.key env)
      ((before ++ (package, vulns) :: behind).flatMap fun result =>
        matchesOf details result.1 result.2) =
      groupOf details package vulns item.vulnerabilityId := by
    rw [Gathered.ofKey, List.flatMap_append, List.flatMap_cons,
      List.filter_append, List.filter_append]
    have front : (before.flatMap fun result =>
        matchesOf details result.1 result.2).filter (fun found =>
          decide ((itemRule env).itemKey found = item.key env)) = [] := by
      rw [List.filter_eq_nil_iff]
      intro found member sameKey
      obtain ⟨result, isResult, isPackage⟩ := packages member
      have same : found.package.key env = item.package.key env :=
        congrArg Prod.fst (of_decide_eq_true sameKey)
      exact apart _ (List.mem_map_of_mem isResult) _ List.mem_cons_self
        (by rw [isPackage, same, own])
    have back : (behind.flatMap fun result =>
        matchesOf details result.1 result.2).filter (fun found =>
          decide ((itemRule env).itemKey found = item.key env)) = [] := by
      rw [List.filter_eq_nil_iff]
      intro found member sameKey
      obtain ⟨result, isResult, isPackage⟩ := packages member
      have same : found.package.key env = item.package.key env :=
        congrArg Prod.fst (of_decide_eq_true sameKey)
      exact notBehind (List.mem_map.mpr ⟨result, isResult,
        by rw [isPackage, same, own]⟩)
    rw [front, back, List.nil_append, List.append_nil, groupOf]
    apply List.filter_congr
    intro found member
    obtain ⟨seen, -, rfl⟩ := List.mem_map.mp member
    apply decide_eq_decide.mpr
    constructor
    · exact fun same => congrArg Prod.snd same
    · exact fun same => Prod.ext own.symm same
  rw [fetchItems, isDetails, Ordered.mem_sortedBy, Gathered.mem_gather_iff]
  change (∃ first rest, Gathered.ofKey (itemRule env) (item.key env) _ =
    first :: rest ∧ _) ↔ _
  rw [group]

/-! ## What a group makes -/

def winner (first : Match) (rest : List Match) : Match :=
  rest.foldl (fun best found =>
    if outscores found.detail.cvssScore best.detail.cvssScore then found
    else best) first

/-- A score as a number, above the one of no score. -/
def rank : Option Nat → Nat
  | none => 0
  | some score => score + 1

theorem outscores_iff {candidate existing : Option Nat} :
    outscores candidate existing = true ↔ rank existing < rank candidate := by
  cases candidate <;> cases existing <;> simp [outscores, rank]

theorem winner_mem (first : Match) (rest : List Match) :
    winner first rest ∈ first :: rest := by
  induction rest generalizing first with
  | nil => exact List.mem_singleton_self first
  | cons next more ih =>
      rw [winner, List.foldl_cons]
      split
      · exact List.mem_cons_of_mem _ (ih next)
      · rcases List.mem_cons.mp (ih first) with same | later
        · exact List.mem_cons.mpr (.inl same)
        · exact List.mem_cons_of_mem _ (List.mem_cons_of_mem _ later)

/-- No match has a better score than the winner. -/
theorem rank_le_winner (first : Match) (rest : List Match) :
    ∀ found ∈ first :: rest, rank found.detail.cvssScore ≤
      rank (winner first rest).detail.cvssScore := by
  induction rest generalizing first with
  | nil => exact List.forall_mem_singleton.mpr (Nat.le_refl _)
  | cons next more ih =>
      rw [winner, List.foldl_cons]
      intro found member
      split
      · next better =>
          rw [outscores_iff] at better
          have later := ih next
          rcases List.mem_cons.mp member with rfl | member
          · exact (Nat.le_of_lt better).trans (later next List.mem_cons_self)
          · exact later found member
      · next notBetter =>
          rw [outscores_iff] at notBetter
          have later := ih first
          have atFirst := later first List.mem_cons_self
          rcases List.mem_cons.mp member with rfl | member
          · exact atFirst
          · rcases List.mem_cons.mp member with rfl | member
            · exact (Nat.le_of_not_lt notBetter).trans atFirst
            · exact later found (List.mem_cons_of_mem _ member)

/-- The first match wins unless another one has a better score. -/
theorem winner_eq_first {first : Match} {rest : List Match}
    (best : ∀ found ∈ rest,
      rank found.detail.cvssScore ≤ rank first.detail.cvssScore) :
    winner first rest = first := by
  induction rest with
  | nil => rfl
  | cons next more ih =>
      obtain ⟨notBetter, others⟩ := List.forall_mem_cons.mp best
      rw [winner, List.foldl_cons, if_neg]
      · exact ih others
      · rw [outscores_iff]
        omega

theorem foldl_fields (item : Item) (rest : List Match) :
    (rest.foldl (itemRule env).change item).package = item.package ∧
      (rest.foldl (itemRule env).change item).vulnerabilityId =
        item.vulnerabilityId ∧
      (rest.foldl (itemRule env).change item).koreanTitle =
        item.koreanTitle := by
  induction rest generalizing item with
  | nil => exact ⟨rfl, rfl, rfl⟩
  | cons next more ih => exact ih _

theorem foldl_record (rest : List Match) :
    ∀ {item : Item} {best : Match}, item.record = best.record →
      (rest.foldl (itemRule env).change item).record =
        (winner best rest).record := by
  induction rest with
  | nil => exact id
  | cons next more ih =>
      intro item best same
      have scores : item.record.cvssScore = best.detail.cvssScore :=
        congrArg Record.cvssScore same
      rw [List.foldl_cons, winner, List.foldl_cons]
      apply ih
      change (if _ then _ else _) = _
      rw [scores]
      split
      · rfl
      · exact same

theorem foldl_alternateIds {canonical : List CodePoint} (rest : List Match)
    (all : ∀ found ∈ rest, found.canonicalId = canonical) :
    ∀ {item : Item}, canonical ∉ item.alternateIds → ∀ identifier,
      identifier ∈ (rest.foldl (itemRule env).change item).alternateIds ↔
        identifier ∈ item.alternateIds ∨ ∃ found ∈ rest,
          identifier ∈ found.identifiers ∧ identifier ≠ canonical := by
  induction rest with
  | nil =>
      intro item _ identifier
      simp
  | cons next more ih =>
      obtain ⟨isCanonical, others⟩ := List.forall_mem_cons.mp all
      intro item absent identifier
      have changed : ∀ other, other ∈
          ((itemRule env).change item next).alternateIds ↔
            (other ∈ item.alternateIds ∨ other ∈ next.identifiers) ∧
              other ≠ canonical := by
        intro other
        change other ∈ Ordered.sortedSet _ ↔ _
        rw [Ordered.mem_sortedSet, List.mem_filter, List.mem_append,
          decide_eq_true_eq, isCanonical]
      rw [List.foldl_cons, ih others
        fun isIn => ((changed canonical).mp isIn).2 rfl, changed]
      constructor
      · rintro (⟨earlier | own, apart⟩ | ⟨found, member, isIn⟩)
        · exact .inl earlier
        · exact .inr ⟨next, List.mem_cons_self, own, apart⟩
        · exact .inr ⟨found, List.mem_cons_of_mem _ member, isIn⟩
      · rintro (earlier | ⟨found, member, isIn, apart⟩)
        · refine .inl ⟨.inl earlier, ?_⟩
          rintro rfl
          exact absent earlier
        · rcases List.mem_cons.mp member with rfl | later
          · exact .inl ⟨.inr isIn, apart⟩
          · exact .inr ⟨found, later, isIn, apart⟩

theorem foldl_sorted (rest : List Match) :
    ∀ {item : Item}, (∃ ids, item.alternateIds = Ordered.sortedSet ids) →
      ∃ ids, (rest.foldl (itemRule env).change item).alternateIds =
        Ordered.sortedSet ids := by
  induction rest with
  | nil => exact id
  | cons next more ih =>
      intro item _
      exact ih ⟨_, rfl⟩

/-! ## Matches of one id -/

/-- What a match of an id is, the time of its details apart. -/
theorem matchOf_congr {first second : Vulnerability}
    (same : first.id = second.id) :
    (matchOf details package first).identifiers =
      (matchOf details package second).identifiers ∧
    (matchOf details package first).canonicalId =
      (matchOf details package second).canonicalId ∧
    (matchOf details package first).detail.cvssScore =
      (matchOf details package second).detail.cvssScore := by
  unfold Match.canonicalId Match.identifiers matchOf
  rw [same]
  cases details second.id with
  | none => exact ⟨rfl, rfl, rfl⟩
  | some detail => exact ⟨rfl, rfl, rfl⟩

theorem canonicalId_mem (found : Match) :
    found.canonicalId ∈ found.identifiers := by
  unfold Match.canonicalId
  cases chosen : (Ordered.sortedSet
      (found.identifiers.filter isCve)).head? with
  | none => exact List.mem_cons_self
  | some identifier =>
      have member := List.mem_of_mem_head? chosen
      rw [Ordered.mem_sortedSet] at member
      exact (List.mem_filter.mp member).1

theorem severity_eq_unknown {score : Option Nat} :
    severityFromScore score = .unknown ↔ score = none := by
  cases score with
  | none => exact iff_of_true rfl rfl
  | some score =>
      apply iff_of_false
      · unfold severityFromScore
        dsimp only
        split_ifs <;> simp
      · simp

theorem korean_injective {first second : Severity}
    (same : points (first.korean ++ " " ++ "수준 보안 문제 후보").toList =
      points (second.korean ++ " " ++ "수준 보안 문제 후보").toList) :
    first = second := by
  have texts := Criteria.points_toList_inj.mp same
  cases first <;> cases second <;>
    first
    | rfl
    | exact absurd texts (by decide)

/-- The title of a match tells its severity. -/
theorem severity_of_title {first second : Match}
    (samePackage : first.package = second.package)
    (same : first.koreanTitle = second.koreanTitle) :
    first.severity = second.severity := by
  unfold Match.koreanTitle at same
  rw [samePackage] at same
  exact korean_injective (List.append_cancel_left same)

/-! ## Items of a package -/

/-- The items for the results of packages, one of which is at hand. -/
def itemsWith (env : ComponentEnvironment)
    (fetch : List CodePoint → Option Detail)
    (before : List (Package × List Vulnerability)) (package : Package)
    (behind : List (Package × List Vulnerability))
    (vulns : List Vulnerability) : List Item :=
  fetchItems env fetch (before ++ (package, vulns) :: behind)

def Item.identifiers (item : Item) : List (List CodePoint) :=
  item.vulnerabilityId :: item.alternateIds

/-- The packages of results have keys of their own. -/
def AreDistinct (env : ComponentEnvironment)
    (before : List (Package × List Vulnerability)) (package : Package)
    (behind : List (Package × List Vulnerability)) : Prop :=
  (before.map (fun result => result.1.key env) ++
    package.key env :: behind.map fun result => result.1.key env).Nodup

section Results

variable {before behind : List (Package × List Vulnerability)}
  (distinct : AreDistinct env before package behind)

def detailsWith (fetch : List CodePoint → Option Detail)
    (before : List (Package × List Vulnerability)) (package : Package)
    (behind : List (Package × List Vulnerability))
    (vulns : List Vulnerability) : List CodePoint → Option Detail :=
  detailsOf fetch (before ++ (package, vulns) :: behind)

include distinct in
theorem mem_itemsWith_iff {item : Item}
    (own : item.package.key env = package.key env) :
    item ∈ itemsWith env fetch before package behind vulns ↔
      ∃ first rest, groupOf (detailsWith fetch before package behind vulns)
          package vulns item.vulnerabilityId = first :: rest ∧
        item = rest.foldl (itemRule env).change
          ((itemRule env).create first) := by
  apply mem_fetchItems_iff _ own
  rw [List.map_append, List.map_cons]
  exact distinct

theorem detailsWith_perm {other : List Vulnerability}
    (same : other.Perm vulns) :
    detailsWith fetch before package behind other =
      detailsWith fetch before package behind vulns := by
  unfold detailsWith detailsOf
  funext id
  unfold detailCache
  rw [@Ordered.sortedSet_congr _ _ _ (((before ++ (package, vulns) ::
    behind)).flatMap fun result => (firstSeen result.2).map Vulnerability.id)]
  intro identifier
  have ids : ∀ vulns : List Vulnerability,
      identifier ∈ (firstSeen vulns).map Vulnerability.id ↔
        identifier ∈ vulns.map Vulnerability.id := fun vulns =>
    @Gathered.mem_gather_keys _ _ _ _ seenRule vulns identifier
  simp only [List.flatMap_append, List.flatMap_cons, List.mem_append, ids,
    (same.map Vulnerability.id).mem_iff]

/-- What the item of matches with one canonical id has. -/
theorem fields_of_members {canonical : List CodePoint} {first : Match}
    {rest : List Match}
    (inGroup : ∀ found ∈ first :: rest, found.package = package ∧
      found.canonicalId = canonical) :
    (rest.foldl (itemRule env).change
        ((itemRule env).create first)).package = package ∧
    (rest.foldl (itemRule env).change
        ((itemRule env).create first)).vulnerabilityId = canonical ∧
    ∀ identifier, identifier ∈ (rest.foldl (itemRule env).change
        ((itemRule env).create first)).alternateIds ↔
      (∃ found ∈ first :: rest, identifier ∈ found.identifiers) ∧
        identifier ≠ canonical := by
  obtain ⟨isPackage, isCanonical⟩ := inGroup first List.mem_cons_self
  obtain ⟨samePackage, sameId, -⟩ :=
    @foldl_fields env ((itemRule env).create first) rest
  refine ⟨samePackage.trans isPackage, sameId.trans isCanonical, ?_⟩
  have created : ∀ identifier, identifier ∈
      ((itemRule env).create first).alternateIds ↔
        identifier ∈ first.identifiers ∧ identifier ≠ canonical := by
    intro identifier
    change identifier ∈ Ordered.sortedSet _ ↔ _
    rw [Ordered.mem_sortedSet, List.mem_filter, decide_eq_true_eq,
      isCanonical]
  intro identifier
  rw [foldl_alternateIds rest (fun found member =>
      (inGroup found (List.mem_cons_of_mem _ member)).2)
    (fun isIn => ((created canonical).mp isIn).2 rfl), created]
  constructor
  · rintro (⟨isIn, apart⟩ | ⟨found, member, isIn, apart⟩)
    · exact ⟨⟨first, List.mem_cons_self, isIn⟩, apart⟩
    · exact ⟨⟨found, List.mem_cons_of_mem _ member, isIn⟩, apart⟩
  · rintro ⟨⟨found, member, isIn⟩, apart⟩
    rcases List.mem_cons.mp member with rfl | later
    · exact .inl ⟨isIn, apart⟩
    · exact .inr ⟨found, later, isIn, apart⟩

theorem members_of_group {canonical : List CodePoint} {first : Match}
    {rest : List Match}
    (group : groupOf details package vulns canonical = first :: rest) :
    ∀ found ∈ first :: rest, found.package = package ∧
      found.canonicalId = canonical := by
  intro found member
  rw [← group] at member
  obtain ⟨⟨seen, -, rfl⟩, isCanonical⟩ := mem_groupOf.mp member
  exact ⟨rfl, isCanonical⟩

/-- The match of the vulnerability that is seen in place of another one. -/
theorem exists_mem_groupOf {vulnerability : Vulnerability}
    (member : vulnerability ∈ vulns) :
    ∃ seen ∈ firstSeen vulns, seen.id = vulnerability.id ∧
      matchOf details package seen ∈ groupOf details package vulns
        (matchOf details package vulnerability).canonicalId := by
  obtain ⟨seen, isSeen, sameId⟩ := exists_firstSeen member
  exact ⟨seen, isSeen, sameId, mem_groupOf.mpr ⟨⟨seen, isSeen, rfl⟩,
    (matchOf_congr sameId).2.1⟩⟩

include distinct in
theorem mem_identifiers_iff {item : Item}
    (isItem : item ∈ itemsWith env fetch before package behind vulns)
    (own : item.package = package) {identifier : List CodePoint} :
    identifier ∈ item.identifiers ↔ ∃ vulnerability ∈ vulns,
      (matchOf (detailsWith fetch before package behind vulns) package
        vulnerability).canonicalId = item.vulnerabilityId ∧
      identifier ∈ (matchOf (detailsWith fetch before package behind vulns)
        package vulnerability).identifiers := by
  obtain ⟨first, rest, group, isRow⟩ :=
    (mem_itemsWith_iff distinct (own ▸ rfl)).mp isItem
  obtain ⟨-, -, alternates⟩ := @fields_of_members env _ _ _ _
    (members_of_group group)
  rw [← isRow, ← group] at alternates
  have whole : identifier ∈ item.identifiers ↔
      ∃ found ∈ groupOf (detailsWith fetch before package behind vulns)
        package vulns item.vulnerabilityId, identifier ∈ found.identifiers := by
    rw [Item.identifiers, List.mem_cons, alternates]
    constructor
    · rintro (rfl | ⟨isIn, -⟩)
      · have inGroup : first ∈ groupOf (detailsWith fetch before package
            behind vulns) package vulns item.vulnerabilityId := by
          rw [group]
          exact List.mem_cons_self
        refine ⟨first, inGroup, ?_⟩
        rw [← (mem_groupOf.mp inGroup).2]
        exact canonicalId_mem first
      · exact isIn
    · intro isIn
      by_cases same : identifier = item.vulnerabilityId
      · exact .inl same
      · exact .inr ⟨isIn, same⟩
  rw [whole]
  constructor
  · rintro ⟨found, member, isIn⟩
    obtain ⟨⟨seen, isSeen, rfl⟩, isCanonical⟩ := mem_groupOf.mp member
    exact ⟨seen, mem_of_firstSeen isSeen, isCanonical, isIn⟩
  · rintro ⟨vulnerability, member, isCanonical, isIn⟩
    obtain ⟨seen, -, sameId, inGroup⟩ := exists_mem_groupOf member
    rw [isCanonical] at inGroup
    exact ⟨_, inGroup, (matchOf_congr sameId).1 ▸ isIn⟩

include distinct in
/-- Every vulnerability has an item. -/
theorem exists_itemsWith {vulnerability : Vulnerability}
    (member : vulnerability ∈ vulns) :
    ∃ item ∈ itemsWith env fetch before package behind vulns,
      item.package = package ∧ item.vulnerabilityId =
        (matchOf (detailsWith fetch before package behind vulns) package
          vulnerability).canonicalId := by
  obtain ⟨seen, -, -, inGroup⟩ := @exists_mem_groupOf
    (detailsWith fetch before package behind vulns) package vulns _ member
  obtain ⟨first, rest, group⟩ := List.exists_cons_of_ne_nil
    (List.ne_nil_of_mem inGroup)
  obtain ⟨isPackage, isCanonical, -⟩ := @fields_of_members env _ _ _ _
    (members_of_group group)
  refine ⟨_, (mem_itemsWith_iff distinct (isPackage ▸ rfl)).mpr
    ⟨first, rest, ?_, rfl⟩, isPackage, isCanonical⟩
  rw [isCanonical]
  exact group

/-- A package has one item for an id. -/
theorem itemsWith_unique {first second : Item}
    (inFirst : first ∈ itemsWith env fetch before package behind vulns)
    (inSecond : second ∈ itemsWith env fetch before package behind vulns)
    (samePackage : first.package = second.package)
    (sameId : first.vulnerabilityId = second.vulnerabilityId) :
    first = second := by
  rw [itemsWith, fetchItems, Ordered.mem_sortedBy] at inFirst inSecond
  refine List.inj_on_of_nodup_map
    (@Gathered.nodup_gather_keys _ _ _ _ (itemRule env) _) inFirst inSecond ?_
  exact Prod.ext (congrArg (Package.key env) samePackage) sameId

end Results

/-! ## The partition -/

/-- Every identifier is in an item, the items of the package share none, and
the items are the same for every order of the vulnerabilities. -/
structure ItemsPartition (env : ComponentEnvironment)
    (fetch : List CodePoint → Option Detail)
    (before : List (Package × List Vulnerability)) (package : Package)
    (behind : List (Package × List Vulnerability))
    (vulns : List Vulnerability) : Prop where
  nothingLost : ∀ vulnerability ∈ vulns, ∀ identifier ∈
    (matchOf (detailsWith fetch before package behind vulns) package
      vulnerability).identifiers,
    ∃ item ∈ itemsWith env fetch before package behind vulns,
      item.package = package ∧ identifier ∈ item.identifiers
  disjoint : ∀ first ∈ itemsWith env fetch before package behind vulns,
    ∀ second ∈ itemsWith env fetch before package behind vulns,
      first.package = package → second.package = package → first ≠ second →
        ∀ identifier ∈ first.identifiers, identifier ∉ second.identifiers
  orderless : ∀ other : List Vulnerability, other.Perm vulns → ∀ item,
    item ∈ itemsWith env fetch before package behind other ↔
      item ∈ itemsWith env fetch before package behind vulns

/-- Vulnerabilities that share an identifier have one canonical id; of those
with one canonical id, one has the best score and all have one severity; an id
without details has one time. -/
structure AliasesSettled (details : List CodePoint → Option Detail)
    (package : Package) (vulns : List Vulnerability) : Prop where
  shared : ∀ first ∈ vulns, ∀ second ∈ vulns,
    ∀ identifier ∈ (matchOf details package first).identifiers,
      identifier ∈ (matchOf details package second).identifiers →
        (matchOf details package first).canonicalId =
          (matchOf details package second).canonicalId
  severity : ∀ first ∈ vulns, ∀ second ∈ vulns, first.id ≠ second.id →
    (matchOf details package first).canonicalId =
      (matchOf details package second).canonicalId →
    (matchOf details package first).severity =
      (matchOf details package second).severity
  best : ∀ first ∈ vulns, ∀ second ∈ vulns, first.id ≠ second.id →
    (matchOf details package first).canonicalId =
      (matchOf details package second).canonicalId →
    ∃ best ∈ vulns, (matchOf details package best).canonicalId =
        (matchOf details package first).canonicalId ∧
      ∀ other ∈ vulns, (matchOf details package other).canonicalId =
          (matchOf details package first).canonicalId →
        other.id ≠ best.id → outscores
          (matchOf details package best).detail.cvssScore
          (matchOf details package other).detail.cvssScore = true
  modified : ∀ first ∈ vulns, ∀ second ∈ vulns, first.id = second.id →
    details first.id = none → first.modified = second.modified

/-! ### Settled aliases -/

theorem AliasesSettled.matchOf_eq (settled : AliasesSettled details package
    vulns) {first second : Vulnerability} (inFirst : first ∈ vulns)
    (inSecond : second ∈ vulns) (same : first.id = second.id) :
    matchOf details package first = matchOf details package second := by
  unfold matchOf
  cases found : details first.id with
  | none =>
      rw [← same, found, settled.modified first inFirst second inSecond same
        found]
  | some detail => rw [← same, found]; rfl

theorem AliasesSettled.matchesOf_perm (settled : AliasesSettled details package
    vulns) {other : List Vulnerability} (same : other.Perm vulns) :
    (matchesOf details package other).Perm (matchesOf details package vulns) := by
  have moves : ∀ {one another : List Vulnerability},
      (∀ vulnerability ∈ one, vulnerability ∈ vulns) →
      (∀ vulnerability ∈ another, vulnerability ∈ vulns) →
      (∀ vulnerability ∈ one, vulnerability ∈ another) →
      ∀ found ∈ matchesOf details package one,
        found ∈ matchesOf details package another := by
    intro one another oneIn anotherIn included found member
    obtain ⟨seen, isSeen, rfl⟩ := List.mem_map.mp member
    have inOne := mem_of_firstSeen isSeen
    obtain ⟨kept, isKept, sameId⟩ :=
      exists_firstSeen (included seen inOne)
    rw [← settled.matchOf_eq (anotherIn kept (mem_of_firstSeen isKept))
      (oneIn seen inOne) sameId]
    exact List.mem_map_of_mem isKept
  have into : ∀ vulnerability ∈ other, vulnerability ∈ vulns :=
    fun _ => same.mem_iff.mp
  rw [List.perm_ext_iff_of_nodup nodup_matchesOf nodup_matchesOf]
  intro found
  exact ⟨moves into (fun _ => id) into found,
    moves (fun _ => id) into (fun _ => same.mem_iff.mpr) found⟩

theorem winner_eq_best {first best : Match} {rest : List Match}
    (beats : ∀ found ∈ first :: rest, found ≠ best →
      rank found.detail.cvssScore < rank best.detail.cvssScore)
    (member : best ∈ first :: rest) : winner first rest = best := by
  by_contra apart
  have less := beats _ (winner_mem first rest) apart
  have more := rank_le_winner first rest best member
  omega

/-- A group makes one item, in whatever order it comes. -/
theorem AliasesSettled.foldl_eq (settled : AliasesSettled details package
    vulns) {canonical : List CodePoint} {first another : Match}
    {rest others : List Match}
    (group : groupOf details package vulns canonical = first :: rest)
    (same : (another :: others).Perm (first :: rest)) :
    others.foldl (itemRule env).change ((itemRule env).create another) =
      rest.foldl (itemRule env).change ((itemRule env).create first) := by
  have inGroup : ∀ found ∈ first :: rest, ∃ vulnerability ∈ vulns,
      matchOf details package vulnerability = found ∧
        found.canonicalId = canonical := by
    intro found member
    rw [← group] at member
    obtain ⟨⟨seen, isSeen, isMatch⟩, isCanonical⟩ := mem_groupOf.mp member
    exact ⟨seen, mem_of_firstSeen isSeen, isMatch, isCanonical⟩
  have apart : (first :: rest).Nodup := group ▸ nodup_matchesOf.filter _
  cases rest with
  | nil =>
      obtain ⟨rfl, rfl⟩ := List.cons.inj (List.perm_singleton.mp same)
      rfl
  | cons second more =>
      have ids : ∀ {one other : Vulnerability}, one ∈ vulns → other ∈ vulns →
          matchOf details package one ≠ matchOf details package other →
            one.id ≠ other.id := by
        intro one other inOne inOther differ sameId
        exact differ (settled.matchOf_eq inOne inOther sameId)
      obtain ⟨one, inOne, isOne, oneCanonical⟩ :=
        inGroup first List.mem_cons_self
      obtain ⟨two, inTwo, isTwo, twoCanonical⟩ :=
        inGroup second (List.mem_cons_of_mem _ List.mem_cons_self)
      have differ : first ≠ second := fun equal =>
        (List.nodup_cons.mp apart).1 (equal ▸ List.mem_cons_self)
      have inAnother := same.mem_iff.mp List.mem_cons_self
      obtain ⟨three, inThree, isThree, threeCanonical⟩ :=
        inGroup another inAnother
      obtain ⟨best, inBest, bestCanonical, beats⟩ :=
        settled.best one inOne two inTwo
          (ids inOne inTwo (isOne.symm ▸ isTwo.symm ▸ differ))
          (by rw [isOne, isTwo, oneCanonical, twoCanonical])
      rw [isOne, oneCanonical] at bestCanonical beats
      obtain ⟨seen, isSeen, sameId, isIn⟩ := @exists_mem_groupOf details
        package vulns best inBest
      rw [bestCanonical, group, settled.matchOf_eq (mem_of_firstSeen isSeen)
        inBest sameId] at isIn
      have strictly : ∀ found ∈ first :: second :: more,
          found ≠ matchOf details package best →
            rank found.detail.cvssScore <
              rank (matchOf details package best).detail.cvssScore := by
        intro found member notBest
        obtain ⟨vulnerability, inVulns, rfl, isCanonical⟩ :=
          inGroup found member
        exact outscores_iff.mp (beats vulnerability inVulns isCanonical
          (ids inVulns inBest notBest))
      have severities : another.severity = first.severity := by
        by_cases equal : another = first
        · rw [equal]
        rw [← isThree, ← isOne]
        apply settled.severity three inThree one inOne
        · exact ids inThree inOne (isThree.symm ▸ isOne.symm ▸ equal)
        · rw [isThree, isOne, threeCanonical, oneCanonical]
      have packages : another.package = first.package := by
        rw [← isThree, ← isOne]
        rfl
      have wins := winner_eq_best strictly isIn
      have winsToo := @winner_eq_best another _ others
        (fun found member => strictly found (same.mem_iff.mp member))
        (same.mem_iff.mpr isIn)
      obtain ⟨isPackage, isId, isTitle⟩ :=
        @foldl_fields env ((itemRule env).create first) (second :: more)
      obtain ⟨otherPackage, otherId, otherTitle⟩ :=
        @foldl_fields env ((itemRule env).create another) others
      apply Item.ext
      · exact otherPackage.trans (packages.trans isPackage.symm)
      · exact otherId.trans (threeCanonical.trans
          (oneCanonical.symm.trans isId.symm))
      · obtain ⟨-, -, alternates⟩ := @fields_of_members env _ _ _ _
          (members_of_group group)
        obtain ⟨-, -, otherAlternates⟩ := @fields_of_members env _ _ _ _
          fun found member => members_of_group group found
            (same.mem_iff.mp member)
        obtain ⟨ids, isSorted⟩ := @foldl_sorted env (second :: more)
          ((itemRule env).create first) ⟨_, rfl⟩
        obtain ⟨otherIds, otherSorted⟩ := @foldl_sorted env others
          ((itemRule env).create another) ⟨_, rfl⟩
        rw [isSorted, otherSorted]
        apply Ordered.sortedSet_congr
        intro identifier
        rw [← Ordered.mem_sortedSet, ← otherSorted, otherAlternates,
          ← Ordered.mem_sortedSet, ← isSorted, alternates]
        simp only [same.mem_iff]
      · rw [foldl_record others rfl, foldl_record (second :: more) rfl, wins,
          winsToo]
      · refine otherTitle.trans (Eq.trans ?_ isTitle.symm)
        change another.koreanTitle = first.koreanTitle
        rw [Match.koreanTitle, Match.koreanTitle, packages, severities]

/-! ### Items in another order -/

section Orders

variable {before behind : List (Package × List Vulnerability)}
  (distinct : AreDistinct env before package behind)

/-- The items of the other packages do not depend on the package at hand. -/
theorem itemsWith_of_other {other : List Vulnerability}
    (same : other.Perm vulns) {item : Item}
    (apart : item.package.key env ≠ package.key env) :
    item ∈ itemsWith env fetch before package behind other ↔
      item ∈ itemsWith env fetch before package behind vulns := by
  have settled : detailsOf fetch (before ++ (package, other) :: behind) =
      detailsOf fetch (before ++ (package, vulns) :: behind) :=
    detailsWith_perm same
  have none : ∀ details vulns, Gathered.ofKey (itemRule env)
      ((itemRule env).rowKey item) (matchesOf details package vulns) = [] := by
    intro details vulns
    rw [Gathered.ofKey, List.filter_eq_nil_iff]
    intro found member sameKey
    obtain ⟨seen, -, rfl⟩ := List.mem_map.mp member
    exact apart (congrArg Prod.fst (of_decide_eq_true sameKey)).symm
  unfold itemsWith fetchItems
  rw [settled, Ordered.mem_sortedBy, Ordered.mem_sortedBy,
    Gathered.mem_gather_iff, Gathered.mem_gather_iff]
  simp only [Gathered.ofKey, List.flatMap_append, List.flatMap_cons,
    List.filter_append] at none ⊢
  rw [none, none]

include distinct in
theorem AliasesSettled.orderless (settled : AliasesSettled
      (detailsWith fetch before package behind vulns) package vulns)
    {other : List Vulnerability} (same : other.Perm vulns) (item : Item) :
    item ∈ itemsWith env fetch before package behind other ↔
      item ∈ itemsWith env fetch before package behind vulns := by
  by_cases own : item.package.key env = package.key env
  · rw [mem_itemsWith_iff distinct own, mem_itemsWith_iff distinct own,
      detailsWith_perm same]
    have groups : (groupOf (detailsWith fetch before package behind vulns)
        package other item.vulnerabilityId).Perm (groupOf
          (detailsWith fetch before package behind vulns) package vulns
          item.vulnerabilityId) := (settled.matchesOf_perm same).filter _
    constructor
    · rintro ⟨another, others, group, rfl⟩
      rw [group] at groups
      obtain ⟨first, rest, isGroup⟩ := List.exists_cons_of_ne_nil
        (List.ne_nil_of_mem (groups.mem_iff.mp List.mem_cons_self))
      rw [isGroup] at groups
      exact ⟨first, rest, isGroup, settled.foldl_eq isGroup groups⟩
    · rintro ⟨first, rest, group, rfl⟩
      rw [group] at groups
      obtain ⟨another, others, isGroup⟩ := List.exists_cons_of_ne_nil
        (List.ne_nil_of_mem (groups.mem_iff.mpr List.mem_cons_self))
      rw [isGroup] at groups
      exact ⟨another, others, isGroup, (settled.foldl_eq group groups).symm⟩
  · exact itemsWith_of_other same own

end Orders

/-! ### Settled by the items -/

section Settled

variable {before behind : List (Package × List Vulnerability)}
  (distinct : AreDistinct env before package behind)

include distinct in
/-- The item of a vulnerability that comes first shows its severity, and its
data when no other one has a better score. -/
theorem exists_item_of_first (orderless : ∀ other : List Vulnerability,
      other.Perm vulns → ∀ item,
        item ∈ itemsWith env fetch before package behind other ↔
          item ∈ itemsWith env fetch before package behind vulns)
    {first : Vulnerability} (member : first ∈ vulns) :
    ∃ item ∈ itemsWith env fetch before package behind vulns,
      item.package = package ∧
      item.vulnerabilityId = (matchOf (detailsWith fetch before package behind
        vulns) package first).canonicalId ∧
      item.koreanTitle = (matchOf (detailsWith fetch before package behind
        vulns) package first).koreanTitle ∧
      ((∀ other ∈ vulns,
        (matchOf (detailsWith fetch before package behind vulns) package
          other).canonicalId = (matchOf (detailsWith fetch before package
            behind vulns) package first).canonicalId →
        rank (matchOf (detailsWith fetch before package behind vulns) package
          other).detail.cvssScore ≤ rank (matchOf (detailsWith fetch before
            package behind vulns) package first).detail.cvssScore) →
        item.record = (matchOf (detailsWith fetch before package behind vulns)
          package first).record) := by
  have same : (first :: vulns.erase first).Perm vulns :=
    (List.perm_cons_erase member).symm
  have isDetails := @detailsWith_perm fetch package _ before behind _ same
  generalize detailsWith fetch before package behind vulns = details
    at isDetails ⊢
  obtain ⟨others, seen⟩ := firstSeen_cons first (vulns.erase first)
  have group : ∃ rest, groupOf details package (first :: vulns.erase first)
      (matchOf details package first).canonicalId =
        matchOf details package first :: rest := by
    rw [groupOf, matchesOf, seen, List.map_cons, List.filter_cons,
      if_pos (decide_eq_true rfl)]
    exact ⟨_, rfl⟩
  obtain ⟨rest, group⟩ := group
  obtain ⟨isPackage, isId, -⟩ := @fields_of_members env _ _ _ _
    (members_of_group group)
  obtain ⟨-, -, isTitle⟩ := @foldl_fields env
    ((itemRule env).create (matchOf details package first)) rest
  refine ⟨_, (orderless _ same _).mp ((mem_itemsWith_iff distinct
    (congrArg (Package.key env) isPackage)).mpr ⟨_, rest, ?_, rfl⟩),
      isPackage, isId, isTitle, ?_⟩
  · rw [isId, isDetails]
    exact group
  · intro best
    rw [foldl_record rest rfl, winner_eq_first]
    intro found inRest
    have inGroup : found ∈ groupOf details package (first ::
        vulns.erase first) (matchOf details package first).canonicalId := by
      rw [group]
      exact List.mem_cons_of_mem _ inRest
    obtain ⟨⟨other, isSeen, rfl⟩, isCanonical⟩ := mem_groupOf.mp inGroup
    exact best other (same.mem_iff.mp (mem_of_firstSeen isSeen)) isCanonical

include distinct in
/-- Items that are a partition in every order settle the aliases. -/
theorem ItemsPartition.settled (partition : ItemsPartition env fetch before
      package behind vulns) :
    AliasesSettled (detailsWith fetch before package behind vulns) package
      vulns := by
  have ofFirst := @exists_item_of_first env fetch package vulns before behind
    distinct partition.orderless
  have identifiers := @mem_identifiers_iff env fetch package vulns before
    behind distinct
  have items := @exists_itemsWith env fetch package vulns before behind
    distinct
  generalize detailsWith fetch before package behind vulns = details
    at ofFirst identifiers items ⊢
  have severity : ∀ first ∈ vulns, ∀ second ∈ vulns,
      (matchOf details package first).canonicalId =
        (matchOf details package second).canonicalId →
      (matchOf details package first).severity =
        (matchOf details package second).severity := by
    intro first inFirst second inSecond same
    obtain ⟨one, isOne, onePackage, oneId, oneTitle, -⟩ := ofFirst inFirst
    obtain ⟨two, isTwo, twoPackage, twoId, twoTitle, -⟩ := ofFirst inSecond
    have equal := itemsWith_unique isOne isTwo
      (onePackage.trans twoPackage.symm) (oneId.trans (same.trans twoId.symm))
    exact severity_of_title rfl (oneTitle.symm.trans (equal ▸ twoTitle))
  have records : ∀ first ∈ vulns, ∀ second ∈ vulns,
      (matchOf details package first).canonicalId =
        (matchOf details package second).canonicalId →
      (∀ other ∈ vulns, (matchOf details package other).canonicalId =
        (matchOf details package first).canonicalId →
          rank (matchOf details package other).detail.cvssScore ≤
            rank (matchOf details package first).detail.cvssScore) →
      (∀ other ∈ vulns, (matchOf details package other).canonicalId =
        (matchOf details package second).canonicalId →
          rank (matchOf details package other).detail.cvssScore ≤
            rank (matchOf details package second).detail.cvssScore) →
      (matchOf details package first).record =
        (matchOf details package second).record := by
    intro first inFirst second inSecond same firstBest secondBest
    obtain ⟨one, isOne, onePackage, oneId, -, oneRecord⟩ := ofFirst inFirst
    obtain ⟨two, isTwo, twoPackage, twoId, -, twoRecord⟩ := ofFirst inSecond
    have equal := itemsWith_unique isOne isTwo
      (onePackage.trans twoPackage.symm) (oneId.trans (same.trans twoId.symm))
    rw [← oneRecord firstBest, ← twoRecord secondBest, equal]
  have best : ∀ first ∈ vulns, ∃ best ∈ vulns,
      (matchOf details package best).canonicalId =
        (matchOf details package first).canonicalId ∧
      ∀ other ∈ vulns, (matchOf details package other).canonicalId =
          (matchOf details package first).canonicalId →
        other.id ≠ best.id → outscores
          (matchOf details package best).detail.cvssScore
          (matchOf details package other).detail.cvssScore = true := by
    intro first inFirst
    obtain ⟨seen, -, -, inGroup⟩ := @exists_mem_groupOf details package vulns
      first inFirst
    obtain ⟨head, rest, group⟩ := List.exists_cons_of_ne_nil
      (List.ne_nil_of_mem inGroup)
    have won := winner_mem head rest
    rw [← group] at won
    obtain ⟨⟨best, isBest, isWinner⟩, bestCanonical⟩ := mem_groupOf.mp won
    have inBest := mem_of_firstSeen isBest
    have most : ∀ other ∈ vulns, (matchOf details package other).canonicalId =
        (matchOf details package first).canonicalId →
          rank (matchOf details package other).detail.cvssScore ≤
            rank (matchOf details package best).detail.cvssScore := by
      intro other inOther same
      obtain ⟨kept, -, sameId, inGroup⟩ := @exists_mem_groupOf details package
        vulns other inOther
      rw [same, group] at inGroup
      rw [isWinner, ← (matchOf_congr sameId).2.2]
      exact rank_le_winner head rest _ inGroup
    rw [← isWinner] at bestCanonical
    refine ⟨best, inBest, bestCanonical, ?_⟩
    intro other inOther same apart
    rw [outscores_iff]
    by_contra notLess
    have record := records other inOther best inBest
      (same.trans bestCanonical.symm)
      (fun another inAnother isSame =>
        (most another inAnother (isSame.trans same)).trans
          (Nat.le_of_not_lt notLess))
      (fun another inAnother isSame =>
        most another inAnother (isSame.trans bestCanonical))
    exact apart (congrArg Record.sourceRecordId record)
  constructor
  case shared =>
    intro first inFirst second inSecond identifier isIn isInToo
    obtain ⟨one, isOne, onePackage, oneId⟩ := items inFirst
    obtain ⟨two, isTwo, twoPackage, twoId⟩ := items inSecond
    by_contra apart
    have differ : one ≠ two := by
      rintro rfl
      exact apart (oneId.symm.trans twoId)
    exact partition.disjoint one isOne two isTwo onePackage twoPackage differ
      identifier
      ((identifiers isOne onePackage).mpr ⟨first, inFirst, oneId.symm, isIn⟩)
      ((identifiers isTwo twoPackage).mpr
        ⟨second, inSecond, twoId.symm, isInToo⟩)
  case severity =>
    exact fun first inFirst second inSecond _ =>
      severity first inFirst second inSecond
  case best => exact fun first inFirst _ _ _ _ => best first inFirst
  case modified =>
    intro first inFirst second inSecond sameId missing
    -- A vulnerability without details has no score, so that no other one has
    -- its canonical id.
    have unscored : ∀ vulnerability : Vulnerability,
        vulnerability.id = first.id →
        (matchOf details package vulnerability).detail =
          missingDetail vulnerability.modified := by
      intro vulnerability isId
      rw [matchOf, isId, missing]
      rfl
    have alone : ∀ other ∈ vulns,
        (matchOf details package other).canonicalId =
          (matchOf details package first).canonicalId →
        (matchOf details package other).detail.cvssScore = none := by
      intro other inOther same
      apply severity_eq_unknown.mp
      have known := severity other inOther first inFirst same
      rw [Match.severity, Match.severity, unscored first rfl] at known
      exact known
    have lowest : ∀ vulnerability ∈ vulns,
        (matchOf details package vulnerability).canonicalId =
          (matchOf details package first).canonicalId →
        ∀ other ∈ vulns, (matchOf details package other).canonicalId =
          (matchOf details package vulnerability).canonicalId →
            rank (matchOf details package other).detail.cvssScore ≤
              rank (matchOf details package
                vulnerability).detail.cvssScore := by
      intro vulnerability _ isSame other inOther same
      rw [alone other inOther (same.trans isSame)]
      exact Nat.zero_le _
    have canonical := (@matchOf_congr details package _ _ sameId).2.1
    have record := records first inFirst second inSecond canonical
      (lowest first inFirst rfl) (lowest second inSecond canonical.symm)
    have times := congrArg Record.modifiedAt record
    unfold Match.record at times
    dsimp only at times
    rw [unscored first rfl, unscored second sameId.symm] at times
    exact times

include distinct in
/-- The items of a package are a partition of the identifiers, in every order
of its vulnerabilities, when the aliases are settled. -/
theorem itemsPartition_iff :
    ItemsPartition env fetch before package behind vulns ↔
      AliasesSettled (detailsWith fetch before package behind vulns) package
        vulns := by
  constructor
  · exact ItemsPartition.settled distinct
  · intro settled
    constructor
    case nothingLost =>
      intro vulnerability member identifier isIn
      obtain ⟨item, isItem, isPackage, isId⟩ :=
        exists_itemsWith distinct member
      exact ⟨item, isItem, isPackage, (mem_identifiers_iff distinct isItem
        isPackage).mpr ⟨vulnerability, member, isId.symm, isIn⟩⟩
    case disjoint =>
      intro first isFirst second isSecond firstPackage secondPackage apart
        identifier isIn isInToo
      obtain ⟨one, inOne, oneId, oneIn⟩ :=
        (mem_identifiers_iff distinct isFirst firstPackage).mp isIn
      obtain ⟨two, inTwo, twoId, twoIn⟩ :=
        (mem_identifiers_iff distinct isSecond secondPackage).mp isInToo
      apply apart
      apply itemsWith_unique isFirst isSecond
        (firstPackage.trans secondPackage.symm)
      rw [← oneId, ← twoId]
      exact settled.shared one inOne two inTwo identifier oneIn twoIn
    case orderless =>
      exact fun other same => settled.orderless distinct same

end Settled

/-- The packages that are looked up have keys of their own. -/
theorem nodup_osvComponents {values : List Decoded} {packages : List Package}
    (found : osvComponents env values = .ok packages) :
    (packages.map (Package.key env)).Nodup := by
  obtain ⟨components, -, found⟩ := bind_eq_ok.mp found
  dsimp only at found
  split at found
  · cases found
  · obtain rfl := Except.ok.inj found
    exact (((Ordered.sortedBy_perm _ _).map _).nodup_iff).mpr
      (@Gathered.nodup_gather_keys _ _ _ _ (packageRule env) _)

/-- Of packages that are looked up, the items of one are a partition of the
identifiers, in every order of its vulnerabilities, when the aliases are
settled. -/
theorem items_partition_iff {values : List Decoded}
    {before behind : List (Package × List Vulnerability)}
    (found : osvComponents env values =
      .ok (before.map Prod.fst ++ package :: behind.map Prod.fst)) :
    ItemsPartition env fetch before package behind vulns ↔
      AliasesSettled (detailsWith fetch before package behind vulns) package
        vulns := by
  apply itemsPartition_iff
  have distinct := nodup_osvComponents found
  rw [List.map_append, List.map_cons, List.map_map, List.map_map] at distinct
  exact distinct

def leftPackage : Package where
  ecosystem := .npm
  name := points "left".toList
  version := points "1.0".toList
  componentType := .nodePackage
  scopes := [.installed]
  sources := [.npmPackageJson]

theorem leftPackage_found : osvComponents plainEnvironment
    [(installedPackage "left" "").document] = .ok [leftPackage] := by
  decide +kernel

def exampleVulnerability (id : String) : Vulnerability :=
  ⟨points id.toList, points "2026-01-01T00:00:00Z".toList⟩

def exampleDetails (id : List CodePoint) : Option Detail :=
  if id = points "PYSEC-2026-1".toList then
    some { missingDetail [] with aliases := [points "GHSA-abcd".toList] }
  else none

theorem lone_vulnerability_is_an_item :
    ItemsPartition plainEnvironment exampleDetails [] leftPackage []
      [exampleVulnerability "GHSA-abcd"] := by
  apply (@items_partition_iff plainEnvironment exampleDetails leftPackage _
    [(installedPackage "left" "").document] [] [] leftPackage_found).mpr
  have only : ∀ vulnerability ∈ [exampleVulnerability "GHSA-abcd"],
      vulnerability = exampleVulnerability "GHSA-abcd" :=
    fun _ => List.mem_singleton.mp
  constructor
  case shared =>
    intro first inFirst second inSecond _ _ _
    rw [only first inFirst, only second inSecond]
  case severity =>
    intro first inFirst second inSecond apart
    exact (apart (by rw [only first inFirst, only second inSecond])).elim
  case best =>
    intro first inFirst second inSecond apart
    exact (apart (by rw [only first inFirst, only second inSecond])).elim
  case modified =>
    intro first inFirst second inSecond _ _
    rw [only first inFirst, only second inSecond]

/-- An advisory and one that names it share an identifier. -/
theorem alias_is_in_two_items :
    osvComponents plainEnvironment [(installedPackage "left" "").document] =
      .ok [leftPackage] ∧
    ¬ItemsPartition plainEnvironment exampleDetails [] leftPackage []
      [exampleVulnerability "GHSA-abcd",
        exampleVulnerability "PYSEC-2026-1"] := by
  refine ⟨leftPackage_found, ?_⟩
  intro partition
  have distinct : AreDistinct plainEnvironment [] leftPackage [] :=
    List.nodup_singleton _
  have settled := partition.settled distinct
  have same := settled.shared (exampleVulnerability "GHSA-abcd")
    List.mem_cons_self (exampleVulnerability "PYSEC-2026-1")
    (List.mem_cons_of_mem _ List.mem_cons_self) (points "GHSA-abcd".toList)
    (by decide +kernel) (by decide +kernel)
  exact absurd same (by decide +kernel)

end SecAI.Components
