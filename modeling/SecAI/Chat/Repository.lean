/-
Module: SecAI.Chat.Repository
Purpose: The rows of chat threads, their messages, generations and citations,
  and the repository functions on them.
Trusted boundary: each function runs in one transaction that commits or has no
  effect; rows are seen and written in the scope of their owner
Main exports:
  ThreadRow, MessageRow, GenerationRow, ChatTables
-/
import SecAI.Chat.Contracts

namespace SecAI.Chat

open SecAI.Text (strip)

/-! ## Rows -/

/-- The organization and the user that `set_chat_scope` sets. -/
structure Owner where
  organizationId : Uuid
  ownerUserId : Uuid
deriving DecidableEq

/-- The guide that a thread asks. -/
structure GuideScope where
  guideId : String
  guideVersion : String
  scopeId : String
deriving DecidableEq

/-- `chat_threads.profile`. -/
inductive ModelProfile where
  | fast
  | precise
deriving DecidableEq

/-- A row of `chat_threads`, with the columns that the functions below read or
write. -/
structure ThreadRow where
  id : Uuid
  owner : Owner
  title : List Char
  guide : GuideScope
  profile : ModelProfile
  status : ThreadStatus
  statusBeforeTombstone : Option ThreadStatus
  branchFromThreadId : Option Uuid
  branchFromMessageId : Option Uuid
  updatedAt : DateTime
  tombstonedAt : Option DateTime
deriving DecidableEq

/-- A row of `chat_messages`. -/
structure MessageRow where
  id : Uuid
  threadId : Uuid
  owner : Owner
  branchId : Uuid
  role : ChatRole
  status : MessageStatus
  revision : Nat
  parentMessageId : Option Uuid
  editOfMessageId : Option Uuid
  retryOfMessageId : Option Uuid
  requestIdempotencyKey : Option (List Char)
  content : List Char
  contentSha256 : String
deriving DecidableEq

structure GenerationTrace where
  answerMode : String
  modelId : String
  promptSha256 : String
  inputSha256 : String
  outputSha256 : String
deriving DecidableEq

/-- A row of `chat_generation_runs`; the columns of a trace are written
together. -/
structure GenerationRow where
  id : Uuid
  threadId : Uuid
  owner : Owner
  userMessageId : Uuid
  responseMessageId : Option Uuid
  retryOfMessageId : Option Uuid
  idempotencyKey : List Char
  status : GenerationStatus
  errorCode : Option (List Char)
  modelProfile : ModelProfile
  trace : Option GenerationTrace
  startedAt : Option DateTime
  stopRequestedAt : Option DateTime
  completedAt : Option DateTime
deriving DecidableEq

structure ChatCitation where
  guide : GuideScope
  chunkId : Uuid
  pdfPageNumber : Nat
  sectionLabel : String
  paragraphOrdinal : Nat
  paragraphSha256 : String
  textStart : Nat
  textEnd : Nat
  ordinal : Option Nat
deriving DecidableEq

/-- A row of `chat_citations`. -/
structure CitationRow where
  id : Uuid
  messageId : Uuid
  threadId : Uuid
  owner : Owner
  ordinal : Nat
  citation : ChatCitation
deriving DecidableEq

structure ChatTables where
  threads : List ThreadRow
  messages : List MessageRow
  generations : List GenerationRow
  citations : List CitationRow
deriving DecidableEq

def ChatTables.empty : ChatTables := ⟨[], [], [], []⟩

/-- What leaves a repository function as an exception. -/
inductive ChatFault where
  | contract (error : ChatContractError)
  /-- `IntegrityError` of a constraint. -/
  | integrity
deriving DecidableEq

/-- A `ChatContractError` with a code. -/
def ChatFault.code (code : String) : ChatFault := .contract ⟨code⟩

/-- What is not code of the repository functions. -/
structure ChatEnvironment where
  canonicalSha256 : Json → String
  /-- The query of `_integrated_citation_allowed`. -/
  integratedCitationAllowed : Owner → ChatCitation → Bool

/-! ## Reading and writing rows -/

section Rows

def threadIncludingTombstone (tables : ChatTables) (threadId : Uuid)
    (owner : Owner) : Except ChatFault ThreadRow :=
  match Table.lookup ThreadRow.id threadId tables.threads with
  | some thread =>
      if thread.owner = owner then .ok thread
      else .error (.code "CHAT_SCOPE_DENIED")
  | none => .error (.code "CHAT_SCOPE_DENIED")

def threadRow (tables : ChatTables) (threadId : Uuid) (owner : Owner) :
    Except ChatFault ThreadRow := do
  let thread ← threadIncludingTombstone tables threadId owner
  if thread.status = .tombstoned then throw (.code "CHAT_SCOPE_DENIED")
  return thread

def messageRow (tables : ChatTables) (owner : Owner)
    (threadId messageId : Uuid) : Except ChatFault MessageRow :=
  match Table.lookup MessageRow.id messageId tables.messages with
  | some message =>
      if message.threadId = threadId ∧ message.owner = owner then .ok message
      else .error (.code "CHAT_MESSAGE_NOT_FOUND")
  | none => .error (.code "CHAT_MESSAGE_NOT_FOUND")

/-- The generation with an identifier, in the scope of an owner. -/
def generationRow (tables : ChatTables) (owner : Owner) (generationId : Uuid) :
    Except ChatFault GenerationRow :=
  match Table.lookup GenerationRow.id generationId tables.generations with
  | some generation =>
      if generation.owner = owner then .ok generation
      else .error (.code "CHAT_GENERATION_NOT_FOUND")
  | none => .error (.code "CHAT_GENERATION_NOT_FOUND")

def requestedMessage (tables : ChatTables) (owner : Owner) (threadId : Uuid)
    (key : List Char) : Option MessageRow :=
  tables.messages.find? fun message =>
    decide (message.threadId = threadId ∧ message.owner = owner ∧
      message.requestIdempotencyKey = some key)

/-- A new row of `chat_messages` under the constraints of the table. -/
def insertMessage (tables : ChatTables) (row : MessageRow) :
    Except ChatFault ChatTables :=
  if (∃ other ∈ tables.messages, other.id = row.id) ∨
      (∃ key ∈ row.requestIdempotencyKey, isIdempotencyKey key = false ∨
        ∃ other ∈ tables.messages, other.threadId = row.threadId ∧
          other.requestIdempotencyKey = some key) then
    .error .integrity
  else .ok { tables with messages := tables.messages ++ [row] }

def ChatTables.withGeneration (tables : ChatTables) (generationId : Uuid)
    (change : GenerationRow → GenerationRow) : ChatTables :=
  { tables with
    generations := Table.updateWhere
      (fun row => decide (row.id = generationId)) change tables.generations }

def ChatTables.withThread (tables : ChatTables) (threadId : Uuid)
    (change : ThreadRow → ThreadRow) : ChatTables :=
  { tables with
    threads := Table.updateWhere (fun row => decide (row.id = threadId))
      change tables.threads }

end Rows

/-! ## Threads -/

section Threads

/-- `_normalize_management_text`, of a title. -/
def normalizeChatTitle (value : List Char) :
    Except ChatFault (List Char) :=
  let normalized := strip value
  if normalized = [] ∨ 160 < normalized.length then
    .error (.code "CHAT_TITLE_LENGTH_INVALID")
  else if normalized.any fun character =>
      decide (character ∈ ['\r', '\n', '\x00']) then
    .error (.code "CHAT_MANAGEMENT_TEXT_INVALID")
  else .ok normalized

def checkBranch (tables : ChatTables) (owner : Owner)
    (branchFromThreadId branchFromMessageId : Option Uuid) :
    Except ChatFault Unit :=
  match branchFromThreadId, branchFromMessageId with
  | some threadId, none => do
      let _ ← threadRow tables threadId owner
      throw (.code "CHAT_BRANCH_MESSAGE_REQUIRED")
  | some threadId, some messageId => do
      let parent ← threadRow tables threadId owner
      let _ ← messageRow tables owner parent.id messageId
  | none, some _ => throw (.code "CHAT_BRANCH_THREAD_REQUIRED")
  | none, none => pure ()

def createChatThread (tables : ChatTables) (owner : Owner) (newId : Uuid)
    (title : List Char) (guide : GuideScope) (profile : ModelProfile)
    (branchFromThreadId branchFromMessageId : Option Uuid) (now : DateTime) :
    Except ChatFault (ThreadRow × ChatTables) := do
  let normalized ← normalizeChatTitle title
  let _ ← checkBranch tables owner branchFromThreadId branchFromMessageId
  if ∃ other ∈ tables.threads, other.id = newId then throw .integrity
  let row : ThreadRow :=
    { id := newId
      owner := owner
      title := normalized
      guide := guide
      profile := profile
      status := .active
      statusBeforeTombstone := none
      branchFromThreadId := branchFromThreadId
      branchFromMessageId := branchFromMessageId
      updatedAt := now
      tombstonedAt := none }
  return (row, { tables with threads := tables.threads ++ [row] })

def setChatThreadArchived (tables : ChatTables) (threadId : Uuid)
    (owner : Owner) (archived : Bool) (now : DateTime) :
    Except ChatFault ChatTables := do
  let thread ← threadRow tables threadId owner
  return tables.withThread thread.id fun row =>
    { row with
      status := if archived then .archived else .active
      updatedAt := now }

def tombstoneChatThread (tables : ChatTables) (threadId : Uuid)
    (owner : Owner) (now : DateTime) : Except ChatFault ChatTables := do
  let thread ← threadRow tables threadId owner
  return tables.withThread thread.id fun row =>
    { row with
      statusBeforeTombstone := some row.status
      status := .tombstoned
      tombstonedAt := some now
      updatedAt := now }

def chatDeleteUndoWindow : Int := seconds 30

def undoTombstoneChatThread (tables : ChatTables) (threadId : Uuid)
    (owner : Owner) (now : DateTime) : Except ChatFault ChatTables := do
  let thread ← threadIncludingTombstone tables threadId owner
  match thread.status, thread.tombstonedAt, thread.statusBeforeTombstone with
  | .tombstoned, some tombstonedAt, some before =>
      if before = .tombstoned then
        throw (.code "CHAT_DELETE_UNDO_NOT_AVAILABLE")
      if now - tombstonedAt > chatDeleteUndoWindow then
        throw (.code "CHAT_DELETE_UNDO_EXPIRED")
      return tables.withThread thread.id fun row =>
        { row with
          status := before
          statusBeforeTombstone := none
          tombstonedAt := none
          updatedAt := now }
  | _, _, _ => throw (.code "CHAT_DELETE_UNDO_NOT_AVAILABLE")

end Threads

/-! ## Messages -/

section Messages

variable (env : ChatEnvironment)

def messageHash (role : ChatRole) (content : List Char) (revision : Nat)
    (parentMessageId : Option Uuid) : String :=
  env.canonicalSha256 (messageDocument role content revision parentMessageId)

def normalizedContent (content : List Char) : Except ChatFault (List Char) :=
  let normalized := strip content
  if normalized = [] ∨ 24000 < normalized.length then
    .error (.code "CHAT_CONTENT_LENGTH_INVALID")
  else .ok normalized

/-- A request to append a message, with the identifiers that `uuid4`
returns. -/
structure AppendRequest where
  threadId : Uuid
  owner : Owner
  content : List Char
  idempotencyKey : List Char
  parentMessageId : Option Uuid
  branchId : Option Uuid
  newBranch : Uuid
  newId : Uuid
  now : DateTime

def appendUserMessage (tables : ChatTables) (request : AppendRequest) :
    Except ChatFault (MessageRow × ChatTables) := do
  let thread ← threadRow tables request.threadId request.owner
  if thread.status ≠ .active then throw (.code "CHAT_THREAD_NOT_ACTIVE")
  let normalized ← normalizedContent request.content
  match requestedMessage tables request.owner request.threadId
      request.idempotencyKey with
  | some existing =>
      if existing.contentSha256 ≠ messageHash env .user normalized
          existing.revision request.parentMessageId then
        throw (.code "CHAT_IDEMPOTENCY_CONFLICT")
      return (existing, tables)
  | none =>
      let parent ← request.parentMessageId.mapM
        (messageRow tables request.owner request.threadId)
      let row : MessageRow :=
        { id := request.newId
          threadId := request.threadId
          owner := request.owner
          branchId := request.branchId.getD
            ((parent.map MessageRow.branchId).getD request.newBranch)
          role := .user
          status := .completed
          revision := 1
          parentMessageId := request.parentMessageId
          editOfMessageId := none
          retryOfMessageId := none
          requestIdempotencyKey := some request.idempotencyKey
          content := normalized
          contentSha256 := messageHash env .user normalized 1
            request.parentMessageId }
      let written ← insertMessage tables row
      return (row, written.withThread thread.id fun other =>
        { other with updatedAt := request.now })

/-- A request to edit a message. -/
structure EditRequest where
  threadId : Uuid
  messageId : Uuid
  owner : Owner
  content : List Char
  idempotencyKey : List Char
  newBranch : Uuid
  newId : Uuid

def editUserMessage (tables : ChatTables) (request : EditRequest) :
    Except ChatFault (MessageRow × ChatTables) := do
  let _ ← threadRow tables request.threadId request.owner
  match requestedMessage tables request.owner request.threadId
      request.idempotencyKey with
  | some existing => return (existing, tables)
  | none =>
      let original ← messageRow tables request.owner request.threadId
        request.messageId
      if original.role ≠ .user ∨ original.status ≠ .completed then
        throw (.code "CHAT_EDIT_NOT_ALLOWED")
      let normalized ← normalizedContent request.content
      let row : MessageRow :=
        { id := request.newId
          threadId := request.threadId
          owner := request.owner
          branchId := request.newBranch
          role := .user
          status := .completed
          revision := original.revision + 1
          parentMessageId := original.parentMessageId
          editOfMessageId := some original.id
          retryOfMessageId := none
          requestIdempotencyKey := some request.idempotencyKey
          content := normalized
          contentSha256 := messageHash env .user normalized
            (original.revision + 1) original.parentMessageId }
      let written ← insertMessage
        { tables with
          messages := Table.updateWhere
            (fun other => decide (other.id = original.id))
            (fun other => { other with status := .superseded })
            tables.messages } row
      return (row, written)

end Messages

/-! ## Generations -/

section Generations

variable (env : ChatEnvironment)

/-- A request to start a generation. -/
structure StartRequest where
  threadId : Uuid
  userMessageId : Uuid
  owner : Owner
  idempotencyKey : List Char
  retryOfMessageId : Option Uuid
  newId : Uuid

def requestedGeneration (tables : ChatTables) (threadId : Uuid)
    (key : List Char) : Option GenerationRow :=
  tables.generations.find? fun generation =>
    decide (generation.threadId = threadId ∧ generation.idempotencyKey = key)

/-- `INSERT … ON CONFLICT DO NOTHING` under `uq_chat_generation_request`. -/
def insertGeneration (tables : ChatTables) (row : GenerationRow) :
    Except ChatFault ChatTables :=
  if isIdempotencyKey row.idempotencyKey = false then .error .integrity
  else
    match requestedGeneration tables row.threadId row.idempotencyKey with
    | some _ => .ok tables
    | none =>
        if ∃ other ∈ tables.generations, other.id = row.id then
          .error .integrity
        else .ok { tables with generations := tables.generations ++ [row] }

/-- The answer that a request retries answers the question it asks. -/
def checkRetry (tables : ChatTables) (request : StartRequest) :
    Except ChatFault Unit :=
  match request.retryOfMessageId with
  | some retryOf => do
      let retry ← messageRow tables request.owner request.threadId retryOf
      if retry.role ≠ .assistant ∨
          retry.parentMessageId ≠ some request.userMessageId then
        throw (.code "CHAT_RETRY_NOT_ALLOWED")
  | none => pure ()

def startChatGeneration (tables : ChatTables) (request : StartRequest) :
    Except ChatFault (GenerationRow × ChatTables) := do
  let thread ← threadRow tables request.threadId request.owner
  let question ← messageRow tables request.owner request.threadId
    request.userMessageId
  let _ ← checkRetry tables request
  if question.role ≠ .user ∨ ¬(question.status = .completed ∨
      request.retryOfMessageId.isSome = true ∧
        question.status = .superseded) then
    throw (.code "CHAT_GENERATION_INPUT_INVALID")
  let written ← insertGeneration tables
    { id := request.newId
      threadId := request.threadId
      owner := request.owner
      userMessageId := request.userMessageId
      responseMessageId := none
      retryOfMessageId := request.retryOfMessageId
      idempotencyKey := request.idempotencyKey
      status := .queued
      errorCode := none
      modelProfile := thread.profile
      trace := none
      startedAt := none
      stopRequestedAt := none
      completedAt := none }
  match requestedGeneration written request.threadId
      request.idempotencyKey with
  | none => throw (.code "CHAT_GENERATION_CREATE_FAILED")
  | some generation =>
      if generation.owner ≠ request.owner then
        throw (.code "CHAT_GENERATION_CREATE_FAILED")
      if generation.userMessageId ≠ request.userMessageId ∨
          generation.retryOfMessageId ≠ request.retryOfMessageId then
        throw (.code "CHAT_IDEMPOTENCY_CONFLICT")
      return (generation, written)

def stopChatGeneration (tables : ChatTables) (generationId : Uuid)
    (owner : Owner) (now : DateTime) :
    Except ChatFault (GenerationRow × ChatTables) := do
  let generation ← generationRow tables owner generationId
  match generation.status with
  | .queued | .streaming =>
      let stopped := { generation with
        status := .stopped
        stopRequestedAt := some now
        completedAt := some now }
      return (stopped, tables.withGeneration generation.id fun _ => stopped)
  | .stopped => return (generation, tables)
  | .completed | .failed => throw (.code "GENERATION_ALREADY_TERMINAL")

def markChatGenerationStreaming (tables : ChatTables) (generationId : Uuid)
    (owner : Owner) (now : DateTime) :
    Except ChatFault (GenerationRow × ChatTables) := do
  let generation ← generationRow tables owner generationId
  match generation.status with
  | .queued =>
      let streaming := { generation with
        status := .streaming
        startedAt := some now }
      return (streaming, tables.withGeneration generation.id fun _ => streaming)
  | .streaming | .completed => return (generation, tables)
  | .stopped | .failed => throw (.code "GENERATION_ALREADY_TERMINAL")

/-- `[A-Z][A-Z0-9_]{2,63}`. -/
def isErrorCode : List Char → Bool
  | [] => false
  | first :: rest =>
      first.isUpper && decide (2 ≤ rest.length ∧ rest.length ≤ 63) &&
        rest.all fun character =>
          character.isUpper || character.isDigit || decide (character = '_')

def failChatGeneration (tables : ChatTables) (generationId : Uuid)
    (owner : Owner) (errorCode : List Char) (now : DateTime) :
    Except ChatFault (GenerationRow × ChatTables) := do
  if isErrorCode errorCode = false then
    throw (.code "CHAT_GENERATION_ERROR_CODE_INVALID")
  let generation ← generationRow tables owner generationId
  match generation.status with
  | .failed => return (generation, tables)
  | .queued | .streaming =>
      let failed := { generation with
        status := .failed
        errorCode := some errorCode
        completedAt := some now }
      return (failed, tables.withGeneration generation.id fun _ => failed)
  | .completed | .stopped => throw (.code "GENERATION_ALREADY_TERMINAL")

def integratedChatScope : GuideScope :=
  { guideId := "secai-integrated-security-guides"
    guideVersion := "2026-08-06"
    scopeId := "integrated-all" }

/-- `_indexed_citations`, of the citations from a position on. -/
def indexedCitations (position : Nat) (seen : List Nat) :
    List ChatCitation → Except ChatFault (List (Nat × ChatCitation))
  | [] => .ok []
  | citation :: rest =>
      -- The ordinal 0 counts as a missing one.
      let ordinal := (citation.ordinal.filter (· ≠ 0)).getD position
      if ordinal ∈ seen then .error (.code "CITATION_ORDINAL_DUPLICATE")
      else
        match indexedCitations (position + 1) (ordinal :: seen) rest with
        | .ok indexed => .ok ((ordinal, citation) :: indexed)
        | .error fault => .error fault

/-- A request to complete a generation. -/
structure CompleteRequest where
  generationId : Uuid
  owner : Owner
  content : List Char
  citations : List ChatCitation
  trace : GenerationTrace
  newId : Uuid
  newCitationIds : List Uuid
  now : DateTime

def citationAllowed (owner : Owner) (thread : ThreadRow)
    (citation : ChatCitation) : Bool :=
  if thread.guide = integratedChatScope then
    env.integratedCitationAllowed owner citation
  else decide (citation.guide = thread.guide)

def completeChatGeneration (tables : ChatTables) (request : CompleteRequest) :
    Except ChatFault (MessageRow × ChatTables) := do
  let generation ← generationRow tables request.owner request.generationId
  match generation.status with
  | .completed =>
      match generation.responseMessageId with
      | none => throw (.code "CHAT_GENERATION_INCONSISTENT")
      | some responseId =>
          let response ← messageRow tables request.owner generation.threadId
            responseId
          return (response, tables)
  | .stopped | .failed => throw (.code "GENERATION_ALREADY_TERMINAL")
  | .queued | .streaming =>
      let thread ← threadRow tables generation.threadId request.owner
      let normalized ← normalizedContent request.content
      if request.citations.all (citationAllowed env request.owner thread) =
          false then
        throw (.code "CITATION_SCOPE_MISMATCH")
      let indexed ← indexedCitations 1 [] request.citations
      let question ← messageRow tables request.owner generation.threadId
        generation.userMessageId
      let response : MessageRow :=
        { id := request.newId
          threadId := generation.threadId
          owner := request.owner
          branchId := question.branchId
          role := .assistant
          status := .completed
          revision := 1
          parentMessageId := some question.id
          editOfMessageId := none
          retryOfMessageId := generation.retryOfMessageId
          requestIdempotencyKey := none
          content := normalized
          contentSha256 := messageHash env .assistant normalized 1
            (some question.id) }
      let written ← insertMessage tables response
      let cited := (request.newCitationIds.zip indexed).map
        fun (id, ordinal, citation) =>
          ({ id := id
             messageId := response.id
             threadId := generation.threadId
             owner := request.owner
             ordinal := ordinal
             citation := citation } : CitationRow)
      let completed := { generation with
        responseMessageId := some response.id
        trace := some request.trace
        status := .completed
        completedAt := some request.now }
      return (response, {
        written.withGeneration generation.id fun _ => completed with
        citations := tables.citations ++ cited })

end Generations

end SecAI.Chat
