import ShirohaChat.Lib.RowTable
import ShirohaChat.Shared.Domain

/-!
# Friend requests on the client

`FriendRequestUseCase` with the table `friend_requests` of `FriendRepository`
and the list it shows.  The list handler and the notification handler save a
request they have just built, whose status is `Pending`, over the stored one.
-/

set_option autoImplicit false

namespace ShirohaChat

/-! ## The repository -/

structure LocalFriendRequestRow where
  requestId : String
  fromUserId : String
  toUserId : String
  message : String
  status : String
  createdAt : String
  handledAt : String
  deriving DecidableEq

abbrev LocalFriendRequestTable :=
  RowTable LocalFriendRequestRow String LocalFriendRequestRow.requestId

def friendRequestStatusToString : FriendRequestStatus → String
  | .pending => "pending"
  | .accepted => "accepted"
  | .rejected => "rejected"
  | .cancelled => "cancelled"

def stringToFriendRequestStatus (str : String) : FriendRequestStatus :=
  if str = "accepted" then .accepted
  else if str = "rejected" then .rejected
  else if str = "cancelled" then .cancelled
  else .pending

theorem stringToFriendRequestStatus_toString (status : FriendRequestStatus) :
    stringToFriendRequestStatus (friendRequestStatusToString status) = status := by
  cases status <;> decide

def LocalFriendRequestRow.toRequest (row : LocalFriendRequestRow) : FriendRequest :=
  ⟨row.requestId, row.fromUserId, row.toUserId, row.message,
    stringToFriendRequestStatus row.status, row.createdAt, row.handledAt⟩

def FriendRequest.toRow (request : FriendRequest) : LocalFriendRequestRow :=
  ⟨request.requestId, request.fromUserId, request.toUserId, request.message,
    friendRequestStatusToString request.status, request.createdAt, request.handledAt⟩

namespace LocalFriendRequestTable

variable (table : LocalFriendRequestTable)

/-- `FriendRepository::load`; an `ok` is false where the database is not open or
the statement fails. -/
def load (ok : Bool) (requestId : String) : Option FriendRequest :=
  if ¬ ok ∨ requestId = "" then none
  else (table.find? requestId).map LocalFriendRequestRow.toRequest

/-- `FriendRepository::save`; a stored row takes over status and handling date. -/
def save (ok : Bool) (request : FriendRequest) : LocalFriendRequestTable :=
  if ¬ ok ∨ request.requestId = "" then table
  else
    table.upsert request.toRow
      (fun old => { old with
        status := request.toRow.status
        handledAt := request.toRow.handledAt })
      fun _ => rfl

def statusOf (requestId : String) : Option String :=
  (table.find? requestId).map LocalFriendRequestRow.status

theorem statusOf_save (ok : Bool) (request : FriendRequest) (requestId : String) :
    (table.save ok request).statusOf requestId =
      if (ok = true ∧ requestId ≠ "") ∧ requestId = request.requestId then
        some (friendRequestStatusToString request.status)
      else table.statusOf requestId := by
  unfold save
  by_cases ignored : ¬ ok ∨ request.requestId = ""
  · rw [if_pos ignored, if_neg]
    rintro ⟨⟨executed, named⟩, rfl⟩
    rcases ignored with closed | unnamed
    · exact closed executed
    · exact named unnamed
  · have sameId : request.toRow.requestId = request.requestId := rfl
    rw [if_neg ignored, statusOf, RowTable.find?_upsert, sameId]
    rw [not_or, not_not] at ignored
    by_cases same : requestId = request.requestId
    · rw [if_pos same, if_pos ⟨⟨ignored.1, same ▸ ignored.2⟩, same⟩]
      cases table.find? requestId <;> rfl
    · rw [if_neg same, if_neg fun both => same both.2]
      rfl

end LocalFriendRequestTable

/-! ## The use case -/

structure FriendRequestDto where
  requestId : String
  fromUserId : String
  fromUserName : String
  toUserId : String
  toUserName : String
  message : String
  status : String
  createdAt : String
  deriving DecidableEq

inductive FriendActionError where
  | none
  | networkError
  deriving DecidableEq, Repr

inductive FriendRequestSignal where
  | friendRequestListChanged
  | friendActionResult (error : FriendActionError)
  | friendRequestReceived (requestId fromUserId message createdAt : String)

structure FriendRequestUseCase where
  friendRequests : LocalFriendRequestTable := RowTable.empty
  friendRequestList : List FriendRequestDto := []
  signals : List FriendRequestSignal := []

structure FriendRun where
  loaded : Bool := true
  saved : Bool := true
  selfUserId : String
  now : String

/-- Operations other than the two leave the request alone. -/
def FriendRequest.applyDecision (request : FriendRequest) (operation actorId now : String) :
    FriendRequest :=
  if operation = "accept" then (request.accept actorId now).1
  else if operation = "reject" then (request.reject actorId now).1
  else request

@[simp] theorem FriendRequest.applyDecision_requestId (request : FriendRequest)
    (operation actorId now : String) :
    (request.applyDecision operation actorId now).requestId = request.requestId := by
  unfold applyDecision
  split
  · exact request.accept_requestId actorId now
  · split
    · exact request.reject_requestId actorId now
    · rfl

theorem FriendRequest.applyDecision_decided {request : FriendRequest}
    (decided : request.status ≠ .pending) (operation actorId now : String) :
    request.applyDecision operation actorId now = request := by
  obtain ⟨accepts, rejects⟩ := decided_stays decided actorId now
  unfold applyDecision
  rw [accepts, rejects, ite_self, ite_self]

/-- The text of a decided row survives being loaded and saved. -/
theorem LocalFriendRequestRow.toRequest_decided {row : LocalFriendRequestRow}
    (decided : row.status = "accepted" ∨ row.status = "rejected") :
    row.toRequest.status ≠ .pending ∧
      friendRequestStatusToString row.toRequest.status = row.status := by
  rcases decided with accepted | rejected
  · have same : row.toRequest.status = .accepted := by
      rw [toRequest, accepted]
      rfl
    rw [same, accepted]
    exact ⟨nofun, rfl⟩
  · have same : row.toRequest.status = .rejected := by
      rw [toRequest, rejected]
      rfl
    rw [same, rejected]
    exact ⟨nofun, rfl⟩

namespace FriendRequestUseCase

variable (client : FriendRequestUseCase)

def emit (signal : FriendRequestSignal) : FriendRequestUseCase :=
  { client with signals := client.signals ++ [signal] }

def saveListed (saved : String → Bool) (dto : FriendRequestDto) : FriendRequestUseCase :=
  if dto.requestId ≠ "" then
    { client with friendRequests := client.friendRequests.save (saved dto.requestId) {
        requestId := dto.requestId
        fromUserId := dto.fromUserId
        toUserId := dto.toUserId
        message := dto.message
        createdAt := dto.createdAt } }
  else client

def friendRequestListLoaded (saved : String → Bool) (requests : List FriendRequestDto) :
    FriendRequestUseCase :=
  let stored := requests.foldl (fun client dto => client.saveListed saved dto) client
  { stored with friendRequestList := requests }.emit .friendRequestListChanged

def friendRequestAck (run : FriendRun) (success : Bool) (requestId toUserId : String) :
    FriendRequestUseCase :=
  let stored :=
    if success ∧ requestId ≠ "" then
      if (client.friendRequests.load run.loaded requestId).isNone ∧ run.selfUserId ≠ "" ∧
          toUserId ≠ "" then
        { client with friendRequests := client.friendRequests.save run.saved {
            requestId := requestId
            fromUserId := run.selfUserId
            toUserId := toUserId
            message := ""
            createdAt := run.now } }
      else client
    else client
  stored.emit (.friendActionResult (if success then .none else .networkError))

def dropListed (requestId : String) : FriendRequestUseCase :=
  if client.friendRequestList.any fun dto => dto.requestId = requestId then
    { client with friendRequestList :=
        client.friendRequestList.eraseP fun dto => dto.requestId = requestId }.emit
      .friendRequestListChanged
  else client

def friendDecisionAck (run : FriendRun) (operation : String) (success : Bool)
    (requestId : String) : FriendRequestUseCase :=
  if ¬ success ∨ requestId = "" then
    if ¬ success then client.emit (.friendActionResult .networkError) else client
  else
    let stored :=
      match client.friendRequests.load run.loaded requestId with
      | none => client
      | some loaded =>
          let decided := loaded.applyDecision operation run.selfUserId run.now
          { client with friendRequests := client.friendRequests.save run.saved decided }
    (stored.emit (.friendActionResult .none)).dropListed requestId

/-- `createdAt` is the packet's date where it can be parsed, empty otherwise. -/
def friendRequestNotified (run : FriendRun) (requestId fromUserId message createdAt : String) :
    FriendRequestUseCase :=
  if requestId = "" then client
  else if client.friendRequestList.any fun dto => dto.requestId = requestId then client
  else
    let stored := { client with
      friendRequests := client.friendRequests.save run.saved {
        requestId := requestId
        fromUserId := fromUserId
        toUserId := run.selfUserId
        message := message
        createdAt := createdAt }
      friendRequestList := ⟨requestId, fromUserId, "", run.selfUserId, "", message, "pending",
        createdAt⟩ :: client.friendRequestList }
    (stored.emit .friendRequestListChanged).emit
      (.friendRequestReceived requestId fromUserId message createdAt)

/-- The list is cleared where the request for it cannot be sent. -/
def loadFriendRequests (sent : Bool) : FriendRequestUseCase :=
  if ¬ sent then { client with friendRequestList := [] }.emit .friendRequestListChanged
  else client

end FriendRequestUseCase

/-! ## Runs -/

inductive FriendRequestEvent where
  | listLoaded (saved : String → Bool) (requests : List FriendRequestDto)
  | requestAck (run : FriendRun) (success : Bool) (requestId toUserId : String)
  | decisionAck (run : FriendRun) (operation : String) (success : Bool) (requestId : String)
  | notified (run : FriendRun) (requestId fromUserId message createdAt : String)
  | loadRequests (sent : Bool)

namespace FriendRequestEvent

def next (client : FriendRequestUseCase) : FriendRequestEvent → FriendRequestUseCase
  | .listLoaded saved requests => client.friendRequestListLoaded saved requests
  | .requestAck run success requestId toUserId =>
      client.friendRequestAck run success requestId toUserId
  | .decisionAck run operation success requestId =>
      client.friendDecisionAck run operation success requestId
  | .notified run requestId fromUserId message createdAt =>
      client.friendRequestNotified run requestId fromUserId message createdAt
  | .loadRequests sent => client.loadFriendRequests sent

end FriendRequestEvent

namespace FriendRequestUseCase

def statusOf (client : FriendRequestUseCase) (requestId : String) : Option String :=
  client.friendRequests.statusOf requestId

def after (client : FriendRequestUseCase) (events : List FriendRequestEvent) :
    FriendRequestUseCase := events.foldl FriendRequestEvent.next client

def Decided (client : FriendRequestUseCase) (requestId : String) : Prop :=
  client.statusOf requestId = some "accepted" ∨ client.statusOf requestId = some "rejected"

end FriendRequestUseCase

structure KeepsDecisions (client : FriendRequestUseCase) (events : List FriendRequestEvent) :
    Prop where
  lists : ∀ front saved requests back, events = front ++ .listLoaded saved requests :: back →
    ∀ dto ∈ requests, dto.requestId ≠ "" →
      (client.after (front ++ [.listLoaded saved requests])).statusOf dto.requestId =
        some dto.status
  decided : ∀ front middle back, events = front ++ middle ++ back → ∀ requestId,
    (client.after front).Decided requestId →
      (client.after (front ++ middle)).statusOf requestId ≠ some "pending"

/-- The step saves no request that has been decided, and a list names the
statuses that will be stored. -/
def FriendRequestEvent.Harmless (client : FriendRequestUseCase) : FriendRequestEvent → Prop
  | .listLoaded saved requests => ∀ dto ∈ requests, dto.requestId ≠ "" →
      if saved dto.requestId then dto.status = "pending" ∧ ¬ client.Decided dto.requestId
      else client.statusOf dto.requestId = some dto.status
  | .requestAck run success requestId toUserId =>
      (success = true ∧ requestId ≠ "" ∧ run.selfUserId ≠ "" ∧ toUserId ≠ "" ∧
        run.loaded = false ∧ run.saved = true) → ¬ client.Decided requestId
  | .decisionAck _ _ _ _ => True
  | .notified run requestId _ _ _ =>
      (requestId ≠ "" ∧ run.saved = true ∧
        ∀ dto ∈ client.friendRequestList, dto.requestId ≠ requestId) → ¬ client.Decided requestId
  | .loadRequests _ => True

namespace FriendRequestUseCase

variable (client : FriendRequestUseCase)

theorem statusOf_saveAll (saved : String → Bool) (requestId : String)
    (requests : List FriendRequestDto) :
    ∀ client : FriendRequestUseCase,
      (requests.foldl (fun client dto => client.saveListed saved dto) client).statusOf requestId =
        if (saved requestId = true ∧ requestId ≠ "") ∧
            requestId ∈ requests.map FriendRequestDto.requestId then some "pending"
        else client.statusOf requestId := by
  induction requests with
  | nil =>
      intro client
      simp
  | cons dto rest ih =>
      intro client
      have first : (client.saveListed saved dto).statusOf requestId =
          if (saved requestId = true ∧ requestId ≠ "") ∧ requestId = dto.requestId then
            some "pending" else client.statusOf requestId := by
        unfold saveListed
        by_cases named : dto.requestId ≠ ""
        · rw [if_pos named]
          refine (LocalFriendRequestTable.statusOf_save _ _ _ _).trans ?_
          by_cases own : requestId = dto.requestId
          · rw [own]
            rfl
          · rw [if_neg fun both => own both.2, if_neg fun both => own both.2]
            rfl
        · rw [if_neg named, if_neg]
          rintro ⟨⟨_, nonempty⟩, rfl⟩
          exact named nonempty
      rw [List.foldl_cons, ih, first, List.map_cons]
      by_cases own : requestId = dto.requestId
      · by_cases stored : saved requestId = true ∧ requestId ≠ ""
        · rw [if_pos (And.intro stored own), ite_self,
            if_pos ⟨stored, List.mem_cons.mpr (Or.inl own)⟩]
        · rw [if_neg fun both => stored both.1, if_neg fun both => stored both.1,
            if_neg fun both => stored both.1]
      · simp [own]

theorem statusOf_friendRequestListLoaded (saved : String → Bool) (requests : List FriendRequestDto)
    (requestId : String) :
    (client.friendRequestListLoaded saved requests).statusOf requestId =
      if (saved requestId = true ∧ requestId ≠ "") ∧
          requestId ∈ requests.map FriendRequestDto.requestId then some "pending"
      else client.statusOf requestId :=
  statusOf_saveAll saved requestId requests client

theorem statusOf_friendRequestAck (run : FriendRun) (success : Bool)
    (requestId toUserId other : String) :
    (client.friendRequestAck run success requestId toUserId).statusOf other =
      if (run.saved = true ∧ other = requestId) ∧ (success = true ∧ requestId ≠ "") ∧
          (client.friendRequests.load run.loaded requestId).isNone = true ∧
          run.selfUserId ≠ "" ∧ toUserId ≠ "" then some "pending"
      else client.statusOf other := by
  unfold friendRequestAck
  by_cases accepted : success = true ∧ requestId ≠ ""
  · rw [if_pos accepted]
    by_cases unknown : (client.friendRequests.load run.loaded requestId).isNone = true ∧
        run.selfUserId ≠ "" ∧ toUserId ≠ ""
    · rw [if_pos unknown]
      refine (LocalFriendRequestTable.statusOf_save _ _ _ _).trans ?_
      by_cases own : run.saved = true ∧ other = requestId
      · rw [if_pos ⟨⟨own.1, own.2 ▸ accepted.2⟩, own.2⟩, if_pos ⟨own, accepted, unknown⟩]
        rfl
      · rw [if_neg fun both => own ⟨both.1.1, both.2⟩, if_neg fun all => own all.1]
        rfl
    · rw [if_neg unknown]
      exact (if_neg fun all => unknown all.2.2).symm
  · rw [if_neg accepted]
    exact (if_neg fun all => accepted all.2.1).symm

theorem statusOf_dropListed (requestId other : String) :
    (client.dropListed requestId).statusOf other = client.statusOf other := by
  unfold dropListed
  split <;> rfl

theorem statusOf_friendDecisionAck {requestId other : String} (run : FriendRun)
    (operation : String) (success : Bool) (decided : client.Decided other) :
    (client.friendDecisionAck run operation success requestId).statusOf other =
      client.statusOf other := by
  unfold friendDecisionAck
  by_cases refused : ¬ success ∨ requestId = ""
  · rw [if_pos refused]
    split <;> rfl
  rw [if_neg refused]
  simp only
  rw [statusOf_dropListed]
  cases found : client.friendRequests.load run.loaded requestId with
  | none => rfl
  | some loaded =>
      have isLoaded : ∃ row, client.friendRequests.find? requestId = some row ∧
          row.toRequest = loaded := by
        unfold LocalFriendRequestTable.load at found
        split at found
        · cases found
        · exact Option.map_eq_some_iff.mp found
      obtain ⟨row, stored, rfl⟩ := isLoaded
      have ownId : row.requestId = requestId := ((RowTable.find?_eq_some _ _ _).mp stored).2
      refine (LocalFriendRequestTable.statusOf_save _ _ _ _).trans ?_
      rw [FriendRequest.applyDecision_requestId]
      by_cases own : (run.saved = true ∧ other ≠ "") ∧ other = row.toRequest.requestId
      · have status : client.statusOf other = some row.status := by
          rw [statusOf, LocalFriendRequestTable.statusOf, own.2.trans ownId, stored]
          rfl
        have isDecided : row.status = "accepted" ∨ row.status = "rejected" := by
          unfold Decided at decided
          rw [status] at decided
          exact decided.imp Option.some.inj Option.some.inj
        obtain ⟨notPending, sameText⟩ := LocalFriendRequestRow.toRequest_decided isDecided
        rw [if_pos own, FriendRequest.applyDecision_decided notPending, sameText, status]
      · rw [if_neg own]
        rfl

theorem statusOf_friendRequestNotified (run : FriendRun)
    (requestId fromUserId message createdAt other : String) :
    (client.friendRequestNotified run requestId fromUserId message createdAt).statusOf other =
      if (run.saved = true ∧ other = requestId) ∧ requestId ≠ "" ∧
          ∀ dto ∈ client.friendRequestList, dto.requestId ≠ requestId then some "pending"
      else client.statusOf other := by
  unfold friendRequestNotified
  by_cases unnamed : requestId = ""
  · rw [if_pos unnamed, if_neg fun all => all.2.1 unnamed]
  rw [if_neg unnamed]
  by_cases listed : (client.friendRequestList.any fun dto => dto.requestId = requestId) = true
  · rw [if_pos listed, if_neg]
    rintro ⟨_, _, unlisted⟩
    obtain ⟨dto, dtoIn, isId⟩ := List.any_eq_true.mp listed
    exact unlisted dto dtoIn (of_decide_eq_true isId)
  · rw [if_neg listed]
    have unlisted : ∀ dto ∈ client.friendRequestList, dto.requestId ≠ requestId := by
      intro dto dtoIn isId
      exact listed (List.any_eq_true.mpr ⟨dto, dtoIn, decide_eq_true isId⟩)
    refine (LocalFriendRequestTable.statusOf_save _ _ _ _).trans ?_
    by_cases own : run.saved = true ∧ other = requestId
    · rw [if_pos ⟨⟨own.1, own.2 ▸ unnamed⟩, own.2⟩, if_pos ⟨own, unnamed, unlisted⟩]
      rfl
    · rw [if_neg fun both => own ⟨both.1.1, both.2⟩, if_neg fun both => own both.1]
      rfl

theorem Decided.statusOf_ne {client : FriendRequestUseCase} {requestId : String}
    (decided : client.Decided requestId) : client.statusOf requestId ≠ some "pending" := by
  rcases decided with accepted | rejected
  · rw [accepted]
    decide
  · rw [rejected]
    decide

theorem Decided.load {client : FriendRequestUseCase} {requestId : String}
    (decided : client.Decided requestId) (named : requestId ≠ "") (ok : Bool) :
    (client.friendRequests.load ok requestId).isNone = true ↔ ok = false := by
  unfold LocalFriendRequestTable.load
  cases ok with
  | false => simp
  | true =>
      cases found : client.friendRequests.find? requestId with
      | none =>
          rw [FriendRequestUseCase.Decided, statusOf, LocalFriendRequestTable.statusOf,
            found] at decided
          simp at decided
      | some row => simp [named]

theorem decided_next {client : FriendRequestUseCase} {event : FriendRequestEvent}
    (harmless : event.Harmless client) {requestId : String}
    (decided : client.Decided requestId) :
    (event.next client).statusOf requestId = client.statusOf requestId := by
  cases event with
  | listLoaded saved requests =>
      rw [FriendRequestEvent.next, statusOf_friendRequestListLoaded, if_neg]
      rintro ⟨⟨executed, named⟩, listed⟩
      obtain ⟨dto, dtoIn, rfl⟩ := List.mem_map.mp listed
      have pending := harmless dto dtoIn named
      rw [if_pos executed] at pending
      exact pending.2 decided
  | requestAck run success ackId toUserId =>
      rw [FriendRequestEvent.next, statusOf_friendRequestAck, if_neg]
      rintro ⟨⟨executed, rfl⟩, ⟨accepted, named⟩, unknown, self, target⟩
      have unread := (decided.load named run.loaded).mp unknown
      exact harmless ⟨accepted, named, self, target, unread, executed⟩ decided
  | decisionAck run operation success ackId =>
      exact client.statusOf_friendDecisionAck run operation success decided
  | notified run noticeId fromUserId message createdAt =>
      rw [FriendRequestEvent.next, statusOf_friendRequestNotified, if_neg]
      rintro ⟨⟨executed, rfl⟩, named, unlisted⟩
      exact harmless ⟨named, executed, unlisted⟩ decided
  | loadRequests sent =>
      rw [FriendRequestEvent.next, loadFriendRequests]
      split <;> rfl

theorem statusOf_listed {client : FriendRequestUseCase} {saved : String → Bool}
    {requests : List FriendRequestDto}
    (harmless : FriendRequestEvent.Harmless client (.listLoaded saved requests))
    {dto : FriendRequestDto} (listed : dto ∈ requests) (named : dto.requestId ≠ "") :
    (client.friendRequestListLoaded saved requests).statusOf dto.requestId = some dto.status := by
  have sent := harmless dto listed named
  rw [statusOf_friendRequestListLoaded]
  by_cases executed : saved dto.requestId = true
  · rw [if_pos executed] at sent
    rw [if_pos ⟨⟨executed, named⟩, List.mem_map.mpr ⟨dto, listed, rfl⟩⟩, sent.1]
  · rw [if_neg executed] at sent
    rw [if_neg fun both => executed both.1.1, sent]

/-- A step that is not harmless breaks one of the two properties. -/
theorem harmless_of_keeps {client : FriendRequestUseCase} {event : FriendRequestEvent}
    (lists : ∀ saved requests, event = .listLoaded saved requests → ∀ dto ∈ requests,
      dto.requestId ≠ "" → (event.next client).statusOf dto.requestId = some dto.status)
    (kept : ∀ requestId, client.Decided requestId →
      (event.next client).statusOf requestId ≠ some "pending") : event.Harmless client := by
  cases event with
  | listLoaded saved requests =>
      intro dto listed named
      have stored := lists saved requests rfl dto listed named
      rw [FriendRequestEvent.next, statusOf_friendRequestListLoaded] at stored
      by_cases executed : saved dto.requestId = true
      · have isSaved : (saved dto.requestId = true ∧ dto.requestId ≠ "") ∧
            dto.requestId ∈ requests.map FriendRequestDto.requestId :=
          ⟨⟨executed, named⟩, List.mem_map.mpr ⟨dto, listed, rfl⟩⟩
        rw [if_pos isSaved] at stored
        rw [if_pos executed]
        refine ⟨(Option.some.inj stored).symm, ?_⟩
        intro decided
        apply kept dto.requestId decided
        rw [FriendRequestEvent.next, statusOf_friendRequestListLoaded, if_pos isSaved]
      · rw [if_neg fun both => executed both.1.1] at stored
        rw [if_neg executed]
        exact stored
  | requestAck run success ackId toUserId =>
      rintro ⟨accepted, named, self, target, unread, executed⟩ decided
      apply kept ackId decided
      have unknown := (decided.load named run.loaded).mpr unread
      rw [FriendRequestEvent.next, statusOf_friendRequestAck,
        if_pos ⟨⟨executed, rfl⟩, ⟨accepted, named⟩, unknown, self, target⟩]
  | decisionAck run operation success ackId => trivial
  | notified run noticeId fromUserId message createdAt =>
      rintro ⟨named, executed, unlisted⟩ decided
      apply kept noticeId decided
      rw [FriendRequestEvent.next, statusOf_friendRequestNotified,
        if_pos ⟨⟨executed, rfl⟩, named, unlisted⟩]
  | loadRequests sent => trivial

theorem after_append (front back : List FriendRequestEvent) :
    client.after (front ++ back) = (client.after front).after back :=
  List.foldl_append

def HarmlessRun (events : List FriendRequestEvent) : Prop :=
  ∀ front event back, events = front ++ event :: back → event.Harmless (client.after front)

theorem decided_after {client : FriendRequestUseCase} (events : List FriendRequestEvent)
    {requestId : String} (decided : client.Decided requestId)
    (harmless : client.HarmlessRun events) :
    (client.after events).statusOf requestId = client.statusOf requestId := by
  induction events generalizing client with
  | nil => rfl
  | cons event rest ih =>
      have same : (event.next client).statusOf requestId = client.statusOf requestId :=
        decided_next (harmless [] event rest rfl) decided
      have stays : (event.next client).Decided requestId := by
        unfold Decided
        rw [same]
        exact decided
      refine (ih stays ?_).trans same
      intro front other back split
      exact harmless (event :: front) other back (congrArg (event :: ·) split)

end FriendRequestUseCase

open FriendRequestUseCase in
/-- A run keeps the server's statuses and all decisions exactly when every step
of it is harmless. -/
theorem keepsDecisions_iff (client : FriendRequestUseCase) (events : List FriendRequestEvent) :
    KeepsDecisions client events ↔ client.HarmlessRun events := by
  constructor
  · rintro ⟨lists, decided⟩ front event back split
    have oneStep : (client.after front).after [event] = event.next (client.after front) := rfl
    apply harmless_of_keeps
    · rintro saved requests rfl dto listed named
      have stored := lists front saved requests back split dto listed named
      rw [after_append] at stored
      exact stored
    · intro requestId isDecided
      have kept := decided front [event] back (by rw [split, List.append_assoc]; rfl) requestId
        isDecided
      rw [after_append] at kept
      exact kept
  · intro harmless
    constructor
    · rintro front saved requests back split dto listed named
      rw [after_append]
      exact statusOf_listed (harmless front _ back split) listed named
    · intro front middle back split requestId isDecided
      rw [after_append, decided_after middle isDecided]
      · exact isDecided.statusOf_ne
      · intro before event rest inMiddle
        have whole : events = (front ++ before) ++ event :: (rest ++ back) := by
          rw [split, inMiddle]
          simp
        rw [← after_append]
        exact harmless (front ++ before) event (rest ++ back) whole

/-- Bob's client is told of Alice's request, Bob accepts it, and the list is
loaded again after the next login. -/
def bobAcceptsAlice : List FriendRequestEvent :=
  [.notified { selfUserId := "bob", now := "" } "r1" "alice" "hi" "2026-01-01T00:00:00Z",
    .decisionAck { selfUserId := "bob", now := "2026-01-01T00:01:00Z" } "accept" true "r1",
    .listLoaded (fun _ => true) [⟨"r1", "alice", "Alice", "bob", "Bob", "hi", "accepted",
      "2026-01-01T00:00:00Z"⟩]]

/-- The server sends the request as accepted, and it is stored as pending. -/
theorem acceptedRequest_pendingAgain :
    ¬ ∀ events : List FriendRequestEvent, KeepsDecisions {} events := by
  intro always
  have stored := (always bobAcceptsAlice).lists bobAcceptsAlice.dropLast
    _ _ [] rfl _ List.mem_cons_self (by decide)
  exact absurd stored (by decide)

end ShirohaChat
