import ShirohaChat.Server.OfflineDelivery

/-!
# What becomes of every loaded row

A scan of the loaded rows says what each of them holds; the delivery loop
follows it up to the first packet that the router refuses.  The rows before it
are removed or remembered, the others are left alone.
-/

set_option autoImplicit false

namespace ShirohaChat

/-! ## The scan -/

inductive RowOutcome where
  | undecodable
  | unnamed
  | repeated
  | received (packet : Packet)
  | notified (packet : Packet)

namespace RowOutcome

def routed : RowOutcome → Option Packet
  | .received packet => some packet
  | .notified packet => some packet
  | _ => none

/-- The message under which a routed row is remembered; the other rows are removed. -/
def remembered : RowOutcome → Option String
  | .received packet => some packet.msgId
  | _ => none

end RowOutcome

section Scan
variable {Text : Type} [JsonDocument Text]

/-- `seen` are the messages of the `receive_message` rows before. -/
def rowOutcome (seen : List String) (packetJson : Text) : RowOutcome :=
  match decode packetJson with
  | .error _ => .undecodable
  | .ok packet =>
      if packet.msgId = "" then .unnamed
      else if packet.cmd = .receiveMessage then
        if packet.msgId ∈ seen then .repeated else .received packet
      else .notified packet

def rowOutcomes : List String → List (Int × Text) → List (Int × RowOutcome)
  | _, [] => []
  | seen, (id, packetJson) :: rest =>
      (id, rowOutcome seen packetJson) ::
        rowOutcomes ((rowOutcome seen packetJson).remembered.toList ++ seen) rest

theorem rowOutcome_of_named {seen : List String} {packetJson : Text} {packet : Packet}
    (decoded : decode packetJson = .ok packet) (named : packet.msgId ≠ "") :
    rowOutcome seen packetJson =
      if packet.cmd = .receiveMessage then
        if packet.msgId ∈ seen then .repeated else .received packet
      else .notified packet := by
  rw [rowOutcome, decoded]
  exact if_neg named

theorem ids_rowOutcomes (rows : List (Int × Text)) : ∀ seen : List String,
    (rowOutcomes seen rows).map Prod.fst = rows.map Prod.fst := by
  induction rows with
  | nil =>
      intro seen
      rfl
  | cons row rest ih =>
      intro seen
      rw [rowOutcomes, List.map_cons, List.map_cons, ih]

theorem remembered_rowOutcome {seen : List String} {packetJson : Text} {msgId : String}
    (remembered : (rowOutcome seen packetJson).remembered = some msgId) :
    msgId ∉ seen ∧ msgId ≠ "" ∧ receiveId packetJson = some msgId := by
  unfold rowOutcome at remembered
  unfold receiveId
  cases decoded : decode packetJson with
  | error problem =>
      rw [decoded] at remembered
      cases remembered
  | ok packet =>
      rw [decoded] at remembered
      simp only at remembered ⊢
      split at remembered
      · cases remembered
      rename_i named
      split at remembered
      · rename_i isReceive
        split at remembered
        · cases remembered
        rename_i isNew
        cases remembered
        exact ⟨isNew, named, if_pos isReceive⟩
      · cases remembered

/-- A remembered message is a new one, and one of a `receive_message` row. -/
theorem remembered_rowOutcomes (rows : List (Int × Text)) :
    ∀ {seen : List String} {row : Int × RowOutcome} {msgId : String},
      row ∈ rowOutcomes seen rows → row.2.remembered = some msgId →
        msgId ∉ seen ∧ msgId ≠ "" ∧ ∃ loaded ∈ rows, receiveId loaded.2 = some msgId := by
  induction rows with
  | nil =>
      intro seen row msgId member
      cases member
  | cons first rest ih =>
      intro seen row msgId member remembered
      rw [rowOutcomes] at member
      rcases List.mem_cons.mp member with rfl | later
      · obtain ⟨isNew, named, isReceive⟩ := remembered_rowOutcome remembered
        exact ⟨isNew, named, first, List.mem_cons_self, isReceive⟩
      · obtain ⟨isNew, named, loaded, loadedIn, isReceive⟩ := ih later remembered
        exact ⟨fun before => isNew (List.mem_append_right _ before), named, loaded,
          List.mem_cons_of_mem _ loadedIn, isReceive⟩

end Scan

/-! ## The loop follows the scan -/

section Follow
variable {Text : Type} [JsonDocument Text]
variable {Router : Type} (route : Router → Packet → Bool × Router)

def logged (state : Router × List (Packet × Bool)) (packet : Packet) :
    Bool × (Router × List (Packet × Bool)) :=
  ((route state.1 packet).1,
    (route state.1 packet).2, state.2 ++ [(packet, (route state.1 packet).1)])

abbrev LoggedLoop (Router : Type) := DeliveryLoop (Router × List (Packet × Bool))

structure RowDone (userId : String) (id : Int) (outcome : RowOutcome)
    (before after : LoggedLoop Router) : Prop where
  calls : after.router.2 = before.router.2 ++ outcome.routed.toList.map fun packet => (packet, true)
  removable : after.removableIds =
    before.removableIds ++ if outcome.remembered = none then [id] else []
  pending : ∀ other msgId, after.offline.pendingId other msgId =
    if other = userId ∧ outcome.remembered = some msgId then some id
    else before.offline.pendingId other msgId

structure RowRefused (outcome : RowOutcome) (before after : LoggedLoop Router) : Prop where
  calls : ∃ packet, outcome.routed = some packet ∧
    after.router.2 = before.router.2 ++ [(packet, false)]
  removable : after.removableIds = before.removableIds
  pending : ∀ other msgId,
    after.offline.pendingId other msgId = before.offline.pendingId other msgId

def Agrees (userId : String) (rows : List (Int × Text)) (seen : List String)
    (offline : OfflineManager) : Prop :=
  ∀ row ∈ rows, ∀ msgId, receiveId row.2 = some msgId → msgId ≠ "" →
    (msgId ∈ seen ↔ offline.pendingId userId msgId ≠ none)

theorem RowDone.removed {userId : String} {id : Int} {outcome : RowOutcome}
    {before after : LoggedLoop Router} (unrouted : outcome.routed = none)
    (forgotten : outcome.remembered = none) (router : after.router = before.router)
    (removable : after.removableIds = before.removableIds ++ [id])
    (pending : ∀ other msgId,
      after.offline.pendingId other msgId = before.offline.pendingId other msgId) :
    RowDone userId id outcome before after := by
  refine ⟨by simp [unrouted, router], by simp [forgotten, removable], ?_⟩
  intro other msgId
  rw [if_neg (by simp [forgotten]), pending]

theorem Agrees.seen_iff {userId : String} {row : Int × Text} {seen : List String}
    {offline : OfflineManager} {packet : Packet} (agrees : Agrees userId [row] seen offline)
    (decoded : decode row.2 = .ok packet) (named : packet.msgId ≠ "")
    (requiresAck : packet.cmd = .receiveMessage) :
    packet.msgId ∈ seen ↔ offline.pendingId userId packet.msgId ≠ none :=
  agrees row (List.mem_singleton_self row) packet.msgId
    ((receiveId_of_decoded decoded).trans (if_pos requiresAck)) named

theorem deliverRow_outcome (userId : String) (seen : List String) (loop : LoggedLoop Router)
    (row : Int × Text) (agrees : Agrees userId [row] seen loop.offline) :
    ((deliverRow (logged route) userId loop row).2 = true ∧
      RowDone userId row.1 (rowOutcome seen row.2) loop
        (deliverRow (logged route) userId loop row).1) ∨
    ((deliverRow (logged route) userId loop row).2 = false ∧
      RowRefused (rowOutcome seen row.2) loop (deliverRow (logged route) userId loop row).1) := by
  have round := deliverRow_round (logged route) userId loop row
  generalize deliverRow (logged route) userId loop row = result at round
  cases round with
  | unreadable decoded =>
      have outcome : rowOutcome seen row.2 = .undecodable := by rw [rowOutcome, decoded]
      rw [outcome]
      exact Or.inl ⟨rfl, .removed rfl rfl rfl rfl fun _ _ => rfl⟩
  | unnamed decoded unnamed =>
      have outcome : rowOutcome seen row.2 = .unnamed := by
        rw [rowOutcome, decoded]
        exact if_pos unnamed
      rw [outcome]
      exact Or.inl ⟨rfl, .removed rfl rfl rfl rfl fun _ _ => rfl⟩
  | duplicate decoded named requiresAck known pending =>
      rw [rowOutcome_of_named decoded named, if_pos requiresAck,
        if_pos ((agrees.seen_iff decoded named requiresAck).mpr known)]
      exact Or.inl ⟨rfl, .removed rfl rfl rfl rfl pending⟩
  | remembered decoded named requiresAck unknown routed pending =>
      have unseen := mt (agrees.seen_iff decoded named requiresAck).mp (not_not.mpr unknown)
      rw [rowOutcome_of_named decoded named, if_pos requiresAck, if_neg unseen]
      simp only [logged] at routed
      refine Or.inl ⟨rfl, ?_, by simp [RowOutcome.remembered], ?_⟩
      · simp [logged, routed, RowOutcome.routed]
      · intro other msgId
        rw [pending]
        simp only [RowOutcome.remembered, Option.some.injEq, eq_comm]
  | passed decoded named other routed =>
      rw [rowOutcome_of_named decoded named, if_neg other]
      simp only [logged] at routed
      refine Or.inl ⟨rfl, by simp [logged, routed, RowOutcome.routed], rfl, ?_⟩
      intro other msgId
      rw [if_neg (by simp [RowOutcome.remembered])]
  | @refused packet offline decoded named unknown refused pending =>
      have outcome : (rowOutcome seen row.2).routed = some packet := by
        rw [rowOutcome_of_named decoded named]
        split
        · rename_i requiresAck
          have unseen := mt (agrees.seen_iff decoded named requiresAck).mp
            (not_not.mpr (unknown requiresAck))
          rw [if_neg unseen]
          rfl
        · rfl
      simp only [logged] at refused
      exact Or.inr ⟨rfl, ⟨packet, outcome, by simp [logged, refused]⟩, rfl, pending⟩

theorem Agrees.done {userId : String} {first : Int × Text} {rest : List (Int × Text)}
    {seen : List String} {before after : LoggedLoop Router} {outcome : RowOutcome}
    (agrees : Agrees userId (first :: rest) seen before.offline)
    (done : RowDone userId first.1 outcome before after) :
    Agrees userId rest (outcome.remembered.toList ++ seen) after.offline := by
  intro row rowIn msgId isReceive named
  have sameMessage := agrees row (List.mem_cons_of_mem _ rowIn) msgId isReceive named
  rw [done.pending, List.mem_append, Option.mem_toList]
  by_cases here : outcome.remembered = some msgId
  · simp [here]
  · rw [if_neg fun both => here both.2, ← sameMessage]
    exact or_iff_right here

def routedCalls (rows : List (Int × RowOutcome)) : List (Packet × Bool) :=
  (rows.filterMap fun row => row.2.routed).map fun packet => (packet, true)

def removedIds (rows : List (Int × RowOutcome)) : List Int :=
  (rows.filter fun row => row.2.remembered = none).map Prod.fst

/-- The calls for the rows before the first refused one, and for that one. -/
def CallsMade (delivered rest : List (Int × RowOutcome)) (calls : List (Packet × Bool)) : Prop :=
  (rest = [] ∧ calls = routedCalls delivered) ∨
    ∃ row later packet, rest = row :: later ∧ row.2.routed = some packet ∧
      calls = routedCalls delivered ++ [(packet, false)]

structure RowsDone (userId : String) (delivered rest : List (Int × RowOutcome))
    (before after : LoggedLoop Router) : Prop where
  calls : ∃ calls, CallsMade delivered rest calls ∧ after.router.2 = before.router.2 ++ calls
  removable : after.removableIds = before.removableIds ++ removedIds delivered
  remembered : ∀ row ∈ delivered, ∀ msgId, row.2.remembered = some msgId →
    after.offline.pendingId userId msgId = some row.1
  kept : ∀ other msgId,
    after.offline.pendingId other msgId = before.offline.pendingId other msgId ∨
      (other = userId ∧ ∃ row ∈ delivered, row.2.remembered = some msgId)

namespace RowsDone

variable {userId : String} {id : Int} {outcome : RowOutcome}
  {delivered rest : List (Int × RowOutcome)} {before middle after : LoggedLoop Router}

theorem refused (stopped : RowRefused outcome before after) :
    RowsDone userId [] ((id, outcome) :: rest) before after := by
  obtain ⟨packet, routed, calls⟩ := stopped.calls
  refine ⟨⟨[(packet, false)], Or.inr ⟨_, rest, packet, rfl, routed, rfl⟩, calls⟩, ?_, ?_, ?_⟩
  · rw [stopped.removable]
    exact (List.append_nil _).symm
  · intro row member
    cases member
  · exact fun other msgId => Or.inl (stopped.pending other msgId)

theorem cons (done : RowDone userId id outcome before middle)
    (later : RowsDone userId delivered rest middle after)
    (fresh : ∀ row ∈ delivered, ∀ msgId, row.2.remembered = some msgId →
      outcome.remembered ≠ some msgId) :
    RowsDone userId ((id, outcome) :: delivered) rest before after := by
  obtain ⟨calls, made, isCalls⟩ := later.calls
  have routed : routedCalls ((id, outcome) :: delivered) =
      (outcome.routed.toList.map fun packet => (packet, true)) ++ routedCalls delivered := by
    unfold routedCalls
    cases isRouted : outcome.routed <;> simp [isRouted]
  have removed : removedIds ((id, outcome) :: delivered) =
      (if outcome.remembered = none then [id] else []) ++ removedIds delivered := by
    unfold removedIds
    by_cases isRemoved : outcome.remembered = none <;> simp [isRemoved]
  refine ⟨⟨(outcome.routed.toList.map fun packet => (packet, true)) ++ calls, ?_, ?_⟩, ?_, ?_, ?_⟩
  · unfold CallsMade
    rw [routed]
    rcases made with ⟨noRest, all⟩ | ⟨row, others, packet, isRest, isRouted, all⟩
    · exact Or.inl ⟨noRest, by rw [all]⟩
    · exact Or.inr ⟨row, others, packet, isRest, isRouted, by rw [all, List.append_assoc]⟩
  · rw [isCalls, done.calls, List.append_assoc]
  · rw [later.removable, done.removable, removed, List.append_assoc]
  · intro row member msgId remembered
    rcases List.mem_cons.mp member with rfl | inRest
    · rcases later.kept userId msgId with same | ⟨_, other, otherIn, again⟩
      · rw [same, done.pending, if_pos ⟨rfl, remembered⟩]
      · exact absurd remembered (fresh other otherIn msgId again)
    · exact later.remembered row inRest msgId remembered
  · intro other msgId
    rcases later.kept other msgId with same | ⟨sameUser, row, rowIn, remembered⟩
    · by_cases here : other = userId ∧ outcome.remembered = some msgId
      · exact Or.inr ⟨here.1, _, List.mem_cons_self, here.2⟩
      · rw [same, done.pending, if_neg here]
        exact Or.inl rfl
    · exact Or.inr ⟨sameUser, row, List.mem_cons_of_mem _ rowIn, remembered⟩

end RowsDone

theorem deliverRows_outcomes (userId : String) (rows : List (Int × Text)) :
    ∀ (seen : List String) (loop : LoggedLoop Router), Agrees userId rows seen loop.offline →
      ∃ delivered rest, rowOutcomes seen rows = delivered ++ rest ∧
        RowsDone userId delivered rest loop (deliverRows (logged route) userId rows loop) := by
  induction rows with
  | nil =>
      intro seen loop _
      refine ⟨[], [], rfl, ⟨[], Or.inl ⟨rfl, rfl⟩, (List.append_nil _).symm⟩, ?_, ?_, ?_⟩
      · exact (List.append_nil _).symm
      · intro row member
        cases member
      · exact fun _ _ => Or.inl rfl
  | cons row later ih =>
      intro seen loop agrees
      have forRow : Agrees userId [row] seen loop.offline := by
        intro other otherIn
        rw [List.mem_singleton.mp otherIn]
        exact agrees row List.mem_cons_self
      rw [deliverRows_cons]
      rcases deliverRow_outcome route userId seen loop row forRow with
        ⟨goesOn, done⟩ | ⟨stops, refused⟩
      · rw [if_pos goesOn]
        obtain ⟨delivered, rest, split, done'⟩ := ih _ _ (agrees.done done)
        refine ⟨(row.1, rowOutcome seen row.2) :: delivered, rest, ?_, done'.cons done ?_⟩
        · rw [rowOutcomes, split]
          rfl
        · intro other otherIn msgId remembered here
          have member : other ∈ rowOutcomes _ later := split ▸ List.mem_append_left _ otherIn
          apply (remembered_rowOutcomes later member remembered).1
          rw [here]
          exact List.mem_cons_self
      · rw [if_neg (by simp [stops])]
        exact ⟨[], (row.1, rowOutcome seen row.2) :: rowOutcomes _ later, rfl,
          RowsDone.refused refused⟩

/-! ## Removed, remembered or left -/

def Put (before after : OfflineManager) (userId : String) (id : Int) : Prop :=
  ∃ msgId, before.pendingId userId msgId = none ∧ after.pendingId userId msgId = some id

def markedIds (request : Option DeliveryMarkRequest) : List Int :=
  (request.map DeliveryMarkRequest.ids).getD []

structure LoadSettled (before : OfflineManager) (userId : String)
    (delivered rest : List (Int × RowOutcome))
    (loaded : OfflineManager × Option DeliveryMarkRequest × (Router × List (Packet × Bool))) :
    Prop where
  calls : CallsMade delivered rest loaded.2.2.2
  marked : markedIds loaded.2.1 = removedIds delivered
  eitherWay : ∀ row ∈ delivered,
    Xor (row.1 ∈ markedIds loaded.2.1) (Put before loaded.1 userId row.1)
  neither : ∀ row ∈ rest, row.1 ∉ markedIds loaded.2.1 ∧ ¬ Put before loaded.1 userId row.1
  kept : ∀ other msgId, other ≠ userId ∨ before.pendingId other msgId ≠ none →
    loaded.1.pendingId other msgId = before.pendingId other msgId

theorem mem_removedIds (rows : List (Int × RowOutcome)) (distinct : (rows.map Prod.fst).Nodup)
    {row : Int × RowOutcome} (member : row ∈ rows) :
    row.1 ∈ removedIds rows ↔ row.2.remembered = none := by
  constructor
  · intro removed
    obtain ⟨other, otherIn, sameId⟩ := List.mem_map.mp removed
    obtain ⟨stored, isRemoved⟩ := List.mem_filter.mp otherIn
    rw [← List.inj_on_of_nodup_map distinct stored member sameId]
    exact of_decide_eq_true isRemoved
  · intro isRemoved
    exact List.mem_map_of_mem (List.mem_filter.mpr ⟨member, decide_eq_true isRemoved⟩)

/-- The rows put into the pending map are the delivered ones with a message. -/
theorem RowsDone.put_iff {userId : String} {delivered rest : List (Int × RowOutcome)}
    {before after : LoggedLoop Router} (done : RowsDone userId delivered rest before after)
    (unknown : ∀ row ∈ delivered, ∀ msgId, row.2.remembered = some msgId →
      before.offline.pendingId userId msgId = none) (id : Int) :
    Put before.offline after.offline userId id ↔
      ∃ row ∈ delivered, row.1 = id ∧ row.2.remembered ≠ none := by
  constructor
  · rintro ⟨msgId, notBefore, now⟩
    rcases done.kept userId msgId with same | ⟨_, row, rowIn, remembered⟩
    · rw [same, notBefore] at now
      cases now
    · refine ⟨row, rowIn, ?_, ?_⟩
      · exact Option.some.inj ((done.remembered row rowIn msgId remembered).symm.trans now)
      · rw [remembered]
        exact Option.some_ne_none msgId
  · rintro ⟨row, rowIn, rfl, isRemembered⟩
    obtain ⟨msgId, remembered⟩ := Option.ne_none_iff_exists'.mp isRemembered
    exact ⟨msgId, unknown row rowIn msgId remembered, done.remembered row rowIn msgId remembered⟩

theorem markedIds_onOfflineLoaded (offline : OfflineManager) (router : Router)
    (result : OfflineLoadResult Text) :
    markedIds (onOfflineLoaded route offline router result).2.1 =
      (deliverRows route result.userId result.packets ⟨offline, [], router⟩).removableIds := by
  unfold onOfflineLoaded
  cases packets : result.packets with
  | nil => rfl
  | cons row rest =>
      simp only [List.isEmpty_cons, Bool.false_eq_true, if_false]
      generalize (deliverRows route result.userId (row :: rest) ⟨offline, [], router⟩) = loop
      cases removable : loop.removableIds <;> rfl

theorem onOfflineLoaded_loop (offline : OfflineManager) (router : Router)
    (result : OfflineLoadResult Text) :
    (onOfflineLoaded route offline router result).1 =
        (deliverRows route result.userId result.packets ⟨offline, [], router⟩).offline ∧
      (onOfflineLoaded route offline router result).2.2 =
        (deliverRows route result.userId result.packets ⟨offline, [], router⟩).router := by
  unfold onOfflineLoaded
  cases packets : result.packets with
  | nil => exact ⟨rfl, rfl⟩
  | cons row rest => exact ⟨rfl, rfl⟩

/-- Whatever the router answers, the rows before the first packet it refuses are
removed or remembered, each in one way, and their packets are routed in order;
the rows from there on are left. -/
theorem onOfflineLoaded_classifies (offline : OfflineManager) (router : Router)
    (result : OfflineLoadResult Text) (distinct : (result.packets.map Prod.fst).Nodup)
    (unknown : ∀ row ∈ result.packets, ∀ msgId, receiveId row.2 = some msgId →
      offline.pendingId result.userId msgId = none) :
    ∃ delivered rest, rowOutcomes [] result.packets = delivered ++ rest ∧
      LoadSettled offline result.userId delivered rest
        (onOfflineLoaded (logged route) offline (router, []) result) := by
  have agrees : Agrees result.userId result.packets [] offline := by
    intro row rowIn msgId isReceive _
    simp [unknown row rowIn msgId isReceive]
  obtain ⟨delivered, rest, split, done⟩ := deliverRows_outcomes route result.userId
    result.packets [] ⟨offline, [], (router, [])⟩ agrees
  have ids := ids_rowOutcomes result.packets []
  rw [split, List.map_append] at ids
  rw [← ids, List.nodup_append] at distinct
  obtain ⟨deliveredDistinct, _, apart⟩ := distinct
  have notBefore : ∀ row ∈ delivered, ∀ msgId, row.2.remembered = some msgId →
      offline.pendingId result.userId msgId = none := by
    intro row rowIn msgId remembered
    have member : row ∈ rowOutcomes [] result.packets := split ▸ List.mem_append_left _ rowIn
    obtain ⟨_, _, loaded, loadedIn, isReceive⟩ :=
      remembered_rowOutcomes result.packets member remembered
    exact unknown loaded loadedIn msgId isReceive
  have put := done.put_iff notBefore
  obtain ⟨sameOffline, sameRouter⟩ :=
    onOfflineLoaded_loop (logged route) offline (router, []) result
  have marked : markedIds (onOfflineLoaded (logged route) offline (router, []) result).2.1 =
      removedIds delivered := by
    rw [markedIds_onOfflineLoaded, done.removable, List.nil_append]
  refine ⟨delivered, rest, split, ?_, marked, ?_, ?_, ?_⟩
  · obtain ⟨calls, made, isCalls⟩ := done.calls
    rw [sameRouter, isCalls, List.nil_append]
    exact made
  · intro row rowIn
    rw [marked, sameOffline, put, mem_removedIds delivered deliveredDistinct rowIn]
    cases isRemoved : row.2.remembered with
    | none =>
        refine Or.inl ⟨rfl, ?_⟩
        rintro ⟨other, otherIn, sameId, isRemembered⟩
        rw [List.inj_on_of_nodup_map deliveredDistinct otherIn rowIn sameId] at isRemembered
        exact isRemembered isRemoved
    | some msgId =>
        exact Or.inr ⟨⟨row, rowIn, rfl, by simp [isRemoved]⟩, Option.some_ne_none msgId⟩
  · intro row rowIn
    have elsewhere : ∀ other ∈ delivered, other.1 ≠ row.1 := by
      intro other otherIn
      exact apart other.1 (List.mem_map_of_mem otherIn) row.1 (List.mem_map_of_mem rowIn)
    rw [marked, sameOffline, put]
    constructor
    · intro removed
      obtain ⟨other, otherIn, sameId⟩ := List.mem_map.mp removed
      exact elsewhere other (List.mem_filter.mp otherIn).1 sameId
    · rintro ⟨other, otherIn, sameId, _⟩
      exact elsewhere other otherIn sameId
  · intro other msgId apartOrKnown
    rw [sameOffline]
    rcases done.kept other msgId with same | ⟨rfl, row, rowIn, remembered⟩
    · exact same
    · rcases apartOrKnown with differs | known
      · exact absurd rfl differs
      · exact absurd (notBefore row rowIn msgId remembered) known

def mixedRows : List (Int × ParsedText) :=
  let message : Packet := { cmd := .receiveMessage, msgId := "srv_1" }
  let last : Packet := { cmd := .receiveMessage, msgId := "srv_2" }
  let notice : Packet := { cmd := .friendRequestNotify, msgId := "srv_1" }
  [(1, .error "garbage"), (2, message.encode), (3, message.encode), (4, notice.encode),
    (5, last.encode)]

def twoCalls (calls : Nat) (_ : Packet) : Bool × Nat := (calls < 2, calls + 1)

theorem onOfflineLoaded_classifies_mixed :
    ∃ delivered rest, rowOutcomes [] mixedRows = delivered ++ rest ∧
      LoadSettled OfflineManager.empty "bob" delivered rest
        (onOfflineLoaded (logged twoCalls) OfflineManager.empty (0, []) ⟨"bob", mixedRows⟩) :=
  onOfflineLoaded_classifies twoCalls OfflineManager.empty 0 ⟨"bob", mixedRows⟩ (by decide)
    fun _ _ _ _ => rfl

end Follow
end ShirohaChat
