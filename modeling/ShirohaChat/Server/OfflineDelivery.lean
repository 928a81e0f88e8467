import ShirohaChat.Server.OfflineManager

/-!
# What the delivery loop remembers and removes

One round of the loop is described once; by induction over the rows, the loop
remembers a message under its first row and removes a named `receive_message`
row only when the message is already remembered or the row is not its first.
-/

set_option autoImplicit false

namespace ShirohaChat

section Delivery
variable {Text : Type} [JsonDocument Text]

/-- The message id of a stored `receive_message` packet. -/
def receiveId (packetJson : Text) : Option String :=
  match decode packetJson with
  | .ok packet => if packet.cmd = .receiveMessage then some packet.msgId else none
  | .error _ => none

theorem receiveId_encode (packet : Packet) :
    receiveId (packet.encode : Text) =
      if packet.cmd = .receiveMessage then some packet.msgId else none := by
  rw [receiveId, decode_encode]

def firstReceive (msgId : String) (packets : List (Int × Text)) : Option Int :=
  (packets.find? fun row => receiveId row.2 = some msgId).map Prod.fst

theorem firstReceive_cons (msgId : String) (row : Int × Text) (rest : List (Int × Text)) :
    firstReceive msgId (row :: rest) =
      if receiveId row.2 = some msgId then some row.1 else firstReceive msgId rest := by
  unfold firstReceive
  rw [List.find?_cons]
  by_cases here : receiveId row.2 = some msgId <;> simp [here]

theorem firstReceive_mem {msgId : String} {packets : List (Int × Text)} {id : Int}
    (first : firstReceive msgId packets = some id) :
    ∃ packetJson, (id, packetJson) ∈ packets ∧ receiveId packetJson = some msgId := by
  obtain ⟨row, found, rfl⟩ := Option.map_eq_some_iff.mp first
  exact ⟨row.2, List.mem_of_find?_eq_some found, by simpa using List.find?_some found⟩

/-! ## The delivery loop -/

variable {Router : Type} (route : Router → Packet → Bool × Router)

/-- What a round can do with a row: remove it unread, unnamed, as a duplicate or
when its packet was routed, remember a routed message, or stop at a refusal. -/
inductive RowRound (userId : String) (before : DeliveryLoop Router) (row : Int × Text) :
    DeliveryLoop Router × Bool → Prop where
  | unreadable {problem : String} (decoded : decode row.2 = .error problem) :
      RowRound userId before row (before.remove row.1, true)
  | unnamed {packet : Packet} (decoded : decode row.2 = .ok packet)
      (unnamed : packet.msgId = "") : RowRound userId before row (before.remove row.1, true)
  | duplicate {packet : Packet} {offline : OfflineManager} (decoded : decode row.2 = .ok packet)
      (named : packet.msgId ≠ "") (requiresAck : packet.cmd = .receiveMessage)
      (known : before.offline.pendingId userId packet.msgId ≠ none)
      (pending : ∀ other msgId,
        offline.pendingId other msgId = before.offline.pendingId other msgId) :
      RowRound userId before row
        (⟨offline, before.removableIds ++ [row.1], before.router⟩, true)
  | remembered {packet : Packet} {offline : OfflineManager} (decoded : decode row.2 = .ok packet)
      (named : packet.msgId ≠ "") (requiresAck : packet.cmd = .receiveMessage)
      (unknown : before.offline.pendingId userId packet.msgId = none)
      (routed : (route before.router packet).1 = true)
      (pending : ∀ other msgId, offline.pendingId other msgId =
        if other = userId ∧ msgId = packet.msgId then some row.1
        else before.offline.pendingId other msgId) :
      RowRound userId before row
        (⟨offline, before.removableIds, (route before.router packet).2⟩, true)
  | passed {packet : Packet} (decoded : decode row.2 = .ok packet)
      (named : packet.msgId ≠ "") (other : packet.cmd ≠ .receiveMessage)
      (routed : (route before.router packet).1 = true) :
      RowRound userId before row (⟨before.offline, before.removableIds ++ [row.1],
        (route before.router packet).2⟩, true)
  | refused {packet : Packet} {offline : OfflineManager} (decoded : decode row.2 = .ok packet)
      (named : packet.msgId ≠ "")
      (unknown : packet.cmd = .receiveMessage →
        before.offline.pendingId userId packet.msgId = none)
      (refused : (route before.router packet).1 = false)
      (pending : ∀ other msgId,
        offline.pendingId other msgId = before.offline.pendingId other msgId) :
      RowRound userId before row
        (⟨offline, before.removableIds, (route before.router packet).2⟩, false)

theorem deliverRow_round (userId : String) (loop : DeliveryLoop Router) (row : Int × Text) :
    RowRound route userId loop row (deliverRow route userId loop row) := by
  unfold deliverRow
  cases decoded : decode row.2 with
  | error problem => exact .unreadable decoded
  | ok packet =>
      have created := loop.offline.pendingId_create userId
      cases answered : route loop.router packet with
      | mk found router =>
          have answer : (route loop.router packet).1 = found := by rw [answered]
          have after : router = (route loop.router packet).2 := by rw [answered]
          simp only [answered]
          by_cases unnamed : packet.msgId = ""
          · rw [if_pos unnamed]
            exact .unnamed decoded unnamed
          rw [if_neg unnamed]
          by_cases requiresAck : packet.cmd = .receiveMessage
          · rw [if_pos requiresAck]
            by_cases known : packet.msgId ∈ loop.offline.pendingOf userId
            · rw [if_pos known]
              exact .duplicate decoded unnamed requiresAck
                ((loop.offline.mem_pendingOf userId packet.msgId).mp known) created
            · rw [if_neg known]
              have unknown : loop.offline.pendingId userId packet.msgId = none := by
                rwa [loop.offline.mem_pendingOf, not_not] at known
              cases found with
              | true =>
                  rw [after]
                  exact .remembered decoded unnamed requiresAck unknown answer
                    (loop.offline.pendingId_remember userId packet.msgId row.1)
              | false =>
                  rw [after]
                  exact .refused decoded unnamed (fun _ => unknown) answer created
          · rw [if_neg requiresAck]
            cases found with
            | true =>
                rw [after]
                exact .passed decoded unnamed requiresAck answer
            | false =>
                rw [after]
                exact .refused decoded unnamed (fun isAck => absurd isAck requiresAck) answer
                  fun _ _ => rfl

theorem receiveId_of_decoded {packetJson : Text} {packet : Packet}
    (decoded : decode packetJson = .ok packet) :
    receiveId packetJson = if packet.cmd = .receiveMessage then some packet.msgId else none := by
  rw [receiveId, decoded]

structure RowDelivered (userId : String) (row : Int × Text) (before after : DeliveryLoop Router)
    (goesOn : Bool) : Prop where
  pending : ∀ other msgId,
    after.offline.pendingId other msgId = before.offline.pendingId other msgId ∨
      (other = userId ∧ receiveId row.2 = some msgId ∧
        before.offline.pendingId userId msgId = none ∧
        after.offline.pendingId userId msgId = some row.1)
  removable : after.removableIds = before.removableIds ∨
    (after.removableIds = before.removableIds ++ [row.1] ∧
      ∀ msgId, receiveId row.2 = some msgId → msgId ≠ "" →
        before.offline.pendingId userId msgId ≠ none)
  settled : goesOn = true → ∀ msgId, receiveId row.2 = some msgId → msgId ≠ "" →
    after.offline.pendingId userId msgId ≠ none

/-- A row without a message id to remember is removed or refused. -/
theorem RowDelivered.of_nameless {userId : String} {row : Int × Text}
    {before after : DeliveryLoop Router} {goesOn : Bool}
    (offline : after.offline = before.offline)
    (removable : after.removableIds = before.removableIds ++ [row.1])
    (nameless : ∀ msgId, receiveId row.2 = some msgId → msgId = "") :
    RowDelivered userId row before after goesOn where
  pending _ _ := Or.inl (by rw [offline])
  removable := Or.inr ⟨removable, fun msgId isReceive named =>
    absurd (nameless msgId isReceive) named⟩
  settled _ msgId isReceive named := absurd (nameless msgId isReceive) named

theorem deliverRow_spec (userId : String) (loop : DeliveryLoop Router) (row : Int × Text) :
    RowDelivered userId row loop (deliverRow route userId loop row).1
      (deliverRow route userId loop row).2 := by
  have round := deliverRow_round route userId loop row
  generalize deliverRow route userId loop row = result at round
  cases round with
  | unreadable decoded =>
      have none : receiveId row.2 = none := by rw [receiveId, decoded]
      exact .of_nameless rfl rfl (by simp [none])
  | @unnamed packet decoded unnamed =>
      refine .of_nameless rfl rfl ?_
      intro msgId isReceive
      rw [receiveId_of_decoded decoded] at isReceive
      split at isReceive
      · exact (Option.some.inj isReceive).symm.trans unnamed
      · cases isReceive
  | @duplicate packet offline decoded named requiresAck known pending =>
      have received := (receiveId_of_decoded decoded).trans (if_pos requiresAck)
      refine ⟨fun other msgId => Or.inl (pending other msgId), Or.inr ⟨rfl, ?_⟩, ?_⟩
      · intro msgId isReceive _
        rw [received, Option.some.injEq] at isReceive
        rwa [← isReceive]
      · intro _ msgId isReceive _
        rw [received, Option.some.injEq] at isReceive
        rwa [← isReceive, pending]
  | @remembered packet offline decoded named requiresAck unknown routed pending =>
      have received := (receiveId_of_decoded decoded).trans (if_pos requiresAck)
      refine ⟨?_, Or.inl rfl, ?_⟩
      · intro other msgId
        by_cases target : other = userId ∧ msgId = packet.msgId
        · obtain ⟨rfl, rfl⟩ := target
          exact Or.inr ⟨rfl, received, unknown, (pending _ _).trans (if_pos ⟨rfl, rfl⟩)⟩
        · exact Or.inl ((pending other msgId).trans (if_neg target))
      · intro _ msgId isReceive _
        rw [received, Option.some.injEq] at isReceive
        rw [pending, if_pos ⟨rfl, isReceive.symm⟩]
        exact Option.some_ne_none row.1
  | passed decoded named other routed =>
      have none := (receiveId_of_decoded decoded).trans (if_neg other)
      exact .of_nameless rfl rfl (by simp [none])
  | refused decoded named unknown refused pending =>
      exact ⟨fun other msgId => Or.inl (pending other msgId), Or.inl rfl, nofun⟩

theorem deliverRows_cons (userId : String) (row : Int × Text) (rest : List (Int × Text))
    (loop : DeliveryLoop Router) :
    deliverRows route userId (row :: rest) loop =
      if (deliverRow route userId loop row).2 = true then
        deliverRows route userId rest (deliverRow route userId loop row).1
      else (deliverRow route userId loop row).1 := by
  rw [deliverRows]
  split
  · rename_i after step
    rw [step, if_pos rfl]
  · rename_i after step
    rw [step, if_neg Bool.false_ne_true]

/-- What the loop remembers anew is the first row of its message. -/
theorem deliverRows_pending (userId : String) (rows : List (Int × Text)) :
    ∀ (loop : DeliveryLoop Router) (other msgId : String) (id : Int), msgId ≠ "" →
      (deliverRows route userId rows loop).offline.pendingId other msgId = some id →
      loop.offline.pendingId other msgId = some id ∨
        (other = userId ∧ loop.offline.pendingId userId msgId = none ∧
          firstReceive msgId rows = some id) := by
  induction rows with
  | nil => intro loop other msgId id _ remembered; exact Or.inl remembered
  | cons row rest ih =>
      intro loop other msgId id named remembered
      have spec := deliverRow_spec route userId loop row
      have byRow : (deliverRow route userId loop row).1.offline.pendingId other msgId = some id →
          loop.offline.pendingId other msgId = some id ∨
            (other = userId ∧ loop.offline.pendingId userId msgId = none ∧
              firstReceive msgId (row :: rest) = some id) := by
        intro afterRow
        rcases spec.pending other msgId with same | ⟨rfl, isReceive, unknown, inserted⟩
        · exact Or.inl (same.symm.trans afterRow)
        · refine Or.inr ⟨rfl, unknown, ?_⟩
          rw [firstReceive_cons, if_pos isReceive, ← inserted, afterRow]
      rw [deliverRows_cons] at remembered
      split at remembered
      · rename_i goesOn
        rcases ih _ other msgId id named remembered with afterRow | ⟨rfl, unknown, first⟩
        · exact byRow afterRow
        · have notHere : ¬ receiveId row.2 = some msgId :=
            fun isReceive => spec.settled goesOn msgId isReceive named unknown
          refine Or.inr ⟨rfl, ?_, by rw [firstReceive_cons, if_neg notHere, first]⟩
          rcases spec.pending other msgId with same | ⟨_, isReceive, _, _⟩
          · rw [← same, unknown]
          · exact absurd isReceive notHere
      · exact byRow remembered

/-- A removed row holds no named `receive_message`, or a message already
remembered, or it is not the first row of its message. -/
theorem deliverRows_removable (userId : String) (rows : List (Int × Text)) :
    ∀ (loop : DeliveryLoop Router) (id : Int), (rows.map Prod.fst).Nodup →
      id ∈ (deliverRows route userId rows loop).removableIds →
      id ∈ loop.removableIds ∨ ∃ packetJson, (id, packetJson) ∈ rows ∧
        ∀ msgId, receiveId packetJson = some msgId → msgId ≠ "" →
          loop.offline.pendingId userId msgId ≠ none ∨ firstReceive msgId rows ≠ some id := by
  induction rows with
  | nil => intro loop id _ removed; exact Or.inl removed
  | cons row rest ih =>
      intro loop id distinct removed
      obtain ⟨notLater, restDistinct⟩ := List.nodup_cons.mp distinct
      have spec := deliverRow_spec route userId loop row
      have byRow : id ∈ (deliverRow route userId loop row).1.removableIds →
          id ∈ loop.removableIds ∨ ∃ packetJson, (id, packetJson) ∈ row :: rest ∧
            ∀ msgId, receiveId packetJson = some msgId → msgId ≠ "" →
              loop.offline.pendingId userId msgId ≠ none ∨
                firstReceive msgId (row :: rest) ≠ some id := by
        intro afterRow
        rcases spec.removable with same | ⟨added, known⟩
        · exact Or.inl (same ▸ afterRow)
        · rw [added] at afterRow
          rcases List.mem_append.mp afterRow with old | new
          · exact Or.inl old
          · rw [List.mem_singleton.mp new]
            exact Or.inr ⟨row.2, List.mem_cons_self, fun msgId isReceive named =>
              Or.inl (known msgId isReceive named)⟩
      rw [deliverRows_cons] at removed
      split at removed
      · rcases ih _ id restDistinct removed with afterRow | ⟨packetJson, member, reason⟩
        · exact byRow afterRow
        · refine Or.inr ⟨packetJson, List.mem_cons_of_mem _ member, ?_⟩
          intro msgId isReceive named
          have later : id ≠ row.1 := by
            rintro rfl
            exact notLater (List.mem_map.mpr ⟨_, member, rfl⟩)
          rw [firstReceive_cons]
          by_cases here : receiveId row.2 = some msgId
          · rw [if_pos here]
            exact Or.inr fun same => later (Option.some.inj same).symm
          · rw [if_neg here]
            rcases reason msgId isReceive named with known | notFirst
            · rcases spec.pending userId msgId with same | ⟨_, rowReceive, _, _⟩
              · exact Or.inl (same ▸ known)
              · exact absurd rowReceive here
            · exact Or.inr notFirst
      · exact byRow removed

theorem onOfflineLoaded_pending (offline : OfflineManager) (router : Router)
    (result : OfflineLoadResult Text) (other msgId : String) (id : Int) (named : msgId ≠ "")
    (remembered : (onOfflineLoaded route offline router result).1.pendingId other msgId =
      some id) :
    offline.pendingId other msgId = some id ∨
      (other = result.userId ∧ firstReceive msgId result.packets = some id) := by
  unfold onOfflineLoaded at remembered
  split at remembered
  · exact Or.inl remembered
  · rcases deliverRows_pending route result.userId result.packets _ other msgId id named
      remembered with old | ⟨sameUser, _, first⟩
    · exact Or.inl old
    · exact Or.inr ⟨sameUser, first⟩

theorem onOfflineLoaded_mark (offline : OfflineManager) (router : Router)
    (result : OfflineLoadResult Text) (request : DeliveryMarkRequest)
    (distinct : (result.packets.map Prod.fst).Nodup)
    (marked : (onOfflineLoaded route offline router result).2.1 = some request)
    (id : Int) (member : id ∈ request.ids) :
    ∃ packetJson, (id, packetJson) ∈ result.packets ∧
      ∀ msgId, receiveId packetJson = some msgId → msgId ≠ "" →
        offline.pendingId result.userId msgId ≠ none ∨
          firstReceive msgId result.packets ≠ some id := by
  unfold onOfflineLoaded at marked
  split at marked
  · cases marked
  · simp only at marked
    split at marked
    · cases marked
    · cases marked
      rcases deliverRows_removable route result.userId result.packets _ id distinct member with
        none | removed
      · cases none
      · exact removed

end Delivery
end ShirohaChat
