import ShirohaChat.Server.OfflineDelivery

/-!
# Which packets the delivery loop routes

The loop of `onOfflineLoaded` run over a router that records what it routes.
The loop decides by the router's answers alone, so the record is that of the
real run.  Every packet the loop gets past was recorded now or is remembered as
pending, and the record follows the order of the rows.
-/

set_option autoImplicit false

namespace ShirohaChat

section Delivery
variable {Text : Type} [JsonDocument Text]

/-- Routers that answer alike make the loop remember and remove alike. -/
theorem deliverRow_congr {Router Other : Type} {route : Router → Packet → Bool × Router}
    {other : Other → Packet → Bool × Other} (userId : String)
    (alike : ∀ router router' packet, (route router packet).1 = (other router' packet).1)
    (loop : DeliveryLoop Router) (loop' : DeliveryLoop Other) (row : Int × Text)
    (offline : loop.offline = loop'.offline) (removable : loop.removableIds = loop'.removableIds) :
    (deliverRow route userId loop row).1.offline = (deliverRow other userId loop' row).1.offline ∧
    (deliverRow route userId loop row).1.removableIds =
      (deliverRow other userId loop' row).1.removableIds ∧
    (deliverRow route userId loop row).2 = (deliverRow other userId loop' row).2 := by
  obtain ⟨offlineManager, removableIds, router⟩ := loop
  obtain ⟨offlineManager', removableIds', router'⟩ := loop'
  cases offline
  cases removable
  unfold deliverRow
  cases decode row.2 with
  | error problem => exact ⟨rfl, rfl, rfl⟩
  | ok packet =>
      have same := alike router router' packet
      cases routed : route router packet with
      | mk found after =>
          cases routed' : other router' packet with
          | mk found' after' =>
              rw [routed, routed'] at same
              cases same
              simp only [DeliveryLoop.remove, routed, routed']
              split
              · exact ⟨rfl, rfl, rfl⟩
              split
              · split
                · exact ⟨rfl, rfl, rfl⟩
                · cases found <;> exact ⟨rfl, rfl, rfl⟩
              · cases found <;> exact ⟨rfl, rfl, rfl⟩

theorem deliverRows_congr {Router Other : Type} {route : Router → Packet → Bool × Router}
    {other : Other → Packet → Bool × Other} (userId : String)
    (alike : ∀ router router' packet, (route router packet).1 = (other router' packet).1)
    (rows : List (Int × Text)) :
    ∀ (loop : DeliveryLoop Router) (loop' : DeliveryLoop Other),
      loop.offline = loop'.offline → loop.removableIds = loop'.removableIds →
      (deliverRows route userId rows loop).offline =
        (deliverRows other userId rows loop').offline ∧
      (deliverRows route userId rows loop).removableIds =
        (deliverRows other userId rows loop').removableIds := by
  induction rows with
  | nil => exact fun _ _ offline removable => ⟨offline, removable⟩
  | cons row rest ih =>
      intro loop loop' offline removable
      obtain ⟨sameOffline, sameRemovable, sameGoesOn⟩ :=
        deliverRow_congr userId alike loop loop' row offline removable
      rw [deliverRows_cons, deliverRows_cons, sameGoesOn]
      split
      · exact ih _ _ sameOffline sameRemovable
      · exact ⟨sameOffline, sameRemovable⟩

theorem onOfflineLoaded_congr {Router Other : Type} {route : Router → Packet → Bool × Router}
    {other : Other → Packet → Bool × Other}
    (alike : ∀ router router' packet, (route router packet).1 = (other router' packet).1)
    (offline : OfflineManager) (router : Router) (router' : Other)
    (result : OfflineLoadResult Text) :
    (onOfflineLoaded route offline router result).1 =
      (onOfflineLoaded other offline router' result).1 ∧
    (onOfflineLoaded route offline router result).2.1 =
      (onOfflineLoaded other offline router' result).2.1 := by
  unfold onOfflineLoaded
  split
  · exact ⟨rfl, rfl⟩
  · obtain ⟨sameOffline, sameRemovable⟩ := deliverRows_congr result.userId alike result.packets
      ⟨offline, [], router⟩ ⟨offline, [], router'⟩ rfl rfl
    exact ⟨sameOffline, by simp only [sameRemovable]⟩

/-- `routeToUser` as a router that records the packets it finds a session for. -/
def recordingRouter (Text : Type) [JsonDocument Text] (manager : SessionManager)
    (userId : String) (routed : List Packet) (packet : Packet) : Bool × List Packet :=
  ((routeToUser Text manager userId packet).1,
    if (routeToUser Text manager userId packet).1 then routed ++ [packet] else routed)

theorem routeToUser_fst (manager : SessionManager) (userId : String) (packet : Packet) :
    (routeToUser Text manager userId packet).1 = (manager.findByUserId userId).isSome := by
  unfold routeToUser
  cases manager.findByUserId userId <;> rfl

def routedBy (manager : SessionManager) (offline : OfflineManager)
    (result : OfflineLoadResult Text) : List Packet :=
  (onOfflineLoaded (recordingRouter Text manager result.userId) offline [] result).2.2

theorem onOfflineLoaded_recorded (manager : SessionManager) (offline : OfflineManager)
    (wire : List (SocketWrite Text)) (result : OfflineLoadResult Text) :
    (onOfflineLoaded (wireRouter manager result.userId) offline wire result).1 =
      (onOfflineLoaded (recordingRouter Text manager result.userId) offline [] result).1 ∧
    (onOfflineLoaded (wireRouter manager result.userId) offline wire result).2.1 =
      (onOfflineLoaded (recordingRouter Text manager result.userId) offline [] result).2.1 :=
  have alike : ∀ (written : List (SocketWrite Text)) (routed : List Packet) (packet : Packet),
      (wireRouter manager result.userId written packet).1 =
        (recordingRouter Text manager result.userId routed packet).1 := fun _ _ _ => rfl
  onOfflineLoaded_congr alike offline wire [] result

/-! ## What is recorded -/

def Handled (userId : String) (loop : DeliveryLoop (List Packet)) (packet : Packet) : Prop :=
  packet ∈ loop.router ∨ loop.offline.pendingId userId packet.msgId ≠ none

structure RowRecorded (userId : String) (id : Int) (packet : Packet)
    (before after : DeliveryLoop (List Packet)) (goesOn : Bool) : Prop where
  routed : after.router = before.router ∨ after.router = before.router ++ [packet]
  pending : ∀ other msgId,
    after.offline.pendingId other msgId = before.offline.pendingId other msgId ∨
      (other = userId ∧ msgId = packet.msgId ∧
        after.offline.pendingId userId msgId = some id ∧ packet ∈ after.router)
  removable : after.removableIds = before.removableIds ∨
    (after.removableIds = before.removableIds ++ [id] ∧ Handled userId after packet)
  handled : goesOn = true → Handled userId after packet

variable (manager : SessionManager)

theorem deliverRow_recorded (userId : String) (loop : DeliveryLoop (List Packet)) (id : Int)
    {packet : Packet} (named : packet.msgId ≠ "") :
    RowRecorded userId id packet loop
      (deliverRow (recordingRouter Text manager userId) userId loop
        (id, (packet.encode : Text))).1
      (deliverRow (recordingRouter Text manager userId) userId loop
        (id, (packet.encode : Text))).2 := by
  have round := deliverRow_round (recordingRouter Text manager userId) userId loop
    (id, (packet.encode : Text))
  generalize deliverRow (recordingRouter Text manager userId) userId loop
    (id, (packet.encode : Text)) = result at round
  have held : ∀ {other : Packet}, decode (packet.encode : Text) = .ok other → other = packet :=
    fun decoded => Except.ok.inj (decoded.symm.trans (decode_encode packet))
  have recorded : (recordingRouter Text manager userId loop.router packet).1 = true →
      (recordingRouter Text manager userId loop.router packet).2 = loop.router ++ [packet] :=
    fun routed => if_pos routed
  cases round with
  | unreadable decoded => cases decoded.symm.trans (decode_encode packet)
  | unnamed decoded unnamed =>
      cases held decoded
      exact absurd unnamed named
  | duplicate decoded _ requiresAck known pending =>
      cases held decoded
      have handled : Handled userId ⟨_, loop.removableIds ++ [id], loop.router⟩ packet :=
        Or.inr (by rw [pending]; exact known)
      exact ⟨Or.inl rfl, fun other msgId => Or.inl (pending other msgId),
        Or.inr ⟨rfl, handled⟩, fun _ => handled⟩
  | remembered decoded _ requiresAck unknown routed pending =>
      cases held decoded
      rw [recorded routed]
      have inRecord : packet ∈ loop.router ++ [packet] := by simp
      refine ⟨Or.inr rfl, ?_, Or.inl rfl, fun _ => Or.inl inRecord⟩
      intro other msgId
      by_cases target : other = userId ∧ msgId = packet.msgId
      · exact Or.inr ⟨target.1, target.2,
          (pending userId msgId).trans (if_pos ⟨rfl, target.2⟩), inRecord⟩
      · exact Or.inl ((pending other msgId).trans (if_neg target))
  | passed decoded _ other routed =>
      cases held decoded
      rw [recorded routed]
      have inRecord : packet ∈ loop.router ++ [packet] := by simp
      exact ⟨Or.inr rfl, fun _ _ => Or.inl rfl, Or.inr ⟨rfl, Or.inl inRecord⟩,
        fun _ => Or.inl inRecord⟩
  | refused decoded _ unknown refused pending =>
      cases held decoded
      have same : (recordingRouter Text manager userId loop.router packet).2 = loop.router :=
        if_neg (Bool.eq_false_iff.mp refused)
      exact ⟨Or.inl same, fun other msgId => Or.inl (pending other msgId), Or.inl rfl, nofun⟩

theorem deliverRow_goesOn (userId : String) (loop : DeliveryLoop (List Packet))
    (row : Int × Text) (mapped : (manager.findByUserId userId).isSome = true) :
    (deliverRow (recordingRouter Text manager userId) userId loop row).2 = true := by
  have round := deliverRow_round (recordingRouter Text manager userId) userId loop row
  generalize deliverRow (recordingRouter Text manager userId) userId loop row = result at round
  cases round with
  | refused _ _ _ refused _ =>
      rw [recordingRouter, routeToUser_fst, mapped] at refused
      cases refused
  | _ => rfl

structure RowsRecorded (userId : String) (rows : List (Int × Text)) (packets : List Packet)
    (before after : DeliveryLoop (List Packet)) : Prop where
  routed : ∃ now, after.router = before.router ++ now ∧ now.Sublist packets
  kept : ∀ other msgId, before.offline.pendingId other msgId ≠ none →
    after.offline.pendingId other msgId ≠ none
  pending : ∀ other msgId id, after.offline.pendingId other msgId = some id →
    before.offline.pendingId other msgId = some id ∨
      (other = userId ∧ ∃ packet ∈ packets, packet.msgId = msgId ∧
        (id, packet.encode) ∈ rows ∧ packet ∈ after.router)
  removable : ∀ id ∈ after.removableIds, id ∈ before.removableIds ∨
    ∃ packet ∈ packets, (id, packet.encode) ∈ rows ∧ Handled userId after packet

theorem RowsRecorded.handled {userId : String} {rows : List (Int × Text)}
    {packets : List Packet} {before after : DeliveryLoop (List Packet)}
    (recorded : RowsRecorded userId rows packets before after) {packet : Packet}
    (handled : Handled userId before packet) : Handled userId after packet := by
  obtain ⟨now, routed, _⟩ := recorded.routed
  refine handled.imp ?_ (recorded.kept userId packet.msgId)
  intro member
  rw [routed]
  exact List.mem_append_left _ member

theorem RowsRecorded.refl (userId : String) (rows : List (Int × Text)) (packets : List Packet)
    (loop : DeliveryLoop (List Packet)) : RowsRecorded userId rows packets loop loop where
  routed := ⟨[], by simp, List.nil_sublist _⟩
  kept _ _ known := known
  pending _ _ _ isPending := Or.inl isPending
  removable _ member := Or.inl member

theorem RowRecorded.rows {userId : String} {id : Int} {packet : Packet}
    {before after : DeliveryLoop (List Packet)} {goesOn : Bool}
    (recorded : RowRecorded userId id packet before after goesOn) :
    RowsRecorded userId [(id, (packet.encode : Text))] [packet] before after := by
  refine ⟨?_, ?_, ?_, ?_⟩
  · rcases recorded.routed with same | added
    · exact ⟨[], by simp [same], List.nil_sublist _⟩
    · exact ⟨[packet], added, List.Sublist.refl _⟩
  · intro other msgId known
    rcases recorded.pending other msgId with same | ⟨rfl, _, inserted, _⟩
    · rwa [same]
    · rw [inserted]
      exact Option.some_ne_none id
  · intro other msgId found isPending
    rcases recorded.pending other msgId with same | ⟨rfl, rfl, inserted, routed⟩
    · exact Or.inl (same.symm.trans isPending)
    · rw [isPending, Option.some.injEq] at inserted
      exact Or.inr ⟨rfl, packet, List.mem_singleton_self _, rfl,
        inserted ▸ List.mem_singleton_self _, routed⟩
  · intro removed member
    rcases recorded.removable with same | ⟨added, handled⟩
    · exact Or.inl (same ▸ member)
    · rw [added] at member
      rcases List.mem_append.mp member with old | new
      · exact Or.inl old
      · rw [List.mem_singleton.mp new]
        exact Or.inr ⟨packet, List.mem_singleton_self _, List.mem_singleton_self _, handled⟩

theorem RowsRecorded.append {userId : String} {rows rest : List (Int × Text)}
    {packets others : List Packet} {before between after : DeliveryLoop (List Packet)}
    (first : RowsRecorded userId rows packets before between)
    (second : RowsRecorded userId rest others between after) :
    RowsRecorded userId (rows ++ rest) (packets ++ others) before after := by
  obtain ⟨now, routed, inOrder⟩ := first.routed
  obtain ⟨later, laterRouted, laterInOrder⟩ := second.routed
  have stays : ∀ packet ∈ between.router, packet ∈ after.router := by
    intro packet member
    rw [laterRouted]
    exact List.mem_append_left _ member
  refine ⟨⟨now ++ later, by rw [laterRouted, routed, List.append_assoc],
    inOrder.append laterInOrder⟩, ?_, ?_, ?_⟩
  · exact fun other msgId known => second.kept other msgId (first.kept other msgId known)
  · intro other msgId id isPending
    rcases second.pending other msgId id isPending with old | ⟨rfl, packet, packetIn, new⟩
    · rcases first.pending other msgId id old with older | ⟨rfl, packet, packetIn, same, row, sent⟩
      · exact Or.inl older
      · exact Or.inr ⟨rfl, packet, List.mem_append_left _ packetIn, same,
          List.mem_append_left _ row, stays packet sent⟩
    · exact Or.inr ⟨rfl, packet, List.mem_append_right _ packetIn, new.1,
        List.mem_append_right _ new.2.1, new.2.2⟩
  · intro id member
    rcases second.removable id member with old | ⟨packet, packetIn, row, handled⟩
    · rcases first.removable id old with older | ⟨packet, packetIn, row, handled⟩
      · exact Or.inl older
      · exact Or.inr ⟨packet, List.mem_append_left _ packetIn, List.mem_append_left _ row,
          second.handled handled⟩
    · exact Or.inr ⟨packet, List.mem_append_right _ packetIn, List.mem_append_right _ row, handled⟩

theorem deliverRows_recorded (userId : String) (rows : List (Int × Text)) :
    ∀ (packets : List Packet) (loop : DeliveryLoop (List Packet)),
      rows.map Prod.snd = packets.map Packet.encode → (∀ packet ∈ packets, packet.msgId ≠ "") →
      RowsRecorded userId rows packets loop
        (deliverRows (recordingRouter Text manager userId) userId rows loop) ∧
      ((manager.findByUserId userId).isSome = true → ∀ packet ∈ packets,
        Handled userId (deliverRows (recordingRouter Text manager userId) userId rows loop)
          packet) := by
  induction rows with
  | nil =>
      intro packets loop sameTexts _
      have none : packets = [] := List.map_eq_nil_iff.mp sameTexts.symm
      subst none
      refine ⟨RowsRecorded.refl userId [] [] loop, ?_⟩
      intro _ packet member
      cases member
  | cons row rest ih =>
      intro packets loop sameTexts named
      obtain ⟨id, text⟩ := row
      cases packets with
      | nil => cases sameTexts
      | cons packet others =>
          obtain ⟨rfl, sameRest⟩ := List.cons.inj sameTexts
          have round := @deliverRow_recorded Text _ manager userId loop id packet
            (named packet List.mem_cons_self)
          obtain ⟨recorded, handled⟩ := ih others _ sameRest fun other otherIn =>
            named other (List.mem_cons_of_mem _ otherIn)
          rw [deliverRows_cons]
          split
          · rename_i goesOn
            refine ⟨round.rows.append recorded, ?_⟩
            intro mapped target targetIn
            rcases List.mem_cons.mp targetIn with rfl | inRest
            · exact recorded.handled (round.handled goesOn)
            · exact handled mapped target inRest
          · rename_i stops
            exact ⟨round.rows.append (RowsRecorded.refl userId rest others _),
              fun mapped => absurd (deliverRow_goesOn manager userId loop _ mapped) stops⟩

/-- What handling a load result does, in terms of the packets it holds.  The
pending map is the one that `onOfflineLoaded` leaves. -/
structure LoadRecorded (offline after : OfflineManager) (mark : Option DeliveryMarkRequest)
    (result : OfflineLoadResult Text) (packets routed : List Packet) (mapped : Bool) : Prop where
  inOrder : routed.Sublist packets
  pending : ∀ userId msgId id, after.pendingId userId msgId = some id →
    offline.pendingId userId msgId = some id ∨
      (userId = result.userId ∧ ∃ packet ∈ packets, packet.msgId = msgId ∧
        (id, packet.encode) ∈ result.packets ∧ packet ∈ routed)
  marked : ∀ request, mark = some request → ∀ id ∈ request.ids,
    ∃ packet ∈ packets, (id, packet.encode) ∈ result.packets ∧
      (packet ∈ routed ∨ after.pendingId result.userId packet.msgId ≠ none)
  handled : mapped = true → ∀ packet ∈ packets,
    packet ∈ routed ∨ after.pendingId result.userId packet.msgId ≠ none

theorem onOfflineLoaded_loadRecorded (offline : OfflineManager) (wire : List (SocketWrite Text))
    (result : OfflineLoadResult Text) {packets : List Packet}
    (sameTexts : result.packets.map Prod.snd = packets.map Packet.encode)
    (named : ∀ packet ∈ packets, packet.msgId ≠ "") :
    LoadRecorded offline (onOfflineLoaded (wireRouter manager result.userId) offline wire result).1
      (onOfflineLoaded (wireRouter manager result.userId) offline wire result).2.1 result packets
      (routedBy manager offline result) (manager.findByUserId result.userId).isSome := by
  obtain ⟨sameOffline, sameMark⟩ := onOfflineLoaded_recorded manager offline wire result
  rw [sameOffline, sameMark]
  unfold routedBy onOfflineLoaded
  split
  · rename_i isEmpty
    have none : packets = [] := by
      apply List.map_eq_nil_iff.mp
      rw [← sameTexts, List.isEmpty_iff.mp isEmpty, List.map_nil]
    subst none
    refine ⟨List.Sublist.refl _, fun _ _ _ isPending => Or.inl isPending, ?_, ?_⟩
    · intro request noMark
      cases noMark
    · intro _ packet member
      cases member
  · obtain ⟨recorded, handled⟩ := deliverRows_recorded manager result.userId result.packets packets
      ⟨offline, [], []⟩ sameTexts named
    obtain ⟨now, routed, inOrder⟩ := recorded.routed
    rw [List.nil_append] at routed
    rw [← routed] at inOrder
    refine ⟨inOrder, recorded.pending, ?_, handled⟩
    intro request marked id idIn
    simp only at marked
    split at marked
    · cases marked
    · cases marked
      rcases recorded.removable id idIn with nothing | removed
      · cases nothing
      · exact removed

end Delivery
end ShirohaChat
