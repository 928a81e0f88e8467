import ShirohaChat.Client.SessionList

/-!
# What the list of sessions shows

The list and the table have the same sessions with the same counts; which
updates of the one keep up with which changes of the other.
-/

set_option autoImplicit false

namespace ShirohaChat

open LocalDatabase

namespace SessionListModel

variable {sessions : List SessionItem} {db after : LocalDatabase}

structure Shows (sessions : List SessionItem) (db : LocalDatabase) : Prop where
  distinct : (sessions.map SessionItem.sessionId).Nodup
  listed : ∀ sessionId, db.HasSession sessionId →
    ∃ item ∈ sessions, item.sessionId = sessionId
  counted : ∀ item ∈ sessions, item.unreadCount = db.unreadOf item.sessionId

@[simp] theorem sessionId_withName (session : SessionItem) :
    session.withName.sessionId = session.sessionId := by
  unfold SessionItem.withName
  split <;> rfl

@[simp] theorem unreadCount_withName (session : SessionItem) :
    session.withName.unreadCount = session.unreadCount := by
  unfold SessionItem.withName
  split <;> rfl

theorem sessionIds_clearUnread (sessionId : String) (sessions : List SessionItem) :
    (clearUnread sessionId sessions).map SessionItem.sessionId =
      sessions.map SessionItem.sessionId := by
  induction sessions with
  | nil => rfl
  | cons item rest ih =>
      unfold clearUnread
      split
      · rfl
      split
      · rw [List.map_cons, List.map_cons, ih]
      split
      · rfl
      · rfl

/-- Only the first entry of a session is cleared, and there is no other one. -/
theorem mem_clearUnread {sessionId : String} (named : sessionId ≠ "")
    (distinct : (sessions.map SessionItem.sessionId).Nodup)
    (counted : ∀ item ∈ sessions, 0 ≤ item.unreadCount) {item : SessionItem}
    (itemIn : item ∈ clearUnread sessionId sessions) :
    (item.sessionId ≠ sessionId ∧ item ∈ sessions) ∨
      (item.sessionId = sessionId ∧ item.unreadCount = 0) := by
  induction sessions with
  | nil => cases itemIn
  | cons first rest ih =>
      obtain ⟨fresh, distinctRest⟩ := List.nodup_cons.mp distinct
      have restDiffers : first.sessionId = sessionId → ∀ other ∈ rest,
          other.sessionId ≠ sessionId := by
        intro own other otherIn same
        exact fresh (List.mem_map.mpr ⟨other, otherIn, same.trans own.symm⟩)
      unfold clearUnread at itemIn
      rw [if_neg named] at itemIn
      by_cases own : first.sessionId = sessionId
      · rw [if_neg (not_not.mpr own)] at itemIn
        have cleared : (item.sessionId = sessionId ∧ item.unreadCount = 0) ∨ item ∈ rest := by
          split at itemIn
          · rename_i read
            rcases List.mem_cons.mp itemIn with rfl | later
            · exact Or.inl ⟨own, Int.le_antisymm read (counted item List.mem_cons_self)⟩
            · exact Or.inr later
          · rcases List.mem_cons.mp itemIn with rfl | later
            · exact Or.inl ⟨own, rfl⟩
            · exact Or.inr later
        rcases cleared with cleared | later
        · exact Or.inr cleared
        · exact Or.inl ⟨restDiffers own item later, List.mem_cons_of_mem first later⟩
      · rw [if_pos own] at itemIn
        rcases List.mem_cons.mp itemIn with rfl | later
        · exact Or.inl ⟨own, List.mem_cons_self⟩
        · exact (ih distinctRest (fun other otherIn =>
            counted other (List.mem_cons_of_mem first otherIn)) later).imp
            (fun kept => ⟨kept.1, List.mem_cons_of_mem first kept.2⟩) id

theorem Shows.clearUnread (shows : Shows sessions db) {sessionId : String}
    (unnamed : db.unreadOf "" = 0)
    (hasSession : ∀ other, after.HasSession other → db.HasSession other)
    (unreadOf : ∀ other, after.unreadOf other =
      if other = sessionId then 0 else db.unreadOf other) :
    Shows (clearUnread sessionId sessions) after := by
  refine ⟨by rw [sessionIds_clearUnread]; exact shows.distinct, ?_, ?_⟩
  · intro other stored
    obtain ⟨item, itemIn, isOther⟩ := shows.listed other (hasSession other stored)
    have listed : other ∈ (SessionListModel.clearUnread sessionId sessions).map
        SessionItem.sessionId := by
      rw [sessionIds_clearUnread]
      exact List.mem_map.mpr ⟨item, itemIn, isOther⟩
    exact List.mem_map.mp listed
  · intro item itemIn
    rw [unreadOf]
    by_cases named : sessionId = ""
    · have unchanged : SessionListModel.clearUnread sessionId sessions = sessions := by
        cases sessions with
        | nil => rfl
        | cons first rest =>
            unfold SessionListModel.clearUnread
            rw [if_pos named]
      rw [unchanged] at itemIn
      rw [shows.counted item itemIn]
      split
      · rename_i own
        rw [own, named, unnamed]
      · rfl
    · have counted : ∀ listed ∈ sessions, 0 ≤ listed.unreadCount := fun listed listedIn =>
        shows.counted listed listedIn ▸ Int.le_max_left _ _
      rcases mem_clearUnread named shows.distinct counted itemIn with ⟨other, kept⟩ | ⟨own, read⟩
      · rw [if_neg other]
        exact shows.counted item kept
      · rw [if_pos own]
        exact read

def countAfter (sessions : List SessionItem) (session : SessionItem)
    (incrementUnread : Bool) : Int :=
  match sessions.find? fun item => item.sessionId = session.sessionId with
  | none => if incrementUnread then 1 else session.unreadCount
  | some existing => existing.unreadCount + if incrementUnread then 1 else 0

theorem upsertSession_eq {session : SessionItem} (named : session.sessionId ≠ "")
    (distinct : (sessions.map SessionItem.sessionId).Nodup) (incrementUnread : Bool) :
    upsertSession sessions session incrementUnread =
      { session.withName with unreadCount := countAfter sessions session incrementUnread } ::
        sessions.filter fun item => item.sessionId ≠ session.sessionId := by
  unfold upsertSession countAfter
  rw [if_neg named]
  cases found : sessions.find? fun item => item.sessionId = session.sessionId with
  | none =>
      have absent : (sessions.filter fun item => item.sessionId ≠ session.sessionId) =
          sessions := by
        apply List.filter_eq_self.mpr
        intro item itemIn
        have differs := List.find?_eq_none.mp found item itemIn
        simpa using differs
      rw [absent]
  | some existing => rw [RowTable.eraseP_key distinct]

/-- The list follows one session whose count is told to it correctly. -/
theorem Shows.upsertSession (shows : Shows sessions db) {session : SessionItem}
    (named : session.sessionId ≠ "") (unread : session.unreadCount = 0) (incrementUnread : Bool)
    (hasSession : ∀ other, after.HasSession other →
      other = session.sessionId ∨ db.HasSession other)
    (unreadOf : ∀ other, after.unreadOf other =
      if other = session.sessionId then
        db.unreadOf session.sessionId + if incrementUnread then 1 else 0
      else db.unreadOf other) :
    Shows (upsertSession sessions session incrementUnread) after := by
  have count : countAfter sessions session incrementUnread =
      db.unreadOf session.sessionId + if incrementUnread then 1 else 0 := by
    unfold countAfter
    cases found : sessions.find? fun item => item.sessionId = session.sessionId with
    | none =>
        have absent : ¬ db.HasSession session.sessionId := by
          intro stored
          obtain ⟨item, itemIn, isIt⟩ := shows.listed _ stored
          have differs := List.find?_eq_none.mp found item itemIn
          simp [isIt] at differs
        rw [unreadOf_absent absent, unread]
        cases incrementUnread <;> rfl
    | some existing =>
        have isIt : existing.sessionId = session.sessionId := by
          simpa using List.find?_some found
        rw [← isIt, ← shows.counted existing (List.mem_of_find?_eq_some found)]
  rw [upsertSession_eq named shows.distinct]
  refine ⟨?_, ?_, ?_⟩
  · rw [List.map_cons, List.nodup_cons]
    refine ⟨?_, shows.distinct.sublist (List.filter_sublist.map _)⟩
    intro again
    obtain ⟨item, itemIn, same⟩ := List.mem_map.mp again
    have differs := (List.mem_filter.mp itemIn).2
    simp [same] at differs
  · intro other stored
    by_cases own : other = session.sessionId
    · exact ⟨_, List.mem_cons_self, by simp [own]⟩
    · have old := (hasSession other stored).resolve_left own
      obtain ⟨item, itemIn, isOther⟩ := shows.listed other old
      refine ⟨item, List.mem_cons_of_mem _ (List.mem_filter.mpr ⟨itemIn, ?_⟩), isOther⟩
      simpa [isOther] using own
  · intro item itemIn
    rw [unreadOf]
    rcases List.mem_cons.mp itemIn with rfl | later
    · rw [if_pos (by simp)]
      exact count
    · obtain ⟨kept, other⟩ := List.mem_filter.mp later
      rw [if_neg (by simpa using other)]
      exact shows.counted item kept

end SessionListModel

end ShirohaChat
