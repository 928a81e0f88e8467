import ShirohaChat.Client.ShownSessions

/-!
# The rows of the list of sessions

`SessionListModel` with all fields of its rows, over any sequence of its calls.
A listed session moves to the front when it is updated; its count is the one it
was last given and what was added to it since.
-/

set_option autoImplicit false

namespace ShirohaChat

/-- `SessionListModel::SessionItem`. -/
structure ListedItem where
  sessionId : String
  displayName : String := ""
  lastMessage : String := ""
  timeString : String := ""
  avatarUrl : String := ""
  unreadCount : Int := 0
  sessionType : Int := 0
  deriving DecidableEq

namespace ListedItem

def withName (session : ListedItem) : ListedItem :=
  if session.displayName = "" then { session with displayName := session.sessionId } else session

def updated (existing session : ListedItem) (incrementUnread : Bool) : ListedItem :=
  { existing with
    displayName := session.displayName
    lastMessage := session.lastMessage
    timeString := session.timeString
    avatarUrl := session.avatarUrl
    sessionType := session.sessionType
    unreadCount := if incrementUnread then existing.unreadCount + 1 else existing.unreadCount }

@[simp] theorem sessionId_withName (session : ListedItem) :
    session.withName.sessionId = session.sessionId := by
  unfold withName
  split <;> rfl

@[simp] theorem unreadCount_withName (session : ListedItem) :
    session.withName.unreadCount = session.unreadCount := by
  unfold withName
  split <;> rfl

theorem displayName_withName {session : ListedItem} (named : session.sessionId ≠ "") :
    session.withName.displayName ≠ "" := by
  unfold withName
  split
  · exact named
  · assumption

/-- The row as the other use cases see it. -/
def shown (session : ListedItem) : SessionItem :=
  ⟨session.sessionId, session.displayName, session.unreadCount,
    if session.sessionType = 1 then .groupChat else .privateChat⟩

theorem shown_withName (session : ListedItem) :
    session.withName.shown = session.shown.withName := by
  unfold withName SessionItem.withName shown
  by_cases unnamed : session.displayName = ""
  · simp [unnamed]
  · simp [unnamed]

end ListedItem

namespace ListedSessions

def refresh (sessions : List ListedItem) : List ListedItem :=
  sessions.map ListedItem.withName

/-- `QList::move(row, 0)`. -/
def moveToFront (row : Nat) (sessions : List ListedItem) : List ListedItem :=
  match sessions[row]? with
  | none => sessions
  | some session => session :: sessions.eraseIdx row

def upsertSession (sessions : List ListedItem) (session : ListedItem) (incrementUnread : Bool) :
    List ListedItem :=
  if session.sessionId = "" then sessions
  else
    match sessions.findIdx? fun item => item.sessionId = session.withName.sessionId with
    | none =>
        (if incrementUnread then { session.withName with unreadCount := 1 }
          else session.withName) :: sessions
    | some existingRow =>
        moveToFront existingRow (sessions.modify existingRow fun existing =>
          existing.updated session.withName incrementUnread)

def clearUnread (sessionId : String) : List ListedItem → List ListedItem
  | [] => []
  | item :: rest =>
      if sessionId = "" then item :: rest
      else if item.sessionId ≠ sessionId then item :: clearUnread sessionId rest
      else if item.unreadCount ≤ 0 then item :: rest
      else { item with unreadCount := 0 } :: rest

/-! ## One call -/

theorem moveToFront_modify (chosen : ListedItem → Bool) (change : ListedItem → ListedItem)
    (sessions : List ListedItem) : ∀ row, sessions.findIdx? chosen = some row →
      ∃ existing, sessions.find? chosen = some existing ∧
        moveToFront row (sessions.modify row change) =
          change existing :: sessions.eraseP chosen := by
  induction sessions with
  | nil =>
      intro row found
      cases found
  | cons item rest ih =>
      intro row found
      rw [List.findIdx?_cons] at found
      by_cases isChosen : chosen item = true
      · rw [if_pos isChosen] at found
        cases found
        refine ⟨item, List.find?_cons_of_pos isChosen, ?_⟩
        rw [List.eraseP_cons_of_pos isChosen]
        simp [moveToFront]
      · rw [if_neg isChosen] at found
        obtain ⟨later, foundLater, rfl⟩ := Option.map_eq_some_iff.mp found
        obtain ⟨existing, foundExisting, moved⟩ := ih later foundLater
        refine ⟨existing, ?_, ?_⟩
        · rw [List.find?_cons_of_neg isChosen, foundExisting]
        · rw [List.eraseP_cons_of_neg isChosen]
          unfold moveToFront at moved ⊢
          rw [List.modify_succ_cons, List.getElem?_cons_succ]
          cases atRow : (rest.modify later change)[later]? with
          | none =>
              rw [atRow] at moved
              have missing := List.getElem?_eq_none_iff.mp atRow
              have inside := (List.findIdx?_eq_some_iff_findIdx_eq.mp foundLater).1
              rw [List.length_modify] at missing
              omega
          | some changed =>
              rw [atRow] at moved
              simp only [List.cons.injEq] at moved
              simp only [List.eraseIdx_cons_succ, moved.1, moved.2]

def rowAfter (sessions : List ListedItem) (session : ListedItem) (incrementUnread : Bool) :
    ListedItem :=
  match sessions.find? fun item => item.sessionId = session.sessionId with
  | none =>
      if incrementUnread then { session.withName with unreadCount := 1 } else session.withName
  | some existing => existing.updated session.withName incrementUnread

theorem upsertSession_eq_eraseP (sessions : List ListedItem) {session : ListedItem}
    (named : session.sessionId ≠ "") (incrementUnread : Bool) :
    upsertSession sessions session incrementUnread =
      rowAfter sessions session incrementUnread ::
        sessions.eraseP fun item => item.sessionId = session.sessionId := by
  unfold upsertSession rowAfter
  rw [if_neg named, ListedItem.sessionId_withName]
  cases found : sessions.findIdx? fun item => item.sessionId = session.sessionId with
  | none =>
      have absent := List.findIdx?_eq_none_iff.mp found
      rw [List.find?_eq_none.mpr (by simpa using absent), List.eraseP_of_forall_not
        (by simpa using absent)]
  | some row =>
      obtain ⟨existing, isExisting, moved⟩ := moveToFront_modify _
        (fun existing => existing.updated session.withName incrementUnread) sessions row found
      rw [isExisting]
      exact moved

theorem upsertSession_eq {sessions : List ListedItem} {session : ListedItem}
    (named : session.sessionId ≠ "")
    (distinct : (sessions.map ListedItem.sessionId).Nodup) (incrementUnread : Bool) :
    upsertSession sessions session incrementUnread =
      rowAfter sessions session incrementUnread ::
        sessions.filter fun item => item.sessionId ≠ session.sessionId := by
  rw [upsertSession_eq_eraseP sessions named, RowTable.eraseP_key distinct]

section Calls
variable {sessions : List ListedItem} {session : ListedItem}

theorem rowAfter_fields (named : session.sessionId ≠ "") (incrementUnread : Bool) :
    (rowAfter sessions session incrementUnread).sessionId = session.sessionId ∧
    (rowAfter sessions session incrementUnread).displayName = session.withName.displayName ∧
    (rowAfter sessions session incrementUnread).displayName ≠ "" ∧
    (rowAfter sessions session incrementUnread).lastMessage = session.lastMessage ∧
    (rowAfter sessions session incrementUnread).timeString = session.timeString ∧
    (rowAfter sessions session incrementUnread).avatarUrl = session.avatarUrl ∧
    (rowAfter sessions session incrementUnread).sessionType = session.sessionType := by
  have shownName := ListedItem.displayName_withName named
  have sameFields : session.withName.lastMessage = session.lastMessage ∧
      session.withName.timeString = session.timeString ∧
      session.withName.avatarUrl = session.avatarUrl ∧
      session.withName.sessionType = session.sessionType := by
    unfold ListedItem.withName
    split
    · exact ⟨rfl, rfl, rfl, rfl⟩
    · exact ⟨rfl, rfl, rfl, rfl⟩
  have sameId := ListedItem.sessionId_withName session
  unfold rowAfter
  cases found : sessions.find? fun item => item.sessionId = session.sessionId with
  | none =>
      simp only
      split
      · exact ⟨sameId, rfl, shownName, sameFields⟩
      · exact ⟨sameId, rfl, shownName, sameFields⟩
  | some existing =>
      have isIt : existing.sessionId = session.sessionId := by
        simpa using List.find?_some found
      exact ⟨isIt, rfl, shownName, sameFields⟩

theorem sessionIds_refresh (sessions : List ListedItem) :
    (refresh sessions).map ListedItem.sessionId = sessions.map ListedItem.sessionId := by
  rw [refresh, List.map_map]
  apply List.map_congr_left
  intro item _
  exact ListedItem.sessionId_withName item

theorem sessionIds_clearUnread (sessionId : String) (sessions : List ListedItem) :
    (clearUnread sessionId sessions).map ListedItem.sessionId =
      sessions.map ListedItem.sessionId := by
  induction sessions with
  | nil => rfl
  | cons item rest ih =>
      unfold clearUnread
      split
      · rfl
      split
      · rw [List.map_cons, List.map_cons, ih]
      split
      · rfl
      · rfl

theorem sessionIds_upsertSession (named : session.sessionId ≠ "")
    (distinct : (sessions.map ListedItem.sessionId).Nodup) (incrementUnread : Bool) :
    ((upsertSession sessions session incrementUnread).map ListedItem.sessionId).Nodup := by
  rw [upsertSession_eq named distinct, List.map_cons, (rowAfter_fields named _).1,
    List.nodup_cons]
  refine ⟨?_, distinct.sublist (List.filter_sublist.map _)⟩
  intro again
  obtain ⟨item, itemIn, same⟩ := List.mem_map.mp again
  have differs := (List.mem_filter.mp itemIn).2
  simp [same] at differs

/-! ## The count of a session -/

def countOf (sessions : List ListedItem) (sessionId : String) : Option Int :=
  (sessions.find? fun item => item.sessionId = sessionId).map ListedItem.unreadCount

theorem countOf_cons (item : ListedItem) (rest : List ListedItem) (sessionId : String) :
    countOf (item :: rest) sessionId =
      if item.sessionId = sessionId then some item.unreadCount else countOf rest sessionId := by
  unfold countOf
  rw [List.find?_cons]
  by_cases own : item.sessionId = sessionId
  · simp [own]
  · simp [own]

theorem countOf_eq_some {item : ListedItem} (distinct : (sessions.map ListedItem.sessionId).Nodup)
    (itemIn : item ∈ sessions) : countOf sessions item.sessionId = some item.unreadCount := by
  unfold countOf
  cases found : sessions.find? fun other => other.sessionId = item.sessionId with
  | none =>
      have missing := List.find?_eq_none.mp found item itemIn
      simp at missing
  | some other =>
      have sameId : other.sessionId = item.sessionId := by simpa using List.find?_some found
      rw [List.inj_on_of_nodup_map distinct (List.mem_of_find?_eq_some found) itemIn sameId]
      rfl

theorem countOf_refresh (sessions : List ListedItem) (sessionId : String) :
    countOf (refresh sessions) sessionId = countOf sessions sessionId := by
  unfold countOf refresh
  rw [List.find?_map]
  have sameChoice : ((fun item : ListedItem => decide (item.sessionId = sessionId)) ∘
      ListedItem.withName) = fun item => decide (item.sessionId = sessionId) := by
    funext item
    simp
  rw [sameChoice, Option.map_map]
  cases sessions.find? fun item => decide (item.sessionId = sessionId) with
  | none => rfl
  | some item => simp

theorem countOf_upsertSession (named : session.sessionId ≠ "") (incrementUnread : Bool)
    (distinct : (sessions.map ListedItem.sessionId).Nodup) (sessionId : String) :
    countOf (upsertSession sessions session incrementUnread) sessionId =
      if sessionId = session.sessionId then
        some (((countOf sessions session.sessionId).map fun count =>
          count + if incrementUnread then 1 else 0).getD
            (if incrementUnread then 1 else session.unreadCount))
      else countOf sessions sessionId := by
  rw [upsertSession_eq named distinct]
  by_cases own : sessionId = session.sessionId
  · rw [if_pos own, countOf, List.find?_cons_of_pos (by simp [own, (rowAfter_fields named _).1]),
      countOf, rowAfter]
    cases sessions.find? fun item => item.sessionId = session.sessionId with
    | none => cases incrementUnread <;> simp
    | some existing => cases incrementUnread <;> simp [ListedItem.updated]
  · have differs : ¬ session.sessionId = sessionId := fun same => own same.symm
    rw [if_neg own, countOf,
      List.find?_cons_of_neg (by simp [differs, (rowAfter_fields named _).1]), countOf,
      List.find?_filter]
    congr 1
    congr 1
    funext item
    by_cases isIt : item.sessionId = sessionId
    · simp [isIt, own]
    · simp [isIt]

theorem countOf_clearUnread {cleared : String} (named : cleared ≠ "") (sessionId : String)
    (sessions : List ListedItem) :
    countOf (clearUnread cleared sessions) sessionId =
      if sessionId = cleared then (countOf sessions cleared).map fun count => min count 0
      else countOf sessions sessionId := by
  induction sessions with
  | nil =>
      rw [clearUnread]
      split <;> rfl
  | cons item rest ih =>
      unfold clearUnread
      rw [if_neg named]
      by_cases own : item.sessionId = cleared
      · rw [if_neg (not_not.mpr own)]
        have read : (if item.unreadCount ≤ 0 then item :: rest
            else { item with unreadCount := 0 } :: rest) =
            { item with unreadCount := min item.unreadCount 0 } :: rest := by
          split
          · rename_i none
            rw [min_eq_left none]
          · rename_i some
            rw [min_eq_right (le_of_lt (not_le.mp some))]
        rw [read, countOf_cons, countOf_cons, countOf_cons, if_pos own]
        by_cases asked : sessionId = cleared
        · rw [if_pos (own.trans asked.symm), if_pos asked]
          rfl
        · rw [if_neg fun same => asked (same.symm.trans own), if_neg asked,
            if_neg fun same => asked (same.symm.trans own)]
      · rw [if_pos own, countOf_cons, countOf_cons, countOf_cons, ih, if_neg own]
        by_cases here : item.sessionId = sessionId
        · rw [if_pos here, if_neg fun asked => own (here.trans asked), if_pos here]
        · rw [if_neg here, if_neg here]

end Calls

/-! ## Sequences of calls -/

inductive ListCall where
  | refresh (sessions : List ListedItem)
  | upsertSession (session : ListedItem) (incrementUnread : Bool)
  | clearUnread (sessionId : String)

namespace ListCall

def next (sessions : List ListedItem) : ListCall → List ListedItem
  | .refresh items => ListedSessions.refresh items
  | .upsertSession session incrementUnread =>
      ListedSessions.upsertSession sessions session incrementUnread
  | .clearUnread sessionId => ListedSessions.clearUnread sessionId sessions

def Admitted : ListCall → Prop
  | .refresh items =>
      (items.map ListedItem.sessionId).Nodup ∧ ∀ item ∈ items, item.sessionId ≠ ""
  | _ => True

/-- The call adds one to the count of the session, or puts it at one. -/
def increments (sessionId : String) : ListCall → Bool
  | .upsertSession session incrementUnread => session.sessionId = sessionId ∧ incrementUnread
  | _ => false

end ListCall

def run (calls : List ListCall) : List ListedItem := calls.foldl ListCall.next []

theorem run_append (calls : List ListCall) (call : ListCall) :
    run (calls ++ [call]) = call.next (run calls) := by
  rw [run, run, List.foldl_append]
  rfl

structure Distinct (sessions : List ListedItem) : Prop where
  ids : (sessions.map ListedItem.sessionId).Nodup
  named : ∀ item ∈ sessions, item.sessionId ≠ ""

theorem Distinct.next {sessions : List ListedItem} (distinct : Distinct sessions)
    {call : ListCall} (admitted : call.Admitted) : Distinct (call.next sessions) := by
  have byIds : ∀ {before after : List ListedItem},
      after.map ListedItem.sessionId = before.map ListedItem.sessionId →
      (∀ item ∈ before, item.sessionId ≠ "") → ∀ item ∈ after, item.sessionId ≠ "" := by
    intro before after same named item itemIn
    obtain ⟨other, otherIn, sameId⟩ := List.mem_map.mp (same ▸ List.mem_map_of_mem itemIn)
    exact sameId ▸ named other otherIn
  cases call with
  | refresh items =>
      have same := sessionIds_refresh items
      exact ⟨by rw [ListCall.next, same]; exact admitted.1, byIds same admitted.2⟩
  | clearUnread sessionId =>
      have same := sessionIds_clearUnread sessionId sessions
      exact ⟨by rw [ListCall.next, same]; exact distinct.ids, byIds same distinct.named⟩
  | upsertSession session incrementUnread =>
      rw [ListCall.next]
      by_cases named : session.sessionId = ""
      · rw [upsertSession, if_pos named]
        exact distinct
      · refine ⟨sessionIds_upsertSession named distinct.ids incrementUnread, ?_⟩
        rw [upsertSession_eq named distinct.ids]
        intro item itemIn
        rcases List.mem_cons.mp itemIn with rfl | later
        · rw [(rowAfter_fields named incrementUnread).1]
          exact named
        · exact distinct.named item (List.mem_filter.mp later).1

theorem distinct_run (calls : List ListCall) (admitted : ∀ call ∈ calls, call.Admitted) :
    Distinct (run calls) := by
  induction calls using List.reverseRecOn with
  | nil =>
      refine ⟨List.nodup_nil, ?_⟩
      intro item itemIn
      cases itemIn
  | append_singleton calls call ih =>
      rw [run_append]
      have before := ih fun other otherIn => admitted other (List.mem_append_left _ otherIn)
      exact before.next (admitted call (List.mem_append_right _ (List.mem_singleton_self call)))

inductive ResetsTo (sessions : List ListedItem) : ListCall → String → Int → Prop where
  | refreshed {items : List ListedItem} {item : ListedItem} (itemIn : item ∈ items) :
      ResetsTo sessions (.refresh items) item.sessionId item.unreadCount
  | inserted {session : ListedItem} {incrementUnread : Bool} (named : session.sessionId ≠ "")
      (absent : countOf sessions session.sessionId = none) :
      ResetsTo sessions (.upsertSession session incrementUnread) session.sessionId
        (if incrementUnread then 1 else session.unreadCount)
  | cleared {sessionId : String} {count : Int} (named : sessionId ≠ "")
      (listed : countOf sessions sessionId = some count) :
      ResetsTo sessions (.clearUnread sessionId) sessionId (min count 0)

def KeepsCount (sessionId : String) : List ListedItem → List ListCall → Prop
  | _, [] => True
  | sessions, call :: rest =>
      (∀ value, ¬ ResetsTo sessions call sessionId value) ∧
        KeepsCount sessionId (call.next sessions) rest

theorem KeepsCount.append {sessionId : String} {call : ListCall} (calls : List ListCall) :
    ∀ {sessions : List ListedItem}, KeepsCount sessionId sessions calls →
      (∀ value, ¬ ResetsTo (calls.foldl ListCall.next sessions) call sessionId value) →
      KeepsCount sessionId sessions (calls ++ [call]) := by
  induction calls with
  | nil =>
      intro sessions _ keeps
      exact ⟨keeps, trivial⟩
  | cons first rest ih =>
      intro sessions kept keeps
      exact ⟨kept.1, ih kept.2 keeps⟩

def Follows (sessions : List ListedItem) (call : ListCall) (sessionId : String) (count : Int) :
    Prop :=
  ResetsTo sessions call sessionId count ∨
    ((∀ value, ¬ ResetsTo sessions call sessionId value) ∧
      ∃ old, countOf sessions sessionId = some old ∧
        count = old + if call.increments sessionId then 1 else 0)

theorem mem_of_countOf {sessions : List ListedItem} {sessionId : String} {count : Int}
    (listed : countOf sessions sessionId = some count) :
    ∃ item ∈ sessions, item.sessionId = sessionId ∧ item.unreadCount = count := by
  obtain ⟨item, found, sameCount⟩ := Option.map_eq_some_iff.mp listed
  exact ⟨item, List.mem_of_find?_eq_some found, by simpa using List.find?_some found, sameCount⟩

theorem clearUnread_unnamed (sessions : List ListedItem) : clearUnread "" sessions = sessions := by
  cases sessions with
  | nil => rfl
  | cons item rest => rw [clearUnread, if_pos rfl]

theorem follows_clearUnread {sessions : List ListedItem} {cleared sessionId : String}
    {count : Int} (listed : countOf (clearUnread cleared sessions) sessionId = some count) :
    Follows sessions (.clearUnread cleared) sessionId count := by
  by_cases named : cleared = ""
  · rw [named, clearUnread_unnamed] at listed
    refine Or.inr ⟨?_, count, listed, by simp [ListCall.increments]⟩
    rintro value ⟨⟩
    contradiction
  · rw [countOf_clearUnread named] at listed
    split at listed
    · rename_i own
      obtain ⟨old, wasListed, rfl⟩ := Option.map_eq_some_iff.mp listed
      rw [own]
      exact Or.inl (.cleared named wasListed)
    · rename_i other
      refine Or.inr ⟨?_, count, listed, by simp [ListCall.increments]⟩
      rintro value ⟨⟩
      exact other rfl

theorem follows_upsertSession {sessions : List ListedItem} (distinct : Distinct sessions)
    {session : ListedItem} {incrementUnread : Bool} {sessionId : String} {count : Int}
    (listed : countOf (upsertSession sessions session incrementUnread) sessionId = some count) :
    Follows sessions (.upsertSession session incrementUnread) sessionId count := by
  by_cases named : session.sessionId = ""
  · rw [upsertSession, if_pos named] at listed
    obtain ⟨item, itemIn, rfl, -⟩ := mem_of_countOf listed
    have itemNamed := distinct.named item itemIn
    refine Or.inr ⟨?_, count, listed, by simp [ListCall.increments, named, itemNamed.symm]⟩
    intro value reset
    generalize isItem : item.sessionId = sessionId at reset
    cases reset
    exact itemNamed (isItem.trans named)
  · rw [countOf_upsertSession named incrementUnread distinct.ids] at listed
    by_cases own : sessionId = session.sessionId
    · rw [if_pos own] at listed
      subst own
      cases before : countOf sessions session.sessionId with
      | none =>
          rw [before] at listed
          cases listed
          exact Or.inl (.inserted named before)
      | some old =>
          rw [before] at listed
          cases listed
          refine Or.inr ⟨?_, old, before, by simp [ListCall.increments]⟩
          rintro value ⟨⟩
          rename_i absent
          rw [before] at absent
          cases absent
    · rw [if_neg own] at listed
      have differs : ¬ session.sessionId = sessionId := fun same => own same.symm
      refine Or.inr ⟨?_, count, listed, by simp [ListCall.increments, differs]⟩
      rintro value ⟨⟩
      exact own rfl

theorem countOf_next {sessions : List ListedItem} (distinct : Distinct sessions)
    {call : ListCall} {sessionId : String} {count : Int}
    (listed : countOf (call.next sessions) sessionId = some count) :
    Follows sessions call sessionId count := by
  cases call with
  | refresh items =>
      rw [ListCall.next, countOf_refresh] at listed
      obtain ⟨item, itemIn, rfl, rfl⟩ := mem_of_countOf listed
      exact Or.inl (.refreshed itemIn)
  | clearUnread cleared => exact follows_clearUnread listed
  | upsertSession session incrementUnread => exact follows_upsertSession distinct listed

/-- The count of the row is the one of its last reset, and one more for every
call since that increments it. -/
def Counted (calls : List ListCall) (sessionId : String) (count : Int) : Prop :=
  ∃ before reset after value, calls = before ++ reset :: after ∧
    ResetsTo (run before) reset sessionId value ∧
    KeepsCount sessionId (run (before ++ [reset])) after ∧
    count = value + (after.countP (ListCall.increments sessionId) : Nat)

theorem counted_run (calls : List ListCall) (admitted : ∀ call ∈ calls, call.Admitted) :
    ∀ {sessionId : String} {count : Int}, countOf (run calls) sessionId = some count →
      Counted calls sessionId count := by
  induction calls using List.reverseRecOn with
  | nil =>
      intro sessionId count listed
      cases listed
  | append_singleton calls call ih =>
      intro sessionId count listed
      have admittedBefore : ∀ other ∈ calls, other.Admitted :=
        fun other otherIn => admitted other (List.mem_append_left _ otherIn)
      rw [run_append] at listed
      rcases countOf_next (distinct_run calls admittedBefore) listed with
        reset | ⟨keeps, old, wasListed, rfl⟩
      · exact ⟨calls, call, [], count, rfl, reset, trivial, by simp⟩
      · obtain ⟨before, reset, after, value, rfl, resets, kept, rfl⟩ :=
          ih admittedBefore wasListed
        have reached : after.foldl ListCall.next (run (before ++ [reset])) =
            run (before ++ reset :: after) := by
          simp [run]
        refine ⟨before, reset, after ++ [call], value, by simp, resets, ?_, ?_⟩
        · apply kept.append
          rw [reached]
          exact keeps
        · rw [List.countP_append, List.countP_singleton]
          split
          · push_cast
            omega
          · push_cast
            omega

/-! ## The rows as the other use cases see them -/

theorem shown_refresh (sessions : List ListedItem) :
    (refresh sessions).map ListedItem.shown =
      SessionListModel.refresh (sessions.map ListedItem.shown) := by
  rw [refresh, SessionListModel.refresh, List.map_map, List.map_map]
  apply List.map_congr_left
  intro item _
  exact ListedItem.shown_withName item

theorem shown_clearUnread (sessionId : String) (sessions : List ListedItem) :
    (clearUnread sessionId sessions).map ListedItem.shown =
      SessionListModel.clearUnread sessionId (sessions.map ListedItem.shown) := by
  induction sessions with
  | nil => rfl
  | cons item rest ih =>
      have sameId : item.shown.sessionId = item.sessionId := rfl
      have sameCount : item.shown.unreadCount = item.unreadCount := rfl
      rw [List.map_cons]
      unfold clearUnread SessionListModel.clearUnread
      rw [sameId, sameCount]
      split
      · rfl
      split
      · rw [List.map_cons, ih]
      split
      · rfl
      · rfl

theorem shown_rowAfter (sessions : List ListedItem) (session : ListedItem)
    (incrementUnread : Bool) :
    (rowAfter sessions session incrementUnread).shown =
      match (sessions.map ListedItem.shown).find? fun item =>
          item.sessionId = session.shown.sessionId with
      | none => { session.shown.withName with
          unreadCount := if incrementUnread then 1 else session.shown.unreadCount }
      | some existing => { session.shown.withName with
          unreadCount := existing.unreadCount + if incrementUnread then 1 else 0 } := by
  have sameFind : ((sessions.map ListedItem.shown).find? fun item =>
      item.sessionId = session.shown.sessionId) =
      (sessions.find? fun item => item.sessionId = session.sessionId).map ListedItem.shown := by
    rw [List.find?_map]
    rfl
  rw [sameFind, ← ListedItem.shown_withName, rowAfter]
  cases found : sessions.find? fun item => item.sessionId = session.sessionId with
  | none => cases incrementUnread <;> simp [ListedItem.shown]
  | some existing =>
      have isIt : existing.sessionId = session.sessionId := by
        simpa using List.find?_some found
      cases incrementUnread <;> simp [ListedItem.shown, ListedItem.updated, isIt]

/-- Every update of the rows is the update of what the other use cases see. -/
theorem shown_upsertSession (sessions : List ListedItem) (session : ListedItem)
    (incrementUnread : Bool) :
    (upsertSession sessions session incrementUnread).map ListedItem.shown =
      SessionListModel.upsertSession (sessions.map ListedItem.shown) session.shown
        incrementUnread := by
  by_cases named : session.sessionId = ""
  · rw [upsertSession, if_pos named, SessionListModel.upsertSession,
      if_pos (show session.shown.sessionId = "" from named)]
  · have rest : (sessions.eraseP fun item => item.sessionId = session.sessionId).map
        ListedItem.shown = (sessions.map ListedItem.shown).eraseP fun item =>
          item.sessionId = session.shown.sessionId := by
      rw [List.eraseP_map]
      rfl
    rw [upsertSession_eq_eraseP sessions named, List.map_cons, rest, shown_rowAfter,
      SessionListModel.upsertSession, if_neg (show ¬ session.shown.sessionId = "" from named)]
    cases found : (sessions.map ListedItem.shown).find? fun item =>
        item.sessionId = session.shown.sessionId with
    | none =>
        have absent := List.find?_eq_none.mp found
        simp only
        rw [List.eraseP_of_forall_not absent]
    | some existing => rfl

end ListedSessions
open ListedSessions in
/-- After any calls the ids are distinct, an update puts its session first and
keeps the other rows in order, and every count is accounted for. -/
theorem sessionList_accounts (calls : List ListCall)
    (admitted : ∀ call ∈ calls, call.Admitted) :
    ((run calls).map ListedItem.sessionId).Nodup ∧
    (∀ (session : ListedItem) (incrementUnread : Bool), session.sessionId ≠ "" →
      ∃ first, run (calls ++ [.upsertSession session incrementUnread]) =
          first :: (run calls).filter (fun item => item.sessionId ≠ session.sessionId) ∧
        first.sessionId = session.sessionId ∧
        first.displayName = session.withName.displayName ∧ first.displayName ≠ "" ∧
        first.lastMessage = session.lastMessage ∧ first.timeString = session.timeString ∧
        first.avatarUrl = session.avatarUrl ∧ first.sessionType = session.sessionType) ∧
    ∀ item ∈ run calls, Counted calls item.sessionId item.unreadCount := by
  have distinct := distinct_run calls admitted
  refine ⟨distinct.ids, ?_, ?_⟩
  · intro session incrementUnread named
    refine ⟨rowAfter (run calls) session incrementUnread, ?_, rowAfter_fields named _⟩
    rw [run_append]
    exact upsertSession_eq named distinct.ids incrementUnread
  · intro item itemIn
    exact counted_run calls admitted (countOf_eq_some distinct.ids itemIn)

open ListedSessions in
theorem sessionList_accounts_two :
    ((run [.refresh [{ sessionId := "s1", unreadCount := 2 }, { sessionId := "s2" }],
      .upsertSession { sessionId := "s2", displayName := "Bob" } true]).map
        ListedItem.sessionId).Nodup ∧
    Counted [.refresh [{ sessionId := "s1", unreadCount := 2 }, { sessionId := "s2" }],
      .upsertSession { sessionId := "s2", displayName := "Bob" } true] "s2" 1 := by
  have accounts := sessionList_accounts
    [.refresh [{ sessionId := "s1", unreadCount := 2 }, { sessionId := "s2" }],
      .upsertSession { sessionId := "s2", displayName := "Bob" } true] ?admitted
  case admitted =>
    intro call member
    rcases List.mem_cons.mp member with rfl | later
    · exact ⟨by decide, by decide⟩
    · rw [List.mem_singleton.mp later]
      trivial
  exact ⟨accounts.1, accounts.2.2 ⟨"s2", "Bob", "", "", "", 1, 0⟩ List.mem_cons_self⟩

end ShirohaChat
