import Mathlib.Data.List.Basic

/-!
# Keeping a copy fresh by asking again

A client keeps a copy of what a server shows it.  Whenever a notice arrives it
asks for the whole picture, but only one question is open at a time: a notice
that arrives while one is open asks nothing.  The server owes a notice for each
change that matters to the client and sends it after the answers to all
questions it executed before the change.  When nothing is under way the copy is
right: a question that is open when a notice arrives has not been executed
before the change the notice is about, or its answer would have come first.
-/

set_option autoImplicit false

universe u v w

namespace Refresh

/-- `Current server answer` says that the answer describes this state of the
server, `Shows copy server` that the copy does. -/
structure Protocol (Server : Type u) (Message : Type v) (Copy : Type w) where
  isAnswer : Message → Bool
  isNotice : Message → Bool
  Current : Server → Message → Prop
  Shows : Copy → Server → Prop
  distinct : ∀ message, isAnswer message = true → isNotice message = false

/-- `questions` were asked and not executed, `answers` executed and not sent;
`owed` has for each notice still to be sent how many of the unsent answers go
first; `channel` holds what was sent and not received. -/
structure State (Server : Type u) (Message : Type v) (Copy : Type w) where
  server : Server
  questions : Nat
  answers : List Message
  owed : List Nat
  channel : List Message
  asking : Bool
  copy : Copy

variable {Server : Type u} {Message : Type v} {Copy : Type w}

inductive Step (protocol : Protocol Server Message Copy) :
    State Server Message Copy → State Server Message Copy → Prop where
  /-- A change the client does not see. -/
  | quietChange (state : State Server Message Copy) (server : Server)
      (answers : ∀ answer, protocol.Current state.server answer → protocol.Current server answer)
      (copies : ∀ copy, protocol.Shows copy state.server → protocol.Shows copy server) :
      Step protocol state { state with server := server }
  | change (state : State Server Message Copy) (server : Server) :
      Step protocol state
        { state with server := server, owed := state.owed ++ [state.answers.length] }
  | execute (state : State Server Message Copy) (questions : Nat) (answer : Message)
      (asked : state.questions = questions + 1) (isAnswer : protocol.isAnswer answer = true)
      (current : protocol.Current state.server answer) :
      Step protocol state
        { state with questions := questions, answers := state.answers ++ [answer] }
  | sendAnswer (state : State Server Message Copy) (answer : Message) (rest : List Message)
      (next : state.answers = answer :: rest) :
      Step protocol state
        { state with
          answers := rest
          owed := state.owed.map Nat.pred
          channel := state.channel ++ [answer] }
  | sendNotice (state : State Server Message Copy) (notice : Message) (before after : List Nat)
      (due : state.owed = before ++ 0 :: after) (isNotice : protocol.isNotice notice = true) :
      Step protocol state
        { state with owed := before ++ after, channel := state.channel ++ [notice] }
  | sendOther (state : State Server Message Copy) (message : Message)
      (other : protocol.isAnswer message = false) :
      Step protocol state { state with channel := state.channel ++ [message] }
  | receiveAnswer (state : State Server Message Copy) (answer : Message) (rest : List Message)
      (copy : Copy) (next : state.channel = answer :: rest)
      (isAnswer : protocol.isAnswer answer = true)
      (applied : ∀ server, protocol.Current server answer → protocol.Shows copy server) :
      Step protocol state { state with channel := rest, asking := false, copy := copy }
  /-- The copy may change in any way: it is asked for again. -/
  | receiveNotice (state : State Server Message Copy) (notice : Message) (rest : List Message)
      (copy : Copy) (next : state.channel = notice :: rest)
      (isNotice : protocol.isNotice notice = true) :
      Step protocol state
        { state with
          channel := rest
          questions := state.questions + if state.asking then 0 else 1
          asking := true
          copy := copy }
  | receiveOther (state : State Server Message Copy) (message : Message) (rest : List Message)
      (copy : Copy) (next : state.channel = message :: rest)
      (notAnswer : protocol.isAnswer message = false)
      (notNotice : protocol.isNotice message = false)
      (kept : ∀ server, protocol.Shows state.copy server → protocol.Shows copy server) :
      Step protocol state { state with channel := rest, copy := copy }
  | ask (state : State Server Message Copy) :
      Step protocol state
        { state with
          questions := state.questions + if state.asking then 0 else 1
          asking := true }

theorem Protocol.not_isAnswer (protocol : Protocol Server Message Copy) {notice : Message}
    (isNotice : protocol.isNotice notice = true) : protocol.isAnswer notice = false := by
  cases isAnswer : protocol.isAnswer notice with
  | false => rfl
  | true =>
      rw [protocol.distinct notice isAnswer] at isNotice
      cases isNotice

theorem exists_notice_append {protocol : Protocol Server Message Copy} {messages : List Message}
    (added : Message) (noticed : ∃ notice ∈ messages, protocol.isNotice notice = true) :
    ∃ notice ∈ messages ++ [added], protocol.isNotice notice = true := by
  obtain ⟨notice, member, isNotice⟩ := noticed
  exact ⟨notice, List.mem_append_left _ member, isNotice⟩

/-- Every answer in the list is `good`, or a notice comes after it. -/
def Covered (protocol : Protocol Server Message Copy) (good : Message → Prop) :
    List Message → Prop
  | [] => True
  | message :: rest =>
      (protocol.isAnswer message = true →
        good message ∨ ∃ notice ∈ rest, protocol.isNotice notice = true) ∧
      Covered protocol good rest

theorem Covered.mono {protocol : Protocol Server Message Copy} {good better : Message → Prop}
    (implied : ∀ message, good message → better message) (messages : List Message) :
    Covered protocol good messages → Covered protocol better messages := by
  induction messages with
  | nil => exact id
  | cons message rest ih =>
      rintro ⟨head, tail⟩
      exact ⟨fun isAnswer => (head isAnswer).imp (implied message) id, ih tail⟩

theorem Covered.append {protocol : Protocol Server Message Copy} {good : Message → Prop}
    (added : Message) (isGood : protocol.isAnswer added = true → good added)
    (messages : List Message) :
    Covered protocol good messages → Covered protocol good (messages ++ [added]) := by
  induction messages with
  | nil =>
      intro _
      exact ⟨fun isAnswer => Or.inl (isGood isAnswer), trivial⟩
  | cons message rest ih =>
      rintro ⟨head, tail⟩
      exact ⟨fun isAnswer => (head isAnswer).imp id (exists_notice_append added), ih tail⟩

theorem Covered.append_notice {protocol : Protocol Server Message Copy} {good : Message → Prop}
    (notice : Message) (isNotice : protocol.isNotice notice = true)
    (messages : List Message) : Covered protocol good (messages ++ [notice]) := by
  induction messages with
  | nil =>
      refine ⟨fun isAnswer => ?_, trivial⟩
      rw [protocol.distinct notice isAnswer] at isNotice
      cases isNotice
  | cons message rest ih =>
      exact ⟨fun _ => Or.inr ⟨notice, List.mem_append_right _ List.mem_cons_self, isNotice⟩, ih⟩

/-- At most one question is under way; what it will bring is right unless a
notice comes later; and without one the copy is right unless a notice comes. -/
structure Fresh (protocol : Protocol Server Message Copy) (state : State Server Message Copy) :
    Prop where
  oneQuestion : state.questions + state.answers.length +
    state.channel.countP protocol.isAnswer = if state.asking then 1 else 0
  executed : ∀ answer ∈ state.answers, protocol.isAnswer answer = true
  unsent : ∀ answer ∈ state.answers,
    protocol.Current state.server answer ∨ ∃ wait ∈ state.owed, 0 < wait
  sent : Covered protocol (fun answer => protocol.Current state.server answer ∨ state.owed ≠ [])
    state.channel
  settled : state.asking = false → protocol.Shows state.copy state.server ∨ state.owed ≠ [] ∨
    ∃ notice ∈ state.channel, protocol.isNotice notice = true

namespace Fresh

variable {protocol : Protocol Server Message Copy} {state after : State Server Message Copy}

theorem sendAnswer (fresh : Fresh protocol state) {answer : Message} {rest : List Message}
    (next : state.answers = answer :: rest) :
    Fresh protocol { state with
      answers := rest
      owed := state.owed.map Nat.pred
      channel := state.channel ++ [answer] } := by
  have isAnswer := fresh.executed answer (by simp [next])
  have owedKept : state.owed ≠ [] → state.owed.map Nat.pred ≠ [] := by simp
  have oneQuestion := fresh.oneQuestion
  rw [next, List.length_cons] at oneQuestion
  -- only one question is under way, so nothing is left behind this answer
  have alone : rest = [] := by
    apply List.length_eq_zero_iff.mp
    split at oneQuestion <;> omega
  refine ⟨?_, by simp [alone], by simp [alone], ?_, ?_⟩
  · simp only [List.countP_append, List.countP_singleton, isAnswer, if_true]
    omega
  · apply Covered.append answer
    · intro _
      refine (fresh.unsent answer (by simp [next])).imp id ?_
      rintro ⟨wait, member, _⟩
      exact owedKept (List.ne_nil_of_mem member)
    · exact fresh.sent.mono (fun _ => Or.imp id owedKept) _
  · intro idle
    exact (fresh.settled idle).imp id (Or.imp owedKept (exists_notice_append answer))

theorem receiveAnswer (fresh : Fresh protocol state) {answer : Message} {rest : List Message}
    {copy : Copy} (next : state.channel = answer :: rest)
    (isAnswer : protocol.isAnswer answer = true)
    (applied : ∀ server, protocol.Current server answer → protocol.Shows copy server) :
    Fresh protocol { state with channel := rest, asking := false, copy := copy } := by
  have oneQuestion := fresh.oneQuestion
  have sent := fresh.sent
  rw [next] at oneQuestion sent
  simp only [List.countP_cons, isAnswer, if_true] at oneQuestion
  have nothingElse : state.questions + state.answers.length +
      rest.countP protocol.isAnswer = 0 := by
    split at oneQuestion <;> omega
  have noAnswers : state.answers = [] := List.length_eq_zero_iff.mp (by omega)
  refine ⟨nothingElse, fresh.executed, by simp [noAnswers], sent.2, ?_⟩
  intro _
  rcases sent.1 isAnswer with (current | owes) | notice
  · exact Or.inl (applied state.server current)
  · exact Or.inr (Or.inl owes)
  · exact Or.inr (Or.inr notice)

theorem asked_once {questions underWay : Nat} {asking : Bool}
    (one : questions + underWay = if asking then 1 else 0) :
    (questions + if asking then 0 else 1) + underWay = 1 := by
  cases asking <;> simp only [Bool.false_eq_true, if_true, if_false] at one ⊢ <;> omega

theorem change (fresh : Fresh protocol state) (server : Server) :
    Fresh protocol { state with
      server := server, owed := state.owed ++ [state.answers.length] } := by
  have owes : state.owed ++ [state.answers.length] ≠ [] := by simp
  refine ⟨fresh.oneQuestion, fresh.executed, ?_, fresh.sent.mono (fun _ _ => Or.inr owes) _,
    fun _ => Or.inr (Or.inl owes)⟩
  intro answer member
  exact Or.inr ⟨state.answers.length, by simp, List.length_pos_of_mem member⟩

theorem execute (fresh : Fresh protocol state) {questions : Nat} {answer : Message}
    (asked : state.questions = questions + 1) (isAnswer : protocol.isAnswer answer = true)
    (current : protocol.Current state.server answer) :
    Fresh protocol { state with
      questions := questions, answers := state.answers ++ [answer] } := by
  have oneQuestion := fresh.oneQuestion
  refine ⟨?_, ?_, ?_, fresh.sent, fresh.settled⟩
  · simp only [List.length_append, List.length_singleton]
    omega
  · intro other member
    rcases List.mem_append.mp member with old | new
    · exact fresh.executed other old
    · rw [List.mem_singleton.mp new]
      exact isAnswer
  · intro other member
    rcases List.mem_append.mp member with old | new
    · exact fresh.unsent other old
    · rw [List.mem_singleton.mp new]
      exact Or.inl current

theorem sendNotice (fresh : Fresh protocol state) {notice : Message} {before after : List Nat}
    (due : state.owed = before ++ 0 :: after) (isNotice : protocol.isNotice notice = true) :
    Fresh protocol { state with
      owed := before ++ after, channel := state.channel ++ [notice] } := by
  have notAnswer := protocol.not_isAnswer isNotice
  refine ⟨?_, fresh.executed, ?_, Covered.append_notice notice isNotice _, ?_⟩
  · simpa [List.countP_append, notAnswer] using fresh.oneQuestion
  · intro answer member
    refine (fresh.unsent answer member).imp id ?_
    rintro ⟨wait, inOwed, positive⟩
    refine ⟨wait, ?_, positive⟩
    rw [due, List.mem_append, List.mem_cons] at inOwed
    rcases inOwed with early | rfl | late
    · exact List.mem_append_left _ early
    · omega
    · exact List.mem_append_right _ late
  · intro _
    exact Or.inr (Or.inr ⟨notice, List.mem_append_right _ List.mem_cons_self, isNotice⟩)

theorem sendOther (fresh : Fresh protocol state) {message : Message}
    (other : protocol.isAnswer message = false) :
    Fresh protocol { state with channel := state.channel ++ [message] } := by
  refine ⟨?_, fresh.executed, fresh.unsent, ?_, ?_⟩
  · simpa [List.countP_append, other] using fresh.oneQuestion
  · exact fresh.sent.append message fun isAnswer => by rw [other] at isAnswer; cases isAnswer
  · intro idle
    exact (fresh.settled idle).imp id (Or.imp id (exists_notice_append message))

theorem receiveNotice (fresh : Fresh protocol state) {notice : Message} {rest : List Message}
    {copy : Copy} (next : state.channel = notice :: rest)
    (isNotice : protocol.isNotice notice = true) :
    Fresh protocol { state with
      channel := rest
      questions := state.questions + if state.asking then 0 else 1
      asking := true
      copy := copy } := by
  have notAnswer := protocol.not_isAnswer isNotice
  have oneQuestion := fresh.oneQuestion
  have sent := fresh.sent
  rw [next] at oneQuestion sent
  simp only [List.countP_cons, notAnswer] at oneQuestion
  refine ⟨?_, fresh.executed, fresh.unsent, sent.2, by simp⟩
  simp only [Bool.false_eq_true, if_false, Nat.add_zero, Nat.add_assoc] at oneQuestion
  exact (Nat.add_assoc _ _ _).trans (asked_once oneQuestion)

theorem receiveOther (fresh : Fresh protocol state) {message : Message} {rest : List Message}
    {copy : Copy} (next : state.channel = message :: rest)
    (notAnswer : protocol.isAnswer message = false)
    (notNotice : protocol.isNotice message = false)
    (kept : ∀ server, protocol.Shows state.copy server → protocol.Shows copy server) :
    Fresh protocol { state with channel := rest, copy := copy } := by
  have ⟨oneQuestion, executed, unsent, sent, settled⟩ := fresh
  rw [next] at oneQuestion sent settled
  simp only [List.countP_cons, notAnswer] at oneQuestion
  refine ⟨by simpa using oneQuestion, executed, unsent, sent.2, ?_⟩
  intro idle
  refine (settled idle).imp (kept state.server) (Or.imp id ?_)
  rintro ⟨notice, member, isNotice⟩
  rcases List.mem_cons.mp member with rfl | inRest
  · rw [notNotice] at isNotice
    cases isNotice
  · exact ⟨notice, inRest, isNotice⟩

theorem step (fresh : Fresh protocol state) (stepped : Step protocol state after) :
    Fresh protocol after := by
  cases stepped with
  | quietChange server answers copies =>
      refine ⟨fresh.oneQuestion, fresh.executed, ?_, ?_, ?_⟩
      · intro answer member
        exact (fresh.unsent answer member).imp (answers answer) id
      · exact fresh.sent.mono (fun answer => Or.imp (answers answer) id) _
      · intro idle
        exact (fresh.settled idle).imp (copies state.copy) id
  | change server => exact fresh.change server
  | execute questions answer asked isAnswer current =>
      exact fresh.execute asked isAnswer current
  | sendAnswer answer rest next => exact fresh.sendAnswer next
  | sendNotice notice before after due isNotice => exact fresh.sendNotice due isNotice
  | sendOther message other => exact fresh.sendOther other
  | receiveAnswer answer rest copy next isAnswer applied =>
      exact fresh.receiveAnswer next isAnswer applied
  | receiveNotice notice rest copy next isNotice => exact fresh.receiveNotice next isNotice
  | receiveOther message rest copy next notAnswer notNotice kept =>
      exact fresh.receiveOther next notAnswer notNotice kept
  | ask =>
      have oneQuestion := fresh.oneQuestion
      refine ⟨?_, fresh.executed, fresh.unsent, fresh.sent, by simp⟩
      rw [Nat.add_assoc] at oneQuestion
      exact (Nat.add_assoc _ _ _).trans (asked_once oneQuestion)

def Quiet (state : State Server Message Copy) : Prop :=
  state.questions = 0 ∧ state.answers = [] ∧ state.owed = [] ∧ state.channel = []

theorem shows_of_quiet (fresh : Fresh protocol state) (quiet : Quiet state) :
    protocol.Shows state.copy state.server := by
  obtain ⟨questions, answers, owed, channel⟩ := quiet
  have idle : state.asking = false := by
    have one := fresh.oneQuestion
    rw [questions, answers, channel] at one
    cases asking : state.asking with
    | false => rfl
    | true => simp [asking] at one
  rcases fresh.settled idle with shows | owes | ⟨notice, member, _⟩
  · exact shows
  · exact absurd owed owes
  · rw [channel] at member
    cases member

end Fresh
end Refresh
