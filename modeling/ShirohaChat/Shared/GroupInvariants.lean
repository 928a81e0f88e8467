import Mathlib.Data.List.Induction
import Mathlib.Data.List.Nodup
import ShirohaChat.Shared.Domain

/-!
# The membership rules of a group

Sequences of calls on one group.  The rules survive every call but one: nothing
keeps `addMember` from filling a dissolved group again.
-/

set_option autoImplicit false

namespace ShirohaChat

/-! ## One call -/

inductive GroupCall where
  | addMember (memberId : String) (role : GroupMemberRole)
  | removeMember (actorId targetId : String)
  | leave (actorId : String)

def GroupCall.on (group : Group) : GroupCall → Group × GroupOperationResult
  | .addMember memberId role => group.addMember memberId role
  | .removeMember actorId targetId => group.removeMember actorId targetId
  | .leave actorId => group.leave actorId

inductive GroupCall.Outcome (group : Group) : GroupCall → Group × GroupOperationResult → Prop
  | refused (call : GroupCall) (result : GroupOperationResult) (notSuccess : result ≠ .success)
      (notDissolved : result ≠ .groupDissolved) : Outcome group call (group, result)
  | added (memberId : String) (role : GroupMemberRole)
      (outside : ¬ group.isMember memberId = true)
      (room : group.members.length < maxGroupMembers) :
      Outcome group (.addMember memberId role)
        ({ group with members := group.members ++ [⟨memberId, role⟩] }, .success)
  | removed (call : GroupCall) (userId : String) (notCreator : userId ≠ group.creator)
      (inside : group.isMember userId = true) :
      Outcome group call
        ({ group with members := group.members.eraseP fun member => member.userId = userId },
          .success)
  | dissolved (inside : group.isMember group.creator = true) :
      Outcome group (.leave group.creator)
        ({ group with members := [], isDissolved := true }, .groupDissolved)

theorem GroupCall.outcome (group : Group) (call : GroupCall) :
    call.Outcome group (call.on group) := by
  cases call with
  | addMember memberId role =>
      simp only [GroupCall.on, Group.addMember]
      split
      · exact .refused _ _ nofun nofun
      · rename_i outside
        split
        · exact .refused _ _ nofun nofun
        · rename_i room
          exact .added memberId role outside (not_not.mp room)
  | removeMember actorId targetId =>
      simp only [GroupCall.on, Group.removeMember]
      split
      · exact .refused _ _ nofun nofun
      · rename_i notCreator
        split
        · exact .refused _ _ nofun nofun
        · rename_i inside
          exact .removed _ targetId notCreator (not_not.mp inside)
  | leave actorId =>
      simp only [GroupCall.on, Group.leave]
      split
      · exact .refused _ _ nofun nofun
      · rename_i inside
        split
        · rename_i isCreator
          subst isCreator
          split
          · exact .refused _ _ nofun nofun
          · exact .dissolved (not_not.mp inside)
        · rename_i notCreator
          exact .removed _ actorId notCreator (not_not.mp inside)

/-! ## The rules -/

structure MembershipSound (group : Group) : Prop where
  distinct : (group.members.map GroupMember.userId).Nodup
  bounded : group.members.length ≤ maxGroupMembers
  creatorIn : group.isDissolved = false → group.isMember group.creator = true

structure GroupInvariants (group : Group) : Prop extends MembershipSound group where
  dissolvedEmpty : group.isDissolved = true → group.members = []

/-- A dissolution is final, and a refused call changes nothing. -/
structure GroupCall.Respects (group : Group) (call : GroupCall) : Prop where
  staysDissolved : group.isDissolved = true → (call.on group).1.isDissolved = true
  refusedUnchanged : (call.on group).2 ≠ .success → (call.on group).2 ≠ .groupDissolved →
    (call.on group).1 = group

theorem Group.creator_after_eraseP {group : Group} {userId : String}
    (notCreator : userId ≠ group.creator) (creatorIn : group.isMember group.creator = true) :
    Group.isMember { group with
      members := group.members.eraseP fun member => member.userId = userId }
        group.creator = true := by
  obtain ⟨creator, member, isCreator⟩ := List.any_eq_true.mp creatorIn
  refine List.any_eq_true.mpr ⟨creator, ?_, isCreator⟩
  refine (List.mem_eraseP_of_neg ?_).mpr member
  rw [decide_eq_true_eq] at isCreator ⊢
  intro isErased
  exact notCreator (isErased.symm.trans isCreator)

theorem MembershipSound.call {group : Group} (sound : MembershipSound group)
    (call : GroupCall) : MembershipSound (call.on group).1 := by
  have outcome := call.outcome group
  generalize call.on group = after at outcome
  cases outcome with
  | refused call result notSuccess notDissolved => exact sound
  | added memberId role outside room =>
      refine ⟨?_, ?_, ?_⟩
      · have newId : memberId ∉ group.members.map GroupMember.userId :=
          fun member => outside ((group.isMember_iff memberId).mpr member)
        rw [List.map_append, List.map_singleton, ← List.concat_eq_append]
        exact List.Nodup.concat newId sound.distinct
      · rw [List.length_append, List.length_singleton]
        exact room
      · intro standing
        have inside := sound.creatorIn standing
        rw [Group.isMember_iff] at inside ⊢
        rw [List.map_append]
        exact List.mem_append_left _ inside
  | removed call userId notCreator inside =>
      have fewer := List.eraseP_sublist
        (p := fun member : GroupMember => decide (member.userId = userId)) (l := group.members)
      exact ⟨sound.distinct.sublist (fewer.map _), fewer.length_le.trans sound.bounded,
        fun standing => Group.creator_after_eraseP notCreator (sound.creatorIn standing)⟩
  | dissolved inside => exact ⟨List.nodup_nil, Nat.zero_le _, nofun⟩

theorem GroupCall.respects (group : Group) (call : GroupCall) : call.Respects group := by
  have outcome := call.outcome group
  constructor
  · intro dissolved
    generalize call.on group = after at outcome
    cases outcome with
    | dissolved inside => rfl
    | _ => exact dissolved
  · intro notSuccess notDissolved
    generalize call.on group = after at outcome notSuccess notDissolved
    cases outcome with
    | refused call result _ _ => rfl
    | dissolved inside => exact absurd rfl notDissolved
    | _ => exact absurd rfl notSuccess

def GroupCall.SparesDissolved (group : Group) : GroupCall → Prop
  | .addMember _ _ => group.isDissolved = false
  | _ => True

theorem GroupInvariants.call {group : Group} (invariants : GroupInvariants group)
    {call : GroupCall} (spares : call.SparesDissolved group) :
    GroupInvariants (call.on group).1 := by
  refine ⟨invariants.toMembershipSound.call call, ?_⟩
  have outcome := call.outcome group
  generalize call.on group = after at outcome
  intro dissolved
  cases outcome with
  | refused call result _ _ => exact invariants.dissolvedEmpty dissolved
  | added memberId role outside room =>
      have standing : group.isDissolved = false := spares
      rw [standing] at dissolved
      cases dissolved
  | removed call userId notCreator inside =>
      have empty := invariants.dissolvedEmpty dissolved
      simp [empty]
  | dissolved inside => rfl

/-- A dissolved group that is empty takes the member in. -/
theorem GroupInvariants.addMember_dissolved {group : Group}
    (invariants : GroupInvariants group) (dissolved : group.isDissolved = true)
    (memberId : String) (role : GroupMemberRole) :
    ¬ GroupInvariants (group.addMember memberId role).1 := by
  have empty := invariants.dissolvedEmpty dissolved
  have room : group.members.length < maxGroupMembers := by
    rw [empty]
    decide
  have outside : ¬ group.isMember memberId = true := by
    rw [Group.isMember_iff, empty]
    exact List.not_mem_nil
  intro after
  rw [Group.addMember, if_neg outside, if_neg (not_not_intro room)] at after
  exact List.append_ne_nil_of_right_ne_nil _ (List.cons_ne_nil _ _)
    (after.dissolvedEmpty dissolved)

/-! ## Sequences of calls -/

def Group.founded (groupId : String) (groupName creatorUserId : Option String)
    (role : GroupMemberRole) : Group :=
  { groupId := groupId
    groupName := groupName
    creatorUserId := creatorUserId
    members := [⟨creatorUserId.getD "", role⟩] }

def Group.after (group : Group) (calls : List GroupCall) : Group :=
  calls.foldl (fun group call => (call.on group).1) group

theorem Group.after_concat (group : Group) (calls : List GroupCall) (call : GroupCall) :
    group.after (calls ++ [call]) = (call.on (group.after calls)).1 := by
  rw [Group.after, List.foldl_append]
  rfl

/-- In every state on the way the rules hold, and every call respects them. -/
def InvariantsThroughout (start : Group) (calls : List GroupCall) : Prop :=
  (∀ earlier, earlier <+: calls → GroupInvariants (start.after earlier)) ∧
    ∀ earlier call, earlier ++ [call] <+: calls → call.Respects (start.after earlier)

section Founded
variable (groupId : String) (groupName creatorUserId : Option String) (role : GroupMemberRole)

theorem groupInvariants_founded :
    GroupInvariants (Group.founded groupId groupName creatorUserId role) := by
  have fits : 1 ≤ maxGroupMembers := by decide
  refine ⟨⟨List.nodup_singleton _, fits, ?_⟩, nofun⟩
  intro _
  rw [Group.isMember_iff]
  exact List.mem_singleton_self _

theorem membershipSound_after (calls : List GroupCall) :
    MembershipSound ((Group.founded groupId groupName creatorUserId role).after calls) := by
  induction calls using List.reverseRecOn with
  | nil => exact (groupInvariants_founded groupId groupName creatorUserId role).toMembershipSound
  | append_singleton earlier call ih =>
      rw [Group.after_concat]
      exact ih.call call

/-- Member ids stay distinct, the limit holds and the creator stays in an undissolved
group, whatever is called; a dissolved group stays empty exactly when no member
is added to it. -/
theorem group_invariants_throughout_iff (calls : List GroupCall) :
    let start := Group.founded groupId groupName creatorUserId role
    MembershipSound (start.after calls) ∧
      (InvariantsThroughout start calls ↔ ∀ earlier call, earlier ++ [call] <+: calls →
        call.SparesDissolved (start.after earlier)) := by
  intro start
  refine ⟨membershipSound_after groupId groupName creatorUserId role calls, ?_, ?_⟩
  · rintro ⟨holds, _⟩ earlier call within
    have before := holds earlier ((List.prefix_append _ _).trans within)
    have afterCall := holds (earlier ++ [call]) within
    rw [Group.after_concat] at afterCall
    cases call with
    | addMember memberId memberRole =>
        cases dissolved : (start.after earlier).isDissolved with
        | false => exact dissolved
        | true => exact absurd afterCall (before.addMember_dissolved dissolved _ _)
    | removeMember actorId targetId => trivial
    | leave actorId => trivial
  · intro spares
    refine ⟨?_, fun earlier call _ => call.respects (start.after earlier)⟩
    intro earlier
    induction earlier using List.reverseRecOn with
    | nil => exact fun _ => groupInvariants_founded groupId groupName creatorUserId role
    | append_singleton earlier call ih =>
        intro within
        rw [Group.after_concat]
        exact (ih ((List.prefix_append _ _).trans within)).call (spares earlier call within)

end Founded

theorem group_dissolved_filled_again :
    ¬ InvariantsThroughout (Group.founded "grp_1" (some "friends") (some "alice") .creator)
      [.leave "alice", .addMember "bob" .member] := by
  rintro ⟨holds, _⟩
  have noMembers := (holds _ List.prefix_rfl).dissolvedEmpty (by decide)
  exact absurd noMembers (by decide)

end ShirohaChat
