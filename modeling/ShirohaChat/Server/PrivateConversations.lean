import ShirohaChat.Lib.Joined
import ShirohaChat.Server.MessageDelivery
import Mathlib.Data.Set.Insert

/-!
# The conversation behind a private session id

The id is the truncated digest of the two user ids in order, joined by a colon
that user ids may hold too.  Where the digest is injective, two pairs of users
share an id exactly when they are the same users or two readings of one joined
text.
-/

set_option autoImplicit false

namespace ShirohaChat

open Joined CodeUnits

/-- `lo` and `hi` of `computePrivateSessionId`. -/
def lowerId (userA userB : String) : String := if qLess userA userB then userA else userB

def upperId (userA userB : String) : String := if qLess userA userB then userB else userA

def sessionBytes (userA userB : String) : List Nat :=
  utf8 (lowerId userA userB ++ ":" ++ upperId userA userB).toList

def truncatedDigest (sha256 : List Nat → String) (data : List Nat) : String :=
  String.ofList ((sha256 data).toList.take 32)

theorem computePrivateSessionId_eq (sha256 : List Nat → String) (userA userB : String) :
    computePrivateSessionId sha256 userA userB =
      truncatedDigest sha256 (sessionBytes userA userB) := rfl

/-! ## The order of the two ids -/

theorem lowerId_comm (userA userB : String) : lowerId userA userB = lowerId userB userA := by
  unfold lowerId
  by_cases same : userA = userB
  · rw [same]
  rcases qLess_total same with less | less
  · rw [if_pos less, qLess_asymm less, if_neg Bool.false_ne_true]
  · rw [if_pos less, qLess_asymm less, if_neg Bool.false_ne_true]

theorem upperId_comm (userA userB : String) : upperId userA userB = upperId userB userA := by
  unfold upperId
  by_cases same : userA = userB
  · rw [same]
  rcases qLess_total same with less | less
  · rw [if_pos less, qLess_asymm less, if_neg Bool.false_ne_true]
  · rw [if_pos less, qLess_asymm less, if_neg Bool.false_ne_true]

theorem ordered_ids (userA userB : String) :
    (lowerId userA userB = userA ∧ upperId userA userB = userB) ∨
      (lowerId userA userB = userB ∧ upperId userA userB = userA) := by
  unfold lowerId upperId
  by_cases less : qLess userA userB = true
  · exact Or.inl ⟨if_pos less, if_pos less⟩
  · exact Or.inr ⟨if_neg less, if_neg less⟩

/-- Two pairs hold the same users exactly when they agree once ordered. -/
theorem pair_eq_iff_ordered (a b c d : String) :
    ({a, b} : Set String) = {c, d} ↔ lowerId a b = lowerId c d ∧ upperId a b = upperId c d := by
  rw [Set.pair_eq_pair_iff]
  constructor
  · rintro (⟨rfl, rfl⟩ | ⟨rfl, rfl⟩)
    · exact ⟨rfl, rfl⟩
    · exact ⟨lowerId_comm _ _, upperId_comm _ _⟩
  · rintro ⟨lower, upper⟩
    rcases ordered_ids a b with ⟨lowAB, upAB⟩ | ⟨lowAB, upAB⟩ <;>
      rcases ordered_ids c d with ⟨lowCD, upCD⟩ | ⟨lowCD, upCD⟩ <;>
      rw [lowAB, lowCD] at lower <;> rw [upAB, upCD] at upper
    · exact Or.inl ⟨lower, upper⟩
    · exact Or.inr ⟨lower, upper⟩
    · exact Or.inr ⟨upper, lower⟩
    · exact Or.inl ⟨upper, lower⟩

/-! ## Pairs with one joined text -/

/-- The ordered pairs are two readings of one text, split at different colons. -/
def SharesText (a b c d : String) : Prop :=
  Ambiguous ':' (lowerId a b).toList (upperId a b).toList
    (lowerId c d).toList (upperId c d).toList

theorem sessionBytes_eq_iff (a b c d : String) :
    sessionBytes a b = sessionBytes c d ↔
      ({a, b} : Set String) = {c, d} ∨ SharesText a b c d := by
  have texts : sessionBytes a b = sessionBytes c d ↔
      join ':' (lowerId a b).toList (upperId a b).toList =
        join ':' (lowerId c d).toList (upperId c d).toList := by
    unfold sessionBytes
    rw [toList_join, toList_join]
    exact ⟨utf8_injective _ _, congrArg utf8⟩
  rw [texts, join_eq_join_iff, pair_eq_iff_ordered, String.toList_inj, String.toList_inj]
  rfl

theorem SharesText.pair_ne {a b c d : String} (shares : SharesText a b c d) :
    ({a, b} : Set String) ≠ {c, d} := by
  intro samePair
  exact Ambiguous.left_ne shares
    (congrArg String.toList ((pair_eq_iff_ordered a b c d).mp samePair).1)

/-- Where the digest tells the two joined texts apart, the ids of two pairs
agree for the same users and no others, and the session id check takes a private
message under the id of its own conversation and no other, exactly when the
pairs share no text. -/
theorem privateSessionId_eq_iff (sha256 : List Nat → String) (a b c d : String)
    (injective : Set.InjOn (truncatedDigest sha256) {sessionBytes a b, sessionBytes c d}) :
    ((computePrivateSessionId sha256 a b = computePrivateSessionId sha256 c d ↔
        ({a, b} : Set String) = {c, d}) ↔ ¬ SharesText a b c d) ∧
    ∀ params : SendMessageParams, params.sessionType = "private" →
      params.senderUserId = a → params.recipientUserId = b →
      params.sessionId = computePrivateSessionId sha256 c d →
      ((sessionIdMismatch sha256 params = false ↔ ({a, b} : Set String) = {c, d}) ↔
        ¬ SharesText a b c d) := by
  have sameId : computePrivateSessionId sha256 a b = computePrivateSessionId sha256 c d ↔
      ({a, b} : Set String) = {c, d} ∨ SharesText a b c d := by
    rw [computePrivateSessionId_eq, computePrivateSessionId_eq, ← sessionBytes_eq_iff]
    exact injective.eq_iff (Or.inl rfl) (Or.inr rfl)
  have exactly : (computePrivateSessionId sha256 a b = computePrivateSessionId sha256 c d ↔
      ({a, b} : Set String) = {c, d}) ↔ ¬ SharesText a b c d := by
    rw [sameId]
    constructor
    · intro determines shares
      exact shares.pair_ne (determines.mp (Or.inr shares))
    · intro clear
      exact or_iff_left clear
  refine ⟨exactly, ?_⟩
  rintro params isPrivate rfl rfl sessionId
  have accepts : sessionIdMismatch sha256 params = false ↔
      computePrivateSessionId sha256 params.senderUserId params.recipientUserId =
        computePrivateSessionId sha256 c d := by
    unfold sessionIdMismatch
    rw [isPrivate, sessionId]
    simp only [true_and, ne_eq, decide_eq_false_iff_not, not_not]
    exact eq_comm
  rw [accepts]
  exact exactly

def sampleDigest (data : List Nat) : String :=
  if data = sessionBytes "alice" "bob" then
    "1e2af26470aae83866fd22e2907b8d1be05975d952e4158989cbd18933bd703e"
  else if data = sessionBytes "carol" "alice" then
    "3dbc08ab66f7f9afb085c4b113e30418ca2151097753af778675580413883c8a"
  else "b7785c7f0d8b99caa77621a50ce1c3d38ead7fa9587b276493d0e12423ab6bb2"

theorem privateSessionId_eq_iff_alice :
    computePrivateSessionId sampleDigest "alice" "bob" ≠
      computePrivateSessionId sampleDigest "carol" "alice" := by
  have distinct : truncatedDigest sampleDigest (sessionBytes "alice" "bob") ≠
      truncatedDigest sampleDigest (sessionBytes "carol" "alice") := by decide
  have injective : Set.InjOn (truncatedDigest sampleDigest)
      {sessionBytes "alice" "bob", sessionBytes "carol" "alice"} := by
    rintro _ (rfl | rfl) _ (rfl | rfl) same
    · rfl
    · exact absurd same distinct
    · exact absurd same.symm distinct
    · rfl
  have noColon : ¬ SharesText "alice" "bob" "carol" "alice" := by
    have lower : lowerId "alice" "bob" = lowerId "carol" "alice" := by decide
    exact fun shares => Ambiguous.left_ne shares (congrArg String.toList lower)
  have differ : ({"alice", "bob"} : Set String) ≠ {"carol", "alice"} := by
    intro same
    have upper := ((pair_eq_iff_ordered _ _ _ _).mp same).2
    revert upper
    decide
  intro same
  exact differ (((privateSessionId_eq_iff sampleDigest _ _ _ _ injective).1.mpr noColon).mp same)

/-- The conversations of `x:y` with `z` and of `x` with `y:z` have one id. -/
theorem privateSessionId_shared :
    ¬ ∀ (sha256 : List Nat → String) (a b c d : String),
      CleanText a → CleanText b → CleanText c → CleanText d →
      Set.InjOn (truncatedDigest sha256) {sessionBytes a b, sessionBytes c d} →
      (computePrivateSessionId sha256 a b = computePrivateSessionId sha256 c d ↔
        ({a, b} : Set String) = {c, d}) := by
  intro always
  have sameBytes : sessionBytes "x:y" "z" = sessionBytes "x" "y:z" := by decide
  have injective : Set.InjOn (truncatedDigest sampleDigest)
      {sessionBytes "x:y" "z", sessionBytes "x" "y:z"} := by
    rw [sameBytes, Set.pair_eq_singleton]
    exact Set.injOn_singleton _ _
  have sameId : computePrivateSessionId sampleDigest "x:y" "z" =
      computePrivateSessionId sampleDigest "x" "y:z" := by
    rw [computePrivateSessionId_eq, computePrivateSessionId_eq, sameBytes]
  have samePair := (always sampleDigest "x:y" "z" "x" "y:z" ⟨by decide, by decide⟩
    ⟨by decide, by decide⟩ ⟨by decide, by decide⟩ ⟨by decide, by decide⟩ injective).mp sameId
  have lower := ((pair_eq_iff_ordered _ _ _ _).mp samePair).1
  revert lower
  decide

end ShirohaChat
