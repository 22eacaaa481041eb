/-
# What is stored stays

Any number of services run at the same time: their calls come in any order, and any may fail.
-/

import LiteIM.Foundation.Pool
import LiteIM.Service.ChatDelivery

namespace LiteIM.World

open Foundation ChatService

/-- Messages, offline rows, deliveries, friendships and accepted requests are still there. -/
structure Remains (before after : Tables) : Prop where
  messages : Tables.Later before after
  friendships : ∀ pair ∈ before.friendships, pair ∈ after.friendships
  accepted : ∀ requesterId targetUserId, before.HasAccepted requesterId targetUserId →
    after.HasAccepted requesterId targetUserId

variable {ι α : Type} [DecidableEq ι] {faults : Faults}
  {guard : Pool services ι α World → ι → services.Call → Prop}
  {first last : Pool services ι α World}

theorem Remains.effect {before mid after : Tables} {event : Event services}
    (hremains : Remains before mid) (heffect : Effect mid after event) : Remains before after := by
  have hlater := hremains.messages.trans heffect.later
  rcases heffect.friends_cases with ⟨requesterId, targetUserId, -, haccepts⟩ | ⟨hsame, hkeeps⟩
  · exact ⟨hlater,
      fun pair hpair => (haccepts.friendships pair).mpr (Or.inl (hremains.friendships pair hpair)),
      fun _ _ haccepted => haccepts.keepsAccepted (hremains.accepted _ _ haccepted)⟩
  · exact ⟨hlater, fun pair hpair => hsame ▸ hremains.friendships pair hpair,
      fun _ _ haccepted => hkeeps _ _ (hremains.accepted _ _ haccepted)⟩

/-- Whatever the services are, no run takes back what was stored. -/
theorem tables_remain (hreaches : Pool.Reaches (machine faults) Elapses guard first last) :
    Remains first.world.database.1 last.world.database.1 := by
  apply hreaches.world_invariant fun world => Remains first.world.database.1 world.database.1
  · exact ⟨.refl _, fun _ => id, fun _ _ => id⟩
  · intro call world reply next hworld hanswer
    exact hworld.effect (machine_effect hanswer).1
  · intro world next hworld helapses
    cases helapses with
    | time => exact hworld
    | closes hcloses =>
      cases hcloses
      exact hworld

/-- User 1 wrote to user 2, who acknowledged the message and is a friend of user 3 since. -/
def acquainted : World :=
  (((oneSent.answerStorage (.ackPrivateMessageDelivery 2 1)).2.answerStorage
    (.createFriendRequest 2 3)).2.answerStorage (.acceptFriendRequest 2 3)).2

/-- User 1 writes to user 3. -/
theorem tables_remain_send :
    acquainted.database.1.messages.length = 1 ∧ acquainted.database.1.offlineKeys = [(2, 1)] ∧
    acquainted.database.1.messageDeliveries.map (·.status) = [.kDelivered] ∧
    acquainted.database.1.friendRequests.map (·.status) = [.kAccepted] ∧
    Remains acquainted.database.1 (handled (sendRequest 3 [66]) acquainted).2.2.database.1 := by
  refine ⟨rfl, rfl, by decide, by decide, ?_⟩
  exact @tables_remain Unit _ _ .any (fun _ _ _ => True) _ _ (Pool.Reaches.exec
    (Pool.start (fun _ => (handlePrivateMessage (sendRequest 3 [66])).run) acquainted) ()
    (handled_exec ..) rfl rfl fun _ _ _ => trivial)

end LiteIM.World
