/-
# What a friend call does, whatever it is answered

Each call writes only in a fixed order: an acceptance updates the request inside its
transaction, then inserts the friendship, then commits; a rejection updates the request,
and a creation inserts it, outside of any transaction. `Stage` is how far the
transaction of a call has come, read off its own statements. A call returns OK exactly
if it made the one statement that settles it, and an acceptance or rejection that returns
an error has seen a reason for it.
-/

import LiteIM.Foundation.Outcome
import LiteIM.Storage.FriendDao

namespace LiteIM.FriendDao

open Foundation Program List

variable {κ : Type}

/-- The request that a call decides on. -/
def FriendCall.decides : FriendCall → Option (UInt64 × UInt64)
  | .create _ _ _ => none
  | .accept _ requesterId targetUserId => some (requesterId, targetUserId)
  | .reject _ requesterId targetUserId => some (requesterId, targetUserId)

/-- How far the transaction of a call has come. -/
inductive Stage where
  | outside
  | opened
  | updated
  | paired
  deriving DecidableEq, Repr

def Stage.next (stage : Stage) : Event (friendSql κ) → Stage
  | ⟨(_, .startTransaction), .ok _⟩ => .opened
  | ⟨(_, .updateFriendRequest _ _ _ _), .ok affectedRows⟩ =>
    if stage = .opened ∧ affectedRows = 1 then .updated else stage
  | ⟨(_, .insertFriendships _ _), .ok _⟩ => if stage = .updated then .paired else stage
  | ⟨(_, .commit), _⟩ => .outside
  | ⟨(_, .rollback), _⟩ => .outside
  | _ => stage

def stage (history : List (Event (friendSql κ))) : Stage := history.foldl Stage.next .outside

@[simp]
theorem stage_nil : stage ([] : List (Event (friendSql κ))) = .outside := rfl

@[simp]
theorem stage_append (history : List (Event (friendSql κ))) (event : Event (friendSql κ)) :
    stage (history ++ [event]) = (stage history).next event := by
  simp [stage]

variable {status : Error} {sql : FriendStatement}

theorem Stage.next_failed (stage : Stage) {c : κ} (hopen : sql ≠ .commit ∧ sql ≠ .rollback) :
    stage.next (⟨(c, sql), .error status⟩ : Event (friendSql κ)) = stage := by
  cases sql with
  | commit => exact (hopen.1 rfl).elim
  | rollback => exact (hopen.2 rfl).elim
  | _ => rfl

/-- The statement that a call takes effect with. -/
def settles : FriendCall → Event (friendSql κ) → Bool
  | .create _ _ _, ⟨(_, .insertFriendRequest _ _ _), .ok affectedRows⟩ => affectedRows = 1
  | .accept _ _ _, ⟨(_, .commit), .ok _⟩ => true
  | .reject _ _ _, ⟨(_, .updateFriendRequest _ _ _ _), .ok affectedRows⟩ => affectedRows = 1
  | _, _ => false

theorem settles_error (call : FriendCall) (c : κ) (sql : FriendStatement) (status : Error) :
    settles call (⟨(c, sql), .error status⟩ : Event (friendSql κ)) = false := by
  cases call <;> cases sql <;> rfl

def Settled (call : FriendCall) (history : List (Event (friendSql κ))) : Prop :=
  ∃ event ∈ history, settles call event = true

variable {call : FriendCall}

@[simp]
theorem settled_append {history : List (Event (friendSql κ))} {event : Event (friendSql κ)} :
    Settled call (history ++ [event]) ↔ Settled call history ∨ settles call event = true := by
  simp [Settled, or_and_right, exists_or]

theorem unsettled {history : List (Event (friendSql κ))}
    (hnone : history.any (settles call) = false) : ¬ Settled call history := by
  simpa [Settled] using hnone

/-- The request was found pending. -/
def FoundPending (c : κ) (requesterId targetUserId : UInt64)
    (history : List (Event (friendSql κ))) : Prop :=
  ∃ row : FriendRequestRow, row.status = .kPending ∧
    ⟨(c, .selectFriendRequest requesterId targetUserId), .ok (some row)⟩ ∈ history

/-- The answer lets a creation go on: no reverse request, or a rejected one. -/
def ReverseReply : Except Error (Option FriendRequestRow) → Prop
  | .ok row => ∀ found, row = some found → found.status = .kRejected
  | .error status => status.code = .notFound

/-- The last statement looked for the reverse request. -/
def ReverseClear (c : κ) (requesterId targetUserId : UInt64)
    (history : List (Event (friendSql κ))) : Prop :=
  ∃ past reply, ReverseReply reply ∧
    history = past ++ [⟨(c, .selectFriendRequest targetUserId requesterId), reply⟩]

/-- The statements a call may make after what it did before. -/
def Allowed (c : κ) (history : List (Event (friendSql κ))) :
    FriendCall → FriendStatement → Prop
  | _, .acquire => True
  | _, .selectFriendRequest _ _ => stage history = .outside ∨ stage history = .opened
  | _, .selectFriendship _ _ => True
  | .create nowMs requesterId targetUserId, .insertFriendRequest requester target now =>
    requester = requesterId ∧ target = targetUserId ∧ now = nowMs ∧
      requesterId ≠ targetUserId ∧ stage history = .outside ∧
      ReverseClear c requesterId targetUserId history
  | .reject nowMs requesterId targetUserId, .updateFriendRequest requester target status now =>
    requester = requesterId ∧ target = targetUserId ∧ status = .kRejected ∧ now = nowMs ∧
      stage history = .outside ∧ FoundPending c requesterId targetUserId history
  | .accept nowMs requesterId targetUserId, .updateFriendRequest requester target status now =>
    requester = requesterId ∧ target = targetUserId ∧ status = .kAccepted ∧ now = nowMs ∧
      stage history = .opened ∧ FoundPending c requesterId targetUserId history
  | .accept _ _ _, .startTransaction => stage history = .outside
  | .accept _ requesterId targetUserId, .insertFriendships userId friendId =>
    userId = requesterId ∧ friendId = targetUserId ∧ stage history = .updated
  | .accept _ _ _, .commit => stage history = .paired
  | .accept _ _ _, .rollback => True
  | _, _ => False

def Justified (c : κ) (call : FriendCall) (history : List (Event (friendSql κ)))
    (event : Event (friendSql κ)) : Prop :=
  event.call.1 = c ∧ Allowed c history call event.call.2

def failed (event : Event (friendSql κ)) : Bool := !Status.isOk event.reply

/-- Why a request was not decided by a call. -/
inductive Refused (c : κ) (requesterId targetUserId : UInt64)
    (history : List (Event (friendSql κ))) : Prop where
  | invalid (invalid : validateFriendPair requesterId targetUserId ≠ .ok ())
  | failed {event : Event (friendSql κ)} (mem : event ∈ history) (failed : failed event = true)
  | absent (unseen : ¬ FoundPending c requesterId targetUserId history)
      (mem : ⟨(c, .selectFriendRequest requesterId targetUserId), .ok none⟩ ∈ history)
  | decided {row : FriendRequestRow} (status : row.status ≠ .kPending)
      (unseen : ¬ FoundPending c requesterId targetUserId history)
      (mem : ⟨(c, .selectFriendRequest requesterId targetUserId), .ok (some row)⟩ ∈ history)
  | lost {status : FriendRequestStatus} {nowMs : Int} {affectedRows : Nat}
      (affected : affectedRows ≠ 1)
      (mem : ⟨(c, .updateFriendRequest requesterId targetUserId status nowMs),
        .ok affectedRows⟩ ∈ history)
  | excess {affectedRows : Nat} (affected : 2 < affectedRows)
      (mem : ⟨(c, .insertFriendships requesterId targetUserId), .ok affectedRows⟩ ∈ history)

/-- How a call has ended: outside of any transaction. -/
def Ended (c : κ) (call : FriendCall) (history : List (Event (friendSql κ))) :
    Except Error Unit → Prop
  | .ok _ => stage history = .outside ∧ Settled call history
  | .error _ => stage history = .outside ∧ ¬ Settled call history ∧
      ∀ requesterId targetUserId, call.decides = some (requesterId, targetUserId) →
        Refused c requesterId targetUserId history

/-! ## Rules for statements -/

section Rules

variable {α β : Type} {justified : List (Event (friendSql κ)) → Event (friendSql κ) → Prop}
variable {post : List (Event (friendSql κ)) → Except Error β → Prop}
variable {history : List (Event (friendSql κ))} {c : κ}

theorem follows_statement_bind {f : sql.Result → Dao κ β}
    (hjustified : ∀ reply, justified history ⟨(c, sql), reply⟩)
    (hok : ∀ value, Follows justified post (history ++ [⟨(c, sql), .ok value⟩])
      (f value).run)
    (herror : ∀ status, post (history ++ [⟨(c, sql), .error status⟩]) (.error status)) :
    Follows justified post history (statement c sql >>= f).run := by
  intro reply
  refine ⟨hjustified reply, ?_⟩
  cases reply with
  | ok value => exact hok value
  | error status => exact herror status

theorem follows_statement_outcome_bind {f : Except Error sql.Result → Dao κ β}
    (hjustified : ∀ reply, justified history ⟨(c, sql), reply⟩)
    (hnext : ∀ reply, Follows justified post (history ++ [⟨(c, sql), reply⟩])
      (f reply).run) :
    Follows justified post history ((statement c sql).outcome >>= f).run :=
  fun reply => ⟨hjustified reply, hnext reply⟩

/-- A query for a request continues with its error, with `NotFound`, or with the row. -/
theorem follows_query_outcome_bind {requesterId targetUserId : UInt64}
    {f : Except Error FriendRequestRecord → Dao κ β} (hjustified : ∀ reply,
      justified history ⟨(c, .selectFriendRequest requesterId targetUserId), reply⟩)
    (hrow : ∀ row, Follows justified post
      (history ++ [⟨(c, .selectFriendRequest requesterId targetUserId), .ok row⟩])
      (f (rowToFriendRequestRecord requesterId targetUserId row)).run)
    (herror : ∀ status, Follows justified post
      (history ++ [⟨(c, .selectFriendRequest requesterId targetUserId), .error status⟩])
      (f (.error status)).run) :
    Follows justified post history
      ((queryFriendRequest c requesterId targetUserId).outcome >>= f).run := by
  intro reply
  refine ⟨hjustified reply, ?_⟩
  cases reply with
  | ok row => exact hrow row
  | error status => exact herror status

theorem follows_query_bind {requesterId targetUserId : UInt64} {f : FriendRequestRecord → Dao κ β}
    (hjustified : ∀ reply,
      justified history ⟨(c, .selectFriendRequest requesterId targetUserId), reply⟩)
    (hrow : ∀ row, Follows justified post
      (history ++ [⟨(c, .selectFriendRequest requesterId targetUserId), .ok row⟩])
      (Fallible.ofExcept (rowToFriendRequestRecord requesterId targetUserId row) >>= f).run)
    (herror : ∀ status, post
      (history ++ [⟨(c, .selectFriendRequest requesterId targetUserId), .error status⟩])
      (.error status)) :
    Follows justified post history
      (queryFriendRequest c requesterId targetUserId >>= f).run := by
  intro reply
  refine ⟨hjustified reply, ?_⟩
  cases reply with
  | ok row =>
    cases row with
    | none => exact hrow none
    | some row => exact hrow (some row)
  | error status => exact herror status

theorem follows_rollbackAndReturn (hjustified : ∀ reply, justified history ⟨(c, .rollback), reply⟩)
    (hpost : ∀ reply, post (history ++ [⟨(c, .rollback), reply⟩]) (.error status)) :
    Follows justified post history (rollbackAndReturn c status).run :=
  fun reply => ⟨hjustified reply, hpost reply⟩

end Rules

/-! ## The calls -/

theorem ended_error {c : κ} {requesterId targetUserId : UInt64}
    {history : List (Event (friendSql κ))}
    (hdecides : call.decides = some (requesterId, targetUserId))
    (hstage : stage history = .outside) (hsettled : ¬ Settled call history)
    (hrefused : Refused c requesterId targetUserId history) :
    Ended c call history (.error status) := by
  refine ⟨hstage, hsettled, fun requester target hcall => ?_⟩
  obtain ⟨rfl, rfl⟩ := Prod.mk.inj (Option.some.inj (hdecides.symm.trans hcall))
  exact hrefused

theorem refused_of_last {c : κ} {requesterId targetUserId : UInt64}
    {history : List (Event (friendSql κ))} {event : Event (friendSql κ)}
    (hfailed : failed event = true) :
    Refused c requesterId targetUserId (history ++ [event]) :=
  .failed (mem_append_right _ (mem_singleton_self _)) hfailed

theorem validateUserId_of_pair {userId friendId : UInt64}
    (hvalid : validateFriendPair userId friendId = .ok ()) :
    validateUserId userId "user_id" = .ok () ∧ validateUserId friendId "friend_id" = .ok () := by
  obtain ⟨_, huser, hrest⟩ := bind_eq_ok_iff.mp hvalid
  obtain ⟨_, hfriend, -⟩ := bind_eq_ok_iff.mp hrest
  exact ⟨huser, hfriend⟩

theorem ne_of_validateFriendPair {userId friendId : UInt64}
    (hvalid : validateFriendPair userId friendId = .ok ()) : userId ≠ friendId := by
  obtain ⟨_, -, hrest⟩ := bind_eq_ok_iff.mp hvalid
  obtain ⟨_, -, hdistinct⟩ := bind_eq_ok_iff.mp hrest
  rintro rfl
  simp [Status.error] at hdistinct

section Calls

variable (c : κ) (nowMs : Int) (requesterId targetUserId : UInt64)

theorem rejectFriendRequest_follows :
    Follows (Justified c (.reject nowMs requesterId targetUserId))
      (Ended c (.reject nowMs requesterId targetUserId)) []
      (rejectFriendRequest c nowMs requesterId targetUserId).run := by
  cases hvalid : validateFriendPair requesterId targetUserId with
  | error =>
    rw [rejectFriendRequest, hvalid]
    exact ended_error rfl rfl (unsettled rfl) (.invalid (by simp [hvalid]))
  | ok =>
    rw [rejectFriendRequest, hvalid]
    apply follows_statement_bind fun _ => ⟨rfl, trivial⟩
    · intro _
      apply follows_query_bind fun _ => ⟨rfl, Or.inl rfl⟩
      · intro row
        cases row with
        | none =>
          exact ended_error rfl rfl (unsettled rfl)
            (.absent (by simp [FoundPending]) (by simp))
        | some row =>
          obtain ⟨status, createdAtMs, updatedAtMs⟩ := row
          cases status with
          | kAccepted | kRejected =>
            exact ended_error rfl rfl (unsettled rfl)
              (.decided (by simp) (by simp [FoundPending])
                (mem_append_right _ (mem_singleton_self _)))
          | kPending =>
            apply follows_statement_bind
            · exact fun _ => ⟨rfl, rfl, rfl, rfl, rfl, rfl,
                ⟨.kPending, createdAtMs, updatedAtMs⟩, rfl, by simp⟩
            · intro affectedRows
              by_cases haffected : affectedRows = 1
              · simp only [haffected, ne_eq, not_true_eq_false, if_false]
                exact ⟨rfl, _, mem_append_right _ (mem_singleton_self _), rfl⟩
              · simp only [haffected, ne_eq, not_false_eq_true, if_true]
                exact ended_error rfl rfl (by simp [Settled, settles, haffected])
                  (.lost haffected (mem_append_right _ (mem_singleton_self _)))
            · exact fun status => ended_error rfl rfl (unsettled rfl)
                (refused_of_last rfl)
      · exact fun status => ended_error rfl rfl (unsettled rfl) (refused_of_last rfl)
    · exact fun status => ended_error rfl rfl (unsettled rfl) (refused_of_last rfl)

/-- A reason stays one when something else than the request is looked at. -/
theorem Refused.append {c : κ} {requesterId targetUserId : UInt64}
    {history : List (Event (friendSql κ))} {event : Event (friendSql κ)}
    (hrefused : Refused c requesterId targetUserId history)
    (hother : event.call.2 ≠ .selectFriendRequest requesterId targetUserId) :
    Refused c requesterId targetUserId (history ++ [event]) := by
  have hunseen : ¬ FoundPending c requesterId targetUserId history →
      ¬ FoundPending c requesterId targetUserId (history ++ [event]) := by
    rintro hunseen ⟨row, hstatus, hmem⟩
    rcases mem_append.mp hmem with hold | hnew
    · exact hunseen ⟨row, hstatus, hold⟩
    · rw [← mem_singleton.mp hnew] at hother
      exact hother rfl
  cases hrefused with
  | invalid invalid => exact .invalid invalid
  | failed mem failed => exact .failed (mem_append_left _ mem) failed
  | absent unseen mem => exact .absent (hunseen unseen) (mem_append_left _ mem)
  | decided status unseen mem =>
    exact .decided status (hunseen unseen) (mem_append_left _ mem)
  | lost affected mem => exact .lost affected (mem_append_left _ mem)
  | excess affected mem => exact .excess affected (mem_append_left _ mem)

/-- An acceptance that gives up rolls back. -/
theorem accept_rollback_follows {history : List (Event (friendSql κ))}
    (hsettled : ¬ Settled (.accept nowMs requesterId targetUserId) history)
    (hrefused : Refused c requesterId targetUserId history) :
    Follows (Justified c (.accept nowMs requesterId targetUserId))
      (Ended c (.accept nowMs requesterId targetUserId)) history
      (rollbackAndReturn c status).run := by
  apply follows_rollbackAndReturn fun _ => ⟨rfl, trivial⟩
  intro reply
  have hstage : stage (history ++ [⟨(c, .rollback), reply⟩]) = .outside := by
    rw [stage_append]
    rfl
  exact ended_error rfl hstage (by simp [hsettled, settles]) (hrefused.append (by simp))

theorem acceptMissing_follows {history : List (Event (friendSql κ))}
    (hsettled : ¬ Settled (.accept nowMs requesterId targetUserId) history)
    (hrefused : Refused c requesterId targetUserId history) :
    Follows (Justified c (.accept nowMs requesterId targetUserId))
      (Ended c (.accept nowMs requesterId targetUserId)) history
      (acceptMissing c requesterId targetUserId status).run := by
  apply follows_statement_outcome_bind fun _ => ⟨rfl, trivial⟩
  intro reply
  have hgiveUp : ∀ status, Follows (Justified c (.accept nowMs requesterId targetUserId))
      (Ended c (.accept nowMs requesterId targetUserId))
      (history ++ [⟨(c, .selectFriendship requesterId targetUserId), reply⟩])
      (rollbackAndReturn c status).run := fun status =>
    accept_rollback_follows c nowMs _ _ (by simp [hsettled, settles])
      (hrefused.append (by simp))
  cases reply with
  | error friendsStatus => exact hgiveUp friendsStatus
  | ok areFriends =>
    cases areFriends with
    | true | false => exact hgiveUp _

/-- The friendship rows are inserted and the transaction committed. -/
theorem acceptUpdated_follows {history : List (Event (friendSql κ))}
    (hvalid : validateFriendPair requesterId targetUserId = .ok ())
    (hstage : stage history = .updated)
    (hsettled : ¬ Settled (.accept nowMs requesterId targetUserId) history) :
    Follows (Justified c (.accept nowMs requesterId targetUserId))
      (Ended c (.accept nowMs requesterId targetUserId)) history
      (acceptUpdated c requesterId targetUserId).run := by
  obtain ⟨huser, hfriend⟩ := validateUserId_of_pair hvalid
  rw [acceptUpdated, insertFriendshipRows, huser, hfriend]
  intro reply
  refine ⟨⟨rfl, rfl, rfl, hstage⟩, ?_⟩
  cases reply with
  | error =>
    exact accept_rollback_follows c nowMs _ _ (by simp [hsettled, settles]) (refused_of_last rfl)
  | ok affectedRows =>
    simp only [Program.bind, ExceptT.bindCont]
    by_cases hexcess : affectedRows > 2
    · rw [checkFriendshipCount, if_pos hexcess]
      exact accept_rollback_follows c nowMs _ _ (by simp [hsettled, settles])
        (.excess hexcess (mem_append_right _ (mem_singleton_self _)))
    · rw [checkFriendshipCount, if_neg hexcess]
      intro reply
      have hpaired : stage (history ++ [⟨(c, .insertFriendships requesterId targetUserId),
          .ok affectedRows⟩]) = .paired := by
        rw [stage_append, hstage]
        rfl
      have hstage : ∀ reply, stage (history ++ [⟨(c, .insertFriendships requesterId
          targetUserId), .ok affectedRows⟩] ++ [⟨(c, .commit), reply⟩]) = .outside := by
        intro reply
        rw [stage_append]
        rfl
      refine ⟨⟨rfl, hpaired⟩, ?_⟩
      cases reply with
      | ok => exact ⟨hstage _, settled_append.mpr (Or.inr rfl)⟩
      | error =>
        apply ended_error rfl (hstage _) _ (refused_of_last rfl)
        rw [settled_append, settled_append]
        simp [hsettled, settles]

theorem acceptPending_follows {history : List (Event (friendSql κ))}
    (hvalid : validateFriendPair requesterId targetUserId = .ok ())
    (hstage : stage history = .opened) (hfound : FoundPending c requesterId targetUserId history)
    (hsettled : ¬ Settled (.accept nowMs requesterId targetUserId) history) :
    Follows (Justified c (.accept nowMs requesterId targetUserId))
      (Ended c (.accept nowMs requesterId targetUserId)) history
      (acceptPending c nowMs requesterId targetUserId).run := by
  apply follows_statement_outcome_bind
  · exact fun _ => ⟨rfl, rfl, rfl, rfl, rfl, hstage, hfound⟩
  intro reply
  cases reply with
  | error =>
    exact accept_rollback_follows c nowMs _ _ (by simp [hsettled, settles]) (refused_of_last rfl)
  | ok affectedRows =>
    by_cases haffected : affectedRows = 1
    · subst haffected
      simp only [ne_eq, not_true_eq_false, if_false]
      exact acceptUpdated_follows c nowMs _ _ hvalid (by simp [hstage, Stage.next])
        (by simp [hsettled, settles])
    · simp only [haffected, ne_eq, not_false_eq_true, if_true]
      exact accept_rollback_follows c nowMs _ _ (by simp [hsettled, settles])
        (.lost haffected (mem_append_right _ (mem_singleton_self _)))

theorem acceptFriendRequest_follows :
    Follows (Justified c (.accept nowMs requesterId targetUserId))
      (Ended c (.accept nowMs requesterId targetUserId)) []
      (acceptFriendRequest c nowMs requesterId targetUserId).run := by
  cases hvalid : validateFriendPair requesterId targetUserId with
  | error =>
    rw [acceptFriendRequest, hvalid]
    exact ended_error rfl rfl (unsettled rfl) (.invalid (by simp [hvalid]))
  | ok =>
    rw [acceptFriendRequest, hvalid]
    apply follows_statement_bind fun _ => ⟨rfl, trivial⟩
    · intro _
      apply follows_statement_bind fun _ => ⟨rfl, rfl⟩
      · intro _
        apply follows_query_outcome_bind fun _ => ⟨rfl, Or.inr rfl⟩
        · intro row
          cases row with
          | none =>
            exact acceptMissing_follows c nowMs _ _ (unsettled rfl)
              (.absent (by simp [FoundPending]) (by simp))
          | some row =>
            obtain ⟨status, createdAtMs, updatedAtMs⟩ := row
            cases status with
            | kAccepted | kRejected =>
              apply accept_rollback_follows c nowMs _ _ (unsettled rfl)
              exact .decided (by simp) (by simp [FoundPending])
                (mem_append_right _ (mem_singleton_self _))
            | kPending =>
              apply acceptPending_follows c nowMs _ _ hvalid rfl
              · exact ⟨⟨.kPending, createdAtMs, updatedAtMs⟩, rfl, by simp⟩
              · exact unsettled rfl
        · intro status
          by_cases hcode : status.code = .notFound
          · simp only [hcode, if_true]
            exact acceptMissing_follows c nowMs _ _ (unsettled rfl)
              (refused_of_last rfl)
          · simp only [hcode, if_false]
            exact accept_rollback_follows c nowMs _ _ (unsettled rfl)
              (refused_of_last rfl)
      · exact fun status => ended_error rfl rfl (unsettled rfl) (refused_of_last rfl)
    · exact fun status => ended_error rfl rfl (unsettled rfl) (refused_of_last rfl)

theorem created_error {c : κ} {nowMs : Int} {requesterId targetUserId : UInt64}
    {history : List (Event (friendSql κ))} (status : Error) (hstage : stage history = .outside)
    (hsettled : ¬ Settled (.create nowMs requesterId targetUserId) history) :
    Ended c (.create nowMs requesterId targetUserId) history
      ((.error status : Except Error FriendRequestRecord).map fun _ => ()) :=
  ⟨hstage, hsettled, fun _ _ hdecides => nomatch hdecides⟩

/-- The end of a creation, after the reverse request was looked for. -/
theorem insertFriendRequest_follows {history : List (Event (friendSql κ))}
    (hne : requesterId ≠ targetUserId) (hstage : stage history = .outside)
    (hreverse : ReverseClear c requesterId targetUserId history)
    (hsettled : ¬ Settled (.create nowMs requesterId targetUserId) history) :
    Follows (Justified c (.create nowMs requesterId targetUserId))
      (fun later result => Ended c (.create nowMs requesterId targetUserId) later
        (result.map fun _ => ())) history
      (insertFriendRequest c nowMs requesterId targetUserId).run := by
  apply follows_statement_bind
  · exact fun _ => ⟨rfl, rfl, rfl, rfl, hne, hstage, hreverse⟩
  · intro affectedRows
    have hlast : stage (history ++ [⟨(c, .insertFriendRequest requesterId targetUserId nowMs),
        .ok affectedRows⟩]) = .outside := by
      rw [stage_append, hstage]
      rfl
    by_cases haffected : affectedRows = 1
    · subst haffected
      simp only [ne_eq, not_true_eq_false, if_false]
      exact ⟨hlast, settled_append.mpr (Or.inr rfl)⟩
    · simp only [haffected, ne_eq, not_false_eq_true, if_true]
      exact created_error
        ⟨.internalError, "create friend request affected unexpected row count"⟩ hlast
        (by simp [hsettled, settles, haffected])
  · intro status
    apply created_error status
    · rw [stage_append, hstage]
      rfl
    · simp [hsettled, settles]

theorem createUnlessReversed_follows {history : List (Event (friendSql κ))}
    (hne : requesterId ≠ targetUserId) (hstage : stage history = .outside)
    (hsettled : ¬ Settled (.create nowMs requesterId targetUserId) history) :
    Follows (Justified c (.create nowMs requesterId targetUserId))
      (fun later result => Ended c (.create nowMs requesterId targetUserId) later
        (result.map fun _ => ())) history
      (createUnlessReversed c nowMs requesterId targetUserId).run := by
  have hlast : ∀ reply, stage
      (history ++ [⟨(c, .selectFriendRequest targetUserId requesterId), reply⟩]) = .outside := by
    intro reply
    rw [stage_append, hstage]
    rfl
  have hunsettled : ∀ reply, ¬ Settled (.create nowMs requesterId targetUserId)
      (history ++ [⟨(c, .selectFriendRequest targetUserId requesterId), reply⟩]) := by
    intro reply
    simp [hsettled, settles]
  have hinsert : ∀ reply, ReverseReply reply →
      Follows (Justified c (.create nowMs requesterId targetUserId))
        (fun later result => Ended c (.create nowMs requesterId targetUserId) later
          (result.map fun _ => ()))
        (history ++ [⟨(c, .selectFriendRequest targetUserId requesterId), reply⟩])
        (insertFriendRequest c nowMs requesterId targetUserId).run := by
    intro reply hreply
    apply insertFriendRequest_follows c nowMs _ _ hne
    · exact hlast reply
    · exact ⟨history, reply, hreply, rfl⟩
    · exact hunsettled reply
  apply follows_query_outcome_bind fun _ => ⟨rfl, Or.inl hstage⟩
  · intro reverse
    cases reverse with
    | none => exact hinsert _ (by simp [ReverseReply])
    | some row =>
      obtain ⟨status, createdAtMs, updatedAtMs⟩ := row
      cases status with
      | kPending =>
        exact created_error ⟨.alreadyExists, "reverse friend request already exists"⟩
          (hlast _) (hunsettled _)
      | kAccepted =>
        exact created_error ⟨.alreadyExists, "friend request already accepted"⟩
          (hlast _) (hunsettled _)
      | kRejected => exact hinsert _ (by simp [ReverseReply])
  · intro status
    by_cases hcode : status.code = .notFound
    · simp only [hcode, ne_eq, not_true_eq_false, if_false]
      exact hinsert _ hcode
    · simp only [hcode, ne_eq, not_false_eq_true, if_true]
      exact created_error status (hlast _) (hunsettled _)

theorem createFriendRequest_follows :
    Follows (Justified c (.create nowMs requesterId targetUserId))
      (fun later result => Ended c (.create nowMs requesterId targetUserId) later
        (result.map fun _ => ())) []
      (createFriendRequest c nowMs requesterId targetUserId).run := by
  cases hvalid : validateFriendPair requesterId targetUserId with
  | error status =>
    rw [createFriendRequest, hvalid]
    exact created_error status rfl (unsettled rfl)
  | ok =>
    have hne := ne_of_validateFriendPair hvalid
    rw [createFriendRequest, hvalid]
    apply follows_statement_bind fun _ => ⟨rfl, trivial⟩
    · intro _
      apply follows_statement_bind fun _ => ⟨rfl, trivial⟩
      · intro areFriends
        cases areFriends with
        | true =>
          exact created_error ⟨.alreadyExists, "friendship already exists"⟩ rfl
            (unsettled rfl)
        | false =>
          apply follows_query_outcome_bind fun _ => ⟨rfl, Or.inl rfl⟩
          · intro row
            cases row with
            | some =>
              exact created_error ⟨.alreadyExists, "friend request already exists"⟩ rfl
                (unsettled rfl)
            | none =>
              exact createUnlessReversed_follows c nowMs _ _ hne rfl
                (unsettled rfl)
          · intro status
            by_cases hcode : status.code = .notFound
            · simp only [hcode, ne_eq, not_true_eq_false, if_false]
              exact createUnlessReversed_follows c nowMs _ _ hne rfl
                (unsettled rfl)
            · simp only [hcode, ne_eq, not_false_eq_true, if_true]
              exact created_error status rfl (unsettled rfl)
      · exact fun status => created_error status rfl (unsettled rfl)
    · exact fun status => created_error status rfl (unsettled rfl)

/-- What each call does. -/
theorem perform_follows (call : FriendCall) :
    Follows (Justified c call) (Ended c call) [] (perform c call).run := by
  cases call with
  | accept nowMs => exact acceptFriendRequest_follows c nowMs _ _
  | reject nowMs => exact rejectFriendRequest_follows c nowMs _ _
  | create nowMs requesterId targetUserId =>
    rw [perform, ExceptT.run_bind]
    apply Follows.bind
    apply (createFriendRequest_follows c nowMs requesterId targetUserId).mono
    intro later result _ hended
    cases result with
    | ok | error => exact hended

end Calls

end LiteIM.FriendDao
