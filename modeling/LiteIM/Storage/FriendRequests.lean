/-
# Friend requests under concurrency

Any number of creations, acceptances and rejections run at the same time, each on its
own connection and at the grain of one statement. A request is decided by the guarded
`UPDATE`: it takes the lock of the row and finds it pending, and the row is not touched
by others until the decision is committed. So a request is decided once, and by one call;
the friendship rows become visible together with the decision.
-/

import LiteIM.Foundation.Pool
import LiteIM.Storage.FriendCalls

namespace LiteIM

open Foundation RowStore FriendKey FriendStore Function

/-- How a row may change: a request is decided once, and a friendship stays. -/
def FriendKey.Later : (k : FriendKey) → Option k.Row → Option k.Row → Prop
  | .request _ _, before, after => ∀ row, before = some row →
      ∃ later, after = some later ∧ (row.status ≠ .kPending → later = row)
  | .friendship _ _, before, after => before.isSome = true → after.isSome = true

theorem FriendKey.Later.refl (k : FriendKey) (row : Option k.Row) : k.Later row row := by
  cases k with
  | request => exact fun found hfound => ⟨found, hfound, fun _ => rfl⟩
  | friendship => exact id

theorem FriendKey.Later.trans (k : FriendKey) (first second third : Option k.Row)
    (hfirst : k.Later first second) (hsecond : k.Later second third) : k.Later first third := by
  cases k with
  | request =>
    intro row hrow
    obtain ⟨mid, hmid, hkept⟩ := hfirst row hrow
    obtain ⟨last, hlast, hstill⟩ := hsecond mid hmid
    refine ⟨last, hlast, fun hdecided => ?_⟩
    obtain rfl := hkept hdecided
    exact hstill hdecided
  | friendship => exact fun hsome => hsecond (hfirst hsome)

/-- The rows of the two tables. -/
abbrev FriendRows := (k : FriendKey) → Option k.Row

namespace FriendRows

def HasStatus (rows : FriendRows) (requesterId targetUserId : UInt64)
    (status : FriendRequestStatus) : Prop :=
  ∃ row, rows (.request requesterId targetUserId) = some row ∧ row.status = status

def Decided (rows : FriendRows) (requesterId targetUserId : UInt64) : Prop :=
  ∃ row, rows (.request requesterId targetUserId) = some row ∧ row.status ≠ .kPending

/-- The keys of the schema, and how the two tables agree. -/
structure Consistent (users : UInt64 → Bool) (rows : FriendRows) : Prop where
  valid : ∀ requesterId targetUserId row, rows (.request requesterId targetUserId) = some row →
    requesterId ≠ targetUserId ∧ users requesterId = true ∧ users targetUserId = true
  symmetric : ∀ first second, (rows (.friendship first second)).isSome = true →
    (rows (.friendship second first)).isSome = true
  accepted : ∀ first second, (rows (.friendship first second)).isSome = true ↔
    rows.HasStatus first second .kAccepted ∨ rows.HasStatus second first .kAccepted

section Consistent

variable {users : UInt64 → Bool} {rows after : FriendRows} {requesterId targetUserId : UInt64}

section

variable (hconsistent : Consistent users rows)
  (hvalid : requesterId ≠ targetUserId ∧ users requesterId = true ∧ users targetUserId = true)
include hconsistent hvalid

/-- Only one request changes, besides friendships. -/
theorem Consistent.valid_of_request
    (hsame : ∀ first second, request first second ≠ .request requesterId targetUserId →
      after (.request first second) = rows (.request first second)) (first second : UInt64)
    (row : FriendRequestRow) (hrow : after (.request first second) = some row) :
    first ≠ second ∧ users first = true ∧ users second = true := by
  by_cases hkey : request first second = .request requesterId targetUserId
  · cases hkey
    exact hvalid
  · rw [hsame first second hkey] at hrow
    exact hconsistent.valid first second row hrow

/-- A request is added or changed, and is not accepted by that. -/
theorem Consistent.update {row : FriendRequestRow}
    (hbefore : ¬ rows.HasStatus requesterId targetUserId .kAccepted)
    (hafter : after (.request requesterId targetUserId) = some row) (hrow : row.status ≠ .kAccepted)
    (hsame : ∀ k, k ≠ .request requesterId targetUserId → after k = rows k) :
    Consistent users after := by
  have haccepted : ∀ first second, after.HasStatus first second .kAccepted ↔
      rows.HasStatus first second .kAccepted := by
    intro first second
    by_cases hkey : request first second = .request requesterId targetUserId
    · cases hkey
      refine ⟨?_, fun hstatus => (hbefore hstatus).elim⟩
      rintro ⟨found, hfound, hstatus⟩
      rw [hafter] at hfound
      cases hfound
      exact (hrow hstatus).elim
    · rw [HasStatus, HasStatus, hsame _ hkey]
  have hfriendship : ∀ first second,
      after (.friendship first second) = rows (.friendship first second) :=
    fun first second => hsame _ (by simp)
  refine ⟨hconsistent.valid_of_request hvalid fun first second => hsame _, ?_, ?_⟩
  · intro first second hsome
    rw [hfriendship] at hsome ⊢
    exact hconsistent.symmetric first second hsome
  · intro first second
    rw [hfriendship, haccepted, haccepted]
    exact hconsistent.accepted first second

/-- A request is accepted and the two friendship rows are there. -/
theorem Consistent.accept (haccepted : after.HasStatus requesterId targetUserId .kAccepted)
    (hfirst : (after (.friendship requesterId targetUserId)).isSome = true)
    (hsecond : (after (.friendship targetUserId requesterId)).isSome = true)
    (hsame : ∀ k, k ≠ .request requesterId targetUserId →
      k ≠ .friendship requesterId targetUserId → k ≠ .friendship targetUserId requesterId →
      after k = rows k) : Consistent users after := by
  have hrequest : ∀ first second,
      request first second ≠ .request requesterId targetUserId →
      after (.request first second) = rows (.request first second) :=
    fun first second hne => hsame _ hne (by simp) (by simp)
  -- The pair itself is befriended, and nothing changes for any other pair.
  have hother : ∀ first second,
      ¬ (first = requesterId ∧ second = targetUserId) →
      ¬ (first = targetUserId ∧ second = requesterId) →
      after (.friendship first second) = rows (.friendship first second) :=
    fun first second hne hne' => hsame _ (by simp) (by simpa using hne) (by simpa using hne')
  have hstatus : ∀ first second, ¬ (first = requesterId ∧ second = targetUserId) →
      (after.HasStatus first second .kAccepted ↔ rows.HasStatus first second .kAccepted) := by
    intro first second hne
    rw [HasStatus, HasStatus, hrequest first second (by simpa using hne)]
  refine ⟨hconsistent.valid_of_request hvalid hrequest, ?_, ?_⟩
  · intro first second hsome
    by_cases hpair : first = requesterId ∧ second = targetUserId
    · obtain ⟨rfl, rfl⟩ := hpair
      exact hsecond
    · by_cases hreverse : first = targetUserId ∧ second = requesterId
      · obtain ⟨rfl, rfl⟩ := hreverse
        exact hfirst
      · rw [hother _ _ hpair hreverse] at hsome
        rw [hother _ _ (fun h => hreverse h.symm) fun h => hpair h.symm]
        exact hconsistent.symmetric first second hsome
  · intro first second
    by_cases hpair : first = requesterId ∧ second = targetUserId
    · obtain ⟨rfl, rfl⟩ := hpair
      exact ⟨fun _ => Or.inl haccepted, fun _ => hfirst⟩
    · by_cases hreverse : first = targetUserId ∧ second = requesterId
      · obtain ⟨rfl, rfl⟩ := hreverse
        exact ⟨fun _ => Or.inr haccepted, fun _ => hsecond⟩
      · rw [hother _ _ hpair hreverse, hstatus _ _ hpair,
          hstatus _ _ fun h => hreverse h.symm]
        exact hconsistent.accepted first second

end

end Consistent

end FriendRows

open FriendRows

namespace FriendDao

variable {ι : Type} [DecidableEq ι]

/-- What a justified statement did. -/
inductive Effect (users : UInt64 → Bool) (i : ι) (call : FriendCall)
    (history : List (Event (friendSql ι))) (store : FriendStore ι) :
    Event (friendSql ι) → FriendStore ι → Prop where
  | failed {sql : FriendStatement} {status : Error} (open_ : sql ≠ .commit ∧ sql ≠ .rollback)
      (code : status.code ≠ .notFound) :
      Effect users i call history store ⟨(i, sql), .error status⟩ store
  | acquired : Effect users i call history store ⟨(i, .acquire), .ok ()⟩ store
  | looked {requesterId targetUserId : UInt64}
      (early : stage history = .outside ∨ stage history = .opened) :
      Effect users i call history store
        ⟨(i, .selectFriendRequest requesterId targetUserId),
          .ok (store.read i (.request requesterId targetUserId))⟩ (store.look i)
  | lookedFriendship {userId friendId : UInt64} {found : Bool} :
      Effect users i call history store
        ⟨(i, .selectFriendship userId friendId), .ok found⟩ (store.look i)
  | started {nowMs : Int} {requesterId targetUserId : UInt64}
      (isAccept : call = .accept nowMs requesterId targetUserId)
      (outside : stage history = .outside) :
      Effect users i call history store ⟨(i, .startTransaction), .ok ()⟩
        (store.startTransaction i)
  | rolledBack {reply : Except Error Unit} :
      Effect users i call history store ⟨(i, .rollback), reply⟩ (store.rollback i)
  | undone {status : Error} :
      Effect users i call history store ⟨(i, .commit), .error status⟩ (store.rollback i)
  | committed (paired : stage history = .paired) :
      Effect users i call history store ⟨(i, .commit), .ok ()⟩ (store.commit i)
  | missed {requesterId targetUserId : UInt64} {status : FriendRequestStatus} {nowMs : Int}
      (decides : call.decides = some (requesterId, targetUserId))
      (early : stage history = .outside ∨ stage history = .opened)
      (found : FoundPending i requesterId targetUserId history)
      (gone : ∀ row, store.current i (.request requesterId targetUserId) = some row →
        row.status ≠ .kPending) :
      Effect users i call history store
        ⟨(i, .updateFriendRequest requesterId targetUserId status nowMs), .ok 0⟩ store
  | rejected {nowMs : Int} {requesterId targetUserId : UInt64} {row : FriendRequestRow}
      (isReject : call = .reject nowMs requesterId targetUserId)
      (outside : stage history = .outside)
      (unlocked : store.lockedFor i (.request requesterId targetUserId) = false)
      (current : store.current i (.request requesterId targetUserId) = some row)
      (pending : row.status = .kPending) :
      Effect users i call history store
        ⟨(i, .updateFriendRequest requesterId targetUserId .kRejected nowMs), .ok 1⟩
        (store.write i (.request requesterId targetUserId)
          { row with status := .kRejected, updatedAtMs := nowMs })
  | accepted {nowMs : Int} {requesterId targetUserId : UInt64} {row : FriendRequestRow}
      (isAccept : call = .accept nowMs requesterId targetUserId)
      (opened : stage history = .opened)
      (unlocked : store.lockedFor i (.request requesterId targetUserId) = false)
      (current : store.current i (.request requesterId targetUserId) = some row)
      (pending : row.status = .kPending) :
      Effect users i call history store
        ⟨(i, .updateFriendRequest requesterId targetUserId .kAccepted nowMs), .ok 1⟩
        (store.write i (.request requesterId targetUserId)
          { row with status := .kAccepted, updatedAtMs := nowMs })
  | paired {nowMs : Int} {requesterId targetUserId : UInt64} {affectedRows : Nat}
      (isAccept : call = .accept nowMs requesterId targetUserId)
      (updated : stage history = .updated) (affected : affectedRows ≤ 2)
      (unlocked : store.lockedFor i (.friendship requesterId targetUserId) = false)
      (unlocked' : store.lockedFor i (.friendship targetUserId requesterId) = false) :
      Effect users i call history store
        ⟨(i, .insertFriendships requesterId targetUserId), .ok affectedRows⟩
        ((store.insertFriendship i requesterId targetUserId).2.insertFriendship i targetUserId
          requesterId).2
  | created {nowMs : Int} {requesterId targetUserId : UInt64}
      (isCreate : call = .create nowMs requesterId targetUserId)
      (distinct : requesterId ≠ targetUserId) (outside : stage history = .outside)
      (reverse : ReverseClear i requesterId targetUserId history)
      (unlocked : store.lockedFor i (.request requesterId targetUserId) = false)
      (absent : store.current i (.request requesterId targetUserId) = none)
      (valid : users requesterId = true ∧ users targetUserId = true) :
      Effect users i call history store
        ⟨(i, .insertFriendRequest requesterId targetUserId nowMs), .ok 1⟩
        (store.write i (.request requesterId targetUserId) ⟨.kPending, nowMs, nowMs⟩)

theorem affected_insertFriendship (store : FriendStore ι) (i : ι) (userId friendId : UInt64) :
    (store.insertFriendship i userId friendId).1 ≤ 1 := by
  rw [insertFriendship]
  split
  · exact Nat.zero_le 1
  · exact Nat.le_refl 1

variable {users : UInt64 → Bool} {i : ι} {call : FriendCall}
variable {history : List (Event (friendSql ι))} {store next : FriendStore ι}

/-- An `UPDATE` of a pending row changes it, and any other does nothing. -/
theorem execute_update {requesterId targetUserId : UInt64} {status : FriendRequestStatus}
    {nowMs : Int} {reply : Except Error Nat} (hexecute : store.execute users i
      (.updateFriendRequest requesterId targetUserId status nowMs) = some (reply, next)) :
    store.lockedFor i (.request requesterId targetUserId) = false ∧
    ((∃ row, store.current i (.request requesterId targetUserId) = some row ∧
        row.status = .kPending ∧ reply = .ok 1 ∧
        next = store.write i (.request requesterId targetUserId)
          { row with status, updatedAtMs := nowMs }) ∨
      ((∀ row, store.current i (.request requesterId targetUserId) = some row →
          row.status ≠ .kPending) ∧ reply = .ok 0 ∧ next = store)) := by
  simp only [execute] at hexecute
  split_ifs at hexecute with hlocked
  refine ⟨by simpa using hlocked, ?_⟩
  cases hcurrent : store.current i (.request requesterId targetUserId) with
  | none =>
    simp only [hcurrent] at hexecute
    cases hexecute
    exact Or.inr ⟨by simp, rfl, rfl⟩
  | some row =>
    simp only [hcurrent] at hexecute
    split_ifs at hexecute with hpending
    · cases hexecute
      exact Or.inl ⟨row, rfl, hpending, rfl, rfl⟩
    · cases hexecute
      exact Or.inr ⟨by simpa using hpending, rfl, rfl⟩

/-- A statement that was carried out. -/
theorem effect_of_execute {sql : FriendStatement} {reply : Except Error sql.Result}
    (hallowed : Allowed i history call sql)
    (hexecute : store.execute users i sql = some (reply, next)) :
    Effect users i call history store ⟨(i, sql), reply⟩ next := by
  cases sql with
  | acquire =>
    cases hexecute
    exact .acquired
  | startTransaction =>
    cases hexecute
    cases call with
    | accept => exact .started rfl hallowed
    | create | reject => exact hallowed.elim
  | commit =>
    cases hexecute
    cases call with
    | accept => exact .committed hallowed
    | create | reject => exact hallowed.elim
  | rollback =>
    cases hexecute
    exact .rolledBack
  | selectFriendRequest =>
    cases hexecute
    exact .looked hallowed
  | selectFriendship =>
    cases hexecute
    exact .lookedFriendship
  | insertFriendRequest =>
    cases call with
    | accept | reject => exact hallowed.elim
    | create =>
      obtain ⟨rfl, rfl, rfl, hne, houtside, hreverse⟩ := hallowed
      simp only [execute] at hexecute
      split_ifs at hexecute with hlocked hexists husers
      · cases hexecute
        exact .failed (by simp) (by decide)
      · cases hexecute
        exact .created rfl hne houtside hreverse (by simpa using hlocked)
          (by simpa using hexists) (by simpa using husers)
      · cases hexecute
        exact .failed (by simp) (by decide)
  | updateFriendRequest =>
    obtain ⟨hunlocked, ⟨row, hcurrent, hpending, rfl, rfl⟩ | ⟨hgone, rfl, rfl⟩⟩ :=
      execute_update hexecute
    · cases call with
      | create => exact hallowed.elim
      | reject =>
        obtain ⟨rfl, rfl, rfl, rfl, houtside, -⟩ := hallowed
        exact .rejected rfl houtside hunlocked hcurrent hpending
      | accept =>
        obtain ⟨rfl, rfl, rfl, rfl, hopened, -⟩ := hallowed
        exact .accepted rfl hopened hunlocked hcurrent hpending
    · cases call with
      | create => exact hallowed.elim
      | reject =>
        obtain ⟨rfl, rfl, rfl, rfl, houtside, hfound⟩ := hallowed
        exact .missed rfl (Or.inl houtside) hfound hgone
      | accept =>
        obtain ⟨rfl, rfl, rfl, rfl, hopened, hfound⟩ := hallowed
        exact .missed rfl (Or.inr hopened) hfound hgone
  | insertFriendships =>
    cases call with
    | create | reject => exact hallowed.elim
    | accept =>
      obtain ⟨rfl, rfl, hupdated⟩ := hallowed
      simp only [execute] at hexecute
      split_ifs at hexecute with hlocked husers
      · cases hexecute
        rw [Bool.or_eq_true, not_or, Bool.not_eq_true, Bool.not_eq_true] at hlocked
        exact .paired rfl hupdated (Nat.add_le_add (affected_insertFriendship _ _ _ _)
          (affected_insertFriendship _ _ _ _)) hlocked.1 hlocked.2
      · cases hexecute
        exact .failed (by simp) (by decide)

theorem effect_of_machine {event : Event (friendSql ι)}
    (hjustified : Justified i call history event)
    (hanswer : machine users event.call store event.reply next) :
    Effect users i call history store event next := by
  obtain ⟨⟨c, sql⟩, reply⟩ := event
  obtain ⟨rfl, hallowed⟩ := hjustified
  rcases hanswer with hexecute | ⟨⟨status, hcode, rfl⟩, rfl⟩
  · exact effect_of_execute hallowed hexecute
  · cases sql with
    | commit => exact .undone
    | rollback => exact .rolledBack
    | _ => exact .failed (by simp) hcode

/-! ## The transaction of a call -/

/-- The call has accepted the request, and others see it pending. -/
structure Holds (i : ι) (store : FriendStore ι) (requesterId targetUserId : UInt64) : Prop where
  accepted : ∃ row, store.own i (.request requesterId targetUserId) = some row ∧
    row.status = .kAccepted
  pending : HasStatus store.committed requesterId targetUserId .kPending

/-- What a call holds, by how far its transaction has come. -/
def Position (call : FriendCall) (i : ι) (store : FriendStore ι) : Stage → Prop
  | .outside => store.modes i = .autocommit
  | .opened => store.modes i ≠ .autocommit ∧ (∃ nowMs requesterId targetUserId,
      call = .accept nowMs requesterId targetUserId) ∧ ∀ k, store.own i k = none
  | .updated => store.modes i ≠ .autocommit ∧ ∃ nowMs requesterId targetUserId,
      call = .accept nowMs requesterId targetUserId ∧ Holds i store requesterId targetUserId ∧
      ∀ k, k ≠ .request requesterId targetUserId → store.own i k = none
  | .paired => store.modes i ≠ .autocommit ∧ ∃ nowMs requesterId targetUserId,
      call = .accept nowMs requesterId targetUserId ∧ Holds i store requesterId targetUserId ∧
      (store.current i (.friendship requesterId targetUserId)).isSome = true ∧
      (store.current i (.friendship targetUserId requesterId)).isSome = true ∧
      ∀ k, k ≠ .request requesterId targetUserId →
        k ≠ .friendship requesterId targetUserId →
        k ≠ .friendship targetUserId requesterId → store.own i k = none

theorem Holds.congr {requesterId targetUserId : UInt64}
    (hholds : Holds i store requesterId targetUserId) (hown : ∀ k, next.own i k = store.own i k)
    (hcommitted : ∀ k, store.own i k ≠ none → next.committed k = store.committed k) :
    Holds i next requesterId targetUserId := by
  obtain ⟨row, hrow, hstatus⟩ := hholds.accepted
  refine ⟨⟨row, by rw [hown, hrow], hstatus⟩, ?_⟩
  rw [HasStatus, hcommitted _ (by simp [hrow])]
  exact hholds.pending

/-- The position depends on what the call holds, and on friendships being there. -/
theorem Position.congr {stage : Stage} (hposition : Position call i store stage)
    (hmode : next.modes i = .autocommit ↔ store.modes i = .autocommit)
    (hown : ∀ k, next.own i k = store.own i k)
    (hcommitted : ∀ k, store.own i k ≠ none → next.committed k = store.committed k)
    (hadvances : store.Advances Later next) : Position call i next stage := by
  have hcurrent : ∀ userId friendId,
      (store.current i (.friendship userId friendId)).isSome = true →
      (next.current i (.friendship userId friendId)).isSome = true := by
    intro userId friendId hsome
    rw [current, hown]
    rw [current] at hsome
    cases hversion : store.own i (.friendship userId friendId) with
    | some => rfl
    | none =>
      rw [hversion, Option.none_or] at hsome
      rw [Option.none_or]
      exact hadvances (.friendship userId friendId) hsome
  cases stage with
  | outside => exact hmode.mpr hposition
  | opened =>
    exact ⟨fun h => hposition.1 (hmode.mp h), hposition.2.1,
      fun k => (hown k).trans (hposition.2.2 k)⟩
  | updated =>
    obtain ⟨htransaction, nowMs, requesterId, targetUserId, hcall, hholds, hrest⟩ := hposition
    exact ⟨fun h => htransaction (hmode.mp h), nowMs, requesterId, targetUserId, hcall,
      hholds.congr hown hcommitted, fun k hne => (hown k).trans (hrest k hne)⟩
  | paired =>
    obtain ⟨htransaction, nowMs, requesterId, targetUserId, hcall, hholds, hfirst, hsecond,
      hrest⟩ := hposition
    exact ⟨fun h => htransaction (hmode.mp h), nowMs, requesterId, targetUserId, hcall,
      hholds.congr hown hcommitted, hcurrent _ _ hfirst, hcurrent _ _ hsecond,
      fun k hne hpair hreverse => (hown k).trans (hrest k hne hpair hreverse)⟩

/-- An insert of a friendship row by a connection in a transaction. -/
structure Befriended (i : ι) (userId friendId : UInt64) (store next : FriendStore ι) : Prop where
  ordered : store.Ordered Later → next.Ordered Later
  modes : next.modes = store.modes
  committed : next.committed = store.committed
  other : ∀ j, j ≠ i → ∀ k, next.own j k = store.own j k
  own : ∀ k, k ≠ .friendship userId friendId → next.own i k = store.own i k
  unlocked : ∀ k, store.lockedFor i k = false → next.lockedFor i k = false
  present : (next.current i (.friendship userId friendId)).isSome = true

theorem befriended_insertFriendship {userId friendId : UInt64} (hmode : store.modes i ≠ .autocommit)
    (hunlocked : store.lockedFor i (.friendship userId friendId) = false) :
    Befriended i userId friendId store (store.insertFriendship i userId friendId).2 := by
  rw [insertFriendship]
  split
  · next row hcurrent =>
      exact ⟨id, rfl, rfl, fun _ _ _ => rfl, fun _ _ => rfl, fun _ => id, by simp [hcurrent]⟩
  · next hcurrent =>
      refine ⟨fun hordered => ?_, write_modes, ?_, ?_, ?_, ?_, ?_⟩
      · refine (hordered.write Later.refl Later.trans hunlocked ?_).1
        rw [hcurrent]
        exact fun hsome => nomatch hsome
      · rw [write_transaction hmode]
      · exact fun j hne k => own_write_other hne hunlocked k
      · exact fun k hne => own_write_of_ne hne
      · exact fun k hk => lockedFor_write hk
      · rw [current, own_write_self hmode]
        rfl

theorem Befriended.keeps {userId friendId : UInt64} {first second : UInt64}
    (hbefriended : Befriended i userId friendId store next)
    (hpresent : (store.current i (.friendship first second)).isSome = true) :
    (next.current i (.friendship first second)).isSome = true := by
  by_cases hsame : friendship first second = .friendship userId friendId
  · cases hsame
    exact hbefriended.present
  · rwa [current, hbefriended.own _ hsame, hbefriended.committed]

theorem later_of_pending {requesterId targetUserId : UInt64} {row : FriendRequestRow}
    (hpending : row.status = .kPending) (later : FriendRequestRow) :
    Later (.request requesterId targetUserId) (some row) (some later) := by
  intro found hfound
  obtain rfl := Option.some.inj hfound
  exact ⟨later, rfl, fun hdecided => (hdecided hpending).elim⟩

/-- The two inserts of an acceptance. -/
theorem befriended_twice {requesterId targetUserId : UInt64} (hmode : store.modes i ≠ .autocommit)
    (hunlocked : store.lockedFor i (.friendship requesterId targetUserId) = false)
    (hunlocked' : store.lockedFor i (.friendship targetUserId requesterId) = false) :
    Befriended i requesterId targetUserId store
        (store.insertFriendship i requesterId targetUserId).2 ∧
      Befriended i targetUserId requesterId
        (store.insertFriendship i requesterId targetUserId).2
        ((store.insertFriendship i requesterId targetUserId).2.insertFriendship i targetUserId
          requesterId).2 := by
  have hfirst := befriended_insertFriendship hmode hunlocked
  refine ⟨hfirst, befriended_insertFriendship ?_ (hfirst.unlocked _ hunlocked')⟩
  rwa [hfirst.modes]

/-- Inside a transaction the mode is not autocommit. -/
theorem Position.transaction {stage : Stage} (hposition : Position call i store stage)
    (hstage : stage ≠ .outside) : store.modes i ≠ .autocommit := by
  cases stage with
  | outside => exact (hstage rfl).elim
  | opened | updated | paired => exact hposition.1

/-- Only an acceptance opens a transaction. -/
theorem Position.autocommit {stage : Stage} (hposition : Position call i store stage)
    (hcall : ∀ nowMs requesterId targetUserId, call ≠ .accept nowMs requesterId targetUserId) :
    store.modes i = .autocommit := by
  cases stage with
  | outside => exact hposition
  | opened =>
    obtain ⟨-, ⟨_, _, _, haccept⟩, -⟩ := hposition
    exact (hcall _ _ _ haccept).elim
  | updated | paired =>
    obtain ⟨-, _, _, _, haccept, -⟩ := hposition
    exact (hcall _ _ _ haccept).elim

section Effect

variable {event : Event (friendSql ι)} (heffect : Effect users i call history store event next)
  (hposition : Position call i store (stage history))
include heffect hposition

/-- A statement leaves the other connections alone, and the rows they locked. -/
theorem Effect.other {j : ι} (hne : j ≠ i) :
    next.modes j = store.modes j ∧ (∀ k, next.own j k = store.own j k) ∧
      ∀ k, store.own j k ≠ none → next.committed k = store.committed k := by
  cases heffect with
  | failed | acquired | missed => exact ⟨rfl, fun _ => rfl, fun _ _ => rfl⟩
  | looked | lookedFriendship =>
    refine ⟨look_modes_of_ne hne, fun k => ?_, fun k _ => ?_⟩
    · rw [own_look]
    · rw [look_committed]
  | started => exact ⟨update_of_ne hne _ _, fun _ => rfl, fun _ _ => rfl⟩
  | rolledBack | undone =>
    refine ⟨update_of_ne hne _ _, fun k => ?_, fun _ _ => rfl⟩
    rw [own_of_release rfl, if_neg hne]
  | committed =>
    refine ⟨update_of_ne hne _ _, fun k => ?_, fun k hown => ?_⟩
    · rw [own_of_release rfl, if_neg hne]
    · exact current_of_own_eq_none (own_eq_none_of_own hne hown)
  | rejected _ _ unlocked | accepted _ _ unlocked | created _ _ _ _ unlocked =>
    exact ⟨by rw [write_modes], own_write_other hne unlocked,
      fun l => write_committed_of_own hne unlocked⟩
  | paired isAccept updated affected unlocked unlocked' =>
    have hmode := hposition.transaction (by simp [updated])
    obtain ⟨hfirst, hsecond⟩ := befriended_twice hmode unlocked unlocked'
    refine ⟨by rw [hsecond.modes, hfirst.modes], fun k => ?_, fun k _ => ?_⟩
    · rw [hsecond.other j hne, hfirst.other j hne]
    · rw [hsecond.committed, hfirst.committed]

/-- Rows are committed by the statement that settles a call, and by no other. -/
theorem Effect.committed_eq (hsettles : settles call event = false) :
    next.committed = store.committed := by
  cases heffect with
  | failed | acquired | started | rolledBack | undone | missed => rfl
  | looked | lookedFriendship => exact look_committed
  | committed paired =>
    rw [paired] at hposition
    obtain ⟨-, _, _, _, rfl, -⟩ := hposition
    exact nomatch hsettles
  | rejected isReject =>
    subst isReject
    exact nomatch hsettles
  | accepted isAccept opened =>
    rw [write_transaction (hposition.transaction (by simp [opened]))]
  | paired isAccept updated affected unlocked unlocked' =>
    have hmode := hposition.transaction (by simp [updated])
    obtain ⟨hfirst, hsecond⟩ := befriended_twice hmode unlocked unlocked'
    rw [hsecond.committed, hfirst.committed]
  | created isCreate =>
    subst isCreate
    exact nomatch hsettles

/-- What a connection reads from stays, or is what is committed. -/
theorem Effect.view (j : ι) :
    next.view j = store.view j ∨ next.view j = next.committed := by
  by_cases hsame : j = i
  · subst hsame
    cases heffect with
    | failed | acquired | missed => exact Or.inl rfl
    | looked | lookedFriendship => exact Or.inl view_look
    | started => exact Or.inr view_startTransaction
    | rolledBack | undone | committed =>
      exact Or.inr (view_autocommit (update_self ..))
    | rejected | accepted | created =>
      exact view_of_modes (by rw [write_modes])
    | paired isAccept updated affected unlocked unlocked' =>
      have hmode := hposition.transaction (by simp [updated])
      obtain ⟨hfirst, hsecond⟩ := befriended_twice hmode unlocked unlocked'
      exact view_of_modes (by rw [hsecond.modes, hfirst.modes])
  · exact view_of_modes (heffect.other hposition hsame).1

variable (hordered : store.Ordered Later)
include hordered

/-- Statements keep rows in order, and what is committed goes forward. -/
theorem Effect.ordered :
    next.Ordered Later ∧ store.Advances Later next := by
  have hsame : store.Advances Later store := fun k => .refl k _
  cases heffect with
  | failed | acquired | missed => exact ⟨hordered, hsame⟩
  | looked | lookedFriendship =>
    refine ⟨hordered.look Later.refl, fun k => ?_⟩
    rw [look_committed]
    exact .refl k _
  | started => exact ⟨hordered.startTransaction, hsame⟩
  | rolledBack | undone => exact ⟨hordered.rollback, hsame⟩
  | committed =>
    exact ⟨hordered.commit Later.refl Later.trans,
      hordered.advances_commit Later.refl⟩
  | rejected _ _ unlocked current pending | accepted _ _ unlocked current pending =>
    apply hordered.write Later.refl Later.trans unlocked
    rw [current]
    exact later_of_pending pending _
  | paired isAccept updated affected unlocked unlocked' =>
    have hmode := hposition.transaction (by simp [updated])
    obtain ⟨hfirst, hsecond⟩ := befriended_twice hmode unlocked unlocked'
    refine ⟨hsecond.ordered (hfirst.ordered hordered), fun k => ?_⟩
    rw [hsecond.committed, hfirst.committed]
    exact .refl k _
  | created isCreate distinct outside reverse unlocked absent =>
    apply hordered.write Later.refl Later.trans unlocked
    rw [absent]
    exact fun row hrow => nomatch hrow

/-- A statement takes its own transaction to the next stage. -/
theorem Effect.position :
    Position call i next ((stage history).next event) := by
  have hadvances := (heffect.ordered hposition hordered).2
  cases heffect with
  | failed open_ => rwa [Stage.next_failed _ open_]
  | acquired => exact hposition
  | looked | lookedFriendship =>
    exact hposition.congr look_autocommit_iff (fun k => by rw [own_look])
      (fun k _ => by rw [look_committed]) hadvances
  | started isAccept outside =>
    rw [outside] at hposition
    refine ⟨?_, ⟨_, _, _, isAccept⟩,
      fun k => own_eq_none (hordered.closed i hposition k)⟩
    show update store.modes i (.transaction none) i ≠ .autocommit
    rw [update_self]
    exact fun h => nomatch h
  | rolledBack | undone | committed => exact update_self ..
  | missed =>
    simpa [Stage.next] using hposition
  | rejected _ outside | created _ _ outside =>
    rw [outside] at hposition ⊢
    show modes _ i = .autocommit
    rwa [write_modes]
  | accepted isAccept opened unlocked current pending =>
    rw [opened] at hposition ⊢
    obtain ⟨hmode, -, hnone⟩ := hposition
    refine ⟨by rwa [write_modes], _, _, _, isAccept, ⟨?_, ?_⟩, ?_⟩
    · exact ⟨_, own_write_self hmode, rfl⟩
    · rw [write_transaction hmode]
      rw [current_of_own_eq_none (hnone _)] at current
      exact ⟨_, current, pending⟩
    · intro k hne
      rw [own_write_of_ne hne]
      exact hnone k
  | paired isAccept updated affected unlocked unlocked' =>
    have hmode := hposition.transaction (by simp [updated])
    obtain ⟨hfirst, hsecond⟩ := befriended_twice hmode unlocked unlocked'
    rw [updated] at hposition ⊢
    obtain ⟨-, _, requesterId, targetUserId, hcall, hholds, hrest⟩ := hposition
    cases isAccept.symm.trans hcall
    obtain ⟨row, hrow, hstatus⟩ := hholds.accepted
    refine ⟨by rwa [hsecond.modes, hfirst.modes], _, _, _, isAccept,
      ⟨⟨row, ?_, hstatus⟩, ?_⟩, hsecond.keeps hfirst.present, hsecond.present, ?_⟩
    · rw [hsecond.own _ (by simp), hfirst.own _ (by simp)]
      exact hrow
    · rw [hsecond.committed, hfirst.committed]
      exact hholds.pending
    · intro k hne hpair hreverse
      rw [hsecond.own k hreverse, hfirst.own k hpair]
      exact hrest k hne

/-- Statements keep the two tables in agreement. -/
theorem Effect.consistent (hconsistent : Consistent users store.committed) :
    Consistent users next.committed := by
  cases heffect with
  | failed | acquired | started | rolledBack | undone | missed => exact hconsistent
  | looked | lookedFriendship => rwa [look_committed]
  | committed paired =>
    rw [paired] at hposition
    obtain ⟨-, _, requesterId, targetUserId, -, hholds, hfirst, hsecond, hrest⟩ := hposition
    obtain ⟨before, hbefore, -⟩ := hholds.pending
    obtain ⟨row, hrow, hstatus⟩ := hholds.accepted
    apply hconsistent.accept (hconsistent.valid _ _ _ hbefore) _ hfirst hsecond
    · intro k hne hpair hreverse
      exact current_of_own_eq_none (hrest k hne hpair hreverse)
    · refine ⟨row, ?_, hstatus⟩
      rw [current, hrow, Option.some_or]
  | rejected isReject outside unlocked current pending =>
    rw [outside] at hposition
    rw [hordered.current_autocommit hposition] at current
    rw [write_autocommit hposition]
    apply hconsistent.update (hconsistent.valid _ _ _ current) _ (update_self ..)
      (by simp) fun k hne => update_of_ne hne _ _
    rintro ⟨other, hother, hstatus⟩
    cases current.symm.trans hother
    cases pending.symm.trans hstatus
  | accepted isAccept opened =>
    rw [write_transaction (hposition.transaction (by simp [opened]))]
    exact hconsistent
  | paired isAccept updated affected unlocked unlocked' =>
    have hmode := hposition.transaction (by simp [updated])
    obtain ⟨hfirst, hsecond⟩ := befriended_twice hmode unlocked unlocked'
    rwa [hsecond.committed, hfirst.committed]
  | created isCreate distinct outside reverse unlocked absent valid =>
    rw [outside] at hposition
    rw [hordered.current_autocommit hposition] at absent
    rw [write_autocommit hposition]
    apply hconsistent.update ⟨distinct, valid⟩ _ (update_self ..) (by simp)
      fun k hne => update_of_ne hne _ _
    rintro ⟨other, hother, -⟩
    cases absent.symm.trans hother

/-- A call is settled by deciding a pending request, or by adding a pending one. -/
theorem Effect.settled (hsettles : settles call event = true) :
    (∃ requesterId targetUserId, call.decides = some (requesterId, targetUserId) ∧
      HasStatus store.committed requesterId targetUserId .kPending ∧
      Decided next.committed requesterId targetUserId ∧
      ∀ first second, request first second ≠ .request requesterId targetUserId →
        next.committed (.request first second) = store.committed (.request first second)) ∨
    (∃ nowMs requesterId targetUserId, call = .create nowMs requesterId targetUserId ∧
      ReverseClear i requesterId targetUserId history ∧
      store.committed (.request requesterId targetUserId) = none ∧
      HasStatus next.committed requesterId targetUserId .kPending ∧
      ∀ k, k ≠ .request requesterId targetUserId → next.committed k = store.committed k) := by
  cases heffect with
  | failed | undone =>
    rw [settles_error call i] at hsettles
    cases hsettles
  | acquired | looked | lookedFriendship | started | rolledBack | missed =>
    cases call <;> cases hsettles
  | committed paired =>
    rw [paired] at hposition
    obtain ⟨-, _, requesterId, targetUserId, rfl, hholds, -, -, hrest⟩ := hposition
    obtain ⟨row, hrow, hstatus⟩ := hholds.accepted
    refine Or.inl ⟨requesterId, targetUserId, rfl, hholds.pending, ⟨row, ?_, ?_⟩, ?_⟩
    · show store.current i _ = some row
      rw [current, hrow, Option.some_or]
    · rw [hstatus]
      decide
    · intro first second hne
      exact current_of_own_eq_none (hrest _ hne (by simp) (by simp))
  | rejected isReject outside unlocked current pending =>
    subst isReject
    rw [outside] at hposition
    rw [hordered.current_autocommit hposition] at current
    rw [write_autocommit hposition]
    refine Or.inl ⟨_, _, rfl, ⟨_, current, pending⟩, ⟨_, update_self .., ?_⟩, ?_⟩
    · intro hpending
      cases hpending
    · exact fun first second hne => update_of_ne hne _ _
  | accepted isAccept | paired isAccept =>
    subst isAccept
    cases hsettles
  | created isCreate distinct outside reverse unlocked absent =>
    rw [outside] at hposition
    rw [hordered.current_autocommit hposition] at absent
    rw [write_autocommit hposition]
    exact Or.inr ⟨_, _, _, isCreate, reverse, absent, ⟨_, update_self .., rfl⟩,
      fun k hne => update_of_ne hne _ _⟩

end Effect

end FriendDao

end LiteIM
