/-
# Crossed friend requests

`createFriendRequest` looks for a request in the other direction and inserts its own in a
later statement, and the key of the table covers one direction only. Two creations can
therefore each find nothing and both insert. A creation is armed between the two
statements; no crossed requests come about when no creation looks for the reverse request
while one in the other direction is armed.
-/

import LiteIM.Storage.FriendRaces

namespace LiteIM.FriendDao

open Foundation FriendRows Pool List

variable {ι : Type} [DecidableEq ι]

/-- Both users have a pending request to the other. -/
def Crossed (rows : FriendRows) (u v : UInt64) : Prop :=
  rows.HasStatus u v .kPending ∧ rows.HasStatus v u .kPending

/-- The creation has looked for the reverse request, and will insert next. -/
def Armed (calls : ι → FriendCall) (pool : FriendPool ι) (i : ι)
    (requesterId targetUserId : UInt64) : Prop :=
  (∃ nowMs, calls i = .create nowMs requesterId targetUserId) ∧
    ReverseClear i requesterId targetUserId (history pool.log i)

/-- No creation looks for the reverse request while one in that direction is armed. -/
def Uncrossed (calls : ι → FriendCall) (pool : FriendPool ι) (i : ι)
    (c : ι × FriendStatement) : Prop :=
  ∀ nowMs requesterId targetUserId, calls i = .create nowMs requesterId targetUserId →
    c.2 = .selectFriendRequest targetUserId requesterId →
    ∀ j, ¬ Armed calls pool j targetUserId requesterId

variable {users : UInt64 → Bool} {calls : ι → FriendCall} {pool : FriendPool ι}

section Step

variable {i : ι} {event : Event (friendSql ι)} {after : FriendStore ι}
variable {next : Program (friendSql ι) (Except Error Unit)}

variable {u v : UInt64}

/-- A request that becomes pending is inserted by an armed creation. -/
theorem pending_of_effect (hsound : Sound users calls pool)
    (heffect : Effect users i (calls i) (history pool.log i) pool.world event after)
    (hpending : HasStatus after.committed u v .kPending) :
    HasStatus pool.world.committed u v .kPending ∨
      Armed calls pool i u v ∧ ∀ k, k ≠ .request u v → after.committed k =
        pool.world.committed k := by
  cases hsettles : settles (calls i) event with
  | false =>
    rw [heffect.committed_eq (hsound.position i) hsettles] at hpending
    exact Or.inl hpending
  | true =>
    rcases heffect.settled (hsound.position i) hsound.ordered hsettles with
      ⟨requester, target, -, -, hdecided, hsame⟩ |
      ⟨nowMs, requester, target, hcreate, hreverse, -, -, hsame⟩
    · by_cases hkey : FriendKey.request u v = .request requester target
      · cases hkey
        exact (hpending.not_decided hdecided).elim
      · rw [HasStatus, hsame _ _ hkey] at hpending
        exact Or.inl hpending
    · by_cases hkey : FriendKey.request u v = .request requester target
      · cases hkey
        exact Or.inr ⟨⟨⟨nowMs, hcreate⟩, hreverse⟩, hsame⟩
      · rw [HasStatus, hsame _ hkey] at hpending
        exact Or.inl hpending

/-- A creation becomes armed by looking for the reverse request. -/
theorem Armed.of_advance {j : ι} (harmed : Armed calls (pool.advance i event next after) j u v) :
    j ≠ i ∧ Armed calls pool j u v ∨
      j = i ∧ ∃ reply, ReverseReply reply ∧ event = ⟨(j, .selectFriendRequest v u), reply⟩ := by
  obtain ⟨hcreate, past, reply, hreply, hhistory⟩ := harmed
  by_cases hsame : j = i
  · subst hsame
    rw [history_advance_self] at hhistory
    have hlast := (append_inj' hhistory rfl).2
    exact Or.inr ⟨rfl, reply, hreply, (cons.inj hlast).1⟩
  · rw [history_advance_of_ne _ _ _ _ _ hsame] at hhistory
    exact Or.inl ⟨hsame, hcreate, past, reply, hreply, hhistory⟩

/-- A creation that becomes armed has not seen a pending reverse request. -/
theorem not_pending_of_look (hsound : Sound users calls pool) {nowMs : Int}
    {reply : Except Error (Option FriendRequestRow)} (hreply : ReverseReply reply)
    (hcreate : calls i = .create nowMs u v)
    (heffect : Effect users i (calls i) (history pool.log i) pool.world
      ⟨(i, .selectFriendRequest v u), reply⟩ after) :
    ¬ HasStatus after.committed v u .kPending := by
  cases reply with
  | error =>
    cases heffect with
    | failed open_ code => exact (code hreply).elim
  | ok =>
    obtain ⟨hrow, hcommitted⟩ := hsound.looked heffect
    have hmode := (hsound.position i).autocommit (by simp [hcreate])
    rw [RowStore.view_autocommit hmode] at hrow
    rintro ⟨found, hfound, hpending⟩
    rw [hcommitted, ← hrow] at hfound
    cases (hreply found hfound).symm.trans hpending

end Step

/-- Creations in opposite directions are not armed together, and an armed creation has
no pending reverse request. -/
structure Straight (calls : ι → FriendCall) (pool : FriendPool ι) : Prop where
  armed : ∀ i j u v, u ≠ v → Armed calls pool i u v → ¬ Armed calls pool j v u
  clear : ∀ i u v, Armed calls pool i u v →
    ¬ HasStatus pool.world.committed v u .kPending
  uncrossed : ∀ u v, ¬ Crossed pool.world.committed u v

theorem Straight.step {i : ι} {event : Event (friendSql ι)} {after : FriendStore ι}
    (hstraight : Straight calls pool) (hsound : Sound users calls pool)
    (hguard : Uncrossed calls pool i event.call)
    (heffect : Effect users i (calls i) (history pool.log i) pool.world event after)
    (next : Program (friendSql ι) (Except Error Unit)) :
    Straight calls (pool.advance i event next after) := by
  -- A creation armed by this statement passed the guard.
  have hlooked : ∀ j u v, Armed calls (pool.advance i event next after) j u v →
      j ≠ i ∧ Armed calls pool j u v ∨ j = i ∧ (∀ l, ¬ Armed calls pool l v u) ∧
        ¬ HasStatus after.committed v u .kPending := by
    intro j u v harmed
    rcases harmed.of_advance with hbefore | ⟨rfl, reply, hreply, rfl⟩
    · exact Or.inl hbefore
    · obtain ⟨⟨nowMs, hcreate⟩, -⟩ := harmed
      exact Or.inr ⟨rfl, hguard nowMs u v hcreate rfl,
        not_pending_of_look hsound hreply hcreate heffect⟩
  have hdistinct : ∀ u v, HasStatus after.committed u v .kPending → u ≠ v := by
    rintro u v ⟨row, hrow, -⟩
    exact ((hsound.step heffect next).consistent.valid u v row hrow).1
  refine ⟨fun j l u v hne hj hl => ?_, fun j u v hj hpending => ?_, fun u v hcrossed => ?_⟩
  · rcases hlooked j u v hj with ⟨-, hbefore⟩ | ⟨hsame, hnone, -⟩
    · rcases hlooked l v u hl with ⟨-, hbefore'⟩ | ⟨-, hnone, -⟩
      · exact hstraight.armed j l u v hne hbefore hbefore'
      · exact hnone j hbefore
    · rcases hlooked l v u hl with ⟨-, hbefore'⟩ | ⟨hsame', -, -⟩
      · exact hnone l hbefore'
      · obtain ⟨⟨_, hcreate⟩, -⟩ := hj
        obtain ⟨⟨_, hcreate'⟩, -⟩ := hl
        rw [hsame'.trans hsame.symm, hcreate] at hcreate'
        exact hne (FriendCall.create.inj hcreate').2.1
  · rcases hlooked j u v hj with ⟨-, hbefore⟩ | ⟨-, -, hclear⟩
    · rcases pending_of_effect hsound heffect hpending with hold | ⟨harmed, -⟩
      · exact hstraight.clear j u v hbefore hold
      · exact hstraight.armed j i u v (hdistinct v u hpending).symm hbefore harmed
    · exact hclear hpending
  · obtain ⟨hfirst, hsecond⟩ := hcrossed
    have hne := hdistinct u v hfirst
    rcases pending_of_effect hsound heffect hfirst with hold | ⟨harmed, hsame⟩
    · rcases pending_of_effect hsound heffect hsecond with hold' | ⟨harmed, -⟩
      · exact hstraight.uncrossed u v ⟨hold, hold'⟩
      · exact hstraight.clear i v u harmed hold
    · have hother : FriendKey.request v u ≠ .request u v := by simp [hne.symm]
      rw [HasStatus, advance, hsame _ hother] at hsecond
      exact hstraight.clear i u v harmed hsecond

theorem noRows_consistent : Consistent users fun _ => none where
  valid _ _ _ hrow := nomatch hrow
  symmetric _ _ hsome := nomatch hsome
  accepted _ _ := by simp [HasStatus]

/-- From empty tables no two pending requests cross, in any run in which no creation looks
for the reverse request while one in the other direction is armed. -/
theorem not_crossed_of_uncrossed {last : FriendPool ι}
    (hruns : Runs users (Uncrossed calls) (calling calls fun _ => none) last) (u v : UInt64) :
    ¬ Crossed last.world.committed u v := by
  have hstraight : Straight calls last := by
    apply Runs.invariant noRows_consistent .refl hruns (Straight calls)
    · have hidle : ∀ i u v, ¬ Armed calls (calling calls fun _ => none) i u v := by
        rintro i u v ⟨-, past, reply, -, hhistory⟩
        exact append_ne_nil_of_right_ne_nil past (by simp) hhistory.symm
      exact ⟨fun i _ u v _ harmed => (hidle i u v harmed).elim,
        fun i u v harmed => (hidle i u v harmed).elim,
        fun u v hcrossed => nomatch hcrossed.1.choose_spec.1⟩
    · intro pool i event next after hsound hstraight hguard heffect
      exact hstraight.step hsound hguard heffect next
  exact hstraight.uncrossed u v

/-- Users 1 and 2 each send the other a request. -/
def eachOther : Bool → FriendCall
  | true => .create 10 1 2
  | false => .create 11 2 1

/-- The second creation begins when the first is over, and finds its request. -/
def oneAfterTheOther : FriendPool Bool :=
  (calling eachOther fun _ => none).schedule (fun c store => store.answer usersOneTwo c)
    [true, true, true, true, true, false, false, false, false]

theorem oneAfterTheOther_runs :
    Runs usersOneTwo (Uncrossed eachOther) (calling eachOther fun _ => none)
      oneAfterTheOther := by
  apply reaches_schedule fun c store => FriendStore.machine_answer usersOneTwo c store
  apply meets_call rfl (by rintro _ _ _ - ⟨⟩)
  apply meets_call rfl (by rintro _ _ _ - ⟨⟩)
  apply meets_call rfl (by rintro _ _ _ ⟨⟩ ⟨⟩)
  apply meets_call rfl
  · rintro _ _ _ ⟨⟩ - j ⟨⟨_, hcreate⟩, past, reply, -, hhistory⟩
    cases j with
    | true => exact nomatch hcreate
    | false => exact append_ne_nil_of_right_ne_nil past (by simp) hhistory.symm
  apply meets_call rfl (by rintro _ _ _ - ⟨⟩)
  apply meets_call rfl (by rintro _ _ _ - ⟨⟩)
  apply meets_call rfl (by rintro _ _ _ - ⟨⟩)
  apply meets_call rfl (by rintro _ _ _ ⟨⟩ ⟨⟩)
  apply meets_call rfl
  · rintro _ _ _ ⟨⟩ - j ⟨⟨_, hcreate⟩, past, reply, -, hhistory⟩
    cases j with
    | false => exact nomatch hcreate
    | true =>
      have hlast := congrArg getLast? hhistory
      rw [getLast?_concat] at hlast
      exact nomatch hlast
  exact trivial

/-- The first request is pending, and the second was refused. -/
theorem not_crossed_of_uncrossed_oneAfterTheOther :
    HasStatus oneAfterTheOther.world.committed 1 2 .kPending ∧
      oneAfterTheOther.threads false =
        .ret (.error ⟨.alreadyExists, "reverse friend request already exists"⟩) ∧
      ¬ Crossed oneAfterTheOther.world.committed 1 2 :=
  ⟨⟨_, rfl, rfl⟩, rfl, not_crossed_of_uncrossed oneAfterTheOther_runs 1 2⟩

/-- Both look for the reverse request before either inserts. -/
def bothLookFirst : FriendPool Bool :=
  (calling eachOther fun _ => none).schedule (fun c store => store.answer usersOneTwo c)
    [true, true, true, true, false, false, false, false, true, false]

theorem crossed_bothLookFirst :
    Runs usersOneTwo (fun _ _ _ => True) (calling eachOther fun _ => none) bothLookFirst ∧
      Crossed bothLookFirst.world.committed 1 2 := by
  refine ⟨?_, ⟨_, rfl, rfl⟩, ⟨_, rfl, rfl⟩⟩
  exact reaches_schedule (fun c store => FriendStore.machine_answer usersOneTwo c store)
    (meets_of_forall (fun _ _ _ => trivial) _ _)

end LiteIM.FriendDao
