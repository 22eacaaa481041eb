/-
# Races for a friend request

Any number of friend calls run at once. A call is settled by one statement, and the
statement that settles an acceptance or a rejection finds the request pending and leaves
it decided. So the calls that are settled on one request are at most one, and there is
one as soon as a call came upon the pending request and none of them met a failure.
-/

import LiteIM.Storage.FriendRequests

namespace LiteIM

open Foundation Pool FriendRows FriendKey RowStore Function

namespace FriendRows

variable {rows after : FriendRows} {requesterId targetUserId : UInt64}

/-- Requests are not deleted. -/
theorem exists_later {row : FriendRequestRow}
    (hrow : rows (.request requesterId targetUserId) = some row)
    (hlater : Later (.request requesterId targetUserId)
      (rows (.request requesterId targetUserId)) (after (.request requesterId targetUserId))) :
    ∃ later, after (.request requesterId targetUserId) = some later := by
  obtain ⟨later, hsome, -⟩ := hlater row hrow
  exact ⟨later, hsome⟩

theorem Decided.later (hdecided : rows.Decided requesterId targetUserId)
    (hlater : Later (.request requesterId targetUserId)
      (rows (.request requesterId targetUserId)) (after (.request requesterId targetUserId))) :
    after.Decided requesterId targetUserId := by
  obtain ⟨row, hrow, hstatus⟩ := hdecided
  obtain ⟨later, hsome, hsame⟩ := hlater row hrow
  exact ⟨later, hsome, hsame hstatus ▸ hstatus⟩

theorem HasStatus.not_decided (hpending : rows.HasStatus requesterId targetUserId .kPending) :
    ¬ rows.Decided requesterId targetUserId := by
  obtain ⟨row, hrow, hstatus⟩ := hpending
  rintro ⟨other, hother, hdecided⟩
  cases hrow.symm.trans hother
  exact hdecided hstatus

/-- A pending request stays pending or is decided. -/
theorem HasStatus.later (hpending : rows.HasStatus requesterId targetUserId .kPending)
    (hlater : Later (.request requesterId targetUserId)
      (rows (.request requesterId targetUserId)) (after (.request requesterId targetUserId))) :
    after.HasStatus requesterId targetUserId .kPending ∨
      after.Decided requesterId targetUserId := by
  obtain ⟨row, hrow, -⟩ := hpending
  obtain ⟨later, hsome, -⟩ := hlater row hrow
  by_cases hstatus : later.status = .kPending
  · exact Or.inl ⟨later, hsome, hstatus⟩
  · exact Or.inr ⟨later, hsome, hstatus⟩

end FriendRows

namespace FriendDao

variable {ι : Type} [DecidableEq ι]

abbrev FriendPool (ι : Type) := Pool (friendSql ι) ι (Except Error Unit) (FriendStore ι)

/-- Calls that have not begun. -/
def calling (calls : ι → FriendCall) (rows : FriendRows) : FriendPool ι :=
  start (fun i => (perform i (calls i)).run) (ofRows rows)

/-- A run of the calls. Nothing else writes to the two tables. -/
abbrev Runs (users : UInt64 → Bool) (guard : FriendPool ι → ι → ι × FriendStatement → Prop) :
    FriendPool ι → FriendPool ι → Prop :=
  Reaches (FriendStore.machine users) (fun _ _ => False) guard

variable {users : UInt64 → Bool} {calls : ι → FriendCall} {rows : FriendRows}
variable {guard : FriendPool ι → ι → ι × FriendStatement → Prop} {pool first last : FriendPool ι}

/-! ## What holds in every state -/

structure Sound (users : UInt64 → Bool) (calls : ι → FriendCall) (pool : FriendPool ι) :
    Prop where
  ordered : pool.world.Ordered Later
  consistent : Consistent users pool.world.committed
  position : ∀ i, Position (calls i) i pool.world (stage (history pool.log i))

section Step

variable {i : ι} {event : Event (friendSql ι)} {after : FriendStore ι}

theorem Sound.advances (hsound : Sound users calls pool)
    (heffect : Effect users i (calls i) (history pool.log i) pool.world event after) :
    pool.world.Advances Later after :=
  (heffect.ordered (hsound.position i) hsound.ordered).2

theorem Sound.step (hsound : Sound users calls pool)
    (heffect : Effect users i (calls i) (history pool.log i) pool.world event after)
    (next : Program (friendSql ι) (Except Error Unit)) :
    Sound users calls (pool.advance i event next after) := by
  refine ⟨(heffect.ordered (hsound.position i) hsound.ordered).1,
    heffect.consistent (hsound.position i) hsound.ordered hsound.consistent, fun j => ?_⟩
  by_cases hsame : j = i
  · subst hsame
    rw [history_advance_self, stage_append]
    exact heffect.position (hsound.position j) hsound.ordered
  · obtain ⟨hmode, hown, hcommitted⟩ := heffect.other (hsound.position i) hsame
    rw [history_advance_of_ne _ _ _ _ _ hsame]
    exact (hsound.position j).congr (by rw [← hmode]; rfl) hown hcommitted
      (hsound.advances heffect)

end Step

theorem Runs.sound (hruns : Runs users guard (calling calls rows) pool)
    (hrows : rows.Consistent users) : Sound users calls pool := by
  apply Reaches.justified_invariant hruns (fun i => perform_follows i (calls i))
    (Sound users calls)
  · exact ⟨ordered_ofRows rows, hrows, fun _ => rfl⟩
  · intro pool i event next after hsound hjustified hanswer
    exact hsound.step (effect_of_machine hjustified hanswer) next
  · exact fun _ _ _ houtside => houtside.elim

/-- What the statements preserve, from some point of a run on. -/
theorem Runs.invariant (hrows : rows.Consistent users)
    (hfirst : Runs users guard (calling calls rows) first) (hruns : Runs users guard first last)
    (property : FriendPool ι → Prop) (hproperty : property first)
    (hstep : ∀ pool i event next after, Sound users calls pool → property pool →
      guard pool i event.call →
      Effect users i (calls i) (history pool.log i) pool.world event after →
      property (pool.advance i event next after)) : property last := by
  apply And.right (a := Sound users calls last)
  apply Reaches.justified_invariant_from hfirst hruns (fun i => perform_follows i (calls i))
    (fun pool => Sound users calls pool ∧ property pool)
  · exact ⟨Runs.sound hfirst hrows, hproperty⟩
  · intro pool i event next after hpool hguard hjustified hanswer
    have heffect := effect_of_machine hjustified hanswer
    exact ⟨hpool.1.step heffect next,
      hstep pool i event next after hpool.1 hpool.2 hguard heffect⟩
  · exact fun _ _ _ houtside => houtside.elim

/-- Rows only go forward. -/
theorem Runs.later (hrows : rows.Consistent users)
    (hfirst : Runs users guard (calling calls rows) first) (hruns : Runs users guard first last)
    (k : FriendKey) : k.Later (first.world.committed k) (last.world.committed k) := by
  revert k
  apply Runs.invariant hrows hfirst hruns
    (fun pool => ∀ k : FriendKey, k.Later (first.world.committed k) (pool.world.committed k))
  · exact fun k => .refl k _
  · intro pool i event next after hsound hlater _ heffect k
    exact .trans k _ _ _ (hlater k) (hsound.advances heffect k)

variable {result : Except Error Unit}

/-- How a call has ended. -/
theorem Runs.ended (hruns : Runs users guard (calling calls rows) last) {i : ι}
    (hthread : last.threads i = .ret result) :
    Ended i (calls i) (history last.log i) result := by
  have hfollows := Reaches.follows hruns (fun i => perform_follows i (calls i)) i
  rw [hthread] at hfollows
  exact hfollows

/-! ## Who decides a request -/

variable {j : ι} {after : FriendStore ι}

theorem settled_advance {call : FriendCall} {i : ι} {event : Event (friendSql ι)}
    {next : Program (friendSql ι) (Except Error Unit)} :
    Settled call (history (pool.advance i event next after).log j) ↔
      Settled call (history pool.log j) ∨ j = i ∧ settles call event = true := by
  by_cases hsame : j = i
  · subst hsame
    rw [history_advance_self, settled_append]
    simp
  · rw [history_advance_of_ne _ _ _ _ _ hsame]
    simp [hsame]

/-- The call has decided on the request. -/
def Decider (calls : ι → FriendCall) (pool : FriendPool ι) (requesterId targetUserId : UInt64)
    (i : ι) : Prop :=
  (calls i).decides = some (requesterId, targetUserId) ∧
    Settled (calls i) (history pool.log i)

/-- A request is decided by one call, unless it was decided in the first place. -/
structure Judged (calls : ι → FriendCall) (rows : FriendRows) (pool : FriendPool ι) : Prop where
  decided : ∀ requesterId targetUserId i, Decider calls pool requesterId targetUserId i →
    Decided pool.world.committed requesterId targetUserId
  unique : ∀ requesterId targetUserId i j, Decider calls pool requesterId targetUserId i →
    Decider calls pool requesterId targetUserId j → i = j
  cause : ∀ requesterId targetUserId,
    Decided pool.world.committed requesterId targetUserId →
    rows.Decided requesterId targetUserId ∨ ∃ i, Decider calls pool requesterId targetUserId i

section Judged

variable {i : ι} {event : Event (friendSql ι)} {after : FriendStore ι}
variable {requesterId targetUserId : UInt64}

theorem Decider.advance (hdecider : Decider calls pool requesterId targetUserId j)
    (next : Program (friendSql ι) (Except Error Unit)) :
    Decider calls (pool.advance i event next after) requesterId targetUserId j :=
  ⟨hdecider.1, settled_advance.mpr (Or.inl hdecider.2)⟩

/-- A call that decides with its last statement found the request pending. -/
theorem Decider.of_advance {next : Program (friendSql ι) (Except Error Unit)}
    (hsound : Sound users calls pool)
    (heffect : Effect users i (calls i) (history pool.log i) pool.world event after)
    (hdecider : Decider calls (pool.advance i event next after) requesterId targetUserId j) :
    Decider calls pool requesterId targetUserId j ∨
      j = i ∧ HasStatus pool.world.committed requesterId targetUserId .kPending ∧
        Decided after.committed requesterId targetUserId := by
  obtain ⟨hdecides, hsettled⟩ := hdecider
  rcases settled_advance.mp hsettled with hbefore | ⟨rfl, hsettles⟩
  · exact Or.inl ⟨hdecides, hbefore⟩
  · rcases heffect.settled (hsound.position j) hsound.ordered hsettles with
      ⟨_, _, hpair, hpending, hdecided, -⟩ | ⟨_, _, _, hcreate, -⟩
    · cases hpair.symm.trans hdecides
      exact Or.inr ⟨rfl, hpending, hdecided⟩
    · rw [hcreate] at hdecides
      exact nomatch hdecides

/-- A request that becomes decided is decided by the call that makes the statement. -/
theorem decided_of_effect (hsound : Sound users calls pool)
    (heffect : Effect users i (calls i) (history pool.log i) pool.world event after)
    (hdecided : Decided after.committed requesterId targetUserId) :
    Decided pool.world.committed requesterId targetUserId ∨
      (calls i).decides = some (requesterId, targetUserId) ∧ settles (calls i) event = true := by
  cases hsettles : settles (calls i) event with
  | false =>
    rw [heffect.committed_eq (hsound.position i) hsettles] at hdecided
    exact Or.inl hdecided
  | true =>
    rcases heffect.settled (hsound.position i) hsound.ordered hsettles with
      ⟨requester, target, hpair, -, -, hsame⟩ | ⟨_, requester, target, -, -, -, hpending, hsame⟩
    · by_cases hkey : request requesterId targetUserId = .request requester target
      · cases hkey
        exact Or.inr ⟨hpair, rfl⟩
      · rw [Decided, hsame _ _ hkey] at hdecided
        exact Or.inl hdecided
    · by_cases hkey : request requesterId targetUserId = .request requester target
      · cases hkey
        exact (hpending.not_decided hdecided).elim
      · rw [Decided, hsame _ hkey] at hdecided
        exact Or.inl hdecided

theorem Judged.step (hjudged : Judged calls rows pool) (hsound : Sound users calls pool)
    (heffect : Effect users i (calls i) (history pool.log i) pool.world event after)
    (next : Program (friendSql ι) (Except Error Unit)) :
    Judged calls rows (pool.advance i event next after) := by
  refine ⟨fun requesterId targetUserId j hdecider => ?_,
    fun requesterId targetUserId j l hfirst hsecond => ?_,
    fun requesterId targetUserId hdecided => ?_⟩
  · rcases hdecider.of_advance hsound heffect with hbefore | ⟨-, -, hnow⟩
    · exact (hjudged.decided _ _ j hbefore).later (hsound.advances heffect _)
    · exact hnow
  · -- A call that decides now finds the request pending, so nobody decided before.
    rcases hfirst.of_advance hsound heffect with hj | ⟨hj, hpending, -⟩
    · rcases hsecond.of_advance hsound heffect with hl | ⟨-, hpending, -⟩
      · exact hjudged.unique _ _ j l hj hl
      · exact (hpending.not_decided (hjudged.decided _ _ j hj)).elim
    · rcases hsecond.of_advance hsound heffect with hl | ⟨hl, -⟩
      · exact (hpending.not_decided (hjudged.decided _ _ l hl)).elim
      · rw [hj, hl]
  · rcases decided_of_effect hsound heffect hdecided with hbefore | ⟨hdecides, hsettles⟩
    · rcases hjudged.cause _ _ hbefore with hrows | ⟨j, hdecider⟩
      · exact Or.inl hrows
      · exact Or.inr ⟨j, hdecider.advance next⟩
    · exact Or.inr ⟨i, hdecides, settled_advance.mpr (Or.inr ⟨rfl, hsettles⟩)⟩

end Judged

theorem Runs.judged (hrows : rows.Consistent users)
    (hruns : Runs users guard (calling calls rows) pool) : Judged calls rows pool := by
  apply Runs.invariant hrows .refl hruns (Judged calls rows)
  · exact ⟨fun _ _ _ hdecider => (unsettled rfl hdecider.2).elim,
      fun _ _ _ _ hdecider => (unsettled rfl hdecider.2).elim,
      fun _ _ hdecided => Or.inl hdecided⟩
  · intro pool i event next after hsound hjudged _ heffect
    exact hjudged.step hsound heffect next

/-! ## What the calls have read -/

/-- What the answers in a call's history say about the rows. -/
structure Informed (calls : ι → FriendCall) (rows : FriendRows) (pool : FriendPool ι) :
    Prop where
  since : ∀ k : FriendKey, k.Later (rows k) (pool.world.committed k)
  views : ∀ i (k : FriendKey), k.Later (rows k) (pool.world.view i k)
  found : ∀ i requesterId targetUserId,
    FoundPending i requesterId targetUserId (history pool.log i) →
    (∃ row, pool.world.committed (.request requesterId targetUserId) = some row) ∧
      ¬ rows.Decided requesterId targetUserId
  lost : ∀ i requesterId targetUserId status nowMs (affectedRows : Nat), affectedRows ≠ 1 →
    ⟨(i, .updateFriendRequest requesterId targetUserId status nowMs), .ok affectedRows⟩ ∈
      history pool.log i →
    Decided pool.world.committed requesterId targetUserId
  affected : ∀ i requesterId targetUserId (affectedRows : Nat),
    ⟨(i, .insertFriendships requesterId targetUserId), .ok affectedRows⟩ ∈
      history pool.log i → affectedRows ≤ 2

section Informed

variable {i : ι} {event : Event (friendSql ι)} {after : FriendStore ι}

/-- Early in a call nothing of its own is in the way. -/
theorem Position.own_eq_none {call : FriendCall} {store : FriendStore ι} {stage : Stage}
    (hposition : Position call i store stage) (hordered : store.Ordered Later)
    (hearly : stage = .outside ∨ stage = .opened) (k : FriendKey) : store.own i k = none := by
  rcases hearly with rfl | rfl
  · exact RowStore.own_eq_none (hordered.closed i hposition k)
  · exact hposition.2.2 k

/-- A request that is looked for is read from the view. -/
theorem Sound.looked (hsound : Sound users calls pool) {requesterId targetUserId : UInt64}
    {row : Option FriendRequestRow}
    (heffect : Effect users i (calls i) (history pool.log i) pool.world
      ⟨(i, .selectFriendRequest requesterId targetUserId), .ok row⟩ after) :
    row = pool.world.view i (.request requesterId targetUserId) ∧
      after.committed = pool.world.committed := by
  generalize hreply : (Except.ok row : Except Error (Option FriendRequestRow)) = reply at heffect
  cases heffect with
  | failed => exact nomatch hreply
  | looked early =>
    refine ⟨?_, look_committed⟩
    rw [Except.ok.inj hreply, RowStore.read,
      (hsound.position i).own_eq_none hsound.ordered early, Option.none_or]

theorem Informed.step (hinformed : Informed calls rows pool) (hsound : Sound users calls pool)
    (heffect : Effect users i (calls i) (history pool.log i) pool.world event after)
    (next : Program (friendSql ι) (Except Error Unit)) :
    Informed calls rows (pool.advance i event next after) := by
  have hadvances := hsound.advances heffect
  have hsince : ∀ k : FriendKey, k.Later (rows k) (after.committed k) :=
    fun k => .trans k _ _ _ (hinformed.since k) (hadvances k)
  refine ⟨hsince, fun j k => ?_, fun j requesterId targetUserId hfound => ?_,
    fun j requesterId targetUserId status nowMs affectedRows hne hmem => ?_,
    fun j requesterId targetUserId affectedRows hmem => ?_⟩
  · show k.Later (rows k) (after.view j k)
    rcases heffect.view (hsound.position i) j with hkept | hcommitted
    · rw [hkept]
      exact hinformed.views j k
    · rw [hcommitted]
      exact hsince k
  · obtain ⟨row, hpending, hmem⟩ := hfound
    rcases (mem_history_advance _ _ _ _ _).mp hmem with hold | ⟨rfl, rfl⟩
    · obtain ⟨⟨other, hother⟩, hrows⟩ := hinformed.found j _ _ ⟨row, hpending, hold⟩
      exact ⟨exists_later hother (hadvances _), hrows⟩
    · obtain ⟨hrow, hcommitted⟩ := hsound.looked heffect
      have hview : HasStatus (pool.world.view j) requesterId targetUserId
        .kPending := ⟨row, hrow.symm, hpending⟩
      refine ⟨?_, fun hdecided => hview.not_decided (hdecided.later (hinformed.views j _))⟩
      show ∃ later, after.committed _ = some later
      rw [hcommitted]
      exact exists_later hrow.symm (hsound.ordered.view Later.refl _)
  · rcases (mem_history_advance _ _ _ _ _).mp hmem with hold | ⟨rfl, rfl⟩
    · exact (hinformed.lost j _ _ _ _ _ hne hold).later (hadvances _)
    · cases heffect with
      | rejected | accepted => exact (hne rfl).elim
      | missed decides early found gone =>
        obtain ⟨⟨row, hrow⟩, -⟩ := hinformed.found j _ _ found
        refine ⟨row, hrow, gone row ?_⟩
        rw [current_of_own_eq_none
          ((hsound.position j).own_eq_none hsound.ordered early _), hrow]
  · rcases (mem_history_advance _ _ _ _ _).mp hmem with hold | ⟨rfl, rfl⟩
    · exact hinformed.affected j _ _ _ hold
    · cases heffect with
      | paired isAccept updated affected => exact affected

end Informed

theorem Runs.informed (hrows : rows.Consistent users)
    (hruns : Runs users guard (calling calls rows) pool) : Informed calls rows pool := by
  apply Runs.invariant hrows .refl hruns (Informed calls rows)
  · refine ⟨fun k => .refl k _, fun _ k => .refl k _, ?_, ?_, ?_⟩
    · rintro i requesterId targetUserId ⟨row, -, hmem⟩
      exact nomatch hmem
    · exact fun _ _ _ _ _ _ _ hmem => nomatch hmem
    · exact fun _ _ _ _ hmem => nomatch hmem
  · intro pool i event next after hsound hinformed _ heffect
    exact hinformed.step hsound heffect next

/-! ## Racing for a pending request -/

/-- A call has found the request pending, or it has not begun while the request is
pending. -/
def Racing (pool : FriendPool ι) (i : ι) (requesterId targetUserId : UInt64) : Prop :=
  FoundPending i requesterId targetUserId (history pool.log i) ∨
    HasStatus pool.world.committed requesterId targetUserId .kPending ∧
      history pool.log i = []

/-- How a race goes on: the call has found the request pending, the request has been
decided, or the call will still find it pending. -/
def Open (calls : ι → FriendCall) (pool : FriendPool ι) (i : ι)
    (requesterId targetUserId : UInt64) : Prop :=
  FoundPending i requesterId targetUserId (history pool.log i) ∨
  (∃ j, Decider calls pool requesterId targetUserId j) ∨
  HasStatus (pool.world.view i) requesterId targetUserId .kPending ∧
    ∀ row, ⟨(i, .selectFriendRequest requesterId targetUserId), .ok row⟩ ∉
      history pool.log i

section Racing

variable {i : ι} {requesterId targetUserId : UInt64}

theorem Open.step {mover : ι} {event : Event (friendSql ι)}
    (hopen : Open calls pool i requesterId targetUserId) (hsound : Sound users calls pool)
    (heffect : Effect users mover (calls mover) (history pool.log mover) pool.world event
      after) (next : Program (friendSql ι) (Except Error Unit))
    (hjudged : Judged calls rows (pool.advance mover event next after))
    (hrows : ¬ rows.Decided requesterId targetUserId) :
    Open calls (pool.advance mover event next after) i requesterId targetUserId := by
  rcases hopen with ⟨row, hpending, hmem⟩ | ⟨j, hdecider⟩ | ⟨hview, hunread⟩
  · exact Or.inl ⟨row, hpending, (mem_history_advance _ _ _ _ _).mpr (Or.inl hmem)⟩
  · exact Or.inr (Or.inl ⟨j, hdecider.advance next⟩)
  · by_cases hread : ∃ row, ⟨(i, .selectFriendRequest requesterId targetUserId), .ok row⟩ ∈
        history (pool.advance mover event next after).log i
    · -- The call reads the request now, from a view in which it is pending.
      obtain ⟨row, hmem⟩ := hread
      rcases (mem_history_advance _ _ _ _ _).mp hmem with hold | ⟨rfl, rfl⟩
      · exact (hunread row hold).elim
      · obtain ⟨hrow, -⟩ := hsound.looked heffect
        obtain ⟨found, hfound, hpending⟩ := hview
        obtain rfl := hrow.trans hfound
        exact Or.inl ⟨found, hpending, hmem⟩
    · -- What the call would read is as before, or it is what is committed now.
      have hunread' := fun row hmem => hread ⟨row, hmem⟩
      rcases heffect.view (hsound.position mover) i with hkept | hcommitted
      · exact Or.inr (Or.inr ⟨by rwa [advance, hkept], hunread'⟩)
      · have hlater : Later (.request requesterId targetUserId)
            (pool.world.view i _) (after.committed _) :=
          .trans _ _ _ _ (hsound.ordered.view Later.refl _)
            (hsound.advances heffect _)
        rcases hview.later hlater with hpending | hdecided
        · exact Or.inr (Or.inr ⟨by rwa [advance, hcommitted], hunread'⟩)
        · exact Or.inr (Or.inl ((hjudged.cause _ _ hdecided).resolve_left hrows))

theorem Racing.not_decided (hracing : Racing pool i requesterId targetUserId)
    (hinformed : Informed calls rows pool) : ¬ rows.Decided requesterId targetUserId := by
  rcases hracing with hfound | ⟨hpending, -⟩
  · exact (hinformed.found i _ _ hfound).2
  · exact fun hdecided => hpending.not_decided (hdecided.later (hinformed.since _))

theorem Racing.isOpen (hracing : Racing pool i requesterId targetUserId)
    (hsound : Sound users calls pool) : Open calls pool i requesterId targetUserId := by
  rcases hracing with hfound | ⟨hpending, hidle⟩
  · exact Or.inl hfound
  · have hmode := hsound.position i
    rw [hidle] at hmode
    refine Or.inr (Or.inr ⟨?_, fun row hmem => ?_⟩)
    · rwa [view_autocommit hmode]
    · rw [hidle] at hmem
      exact nomatch hmem

theorem Runs.isOpen (hrows : rows.Consistent users)
    (hfirst : Runs users guard (calling calls rows) first) (hruns : Runs users guard first last)
    (hracing : Racing first i requesterId targetUserId) :
    Open calls last i requesterId targetUserId := by
  have hdecided := hracing.not_decided (Runs.informed hrows hfirst)
  apply And.right (a := Judged calls rows last)
  apply Runs.invariant hrows hfirst hruns
    (fun pool => Judged calls rows pool ∧ Open calls pool i requesterId targetUserId)
  · exact ⟨Runs.judged hrows hfirst, hracing.isOpen (Runs.sound hfirst hrows)⟩
  · intro pool mover event next after hsound hpool _ heffect
    have hjudged := hpool.1.step hsound heffect next
    exact ⟨hjudged, hpool.2.step hsound heffect next hjudged hdecided⟩

theorem validateFriendPair_of_consistent (hrows : rows.Consistent users) (hzero : users 0 = false)
    {row : FriendRequestRow} (hrow : rows (.request requesterId targetUserId) = some row) :
    validateFriendPair requesterId targetUserId = .ok () := by
  obtain ⟨hne, hrequester, htarget⟩ := hrows.valid _ _ _ hrow
  have hpositive : ∀ userId, users userId = true → userId ≠ 0 := by
    rintro userId huser rfl
    exact nomatch huser.symm.trans hzero
  simp [validateFriendPair, validateUserId, hpositive _ hrequester, hpositive _ htarget, hne,
    bind, Except.bind]

/-- In a race that is over, an error means that another call has decided. -/
theorem decider_of_refused (hinformed : Informed calls rows pool)
    (hjudged : Judged calls rows pool) (hsound : Sound users calls pool)
    (hzero : users 0 = false) (hrows : ¬ rows.Decided requesterId targetUserId)
    (hopen : Open calls pool i requesterId targetUserId)
    (hquiet : ∀ event ∈ history pool.log i, failed event = false)
    (hrefused : Refused i requesterId targetUserId (history pool.log i)) :
    ∃ j, Decider calls pool requesterId targetUserId j := by
  have hfinished : Decided pool.world.committed requesterId targetUserId →
      ∃ j, Decider calls pool requesterId targetUserId j :=
    fun hdecided => (hjudged.cause _ _ hdecided).resolve_left hrows
  have hvalid : ∀ row : FriendRequestRow,
      pool.world.committed (.request requesterId targetUserId) = some row →
      validateFriendPair requesterId targetUserId = .ok () :=
    fun row => validateFriendPair_of_consistent hsound.consistent hzero
  rcases hopen with hfound | hdecider | ⟨⟨row, hrow, hpending⟩, hunread⟩
  · cases hrefused with
    | invalid invalid =>
      obtain ⟨⟨row, hrow⟩, -⟩ := hinformed.found i _ _ hfound
      exact (invalid (hvalid row hrow)).elim
    | failed mem failed => exact nomatch (hquiet _ mem).symm.trans failed
    | absent unseen | decided _ unseen => exact (unseen hfound).elim
    | lost affected mem => exact hfinished (hinformed.lost i _ _ _ _ _ affected mem)
    | excess affected mem =>
      exact (Nat.not_lt.mpr (hinformed.affected i _ _ _ mem) affected).elim
  · exact hdecider
  · cases hrefused with
    | invalid invalid =>
      obtain ⟨later, hlater⟩ := exists_later hrow
        (hsound.ordered.view Later.refl _)
      exact (invalid (hvalid later hlater)).elim
    | failed mem failed => exact nomatch (hquiet _ mem).symm.trans failed
    | absent _ mem | decided _ _ mem => exact (hunread _ mem).elim
    | lost affected mem => exact hfinished (hinformed.lost i _ _ _ _ _ affected mem)
    | excess affected mem =>
      exact (Nat.not_lt.mpr (hinformed.affected i _ _ _ mem) affected).elim

end Racing

/-! ## The calls that return -/

section Returned

variable {i : ι} {requesterId targetUserId : UInt64}

theorem Runs.settled_iff (hruns : Runs users guard (calling calls rows) last)
    (hthread : last.threads i = .ret result) :
    Settled (calls i) (history last.log i) ↔ result = .ok () := by
  have hended := hruns.ended hthread
  cases result with
  | ok => exact ⟨fun _ => rfl, fun _ => hended.2⟩
  | error => exact ⟨fun hsettled => (hended.2.1 hsettled).elim, fun h => nomatch h⟩

/-- A race that is over, without a failure, has one winner. -/
theorem Runs.existsUnique_ok (hrows : rows.Consistent users) (hzero : users 0 = false)
    (hfirst : Runs users guard (calling calls rows) first) (hruns : Runs users guard first last)
    (hdecides : (calls i).decides = some (requesterId, targetUserId))
    (hracing : Racing first i requesterId targetUserId)
    (hover : ∀ j, (calls j).decides = some (requesterId, targetUserId) →
      ∃ result, last.threads j = .ret result)
    (hquiet : ∀ j, (calls j).decides = some (requesterId, targetUserId) →
      ∀ event ∈ history last.log j, failed event = false) :
    ∃! j, (calls j).decides = some (requesterId, targetUserId) ∧
      last.threads j = .ret (.ok ()) := by
  have hlast := hfirst.trans hruns
  have hjudged := Runs.judged hrows hlast
  have hdecider : ∃ j, Decider calls last requesterId targetUserId j := by
    obtain ⟨result, hthread⟩ := hover i hdecides
    have hended := Runs.ended hlast hthread
    cases result with
    | ok => exact ⟨i, hdecides, hended.2⟩
    | error =>
      exact decider_of_refused (Runs.informed hrows hlast) hjudged (Runs.sound hlast hrows)
        hzero (hracing.not_decided (Runs.informed hrows hfirst))
        (Runs.isOpen hrows hfirst hruns hracing) (hquiet i hdecides)
        (hended.2.2 _ _ hdecides)
  obtain ⟨j, hpair, hsettled⟩ := hdecider
  obtain ⟨result, hthread⟩ := hover j hpair
  obtain rfl := (Runs.settled_iff hlast hthread).mp hsettled
  refine ⟨j, ⟨hpair, hthread⟩, ?_⟩
  rintro other ⟨hother, hok⟩
  exact hjudged.unique _ _ _ _ ⟨hother, (Runs.settled_iff hlast hok).mpr rfl⟩ ⟨hpair, hsettled⟩

/-- A statement of a call that will return an error commits nothing. -/
theorem Runs.committed_of_error {c : ι × FriendStatement} {reply : Except Error c.2.Result}
    {next : Except Error c.2.Result →
      Program (friendSql ι) (Except Error Unit)} {status : Error} (hrows : rows.Consistent users)
    (hruns : Runs users guard (calling calls rows) pool) (hthread : pool.threads i = .call c next)
    (hanswer : FriendStore.machine users c pool.world reply after)
    (hlater : Runs users guard (pool.advance i ⟨c, reply⟩ (next reply) after) last)
    (hlast : Runs users guard (calling calls rows) last)
    (hreturned : last.threads i = .ret (.error status)) :
    after.committed = pool.world.committed := by
  have hfollows := Reaches.follows hruns (fun i => perform_follows i (calls i)) i
  rw [hthread] at hfollows
  have hposition := (Runs.sound hruns hrows).position i
  apply (effect_of_machine (hfollows reply).1 hanswer).committed_eq hposition
  cases hsettles : settles (calls i) ⟨c, reply⟩ with
  | false => rfl
  | true =>
    have hmem : ⟨c, reply⟩ ∈ history last.log i :=
      Reaches.mem_history hlater
        ((mem_history_advance _ _ _ _ _).mpr (Or.inr ⟨rfl, rfl⟩))
    exact ((Runs.ended hlast hreturned).2.1 ⟨_, hmem, hsettles⟩).elim

/-- A call that has returned has left nothing uncommitted. -/
theorem Runs.own_of_returned (hrows : rows.Consistent users)
    (hlast : Runs users guard (calling calls rows) last)
    (hreturned : last.threads i = .ret result) (k : FriendKey) : last.world.own i k = none := by
  have hsound := Runs.sound hlast hrows
  have hended := Runs.ended hlast hreturned
  have hstage : stage (history last.log i) = .outside := by
    cases result with
    | ok | error => exact hended.1
  exact (hsound.position i).own_eq_none hsound.ordered (Or.inl hstage) k

end Returned

/-- Friend requests under concurrency, from tables that agree: a decided request stays as
it is; at most one acceptance or rejection of a request returns OK, and one does if a call
raced for it, all of them are over and none of their statements failed; friendships are
symmetric and stand for accepted requests; and a call that returns an error has neither
committed a row nor left one uncommitted. -/
theorem friendRequests_decided_once (hrows : rows.Consistent users) (hzero : users 0 = false)
    (hfirst : Runs users (fun _ _ _ => True) (calling calls rows) first)
    (hruns : Runs users (fun _ _ _ => True) first last) :
    (∀ requesterId targetUserId row,
      first.world.committed (.request requesterId targetUserId) = some row →
      row.status ≠ .kPending →
      last.world.committed (.request requesterId targetUserId) = some row) ∧
    (∀ requesterId targetUserId i j,
      (calls i).decides = some (requesterId, targetUserId) →
      (calls j).decides = some (requesterId, targetUserId) →
      last.threads i = .ret (.ok ()) → last.threads j = .ret (.ok ()) → i = j) ∧
    (∀ requesterId targetUserId i,
      (calls i).decides = some (requesterId, targetUserId) →
      Racing first i requesterId targetUserId →
      (∀ j, (calls j).decides = some (requesterId, targetUserId) →
        (∃ result, last.threads j = .ret result) ∧
          ∀ event ∈ history last.log j, failed event = false) →
      ∃! j, (calls j).decides = some (requesterId, targetUserId) ∧
        last.threads j = .ret (.ok ())) ∧
    (∀ u v, (last.world.committed (.friendship u v)).isSome =
      (last.world.committed (.friendship v u)).isSome) ∧
    (∀ u v, (last.world.committed (.friendship u v)).isSome = true ↔
      HasStatus last.world.committed u v .kAccepted ∨
        HasStatus last.world.committed v u .kAccepted) ∧
    (∀ i status, last.threads i = .ret (.error status) →
      (∀ k, last.world.own i k = none) ∧
      ∀ (pool : FriendPool ι) c next reply after,
        Runs users (fun _ _ _ => True) (calling calls rows) pool →
        pool.threads i = .call c next → FriendStore.machine users c pool.world reply after →
        Runs users (fun _ _ _ => True) (pool.advance i ⟨c, reply⟩ (next reply) after) last →
        after.committed = pool.world.committed) := by
  have hlast := hfirst.trans hruns
  have hsound := Runs.sound hlast hrows
  refine ⟨?_, ?_, ?_, ?_, hsound.consistent.accepted, ?_⟩
  · intro requesterId targetUserId row hrow hstatus
    obtain ⟨later, hlater, hsame⟩ :=
      Runs.later hrows hfirst hruns (.request requesterId targetUserId) row hrow
    rw [hlater, hsame hstatus]
  · intro requesterId targetUserId i j hi hj hok hok'
    exact (Runs.judged hrows hlast).unique _ _ i j
      ⟨hi, (Runs.settled_iff hlast hok).mpr rfl⟩ ⟨hj, (Runs.settled_iff hlast hok').mpr rfl⟩
  · intro requesterId targetUserId i hi hracing hover
    exact Runs.existsUnique_ok hrows hzero hfirst hruns hi hracing (fun j hj => (hover j hj).1)
      fun j hj => (hover j hj).2
  · intro u v
    exact Bool.eq_iff_iff.mpr ⟨hsound.consistent.symmetric u v, hsound.consistent.symmetric v u⟩
  · intro i status hreturned
    refine ⟨Runs.own_of_returned hrows hlast hreturned, ?_⟩
    intro pool c next reply after hpool hthread hanswer hlater
    exact Runs.committed_of_error hrows hpool hthread hanswer hlater hlast hreturned

/-- One pending request, from user 1 to user 2. -/
def onePending : FriendRows :=
  update (fun _ => none) (.request 1 2) (some ⟨.kPending, 10, 10⟩)

/-- An acceptance and a rejection of it. -/
def acceptOrReject : Bool → FriendCall
  | true => .accept 20 1 2
  | false => .reject 21 1 2

def usersOneTwo (userId : UInt64) : Bool := userId = 1 || userId = 2

theorem onePending_consistent : onePending.Consistent usersOneTwo where
  valid requesterId targetUserId row hrow := by
    by_cases hkey : request requesterId targetUserId = .request 1 2
    · cases hkey
      decide
    · rw [onePending, update_of_ne hkey] at hrow
      exact nomatch hrow
  symmetric first second hsome := nomatch hsome
  accepted first second := by
    have hnone : ∀ requesterId targetUserId,
        ¬ onePending.HasStatus requesterId targetUserId .kAccepted := by
      rintro requesterId targetUserId ⟨row, hrow, hstatus⟩
      by_cases hkey : request requesterId targetUserId = .request 1 2
      · cases hkey
        cases Option.some.inj hrow
        exact nomatch hstatus
      · rw [onePending, update_of_ne hkey] at hrow
        exact nomatch hrow
    exact ⟨fun hsome => (nomatch hsome),
      fun haccepted => (haccepted.elim (hnone first second) (hnone second first)).elim⟩

/-- Both find the request pending, and the acceptance is first to update it. -/
def acceptFirst : FriendPool Bool :=
  (calling acceptOrReject onePending).schedule (fun c store => store.answer usersOneTwo c)
    [true, true, true, false, false, true, true, true, false]

theorem acceptFirst_runs : Runs usersOneTwo (fun _ _ _ => True)
    (calling acceptOrReject onePending) acceptFirst :=
  reaches_schedule (fun c store => FriendStore.machine_answer usersOneTwo c store)
    (meets_of_forall (fun _ _ _ => trivial) _ _)

theorem friendRequests_decided_once_acceptFirst :
    ∃! i, (acceptOrReject i).decides = some (1, 2) ∧ acceptFirst.threads i = .ret (.ok ()) := by
  have hquiet : ∀ i, (history acceptFirst.log i).all (fun event => !failed event) = true := by
    decide
  apply (friendRequests_decided_once onePending_consistent rfl .refl acceptFirst_runs).2.2.1
    1 2 true rfl
  · exact Or.inr ⟨⟨_, rfl, rfl⟩, rfl⟩
  · intro j _
    refine ⟨?_, by simpa using hquiet j⟩
    cases j with
    | true | false => exact ⟨_, rfl⟩

end FriendDao

end LiteIM
