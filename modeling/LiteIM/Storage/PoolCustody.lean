/-
# Who has a connection of a pool

Every step of a pool leaves the connections where they are, moves some from one place to
another, or drops one for good; it drops one only when the pool is closed, and closes it then.
So no connection is ever in two places, and while the pool is open none is lost. After the
pool was closed, what is in no place is closed.
-/

import LiteIM.Storage.ConnectionPool

namespace LiteIM

open Foundation Function List

namespace ConnectionPool

variable {Thread Guard : Type} {size : Nat}

/-! ## Where the connections are -/

inductive PoolPlace (Thread Guard : Type) where
  | idle
  | guard (guard : Guard)
  | call (thread : Thread)
  deriving DecidableEq

/-- The connections in each place. -/
def contents (pool : ConnectionPool Thread Guard size) :
    PoolPlace Thread Guard → List (Fin size)
  | .idle => pool.idle
  | .guard guard => (pool.guards guard).toList
  | .call thread => (pool.points thread).held

variable {connection : Fin size} {point : PoolPoint Guard size} {thread : Thread} {guard : Guard}

section Held

variable {pool : ConnectionPool Thread Guard size}

theorem held_of_point (hpoint : pool.points thread = point) (hmem : connection ∈ point.held) :
    Held pool.contents connection :=
  ⟨.call thread, by rw [contents, hpoint]; exact hmem⟩

theorem mem_contents_guard (howns : pool.guards guard = some connection) :
    connection ∈ pool.contents (.guard guard) := by
  rw [contents, howns]
  exact mem_singleton_self connection

theorem connected_setConnected_of_not_held {other : Fin size} {connected : Bool}
    (hheld : Held pool.contents connection) (hother : ¬ Held pool.contents other) :
    (pool.setConnected connection connected).connected other = pool.connected other := by
  apply update_of_ne
  rintro rfl
  exact hother hheld

end Held

section Contents

variable (pool : ConnectionPool Thread Guard size)

theorem contents_setConnected (connection : Fin size) (connected : Bool) :
    (pool.setConnected connection connected).contents = pool.contents := by
  funext place
  cases place with
  | idle | guard | call => rfl

variable [DecidableEq Thread] [DecidableEq Guard]

theorem contents_setPoint (thread : Thread) (point : PoolPoint Guard size) :
    (pool.setPoint thread point).contents =
      update pool.contents (.call thread) point.held := by
  funext place
  cases place with
  | idle | guard => rfl
  | call other =>
    by_cases hsame : other = thread
    · subst hsame
      simp [contents, setPoint]
    · simp [contents, setPoint, hsame]

theorem contents_setGuard (guard : Guard) (connection : Option (Fin size)) :
    (pool.setGuard guard connection).contents =
      update pool.contents (.guard guard) connection.toList := by
  funext place
  cases place with
  | idle | call => rfl
  | guard other =>
    by_cases hsame : other = guard
    · subst hsame
      simp [contents, setGuard]
    · simp [contents, setGuard, hsame]

theorem contents_idle (idle : List (Fin size)) (closed : Bool) :
    ({ pool with idle, closed } : ConnectionPool Thread Guard size).contents =
      update pool.contents .idle idle := by
  funext place
  cases place with
  | idle | guard | call => simp [contents]

end Contents

/-! ## What a step does to them -/

/-- A thread that has closed a pool and not returned. -/
def Closes : PoolPoint Guard size → Prop
  | .closing _ => True
  | .releasing _ next => Closes next
  | _ => False

/-- Everything a step can do to the connections. -/
inductive Shifts (pool next : ConnectionPool Thread Guard size) : Prop where
  | keeps (same : next.contents = pool.contents)
  | moves (source target : PoolPlace Thread Guard) (moved : List (Fin size))
      (moves : Moves pool.contents next.contents source target moved)
  | drops (source : PoolPlace Thread Guard) (dropped : List (Fin size))
      (drops : Drops pool.contents next.contents source dropped) (closed : pool.closed = true)
      (shut : ∀ connection ∈ dropped, next.connected connection = false)

structure Effect (pool next : ConnectionPool Thread Guard size) : Prop where
  shifts : Shifts pool next
  started : next.started = pool.started
  closed : pool.closed = true → next.closed = true
  untouched : ∀ connection, ¬ Held pool.contents connection →
    next.connected connection = pool.connected connection
  emptied : next.closed = true → next.idle = [] ∨ pool.closed = true ∧ next.idle = pool.idle

variable {texts : PoolTexts} {before : PoolPoint Guard size} {label : PoolLabel Thread Guard size}

section Effects

variable [DecidableEq Thread] [DecidableEq Guard] {pool : ConnectionPool Thread Guard size}
  {thread : Thread}

section

variable (hpoint : pool.points thread = before)
include hpoint

theorem contents_setPoint_of_held
    (hheld : point.held = before.held) : (pool.setPoint thread point).contents = pool.contents := by
  rw [contents_setPoint, hheld, ← hpoint]
  exact update_eq_self _ _

/-- A step of a thread that keeps its connections. -/
theorem effect_setPoint (hheld : point.held = before.held) :
    Effect pool (pool.setPoint thread point) where
  shifts := .keeps (contents_setPoint_of_held hpoint hheld)
  started := rfl
  closed := id
  untouched _ _ := rfl
  emptied hclosed := Or.inr ⟨hclosed, rfl⟩

/-- What a step does to one of the connections of its thread. -/
theorem effect_setConnected {connected : Bool}
    (hmem : connection ∈ before.held) (hheld : point.held = before.held) :
    Effect pool ((pool.setConnected connection connected).setPoint thread point) where
  shifts := by
    apply Shifts.keeps
    rw [contents_setPoint_of_held (show (pool.setConnected connection connected).points thread = _
      from hpoint) hheld, contents_setConnected]
  started := rfl
  closed := id
  untouched _ := connected_setConnected_of_not_held (held_of_point hpoint hmem)
  emptied hclosed := Or.inr ⟨hclosed, rfl⟩

/-- A thread of a closed pool that closes one of its connections and forgets it. -/
theorem effect_close
    (hheld : before.held = connection :: point.held) (hclosed : pool.closed = true) :
    Effect pool ((pool.setConnected connection false).setPoint thread point) where
  shifts := by
    refine Shifts.drops (.call thread) [connection] ?_ hclosed ?_
    · rw [contents_setPoint, contents_setConnected]
      apply Drops.update
      rw [contents, hpoint, hheld]
      exact Perm.refl _
    · intro other hmem
      rw [mem_singleton.mp hmem]
      exact update_self _ _ _
  started := rfl
  closed := id
  untouched _ := connected_setConnected_of_not_held
    (held_of_point hpoint (hheld ▸ mem_cons_self))
  emptied hclosed := Or.inr ⟨hclosed, rfl⟩

/-- A thread that takes the connection out of a guard. -/
theorem effect_takeOut
    (howns : pool.guards guard = some connection) (hheld : point.held = connection :: before.held) :
    Effect pool ((pool.setGuard guard none).setPoint thread point) where
  shifts := by
    refine Shifts.moves (.guard guard) (.call thread) [connection] ?_
    rw [contents_setPoint, contents_setGuard]
    apply Moves.update_update
    · exact nofun
    · rw [contents, howns]
      exact Perm.refl _
    · rw [contents, hpoint, hheld]
      exact Perm.refl _
  started := rfl
  closed := id
  untouched _ _ := rfl
  emptied hclosed := Or.inr ⟨hclosed, rfl⟩

/-- The connection of a guard goes to an empty guard. -/
theorem effect_moveGuard {target source : Guard}
    (hheld : point.held = before.held) (hempty : pool.guards target = none) :
    Effect pool ((pool.moveGuard target source).setPoint thread point) := by
  have hcontents : ((pool.moveGuard target source).setPoint thread point).contents =
      update (update pool.contents (.guard source) []) (.guard target)
        (pool.guards source).toList := by
    rw [contents_setPoint_of_held (show (pool.moveGuard target source).points thread = _
      from hpoint) hheld, moveGuard, contents_setGuard, contents_setGuard]
    rfl
  refine ⟨?_, rfl, id, fun _ _ => rfl, fun hclosed => Or.inr ⟨hclosed, rfl⟩⟩
  by_cases hsame : source = target
  · subst hsame
    apply Shifts.keeps
    rw [hcontents, update_idem]
    exact update_eq_self _ _
  · refine Shifts.moves (.guard source) (.guard target) (pool.guards source).toList ?_
    rw [hcontents]
    apply Moves.update_update
    · intro hplace
      exact hsame (PoolPlace.guard.inj hplace)
    · rw [contents]
      exact Perm.of_eq (append_nil _).symm
    · rw [contents, hempty]
      exact Perm.of_eq (append_nil _).symm

end

/-- `releaseConnection` in a pool that was started. -/
theorem effect_releases (hstarted : pool.started = true) {next : PoolPoint Guard size}
    (hpoint : pool.points thread = .releasing connection next) :
    Effect pool ((pool.releaseConnection connection).setPoint thread next) := by
  cases hclosed : pool.closed with
  | true =>
    rw [releaseConnection, if_neg (by simp [hclosed])]
    exact effect_close hpoint rfl hclosed
  | false =>
    rw [releaseConnection, if_pos (by simp [hstarted, hclosed])]
    refine ⟨?_, rfl, id, fun _ _ => rfl, fun hother => ?_⟩
    · refine Shifts.moves (.call thread) .idle [connection] ?_
      rw [contents_setPoint, contents_idle pool (pool.idle ++ [connection]) pool.closed]
      apply Moves.update_update'
      · exact nofun
      · rw [contents, hpoint]
        exact Perm.refl _
      · exact perm_append_comm
    · cases hclosed.symm.trans hother

/-- A connection goes from the queue to the call that waited for it. -/
theorem effect_taken {rest : List (Fin size)} (hpoint : pool.points thread = .waiting guard)
    (hopen : pool.closed = false) (hfront : pool.idle = connection :: rest) :
    Effect pool ({ pool with idle := rest }.setPoint thread (.ensuring guard connection)) := by
  refine ⟨Shifts.moves .idle (.call thread) [connection] ?_, rfl, id, fun _ _ => rfl, ?_⟩
  · rw [contents_setPoint, contents_idle pool rest pool.closed]
    apply Moves.update_update
    · exact nofun
    · rw [contents, hfront]
      exact Perm.refl _
    · rw [contents, hpoint]
      exact Perm.refl _
  · intro hclosed
    cases hopen.symm.trans hclosed

theorem effect_lends (hpoint : pool.points thread = .lending guard connection)
    (hempty : pool.guards guard = none) :
    Effect pool ((pool.setGuard guard (some connection)).setPoint thread .outside) where
  shifts := by
    refine Shifts.moves (.call thread) (.guard guard) [connection] ?_
    rw [contents_setPoint, contents_setGuard]
    apply Moves.update_update'
    · exact nofun
    · rw [contents, hpoint]
      exact Perm.refl _
    · rw [contents, hempty]
      exact Perm.refl _
  started := rfl
  closed := id
  untouched _ _ := rfl
  emptied hclosed := Or.inr ⟨hclosed, rfl⟩

/-- `close` takes the whole queue. -/
theorem effect_closes (hpoint : pool.points thread = .outside) :
    Effect pool
      ({ pool with closed := true, idle := [] }.setPoint thread (.closing pool.idle)) where
  shifts := by
    refine Shifts.moves .idle (.call thread) pool.idle ?_
    rw [contents_setPoint, contents_idle pool [] true]
    apply Moves.update_update
    · exact nofun
    · exact Perm.of_eq (append_nil _).symm
    · rw [contents, hpoint]
      exact Perm.of_eq (append_nil _).symm
  started := rfl
  closed _ := rfl
  untouched _ _ := rfl
  emptied _ := Or.inl rfl

theorem Step.effect {next : ConnectionPool Thread Guard size} (hstarted : pool.started = true)
    (hcloses : ∀ thread, Closes (pool.points thread) → pool.closed = true)
    (hstep : Step texts pool label next) : Effect pool next := by
  cases hstep with
  | acquire _ _ hpoint | refused hpoint | waits hpoint | timedOut hpoint | wokenClosed hpoint
  | stillOpen hpoint | fails hpoint | assign hpoint | closeReturns hpoint =>
    exact effect_setPoint hpoint rfl
  | taken hpoint hopen hfront => exact effect_taken hpoint hopen hfront
  | ensured hpoint | notEnsured hpoint =>
    exact effect_setConnected hpoint (mem_singleton_self _) rfl
  | closedMeanwhile hpoint hclosed => exact effect_close hpoint rfl hclosed
  | lendResets hpoint howns | reset hpoint howns | assignResets hpoint howns =>
    exact effect_takeOut hpoint howns rfl
  | lends hpoint hempty => exact effect_lends hpoint hempty
  | releases hpoint => exact effect_releases hstarted hpoint
  | moveConstruct hpoint hempty | assigned hpoint hempty => exact effect_moveGuard hpoint rfl hempty
  | uses connected howns =>
    refine ⟨.keeps (contents_setConnected _ _ _), rfl, id, fun _ => ?_,
      fun hclosed => .inr ⟨hclosed, rfl⟩⟩
    exact connected_setConnected_of_not_held ⟨_, mem_contents_guard howns⟩
  | closeAgain _ _ =>
    exact ⟨.keeps rfl, rfl, id, fun _ _ => rfl, fun hclosed => .inr ⟨hclosed, rfl⟩⟩
  | close hpoint _ => exact effect_closes hpoint
  | @closesIdle thread connection rest hpoint =>
    have hclosed := hcloses thread (by rw [hpoint]; trivial)
    exact effect_close hpoint rfl hclosed

end Effects

/-! ## Every state of a pool -/

section Runs

variable {pool next : ConnectionPool Thread Guard size}

/-- What holds in every state of a pool after its start. -/
structure Sound (pool : ConnectionPool Thread Guard size) : Prop where
  started : pool.started = true
  apart : Apart pool.contents
  placed : ∀ connection, Held pool.contents connection ∨
    pool.closed = true ∧ pool.connected connection = false
  emptied : pool.closed = true → pool.idle = []
  closes : ∀ thread, Closes (pool.points thread) → pool.closed = true

theorem Shifts.apart (hshifts : Shifts pool next) (hapart : Apart pool.contents) :
    Apart next.contents := by
  cases hshifts with
  | keeps hsame => rwa [hsame]
  | moves source target moved hmoves => exact hmoves.apart hapart
  | drops source dropped hdrops => exact hdrops.apart hapart

/-- What had a place has one, or was closed. -/
theorem Shifts.held (hshifts : Shifts pool next) (hheld : Held pool.contents connection) :
    Held next.contents connection ∨
      pool.closed = true ∧ next.connected connection = false := by
  cases hshifts with
  | keeps hsame =>
    rw [hsame]
    exact Or.inl hheld
  | moves source target moved hmoves => exact Or.inl (hmoves.held hheld)
  | drops source dropped hdrops hclosed hshut =>
    rcases hdrops.held hheld with hdropped | hkept
    · exact Or.inr ⟨hclosed, hshut connection hdropped⟩
    · exact Or.inl hkept

/-- A pool that was started has all its connections in the queue. -/
theorem sound_start {connects : Fin size → Except Error Unit}
    (hstart : (start texts connects ({} : ConnectionPool Thread Guard size)).1 = .ok ()) :
    (start texts connects ({} : ConnectionPool Thread Guard size)).2.Sound := by
  rw [start] at hstart ⊢
  simp only [Bool.false_eq_true, if_false] at hstart ⊢
  by_cases hsize : size = 0
  · rw [if_pos hsize] at hstart
    cases hstart
  · rw [if_neg hsize] at hstart ⊢
    cases hconnects : (finRange size).mapM connects with
    | error =>
      rw [hconnects] at hstart
      cases hstart
    | ok =>
      refine ⟨rfl, ⟨?_, ?_⟩, ?_, nofun, nofun⟩
      · intro place
        cases place with
        | idle => exact nodup_finRange size
        | guard | call => exact nodup_nil
      · intro connection place other hmem hother
        cases place with
        | idle =>
          cases other with
          | idle => rfl
          | guard | call => cases hother
        | guard | call => cases hmem
      · exact fun connection => Or.inl ⟨.idle, mem_finRange connection⟩

/-- A thread that has no connection it could lend. -/
def Barred : PoolPoint Guard size → Prop
  | .ensuring _ _ | .ensured _ _ | .lending _ _ => False
  | .releasing _ next => Barred next
  | _ => True

/-- How a thread goes on. -/
structure Turn (closed nextClosed : Bool) (before after : PoolPoint Guard size) : Prop where
  closes : Closes after → Closes before ∨ nextClosed = true
  barred : closed = true → Barred before → Barred after

theorem Turn.refl {closed nextClosed : Bool} (point : PoolPoint Guard size) :
    Turn closed nextClosed point point := ⟨Or.inl, fun _ => id⟩

theorem points_releaseConnection (pool : ConnectionPool Thread Guard size)
    (connection : Fin size) : (pool.releaseConnection connection).points = pool.points := by
  rw [releaseConnection]
  split
  · rfl
  · rfl

variable [DecidableEq Thread]

theorem turn_setPoint (hpoint : pool.points thread = before)
    (hnext : next.points = update pool.points thread point)
    (hturn : Turn pool.closed next.closed before point) (other : Thread) :
    Turn pool.closed next.closed (pool.points other) (next.points other) := by
  rw [hnext]
  by_cases hsame : other = thread
  · subst hsame
    rw [hpoint, update_self]
    exact hturn
  · rw [update_of_ne hsame]
    exact Turn.refl _

variable [DecidableEq Guard]

theorem Step.turn (hstep : Step texts pool label next) (thread : Thread) :
    Turn pool.closed next.closed (pool.points thread) (next.points thread) := by
  revert thread
  cases hstep with
  | acquire _ _ hpoint | refused hpoint | waits hpoint | timedOut hpoint | wokenClosed hpoint
  | notEnsured hpoint | closedMeanwhile hpoint | lends hpoint | fails hpoint | reset hpoint
  | moveConstruct hpoint | assign hpoint | assignResets hpoint | assigned hpoint
  | closeReturns hpoint => exact turn_setPoint hpoint rfl ⟨nofun, fun _ _ => trivial⟩
  | taken hpoint hopen _ =>
    refine turn_setPoint hpoint rfl ⟨nofun, fun hclosed _ => ?_⟩
    cases hopen.symm.trans hclosed
  | ensured hpoint | stillOpen hpoint | lendResets hpoint =>
    exact turn_setPoint hpoint rfl ⟨nofun, fun _ => id⟩
  | @releases thread connection point hpoint =>
    have hturn : ∀ nextClosed, Turn pool.closed nextClosed (.releasing connection point) point :=
      fun _ => ⟨Or.inl, fun _ => id⟩
    apply turn_setPoint hpoint _ (hturn _)
    rw [setPoint, points_releaseConnection]
  | uses | closeAgain => exact fun thread => Turn.refl _
  | close hpoint _ => exact turn_setPoint hpoint rfl ⟨fun _ => Or.inr rfl, fun _ _ => trivial⟩
  | closesIdle hpoint => exact turn_setPoint hpoint rfl ⟨Or.inl, fun _ _ => trivial⟩

theorem Sound.step (hsound : pool.Sound) (hstep : Step texts pool label next) : next.Sound := by
  have heffect := hstep.effect hsound.started hsound.closes
  refine ⟨heffect.started.trans hsound.started, heffect.shifts.apart hsound.apart, ?_, ?_, ?_⟩
  · intro connection
    by_cases hheld : Held pool.contents connection
    · exact (heffect.shifts.held hheld).imp_right fun hshut => ⟨heffect.closed hshut.1, hshut.2⟩
    · obtain ⟨hclosed, hshut⟩ := (hsound.placed connection).resolve_left hheld
      right
      exact ⟨heffect.closed hclosed, (heffect.untouched connection hheld).trans hshut⟩
  · intro hclosed
    rcases heffect.emptied hclosed with hempty | ⟨hbefore, hsame⟩
    · exact hempty
    · rw [hsame, hsound.emptied hbefore]
  · intro thread hcloses
    rcases (hstep.turn thread).closes hcloses with hbefore | hclosed
    · exact heffect.closed (hsound.closes thread hbefore)
    · exact hclosed

variable {labels : List (PoolLabel Thread Guard size)}

theorem Sound.of_path (hsound : pool.Sound) (hpath : Path (Step texts) pool labels next) :
    next.Sound :=
  hpath.state_invariant Sound hsound fun _ _ _ hbefore hstep => hbefore.step hstep

/-! ## After the pool was closed -/

theorem closed_of_path (hsound : pool.Sound) (hclosed : pool.closed = true)
    (hpath : Path (Step texts) pool labels next) : next.closed = true := by
  have hboth : next.Sound ∧ next.closed = true := by
    apply hpath.state_invariant (fun pool => pool.Sound ∧ pool.closed = true) ⟨hsound, hclosed⟩
    rintro before label after ⟨hbefore, hthere⟩ hstep
    exact ⟨hbefore.step hstep, (hstep.effect hbefore.started hbefore.closes).closed hthere⟩
  exact hboth.2

theorem Step.closed_of_closeReturned (hsound : pool.Sound)
    (hstep : Step texts pool (.closeReturned thread) next) : pool.closed = true := by
  cases hstep with
  | closeAgain _ hclosed => exact hclosed
  | closeReturns hpoint => exact hsound.closes thread (by rw [hpoint]; trivial)

/-- A thread that has no connection to lend gets none from a closed pool. -/
theorem not_acquired_of_barred (hsound : pool.Sound) (hclosed : pool.closed = true)
    (hbarred : Barred (pool.points thread)) (hpath : Path (Step texts) pool labels next)
    (connection : Fin size) : .acquired thread (.ok connection) ∉ labels := by
  have hinvariant : (next.Sound ∧ next.closed = true ∧ Barred (next.points thread)) ∧
      .acquired thread (.ok connection) ∉ labels := by
    apply hpath.invariant (fun labels pool =>
      (pool.Sound ∧ pool.closed = true ∧ Barred (pool.points thread)) ∧
        .acquired thread (.ok connection) ∉ labels)
    · exact ⟨⟨hsound, hclosed, hbarred⟩, not_mem_nil⟩
    · rintro past before label after _ ⟨⟨hbefore, hthere, hblocked⟩, hpast⟩ hstep
      have heffect := hstep.effect hbefore.started hbefore.closes
      refine ⟨⟨hbefore.step hstep, heffect.closed hthere, (hstep.turn thread).barred hthere
        hblocked⟩, ?_⟩
      rw [mem_append, mem_singleton]
      rintro (hmem | rfl)
      · exact hpast hmem
      · cases hstep with
        | lends hpoint => rwa [hpoint] at hblocked
  exact hinvariant.2

/-- A pool neither loses nor shares its connections. In every state after its start: while
it is open every connection is in exactly one place and there once; no two guards have one
connection; an `acquire` that begins after a `close` returned lends none; and in a pool that
is closed, with no call in progress, the queue is empty and every connection that no guard has
is closed. -/
theorem connectionPool_custody (kind : PoolKind) (connects : Fin size → Except Error Unit)
    (labels : List (PoolLabel Thread Guard size))
    (hstart : (start kind.texts connects ({} : ConnectionPool Thread Guard size)).1 = .ok ())
    (hpath : Path (Step kind.texts) (start kind.texts connects {}).2 labels pool) :
    (pool.closed = false → (∀ connection, ∃! place, connection ∈ pool.contents place) ∧
      ∀ place, (pool.contents place).Nodup) ∧
    (∀ guard other connection, pool.guards guard = some connection →
      pool.guards other = some connection → guard = other) ∧
    (∀ before closer between thread guard timeoutMs after, labels = before ++
      .closeReturned closer :: (between ++ .acquire thread guard timeoutMs :: after) →
      ∀ connection, .acquired thread (.ok connection) ∉ after) ∧
    (pool.closed = true → (∀ thread, pool.points thread = .outside) →
      pool.idle = [] ∧ ∀ connection, (∀ guard, pool.guards guard ≠ some connection) →
        pool.connected connection = false) := by
  have hinitial := sound_start hstart
  have hsound := hinitial.of_path hpath
  refine ⟨?_, ?_, ?_, ?_⟩
  · intro hopen
    refine ⟨fun connection => hsound.apart.existsUnique ?_, hsound.apart.nodup⟩
    refine (hsound.placed connection).resolve_right fun hshut => ?_
    cases hopen.symm.trans hshut.1
  · intro guard other connection hguard hother
    have hplaces := hsound.apart.unique (mem_contents_guard hguard) (mem_contents_guard hother)
    exact PoolPlace.guard.inj hplaces
  · rintro before closer between thread guard timeoutMs after rfl connection
    obtain ⟨mid, hbefore, hrest⟩ := hpath.split
    obtain ⟨returned, hreturned, hrest⟩ := hrest.head
    obtain ⟨called, hbetween, hrest⟩ := hrest.split
    obtain ⟨entered, hacquire, hafter⟩ := hrest.head
    have hmid := hinitial.of_path hbefore
    have hclosed := hreturned.closed_of_closeReturned hmid
    have hthere := closed_of_path hmid hclosed ((Path.single hreturned).trans hbetween)
    have hcalled := (hmid.step hreturned).of_path hbetween
    have hentered := hcalled.step hacquire
    have heffect := hacquire.effect hcalled.started hcalled.closes
    refine not_acquired_of_barred hentered (heffect.closed hthere) ?_ hafter connection
    cases hacquire with
    | acquire =>
      rw [show (called.setPoint thread (.acquiring guard timeoutMs)).points thread =
        .acquiring guard timeoutMs from update_self _ _ _]
      trivial
  · intro hclosed houtside
    refine ⟨hsound.emptied hclosed, fun connection hguards => ?_⟩
    refine ((hsound.placed connection).resolve_left ?_).2
    rintro ⟨place, hmem⟩
    cases place with
    | idle =>
      rw [contents, hsound.emptied hclosed] at hmem
      cases hmem
    | guard guard => exact hguards guard (Option.mem_toList.mp hmem)
    | call =>
      rw [contents, houtside] at hmem
      cases hmem

end Runs

/-- The only connection of a pool is lent. -/
theorem connectionPool_custody_lent :
    ∃ (labels : List (PoolLabel Unit Unit 1)) (pool : ConnectionPool Unit Unit 1),
      Path (Step PoolKind.mySql.texts) (start PoolKind.mySql.texts (fun _ => .ok ()) {}).2
        labels pool ∧
      .acquired () (.ok 0) ∈ labels ∧ pool.guards () = some 0 ∧
      ∀ connection, ∃! place, connection ∈ pool.contents place := by
  have hpath : ∃ pool : ConnectionPool Unit Unit 1,
      Path (Step PoolKind.mySql.texts) (start PoolKind.mySql.texts (fun _ => .ok ()) {}).2
        [.acquire () () 0, .other, .other, .other, .other, .acquired () (.ok 0)] pool ∧
      pool.guards () = some 0 ∧ pool.closed = false := by
    apply Exists.intro
    apply And.intro
    · apply Path.cons (.acquire () 0 rfl)
      apply Path.cons (@Step.waits _ _ _ _ _ _ _ () () 0 rfl rfl)
      apply Path.cons (@Step.taken _ _ _ _ _ _ _ () () 0 [] rfl rfl rfl)
      apply Path.cons (@Step.ensured _ _ _ _ _ _ _ () () 0 true rfl (.answers rfl))
      apply Path.cons (@Step.stillOpen _ _ _ _ _ _ _ () () 0 rfl rfl)
      exact Path.single (@Step.lends _ _ _ _ _ _ _ () () 0 rfl rfl)
    · exact ⟨rfl, rfl⟩
  obtain ⟨pool, hpath, howns, hopen⟩ := hpath
  have hcustody := connectionPool_custody .mySql _ _ rfl hpath
  exact ⟨_, pool, hpath, by simp, howns, (hcustody.1 hopen).1⟩

end ConnectionPool

end LiteIM
