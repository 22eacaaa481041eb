/-
# Stopping the server

When `stop` returns, the table is to be empty and every session that was ever created is to
be closed. Two things can go wrong. A task that creates a session may have seen `started_`
before `stop` took the sessions out of the table, and put its session in afterwards: nobody
closes it. And the close of a session may be queued while the thread of its loop is between
taking the queued tasks and testing `quit_`: the loop leaves without calling it.

When neither happens, and no `poll` fails, `stop` leaves nothing behind. Until the table is
emptied every living session is in it or about to be; afterwards it is to be closed, or its
close is queued on its loop, and no loop leaves before it has called what was queued.
-/

import LiteIM.Net.TcpServer

namespace LiteIM

open Foundation EventLoop TcpServer Worker Function List

namespace TcpServer

section Updates

/-- A field that an update leaves as it was at its place is the same everywhere. -/
theorem field_update {ι β γ : Type} [DecidableEq ι] {f : ι → β} {i : ι} {b : β} (field : β → γ)
    (hfield : field b = field (f i)) (j : ι) : field (update f i b j) = field (f j) := by
  by_cases hsame : j = i
  · rw [hsame, update_self, hfield]
  · rw [update_of_ne hsame]

variable {n : Nat} {σ κ : Type} (server : TcpServer n σ κ) (loop : LoopId n) (thread : Fin n)
  (last : EventLoop (Caller n σ) Task κ) (stack : List Frame) (phase : Phase) (other : LoopId n)

@[simp]
theorem setLoop_stack :
    ((server.setLoop loop last).workers other).stack = (server.workers other).stack :=
  field_update stack (by rfl) other

@[simp]
theorem setLoop_phase :
    ((server.setLoop loop last).workers other).phase = (server.workers other).phase :=
  field_update phase (by rfl) other

@[simp]
theorem setLoop_loop : ((server.setLoop loop last).workers other).loop =
    if other = loop then last else (server.workers other).loop := by
  simp only [setLoop, update_apply, apply_ite Worker.loop]

@[simp]
theorem setStack_loop :
    ((server.setStack loop stack).workers other).loop = (server.workers other).loop :=
  field_update Worker.loop (by rfl) other

@[simp]
theorem setStack_phase :
    ((server.setStack loop stack).workers other).phase = (server.workers other).phase :=
  field_update phase (by rfl) other

@[simp]
theorem setStack_stack : ((server.setStack loop stack).workers other).stack =
    if other = loop then stack else (server.workers other).stack := by
  simp only [setStack, update_apply, apply_ite Worker.stack]

@[simp]
theorem setPhase_loop :
    ((server.setPhase thread phase).workers other).loop = (server.workers other).loop :=
  field_update loop (by rfl) other

@[simp]
theorem setPhase_stack :
    ((server.setPhase thread phase).workers other).stack = (server.workers other).stack :=
  field_update stack (by rfl) other

@[simp]
theorem setPhase_phase : ((server.setPhase thread phase).workers other).phase =
    if other = some thread then phase else (server.workers other).phase := by
  simp only [setPhase, update_apply, apply_ite Worker.phase]

end Updates

variable {n : Nat} {σ κ : Type}

/-- A loop holds the task that closes a session of an I/O loop. -/
def Doomed (server : TcpServer n σ κ) (id : Nat) : Prop :=
  server.home id ≠ none ∧ .close id ∈ (server.workers (server.home id)).loop.queued

/-- What holds in every state of a run in which `stop` comes at a good moment. -/
structure Sound (server : TcpServer n σ κ) : Prop where
  fresh : ∀ id, server.nextId ≤ id → server.life id = none
  layered : ∀ loop, ∀ frame ∈ (server.workers loop).stack.tail, frame.waits = true
  ended : ∀ loop, (server.workers loop).phase = .ended → (server.workers loop).stack = []
  queued : ∀ loop id, .close id ∈ (server.workers loop).loop.queued →
    server.home id = loop ∧ id < server.nextId
  framed : ∀ loop id, .made id ∈ (server.workers loop).stack ∨
    .closing id ∈ (server.workers loop).stack → id < server.nextId
  listed : ∀ id, id ∈ server.table ∨ id ∈ server.stop.remaining → id < server.nextId
  closing : ∀ id, server.life id = some .closing →
    .closing id ∈ (server.workers (server.home id)).stack
  refused : server.started = true → server.stop = .notCalled
  kept : server.stop.collected = false → ∀ id, server.life id = some .alive →
    id ∈ server.table ∨ .made id ∈ (server.workers (server.home id)).stack
  emptied : server.stop.collected = true →
    server.table = [] ∧ ∀ loop id, .made id ∉ (server.workers loop).stack
  doomed : server.stop.collected = true → ∀ id, server.life id = some .alive →
    id ∈ server.stop.remaining ∨ server.Doomed id
  quits : ∀ thread, (server.workers (some thread)).loop.quit = true →
    server.stop.unjoined.isSome = true ∧ ∀ id, server.life id = some .alive →
      server.home id = some thread → (server.workers (some thread)).loop.Due (.close id)
  gone : ∀ thread, (server.workers (some thread)).phase = .ended →
    ∀ id, server.life id = some .alive → server.home id ≠ some thread
  joined : ∀ rest, server.stop.unjoined = some rest →
    ∀ thread, thread ∉ rest → (server.workers (some thread)).phase = .ended

section Updated

variable {server : TcpServer n σ κ} {loop : LoopId n} {point : StopPoint n} {id : Nat}

/-- No session is created once the table was emptied. -/
theorem Sound.uncollected (hsound : server.Sound) (hstarted : server.started = true) :
    server.stop.collected = false := by
  rw [hsound.refused hstarted]
  rfl

theorem StopPoint.collected_of_unjoined (hjoins : point.unjoined.isSome = true) :
    point.collected = true := by
  cases point with
  | notCalled | collecting => exact nomatch hjoins
  | _ => rfl

theorem StopPoint.remaining_of_unjoined (hjoins : point.unjoined.isSome = true) :
    point.remaining = [] := by
  cases point with
  | closeAll => exact nomatch hjoins
  | _ => rfl

section

variable (hsound : server.Sound)
include hsound

/-- A thread enters or leaves a function of the server. -/
theorem Sound.setStack {stack : List Frame} (hlayered : ∀ frame ∈ stack.tail, frame.waits = true)
    (hended : (server.workers loop).phase = .ended → stack = [])
    (hframed : ∀ id, .made id ∈ stack ∨ .closing id ∈ stack → id < server.nextId)
    (hclosing : ∀ id, server.life id = some .closing →
      .closing id ∈ (server.workers loop).stack → .closing id ∈ stack)
    (hmade : ∀ id, .made id ∈ (server.workers loop).stack →
      .made id ∈ stack ∨ id ∈ server.table)
    (hnew : server.stop.collected = true → ∀ id, .made id ∉ stack) :
    (server.setStack loop stack).Sound where
  __ := hsound
  layered other := by
    rw [setStack_stack]
    split_ifs with hsame
    · exact hlayered
    · exact hsound.layered other
  ended other := by
    rw [setStack_stack, setStack_phase]
    split_ifs with hsame
    · rw [hsame]
      exact hended
    · exact hsound.ended other
  queued := by
    simp only [setStack_loop]
    exact hsound.queued
  framed other id := by
    rw [setStack_stack]
    split_ifs with hsame
    · exact hframed id
    · exact hsound.framed other id
  closing id hlife := by
    have hbefore := hsound.closing id hlife
    rw [setStack_stack]
    split_ifs with hsame
    · apply hclosing id hlife
      rwa [← hsame]
    · exact hbefore
  kept hcollected id halive := by
    rcases hsound.kept hcollected id halive with htable | hbefore
    · exact Or.inl htable
    · rw [setStack_stack]
      split_ifs with hsame
      · apply (hmade id _).symm
        rwa [← hsame]
      · exact Or.inr hbefore
  emptied hcollected := by
    obtain ⟨htable, hnone⟩ := hsound.emptied hcollected
    refine ⟨htable, fun other id => ?_⟩
    rw [setStack_stack]
    split_ifs with hsame
    · exact hnew hcollected id
    · exact hnone other id
  doomed hcollected id halive := by
    refine (hsound.doomed hcollected id halive).imp_right fun hdoomed => ⟨hdoomed.1, ?_⟩
    rw [setStack_loop]
    exact hdoomed.2
  quits := by
    simp only [setStack_loop]
    exact hsound.quits
  gone := by
    simp only [setStack_phase]
    exact hsound.gone
  joined := by
    simp only [setStack_phase]
    exact hsound.joined

/-- A session is no longer alive, and it may leave the table. -/
theorem Sound.setLife {life : Life} {table : List Nat}
    (hlife : life ≠ .alive) (hknown : id < server.nextId)
    (hclosing : life = .closing → .closing id ∈ (server.workers (server.home id)).stack)
    (htable : ∀ other, other ≠ id → other ∈ server.table → other ∈ table)
    (hfewer : table ⊆ server.table) : ({ server with
      table, life := update server.life id (some life) } : TcpServer n σ κ).Sound := by
  have hlives : ∀ other, update server.life id (some life) other = some .alive →
      other ≠ id ∧ server.life other = some .alive := by
    intro other halive
    by_cases hsame : other = id
    · rw [hsame, update_self] at halive
      exact (hlife (Option.some.inj halive)).elim
    · rw [update_of_ne hsame] at halive
      exact ⟨hsame, halive⟩
  exact { hsound with
    fresh := by
      intro other hfresh
      have hne : other ≠ id := by
        rintro rfl
        exact Nat.not_le_of_lt hknown hfresh
      show update server.life id (some life) other = none
      rw [update_of_ne hne]
      exact hsound.fresh other hfresh
    listed := fun other hlisted => hsound.listed other (hlisted.imp_left fun hmem => hfewer hmem)
    closing := by
      intro other hother
      change update server.life id (some life) other = some .closing at hother
      by_cases hsame : other = id
      · rw [hsame, update_self] at hother
        rw [hsame]
        exact hclosing (Option.some.inj hother)
      · rw [update_of_ne hsame] at hother
        exact hsound.closing other hother
    kept := by
      intro hcollected other halive
      obtain ⟨hne, hbefore⟩ := hlives other halive
      exact (hsound.kept hcollected other hbefore).imp_left (htable other hne)
    emptied := by
      intro hcollected
      obtain ⟨hnone, hmade⟩ := hsound.emptied hcollected
      rw [hnone] at hfewer
      exact ⟨eq_nil_of_subset_nil hfewer, hmade⟩
    doomed := fun hcollected other halive => hsound.doomed hcollected other (hlives other halive).2
    quits := fun thread hquit => ⟨(hsound.quits thread hquit).1,
      fun other halive => (hsound.quits thread hquit).2 other (hlives other halive).2⟩
    gone := fun thread hended other halive =>
      hsound.gone thread hended other (hlives other halive).2 }

/-- A thread that is in no function of the server makes a session. -/
theorem Sound.addSession (hcollected : ¬ server.stop.collected = true)
    (hphase : (server.workers loop).phase ≠ .ended) (hstack : (server.workers loop).stack = []) :
    ({ server.setStack loop [.made server.nextId] with
      nextId := server.nextId + 1
      life := update server.life server.nextId (some .alive)
      home := update server.home server.nextId loop } : TcpServer n σ κ).Sound := by
  have hnew : ∀ id life, update server.life server.nextId (some .alive) id = some life →
      id = server.nextId ∧ life = .alive ∨ id ≠ server.nextId ∧ server.life id = some life := by
    intro id life hlife
    by_cases hsame : id = server.nextId
    · rw [hsame, update_self] at hlife
      exact Or.inl ⟨hsame, (Option.some.inj hlife).symm⟩
    · rw [update_of_ne hsame] at hlife
      exact Or.inr ⟨hsame, hlife⟩
  have hhome : ∀ id, id ≠ server.nextId →
      update server.home server.nextId loop id = server.home id :=
    fun id hne => update_of_ne hne ..
  have hkeeps : ∀ {other frame}, frame ∈ (server.workers other).stack →
      frame ∈ ((server.setStack loop [.made server.nextId]).workers other).stack := by
    intro other frame hframe
    rw [setStack_stack]
    split_ifs with hsame
    · rw [hsame, hstack] at hframe
      exact nomatch hframe
    · exact hframe
  exact { hsound with
    fresh := by
      intro id hfresh
      show update server.life server.nextId (some .alive) id = none
      rw [update_of_ne (Nat.ne_of_gt hfresh)]
      exact hsound.fresh id (Nat.le_of_succ_le hfresh)
    layered := by
      intro other
      rw [setStack_stack]
      split_ifs with hsame
      · nofun
      · exact hsound.layered other
    ended := by
      intro other hended
      rw [setStack_phase] at hended
      have hne : other ≠ loop := by
        rintro rfl
        exact hphase hended
      rw [setStack_stack, if_neg hne]
      exact hsound.ended other hended
    queued := by
      intro other id hqueued
      rw [setStack_loop] at hqueued
      obtain ⟨hloop, hknown⟩ := hsound.queued other id hqueued
      exact ⟨(hhome id (Nat.ne_of_lt hknown)).trans hloop, Nat.lt_succ_of_lt hknown⟩
    framed := by
      intro other id hframe
      rw [setStack_stack] at hframe
      split_ifs at hframe with hsame
      · rcases hframe with hmade | hclosing
        · rw [Frame.made.inj (mem_singleton.mp hmade)]
          exact Nat.lt_succ_self _
        · exact nomatch mem_singleton.mp hclosing
      · exact Nat.lt_succ_of_lt (hsound.framed other id hframe)
    listed := fun id hlisted => Nat.lt_succ_of_lt (hsound.listed id hlisted)
    closing := by
      intro id hclosing
      rcases hnew id _ hclosing with ⟨-, halive⟩ | ⟨hne, hlife⟩
      · exact nomatch halive
      · apply hkeeps
        show _ ∈ (server.workers (update server.home _ _ id)).stack
        rw [hhome id hne]
        exact hsound.closing id hlife
    kept := by
      intro huncollected id halive
      show _ ∨ _ ∈ ((server.setStack loop _).workers (update server.home _ _ id)).stack
      rcases hnew id _ halive with ⟨rfl, -⟩ | ⟨hne, hlife⟩
      · rw [update_self, setStack_stack, if_pos rfl]
        exact Or.inr mem_cons_self
      · rw [hhome id hne]
        exact (hsound.kept huncollected id hlife).imp_right hkeeps
    emptied := fun hafter => (hcollected hafter).elim
    doomed := fun hafter => (hcollected hafter).elim
    quits := by
      intro thread hquit
      rw [setStack_loop] at hquit
      exact (hcollected (StopPoint.collected_of_unjoined (hsound.quits thread hquit).1)).elim
    gone := by
      intro thread hended id halive
      rw [setStack_phase] at hended
      show update server.home server.nextId loop id ≠ some thread
      rcases hnew id _ halive with ⟨rfl, -⟩ | ⟨hne, hlife⟩
      · rw [update_self]
        rintro rfl
        exact hphase hended
      · rw [hhome id hne]
        exact hsound.gone thread hended id hlife
    joined := by
      intro rest hrest thread hthread
      rw [setStack_phase]
      exact hsound.joined rest hrest thread hthread }

/-- The thread of an I/O loop goes on or ends. -/
theorem Sound.setPhase {thread : Fin n} {phase : Phase}
    (hbefore : (server.workers (some thread)).phase ≠ .ended)
    (hended : phase = .ended → (server.workers (some thread)).stack = [] ∧
      ∀ id, server.life id = some .alive → server.home id ≠ some thread) :
    (server.setPhase thread phase).Sound where
  __ := hsound
  layered := by
    simp only [setPhase_stack]
    exact hsound.layered
  ended other := by
    rw [setPhase_phase, setPhase_stack]
    split_ifs with hsame
    · rw [hsame]
      exact fun hphase => (hended hphase).1
    · exact hsound.ended other
  queued := by
    simp only [setPhase_loop]
    exact hsound.queued
  framed := by
    simp only [setPhase_stack]
    exact hsound.framed
  closing := by
    simp only [setPhase_stack]
    exact hsound.closing
  kept := by
    simp only [setPhase_stack]
    exact hsound.kept
  emptied := by
    simp only [setPhase_stack]
    exact hsound.emptied
  doomed hcollected id halive := by
    refine (hsound.doomed hcollected id halive).imp_right fun hdoomed => ⟨hdoomed.1, ?_⟩
    rw [setPhase_loop]
    exact hdoomed.2
  quits := by
    simp only [setPhase_loop]
    exact hsound.quits
  gone other := by
    rw [setPhase_phase]
    split_ifs with hsame
    · rw [hsame]
      exact fun hphase => (hended hphase).2
    · exact hsound.gone other
  joined rest hrest other hother := by
    have hjoined := hsound.joined rest hrest other hother
    rw [setPhase_phase]
    split_ifs with hsame
    · rw [hsame] at hjoined
      exact (hbefore hjoined).elim
    · exact hjoined

/-- A session that was made goes into the table. -/
theorem Sound.addTable (hcollected : ¬ server.stop.collected = true) (hknown : id < server.nextId) :
    ({ server with table := id :: server.table } : TcpServer n σ κ).Sound :=
  { hsound with
    listed := by
      rintro other (hmem | hremains)
      · rcases mem_cons.mp hmem with rfl | hbefore
        · exact hknown
        · exact hsound.listed other (Or.inl hbefore)
      · exact hsound.listed other (Or.inr hremains)
    kept := fun hafter other halive =>
      (hsound.kept hafter other halive).imp_left (mem_cons_of_mem _)
    emptied := fun hafter => (hcollected hafter).elim }

/-- `started_` is false from now on. -/
theorem Sound.unstart :
    ({ server with started := false } : TcpServer n σ κ).Sound :=
  { hsound with refused := nofun }

/-- `stop` goes on. -/
theorem Sound.setStop {before : StopPoint n}
    (hbefore : server.stop = before) (hstarted : server.started = false)
    (hcollected : point.collected = before.collected) (hfewer : point.remaining ⊆ before.remaining)
    (hdoomed : point.collected = true → ∀ id, server.life id = some .alive →
      id ∈ before.remaining → id ∈ point.remaining ∨ server.Doomed id)
    (hjoins : before.unjoined.isSome = true → point.unjoined.isSome = true)
    (hjoined : ∀ rest, point.unjoined = some rest →
      ∀ thread, thread ∉ rest → (server.workers (some thread)).phase = .ended) :
    ({ server with stop := point } : TcpServer n σ κ).Sound := by
  subst hbefore
  exact { hsound with
    listed := fun id hlisted => hsound.listed id (hlisted.imp_right fun hmem => hfewer hmem)
    refused := fun hafter => nomatch hstarted.symm.trans hafter
    kept := fun hafter => hsound.kept (hcollected.symm.trans hafter)
    emptied := fun hafter => hsound.emptied (hcollected.symm.trans hafter)
    doomed := by
      intro hafter id halive
      rcases hsound.doomed (hcollected.symm.trans hafter) id halive with hremains | hdoom
      · exact hdoomed hafter id halive hremains
      · exact Or.inr hdoom
    quits := fun thread hquit =>
      ⟨hjoins (hsound.quits thread hquit).1, (hsound.quits thread hquit).2⟩
    joined := hjoined }

/-- `stop` goes on to the threads, or from one thread to the next. -/
theorem Sound.setJoins {before : StopPoint n} {rest : List (Fin n)}
    (hbefore : server.stop = before) (hcollected : before.collected = true)
    (hremains : before.remaining = []) (hrest : point.unjoined = some rest)
    (hjoined : ∀ thread, thread ∉ rest → (server.workers (some thread)).phase = .ended) :
    ({ server with stop := point } : TcpServer n σ κ).Sound := by
  have hjoins : point.unjoined.isSome = true := by
    rw [hrest]
    rfl
  apply hsound.setStop hbefore
  · apply Bool.eq_false_iff.mpr
    intro hstarted
    rw [← hbefore, hsound.uncollected hstarted] at hcollected
    cases hcollected
  · rw [hcollected, StopPoint.collected_of_unjoined hjoins]
  · rw [StopPoint.remaining_of_unjoined hjoins]
    exact nil_subset _
  · rw [hremains]
    exact fun _ _ _ hmem => nomatch hmem
  · exact fun _ => hjoins
  · intro left hleft thread hthread
    cases hrest.symm.trans hleft
    exact hjoined thread hthread

end

/-! ## The steps -/

theorem Sound.closeInLoop (hsound : server.Sound) (hhome : server.home id = loop)
    (hphase : (server.workers loop).phase ≠ .ended)
    (hwaits : ∀ frame ∈ (server.workers loop).stack, frame.waits = true) :
    (server.closeInLoop loop id).Sound := by
  rw [TcpServer.closeInLoop]
  split_ifs with halive
  · have hknown : id < server.nextId := by
      by_contra hlate
      exact nomatch (hsound.fresh id (Nat.not_lt.mp hlate)).symm.trans halive
    have hpushed : (server.setStack loop (.closing id :: (server.workers loop).stack)).Sound := by
      refine hsound.setStack hwaits ?_ ?_ ?_ ?_ ?_
      · exact fun hended => (hphase hended).elim
      · rintro other (hmade | hclosing)
        · rcases mem_cons.mp hmade with hsame | hbefore
          · exact nomatch hsame
          · exact hsound.framed loop other (Or.inl hbefore)
        · rcases mem_cons.mp hclosing with hsame | hbefore
          · rw [Frame.closing.inj hsame]
            exact hknown
          · exact hsound.framed loop other (Or.inr hbefore)
      · exact fun _ _ hmem => mem_cons_of_mem _ hmem
      · exact fun _ hmem => Or.inl (mem_cons_of_mem _ hmem)
      · intro hcollected other hmem
        rcases mem_cons.mp hmem with hnew | hbefore
        · exact nomatch hnew
        · exact (hsound.emptied hcollected).2 loop other hbefore
    refine hpushed.setLife nofun hknown ?_ (fun _ _ hmem => hmem) (Subset.refl _)
    intro _
    show _ ∈ ((server.setStack loop _).workers (server.home id)).stack
    rw [hhome, setStack_stack, if_pos rfl]
    exact mem_cons_self
  · exact hsound

theorem Sound.createSession (hsound : server.Sound)
    (hphase : (server.workers loop).phase ≠ .ended) (hstack : (server.workers loop).stack = []) :
    (server.createSession loop).Sound := by
  rw [TcpServer.createSession]
  split_ifs with hstarted
  · have hcollected : ¬ server.stop.collected = true := by
      rw [hsound.uncollected hstarted]
      nofun
    rw [hstack]
    exact hsound.addSession hcollected hphase hstack
  · exact hsound

theorem closeInLoop_life (loop : LoopId n) (id : Nat) :
    (server.closeInLoop loop id).life id ≠ some .alive := by
  rw [closeInLoop]
  split_ifs with halive
  · show update server.life id (some .closing) id ≠ _
    rw [update_self]
    nofun
  · exact halive

/-- A thread that has taken a task off its queue closes a session as it did before. -/
theorem closeInLoop_setLoop (loop : LoopId n) (last : EventLoop (Caller n σ) Task κ) (id : Nat) :
    (server.setLoop loop last).closeInLoop loop id =
      (server.closeInLoop loop id).setLoop loop last := by
  by_cases halive : server.life id = some .alive
  · simp [closeInLoop, setLoop, setStack, halive]
  · simp [closeInLoop, setLoop, halive]

/-- The functions a thread is left in have all called another. -/
theorem Sound.waiting {stack : List Frame} (hsound : server.Sound)
    (hwaits : ∀ frame ∈ stack, frame.waits = true)
    (hended : (server.workers loop).phase = .ended → stack = [])
    (hclosing : ∀ id, .closing id ∈ (server.workers loop).stack → server.life id ≠ some .closing)
    (hmade : ∀ id, .made id ∈ (server.workers loop).stack → id ∈ server.table) :
    (server.setStack loop stack).Sound := by
  apply hsound.setStack
  · exact fun frame hframe => hwaits frame (mem_of_mem_tail hframe)
  · exact hended
  · rintro id (hmem | hmem)
    · exact nomatch hwaits _ hmem
    · exact nomatch hwaits _ hmem
  · exact fun id hlife hmem => (hclosing id hmem hlife).elim
  · exact fun id hmem => Or.inr (hmade id hmem)
  · exact fun _ id hmem => nomatch hwaits _ hmem

/-- A thread leaves the innermost function, or goes on to call another from it. -/
theorem Sound.leaves {top : Frame} {rest : List Frame} (hsound : server.Sound)
    (calls : List Frame) (hstack : (server.workers loop).stack = top :: rest)
    (hcalls : ∀ frame ∈ calls, frame.waits = true)
    (hclosing : ∀ id, top = .closing id → server.life id ≠ some .closing)
    (hmade : ∀ id, top = .made id → id ∈ server.table) :
    (server.setStack loop (calls ++ rest)).Sound := by
  have hrest : ∀ frame ∈ rest, frame.waits = true := by
    have hlayered := hsound.layered loop
    rwa [hstack] at hlayered
  apply hsound.waiting
  · intro frame hframe
    exact (mem_append.mp hframe).elim (hcalls frame) (hrest frame)
  · intro hended
    exact nomatch hstack.symm.trans (hsound.ended loop hended)
  · intro id hmem
    rw [hstack] at hmem
    rcases mem_cons.mp hmem with htop | hbelow
    · exact hclosing id htop.symm
    · exact nomatch hrest _ hbelow
  · intro id hmem
    rw [hstack] at hmem
    rcases mem_cons.mp hmem with htop | hbelow
    · exact hmade id htop.symm
    · exact nomatch hrest _ hbelow

theorem Sound.started_eq_false (hsound : server.Sound) (hcalled : server.stop ≠ .notCalled) :
    server.started = false :=
  Bool.eq_false_iff.mpr fun hstarted => hcalled (hsound.refused hstarted)

theorem Sound.started_of_stopping (hsound : server.Sound) (hstopping : server.Stopping point)
    (hcalled : point ≠ .notCalled) : server.started = false := by
  apply hsound.started_eq_false
  rwa [hstopping.1]

@[simp]
theorem closeInLoop_loop (loop : LoopId n) (id : Nat) (other : LoopId n) :
    ((server.closeInLoop loop id).workers other).loop = (server.workers other).loop := by
  rw [closeInLoop]
  split_ifs with halive
  · exact setStack_loop ..
  · rfl

@[simp]
theorem closeInLoop_stop (loop : LoopId n) (id : Nat) :
    (server.closeInLoop loop id).stop = server.stop := by
  rw [closeInLoop]
  split_ifs with halive
  · rfl
  · rfl

theorem Sound.waits_of_free (hsound : server.Sound) (hfree : (server.workers loop).Free) :
    ∀ frame ∈ (server.workers loop).stack, frame.waits = true := by
  rcases hfree.2.2 with hnone | ⟨id, rest, hstack⟩
  · rw [hnone]
    nofun
  · intro frame hframe
    have hlayered := hsound.layered loop frame
    rw [hstack] at hframe hlayered
    rcases mem_cons.mp hframe with rfl | hrest
    · rfl
    · exact hlayered hrest

theorem Sound.waits_of_stopping (hsound : server.Sound) (hstopping : server.Stopping point) :
    ∀ frame ∈ (server.workers none).stack, frame.waits = true := by
  obtain ⟨-, ⟨rest, hstack⟩, -⟩ := hstopping
  intro frame hframe
  have hlayered := hsound.layered none frame
  rw [hstack] at hframe hlayered
  rcases mem_cons.mp hframe with rfl | hrest
  · rfl
  · exact hlayered hrest

end Updated

variable [DecidableEq σ] {server after : TcpServer n σ κ} {loop : LoopId n}

/-- `stop` comes at a good moment: no thread is about to put a session into the table when it
is emptied, no loop is told to quit while its thread has taken the tasks and more are queued,
and no `poll` fails. -/
structure Timely (server : TcpServer n σ κ) (label : Label n σ κ) : Prop where
  collect : label = .collect → ∀ loop id, .made id ∉ (server.workers loop).stack
  quit : ∀ thread, label = .quitThread thread →
    (server.workers (some thread)).loop.point.testsFirst = true →
      (server.workers (some thread)).loop.pendingTasks = []
  poll : ∀ thread, label ≠ .threadFails thread

def TimelyStep (server : TcpServer n σ κ) (label : Label n σ κ) (after : TcpServer n σ κ) : Prop :=
  Step server label after ∧ server.Timely label

/-- A step of a loop that calls no task of the server. -/
theorem Sound.setLoop {label : EventLoop.Label (Caller n σ) Task κ}
    {last : EventLoop (Caller n σ) Task κ} (hsound : server.Sound)
    (htaken : EventLoop.Step (server.workers loop).loop label last)
    (hpushed : ∀ id, label.pushed? = some (.close id) →
      server.home id = loop ∧ id < server.nextId)
    (hran : ∀ id, label.ran? = some (.close id) → server.life id ≠ some .alive)
    (hquit : label.isQuit = true → ∀ thread, loop = some thread →
      server.stop.unjoined.isSome = true ∧ ∀ id, server.life id = some .alive →
      server.home id = some thread → (server.workers (some thread)).loop.Due (.close id)) :
    (server.setLoop loop last).Sound where
  __ := hsound
  layered other := by
    rw [setLoop_stack]
    exact hsound.layered other
  ended other := by
    rw [setLoop_phase, setLoop_stack]
    exact hsound.ended other
  queued other id hqueued := by
    rw [setLoop_loop] at hqueued
    split_ifs at hqueued with hsame
    · subst hsame
      rcases htaken.mem_queued hqueued with hbefore | hlabel
      · exact hsound.queued other id hbefore
      · exact hpushed id hlabel
    · exact hsound.queued other id hqueued
  framed := by
    simp only [setLoop_stack]
    exact hsound.framed
  closing := by
    simp only [setLoop_stack]
    exact hsound.closing
  kept := by
    simp only [setLoop_stack]
    exact hsound.kept
  emptied := by
    simp only [setLoop_stack]
    exact hsound.emptied
  doomed hcollected id halive := by
    refine (hsound.doomed hcollected id halive).imp_right fun hdoomed => ⟨hdoomed.1, ?_⟩
    show .close id ∈ ((server.setLoop loop last).workers (server.home id)).loop.queued
    rw [setLoop_loop]
    split_ifs with hsame
    · have hbefore := hdoomed.2
      rw [hsame] at hbefore
      exact (htaken.mem_queued_or_ran hbefore).resolve_left fun hlabel => hran id hlabel halive
    · exact hdoomed.2
  quits thread hthread := by
    rw [setLoop_loop] at hthread ⊢
    split_ifs at hthread ⊢ with hsame
    · subst hsame
      obtain ⟨hjoins, hdue⟩ := (htaken.quit_cases hthread).elim (hsound.quits thread)
        fun hlabel => hquit hlabel thread rfl
      refine ⟨hjoins, fun id halive hhome => ?_⟩
      exact ((hdue id halive hhome).step htaken).resolve_right fun hlabel => hran id hlabel halive
    · exact hsound.quits thread hthread
  gone := by
    simp only [setLoop_phase]
    exact hsound.gone
  joined := by
    simp only [setLoop_phase]
    exact hsound.joined

def Task.isClose : Task → Bool
  | .close _ => true
  | _ => false

/-- A step of a loop that neither queues nor runs the close of a session. -/
theorem Sound.setLoop_plain {label : EventLoop.Label (Caller n σ) Task κ}
    {last : EventLoop (Caller n σ) Task κ} (hsound : server.Sound)
    (htaken : EventLoop.Step (server.workers loop).loop label last)
    (hpushed : label.pushed?.any Task.isClose = false)
    (hran : label.ran?.any Task.isClose = false) (hquit : label.isQuit = false) :
    (server.setLoop loop last).Sound := by
  apply hsound.setLoop htaken
  · intro id hid
    rw [hid] at hpushed
    cases hpushed
  · intro id hid
    rw [hid] at hran
    cases hran
  · intro hquits
    rw [hquit] at hquits
    cases hquits

theorem Sound.step {label : Label n σ κ} (hsound : server.Sound) (htaken : Step server label after)
    (htimely : server.Timely label) : after.Sound := by
  cases htaken with
  | @loop loop inner last taken apart =>
    refine hsound.setLoop taken apart.closes ?_ ?_
    · intro id hran
      cases apart.runs _ hran
    · intro hquit thread hthread
      cases (apart.quits hquit).symm.trans hthread
  | @threadStarts thread last phase taken =>
    apply Sound.setPhase (hsound.setLoop_plain taken rfl rfl rfl)
    · rw [setLoop_phase, phase]
      rintro ⟨⟩
    · rintro ⟨⟩
  | @threadEnds thread last stack phase taken =>
    apply Sound.setPhase (hsound.setLoop_plain taken rfl rfl rfl)
    · rw [setLoop_phase, phase]
      rintro ⟨⟩
    · intro _
      rw [setLoop_stack]
      refine ⟨stack, fun id halive hhome => ?_⟩
      cases taken with
      | loopReturns point leaves =>
        -- The loop was told to quit, so what it is to close it would call first.
        have hdue := (hsound.quits thread leaves).2 id halive hhome
        exact not_due_of_loopReturns (.loopReturns point leaves) hdue
  | threadFails => exact (htimely.poll _ rfl).elim
  | accept free idle started next taken => exact hsound.setLoop_plain taken rfl rfl rfl
  | @runCreate loop last stack phase taken =>
    apply Sound.createSession (hsound.setLoop_plain taken rfl rfl rfl)
    · rw [setLoop_phase, phase]
      rintro ⟨⟩
    · rw [setLoop_stack]
      exact stack
  | @runClose loop id last stack phase taken =>
    rw [closeInLoop_setLoop]
    have hqueued : .close id ∈ (server.workers loop).loop.queued := by
      cases taken with
      | run point =>
        rw [EventLoop.queued, point]
        exact mem_append_left _ mem_cons_self
    have hclosed : (server.closeInLoop loop id).Sound := by
      apply hsound.closeInLoop (hsound.queued loop id hqueued).1
      · rw [phase]
        rintro ⟨⟩
      · rw [stack]
        exact forall_mem_nil _
    apply hclosed.setLoop
    · rw [closeInLoop_loop]
      exact taken
    · rintro _ ⟨⟩
    · intro other hran
      cases hran
      exact closeInLoop_life loop id
    · rintro ⟨⟩
  | @insert loop id rest stack =>
    have hframe : .made id ∈ (server.workers loop).stack := by
      rw [stack]
      exact mem_cons_self
    have hcollected : ¬ server.stop.collected = true :=
      fun hafter => (hsound.emptied hafter).2 loop id hframe
    have hadded := hsound.addTable hcollected (hsound.framed loop id (Or.inl hframe))
    apply hadded.leaves [] stack (forall_mem_nil _)
    · rintro _ ⟨⟩
    · intro other hother
      cases hother
      exact mem_cons_self
  | @closeHere loop id free home known =>
    apply hsound.closeInLoop home
    · rw [free.2.1]
      rintro ⟨⟩
    · exact hsound.waits_of_free free
  | @remove loop id rest stack =>
    have hframe : .closing id ∈ (server.workers loop).stack := by
      rw [stack]
      exact mem_cons_self
    have hremoved : (server.removeSession id).Sound := by
      refine hsound.setLife ?_ (hsound.framed loop id (Or.inr hframe)) ?_ ?_ ?_
      · rintro ⟨⟩
      · rintro ⟨⟩
      · intro other hne hmem
        exact mem_filter.mpr ⟨hmem, decide_eq_true hne⟩
      · exact (filter_sublist ..).subset
    apply hremoved.leaves [.inCallback id] stack
    · exact fun frame hframe => by rw [mem_singleton.mp hframe]; rfl
    · intro other hother
      cases hother
      show update server.life id (some .closed) id ≠ _
      rw [update_self]
      rintro ⟨⟩
    · rintro _ ⟨⟩
  | callbackEnds stack =>
    apply hsound.leaves [] stack (forall_mem_nil _)
    · rintro _ ⟨⟩
    · rintro _ ⟨⟩
  | stop free idle first =>
    have hwaits := hsound.waits_of_free free
    have hpushed : (server.setStack none (.stopping :: (server.workers none).stack)).Sound := by
      apply hsound.waiting
      · intro frame hframe
        rcases mem_cons.mp hframe with rfl | hbefore
        · rfl
        · exact hwaits frame hbefore
      · intro hended
        cases hended.symm.trans free.2.1
      · intro id hmem
        cases hwaits _ hmem
      · intro id hmem
        cases hwaits _ hmem
    apply hpushed.unstart.setStop first rfl
    · rfl
    · exact nil_subset _
    · rintro ⟨⟩
    · rintro ⟨⟩
    · rintro _ ⟨⟩
  | collect stopping =>
    have hstarted := hsound.started_of_stopping stopping (by rintro ⟨⟩)
    have hnone := htimely.collect rfl
    exact { hsound with
      listed := by
        intro id hlisted
        exact hsound.listed id (Or.inl (hlisted.resolve_left not_mem_nil))
      refused := by
        intro hafter
        cases hstarted.symm.trans hafter
      kept := by rintro ⟨⟩
      emptied := fun _ => ⟨rfl, hnone⟩
      doomed := by
        intro _ id halive
        have hkept := hsound.kept (by rw [stopping.1]; rfl) id halive
        exact Or.inl (hkept.resolve_right (hnone _ id))
      quits := by
        intro thread hquit
        have hjoins := (hsound.quits thread hquit).1
        rw [stopping.1] at hjoins
        cases hjoins
      joined := by rintro _ ⟨⟩ }
  | @stopCloses id rest stopping home =>
    have hclosed : (server.closeInLoop none id).Sound := by
      apply hsound.closeInLoop home
      · intro hended
        obtain ⟨below, hstack⟩ := stopping.2.1
        cases hstack.symm.trans (hsound.ended none hended)
      · exact hsound.waits_of_stopping stopping
    have hpoint := (closeInLoop_stop none id).trans stopping.1
    apply hclosed.setStop hpoint (hclosed.started_eq_false (by rw [hpoint]; rintro ⟨⟩))
    · rfl
    · exact subset_cons_self ..
    · intro _ other halive hmem
      rcases mem_cons.mp hmem with rfl | hrest
      · exact (closeInLoop_life none other halive).elim
      · exact Or.inl hrest
    · rintro ⟨⟩
    · rintro _ ⟨⟩
  | @stopQueues id rest last stopping home taken =>
    have hknown : id < server.nextId := by
      apply hsound.listed id
      rw [stopping.1]
      exact Or.inr mem_cons_self
    have hqueued : (server.setLoop (server.home id) last).Sound := by
      apply hsound.setLoop taken
      · intro other hother
        cases hother
        exact ⟨rfl, hknown⟩
      · rintro _ ⟨⟩
      · rintro ⟨⟩
    apply hqueued.setStop stopping.1 (hsound.started_of_stopping stopping (by rintro ⟨⟩))
    · rfl
    · exact subset_cons_self ..
    · intro _ other halive hmem
      rcases mem_cons.mp hmem with rfl | hrest
      · refine Or.inr ⟨home, ?_⟩
        show _ ∈ ((server.setLoop _ last).workers (server.home other)).loop.queued
        rw [setLoop_loop, if_pos rfl]
        have hpushed : _ = last.queued := taken.queued
        rw [← hpushed]
        exact mem_append_right _ mem_cons_self
      · exact Or.inl hrest
    · rintro ⟨⟩
    · rintro _ ⟨⟩
  | allClosed stopping =>
    apply hsound.setJoins stopping.1 rfl rfl rfl
    exact fun thread hthread => (hthread (mem_finRange thread)).elim
  | @quitThread thread rest last stopping phase taken =>
    have hset : ({ server with stop := .joining thread rest } : TcpServer n σ κ).Sound := by
      apply hsound.setJoins stopping.1 rfl rfl rfl
      exact hsound.joined _ (by rw [stopping.1]; rfl)
    apply hset.setLoop taken
    · rintro _ ⟨⟩
    · rintro _ ⟨⟩
    · intro _ other hother
      cases hother
      refine ⟨rfl, fun id halive hhome => ?_⟩
      have hdoomed := hsound.doomed (by rw [stopping.1]; rfl) id halive
      rw [stopping.1] at hdoomed
      have hqueued := (hdoomed.resolve_left not_mem_nil).2
      rw [hhome] at hqueued
      exact due_of_queued hqueued (htimely.quit thread rfl)
  | skipThread stopping =>
    apply hsound.setJoins stopping.1 rfl rfl rfl
    exact hsound.joined _ (by rw [stopping.1]; rfl)
  | @join thread rest stopping phase =>
    apply hsound.setJoins stopping.1 rfl rfl rfl
    intro other hother
    by_cases hsame : other = thread
    · rw [hsame]
      exact phase
    · apply hsound.joined (thread :: rest) (by rw [stopping.1]; rfl)
      exact not_mem_cons_of_ne_of_not_mem hsame hother
  | @stopReturns rest stopping stack =>
    have hleft : (server.setStack none ([] ++ rest)).Sound := by
      apply hsound.leaves [] stack (forall_mem_nil _)
      · rintro _ ⟨⟩
      · rintro _ ⟨⟩
    apply hleft.setJoins stopping.1 rfl rfl rfl
    exact hsound.joined _ (by rw [stopping.1]; rfl)

/-! ## When `stop` returns -/

/-- The table is empty, and every session that was created is closed with its close callback
called. -/
def LeavesNothing (server : TcpServer n σ κ) : Prop :=
  server.table = [] ∧ ∀ id life, server.life id = some life → life = .closed

omit [DecidableEq σ] in
theorem sound_justStarted (base : EventLoop (Caller n σ) Task κ)
    (hbase : ∀ id, .close id ∉ base.queued) :
    (justStarted n base).Sound where
  fresh _ _ := rfl
  layered
    | none => nofun
    | some _ => nofun
  ended
    | none => nofun
    | some _ => nofun
  queued
    | none => fun id hmem => (hbase id hmem).elim
    | some _ => nofun
  framed
    | none => nofun
    | some _ => nofun
  listed := nofun
  closing := nofun
  refused _ := rfl
  kept := nofun
  emptied := nofun
  doomed := nofun
  quits := nofun
  gone := nofun
  joined := nofun

theorem sound_of_path {base : EventLoop (Caller n σ) Task κ} {past : List (Label n σ κ)}
    (hbase : ∀ id, .close id ∉ base.queued)
    (hpath : Path TimelyStep (justStarted n base) past server) : server.Sound := by
  apply hpath.invariant fun _ server => server.Sound
  · exact sound_justStarted base hbase
  · exact fun _ _ _ _ _ hsound htaken => hsound.step htaken.1 htaken.2

/-- When `stop` comes at a good moment, it leaves nothing behind. -/
theorem stop_leaves_nothing {base : EventLoop (Caller n σ) Task κ} {past : List (Label n σ κ)}
    (hbase : ∀ id, .close id ∉ base.queued)
    (hpath : Path TimelyStep (justStarted n base) past server)
    (hreturns : Step server .stopReturns after) : after.LeavesNothing := by
  have hsound := sound_of_path hbase hpath
  cases hreturns with
  | @stopReturns rest stopping stack =>
    have hcollected : server.stop.collected = true := by
      rw [stopping.1]
      rfl
    have hended : ∀ thread, (server.workers (some thread)).phase = .ended :=
      fun thread => hsound.joined [] (by rw [stopping.1]; rfl) thread nofun
    refine ⟨(hsound.emptied hcollected).1, fun id life hlife => ?_⟩
    cases life with
    | alive =>
      -- Its close would still be queued on a loop whose thread has ended.
      have hdoomed := hsound.doomed hcollected id hlife
      rw [stopping.1] at hdoomed
      obtain ⟨thread, hhome⟩ := Option.ne_none_iff_exists'.mp (hdoomed.resolve_left nofun).1
      exact (hsound.gone thread (hended thread) id hlife hhome).elim
    | closing =>
      have hframe := hsound.closing id hlife
      cases hhome : server.home id with
      | none =>
        rw [hhome] at hframe
        exact nomatch hsound.waits_of_stopping stopping _ hframe
      | some thread =>
        rw [hhome, hsound.ended _ (hended thread)] at hframe
        exact nomatch hframe
    | closed => rfl

/-! ## One I/O thread -/

/-- The base thread, as the loop of the one I/O thread sees it. -/
abbrev baseThread : User (Caller 1 Unit) := .other (.loop none)

abbrev ioThread : Fin 1 := Fin.last 0

abbrev ioLoop : LoopId 1 := some ioThread

theorem idle_of_calls {server : TcpServer 1 Unit Unit}
    (hbase : (server.workers none).loop.calls .owner = .idle)
    (hthread : (server.workers (some 0)).loop.calls baseThread = .idle) : server.Idle none
  | none => hbase
  | some 0 => hthread

/-- What the I/O thread may do while it is in its loop and in no function of the server. -/
def isOwn : EventLoop.Label (Caller 1 Unit) Task Unit → Bool
  | .swap | .startCalling | .taskEnds _ | .stopCalling | .goOn | .polled _ | .handleWakeup
  | .dispatched => true
  | _ => false

/-- How the base thread goes on with a call of the loop. -/
def isAlarm : EventLoop.Label (Caller 1 Unit) Task Unit → Bool
  | .alert _ | .wakeup _ => true
  | _ => false

section Moves

variable {server : TcpServer 1 Unit Unit} {label : EventLoop.Label (Caller 1 Unit) Task Unit}
  {last : EventLoop (Caller 1 Unit) Task Unit}
  (htaken : EventLoop.Step (server.workers ioLoop).loop label last)
include htaken

theorem step_own (hlabel : isOwn label = true) (hstack : (server.workers ioLoop).stack = [])
    (hphase : (server.workers ioLoop).phase = .looping) :
    Step server (.loop ioLoop label) (server.setLoop ioLoop last) := by
  apply Step.loop htaken
  cases label with
  | swap | startCalling | taskEnds | stopCalling | goOn | polled | handleWakeup | dispatched =>
    exact ⟨nofun, nofun, nofun, nofun, fun _ => ⟨hstack, hphase⟩, fun _ => ⟨nofun, nofun, nofun⟩⟩
  | _ => cases hlabel

theorem step_alarm (hlabel : isAlarm label = true) :
    Step server (.loop ioLoop label) (server.setLoop ioLoop last) := by
  apply Step.loop htaken
  cases label with
  | alert | wakeup => exact ⟨nofun, nofun, nofun, nofun, nofun, fun _ => ⟨nofun, nofun, nofun⟩⟩
  | _ => cases hlabel

end Moves

theorem timely_loop {server : TcpServer 1 Unit Unit} {loop : LoopId 1}
    {label : EventLoop.Label (Caller 1 Unit) Task Unit} : server.Timely (.loop loop label) :=
  ⟨nofun, nofun, nofun⟩

/-- `stop` empties the table after the I/O thread has seen `started_`, and before it puts its
session in. -/
def createdTooLate : List (Label 1 Unit Unit) :=
  [.threadStarts ioThread, .accept ioLoop, .loop ioLoop (.alert baseThread),
    .loop ioLoop (.wakeup baseThread), .loop ioLoop .swap, .loop ioLoop .startCalling,
    .runCreate ioLoop, .stop, .collect, .allClosed, .quitThread ioThread,
    .loop ioLoop (.wakeup baseThread), .insert ioLoop 1,
    .loop ioLoop (.taskEnds .returned), .loop ioLoop .stopCalling, .threadEnds ioThread,
    .join ioThread]

theorem createdTooLate_path : ∃ server : TcpServer 1 Unit Unit,
    Path Step (justStarted 1 {}) createdTooLate server ∧
      ∃ after, Step server .stopReturns after ∧ after.table = [1] ∧
        after.life 1 = some .alive :=
  ⟨_, .cons (.threadStarts rfl (.loop rfl rfl))
    (.cons (.accept ⟨rfl, rfl, Or.inl rfl⟩ (idle_of_calls rfl rfl) rfl ⟨nofun, nofun⟩
      (.push ⟨rfl, nofun⟩))
    (.cons (step_alarm (.alert rfl (Or.inl nofun)) rfl)
    (.cons (step_alarm (.wakeup (Or.inl rfl)) rfl)
    (.cons (step_own (.swap rfl) rfl rfl rfl)
    (.cons (step_own (.startCalling rfl) rfl rfl rfl)
    (.cons (.runCreate rfl rfl (.run rfl))
    (.cons (.stop ⟨rfl, rfl, Or.inl rfl⟩ (idle_of_calls rfl rfl) rfl)
    (.cons (.collect ⟨rfl, ⟨_, rfl⟩, idle_of_calls rfl rfl⟩)
    (.cons (.allClosed ⟨rfl, ⟨_, rfl⟩, idle_of_calls rfl rfl⟩)
    (.cons (.quitThread ⟨rfl, ⟨_, rfl⟩, idle_of_calls rfl rfl⟩ nofun (.quit ⟨rfl, nofun⟩))
    (.cons (step_alarm (.wakeup (Or.inr rfl)) rfl)
    (.cons (.insert rfl)
    (.cons (step_own (.taskEnds rfl rfl) rfl rfl rfl)
    (.cons (step_own (.stopCalling rfl) rfl rfl rfl)
    (.cons (.threadEnds rfl rfl (.loopReturns rfl rfl))
    (.cons (.join ⟨rfl, ⟨_, rfl⟩, idle_of_calls rfl rfl⟩ rfl) .nil)))))))))))))))),
    _, .stopReturns ⟨rfl, ⟨_, rfl⟩, idle_of_calls rfl rfl⟩ rfl, rfl, rfl⟩

/-- After `stop` has returned, the session of the I/O thread lives on, in the table. -/
theorem not_leavesNothing_createdTooLate :
    ∃ past, ∃ server after : TcpServer 1 Unit Unit, Path Step (justStarted 1 {}) past server ∧
      Step server .stopReturns after ∧ ¬ after.LeavesNothing ∧ after.life 1 = some .alive := by
  obtain ⟨server, hpath, after, hreturns, htable, halive⟩ := createdTooLate_path
  refine ⟨_, server, after, hpath, hreturns, ?_, halive⟩
  intro hnothing
  exact nomatch htable.symm.trans hnothing.1

theorem noneMade_of_stacks {server : TcpServer 1 Unit Unit}
    (hbase : ∀ id, .made id ∉ (server.workers none).stack)
    (hthread : ∀ id, .made id ∉ (server.workers (some 0)).stack) :
    ∀ loop id, .made id ∉ (server.workers loop).stack
  | none => hbase
  | some 0 => hthread

/-- The I/O thread waits when `stop` queues the close of its session and tells it to quit. -/
def closedInTime : List (Label 1 Unit Unit) :=
  [.threadStarts ioThread, .accept ioLoop, .loop ioLoop (.alert baseThread),
    .loop ioLoop (.wakeup baseThread), .loop ioLoop .swap, .loop ioLoop .startCalling,
    .runCreate ioLoop, .insert ioLoop 1, .loop ioLoop (.taskEnds .returned),
    .loop ioLoop .stopCalling, .loop ioLoop .goOn, .stop, .collect, .stopQueues 1,
    .loop ioLoop (.alert baseThread), .loop ioLoop (.wakeup baseThread), .allClosed,
    .quitThread ioThread, .loop ioLoop (.wakeup baseThread), .loop ioLoop (.polled [.wakeup]),
    .loop ioLoop .handleWakeup, .loop ioLoop .dispatched, .loop ioLoop .swap,
    .loop ioLoop .startCalling, .runClose ioLoop 1, .remove ioLoop 1,
    .callbackEnds ioLoop 1, .loop ioLoop (.taskEnds .returned),
    .loop ioLoop .stopCalling, .threadEnds ioThread, .join ioThread]

theorem closedInTime_path : ∃ server : TcpServer 1 Unit Unit,
    Path TimelyStep (justStarted 1 {}) closedInTime server ∧
      ∃ after, Step server .stopReturns after ∧ after.life 1 ≠ none :=
  ⟨_, .cons ⟨.threadStarts rfl (.loop rfl rfl), ⟨nofun, nofun, nofun⟩⟩
    (.cons ⟨.accept ⟨rfl, rfl, Or.inl rfl⟩ (idle_of_calls rfl rfl) rfl ⟨nofun, nofun⟩
      (.push ⟨rfl, nofun⟩), ⟨nofun, nofun, nofun⟩⟩
    (.cons ⟨step_alarm (.alert rfl (Or.inl nofun)) rfl, timely_loop⟩
    (.cons ⟨step_alarm (.wakeup (Or.inl rfl)) rfl, timely_loop⟩
    (.cons ⟨step_own (.swap rfl) rfl rfl rfl, timely_loop⟩
    (.cons ⟨step_own (.startCalling rfl) rfl rfl rfl, timely_loop⟩
    (.cons ⟨.runCreate rfl rfl (.run rfl), ⟨nofun, nofun, nofun⟩⟩
    (.cons ⟨.insert rfl, ⟨nofun, nofun, nofun⟩⟩
    (.cons ⟨step_own (.taskEnds rfl rfl) rfl rfl rfl, timely_loop⟩
    (.cons ⟨step_own (.stopCalling rfl) rfl rfl rfl, timely_loop⟩
    (.cons ⟨step_own (.goOn rfl rfl) rfl rfl rfl, timely_loop⟩
    (.cons ⟨.stop ⟨rfl, rfl, Or.inl rfl⟩ (idle_of_calls rfl rfl) rfl, ⟨nofun, nofun, nofun⟩⟩
    (.cons ⟨.collect ⟨rfl, ⟨_, rfl⟩, idle_of_calls rfl rfl⟩,
      ⟨fun _ => noneMade_of_stacks nofun nofun, nofun, nofun⟩⟩
    (.cons ⟨.stopQueues ⟨rfl, ⟨_, rfl⟩, idle_of_calls rfl rfl⟩ nofun
      (.push ⟨rfl, nofun⟩), ⟨nofun, nofun, nofun⟩⟩
    (.cons ⟨step_alarm (.alert rfl (Or.inl nofun)) rfl, timely_loop⟩
    (.cons ⟨step_alarm (.wakeup (Or.inl rfl)) rfl, timely_loop⟩
    (.cons ⟨.allClosed ⟨rfl, ⟨_, rfl⟩, idle_of_calls rfl rfl⟩, ⟨nofun, nofun, nofun⟩⟩
    (.cons ⟨.quitThread ⟨rfl, ⟨_, rfl⟩, idle_of_calls rfl rfl⟩ nofun
      (.quit ⟨rfl, nofun⟩), ⟨nofun, by rintro _ ⟨⟩; nofun, nofun⟩⟩
    (.cons ⟨step_alarm (.wakeup (Or.inr rfl)) rfl, timely_loop⟩
    (.cons ⟨step_own (.polled rfl (forall_mem_singleton.mpr (Nat.succ_pos 2))) rfl rfl rfl,
      timely_loop⟩
    (.cons ⟨step_own (.handleWakeup rfl) rfl rfl rfl, timely_loop⟩
    (.cons ⟨step_own (.dispatched rfl) rfl rfl rfl, timely_loop⟩
    (.cons ⟨step_own (.swap rfl) rfl rfl rfl, timely_loop⟩
    (.cons ⟨step_own (.startCalling rfl) rfl rfl rfl, timely_loop⟩
    (.cons ⟨.runClose rfl rfl (.run rfl), ⟨nofun, nofun, nofun⟩⟩
    (.cons ⟨.remove rfl, ⟨nofun, nofun, nofun⟩⟩
    (.cons ⟨.callbackEnds rfl, ⟨nofun, nofun, nofun⟩⟩
    (.cons ⟨step_own (.taskEnds rfl rfl) rfl rfl rfl, timely_loop⟩
    (.cons ⟨step_own (.stopCalling rfl) rfl rfl rfl, timely_loop⟩
    (.cons ⟨.threadEnds rfl rfl (.loopReturns rfl rfl), ⟨nofun, nofun, nofun⟩⟩
    (.cons ⟨.join ⟨rfl, ⟨_, rfl⟩, idle_of_calls rfl rfl⟩ rfl, ⟨nofun, nofun, nofun⟩⟩
    .nil)))))))))))))))))))))))))))))),
    _, .stopReturns ⟨rfl, ⟨_, rfl⟩, idle_of_calls rfl rfl⟩ rfl, nofun⟩

theorem stop_leaves_nothing_closedInTime :
    ∃ server after : TcpServer 1 Unit Unit, Path TimelyStep (justStarted 1 {}) closedInTime server ∧
      Step server .stopReturns after ∧ after.LeavesNothing ∧ after.life 1 ≠ none := by
  obtain ⟨server, hpath, after, hreturns, hcreated⟩ := closedInTime_path
  have hbase : ∀ id, .close id ∉ ({} : EventLoop (Caller 1 Unit) Task Unit).queued :=
    fun _ => not_mem_nil
  exact ⟨server, after, hpath, hreturns, stop_leaves_nothing hbase hpath hreturns, hcreated⟩

end TcpServer

end LiteIM
