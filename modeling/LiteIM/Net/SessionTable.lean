/-
# Sessions as the services see them

The service layer holds pointers to sessions and asks them only a few things: the
id, whether the session is closed, when it was last active. Sessions have
distinct ids, so a pointer is named by the id of the session it points to.

A session changes under the feet of the services. Its loop closes it at any
moment, and the last owner may drop it, after which a weak pointer to it is
empty. `Later` is everything that can happen to the sessions between two reads.
-/

import LiteIM.Base.Status
import Mathlib.Logic.Function.Basic

namespace LiteIM

/-- A pointer to the session with this id. -/
@[ext]
structure SessionRef where
  id : UInt64
  deriving DecidableEq, Repr

/-- A live session is open; an expired one no longer has an owner. -/
inductive Life where
  | live
  | closed
  | expired
  deriving DecidableEq, Repr

structure SessionState where
  life : Life := .live
  /-- `close()` was called: the loop will close the session. -/
  closeRequested : Bool := false
  lastActiveTimeMs : Int := 0
  deriving DecidableEq, Repr

abbrev Sessions := SessionRef → SessionState

namespace Sessions

/-- `session->closed()`; nobody holds a pointer to an expired session. -/
def closed (sessions : Sessions) (session : SessionRef) : Bool :=
  (sessions session).life ≠ .live

/-- The `lock()` of a weak pointer. -/
def lock (sessions : Sessions) (session : SessionRef) : Option SessionRef :=
  if (sessions session).life = .expired then none else some session

/-- `session->close()` hands the closing over to the session's loop. -/
def close (sessions : Sessions) (session : SessionRef) : Sessions :=
  Function.update sessions session { sessions session with closeRequested := true }

theorem closed_eq_false_iff {sessions : Sessions} {session : SessionRef} :
    sessions.closed session = false ↔ (sessions session).life = .live := by
  simp [closed]

@[simp]
theorem close_life (sessions : Sessions) (target session : SessionRef) :
    (sessions.close target session).life = (sessions session).life := by
  by_cases hsame : session = target
  · subst hsame
    simp [close]
  · simp [close, hsame]

@[simp]
theorem close_closeRequested_self (sessions : Sessions) (session : SessionRef) :
    (sessions.close session session).closeRequested = true := by
  simp [close]

/-- What can happen to sessions between two reads: none comes back to life, and a
request to close is not taken back. -/
structure Later (before after : Sessions) : Prop where
  live : ∀ session, (after session).life = .live → (before session).life = .live
  expired : ∀ session, (before session).life = .expired → (after session).life = .expired
  closeRequested : ∀ session, (before session).closeRequested = true →
    (after session).closeRequested = true

theorem Later.refl (sessions : Sessions) : Later sessions sessions :=
  ⟨fun _ => id, fun _ => id, fun _ => id⟩

theorem Later.trans {first second third : Sessions} (hfirst : Later first second)
    (hsecond : Later second third) : Later first third where
  live session hlive := hfirst.live session (hsecond.live session hlive)
  expired session hexpired := hsecond.expired session (hfirst.expired session hexpired)
  closeRequested session hrequested :=
    hsecond.closeRequested session (hfirst.closeRequested session hrequested)

end Sessions

end LiteIM
