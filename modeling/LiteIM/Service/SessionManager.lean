/-
# The session manager

`SessionManager` records which user is logged in on which session, in two tables
that it edits under one lock. A lookup that finds its session closed or gone
erases the binding on the way.

A session can close while a call is under way. `bindUser` looks at sessions at
three points: when it checks the new session, when it resolves the old one inside
the lock, and when it decides whether the old one still has to be closed. Each
point reads the sessions as they are then.
-/

import LiteIM.Net.SessionTable

namespace LiteIM

open Status Sessions Function

structure UserBinding where
  sessionId : UInt64
  /-- A weak pointer. -/
  session : SessionRef
  deriving DecidableEq, Repr

structure SessionManager where
  users : UInt64 → Option UserBinding := fun _ => none
  sessions : UInt64 → Option UInt64 := fun _ => none

namespace SessionManager

def eraseBindingLocked (manager : SessionManager) (userId sessionId : UInt64) :
    SessionManager where
  users := update manager.users userId none
  sessions := update manager.sessions sessionId none

/-- The checks of `bindUser` before it takes the lock. -/
def checkBind (table : Sessions) (userId : UInt64) (session : Option SessionRef) :
    Except Error SessionRef :=
  if userId = 0 then error .invalidArgument "user id must be positive"
  else
    match session with
    | none => error .invalidArgument "session must not be null"
    | some session =>
      if session.id = 0 then error .invalidArgument "session id must be positive"
      else if table.closed session then error .invalidArgument "session is closed"
      else .ok session

/-- The locked part of `bindUser`, which returns `old_session`. -/
def bindLocked (table : Sessions) (manager : SessionManager) (userId : UInt64)
    (session : SessionRef) : Except Error (Option SessionRef) × SessionManager :=
  match manager.sessions session.id with
  | some other =>
    if other ≠ userId then
      (error .alreadyExists "session is already bound to another user", manager)
    else bindFree table manager userId session
  | none => bindFree table manager userId session
where
  /-- The session is not bound to another user. -/
  bindFree (table : Sessions) (manager : SessionManager) (userId : UInt64)
      (session : SessionRef) : Except Error (Option SessionRef) × SessionManager :=
    match manager.users userId with
    | some binding =>
      if binding.sessionId = session.id then
        (.ok none,
          { users := update manager.users userId (some { binding with session })
            sessions := update manager.sessions session.id (some userId) })
      else
        (.ok (table.lock binding.session),
          { users := update manager.users userId (some ⟨session.id, session⟩)
            sessions := update
              (update manager.sessions binding.sessionId none)
              session.id (some userId) })
    | none =>
      (.ok none,
        { users := update manager.users userId (some ⟨session.id, session⟩)
          sessions := update manager.sessions session.id (some userId) })

/-- The end of `bindUser`: close the connection of a repeated login. -/
def closeOld (table : Sessions) (session : SessionRef) : Option SessionRef → Sessions
  | some old => if old ≠ session ∧ table.closed old = false then table.close old else table
  | none => table

@[simp]
theorem closeOld_life (table : Sessions) (session other : SessionRef) (old : Option SessionRef) :
    (closeOld table session old other).life = (table other).life := by
  cases old with
  | none => rfl
  | some old =>
    rw [closeOld]
    split
    · exact close_life table old other
    · rfl

/-- `bindUser(user_id, session)`. The sessions are read as they are at the checks,
inside the lock, and when the old session is closed. -/
def bindUser (checked locked closing : Sessions) (manager : SessionManager) (userId : UInt64)
    (session : Option SessionRef) : Except Error Unit × SessionManager × Sessions :=
  match checkBind checked userId session with
  | .error status => (.error status, manager, closing)
  | .ok session =>
    match bindLocked locked manager userId session with
    | (.error status, manager) => (.error status, manager, closing)
    | (.ok old, manager) => (.ok (), manager, closeOld closing session old)

/-- `unbindUser(user_id, session_id, removed)`, which returns `removed`. -/
def unbindUser (manager : SessionManager) (userId sessionId : UInt64) :
    Except Error Bool × SessionManager :=
  if userId = 0 then (error .invalidArgument "user id must be positive", manager)
  else if sessionId = 0 then
    (error .invalidArgument "session id must be positive", manager)
  else
    match manager.users userId with
    | none => (.ok false, manager)
    | some binding =>
      if binding.sessionId ≠ sessionId then (.ok false, manager)
      else (.ok true, manager.eraseBindingLocked userId sessionId)

def getSessionByUser (table : Sessions) (manager : SessionManager) (userId : UInt64) :
    Except Error SessionRef × SessionManager :=
  if userId = 0 then (error .invalidArgument "user id must be positive", manager)
  else
    match manager.users userId with
    | none => (error .notFound "user is not bound to a session", manager)
    | some binding =>
      match table.lock binding.session with
      | none => (error .notFound "user session is no longer alive",
          manager.eraseBindingLocked userId binding.sessionId)
      | some session =>
        if table.closed session then
          (error .notFound "user session is no longer alive",
            manager.eraseBindingLocked userId binding.sessionId)
        else (.ok session, manager)

def getUserBySession (table : Sessions) (manager : SessionManager) (sessionId : UInt64) :
    Except Error UInt64 × SessionManager :=
  if sessionId = 0 then (error .invalidArgument "session id must be positive", manager)
  else
    match manager.sessions sessionId with
    | none => (error .notFound "session is not bound to a user", manager)
    | some userId =>
      match manager.users userId with
      | none => (error .notFound "session binding is stale", eraseStale)
      | some binding =>
        if binding.sessionId ≠ sessionId then
          (error .notFound "session binding is stale", eraseStale)
        else
          match table.lock binding.session with
          | none => (error .notFound "session is no longer alive",
              manager.eraseBindingLocked userId sessionId)
          | some session =>
            if table.closed session then
              (error .notFound "session is no longer alive",
                manager.eraseBindingLocked userId sessionId)
            else (.ok userId, manager)
where
  eraseStale : SessionManager :=
    { manager with sessions := update manager.sessions sessionId none }

def getBoundUserBySession (manager : SessionManager) (sessionId : UInt64) :
    Except Error UInt64 :=
  if sessionId = 0 then error .invalidArgument "session id must be positive"
  else
    match manager.sessions sessionId with
    | none => error .notFound "session is not bound to a user"
    | some userId => .ok userId

/-! ## What each call does to the tables -/

/-- The session id a user is bound to. -/
def boundSession (manager : SessionManager) (userId : UInt64) : Option UInt64 :=
  (manager.users userId).map UserBinding.sessionId

variable {userId sessionId : UInt64} {manager : SessionManager}

theorem boundSession_eq_some_iff : manager.boundSession userId = some sessionId ↔
      ∃ binding, manager.users userId = some binding ∧ binding.sessionId = sessionId := by
  simp [boundSession]

/-- The tables after a user is bound to a session, whatever it was bound to. -/
def rebind (manager : SessionManager) (userId : UInt64) (session : SessionRef) :
    SessionManager where
  users := update manager.users userId (some ⟨session.id, session⟩)
  sessions := update
    (match manager.users userId with
      | some binding => update manager.sessions binding.sessionId none
      | none => manager.sessions) session.id (some userId)

variable {table : Sessions} {session : SessionRef} {after : SessionManager}

/-- A successful bind found the session free or already with this user, and hands
back the session of an older binding. -/
theorem bindLocked_ok {old : Option SessionRef}
    (hbind : bindLocked table manager userId session = (.ok old, after)) :
    after = manager.rebind userId session ∧
    (∀ other, manager.sessions session.id = some other → other = userId) ∧
    (∀ binding, manager.users userId = some binding → binding.sessionId ≠ session.id →
      old = table.lock binding.session) := by
  have hfree : (∀ other, manager.sessions session.id = some other → other = userId) ∧
      bindLocked.bindFree table manager userId session = (.ok old, after) := by
    rw [bindLocked] at hbind
    cases hsession : manager.sessions session.id with
    | none => simpa [hsession] using hbind
    | some other =>
      by_cases hother : other = userId
      · simpa [hsession, hother] using hbind
      · simp [hsession, hother, error] at hbind
  refine ⟨?_, hfree.1, ?_⟩
  · have hbind := hfree.2
    rw [bindLocked.bindFree] at hbind
    cases huser : manager.users userId with
    | none =>
      simp only [huser, Prod.mk.injEq] at hbind
      rw [← hbind.2, rebind, huser]
    | some binding =>
      by_cases hsame : binding.sessionId = session.id
      · simp only [huser, if_pos hsame, Prod.mk.injEq] at hbind
        rw [← hbind.2, rebind, huser, ← hsame]
        simp
      · simp only [huser, if_neg hsame, Prod.mk.injEq] at hbind
        rw [← hbind.2, rebind, huser]
  · intro binding huser hne
    have hbind := hfree.2
    simp only [bindLocked.bindFree, huser, if_neg hne, Prod.mk.injEq, Except.ok.injEq] at hbind
    exact hbind.1.symm

variable {status : Error}

theorem bindFree_ne_error :
    bindLocked.bindFree table manager userId session ≠ (.error status, after) := by
  intro hresult
  rw [bindLocked.bindFree] at hresult
  cases huser : manager.users userId with
  | none => simp [huser] at hresult
  | some binding =>
    by_cases hsame : binding.sessionId = session.id
    · simp [huser, hsame] at hresult
    · simp [huser, hsame] at hresult

theorem bindLocked_error
    (hbind : bindLocked table manager userId session = (.error status, after)) :
    after = manager := by
  rw [bindLocked] at hbind
  cases hsession : manager.sessions session.id with
  | none =>
    simp only [hsession] at hbind
    exact (bindFree_ne_error hbind).elim
  | some other =>
    by_cases hother : other = userId
    · simp only [hsession, ne_eq, hother, not_true_eq_false, if_false] at hbind
      exact (bindFree_ne_error hbind).elim
    · simp only [hsession, ne_eq, hother, not_false_eq_true, if_true, Prod.mk.injEq] at hbind
      exact hbind.2.symm

theorem checkBind_ok {session : Option SessionRef} {found : SessionRef}
    (hcheck : checkBind table userId session = .ok found) :
    session = some found ∧ userId ≠ 0 ∧ found.id ≠ 0 ∧ (table found).life = .live := by
  by_cases huser : userId = 0
  · simp [checkBind, huser, error] at hcheck
  · cases session with
    | none => simp [checkBind, huser, error] at hcheck
    | some given =>
      rw [checkBind, if_neg huser] at hcheck
      by_cases hid : given.id = 0
      · simp [hid, error] at hcheck
      · by_cases hclosed : table.closed given = true
        · simp [hid, hclosed, error] at hcheck
        · simp only [if_neg hid, if_neg hclosed, Except.ok.injEq] at hcheck
          subst hcheck
          exact ⟨rfl, huser, hid, closed_eq_false_iff.mp (by simpa using hclosed)⟩

variable {checked locked closing : Sessions}

/-- A `bindUser` that returns OK bound the user to the open session it was given. -/
theorem bindUser_ok {session : Option SessionRef}
    (hbind : (bindUser checked locked closing manager userId session).1 = .ok ()) :
    ∃ found old, session = some found ∧ userId ≠ 0 ∧ found.id ≠ 0 ∧
      (checked found).life = .live ∧
      bindLocked locked manager userId found = (.ok old, manager.rebind userId found) ∧
      bindUser checked locked closing manager userId session =
        (.ok (), manager.rebind userId found, closeOld closing found old) := by
  cases hcheck : checkBind checked userId session with
  | error => simp [bindUser, hcheck] at hbind
  | ok found =>
    obtain ⟨hsession, huser, hid, hlive⟩ := checkBind_ok hcheck
    rcases hlocked : bindLocked locked manager userId found with ⟨result, after⟩
    cases result with
    | error => simp [bindUser, hcheck, hlocked] at hbind
    | ok old =>
      obtain ⟨rfl, _, _⟩ := bindLocked_ok hlocked
      exact ⟨found, old, hsession, huser, hid, hlive, hlocked, by
        simp [bindUser, hcheck, hlocked]⟩

/-- An open session that no other user has can be bound. -/
theorem bindUser_of_free (huser : userId ≠ 0) (hid : session.id ≠ 0)
    (hlive : (table session).life = .live)
    (hfree : ∀ other, manager.sessions session.id = some other → other = userId) :
    ∃ old, bindUser table table table manager userId (some session) =
      (.ok (), manager.rebind userId session, closeOld table session old) := by
  have hok : (bindUser table table table manager userId (some session)).1 = .ok () := by
    have hcheck : checkBind table userId (some session) = .ok session := by
      simp [checkBind, huser, hid, closed, hlive]
    rcases hlocked : bindLocked table manager userId session with ⟨result, after⟩
    cases result with
    | ok => simp [bindUser, hcheck, hlocked]
    | error =>
      -- The locked part refuses only a session of another user.
      exfalso
      rw [bindLocked] at hlocked
      cases hsession : manager.sessions session.id with
      | none => exact bindFree_ne_error (by simpa [hsession] using hlocked)
      | some other =>
        have hsame := hfree other hsession
        exact bindFree_ne_error (by simpa [hsession, hsame] using hlocked)
  obtain ⟨found, old, hfound, -, -, -, -, heq⟩ := bindUser_ok hok
  obtain rfl := Option.some.inj hfound
  exact ⟨old, heq⟩

/-- A `bindUser` that fails changes nothing. -/
theorem bindUser_error {session : Option SessionRef}
    (hbind : (bindUser checked locked closing manager userId session).1 = .error status) :
    bindUser checked locked closing manager userId session = (.error status, manager, closing) := by
  cases hcheck : checkBind checked userId session with
  | error => simpa [bindUser, hcheck] using hbind
  | ok found =>
    rcases hlocked : bindLocked locked manager userId found with ⟨result, after⟩
    cases result with
    | error =>
      obtain rfl := bindLocked_error hlocked
      simpa [bindUser, hcheck, hlocked] using hbind
    | ok => simp [bindUser, hcheck, hlocked] at hbind

/-- `bindUser` may ask a session to close; it closes none. -/
theorem bindUser_life (checked locked closing : Sessions) (manager : SessionManager)
    (userId : UInt64) (session : Option SessionRef) (other : SessionRef) :
    ((bindUser checked locked closing manager userId session).2.2 other).life =
      (closing other).life := by
  cases hresult : (bindUser checked locked closing manager userId session).1 with
  | error => rw [bindUser_error hresult]
  | ok =>
    obtain ⟨found, old, -, -, -, -, -, heq⟩ := bindUser_ok hresult
    rw [heq]
    exact closeOld_life closing found other old

/-- `unbindUser` erases the user's binding if it is to the given session, and
otherwise nothing. -/
theorem unbindUser_cases (manager : SessionManager) (userId sessionId : UInt64) :
    ((∃ status, unbindUser manager userId sessionId = (.error status, manager)) ∨
      (manager.boundSession userId ≠ some sessionId ∧
        unbindUser manager userId sessionId = (.ok false, manager))) ∨
    (manager.boundSession userId = some sessionId ∧
      unbindUser manager userId sessionId =
        (.ok true, manager.eraseBindingLocked userId sessionId)) := by
  by_cases huser : userId = 0
  · exact Or.inl (Or.inl ⟨_, by rw [unbindUser, if_pos huser]; rfl⟩)
  · by_cases hsession : sessionId = 0
    · exact Or.inl (Or.inl ⟨_, by rw [unbindUser, if_neg huser, if_pos hsession]; rfl⟩)
    · rw [unbindUser, if_neg huser, if_neg hsession, boundSession]
      cases manager.users userId with
      | none => exact Or.inl (Or.inr ⟨by simp, rfl⟩)
      | some binding =>
        by_cases hsame : binding.sessionId = sessionId
        · exact Or.inr ⟨by simp [hsame], by simp [hsame]⟩
        · exact Or.inl (Or.inr ⟨by simpa using hsame, by simp [hsame]⟩)

/-- A lookup by user returns the live session of the binding, or fails; when it
found the session dead, it erases the binding. -/
theorem getSessionByUser_cases (table : Sessions) (manager : SessionManager) (userId : UInt64) :
    (∃ binding, manager.users userId = some binding ∧ (table binding.session).life = .live ∧
      getSessionByUser table manager userId = (.ok binding.session, manager)) ∨
    (∃ status, getSessionByUser table manager userId = (.error status, manager)) ∨
    (∃ binding status, manager.users userId = some binding ∧
      (table binding.session).life ≠ .live ∧
      getSessionByUser table manager userId =
        (.error status, manager.eraseBindingLocked userId binding.sessionId)) := by
  by_cases huser : userId = 0
  · exact Or.inr (Or.inl ⟨_, by rw [getSessionByUser, if_pos huser]; rfl⟩)
  · rw [getSessionByUser, if_neg huser]
    cases hbinding : manager.users userId with
    | none => exact Or.inr (Or.inl ⟨_, rfl⟩)
    | some binding =>
      cases hlife : (table binding.session).life with
      | live =>
        exact Or.inl ⟨binding, rfl, hlife, by simp [lock, closed, hlife]⟩
      | closed =>
        exact Or.inr (Or.inr ⟨binding, _, rfl, by simp [hlife], by
          simp [lock, closed, hlife]; rfl⟩)
      | expired =>
        exact Or.inr (Or.inr ⟨binding, _, rfl, by simp [hlife], by
          simp [lock, hlife]; rfl⟩)

variable {other : UInt64} {binding : UserBinding}

theorem users_of_eraseBindingLocked
    (hbinding : (manager.eraseBindingLocked userId sessionId).users other = some binding) :
    manager.users other = some binding := by
  by_cases hsame : other = userId
  · simp [eraseBindingLocked, hsame] at hbinding
  · simpa [eraseBindingLocked, hsame] using hbinding

theorem users_of_unbindUser
    (hbinding : (unbindUser manager userId sessionId).2.users other = some binding) :
    manager.users other = some binding := by
  rcases unbindUser_cases manager userId sessionId with
    (⟨status, heq⟩ | ⟨_, heq⟩) | ⟨_, heq⟩
  · rwa [heq] at hbinding
  · rwa [heq] at hbinding
  · rw [heq] at hbinding
    exact users_of_eraseBindingLocked hbinding

/-- `bindUser` changes the binding of its own user only. -/
theorem users_bindUser_of_ne (hother : other ≠ userId) (session : Option SessionRef) :
    (bindUser checked locked closing manager userId session).2.1.users other =
      manager.users other := by
  cases hresult : (bindUser checked locked closing manager userId session).1 with
  | error => rw [bindUser_error hresult]
  | ok =>
    obtain ⟨found, old, -, -, -, -, -, heq⟩ := bindUser_ok hresult
    rw [heq]
    exact update_of_ne hother _ _

/-- A lookup by user adds no binding. -/
theorem users_of_getSessionByUser
    (hbinding : (getSessionByUser table manager userId).2.users other = some binding) :
    manager.users other = some binding := by
  rcases getSessionByUser_cases table manager userId with
    ⟨_, _, _, heq⟩ | ⟨_, heq⟩ | ⟨_, _, _, _, heq⟩
  · rwa [heq] at hbinding
  · rwa [heq] at hbinding
  · rw [heq] at hbinding
    exact users_of_eraseBindingLocked hbinding

/-- A lookup by session adds no binding, and the user it finds is bound to the session. -/
theorem getUserBySession_spec (table : Sessions) (manager : SessionManager) (sessionId : UInt64) :
    (∀ other binding, (getUserBySession table manager sessionId).2.users other = some binding →
      manager.users other = some binding) ∧
    ∀ userId, (getUserBySession table manager sessionId).1 = .ok userId →
      manager.boundSession userId = some sessionId := by
  rw [getUserBySession]
  split
  · exact ⟨fun _ _ => id, fun _ hok => nomatch hok⟩
  · split
    · exact ⟨fun _ _ => id, fun _ hok => nomatch hok⟩
    · next userId _ =>
        split
        · exact ⟨fun _ _ => id, fun _ hok => nomatch hok⟩
        · next binding hbinding =>
            split
            · exact ⟨fun _ _ => id, fun _ hok => nomatch hok⟩
            · next hsame =>
                split
                · exact ⟨fun _ _ => users_of_eraseBindingLocked, fun _ hok => nomatch hok⟩
                · split
                  · exact ⟨fun _ _ => users_of_eraseBindingLocked, fun _ hok => nomatch hok⟩
                  · refine ⟨fun _ _ => id, fun found hok => ?_⟩
                    rw [← Except.ok.inj hok]
                    exact boundSession_eq_some_iff.mpr ⟨binding, hbinding, not_not.mp hsame⟩

/-- The binding of a user is an old one, or the one that `bindUser` reported. -/
theorem users_of_bindUser {session : Option SessionRef}
    (hbinding : (bindUser checked locked closing manager userId session).2.1.users other =
      some binding) : manager.users other = some binding ∨
      ∃ found, other = userId ∧ session = some found ∧ binding.sessionId = found.id ∧
        (bindUser checked locked closing manager userId session).1 = .ok () := by
  by_cases hother : other = userId
  · subst hother
    cases hresult : (bindUser checked locked closing manager other session).1 with
    | error =>
      rw [bindUser_error hresult] at hbinding
      exact Or.inl hbinding
    | ok =>
      obtain ⟨found, old, hsession, _, _, _, _, heq⟩ := bindUser_ok hresult
      rw [heq, rebind] at hbinding
      have hnew := hbinding.symm.trans (update_self ..)
      rw [Option.some.inj hnew]
      exact Or.inr ⟨found, rfl, hsession, rfl, rfl⟩
  · rw [users_bindUser_of_ne hother] at hbinding
    exact Or.inl hbinding

/-! ## The open session of a user -/

/-- The open session a user is bound to. -/
def onlineSession (table : Sessions) (manager : SessionManager) (userId : UInt64) :
    Option SessionRef :=
  match manager.users userId with
  | some binding =>
    if (table binding.session).life = .live then some binding.session else none
  | none => none

theorem onlineSession_eq_some_iff : manager.onlineSession table userId = some session ↔
      ∃ binding, manager.users userId = some binding ∧ binding.session = session ∧
        (table session).life = .live := by
  cases hbinding : manager.users userId with
  | none => simp [onlineSession, hbinding]
  | some =>
    simp only [onlineSession, hbinding, Option.ite_none_right_eq_some, Option.some.injEq,
      exists_eq_left']
    refine ⟨?_, ?_⟩
    · rintro ⟨hlive, rfl⟩
      exact ⟨rfl, hlive⟩
    · rintro ⟨rfl, hlive⟩
      exact ⟨hlive, rfl⟩

/-- No user comes online if no binding is new and no session comes back to life. -/
theorem onlineSession_of_users {later : Sessions}
    (husers : ∀ binding, after.users userId = some binding →
      manager.users userId = some binding)
    (hlife : ∀ session, (later session).life = .live → (table session).life = .live)
    (honline : after.onlineSession later userId = some session) :
    manager.onlineSession table userId = some session := by
  obtain ⟨binding, hbinding, hsession, hlive⟩ := onlineSession_eq_some_iff.mp honline
  exact onlineSession_eq_some_iff.mpr
    ⟨binding, husers binding hbinding, hsession, hlife session hlive⟩

/-- A lookup by user finds the open session, and reports a user without one. -/
theorem getSessionByUser_fst (table : Sessions) (manager : SessionManager)
    (hpositive : userId ≠ 0) : (∃ session, manager.onlineSession table userId = some session ∧
      (getSessionByUser table manager userId).1 = .ok session) ∨
    (∃ status, manager.onlineSession table userId = none ∧ status.code = .notFound ∧
      (getSessionByUser table manager userId).1 = .error status) := by
  rw [getSessionByUser, if_neg hpositive, onlineSession]
  cases hbinding : manager.users userId with
  | none => exact Or.inr ⟨_, rfl, rfl, rfl⟩
  | some binding =>
    cases hlife : (table binding.session).life with
    | live => exact Or.inl ⟨binding.session, by simp [hlife, lock, closed]⟩
    | closed =>
      exact Or.inr ⟨⟨.notFound, "user session is no longer alive"⟩, by
        simp [hlife, lock, closed, error]⟩
    | expired =>
      exact Or.inr ⟨⟨.notFound, "user session is no longer alive"⟩, by
        simp [hlife, lock, error]⟩

/-- Erasing the binding of a dead session takes nobody offline. -/
theorem onlineSession_eraseBindingLocked (hbinding : manager.users userId = some binding)
    (hdead : (table binding.session).life ≠ .live) (sessionId other : UInt64) :
    (manager.eraseBindingLocked userId sessionId).onlineSession table other =
      manager.onlineSession table other := by
  by_cases hsame : other = userId
  · subst hsame
    simp [onlineSession, eraseBindingLocked, hbinding, hdead]
  · simp [onlineSession, eraseBindingLocked, hsame]

theorem onlineSession_getSessionByUser (table : Sessions) (manager : SessionManager)
    (userId other : UInt64) :
    (getSessionByUser table manager userId).2.onlineSession table other =
      manager.onlineSession table other := by
  rcases getSessionByUser_cases table manager userId with
    ⟨binding, -, -, heq⟩ | ⟨status, heq⟩ | ⟨binding, status, hbinding, hdead, heq⟩
  · rw [heq]
  · rw [heq]
  · rw [heq]
    exact onlineSession_eraseBindingLocked hbinding hdead _ other

theorem onlineSession_getUserBySession (table : Sessions) (manager : SessionManager)
    (sessionId other : UInt64) :
    (getUserBySession table manager sessionId).2.onlineSession table other =
      manager.onlineSession table other := by
  rw [getUserBySession]
  split
  · rfl
  cases hsession : manager.sessions sessionId with
  | none => rfl
  | some userId =>
    cases hbinding : manager.users userId with
    | none => simp [onlineSession, getUserBySession.eraseStale, hbinding]
    | some binding =>
      by_cases hstale : binding.sessionId ≠ sessionId
      · simp [hstale, onlineSession, getUserBySession.eraseStale, hbinding]
      · cases hlife : (table binding.session).life with
        | live => simp [hstale, hlife, lock, closed, hbinding]
        | closed =>
          have hdead : (table binding.session).life ≠ .live := by simp [hlife]
          simpa [hbinding, hstale, hlife, lock, closed] using
            onlineSession_eraseBindingLocked hbinding hdead sessionId other
        | expired =>
          have hdead : (table binding.session).life ≠ .live := by simp [hlife]
          simpa [hbinding, hstale, hlife, lock] using
            onlineSession_eraseBindingLocked hbinding hdead sessionId other

end SessionManager

end LiteIM
