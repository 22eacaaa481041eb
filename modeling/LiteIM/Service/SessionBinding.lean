/-
# The binding of users to sessions

The two tables of the session manager are edited by six calls, some of which erase
as a side effect of a lookup. Every call keeps them mutually inverse, so that a user
has at most one session and a session at most one user, in every world that calls
and closing sessions lead to.
-/

import LiteIM.Foundation.PartialInverse
import LiteIM.Service.SessionManager
import Mathlib.Logic.Relation

namespace LiteIM.SessionManager

open Foundation SessionManager Sessions Function

/-- The two tables are mutually inverse, a binding's weak pointer is to the session
whose id it records, and no id in them is 0. -/
structure OneToOne (manager : SessionManager) : Prop where
  inverse : PartialInverse manager.boundSession manager.sessions
  named : ∀ userId binding, manager.users userId = some binding →
    binding.session.id = binding.sessionId
  positive : ∀ userId binding, manager.users userId = some binding →
    userId ≠ 0 ∧ binding.sessionId ≠ 0

variable {manager : SessionManager} {userId : UInt64}

theorem OneToOne.boundSession_eq (hone : manager.OneToOne) {binding : UserBinding}
    (hbinding : manager.users userId = some binding) :
    manager.boundSession userId = some binding.session.id :=
  boundSession_eq_some_iff.mpr ⟨binding, hbinding, (hone.named userId binding hbinding).symm⟩

/-- With tables in step no session binding is stale: a lookup by session returns
the user if the session is live, and erases the binding if it is not. -/
theorem OneToOne.getUserBySession_cases (hone : manager.OneToOne) (table : Sessions)
    (sessionId : UInt64) :
    (∃ userId binding, manager.users userId = some binding ∧ binding.sessionId = sessionId ∧
      (table binding.session).life = .live ∧
      getUserBySession table manager sessionId = (.ok userId, manager)) ∨
    ((sessionId = 0 ∨ manager.sessions sessionId = none) ∧
      ∃ status, getUserBySession table manager sessionId = (.error status, manager)) ∨
    (∃ userId binding status, manager.users userId = some binding ∧
      binding.sessionId = sessionId ∧ (table binding.session).life ≠ .live ∧
      status.code = .notFound ∧
      getUserBySession table manager sessionId =
        (.error status, manager.eraseBindingLocked userId sessionId)) := by
  by_cases hzero : sessionId = 0
  · exact Or.inr (Or.inl ⟨Or.inl hzero, _, by rw [getUserBySession, if_pos hzero]; rfl⟩)
  · rw [getUserBySession, if_neg hzero]
    cases hsession : manager.sessions sessionId with
    | none => exact Or.inr (Or.inl ⟨Or.inr rfl, _, rfl⟩)
    | some userId =>
      obtain ⟨binding, hbinding, hid⟩ :=
        boundSession_eq_some_iff.mp ((hone.inverse userId sessionId).mpr hsession)
      simp only [hbinding, ne_eq, hid, not_true_eq_false, if_false]
      cases hlife : (table binding.session).life with
      | live =>
        exact Or.inl ⟨userId, binding, hbinding, hid, hlife, by
          simp [lock, closed, hlife]⟩
      | closed =>
        exact Or.inr (Or.inr ⟨userId, binding,
          ⟨.notFound, "session is no longer alive"⟩, hbinding, hid, by simp [hlife], rfl, by
          simp [lock, closed, hlife, Status.error]⟩)
      | expired =>
        exact Or.inr (Or.inr ⟨userId, binding,
          ⟨.notFound, "session is no longer alive"⟩, hbinding, hid, by simp [hlife], rfl, by
          simp [lock, hlife, Status.error]⟩)

variable {session : SessionRef} {table : Sessions}

/-- A lookup by the open session of a user finds the user. -/
theorem OneToOne.getUserBySession_of_online (hone : manager.OneToOne)
    (honline : manager.onlineSession table userId = some session) :
    getUserBySession table manager session.id = (.ok userId, manager) := by
  obtain ⟨binding, hbinding, rfl, hlive⟩ := onlineSession_eq_some_iff.mp honline
  have hid := (hone.positive userId binding hbinding).2
  have hsession := (hone.inverse userId binding.sessionId).mp
    (boundSession_eq_some_iff.mpr ⟨binding, hbinding, rfl⟩)
  rw [hone.named userId binding hbinding]
  simp [getUserBySession, hid, hsession, hbinding, lock, closed, hlive]

theorem oneToOne_empty : OneToOne {} where
  inverse := PartialInverse.empty
  named _ _ hbinding := by simp at hbinding
  positive _ _ hbinding := by simp at hbinding

theorem boundSession_eraseBindingLocked (manager : SessionManager) (userId sessionId : UInt64) :
    (manager.eraseBindingLocked userId sessionId).boundSession =
      update manager.boundSession userId none := by
  funext other
  by_cases hsame : other = userId
  · simp [boundSession, eraseBindingLocked, hsame]
  · simp [boundSession, eraseBindingLocked, hsame]

variable {sessionId : UInt64}

/-- Erasing the pair of a binding keeps the tables in step. -/
theorem OneToOne.eraseBindingLocked (hone : manager.OneToOne)
    (hbound : manager.boundSession userId = some sessionId) :
    (manager.eraseBindingLocked userId sessionId).OneToOne where
  inverse := by
    rw [boundSession_eraseBindingLocked]
    exact hone.inverse.erase hbound
  named other binding hbinding :=
    hone.named other binding (users_of_eraseBindingLocked hbinding)
  positive other binding hbinding :=
    hone.positive other binding (users_of_eraseBindingLocked hbinding)

theorem boundSession_rebind (manager : SessionManager) (userId : UInt64) (session : SessionRef) :
    (manager.rebind userId session).boundSession =
      update manager.boundSession userId (some session.id) := by
  funext other
  by_cases hsame : other = userId
  · simp [boundSession, rebind, hsame]
  · simp [boundSession, rebind, hsame]

/-- Binding a user to a session that is free, or its own, keeps the tables in step:
the pair of an older binding is dropped before the new pair is added. -/
theorem OneToOne.rebind (hone : manager.OneToOne) (huser : userId ≠ 0) (hid : session.id ≠ 0)
    (hfree : ∀ other, manager.sessions session.id = some other → other = userId) :
    (manager.rebind userId session).OneToOne where
  inverse := by
    rw [boundSession_rebind]
    cases hbinding : manager.users userId with
    | none =>
      have hbound : manager.boundSession userId = none := by simp [boundSession, hbinding]
      have hsession : manager.sessions session.id = none := by
        cases hsession : manager.sessions session.id with
        | none => rfl
        | some other =>
          obtain rfl := hfree other hsession
          simp [(hone.inverse other session.id).mpr hsession] at hbound
      simpa [SessionManager.rebind, hbinding] using hone.inverse.insert hbound hsession
    | some binding =>
      have hbound : manager.boundSession userId = some binding.sessionId := by
        simp [boundSession, hbinding]
      have hreleased : update manager.sessions binding.sessionId none session.id =
          none := by
        by_cases hsame : session.id = binding.sessionId
        · simp [hsame]
        · rw [update_of_ne hsame]
          cases hsession : manager.sessions session.id with
          | none => rfl
          | some other =>
            obtain rfl := hfree other hsession
            rw [(hone.inverse other session.id).mpr hsession] at hbound
            exact (hsame (Option.some.inj hbound)).elim
      have hinserted := (hone.inverse.erase hbound).insert (update_self userId _ _)
        hreleased
      simpa [SessionManager.rebind, hbinding] using hinserted
  named := by
    intro other binding hbinding
    by_cases hsame : other = userId
    · simp only [SessionManager.rebind, hsame, update_self, Option.some.injEq] at hbinding
      rw [← hbinding]
    · simp only [SessionManager.rebind, update_of_ne hsame] at hbinding
      exact hone.named other binding hbinding
  positive := by
    intro other binding hbinding
    by_cases hsame : other = userId
    · simp only [SessionManager.rebind, hsame, update_self, Option.some.injEq] at hbinding
      rw [hsame, ← hbinding]
      exact ⟨huser, hid⟩
    · simp only [SessionManager.rebind, update_of_ne hsame] at hbinding
      exact hone.positive other binding hbinding

/-! ## Runs -/

/-- The manager and the sessions its bindings point to. -/
structure World where
  manager : SessionManager
  table : Sessions

/-- One call, or something that happens to the sessions. A session may close or
expire at any point, also between the points at which `bindUser` looks. -/
inductive Step : World → World → Prop where
  | sessions {manager : SessionManager} {table later : Sessions} (hlater : table.Later later) :
      Step ⟨manager, table⟩ ⟨manager, later⟩
  | bindUser {manager : SessionManager} {checked locked closing : Sessions}
      (userId : UInt64) (session : Option SessionRef)
      (hlocked : checked.Later locked) (hclosing : locked.Later closing) :
      Step ⟨manager, checked⟩
        ⟨(bindUser checked locked closing manager userId session).2.1,
          (bindUser checked locked closing manager userId session).2.2⟩
  | unbindUser {manager : SessionManager} {table : Sessions} (userId sessionId : UInt64) :
      Step ⟨manager, table⟩ ⟨(unbindUser manager userId sessionId).2, table⟩
  | getSessionByUser {manager : SessionManager} {table : Sessions} (userId : UInt64) :
      Step ⟨manager, table⟩ ⟨(getSessionByUser table manager userId).2, table⟩
  | getUserBySession {manager : SessionManager} {table : Sessions} (sessionId : UInt64) :
      Step ⟨manager, table⟩ ⟨(getUserBySession table manager sessionId).2, table⟩
  | getBoundUserBySession {manager : SessionManager} {table : Sessions} (sessionId : UInt64) :
      Step ⟨manager, table⟩ ⟨manager, table⟩

/-- The worlds reached from an empty manager. -/
def Reachable (world : World) : Prop :=
  ∃ table, Relation.ReflTransGen Step ⟨{}, table⟩ world

theorem OneToOne.bindUser (hone : manager.OneToOne) (checked locked closing : Sessions)
    (userId : UInt64) (session : Option SessionRef) :
    (bindUser checked locked closing manager userId session).2.1.OneToOne := by
  cases hresult : (SessionManager.bindUser checked locked closing manager userId session).1 with
  | error => rwa [bindUser_error hresult]
  | ok =>
    obtain ⟨found, old, -, huser, hid, -, hlocked, heq⟩ := bindUser_ok hresult
    rw [heq]
    exact hone.rebind huser hid (bindLocked_ok hlocked).2.1

/-- Unbinding a user from its own session removes the binding. -/
theorem OneToOne.unbindUser_of_bound (hone : manager.OneToOne)
    (hbound : manager.boundSession userId = some sessionId) :
    unbindUser manager userId sessionId =
      (.ok true, manager.eraseBindingLocked userId sessionId) := by
  obtain ⟨binding, hbinding, rfl⟩ := boundSession_eq_some_iff.mp hbound
  have hpositive := hone.positive userId binding hbinding
  simp [unbindUser, hpositive.1, hpositive.2, hbinding]

theorem OneToOne.unbindUser (hone : manager.OneToOne) (userId sessionId : UInt64) :
    (unbindUser manager userId sessionId).2.OneToOne := by
  rcases unbindUser_cases manager userId sessionId with
    (⟨status, heq⟩ | ⟨_, heq⟩) | ⟨hbound, heq⟩
  · rwa [heq]
  · rwa [heq]
  · rw [heq]
    exact hone.eraseBindingLocked hbound

theorem OneToOne.getSessionByUser (hone : manager.OneToOne) (table : Sessions) (userId : UInt64) :
    (getSessionByUser table manager userId).2.OneToOne := by
  rcases getSessionByUser_cases table manager userId with
    ⟨_, _, _, heq⟩ | ⟨status, heq⟩ | ⟨binding, status, hbinding, _, heq⟩
  · rwa [heq]
  · rwa [heq]
  · rw [heq]
    exact hone.eraseBindingLocked (by simp [boundSession, hbinding])

theorem OneToOne.getUserBySession (hone : manager.OneToOne) (table : Sessions)
    (sessionId : UInt64) : (getUserBySession table manager sessionId).2.OneToOne := by
  rcases hone.getUserBySession_cases table sessionId with
    ⟨_, _, _, _, _, heq⟩ | ⟨_, status, heq⟩ | ⟨userId, binding, status, hbinding, hid, _, _, heq⟩
  · rwa [heq]
  · rwa [heq]
  · rw [heq]
    exact hone.eraseBindingLocked (by simp [boundSession, hbinding, hid])

theorem OneToOne.step {before after : World} (hone : before.manager.OneToOne)
    (hstep : Step before after) : after.manager.OneToOne := by
  cases hstep with
  | sessions | getBoundUserBySession => exact hone
  | bindUser userId session => exact hone.bindUser _ _ _ userId session
  | unbindUser userId sessionId => exact hone.unbindUser userId sessionId
  | getSessionByUser userId => exact hone.getSessionByUser _ userId
  | getUserBySession sessionId => exact hone.getUserBySession _ sessionId

theorem Reachable.oneToOne {world : World} (hreachable : Reachable world) :
    world.manager.OneToOne := by
  obtain ⟨table, hrun⟩ := hreachable
  induction hrun with
  | refl => exact oneToOne_empty
  | tail _ hstep ih => exact ih.step hstep

/-- After a login elsewhere the older session is gone, closed, or told to close. -/
theorem bindUser_displaced {checked locked closing : Sessions} (hone : manager.OneToOne)
    (hclosing : locked.Later closing) {binding : UserBinding}
    (hbinding : manager.users userId = some binding) (hother : binding.sessionId ≠ session.id)
    (hbind : (bindUser checked locked closing manager userId (some session)).1 = .ok ()) :
    ((bindUser checked locked closing manager userId (some session)).2.2
        binding.session).life ≠ .live ∨
    ((bindUser checked locked closing manager userId (some session)).2.2
        binding.session).closeRequested = true := by
  obtain ⟨found, old, hfound, -, -, -, hlocked, heq⟩ := bindUser_ok hbind
  obtain rfl := Option.some.inj hfound
  have hold := (bindLocked_ok hlocked).2.2 binding hbinding hother
  have hne : binding.session ≠ session := fun hsame => hother (by
    rw [← hone.named userId binding hbinding, hsame])
  rw [heq, hold, lock]
  by_cases hexpired : (locked binding.session).life = .expired
  · left
    simp [hexpired, closeOld, hclosing.expired _ hexpired]
  · by_cases hclosed : closing.closed binding.session = false
    · right
      simp [hexpired, closeOld, hne, hclosed]
    · left
      have hlife : (closing binding.session).life ≠ .live := by
        simpa [closed] using hclosed
      simp [hexpired, closeOld, closed, hlife]

theorem OneToOne.getSessionByUser_ok (hone : manager.OneToOne)
    (hlookup : (SessionManager.getSessionByUser table manager userId).1 = .ok session) :
    (table session).life = .live ∧ manager.sessions session.id = some userId := by
  rcases getSessionByUser_cases table manager userId with
    ⟨binding, hbinding, hlive, heq⟩ | ⟨status, heq⟩ | ⟨_, status, _, _, heq⟩
  · rw [heq] at hlookup
    obtain rfl := Except.ok.inj hlookup
    exact ⟨hlive, (hone.inverse _ _).mp (hone.boundSession_eq hbinding)⟩
  · simp [heq] at hlookup
  · simp [heq] at hlookup

theorem OneToOne.getUserBySession_ok (hone : manager.OneToOne)
    (hlookup : (SessionManager.getUserBySession table manager sessionId).1 = .ok userId) :
    ∃ session : SessionRef, session.id = sessionId ∧ (table session).life = .live ∧
      manager.sessions session.id = some userId := by
  rcases hone.getUserBySession_cases table sessionId with
    ⟨found, binding, hbinding, hid, hlive, heq⟩ | ⟨_, status, heq⟩ |
      ⟨_, _, status, _, _, _, _, heq⟩
  · rw [heq] at hlookup
    obtain rfl := Except.ok.inj hlookup
    exact ⟨binding.session, (hone.named found binding hbinding).trans hid, hlive,
      (hone.inverse _ _).mp (hone.boundSession_eq hbinding)⟩
  · simp [heq] at hlookup
  · simp [heq] at hlookup

/-- Unbinding with a session that is not the user's removes nothing. -/
theorem unbindUser_of_other
    (hother : ∀ binding, manager.users userId = some binding → binding.sessionId ≠ sessionId) :
    (unbindUser manager userId sessionId).2 = manager := by
  rcases unbindUser_cases manager userId sessionId with
    (⟨status, heq⟩ | ⟨_, heq⟩) | ⟨hbound, _⟩
  · rw [heq]
  · rw [heq]
  · obtain ⟨binding, hbinding, hid⟩ := boundSession_eq_some_iff.mp hbound
    exact (hother binding hbinding hid).elim

theorem unbindUser_error {status : Error}
    (hunbind : (unbindUser manager userId sessionId).1 = .error status) :
    (unbindUser manager userId sessionId).2 = manager := by
  rcases unbindUser_cases manager userId sessionId with
    (⟨_, heq⟩ | ⟨_, heq⟩) | ⟨_, heq⟩
  · rw [heq]
  · rw [heq]
  · simp [heq] at hunbind

/-- **One-to-one binding.** In every reachable world the two tables are mutually
inverse; a lookup that succeeds found its session open; unbinding with a session
that is not the user's removes nothing; a failed bind or unbind changes nothing;
and a bind that displaces an older session leaves it gone, closed or told to
close. -/
theorem reachable_binding {world : World} (hreachable : Reachable world) :
    (∀ userId sessionId,
      (∃ binding, world.manager.users userId = some binding ∧ binding.sessionId = sessionId) ↔
        world.manager.sessions sessionId = some userId) ∧
    (∀ userId session,
      (getSessionByUser world.table world.manager userId).1 = .ok session →
      (world.table session).life = .live ∧
      world.manager.sessions session.id = some userId) ∧
    (∀ sessionId userId,
      (getUserBySession world.table world.manager sessionId).1 = .ok userId →
      ∃ session : SessionRef, session.id = sessionId ∧ (world.table session).life = .live ∧
        world.manager.sessions session.id = some userId) ∧
    (∀ userId sessionId,
      (∀ binding, world.manager.users userId = some binding → binding.sessionId ≠ sessionId) →
      (unbindUser world.manager userId sessionId).2 = world.manager) ∧
    (∀ locked closing userId session status,
      (bindUser world.table locked closing world.manager userId session).1 = .error status →
      (bindUser world.table locked closing world.manager userId session).2.1 = world.manager) ∧
    (∀ userId sessionId status,
      (unbindUser world.manager userId sessionId).1 = .error status →
      (unbindUser world.manager userId sessionId).2 = world.manager) ∧
    (∀ locked closing userId (session : SessionRef) binding,
      world.table.Later locked → locked.Later closing →
      world.manager.users userId = some binding → binding.sessionId ≠ session.id →
      (bindUser world.table locked closing world.manager userId (some session)).1 = .ok () →
      ((bindUser world.table locked closing world.manager userId (some session)).2.2
          binding.session).life ≠ .live ∨
      ((bindUser world.table locked closing world.manager userId (some session)).2.2
          binding.session).closeRequested = true) := by
  have hone := hreachable.oneToOne
  refine ⟨?_, ?_, ?_, ?_, ?_, ?_, ?_⟩
  · intro userId sessionId
    rw [← boundSession_eq_some_iff]
    exact hone.inverse userId sessionId
  · exact fun userId session hlookup => hone.getSessionByUser_ok hlookup
  · exact fun sessionId userId hlookup => hone.getUserBySession_ok hlookup
  · exact fun userId sessionId hother => unbindUser_of_other hother
  · intro locked closing userId session status hbind
    rw [bindUser_error hbind]
  · exact fun userId sessionId status hunbind => unbindUser_error hunbind
  · intro locked closing userId session binding _ hclosing hbinding hother hbind
    exact bindUser_displaced hone hclosing hbinding hother hbind

/-- A world in which user 1 logged in on session 7. -/
def loggedIn : World where
  manager := (bindUser (fun _ => {}) (fun _ => {}) (fun _ => {}) {} 1 (some ⟨7⟩)).2.1
  table := (bindUser (fun _ => {}) (fun _ => {}) (fun _ => {}) {} 1 (some ⟨7⟩)).2.2

theorem reachable_loggedIn : Reachable loggedIn :=
  ⟨fun _ => {}, Relation.ReflTransGen.single
    (.bindUser 1 (some ⟨7⟩) (Later.refl _) (Later.refl _))⟩

/-- When user 1 logs in again on session 8, session 7 is told to close. -/
theorem reachable_binding_secondLogin :
    loggedIn.manager.sessions 7 = some 1 ∧
    (((bindUser loggedIn.table loggedIn.table loggedIn.table loggedIn.manager 1
        (some ⟨8⟩)).2.2 ⟨7⟩).life ≠ .live ∨
      ((bindUser loggedIn.table loggedIn.table loggedIn.table loggedIn.manager 1
        (some ⟨8⟩)).2.2 ⟨7⟩).closeRequested = true) :=
  ⟨by decide, (reachable_binding reachable_loggedIn).2.2.2.2.2.2 loggedIn.table loggedIn.table 1
    ⟨8⟩ ⟨7, ⟨7⟩⟩ (Later.refl _) (Later.refl _) (by decide) (by decide) rfl⟩

end LiteIM.SessionManager
