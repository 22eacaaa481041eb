/-
# Who is online

`OnlineService` keeps two records of a login: the binding in the session manager
and an online record in Redis. Each of its requests is a program that edits them by
separate calls; a bind writes the Redis record before the binding, an unbind
removes the binding before the record.
-/

import LiteIM.Service.World

namespace LiteIM

open Foundation Fallible Service

/-- The constructor throws unless these hold. -/
structure OnlineService where
  serverId : Bytes
  /-- In seconds. -/
  onlineTtl : Nat
  serverId_ne : serverId ≠ []
  onlineTtl_pos : 0 < onlineTtl

namespace OnlineService

def validateSession (userId : UInt64) (session : Option SessionRef) : Service SessionRef :=
  if userId = 0 then throw ⟨.invalidArgument, "user id must be positive"⟩
  else
    match session with
    | none => throw ⟨.invalidArgument, "session must not be null"⟩
    | some session =>
      if session.id = 0 then throw ⟨.invalidArgument, "session id must be positive"⟩
      else do
        let closed ← closed session
        if closed then throw ⟨.invalidArgument, "session is closed"⟩ else pure session

/-- A session is bound to one user only. -/
def checkBound (userId : UInt64) : Except Error UInt64 → Except Error Unit
  | .ok bound =>
    if bound ≠ userId then
      Status.error .alreadyExists "session is already bound to another user"
    else .ok ()
  | .error status => if status.code ≠ .notFound then .error status else .ok ()

/-- The end of `bindUser`: write the online record, then the binding. If there is
no binding, the record is taken back. -/
def announce (service : OnlineService) (userId : UInt64) (session : SessionRef) :
    Service Unit := do
  let lastActiveTimeMs ← lastActiveTimeMilliseconds session
  setUserOnline
    { userId, sessionId := session.id, serverId := service.serverId, lastActiveTimeMs }
    service.onlineTtl
  match ← (bindUser userId (some session)).outcome with
  | .ok _ => pure ()
  | .error status => do
      let _ ← (setUserOffline userId).outcome
      throw status

def bindUser (service : OnlineService) (userId : UInt64) (session : Option SessionRef) :
    Service Unit := do
  let session ← validateSession userId session
  let bound ← (getUserBySession session.id).outcome
  Fallible.ofExcept (checkBound userId bound)
  service.announce userId session

/-- Only the session that the user is bound to takes the user offline. -/
def unbindUser (userId sessionId : UInt64) : Service Unit := do
  let removed ← Service.unbindUser userId sessionId
  if removed then Service.setUserOffline userId else pure ()

def unbindSession (sessionId : UInt64) : Service Unit := do
  match ← (getBoundUserBySession sessionId).outcome with
  | .ok userId => unbindUser userId sessionId
  | .error status => if status.code = .notFound then pure () else throw status

def refreshUserOnline (service : OnlineService) (userId sessionId : UInt64) : Service Unit := do
  let boundUserId ← getUserBySession sessionId
  if boundUserId ≠ userId then throw ⟨.notFound, "session is not bound to this user"⟩
  else Service.refreshUserOnline userId service.onlineTtl

def getSessionByUser (userId : UInt64) : Service SessionRef := Service.getSessionByUser userId

def getUserBySession (sessionId : UInt64) : Service UInt64 := Service.getUserBySession sessionId

/-! ## The calls that the requests make -/

section Follows

variable {justified : List (Event services) → Event services → Prop}
variable {history : List (Event services)} {userId : UInt64} {session : Option SessionRef}

/-- The calls of `bindUser`. -/
def Binds (userId : UInt64) (session : Option SessionRef) : Call → Prop
  | .session (.closed _) => True
  | .session (.getUserBySession _) => True
  | .session (.lastActiveTimeMilliseconds _) => True
  | .session (.bindUser other bound) => other = userId ∧ bound = session
  | .cache (.setUserOnline _ _) => True
  | .cache (.setUserOffline _) => True
  | _ => False

theorem validateSession_yields
    (hjustified : ∀ past call reply, history <+: past → Binds userId session call →
      justified past ⟨call, reply⟩) :
    Yields justified (fun _ found => session = some found) history
      (validateSession userId session) := by
  by_cases hzero : userId = 0
  · simp [validateSession, hzero]
  · cases session with
    | none => simp [validateSession, hzero]
    | some found =>
      by_cases hid : found.id = 0
      · simp [validateSession, hzero, hid]
      · simp only [validateSession, if_neg hzero, if_neg hid]
        apply yields_bind (fun _ _ => True)
        · exact fun reply => ⟨hjustified _ _ _ List.prefix_rfl trivial, fun _ _ => trivial⟩
        · intro later closed _ _
          cases closed with
          | true => exact yields_throw _ _
          | false => exact yields_pure.mpr rfl

theorem announce_yields (service : OnlineService) {found : SessionRef}
    (hjustified : ∀ past call reply, history <+: past → Binds userId (some found) call →
      justified past ⟨call, reply⟩) :
    Yields justified (fun _ _ => True) history (service.announce userId found) := by
  apply yields_bind (fun _ _ => True)
  · exact fun reply => ⟨hjustified _ _ _ List.prefix_rfl trivial, fun _ _ => trivial⟩
  intro afterTime lastActiveTimeMs htime _
  apply yields_bind (fun _ _ => True)
  · exact fun reply => ⟨hjustified _ _ _ htime trivial, fun _ _ => trivial⟩
  intro afterOnline _ honline _
  have hbegins := htime.trans honline
  apply yields_outcome_bind (fun _ _ => True)
  · exact fun reply => ⟨hjustified _ _ _ hbegins ⟨rfl, rfl⟩, trivial⟩
  intro afterBind result hbind _
  cases result with
  | ok => exact yields_pure.mpr trivial
  | error =>
    apply yields_outcome_bind (fun _ _ => True)
    · exact fun reply => ⟨hjustified _ _ _ (hbegins.trans hbind) trivial, trivial⟩
    · exact fun _ _ _ _ => yields_throw _ _

theorem bindUser_yields (service : OnlineService)
    (hjustified : ∀ past call reply, history <+: past → Binds userId session call →
      justified past ⟨call, reply⟩) :
    Yields justified (fun _ _ => True) history (service.bindUser userId session) := by
  apply yields_bind _ (validateSession_yields hjustified)
  rintro afterCheck found hcheck rfl
  apply yields_outcome_bind (fun _ _ => True)
  · exact fun reply => ⟨hjustified _ _ _ hcheck trivial, trivial⟩
  intro afterLookup bound hlookup _
  apply yields_ofExcept_bind
  intro _ _
  apply announce_yields
  intro past call reply hbegins
  exact hjustified past call reply ((hcheck.trans hlookup).trans hbegins)

/-- The calls of `unbindSession`. -/
def Unbinds : Call → Prop
  | .session (.getBoundUserBySession _) => True
  | .session (.unbindUser _ _) => True
  | .cache (.setUserOffline _) => True
  | _ => False

theorem unbindSession_yields (sessionId : UInt64)
    (hjustified : ∀ past call reply, Unbinds call → justified past ⟨call, reply⟩) :
    Yields justified (fun _ _ => True) history (unbindSession sessionId) := by
  apply yields_outcome_bind (fun _ _ => True)
  · exact fun reply => ⟨hjustified _ _ _ trivial, trivial⟩
  intro afterLookup bound _ _
  cases bound with
  | error status => by_cases hcode : status.code = .notFound <;> simp [hcode]
  | ok =>
    apply yields_bind (fun _ _ => True)
    · exact fun reply => ⟨hjustified _ _ _ trivial, fun _ _ => trivial⟩
    intro afterUnbind removed _ _
    cases removed with
    | true => exact fun reply => ⟨hjustified _ _ _ trivial, fun _ _ => trivial⟩
    | false => exact yields_pure.mpr trivial

end Follows

end OnlineService

end LiteIM
