/-
# Requests

What the handlers of the services have in common: the request the router hands
them, who sent it, and the checks and lookups that more than one of them makes.
A handler fills a response packet; when it ends with an error the router discards
what it filled, so a handler is modelled as a program that returns the response.
-/

import LiteIM.Protocol.Tlv
import LiteIM.Service.World

namespace LiteIM

open Foundation Fallible

/-- What the router hands to a handler; `fields` are those of the packet's body. -/
structure RouterRequest where
  session : Option SessionRef
  packet : Packet
  fields : TlvMap

def kMaxMessageTextBytes : Nat := 8 * 1024
def kMaxClientMessageIdBytes : Nat := 64

def validateMaxBytes (value : Bytes) (maxBytes : Nat) (fieldName : String) : Except Error Unit :=
  if value.length > maxBytes then Status.error .invalidArgument (fieldName ++ " is too long")
  else .ok ()

theorem validateMaxBytes_eq_ok_iff {value : Bytes} {maxBytes : Nat} {fieldName : String}
    {result : Unit} :
    validateMaxBytes value maxBytes fieldName = .ok result ↔ value.length ≤ maxBytes := by
  rw [validateMaxBytes, Status.error]
  split_ifs with hlong
  · simp [Nat.not_le.mpr hlong]
  · simp [Nat.not_lt.mp hlong]

def notLoggedInStatus : Error := ⟨.invalidArgument, "session is not logged in"⟩
def emptyMessageTextStatus : Error := ⟨.invalidArgument, "message text must not be empty"⟩

/-- The checks on `MessageText`. -/
def readMessageText (fields : TlvMap) : Except Error Bytes := do
  let text ← getString fields .messageText
  if text = [] then .error emptyMessageTextStatus
  else do
    validateMaxBytes text kMaxMessageTextBytes "message text"
    .ok text

/-- `currentUserId`, which the chat and the group service each have. -/
def currentUserId (request : RouterRequest) : Service UInt64 :=
  match request.session with
  | none => throw notLoggedInStatus
  | some session => do
      let closed ← Service.closed session
      if closed then throw notLoggedInStatus
      else do
        match ← (Service.getUserBySession session.id).outcome with
        | .ok userId => pure userId
        | .error status =>
          if status.code = .notFound then throw notLoggedInStatus else throw status

/-- Look a user up as a receiver: `NotFound` is an offline user, and other errors
are passed on. -/
def findReceiver (userId : UInt64) : Service (Option SessionRef) := do
  match ← (Service.getSessionByUser userId).outcome with
  | .ok session => pure (some session)
  | .error status => if status.code = .notFound then pure none else throw status

theorem readMessageText_ok {fields : TlvMap} {text : Bytes}
    (hread : readMessageText fields = .ok text) : text.length ≤ kMaxMessageTextBytes := by
  cases hfield : getString fields .messageText with
  | error => simp [readMessageText, hfield, bind, Except.bind] at hread
  | ok value =>
    by_cases hempty : value = []
    · simp [readMessageText, hfield, bind, Except.bind, hempty] at hread
    · by_cases hlong : value.length > kMaxMessageTextBytes
      · simp [readMessageText, hfield, bind, Except.bind, hempty, validateMaxBytes, hlong,
          Status.error] at hread
      · have hsame : value = text := by
          simpa [readMessageText, hfield, bind, Except.bind, hempty, validateMaxBytes, hlong]
            using hread
        rw [← hsame]
        exact Nat.not_lt.mp hlong

/-! ## Whom a request is from -/

/-- The user the session of a request is bound to. -/
def World.boundUser (world : World) (request : RouterRequest) : Option UInt64 :=
  request.session.bind fun session =>
    (world.manager.getUserBySession world.sessions session.id).1.toOption

variable {userId : UInt64} {request : RouterRequest}

/-- The lookup returns the bound user and changes neither storage nor cache. -/
theorem getUserBySession_triple (faults : World.Faults) {session : SessionRef}
    (hsession : request.session = some session) (property : Database → Redis → Prop) :
    Program.Triple (World.machine faults)
      (fun world => property world.database world.redis ∧
        world.boundUser request = some userId)
      (Service.getUserBySession session.id).run
      fun result world => property world.database world.redis ∧ result = .ok userId := by
  refine Program.triple_call
    (fun reply world => property world.database world.redis ∧ reply = .ok userId) ?_ ?_
  · rintro world reply after ⟨hproperty, hbound⟩ hanswer
    cases hanswer
    rw [World.boundUser, hsession, Option.bind_some] at hbound
    refine ⟨hproperty, ?_⟩
    show (world.manager.getUserBySession world.sessions session.id).1 = .ok userId
    cases hfound : (world.manager.getUserBySession world.sessions session.id).1 with
    | ok =>
      rw [hfound] at hbound
      exact congrArg Except.ok (Option.some.inj hbound)
    | error =>
      rw [hfound] at hbound
      cases hbound
  · exact fun reply => Program.triple_ret fun _ => id

/-- The lookup with its errors, in which the services' `currentUserId` end. -/
theorem lookupUser_triple (faults : World.Faults) {session : SessionRef}
    (hsession : request.session = some session) (property : Database → Redis → Prop) :
    Program.Triple (World.machine faults)
      (fun world => property world.database world.redis ∧
        world.boundUser request = some userId)
      (do
        match ← (Service.getUserBySession session.id).outcome with
        | .ok userId => pure userId
        | .error status =>
          if status.code = .notFound then throw notLoggedInStatus else throw status :
        Service UInt64).run
      fun result world => property world.database world.redis ∧ result = .ok userId := by
  refine triple_outcome_bind _ (getUserBySession_triple faults hsession property) ?_
  intro result
  cases result with
  | ok => exact triple_pure fun _ => id
  | error => exact fun world trace value last hpre => nomatch hpre.2

/-- `currentUserId` returns the bound user, or refuses a closed session. -/
theorem currentUserId_triple (faults : World.Faults) (request : RouterRequest)
    (property : Database → Redis → Prop) : Program.Triple (World.machine faults)
      (fun world => property world.database world.redis ∧
        world.boundUser request = some userId) (currentUserId request).run
      fun result world => property world.database world.redis ∧
        ∀ value, result = .ok value → value = userId := by
  cases hsession : request.session with
  | none =>
    simp only [currentUserId, hsession]
    exact triple_throw fun world hpre => ⟨hpre.1, by simp⟩
  | some =>
    simp only [currentUserId, hsession]
    refine triple_bind (fun _ world => property world.database world.redis ∧
      world.boundUser request = some userId) ?_ ?_
    · refine Program.triple_call (fun _ world => property world.database world.redis ∧
        world.boundUser request = some userId) ?_ fun reply => Program.triple_ret fun _ => id
      rintro world reply after hpre hanswer
      cases hanswer
      exact hpre
    · intro closed
      cases closed with
      | true => exact triple_throw fun world hpre => ⟨hpre.1, by simp⟩
      | false =>
        refine (lookupUser_triple faults hsession property).mono (fun _ => id) ?_
        rintro result world ⟨hproperty, rfl⟩
        exact ⟨hproperty, fun value hvalue => (Except.ok.inj hvalue).symm⟩

/-! ## What they do, whatever they are answered -/

/-- The user that the session of the request was found bound to. -/
def RouterRequest.ActsFor (request : RouterRequest) (history : List (Event services))
    (userId : UInt64) : Prop :=
  ∃ session, request.session = some session ∧
    ⟨.session (.getUserBySession session.id), .ok userId⟩ ∈ history

theorem RouterRequest.ActsFor.mono {history later : List (Event services)}
    (hacts : request.ActsFor history userId) (hbegins : history <+: later) :
    request.ActsFor later userId := by
  obtain ⟨session, hsession, hmem⟩ := hacts
  exact ⟨session, hsession, hbegins.subset hmem⟩

section Follows

variable {justified : List (Event services) → Event services → Prop}
variable {history : List (Event services)}

/-- The user a handler acts for is the one the session was found bound to. -/
theorem currentUserId_yields (request : RouterRequest)
    (hclosed : ∀ history session reply, justified history ⟨.session (.closed session), reply⟩)
    (huser : ∀ history sessionId reply,
      justified history ⟨.session (.getUserBySession sessionId), reply⟩) :
    Yields justified (fun later userId => ∃ session, request.session = some session ∧
      ⟨.session (.getUserBySession session.id), .ok userId⟩ ∈ later)
      history (currentUserId request) := by
  cases hsession : request.session with
  | none => simp [currentUserId, hsession]
  | some session =>
    simp only [currentUserId, hsession]
    apply yields_bind (fun _ _ => True)
    · exact fun reply => ⟨hclosed _ _ reply, fun _ _ => trivial⟩
    · intro later closed _ _
      cases closed with
      | true => exact yields_throw _ _
      | false =>
        apply yields_outcome_bind (fun after result =>
          after = later ++ [⟨.session (.getUserBySession session.id), result⟩])
        · exact fun reply => ⟨huser _ _ reply, rfl⟩
        · intro after result _ hafter
          cases result with
          | ok => simp [hafter]
          | error status => by_cases hcode : status.code = .notFound <;> simp [hcode]

/-- How a receiver was looked up. -/
def Found (userId : UInt64) (history : List (Event services)) : Option SessionRef → Prop
  | some session => ⟨.session (.getSessionByUser userId), .ok session⟩ ∈ history
  | none => ∃ status : Error, status.code = .notFound ∧
      ⟨.session (.getSessionByUser userId), .error status⟩ ∈ history

theorem Found.mono {later : List (Event services)} {receiver : Option SessionRef}
    (hfound : Found userId history receiver) (hbegins : history <+: later) :
    Found userId later receiver := by
  cases receiver with
  | some => exact hbegins.subset hfound
  | none =>
    obtain ⟨status, hcode, hmem⟩ := hfound
    exact ⟨status, hcode, hbegins.subset hmem⟩

theorem findReceiver_yields (userId : UInt64)
    (hlookup : ∀ history reply, justified history ⟨.session (.getSessionByUser userId), reply⟩) :
    Yields justified (Found userId) history (findReceiver userId) := by
  apply yields_outcome_bind
    (fun later result => later = history ++ [⟨.session (.getSessionByUser userId), result⟩])
  · exact fun reply => ⟨hlookup _ reply, rfl⟩
  · intro later result _ hlater
    subst hlater
    cases result with
    | ok => exact yields_pure.mpr (by simp [Found])
    | error status =>
      by_cases hcode : status.code = .notFound
      · simp only [hcode, if_true, yields_pure]
        exact ⟨status, hcode, by simp⟩
      · simp [hcode]

end Follows

end LiteIM
