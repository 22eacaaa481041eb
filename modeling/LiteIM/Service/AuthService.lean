/-
# Accounts and logins

`AuthService`: registering an account, logging in on a session, and logging out. What is
outside of the program is a parameter here: the address of a session's peer, what OpenSSL
computes from a password and a salt, and the salt it draws for a new account.

A login is checked by the limiter first. Then the account is looked up, the password is
hashed and compared, and a failure is recorded; only after a match is the session bound.
`Justified` says this of the calls of a login, whatever they are answered.
-/

import LiteIM.Service.OnlineService
import LiteIM.Service.Request

namespace LiteIM

open Foundation Fallible Program Service List Except OnlineService

def kMaxUsernameBytes : Nat := 64
def kMaxNicknameBytes : Nat := 64
def kMaxPasswordBytes : Nat := 128

/-- The constructor throws unless these hold. -/
structure AuthService where
  onlineService : OnlineService
  maxLoginFailures : UInt32 := 3
  /-- In seconds. -/
  loginFailureTtl : Nat := 300
  /-- `"unknown"`. -/
  defaultRemoteIp : Bytes := [0x75, 0x6E, 0x6B, 0x6E, 0x6F, 0x77, 0x6E]
  maxLoginFailures_pos : 0 < maxLoginFailures := by decide
  loginFailureTtl_pos : 0 < loginFailureTtl := by decide
  defaultRemoteIp_ne : defaultRemoteIp ≠ [] := by decide

namespace AuthService

/-- What a request meets outside of the program. -/
structure Environment where
  peerIp : SessionRef → Bytes
  hashPassword : Bytes → Bytes → Except Error Bytes

def invalidCredentialsStatus : Error := ⟨.invalidArgument, "invalid username or password"⟩
def loginLimitedStatus : Error := ⟨.invalidArgument, "too many login failures"⟩
def emptyFieldStatus (fieldName : String) : Error :=
  ⟨.invalidArgument, fieldName ++ " must not be empty"⟩

/-- The bytes that differ are collected, so the time does not depend on where they are. -/
def secureEquals (lhs rhs : Bytes) : Bool :=
  if lhs.length ≠ rhs.length then false
  else (zipWith (fun left right => left ^^^ right) lhs rhs).foldl
    (fun diff byte => diff ||| byte) 0 = 0

/-! ## The fields of a request -/

def requiredString (fields : TlvMap) (type : TlvType) (fieldName : String) :
    Except Error Bytes := do
  let value ← getString fields type
  if value = [] then .error (emptyFieldStatus fieldName) else .ok value

/-- A required text with the check of its length. -/
def requiredText (fields : TlvMap) (type : TlvType) (fieldName : String) (maxBytes : Nat) :
    Except Error Bytes := do
  let value ← requiredString fields type fieldName
  validateMaxBytes value maxBytes fieldName
  .ok value

def optionalNickname (fields : TlvMap) (username : Bytes) : Except Error Bytes :=
  match fields .nickname with
  | none => .ok username
  | some [] => .ok username
  | some _ => requiredString fields .nickname "nickname"

def readNickname (fields : TlvMap) (username : Bytes) : Except Error Bytes := do
  let nickname ← optionalNickname fields username
  validateMaxBytes nickname kMaxNicknameBytes "nickname"
  .ok nickname

structure Credentials where
  username : Bytes
  password : Bytes
  deriving DecidableEq, Repr

/-- The checks that registering and logging in begin with. -/
def readCredentials (fields : TlvMap) : Except Error Credentials := do
  let username ← requiredText fields .username "username" kMaxUsernameBytes
  let password ← requiredText fields .password "password" kMaxPasswordBytes
  .ok { username, password }

def remoteIpForRequest (service : AuthService) (environment : Environment)
    (request : RouterRequest) : Bytes :=
  match request.session with
  | none => service.defaultRemoteIp
  | some session =>
    if environment.peerIp session = [] then service.defaultRemoteIp
    else environment.peerIp session

def loginKey (service : AuthService) (environment : Environment) (request : RouterRequest)
    (username : Bytes) : LoginAttemptKey :=
  ⟨username, service.remoteIpForRequest environment request⟩

/-! ## Registering -/

def appendUserFields (user : UserRecord) (body : Bytes) : Except Error Bytes := do
  let body ← appendUint64 .userId user.userId body
  let body ← appendString .username user.username body
  appendString .nickname user.nickname body

def registerResponse (request : RouterRequest) (user : UserRecord) : Except Error Packet := do
  let body ← appendUserFields user []
  .ok { header := { msgType := .registerResponse, seqId := request.packet.header.seqId }, body }

/-- `UserDao::createUser`: the new row is read back on another connection. -/
def createUser (request : CreateUserRequest) : Service UserRecord := do
  storage (.insertUser request)
  storage (.findUserByUsername request.username)

/-- The row that a registration asks for. -/
def newUser (environment : Environment) (salt : Except Error Bytes) (fields : TlvMap) :
    Except Error CreateUserRequest := do
  let credentials ← readCredentials fields
  let nickname ← readNickname fields credentials.username
  let passwordSalt ← salt
  let passwordHash ← environment.hashPassword credentials.password passwordSalt
  .ok { username := credentials.username, passwordHash, passwordSalt, nickname }

/-- `salt` is what `generateSalt` returns. -/
def handleRegister (environment : Environment) (salt : Except Error Bytes)
    (request : RouterRequest) : Service Packet := do
  let createRequest ← Fallible.ofExcept (newUser environment salt request.fields)
  let createdUser ← createUser createRequest
  Fallible.ofExcept (registerResponse request createdUser)

/-! ## Logging in -/

/-- The failure is reported only if it could be recorded. -/
def recordLoginFailure {α : Type} (service : AuthService) (key : LoginAttemptKey) :
    Service α := do
  cache (.recordLoginFailure key service.loginFailureTtl)
  throw invalidCredentialsStatus

/-- `bindUser` has refused a request without a session. -/
def loginResponse (request : RouterRequest) (user : UserRecord) : Except Error Packet := do
  let body ← appendUserFields user []
  let body ← appendUint64 .sessionId ((request.session.map SessionRef.id).getD 0) body
  .ok { header := { msgType := .loginResponse, seqId := request.packet.header.seqId }, body }

/-- The end of `handleLogin`, when the password was right. -/
def enter (service : AuthService) (request : RouterRequest) (key : LoginAttemptKey)
    (user : UserRecord) : Service Packet := do
  cache (.clearLoginFailure key)
  service.onlineService.bindUser user.userId request.session
  Fallible.ofExcept (loginResponse request user)

/-- `handleLogin` for an account that was found. -/
def compare (service : AuthService) (environment : Environment) (request : RouterRequest)
    (credentials : Credentials) (user : UserRecord) : Service Packet := do
  let candidateHash ←
    Fallible.ofExcept (environment.hashPassword credentials.password user.passwordSalt)
  let key := service.loginKey environment request credentials.username
  if secureEquals candidateHash user.passwordHash then service.enter request key user
  else service.recordLoginFailure key

/-- `handleLogin` from where the attempt was allowed. -/
def verify (service : AuthService) (environment : Environment) (request : RouterRequest)
    (credentials : Credentials) : Service Packet := do
  match ← (storage (.findUserByUsername credentials.username)).outcome with
  | .error status =>
    if status.code = .notFound then
      service.recordLoginFailure (service.loginKey environment request credentials.username)
    else throw status
  | .ok user => service.compare environment request credentials user

def handleLogin (service : AuthService) (environment : Environment) (request : RouterRequest) :
    Service Packet := do
  let credentials ← Fallible.ofExcept (readCredentials request.fields)
  let allowed ← cache (.allowLoginAttempt
    (service.loginKey environment request credentials.username) service.maxLoginFailures.toNat)
  if allowed then service.verify environment request credentials else throw loginLimitedStatus

/-! ## Logging out -/

def logoutResponse (request : RouterRequest) (session : SessionRef) : Except Error Packet := do
  let body ← appendUint64 .sessionId session.id []
  .ok { header := { msgType := .logoutResponse, seqId := request.packet.header.seqId }, body }

def handleLogout (request : RouterRequest) : Service Packet :=
  match request.session with
  | none => throw ⟨.invalidArgument, "session must not be null"⟩
  | some session => do
      unbindSession session.id
      Fallible.ofExcept (logoutResponse request session)

/-! ## What the checks establish -/

theorem foldl_or_eq_zero_iff (bytes : Bytes) (diff : UInt8) :
    bytes.foldl (fun diff byte => diff ||| byte) diff = 0 ↔
      diff = 0 ∧ ∀ byte ∈ bytes, byte = 0 := by
  induction bytes generalizing diff with
  | nil => simp
  | cons byte bytes ih => simp [ih, UInt8.or_eq_zero_iff, and_assoc]

/-- The comparison tells strings apart exactly if they differ. -/
theorem secureEquals_iff {lhs rhs : Bytes} : secureEquals lhs rhs = true ↔ lhs = rhs := by
  induction lhs generalizing rhs with
  | nil =>
    cases rhs with
    | nil | cons => simp [secureEquals]
  | cons left lhs ih =>
    cases rhs with
    | nil => simp [secureEquals]
    | cons right rhs =>
      have hrest : secureEquals lhs rhs = true ↔ lhs = rhs := ih
      by_cases hlength : lhs.length = rhs.length
      · simp only [secureEquals, hlength, ne_eq, not_true_eq_false, if_false,
          decide_eq_true_eq, foldl_or_eq_zero_iff, true_and] at hrest
        simp [secureEquals, hlength, foldl_or_eq_zero_iff, hrest]
      · have hne : lhs ≠ rhs := fun hsame => hlength (congrArg length hsame)
        simp [secureEquals, hlength, hne]

variable {fields : TlvMap}

theorem requiredText_ok {type : TlvType} {fieldName : String} {maxBytes : Nat} {value : Bytes}
    (hread : requiredText fields type fieldName maxBytes = .ok value) :
    value ≠ [] ∧ value.length ≤ maxBytes := by
  obtain ⟨found, hfound, hread⟩ := bind_eq_ok_iff.mp hread
  obtain ⟨_, hlength, hread⟩ := bind_eq_ok_iff.mp hread
  obtain rfl := ok.inj hread
  obtain ⟨text, -, hfound⟩ := bind_eq_ok_iff.mp hfound
  by_cases hempty : text = []
  · simp [hempty] at hfound
  · rw [if_neg hempty] at hfound
    rw [← ok.inj hfound] at hlength ⊢
    exact ⟨hempty, validateMaxBytes_eq_ok_iff.mp hlength⟩

theorem readCredentials_ok {credentials : Credentials}
    (hread : readCredentials fields = .ok credentials) :
    credentials.username ≠ [] ∧ credentials.username.length ≤ kMaxUsernameBytes := by
  obtain ⟨username, husername, hread⟩ := bind_eq_ok_iff.mp hread
  obtain ⟨password, -, hread⟩ := bind_eq_ok_iff.mp hread
  rw [← ok.inj hread]
  exact requiredText_ok husername

theorem remoteIpForRequest_ne (service : AuthService) (environment : Environment)
    (request : RouterRequest) : service.remoteIpForRequest environment request ≠ [] := by
  rw [remoteIpForRequest]
  split
  · exact service.defaultRemoteIp_ne
  · split_ifs with hempty
    · exact service.defaultRemoteIp_ne
    · exact hempty

/-- The limiter accepts the key of every login. -/
theorem validateLoginKey_loginKey {service : AuthService} {environment : Environment}
    {request : RouterRequest} {credentials : Credentials}
    (hread : readCredentials request.fields = .ok credentials) :
    LoginRateLimiter.validateLoginKey
      (service.loginKey environment request credentials.username) = .ok () := by
  rw [LoginRateLimiter.validateLoginKey, loginKey, if_neg (readCredentials_ok hread).1,
    if_neg (service.remoteIpForRequest_ne environment request)]

/-! ## A login, whatever it is answered -/

section Login

variable (service : AuthService) (environment : Environment) (request : RouterRequest)
variable (credentials : Credentials)

/-- The attempt was allowed. -/
def allowed : Event services :=
  ⟨.cache (.allowLoginAttempt (service.loginKey environment request credentials.username)
    service.maxLoginFailures.toNat), .ok true⟩

/-- The account that a lookup found. -/
def found (user : UserRecord) : Event services :=
  ⟨.storage (.findUserByUsername credentials.username), .ok user⟩

/-- The password of the request is that of the account. -/
def Matches (user : UserRecord) : Prop :=
  environment.hashPassword credentials.password user.passwordSalt = .ok user.passwordHash

/-- What entitles a login to each of its calls. The first three it makes follow each other
directly. -/
def Entitled (history : List (Event services)) : Event services → Prop
  | ⟨.cache (.allowLoginAttempt key maxFailures), _⟩ =>
    history = [] ∧ key = service.loginKey environment request credentials.username ∧
      maxFailures = service.maxLoginFailures.toNat
  | ⟨.storage (.findUserByUsername username), _⟩ =>
    username = credentials.username ∧
      history = [service.allowed environment request credentials]
  | ⟨.cache (.recordLoginFailure key ttl), _⟩ =>
    key = service.loginKey environment request credentials.username ∧
      ttl = service.loginFailureTtl ∧
      ∃ reply, history = [service.allowed environment request credentials,
        ⟨.storage (.findUserByUsername credentials.username), reply⟩]
  | ⟨.cache (.clearLoginFailure _), _⟩ =>
    ∃ user, found credentials user ∈ history ∧ Matches environment credentials user
  | ⟨.session (.bindUser userId session), _⟩ =>
    session = request.session ∧ ∃ user, user.userId = userId ∧
      found credentials user ∈ history ∧ Matches environment credentials user
  | ⟨.storage _, _⟩ => False
  | _ => True

/-- A login with its credentials. -/
def Justified (history : List (Event services)) (event : Event services) : Prop :=
  ∃ credentials, readCredentials request.fields = .ok credentials ∧
    Entitled service environment request credentials history event

/-- The limiter's counter was written. -/
def settles : Event services → Bool
  | ⟨.cache (.recordLoginFailure _ _), _⟩ => true
  | ⟨.cache (.clearLoginFailure _), _⟩ => true
  | _ => false

/-- The password was compared. -/
def compares : Event services → Bool
  | ⟨.storage (.findUserByUsername _), .ok user⟩ =>
    (environment.hashPassword credentials.password user.passwordSalt).isOk
  | _ => false

/-- A login that compared its password does not end before it wrote the counter. -/
def Ends (history : List (Event services)) : Prop :=
  history.any (compares environment credentials) = true → history.any settles = true

variable {service environment request credentials}

/-- Recording a failure, directly after the lookup. -/
theorem recordLoginFailure_follows {α : Type} {history : List (Event services)}
    {reply : Except Error UserRecord}
    (hhistory : history = [service.allowed environment request credentials,
      ⟨.storage (.findUserByUsername credentials.username), reply⟩]) :
    Follows (Entitled service environment request credentials)
      (fun later _ => Ends environment credentials later) history
      (service.recordLoginFailure
        (service.loginKey environment request credentials.username) : Service α).run := by
  apply follows_bind
  intro recorded
  refine ⟨⟨rfl, rfl, reply, hhistory⟩, ?_⟩
  cases recorded with
  | ok | error =>
    intro _
    simp [settles]

theorem enter_follows {history : List (Event services)} {user : UserRecord}
    (hfound : found credentials user ∈ history) (hmatches : Matches environment credentials user) :
    Follows (Entitled service environment request credentials)
      (fun later _ => Ends environment credentials later) history
      (service.enter request
        (service.loginKey environment request credentials.username) user).run := by
  apply follows_bind
  intro cleared
  refine ⟨⟨user, hfound, hmatches⟩, ?_⟩
  -- From here on the counter has been written, so that every end is one that may be.
  have hsettled : ∀ later, (history ++ [⟨.cache (.clearLoginFailure
      (service.loginKey environment request credentials.username)), cleared⟩]) <+: later →
      Ends environment credentials later := by
    intro later hbegins _
    rw [any_eq_true]
    exact ⟨_, hbegins.subset (mem_append_right _ (mem_singleton_self _)), rfl⟩
  cases cleared with
  | error => exact hsettled _ prefix_rfl
  | ok =>
    apply follows_bind
    refine Follows.mono (bindUser_yields service.onlineService ?_) ?_
    · intro past call reply hbegins hcall
      cases call with
      | storage => exact hcall.elim
      | cache call => cases call <;> trivial
      | session call =>
        cases call with
        | bindUser =>
          obtain ⟨rfl, rfl⟩ := hcall
          exact ⟨rfl, user, rfl, hbegins.subset (mem_append_left _ hfound), hmatches⟩
        | _ => trivial
    · intro later result hbegins _
      cases result with
      | ok | error => exact hsettled later hbegins

theorem compare_follows {user : UserRecord} :
    Follows (Entitled service environment request credentials)
      (fun later _ => Ends environment credentials later)
      [service.allowed environment request credentials, found credentials user]
      (service.compare environment request credentials user).run := by
  rw [compare]
  cases hhash : environment.hashPassword credentials.password user.passwordSalt with
  | error =>
    intro hcompares
    simp [allowed, found, compares, hhash, Except.isOk, Except.toBool] at hcompares
  | ok candidateHash =>
    by_cases hsame : secureEquals candidateHash user.passwordHash = true
    · have hmatches : Matches environment credentials user := by
        rw [Matches, hhash, secureEquals_iff.mp hsame]
      rw [run_ofExcept_ok_bind, if_pos hsame]
      exact enter_follows (mem_cons_of_mem _ (mem_singleton_self _)) hmatches
    · rw [run_ofExcept_ok_bind, if_neg hsame]
      exact recordLoginFailure_follows rfl

theorem verify_follows :
    Follows (Entitled service environment request credentials)
      (fun later _ => Ends environment credentials later)
      [service.allowed environment request credentials]
      (service.verify environment request credentials).run := by
  rw [verify, run_outcome_bind]
  apply Follows.bind
  intro reply
  refine ⟨⟨rfl, rfl⟩, ?_⟩
  cases reply with
  | ok => exact compare_follows
  | error status =>
    show Follows _ _ _ (ExceptT.run (if status.code = .notFound then _ else _))
    by_cases hcode : status.code = .notFound
    · rw [if_pos hcode]
      exact recordLoginFailure_follows rfl
    · rw [if_neg hcode]
      intro hcompares
      simp [allowed, compares] at hcompares

variable (service environment request)

/-- The calls of a login and how it ends, whatever it is answered. -/
theorem handleLogin_follows :
    Follows (Justified service environment request)
      (fun later _ => ∀ credentials, readCredentials request.fields = .ok credentials →
        Ends environment credentials later)
      [] (service.handleLogin environment request).run := by
  rw [handleLogin]
  cases hread : readCredentials request.fields with
  | error => exact fun credentials hcredentials => nomatch hcredentials
  | ok credentials =>
    have hfollows : Follows (Entitled service environment request credentials)
        (fun later _ => Ends environment credentials later) []
        (do
          let allowed ← cache (.allowLoginAttempt
            (service.loginKey environment request credentials.username)
            service.maxLoginFailures.toNat)
          if allowed then service.verify environment request credentials
          else throw loginLimitedStatus : Service Packet).run := by
      apply follows_bind
      intro reply
      refine ⟨⟨rfl, rfl, rfl⟩, ?_⟩
      rcases reply with status | (_ | _)
      · exact fun hcompares => nomatch hcompares
      · exact fun hcompares => nomatch hcompares
      · exact verify_follows
    rw [run_ofExcept_ok_bind]
    apply (hfollows.justify fun history event hentitled => ⟨credentials, hread, hentitled⟩).mono
    intro later result _ hends other hother
    rwa [← ok.inj hother]

end Login

/-! ## The other requests -/

/-- What entitles a registration to each of its calls. -/
def RegisterJustified (environment : Environment) (salt : Except Error Bytes)
    (request : RouterRequest) : Event services → Prop
  | ⟨.storage (.insertUser created), _⟩ => newUser environment salt request.fields = .ok created
  | ⟨.storage (.findUserByUsername _), _⟩ => True
  | _ => False

theorem handleRegister_yields (environment : Environment) (salt : Except Error Bytes)
    (request : RouterRequest) :
    Yields (fun _ => RegisterJustified environment salt request) (fun _ _ => True) []
      (handleRegister environment salt request) := by
  apply yields_ofExcept_bind
  intro createRequest hnew
  apply yields_bind (fun _ _ => True)
  · apply yields_bind (fun _ _ => True)
    · exact fun reply => ⟨hnew, fun _ _ => trivial⟩
    · exact fun _ _ _ _ reply => ⟨trivial, fun _ _ => trivial⟩
  · exact fun _ _ _ _ => yields_ofExcept.mpr fun _ _ => trivial

/-- A new account has a name and a nickname within the limits. -/
theorem newUser_ok {environment : Environment} {salt : Except Error Bytes}
    {created : CreateUserRequest} (hnew : newUser environment salt fields = .ok created) :
    created.username.length ≤ kMaxUsernameBytes ∧
      created.nickname.length ≤ kMaxNicknameBytes := by
  obtain ⟨credentials, hcredentials, hnew⟩ := bind_eq_ok_iff.mp hnew
  obtain ⟨nickname, hnickname, hnew⟩ := bind_eq_ok_iff.mp hnew
  obtain ⟨passwordSalt, -, hnew⟩ := bind_eq_ok_iff.mp hnew
  obtain ⟨passwordHash, -, hnew⟩ := bind_eq_ok_iff.mp hnew
  obtain ⟨chosen, -, hnickname⟩ := bind_eq_ok_iff.mp hnickname
  obtain ⟨_, hlength, hnickname⟩ := bind_eq_ok_iff.mp hnickname
  rw [← ok.inj hnew, ← ok.inj hnickname]
  exact ⟨(readCredentials_ok hcredentials).2, validateMaxBytes_eq_ok_iff.mp hlength⟩

theorem handleLogout_yields (request : RouterRequest) :
    Yields (fun _ event => Unbinds event.call) (fun _ _ => True) []
      (handleLogout request) := by
  cases hsession : request.session with
  | none => simp [handleLogout, hsession]
  | some session =>
    simp only [handleLogout, hsession]
    apply yields_bind _
      (unbindSession_yields session.id fun _ _ _ hcall => hcall)
    exact fun _ _ _ _ => yields_ofExcept.mpr fun _ _ => trivial

end AuthService

end LiteIM
