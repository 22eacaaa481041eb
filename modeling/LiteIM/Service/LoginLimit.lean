/-
# The limit on failed logins

Logins are handled at once, interleaved call by call. Each checks the count of its key first
and adds to it after the password was compared, so the count is a quota that is checked
before it is charged: the logins between the two are pending.

The number of comparisons under one key is bounded by the limit and the number of logins that
are pending at once. An account may be reached under several keys, since the database does
not tell all spellings of a name apart and the limiter does.
-/

import LiteIM.Foundation.Pool
import LiteIM.Foundation.Quota
import LiteIM.Service.AuthService
import LiteIM.Service.ChatDelivery
import Mathlib.Data.Fintype.Basic
import Mathlib.Tactic.FinCases

namespace LiteIM.AuthService

open Foundation Pool World Redis List Finset

/-- The limiter let the attempt through. -/
def passes : Event services → Bool
  | ⟨.cache (.allowLoginAttempt _ _), .ok true⟩ => true
  | _ => false

/-- The account whose row a lookup returned. -/
def accountOf : Event services → Option UInt64
  | ⟨.storage (.findUserByUsername _), .ok user⟩ => some user.userId
  | _ => none

/-- The calls of logins none of which has the right password. -/
def Wrong : Call → Prop
  | .cache (.clearLoginFailure _) => False
  | _ => True

/-- No counter expires, and the accounts stay as they are. -/
structure Undisturbed (world next : World) : Prop where
  failures : ∀ key, next.redis.failures key = world.redis.failures key
  users : next.database.1.users = world.database.1.users
  collation : next.database.1.collation = world.database.1.collation

/-! ## What the calls do to the counters -/

theorem answerCache_failures_le {call : CacheCall} (hwrong : Wrong (.cache call)) (world : World)
    (key : LoginAttemptKey) :
    world.redis.failures key ≤ (world.answerCache call).2.redis.failures key := by
  cases call with
  | setUserOnline session ttl =>
    exact (failures_setUserOnline world.redis key session ttl).ge
  | refreshUserOnline userId ttl =>
    exact (failures_refreshUserOnline world.redis key userId ttl).ge
  | setUserOffline userId => exact (failures_setUserOffline world.redis key userId).ge
  | incrUnread unread delta => exact (failures_incrUnread world.redis key unread delta).ge
  | clearUnread unread => exact (failures_clearUnread world.redis key unread).ge
  | isUserOnline | allowLoginAttempt => exact Nat.le_refl _
  | recordLoginFailure other ttl =>
    exact failures_le_recordLoginFailure world.redis other key ttl
  | clearLoginFailure => exact hwrong.elim

variable {faults : Faults}

/-- As long as no password is right, every count only grows. -/
theorem machine_failures_le {call : Call} {world next : World} {reply : call.Reply}
    (hwrong : Wrong call) (hanswer : machine faults call world reply next)
    (key : LoginAttemptKey) : world.redis.failures key ≤ next.redis.failures key := by
  cases call with
  | session => rw [machine_session_redis hanswer]
  | storage => rw [machine_storage_redis hanswer]
  | cache =>
    rcases machine_next hanswer with rfl | rfl
    · exact Nat.le_refl _
    · exact answerCache_failures_le hwrong world key

/-- Redis answers every call. -/
theorem answered_of_not_cache (hredis : ¬ faults.cache) {call : CacheCall} {world next : World}
    {reply : Except Error call.Result}
    (hanswer : machine faults (.cache call) world reply next) :
    (reply, next) = world.answerCache call := by
  rcases hanswer with hanswer | ⟨hfault, -⟩
  · exact hanswer
  · exact (hredis hfault).elim

/-! ## Logins at once -/

section Logins

variable {ι : Type} (service : AuthService) (environment : Environment)
variable (requests : ι → RouterRequest)

/-- The key that a request is counted under. -/
def keyOf (i : ι) : Option LoginAttemptKey :=
  match readCredentials (requests i).fields with
  | .ok credentials => some (service.loginKey environment (requests i) credentials.username)
  | .error _ => none

/-- A login compared its password with the hash of an account that the predicate holds of. -/
def comparesWith (account : UInt64 → Bool) (i : ι) (history : List (Event services)) : Bool :=
  match readCredentials (requests i).fields with
  | .ok credentials => history.any fun event =>
    compares environment credentials event && (accountOf event).any account
  | .error _ => false

section Reading

variable {service environment requests} {i : ι}

theorem keyOf_eq {credentials : Credentials}
    (hread : readCredentials (requests i).fields = .ok credentials) :
    keyOf service environment requests i =
      some (service.loginKey environment (requests i) credentials.username) := by
  rw [keyOf, hread]

theorem compares_iff {credentials : Credentials} {event : Event services} :
    compares environment credentials event = true ↔
      ∃ username user, event = ⟨.storage (.findUserByUsername username), .ok user⟩ ∧
        (environment.hashPassword credentials.password user.passwordSalt).isOk = true := by
  fun_cases compares environment credentials event with
  | case1 username user =>
    apply Iff.intro
    · intro hhash
      exact ⟨username, user, rfl, hhash⟩
    · rintro ⟨other, found, hevent, hhash⟩
      cases hevent
      exact hhash
  | case2 event hother =>
    apply Iff.intro
    · intro hfalse
      cases hfalse
    · rintro ⟨username, user, hevent, -⟩
      exact (hother username user hevent).elim

/-- A comparison follows a lookup that found the account. -/
theorem comparesWith_iff {account : UInt64 → Bool} {history : List (Event services)} :
    comparesWith environment requests account i history = true ↔
      ∃ credentials username user, readCredentials (requests i).fields = .ok credentials ∧
        ⟨.storage (.findUserByUsername username), .ok user⟩ ∈ history ∧
        (environment.hashPassword credentials.password user.passwordSalt).isOk = true ∧
        account user.userId = true := by
  rw [comparesWith]
  cases hread : readCredentials (requests i).fields with
  | error => simp
  | ok credentials =>
    simp only [any_eq_true, Bool.and_eq_true, compares_iff, Except.ok.injEq]
    apply Iff.intro
    · rintro ⟨event, hmem, ⟨username, user, rfl, hhash⟩, haccount⟩
      exact ⟨credentials, username, user, rfl, hmem, hhash, haccount⟩
    · rintro ⟨credentials, username, user, rfl, hmem, hhash, haccount⟩
      exact ⟨_, hmem, ⟨username, user, rfl, hhash⟩, haccount⟩

end Reading

variable [DecidableEq ι]

def logins (world : World) : Pool services ι (Except Error Packet) World :=
  start (fun i => (service.handleLogin environment (requests i)).run) world

variable [Fintype ι] (pool : Pool services ι (Except Error Packet) World)

/-- The logins that reached the comparison under a key. -/
def compared (key : LoginAttemptKey) : Finset ι :=
  univ.filter fun i => keyOf service environment requests i = some key ∧
    comparesWith environment requests (fun _ => true) i (history pool.log i) = true

/-- The logins that compared their password with the hash of one account. -/
def comparedWith (userId : UInt64) : Finset ι :=
  univ.filter fun i =>
    comparesWith environment requests (fun found => found = userId) i
      (history pool.log i) = true

/-- The counter of a key as a quota: a login is charged when it wrote the counter, and
pending between the check and that. -/
def quotaOf (key : LoginAttemptKey) : Quota ι where
  count := pool.world.redis.failures key
  charged := univ.filter fun i => keyOf service environment requests i = some key ∧
    (history pool.log i).any settles = true
  pending := univ.filter fun i => keyOf service environment requests i = some key ∧
    (history pool.log i).any passes = true ∧
    (history pool.log i).any settles = false ∧ (pool.threads i).running = true

/-- None has the right password, and an attempt is checked while fewer than `width` of its
key are between their check and the count. -/
def AtMost (width : Nat) (pool : Pool services ι (Except Error Packet) World) (_ : ι) :
    Call → Prop
  | .cache (.clearLoginFailure _) => False
  | .cache (.allowLoginAttempt key _) =>
    (quotaOf service environment requests pool key).pending.card < width
  | _ => True

end Logins

/-! ## Every step is one of the quota -/

section Steps

variable {ι : Type} [DecidableEq ι] [Fintype ι] {service : AuthService}
variable {environment : Environment} {requests : ι → RouterRequest}
variable {pool : Pool services ι (Except Error Packet) World} {key : LoginAttemptKey} {i : ι}

theorem mem_charged : i ∈ (quotaOf service environment requests pool key).charged ↔
    keyOf service environment requests i = some key ∧
      (history pool.log i).any settles = true := by
  simp [quotaOf]

theorem mem_pending : i ∈ (quotaOf service environment requests pool key).pending ↔
    keyOf service environment requests i = some key ∧
      (history pool.log i).any passes = true ∧
      (history pool.log i).any settles = false ∧ (pool.threads i).running = true := by
  simp [quotaOf]

variable {event : Event services} {next : Program services (Except Error Packet)} {after : World}

/-- Only the login that made the call may be charged by it. -/
theorem charged_advance_subset :
    (quotaOf service environment requests (pool.advance i event next after) key).charged ⊆
      insert i (quotaOf service environment requests pool key).charged := by
  intro j hmem
  by_cases hsame : j = i
  · exact mem_insert.mpr (Or.inl hsame)
  · rw [mem_charged, history_advance_of_ne _ _ _ _ _ hsame] at hmem
    exact mem_insert_of_mem (mem_charged.mpr hmem)

/-- Only the login that made the call may have become pending by it. -/
theorem pending_advance_subset :
    (quotaOf service environment requests (pool.advance i event next after) key).pending ⊆
      insert i (quotaOf service environment requests pool key).pending := by
  intro j hmem
  by_cases hsame : j = i
  · exact mem_insert.mpr (Or.inl hsame)
  · have hthread : (pool.advance i event next after).threads j = pool.threads j :=
      Function.update_of_ne hsame _ _
    rw [mem_pending, history_advance_of_ne _ _ _ _ _ hsame, hthread] at hmem
    exact mem_insert_of_mem (mem_pending.mpr hmem)

theorem charged_advance_of_not_settles
    (hquiet : keyOf service environment requests i = some key → settles event = false) :
    (quotaOf service environment requests (pool.advance i event next after) key).charged ⊆
      (quotaOf service environment requests pool key).charged := by
  intro j hmem
  rcases mem_insert.mp (charged_advance_subset hmem) with rfl | hold
  · rw [mem_charged, history_advance_self, any_append, any_cons, any_nil,
      Bool.or_false] at hmem
    obtain ⟨hkey, hsettled⟩ := hmem
    rw [hquiet hkey, Bool.or_false] at hsettled
    exact mem_charged.mpr ⟨hkey, hsettled⟩
  · exact hold

theorem pending_advance_of_not_passes (hrunning : (pool.threads i).running = true)
    (hquiet : keyOf service environment requests i = some key → passes event = false) :
    (quotaOf service environment requests (pool.advance i event next after) key).pending ⊆
      (quotaOf service environment requests pool key).pending := by
  intro j hmem
  rcases mem_insert.mp (pending_advance_subset hmem) with rfl | hold
  · rw [mem_pending, history_advance_self, any_append, any_append] at hmem
    obtain ⟨hkey, hpassed, hsettled, -⟩ := hmem
    rw [any_cons, hquiet hkey, any_nil, Bool.or_false, Bool.or_false] at hpassed
    exact mem_pending.mpr ⟨hkey, hpassed, (Bool.or_eq_false_iff.mp hsettled).1, hrunning⟩
  · exact hold

/-- A login that wrote the counter is not pending any more. -/
theorem pending_advance_of_settles (hrunning : (pool.threads i).running = true)
    (hsettles : settles event = true) (hpasses : passes event = false) :
    (quotaOf service environment requests (pool.advance i event next after) key).pending ⊆
      (quotaOf service environment requests pool key).pending.erase i := by
  intro j hmem
  refine mem_erase.mpr ⟨?_, pending_advance_of_not_passes hrunning (fun _ => hpasses) hmem⟩
  rintro rfl
  rw [mem_pending, history_advance_self, any_append, any_append] at hmem
  simp [hsettles] at hmem

/-- The step of a login that neither passes the check of this key nor writes its counter. -/
theorem leave_of_quiet {width : Nat} (hwrong : Wrong event.call)
    (hrunning : (pool.threads i).running = true)
    (hanswer : machine faults event.call pool.world event.reply after)
    (hquiet : keyOf service environment requests i = some key →
      passes event = false ∧ settles event = false) :
    Quota.Step service.maxLoginFailures.toNat width
      (quotaOf service environment requests pool key)
      (quotaOf service environment requests (pool.advance i event next after) key) := by
  apply Quota.Step.leave
  · exact machine_failures_le hwrong hanswer key
  · exact charged_advance_of_not_settles fun hkey => (hquiet hkey).2
  · exact pending_advance_of_not_passes hrunning fun hkey => (hquiet hkey).1

theorem maxLoginFailures_le_maxInteger (service : AuthService) :
    service.maxLoginFailures.toNat ≤ maxInteger :=
  Nat.le_of_lt (Nat.lt_trans service.maxLoginFailures.toNat_lt (by decide))

theorem quotaOf_step {width : Nat} (hredis : ¬ faults.cache) (hwrong : Wrong event.call)
    (hrunning : (pool.threads i).running = true)
    (hwidth : history pool.log i = [] → ∀ key maxFailures,
      event.call = .cache (.allowLoginAttempt key maxFailures) →
      (quotaOf service environment requests pool key).pending.card < width)
    (hjustified : Justified service environment (requests i) (history pool.log i) event)
    (hanswer : machine faults event.call pool.world event.reply after)
    (key : LoginAttemptKey) : Quota.Step service.maxLoginFailures.toNat width
      (quotaOf service environment requests pool key)
      (quotaOf service environment requests (pool.advance i event next after) key) := by
  obtain ⟨credentials, hread, hentitled⟩ := hjustified
  by_cases hkey : keyOf service environment requests i = some key
  · have hown : service.loginKey environment (requests i) credentials.username = key :=
      Option.some.inj ((keyOf_eq hread).symm.trans hkey)
    obtain ⟨call, reply⟩ := event
    cases call with
    | session | storage => exact leave_of_quiet hwrong hrunning hanswer fun _ => ⟨rfl, rfl⟩
    | cache call =>
      have hanswered := answered_of_not_cache hredis hanswer
      cases call with
      | allowLoginAttempt other maxFailures =>
        obtain ⟨hhistory, hother, hmax⟩ := hentitled
        have hthis : other = key := hother.trans hown
        by_cases hpasses : reply = .ok true
        · have hallow : pool.world.redis.allowLoginAttempt other maxFailures = .ok true :=
            (congrArg Prod.fst hanswered).symm.trans hpasses
          have hless := allowLoginAttempt_true hallow
          rw [hthis, hmax] at hless
          apply Quota.Step.enter i hless
          · exact hwidth hhistory key maxFailures (by rw [hthis])
          · exact machine_failures_le hwrong hanswer key
          · exact charged_advance_of_not_settles fun _ => rfl
          · exact pending_advance_subset
        · apply leave_of_quiet hwrong hrunning hanswer
          intro _
          rcases reply with status | (_ | _)
          · exact ⟨rfl, rfl⟩
          · exact ⟨rfl, rfl⟩
          · exact (hpasses rfl).elim
      | recordLoginFailure other ttl =>
        obtain ⟨hother, httl, found, hhistory⟩ := hentitled
        have hthis : other = key := hother.trans hown
        have hvalid : LoginRateLimiter.validateLoginKey key = .ok () := by
          rw [← hown]
          exact validateLoginKey_loginKey hread
        have hafter : after.redis = (pool.world.redis.recordLoginFailure key ttl).2 := by
          rw [← hthis]
          exact congrArg (fun answer => answer.2.redis) hanswered
        apply Quota.Step.charge i
        · rw [mem_pending, hhistory]
          exact ⟨hkey, rfl, rfl, hrunning⟩
        · show pool.world.redis.failures key < after.redis.failures key ∨
            service.maxLoginFailures.toNat ≤ after.redis.failures key
          have hgrows := machine_failures_le hwrong hanswer key
          have httl_pos : 0 < ttl := by
            rw [httl]
            exact service.loginFailureTtl_pos
          rcases failures_recordLoginFailure hvalid httl_pos with hcounts | hmaximum
          · left
            rw [hafter, hcounts]
            exact Nat.lt_succ_self _
          · exact Or.inr ((maxLoginFailures_le_maxInteger service).trans
              (hmaximum.trans hgrows))
        · exact charged_advance_subset
        · exact pending_advance_of_settles hrunning rfl rfl
      | clearLoginFailure => exact hwrong.elim
      | _ => exact leave_of_quiet hwrong hrunning hanswer fun _ => ⟨rfl, rfl⟩
  · exact leave_of_quiet hwrong hrunning hanswer fun hsame => (hkey hsame).elim

end Steps

/-! ## Whole runs -/

section Runs

variable {ι : Type} [DecidableEq ι] [Fintype ι] {service : AuthService}
variable {environment : Environment} {requests : ι → RouterRequest} {faults : Faults}
variable {guard : Pool services ι (Except Error Packet) World → ι → Call → Prop} {width : Nat}
variable {world : World} {last : Pool services ι (Except Error Packet) World}

omit [Fintype ι] in
/-- A login looks up its own user name, after it passed the check. -/
theorem passes_of_lookup (hreaches : Reaches (machine faults) Undisturbed guard
      (logins service environment requests world) last) {i : ι} {username : Bytes}
    {reply : Except Error UserRecord}
    (hlookup : ⟨.storage (.findUserByUsername username), reply⟩ ∈ history last.log i) :
    (history last.log i).any passes = true ∧
      ∃ credentials, readCredentials (requests i).fields = .ok credentials ∧
        username = credentials.username := by
  have hpassed := Reaches.each_history_invariant hreaches
    (fun i => handleLogin_follows service environment (requests i))
    (fun i history => ∀ username reply,
      ⟨.storage (.findUserByUsername username), reply⟩ ∈ history → history.any passes = true ∧
        ∃ credentials, readCredentials (requests i).fields = .ok credentials ∧
          username = credentials.username)
    (fun _ _ _ hnone => nomatch hnone) ?_ i
  · exact hpassed username reply hlookup
  · intro j past event hpast hjustified username reply hmem
    rw [any_append, Bool.or_eq_true]
    rcases mem_append.mp hmem with hold | hnew
    · obtain ⟨hpasses, hown⟩ := hpast username reply hold
      exact ⟨Or.inl hpasses, hown⟩
    · obtain rfl := List.mem_singleton.mp hnew
      obtain ⟨credentials, hread, hname, hhistory⟩ := hjustified
      rw [hhistory]
      exact ⟨Or.inl rfl, credentials, hread, hname⟩

/-- A login that compared its password was charged, or is pending. -/
theorem compared_subset (hreaches : Reaches (machine faults) Undisturbed guard
      (logins service environment requests world) last) (key : LoginAttemptKey) :
    compared service environment requests last key ⊆
      (quotaOf service environment requests last key).charged ∪
        (quotaOf service environment requests last key).pending := by
  intro i hmem
  obtain ⟨hkey, hcompares⟩ := (mem_filter.mp hmem).2
  obtain ⟨credentials, username, user, hread, hlookup, hhash, -⟩ := comparesWith_iff.mp hcompares
  rw [mem_union, mem_charged, mem_pending]
  cases hsettled : (history last.log i).any settles with
  | true => exact Or.inl ⟨hkey, rfl⟩
  | false =>
    refine Or.inr ⟨hkey, (passes_of_lookup hreaches hlookup).1, rfl, ?_⟩
    have hfollows := Reaches.follows hreaches
      (fun i => handleLogin_follows service environment (requests i)) i
    cases hthread : last.threads i with
    | call => rfl
    | ret =>
      -- A login that ended after a comparison had written the counter.
      rw [hthread] at hfollows
      have hcompared : (history last.log i).any (compares environment credentials) =
          true :=
        any_eq_true.mpr ⟨_, hlookup, compares_iff.mpr ⟨username, user, rfl, hhash⟩⟩
      have hends := hfollows credentials hread hcompared
      rw [hsettled] at hends
      cases hends

/-- Nobody was charged yet, and nobody is pending. -/
theorem quotaOf_logins_within (key : LoginAttemptKey) :
    (quotaOf service environment requests (logins service environment requests world) key).Within
      service.maxLoginFailures.toNat width := by
  have hcharged : (quotaOf service environment requests
      (logins service environment requests world) key).charged = ∅ := by
    simp [quotaOf, logins, start, history]
  have hpending : (quotaOf service environment requests
      (logins service environment requests world) key).pending = ∅ := by
    simp [quotaOf, logins, start, history]
  refine ⟨Or.inl ?_, ?_⟩
  · rw [hcharged]
    exact Nat.zero_le _
  · rw [hcharged, hpending]
    exact Nat.zero_le _

section

variable
  (hreaches : Reaches (machine faults) Undisturbed guard (logins service environment
    requests world) last) (hredis : ¬ faults.cache)
  (hwrong : ∀ pool i call, guard pool i call → Wrong call)
  (hwidth : ∀ pool i key maxFailures, guard pool i (.cache (.allowLoginAttempt key maxFailures)) →
    history pool.log i = [] → (quotaOf service environment requests pool key).pending.card <
    width)
include hreaches hredis hwrong hwidth

/-- The counter of every key, in every run in which passwords are wrong and fewer than
`width` logins are pending at each check. -/
theorem quotaOf_within (key : LoginAttemptKey) :
    (quotaOf service environment requests last key).Within service.maxLoginFailures.toNat
      width := by
  apply Reaches.running_invariant_from .refl hreaches
    (fun i => handleLogin_follows service environment (requests i))
    fun pool => (quotaOf service environment requests pool key).Within
      service.maxLoginFailures.toNat width
  · exact quotaOf_logins_within key
  · intro pool i event next after hwithin hrunning hguard hjustified hanswer
    apply hwithin.step
    apply quotaOf_step hredis (hwrong pool i event.call hguard) hrunning ?_ hjustified hanswer
    intro hhistory other maxFailures hcall
    rw [hcall] at hguard
    exact hwidth pool i other maxFailures hguard hhistory
  · intro pool after hwithin hundisturbed
    apply hwithin.step
    exact Quota.Step.leave (hundisturbed.failures key).ge (Subset.refl _)
      (Subset.refl _)

/-- The comparisons under one key exceed the limit by no more than the other logins that are
pending at once. -/
theorem card_compared_le (key : LoginAttemptKey) :
    (compared service environment requests last key).card ≤
      service.maxLoginFailures.toNat - 1 + width := by
  have hwithin := quotaOf_within hreaches hredis hwrong hwidth key
  calc (compared service environment requests last key).card
      ≤ _ := card_le_card (compared_subset hreaches key)
    _ ≤ _ := card_union_le _ _
    _ ≤ service.maxLoginFailures.toNat - 1 + width := hwithin.total

end

/-- However many logins are handled at once, those under one key that reach the comparison
exceed the limit by at most the number of others that can be pending when one is checked. -/
theorem compared_le_limit_of_atMost {width : Nat}
    (hreaches : Reaches (machine faults) Undisturbed
      (AtMost service environment requests width) (logins service environment requests world) last)
    (hredis : ¬ faults.cache) (key : LoginAttemptKey) :
    (compared service environment requests last key).card ≤
      service.maxLoginFailures.toNat - 1 + width := by
  apply card_compared_le hreaches hredis
  · intro pool i call hguard
    cases call with
    | session | storage => trivial
    | cache call =>
      cases call with
      | clearLoginFailure => exact hguard
      | _ => trivial
  · intro pool i key maxFailures hguard _
    exact hguard

end Runs

/-- User 1 is called `a`. -/
def oneAccount : Tables where
  collation := ChatService.foldCase
  users := [{ userId := 1, username := [97], passwordHash := [1] }]

theorem oneAccount_keyed : oneAccount.Keyed :=
  Tables.keyed_of_no_messages (by decide) rfl rfl rfl (by simp [oneAccount])
    (by simp [oneAccount])

def noFailures : World where
  sessions := fun _ => {}
  manager := {}
  redis := {}
  database := ⟨oneAccount, oneAccount_keyed⟩

/-- Every session has the same peer, and a password is its own hash. -/
def plain : Environment := ⟨fun _ => [49], fun password _ => .ok password⟩

/-- The service with its default limit. -/
def threeFailures : AuthService where
  onlineService := ⟨[115], 60, by decide, by decide⟩

/-- A login with a wrong password. -/
def wrongLogin (username : Bytes) : RouterRequest where
  session := some ⟨11⟩
  packet := {}
  fields := fun type =>
    if type = .username then some [username]
    else if type = .password then some [[9]]
    else none

/-- Four logins, all of which are checked before any is counted. -/
def fourAtOnce : Pool services (Fin 4) (Except Error Packet) World :=
  (logins threeFailures plain (fun _ => wrongLogin [97]) noFailures).schedule
    (answer fun _ _ => .ok ()) [0, 1, 2, 3, 0, 1, 2, 3, 0, 1, 2, 3]

/-- A schedule of logins is a run in which everything answers. -/
theorem reaches_scheduled {ι : Type} [DecidableEq ι] {requests : ι → RouterRequest}
    {guard : Pool services ι (Except Error Packet) World → ι → Call → Prop} {order : List ι}
    (hmeets : Meets (answer fun _ _ => .ok ()) guard
      (logins threeFailures plain requests noFailures) order) :
    Reaches (machine .none) Undisturbed guard
      (logins threeFailures plain requests noFailures)
      ((logins threeFailures plain requests noFailures).schedule
        (answer fun _ _ => .ok ()) order) :=
  reaches_schedule (machine_answer fun _ _ => rfl) hmeets

theorem compared_le_limit_of_atMost_fourAtOnce :
    (compared threeFailures plain (fun _ => wrongLogin [97]) fourAtOnce ⟨[97], [49]⟩).card ≤
      3 - 1 + 4 := by
  apply compared_le_limit_of_atMost (reaches_scheduled ?_) (fun hfault => hfault)
  iterate 4 refine meets_call rfl (show (Quota.pending _).card < 4 by decide +kernel) ?_
  iterate 8 refine meets_call rfl trivial ?_
  trivial

/-- All four are compared, one more than the limit. -/
theorem compared_beyond_limit_fourAtOnce :
    Reaches (machine .none) Undisturbed (fun _ _ call => Wrong call)
        (logins threeFailures plain (fun _ => wrongLogin [97]) noFailures) fourAtOnce ∧
      (∀ i, ∃ status, fourAtOnce.threads i = .ret (.error status)) ∧
      threeFailures.maxLoginFailures.toNat <
        (compared threeFailures plain (fun _ => wrongLogin [97]) fourAtOnce ⟨[97], [49]⟩).card := by
  refine ⟨reaches_scheduled ?_, ?_, by decide +kernel⟩
  · iterate 12 refine meets_call rfl trivial ?_
    trivial
  · intro i
    fin_cases i
    · exact ⟨_, rfl⟩
    · exact ⟨_, rfl⟩
    · exact ⟨_, rfl⟩
    · exact ⟨_, rfl⟩

/-! ## One login after another -/

section InTurn

variable {ι : Type} [DecidableEq ι] {service : AuthService} {environment : Environment}
variable {requests : ι → RouterRequest} {faults : Faults}
variable {guard : Pool services ι (Except Error Packet) World → ι → Call → Prop}
variable {world : World} {last : Pool services ι (Except Error Packet) World}

/-- A login makes its calls while no other is between its first call and its end. -/
def OneAtATime (pool : Pool services ι (Except Error Packet) World) (i : ι) (call : Call) : Prop :=
  Wrong call ∧
    ∀ j, j ≠ i → history pool.log j = [] ∨ (pool.threads j).running = false

theorem pending_of_oneAtATime [Fintype ι]
    {pool : Pool services ι (Except Error Packet) World} {i : ι} {call : Call}
    (hguard : OneAtATime pool i call) (hhistory : history pool.log i = [])
    (key : LoginAttemptKey) :
    (quotaOf service environment requests pool key).pending = ∅ := by
  rw [eq_empty_iff_forall_notMem]
  intro j hmem
  obtain ⟨-, hpassed, -, hrunning⟩ := mem_pending.mp hmem
  by_cases hsame : j = i
  · rw [hsame, hhistory] at hpassed
    cases hpassed
  · rcases hguard.2 j hsame with hnone | hended
    · rw [hnone] at hpassed
      cases hpassed
    · rw [hended] at hrunning
      cases hrunning

/-- Logins leave the accounts alone. -/
theorem users_unchanged (hreaches : Reaches (machine faults) Undisturbed guard
      (logins service environment requests world) last) :
    last.world.database.1.users = world.database.1.users ∧
      last.world.database.1.collation = world.database.1.collation := by
  apply Reaches.justified_invariant hreaches
    (fun i => handleLogin_follows service environment (requests i))
    fun pool => pool.world.database.1.users = world.database.1.users ∧
      pool.world.database.1.collation = world.database.1.collation
  · exact ⟨rfl, rfl⟩
  · rintro pool i ⟨call, reply⟩ next after hsame ⟨credentials, -, hentitled⟩ hanswer
    have hdatabase : after.database = pool.world.database := by
      cases call with
      | session => exact machine_session_database hanswer
      | cache => exact machine_cache_database hanswer
      | storage call =>
        cases call with
        | findUserByUsername =>
          rcases machine_next hanswer with rfl | rfl
          · rfl
          · rfl
        | _ => exact hentitled.elim
    show after.database.1.users = _ ∧ after.database.1.collation = _
    rw [hdatabase]
    exact hsame
  · intro pool after hsame hundisturbed
    exact ⟨hundisturbed.users.trans hsame.1, hundisturbed.collation.trans hsame.2⟩

/-- The account that a login compared with has the user name of the request, as the database
compares names. -/
theorem account_of_lookup (hreaches : Reaches (machine faults) Undisturbed guard
      (logins service environment requests world) last) {i : ι} {username : Bytes}
    {user : UserRecord}
    (hlookup : ⟨.storage (.findUserByUsername username), .ok user⟩ ∈ history last.log i) :
    user ∈ world.database.1.users ∧
      world.database.1.collation.same user.username username = true := by
  obtain ⟨pool, next, after, hbefore, -, -, hanswer⟩ :=
    Reaches.occurred hreaches (mem_history.mp hlookup) (fun hold => nomatch hold)
  obtain ⟨husers, hcollation⟩ := users_unchanged hbefore
  rw [← husers, ← hcollation]
  exact Tables.findUserByUsername_ok (answered_of_ok hanswer)

/-- No two requests spell names differently that the database does not tell apart. -/
def OneSpelling (collation : Collation) (requests : ι → RouterRequest) : Prop :=
  ∀ i j first second, readCredentials (requests i).fields = .ok first →
    readCredentials (requests j).fields = .ok second →
    collation.same first.username second.username = true → first.username = second.username

/-- Logins that compared with one account are counted under one key, if they come from one
address and names are spelled in one way. -/
theorem keyOf_eq_of_comparesWith (hreaches : Reaches (machine faults) Undisturbed guard
      (logins service environment requests world) last)
    (hspelling : OneSpelling world.database.1.collation requests)
    (haddress : ∀ i j, service.remoteIpForRequest environment (requests i) =
      service.remoteIpForRequest environment (requests j)) {userId : UInt64} {i j : ι}
    (hfirst : comparesWith environment requests (fun found => found = userId) i
      (history last.log i) = true)
    (hsecond : comparesWith environment requests (fun found => found = userId) j
      (history last.log j) = true) :
    keyOf service environment requests i = keyOf service environment requests j := by
  obtain ⟨_, _, first, -, hfirstLookup, -, hfirstId⟩ := comparesWith_iff.mp hfirst
  obtain ⟨_, _, second, -, hsecondLookup, -, hsecondId⟩ := comparesWith_iff.mp hsecond
  obtain ⟨-, mine, hmine, rfl⟩ := passes_of_lookup hreaches hfirstLookup
  obtain ⟨-, theirs, htheirs, rfl⟩ := passes_of_lookup hreaches hsecondLookup
  obtain ⟨hfirstMem, hfirstName⟩ := account_of_lookup hreaches hfirstLookup
  obtain ⟨hsecondMem, hsecondName⟩ := account_of_lookup hreaches hsecondLookup
  have hids : first.userId = second.userId :=
    (of_decide_eq_true hfirstId).trans (of_decide_eq_true hsecondId).symm
  obtain rfl : first = second := inj_on_of_nodup_map
    (pairwise_map.mpr world.database.2.user_unique) hfirstMem hsecondMem hids
  have hweights : world.database.1.collation.same mine.username theirs.username = true := by
    rw [Collation.same, decide_eq_true_eq] at hfirstName hsecondName ⊢
    exact hfirstName.symm.trans hsecondName
  rw [keyOf_eq hmine, keyOf_eq htheirs, loginKey, loginKey, haddress i j,
    hspelling i j mine theirs hmine htheirs hweights]

/-- One login after another from one address, with names spelled in one way: the passwords
compared with the hash of one account are at most as many as the limit. -/
theorem comparedWith_le_limit [Fintype ι]
    (hreaches : Reaches (machine faults) Undisturbed OneAtATime
      (logins service environment requests world) last) (hredis : ¬ faults.cache)
    (hspelling : OneSpelling world.database.1.collation requests)
    (haddress : ∀ i j, service.remoteIpForRequest environment (requests i) =
      service.remoteIpForRequest environment (requests j)) (userId : UInt64) :
    (comparedWith environment requests last userId).card ≤ service.maxLoginFailures.toNat := by
  rcases (comparedWith environment requests last userId).eq_empty_or_nonempty with
    hnone | ⟨i, hmem⟩
  · rw [hnone]
    exact Nat.zero_le _
  · have hcompares := (mem_filter.mp hmem).2
    obtain ⟨credentials, -, -, hread, -⟩ := comparesWith_iff.mp hcompares
    have hsubset : comparedWith environment requests last userId ⊆
        compared service environment requests last
          (service.loginKey environment (requests i) credentials.username) := by
      intro j hother
      have hothers := (mem_filter.mp hother).2
      obtain ⟨own, username, user, hown, hlookup, hhash, -⟩ := comparesWith_iff.mp hothers
      refine mem_filter.mpr ⟨mem_univ j, ?_, ?_⟩
      · rw [← keyOf_eq hread]
        exact keyOf_eq_of_comparesWith hreaches hspelling haddress hothers hcompares
      · exact comparesWith_iff.mpr ⟨own, username, user, hown, hlookup, hhash, rfl⟩
    have hwidth : ∀ pool i key maxFailures,
        OneAtATime pool i (.cache (.allowLoginAttempt key maxFailures)) →
        history pool.log i = [] →
        (quotaOf service environment requests pool key).pending.card < 1 := by
      intro pool i key maxFailures hguard hhistory
      rw [pending_of_oneAtATime hguard hhistory key]
      exact Nat.one_pos
    have hpositive : 0 < service.maxLoginFailures.toNat := service.maxLoginFailures_pos
    calc (comparedWith environment requests last userId).card
        ≤ _ := card_le_card hsubset
      _ ≤ service.maxLoginFailures.toNat - 1 + 1 :=
          card_compared_le hreaches hredis (fun _ _ _ hguard => hguard.1) hwidth _
      _ = service.maxLoginFailures.toNat := Nat.sub_add_cancel hpositive

end InTurn

/-- Four logins under one name, the last of which is refused. -/
def fourTries : Pool services (Fin 4) (Except Error Packet) World :=
  (logins threeFailures plain (fun _ => wrongLogin [97]) noFailures).schedule
    (answer fun _ _ => .ok ()) [0, 0, 0, 1, 1, 1, 2, 2, 2, 3]

theorem comparedWith_le_limit_fourTries :
    (comparedWith plain (fun _ => wrongLogin [97]) fourTries 1).card ≤ 3 := by
  apply comparedWith_le_limit (reaches_scheduled ?_) (fun hfault => hfault) ?_ (fun _ _ => rfl) 1
  · iterate 10 refine meets_call rfl ⟨trivial, by decide +kernel⟩ ?_
    trivial
  · intro i j first second hfirst hsecond _
    rw [Except.ok.inj (hfirst.symm.trans hsecond)]

/-- Three logins as `a` and one as `A`. -/
def twoSpellings (i : Fin 4) : RouterRequest := wrongLogin (if i = 3 then [65] else [97])

def fourInTurn : Pool services (Fin 4) (Except Error Packet) World :=
  (logins threeFailures plain twoSpellings noFailures).schedule
    (answer fun _ _ => .ok ()) [0, 0, 0, 1, 1, 1, 2, 2, 2, 3, 3, 3]

/-- The fourth wrong password is compared with the hash of the same account, since the other
spelling has a counter of its own. -/
theorem comparedWith_beyond_limit_fourInTurn :
    Reaches (machine .none) Undisturbed OneAtATime
        (logins threeFailures plain twoSpellings noFailures) fourInTurn ∧
      (∀ i, ∃ status, fourInTurn.threads i = .ret (.error status)) ∧
      threeFailures.maxLoginFailures.toNat <
        (comparedWith plain twoSpellings fourInTurn 1).card := by
  refine ⟨reaches_scheduled ?_, ?_, by decide +kernel⟩
  · iterate 12 refine meets_call rfl ⟨trivial, by decide +kernel⟩ ?_
    trivial
  · intro i
    fin_cases i
    · exact ⟨_, rfl⟩
    · exact ⟨_, rfl⟩
    · exact ⟨_, rfl⟩
    · exact ⟨_, rfl⟩

end LiteIM.AuthService
