/-
# Lists of friends and groups

The responses to `ListFriendsRequest` and `ListGroupsRequest` carry an entry for every friend
and every group of the user. An entry has a bounded size, since names are checked when an
account or a group is created; the number of entries is not bounded by anything, and the
frame format bounds the body. So a list can be sent as long as it is short enough, and a user
who creates many groups has a list that cannot be sent.
-/

import LiteIM.Foundation.Pool
import LiteIM.Service.Accounts
import LiteIM.Service.LoginLimit
import LiteIM.Service.MessagePages

namespace LiteIM

open Foundation GroupService AuthService World Tables ChatService Pool List

/-! ## The size of an entry -/

/-- A number and a name, each with its header. -/
def kMaxGroupBytes : Nat :=
  (kTlvHeaderSize + 8) + (kTlvHeaderSize + kMaxGroupNameBytes)

/-- Two numbers and two names, each with its header. -/
def kMaxFriendBytes : Nat :=
  2 * (kTlvHeaderSize + 8) + (kTlvHeaderSize + kMaxUsernameBytes) +
    (kTlvHeaderSize + kMaxNicknameBytes)

variable {groups : List GroupRecord}

namespace GroupService

/-- The fields of a group. -/
def groupFields (group : GroupRecord) : List (TlvType × Bytes) :=
  [(.groupId, appendUint64BE [] group.groupId), (.groupName, group.groupName)]

theorem foldlM_appendGroupFields (groups : List GroupRecord) (body : Bytes) :
    groups.foldlM (fun body group => appendGroupFields group body) body =
      appendFields (groups.flatMap groupFields) body := by
  induction groups generalizing body with
  | nil => rfl
  | cons group groups ih =>
    have hfirst : appendFields (groupFields group) body = appendGroupFields group body := by
      simp only [appendFields, groupFields, appendGroupFields, appendUint64, appendString,
        foldlM_cons, foldlM_nil, bind_pure]
    rw [foldlM_cons, flatMap_cons, appendFields, foldlM_append,
      ← appendFields, hfirst]
    exact congrArg _ (funext ih)

theorem length_groupFields (group : GroupRecord) :
    (encodeFields (groupFields group)).length =
      (kTlvHeaderSize + 8) + (kTlvHeaderSize + group.groupName.length) := by
  simp [groupFields, length_fieldBytes]

theorem groupsResponse_eq (hnames : ∀ group ∈ groups, group.groupName.length ≤ kMaxGroupNameBytes)
    (msgType : MessageType) (request : RouterRequest) : groupsResponse msgType request groups =
      .ok { header := { msgType, seqId := request.packet.header.seqId },
            body := encodeFields (groups.flatMap groupFields) } := by
  have hencodable : ∀ field ∈ groups.flatMap groupFields, Encodable field := by
    intro field hmem
    obtain ⟨group, hgroup, hfield⟩ := mem_flatMap.mp hmem
    simp only [groupFields, mem_cons, not_mem_nil, or_false] at hfield
    rcases hfield with rfl | rfl
    · refine ⟨show TlvType.groupId ≠ .unknown by decide, ?_⟩
      rw [length_appendUint64BE_nil]
      decide
    · exact ⟨show TlvType.groupName ≠ .unknown by decide,
        Nat.le_trans (hnames group hgroup) (by decide)⟩
  rw [groupsResponse, foldlM_appendGroupFields,
    appendFields_eq_ok_iff.mpr ⟨hencodable, rfl⟩]
  rfl

theorem sendable_groupsResponse
    (hnames : ∀ group ∈ groups, group.groupName.length ≤ kMaxGroupNameBytes)
    (hcount : groups.length * kMaxGroupBytes ≤ kMaxPacketBodyLength.toNat) (msgType : MessageType)
    (request : RouterRequest) : Sendable (groupsResponse msgType request groups) := by
  have hlength : (encodeFields (groups.flatMap groupFields)).length ≤
      groups.length * kMaxGroupBytes := by
    apply length_encodeFields_flatMap_le
    intro group hgroup
    rw [length_groupFields, kMaxGroupBytes]
    exact Nat.add_le_add_left (Nat.add_le_add_left (hnames group hgroup) _) _
  rw [groupsResponse_eq hnames]
  apply Packet.Encodable.sendable
  exact Packet.encodable_of_body_le rfl rfl rfl (Nat.le_trans hlength hcount)

end GroupService

namespace FriendService

theorem length_friendFields_le {profile : UserProfileRecord}
    (husername : profile.username.length ≤ kMaxUsernameBytes)
    (hnickname : profile.nickname.length ≤ kMaxNicknameBytes) (online : UInt64) :
    (encodeFields (friendFields profile online)).length ≤ kMaxFriendBytes := by
  simp only [friendFields, encodeFields_cons, encodeFields_nil, length_append,
    length_fieldBytes, length_appendUint64BE_nil, length_nil, kMaxFriendBytes]
  omega

end FriendService

/-! ## The names that are stored -/

/-- Names keep to the limits of the services. -/
structure Tables.NamesWithinLimits (tables : Tables) : Prop where
  users : ∀ user ∈ tables.users, user.username.length ≤ kMaxUsernameBytes ∧
    user.nickname.length ≤ kMaxNicknameBytes
  groups : ∀ group ∈ tables.chatGroups, group.groupName.length ≤ kMaxGroupNameBytes

variable {before after : Tables}

theorem Tables.NamesWithinLimits.congr (hnames : before.NamesWithinLimits)
    (husers : after.users = before.users) (hgroups : after.chatGroups = before.chatGroups) :
    after.NamesWithinLimits where
  users := by
    rw [husers]
    exact hnames.users
  groups := by
    rw [hgroups]
    exact hnames.groups

theorem Tables.NamesWithinLimits.addUser (hnames : before.NamesWithinLimits)
    {created : CreateUserRequest} (hadds : AddsUser created before after)
    (husername : created.username.length ≤ kMaxUsernameBytes)
    (hnickname : created.nickname.length ≤ kMaxNicknameBytes) : after.NamesWithinLimits := by
  obtain ⟨user, hsameUsername, -, -, hsameNickname, -, rfl⟩ := hadds.row
  refine ⟨?_, hnames.groups⟩
  intro other hmem
  rcases mem_append.mp hmem with hold | hnew
  · exact hnames.users other hold
  · rw [mem_singleton.mp hnew, hsameUsername, hsameNickname]
    exact ⟨husername, hnickname⟩

variable {userId : UInt64}

theorem Tables.NamesWithinLimits.addMember (hnames : before.NamesWithinLimits) {groupId : UInt64}
    (hadds : AddsMember groupId userId before after) : after.NamesWithinLimits := by
  rcases hadds with rfl | ⟨-, joinedAtMs, rfl⟩
  · exact hnames
  · exact hnames.congr rfl rfl

theorem Tables.NamesWithinLimits.addGroup (hnames : before.NamesWithinLimits)
    {created : CreateGroupRequest} {group : GroupRecord}
    (hadds : AddsGroup created before group after)
    (hname : created.groupName.length ≤ kMaxGroupNameBytes) :
    after.NamesWithinLimits := by
  apply NamesWithinLimits.addMember _ hadds.member
  refine ⟨hnames.users, ?_⟩
  intro other hmem
  rcases mem_append.mp hmem with hold | hnew
  · exact hnames.groups other hold
  · rw [mem_singleton.mp hnew, hadds.name]
    exact hname

namespace Tables

/-- The friends that are listed have the names of accounts. -/
theorem NamesWithinLimits.getFriends {tables : Tables} (hnames : tables.NamesWithinLimits)
    {friends : List UserProfileRecord} (hread : tables.getFriends userId = .ok friends) :
    friends.length = (tables.joinFriends userId).length ∧
      ∀ profile ∈ friends, profile.username.length ≤ kMaxUsernameBytes ∧
        profile.nickname.length ≤ kMaxNicknameBytes := by
  obtain ⟨-, -, hread⟩ := bind_eq_ok_iff.mp hread
  obtain rfl := Except.ok.inj hread
  have hperm := perm_insertionSort
    (fun first second : UserProfileRecord => first.userId ≤ second.userId)
    (tables.joinFriends userId)
  refine ⟨hperm.length_eq, ?_⟩
  intro profile hmem
  obtain ⟨pair, -, hprofile⟩ := mem_filterMap.mp (hperm.mem_iff.mp hmem)
  obtain ⟨user, hfound, rfl⟩ := Option.map_eq_some_iff.mp hprofile
  exact hnames.users user (mem_of_find?_eq_some hfound)

theorem NamesWithinLimits.getGroupsForUser {tables : Tables} (hnames : tables.NamesWithinLimits)
    (hread : tables.getGroupsForUser userId = .ok groups) :
    groups.length = (tables.joinGroups userId).length ∧
      ∀ group ∈ groups, group.groupName.length ≤ kMaxGroupNameBytes := by
  obtain ⟨-, -, hread⟩ := bind_eq_ok_iff.mp hread
  obtain rfl := Except.ok.inj hread
  have hperm := perm_insertionSort
    (fun first second : GroupRecord => first.groupId ≤ second.groupId)
    (tables.joinGroups userId)
  refine ⟨hperm.length_eq, ?_⟩
  intro group hmem
  obtain ⟨row, -, hfound⟩ := mem_filterMap.mp (hperm.mem_iff.mp hmem)
  exact hnames.groups group (mem_of_find?_eq_some hfound)

end Tables

/-! ## Runs of requests -/

namespace ListResponses

inductive Action where
  | account (request : AccountRequest)
  | createGroup (request : RouterRequest)
  | joinGroup (request : RouterRequest)
  | listGroups (request : RouterRequest)

namespace Action

variable (service : AuthService) (environment : Environment)

def handle : Action → Service Packet
  | .account request => request.handle service environment
  | .createGroup request => handleCreateGroup request
  | .joinGroup request => handleJoinGroup request
  | .listGroups request => handleListGroups request

def Justified : Action → List (Event services) → Event services → Prop
  | .account request => request.Justified service environment
  | .createGroup request => ListJustified request
  | .joinGroup request => ListJustified request
  | .listGroups request => ListJustified request

def Answered : Action → List (Event services) → Packet → Prop
  | .account request => request.Answered
  | .listGroups request => Listed request
  | _ => fun _ _ => True

/-- The requests that are answered with a list. -/
def lists : Action → Bool
  | .account (.listFriends _) => true
  | .listGroups _ => true
  | _ => false

theorem handle_yields (action : Action) :
    Fallible.Yields (action.Justified service environment) action.Answered []
      (action.handle service environment) := by
  cases action with
  | account request => exact request.handle_yields service environment
  | createGroup request => exact handleCreateGroup_yields request
  | joinGroup request => exact handleJoinGroup_yields request
  | listGroups request => exact handleListGroups_yields request

variable {service environment} {action : Action} {history : List (Event services)}

/-- An account is added with names within the limits. -/
theorem justified_insertUser {created : CreateUserRequest} {reply : Except Error Unit}
    (hjustified : action.Justified service environment history
      ⟨.storage (.insertUser created), reply⟩) :
    created.username.length ≤ kMaxUsernameBytes ∧
      created.nickname.length ≤ kMaxNicknameBytes := by
  cases action with
  | account =>
    obtain ⟨salt, hnew⟩ := AccountRequest.justified_insertUser hjustified
    exact newUser_ok hnew
  | _ => exact hjustified.elim

theorem justified_createGroup {created : CreateGroupRequest} {reply : Except Error GroupRecord}
    (hjustified : action.Justified service environment history
      ⟨.storage (.createGroup created), reply⟩) :
    created.groupName.length ≤ kMaxGroupNameBytes := by
  cases action with
  | account => exact (AccountRequest.not_justified_createGroup hjustified).elim
  | _ => exact readGroupName_length_le hjustified.2

/-- Every call keeps the stored names within the limits. -/
theorem namesWithinLimits {event : Event services}
    (hjustified : action.Justified service environment history event)
    (heffect : Effect before after event) (hnames : before.NamesWithinLimits) :
    after.NamesWithinLimits := by
  have hsame : after = before → after.NamesWithinLimits := by
    rintro rfl
    exact hnames
  obtain ⟨call, reply⟩ := event
  cases call with
  | session | cache => exact hsame heffect
  | storage call =>
    cases hwrites : call.writesDirectory with
    | false =>
      have hdirectory := heffect.sameDirectory hwrites
      exact hnames.congr hdirectory.users hdirectory.chatGroups
    | true =>
      cases reply with
      | error =>
        cases call <;> exact hsame heffect
      | ok =>
        cases call with
        | insertUser =>
          obtain ⟨husername, hnickname⟩ := justified_insertUser hjustified
          exact hnames.addUser heffect husername hnickname
        | createFriendRequest =>
          obtain ⟨nowMs, rfl⟩ := heffect.2.row
          exact hnames.congr rfl rfl
        | acceptFriendRequest =>
          obtain ⟨nowMs, hafter⟩ := heffect.rows
          rw [hafter]
          exact hnames.congr rfl rfl
        | rejectFriendRequest =>
          obtain ⟨nowMs, rfl⟩ := heffect.rows
          exact hnames.congr rfl rfl
        | createGroup =>
          exact hnames.addGroup heffect (justified_createGroup hjustified)
        | addGroupMember => exact hnames.addMember heffect
        | _ => cases hwrites

end Action

section Runs

variable {ι : Type} [DecidableEq ι] {service : AuthService}
variable {environment : Environment} {actions : ι → Action} {faults : Faults}
variable {world : World} {last : Pool services ι (Except Error Packet) World}

/-- Requests handled at once. -/
def handling (service : AuthService) (environment : Environment)
    (actions : ι → Action) (world : World) : Pool services ι (Except Error Packet) World :=
  start (fun i => ((actions i).handle service environment).run) world

/-- What else may happen: nothing to accounts and groups. -/
def Elsewhere (before after : World) : Prop :=
  after.database.1.users = before.database.1.users ∧
    after.database.1.chatGroups = before.database.1.chatGroups

/-- Lists are read only by users with few enough friends and groups. -/
def Few (pool : Pool services ι (Except Error Packet) World) (_ : ι) : Call → Prop
  | .storage (.getFriends userId) =>
    (pool.world.database.1.joinFriends userId).length * kMaxFriendBytes ≤
      kMaxPacketBodyLength.toNat
  | .storage (.getGroupsForUser userId) =>
    (pool.world.database.1.joinGroups userId).length * kMaxGroupBytes ≤
      kMaxPacketBodyLength.toNat
  | _ => True

abbrev Runs (faults : Faults)
    (guard : Pool services ι (Except Error Packet) World → ι → Call → Prop) :
    Pool services ι (Except Error Packet) World →
      Pool services ι (Except Error Packet) World → Prop :=
  Reaches (machine faults) Elsewhere guard

theorem Runs.namesWithinLimits
    {guard : Pool services ι (Except Error Packet) World → ι → Call → Prop}
    (hruns : Runs faults guard (handling service environment actions world) last)
    (hnames : world.database.1.NamesWithinLimits) : last.world.database.1.NamesWithinLimits := by
  apply Reaches.justified_invariant hruns
    (fun i => (actions i).handle_yields service environment)
    (fun pool => pool.world.database.1.NamesWithinLimits) hnames
  · intro pool i event next after hbefore hjustified hanswer
    exact Action.namesWithinLimits hjustified (machine_effect hanswer).1 hbefore
  · intro pool after hbefore helsewhere
    exact hbefore.congr helsewhere.1 helsewhere.2

/-- A list of friends that was read while it was short enough can be sent. -/
theorem Runs.friends_sendable
    (hruns : Runs faults Few (handling service environment actions world) last)
    (hnames : world.database.1.NamesWithinLimits) {i : ι} {request : RouterRequest}
    {response : Packet}
    (hlisted : FriendService.Listed request (history last.log i) response) :
    Sendable (.ok response) := by
  obtain ⟨userId, entries, hread, rfl⟩ := hlisted
  obtain ⟨pool, next, after, hbefore, -, -, hfew, hanswer⟩ :=
    Reaches.occurred_guarded hruns (mem_history.mp hread) (fun hold => nomatch hold)
  obtain ⟨hlength, hlimits⟩ := (Runs.namesWithinLimits hbefore hnames).getFriends
    (answered_of_ok hanswer)
  rw [length_map] at hlength
  have hcount : entries.length * kMaxFriendBytes ≤ kMaxPacketBodyLength.toNat := by
    rw [hlength]
    exact hfew
  apply Packet.Encodable.sendable
  refine Packet.encodable_of_body_le rfl rfl rfl (Nat.le_trans ?_ hcount)
  apply length_encodeFields_flatMap_le
  intro entry hentry
  obtain ⟨husername, hnickname⟩ := hlimits entry.1 (mem_map_of_mem hentry)
  exact FriendService.length_friendFields_le husername hnickname entry.2

/-- A list of groups that was read while it was short enough can be sent. -/
theorem Runs.groups_sendable
    (hruns : Runs faults Few (handling service environment actions world) last)
    (hnames : world.database.1.NamesWithinLimits) {i : ι} {request : RouterRequest}
    {response : Packet} (hlisted : Listed request (history last.log i) response) :
    Sendable (.ok response) := by
  obtain ⟨userId, groups, hread, hresponse⟩ := hlisted
  obtain ⟨pool, next, after, hbefore, -, -, hfew, hanswer⟩ :=
    Reaches.occurred_guarded hruns (mem_history.mp hread) (fun hold => nomatch hold)
  obtain ⟨hlength, hlimits⟩ := (Runs.namesWithinLimits hbefore hnames).getGroupsForUser
    (answered_of_ok hanswer)
  rw [← hresponse]
  apply sendable_groupsResponse hlimits
  rw [hlength]
  exact hfew

/-- Every list that is answered can be sent, in every run in which lists are read only while
they are short enough. -/
theorem lists_sendable (hruns : Runs faults Few (handling service environment actions world) last)
    (hnames : world.database.1.NamesWithinLimits) {i : ι} (hlists : (actions i).lists = true)
    {response : Packet} (hended : last.threads i = .ret (.ok response)) :
    Sendable (.ok response) := by
  have hfollows := Reaches.follows hruns
    (fun i => (actions i).handle_yields service environment) i
  rw [hended] at hfollows
  have hanswered : (actions i).Answered (history last.log i) response :=
    hfollows response rfl
  cases haction : actions i with
  | account request =>
    rw [haction] at hanswered hlists
    cases request with
    | listFriends => exact hruns.friends_sendable hnames hanswered
    | _ => cases hlists
  | listGroups =>
    rw [haction] at hanswered
    exact hruns.groups_sendable hnames hanswered
  | createGroup | joinGroup =>
    rw [haction] at hlists
    cases hlists

end Runs

/-- User 1 lists friends and groups. -/
def listBoth : Bool → Action
  | false => .account (.listFriends { session := some ⟨11⟩, packet := {}, fields := fun _ => none })
  | true => .listGroups { session := some ⟨11⟩, packet := {}, fields := fun _ => none }

def listedBoth : Pool services Bool (Except Error Packet) World :=
  (handling threeFailures plain listBoth oneOnline).schedule
    (answer fun _ _ => .ok ()) [false, true, false, true, false, true, false, false]

theorem lists_sendable_listedBoth :
    (∃ response, listedBoth.threads false = .ret (.ok response) ∧ Sendable (.ok response)) ∧
      ∃ response, listedBoth.threads true = .ret (.ok response) ∧ Sendable (.ok response) := by
  have hruns : Runs .none Few (handling threeFailures plain listBoth
      oneOnline) listedBoth := by
    apply reaches_schedule (machine_answer fun _ _ => rfl)
    iterate 4 refine meets_call rfl trivial ?_
    iterate 2 refine meets_call rfl (show _ * _ ≤ _ by decide +kernel) ?_
    iterate 2 refine meets_call rfl trivial ?_
    trivial
  have hnames : oneOnline.database.1.NamesWithinLimits :=
    ⟨by decide, fun _ hnone => nomatch hnone⟩
  exact ⟨⟨_, rfl, lists_sendable (i := false) hruns hnames rfl rfl⟩,
    ⟨_, rfl, lists_sendable (i := true) hruns hnames rfl rfl⟩⟩

/-! ## Too many groups -/

/-- A name of the greatest length. -/
def longName : Bytes := replicate 128 97

def createRequest : RouterRequest where
  session := some ⟨11⟩
  packet := {}
  fields := fun type => if type = .groupName then some [longName] else none

theorem length_longName : longName.length = kMaxGroupNameBytes :=
  length_replicate

theorem readGroupName_createRequest :
    readGroupName createRequest.fields = .ok longName := by
  refine bind_eq_ok_iff.mpr ⟨longName, rfl, ?_⟩
  rw [if_neg (by decide)]
  exact bind_eq_ok_iff.mpr ⟨(), validateMaxBytes_eq_ok_iff.mpr length_longName.le, rfl⟩

/-- User 1 is in so many groups, and all groups have long names. -/
structure Owns (count : Nat) (tables : Tables) : Prop where
  user : tables.hasUser 1 = true
  groups : ∀ group ∈ tables.chatGroups,
    group.groupId.toNat < count + 1 ∧ group.groupName = longName
  members : ∀ row ∈ tables.groupMembers, tables.hasGroup row.groupId = true
  listed : (tables.joinGroups 1).length = count

variable {count : Nat} {tables : Tables}

/-- A group of user 1 with a new id is one more that they are listed. -/
theorem Owns.add (howns : Owns count tables) {group : GroupRecord}
    (hid : group.groupId.toNat < count + 2) (hname : group.groupName = longName)
    (joinedAtMs : Int) : Owns (count + 1) { tables with
      chatGroups := tables.chatGroups ++ [group]
      groupMembers := tables.groupMembers ++ [⟨group.groupId, 1, joinedAtMs⟩] } where
  user := howns.user
  groups := by
    intro other hmem
    rcases mem_append.mp hmem with hold | hnew
    · exact ⟨Nat.lt_succ_of_lt (howns.groups other hold).1, (howns.groups other hold).2⟩
    · rw [mem_singleton.mp hnew]
      exact ⟨hid, hname⟩
  members := by
    intro row hmem
    rw [hasGroup, any_append, Bool.or_eq_true]
    rcases mem_append.mp hmem with hold | hnew
    · exact Or.inl (howns.members row hold)
    · exact Or.inr (by simp [mem_singleton.mp hnew])
  listed := by
    have hold : ∀ row ∈ tables.groupMembers.filter (·.userId = 1),
        (tables.chatGroups ++ [group]).find? (·.groupId = row.groupId) =
          tables.chatGroups.find? (·.groupId = row.groupId) := by
      intro row hmem
      have hgroup := howns.members row (mem_of_mem_filter hmem)
      rw [find?_append,
        Option.or_of_isSome (find?_isSome.mpr (any_eq_true.mp hgroup))]
    rw [← howns.listed, joinGroups, filter_append, filterMap_append,
      length_append, filterMap_congr hold]
    simp [joinGroups]

theorem Owns.createGroup (howns : Owns count tables) (hrange : count + 1 < 2 ^ 64) (nowMs : Int) :
    ∃ group after, tables.createGroup nowMs { ownerId := 1, groupName := longName } =
      .ok (group, after) ∧ group.groupName = longName ∧ Owns (count + 1) after := by
  have hnext : nextId (tables.chatGroups.map GroupRecord.groupId) ≤ count + 1 := by
    apply nextId_le _ (Nat.succ_pos _)
    intro id hmem
    obtain ⟨group, hgroup, rfl⟩ := mem_map.mp hmem
    exact (howns.groups group hgroup).1
  have hless := Nat.lt_of_le_of_lt hnext hrange
  obtain ⟨group, hinsert, hid⟩ : ∃ group : GroupRecord,
      tables.insertGroup nowMs { ownerId := 1, groupName := longName } =
        .ok (group, { tables with chatGroups := tables.chatGroups ++ [group] }) ∧
      group.groupId.toNat ≤ count + 1 := by
    rw [insertGroup, if_neg (Nat.not_le.mpr hless), howns.user]
    exact ⟨_, rfl, (UInt64.toNat_ofNat_of_lt hless).trans_le hnext⟩
  obtain ⟨-, hname, hfresh, -⟩ := insertGroup_ok hinsert
  have hmember : insertGroupMember
      { tables with chatGroups := tables.chatGroups ++ [group] } group.groupId 1 nowMs =
        .ok { tables with
          chatGroups := tables.chatGroups ++ [group]
          groupMembers := tables.groupMembers ++ [⟨group.groupId, 1, nowMs⟩] } := by
    rw [insertGroupMember]
    split_ifs with hpresent hmissing
    · obtain ⟨row, hmem, hkey⟩ := any_eq_true.mp hpresent
      obtain ⟨other, hother, hsame⟩ := any_eq_true.mp (howns.members row hmem)
      exact absurd ((of_decide_eq_true hsame).trans (of_decide_eq_true hkey).1)
        (hfresh other hother)
    · rcases hmissing with hgroup | huser
      · simp [hasGroup] at hgroup
      · exact absurd howns.user (ne_true_of_eq_false huser)
    · rfl
  refine ⟨group, _, ?_, hname, howns.add (Nat.lt_succ_of_le hid) hname nowMs⟩
  refine bind_eq_ok_iff.mpr ⟨(), rfl, ?_⟩
  rw [if_neg (by decide)]
  refine bind_eq_ok_iff.mpr ⟨_, execute_eq_ok_iff.mpr hinsert, ?_⟩
  exact bind_eq_ok_iff.mpr ⟨_, execute_eq_ok_iff.mpr hmember, rfl⟩

/-- User 1 is logged in, and in so many groups. -/
structure Owner (count : Nat) (world : World) : Prop where
  sessions : world.sessions = oneOnline.sessions
  manager : world.manager = oneOnline.manager
  owns : Owns count world.database.1

theorem owner_oneOnline : Owner 0 oneOnline :=
  ⟨rfl, rfl, rfl, forall_mem_nil _, forall_mem_nil _, rfl⟩

variable {world : World} {request : RouterRequest}

theorem Owner.serve_currentUserId (howner : Owner count world)
    (hsession : request.session = some ⟨11⟩) :
    world.serve (currentUserId request) = (.ok 1, world) := by
  obtain ⟨sessions, manager, redis, database⟩ := world
  obtain rfl : sessions = _ := howner.sessions
  obtain rfl : manager = _ := howner.manager
  rw [currentUserId, hsession]
  rfl

/-- Creating one more group succeeds. -/
theorem Owner.serve_create (howner : Owner count world) (hrange : count + 1 < 2 ^ 64) :
    ∃ response after, world.serve (handleCreateGroup createRequest) =
      (.ok response, after) ∧ Owner (count + 1) after := by
  obtain ⟨group, tables, hcreate, hname, howns⟩ := howner.owns.createGroup hrange world.redis.nowMs
  have hnamed : world.serve (Fallible.ofExcept (readGroupName createRequest.fields)) =
      (.ok longName, world) := by
    rw [serve_ofExcept, readGroupName_createRequest]
  obtain ⟨database, hresult, rfl⟩ : ∃ database, world.database.createGroup world.redis.nowMs
      { ownerId := 1, groupName := longName } = (.ok group, database) ∧ database.1 = tables := by
    rcases Database.transact_cases world.database (fun tables => tables.createGroup _ _) _ with
      ⟨created, after, hbody, hresult⟩ | ⟨status, hbody, -⟩
    · cases hcreate.symm.trans hbody
      exact ⟨after, hresult, rfl⟩
    · cases hcreate.symm.trans hbody
  have hstored : world.serve (Service.storage (.createGroup
      { ownerId := 1, groupName := longName })) = (.ok group, { world with database }) := by
    show ((world.database.createGroup world.redis.nowMs _).1, { world with
      database := (world.database.createGroup world.redis.nowMs _).2 }) = _
    rw [hresult]
  have hlong : ∀ other ∈ [group], other.groupName.length ≤ kMaxGroupNameBytes := by
    intro other hmem
    rw [mem_singleton.mp hmem, hname]
    exact length_longName.le
  obtain ⟨response, hresponse⟩ : ∃ response, groupsResponse .createGroupResponse
      createRequest [group] = .ok response := ⟨_, groupsResponse_eq hlong _ _⟩
  refine ⟨response, { world with database }, ?_, howner.sessions, howner.manager, howns⟩
  rw [handleCreateGroup, serve_bind_ok (howner.serve_currentUserId rfl),
    serve_bind_ok hnamed, serve_bind_ok hstored, serve_ofExcept,
    hresponse]

/-- So many groups with long names do not fit in a frame. -/
def kTooManyGroups : Nat := 7085

def listRequest : RouterRequest := { session := some ⟨11⟩, packet := {}, fields := fun _ => none }

/-- User 1 creates groups and then lists them. -/
def createThenList (i : Nat) : Action :=
  if i < kTooManyGroups then .createGroup createRequest else .listGroups listRequest

/-- The groups of an owner are listed one by one, however many there are. -/
theorem Owner.serve_list (howner : Owner count world) :
    ∃ response, world.serve (handleListGroups listRequest) = (.ok response, world) ∧
      response.body.length = count * kMaxGroupBytes := by
  obtain ⟨groups, hgroups⟩ : ∃ groups, groups = (world.database.1.joinGroups 1).insertionSort
      fun first second => first.groupId ≤ second.groupId := ⟨_, rfl⟩
  have hread : world.serve (Service.storage (.getGroupsForUser 1)) = (.ok groups, world) := by
    rw [hgroups]
    rfl
  have hperm : groups.Perm (world.database.1.joinGroups 1) := by
    rw [hgroups]
    exact perm_insertionSort _ _
  have hlength : ∀ group ∈ groups, group.groupName.length = kMaxGroupNameBytes := by
    intro group hmem
    obtain ⟨row, -, hfound⟩ := mem_filterMap.mp (hperm.mem_iff.mp hmem)
    rw [(howner.owns.groups group (mem_of_find?_eq_some hfound)).2, length_longName]
  refine ⟨{ header := { msgType := .listGroupsResponse, seqId := 0 },
            body := encodeFields (groups.flatMap groupFields) }, ?_, ?_⟩
  · rw [handleListGroups, serve_bind_ok (howner.serve_currentUserId rfl),
      serve_bind_ok hread, serve_ofExcept,
      groupsResponse_eq fun group hmem => (hlength group hmem).le]
    rfl
  · rw [← howner.owns.listed, ← hperm.length_eq]
    apply length_encodeFields_flatMap_eq
    intro group hmem
    rw [length_groupFields, hlength group hmem, kMaxGroupBytes]

/-- The groups are created one after the other. -/
theorem reaches_owner (service : AuthService) (environment : Environment)
    (hcount : count ≤ kTooManyGroups) : ∃ pool, Runs .none (fun _ _ _ => True)
        (handling service environment createThenList oneOnline) pool ∧
      Owner count pool.world ∧
      ∀ i, count ≤ i → pool.threads i = ((createThenList i).handle service environment).run := by
  induction count with
  | zero => exact ⟨_, .refl, owner_oneOnline, fun _ _ => rfl⟩
  | succ count ih =>
    obtain ⟨pool, hreaches, howner, hwaiting⟩ := ih (Nat.le_of_succ_le hcount)
    have hrange : count + 1 < 2 ^ 64 := Nat.lt_of_le_of_lt hcount (by decide)
    obtain ⟨response, after, hserve, howner'⟩ := howner.serve_create hrange
    obtain ⟨trace, hexec⟩ := exec_of_serve hserve
    have hthread : pool.threads count = (handleCreateGroup createRequest).run := by
      rw [hwaiting count (Nat.le_refl _), createThenList, if_pos (Nat.lt_of_succ_le hcount)]
      rfl
    refine ⟨_, hreaches.trans (Reaches.exec pool count hexec hthread rfl
      fun _ _ _ => trivial), howner', ?_⟩
    intro i hi
    have hother : i ≠ count := Nat.ne_of_gt hi
    exact (Function.update_of_ne hother _ _).trans (hwaiting i (Nat.le_of_succ_le hi))

/-- A user who created so many groups is not answered: the response is built, and
`encodePacket` refuses it. -/
theorem listGroups_not_sendable :
    ∃ last response, Runs .none (fun _ _ _ => True) (handling threeFailures
        plain createThenList oneOnline) last ∧
      (createThenList kTooManyGroups).lists = true ∧
      last.threads kTooManyGroups = .ret (.ok response) ∧
      encodePacket response = Status.error .invalidArgument "packet body is too large" := by
  obtain ⟨pool, hreaches, howner, hwaiting⟩ :=
    reaches_owner threeFailures plain (Nat.le_refl kTooManyGroups)
  obtain ⟨response, hserve, hlength⟩ := howner.serve_list
  obtain ⟨trace, hexec⟩ := exec_of_serve hserve
  have hthread : pool.threads kTooManyGroups =
      (handleListGroups listRequest).run := by
    rw [hwaiting _ (Nat.le_refl _), createThenList, if_neg (Nat.lt_irrefl _)]
    rfl
  have hlong : response.body.length > kMaxPacketBodyLength.toNat := by
    rw [hlength]
    decide
  refine ⟨_, response, hreaches.trans (Reaches.exec pool kTooManyGroups hexec hthread rfl
    fun _ _ _ => trivial), rfl, ?_, ?_⟩
  · exact Function.update_self kTooManyGroups _ pool.threads
  · rw [encodePacket, if_pos hlong]

end ListResponses

end LiteIM
