/-
# Heartbeats

The heartbeat of a session that is logged in asks for the expiry of its user's
online record to be moved. `EXPIRE` moves the expiry of a key that is there and
creates none, so a heartbeat keeps a record that names the session and cannot bring
one back.
-/

import LiteIM.Service.OnlineRaces
import LiteIM.Service.Request

namespace LiteIM

open Foundation World SessionManager

namespace HeartbeatService

def heartbeatResponse (request : RouterRequest) : Packet :=
  { header := { msgType := .heartbeatResponse, seqId := request.packet.header.seqId }, body := [] }

/-- The heartbeat of a session that is not logged in is answered too, and a failed
refresh is only logged. -/
def handleHeartbeat (service : OnlineService) (request : RouterRequest) : Service Packet :=
  match request.session with
  | none => throw ⟨.invalidArgument, "session is not active"⟩
  | some session => do
      let closed ← Service.closed session
      if closed then throw ⟨.invalidArgument, "session is not active"⟩
      else do
        match ← (OnlineService.getUserBySession session.id).outcome with
        | .error status =>
          if status.code = .notFound then pure (heartbeatResponse request) else throw status
        | .ok userId => do
            let _ ← (service.refreshUserOnline userId session.id).outcome
            pure (heartbeatResponse request)

/-- The heartbeat on the open session of a user refreshes the user's record. -/
theorem handleHeartbeat_served (service : OnlineService) {world : World}
    (hone : world.manager.OneToOne) {userId : UInt64} {session : SessionRef}
    (honline : world.onlineSession userId = some session) {request : RouterRequest}
    (hsession : request.session = some session) :
    world.serve (handleHeartbeat service request) =
      (.ok (heartbeatResponse request),
        { world with
          redis := (world.redis.refreshUserOnline userId service.onlineTtl).2 }) := by
  have hlookup := hone.getUserBySession_of_online honline
  have hclosed : world.sessions.closed session = false := by
    obtain ⟨binding, -, -, hlive⟩ := onlineSession_eq_some_iff.mp honline
    exact Sessions.closed_eq_false_iff.mpr hlive
  simp only [handleHeartbeat, hsession, serve_bind, serve_closed, hclosed,
    OnlineService.getUserBySession, serve_outcome, serve_getUserBySession, hlookup,
    OnlineService.refreshUserOnline, serve_refreshUserOnline, serve_pure, ne_eq,
    not_true_eq_false, if_false, Bool.false_eq_true]

section Reachable

variable {ι α : Type} [DecidableEq ι]

/-- **What a heartbeat repairs.** Whatever requests were made, whichever of their
cache calls failed and whatever expired: after a heartbeat on the open session of a
user Redis has a record that names the session exactly if it had one before. -/
theorem handleHeartbeat_names_iff (service : OnlineService) {faults : Faults}
    {programs : ι → Program services α} {first : World} {pool : Pool services ι α World}
    (hfirst : first.manager = {})
    (hreaches : Pool.Reaches (machine faults) Elapses (fun _ _ _ => True)
      (Pool.start programs first) pool) {userId : UInt64} {session : SessionRef}
    (honline : pool.world.onlineSession userId = some session) {request : RouterRequest}
    (hsession : request.session = some session) :
    (pool.world.serve (handleHeartbeat service request)).2.redis.Names userId session.id ↔
      pool.world.redis.Names userId session.id := by
  have hone : pool.world.manager.OneToOne := by
    apply hreaches.world_invariant fun world => world.manager.OneToOne
    · show first.manager.OneToOne
      rw [hfirst]
      exact oneToOne_empty
    · intro call world reply next hone hmachine
      exact machine_oneToOne hmachine hone
    · intro world next hone helapses
      rw [helapses.manager]
      exact hone
  obtain ⟨binding, hbinding, -, -⟩ := onlineSession_eq_some_iff.mp honline
  have huser := (hone.positive userId binding hbinding).1
  rw [handleHeartbeat_served service hone honline hsession, Redis.Names,
    Redis.onlineRecord_refreshUserOnline _ huser service.onlineTtl_pos, Redis.Names]

end Reachable

/-! ## A record that expired -/

open OnlineService

/-- User 1 logged in on session 7. -/
def loggedIn : Requests (Fin 3) := reloginBy firstLogin

theorem reaches_loggedIn : Pool.Reaches (machine .none) Elapses (fun _ _ _ => True)
    (started oneServer relogin noLogins) loggedIn :=
  reaches_reloginBy (Pool.meets_of_forall (fun _ _ _ => trivial) _ _)

/-- No heartbeat of session 7 reached Redis while the record of user 1 lived. -/
def neglected : Requests (Fin 3) :=
  { loggedIn with
    world := { loggedIn.world with redis := { loggedIn.world.redis with nowMs := 90000 } } }

theorem reaches_neglected : Pool.Reaches (machine .none) Elapses (fun _ _ _ => True)
    (started oneServer relogin noLogins) neglected :=
  reaches_loggedIn.tail (.outside (.time (by decide)))

/-- A heartbeat on session 7. -/
def heartbeatRequest : RouterRequest where
  session := some ⟨7⟩
  packet := {}
  fields := fun _ => none

/-- The record is there and the heartbeat keeps it. -/
theorem handleHeartbeat_names_iff_loggedIn :
    loggedIn.world.onlineSession 1 = some ⟨7⟩ ∧
      (loggedIn.world.serve (handleHeartbeat oneServer heartbeatRequest)).2.redis.Names 1 7 := by
  have honline : loggedIn.world.onlineSession 1 = some ⟨7⟩ := by decide
  exact ⟨honline, (handleHeartbeat_names_iff oneServer rfl reaches_loggedIn honline rfl).mpr
    ⟨seventhRecord, by decide, rfl⟩⟩

/-- The record expired; the user is online all the same, and the heartbeat is
answered without bringing the record back. -/
theorem handleHeartbeat_leaves_no_record :
    ∃ pool : Requests (Fin 3),
      Pool.Reaches (machine .none) Elapses (fun _ _ _ => True)
        (started oneServer relogin noLogins) pool ∧
      pool.world.onlineSession 1 = some ⟨7⟩ ∧
      (pool.world.serve (handleHeartbeat oneServer heartbeatRequest)).1 =
        .ok (heartbeatResponse heartbeatRequest) ∧
      ¬ (pool.world.serve (handleHeartbeat oneServer heartbeatRequest)).2.redis.Names 1 7 := by
  exact ⟨neglected, reaches_neglected, by decide, by decide,
    Redis.not_names_of_onlineRecord_eq_none (by decide) 7⟩

end HeartbeatService

end LiteIM
