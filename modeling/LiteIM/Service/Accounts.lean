/-
# Requests about accounts and friends

The requests by which users come to know each other: registering, logging in and out, and
the four requests about friends. They are put together here, so that a run of any of them is
a pool of programs that all justify their calls in one way.
-/

import LiteIM.Service.AuthService
import LiteIM.Service.FriendService

namespace LiteIM

open Foundation FriendService AuthService

/-- `salt` is what a registration draws. -/
inductive AccountRequest where
  | register (salt : Except Error Bytes) (request : RouterRequest)
  | login (request : RouterRequest)
  | logout (request : RouterRequest)
  | addFriend (request : RouterRequest)
  | acceptFriend (request : RouterRequest)
  | rejectFriend (request : RouterRequest)
  | listFriends (request : RouterRequest)

namespace AccountRequest

variable (service : AuthService) (environment : Environment)

def handle : AccountRequest → Service Packet
  | .register salt request => handleRegister environment salt request
  | .login request => service.handleLogin environment request
  | .logout request => handleLogout request
  | .addFriend request => handleAddFriend request
  | .acceptFriend request => handleAcceptFriend request
  | .rejectFriend request => handleRejectFriend request
  | .listFriends request => handleListFriends request

def Justified : AccountRequest → List (Event services) → Event services → Prop
  | .register salt request => fun _ => RegisterJustified environment salt request
  | .login request => AuthService.Justified service environment request
  | .logout _ => fun _ event => OnlineService.Unbinds event.call
  | .addFriend request => FriendService.Justified request
  | .acceptFriend request => FriendService.Justified request
  | .rejectFriend request => FriendService.Justified request
  | .listFriends request => FriendService.Justified request

/-- What is known of a response. -/
def Answered : AccountRequest → List (Event services) → Packet → Prop
  | .listFriends request => Listed request
  | _ => fun _ _ => True

theorem handle_yields (action : AccountRequest) :
    Fallible.Yields (action.Justified service environment) action.Answered []
      (action.handle service environment) := by
  cases action with
  | register salt request => exact handleRegister_yields environment salt request
  | login request =>
    exact (service.handleLogin_follows environment request).mono fun _ _ _ _ _ _ => trivial
  | logout request => exact handleLogout_yields request
  | addFriend request => exact handleAddFriend_yields request
  | acceptFriend request => exact handleAcceptFriend_yields request
  | rejectFriend request => exact handleRejectFriend_yields request
  | listFriends request => exact handleListFriends_yields request

def request : AccountRequest → RouterRequest
  | .register _ request => request
  | .login request => request
  | .logout request => request
  | .addFriend request => request
  | .acceptFriend request => request
  | .rejectFriend request => request
  | .listFriends request => request

section Writes

variable {service environment} {action : AccountRequest} {history : List (Event services)}

/-- Only a registration adds an account. -/
theorem justified_insertUser {created : CreateUserRequest} {reply : Except Error Unit}
    (hjustified : action.Justified service environment history
      ⟨.storage (.insertUser created), reply⟩) :
    ∃ salt, newUser environment salt action.request.fields = .ok created := by
  cases action with
  | register salt => exact ⟨salt, hjustified⟩
  | login =>
    obtain ⟨credentials, -, hentitled⟩ := hjustified
    exact hentitled.elim
  | _ => exact hjustified.elim

/-- No account request writes groups. -/
theorem not_justified_createGroup {created : CreateGroupRequest}
    {reply : Except Error GroupRecord} :
    ¬ action.Justified service environment history ⟨.storage (.createGroup created), reply⟩ := by
  intro hjustified
  cases action with
  | login =>
    obtain ⟨credentials, -, hentitled⟩ := hjustified
    exact hentitled
  | _ => exact hjustified

end Writes

end AccountRequest

end LiteIM
