/-
# The chat page of the Qt client

The page shows the messages of one conversation. Sends and pushes are appended, and the latest
message that is being sent is marked when some message was delivered or some request failed;
every page of history replaces what is shown. So the page keeps its messages, in order, as long
as pages of history include them.
-/

import LiteIM.ClientQt.ChatController
import LiteIM.Foundation.Transition

namespace LiteIM.ClientQt

open Foundation List

structure ChatPage where
  activeConversationId : String := ""
  messages : List ChatMessage := []

/-- What happens to the page. `failures` is how often `requestFailed` is emitted while a message
is sent: twice if the socket refuses its packet. -/
inductive PageEvent where
  | opened (conversationId : String)
  | sendRequested (userName text : String) (sentAt : Int64) (failures : Nat)
  | messageReceived (message : ChatMessage)
  | messageDelivered (message : ChatMessage)
  | historyLoaded (messages : List ChatMessage)
  | requestFailed

namespace ChatPage

def ofOpen (page : ChatPage) (messages : List ChatMessage) : List ChatMessage :=
  messages.filter fun message =>
    page.activeConversationId = "" ∨ message.conversationId = page.activeConversationId

def setMessages (page : ChatPage) (messages : List ChatMessage) : ChatPage :=
  { page with messages := page.ofOpen messages }

def appendMessage (page : ChatPage) (message : ChatMessage) : ChatPage :=
  if page.activeConversationId ≠ "" ∧ message.conversationId ≠ page.activeConversationId then page
  else { page with messages := page.messages ++ [message] }

def markFirst (status : MessageSendStatus) : List ChatMessage → List ChatMessage
  | [] => []
  | message :: rest =>
    if message.direction = .outgoing ∧ message.status = .sending then
      { message with status } :: rest
    else message :: markFirst status rest

/-- The loop runs from the last message to the first. -/
def markLatestOutgoingStatus (status : MessageSendStatus) (page : ChatPage) : ChatPage :=
  { page with messages := (markFirst status page.messages.reverse).reverse }

def handleSendRequested (page : ChatPage) (userName text : String) (sentAt : Int64) : ChatPage :=
  if page.activeConversationId = "" then page
  else
    page.appendMessage
      { conversationId := page.activeConversationId, messageId := 0, senderId := 0,
        senderName := userName, text, sentAt, direction := .outgoing, status := .sending }

/-- `MainWindow` hands its signals to the page. -/
def handle (page : ChatPage) : PageEvent → ChatPage
  | .opened conversationId => { activeConversationId := conversationId }
  | .sendRequested userName text sentAt failures =>
    (markLatestOutgoingStatus .failed)^[failures] (page.handleSendRequested userName text sentAt)
  | .messageReceived message =>
    if message.conversationId = page.activeConversationId then page.appendMessage message else page
  | .messageDelivered message =>
    if message.conversationId ≠ page.activeConversationId then page
    else page.markLatestOutgoingStatus .succeeded
  | .historyLoaded messages => page.setMessages messages
  | .requestFailed => page.markLatestOutgoingStatus .failed

/-- The messages, whatever became of them. -/
def keys (messages : List ChatMessage) : List ChatMessage :=
  messages.map ({ · with status := .sending })

/-- The ids that the server gave grow. -/
def Ordered (messages : List ChatMessage) : Prop :=
  (messages.filter (·.messageId ≠ 0)).Pairwise (·.messageId < ·.messageId)

/-- The conversation stays open, a page of history includes what is shown, oldest first, and
pushes are newer than that. -/
def Inclusive (page : ChatPage) : PageEvent → Prop
  | .opened _ => False
  | .messageReceived message => message.conversationId = page.activeConversationId →
    ∀ key ∈ keys page.messages, key.messageId < message.messageId
  | .historyLoaded messages => (keys page.messages).Sublist (keys (page.ofOpen messages)) ∧
    Ordered (keys (page.ofOpen messages))
  | _ => True

def Step (before : ChatPage) (event : PageEvent) (after : ChatPage) : Prop :=
  before.Inclusive event ∧ after = before.handle event

/-- Nothing that is shown disappears, and the order stays. -/
def Kept (before after : ChatPage) : Prop :=
  (keys before.messages).Sublist (keys after.messages) ∧
    (Ordered (keys before.messages) → Ordered (keys after.messages))

variable {page : ChatPage} {message : ChatMessage}

theorem kept_of_keys {after : ChatPage} (hkeys : keys after.messages = keys page.messages) :
    Kept page after := by
  rw [Kept, hkeys]
  exact ⟨.refl _, id⟩

theorem Kept.trans {mid last : ChatPage} (hfirst : Kept page mid) (hrest : Kept mid last) :
    Kept page last :=
  ⟨hfirst.1.trans hrest.1, hrest.2 ∘ hfirst.2⟩

theorem keys_markFirst (status : MessageSendStatus) (messages : List ChatMessage) :
    keys (markFirst status messages) = keys messages := by
  induction messages with
  | nil => rfl
  | cons message rest ih =>
    rw [markFirst]
    split_ifs
    · rfl
    · exact congrArg (_ :: ·) ih

theorem kept_mark (status : MessageSendStatus) (page : ChatPage) :
    Kept page (page.markLatestOutgoingStatus status) := by
  apply kept_of_keys
  rw [keys, markLatestOutgoingStatus, map_reverse]
  exact (congrArg reverse (keys_markFirst ..)).trans (by simp [keys])

theorem kept_append (hactive : message.conversationId = page.activeConversationId)
    (hnewer : message.messageId ≠ 0 →
      ∀ key ∈ keys page.messages, key.messageId < message.messageId) :
    Kept page (page.appendMessage message) := by
  have hkeys : keys (page.appendMessage message).messages =
      keys page.messages ++ [{ message with status := .sending }] := by
    rw [appendMessage, if_neg fun hother => hother.2 hactive, keys, map_append]
    rfl
  rw [Kept, hkeys]
  refine ⟨sublist_append_left .., fun hordered => ?_⟩
  rw [Ordered, filter_append, pairwise_append]
  refine ⟨hordered, Pairwise.filter _ (pairwise_singleton ..), ?_⟩
  intro key hkey new hnew
  obtain ⟨hnew, hid⟩ := mem_filter.mp hnew
  obtain rfl := mem_singleton.mp hnew
  exact hnewer (of_decide_eq_true hid) key (mem_filter.mp hkey).1

theorem kept_handle {event : PageEvent} (hinclusive : page.Inclusive event) :
    Kept page (page.handle event) := by
  cases event with
  | opened => exact hinclusive.elim
  | sendRequested userName text sentAt failures =>
    have hsent : Kept page (page.handleSendRequested userName text sentAt) := by
      rw [handleSendRequested]
      split_ifs
      · exact kept_of_keys rfl
      · exact kept_append rfl fun hid => absurd rfl hid
    exact Function.Iterate.rec (Kept page) hsent
      (fun _ hkept => hkept.trans (kept_mark ..)) failures
  | messageReceived message =>
    rw [handle]
    split_ifs with hactive
    · exact kept_append hactive fun _ => hinclusive hactive
    · exact kept_of_keys rfl
  | messageDelivered =>
    rw [handle]
    split_ifs
    · exact kept_of_keys rfl
    · exact kept_mark ..
  | historyLoaded => exact ⟨hinclusive.1, fun _ => hinclusive.2⟩
  | requestFailed => exact kept_mark ..

/-- While a conversation is open and pages of history include what is shown, nothing that was
shown disappears, and the ids that the server gave grow, so no message of the server is shown
twice. -/
theorem messages_kept (first last : ChatPage) (events : List PageEvent)
    (hordered : Ordered (keys first.messages)) (hpath : Path Step first events last) :
    (keys first.messages).Sublist (keys last.messages) ∧ Ordered (keys last.messages) := by
  have hkept : Kept first last := by
    apply hpath.state_invariant (Kept first) (kept_of_keys rfl)
    rintro before event _ hbefore ⟨hinclusive, rfl⟩
    exact hbefore.trans (kept_handle hinclusive)
  exact ⟨hkept.1, hkept.2 hordered⟩

def received (messageId : UInt64) : ChatMessage where
  conversationId := "private:5"
  messageId := messageId
  senderId := 5
  senderName := "User 5"
  text := "a"
  sentAt := 0
  direction := .incoming
  status := .succeeded

/-- A page of history that begins earlier, a send that fails, and a push. -/
def visit : List PageEvent :=
  [.historyLoaded [received 1, received 2], .sendRequested "User 1" "b" 0 1,
    .messageReceived (received 3)]

theorem messages_kept_visit : ∃ last : ChatPage,
    Path Step ⟨"private:5", [received 2]⟩ visit last ∧
    last.messages.map (·.messageId) = [1, 2, 0, 3] ∧
    (keys [received 2]).Sublist (keys last.messages) ∧ Ordered (keys last.messages) := by
  have hordered : Ordered (keys [received 1, received 2]) := pairwise_pair.mpr (by decide)
  have hpath : Path Step ⟨"private:5", [received 2]⟩ visit _ :=
    .cons ⟨⟨by decide, hordered⟩, rfl⟩
      (.cons ⟨trivial, rfl⟩ (.single ⟨fun _ => by decide, rfl⟩))
  exact ⟨_, hpath, by decide, messages_kept ⟨"private:5", [received 2]⟩ _ visit
    (pairwise_singleton ..) hpath⟩

/-- A conversation is opened and its latest page shown; the page before it replaces that. -/
theorem earlier_page_replaces :
    ((({} : ChatPage).handle (.opened "private:5")).handle
      (.historyLoaded [received 2])).messages = [received 2] ∧
    (((({} : ChatPage).handle (.opened "private:5")).handle
      (.historyLoaded [received 2])).handle (.historyLoaded [received 1])).messages =
        [received 1] := by
  decide

end ChatPage

end LiteIM.ClientQt
