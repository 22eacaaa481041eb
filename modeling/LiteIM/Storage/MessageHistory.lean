/-
# Reading a conversation page by page

`MessageDao::getHistoryByConversation`: the newest messages of a conversation below a
cursor, newest first. The cursor of the next page is the last message id of this one, so
what is left to read after a page is what was left before it without the page; messages
that are stored in the meantime get larger ids and stay above the cursor.
-/

import LiteIM.Foundation.Paging
import LiteIM.Storage.MySqlStorage

namespace LiteIM

open Foundation List

namespace MessageDao

def kMaxHistoryLimit : Nat := 50

def validateConversationKey (conversation : ConversationKey) : Except Error Unit :=
  if conversation.id = 0 then
    Status.error .invalidArgument "conversation id must not be zero"
  else .ok ()

end MessageDao

namespace Tables

/-- The messages of a conversation below a cursor, newest first. -/
def remaining (tables : Tables) (conversation : ConversationKey) (beforeMessageId : UInt64) :
    List MessageRow :=
  (tables.messages.filter fun row =>
    row.conversation = conversation ∧
      (beforeMessageId = 0 ∨ row.messageId < beforeMessageId)).reverse

def getHistoryByConversation (tables : Tables) (query : HistoryQuery) :
    Except Error (List MessageRecord) := do
  MessageDao.validateConversationKey query.conversation
  if query.limit = 0 then
    Status.error .invalidArgument "history query limit must not be zero"
  else
    .ok (((tables.remaining query.conversation query.beforeMessageId).take
      (min query.limit MessageDao.kMaxHistoryLimit)).map MessageRow.toRecord)

variable {tables : Tables}

theorem getHistoryByConversation_ok {query : HistoryQuery} {messages : List MessageRecord}
    (hget : tables.getHistoryByConversation query = .ok messages) :
    messages = ((tables.remaining query.conversation query.beforeMessageId).take
      (min query.limit MessageDao.kMaxHistoryLimit)).map MessageRow.toRecord := by
  obtain ⟨_, -, hrest⟩ := bind_eq_ok_iff.mp hget
  by_cases hlimit : query.limit = 0
  · simp [hlimit, Status.error] at hrest
  · rw [if_neg hlimit] at hrest
    exact (Except.ok.inj hrest).symm

variable {row : MessageRow} {conversation : ConversationKey} {beforeMessageId : UInt64}

theorem mem_remaining : row ∈ tables.remaining conversation beforeMessageId ↔
      row ∈ tables.messages ∧ row.conversation = conversation ∧
        (beforeMessageId = 0 ∨ row.messageId < beforeMessageId) := by
  simp [remaining]

/-- What is returned is stored in the conversation that was asked for. -/
theorem getHistoryByConversation_mem {query : HistoryQuery} {messages : List MessageRecord}
    (hget : tables.getHistoryByConversation query = .ok messages) {message : MessageRecord}
    (hmem : message ∈ messages) : ∃ row ∈ tables.messages, row.conversation = query.conversation ∧
      message = row.toRecord := by
  rw [getHistoryByConversation_ok hget] at hmem
  obtain ⟨row, hrow, rfl⟩ := mem_map.mp hmem
  obtain ⟨hstored, hconversation, -⟩ := mem_remaining.mp (mem_of_mem_take hrow)
  exact ⟨row, hstored, hconversation, rfl⟩

/-! ## The next page -/

/-- What is left to read is in decreasing order of ids. -/
theorem Keyed.remaining_sorted (hkeyed : tables.Keyed) (conversation : ConversationKey)
    (beforeMessageId : UInt64) :
    (tables.remaining conversation beforeMessageId).Pairwise fun first second =>
      second.messageId.toNat < first.messageId.toNat :=
  pairwise_reverse.mpr (hkeyed.message_sorted.filter _)

variable {later : Tables} {added : List MessageRow}

/-- Messages that were stored since have larger ids. -/
theorem Keyed.lt_of_added (hkeyed : later.Keyed)
    (hadded : later.messages = tables.messages ++ added) {other : MessageRow}
    (hrow : row ∈ tables.messages) (hother : other ∈ added) :
    row.messageId.toNat < other.messageId.toNat := by
  have hsorted := hkeyed.message_sorted
  rw [hadded] at hsorted
  exact (pairwise_append.mp hsorted).2.2 row hrow other hother

/-- The cursor of a stored message leaves out what was stored since. -/
theorem remaining_of_added (hkeyed : later.Keyed)
    (hadded : later.messages = tables.messages ++ added) (hrow : row ∈ tables.messages) :
    later.remaining conversation row.messageId =
      tables.remaining conversation row.messageId := by
  have hpositive := hkeyed.message_pos row (by rw [hadded]; exact mem_append_left _ hrow)
  have hnone : added.filter (fun other => other.conversation = conversation ∧
      (row.messageId = 0 ∨ other.messageId < row.messageId)) = [] := by
    apply filter_eq_nil_iff.mpr
    intro other hother
    have hlarger := hkeyed.lt_of_added hadded hrow hother
    have hzero : row.messageId ≠ 0 := fun hzero => by simp [hzero] at hpositive
    simp only [decide_eq_true_eq, hzero, false_or, not_and, UInt64.lt_iff_toNat_lt]
    intro _
    exact Nat.not_lt.mpr (Nat.le_of_lt hlarger)
  rw [remaining, hadded, filter_append, hnone, append_nil, remaining]

/-- Below a message that is still to be read. -/
theorem remaining_below (hkeyed : tables.Keyed)
    (hrow : row ∈ tables.remaining conversation beforeMessageId) :
    tables.remaining conversation row.messageId =
      (tables.remaining conversation beforeMessageId).filter fun other =>
        other.messageId.toNat < row.messageId.toNat := by
  obtain ⟨hstored, -, hcursor⟩ := mem_remaining.mp hrow
  have hzero : row.messageId ≠ 0 := fun hzero => by
    simpa [hzero] using hkeyed.message_pos row hstored
  rw [remaining, remaining, filter_reverse, filter_filter]
  congr 1
  apply filter_congr
  intro other _
  rw [← Bool.decide_and, decide_eq_decide, ← UInt64.lt_iff_toNat_lt]
  refine ⟨fun ⟨hsame, hless⟩ => ?_, fun ⟨hless, hsame, _⟩ => ⟨hsame, Or.inr hless⟩⟩
  have hless := hless.resolve_left hzero
  exact ⟨hless, hsame, hcursor.imp_right (UInt64.lt_trans hless)⟩

/-- The last message of a page as cursor: what is left is what the page left, whatever was
stored since. -/
theorem remaining_after_page (hkeyed : later.Keyed) (hbefore : tables.Keyed)
    (hadded : later.messages = tables.messages ++ added) {limit : Nat}
    (hlast : ((tables.remaining conversation beforeMessageId).take limit).getLast? = some row) :
    later.remaining conversation row.messageId =
      (tables.remaining conversation beforeMessageId).drop limit := by
  have hrow : row ∈ tables.remaining conversation beforeMessageId :=
    mem_of_mem_take (mem_of_getLast? hlast)
  rw [remaining_of_added hkeyed hadded (mem_remaining.mp hrow).1, remaining_below hbefore hrow]
  exact filter_below_getLast (fun row => row.messageId.toNat)
    (hbefore.remaining_sorted conversation beforeMessageId) hlast

end Tables

end LiteIM
