/-
# Conversation ids of two users

The chat service numbers the conversation of two users from their ids, the history
service takes the number apart again to see who may read the conversation, and the
Qt client computes the number by itself. Small ids are packed in decimal, others into
two halves of 32 bits; the two ranges do not meet, because a packed pair of small ids
stays below the smallest number with a nonzero upper half.
-/

import LiteIM.Service.ChatService

namespace LiteIM

open Foundation UInt64

namespace HistoryService

def kSmallUserIdConversationBase : UInt64 := 10000

/-- The two users of a private conversation; the flag says whether there are two. -/
def decodePrivateConversationId (conversationId : UInt64) : Bool × UInt64 × UInt64 :=
  if conversationId = 0 then (false, 0, 0)
  else
    let smallMax := kSmallUserIdConversationBase * kSmallUserIdConversationBase
    let (left, right) :=
      if conversationId < smallMax then
        (conversationId / kSmallUserIdConversationBase,
          conversationId % kSmallUserIdConversationBase)
      else (conversationId >>> 32, conversationId &&& 0xFFFFFFFF)
    (left ≠ 0 ∧ right ≠ 0 ∧ left ≠ right, left, right)

def isPrivateConversationMember (userId conversationId : UInt64) : Bool :=
  let (isPair, left, right) := decodePrivateConversationId conversationId
  if isPair = false then false else userId = left ∨ userId = right

end HistoryService

namespace ChatController

def kSmallUserIdConversationBase : UInt64 := 10000

/-- The client's number for a conversation; 0 is none. -/
def privateConversationId (leftUserId rightUserId : UInt64) : UInt64 :=
  if leftUserId = 0 ∨ rightUserId = 0 ∨ leftUserId = rightUserId then 0
  else
    let left := min leftUserId rightUserId
    let right := max leftUserId rightUserId
    if left < kSmallUserIdConversationBase ∧ right < kSmallUserIdConversationBase then
      left * kSmallUserIdConversationBase + right
    else if right > 0xFFFFFFFF then 0
    else (left <<< 32) ||| right

end ChatController

namespace ChatService

/-! ## Packing -/

/-- Two ids below the base, packed in decimal. -/
theorem toNat_packSmall {left right : UInt64} (hleft : left < kSmallUserIdConversationBase)
    (hright : right < kSmallUserIdConversationBase) :
    (left * kSmallUserIdConversationBase + right).toNat = left.toNat * 10000 + right.toNat := by
  have hleft' : left.toNat < 10000 := lt_iff_toNat_lt.mp hleft
  have hright' : right.toNat < 10000 := lt_iff_toNat_lt.mp hright
  rw [UInt64.toNat_add, UInt64.toNat_mul,
    show kSmallUserIdConversationBase.toNat = 10000 from rfl]
  omega

/-- Two ids of 32 bits, packed into the halves of a number. -/
theorem toNat_packLarge {left right : UInt64} (hleft : left.toNat < 2 ^ 32)
    (hright : right.toNat < 2 ^ 32) :
    ((left <<< 32) ||| right).toNat = left.toNat * 2 ^ 32 + right.toNat := by
  have hshift : (left <<< 32).toNat = left.toNat <<< 32 := by
    rw [UInt64.toNat_shiftLeft, show (32 : UInt64).toNat % 64 = 32 from rfl, Nat.shiftLeft_eq]
    omega
  rw [UInt64.toNat_or, hshift, ← Nat.shiftLeft_add_eq_or_of_lt hright, Nat.shiftLeft_eq]

/-- The number of an ordered pair of ids, without machine arithmetic. -/
def pairNumber (left right : Nat) : Nat :=
  if right < 10000 then left * 10000 + right else left * 2 ^ 32 + right

theorem toNat_min (first second : UInt64) :
    (min first second).toNat = min first.toNat second.toNat := by
  show (if first ≤ second then first else second).toNat = _
  split_ifs with hle
  · rw [Nat.min_eq_left (le_iff_toNat_le.mp hle)]
  · have hlt : second.toNat < first.toNat :=
      Nat.not_le.mp fun hnat => hle (le_iff_toNat_le.mpr hnat)
    rw [Nat.min_eq_right (Nat.le_of_lt hlt)]

theorem toNat_max (first second : UInt64) :
    (max first second).toNat = max first.toNat second.toNat := by
  show (if first ≤ second then second else first).toNat = _
  split_ifs with hle
  · rw [Nat.max_eq_right (le_iff_toNat_le.mp hle)]
  · have hlt : second.toNat < first.toNat :=
      Nat.not_le.mp fun hnat => hle (le_iff_toNat_le.mpr hnat)
    rw [Nat.max_eq_left (Nat.le_of_lt hlt)]

/-- The users have a number: their ids are positive, distinct and of 32 bits. -/
def Numbered (first second : UInt64) : Prop :=
  first ≠ 0 ∧ second ≠ 0 ∧ first ≠ second ∧ (max first second).toNat < 2 ^ 32

variable {first second : UInt64}

theorem Numbered.min_pos (hnumbered : Numbered first second) : 0 < (min first second).toNat := by
  obtain ⟨hfirst, hsecond, -, -⟩ := hnumbered
  have hfirst : first.toNat ≠ 0 := fun hzero => hfirst (UInt64.toNat_inj.mp hzero)
  have hsecond : second.toNat ≠ 0 := fun hzero => hsecond (UInt64.toNat_inj.mp hzero)
  rw [toNat_min]
  omega

theorem Numbered.min_lt_max (hnumbered : Numbered first second) :
    (min first second).toNat < (max first second).toNat := by
  obtain ⟨-, -, hne, -⟩ := hnumbered
  have hne : first.toNat ≠ second.toNat := fun hsame => hne (UInt64.toNat_inj.mp hsame)
  rw [toNat_min, toNat_max]
  omega

/-- What server and client compute from the ids of two users that have a number. -/
def packed (first second : UInt64) : UInt64 :=
  if min first second < kSmallUserIdConversationBase ∧
      max first second < kSmallUserIdConversationBase then
    min first second * kSmallUserIdConversationBase + max first second
  else (min first second <<< 32) ||| max first second

/-- It is the number of the ids in order, so no step of the computation overflows. -/
theorem toNat_packed (hnumbered : Numbered first second) : (packed first second).toNat =
      pairNumber (min first second).toNat (max first second).toNat := by
  have hordered := hnumbered.min_lt_max
  have hright := hnumbered.2.2.2
  rw [packed]
  split_ifs with hsmall
  · have hlt : (max first second).toNat < 10000 := lt_iff_toNat_lt.mp hsmall.2
    rw [toNat_packSmall hsmall.1 hsmall.2, pairNumber, if_pos hlt]
  · have hlarge : ¬ (max first second).toNat < 10000 := by
      intro hlt
      exact hsmall ⟨lt_iff_toNat_lt.mpr (hordered.trans hlt),
        lt_iff_toNat_lt.mpr hlt⟩
    rw [toNat_packLarge (hordered.trans hright) hright, pairNumber, if_neg hlarge]

theorem packed_comm (first second : UInt64) : packed first second = packed second first := by
  have hmin : min first second = min second first := by
    rw [← UInt64.toNat_inj, toNat_min, toNat_min, Nat.min_comm]
  have hmax : max first second = max second first := by
    rw [← UInt64.toNat_inj, toNat_max, toNat_max, Nat.max_comm]
  rw [packed, packed, hmin, hmax]

theorem Numbered.symm (hnumbered : Numbered first second) : Numbered second first := by
  obtain ⟨hfirst, hsecond, hne, hlimit⟩ := hnumbered
  rw [toNat_max] at hlimit
  refine ⟨hsecond, hfirst, Ne.symm hne, ?_⟩
  rwa [toNat_max, Nat.max_comm]

theorem gt_limit_iff {value : UInt64} : value > 0xFFFFFFFF ↔ ¬ value.toNat < 2 ^ 32 := by
  rw [gt_iff_lt, lt_iff_toNat_lt, show (0xFFFFFFFF : UInt64).toNat = 2 ^ 32 - 1 from rfl]
  omega

/-- A small pair is of 32 bits. -/
theorem lt_limit_of_small {value : UInt64} (hsmall : value < kSmallUserIdConversationBase) :
    value.toNat < 2 ^ 32 :=
  Nat.lt_trans (lt_iff_toNat_lt.mp hsmall) (by decide)

/-! ## Server and client -/

theorem privateConversationId_of_numbered (hnumbered : Numbered first second) :
    privateConversationId first second = .ok (packed first second) := by
  obtain ⟨hfirst, hsecond, hne, hlimit⟩ := hnumbered
  have hfits : ¬ max first second > 0xFFFFFFFF := fun hlarge => gt_limit_iff.mp hlarge hlimit
  simp only [privateConversationId, packed, hfirst, hsecond, hne, or_self, if_false, hfits]
  split_ifs with hsmall
  · rfl
  · rfl

theorem privateConversationId_of_not_numbered (hnumbered : ¬ Numbered first second) :
    ∃ status, privateConversationId first second = .error status := by
  rw [privateConversationId]
  by_cases hinvalid : first = 0 ∨ second = 0 ∨ first = second
  · exact ⟨_, if_pos hinvalid⟩
  · have hlimit : ¬ (max first second).toNat < 2 ^ 32 := by
      intro hlimit
      simp only [not_or] at hinvalid
      exact hnumbered ⟨hinvalid.1, hinvalid.2.1, hinvalid.2.2, hlimit⟩
    have hsmall : ¬ (min first second < kSmallUserIdConversationBase ∧
        max first second < kSmallUserIdConversationBase) :=
      fun hsmall => hlimit (lt_limit_of_small hsmall.2)
    simp only [if_neg hinvalid, if_neg hsmall, if_pos (gt_limit_iff.mpr hlimit)]
    exact ⟨_, rfl⟩

/-- The client computes what the server does, and has 0 for the server's errors. -/
theorem client_privateConversationId_eq (first second : UInt64) :
    ChatController.privateConversationId first second =
      match privateConversationId first second with
      | .ok conversationId => conversationId
      | .error _ => 0 := by
  rw [ChatController.privateConversationId, privateConversationId,
    show ChatController.kSmallUserIdConversationBase = kSmallUserIdConversationBase from rfl]
  by_cases hinvalid : first = 0 ∨ second = 0 ∨ first = second
  · simp only [if_pos hinvalid]
  · by_cases hsmall : min first second < kSmallUserIdConversationBase ∧
        max first second < kSmallUserIdConversationBase
    · simp only [if_neg hinvalid, if_pos hsmall]
    · by_cases hlarge : max first second > 0xFFFFFFFF
      · simp only [if_neg hinvalid, if_neg hsmall, if_pos hlarge, Status.error]
      · simp only [if_neg hinvalid, if_neg hsmall, if_neg hlarge]

theorem numbered_of_ok {conversationId : UInt64}
    (hid : privateConversationId first second = .ok conversationId) :
    Numbered first second ∧ conversationId = packed first second := by
  by_cases hnumbered : Numbered first second
  · rw [privateConversationId_of_numbered hnumbered] at hid
    exact ⟨hnumbered, (Except.ok.inj hid).symm⟩
  · obtain ⟨status, herror⟩ := privateConversationId_of_not_numbered hnumbered
    rw [herror] at hid
    cases hid

/-! ## Taking a number apart -/

theorem ne_of_toNat_ne (hne : first.toNat ≠ second.toNat) :
    first ≠ second := fun hsame => hne (congrArg toNat hsame)

/-- The history service finds the two users of a number, the smaller first. -/
theorem decodePrivateConversationId_packed (hnumbered : Numbered first second) :
    HistoryService.decodePrivateConversationId (packed first second) =
      (true, min first second, max first second) := by
  have hnumber := toNat_packed hnumbered
  have hpos := hnumbered.min_pos
  have hordered := hnumbered.min_lt_max
  have hright := hnumbered.2.2.2
  have hleftZero : min first second ≠ 0 := ne_of_toNat_ne (Nat.ne_of_gt hpos)
  have hrightZero : max first second ≠ 0 := ne_of_toNat_ne (Nat.ne_of_gt (hpos.trans hordered))
  have hdistinct : min first second ≠ max first second := ne_of_toNat_ne (Nat.ne_of_lt hordered)
  have hbase : (10000 : UInt64).toNat = 10000 := rfl
  have hsmallMax : (100000000 : UInt64).toNat = 10000 * 10000 := rfl
  by_cases hsmall : (max first second).toNat < 10000
  · rw [pairNumber, if_pos hsmall] at hnumber
    have hzero : packed first second ≠ 0 := by
      apply ne_of_toNat_ne
      rw [hnumber, show (0 : UInt64).toNat = 0 from rfl]
      omega
    have hlt : packed first second < 100000000 := by
      rw [lt_iff_toNat_lt, hnumber, hsmallMax]
      omega
    have hleft : packed first second / 10000 = min first second := by
      rw [← UInt64.toNat_inj, UInt64.toNat_div, hnumber, hbase]
      omega
    have hrest : packed first second % 10000 = max first second := by
      rw [← UInt64.toNat_inj, UInt64.toNat_mod, hnumber, hbase]
      omega
    simp [HistoryService.decodePrivateConversationId, HistoryService.kSmallUserIdConversationBase,
      hzero, hlt, hleft, hrest, hleftZero, hrightZero, hdistinct]
  · rw [pairNumber, if_neg hsmall] at hnumber
    have hzero : packed first second ≠ 0 := by
      apply ne_of_toNat_ne
      rw [hnumber, show (0 : UInt64).toNat = 0 from rfl]
      omega
    have hge : ¬ packed first second < 100000000 := by
      rw [lt_iff_toNat_lt, hnumber, hsmallMax]
      omega
    have hleft : packed first second >>> 32 = min first second := by
      rw [← UInt64.toNat_inj, UInt64.toNat_shiftRight, hnumber,
        show (32 : UInt64).toNat % 64 = 32 from rfl, Nat.shiftRight_eq_div_pow]
      omega
    have hrest : packed first second &&& 0xFFFFFFFF = max first second := by
      rw [← UInt64.toNat_inj, UInt64.toNat_and, hnumber,
        show (0xFFFFFFFF : UInt64).toNat = 2 ^ 32 - 1 from rfl, Nat.and_two_pow_sub_one_eq_mod]
      omega
    simp [HistoryService.decodePrivateConversationId, HistoryService.kSmallUserIdConversationBase,
      hzero, hge, hleft, hrest, hleftZero, hrightZero, hdistinct]

/-- The two ids are those of the smaller and the larger one. -/
theorem eq_or_eq_of_min_max {third fourth : UInt64} (hmin : min first second = min third fourth)
    (hmax : max first second = max third fourth) :
    (third = first ∧ fourth = second) ∨ (third = second ∧ fourth = first) := by
  have hmin := congrArg toNat hmin
  have hmax := congrArg toNat hmax
  rw [toNat_min, toNat_min] at hmin
  rw [toNat_max, toNat_max] at hmax
  rw [← UInt64.toNat_inj, ← UInt64.toNat_inj, ← UInt64.toNat_inj, ← UInt64.toNat_inj]
  omega

/-- Who the history service lets read a private conversation: its two users. -/
theorem isPrivateConversationMember_iff {conversationId : UInt64}
    (hid : privateConversationId first second = .ok conversationId) (userId : UInt64) :
    HistoryService.isPrivateConversationMember userId conversationId = true ↔
      userId = first ∨ userId = second := by
  obtain ⟨hnumbered, rfl⟩ := numbered_of_ok hid
  simp only [HistoryService.isPrivateConversationMember,
    decodePrivateConversationId_packed hnumbered, Bool.true_eq_false, if_false,
    decide_eq_true_eq, ← UInt64.toNat_inj, toNat_min, toNat_max]
  omega

/-- The number of two users does not depend on their order, is computed without
overflow, and is taken apart into the smaller and the larger id; so it belongs to no
other two users. The client computes the same number, and 0 exactly when the server
has none. -/
theorem privateConversationId_names_pair (first second : UInt64) :
    (∀ conversationId, privateConversationId first second = .ok conversationId →
      privateConversationId second first = .ok conversationId ∧
      conversationId.toNat = pairNumber (min first second).toNat (max first second).toNat ∧
      HistoryService.decodePrivateConversationId conversationId =
        (true, min first second, max first second) ∧
      (∀ third fourth, privateConversationId third fourth = .ok conversationId →
        (third = first ∧ fourth = second) ∨ (third = second ∧ fourth = first)) ∧
      ChatController.privateConversationId first second = conversationId) ∧
    (ChatController.privateConversationId first second = 0 ↔
      ∃ status, privateConversationId first second = .error status) := by
  refine ⟨?_, ?_⟩
  · intro conversationId hid
    have hclient := client_privateConversationId_eq first second
    rw [hid] at hclient
    obtain ⟨hnumbered, rfl⟩ := numbered_of_ok hid
    refine ⟨?_, toNat_packed hnumbered, decodePrivateConversationId_packed hnumbered, ?_, hclient⟩
    · rw [packed_comm]
      exact privateConversationId_of_numbered hnumbered.symm
    · intro third fourth hother
      obtain ⟨hothers, hsame⟩ := numbered_of_ok hother
      have hdecode := decodePrivateConversationId_packed hnumbered
      rw [hsame, decodePrivateConversationId_packed hothers, Prod.mk.injEq, Prod.mk.injEq]
        at hdecode
      exact eq_or_eq_of_min_max hdecode.2.1.symm hdecode.2.2.symm
  · rw [client_privateConversationId_eq]
    cases hid : privateConversationId first second with
    | error => simp
    | ok =>
      obtain ⟨hnumbered, rfl⟩ := numbered_of_ok hid
      have hpos := hnumbered.min_pos
      have hnumber := toNat_packed hnumbered
      have hne : packed first second ≠ 0 := by
        apply ne_of_toNat_ne
        rw [hnumber, pairNumber, show (0 : UInt64).toNat = 0 from rfl]
        split_ifs
        · omega
        · omega
      simp [hne]

/-- Users 70000 and 5. -/
theorem privateConversationId_names_pair_large :
    privateConversationId 70000 5 = .ok 21474906480 ∧
      privateConversationId 5 70000 = .ok 21474906480 ∧
      HistoryService.decodePrivateConversationId 21474906480 = (true, 5, 70000) := by
  have hid : privateConversationId 70000 5 = .ok 21474906480 := by decide
  obtain ⟨hsymm, -, hdecode, -⟩ := (privateConversationId_names_pair 70000 5).1 _ hid
  exact ⟨hid, hsymm, hdecode⟩

end ChatService

end LiteIM
