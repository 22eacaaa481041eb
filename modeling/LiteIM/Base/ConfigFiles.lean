/-
# What a configuration file means

A file is accepted when every line is empty, up to its comment and blanks, or gives a value to
a key, all keys are known, and the last value of each numeric key is a numeral in the range of
the key. The fields named in the file then have their last values and no other field changes:
the order in which the table of texts is visited has no influence, since each key writes a
field of its own.

Numbers are read by `std::stoul`, which takes a minus sign and wraps around. That is the one way
in which files do not mean what they say: a file that is accepted because such a number comes
out in the range of its key.
-/

import LiteIM.Base.Config
import LiteIM.Foundation.Outcome

namespace LiteIM

open Foundation ConfigKey List

/-- What a field holds. -/
inductive Setting where
  | text (value : Bytes)
  | number (value : Nat)
  deriving DecidableEq, Repr

namespace ConfigKey

/-- The least and the greatest number that a numeric key takes. -/
def limits : ConfigKey → Option (Nat × Nat)
  | serverPort | mysqlPort | redisPort | qtServerPort => some (1, 65535)
  | ioThreads | businessThreads | mysqlPoolSize | redisDb | redisPoolSize => some (0, 4294967295)
  | businessQueueCapacity | outputHighWaterMarkBytes => some (1, 4294967295)
  | serverHost | logLevel | mysqlHost | mysqlUser | mysqlPassword | mysqlDatabase | redisHost
  | redisPassword | qtServerHost => none

/-- What a text means as the value of a key, with `numeral` for the texts of a number. -/
def DenotesBy (numeral : Bytes → Nat → Prop) (key : ConfigKey) (value : Bytes)
    (setting : Setting) : Prop :=
  match key.limits with
  | none => setting = .text value
  | some (least, greatest) =>
      ∃ n, numeral value n ∧ least ≤ n ∧ n ≤ greatest ∧ setting = .number n

/-- What a text means as the value of a key. -/
abbrev Denotes : ConfigKey → Bytes → Setting → Prop := DenotesBy IsNumeral

/-- What is made of a text as the value of a key. -/
abbrev Takes : ConfigKey → Bytes → Setting → Prop := DenotesBy IsRead

theorem takes_iff {key : ConfigKey} {value : Bytes} {setting : Setting} :
    key.Takes value setting ↔
      key.Denotes value setting ∨ key.limits ≠ none ∧ key.DenotesBy IsWrapped value setting := by
  cases hlimits : key.limits with
  | none => simp [DenotesBy, hlimits]
  | some limits => simp [DenotesBy, hlimits, IsRead, or_and_right, exists_or]

/-- A text that is wrapped around means nothing. -/
theorem not_denotes_of_wrapped {key : ConfigKey} {value : Bytes} {setting other : Setting}
    (hnumeric : key.limits ≠ none) (hwrapped : key.DenotesBy IsWrapped value setting) :
    ¬key.Denotes value other := by
  obtain ⟨⟨least, greatest⟩, hlimits⟩ := Option.ne_none_iff_exists'.mp hnumeric
  simp only [DenotesBy, hlimits] at hwrapped ⊢
  obtain ⟨n, hn, -⟩ := hwrapped
  rintro ⟨n', hn', -⟩
  exact hn.not_isNumeral hn'

end ConfigKey

namespace Config

/-- The field that a key names. -/
def field (config : Config) : ConfigKey → Setting
  | .serverHost => .text config.serverHost
  | .serverPort => .number config.serverPort.toNat
  | .ioThreads => .number config.ioThreads.toNat
  | .businessThreads => .number config.businessThreads.toNat
  | .businessQueueCapacity => .number config.businessQueueCapacity.toNat
  | .outputHighWaterMarkBytes => .number config.sessionOutputHighWaterMark
  | .logLevel => .text config.logLevel
  | .mysqlHost => .text config.mysql.host
  | .mysqlPort => .number config.mysql.port.toNat
  | .mysqlUser => .text config.mysql.user
  | .mysqlPassword => .text config.mysql.password
  | .mysqlDatabase => .text config.mysql.database
  | .mysqlPoolSize => .number config.mysql.poolSize.toNat
  | .redisHost => .text config.redis.host
  | .redisPort => .number config.redis.port.toNat
  | .redisPassword => .text config.redis.password
  | .redisDb => .number config.redis.db.toNat
  | .redisPoolSize => .number config.redis.poolSize.toNat
  | .qtServerHost => .text config.qtClient.serverHost
  | .qtServerPort => .number config.qtClient.serverPort.toNat

/-! ## Numbers -/

/-- A text as it comes out of `trim`. -/
def Trimmed (value : Bytes) : Prop := ∀ byte, value.head? = some byte → ¬isSpace byte

/-- A parser takes exactly the texts that are read as a number in a range. -/
structure Reads {α : Type} (parsed : Except Error α) (toNat : α → Nat) (value : Bytes)
    (least greatest : Nat) : Prop where
  sound : ∀ number, parsed = .ok number →
    IsRead value (toNat number) ∧ least ≤ toNat number ∧ toNat number ≤ greatest
  complete : ∀ n, IsRead value n → least ≤ n → n ≤ greatest → ∃ number, parsed = .ok number

variable {value : Bytes}

theorem reads_parseUint32 (htrimmed : Trimmed value) :
    Reads (parseUint32 value) UInt32.toNat value 0 4294967295 where
  sound number hparse := by
    rw [parseUint32] at hparse
    split at hparse
    · cases hparse
    · next wide parsed hread =>
      split_ifs at hparse with hbad
      · cases hparse
      rw [not_or, not_not, Nat.not_lt] at hbad
      obtain ⟨rfl, hwide⟩ := hbad
      cases hparse
      have hsame : wide.toUInt32.toNat = wide.toNat := by
        rw [UInt64.toNat_toUInt32, Nat.mod_eq_of_lt (Nat.lt_succ_of_le hwide)]
      rw [hsame]
      exact ⟨(stoull_whole_iff htrimmed).mp hread, Nat.zero_le _, hwide⟩
  complete n hvalue _ hn := by
    have hwide : (UInt64.ofNat n).toNat = n :=
      UInt64.toNat_ofNat_of_lt' (Nat.lt_of_le_of_lt hn (by decide))
    have hread := (stoull_whole_iff htrimmed).mpr (hwide.symm ▸ hvalue)
    refine ⟨(UInt64.ofNat n).toUInt32, ?_⟩
    simp only [parseUint32, hread, hwide]
    exact if_neg (not_or.mpr ⟨not_not_intro rfl, Nat.not_lt.mpr hn⟩)

theorem reads_parsePort (htrimmed : Trimmed value) :
    Reads (parsePort value) UInt16.toNat value 1 65535 where
  sound port hparse := by
    rw [parsePort] at hparse
    split at hparse
    · cases hparse
    · next number hnumber =>
      split_ifs at hparse with hbad
      · cases hparse
      have hrange : 1 ≤ number.toNat ∧ number.toNat ≤ 65535 := by
        rw [not_or, ← UInt32.toNat_inj, UInt32.not_lt, UInt32.le_iff_toNat_le] at hbad
        exact ⟨Nat.one_le_iff_ne_zero.mpr hbad.1, hbad.2⟩
      cases hparse
      have hsame : number.toUInt16.toNat = number.toNat := by
        rw [UInt32.toNat_toUInt16, Nat.mod_eq_of_lt (Nat.lt_succ_of_le hrange.2)]
      rw [hsame]
      exact ⟨((reads_parseUint32 htrimmed).sound number hnumber).1, hrange⟩
  complete n hvalue hpositive hn := by
    obtain ⟨number, hnumber⟩ := (reads_parseUint32 htrimmed).complete n hvalue (Nat.zero_le n)
      (Nat.le_trans hn (by decide))
    have hsame := hvalue.unique ((reads_parseUint32 htrimmed).sound number hnumber).1
    subst hsame
    refine ⟨number.toUInt16, ?_⟩
    simp only [parsePort, hnumber]
    apply if_neg
    rw [not_or, ← UInt32.toNat_inj, UInt32.not_lt, UInt32.le_iff_toNat_le]
    exact ⟨Nat.one_le_iff_ne_zero.mp hpositive, hn⟩

/-! ## Writing a field -/

theorem field_assign_of_ne (config : Config) (value : Bytes) {key other : ConfigKey}
    (hne : other ≠ key) : (config.assign value key).2.field other = config.field other := by
  cases key with
  | serverHost | logLevel | mysqlHost | mysqlUser | mysqlPassword | mysqlDatabase | redisHost
  | redisPassword | qtServerHost =>
    cases other <;> first | rfl | exact absurd rfl hne
  | serverPort | mysqlPort | redisPort | qtServerPort =>
    simp only [assign, assignPort]
    split
    · rfl
    · cases other <;> first | rfl | exact absurd rfl hne
  | ioThreads | businessThreads | mysqlPoolSize | redisDb | redisPoolSize =>
    simp only [assign, assignUint32]
    split
    · rfl
    · cases other <;> first | rfl | exact absurd rfl hne
  | businessQueueCapacity | outputHighWaterMarkBytes =>
    simp only [assign]
    split
    · rfl
    · split_ifs <;> cases other <;> first | rfl | exact absurd rfl hne

/-- A text is accepted exactly when it can be taken, and then the field holds what is taken. -/
structure Assigned (key : ConfigKey) (value : Bytes) (result : Except Error Unit × Config) :
    Prop where
  sound : result.1 = .ok () → key.Takes value (result.2.field key)
  complete : ∀ setting, key.Takes value setting → result.1 = .ok ()

/-- A numeric key whose parser takes what is read as a number in its range. -/
theorem Reads.assigned {α : Type} {parsed : Except Error α} {toNat : α → Nat} {key : ConfigKey}
    {least greatest : Nat} {result : Except Error Unit × Config}
    (hreads : Reads parsed toNat value least greatest)
    (hlimits : key.limits = some (least, greatest))
    (herror : ∀ status, parsed = .error status → result.1 ≠ .ok ())
    (hok : ∀ number, parsed = .ok number →
      result.1 = .ok () ∧ result.2.field key = .number (toNat number)) :
    Assigned key value result := by
  cases hparse : parsed with
  | error status =>
    refine ⟨fun hresult => absurd hresult (herror status hparse), fun setting hdenotes => ?_⟩
    simp only [DenotesBy, hlimits] at hdenotes
    obtain ⟨n, hvalue, hleast, hgreatest, -⟩ := hdenotes
    obtain ⟨number, hnumber⟩ := hreads.complete n hvalue hleast hgreatest
    rw [hnumber] at hparse
    cases hparse
  | ok number =>
    obtain ⟨hresult, hfield⟩ := hok number hparse
    refine ⟨fun _ => ?_, fun _ _ => hresult⟩
    simp only [DenotesBy, hlimits]
    obtain ⟨hvalue, hleast, hgreatest⟩ := hreads.sound number hparse
    exact ⟨_, hvalue, hleast, hgreatest, hfield⟩

/-- The check that `loadFromFile` makes on the numbers that must be positive. -/
def positive (parsed : Except Error UInt32) : Except Error UInt32 :=
  parsed >>= fun number =>
    if number = 0 then Status.error .invalidArgument "must be positive" else .ok number

theorem reads_positive (htrimmed : Trimmed value) :
    Reads (positive (parseUint32 value)) UInt32.toNat value 1 4294967295 where
  sound number hparse := by
    obtain ⟨found, hfound, hpositive⟩ := bind_eq_ok_iff.mp hparse
    split_ifs at hpositive with hzero
    · cases hpositive
    cases hpositive
    obtain ⟨hvalue, -, hgreatest⟩ := (reads_parseUint32 htrimmed).sound number hfound
    rw [← UInt32.toNat_inj] at hzero
    exact ⟨hvalue, Nat.one_le_iff_ne_zero.mpr hzero, hgreatest⟩
  complete n hvalue hpositive hn := by
    obtain ⟨number, hnumber⟩ := (reads_parseUint32 htrimmed).complete n hvalue (Nat.zero_le n) hn
    have hsame := hvalue.unique ((reads_parseUint32 htrimmed).sound number hnumber).1
    subst hsame
    have hzero : number ≠ 0 := by
      rintro rfl
      cases hpositive
    refine ⟨number, ?_⟩
    rw [positive, hnumber]
    exact if_neg hzero

theorem assigned_assign (config : Config) (key : ConfigKey) (htrimmed : Trimmed value) :
    Assigned key value (config.assign value key) := by
  cases key with
  | serverHost | logLevel | mysqlHost | mysqlUser | mysqlPassword | mysqlDatabase | redisHost
  | redisPassword | qtServerHost => exact ⟨fun _ => rfl, fun _ _ => rfl⟩
  | serverPort | mysqlPort | redisPort | qtServerPort =>
    apply (reads_parsePort htrimmed).assigned rfl
    · intro status hparse
      simp [assign, assignPort, hparse]
    · intro port hparse
      simp [assign, assignPort, hparse, field]
  | ioThreads | businessThreads | mysqlPoolSize | redisDb | redisPoolSize =>
    apply (reads_parseUint32 htrimmed).assigned rfl
    · intro status hparse
      simp [assign, assignUint32, hparse]
    · intro number hparse
      simp [assign, assignUint32, hparse, field]
  | businessQueueCapacity | outputHighWaterMarkBytes =>
    apply (reads_positive htrimmed).assigned rfl
    · intro status hparse
      cases hnumber : parseUint32 value with
      | error => simp [assign, hnumber]
      | ok number =>
        have hzero : number = 0 := by
          by_contra hne
          simp [positive, hnumber, hne, bind, Except.bind] at hparse
        simp [assign, hnumber, hzero, Status.error]
    · intro number hparse
      obtain ⟨found, hfound, hpositive⟩ := bind_eq_ok_iff.mp hparse
      split_ifs at hpositive with hzero
      · cases hpositive
      cases hpositive
      simp [assign, hfound, hzero, field]

/-! ## The table -/

/-- The key of an entry is known and its text can be taken. -/
def Meant (entry : Entry) : Prop :=
  ∃ (key : ConfigKey) (setting : Setting), key.name = entry.1 ∧ key.Takes entry.2 setting

variable {entry : Entry} {entries : List Entry} {config : Config} {key : ConfigKey}

theorem applyValue_of_name (hname : key.name = entry.1) :
    config.applyValue entry = config.assign entry.2 key := by
  rw [applyValue, ofName?_eq_some_iff.mpr hname]

theorem applyValue_ok_iff (htrimmed : Trimmed entry.2) :
    (config.applyValue entry).1 = .ok () ↔ Meant entry := by
  refine ⟨fun hok => ?_, ?_⟩
  · cases hkey : ofName? entry.1 with
    | none => simp [applyValue, hkey, Status.error] at hok
    | some key =>
      have hname := ofName?_eq_some_iff.mp hkey
      rw [applyValue_of_name hname] at hok
      exact ⟨key, _, hname, (assigned_assign config key htrimmed).sound hok⟩
  · rintro ⟨key, setting, hname, hdenotes⟩
    rw [applyValue_of_name hname]
    exact (assigned_assign config key htrimmed).complete setting hdenotes

theorem applyValues_cons_ok (hok : (config.applyValue entry).1 = .ok ()) :
    applyValues (entry :: entries) config = applyValues entries (config.applyValue entry).2 := by
  rw [applyValues]
  split
  · next status after happly =>
    rw [happly] at hok
    cases hok
  · next after happly => rw [happly]

theorem applyValues_ok_iff (htrimmed : ∀ entry ∈ entries, Trimmed entry.2) :
    (applyValues entries config).1 = .ok () ↔ ∀ entry ∈ entries, Meant entry := by
  induction entries generalizing config with
  | nil => exact ⟨fun _ => forall_mem_nil _, fun _ => rfl⟩
  | cons entry entries ih =>
    rw [forall_mem_cons] at htrimmed ⊢
    rw [← @applyValue_ok_iff entry config htrimmed.1]
    by_cases hok : (config.applyValue entry).1 = .ok ()
    · rw [applyValues_cons_ok hok, ih htrimmed.2]
      exact ⟨fun hrest => ⟨hok, hrest⟩, fun h => h.2⟩
    · refine ⟨fun hall => absurd ?_ hok, fun h => absurd h.1 hok⟩
      rw [applyValues] at hall
      split at hall
      · cases hall
      · next after happly => rw [happly]

/-- After the loop, a field that a key of the table names holds what was made of the text, and
any other field is unchanged. -/
theorem field_applyValues (htrimmed : ∀ entry ∈ entries, Trimmed entry.2)
    (hkeys : entries.NodupKeys) (hok : (applyValues entries config).1 = .ok ()) (key : ConfigKey) :
    (∀ value, ⟨key.name, value⟩ ∈ entries →
        key.Takes value ((applyValues entries config).2.field key)) ∧
      (key.name ∉ entries.keys →
        (applyValues entries config).2.field key = config.field key) := by
  induction entries generalizing config with
  | nil => exact ⟨fun _ => not_mem_nil.elim, fun _ => rfl⟩
  | cons entry entries ih =>
    obtain ⟨own, setting, hname, hdenotes⟩ :=
      (applyValues_ok_iff htrimmed).mp hok entry mem_cons_self
    rw [forall_mem_cons] at htrimmed
    obtain ⟨hnotMem, hrest⟩ := nodupKeys_cons.mp hkeys
    have hassigned := assigned_assign config own htrimmed.1
    have happly := hassigned.complete setting hdenotes
    rw [← applyValue_of_name hname] at happly hassigned
    rw [applyValues_cons_ok happly] at hok ⊢
    obtain ⟨hnamed, hother⟩ := ih htrimmed.2 hrest hok
    refine ⟨fun value hmem => ?_, fun habsent => ?_⟩
    · rcases mem_cons.mp hmem with heq | hmem
      · -- The rest of the table does not come back to this key.
        obtain rfl : own = key :=
          name_injective (hname.trans (congrArg Sigma.fst heq.symm))
        obtain rfl : value = entry.2 := by rw [← heq]
        rw [hother (hname ▸ hnotMem)]
        exact hassigned.sound happly
      · exact hnamed value hmem
    · rw [keys_cons, mem_cons, not_or] at habsent
      rw [hother habsent.2, applyValue_of_name hname]
      exact field_assign_of_ne config entry.2 fun heq => habsent.1 (heq ▸ hname)

/-! ## The lines -/

/-- A line gives a value to a key. -/
def Sets (line key value : Bytes) : Prop :=
  ∃ front back, lineText line = front ++ 0x3D :: back ∧ 0x3D ∉ front ∧
    trim front = key ∧ trim back = value

/-- A line is empty, up to its comment and blanks, or gives a value to a key. -/
def WellFormed (line : Bytes) : Prop :=
  lineText line = [] ∨ ∃ key value, Sets line key value ∧ key ≠ []

/-- The value that a key is given last. -/
def LastValue (lines : List Bytes) (key value : Bytes) : Prop :=
  ∃ before line after, lines = before ++ line :: after ∧ Sets line key value ∧
    ∀ later ∈ after, ∀ other, ¬Sets later key other

theorem Sets.unique {line key key' value value' : Bytes} (hsets : Sets line key value)
    (hsets' : Sets line key' value') : key = key' ∧ value = value' := by
  obtain ⟨front, back, htext, hfront, rfl, rfl⟩ := hsets
  obtain ⟨front', back', htext', hfront', rfl, rfl⟩ := hsets'
  obtain ⟨rfl, rfl⟩ := append_separator_inj hfront hfront' (htext.symm.trans htext')
  exact ⟨rfl, rfl⟩

theorem Sets.ne_nil {line key value : Bytes} (hsets : Sets line key value) :
    lineText line ≠ [] := by
  obtain ⟨front, back, htext, -⟩ := hsets
  rw [htext]
  exact append_ne_nil_of_right_ne_nil _ (cons_ne_nil _ _)

variable {line : Bytes} {lineNumber : UInt32} {values after : Values}

theorem readLine_ok_iff : readLine line lineNumber values = .ok after ↔
    lineText line = [] ∧ values = after ∨
      ∃ key value, Sets line key value ∧ key ≠ [] ∧ values.insert key value = after := by
  rw [readLine]
  split_ifs with hempty
  · simp only [hempty, true_and, Except.ok.injEq]
    refine ⟨Or.inl, fun h => h.elim id ?_⟩
    rintro ⟨key, value, hsets, -⟩
    exact absurd hempty hsets.ne_nil
  · simp only [hempty, false_and, false_or]
    split
    · next hcut =>
      refine ⟨fun hread => ?_, ?_⟩
      · cases hread
      · rintro ⟨key, value, ⟨front, back, htext, -⟩, -⟩
        rw [cutAt_eq_none_iff, htext] at hcut
        exact absurd (mem_append_right _ mem_cons_self) hcut
    · next front back hcut =>
      obtain ⟨htext, hfront⟩ := cutAt_eq_some_iff.mp hcut
      have hsets : Sets line (trim front) (trim back) := ⟨front, back, htext, hfront, rfl, rfl⟩
      split_ifs with hkey
      · refine ⟨fun hread => ?_, ?_⟩
        · cases hread
        · rintro ⟨key, value, hother, hne, -⟩
          exact absurd ((hsets.unique hother).1 ▸ hkey) hne
      · refine ⟨fun hread => ⟨_, _, hsets, hkey, Except.ok.inj hread⟩, ?_⟩
        rintro ⟨key, value, hother, -, hafter⟩
        obtain ⟨rfl, rfl⟩ := hsets.unique hother
        rw [hafter]

theorem lookup_readLine (hread : readLine line lineNumber values = .ok after)
    {key value : Bytes} : after.lookup key = some value ↔
      Sets line key value ∨ (∀ other, ¬Sets line key other) ∧ values.lookup key = some value := by
  rcases readLine_ok_iff.mp hread with ⟨hempty, rfl⟩ | ⟨own, given, hsets, -, rfl⟩
  · have hnone : ∀ other, ¬Sets line key other := fun other hsets => hsets.ne_nil hempty
    exact ⟨fun hlookup => Or.inr ⟨hnone, hlookup⟩, fun h => h.elim (hnone value).elim And.right⟩
  · by_cases hsame : key = own
    · subst hsame
      rw [AList.lookup_insert, Option.some.injEq]
      refine ⟨fun heq => Or.inl (heq ▸ hsets), fun h => h.elim (fun hother => ?_) fun h => ?_⟩
      · exact (hsets.unique hother).2
      · exact absurd hsets (h.1 given)
    · have hnone : ∀ other, ¬Sets line key other :=
        fun other hother => hsame (hother.unique hsets).1
      rw [AList.lookup_insert_ne hsame]
      exact ⟨fun hlookup => Or.inr ⟨hnone, hlookup⟩, fun h => h.elim (hnone value).elim And.right⟩

/-- Lines are read without error when each is well formed. -/
theorem exists_readLines {lines : List Bytes} (hlines : ∀ line ∈ lines, WellFormed line) :
    ∃ after, readLines lines lineNumber values = .ok after := by
  induction lines generalizing lineNumber values with
  | nil => exact ⟨values, rfl⟩
  | cons line lines ih =>
    rw [forall_mem_cons] at hlines
    obtain ⟨mid, hmid⟩ : ∃ mid, readLine line (lineNumber + 1) values = .ok mid := by
      rcases hlines.1 with hempty | ⟨key, value, hsets, hkey⟩
      · exact ⟨_, readLine_ok_iff.mpr (Or.inl ⟨hempty, rfl⟩)⟩
      · exact ⟨_, readLine_ok_iff.mpr (Or.inr ⟨key, value, hsets, hkey, rfl⟩)⟩
    rw [readLines, hmid]
    exact ih hlines.2

theorem LastValue.cons_iff {lines : List Bytes} {key value : Bytes} :
    LastValue (line :: lines) key value ↔ LastValue lines key value ∨
      Sets line key value ∧ ∀ later ∈ lines, ∀ other, ¬Sets later key other := by
  refine ⟨?_, ?_⟩
  · rintro ⟨before, last, rest, happend, hsets, hlater⟩
    cases before with
    | nil =>
      obtain ⟨rfl, rfl⟩ := cons.inj happend
      exact Or.inr ⟨hsets, hlater⟩
    | cons first before =>
      obtain ⟨rfl, rfl⟩ := cons.inj happend
      exact Or.inl ⟨before, last, rest, rfl, hsets, hlater⟩
  · rintro (⟨before, last, rest, rfl, hsets, hlater⟩ | ⟨hsets, hlater⟩)
    · exact ⟨line :: before, last, rest, rfl, hsets, hlater⟩
    · exact ⟨[], line, lines, rfl, hsets, hlater⟩

/-- What was read are the last values, over what was there before. -/
theorem readLines_ok {lines : List Bytes} (hread : readLines lines lineNumber values = .ok after) :
    (∀ line ∈ lines, WellFormed line) ∧ ∀ key value, after.lookup key = some value ↔
      LastValue lines key value ∨
        (∀ line ∈ lines, ∀ other, ¬Sets line key other) ∧ values.lookup key = some value := by
  induction lines generalizing lineNumber values with
  | nil =>
    cases hread
    refine ⟨forall_mem_nil _, fun key value => ⟨fun hlookup => ?_, ?_⟩⟩
    · exact Or.inr ⟨forall_mem_nil _, hlookup⟩
    · rintro (⟨before, line, rest, happend, -⟩ | ⟨-, hlookup⟩)
      · cases before <;> cases happend
      · exact hlookup
  | cons line lines ih =>
    rw [readLines] at hread
    split at hread
    · cases hread
    · next mid hmid =>
      obtain ⟨hformed, hvalues⟩ := ih hread
      refine ⟨forall_mem_cons.mpr ⟨?_, hformed⟩, fun key value => ?_⟩
      · rcases readLine_ok_iff.mp hmid with ⟨hempty, -⟩ | ⟨key, value, hsets, hkey, -⟩
        · exact Or.inl hempty
        · exact Or.inr ⟨key, value, hsets, hkey⟩
      · rw [hvalues, lookup_readLine hmid, LastValue.cons_iff, forall_mem_cons]
        tauto

/-! ## Files -/

theorem LastValue.trimmed {lines : List Bytes} {key value : Bytes}
    (hlast : LastValue lines key value) : Trimmed value := by
  intro byte hhead
  obtain ⟨-, line, -, -, ⟨front, back, -, -, -, rfl⟩, -⟩ := hlast
  obtain ⟨rest, hcons⟩ := head?_eq_some_iff.mp hhead
  rw [isSpace_of_trim_eq_cons hcons]
  exact Bool.false_ne_true

theorem exists_lastValue {lines : List Bytes} {key : Bytes}
    (hsets : ∃ line ∈ lines, ∃ value, Sets line key value) :
    ∃ value, LastValue lines key value := by
  induction lines with
  | nil =>
    obtain ⟨line, hline, -⟩ := hsets
    cases hline
  | cons line lines ih =>
    by_cases hlater : ∃ later ∈ lines, ∃ value, Sets later key value
    · obtain ⟨value, hlast⟩ := ih hlater
      exact ⟨value, LastValue.cons_iff.mpr (Or.inl hlast)⟩
    · obtain ⟨first, hfirst, value, hvalue⟩ := hsets
      have hnone : ∀ later ∈ lines, ∀ other, ¬Sets later key other :=
        fun later hmem other hother => hlater ⟨later, hmem, other, hother⟩
      rcases mem_cons.mp hfirst with rfl | hmem
      · exact ⟨value, LastValue.cons_iff.mpr (Or.inr ⟨hvalue, hnone⟩)⟩
      · exact absurd hvalue (hnone first hmem value)

/-- Every line is well formed, every key is known, and every last value is one that `taken`
allows. -/
structure Valid (taken : ConfigKey → Bytes → Setting → Prop) (content : Bytes) : Prop where
  formed : ∀ line ∈ lines content, WellFormed line
  known : ∀ line ∈ lines content, ∀ name value, Sets line name value →
    ∃ key : ConfigKey, key.name = name
  values : ∀ (key : ConfigKey) (value : Bytes), LastValue (lines content) key.name value →
    ∃ setting, taken key value setting

/-- The result is OK exactly for valid files, and then each field named in the file has its last
value, and all others are unchanged. -/
def Follows (taken : ConfigKey → Bytes → Setting → Prop) (content : Bytes) (config : Config)
    (result : Except Error Unit × Config) : Prop :=
  (result.1 = .ok () ↔ Valid taken content) ∧
    (result.1 = .ok () → ∀ key : ConfigKey,
      (∀ value, LastValue (lines content) key.name value →
        taken key value (result.2.field key)) ∧
      ((∀ line ∈ lines content, ∀ value, ¬Sets line key.name value) →
        result.2.field key = config.field key))

/-- What `loadFromFile` does with every file, minus signs included. -/
theorem follows_takes (order : List Entry → List Entry)
    (horder : ∀ entries, (order entries).Perm entries) (path : String) (content : Bytes)
    (config : Config) : Follows Takes content config
      (loadFromFile order path (some content) config) := by
  rw [loadFromFile]
  cases hread : readLines (lines content) 0 ∅ with
  | error =>
    refine ⟨⟨fun hok => ?_, fun h => ?_⟩, fun hok => ?_⟩
    · cases hok
    · obtain ⟨values, hvalues⟩ := exists_readLines h.formed
      rw [hread] at hvalues
      cases hvalues
    · cases hok
  | ok values =>
    obtain ⟨hformed, hvalues⟩ := readLines_ok hread
    have hmem (name value : Bytes) :
        ⟨name, value⟩ ∈ order values.entries ↔ LastValue (lines content) name value := by
      rw [(horder _).mem_iff, ← AList.mem_lookup_iff, Option.mem_def, hvalues, AList.lookup_empty]
      simp
    have htrimmed : ∀ entry ∈ order values.entries, Trimmed entry.2 :=
      fun entry hentry => ((hmem entry.1 entry.2).mp hentry).trimmed
    have hkeys := (perm_nodupKeys (horder values.entries)).mpr values.nodupKeys
    refine ⟨(applyValues_ok_iff htrimmed).trans ⟨fun hmeant => ⟨hformed, ?_, ?_⟩, ?_⟩, ?_⟩
    · intro line hline name value hsets
      obtain ⟨last, hlast⟩ := exists_lastValue ⟨line, hline, value, hsets⟩
      obtain ⟨key, -, hname, -⟩ := hmeant _ ((hmem name last).mpr hlast)
      exact ⟨key, hname⟩
    · intro key value hlast
      obtain ⟨own, setting, hname, hdenotes⟩ := hmeant _ ((hmem key.name value).mpr hlast)
      rw [name_injective hname] at hdenotes
      exact ⟨setting, hdenotes⟩
    · rintro ⟨-, hknown, hdenotes⟩ ⟨name, value⟩ hentry
      have hlast := (hmem name value).mp hentry
      obtain ⟨before, line, after, happend, hsets, -⟩ := id hlast
      obtain ⟨key, rfl⟩ := hknown line (by simp [happend]) name value hsets
      obtain ⟨setting, hsetting⟩ := hdenotes key value hlast
      exact ⟨key, setting, rfl, hsetting⟩
    · intro hok key
      obtain ⟨hnamed, hother⟩ := field_applyValues htrimmed hkeys hok key
      refine ⟨fun value hlast => hnamed value ((hmem _ _).mpr hlast), fun hnone => hother ?_⟩
      intro hkey
      obtain ⟨value, hentry⟩ := exists_of_mem_keys hkey
      obtain ⟨before, line, after, happend, hsets, -⟩ := (hmem _ _).mp hentry
      exact hnone line (by simp [happend]) value hsets

/-- `loadFromFile` does with a file what the file says, in whatever order the table of texts is
visited, unless the file is valid up to minus signs, that is, each number is a numeral in the
range of its key or digits after a minus sign that wrap around into it, and some number is the
latter. -/
theorem loadFromFile_spec (order : List Entry → List Entry)
    (horder : ∀ entries, (order entries).Perm entries) (path : String) (content : Bytes)
    (config : Config) :
    Follows Denotes content config (loadFromFile order path (some content) config) ↔
      ¬(Valid Takes content ∧ ∃ (key : ConfigKey) (value : Bytes) (setting : Setting),
        key.limits ≠ none ∧ LastValue (lines content) key.name value ∧
          key.DenotesBy IsWrapped value setting) := by
  obtain ⟨hok, hfields⟩ := follows_takes order horder path content config
  refine ⟨?_, fun hnot => ?_⟩
  · rintro ⟨hiff, -⟩ ⟨hvalid, key, value, setting, hnumeric, hlast, hwrapped⟩
    obtain ⟨other, hother⟩ := (hiff.mp (hok.mpr hvalid)).values key value hlast
    exact not_denotes_of_wrapped hnumeric hwrapped hother
  · have hdenotes : Valid Takes content → ∀ (key : ConfigKey) value setting,
        LastValue (lines content) key.name value → key.Takes value setting →
          key.Denotes value setting := by
      intro hvalid key value setting hlast htakes
      rcases takes_iff.mp htakes with hdenotes | ⟨hnumeric, hwrapped⟩
      · exact hdenotes
      · exact absurd ⟨hvalid, key, value, setting, hnumeric, hlast, hwrapped⟩ hnot
    refine ⟨hok.trans ⟨fun hvalid => ⟨hvalid.formed, hvalid.known, ?_⟩, fun hvalid =>
      ⟨hvalid.formed, hvalid.known, ?_⟩⟩, fun hresult key => ⟨?_, (hfields hresult key).2⟩⟩
    · intro key value hlast
      obtain ⟨setting, htakes⟩ := hvalid.values key value hlast
      exact ⟨setting, hdenotes hvalid key value setting hlast htakes⟩
    · intro key value hlast
      obtain ⟨setting, hsetting⟩ := hvalid.values key value hlast
      exact ⟨setting, takes_iff.mpr (Or.inl hsetting)⟩
    · intro value hlast
      exact hdenotes (hok.mp hresult) key value _ hlast ((hfields hresult key).1 value hlast)

/-- A line with a comment, and what it sets. -/
theorem sets_port : Sets (literal "server.port = +7 # port") (literal "server.port")
    (literal "+7") :=
  ⟨literal "server.port ", literal " +7", by decide +kernel, by decide +kernel, by decide +kernel,
    by decide +kernel⟩

theorem loadFromFile_spec_port :
    (loadFromFile id "liteim.conf" (some (literal "server.port = +7 # port\n")) {}).1 = .ok () ∧
      Follows Denotes (literal "server.port = +7 # port\n") {}
        (loadFromFile id "liteim.conf" (some (literal "server.port = +7 # port\n")) {}) := by
  have hlines : lines (literal "server.port = +7 # port\n") =
      [literal "server.port = +7 # port"] := by decide +kernel
  refine ⟨by decide +kernel, (loadFromFile_spec id Perm.refl _ _ _).mpr ?_⟩
  rintro ⟨-, key, value, setting, hnumeric, ⟨before, line, after, happend, hsets, -⟩, hwrapped⟩
  have hmem : line ∈ before ++ line :: after := by simp
  rw [← happend, hlines, mem_singleton] at hmem
  subst hmem
  obtain ⟨-, rfl⟩ := sets_port.unique hsets
  obtain ⟨limits, hlimits⟩ := Option.ne_none_iff_exists'.mp hnumeric
  simp only [DenotesBy, hlimits] at hwrapped
  obtain ⟨n, ⟨digits, htext, -⟩, -⟩ := hwrapped
  have hhead : (literal "+7").head? = some 0x2D := congrArg head? htext
  exact absurd hhead (by decide +kernel)

/-- A minus sign is taken, and the number wraps around. -/
theorem loadFromFile_negative :
    loadFromFile id "liteim.conf" (some (literal "server.port=-18446744073709551615")) {} =
        (.ok (), { serverPort := 1 }) ∧
      LastValue (lines (literal "server.port=-18446744073709551615")) ConfigKey.serverPort.name
        (literal "-18446744073709551615") ∧
      ∀ n, ¬IsNumeral (literal "-18446744073709551615") n := by
  refine ⟨by decide +kernel, ⟨[], literal "server.port=-18446744073709551615", [], ?_, ?_, ?_⟩, ?_⟩
  · decide +kernel
  · exact ⟨literal "server.port", literal "-18446744073709551615", by decide +kernel,
      by decide +kernel, by decide +kernel, by decide +kernel⟩
  · exact forall_mem_nil _
  · intro n
    have htext : literal "-18446744073709551615" = 0x2D :: literal "18446744073709551615" := by
      decide +kernel
    rw [htext]
    exact not_isNumeral_minus _ n

end Config

end LiteIM
