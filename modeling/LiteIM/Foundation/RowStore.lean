/-
# Rows under transactions

A store of rows that several connections read and write. Outside a transaction a
connection writes at once. Inside one, what it writes is kept apart until it commits,
and the rows it wrote are locked for the others; it reads from a snapshot that is taken
at its first read, with its own writes on top.

A row has at most one uncommitted version, since writing it takes the lock. So a store
holds one map of uncommitted rows, each with the connection that wrote it.

When rows only change in one direction, say along a relation `R`, and every write keeps
to it, then so do the committed rows, and no snapshot is ahead of them.
-/

import Mathlib.Logic.Function.Basic

namespace LiteIM.Foundation

open Function Option

/-- Whether a connection is in a transaction, and the snapshot it reads from. -/
inductive Mode {K : Type} (V : K → Type) where
  | autocommit
  | transaction (snapshot : Option ((k : K) → Option (V k)))

structure RowStore (κ : Type) {K : Type} (V : K → Type) where
  committed : (k : K) → Option (V k)
  uncommitted : (k : K) → Option (κ × V k)
  modes : κ → Mode V

namespace RowStore

variable {κ K : Type} {V : K → Type}

/-- Rows without open transactions. -/
def ofRows (rows : (k : K) → Option (V k)) : RowStore κ V :=
  ⟨rows, fun _ => none, fun _ => .autocommit⟩

section Operations

variable [DecidableEq κ]

def startTransaction (store : RowStore κ V) (c : κ) : RowStore κ V :=
  { store with modes := update store.modes c (.transaction none) }

/-- The version a connection has written and not committed. -/
def own (store : RowStore κ V) (c : κ) (k : K) : Option (V k) :=
  match store.uncommitted k with
  | some (owner, row) => if owner = c then some row else none
  | none => none

/-- Another connection holds the lock. -/
def lockedFor (store : RowStore κ V) (c : κ) (k : K) : Bool :=
  (store.uncommitted k).any fun version => version.1 ≠ c

/-- The row that a write of the connection finds. -/
def current (store : RowStore κ V) (c : κ) (k : K) : Option (V k) :=
  (store.own c k).or (store.committed k)

def write [DecidableEq K] (store : RowStore κ V) (c : κ) (k : K) (row : V k) : RowStore κ V :=
  match store.modes c with
  | .autocommit => { store with committed := update store.committed k (some row) }
  | .transaction _ =>
    { store with uncommitted := update store.uncommitted k (some (c, row)) }

/-- The versions of the others. -/
def release (store : RowStore κ V) (c : κ) : (k : K) → Option (κ × V k) :=
  fun k => (store.uncommitted k).filter fun version => version.1 ≠ c

def commit (store : RowStore κ V) (c : κ) : RowStore κ V where
  committed := store.current c
  uncommitted := store.release c
  modes := update store.modes c .autocommit

def rollback (store : RowStore κ V) (c : κ) : RowStore κ V where
  committed := store.committed
  uncommitted := store.release c
  modes := update store.modes c .autocommit

/-- What a connection reads from, its own writes apart. -/
def view (store : RowStore κ V) (c : κ) : (k : K) → Option (V k) :=
  match store.modes c with
  | .transaction (some snapshot) => snapshot
  | _ => store.committed

def read (store : RowStore κ V) (c : κ) (k : K) : Option (V k) :=
  (store.own c k).or (store.view c k)

/-- The first read of a transaction takes its snapshot. -/
def look (store : RowStore κ V) (c : κ) : RowStore κ V :=
  match store.modes c with
  | .transaction none =>
    { store with modes := update store.modes c (.transaction (some store.committed)) }
  | _ => store

end Operations

section View

variable {store : RowStore κ V} {c : κ}

/-- A view is kept, or it is what is committed. -/
theorem view_of_modes {after : RowStore κ V} (hmode : after.modes c = store.modes c) :
    after.view c = store.view c ∨ after.view c = after.committed := by
  rw [view, view, hmode]
  split
  · exact Or.inl rfl
  · exact Or.inr rfl

theorem view_autocommit (hmode : store.modes c = .autocommit) :
    store.view c = store.committed := by
  rw [view, hmode]

theorem view_transaction {snapshot : (k : K) → Option (V k)}
    (hmode : store.modes c = .transaction (some snapshot)) : store.view c = snapshot := by
  rw [view, hmode]

theorem view_unread (hmode : store.modes c = .transaction none) :
    store.view c = store.committed := by
  rw [view, hmode]

end View

section Write

variable [DecidableEq K] {store : RowStore κ V} {c : κ} {k : K}

theorem write_autocommit {row : V k} (hmode : store.modes c = .autocommit) :
    store.write c k row =
      { store with committed := update store.committed k (some row) } := by
  simp only [write, hmode]

theorem write_transaction {row : V k} (hmode : store.modes c ≠ .autocommit) :
    store.write c k row =
      { store with uncommitted := update store.uncommitted k (some (c, row)) } := by
  cases hstored : store.modes c with
  | autocommit => exact (hmode hstored).elim
  | transaction => simp only [write, hstored]

@[simp]
theorem write_modes {row : V k} : (store.write c k row).modes = store.modes := by
  rw [write]
  split <;> rfl

end Write

section Lemmas

variable [DecidableEq κ] {store : RowStore κ V} {c d : κ} {k : K}

theorem own_eq_some_iff {row : V k} :
    store.own c k = some row ↔ store.uncommitted k = some (c, row) := by
  cases hversion : store.uncommitted k with
  | none => simp [own, hversion]
  | some version =>
    obtain ⟨owner, other⟩ := version
    by_cases howner : owner = c
    · simp [own, hversion, howner]
    · simp [own, hversion, howner]

theorem own_eq_none (hnone : ∀ row, store.uncommitted k ≠ some (c, row)) :
    store.own c k = none := by
  apply eq_none_iff_forall_ne_some.mpr
  exact fun row hown => hnone row (own_eq_some_iff.mp hown)

theorem current_of_own_eq_none (hown : store.own c k = none) :
    store.current c k = store.committed k := by
  rw [current, hown, none_or]

theorem owner_of_unlocked (hunlocked : store.lockedFor c k = false) {row : V k}
    (hversion : store.uncommitted k = some (d, row)) : d = c := by
  simpa [lockedFor, hversion] using hunlocked

theorem release_eq_some_iff {row : V k} :
    store.release c k = some (d, row) ↔ store.uncommitted k = some (d, row) ∧ d ≠ c := by
  rw [release, filter_eq_some_iff]
  simp

@[simp]
theorem own_look : (store.look c).own d = store.own d := by
  funext l
  rw [look]
  split <;> rfl

@[simp]
theorem own_startTransaction : (store.startTransaction c).own d = store.own d := rfl

theorem own_of_release {after : RowStore κ V} (hrelease : after.uncommitted = store.release c)
    (k : K) : after.own d k = if d = c then none else store.own d k := by
  cases hown : after.own d k with
  | some =>
    rw [own_eq_some_iff, hrelease] at hown
    obtain ⟨hversion, hne⟩ := release_eq_some_iff.mp hown
    rw [if_neg hne]
    exact (own_eq_some_iff.mpr hversion).symm
  | none =>
    by_cases hsame : d = c
    · rw [if_pos hsame]
    · rw [if_neg hsame]
      symm
      apply own_eq_none
      intro row hversion
      have hkept : after.own d k = some row := by
        rw [own_eq_some_iff, hrelease]
        exact release_eq_some_iff.mpr ⟨hversion, hsame⟩
      rw [hown] at hkept
      cases hkept

theorem own_eq_none_of_unlocked (hne : d ≠ c) (hunlocked : store.lockedFor c k = false) :
    store.own d k = none :=
  own_eq_none fun _ hversion => hne (owner_of_unlocked hunlocked hversion)

/-- A row has one uncommitted version. -/
theorem own_eq_none_of_own (hne : d ≠ c) (hown : store.own d k ≠ none) :
    store.own c k = none := by
  apply own_eq_none
  intro row hversion
  apply hown
  apply own_eq_none
  intro other hother
  rw [hversion] at hother
  exact hne (Prod.mk.inj (some.inj hother)).1.symm

theorem own_write_self [DecidableEq K] {row : V k} (hmode : store.modes c ≠ .autocommit) :
    (store.write c k row).own c k = some row := by
  rw [own_eq_some_iff, write_transaction hmode]
  exact update_self ..

variable {l : K}

theorem own_write_of_ne [DecidableEq K] {row : V k} (hne : l ≠ k) :
    (store.write c k row).own d l = store.own d l := by
  rw [write]
  split
  · rfl
  · simp only [own, update_of_ne hne]

/-- A write to an unlocked row leaves the versions of others alone. -/
theorem own_write_other [DecidableEq K] {row : V k} (hne : d ≠ c)
    (hunlocked : store.lockedFor c k = false) (l : K) :
    (store.write c k row).own d l = store.own d l := by
  by_cases hsame : l = k
  · subst hsame
    have hbefore : store.own d l = none := own_eq_none_of_unlocked hne hunlocked
    rw [hbefore]
    rw [write]
    split
    · exact hbefore
    · simp only [own, update_self, if_neg (Ne.symm hne)]
  · exact own_write_of_ne hsame

theorem lockedFor_write [DecidableEq K] {row : V k} (hunlocked : store.lockedFor c l = false) :
    (store.write c k row).lockedFor c l = false := by
  rw [write]
  split
  · exact hunlocked
  · by_cases hsame : l = k
    · subst hsame
      simp [lockedFor]
    · simpa only [lockedFor, update_of_ne hsame] using hunlocked

/-- A write to an unlocked row leaves the locked ones as they are committed. -/
theorem write_committed_of_own [DecidableEq K] {row : V k} (hne : d ≠ c)
    (hunlocked : store.lockedFor c k = false) (hown : store.own d l ≠ none) :
    (store.write c k row).committed l = store.committed l := by
  rw [write]
  split
  · apply update_of_ne
    rintro rfl
    exact hown (own_eq_none_of_unlocked hne hunlocked)
  · rfl

@[simp]
theorem look_committed : (store.look c).committed = store.committed := by
  rw [look]
  split <;> rfl

theorem look_modes_of_ne (hne : d ≠ c) : (store.look c).modes d = store.modes d := by
  rw [look]
  split
  · exact update_of_ne hne ..
  · rfl

/-- A look does not end or start a transaction. -/
theorem look_autocommit_iff :
    (store.look c).modes c = .autocommit ↔ store.modes c = .autocommit := by
  cases hmode : store.modes c with
  | autocommit => simp [look, hmode]
  | transaction snapshot =>
    cases snapshot with
    | none | some => simp [look, hmode]

@[simp]
theorem look_uncommitted : (store.look c).uncommitted = store.uncommitted := by
  rw [look]
  split <;> rfl

@[simp]
theorem view_startTransaction : (store.startTransaction c).view c = store.committed :=
  view_unread (update_self ..)

/-- The first read fixes what is read from then on. -/
@[simp]
theorem view_look : (store.look c).view c = store.view c := by
  cases hmode : store.modes c with
  | autocommit => simp [view, look, hmode]
  | transaction snapshot =>
    cases snapshot with
    | none | some => simp [view, look, hmode]

end Lemmas

/-! ## Rows that change in one direction -/

section Order

variable (R : (k : K) → Option (V k) → Option (V k) → Prop)

/-- Uncommitted rows are ahead of the committed ones, and snapshots are behind. -/
structure Ordered (store : RowStore κ V) : Prop where
  version : ∀ k owner row, store.uncommitted k = some (owner, row) →
    R k (store.committed k) (some row)
  snapshot : ∀ c rows, store.modes c = .transaction (some rows) → ∀ k,
    R k (rows k) (store.committed k)
  closed : ∀ c, store.modes c = .autocommit → ∀ k row, store.uncommitted k ≠ some (c, row)

/-- The committed rows went forward. -/
def Advances (before after : RowStore κ V) : Prop :=
  ∀ k, R k (before.committed k) (after.committed k)

variable {R}

theorem ordered_ofRows (rows : (k : K) → Option (V k)) :
    Ordered R (ofRows rows : RowStore κ V) where
  version _ _ _ hversion := nomatch hversion
  snapshot _ _ hmode := nomatch hmode
  closed _ _ _ _ hversion := nomatch hversion

/-- No connection reads ahead of what is committed. -/
theorem Ordered.view {store : RowStore κ V} {c : κ} (hordered : Ordered R store)
    (hrefl : ∀ k row, R k row row) (k : K) : R k (store.view c k) (store.committed k) := by
  cases hmode : store.modes c with
  | autocommit =>
    rw [view_autocommit hmode]
    exact hrefl k _
  | transaction snapshot =>
    cases snapshot with
    | none =>
      rw [view_unread hmode]
      exact hrefl k _
    | some rows =>
      rw [view_transaction hmode]
      exact hordered.snapshot c rows hmode k

variable [DecidableEq κ] {store : RowStore κ V} {c : κ}

/-- Another value than the one that was put there was there before. -/
theorem of_update {α : Type} {f : κ → α} {put found : α} {d : κ}
    (hupdate : update f c put d = found) (hother : put ≠ found) :
    d ≠ c ∧ f d = found := by
  by_cases hsame : d = c
  · rw [hsame, update_self] at hupdate
    exact (hother hupdate).elim
  · rw [update_of_ne hsame] at hupdate
    exact ⟨hsame, hupdate⟩

section

variable (hordered : Ordered R store)
include hordered

theorem Ordered.startTransaction :
    Ordered R (store.startTransaction c) where
  version := hordered.version
  snapshot d rows hmode := hordered.snapshot d rows (of_update hmode (by simp)).2
  closed d hmode := hordered.closed d (of_update hmode (by simp)).2

theorem Ordered.look (hrefl : ∀ k row, R k row row) :
    Ordered R (store.look c) := by
  rw [RowStore.look]
  split
  · refine ⟨hordered.version, ?_, ?_⟩
    · intro d rows hmode
      by_cases htaken : rows = store.committed
      · rw [htaken]
        exact fun k => hrefl k _
      · exact hordered.snapshot d rows (of_update hmode (by simpa using Ne.symm htaken)).2
    · intro d hmode
      exact hordered.closed d (of_update hmode (by simp)).2
  · exact hordered

/-- After the end of a transaction its connection owns nothing. -/
theorem Ordered.closed_release (d : κ)
    (hmode : update store.modes c .autocommit d = .autocommit) (k : K) (row : V k) :
    store.release c k ≠ some (d, row) := by
  intro hversion
  obtain ⟨hversion, hne⟩ := release_eq_some_iff.mp hversion
  rw [update_of_ne hne] at hmode
  exact hordered.closed d hmode k row hversion

theorem Ordered.rollback : Ordered R (store.rollback c) where
  version k owner row hversion :=
    hordered.version k owner row (release_eq_some_iff.mp hversion).1
  snapshot d rows hmode := hordered.snapshot d rows (of_update hmode (by simp)).2
  closed := hordered.closed_release

/-- Outside a transaction a connection finds the committed rows. -/
theorem Ordered.current_autocommit
    (hmode : store.modes c = .autocommit) (k : K) : store.current c k = store.committed k :=
  current_of_own_eq_none (own_eq_none (hordered.closed c hmode k))

/-- A commit moves the rows of the transaction forward. -/
theorem Ordered.advances_commit (hrefl : ∀ k row, R k row row) :
    Advances R store (store.commit c) := by
  intro k
  show R k (store.committed k) (store.current c k)
  cases hown : store.own c k with
  | none =>
    rw [current_of_own_eq_none hown]
    exact hrefl k _
  | some row =>
    rw [current, hown, some_or]
    exact hordered.version k c row (own_eq_some_iff.mp hown)

theorem Ordered.commit (hrefl : ∀ k row, R k row row)
    (htrans : ∀ k first second third, R k first second → R k second third → R k first third) :
    Ordered R (store.commit c) where
  version k owner row hversion := by
    obtain ⟨hversion, hne⟩ := release_eq_some_iff.mp hversion
    have hown : store.own c k = none := by
      apply own_eq_none_of_own hne
      simp [own_eq_some_iff.mpr hversion]
    show R k (store.current c k) (some row)
    rw [current_of_own_eq_none hown]
    exact hordered.version k owner row hversion
  snapshot d rows hmode k :=
    htrans k _ _ _ (hordered.snapshot d rows (of_update hmode (by simp)).2 k)
      (hordered.advances_commit hrefl k)
  closed := hordered.closed_release

/-- A write that goes forward from the row it finds. -/
theorem Ordered.write [DecidableEq K] {k : K} {row : V k} (hrefl : ∀ k row, R k row row)
    (htrans : ∀ k first second third, R k first second → R k second third → R k first third)
    (hunlocked : store.lockedFor c k = false) (hrow : R k (store.current c k) (some row)) :
    Ordered R (store.write c k row) ∧ Advances R store (store.write c k row) := by
  have hcommitted := htrans k _ _ _ (hordered.advances_commit hrefl k) hrow
  rw [RowStore.write]
  split
  · next hmode =>
      -- Nobody has an uncommitted version: the writer is not in a transaction.
      have hnone : ∀ owner other, store.uncommitted k ≠ some (owner, other) := by
        intro owner other hversion
        obtain rfl := owner_of_unlocked hunlocked hversion
        exact hordered.closed owner hmode k other hversion
      have hadvances : ∀ l, R l (store.committed l)
          (update store.committed k (some row) l) := by
        intro l
        by_cases hsame : l = k
        · subst hsame
          rwa [update_self]
        · rw [update_of_ne hsame]
          exact hrefl l _
      refine ⟨⟨?_, ?_, hordered.closed⟩, hadvances⟩
      · intro l owner other hversion
        have hne : l ≠ k := by
          rintro rfl
          exact hnone owner other hversion
        show R l (update store.committed k (some row) l) (some other)
        rw [update_of_ne hne]
        exact hordered.version l owner other hversion
      · exact fun d rows hd l => htrans l _ _ _ (hordered.snapshot d rows hd l) (hadvances l)
  · next snapshot hmode =>
      refine ⟨⟨?_, hordered.snapshot, ?_⟩, fun l => hrefl l _⟩
      · intro l owner other hversion
        replace hversion : update store.uncommitted k (some (c, row)) l =
          some (owner, other) := hversion
        by_cases hsame : l = k
        · subst hsame
          rw [update_self] at hversion
          obtain ⟨-, rfl⟩ := Prod.mk.inj (some.inj hversion)
          exact hcommitted
        · rw [update_of_ne hsame] at hversion
          exact hordered.version l owner other hversion
      · intro d hd l other hversion
        replace hversion : update store.uncommitted k (some (c, row)) l =
          some (d, other) := hversion
        by_cases hsame : l = k
        · subst hsame
          rw [update_self] at hversion
          obtain ⟨rfl, -⟩ := Prod.mk.inj (some.inj hversion)
          cases hmode.symm.trans hd
        · rw [update_of_ne hsame] at hversion
          exact hordered.closed d hd l other hversion

end

end Order

end RowStore

end LiteIM.Foundation
