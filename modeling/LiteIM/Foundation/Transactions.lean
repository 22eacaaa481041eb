/-
# Transactions on pooled connections

A server keeps committed data and, for each connection, the statements of the transaction
that is open on it. A call takes a connection from a queue of idle ones, makes requests on it
and puts it back as it is. Any request may fail, and a failed request changes nothing: after a
failed `COMMIT` or `ROLLBACK` the transaction is still open, and a later `START TRANSACTION`
on the same connection commits it.

A transactional call makes all its statements in one transaction, which it commits to return
a value and rolls back to return an error. As long as no `COMMIT` and no `ROLLBACK` fails,
such calls are atomic: each runs as if alone on a copy of the data, and the copy is kept when
the call returned a value and thrown away when it returned an error.
-/

import LiteIM.Foundation.Transition
import LiteIM.Foundation.Triple
import Mathlib.Logic.Function.Basic

namespace LiteIM.Foundation

/-- Statements on data, with their results. Data may refuse a statement. -/
structure Dialect (ε D : Type) where
  Statement : Type
  Result : Statement → Type
  effect : (statement : Statement) → D → Except ε (Result statement × D)

/-- What a call can ask for: a connection, control of its transaction, or a statement. -/
inductive Request {ε D : Type} (L : Dialect ε D) where
  | acquire
  | startTransaction
  | commit
  | rollback
  | data (statement : L.Statement)

@[reducible]
def Request.Result {ε D : Type} {L : Dialect ε D} : Request L → Type
  | .data statement => L.Result statement
  | _ => Unit

namespace Dialect

variable {ε D : Type} (L : Dialect ε D)

/-- Statements alone, as they are made inside a transaction. -/
@[reducible]
def statements : Signature := ⟨L.Statement, fun statement => Except ε (L.Result statement)⟩

@[reducible]
def sql : Signature := ⟨Request L, fun request => Except ε request.Result⟩

/-- The data after a statement, whether they allow it or not. -/
def apply (data : D) (statement : L.Statement) : D :=
  match L.effect statement data with
  | .ok (_, after) => after
  | .error _ => data

def replay (data : D) (log : List L.Statement) : D := log.foldl L.apply data

variable {L}

theorem replay_snoc {data after : D} {log : List L.Statement} {statement : L.Statement}
    {result : L.Result statement}
    (heffect : L.effect statement (L.replay data log) = .ok (result, after)) :
    L.replay data (log ++ [statement]) = after := by
  rw [replay, List.foldl_append, List.foldl_cons, List.foldl_nil]
  show L.apply (L.replay data log) statement = after
  rw [apply, heffect]

end Dialect

/-! ## The server -/

structure Server (κ : Type) {ε D : Type} (L : Dialect ε D) where
  committed : D
  /-- The statements of the transaction that is open on a connection. -/
  pending : κ → Option (List L.Statement) := fun _ => none
  idle : List κ
  /-- The connection of the call that is going on. -/
  held : Option κ := none

namespace Server

variable {κ ε D : Type} {L : Dialect ε D}

/-- The data as a connection sees them. -/
def view (server : Server κ L) (c : κ) : D :=
  L.replay server.committed ((server.pending c).getD [])

/-- The end of a call: the connection goes back to the queue, whatever is open on it. -/
def release (server : Server κ L) : Server κ L :=
  match server.held with
  | some c => { server with idle := server.idle ++ [c], held := none }
  | none => server

variable [DecidableEq κ]

def setPending (server : Server κ L) (c : κ) (log : Option (List L.Statement)) : Server κ L :=
  { server with pending := Function.update server.pending c log }

def commit (server : Server κ L) (c : κ) : Server κ L :=
  { server with committed := server.view c }.setPending c none

/-- Also what becomes of a transaction whose connection is closed. -/
def rollback (server : Server κ L) (c : κ) : Server κ L := server.setPending c none

/-- A transaction that is still open is committed first. -/
def startTransaction (server : Server κ L) (c : κ) : Server κ L :=
  (server.commit c).setPending c (some [])

/-- Without an open transaction a statement is committed at once. -/
def runData (server : Server κ L) (c : κ) (statement : L.Statement) :
    Except ε (L.Result statement) × Server κ L :=
  match L.effect statement (server.view c) with
  | .error status => (.error status, server)
  | .ok (result, after) =>
    match server.pending c with
    | some log => (.ok result, server.setPending c (some (log ++ [statement])))
    | none => (.ok result, { server with committed := after })

/-- What a request does when nothing fails; `none` if there is no connection for it. -/
def execute (server : Server κ L) :
    (request : Request L) → Option (Except ε request.Result × Server κ L)
  | .acquire =>
    match server.held, server.idle with
    | none, c :: rest => some (.ok (), { server with idle := rest, held := some c })
    | _, _ => none
  | .startTransaction => server.held.map fun c => (.ok (), server.startTransaction c)
  | .commit => server.held.map fun c => (.ok (), server.commit c)
  | .rollback => server.held.map fun c => (.ok (), server.rollback c)
  | .data statement => server.held.map fun c => server.runData c statement

/-- How a request can be answered. The connection in front of the queue may turn out to be
lost when it is acquired; it is then opened again, or goes to the back of the queue. -/
inductive Answers (request : Request L) (server : Server κ L) :
    Except ε request.Result → Server κ L → Prop where
  | executed {reply : Except ε request.Result} {next : Server κ L}
      (done : server.execute request = some (reply, next)) : Answers request server reply next
  | failed (status : ε) : Answers request server (.error status) server
  | reopened {c : κ} {rest : List κ} {reply : Except ε request.Result} {next : Server κ L}
      (acquires : request = .acquire) (front : server.idle = c :: rest)
      (done : (server.rollback c).execute request = some (reply, next)) :
      Answers request server reply next
  | lost {c : κ} {rest : List κ} (status : ε) (acquires : request = .acquire)
      (front : server.idle = c :: rest) :
      Answers request server (.error status) { server.rollback c with idle := rest ++ [c] }

def machine : Machine L.sql (Server κ L) :=
  fun request server reply next => Answers request server reply next

/-- Answers when the requests that fail are chosen beforehand. -/
def answer (status : ε) (fails : Request L → Bool) (request : Request L) (server : Server κ L) :
    Except ε request.Result × Server κ L :=
  if fails request then (.error status, server)
  else (server.execute request).getD (.error status, server)

theorem machine_answer (status : ε) (fails : Request L → Bool) (request : Request L)
    (server : Server κ L) :
    machine request server (server.answer status fails request).1
      (server.answer status fails request).2 := by
  rw [answer]
  split
  · exact .failed status
  · cases hexecute : server.execute request with
    | none => exact .failed status
    | some => exact .executed hexecute

end Server

/-! ## What the answers do -/

namespace Server

variable {κ ε D : Type} {L : Dialect ε D} {server next : Server κ L} {c : κ}

theorem view_of_pending {log : List L.Statement} (hpending : server.pending c = some log) :
    server.view c = L.replay server.committed log := by
  rw [view, hpending, Option.getD_some]

/-- Nothing is open and no connection is in use. -/
structure AtRest (server : Server κ L) : Prop where
  held : server.held = none
  pending : ∀ c, server.pending c = none

variable [DecidableEq κ]

/-- Requests other than `acquire` fail without effect or are executed. -/
theorem answers_cases {request : Request L} {reply : Except ε request.Result}
    (hanswer : Answers request server reply next) (hrequest : request ≠ .acquire) :
    server.execute request = some (reply, next) ∨
      ∃ status, reply = .error status ∧ next = server := by
  cases hanswer with
  | executed done => exact Or.inl done
  | failed status => exact Or.inr ⟨status, rfl, rfl⟩
  | reopened acquires | lost _ acquires => exact (hrequest acquires).elim

theorem execute_of_ok {request : Request L} {value : request.Result}
    (hanswer : Answers request server (.ok value) next) (hrequest : request ≠ .acquire) :
    server.execute request = some (.ok value, next) := by
  rcases answers_cases hanswer hrequest with hexecute | hfailed
  · exact hexecute
  · obtain ⟨status, hreply, -⟩ := hfailed
    cases hreply

theorem data_cases {statement : L.Statement} {reply : Except ε (L.Result statement)}
    {log : List L.Statement} (hheld : server.held = some c) (hpending : server.pending c = some log)
    (hanswer : Answers (.data statement) server reply next) :
    (∃ status, reply = .error status ∧ next = server) ∨
      ∃ result after, reply = .ok result ∧
        L.effect statement (server.view c) = .ok (result, after) ∧
        next = server.setPending c (some (log ++ [statement])) := by
  rcases answers_cases hanswer (nofun) with hexecute | hfailed
  · rw [execute, hheld, Option.map_some, runData] at hexecute
    cases heffect : L.effect statement (server.view c) with
    | error status =>
      rw [heffect] at hexecute
      cases hexecute
      exact Or.inl ⟨status, rfl, rfl⟩
    | ok =>
      simp only [heffect, hpending] at hexecute
      cases hexecute
      exact Or.inr ⟨_, _, rfl, rfl, rfl⟩
  · exact Or.inl hfailed

/-- A call that gets a connection has it with nothing open. -/
theorem AtRest.acquire {request : Request L} {reply : Except ε request.Result}
    (hrest : server.AtRest) (hrequest : request = .acquire)
    (hanswer : Answers request server reply next) :
    next.committed = server.committed ∧ (∀ c, next.pending c = none) ∧
      ∀ value, reply = .ok value → ∃ c, next.held = some c := by
  have hrollback (c : κ) : server.rollback c = server := by
    have hpending : Function.update server.pending c none = server.pending := by
      rw [← hrest.pending c, Function.update_eq_self]
    rw [rollback, setPending, hpending]
  have hexecute (hdone : server.execute request = some (reply, next)) :
      next.committed = server.committed ∧ (∀ c, next.pending c = none) ∧
        ∀ value, reply = .ok value → ∃ c, next.held = some c := by
    subst hrequest
    rw [execute, hrest.held] at hdone
    cases hidle : server.idle with
    | nil => simp [hidle] at hdone
    | cons c =>
      simp only [hidle] at hdone
      cases hdone
      exact ⟨rfl, hrest.pending, fun _ _ => ⟨c, rfl⟩⟩
  cases hanswer with
  | executed done => exact hexecute done
  | failed => exact ⟨rfl, hrest.pending, nofun⟩
  | reopened acquires front done =>
    rw [hrollback] at done
    exact hexecute done
  | lost =>
    rw [hrollback]
    exact ⟨rfl, hrest.pending, nofun⟩

end Server

/-! ## Transactional calls -/

section Calls

variable {ε D ε' : Type} {L : Dialect ε D}

/-- The data as a call on its own sees them; only statements change them. -/
def Dialect.alone (L : Dialect ε D) : Machine L.sql D
  | .data statement, data, reply, next =>
    (∃ result, reply = .ok result ∧ L.effect statement data = .ok (result, next)) ∨
      ∃ status, reply = .error status ∧ next = data
  | _, data, _, next => next = data

/-- The data after a call: what it made of them if it returned a value. -/
def settle {α : Type} (result : Except ε' α) (before after : D) : D :=
  match result with
  | .ok _ => after
  | .error _ => before

/-- The transaction was not ended where the call tried to. -/
def Event.leavesOpen : Event L.sql → Bool
  | ⟨.commit, .error _⟩ => true
  | ⟨.rollback, .error _⟩ => true
  | _ => false

def ReturnsError {S : Signature} {α : Type} (program : Program S (Except ε' α)) : Prop :=
  ∃ error, program = .ret (.error error)

/-- What a call does inside its transaction: a value is only returned after `COMMIT`, and an
error after `ROLLBACK` or after a `COMMIT` that failed. -/
inductive InTransaction {α : Type} : Program L.sql (Except ε' α) → Prop where
  | data {statement : L.Statement}
      {next : Except ε (L.Result statement) → Program L.sql (Except ε' α)}
      (rest : ∀ reply, InTransaction (next reply)) : InTransaction (.call (.data statement) next)
  | commit {next : Except ε Unit → Program L.sql (Except ε' α)} {value : α}
      (committed : next (.ok ()) = .ret (.ok value))
      (failed : ∀ status, ReturnsError (next (.error status))) :
      InTransaction (.call .commit next)
  | rollback {next : Except ε Unit → Program L.sql (Except ε' α)}
      (returns : ∀ reply, ReturnsError (next reply)) : InTransaction (.call .rollback next)

/-- A call that returns before it asks for anything, or does the rest in one transaction. -/
inductive IsTransactional {α : Type} : Program L.sql (Except ε' α) → Prop where
  | ret (result : Except ε' α) : IsTransactional (.ret result)
  | acquire {next body : Except ε Unit → Program L.sql (Except ε' α)}
      (refused : ∀ status, ReturnsError (next (.error status)))
      (starts : next (.ok ()) = .call .startTransaction body)
      (notStarted : ∀ status, ReturnsError (body (.error status)))
      (inside : InTransaction (body (.ok ()))) : IsTransactional (.call .acquire next)

variable {κ : Type} [DecidableEq κ] {α : Type}

theorem ReturnsError.exec {S : Signature} {W : Type} {M : Machine S W}
    {program : Program S (Except ε' α)} (hreturns : ReturnsError program) {world last : W}
    {trace : List (Event S)} {result : Except ε' α}
    (hexec : Program.Exec M program world trace result last) :
    trace = [] ∧ last = world ∧ program = .ret result ∧ ∃ error, result = .error error := by
  obtain ⟨error, rfl⟩ := hreturns
  obtain ⟨rfl, rfl, rfl⟩ := Program.exec_ret_iff.mp hexec
  exact ⟨rfl, rfl, rfl, error, rfl⟩

/-- Inside its transaction a call sees the data as if alone, and at its end the transaction is
closed. -/
theorem InTransaction.exec {program : Program L.sql (Except ε' α)}
    (hinside : InTransaction program) {server last : Server κ L} {c : κ} {log : List L.Statement}
    {trace : List (Event L.sql)} {result : Except ε' α}
    (hheld : server.held = some c) (hpending : server.pending c = some log)
    (hexec : Program.Exec Server.machine program server trace result last)
    (hends : ∀ event ∈ trace, event.leavesOpen = false) :
    ∃ final, Program.Exec L.alone program (server.view c) trace result final ∧
      last =
        { server with committed := settle result server.committed final }.setPending c none := by
  induction hinside generalizing server log trace with
  | @data statement next rest ih =>
    obtain ⟨reply, mid, later, rfl, hanswer, hrest⟩ := Program.exec_call_iff.mp hexec
    have hlater := (List.forall_mem_cons.mp hends).2
    rcases Server.data_cases hheld hpending hanswer with hfailed | hdone
    · obtain ⟨status, rfl, rfl⟩ := hfailed
      obtain ⟨final, halone, hlast⟩ := ih _ hheld hpending hrest hlater
      exact ⟨final, .call (Or.inr ⟨status, rfl, rfl⟩) halone, hlast⟩
    · obtain ⟨value, after, rfl, heffect, rfl⟩ := hdone
      have hkept : (server.setPending c (some (log ++ [statement]))).held = some c := hheld
      have hlogged : (server.setPending c (some (log ++ [statement]))).pending c =
          some (log ++ [statement]) := Function.update_self _ _ _
      obtain ⟨final, halone, hlast⟩ := ih _ hkept hlogged hrest hlater
      have hview : (server.setPending c (some (log ++ [statement]))).view c = after := by
        rw [Server.view_of_pending hlogged]
        rw [Server.view_of_pending hpending] at heffect
        exact Dialect.replay_snoc heffect
      rw [hview] at halone
      refine ⟨final, .call (Or.inl ⟨value, rfl, heffect⟩) halone, ?_⟩
      rw [hlast]
      simp [Server.setPending]
  | @commit next value committed failed =>
    obtain ⟨reply, mid, later, rfl, hanswer, hrest⟩ := Program.exec_call_iff.mp hexec
    cases reply with
    | error => exact nomatch (List.forall_mem_cons.mp hends).1
    | ok =>
      have hexecute := Server.execute_of_ok hanswer (nofun)
      rw [Server.execute, hheld] at hexecute
      cases hexecute
      rw [committed] at hrest
      obtain ⟨rfl, rfl, rfl⟩ := Program.exec_ret_iff.mp hrest
      refine ⟨server.view c, .call rfl ?_, rfl⟩
      rw [committed]
      exact .ret _ _
  | @rollback next returns =>
    obtain ⟨reply, mid, later, rfl, hanswer, hrest⟩ := Program.exec_call_iff.mp hexec
    obtain ⟨rfl, rfl, hprogram, error, rfl⟩ := (returns reply).exec hrest
    cases reply with
    | error => exact nomatch (List.forall_mem_cons.mp hends).1
    | ok =>
      have hexecute := Server.execute_of_ok hanswer (nofun)
      rw [Server.execute, hheld] at hexecute
      cases hexecute
      refine ⟨server.view c, .call rfl ?_, rfl⟩
      rw [hprogram]
      exact .ret _ _

/-- A call that has a connection with nothing open on it, before `START TRANSACTION`. -/
theorem InTransaction.exec_start {body : Except ε Unit → Program L.sql (Except ε' α)}
    (hnotStarted : ∀ status, ReturnsError (body (.error status)))
    (hinside : InTransaction (body (.ok ()))) {server last : Server κ L} {c : κ}
    {trace : List (Event L.sql)} {result : Except ε' α}
    (hheld : server.held = some c) (hpending : ∀ c, server.pending c = none)
    (hexec : Program.Exec Server.machine (.call .startTransaction body) server trace result last)
    (hends : ∀ event ∈ trace, event.leavesOpen = false) :
    (∃ final, Program.Exec L.alone (.call .startTransaction body) server.committed trace result
        final ∧ last.committed = settle result server.committed final) ∧
      ∀ c, last.pending c = none := by
  obtain ⟨reply, begun, later, rfl, hanswer, hbody⟩ := Program.exec_call_iff.mp hexec
  have hlater := (List.forall_mem_cons.mp hends).2
  cases reply with
  | error status =>
    obtain ⟨rfl, rfl, hprogram, error, rfl⟩ := (hnotStarted status).exec hbody
    rcases Server.answers_cases hanswer (nofun) with hexecute | hfailed
    · rw [Server.execute, hheld] at hexecute
      cases hexecute
    · obtain ⟨-, -, rfl⟩ := hfailed
      refine ⟨⟨last.committed, .call rfl ?_, rfl⟩, hpending⟩
      rw [hprogram]
      exact .ret _ _
  | ok =>
    have hexecute := Server.execute_of_ok hanswer (nofun)
    rw [Server.execute, hheld] at hexecute
    cases hexecute
    have hkept : (server.startTransaction c).held = some c := hheld
    have hopened : (server.startTransaction c).pending c = some [] := Function.update_self _ _ _
    have hcommitted : (server.startTransaction c).committed = server.committed := by
      show server.view c = server.committed
      rw [Server.view, hpending c]
      rfl
    have hview : (server.startTransaction c).view c = server.committed := by
      rw [Server.view_of_pending hopened, hcommitted]
      rfl
    obtain ⟨final, halone, rfl⟩ := hinside.exec hkept hopened hbody hlater
    rw [hview] at halone
    rw [hcommitted]
    refine ⟨⟨final, .call rfl halone, rfl⟩, ?_⟩
    intro other
    by_cases hsame : other = c
    · rw [hsame]
      exact Function.update_self _ _ _
    · simp [Server.setPending, Server.startTransaction, Server.commit, hsame, hpending]

/-- A transactional call that could end its transaction is atomic, and nothing is open after
it. -/
theorem IsTransactional.exec {program : Program L.sql (Except ε' α)}
    (htransactional : IsTransactional program) {server last : Server κ L}
    {trace : List (Event L.sql)} {result : Except ε' α} (hrest : server.AtRest)
    (hexec : Program.Exec Server.machine program server trace result last)
    (hends : ∀ event ∈ trace, event.leavesOpen = false) :
    (∃ final, Program.Exec L.alone program server.committed trace result final ∧
      last.committed = settle result server.committed final) ∧ ∀ c, last.pending c = none := by
  cases htransactional with
  | ret =>
    obtain ⟨rfl, rfl, rfl⟩ := Program.exec_ret_iff.mp hexec
    refine ⟨⟨last.committed, .ret _ _, ?_⟩, hrest.pending⟩
    cases result with
    | ok | error => rfl
  | @acquire next body refused starts notStarted inside =>
    obtain ⟨reply, mid, later, rfl, hanswer, hnext⟩ := Program.exec_call_iff.mp hexec
    obtain ⟨hcommitted, hpending, hheld⟩ := hrest.acquire rfl hanswer
    cases reply with
    | error status =>
      obtain ⟨rfl, rfl, hprogram, error, rfl⟩ := (refused status).exec hnext
      refine ⟨⟨server.committed, .call rfl ?_, hcommitted⟩, hpending⟩
      rw [hprogram]
      exact .ret _ _
    | ok done =>
      obtain ⟨c, hheld⟩ := hheld done rfl
      rw [starts] at hnext
      obtain ⟨⟨final, halone, hlast⟩, hclosed⟩ := InTransaction.exec_start notStarted inside
        hheld hpending hnext (List.forall_mem_cons.mp hends).2
      rw [hcommitted] at halone hlast
      refine ⟨⟨final, .call rfl ?_, hlast⟩, hclosed⟩
      rw [starts]
      exact halone

end Calls

/-! ## Runs of calls -/

section Runs

variable {κ ε D ε' C : Type} {Output : C → Type} {L : Dialect ε D}

/-- A call that was made, with what it was answered and what it returned. -/
structure Performance (L : Dialect ε D) (ε' : Type) {C : Type} (Output : C → Type) where
  call : C
  trace : List (Event L.sql)
  result : Except ε' (Output call)

variable (perform : (call : C) → Program L.sql (Except ε' (Output call)))

/-- A call from its beginning until its connection is back in the queue. -/
def Server.Performs [DecidableEq κ] (before : Server κ L) (performance : Performance L ε' Output)
    (after : Server κ L) : Prop :=
  ∃ last, Program.Exec machine (perform performance.call) before performance.trace
    performance.result last ∧ after = last.release

/-- The call on a copy of the data, which is kept if the call returned a value. -/
def Dialect.Keeps (before : D) (performance : Performance L ε' Output) (after : D) : Prop :=
  ∃ final, Program.Exec L.alone (perform performance.call) before performance.trace
    performance.result final ∧ after = settle performance.result before final

theorem Server.release_atRest {server : Server κ L} (hpending : ∀ c, server.pending c = none) :
    server.release.AtRest ∧ server.release.committed = server.committed := by
  rw [release]
  cases hheld : server.held with
  | none => exact ⟨⟨hheld, hpending⟩, rfl⟩
  | some => exact ⟨⟨rfl, hpending⟩, rfl⟩

variable [DecidableEq κ]

/-- A call when the requests that fail are chosen beforehand. -/
def Server.performFailing (status : ε) (fails : Request L → Bool) (call : C)
    (server : Server κ L) : Performance L ε' Output × Server κ L :=
  let ran := (perform call).run (answer status fails) server
  (⟨call, ran.1, ran.2.1⟩, ran.2.2.release)

theorem Server.performs_performFailing (status : ε) (fails : Request L → Bool) (call : C)
    (server : Server κ L) :
    server.Performs perform (server.performFailing perform status fails call).1
      (server.performFailing perform status fails call).2 :=
  ⟨_, Program.exec_run (machine_answer status fails) (perform call) server, rfl⟩

variable {perform}

theorem Server.Performs.keeps (hperform : ∀ call, IsTransactional (perform call))
    {before after : Server κ L} {performance : Performance L ε' Output} (hrest : before.AtRest)
    (hperforms : before.Performs perform performance after)
    (hends : ∀ event ∈ performance.trace, event.leavesOpen = false) :
    after.AtRest ∧ L.Keeps perform before.committed performance after.committed := by
  obtain ⟨last, hexec, rfl⟩ := hperforms
  obtain ⟨⟨final, halone, hlast⟩, hpending⟩ := (hperform performance.call).exec hrest hexec hends
  obtain ⟨hafter, hcommitted⟩ := release_atRest hpending
  exact ⟨hafter, final, halone, hcommitted.trans hlast⟩

/-- A run in which every transaction could be ended is a run of atomic calls on the committed
data, and leaves nothing open. -/
theorem Server.keeps_of_performs (hperform : ∀ call, IsTransactional (perform call))
    {first last : Server κ L} {performances : List (Performance L ε' Output)}
    (hrest : first.AtRest) (hrun : Path (Performs perform) first performances last)
    (hends : ∀ performance ∈ performances, ∀ event ∈ performance.trace,
      event.leavesOpen = false) :
    last.AtRest ∧ Path (L.Keeps perform) first.committed performances last.committed := by
  induction hrun with
  | nil => exact ⟨hrest, .nil⟩
  | @snoc mid last performances performance path taken ih =>
    rw [List.forall_mem_append] at hends
    obtain ⟨hmid, hkept⟩ := ih hends.1
    obtain ⟨hlast, hkeeps⟩ :=
      Performs.keeps hperform hmid taken (List.forall_mem_singleton.mp hends.2)
    exact ⟨hlast, hkept.snoc hkeeps⟩

end Runs

/-! ## Calls of the usual form -/

section Form

variable {ε D ε' α : Type} {L : Dialect ε D}

theorem InTransaction.bind {β : Type} {program : Program L.sql β}
    {f : β → Program L.sql (Except ε' α)}
    (hprogram : program.Throughout fun c _ => ∃ statement, c = Request.data statement)
    (hnext : ∀ value, InTransaction (f value)) : InTransaction (program >>= f) := by
  induction program with
  | ret value => exact hnext value
  | call c next ih =>
    obtain ⟨⟨statement, rfl⟩, hlater⟩ := hprogram
    exact .data fun reply => ih reply (hlater reply)

variable (toError : ε → ε')

def Dialect.request (request : Request L) : Fallible L.sql ε' request.Result :=
  ExceptT.mk (.call request fun reply => .ret (reply.mapError toError))

/-- Statements made on the connection of a call. -/
def Dialect.onConnection (body : Fallible L.statements ε' α) : Fallible L.sql ε' α :=
  ExceptT.mk (body.run.rename Request.data fun _ => id)

/-- Statements between `START TRANSACTION` and `COMMIT`. The first error is returned after a
`ROLLBACK`, whose own failure is not looked at; the failure of `COMMIT` is returned as it is. -/
def Dialect.transaction (body : Fallible L.statements ε' α) : Fallible L.sql ε' α := do
  L.request toError .acquire
  L.request toError .startTransaction
  match ← (L.onConnection body).outcome with
  | .ok value => do
      L.request toError .commit
      pure value
  | .error error => do
      let _ ← (L.request toError .rollback).outcome
      throw error

theorem isTransactional_transaction (body : Fallible L.statements ε' α) :
    IsTransactional (L.transaction toError body).run := by
  refine .acquire (fun status => ⟨toError status, rfl⟩) rfl
    (fun status => ⟨toError status, rfl⟩) ?_
  have hbody : (L.onConnection body).run.Throughout fun c _ =>
      ∃ statement, c = Request.data statement :=
    Program.throughout_rename (T := L.sql) Request.data (fun _ => id) body.run
  show InTransaction ((L.onConnection body).outcome >>= _ : Fallible L.sql ε' α).run
  rw [Fallible.run_outcome_bind]
  apply InTransaction.bind hbody
  intro result
  cases result with
  | ok => exact .commit rfl fun status => ⟨toError status, rfl⟩
  | error error =>
    apply InTransaction.rollback
    intro reply
    cases reply with
    | ok | error => exact ⟨error, rfl⟩

/-- A check before the connection is taken. -/
theorem isTransactional_ofExcept_bind {β : Type} {checked : Except ε' β}
    {f : β → Fallible L.sql ε' α} (hnext : ∀ value, IsTransactional (f value).run) :
    IsTransactional (Fallible.ofExcept checked >>= f).run := by
  cases checked with
  | ok value => exact hnext value
  | error error => exact .ret (.error error)

end Form

/-! ## What a transaction ensures -/

section Ensures

open Program Fallible Server

variable {ε D ε' α : Type} {L : Dialect ε D} {pre : D → Prop} {post : α → D → Prop}

/-- The statements of a call on its own. -/
def Dialect.inside (L : Dialect ε D) : Machine L.statements D :=
  fun statement => L.alone (.data statement)

theorem Program.exec_rename_data {program : Program L.statements α} {data last : D}
    {trace : List (Event L.sql)} {value : α}
    (hexec : Exec L.alone (program.rename Request.data fun _ => id) data trace value last) :
    ∃ events, Exec L.inside program data events value last := by
  induction program generalizing data trace with
  | ret =>
    obtain ⟨-, rfl, rfl⟩ := exec_ret_iff.mp hexec
    exact ⟨[], .ret _ _⟩
  | call c next ih =>
    obtain ⟨reply, mid, rest, -, hanswer, hrest⟩ := exec_call_iff.mp hexec
    obtain ⟨events, hevents⟩ := ih reply hrest
    exact ⟨_, .call hanswer hevents⟩

theorem Dialect.triple_request (toError : ε → ε') {request : Request L}
    (hcontrol : ∀ data reply next, L.alone request data reply next → next = data) :
    Triple L.alone pre (L.request toError request).run fun _ => pre := by
  intro data trace result last hpre hexec
  obtain ⟨reply, next, rest, -, hanswer, hrest⟩ := exec_call_iff.mp hexec
  obtain ⟨-, -, rfl⟩ := exec_ret_iff.mp hrest
  rw [hcontrol data reply _ hanswer]
  exact hpre

/-- A transaction on its own does what its statements do. -/
theorem Dialect.ensures_transaction (toError : ε → ε') {body : Fallible L.statements ε' α}
    (hbody : Ensures L.inside pre body post) :
    Ensures L.alone pre (L.transaction toError body) post := by
  refine triple_bind_const (triple_request toError fun _ _ _ => id) (fun _ _ _ => trivial)
    fun _ => ?_
  refine triple_bind_const (triple_request toError fun _ _ _ => id) (fun _ _ _ => trivial)
    fun _ => ?_
  refine triple_outcome_bind (byOutcome post fun _ _ => True) ?_ ?_
  · intro data trace result last hpre hexec
    obtain ⟨events, hevents⟩ := exec_rename_data hexec
    exact hbody data events result last hpre hevents
  · intro result
    cases result with
    | ok value =>
      exact triple_bind_const (triple_request toError fun _ _ _ => id) (fun _ _ _ => trivial)
        fun _ => triple_pure fun _ => id
    | error =>
      refine triple_outcome_bind (fun _ _ => True) ?_ ?_
      · exact fun _ _ _ _ _ _ => trivial
      · exact fun _ => triple_throw fun _ => id

end Ensures

end LiteIM.Foundation
