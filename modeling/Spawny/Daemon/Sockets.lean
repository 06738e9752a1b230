import Mathlib.Logic.Function.Basic
import Spawny.Daemon.Turns
import Spawny.Protocol.Requests

/-! # Requests on a byte stream

A request is written into a socket, and the daemon takes whatever lies there for one message. Between a
client and the daemon a socket is as good as a queue of requests if the client waits for the answer to a
request before it writes the next one.

* `Transport`: how requests get to the daemon; `sockets` and `queues`;
* `Net`: the daemon and its clients over a transport;
* `Waits`: what is asked of a client;
* `sockets_refine_queues`: **for clients that wait, a socket is a queue of requests**. -/

namespace Spawny.Daemon.Sockets

open Spawny.Lib.Wire Spawny.Lib.Descriptors Spawny.Lib.Runs
open Spawny.Protocol Spawny.Protocol.Messages Spawny.Protocol.Requests
open Spawny.Daemon.Manager Spawny.Daemon.State Spawny.Daemon.Loop Spawny.Daemon.Steps
open Spawny.Daemon.TryLife Spawny.Daemon.Connections Spawny.Daemon.LoginAnswers Spawny.Daemon.Turns

variable {σ : Type} {C : FieldCode SpawnField} {G : FieldCode GreeterField} {w : World} {c : ℕ}

/-! ### Transports -/

/-- How the requests of a connection get to the daemon. -/
structure Transport (σ : Type) where
  empty : σ
  write : GreeterMessage → σ → σ
  read : σ → ClientInput × σ

/-- The socket: a request is packed, and a `read` takes a buffer full of bytes. -/
def sockets (G : FieldCode GreeterField) : Transport (List UInt8) where
  empty := []
  write m stream := stream ++ GreeterMessage.pack G m
  read stream := (clientRead G stream, stream.drop Requests.MAX_MSG_SIZE)

/-- A queue of requests. -/
def queues : Transport (List GreeterMessage) where
  empty := []
  write m queue := queue ++ [m]
  read queue := (queue.head?.elim .eof .msg, queue.tail)

/-! ### The daemon and its clients -/

/-- The daemon, what is under way to it on each connection, and how many requests were written. -/
structure Net (σ : Type) where
  world : World
  channel : ℕ → σ
  written : ℕ → ℕ

def Net.start (T : Transport σ) (debug : Bool) (templates : List Template) : Net σ :=
  ⟨.start debug templates, fun _ => T.empty, fun _ => 0⟩

/-- A client writes a request, or the daemon takes a step. -/
inductive NetEvent
  | write (c : ℕ) (m : GreeterMessage)
  | daemon (e : Event)

/-- The connection from which a step of the daemon reads: the one behind the descriptor. -/
def source (w : World) : Event → Option ℕ
  | .next _ =>
    if w.fds.readout = true ∧ w.registry.evalMode = false then
      (ready w).bind fun r => match r.cb, lookup w.fdtab r.fd with
        | some (.clientData _), some (.sock c) => some c
        | _, _ => none
    else none
  | _ => none

/-- The event with what `read` and `unpack` give. -/
def withInput (input : ClientInput) : Event → Event
  | .next a => .next { a with input := input }
  | e => e

/-- The step of the daemon, with what it reads. -/
def Net.event (T : Transport σ) (n : Net σ) (e : Event) : Event :=
  (source n.world e).elim e fun c => withInput (T.read (n.channel c)).1 e

def Net.step (C : FieldCode SpawnField) (T : Transport σ) (n : Net σ) : NetEvent → Net σ
  | .write c m => { n with
      channel := Function.update n.channel c (T.write m (n.channel c))
      written := Function.update n.written c (n.written c + 1) }
  | .daemon e => { n with
      world := Loop.step C n.world (n.event T e)
      channel := (source n.world e).elim n.channel fun c =>
        Function.update n.channel c (T.read (n.channel c)).2 }

/-- **What is asked of a run**: a client writes a request, of a size that fits into the daemon's buffer,
when it has got an answer to each request before, and the daemon releases no client with a login in
flight. -/
def Waits (G : FieldCode GreeterField) (T : Transport σ) (n : Net σ) : NetEvent → Prop
  | .write c m => n.written c ≤ answers c n.world ∧
      (GreeterMessage.pack G m).length ≤ Requests.MAX_MSG_SIZE
  | .daemon e => sparesLogins n.world (n.event T e) = true

instance (T : Transport σ) (n : Net σ) : ∀ e, Decidable (Waits G T n e)
  | .write _ _ => inferInstanceAs (Decidable (_ ∧ _))
  | .daemon _ => inferInstanceAs (Decidable (_ = _))

/-! ### Reading -/

theorem source_eq {e : Event} (h : Conns none w) : source w e = reads w e := by
  cases e with
  | next a =>
    unfold source reads
    split_ifs with hready
    · cases hr : ready w with
      | none => rfl
      | some r =>
        obtain ⟨cb, fd⟩ := r
        rcases cb with _ | _ | c | t
        · rfl
        · rfl
        · obtain ⟨cl, hcl, hfree, hfd⟩ := h.entry (ready_mem_live hr) rfl
          have hsock : lookup w.fdtab fd = some (.sock c) := by
            rw [← show cl.fd = fd from hfd]
            exact h.sock hcl hfree
          simp [hsock]
        · rfl
    · rfl
  | _ => rfl

theorem reads_withInput (input : ClientInput) (e : Event) : reads w (withInput input e) = reads w e := by
  cases e <;> rfl

theorem reads_event {T : Transport σ} {n : Net σ} {e : Event} :
    reads n.world (n.event T e) = reads n.world e := by
  unfold Net.event
  cases source n.world e with
  | none => rfl
  | some c => exact reads_withInput _ e

/-- The end of a connection is not answered. -/
theorem spent_eof {e : Event} (h : reads w e = some c) (d : ℕ) :
    spent d (Loop.step C w (withInput .eof e)) ≤ spent d w := by
  cases e with
  | next a =>
    unfold reads at h
    split_ifs at h with hread
    obtain ⟨⟨cb, fd⟩, hready, hcb⟩ := Option.bind_eq_some_iff.mp h
    rcases cb with _ | _ | c' | t
    · cases hcb
    · cases hcb
    · obtain rfl : c' = c := Option.some.inj hcb
      have hstep := step_client (C := C) (a := { a with input := .eof }) hread.1 hread.2 hready
      have hgets := ((Gets.refl d (advance w)).unregisterFd fd).clientFree c'
      refine le_of_eq_of_le (congrArg (spent d) hstep) ?_
      exact hgets.spent
    · cases hcb
  | _ => cases h

/-! ### The refinement -/

/-- **The streams hold the queued requests**, at most one on each connection, and no connection has got
more answers than requests were read from it. -/
structure Agree (G : FieldCode GreeterField) (n : Net (List UInt8)) (q : Net (List GreeterMessage)) :
    Prop where
  world : n.world = q.world
  written : n.written = q.written
  life : Life none q.world
  conns : Conns none q.world
  stream : ∀ c, n.channel c = (q.channel c).flatMap (GreeterMessage.pack G)
  one : ∀ c, (q.channel c).length ≤ 1
  size : ∀ c, ∀ m ∈ q.channel c, (GreeterMessage.pack G m).length ≤ Requests.MAX_MSG_SIZE
  turns : ∀ c, spent c q.world + (q.channel c).length ≤ q.written c

/-- **A stream with at most one request is read like a queue.** -/
theorem read_eq {queue : List GreeterMessage} (hone : queue.length ≤ 1)
    (hsize : ∀ m ∈ queue, (GreeterMessage.pack G m).length ≤ Requests.MAX_MSG_SIZE) :
    ((sockets G).read (queue.flatMap (GreeterMessage.pack G))).1 = (queues.read queue).1 ∧
      ((sockets G).read (queue.flatMap (GreeterMessage.pack G))).2 =
        (queues.read queue).2.flatMap (GreeterMessage.pack G) := by
  match queue, hone with
  | [], _ => exact ⟨rfl, rfl⟩
  | [m], _ =>
    have hm := hsize m (List.mem_singleton_self m)
    rw [List.flatMap_singleton]
    exact ⟨clientRead_pack hm, List.drop_eq_nil_of_le hm⟩

variable {n : Net (List UInt8)} {q : Net (List GreeterMessage)}

theorem Agree.event (h : Agree G n q) (e : Event) : n.event (sockets G) e = q.event queues e := by
  unfold Net.event
  rw [h.world]
  cases source q.world e with
  | none => rfl
  | some c =>
    change withInput _ e = withInput _ e
    rw [h.stream, (read_eq (h.one c) (h.size c)).1]

/-- A client that waits has nothing under way. -/
theorem Agree.empty (h : Agree G n q) (hwaits : q.written c ≤ answers c q.world) :
    q.channel c = [] := by
  have hturns := h.turns c
  have hanswers : answers c q.world ≤ spent c q.world := answers_le_spent
  exact List.eq_nil_of_length_eq_zero (by omega)

theorem Agree.write (h : Agree G n q) {m : GreeterMessage} (hwaits : q.written c ≤ answers c q.world)
    (hsize : (GreeterMessage.pack G m).length ≤ Requests.MAX_MSG_SIZE) :
    Agree G (n.step C (sockets G) (.write c m)) (q.step C queues (.write c m)) := by
  have hempty := h.empty hwaits
  refine ⟨h.world, ?_, h.life, h.conns, fun d => ?_, fun d => ?_, fun d => ?_, fun d => ?_⟩
  · exact congrArg (fun written : ℕ → ℕ => Function.update written c (written c + 1)) h.written
  · change Function.update n.channel c (n.channel c ++ GreeterMessage.pack G m) d =
      (Function.update q.channel c (q.channel c ++ [m]) d).flatMap _
    by_cases hd : d = c
    · subst hd
      rw [Function.update_self, Function.update_self, h.stream, List.flatMap_append,
        List.flatMap_singleton]
    · rw [Function.update_of_ne hd, Function.update_of_ne hd]
      exact h.stream d
  · change (Function.update q.channel c (q.channel c ++ [m]) d).length ≤ 1
    by_cases hd : d = c
    · subst hd
      rw [Function.update_self, hempty]
      exact Nat.le_refl 1
    · rw [Function.update_of_ne hd]
      exact h.one d
  · change ∀ m' ∈ Function.update q.channel c (q.channel c ++ [m]) d, _
    by_cases hd : d = c
    · subst hd
      rw [Function.update_self, hempty]
      intro m' hm'
      rw [List.mem_singleton.mp hm']
      exact hsize
    · rw [Function.update_of_ne hd]
      exact h.size d
  · change spent d q.world + (Function.update q.channel c (q.channel c ++ [m]) d).length ≤
      Function.update q.written c (q.written c + 1) d
    have hturns := h.turns d
    by_cases hd : d = c
    · subst hd
      rw [Function.update_self, Function.update_self, List.length_append, List.length_singleton]
      omega
    · rw [Function.update_of_ne hd, Function.update_of_ne hd]
      exact hturns

theorem Agree.daemon (h : Agree G n q) {e : Event}
    (hspares : sparesLogins q.world (q.event queues e) = true) :
    Agree G (n.step C (sockets G) (.daemon e)) (q.step C queues (.daemon e)) := by
  have hread : ∀ d, (q.step C queues (.daemon e)).channel d =
      if source q.world e = some d then (q.channel d).tail else q.channel d := by
    intro d
    change (source q.world e).elim q.channel _ d = _
    cases source q.world e with
    | none => rfl
    | some c =>
      by_cases hd : d = c
      · subst hd
        rw [if_pos rfl]
        exact Function.update_self ..
      · rw [if_neg fun heq => hd (Option.some.inj heq).symm]
        exact Function.update_of_ne hd ..
  refine ⟨?_, h.written, life_step h.life, conns_step h.life h.conns hspares, fun d => ?_, fun d => ?_,
    fun d => ?_, fun d => ?_⟩
  · change Loop.step C n.world (n.event (sockets G) e) = Loop.step C q.world (q.event queues e)
    rw [h.event, h.world]
  · have hstream : (n.step C (sockets G) (.daemon e)).channel d =
        if source q.world e = some d then ((sockets G).read (n.channel d)).2 else n.channel d := by
      change (source n.world e).elim n.channel _ d = _
      rw [h.world]
      cases source q.world e with
      | none => rfl
      | some c =>
        by_cases hd : d = c
        · subst hd
          rw [if_pos rfl]
          exact Function.update_self ..
        · rw [if_neg fun heq => hd (Option.some.inj heq).symm]
          exact Function.update_of_ne hd ..
    rw [hstream, hread]
    split_ifs
    · rw [h.stream]
      exact (read_eq (h.one d) (h.size d)).2
    · exact h.stream d
  · rw [hread]
    split_ifs
    · rw [List.length_tail]
      exact (Nat.sub_le _ 1).trans (h.one d)
    · exact h.one d
  · rw [hread]
    split_ifs
    · exact fun m hm => h.size d m (List.mem_of_mem_tail hm)
    · exact h.size d
  · -- a request that is read leaves the queue, and an empty queue is not answered
    have hturns := h.turns d
    have hstep : spent d (Loop.step C q.world (q.event queues e)) ≤
        spent d q.world + if reads q.world e = some d then 1 else 0 := by
      have hspent := spent_step (C := C) (c := d) (e := q.event queues e) h.life h.conns
      rwa [reads_event] at hspent
    change spent d (Loop.step C q.world (q.event queues e)) + _ ≤ q.written d
    rw [hread, source_eq h.conns]
    by_cases hreads : reads q.world e = some d
    · rw [if_pos hreads] at hstep ⊢
      cases hqueue : q.channel d with
      | nil =>
        have hevent : q.event queues e = withInput .eof e := by
          unfold Net.event
          rw [source_eq h.conns, hreads]
          change withInput (queues.read (q.channel d)).1 e = _
          rw [hqueue]
          rfl
        have heof := spent_eof (C := C) hreads d
        rw [hqueue] at hturns
        rw [hevent]
        exact (Nat.add_le_add_right heof _).trans hturns
      | cons m queue =>
        rw [hqueue, List.length_cons] at hturns
        rw [List.tail_cons]
        omega
    · rw [if_neg hreads] at hstep ⊢
      omega

theorem agree_step {e : NetEvent} (h : Agree G n q) (hwaits : Waits G (sockets G) n e) :
    Agree G (n.step C (sockets G) e) (q.step C queues e) := by
  cases e with
  | write c m =>
    obtain ⟨hanswered, hsize⟩ := hwaits
    rw [h.world, h.written] at hanswered
    exact h.write hanswered hsize
  | daemon e =>
    have hspares : sparesLogins n.world (n.event (sockets G) e) = true := hwaits
    rw [h.event, h.world] at hspares
    exact h.daemon hspares

theorem agree_start (G : FieldCode GreeterField) (debug : Bool) (templates : List Template) :
    Agree G (.start (sockets G) debug templates) (.start queues debug templates) where
  world := rfl
  written := rfl
  life := life_start debug templates
  conns := conns_start debug templates
  stream _ := rfl
  one _ := Nat.zero_le 1
  size _ _ hm := absurd hm List.not_mem_nil
  turns _ := Nat.le_refl 0

/-- **For clients that wait, a socket is a queue of requests**: the daemon that reads bytes does what the
daemon does that is given request by request, and on each connection at most one is under way. -/
theorem sockets_refine_queues (C : FieldCode SpawnField) (G : FieldCode GreeterField) (debug : Bool)
    (templates : List Template) (es : List NetEvent)
    (hwaits : Meets (Net.step C (sockets G)) (Waits G (sockets G)) (.start (sockets G) debug templates)
      es) :
    (run (Net.step C (sockets G)) (.start (sockets G) debug templates) es).world =
        (run (Net.step C queues) (.start queues debug templates) es).world ∧
      ∀ c, (run (Net.step C (sockets G)) (.start (sockets G) debug templates) es).channel c =
          ((run (Net.step C queues) (.start queues debug templates) es).channel c).flatMap
            (GreeterMessage.pack G) ∧
        ((run (Net.step C queues) (.start queues debug templates) es).channel c).length ≤ 1 := by
  have hagree := Meets.simulates (t := Net.step C queues) (R := Agree G)
    (fun _ _ _ h hok => agree_step h hok) es _ _ hwaits (agree_start G debug templates)
  exact ⟨hagree.world, fun c => ⟨hagree.stream c, hagree.one c⟩⟩

/-- The daemon over a transport takes steps of the daemon. -/
theorem net_world (C : FieldCode SpawnField) (T : Transport σ) : ∀ (es : List NetEvent) (n : Net σ),
    ∃ es', (run (Net.step C T) n es).world = run (Loop.step C) n.world es'
  | [], _ => ⟨[], rfl⟩
  | .write c m :: es, n => net_world C T es (n.step C T (.write c m))
  | .daemon e :: es, n =>
    have ⟨es', hes'⟩ := net_world C T es (n.step C T (.daemon e))
    ⟨n.event T e :: es', hes'⟩

/-- A client of a debug daemon says hello, and asks for a login when it has got the data. -/
def asksInTurn : List NetEvent :=
  connects.map .daemon ++ [.write 0 ⟨.hello, none, none⟩] ++ (turn [4] Answers.plain).map .daemon ++
    [.write 0 ⟨.loginTry, some ⟨"user", "secret", "shell"⟩, none⟩] ++
    (turn [4] Answers.plain).map .daemon

theorem sockets_refine_queues_login :
    (run (Net.step Encoding.spawnCode (sockets greeterCode)) (.start (sockets greeterCode) true [])
      asksInTurn).world =
        (run (Net.step Encoding.spawnCode queues) (.start queues true []) asksInTurn).world ∧
      ∀ c, (run (Net.step Encoding.spawnCode (sockets greeterCode))
          (.start (sockets greeterCode) true []) asksInTurn).channel c =
          ((run (Net.step Encoding.spawnCode queues) (.start queues true []) asksInTurn).channel c).flatMap
            (GreeterMessage.pack greeterCode) ∧
        ((run (Net.step Encoding.spawnCode queues) (.start queues true []) asksInTurn).channel c).length ≤
          1 :=
  sockets_refine_queues Encoding.spawnCode greeterCode true [] asksInTurn (by decide)

/-- A client that does not wait: its two requests are read as one, and it never gets its data. -/
example :
    let es : List NetEvent := connects.map .daemon ++ [.write 0 ⟨.hello, none, none⟩,
      .write 0 ⟨.loginTry, some ⟨"user", "secret", "shell"⟩, none⟩] ++ (turn [4] Answers.plain).map .daemon
    answers 0 (run (Net.step Encoding.spawnCode (sockets greeterCode)) (.start (sockets greeterCode) true [])
        es).world = 0 ∧
      answers 0 (run (Net.step Encoding.spawnCode queues) (.start queues true []) es).world = 1 := by
  decide

end Spawny.Daemon.Sockets
