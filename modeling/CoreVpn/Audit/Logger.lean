import CoreVpn.Audit.FileSink
import CoreVpn.Lib.Fanout

/-!
# The audit logger

`AuditLogger` (`corevpn-server/src/audit/mod.rs`) routes events to its sinks through a
bounded `tokio` channel. `log` queues the event unless the logger is disabled, waiting
while the channel is full. A background task (`process_events`) takes the events from the
channel one at a time and sends each to every sink in turn; a sink's error is logged
and the task goes on. `flush` and `close` call the sinks' own, in order, up to the first
error.

Callers and the task interleave at their `await`s. Here one action is one atomic step: a
caller's `log`; one step of the task, which takes an event from the channel or sends the
event it holds to the next sink; a caller's `flush` or `close`. A schedule is any list of
actions, run by `Machine.run`. The sinks are any machine over `send`, `flush` and `close`
(`dyn AuditSink`), each with a state of its own; a call runs at a time of any type.

Whatever the schedule, each sink has been sent exactly the queued events minus those it
still waits for, in order (`handed_append_pending`). The channel and the task's hand are
`Fanout`'s queue and hand, and its step lemmas carry the proof. `drainSteps` steps of the
task empty the channel (`drain`). `flush` returns before the task has sent what is queued
(`flush_returns_before_sending`). A sink whose view grows by a record per event sent,
such as the file sink's bytes, ends with the records of the events it was sent.
-/

namespace CoreVpn.Audit

open FileSystem

set_option autoImplicit false

/-- `AuditConfig`, the fields `AuditLogger` reads. `default_format`, `include_source_ip`,
`include_user_identity`, `hash_sensitive_fields` and `categories` are read by nothing:
events of every category are routed. -/
structure AuditConfig (κ : Type) where
  enabled : Bool
  bufferSize : Nat
  sinks : List κ

/-- `AuditConfig::default` with `default_enabled` and `default_buffer_size`. -/
def AuditConfig.default {κ : Type} : AuditConfig κ where
  enabled := true
  bufferSize := 10000
  sinks := []

/-- `AuditLogger` with its channel and its background task: the events queued in the
channel, at most its bound, and the event the task is sending with the index of the
next sink. -/
structure AuditLogger (ρ Instant : Type) where
  sinks : List ρ
  enabled : Bool
  capacity : Nat
  queue : List (AuditEvent Instant)
  hand : Option (AuditEvent Instant × Nat)
  capacity_pos : 0 < capacity
  queue_le : queue.length ≤ capacity
  hand_below : Fanout.HandBelow hand sinks.length

/-- A caller's call, or one step of the background task, at a time of type `τ`. -/
inductive AuditLogger.Action (Instant τ : Type)
  | log (event : AuditEvent Instant)
  | work (now : τ)
  | flush (now : τ)
  | close (now : τ)

/-- What one action did. -/
inductive AuditLogger.Answer (Instant : Type)
  /-- `log` on a disabled logger -/
  | ignored
  /-- `log` on a full channel: the caller is still waiting -/
  | waiting
  | queued (event : AuditEvent Instant)
  /-- the task found the channel empty -/
  | idle
  /-- the task took an event from the channel -/
  | received
  | sent (sink : Nat) (event : AuditEvent Instant) (result : Except AuditError Unit)
  /-- what `flush` or `close` returned -/
  | finished (result : Except AuditError Unit)

namespace AuditLogger

variable {κ ρ Instant τ : Type}

/-- `create_sinks`: the sinks in order, up to the first that fails. -/
def createSinks (createSink : κ → Except AuditError ρ) (config : AuditConfig κ) : Except AuditError (List ρ) :=
  config.sinks.mapM createSink

/-- `AuditLogger::new`: `mpsc::channel` panics on a zero bound, then the sinks are
created. -/
def new (createSink : κ → Except AuditError ρ) (config : AuditConfig κ) :
    Except (RustStr.Failure AuditError) (AuditLogger ρ Instant) :=
  if positive : 0 < config.bufferSize then
    match createSinks createSink config with
    | .ok sinks =>
        .ok { sinks := sinks
              enabled := config.enabled
              capacity := config.bufferSize
              queue := []
              hand := none
              capacity_pos := positive
              queue_le := Nat.zero_le _
              hand_below := Fanout.handBelow_none _ }
    | .error error => .error (.err error)
  else .error .panic

/-- `AuditLogger::null`: a channel of bound 1, no sinks, disabled. -/
def null : AuditLogger ρ Instant where
  sinks := []
  enabled := false
  capacity := 1
  queue := []
  hand := none
  capacity_pos := Nat.one_pos
  queue_le := Nat.zero_le _
  hand_below := Fanout.handBelow_none _

/-- `log`: nothing when disabled; otherwise `tx.send(event).await`, which waits while
the channel is full. -/
def log (logger : AuditLogger ρ Instant) (event : AuditEvent Instant) : Answer Instant × AuditLogger ρ Instant :=
  if logger.enabled then
    if room : logger.queue.length < logger.capacity then
      (.queued event,
        { logger with
          queue := logger.queue ++ [event]
          queue_le := by rw [List.length_append, List.length_singleton]; exact room })
    else (.waiting, logger)
  else (.ignored, logger)

variable (sinkCall : ρ → FileSink.Call Instant × τ → Except AuditError Unit × ρ)

def work (logger : AuditLogger ρ Instant) (now : τ) : Answer Instant × AuditLogger ρ Instant :=
  match found : logger.hand with
  | some (event, next) =>
      (.sent next event (sinkCall (logger.sinks.get ⟨next, logger.hand_below event next found⟩) (.send event, now)).1,
        { logger with
          sinks := logger.sinks.set next
            (sinkCall (logger.sinks.get ⟨next, logger.hand_below event next found⟩) (.send event, now)).2
          hand := Fanout.advance event next logger.sinks.length
          hand_below := by rw [List.length_set]; exact Fanout.handBelow_advance _ _ _ })
  | none =>
      match taken : logger.queue with
      | [] => (.idle, logger)
      | event :: rest =>
          (.received,
            { logger with
              queue := rest
              hand := Fanout.grab event logger.sinks.length
              queue_le := by
                have bound := logger.queue_le
                rw [taken, List.length_cons] at bound
                omega
              hand_below := Fanout.handBelow_grab _ _ })

/-- `for sink in &self.sinks { sink.flush().await?; }`, and the same loop of `close`:
each sink's call in order, up to the first error. -/
def callAll (request : FileSink.Call Instant) (now : τ) : List ρ → Except AuditError Unit × List ρ
  | [] => (.ok (), [])
  | sink :: sinks =>
      match (sinkCall sink (request, now)).1 with
      | .error error => (.error error, (sinkCall sink (request, now)).2 :: sinks)
      | .ok () => ((callAll request now sinks).1, (sinkCall sink (request, now)).2 :: (callAll request now sinks).2)

theorem length_callAll (request : FileSink.Call Instant) (now : τ) (sinks : List ρ) :
    (callAll sinkCall request now sinks).2.length = sinks.length := by
  induction sinks with
  | nil => rfl
  | cons sink sinks ih =>
      unfold callAll
      split
      · rfl
      · rw [List.length_cons, List.length_cons, ih]

/-- `flush` and `close`: the sinks' own, in order. -/
def callSinks (logger : AuditLogger ρ Instant) (request : FileSink.Call Instant) (now : τ) :
    Answer Instant × AuditLogger ρ Instant :=
  (.finished (callAll sinkCall request now logger.sinks).1,
    { logger with
      sinks := (callAll sinkCall request now logger.sinks).2
      hand_below := by rw [length_callAll]; exact logger.hand_below })

def step (logger : AuditLogger ρ Instant) : Action Instant τ → Answer Instant × AuditLogger ρ Instant
  | .log event => log logger event
  | .work now => work sinkCall logger now
  | .flush now => callSinks sinkCall logger .flush now
  | .close now => callSinks sinkCall logger .close now

/-! ## What one step does -/

theorem step_log (logger : AuditLogger ρ Instant) (event : AuditEvent Instant) :
    step sinkCall logger (.log event) = log logger event := rfl

theorem step_work (logger : AuditLogger ρ Instant) (now : τ) :
    step sinkCall logger (.work now) = work sinkCall logger now := rfl

theorem step_flush (logger : AuditLogger ρ Instant) (now : τ) :
    step sinkCall logger (.flush now) = callSinks sinkCall logger .flush now := rfl

theorem step_close (logger : AuditLogger ρ Instant) (now : τ) :
    step sinkCall logger (.close now) = callSinks sinkCall logger .close now := rfl

theorem log_frame (logger : AuditLogger ρ Instant) (event : AuditEvent Instant) :
    (log logger event).2.sinks = logger.sinks ∧ (log logger event).2.hand = logger.hand ∧
      (log logger event).2.capacity = logger.capacity := by
  unfold log
  split
  · split
    · exact ⟨rfl, rfl, rfl⟩
    · exact ⟨rfl, rfl, rfl⟩
  · exact ⟨rfl, rfl, rfl⟩

theorem length_sinks_step (logger : AuditLogger ρ Instant) (action : Action Instant τ) :
    (step sinkCall logger action).2.sinks.length = logger.sinks.length := by
  cases action with
  | log event => rw [step_log, (log_frame logger event).1]
  | work now =>
      rw [step_work]
      unfold work
      split
      · exact List.length_set ..
      · split <;> rfl
  | flush now => exact length_callAll sinkCall _ _ _
  | close now => exact length_callAll sinkCall _ _ _

theorem work_of_hand {logger : AuditLogger ρ Instant} {event : AuditEvent Instant} {next : Nat}
    (found : logger.hand = some (event, next)) (now : τ) :
    (work sinkCall logger now).1 =
        .sent next event (sinkCall (logger.sinks.get ⟨next, logger.hand_below event next found⟩) (.send event, now)).1 ∧
      (work sinkCall logger now).2.sinks = logger.sinks.set next
        (sinkCall (logger.sinks.get ⟨next, logger.hand_below event next found⟩) (.send event, now)).2 ∧
      (work sinkCall logger now).2.queue = logger.queue ∧
      (work sinkCall logger now).2.hand = Fanout.advance event next logger.sinks.length := by
  unfold work
  split
  · rename_i held other inHand
    rw [found] at inHand
    cases inHand
    exact ⟨rfl, rfl, rfl, rfl⟩
  · rename_i empty
    rw [found] at empty
    cases empty

theorem work_of_empty_hand {logger : AuditLogger ρ Instant} (empty : logger.hand = none) (now : τ) :
    (work sinkCall logger now).2.sinks = logger.sinks ∧
      ((logger.queue = [] ∧ (work sinkCall logger now).1 = .idle ∧ (work sinkCall logger now).2.queue = [] ∧
          (work sinkCall logger now).2.hand = none) ∨
        ∃ event rest, logger.queue = event :: rest ∧ (work sinkCall logger now).1 = .received ∧
          (work sinkCall logger now).2.queue = rest ∧
          (work sinkCall logger now).2.hand = Fanout.grab event logger.sinks.length) := by
  unfold work
  split
  · rename_i held other inHand
    rw [empty] at inHand
    cases inHand
  · split
    · rename_i taken
      exact ⟨rfl, Or.inl ⟨taken, rfl, taken, empty⟩⟩
    · rename_i event rest taken
      exact ⟨rfl, Or.inr ⟨event, rest, taken, rfl, rfl, rfl⟩⟩

theorem work_consume (logger : AuditLogger ρ Instant) (now : τ) :
    ((work sinkCall logger now).2.queue, (work sinkCall logger now).2.hand) =
      Fanout.consume logger.queue logger.hand logger.sinks.length := by
  cases found : logger.hand with
  | none =>
      obtain ⟨-, ⟨taken, -, queue, hand⟩ | ⟨event, rest, taken, -, queue, hand⟩⟩ :=
        work_of_empty_hand sinkCall found now
      · rw [queue, hand, taken]
        rfl
      · rw [queue, hand, taken]
        rfl
  | some held =>
      obtain ⟨event, next⟩ := held
      obtain ⟨-, -, queue, hand⟩ := work_of_hand sinkCall found now
      rw [queue, hand]
      rfl

/-! ## Every sink is sent what was queued, in order -/

def handedTo (receiver : Nat) : Answer Instant → List (AuditEvent Instant)
  | .sent sink event _ => if receiver = sink then [event] else []
  | _ => []

def accepted : Answer Instant → List (AuditEvent Instant)
  | .queued event => [event]
  | _ => []

@[simp] theorem handedTo_sent (receiver sink : Nat) (event : AuditEvent Instant) (result : Except AuditError Unit) :
    handedTo receiver (.sent sink event result) = if receiver = sink then [event] else [] := rfl

@[simp] theorem accepted_sent (sink : Nat) (event : AuditEvent Instant) (result : Except AuditError Unit) :
    accepted (.sent sink event result) = [] := rfl

@[simp] theorem accepted_queued (event : AuditEvent Instant) : accepted (.queued event) = [event] := rfl

def pendingFor (logger : AuditLogger ρ Instant) (receiver : Nat) : List (AuditEvent Instant) :=
  Fanout.pending logger.queue logger.hand receiver

theorem step_pending (logger : AuditLogger ρ Instant) (action : Action Instant τ) {receiver : Nat}
    (below : receiver < logger.sinks.length) :
    handedTo receiver (step sinkCall logger action).1 ++ pendingFor (step sinkCall logger action).2 receiver =
      pendingFor logger receiver ++ accepted (step sinkCall logger action).1 := by
  cases action with
  | log event =>
      rw [step_log]
      unfold log
      split
      · split
        · exact Fanout.pending_push logger.queue logger.hand event receiver
        · exact (List.append_nil _).symm
      · exact (List.append_nil _).symm
  | work now =>
      rw [step_work]
      cases found : logger.hand with
      | some held =>
          obtain ⟨event, next⟩ := held
          obtain ⟨answer, -, queue, hand⟩ := work_of_hand sinkCall found now
          rw [answer, pendingFor, pendingFor, queue, hand, found, accepted_sent, List.append_nil, handedTo_sent]
          exact Fanout.pending_advance event logger.queue below
      | none =>
          obtain ⟨-, ⟨taken, answer, queue, hand⟩ | ⟨event, rest, taken, answer, queue, hand⟩⟩ :=
            work_of_empty_hand sinkCall found now
          · rw [answer, pendingFor, pendingFor, queue, hand, found, taken]
            rfl
          · rw [answer, pendingFor, pendingFor, queue, hand, found, taken]
            simp only [handedTo, accepted, List.nil_append, List.append_nil]
            exact Fanout.pending_grab event rest below
  | flush now => exact (List.append_nil _).symm
  | close now => exact (List.append_nil _).symm

theorem handed_append_pending (logger : AuditLogger ρ Instant) (schedule : List (Action Instant τ))
    {receiver : Nat} (below : receiver < logger.sinks.length) :
    (Machine.run (step sinkCall) logger schedule).1.flatMap (handedTo receiver) ++
        pendingFor (Machine.run (step sinkCall) logger schedule).2 receiver =
      pendingFor logger receiver ++ (Machine.run (step sinkCall) logger schedule).1.flatMap accepted := by
  have flow := Machine.run_flow_of_invariant (step sinkCall) (fun state => receiver < state.sinks.length)
    (fun state action inside => by rw [length_sinks_step]; exact inside)
    (fun _ answer => accepted answer) (handedTo receiver) (fun state => pendingFor state receiver)
    (fun state action inside => step_pending sinkCall state action inside) below schedule
  rw [Machine.flatMap_zip_run (step sinkCall) accepted] at flow
  exact flow

theorem handed_append_pending_one_sink :
    let logger : AuditLogger Unit Unit :=
      { sinks := [()], enabled := true, capacity := 1, queue := [], hand := none, capacity_pos := Nat.one_pos,
        queue_le := Nat.zero_le _, hand_below := Fanout.handBelow_none _ }
    let event := (AuditEventBuilder.authAttempt "alice" none).build "1" () none
    let schedule : List (Action Unit Unit) := [.log event, .work (), .flush (), .log event, .work ()]
    0 < logger.sinks.length ∧
      (Machine.run (step fun sink _ => (.ok (), sink)) logger schedule).1.flatMap (handedTo 0) ++
          pendingFor (Machine.run (step fun sink _ => (.ok (), sink)) logger schedule).2 0 =
        pendingFor logger 0 ++ (Machine.run (step fun sink _ => (.ok (), sink)) logger schedule).1.flatMap accepted := by
  intro logger event schedule
  exact ⟨Nat.one_pos, handed_append_pending (fun sink _ => (.ok (), sink)) logger schedule Nat.one_pos⟩

/-! ## The task drains the channel -/

theorem drainSteps_work (logger : AuditLogger ρ Instant) (now : τ) :
    Fanout.drainSteps (work sinkCall logger now).2.queue (work sinkCall logger now).2.hand
        (work sinkCall logger now).2.sinks.length =
      Fanout.drainSteps logger.queue logger.hand logger.sinks.length - 1 := by
  have queue := congrArg Prod.fst (work_consume sinkCall logger now)
  have hand := congrArg Prod.snd (work_consume sinkCall logger now)
  have sameSinks := length_sinks_step sinkCall logger (.work now)
  dsimp only at queue hand
  rw [show (work sinkCall logger now).2.sinks.length = logger.sinks.length from sameSinks, queue, hand]
  exact Fanout.drainSteps_consume_sub_one logger.hand_below

theorem drain (logger : AuditLogger ρ Instant) (times : List τ)
    (enough : Fanout.drainSteps logger.queue logger.hand logger.sinks.length ≤ times.length) :
    (Machine.run (step sinkCall) logger (times.map .work)).2.queue = [] ∧
      (Machine.run (step sinkCall) logger (times.map .work)).2.hand = none := by
  induction times generalizing logger with
  | nil =>
      rw [List.length_nil, Nat.le_zero] at enough
      exact Fanout.drainSteps_eq_zero logger.hand_below enough
  | cons now times ih =>
      rw [List.map_cons, Machine.run_cons]
      apply ih
      rw [step_work, drainSteps_work]
      rw [List.length_cons] at enough
      omega

theorem capacity_step (logger : AuditLogger ρ Instant) (action : Action Instant τ) :
    (step sinkCall logger action).2.capacity = logger.capacity := by
  cases action with
  | log event => rw [step_log, (log_frame logger event).2.2]
  | work now =>
      rw [step_work]
      unfold work
      split
      · rfl
      · split <;> rfl
  | flush now => rfl
  | close now => rfl

theorem run_capacity_sinks (logger : AuditLogger ρ Instant) (schedule : List (Action Instant τ)) :
    (Machine.run (step sinkCall) logger schedule).2.capacity = logger.capacity ∧
      (Machine.run (step sinkCall) logger schedule).2.sinks.length = logger.sinks.length :=
  Machine.run_invariant (step sinkCall)
    (fun state => state.capacity = logger.capacity ∧ state.sinks.length = logger.sinks.length)
    (fun state action same => ⟨(capacity_step sinkCall state action).trans same.1,
      (length_sinks_step sinkCall state action).trans same.2⟩) ⟨rfl, rfl⟩ schedule

theorem delivered_after_drain (logger : AuditLogger ρ Instant) (fresh : logger.queue = [])
    (idle : logger.hand = none) (schedule : List (Action Instant τ)) (times : List τ)
    (enough : logger.sinks.length + logger.capacity * (logger.sinks.length + 1) ≤ times.length)
    {receiver : Nat} (below : receiver < logger.sinks.length) :
    (Machine.run (step sinkCall) logger (schedule ++ times.map .work)).1.flatMap (handedTo receiver) =
      (Machine.run (step sinkCall) logger (schedule ++ times.map .work)).1.flatMap accepted := by
  have conserved := handed_append_pending sinkCall logger (schedule ++ times.map .work) below
  have middle := run_capacity_sinks sinkCall logger schedule
  have bounded : Fanout.drainSteps (Machine.run (step sinkCall) logger schedule).2.queue
      (Machine.run (step sinkCall) logger schedule).2.hand
      (Machine.run (step sinkCall) logger schedule).2.sinks.length ≤ times.length := by
    have counted := Fanout.drainSteps_le (Machine.run (step sinkCall) logger schedule).2.queue
      (Machine.run (step sinkCall) logger schedule).2.hand (Machine.run (step sinkCall) logger schedule).2.sinks.length
    have queued := (Machine.run (step sinkCall) logger schedule).2.queue_le
    rw [middle.1] at queued
    rw [middle.2] at counted ⊢
    have scaled := Nat.mul_le_mul_right (logger.sinks.length + 1) queued
    omega
  have drained := drain sinkCall _ times bounded
  rw [Machine.run_append] at conserved
  have empty : pendingFor (Machine.run (step sinkCall) (Machine.run (step sinkCall) logger schedule).2
      (times.map .work)).2 receiver = [] := by
    rw [pendingFor, drained.1, drained.2]
    rfl
  have start : pendingFor logger receiver = [] := by
    rw [pendingFor, fresh, idle]
    rfl
  rw [Machine.run_append]
  simpa only [empty, start, List.append_nil, List.nil_append] using conserved

theorem delivered_after_drain_one_sink :
    let logger : AuditLogger Unit Unit :=
      { sinks := [()], enabled := true, capacity := 2, queue := [], hand := none, capacity_pos := Nat.two_pos,
        queue_le := Nat.zero_le _, hand_below := Fanout.handBelow_none _ }
    let event := (AuditEventBuilder.authAttempt "alice" none).build "1" () none
    let schedule : List (Action Unit Unit) := [.log event, .flush (), .log event]
    logger.queue = [] ∧ logger.hand = none ∧
      logger.sinks.length + logger.capacity * (logger.sinks.length + 1) ≤ [(), (), (), (), ()].length ∧
      0 < logger.sinks.length ∧
      (Machine.run (step fun sink _ => (.ok (), sink)) logger (schedule ++ [(), (), (), (), ()].map .work)).1.flatMap
          (handedTo 0) =
        (Machine.run (step fun sink _ => (.ok (), sink)) logger (schedule ++ [(), (), (), (), ()].map .work)).1.flatMap
          accepted := by
  intro logger event schedule
  exact ⟨rfl, rfl, by decide, Nat.one_pos,
    delivered_after_drain (fun sink _ => (.ok (), sink)) logger rfl rfl schedule [(), (), (), (), ()] (by decide)
      Nat.one_pos⟩

/-! ## `flush` does not wait for the task -/

section Views

variable {β : Type} (view : ρ → List β) (record : AuditEvent Instant → List β) (fit : ρ → Prop)

def sinkView (logger : AuditLogger ρ Instant) (receiver : Nat) : List β :=
  ((logger.sinks[receiver]?).map view).getD []

theorem handedTo_log (logger : AuditLogger ρ Instant) (event : AuditEvent Instant) (receiver : Nat) :
    handedTo receiver (log logger event).1 = [] := by
  unfold log
  split
  · split <;> rfl
  · rfl

variable (sends : ∀ sink event (now : τ), fit sink →
    fit (sinkCall sink (.send event, now)).2 ∧ view (sinkCall sink (.send event, now)).2 = view sink ++ record event)
  (keeps : ∀ sink (now : τ) request, (request = .flush ∨ request = .close) → fit sink →
    fit (sinkCall sink (request, now)).2 ∧ view (sinkCall sink (request, now)).2 = view sink)

include keeps in
theorem callAll_keeps (request : FileSink.Call Instant) (flushOrClose : request = .flush ∨ request = .close)
    (now : τ) (sinks : List ρ) (fits : ∀ sink ∈ sinks, fit sink) :
    (∀ sink ∈ (callAll sinkCall request now sinks).2, fit sink) ∧
      ∀ receiver : Nat, ((callAll sinkCall request now sinks).2[receiver]?).map view = (sinks[receiver]?).map view := by
  induction sinks with
  | nil => exact ⟨fits, fun _ => rfl⟩
  | cons sink sinks ih =>
      have called := keeps sink now request flushOrClose (fits sink List.mem_cons_self)
      have rest : ∀ other ∈ sinks, fit other := fun other member => fits other (List.mem_cons_of_mem _ member)
      unfold callAll
      split
      · -- the first error stops the loop: the later sinks are not called
        refine ⟨fun other member => ?_, fun receiver => ?_⟩
        · rcases List.mem_cons.mp member with rfl | later
          · exact called.1
          · exact rest other later
        · cases receiver with
          | zero => exact congrArg some called.2
          | succ receiver => rfl
      · obtain ⟨restFit, restView⟩ := ih rest
        refine ⟨fun other member => ?_, fun receiver => ?_⟩
        · rcases List.mem_cons.mp member with rfl | later
          · exact called.1
          · exact restFit other later
        · cases receiver with
          | zero => exact congrArg some called.2
          | succ receiver => exact restView receiver

include sends keeps in
theorem step_sinkView (logger : AuditLogger ρ Instant) (fits : ∀ sink ∈ logger.sinks, fit sink)
    (action : Action Instant τ) (receiver : Nat) :
    (∀ sink ∈ (step sinkCall logger action).2.sinks, fit sink) ∧
      sinkView view (step sinkCall logger action).2 receiver =
        sinkView view logger receiver ++ (handedTo receiver (step sinkCall logger action).1).flatMap record := by
  cases action with
  | log event =>
      rw [step_log, handedTo_log, List.flatMap_nil, List.append_nil, sinkView, sinkView, (log_frame logger event).1]
      exact ⟨fits, rfl⟩
  | work now =>
      rw [step_work]
      cases found : logger.hand with
      | some held =>
          obtain ⟨event, next⟩ := held
          have below := logger.hand_below event next found
          obtain ⟨answer, sinks, -, -⟩ := work_of_hand sinkCall found now
          have served := sends (logger.sinks.get ⟨next, below⟩) event now (fits _ (List.get_mem _ _))
          rw [answer, handedTo_sent, sinkView, sinkView, sinks]
          refine ⟨fun sink member => ?_, ?_⟩
          · rcases List.mem_or_eq_of_mem_set member with old | rfl
            · exact fits sink old
            · exact served.1
          · by_cases reached : receiver = next
            · -- the sink served this step: its view grows by the event's record
              subst reached
              rw [if_pos rfl, List.flatMap_singleton, List.getElem?_set_self below, List.getElem?_eq_getElem below]
              exact served.2
            · rw [if_neg reached, List.flatMap_nil, List.append_nil, List.getElem?_set_ne (Ne.symm reached)]
      | none =>
          obtain ⟨sinks, ⟨-, answer, -, -⟩ | ⟨-, -, -, answer, -, -⟩⟩ := work_of_empty_hand sinkCall found now
          · rw [answer, sinkView, sinkView, sinks]
            exact ⟨fits, (List.append_nil _).symm⟩
          · rw [answer, sinkView, sinkView, sinks]
            exact ⟨fits, (List.append_nil _).symm⟩
  | flush now =>
      obtain ⟨stillFit, sameView⟩ := callAll_keeps sinkCall view fit keeps .flush (Or.inl rfl) now logger.sinks fits
      refine ⟨stillFit, ?_⟩
      rw [step_flush, sinkView, sinkView]
      exact (congrArg (fun seen => Option.getD seen []) (sameView receiver)).trans (List.append_nil _).symm
  | close now =>
      obtain ⟨stillFit, sameView⟩ := callAll_keeps sinkCall view fit keeps .close (Or.inr rfl) now logger.sinks fits
      refine ⟨stillFit, ?_⟩
      rw [step_close, sinkView, sinkView]
      exact (congrArg (fun seen => Option.getD seen []) (sameView receiver)).trans (List.append_nil _).symm

include sends keeps in
theorem fits_run (logger : AuditLogger ρ Instant) (fits : ∀ sink ∈ logger.sinks, fit sink)
    (schedule : List (Action Instant τ)) : ∀ sink ∈ (Machine.run (step sinkCall) logger schedule).2.sinks, fit sink :=
  Machine.run_invariant (step sinkCall) (fun state => ∀ sink ∈ state.sinks, fit sink)
    (fun state action stateFits => (step_sinkView sinkCall view record fit sends keeps state stateFits action 0).1)
    fits schedule

include sends keeps in
theorem sinkView_run (logger : AuditLogger ρ Instant) (fits : ∀ sink ∈ logger.sinks, fit sink)
    (schedule : List (Action Instant τ)) (receiver : Nat) :
    sinkView view (Machine.run (step sinkCall) logger schedule).2 receiver =
      sinkView view logger receiver ++
        ((Machine.run (step sinkCall) logger schedule).1.flatMap (handedTo receiver)).flatMap record := by
  have flow := Machine.run_flow_of_invariant (step sinkCall) (fun state => ∀ sink ∈ state.sinks, fit sink)
    (fun state action stateFits => (step_sinkView sinkCall view record fit sends keeps state stateFits action receiver).1)
    (fun _ answer => (handedTo receiver answer).flatMap record) (fun _ => ([] : List β))
    (fun state => sinkView view state receiver)
    (fun state action stateFits => by
      rw [List.nil_append]
      exact (step_sinkView sinkCall view record fit sends keeps state stateFits action receiver).2)
    fits schedule
  have silent : (Machine.run (step sinkCall) logger schedule).1.flatMap (fun _ => ([] : List β)) = [] :=
    List.flatMap_eq_nil_iff.mpr fun _ _ => rfl
  rw [Machine.flatMap_zip_run (step sinkCall) (fun answer => (handedTo receiver answer).flatMap record),
    silent, List.nil_append] at flow
  rw [flow, List.flatMap_assoc]

end Views

theorem new_eq_ok {createSink : κ → Except AuditError ρ} {config : AuditConfig κ} {logger : AuditLogger ρ Instant}
    (created : new createSink config = .ok logger) :
    createSinks createSink config = .ok logger.sinks ∧ logger.queue = [] ∧ logger.hand = none ∧
      logger.capacity = config.bufferSize := by
  unfold new at created
  split at created
  · split at created
    · rename_i sinks made
      injection created with same
      subst same
      exact ⟨made, rfl, rfl, rfl⟩
    · cases created
  · cases created

/-! ## One audit file -/

section FileLog

variable (serde : Serde Instant) (chrono : Chrono Instant) (hostname : Option String)

def recordOf (encoder : FormatEncoder) (event : AuditEvent Instant) : List UInt8 :=
  match encoder.encode serde chrono event with
  | .ok line => RustStr.asBytes line
  | .error _ => []

variable {config : FileConfig} {encoder : FormatEncoder}

theorem fileSink_sends (state : FileSink × Files String) (event : AuditEvent Instant) (now : Stamp)
    (steady : FileSink.Steady hostname config encoder state.1) :
    FileSink.Steady hostname config encoder (FileSink.call serde chrono hostname state (.send event, now)).2.1 ∧
      FileSink.held (FileSink.call serde chrono hostname state (.send event, now)).2 =
        FileSink.held state ++ recordOf serde chrono encoder event :=
  FileSink.call_conserves serde chrono hostname state steady (.send event, now)

theorem fileSink_keeps (state : FileSink × Files String) (now : Stamp) (request : FileSink.Call Instant)
    (flushOrClose : request = .flush ∨ request = .close) (steady : FileSink.Steady hostname config encoder state.1) :
    FileSink.Steady hostname config encoder (FileSink.call serde chrono hostname state (request, now)).2.1 ∧
      FileSink.held (FileSink.call serde chrono hostname state (request, now)).2 = FileSink.held state := by
  obtain ⟨stillSteady, grown⟩ := FileSink.call_conserves serde chrono hostname state steady (request, now)
  refine ⟨stillSteady, ?_⟩
  rcases flushOrClose with rfl | rfl
  · exact grown.trans (List.append_nil _)
  · exact grown.trans (List.append_nil _)

theorem flush_single_file (logger : AuditLogger (FileSink × Files String) Instant) {sink : FileSink × Files String}
    (single : logger.sinks = [sink]) (steady : FileSink.Steady hostname config encoder sink.1) (now : Stamp) :
    ∃ flushed, (step (FileSink.call serde chrono hostname) logger (.flush now)).2.sinks = [flushed] ∧
      flushed.1.buffer = [] ∧ flushed.1.currentPath = sink.1.currentPath ∧
      FileSink.held flushed = FileSink.held sink := by
  have written := FileSink.writeLines_of_steady hostname
    (show FileSink.Steady hostname config encoder { sink.1 with buffer := [] } from steady.frame hostname rfl rfl rfl)
    sink.2 now sink.1.buffer
  refine ⟨(FileSink.call serde chrono hostname sink (.flush, now)).2, ?_, written.2.1, written.2.2.1,
    (fileSink_keeps serde chrono hostname sink now .flush (Or.inl rfl) steady).2⟩
  rw [step_flush]
  show (callAll (FileSink.call serde chrono hostname) .flush now logger.sinks).2 = _
  rw [single]
  rfl

/-- An audit logger whose only sink is a file that does not rotate, created by `new`:
after any schedule of callers, task and flushes, enough steps of the task and a flush,
the file holds its first bytes followed by the record of every event `log` queued, in
the order it queued them. -/
theorem file_holds_queued_records (auditConfig : AuditConfig FileConfig) (fileConfig : FileConfig)
    (only : auditConfig.sinks = [fileConfig]) (opened : Stamp) (files : Files String)
    (unrotated : fileConfig.rotation = .none) (timeless : Timeless fileConfig.path)
    {logger : AuditLogger (FileSink × Files String) Instant}
    (created : new (fun fileConfig => .ok (FileSink.new hostname opened fileConfig, files)) auditConfig = .ok logger)
    (schedule : List (Action Instant Stamp)) (times : List Stamp) (enough : 1 + auditConfig.bufferSize * 2 ≤ times.length)
    (last : Stamp) :
    ∃ final, (Machine.run (step (FileSink.call serde chrono hostname)) logger
        (schedule ++ times.map .work ++ [.flush last])).2.sinks = [final] ∧
      (final.2 (FileSink.new hostname opened fileConfig).currentPath).getD [] =
        (files (FileSink.new hostname opened fileConfig).currentPath).getD [] ++
          ((Machine.run (step (FileSink.call serde chrono hostname)) logger
            (schedule ++ times.map .work ++ [.flush last])).1.flatMap accepted).flatMap
              (recordOf serde chrono (FileSink.new hostname opened fileConfig).encoder) := by
  obtain ⟨made, fresh, idle, capacity⟩ := new_eq_ok created
  have single : logger.sinks = [(FileSink.new hostname opened fileConfig, files)] := by
    rw [createSinks, only] at made
    injection made with same
    exact same.symm
  have start := FileSink.steady_new hostname fileConfig opened unrotated timeless
  have fits : ∀ sink ∈ logger.sinks,
      FileSink.Steady hostname fileConfig (FileSink.new hostname opened fileConfig).encoder sink.1 := by
    rw [single]
    intro sink member
    rw [List.mem_singleton.mp member]
    exact start
  have below : 0 < logger.sinks.length := by rw [single]; exact Nat.one_pos
  have delivered := delivered_after_drain (FileSink.call serde chrono hostname) logger fresh idle schedule times
    (by rw [single, capacity]; exact enough) below
  have viewed := sinkView_run (FileSink.call serde chrono hostname) FileSink.held
    (recordOf serde chrono (FileSink.new hostname opened fileConfig).encoder)
    (fun sink => FileSink.Steady hostname fileConfig (FileSink.new hostname opened fileConfig).encoder sink.1)
    (fun state event now steady => fileSink_sends serde chrono hostname state event now steady)
    (fun state now request flushOrClose steady => fileSink_keeps serde chrono hostname state now request flushOrClose steady)
    logger fits (schedule ++ times.map .work) 0
  have middleFits := fits_run (FileSink.call serde chrono hostname) FileSink.held
    (recordOf serde chrono (FileSink.new hostname opened fileConfig).encoder)
    (fun sink => FileSink.Steady hostname fileConfig (FileSink.new hostname opened fileConfig).encoder sink.1)
    (fun state event now steady => fileSink_sends serde chrono hostname state event now steady)
    (fun state now request flushOrClose steady => fileSink_keeps serde chrono hostname state now request flushOrClose steady)
    logger fits (schedule ++ times.map .work)
  have oneSink := (run_capacity_sinks (FileSink.call serde chrono hostname) logger (schedule ++ times.map .work)).2
  rw [single, List.length_singleton] at oneSink
  obtain ⟨middle, middleSinks⟩ := List.length_eq_one_iff.mp oneSink
  obtain ⟨final, finalSinks, emptied, samePath, sameHeld⟩ := flush_single_file serde chrono hostname _ middleSinks
    (middleFits middle (by rw [middleSinks]; exact List.mem_singleton_self _)) last
  refine ⟨final, by rw [Machine.run_append, Machine.run_cons, Machine.run_nil]; exact finalSinks, ?_⟩
  have path : middle.1.currentPath = (FileSink.new hostname opened fileConfig).currentPath :=
    ((middleFits middle (by rw [middleSinks]; exact List.mem_singleton_self _)).fixed opened).symm
  rw [sinkView, sinkView, middleSinks, single] at viewed
  simp only [List.getElem?_cons_zero, Option.map_some, Option.getD_some] at viewed
  rw [Machine.run_append, Machine.run_cons, Machine.run_nil, List.flatMap_append, List.flatMap_append]
  have quiet : ((step (FileSink.call serde chrono hostname)
      (Machine.run (step (FileSink.call serde chrono hostname)) logger (schedule ++ times.map .work)).2
      (.flush last)).1 :: []).flatMap accepted = [] := rfl
  have finalHeld : FileSink.held final = (final.2 (FileSink.new hostname opened fileConfig).currentPath).getD [] := by
    rw [FileSink.held, emptied, samePath, path, List.flatMap_nil, List.append_nil]
  have initialHeld : FileSink.held (FileSink.new hostname opened fileConfig, files) =
      (files (FileSink.new hostname opened fileConfig).currentPath).getD [] := by
    simp [FileSink.held, FileSink.new]
  rw [quiet, List.flatMap_nil, List.append_nil, ← delivered, ← finalHeld, sameHeld, viewed, initialHeld]

/-- A JSON file `audit.log`, a channel of bound one, two events logged around a flush. -/
theorem file_holds_queued_records_in_audit_log :
    let serde : Serde Unit := ⟨fun _ => .ok "", fun _ => .ok "", fun _ => .ok "", fun _ => .ok "", fun _ => .ok ""⟩
    let chrono : Chrono Unit := ⟨fun _ => 0, fun _ => "", fun _ => "", fun _ _ absent => absurd absent List.not_mem_nil,
      fun _ _ absent => absurd absent List.not_mem_nil⟩
    let stamp : Stamp := ⟨"2024-01-01", "00"⟩
    let fileConfig : FileConfig := ⟨"audit.log", { FormatConfig.default with format := .json }, .none, 0, 10, 100⟩
    let auditConfig : AuditConfig FileConfig := ⟨true, 1, [fileConfig]⟩
    let logger : AuditLogger (FileSink × Files String) Unit :=
      { sinks := [(FileSink.new none stamp fileConfig, fun _ => none)], enabled := true, capacity := 1, queue := [],
        hand := none, capacity_pos := Nat.one_pos, queue_le := Nat.zero_le _, hand_below := Fanout.handBelow_none _ }
    let event := (AuditEventBuilder.authAttempt "alice" none).build "1" () none
    let schedule : List (Action Unit Stamp) := [.log event, .work stamp, .flush stamp, .log event]
    auditConfig.sinks = [fileConfig] ∧ fileConfig.rotation = .none ∧ Timeless fileConfig.path ∧
      new (fun fileConfig => .ok (FileSink.new none stamp fileConfig, fun _ => none)) auditConfig = .ok logger ∧
      1 + auditConfig.bufferSize * 2 ≤ [stamp, stamp, stamp].length ∧
      ∃ final, (Machine.run (step (FileSink.call serde chrono none)) logger
          (schedule ++ [stamp, stamp, stamp].map .work ++ [.flush stamp])).2.sinks = [final] ∧
        (final.2 (FileSink.new none stamp fileConfig).currentPath).getD [] =
          ((fun _ => none : Files String) (FileSink.new none stamp fileConfig).currentPath).getD [] ++
            ((Machine.run (step (FileSink.call serde chrono none)) logger
              (schedule ++ [stamp, stamp, stamp].map .work ++ [.flush stamp])).1.flatMap accepted).flatMap
                (recordOf serde chrono (FileSink.new none stamp fileConfig).encoder) := by
  intro serde chrono stamp fileConfig auditConfig logger event schedule
  have timeless : Timeless fileConfig.path := by decide
  exact ⟨rfl, rfl, timeless, rfl, by decide,
    file_holds_queued_records serde chrono none auditConfig fileConfig rfl stamp (fun _ => none) rfl timeless rfl
      schedule [stamp, stamp, stamp] (by decide) stamp⟩

end FileLog

end AuditLogger

end CoreVpn.Audit
