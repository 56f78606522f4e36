import Cyclone.Master.Spec

/-! How distribution and then the loop come to an end. `TASK_DISTRIBUTION` has three
writers, all of them writing `False`: the signal handler, the `TASK_REQUEST` branch that
finds the generator gone, and the exception handler; `stops` names the events that reach one.
`run_flag` falls in the drain branch and the poll-timeout branch when the heartbeat map is
empty, and in the exception handler at `max_error_count`; `Settled` is what that leaves, and
`released_run` ties an empty heartbeat map to the senders of the whole run. The prune raises
after each removal, so `poll_timeouts_drain_one_per_pass` takes one pass per timed-out
controller, each adding to `error_count`. -/
namespace Cyclone

/-- `m'` has `m`'s `run_flag`, `error_count` and heartbeat map. -/
def Master.SameLoop (m m' : Master) : Prop :=
  m'.runFlag = m.runFlag ∧ m'.errorCount = m.errorCount ∧
    m'.controllerHeartbeatDict = m.controllerHeartbeatDict

/-- The pass keeps `error_count`, and keeps `run_flag` unless it ends the loop without raising,
with distribution off and the heartbeat map empty. -/
def Outcome.KeepsLoop (m : Master) (out : Outcome) : Prop :=
  out.master.errorCount = m.errorCount ∧
    (out.master.runFlag = m.runFlag ∨
      out.raised = none ∧ out.master.runFlag = false ∧ out.master.taskDistribution = false ∧
        out.master.controllerHeartbeatDict.keys = [])

section Shutdown

variable (c : Config) (create : String → Option Message)

/-- The pass's `recv_string` gave data that decoded into a message with a sender. -/
def decoded (o : Tick) : Bool :=
  match receive create o with
  | .ok (some _) => true
  | _ => false

/-- A `TASK_REQUEST` that takes the task-queue lock, `is_locked()` being defined, and finds
the queue empty and the generator dead. -/
def generatorGone (m : Master) (o : Tick) : Bool :=
  match receive create o with
  | .ok (some (msg, _)) =>
    msg.type == .taskRequest && c.hasIsLocked && !o.lockHeld && m.taskQueue.isEmpty &&
      !o.generatorAlive
  | _ => false

/-- The events that reach a writer of `TASK_DISTRIBUTION`: a signal, a pass that finds the
generator gone, and a pass that raises. -/
def stops (m : Master) : Event → Bool
  | .iteration o => m.runFlag && (generatorGone c create m o || (body c create m o).raised.isSome)
  | .signal _ => true
  | .generatorPush _ => false
  | .generatorConsume => false

/-- The `TASK_REQUEST` branch leaves the loop's state alone, and switches distribution off
only when it takes the lock, `is_locked()` being defined, and finds the queue empty and the
generator dead. -/
theorem taskRequest_loop (m : Master) (o : Tick) (sender : String) :
    m.SameLoop (taskRequest c m o sender).master ∧
      (taskRequest c m o sender).master.taskDistribution =
        (m.taskDistribution &&
          !(c.hasIsLocked && !o.lockHeld && m.taskQueue.isEmpty && !o.generatorAlive)) := by
  cases present : c.hasIsLocked
  · simp [taskRequest_missing c m o sender present, Master.SameLoop]
  cases held : o.lockHeld
  · cases queued : m.taskQueue with
    | nil =>
      rw [taskRequest_empty c m o sender present held queued]
      cases o.generatorAlive <;> simp [Master.SameLoop]
    | cons task rest =>
      rw [taskRequest_pop c m o sender present held queued]
      split <;> simp [Master.SameLoop]
  · rw [taskRequest_held c m o sender present held]
    split <;> simp [Master.SameLoop]

theorem taskFinished_loop (m : Master) (o : Tick) (sender : String) (tid : Option String) :
    m.SameLoop (taskFinished m o sender tid).master ∧
      (taskFinished m o sender tid).master.taskDistribution = m.taskDistribution := by
  unfold taskFinished
  repeat' split
  all_goals exact ⟨⟨rfl, rfl, rfl⟩, rfl⟩

/-- While distributing, a message only upserts its sender's heartbeat in the loop's state. -/
theorem onMessage_on (m : Master) (o : Tick) (msg : Message) (sender : String)
    (distributing : m.taskDistribution = true) :
    Master.SameLoop { m with controllerHeartbeatDict := m.controllerHeartbeatDict.set sender o.seen }
        (onMessage c m o msg sender).master ∧
      (onMessage c m o msg sender).master.taskDistribution =
        !(msg.type == .taskRequest && c.hasIsLocked && !o.lockHeld && m.taskQueue.isEmpty &&
          !o.generatorAlive) := by
  cases type : msg.type <;> simp only [onMessage, distributing, type, if_true]
  case taskRequest => simpa [distributing] using taskRequest_loop c _ o sender
  case taskFinished => simpa [distributing] using taskFinished_loop _ o sender msg.tid
  all_goals simp [Master.SameLoop, distributing]

theorem body_loop (m : Master) (o : Tick) :
    (body c create m o).KeepsLoop m ∧
      (body c create m o).master.taskDistribution =
        (m.taskDistribution && !generatorGone c create m o) := by
  match decoded : receive create o with
  | .error _ => simp [body_of_error c create m o decoded, Outcome.KeepsLoop, generatorGone, decoded]
  | .ok none =>
    rw [body_of_timeout c create m o decoded]
    cases flag : m.taskDistribution
    · rw [pollTimeout_off c m o.now flag]
      split
      · simp [Outcome.KeepsLoop, flag]
      · split <;> simp_all [Outcome.KeepsLoop]
    · simp [pollTimeout_on c m o.now flag, Outcome.KeepsLoop, flag, generatorGone, decoded]
  | .ok (some (msg, sender)) =>
    rw [body_of_message c create m o decoded]
    cases flag : m.taskDistribution
    · rw [onMessage_off c m o msg sender flag, drain_eq]
      split
      · simp [Outcome.KeepsLoop, flag]
      · by_cases empty : ((m.controllerHeartbeatDict.set sender o.seen).pop sender).keys = [] <;>
          simp [Outcome.KeepsLoop, flag, empty]
    · obtain ⟨⟨running, counted, -⟩, distributing⟩ := onMessage_on c m o msg sender flag
      simp [Outcome.KeepsLoop, running, counted, distributing, generatorGone, decoded]

theorem taskDistribution_step (m : Master) (e : Event) :
    (step c create m e).1.taskDistribution = (m.taskDistribution && !stops c create m e) := by
  cases e with
  | iteration o =>
    cases running : m.runFlag
    · simp [step, stops, running]
    · have flag := (body_loop c create m o).2
      cases raised : (body c create m o).raised
      · simp [step, stops, running, iterate_of_none c create m o raised, flag, raised]
      · simp [step, stops, running, iterate_of_some c create m o raised, exceptionHandler_eq, raised]
  | signal signum => simp [step, stops]
  | generatorPush task => simp [step, stops]
  | generatorConsume => simp [step, stops]

theorem taskDistribution_run (m : Master) (es : List Event) :
    (run c create m es).1.taskDistribution =
      (m.taskDistribution && (trace c create m es).all fun p => !stops c create p.1 p.2) := by
  induction es generalizing m with
  | nil => simp
  | cons e es ih => simp [ih, taskDistribution_step, Bool.and_assoc]

/-- What a pass does with distribution off: no task record or result written, and
`ExitCommand` the one reply, made to a decoded message. -/
def Outcome.Drains (m : Master) (decoded : Bool) (out : Outcome) : Prop :=
  out.master.taskStatusDict = m.taskStatusDict ∧ out.master.resultQueue = m.resultQueue ∧
    out.actions = if decoded then [.send .exitCommand] else []

theorem body_drains (m : Master) (o : Tick) (off : m.taskDistribution = false) :
    (body c create m o).Drains m (decoded create o) := by
  match received : receive create o with
  | .error _ => simp [body_of_error c create m o received, Outcome.Drains, decoded, received]
  | .ok none =>
    rw [body_of_timeout c create m o received, pollTimeout_off c m o.now off]
    split
    · simp [Outcome.Drains, decoded, received]
    · split <;> simp [Outcome.Drains, decoded, received]
  | .ok (some (msg, sender)) =>
    rw [body_of_message c create m o received, onMessage_off c m o msg sender off, drain_eq]
    split <;> simp [Outcome.Drains, decoded, received]

theorem step_drains (m : Master) (o : Tick) (off : m.taskDistribution = false) :
    (step c create m (.iteration o)).1.taskStatusDict = m.taskStatusDict ∧
      (step c create m (.iteration o)).1.resultQueue = m.resultQueue ∧
      (step c create m (.iteration o)).2 =
        if m.runFlag && decoded create o then [.send .exitCommand] else [] := by
  cases running : m.runFlag
  · simp [step, running]
  · obtain ⟨records, results, replies⟩ := body_drains c create m o off
    simp only [step, running, if_true, iterate_actions, replies, Bool.true_and]
    cases raised : (body c create m o).raised
    · simp [iterate_of_none c create m o raised, records, results]
    · simp [iterate_of_some c create m o raised, exceptionHandler_eq, records, results]

/-- `TASK_DISTRIBUTION` is on exactly until the first signal, request that finds the generator
gone, or pass that raises, and is never on again; a pass with it off writes no task record
and no result, and answers a decoded message with `ExitCommand` alone. -/
theorem distribution_on_until_first_stop (m : Master) (es : List Event) :
    (run c create m es).1.taskDistribution =
        (m.taskDistribution && (trace c create m es).all fun p => !stops c create p.1 p.2) ∧
      ∀ p ∈ trace c create m es, ∀ o, p.2 = .iteration o → p.1.taskDistribution = false →
        (step c create p.1 p.2).1.taskStatusDict = p.1.taskStatusDict ∧
        (step c create p.1 p.2).1.resultQueue = p.1.resultQueue ∧
        (step c create p.1 p.2).2 =
          if p.1.runFlag && decoded create o then [.send .exitCommand] else [] := by
  refine ⟨taskDistribution_run c create m es, fun p _ o iteration off => ?_⟩
  rw [iteration]
  exact step_drains c create p.1 o off

/-- `run_flag` is down only with distribution off and, unless `error_count` reached
`max_error_count`, with the heartbeat map empty; while it is up, `error_count` is below the
maximum. -/
def Settled (m : Master) : Prop :=
  (m.runFlag = true → m.errorCount < maxErrorCount) ∧
    (m.runFlag = false → m.taskDistribution = false ∧
      (m.errorCount < maxErrorCount → m.controllerHeartbeatDict.keys = []))

theorem settled_init (w : Int) : Settled (Master.init w) :=
  ⟨fun _ => (by decide : 0 < 100), fun stopped => by cases stopped⟩

theorem settled_step (m : Master) (e : Event) (settled : Settled m) : Settled (step c create m e).1 := by
  cases e with
  | iteration o =>
    cases running : m.runFlag
    · simpa [step, running] using settled
    · have below := settled.1 running
      obtain ⟨counted, kept⟩ := (body_loop c create m o).1
      simp only [step, running, if_true]
      cases raised : (body c create m o).raised
      · rw [iterate_of_none c create m o raised]
        refine ⟨fun _ => by rw [counted]; exact below, fun ended => ?_⟩
        rcases kept with same | ⟨-, -, off, empty⟩
        · rw [same, running] at ended; cases ended
        · exact ⟨off, fun _ => empty⟩
      · have same : (body c create m o).master.runFlag = true := by
          rcases kept with same | ⟨none, -⟩
          · rw [same, running]
          · rw [raised] at none; cases none
        rw [iterate_of_some c create m o raised, exceptionHandler_eq]
        by_cases top : m.errorCount + 1 = maxErrorCount
        · simp [Settled, counted, same, top]
        · simp [Settled, counted, same, top]; omega
  | signal signum =>
    simp only [step, signalHandler_eq]
    exact ⟨settled.1, fun ended => ⟨rfl, (settled.2 ended).2⟩⟩
  | generatorPush task => exact settled
  | generatorConsume => exact settled

theorem settled_run (m : Master) (es : List Event) (settled : Settled m) :
    Settled (run c create m es).1 := by
  induction es generalizing m with
  | nil => exact settled
  | cons e es ih => exact ih _ (settled_step c create m e settled)

/-- The event is a pass whose `try` block raises, so that the exception handler runs. -/
def raises (m : Master) : Event → Bool
  | .iteration o => m.runFlag && (body c create m o).raised.isSome
  | _ => false

theorem errorCount_step (m : Master) (e : Event) :
    (step c create m e).1.errorCount = m.errorCount + if raises c create m e then 1 else 0 := by
  cases e with
  | iteration o =>
    cases running : m.runFlag
    · simp [step, raises, running]
    · have counted := (body_loop c create m o).1.1
      cases raised : (body c create m o).raised
      · simp [step, raises, running, iterate_of_none c create m o raised, counted, raised]
      · simp [step, raises, running, iterate_of_some c create m o raised, exceptionHandler_eq,
          counted, raised]
  | _ => simp [step, raises]

theorem errorCount_run (m : Master) (es : List Event) :
    (run c create m es).1.errorCount =
      m.errorCount + (trace c create m es).countP fun p => raises c create p.1 p.2 := by
  induction es generalizing m with
  | nil => rfl
  | cons e es ih =>
    rw [run_cons, ih, errorCount_step, trace_cons, List.countP_cons]
    dsimp only
    omega

/-- From the start of the loop, over every run, `error_count` is the number of passes that
raised (signals and the generator's queue operations never count), and `run_flag` is up only
while fewer than `max_error_count` passes have raised. -/
theorem error_count_of_raising_passes (w : Int) (es : List Event) :
    (run c create (Master.init w) es).1.errorCount =
        (trace c create (Master.init w) es).countP (fun p => raises c create p.1 p.2) ∧
      ((run c create (Master.init w) es).1.runFlag = true →
        (trace c create (Master.init w) es).countP (fun p => raises c create p.1 p.2) <
          maxErrorCount) := by
  have counted := errorCount_run c create (Master.init w) es
  rw [show (Master.init w).errorCount = 0 from rfl, Nat.zero_add] at counted
  exact ⟨counted, fun running => counted ▸ (settled_run c create _ es (settled_init w)).1 running⟩

/-- The pass decodes a message from `ctrl`, whose heartbeat upsert writes its entry. -/
def Upserts (m : Master) (e : Event) (ctrl : String) : Prop :=
  ∃ o msg, e = .iteration o ∧ m.runFlag = true ∧ receive create o = .ok (some (msg, ctrl))

/-- The pass answers a message from `ctrl` with an `ExitCommand` that is sent, distribution
being off. -/
def Exits (m : Master) (e : Event) (ctrl : String) : Prop :=
  ∃ o msg, e = .iteration o ∧ m.runFlag = true ∧ receive create o = .ok (some (msg, ctrl)) ∧
    m.taskDistribution = false ∧ o.sendFails = false ∧ (step c create m e).2 = [.send .exitCommand]

/-- A poll-timeout pass with distribution off whose prune removes `ctrl`, its last heartbeat
`lastSeen` being `controller_timeout` old or more at the pass's start. -/
def Prunes (m : Master) (e : Event) (ctrl : String) : Prop :=
  ∃ o lastSeen, e = .iteration o ∧ m.runFlag = true ∧ receive create o = .ok none ∧
    m.taskDistribution = false ∧ m.controllerHeartbeatDict.get? ctrl = some lastSeen ∧
    lastSeen + c.controllerTimeout ≤ o.now ∧
    ctrl ∉ (step c create m e).1.controllerHeartbeatDict.keys

theorem pollTimeout_removes (m : Master) (now : Int) {ctrl : String}
    (present : ctrl ∈ m.controllerHeartbeatDict.keys)
    (gone : ctrl ∉ (pollTimeout c m now).master.controllerHeartbeatDict.keys) :
    m.taskDistribution = false ∧ ∃ lastSeen, m.controllerHeartbeatDict.get? ctrl = some lastSeen ∧
      lastSeen + c.controllerTimeout ≤ now := by
  cases flag : m.taskDistribution
  · rw [pollTimeout_off c m now flag] at gone
    split at gone
    · rename_i k found
      have same : ctrl = k := by
        by_contra other
        exact gone (PyDict.mem_keys_pop.mpr ⟨other, present⟩)
      subst same
      have late := List.find?_some found
      cases seen : m.controllerHeartbeatDict.get? ctrl <;> simp [expired, seen] at late
      exact ⟨rfl, _, rfl, late⟩
    · split at gone <;> exact absurd present gone
  · rw [pollTimeout_on c m now flag] at gone
    exact absurd present gone

/-- With distribution off, a message from `sender` whose `ExitCommand` is sent raises
nothing, leaves the heartbeat map as it was without `sender`, and ends the loop exactly when
that map is empty. -/
theorem onMessage_off_sent (m : Master) (o : Tick) (msg : Message) (sender : String)
    (off : m.taskDistribution = false) (sent : o.sendFails = false) :
    (onMessage c m o msg sender).raised = none ∧
      (onMessage c m o msg sender).master.controllerHeartbeatDict =
        m.controllerHeartbeatDict.pop sender ∧
      (onMessage c m o msg sender).master.runFlag =
        if (m.controllerHeartbeatDict.pop sender).keys = [] then false else m.runFlag := by
  simp [onMessage_off c m o msg sender off, drain_eq, sent, PyDict.pop_set_self]

theorem onMessage_removes (m : Master) (o : Tick) (msg : Message) {sender ctrl : String}
    (tracked : ctrl ∈ m.controllerHeartbeatDict.keys ∨ ctrl = sender)
    (gone : ctrl ∉ (onMessage c m o msg sender).master.controllerHeartbeatDict.keys) :
    ctrl = sender ∧ m.taskDistribution = false ∧ o.sendFails = false := by
  have upserted : ctrl ∈ (m.controllerHeartbeatDict.set sender o.seen).keys := by
    simpa [or_comm] using tracked
  cases flag : m.taskDistribution
  · cases fails : o.sendFails
    · rw [(onMessage_off_sent c m o msg sender flag fails).2.1] at gone
      have same : ctrl = sender := by
        by_contra other
        exact gone (PyDict.mem_keys_pop.mpr ⟨other, tracked.resolve_right other⟩)
      exact ⟨same, rfl, rfl⟩
    · rw [onMessage_off c m o msg sender flag, drain_eq, if_pos fails] at gone
      exact absurd upserted gone
  · rw [(onMessage_on c m o msg sender flag).1.2.2] at gone
    exact absurd upserted gone

theorem iterate_heartbeats (m : Master) (o : Tick) :
    (iterate c create m o).1.controllerHeartbeatDict =
      (body c create m o).master.controllerHeartbeatDict := by
  cases raised : (body c create m o).raised
  · rw [iterate_of_none c create m o raised]
  · rw [iterate_of_some c create m o raised, exceptionHandler_eq]

/-- A controller leaves the heartbeat map only by a sent `ExitCommand` or a prune. -/
theorem released_step (m : Master) (e : Event) {ctrl : String}
    (tracked : ctrl ∈ m.controllerHeartbeatDict.keys ∨ Upserts create m e ctrl)
    (gone : ctrl ∉ (step c create m e).1.controllerHeartbeatDict.keys) :
    Exits c create m e ctrl ∨ Prunes c create m e ctrl := by
  cases e with
  | iteration o =>
    replace tracked : ctrl ∈ m.controllerHeartbeatDict.keys ∨
        m.runFlag = true ∧ ∃ msg, receive create o = .ok (some (msg, ctrl)) :=
      tracked.imp_right fun ⟨_, msg, same, running, decoded⟩ => by
        cases same; exact ⟨running, msg, decoded⟩
    cases running : m.runFlag
    · simp only [step, running] at gone
      simp only [running, Bool.false_eq_true, false_and, or_false] at tracked
      exact absurd tracked gone
    · have after := gone
      simp only [step, running, if_true, iterate_heartbeats] at gone
      match received : receive create o with
      | .error _ =>
        rw [body_of_error c create m o received] at gone
        exact absurd (by simpa [received] using tracked) gone
      | .ok none =>
        rw [body_of_timeout c create m o received] at gone
        obtain ⟨off, lastSeen, seen, late⟩ :=
          pollTimeout_removes c m o.now (by simpa [received] using tracked) gone
        exact .inr ⟨o, lastSeen, rfl, running, received, off, seen, late, after⟩
      | .ok (some (msg, sender)) =>
        rw [body_of_message c create m o received] at gone
        obtain ⟨rfl, off, sent⟩ :=
          onMessage_removes c m o msg ((by simpa [received, running] using tracked :
            ctrl ∈ m.controllerHeartbeatDict.keys ∨ sender = ctrl).imp_right Eq.symm) gone
        have replies := (step_drains c create m o off).2.2
        simp only [running, decoded, received, Bool.true_and, if_true] at replies
        exact .inl ⟨o, msg, rfl, running, received, off, sent, replies⟩
  | signal _ | generatorPush _ | generatorConsume =>
    refine absurd (tracked.resolve_right fun ⟨_, _, e, _⟩ => by cases e) ?_
    simpa [step] using gone

theorem run_append (m : Master) (es es' : List Event) :
    (run c create m (es ++ es')).1 = (run c create (run c create m es).1 es').1 := by
  induction es generalizing m with
  | nil => rfl
  | cons e es ih => exact ih _

theorem trace_append (m : Master) (es es' : List Event) :
    trace c create m (es ++ es') = trace c create m es ++ trace c create (run c create m es).1 es' := by
  induction es generalizing m with
  | nil => rfl
  | cons e es ih => simp [ih]

/-- Some pass released `ctrl`, and no later pass decoded a message from it. -/
def Released (m : Master) (es : List Event) (ctrl : String) : Prop :=
  ∃ pre e post, es = pre ++ e :: post ∧
    (Exits c create (run c create m pre).1 e ctrl ∨ Prunes c create (run c create m pre).1 e ctrl) ∧
    ∀ p ∈ trace c create (step c create (run c create m pre).1 e).1 post, ¬ Upserts create p.1 p.2 ctrl

/-- A controller that was in the heartbeat map, or sent a decoded message during the run, is
in the map at the end or was released after its last message. -/
theorem released_run (m : Master) (es : List Event) (ctrl : String)
    (tracked : ctrl ∈ m.controllerHeartbeatDict.keys ∨
      ∃ p ∈ trace c create m es, Upserts create p.1 p.2 ctrl) :
    ctrl ∈ (run c create m es).1.controllerHeartbeatDict.keys ∨ Released c create m es ctrl := by
  induction es using List.reverseRecOn with
  | nil => exact .inl (by simpa using tracked)
  | append_singleton es e ih =>
    simp only [run_append, trace_append, run_cons, run_nil, trace_cons, trace_nil, List.mem_append,
      List.mem_singleton] at tracked ⊢
    by_cases present : ctrl ∈ (step c create (run c create m es).1 e).1.controllerHeartbeatDict.keys
    · exact .inl present
    right
    by_cases fresh : ctrl ∈ (run c create m es).1.controllerHeartbeatDict.keys ∨
        Upserts create (run c create m es).1 e ctrl
    · exact ⟨es, e, [], rfl, released_step c create _ e fresh present, by simp⟩
    rw [not_or] at fresh
    have earlier : ctrl ∈ m.controllerHeartbeatDict.keys ∨
        ∃ p ∈ trace c create m es, Upserts create p.1 p.2 ctrl := by
      rcases tracked with present | ⟨p, mem | rfl, upserted⟩
      · exact .inl present
      · exact .inr ⟨p, mem, upserted⟩
      · exact absurd upserted fresh.2
    obtain ⟨pre, e', post, rfl, released, silent⟩ := (ih earlier).resolve_left fresh.1
    refine ⟨pre, e', post ++ [e], by simp, released, ?_⟩
    simp only [trace_append, List.mem_append, List.mem_singleton, trace_cons, trace_nil]
    rintro p (mem | rfl)
    · exact silent p mem
    · simpa [run_append] using fresh.2

/-- The loop ends only with distribution off; unless `error_count` reached `max_error_count`,
every controller that sent a decoded message was answered with a sent `ExitCommand` with
distribution off, or pruned once `controller_timeout` had passed since its last heartbeat,
after its last message. -/
theorem loop_ends_after_controllers_released (w : Int) (es : List Event)
    (ended : (run c create (Master.init w) es).1.runFlag = false) :
    (run c create (Master.init w) es).1.taskDistribution = false ∧
      ((run c create (Master.init w) es).1.errorCount < maxErrorCount →
        ∀ ctrl, (∃ p ∈ trace c create (Master.init w) es, Upserts create p.1 p.2 ctrl) →
          Released c create (Master.init w) es ctrl) := by
  obtain ⟨off, empty⟩ := (settled_run c create _ es (settled_init w)).2 ended
  refine ⟨off, fun below ctrl upserted => ?_⟩
  rcases released_run c create _ es ctrl (.inr upserted) with present | released
  · rw [empty below] at present; cases present
  · exact released

theorem expired_pop (d : PyDict String Int) (now : Int) {k k' : String} (other : k' ≠ k) :
    expired c (d.pop k) now k' = expired c d now k' := by
  simp [expired, other]

/-- With distribution off and every controller timed out at `now`, poll timeouts at `now` end
the loop only after one pass per controller and one more: each of the first passes removes one
controller and raises, so `error_count` grows by the number of controllers. -/
theorem poll_timeouts_drain_one_per_pass (m : Master) (now : Int) (ks : List String)
    (off : m.taskDistribution = false) (running : m.runFlag = true)
    (keys : m.controllerHeartbeatDict.keys = ks)
    (timedOut : ∀ k ∈ ks, expired c m.controllerHeartbeatDict now k = true)
    (below : m.errorCount + ks.length < maxErrorCount) :
    (run c create m (List.replicate (ks.length + 1) (.iteration (Tick.calm now .none)))).1 =
        { m with
          controllerHeartbeatDict := .empty
          errorCount := m.errorCount + ks.length
          runFlag := false } ∧
      (run c create m (List.replicate (ks.length + 1) (.iteration (Tick.calm now .none)))).2 = [] := by
  have timeout : receive create (Tick.calm now .none) = .ok none := rfl
  induction ks generalizing m with
  | nil =>
    have empty : m.controllerHeartbeatDict = .empty :=
      PyDict.ext (List.map_eq_nil_iff.mp keys)
    have passed : body c create m (Tick.calm now .none) = ⟨{ m with runFlag := false }, [], none⟩ := by
      rw [body_of_timeout c create m _ timeout, pollTimeout_off c m _ off, keys]; rfl
    simp [step, running, iterate_of_none c create m _ (by rw [passed]), passed, ← empty]
  | cons k ks ih =>
    have first : m.controllerHeartbeatDict.keys.find? (expired c m.controllerHeartbeatDict now) =
        some k := by
      rw [keys, List.find?_cons_of_pos _ (timedOut k (List.mem_cons_self k ks))]
    have passed : body c create m (Tick.calm now .none) =
        ⟨{ m with controllerHeartbeatDict := m.controllerHeartbeatDict.pop k }, [], some .dictChanged⟩ := by
      rw [body_of_timeout c create m _ timeout, pollTimeout_off c m _ off]
      dsimp only [Tick.calm]
      rw [first]
    have below' : m.errorCount + 1 ≠ maxErrorCount := by simp at below; omega
    have next : step c create m (.iteration (Tick.calm now .none)) =
        ({ m with
          controllerHeartbeatDict := m.controllerHeartbeatDict.pop k
          errorCount := m.errorCount + 1 }, []) := by
      simp [step, running, iterate, passed, exceptionHandler_eq, below', off]
    obtain ⟨rest, silent⟩ := ih
      { m with
        controllerHeartbeatDict := m.controllerHeartbeatDict.pop k
        errorCount := m.errorCount + 1 }
      off running (PyDict.keys_pop_head keys)
      (fun k' mem => by
        have other : k' ≠ k := fun same =>
          (List.nodup_cons.mp (keys ▸ m.controllerHeartbeatDict.nodupKeys)).1 (same ▸ mem)
        simpa [expired_pop c _ now other] using timedOut k' (List.mem_cons_of_mem k mem))
      (by simp at below ⊢; omega)
    rw [List.length_cons, List.replicate_succ, run_cons, next]
    refine ⟨?_, by simpa using silent⟩
    simp only [rest, Nat.add_assoc, Nat.add_comm 1]

end Shutdown

/-- `C1` and `C2` were last seen at 0 and 3 and have both timed out at 20: with distribution
off, three poll timeouts end the loop, the first two each removing one and raising. -/
theorem poll_timeouts_drain_one_per_pass_example :
    (run ⟨10, 100, false⟩ sampleCreate
        { Master.init 5 with
          taskDistribution := false
          controllerHeartbeatDict := (PyDict.empty.set "C1" 0).set "C2" 3 }
        (List.replicate 3 (.iteration (Tick.calm 20 .none)))).1 =
      { Master.init 5 with
        taskDistribution := false
        controllerHeartbeatDict := .empty
        errorCount := 2
        runFlag := false } ∧
    (run ⟨10, 100, false⟩ sampleCreate
        { Master.init 5 with
          taskDistribution := false
          controllerHeartbeatDict := (PyDict.empty.set "C1" 0).set "C2" 3 }
        (List.replicate 3 (.iteration (Tick.calm 20 .none)))).2 = [] :=
  poll_timeouts_drain_one_per_pass ⟨10, 100, false⟩ sampleCreate _ 20 ["C1", "C2"] rfl rfl (by decide)
    (by decide) (by decide)

/-- `C1` sends a heartbeat, a signal stops distribution, and `C1`'s next message is answered
with `ExitCommand`, which empties the map and ends the loop. -/
theorem loop_ends_after_exit_example :
    (run ⟨10, 100, false⟩ sampleCreate (Master.init 5) [.iteration (Tick.calm 0 (.data "C1 heartbeat")),
      .signal .sigterm, .iteration (Tick.calm 1 (.data "C1 heartbeat"))]).1.runFlag = false ∧
    ((run ⟨10, 100, false⟩ sampleCreate (Master.init 5) [.iteration (Tick.calm 0 (.data "C1 heartbeat")),
      .signal .sigterm, .iteration (Tick.calm 1 (.data "C1 heartbeat"))]).1.taskDistribution = false ∧
      ((run ⟨10, 100, false⟩ sampleCreate (Master.init 5) [.iteration (Tick.calm 0 (.data "C1 heartbeat")),
        .signal .sigterm, .iteration (Tick.calm 1 (.data "C1 heartbeat"))]).1.errorCount <
          maxErrorCount →
        ∀ ctrl, (∃ p ∈ trace ⟨10, 100, false⟩ sampleCreate (Master.init 5)
            [.iteration (Tick.calm 0 (.data "C1 heartbeat")), .signal .sigterm,
              .iteration (Tick.calm 1 (.data "C1 heartbeat"))], Upserts sampleCreate p.1 p.2 ctrl) →
          Released ⟨10, 100, false⟩ sampleCreate (Master.init 5) [.iteration (Tick.calm 0 (.data "C1 heartbeat")),
            .signal .sigterm, .iteration (Tick.calm 1 (.data "C1 heartbeat"))] ctrl)) :=
  ⟨by decide, loop_ends_after_controllers_released _ _ _ _ (by decide)⟩

/-- With distribution off, `C1`'s heartbeat has timed out at the poll timeout at 20: the prune
removes it, the keys iterator then raises `RuntimeError`, `error_count` becomes 1, and the
loop goes on with the map empty. -/
theorem prune_raises_after_removal :
    (run ⟨10, 100, false⟩ sampleCreate (Master.init 5) [.iteration (Tick.calm 0 (.data "C1 heartbeat")),
      .signal .sigterm, .iteration (Tick.calm 20 .none)]).1.errorCount = 1 ∧
    (run ⟨10, 100, false⟩ sampleCreate (Master.init 5) [.iteration (Tick.calm 0 (.data "C1 heartbeat")),
      .signal .sigterm, .iteration (Tick.calm 20 .none)]).1.runFlag = true ∧
    (run ⟨10, 100, false⟩ sampleCreate (Master.init 5) [.iteration (Tick.calm 0 (.data "C1 heartbeat")),
      .signal .sigterm, .iteration (Tick.calm 20 .none)]).1.controllerHeartbeatDict.keys = [] := by
  decide

end Cyclone
