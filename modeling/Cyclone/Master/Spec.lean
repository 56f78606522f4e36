import Cyclone.Master.Loop

/-! What each branch of the loop does, as equations: later proofs rewrite with these and
never unfold a branch. `mayAssign` is the assignment rule as the spec states it, and
`doTaskAssign_eq` shows the source's three-way decision is that rule with its
"Undefined state" arm unreachable. -/
namespace Cyclone

@[simp] theorem stopTaskDistribution_eq (m : Master) :
    stopTaskDistribution m = { m with taskDistribution := false } := by
  cases m; unfold stopTaskDistribution; split <;> simp_all

@[simp] theorem signalHandler_eq (signum : Signal) (m : Master) :
    signalHandler signum m = { m with taskDistribution := false } := by
  cases signum <;> simp [signalHandler]

theorem exceptionHandler_eq (m : Master) :
    exceptionHandler m =
      { m with
        taskDistribution := false
        errorCount := m.errorCount + 1
        runFlag := if m.errorCount + 1 = maxErrorCount then false else m.runFlag } := by
  unfold exceptionHandler; split <;> simp_all

@[simp] theorem checkAllControllerDown_eq (n : Nat) : checkAllControllerDown n = decide (n = 0) := by
  cases n <;> rfl

@[simp] theorem send_master (m : Master) (r : Reply) (o : Tick) : (send m r o).master = m := rfl

@[simp] theorem send_actions (m : Master) (r : Reply) (o : Tick) :
    (send m r o).actions = [.send r] := rfl

@[simp] theorem send_raised (m : Master) (r : Reply) (o : Tick) :
    (send m r o).raised = if o.sendFails then some .send else none := rfl

section Branches

variable (c : Config) (create : String → Option Message)

/-- The spec's assignment rule (§4.7): assign when the task has no record, its record is
finished, or the resend threshold has passed. -/
def mayAssign (record : Option TaskStatusItem) (now : Int) : Bool :=
  match record with
  | none => true
  | some item => item.state == .finished || decide (item.timestamp + c.taskResendTimeout ≤ now)

theorem doTaskAssign_eq (record : Option TaskStatusItem) (now : Int) :
    doTaskAssign c record now = some (mayAssign c record now) := by
  cases record with
  | none => rfl
  | some item =>
    by_cases late : item.timestamp + c.taskResendTimeout ≤ now
    · simp [doTaskAssign, mayAssign, late]
    · cases state : item.state <;> simp [doTaskAssign, mayAssign, late, state, Int.not_le.mp late]

theorem takeTask_missing (m : Master) (o : Tick) (missing : c.hasIsLocked = false) :
    takeTask c m o = (.error .attributeError, m, ⟨!o.lockHeld || o.lockHeldAtExit⟩) := by
  cases held : o.lockHeld <;> simp [takeTask, missing, held]

theorem takeTask_held (m : Master) (o : Tick) (present : c.hasIsLocked = true)
    (held : o.lockHeld = true) : takeTask c m o = (.ok none, m, ⟨o.lockHeldAtExit⟩) := by
  simp [takeTask, present, held]

theorem takeTask_pop (m : Master) (o : Tick) (present : c.hasIsLocked = true)
    (free : o.lockHeld = false) {task : Task} {rest : List Task} (queued : m.taskQueue = task :: rest) :
    takeTask c m o = (.ok (some task), { m with taskQueue := rest }, ⟨true⟩) := by
  simp [takeTask, present, free, queued]

theorem takeTask_empty (m : Master) (o : Tick) (present : c.hasIsLocked = true)
    (free : o.lockHeld = false) (empty : m.taskQueue = []) :
    takeTask c m o = (.ok none, if o.generatorAlive then m
      else { m with taskDistribution := false, controllerWaitDuration := 0 }, ⟨true⟩) := by
  cases alive : o.generatorAlive <;> simp [takeTask, present, free, empty, alive]

/-- Without `is_locked`, a `TASK_REQUEST` raises before it reads the queue: `AttributeError`,
or the `ValueError` of `__exit__` when the generator freed the lock during a timed-out
acquire. -/
theorem taskRequest_missing (m : Master) (o : Tick) (sender : String) (missing : c.hasIsLocked = false) :
    taskRequest c m o sender =
      ⟨m, [], some (if !o.lockHeld || o.lockHeldAtExit then .attributeError else .release)⟩ := by
  cases exit : (!o.lockHeld || o.lockHeldAtExit) <;>
    simp [taskRequest, takeTask_missing c m o missing, exit, CriticalSection.exit, Lock.release]

theorem taskRequest_held (m : Master) (o : Tick) (sender : String) (present : c.hasIsLocked = true)
    (held : o.lockHeld = true) :
    taskRequest c m o sender = if o.lockHeldAtExit
      then send m (.waitCommand m.controllerWaitDuration) o else ⟨m, [], some .release⟩ := by
  cases exit : o.lockHeldAtExit <;> simp [taskRequest, takeTask_held c m o present held, exit]

theorem taskRequest_empty (m : Master) (o : Tick) (sender : String) (present : c.hasIsLocked = true)
    (free : o.lockHeld = false) (empty : m.taskQueue = []) :
    taskRequest c m o sender =
      let m' := if o.generatorAlive then m
        else { m with taskDistribution := false, controllerWaitDuration := 0 }
      send m' (.waitCommand m'.controllerWaitDuration) o := by
  simp only [taskRequest, takeTask_empty c m o present free empty, exit_held]

theorem taskRequest_pop (m : Master) (o : Tick) (sender : String) (present : c.hasIsLocked = true)
    (free : o.lockHeld = false) {task : Task} {rest : List Task} (queued : m.taskQueue = task :: rest) :
    taskRequest c m o sender =
      if mayAssign c (m.taskStatusDict.get? task.tid) o.now then
        send { m with
          taskQueue := rest
          taskStatusDict := m.taskStatusDict.set task.tid ⟨task.tid, .assigned, sender, o.stamp⟩ }
          (.taskAssign task) o
      else send { m with taskQueue := rest } (.waitCommand m.controllerWaitDuration) o := by
  simp only [taskRequest, takeTask_pop c m o present free queued, exit_held, doTaskAssign_eq]
  split <;> simp_all

theorem taskFinished_unknown (m : Master) (o : Tick) (sender tid : String)
    (unknown : m.taskStatusDict.get? tid = none) :
    taskFinished m o sender (some tid) = ⟨m, [], some .inconsistency⟩ := by
  simp [taskFinished, unknown]

theorem taskFinished_owner (m : Master) (o : Tick) (sender tid : String) {item : TaskStatusItem}
    (known : m.taskStatusDict.get? tid = some item) (owner : sender = item.controller) :
    taskFinished m o sender (some tid) =
      ⟨{ m with
          taskStatusDict := m.taskStatusDict.set tid { item with state := .finished, timestamp := o.stamp }
          resultQueue := m.resultQueue ++ [tid] },
        [.push tid, .send .acknowledge], if o.sendFails then some .send else none⟩ := by
  simp [taskFinished, known, owner, send]

theorem taskFinished_other (m : Master) (o : Tick) (sender tid : String) {item : TaskStatusItem}
    (known : m.taskStatusDict.get? tid = some item) (other : sender ≠ item.controller) :
    taskFinished m o sender (some tid) = send m .acknowledge o := by
  simp [taskFinished, known, other]

theorem drain_eq (m : Master) (o : Tick) (sender : String) :
    drain m o sender = if o.sendFails then ⟨m, [.send .exitCommand], some .send⟩
      else ⟨{ m with
          controllerHeartbeatDict := m.controllerHeartbeatDict.pop sender
          runFlag := if (m.controllerHeartbeatDict.pop sender).keys = [] then false else m.runFlag },
        [.send .exitCommand], none⟩ := by
  unfold drain
  split
  · rfl
  · by_cases empty : (m.controllerHeartbeatDict.pop sender).keys = [] <;>
      simp [empty, PyDict.size_eq_zero]

/-- The controllers whose heartbeat has timed out at `now`. -/
def expired (d : PyDict String Int) (now : Int) (k : String) : Bool :=
  match d.get? k with
  | some lastSeen => decide (lastSeen + c.controllerTimeout ≤ now)
  | none => false

theorem pruneLoop_changed (now : Int) (size : Nat) (ks : List String) (d : PyDict String Int)
    (changed : d.size ≠ size) : pruneLoop c now size ks d = (d, some .dictChanged) := by
  cases ks <;> simp [pruneLoop, changed]

/-- The prune removes the first timed-out controller in key order, and the keys iterator
then raises; with none timed out it changes nothing. -/
theorem pruneLoop_walk (now : Int) (d : PyDict String Int) (ks : List String)
    (present : ∀ k ∈ ks, k ∈ d.keys) :
    pruneLoop c now d.size ks d = match ks.find? (expired c d now) with
      | some k => (d.pop k, some .dictChanged)
      | none => (d, none) := by
  induction ks with
  | nil => simp [pruneLoop]
  | cons k ks ih =>
    obtain ⟨lastSeen, seen⟩ := Option.isSome_iff_exists.mp
      (PyDict.mem_keys.mp (present k (List.mem_cons_self k ks)))
    by_cases late : lastSeen + c.controllerTimeout ≤ now
    · have gone := PyDict.size_pop_lt (present k (List.mem_cons_self k ks))
      simp [pruneLoop, seen, late, expired,
        pruneLoop_changed c now d.size ks (d.pop k) (Nat.ne_of_lt gone)]
    · simp only [pruneLoop, ne_eq, not_true_eq_false, if_false, seen, ge_iff_le, late,
        ih (fun k' mem => present k' (List.mem_cons_of_mem k mem)), List.find?_cons, expired,
        decide_False]

theorem pollTimeout_on (m : Master) (now : Int) (distributing : m.taskDistribution = true) :
    pollTimeout c m now = ⟨m, [], none⟩ := by
  simp [pollTimeout, distributing]

theorem pollTimeout_off (m : Master) (now : Int) (off : m.taskDistribution = false) :
    pollTimeout c m now =
      match m.controllerHeartbeatDict.keys.find? (expired c m.controllerHeartbeatDict now) with
      | some k => ⟨{ m with controllerHeartbeatDict := m.controllerHeartbeatDict.pop k }, [],
          some .dictChanged⟩
      | none => ⟨if m.controllerHeartbeatDict.keys = [] then { m with runFlag := false } else m,
          [], none⟩ := by
  simp only [pollTimeout, off, Bool.not_false, if_true,
    pruneLoop_walk c now _ _ (fun _ mem => mem)]
  cases m.controllerHeartbeatDict.keys.find? (expired c m.controllerHeartbeatDict now) <;>
    cases m <;> simp_all [PyDict.size_eq_zero]

theorem body_of_error (m : Master) (o : Tick) {e : Error} (failed : receive create o = .error e) :
    body c create m o = ⟨m, [], some e⟩ := by
  simp [body, failed]

theorem body_of_timeout (m : Master) (o : Tick) (timeout : receive create o = .ok none) :
    body c create m o = pollTimeout c m o.now := by
  simp [body, timeout]

theorem body_of_message (m : Master) (o : Tick) {msg : Message} {sender : String}
    (decoded : receive create o = .ok (some (msg, sender))) :
    body c create m o = onMessage c m o msg sender := by
  simp [body, decoded]

theorem onMessage_off (m : Master) (o : Tick) (msg : Message) (sender : String)
    (off : m.taskDistribution = false) :
    onMessage c m o msg sender = drain { m with
      controllerHeartbeatDict := m.controllerHeartbeatDict.set sender o.seen } o sender := by
  simp [onMessage, off]

@[simp] theorem iterate_actions (m : Master) (o : Tick) :
    (iterate c create m o).2 = (body c create m o).actions := rfl

theorem iterate_of_none (m : Master) (o : Tick) (normal : (body c create m o).raised = none) :
    (iterate c create m o).1 = (body c create m o).master := by
  simp [iterate, normal]

theorem iterate_of_some (m : Master) (o : Tick) {e : Error}
    (raised : (body c create m o).raised = some e) :
    (iterate c create m o).1 = exceptionHandler (body c create m o).master := by
  simp [iterate, raised]

@[simp] theorem run_nil (m : Master) : run c create m [] = (m, []) := rfl

@[simp] theorem run_cons (m : Master) (e : Event) (es : List Event) :
    run c create m (e :: es) =
      ((run c create (step c create m e).1 es).1,
        (step c create m e).2 ++ (run c create (step c create m e).1 es).2) := rfl

@[simp] theorem trace_nil (m : Master) : trace c create m [] = [] := rfl

@[simp] theorem trace_cons (m : Master) (e : Event) (es : List Event) :
    trace c create m (e :: es) = (m, e) :: trace c create (step c create m e).1 es := rfl

end Branches

/-- A pass at `now` whose clock readings are all `now`, with the task-queue lock free, the
generator alive and `send_string` working. -/
def Tick.calm (now : Int) (received : Received) : Tick :=
  ⟨now, received, now, now, false, false, true, false⟩

/-- A codec for concrete runs: requests from `C1` and `C2`, a heartbeat from `C1`, and `C1`
finishing `T1`; any other string does not decode. -/
def sampleCreate (s : String) : Option Message :=
  if s = "C1 request" then some ⟨.taskRequest, some "C1", none⟩
  else if s = "C2 request" then some ⟨.taskRequest, some "C2", none⟩
  else if s = "C1 heartbeat" then some ⟨.heartbeat, some "C1", none⟩
  else if s = "C1 finished T1" then some ⟨.taskFinished, some "C1", some "T1"⟩
  else none

end Cyclone
