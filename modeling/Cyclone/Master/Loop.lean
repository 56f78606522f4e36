import Cyclone.CriticalSection

/-! The dispatch loop of `main` in `cyclone-master.py`, from `while run_flag:` on. The
`try` block of one pass is `body`; the catch-all `except` is `exceptionHandler`. What the
world does during a pass (the clock, `recv_string`, the task-queue lock, whether the
generator is alive, whether `send_string` fails) is the pass's `Tick`. Signals and the
generator's queue operations are events between passes: a pass reads `TASK_DISTRIBUTION`
once and every writer sets it to `False`, so a signal inside a pass acts as one delivered
before or after it. `MessageFactory.create` is not in the sources and is the parameter
`create`. Logging is left out. -/
namespace Cyclone

/-- What the loop reads from outside its own code: the `[control]` timeouts, and whether the
`CriticalSection` class it uses has the `is_locked()` method that the `TASK_REQUEST` branch
calls. `src/ctrl/critical_section.py` defines none (`hasIsLocked = false`); the spec (§4.8)
describes one that reports whether the timed acquire succeeded (`hasIsLocked = true`). -/
structure Config where
  controllerTimeout : Int
  taskResendTimeout : Int
  hasIsLocked : Bool

/-- `max_error_count`. -/
def maxErrorCount : Nat := 100

structure Master where
  taskDistribution : Bool
  runFlag : Bool
  errorCount : Nat
  controllerWaitDuration : Int
  controllerHeartbeatDict : PyDict String Int
  taskStatusDict : PyDict String TaskStatusItem
  taskQueue : List Task
  resultQueue : List String
  deriving DecidableEq

/-- The master right before `while run_flag:`. -/
def Master.init (controllerWaitDuration : Int) : Master :=
  ⟨true, true, 0, controllerWaitDuration, .empty, .empty, [], []⟩

/-- What `comm_handler.recv_string()` did: returned a string, returned `None` at the poll
timeout, or raised. An empty string is falsy and takes the poll-timeout branch too. -/
inductive Received
  | data (s : String)
  | none
  | error
  deriving DecidableEq

/-- The world during one pass. `now` is `last_exec_timestamp`; `seen` and `stamp` are the
later `int(time.time())` readings of the heartbeat upsert and of the task record.
`lockHeld`: the generator holds `task_queue.lock` through the one-second acquire;
`lockHeldAtExit`: it still holds it when the master's section ends. -/
structure Tick where
  now : Int
  received : Received
  seen : Int
  stamp : Int
  lockHeld : Bool
  lockHeldAtExit : Bool
  generatorAlive : Bool
  sendFails : Bool
  deriving DecidableEq

/-- What a pass can raise, one constructor per raising place. -/
inductive Error
  | recv
  | decode
  | noSender
  | noTid
  /-- `AttributeError` of `critical_section.is_locked()` where the class has no such method. -/
  | attributeError
  /-- "Undefined state processing task: {tid}" -/
  | undefinedState (tid : String)
  /-- "Inconsistency detected on task finished!" -/
  | inconsistency
  /-- "Undefined type found in message: ..." -/
  | undefinedType
  /-- `ValueError` of `__exit__` releasing a free lock. -/
  | release
  | send
  /-- "dictionary changed size during iteration" -/
  | dictChanged
  | keyError
  deriving DecidableEq

/-- The calls a pass makes on the outside world: `send_string` and `result_queue.push`. -/
inductive Action
  | send (reply : Reply)
  | push (tid : String)
  deriving DecidableEq

/-- The state a pass leaves (at its end, or where it raised), its calls, and its exception. -/
structure Outcome where
  master : Master
  actions : List Action
  raised : Option Error

/-- `stop_task_distribution`. -/
def stopTaskDistribution (m : Master) : Master :=
  if m.taskDistribution then { m with taskDistribution := false } else m

inductive Signal
  | sighup
  | sigint
  | sigterm
  deriving DecidableEq

/-- `signal_handler`, for the three signals it is installed for. -/
def signalHandler (signum : Signal) (m : Master) : Master :=
  match signum with
  | .sighup => stopTaskDistribution m
  | .sigint => stopTaskDistribution m
  | .sigterm => stopTaskDistribution m

/-- `check_all_controller_down`. -/
def checkAllControllerDown (countActiveController : Nat) : Bool :=
  countActiveController == 0

/-- `comm_handler.send_string(send_msg.to_string())` closing a branch. -/
def send (m : Master) (reply : Reply) (o : Tick) : Outcome :=
  ⟨m, [.send reply], if o.sendFails then some .send else none⟩

/-- The `except Exception` handler of the loop. -/
def exceptionHandler (m : Master) : Master :=
  let m := stopTaskDistribution { m with errorCount := m.errorCount + 1 }
  if m.errorCount = maxErrorCount then { m with runFlag := false } else m

section Loop

variable (c : Config) (create : String → Option Message)

/-- `recv_string`, `MessageFactory.create` and the read of `recv_msg.sender`; `none` is the
poll-timeout branch. -/
def receive (o : Tick) : Except Error (Option (Message × String)) :=
  match o.received with
  | .error => .error .recv
  | .none => .ok none
  | .data s =>
    if s = "" then .ok none
    else
      match create s with
      | none => .error .decode
      | some msg =>
        match msg.sender with
        | none => .error .noSender
        | some sender => .ok (some (msg, sender))

/-- `for controller_name in controller_heartbeat_dict.keys():` over the keys the dict had when
the loop began, `size` being its size then. The keys iterator raises on its next step as
soon as the dict's size differs from `size`. -/
def pruneLoop (now : Int) (size : Nat) :
    List String → PyDict String Int → PyDict String Int × Option Error
  | [], d => (d, if d.size = size then none else some .dictChanged)
  | k :: ks, d =>
    if d.size ≠ size then (d, some .dictChanged)
    else
      match d.get? k with
      | none => (d, some .keyError)
      | some lastSeen =>
        let controllerThreshold := lastSeen + c.controllerTimeout
        pruneLoop now size ks (if now ≥ controllerThreshold then d.pop k else d)

/-- The `else:   # POLL-TIMEOUT` branch. -/
def pollTimeout (m : Master) (now : Int) : Outcome :=
  if !m.taskDistribution then
    let d := m.controllerHeartbeatDict
    match pruneLoop c now d.size d.keys d with
    | (d, some e) => ⟨{ m with controllerHeartbeatDict := d }, [], some e⟩
    | (d, none) =>
      let m := { m with controllerHeartbeatDict := d }
      ⟨if checkAllControllerDown d.size then { m with runFlag := false } else m, [], none⟩
  else ⟨m, [], none⟩

/-- The `else:   # Do graceful shutdown` branch, for a message from `sender`. -/
def drain (m : Master) (o : Tick) (sender : String) : Outcome :=
  if o.sendFails then ⟨m, [.send .exitCommand], some .send⟩
  else
    let m := { m with controllerHeartbeatDict := m.controllerHeartbeatDict.pop sender }
    ⟨if checkAllControllerDown m.controllerHeartbeatDict.size then { m with runFlag := false }
      else m, [.send .exitCommand], none⟩

/-- The body of `with CriticalSection(task_queue.lock, timeout=1)`: the task popped, or the
`AttributeError` of `is_locked()`; the master after the block; and the lock that `__exit__`
releases, the generator having freed it or not during a timed-out acquire. -/
def takeTask (m : Master) (o : Tick) : Except Error (Option Task) × Master × Lock :=
  let (acquired, lock) := CriticalSection.enter ⟨o.lockHeld⟩
  let lock := if acquired then lock else ⟨o.lockHeldAtExit⟩
  match CriticalSection.isLocked c.hasIsLocked acquired with
  | none => (.error .attributeError, m, lock)
  | some true =>
    match m.taskQueue with
    | task :: rest => (.ok (some task), { m with taskQueue := rest }, lock)
    | [] =>
      if !o.generatorAlive then
        (.ok none, { m with taskDistribution := false, controllerWaitDuration := 0 }, lock)
      else (.ok none, m, lock)
  | some false => (.ok none, m, lock)

/-- `do_task_assign` for the popped task, from its record in `task_status_dict`:
`some true` assigns, `some false` answers `WaitCommand`, `none` is the
"Undefined state processing task" raise. -/
def doTaskAssign (record : Option TaskStatusItem) (lastExecTimestamp : Int) : Option Bool :=
  match record with
  | none => some true
  | some item =>
    let taskResendThreshold := item.timestamp + c.taskResendTimeout
    if item.state = .finished ∨ lastExecTimestamp ≥ taskResendThreshold then some true
    else if item.state = .assigned ∧ lastExecTimestamp < taskResendThreshold then some false
    else none

/-- The `TASK_REQUEST` branch. -/
def taskRequest (m : Master) (o : Tick) (sender : String) : Outcome :=
  let (task, m, lock) := takeTask c m o
  match CriticalSection.exit lock with
  | none => ⟨m, [], some .release⟩
  | some _ =>
    match task with
    | .error e => ⟨m, [], some e⟩
    | .ok none => send m (.waitCommand m.controllerWaitDuration) o
    | .ok (some task) =>
      match doTaskAssign c (m.taskStatusDict.get? task.tid) o.now with
      | some true =>
        send { m with taskStatusDict :=
          m.taskStatusDict.set task.tid ⟨task.tid, .assigned, sender, o.stamp⟩ } (.taskAssign task) o
      | some false => send m (.waitCommand m.controllerWaitDuration) o
      | none => ⟨m, [], some (.undefinedState task.tid)⟩

/-- The `TASK_FINISHED` branch; `tid` is `recv_msg.tid`. -/
def taskFinished (m : Master) (o : Tick) (sender : String) (tid : Option String) : Outcome :=
  match tid with
  | none => ⟨m, [], some .noTid⟩
  | some tid =>
    match m.taskStatusDict.get? tid with
    | none => ⟨m, [], some .inconsistency⟩
    | some item =>
      if sender = item.controller then
        let m := { m with
          taskStatusDict := m.taskStatusDict.set tid { item with state := .finished, timestamp := o.stamp }
          resultQueue := m.resultQueue ++ [tid] }
        let out := send m .acknowledge o
        { out with actions := .push tid :: out.actions }
      else send m .acknowledge o

/-- A decoded message from `sender`: the heartbeat upsert, then the branch on
`TASK_DISTRIBUTION` and on the message type. -/
def onMessage (m : Master) (o : Tick) (msg : Message) (sender : String) : Outcome :=
  let m := { m with controllerHeartbeatDict := m.controllerHeartbeatDict.set sender o.seen }
  if m.taskDistribution then
    match msg.type with
    | .taskRequest => taskRequest c m o sender
    | .taskFinished => taskFinished m o sender msg.tid
    | .heartbeat => send m .acknowledge o
    | _ => ⟨m, [], some .undefinedType⟩
  else drain m o sender

/-- The `try` block of one pass. -/
def body (m : Master) (o : Tick) : Outcome :=
  match receive create o with
  | .error e => ⟨m, [], some e⟩
  | .ok none => pollTimeout c m o.now
  | .ok (some (msg, sender)) => onMessage c m o msg sender

/-- One pass of `while run_flag:`, with its exception handler. -/
def iterate (m : Master) (o : Tick) : Master × List Action :=
  let out := body c create m o
  (match out.raised with
    | none => out.master
    | some _ => exceptionHandler out.master, out.actions)

end Loop

/-- What can happen next to the master: a pass of the loop, a signal, or the generator
pushing a task or taking a result. -/
inductive Event
  | iteration (o : Tick)
  | signal (signum : Signal)
  | generatorPush (task : Task)
  | generatorConsume
  deriving DecidableEq

section Run

variable (c : Config) (create : String → Option Message)

/-- Once `run_flag` is false the loop has ended and passes do nothing. -/
def step (m : Master) : Event → Master × List Action
  | .iteration o => if m.runFlag then iterate c create m o else (m, [])
  | .signal signum => (signalHandler signum m, [])
  | .generatorPush task => ({ m with taskQueue := m.taskQueue ++ [task] }, [])
  | .generatorConsume => ({ m with resultQueue := m.resultQueue.tail }, [])

/-- The master after a run of events, and the calls it made. -/
def run (m : Master) : List Event → Master × List Action
  | [] => (m, [])
  | e :: es =>
    let r := step c create m e
    let r' := run r.1 es
    (r'.1, r.2 ++ r'.2)

/-- Each event of a run with the master it found. -/
def trace (m : Master) : List Event → List (Master × Event)
  | [] => []
  | e :: es => (m, e) :: trace (step c create m e).1 es

end Run

end Cyclone
