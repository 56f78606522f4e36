import Cyclone.Master.Assignment

/-! The two shared queues between the master and the task generator. The generator appends
to `task_queue` and takes from the front of `result_queue`; the master pops the front of
`task_queue` in a `TASK_REQUEST` pass that got the lock, and appends to `result_queue` in a
`TASK_FINISHED` pass. `Outcome.Queues` says once what a pass may do to them and `queue_step`
lifts it to every event: a task taken goes out in `TaskAssign` or is dropped while its `tid`
is in flight (`popped_task_assigned_or_in_flight`). `shared_queues_fifo` lifts it to every
run, and with `step_status` it says where the keys of `task_status_dict` come from
(`task_records_from_queue`). -/
namespace Cyclone

/-- The task an event appends to `task_queue`. -/
def Event.pushed : Event → List Task
  | .generatorPush task => [task]
  | _ => []

/-- A pass leaves `task_queue` as it is and makes no `TaskAssign` reply, or, having got the
lock with `is_locked()` defined, takes the front task and replies `TaskAssign` with it, or
`WaitCommand` when `mayAssign` refuses it; `result_queue` grows by the `tid`s the pass
pushes. -/
def Outcome.Queues (c : Config) (m : Master) (o : Tick) (out : Outcome) : Prop :=
  ((out.master.taskQueue = m.taskQueue ∧ out.actions.filterMap Action.assigned? = []) ∨
    ∃ task, c.hasIsLocked = true ∧ o.lockHeld = false ∧ m.taskQueue = task :: out.master.taskQueue ∧
      (out.actions = [.send (.taskAssign task)] ∨
        out.actions = [.send (.waitCommand m.controllerWaitDuration)] ∧
          mayAssign c (m.taskStatusDict.get? task.tid) o.now = false)) ∧
    out.master.resultQueue = m.resultQueue ++ out.actions.filterMap Action.pushed?

theorem silent_queues {c : Config} {o : Tick} {m m' : Master} (queue : m'.taskQueue = m.taskQueue)
    (results : m'.resultQueue = m.resultQueue) (raised : Option Error) :
    (⟨m', [], raised⟩ : Outcome).Queues c m o :=
  ⟨.inl ⟨queue, rfl⟩, by simp [results]⟩

theorem send_queues {c : Config} {m m' : Master} (queue : m'.taskQueue = m.taskQueue)
    (results : m'.resultQueue = m.resultQueue) {r : Reply} (o : Tick)
    (other : ∀ task, r ≠ .taskAssign task) : (send m' r o).Queues c m o := by
  refine ⟨.inl ⟨queue, ?_⟩, by cases r <;> simp_all [Action.pushed?]⟩
  cases r <;> simp_all [Action.assigned?]

theorem Outcome.Queues.rebase {c : Config} {o : Tick} {m m' : Master} {out : Outcome}
    (queues : out.Queues c m' o) (queue : m'.taskQueue = m.taskQueue)
    (records : m'.taskStatusDict = m.taskStatusDict)
    (waiting : m'.controllerWaitDuration = m.controllerWaitDuration)
    (results : m'.resultQueue = m.resultQueue) : out.Queues c m o := by
  simpa [Outcome.Queues, queue, records, waiting, results] using queues

/-- Every record of `task_status_dict` sits under its own `tid`. -/
def Keyed (d : PyDict String TaskStatusItem) : Prop :=
  ∀ tid item, d.get? tid = some item → item.tid = tid

theorem Keyed.set {d : PyDict String TaskStatusItem} (keyed : Keyed d) {tid : String}
    {item : TaskStatusItem} (own : item.tid = tid) : Keyed (d.set tid item) := by
  intro k r found
  rw [PyDict.get?_set] at found
  split at found
  · cases found; rename_i same; rw [own, same]
  · exact keyed k r found

section Queues

variable (c : Config) (create : String → Option Message)

theorem pollTimeout_queues (m : Master) (o : Tick) : (pollTimeout c m o.now).Queues c m o := by
  cases flag : m.taskDistribution
  · rw [pollTimeout_off c m o.now flag]
    repeat' split
    all_goals exact silent_queues (by rfl) (by rfl) _
  · rw [pollTimeout_on c m o.now flag]; exact silent_queues (by rfl) (by rfl) _

theorem drain_queues (m : Master) (o : Tick) (sender : String) : (drain m o sender).Queues c m o := by
  rw [drain_eq]
  split <;> exact ⟨.inl ⟨rfl, by simp [Action.assigned?]⟩, by simp [Action.pushed?]⟩

/-- A `TASK_REQUEST` pops the front of the queue when it gets the lock and the queue is not
empty, and replies `TaskAssign` with that task when `mayAssign` allows it. -/
theorem taskRequest_queues (m : Master) (o : Tick) (sender : String) :
    (taskRequest c m o sender).Queues c m o := by
  cases present : c.hasIsLocked
  · rw [taskRequest_missing c m o sender present]; exact silent_queues (by rfl) (by rfl) _
  cases held : o.lockHeld
  · cases queued : m.taskQueue with
    | nil =>
      rw [taskRequest_empty c m o sender present held queued]
      split <;> exact send_queues (by rfl) (by rfl) o (by simp)
    | cons task rest =>
      rw [taskRequest_pop c m o sender present held queued]
      split
      · exact ⟨.inr ⟨task, present, held, queued, .inl rfl⟩, by simp [Action.pushed?]⟩
      · rename_i refused
        exact ⟨.inr ⟨task, present, held, queued, .inr ⟨rfl, by simpa using refused⟩⟩,
          by simp [Action.pushed?]⟩
  · rw [taskRequest_held c m o sender present held]
    split
    · exact send_queues (by rfl) (by rfl) o (by simp)
    · exact silent_queues (by rfl) (by rfl) _

theorem taskFinished_queues (m : Master) (o : Tick) (sender : String) (tid? : Option String) :
    (taskFinished m o sender tid?).Queues c m o := by
  cases tid? with
  | none => exact silent_queues (by rfl) (by rfl) _
  | some tid =>
    cases known : m.taskStatusDict.get? tid with
    | none => rw [taskFinished_unknown m o sender tid known]; exact silent_queues (by rfl) (by rfl) _
    | some item =>
      by_cases owner : sender = item.controller
      · rw [taskFinished_owner m o sender tid known owner]
        exact ⟨.inl ⟨rfl, by simp [Action.assigned?]⟩, by simp [Action.pushed?]⟩
      · rw [taskFinished_other m o sender tid known owner]; exact send_queues (by rfl) (by rfl) o (by simp)

theorem onMessage_queues (m : Master) (o : Tick) (msg : Message) (sender : String) :
    (onMessage c m o msg sender).Queues c m o := by
  cases flag : m.taskDistribution
  · rw [onMessage_off c m o msg sender flag]; exact (drain_queues c _ o sender).rebase rfl rfl rfl rfl
  · cases type : msg.type <;> simp only [onMessage, flag, type, if_true]
    case taskRequest => exact (taskRequest_queues c _ o sender).rebase rfl rfl rfl rfl
    case taskFinished => exact (taskFinished_queues c _ o sender msg.tid).rebase rfl rfl rfl rfl
    case heartbeat => exact send_queues (by rfl) (by rfl) o (by simp)
    all_goals exact silent_queues (by rfl) (by rfl) _

theorem body_queues (m : Master) (o : Tick) : (body c create m o).Queues c m o := by
  match decoded : receive create o with
  | .error _ => rw [body_of_error c create m o decoded]; exact silent_queues (by rfl) (by rfl) _
  | .ok none => rw [body_of_timeout c create m o decoded]; exact pollTimeout_queues c m o
  | .ok (some (msg, sender)) =>
    rw [body_of_message c create m o decoded]; exact onMessage_queues c m o msg sender

/-- The exception handler touches neither queue. -/
theorem iterate_queues (m : Master) (o : Tick) :
    (iterate c create m o).1.taskQueue = (body c create m o).master.taskQueue ∧
      (iterate c create m o).1.resultQueue = (body c create m o).master.resultQueue := by
  cases raised : (body c create m o).raised
  · rw [iterate_of_none c create m o raised]; exact ⟨rfl, rfl⟩
  · rw [iterate_of_some c create m o raised, exceptionHandler_eq]; exact ⟨rfl, rfl⟩

/-- What a step does to the two queues: `task_queue` gets the generator's push, or a pass
that got the lock takes its front task, which goes out in `TaskAssign`, or is refused by
`mayAssign` and answered with `WaitCommand`; the generator takes from the front of
`result_queue`, and a pass appends the `tid`s it pushes. -/
theorem queue_step (m : Master) (e : Event) :
    (((step c create m e).1.taskQueue = m.taskQueue ++ e.pushed ∧
        (step c create m e).2.filterMap Action.assigned? = []) ∨
      ∃ o task, e = .iteration o ∧ c.hasIsLocked = true ∧ o.lockHeld = false ∧
        m.taskQueue = task :: (step c create m e).1.taskQueue ∧
        ((step c create m e).2 = [.send (.taskAssign task)] ∨
          (step c create m e).2 = [.send (.waitCommand m.controllerWaitDuration)] ∧
            mayAssign c (m.taskStatusDict.get? task.tid) o.now = false)) ∧
      ∃ consumed, m.resultQueue ++ (step c create m e).2.filterMap Action.pushed? =
        consumed ++ (step c create m e).1.resultQueue := by
  cases e with
  | iteration o =>
    cases running : m.runFlag
    · exact ⟨.inl ⟨by simp [step, running, Event.pushed], by simp [step, running]⟩,
        [], by simp [step, running]⟩
    · obtain ⟨taking, results⟩ := body_queues c create m o
      obtain ⟨queue', results'⟩ := iterate_queues c create m o
      simp only [step, running, if_true, iterate_actions, queue', results', Event.pushed,
        List.append_nil]
      refine ⟨?_, [], by rw [results, List.nil_append]⟩
      rcases taking with kept | ⟨task, present, free, queued, taken⟩
      · exact .inl kept
      · exact .inr ⟨o, task, rfl, present, free, queued, taken⟩
  | generatorConsume =>
    exact ⟨.inl ⟨by simp [step, Event.pushed], by simp [step]⟩, m.resultQueue.take 1,
      by simp [step, ← List.drop_one]⟩
  | _ => exact ⟨.inl ⟨by simp [step, Event.pushed], by simp [step]⟩, [], by simp [step]⟩

theorem queues_step (m : Master) (e : Event) :
    (∃ taken, m.taskQueue ++ e.pushed = taken ++ (step c create m e).1.taskQueue ∧
        ((step c create m e).2.filterMap Action.assigned?).Sublist taken) ∧
      ∃ consumed, m.resultQueue ++ (step c create m e).2.filterMap Action.pushed? =
        consumed ++ (step c create m e).1.resultQueue := by
  obtain ⟨taking, results⟩ := queue_step c create m e
  refine ⟨?_, results⟩
  rcases taking with ⟨kept, none⟩ | ⟨o, task, rfl, -, -, queued, taken⟩
  · exact ⟨[], by simp [kept], by simp [none]⟩
  · refine ⟨[task], by simp [queued, Event.pushed], ?_⟩
    rcases taken with replied | ⟨replied, -⟩ <;> simp [replied, Action.assigned?]

/-- `mayAssign` refuses a task only while its `tid` has an `ASSIGNED` record whose resend time
has not come. -/
theorem mayAssign_eq_false {record : Option TaskStatusItem} {now : Int}
    (refused : mayAssign c record now = false) :
    ∃ item, record = some item ∧ item.state = .assigned ∧ now < item.timestamp + c.taskResendTimeout := by
  cases record with
  | none => cases refused
  | some item =>
    refine ⟨item, rfl, ?_⟩
    cases state : item.state <;> simp_all [mayAssign]

/-- In every pass from every state, `task_queue` loses nothing but its front task, and that
only when the master got the lock with `is_locked()` defined; the pass then replies
`TaskAssign` with that task, or drops it and replies `WaitCommand(controller_wait_duration)`
because its `tid` has an `ASSIGNED` record whose resend time has not come. Every other change
to the queue is the generator's push. -/
theorem popped_task_assigned_or_in_flight (m : Master) (e : Event) :
    ((step c create m e).1.taskQueue = m.taskQueue ++ e.pushed ∧
        (step c create m e).2.filterMap Action.assigned? = []) ∨
      ∃ o task, e = .iteration o ∧ c.hasIsLocked = true ∧ o.lockHeld = false ∧
        m.taskQueue = task :: (step c create m e).1.taskQueue ∧
        ((step c create m e).2 = [.send (.taskAssign task)] ∨
          (step c create m e).2 = [.send (.waitCommand m.controllerWaitDuration)] ∧
            ∃ item, m.taskStatusDict.get? task.tid = some item ∧ item.state = .assigned ∧
              o.now < item.timestamp + c.taskResendTimeout) := by
  rcases (queue_step c create m e).1 with kept |
    ⟨o, task, event, present, free, queued, assigned | ⟨waiting, refused⟩⟩
  · exact .inl kept
  · exact .inr ⟨o, task, event, present, free, queued, .inl assigned⟩
  · exact .inr ⟨o, task, event, present, free, queued, .inr ⟨waiting, mayAssign_eq_false c refused⟩⟩

/-- Both queues are first in, first out over every run of the master, from any state. The
tasks the master takes from `task_queue` are, in order, the front of what was queued and what
the generator pushed, and every `TaskAssign` reply carries a task taken, in the order taken:
no task is replied that was not queued, and none more often than it was queued. The
generator takes from `result_queue` a front part of the `tid`s the master pushed, in order. -/
theorem shared_queues_fifo (m : Master) (es : List Event) :
    (∃ taken, m.taskQueue ++ es.flatMap Event.pushed = taken ++ (run c create m es).1.taskQueue ∧
        ((run c create m es).2.filterMap Action.assigned?).Sublist taken) ∧
      ∃ consumed, m.resultQueue ++ (run c create m es).2.filterMap Action.pushed? =
        consumed ++ (run c create m es).1.resultQueue := by
  induction es generalizing m with
  | nil => exact ⟨⟨[], by simp, by simp⟩, [], by simp⟩
  | cons e es ih =>
    obtain ⟨⟨taken, queue, assigned⟩, consumed, results⟩ := queues_step c create m e
    obtain ⟨⟨taken', queue', assigned'⟩, consumed', results'⟩ := ih (step c create m e).1
    refine ⟨⟨taken ++ taken', ?_, ?_⟩, consumed ++ consumed', ?_⟩
    · rw [run_cons, List.flatMap_cons, ← List.append_assoc, queue, List.append_assoc, queue',
        List.append_assoc]
    · rw [run_cons, List.filterMap_append]
      exact assigned.append assigned'
    · rw [run_cons, List.filterMap_append, ← List.append_assoc, results, List.append_assoc,
        results', List.append_assoc]

/-- A step keeps every record under its own `tid`, and a key it adds is the `tid` of the task
of its `TaskAssign` reply: a `TASK_FINISHED` only rewrites the record found under its `tid`. -/
theorem records_step (m : Master) (e : Event) (keyed : Keyed m.taskStatusDict) :
    Keyed (step c create m e).1.taskStatusDict ∧
      ∀ tid ∈ (step c create m e).1.taskStatusDict.keys, tid ∈ m.taskStatusDict.keys ∨
        ∃ task ∈ (step c create m e).2.filterMap Action.assigned?, task.tid = tid := by
  rcases step_status c create m e with ⟨same, -⟩ | ⟨_, _, task, -, -, set, assigned, -⟩ |
      ⟨_, tid, item, -, ⟨-, found⟩, set, -⟩
  · rw [same]; exact ⟨keyed, fun _ mem => .inl mem⟩
  · rw [set, assigned]
    refine ⟨keyed.set rfl, fun tid mem => ?_⟩
    rcases PyDict.mem_keys_set.mp mem with rfl | old
    · exact .inr ⟨task, List.mem_singleton_self _, rfl⟩
    · exact .inl old
  · rw [set]
    refine ⟨keyed.set (keyed tid item found), fun k mem => .inl ?_⟩
    rcases PyDict.mem_keys_set.mp mem with rfl | old
    · exact PyDict.mem_keys.mpr (by simp [found])
    · exact old

/-- Over every run, from any state whose records sit under their own `tid`s, they still do,
and every key `task_status_dict` gains is the `tid` of a task that was in `task_queue` at the
start or that the generator pushed: the master records only tasks it took from the queue,
whatever the controllers send. -/
theorem task_records_from_queue (m : Master) (es : List Event) (keyed : Keyed m.taskStatusDict) :
    Keyed (run c create m es).1.taskStatusDict ∧
      ∀ tid ∈ (run c create m es).1.taskStatusDict.keys, tid ∈ m.taskStatusDict.keys ∨
        ∃ task ∈ m.taskQueue ++ es.flatMap Event.pushed, task.tid = tid := by
  induction es generalizing m with
  | nil => exact ⟨keyed, fun _ mem => .inl mem⟩
  | cons e es ih =>
    obtain ⟨keyed', added⟩ := records_step c create m e keyed
    obtain ⟨⟨taken, queue, assigned⟩, -⟩ := queues_step c create m e
    obtain ⟨keyed'', added'⟩ := ih _ keyed'
    have queued : ∀ task, task ∈ (step c create m e).1.taskQueue ∨
        task ∈ (step c create m e).2.filterMap Action.assigned? → task ∈ m.taskQueue ++ e.pushed := by
      rintro task (mem | mem) <;> rw [queue]
      · exact List.mem_append_right _ mem
      · exact List.mem_append_left _ (assigned.subset mem)
    refine ⟨keyed'', fun tid mem => ?_⟩
    rw [List.flatMap_cons, ← List.append_assoc]
    rcases added' tid mem with old | ⟨task, mem', own⟩
    · rcases added tid old with older | ⟨task, assigned', own⟩
      · exact .inl older
      · exact .inr ⟨task, List.mem_append_left _ (queued task (.inr assigned')), own⟩
    · rcases List.mem_append.mp mem' with inQueue | pushedLater
      · exact .inr ⟨task, List.mem_append_left _ (queued task (.inl inQueue)), own⟩
      · exact .inr ⟨task, List.mem_append_right _ pushedLater, own⟩

/-- With an `is_locked()` that reports the acquire, the generator pushes `T1` and `C1` requests
it: the one record is `T1`'s. -/
theorem task_records_from_queue_example :
    (run ⟨10, 100, true⟩ sampleCreate (Master.init 5)
        [.generatorPush ⟨"T1"⟩, .iteration (Tick.calm 0 (.data "C1 request"))]).1.taskStatusDict.keys =
      ["T1"] ∧
    Keyed (Master.init 5).taskStatusDict ∧
    (Keyed (run ⟨10, 100, true⟩ sampleCreate (Master.init 5)
        [.generatorPush ⟨"T1"⟩, .iteration (Tick.calm 0 (.data "C1 request"))]).1.taskStatusDict ∧
      ∀ tid ∈ (run ⟨10, 100, true⟩ sampleCreate (Master.init 5)
          [.generatorPush ⟨"T1"⟩, .iteration (Tick.calm 0 (.data "C1 request"))]).1.taskStatusDict.keys,
        tid ∈ (Master.init 5).taskStatusDict.keys ∨
          ∃ task ∈ (Master.init 5).taskQueue ++
            [Event.generatorPush ⟨"T1"⟩, .iteration (Tick.calm 0 (.data "C1 request"))].flatMap
              Event.pushed, task.tid = tid) :=
  ⟨by decide, (fun _ _ none => by cases none),
    task_records_from_queue _ _ _ _ (fun _ _ none => by cases none)⟩

end Queues

end Cyclone
