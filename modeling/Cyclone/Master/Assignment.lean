import Cyclone.Master.Spec

/-! How the loop changes `task_status_dict`. `step_status` says it once for every event:
a pass that decides to assign the popped task records it (and replies `TaskAssign`), a
`TASK_FINISHED` from the recorded controller marks the task finished (and pushes its `tid`),
and every other pass leaves the dictionary alone. The run-level results follow from it;
without `is_locked` no pass ever assigns, so nothing is ever pushed (`pushes_le_assignments`). -/
namespace Cyclone

/-- The task of a `TaskAssign` reply. -/
def Action.assigned? : Action → Option Task
  | .send (.taskAssign task) => some task
  | _ => none

/-- The `tid` of a `result_queue.push`. -/
def Action.pushed? : Action → Option String
  | .push tid => some tid
  | .send _ => none

section Status

variable (c : Config) (create : String → Option Message)

/-- The pass handles a `TASK_FINISHED(tid)` from `sender` while distributing. -/
def FinishesFrom (m : Master) (e : Event) (tid sender : String) : Prop :=
  ∃ o msg, e = .iteration o ∧ m.runFlag = true ∧ receive create o = .ok (some (msg, sender)) ∧
    msg.type = .taskFinished ∧ m.taskDistribution = true ∧ msg.tid = some tid

/-- The pass decides to assign `task`, the front of `task_queue`, to `sender`: a `TASK_REQUEST`
from `sender` while distributing, with `is_locked()` defined and the lock taken, and
`mayAssign` allowing the task. -/
def AssignsTo (m : Master) (o : Tick) (sender : String) (task : Task) : Prop :=
  ∃ msg, m.runFlag = true ∧ receive create o = .ok (some (msg, sender)) ∧
    msg.type = .taskRequest ∧ m.taskDistribution = true ∧ c.hasIsLocked = true ∧
    o.lockHeld = false ∧ m.taskQueue.head? = some task ∧
    mayAssign c (m.taskStatusDict.get? task.tid) o.now = true

/-- The pass handles `TASK_FINISHED(tid)` from the controller of `item`, the record of `tid`. -/
def FinishesOwn (m : Master) (o : Tick) (tid : String) (item : TaskStatusItem) : Prop :=
  FinishesFrom create m (.iteration o) tid item.controller ∧ m.taskStatusDict.get? tid = some item

/-- The three ways a step can change `task_status_dict`, with the `TaskAssign` replies and
the result pushes that go with each: a pass that neither assigns nor finishes a task for its
recorded controller leaves it as it was. -/
def StatusChange (m : Master) (e : Event) (m' : Master) (acts : List Action) : Prop :=
  (m'.taskStatusDict = m.taskStatusDict ∧ acts.filterMap Action.assigned? = [] ∧
      acts.filterMap Action.pushed? = [] ∧
      ∀ o, e = .iteration o →
        (∀ sender task, ¬ AssignsTo c create m o sender task) ∧
          ∀ tid item, ¬ FinishesOwn create m o tid item) ∨
    (∃ o sender task, e = .iteration o ∧ AssignsTo c create m o sender task ∧
      m'.taskStatusDict = m.taskStatusDict.set task.tid ⟨task.tid, .assigned, sender, o.stamp⟩ ∧
      acts.filterMap Action.assigned? = [task] ∧ acts.filterMap Action.pushed? = []) ∨
    (∃ o tid item, e = .iteration o ∧ FinishesOwn create m o tid item ∧
      m'.taskStatusDict = m.taskStatusDict.set tid { item with state := .finished, timestamp := o.stamp } ∧
      acts.filterMap Action.assigned? = [] ∧ acts.filterMap Action.pushed? = [tid])

/-- An outcome that leaves `task_status_dict` as `m` had it and makes no `TaskAssign` reply
and no push. -/
def Outcome.Quiet (m : Master) (out : Outcome) : Prop :=
  out.master.taskStatusDict = m.taskStatusDict ∧ out.actions.filterMap Action.assigned? = [] ∧
    out.actions.filterMap Action.pushed? = []

theorem send_quiet {m m' : Master} (same : m'.taskStatusDict = m.taskStatusDict) {r : Reply}
    (o : Tick) (other : ∀ task, r ≠ .taskAssign task) : (send m' r o).Quiet m := by
  cases r <;> simp_all [Outcome.Quiet, Action.assigned?, Action.pushed?]

theorem silent_quiet (m : Master) (raised : Option Error) : (⟨m, [], raised⟩ : Outcome).Quiet m := by
  simp [Outcome.Quiet]

theorem pollTimeout_quiet (m : Master) (now : Int) : (pollTimeout c m now).Quiet m := by
  cases flag : m.taskDistribution
  · rw [pollTimeout_off c m now flag]
    split
    · exact silent_quiet _ _
    · split <;> simp [Outcome.Quiet]
  · rw [pollTimeout_on c m now flag]; exact silent_quiet m none

theorem drain_quiet (m : Master) (o : Tick) (sender : String) : (drain m o sender).Quiet m := by
  rw [drain_eq]; split <;> simp [Outcome.Quiet, Action.assigned?, Action.pushed?]

/-- The `TASK_REQUEST` branch is quiet unless it records the assignment of the head of the
queue, which the spec's rule allows. -/
theorem taskRequest_status (m : Master) (o : Tick) (sender : String) :
    (taskRequest c m o sender).Quiet m ∨
      ∃ task, c.hasIsLocked = true ∧ o.lockHeld = false ∧ m.taskQueue.head? = some task ∧
        mayAssign c (m.taskStatusDict.get? task.tid) o.now = true ∧
        (taskRequest c m o sender).master.taskStatusDict =
          m.taskStatusDict.set task.tid ⟨task.tid, .assigned, sender, o.stamp⟩ ∧
        (taskRequest c m o sender).actions.filterMap Action.assigned? = [task] ∧
        (taskRequest c m o sender).actions.filterMap Action.pushed? = [] := by
  cases present : c.hasIsLocked
  · rw [taskRequest_missing c m o sender present]; exact .inl (silent_quiet m _)
  cases held : o.lockHeld
  · cases queued : m.taskQueue with
    | nil =>
      rw [taskRequest_empty c m o sender present held queued]
      left; split <;> exact send_quiet rfl o (by simp)
    | cons task rest =>
      rw [taskRequest_pop c m o sender present held queued]
      by_cases allowed : mayAssign c (m.taskStatusDict.get? task.tid) o.now = true
      · right; exact ⟨task, rfl, rfl, rfl, allowed, by simp [allowed, Action.assigned?, Action.pushed?]⟩
      · left; simp only [allowed, if_false]; exact send_quiet rfl o (by simp)
  · rw [taskRequest_held c m o sender present held]
    left; split
    · exact send_quiet rfl o (by simp)
    · exact silent_quiet m _

/-- The `TASK_FINISHED` branch is quiet unless the sender is the recorded controller of the
`tid`: then the record is finished and the `tid` pushed. -/
theorem taskFinished_status (m : Master) (o : Tick) (sender : String) (tid? : Option String) :
    (taskFinished m o sender tid?).Quiet m ∨
      ∃ tid item, tid? = some tid ∧ m.taskStatusDict.get? tid = some item ∧
        sender = item.controller ∧
        (taskFinished m o sender tid?).master.taskStatusDict =
          m.taskStatusDict.set tid { item with state := .finished, timestamp := o.stamp } ∧
        (taskFinished m o sender tid?).actions.filterMap Action.assigned? = [] ∧
        (taskFinished m o sender tid?).actions.filterMap Action.pushed? = [tid] := by
  cases tid? with
  | none => exact .inl (silent_quiet m _)
  | some tid =>
    cases known : m.taskStatusDict.get? tid with
    | none => rw [taskFinished_unknown m o sender tid known]; exact .inl (silent_quiet m _)
    | some item =>
      by_cases owner : sender = item.controller
      · right
        refine ⟨tid, item, rfl, known, owner, ?_⟩
        simp [taskFinished_owner m o sender tid known owner, Action.assigned?, Action.pushed?]
      · rw [taskFinished_other m o sender tid known owner]; exact .inl (send_quiet rfl o (by simp))

theorem onMessage_status (m : Master) (o : Tick) (msg : Message) (sender : String) :
    (onMessage c m o msg sender).Quiet m ∨
      (msg.type = .taskRequest ∧ m.taskDistribution = true ∧ ∃ task, c.hasIsLocked = true ∧
        o.lockHeld = false ∧
        m.taskQueue.head? = some task ∧ mayAssign c (m.taskStatusDict.get? task.tid) o.now = true ∧
        (onMessage c m o msg sender).master.taskStatusDict =
          m.taskStatusDict.set task.tid ⟨task.tid, .assigned, sender, o.stamp⟩ ∧
        (onMessage c m o msg sender).actions.filterMap Action.assigned? = [task] ∧
        (onMessage c m o msg sender).actions.filterMap Action.pushed? = []) ∨
      (msg.type = .taskFinished ∧ m.taskDistribution = true ∧ ∃ tid item, msg.tid = some tid ∧
        m.taskStatusDict.get? tid = some item ∧ sender = item.controller ∧
        (onMessage c m o msg sender).master.taskStatusDict =
          m.taskStatusDict.set tid { item with state := .finished, timestamp := o.stamp } ∧
        (onMessage c m o msg sender).actions.filterMap Action.assigned? = [] ∧
        (onMessage c m o msg sender).actions.filterMap Action.pushed? = [tid]) := by
  cases flag : m.taskDistribution
  · rw [onMessage_off c m o msg sender flag]; exact .inl (drain_quiet _ o sender)
  · cases type : msg.type <;> simp only [onMessage, flag, type, if_true]
    case taskRequest =>
      rcases taskRequest_status c _ o sender with quiet | ⟨task, assignment⟩
      · exact .inl quiet
      · exact .inr (.inl ⟨trivial, trivial, task, assignment⟩)
    case taskFinished =>
      rcases taskFinished_status _ o sender msg.tid with quiet | ⟨tid, item, finish⟩
      · exact .inl quiet
      · exact .inr (.inr ⟨trivial, trivial, tid, item, finish⟩)
    case heartbeat => exact .inl (send_quiet rfl o (by simp))
    all_goals exact .inl (silent_quiet _ _)

/-- A `TASK_REQUEST` that gets the lock, `is_locked()` being defined, replies `TaskAssign`
with the front task when `mayAssign` allows it. -/
theorem onMessage_assigns (m : Master) (o : Tick) (msg : Message) (sender : String) {task : Task}
    (type : msg.type = .taskRequest) (distributing : m.taskDistribution = true)
    (present : c.hasIsLocked = true) (free : o.lockHeld = false) (head : m.taskQueue.head? = some task)
    (allowed : mayAssign c (m.taskStatusDict.get? task.tid) o.now = true) :
    (onMessage c m o msg sender).actions.filterMap Action.assigned? = [task] := by
  obtain ⟨rest, queued⟩ : ∃ rest, m.taskQueue = task :: rest := by
    cases queue : m.taskQueue <;> simp_all
  have request : onMessage c m o msg sender = taskRequest c
      { m with controllerHeartbeatDict := m.controllerHeartbeatDict.set sender o.seen } o sender := by
    simp only [onMessage, distributing, type, if_true]
  rw [request, taskRequest_pop c { m with controllerHeartbeatDict := m.controllerHeartbeatDict.set sender o.seen }
    o sender present free queued]
  simp [allowed, Action.assigned?]

/-- A `TASK_FINISHED(tid)` from the recorded controller pushes `tid`. -/
theorem onMessage_finishes (m : Master) (o : Tick) (msg : Message) {tid : String}
    {item : TaskStatusItem} (type : msg.type = .taskFinished) (distributing : m.taskDistribution = true)
    (named : msg.tid = some tid) (found : m.taskStatusDict.get? tid = some item) :
    (onMessage c m o msg item.controller).actions.filterMap Action.pushed? = [tid] := by
  have finish : onMessage c m o msg item.controller = taskFinished
      { m with controllerHeartbeatDict := m.controllerHeartbeatDict.set item.controller o.seen } o
      item.controller (some tid) := by
    simp only [onMessage, distributing, type, named, if_true]
  rw [finish, taskFinished_owner
    { m with controllerHeartbeatDict := m.controllerHeartbeatDict.set item.controller o.seen } o
    item.controller tid found rfl]
  simp [Action.pushed?]

theorem iterate_taskStatusDict (m : Master) (o : Tick) :
    (iterate c create m o).1.taskStatusDict = (body c create m o).master.taskStatusDict := by
  cases raised : (body c create m o).raised
  · rw [iterate_of_none c create m o raised]
  · rw [iterate_of_some c create m o raised, exceptionHandler_eq]

/-- A pass that decodes no message neither assigns nor finishes a task. -/
theorem idle_of_undecoded (m : Master) (o : Tick)
    (none : ∀ msg sender, m.runFlag = true → receive create o ≠ .ok (some (msg, sender))) :
    (∀ sender task, ¬ AssignsTo c create m o sender task) ∧ ∀ tid item, ¬ FinishesOwn create m o tid item :=
  ⟨fun _ _ ⟨msg, running, decoded, _⟩ => none msg _ running decoded,
    fun _ _ ⟨⟨_, msg, same, running, decoded, _⟩, _⟩ => by cases same; exact none msg _ running decoded⟩

/-- A message branch that makes no `TaskAssign` reply and no push neither assigns nor finishes
a task for its recorded controller. -/
theorem idle_of_quiet (m : Master) (o : Tick) {msg : Message} {sender : String}
    (decoded : receive create o = .ok (some (msg, sender)))
    (assigned : (onMessage c m o msg sender).actions.filterMap Action.assigned? = [])
    (pushed : (onMessage c m o msg sender).actions.filterMap Action.pushed? = []) :
    (∀ sender task, ¬ AssignsTo c create m o sender task) ∧ ∀ tid item, ¬ FinishesOwn create m o tid item := by
  constructor
  · rintro sender' task ⟨msg', -, decoded', type, flag, present, free, head, allowed⟩
    rw [decoded] at decoded'
    cases decoded'
    have made := onMessage_assigns c m o msg sender type flag present free head allowed
    rw [assigned] at made
    cases made
  · rintro tid item ⟨⟨_, msg', ⟨⟩, -, decoded', type, flag, named⟩, found⟩
    rw [decoded] at decoded'
    cases decoded'
    have made := onMessage_finishes c m o msg type flag named found
    rw [pushed] at made
    cases made

theorem step_status (m : Master) (e : Event) :
    StatusChange c create m e (step c create m e).1 (step c create m e).2 := by
  cases e with
  | iteration o =>
    cases running : m.runFlag
    · exact .inl ⟨by simp [step, running], by simp [step, running], by simp [step, running],
        by rintro _ ⟨⟩; exact idle_of_undecoded c create m o fun _ _ up => by rw [running] at up; cases up⟩
    · have stepped : step c create m (.iteration o) = iterate c create m o := by simp [step, running]
      rw [stepped]
      unfold StatusChange
      rw [iterate_taskStatusDict, iterate_actions]
      match decoded : receive create o with
      | .error err =>
        rw [body_of_error c create m o decoded]
        exact .inl ⟨rfl, rfl, rfl, by
          rintro _ ⟨⟩; exact idle_of_undecoded c create m o fun _ _ _ => by rw [decoded]; simp⟩
      | .ok none =>
        obtain ⟨same, assigned, pushed⟩ := pollTimeout_quiet c m o.now
        rw [body_of_timeout c create m o decoded]
        exact .inl ⟨same, assigned, pushed, by
          rintro _ ⟨⟩; exact idle_of_undecoded c create m o fun _ _ _ => by rw [decoded]; simp⟩
      | .ok (some (msg, sender)) =>
        rw [body_of_message c create m o decoded]
        rcases onMessage_status c m o msg sender with ⟨same, assigned, pushed⟩ |
          ⟨type, flag, task, present, free, head, allowed, set, assigned, pushed⟩ |
          ⟨type, flag, tid, item, named, found, owner, set, assigned, pushed⟩
        · exact .inl ⟨same, assigned, pushed, by
            rintro _ ⟨⟩; exact idle_of_quiet c create m o decoded assigned pushed⟩
        · exact .inr (.inl ⟨o, sender, task, rfl,
            ⟨msg, running, decoded, type, flag, present, free, head, allowed⟩, set, assigned, pushed⟩)
        · subst owner
          exact .inr (.inr ⟨o, tid, item, rfl,
            ⟨⟨o, msg, rfl, running, decoded, type, flag, named⟩, found⟩, set, assigned, pushed⟩)
  | _ => exact .inl ⟨by simp [step], by simp [step], by simp [step], fun _ same => by cases same⟩

theorem mem_assigned {acts : List Action} {task : Task} :
    .send (.taskAssign task) ∈ acts ↔ task ∈ acts.filterMap Action.assigned? := by
  rw [List.mem_filterMap]
  constructor
  · intro mem; exact ⟨_, mem, rfl⟩
  · rintro ⟨(_ | _) | _, mem, found⟩ <;> simp_all [Action.assigned?]

/-- Over every run, each step changes `task_status_dict` in one of the three ways of
`StatusChange`, and no key is ever removed. -/
theorem task_status_changes (m : Master) (es : List Event) :
    (∀ p ∈ trace c create m es,
      StatusChange c create p.1 p.2 (step c create p.1 p.2).1 (step c create p.1 p.2).2) ∧
    ∀ tid ∈ m.taskStatusDict.keys, tid ∈ (run c create m es).1.taskStatusDict.keys := by
  induction es generalizing m with
  | nil => simp
  | cons e es ih =>
    refine ⟨?_, fun tid present => (ih _).2 tid ?_⟩
    · intro p mem
      rcases List.mem_cons.mp mem with rfl | later
      · exact step_status c create m e
      · exact (ih _).1 p later
    · rcases step_status c create m e with ⟨same, -⟩ | ⟨_, _, _, -, -, set, -⟩ | ⟨_, _, _, -, -, set, -⟩
      · rw [same]; exact present
      all_goals rw [set]; simp [present]

/-- A step that neither assigns `tid` nor handles its finish by the recorded controller keeps
an assigned record of `tid`. -/
theorem assigned_record_kept (m : Master) (e : Event) {tid controller : String} {ts : Int}
    (recorded : m.taskStatusDict.get? tid = some ⟨tid, .assigned, controller, ts⟩)
    (unfinished : ¬ FinishesFrom create m e tid controller)
    (unassigned : .send (.taskAssign ⟨tid⟩) ∉ (step c create m e).2) :
    (step c create m e).1.taskStatusDict.get? tid = some ⟨tid, .assigned, controller, ts⟩ := by
  rcases step_status c create m e with ⟨same, -⟩ | ⟨_, _, ⟨tid'⟩, -, -, set, assigned, -⟩ |
    ⟨o, tid', item, rfl, ⟨finishes, known⟩, set, -⟩
  · rw [same, recorded]
  · have other : tid ≠ tid' := by
      rintro rfl
      exact unassigned (mem_assigned.mpr (by simp [assigned]))
    rw [set, PyDict.get?_set, if_neg other, recorded]
  · have other : tid ≠ tid' := by
      rintro rfl
      rw [recorded] at known
      cases known
      exact unfinished finishes
    rw [set, PyDict.get?_set, if_neg other, recorded]

theorem assigned_record_kept_run (m : Master) (mid : List Event) {tid controller : String}
    {ts : Int} (recorded : m.taskStatusDict.get? tid = some ⟨tid, .assigned, controller, ts⟩)
    (unfinished : ∀ p ∈ trace c create m mid, ¬ FinishesFrom create p.1 p.2 tid controller)
    (unassigned : ∀ p ∈ trace c create m mid, .send (.taskAssign ⟨tid⟩) ∉ (step c create p.1 p.2).2) :
    (run c create m mid).1.taskStatusDict.get? tid = some ⟨tid, .assigned, controller, ts⟩ := by
  induction mid generalizing m with
  | nil => exact recorded
  | cons e mid ih =>
    simp only [trace_cons, List.forall_mem_cons] at unfinished unassigned
    exact ih _ (assigned_record_kept c create m e recorded unfinished.1 unassigned.1)
      unfinished.2 unassigned.2

/-- A `TaskAssign` for `tid` is only sent when the spec's rule allows it. -/
theorem assign_needs_mayAssign (m : Master) (e : Event) {tid : String}
    (assigning : .send (.taskAssign ⟨tid⟩) ∈ (step c create m e).2) :
    ∃ o, e = .iteration o ∧ mayAssign c (m.taskStatusDict.get? tid) o.now = true := by
  have mem := mem_assigned.mp assigning
  rcases step_status c create m e with ⟨-, none, -⟩ |
    ⟨o, _, task, rfl, ⟨-, -, -, -, -, -, -, -, allowed⟩, -, assigned, -⟩ | ⟨_, _, _, -, -, -, none, -⟩
  · simp [none] at mem
  · rw [assigned, List.mem_singleton] at mem
    subst mem
    exact ⟨o, rfl, allowed⟩
  · simp [none] at mem

/-- Once `tid` is recorded as assigned to `controller` at `ts` (as right after the pass that
assigned it), the next pass that assigns `tid` again comes after a `TASK_FINISHED(tid)` from
`controller`, or at `ts + task_resend_timeout` or later. -/
theorem reassignment_after_finish_or_resend_timeout (m : Master) (mid : List Event) (e : Event)
    {tid controller : String} {ts : Int}
    (recorded : m.taskStatusDict.get? tid = some ⟨tid, .assigned, controller, ts⟩)
    (unassigned : ∀ p ∈ trace c create m mid, .send (.taskAssign ⟨tid⟩) ∉ (step c create p.1 p.2).2)
    (reassigned : .send (.taskAssign ⟨tid⟩) ∈ (step c create (run c create m mid).1 e).2) :
    (∃ p ∈ trace c create m mid, FinishesFrom create p.1 p.2 tid controller) ∨
      ∃ o, e = .iteration o ∧ ts + c.taskResendTimeout ≤ o.now := by
  by_cases finished : ∃ p ∈ trace c create m mid, FinishesFrom create p.1 p.2 tid controller
  · exact .inl finished
  · push_neg at finished
    obtain ⟨o, rfl, allowed⟩ := assign_needs_mayAssign c create _ e reassigned
    rw [assigned_record_kept_run c create m mid recorded finished unassigned] at allowed
    exact .inr ⟨o, rfl, by simpa [mayAssign] using allowed⟩

end Status

/-- With an `is_locked()` that reports the acquire, `T1` is assigned to `C1` at 1, pushed again
by the generator, then requested by `C2` at 200, past the resend timeout of 100. -/
theorem reassignment_after_resend_timeout_example :
    (run ⟨10, 100, true⟩ sampleCreate (Master.init 5)
        [.generatorPush ⟨"T1"⟩, .iteration (Tick.calm 1 (.data "C1 request"))]).1.taskStatusDict.get?
        "T1" = some ⟨"T1", .assigned, "C1", 1⟩ ∧
      (∀ p ∈ trace ⟨10, 100, true⟩ sampleCreate (run ⟨10, 100, true⟩ sampleCreate (Master.init 5)
          [.generatorPush ⟨"T1"⟩, .iteration (Tick.calm 1 (.data "C1 request"))]).1 [.generatorPush ⟨"T1"⟩],
        .send (.taskAssign ⟨"T1"⟩) ∉ (step ⟨10, 100, true⟩ sampleCreate p.1 p.2).2) ∧
      .send (.taskAssign ⟨"T1"⟩) ∈ (step ⟨10, 100, true⟩ sampleCreate (run ⟨10, 100, true⟩ sampleCreate
        (run ⟨10, 100, true⟩ sampleCreate (Master.init 5)
          [.generatorPush ⟨"T1"⟩, .iteration (Tick.calm 1 (.data "C1 request"))]).1
        [.generatorPush ⟨"T1"⟩]).1 (.iteration (Tick.calm 200 (.data "C2 request")))).2 ∧
      ((∃ p ∈ trace ⟨10, 100, true⟩ sampleCreate (run ⟨10, 100, true⟩ sampleCreate (Master.init 5)
          [.generatorPush ⟨"T1"⟩, .iteration (Tick.calm 1 (.data "C1 request"))]).1 [.generatorPush ⟨"T1"⟩],
          FinishesFrom sampleCreate p.1 p.2 "T1" "C1") ∨
        ∃ o, Event.iteration (Tick.calm 200 (.data "C2 request")) = .iteration o ∧
          1 + (⟨10, 100, true⟩ : Config).taskResendTimeout ≤ o.now) :=
  ⟨by decide, by decide, by decide,
    reassignment_after_finish_or_resend_timeout _ _ _ _ _ (by decide) (by decide) (by decide)⟩

end Cyclone
