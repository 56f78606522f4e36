import Cyclone.Master.Spec

/-! The master's REP socket needs one `send_string` after each `recv_string` that returned
data. Every branch ends in that call, but a pass that raises before it reaches the catch-all
handler, which sends nothing; an empty string takes the poll-timeout branch, which sends
nothing either. -/
namespace Cyclone

def Action.isSend : Action → Bool
  | .send _ => true
  | .push _ => false

/-- The branch made one `send_string` call, unless it raised before reaching it. A raise of
the call itself still counts the call. -/
def Outcome.RepliedOnce (out : Outcome) : Prop :=
  out.actions.countP Action.isSend = if out.raised = none ∨ out.raised = some .send then 1 else 0

section Replies

variable (c : Config) (create : String → Option Message)

theorem send_replied (m : Master) (r : Reply) (o : Tick) : (send m r o).RepliedOnce := by
  cases h : o.sendFails <;> simp [Outcome.RepliedOnce, h, Action.isSend]

theorem raise_replied (m : Master) {e : Error} (other : e ≠ .send) :
    (⟨m, [], some e⟩ : Outcome).RepliedOnce := by
  simp [Outcome.RepliedOnce, other]

theorem taskRequest_replied (m : Master) (o : Tick) (sender : String) :
    (taskRequest c m o sender).RepliedOnce := by
  cases present : c.hasIsLocked
  · rw [taskRequest_missing c m o sender present]; exact raise_replied m (by split <;> decide)
  cases held : o.lockHeld
  · cases queued : m.taskQueue with
    | nil => rw [taskRequest_empty c m o sender present held queued]; exact send_replied ..
    | cons task rest =>
      rw [taskRequest_pop c m o sender present held queued]
      split <;> exact send_replied ..
  · rw [taskRequest_held c m o sender present held]
    split
    · exact send_replied ..
    · exact raise_replied m (by decide)

theorem taskFinished_replied (m : Master) (o : Tick) (sender : String) (tid : Option String) :
    (taskFinished m o sender tid).RepliedOnce := by
  cases tid with
  | none => exact raise_replied m (by decide)
  | some tid =>
    cases known : m.taskStatusDict.get? tid with
    | none => rw [taskFinished_unknown m o sender tid known]; exact raise_replied m (by decide)
    | some item =>
      by_cases owner : sender = item.controller
      · rw [taskFinished_owner m o sender tid known owner]
        cases h : o.sendFails <;> simp [Outcome.RepliedOnce, h, Action.isSend]
      · rw [taskFinished_other m o sender tid known owner]; exact send_replied ..

theorem drain_replied (m : Master) (o : Tick) (sender : String) : (drain m o sender).RepliedOnce := by
  rw [drain_eq]
  split <;> simp [Outcome.RepliedOnce, Action.isSend, *]

theorem onMessage_replied (m : Master) (o : Tick) (msg : Message) (sender : String) :
    (onMessage c m o msg sender).RepliedOnce := by
  cases flag : m.taskDistribution
  · rw [onMessage_off c m o msg sender flag]; exact drain_replied ..
  · cases type : msg.type <;> simp only [onMessage, flag, type, if_true]
    case taskRequest => exact taskRequest_replied ..
    case taskFinished => exact taskFinished_replied ..
    case heartbeat => exact send_replied ..
    all_goals exact raise_replied _ (by decide)

theorem pollTimeout_actions (m : Master) (now : Int) : (pollTimeout c m now).actions = [] := by
  cases flag : m.taskDistribution
  · rw [pollTimeout_off c m now flag]; split <;> rfl
  · rw [pollTimeout_on c m now flag]

/-- In a pass whose `recv_string` returned data, the master calls `send_string` once when
the data is not empty and nothing raised before that call, and not at all otherwise: the
catch-all handler sends no reply. -/
theorem reply_once_unless_raised (m : Master) (o : Tick) (s : String) (running : m.runFlag = true)
    (received : o.received = .data s) :
    (step c create m (.iteration o)).2.countP Action.isSend =
      if s ≠ "" ∧ ((body c create m o).raised = none ∨ (body c create m o).raised = some .send)
      then 1 else 0 := by
  simp only [step, running, if_true, iterate_actions]
  by_cases empty : s = ""
  · have timeout : receive create o = .ok none := by simp [receive, received, empty]
    simp [body_of_timeout c create m o timeout, pollTimeout_actions, empty]
  · cases decoded : create s with
    | none =>
      have failed : receive create o = .error .decode := by simp [receive, received, empty, decoded]
      simp [body_of_error c create m o failed]
    | some msg =>
      cases from? : msg.sender with
      | none =>
        have failed : receive create o = .error .noSender := by
          simp [receive, received, empty, decoded, from?]
        simp [body_of_error c create m o failed]
      | some sender =>
        have ok : receive create o = .ok (some (msg, sender)) := by
          simp [receive, received, empty, decoded, from?]
        rw [body_of_message c create m o ok]
        simpa [empty] using onMessage_replied c m o msg sender

end Replies

theorem reply_once_heartbeat :
    (Master.init 5).runFlag = true ∧
      (Tick.calm 0 (.data "C1 heartbeat")).received = .data "C1 heartbeat" ∧
      (step ⟨0, 0, false⟩ sampleCreate (Master.init 5) (.iteration (Tick.calm 0 (.data "C1 heartbeat")))).2.countP
          Action.isSend =
        if "C1 heartbeat" ≠ "" ∧
          ((body ⟨0, 0, false⟩ sampleCreate (Master.init 5) (Tick.calm 0 (.data "C1 heartbeat"))).raised = none ∨
            (body ⟨0, 0, false⟩ sampleCreate (Master.init 5) (Tick.calm 0 (.data "C1 heartbeat"))).raised =
              some .send)
        then 1 else 0 :=
  ⟨rfl, rfl, reply_once_unless_raised _ _ _ _ "C1 heartbeat" rfl rfl⟩

/-- A string that does not decode is never answered. -/
theorem undecodable_data_unanswered :
    (step ⟨0, 0, false⟩ sampleCreate (Master.init 5) (.iteration (Tick.calm 0 (.data "x")))).2.countP
      Action.isSend = 0 := by
  decide

/-- With an `is_locked()` that reports the acquire, the generator holds `task_queue.lock`
through the master's one-second acquire and frees it before the master's section ends:
`__exit__` releases a free lock, which raises, and the `TASK_REQUEST` gets no
`WaitCommand`. -/
theorem timed_out_request_unanswered :
    (step ⟨0, 0, true⟩ sampleCreate (Master.init 5)
      (.iteration { Tick.calm 0 (.data "C1 request") with lockHeld := true })).2 = [] ∧
    (step ⟨0, 0, true⟩ sampleCreate (Master.init 5)
      (.iteration { Tick.calm 0 (.data "C1 request") with lockHeld := true })).1.errorCount = 1 := by
  decide

end Cyclone
