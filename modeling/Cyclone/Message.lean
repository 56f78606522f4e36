import Cyclone.PyDict

/-! What the master reads and writes besides its dictionaries. The `msg` package and
`ctrl/task_status_item.py` are not in the sources, so these types follow the spec (§3, §4.1);
`MessageFactory.create` itself stays a parameter of the master's model. Only `tid` of a task
is read by the dispatch core, so a task is its `tid`. -/
namespace Cyclone

/-- Modelled from the spec: `MessageType`, the closed set of §4.1. -/
inductive MessageType
  | taskRequest | taskFinished | heartbeat | taskAssign | waitCommand | acknowledge | exitCommand
  deriving DecidableEq, Repr

/-- Modelled from the spec: a message object as `MessageFactory.create` returns it. An
attribute the object does not have is `none`, and reading it raises `AttributeError`
(the master's own comment: "sender is not set everywhere"). -/
structure Message where
  type : MessageType
  sender : Option String
  tid : Option String
  deriving DecidableEq, Repr

/-- Modelled from the spec: a task, of which the dispatch core addresses only `tid`. -/
structure Task where
  tid : String
  deriving DecidableEq, Repr

/-- Modelled from the spec: `TaskAssign(task)`, `WaitCommand(duration)`, `Acknowledge()` and
`ExitCommand()`, the messages the master sends. -/
inductive Reply
  | taskAssign (task : Task)
  | waitCommand (duration : Int)
  | acknowledge
  | exitCommand
  deriving DecidableEq, Repr

/-- Modelled from the spec: `TaskState`, `{ASSIGNED, FINISHED}`. -/
inductive TaskState
  | assigned | finished
  deriving DecidableEq, Repr

/-- Modelled from the spec: `TaskStatusItem(tid, state, controller, timestamp)`. -/
structure TaskStatusItem where
  tid : String
  state : TaskState
  controller : String
  timestamp : Int
  deriving DecidableEq, Repr

end Cyclone
