import Cyclone.Message
import Cyclone.Utf8

/-! `worker.py`: the slot a worker owns in the shared worker-state table, and `Worker.run`
as the calls it makes, each with the slot after it. The tasks `task_queue.pop()` returns and
whether each `task.execute()` raised are the run's input; `execute` is caught and logged either
way. `SIGUSR1` only lowers `run_flag`, which ends the loop after the round under way, so the
rounds of a run are the tasks popped before it. An exception out of a `with` block leaves the
loop and ends in `os._exit(1)`. Logging is left out. -/
namespace Cyclone

/-- `WorkerState.NOT_READY`. -/
def WorkerState.notReady : Int := 0

/-- `WorkerState.READY`. -/
def WorkerState.ready : Int := 1

/-- `WorkerState.EXECUTING`. -/
def WorkerState.executing : Int := 2

/-- `str.encode()`: the UTF-8 bytes of a string. -/
def encode (s : String) : List UInt8 := s.toUTF8.data.toList

@[simp] theorem encode_empty : encode "" = [] := rfl

/-- `multiprocessing.RawArray('c', size)`: `size` bytes of shared memory, zero when created. -/
structure RawArray (size : Nat) where
  raw : List UInt8
  length_raw : raw.length = size

def RawArray.zero (size : Nat) : RawArray size := ⟨List.replicate size 0, List.length_replicate size 0⟩

/-- The `value` getter of a `ctypes` char array: the bytes before the first NUL, or all of them. -/
def RawArray.value (a : RawArray size) : List UInt8 := a.raw.takeWhile (· != 0)

/-- The `value` setter: `ValueError("byte string too long")` past `size` bytes; otherwise the
bytes are copied to the front and followed by a NUL when there is room, and the bytes after
that NUL stay as they were. -/
def RawArray.setValue (a : RawArray size) (bytes : List UInt8) : Except String (RawArray size) :=
  if long : size < bytes.length then .error "byte string too long"
  else if short : bytes.length < size then
    .ok ⟨bytes ++ 0 :: a.raw.drop (bytes.length + 1), by simp [a.length_raw]; omega⟩
  else .ok ⟨bytes, by omega⟩

theorem RawArray.setValue_fits (a : RawArray size) {bytes : List UInt8} (fits : bytes.length ≤ size)
    (clean : 0 ∉ bytes) : ∃ a', a.setValue bytes = .ok a' ∧ a'.value = bytes := by
  have kept : ∀ b ∈ bytes, (b != 0) = true := fun b mem => by
    simpa using ne_of_mem_of_not_mem mem clean
  unfold setValue
  rw [dif_neg (by omega)]
  split
  · refine ⟨_, rfl, ?_⟩
    rw [value, List.takeWhile_append_of_pos kept, List.takeWhile_cons_of_neg (by simp), List.append_nil]
  · exact ⟨_, rfl, List.takeWhile_eq_self_iff.mpr kept⟩

theorem RawArray.setValue_full (a : RawArray size) {bytes : List UInt8} (full : bytes.length = size) :
    a.setValue bytes = .ok ⟨bytes, full⟩ := by
  unfold setValue
  rw [dif_neg (by omega), dif_neg (by omega)]

/-- `WorkerStateTableItem`: `_state` a `c_int`, `_tid` a 64-character `RawArray`, and
`_timestamp` a `c_uint`. -/
structure WorkerStateTableItem where
  state : Int
  tid : RawArray 64
  timestamp : UInt32

namespace WorkerStateTableItem

/-- `WorkerStateTableItem()`. -/
def init : WorkerStateTableItem := ⟨WorkerState.notReady, RawArray.zero 64, 0⟩

def getState (item : WorkerStateTableItem) : Int := item.state

/-- `get_tid`: `_tid.value.decode()`; `none` is a `UnicodeDecodeError`. -/
def getTid (item : WorkerStateTableItem) : Option String :=
  String.fromUTF8? ⟨item.tid.value.toArray⟩

def getTimestamp (item : WorkerStateTableItem) : UInt32 := item.timestamp

def setState (item : WorkerStateTableItem) (state : Int) : WorkerStateTableItem := { item with state }

def setTid (item : WorkerStateTableItem) (taskName : String) : Except String WorkerStateTableItem := do
  let tid ← item.tid.setValue (encode taskName)
  pure { item with tid }

/-- `set_timestamp`: a `c_uint` keeps the value modulo `2 ^ 32`. -/
def setTimestamp (item : WorkerStateTableItem) (timestamp : Nat) : WorkerStateTableItem :=
  { item with timestamp := timestamp.toUInt32 }

/-- The triple a reader gets from the slot: `get_state`, the bytes `get_tid` decodes, and
`get_timestamp`. -/
def triple (item : WorkerStateTableItem) : Int × List UInt8 × UInt32 :=
  (item.getState, item.tid.value, item.getTimestamp)

end WorkerStateTableItem

/-- A write to the worker's slot. -/
inductive Write
  | setState (state : Int)
  | setTid (taskName : String)
  | setTimestamp (timestamp : Nat)
  deriving DecidableEq

def WorkerStateTableItem.write (item : WorkerStateTableItem) : Write → Except String WorkerStateTableItem
  | .setState state => .ok (item.setState state)
  | .setTid taskName => item.setTid taskName
  | .setTimestamp timestamp => .ok (item.setTimestamp timestamp)

/-- The two locks the worker takes. -/
inductive Shared
  | lockWorkerStateTable
  | condResultQueue
  deriving DecidableEq

/-- What `Worker.run` does on the outside. -/
inductive Call
  | acquire (lock : Shared)
  | release (lock : Shared)
  | write (w : Write)
  | pop (tid : String)
  | execute (tid : String) (raised : Bool)
  | push (tid : String)
  | notify
  | exit (status : Nat)
  deriving DecidableEq

/-- One pass of `while self.run_flag:`: the task popped, whether its `execute()` raised, and
the `int(time.time())` readings of its two table sections. -/
structure Round where
  task : Task
  raises : Bool
  started : Nat
  finished : Nat

/-- The writes of a table section, in order until one raises: each call with the slot after
it, the slot at the end, and whether a write raised. -/
def applyWrites (item : WorkerStateTableItem) :
    List Write → List (Call × WorkerStateTableItem) × WorkerStateTableItem × Bool
  | [] => ([], item, false)
  | w :: ws =>
    match item.write w with
    | .ok item' =>
      let rest := applyWrites item' ws
      ((.write w, item') :: rest.1, rest.2.1, rest.2.2)
    | .error _ => ([(.write w, item)], item, true)

/-- `with CriticalSection(self.lock_worker_state_table):` around `writes`; `__exit__` releases
the lock also when a write raised. -/
def tableSection (item : WorkerStateTableItem) (writes : List Write) :
    List (Call × WorkerStateTableItem) × WorkerStateTableItem × Bool :=
  let done := applyWrites item writes
  ((.acquire .lockWorkerStateTable, item) :: done.1 ++ [(.release .lockWorkerStateTable, done.2.1)],
    done.2.1, done.2.2)

/-- `while self.run_flag:` over the rounds, then `os._exit(0)`. -/
def Worker.loop (item : WorkerStateTableItem) : List Round → List (Call × WorkerStateTableItem)
  | [] => [(.exit 0, item)]
  | r :: rs =>
    let executing := tableSection item
      [.setState WorkerState.executing, .setTid r.task.tid, .setTimestamp r.started]
    (.pop r.task.tid, item) :: executing.1 ++
      if executing.2.2 then [(.exit 1, executing.2.1)]
      else
        let item := executing.2.1
        let ready := tableSection item [.setState WorkerState.ready, .setTid "", .setTimestamp r.finished]
        [(.execute r.task.tid r.raises, item), (.acquire .condResultQueue, item),
          (.push r.task.tid, item), (.notify, item), (.release .condResultQueue, item)] ++ ready.1 ++
          if ready.2.2 then [(.exit 1, ready.2.1)] else Worker.loop ready.2.1 rs

/-- `Worker.run` on the slot `item`, `start` being the `int(time.time())` of its first
section. -/
def Worker.run (item : WorkerStateTableItem) (start : Nat) (rounds : List Round) :
    List (Call × WorkerStateTableItem) :=
  let first := tableSection item [.setState WorkerState.ready, .setTimestamp start]
  first.1 ++ if first.2.2 then [(.exit 1, first.2.1)] else Worker.loop first.2.1 rounds

def Call.pushed? : Call → Option String
  | .push tid => some tid
  | _ => none

/-- What readers holding `lock_worker_state_table` can see: the slot at each release of the
lock by the worker. -/
def views (log : List (Call × WorkerStateTableItem)) : List (Int × List UInt8 × UInt32) :=
  log.filterMap fun p => if p.1 = .release .lockWorkerStateTable then some p.2.triple else none

/-- What the worker holds while it runs, and what it owes the result queue. -/
structure Holding where
  table : Bool
  cond : Bool
  /-- A push still waiting for its `notify`. -/
  unnotified : Bool
  /-- The popped task whose `tid` is not pushed yet. -/
  owed : Option String
  deriving DecidableEq

def Holding.free : Holding := ⟨false, false, false, none⟩

/-- The discipline of the worker's calls towards the processes that share its slot and
`result_queue`: slot writes under the table lock, a push under `cond_result_queue` for the task
popped last, then one `notify` before the condition is released, and no `READY`, pop or exit
while a popped task is not pushed. -/
def Holding.next (h : Holding) : Call → Option Holding
  | .acquire .lockWorkerStateTable => if h.table then none else some { h with table := true }
  | .release .lockWorkerStateTable => if h.table then some { h with table := false } else none
  | .acquire .condResultQueue => if h.cond then none else some { h with cond := true }
  | .release .condResultQueue => if h.cond && !h.unnotified then some { h with cond := false } else none
  | .write (.setState state) =>
    if h.table && (state != WorkerState.ready || h.owed.isNone) then some h else none
  | .write _ => if h.table then some h else none
  | .pop tid => if h.owed.isNone then some { h with owed := some tid } else none
  | .execute _ _ => some h
  | .push tid =>
    if h.cond && !h.unnotified && h.owed == some tid then some { h with unnotified := true, owed := none }
    else none
  | .notify => if h.cond && h.unnotified then some { h with unnotified := false } else none
  | .exit _ => if h.owed.isNone then some h else none

def Holding.replay (h : Holding) : List Call → Option Holding
  | [] => some h
  | c :: cs => (h.next c).bind fun h' => h'.replay cs

theorem Holding.replay_append (h : Holding) (cs cs' : List Call) :
    h.replay (cs ++ cs') = (h.replay cs).bind fun h' => h'.replay cs' := by
  induction cs generalizing h with
  | nil => rfl
  | cons c cs ih =>
    show ((h.next c).bind fun h' => h'.replay (cs ++ cs')) =
      ((h.next c).bind fun h' => h'.replay cs).bind fun h' => h'.replay cs'
    simp only [ih, Option.bind_assoc]

theorem Holding.replay_of_fixed (h : Holding) (cs : List Call) (fixed : ∀ c ∈ cs, h.next c = some h) :
    h.replay cs = some h := by
  induction cs with
  | nil => rfl
  | cons c cs ih =>
    simp only [List.forall_mem_cons] at fixed
    simp only [replay, fixed.1, Option.some_bind, ih fixed.2]

/-- The triples a round publishes: `EXECUTING` with its task's `tid` and start time, then
`READY` with no `tid` and its end time. -/
def Round.published (r : Round) : List (Int × List UInt8 × UInt32) :=
  [(WorkerState.executing, encode r.task.tid, r.started.toUInt32),
    (WorkerState.ready, [], r.finished.toUInt32)]

/-- A `tid` the 64-byte slot holds and gives back: at most 64 bytes of UTF-8 and no NUL. -/
def Fits (tid : String) : Prop := (encode tid).length ≤ 64 ∧ 0 ∉ encode tid

instance (tid : String) : Decidable (Fits tid) := inferInstanceAs (Decidable (_ ∧ _))

/-- `set_tid` with a `tid` that fits: the slot's value is the `tid`'s bytes, and a `tid` of 64
bytes fills the slot with no NUL after it. -/
theorem WorkerStateTableItem.setTid_fits (item : WorkerStateTableItem) {taskName : String}
    (fits : Fits taskName) : ∃ item', item.setTid taskName = .ok item' ∧
      item'.tid.value = encode taskName ∧ ((encode taskName).length = 64 → item'.tid.raw = encode taskName) := by
  obtain ⟨tid, set, value⟩ := item.tid.setValue_fits fits.1 fits.2
  refine ⟨{ item with tid }, by simp [WorkerStateTableItem.setTid, set], value, fun full => ?_⟩
  cases set.symm.trans (item.tid.setValue_full full)
  rfl

theorem WorkerStateTableItem.foldlM_setTid_ok (item : WorkerStateTableItem) (taskNames : List String)
    (fits : ∀ t ∈ taskNames, Fits t) : ∃ item', taskNames.foldlM WorkerStateTableItem.setTid item = .ok item' := by
  induction taskNames generalizing item with
  | nil => exact ⟨item, rfl⟩
  | cons t ts ih =>
    obtain ⟨mid, set, -⟩ := item.setTid_fits (fits t (List.mem_cons_self t ts))
    rw [List.foldlM_cons, set]
    exact ih mid fun t' mem => fits t' (List.mem_cons_of_mem t mem)

/-- `set_tid(t_1)`, ..., `set_tid(t_n)` on a slot in any state, each `tid` fitting: none raises
and `get_tid` gives `t_n` back. It reads the slot's value, the bytes of `t_n` and none of an
earlier, longer `tid`, whose bytes past the new NUL stay in the slot; a `t_n` of 64 bytes fills
the slot whole. -/
theorem get_tid_returns_last_set_tid (item : WorkerStateTableItem) (earlier : List String) (last : String)
    (fits : ∀ t ∈ earlier ++ [last], Fits t) :
    ∃ item', (earlier ++ [last]).foldlM WorkerStateTableItem.setTid item = .ok item' ∧
      item'.getTid = some last ∧ item'.tid.value = encode last ∧
      ((encode last).length = 64 → item'.tid.raw = encode last) := by
  obtain ⟨mid, reached⟩ := item.foldlM_setTid_ok earlier fun t mem => fits t (List.mem_append_left _ mem)
  obtain ⟨item', set, value, whole⟩ :=
    mid.setTid_fits (fits last (List.mem_append_right _ (List.mem_singleton_self _)))
  refine ⟨item', ?_, ?_, value, whole⟩
  · simpa [List.foldlM_append, reached] using set
  · rw [WorkerStateTableItem.getTid, value]
    exact fromUTF8?_toUTF8 last

theorem get_tid_after_shorter_tid :
    (∀ t ∈ ["abcdef"] ++ ["ab"], Fits t) ∧
      ∃ item', (["abcdef"] ++ ["ab"]).foldlM WorkerStateTableItem.setTid .init = .ok item' ∧
        item'.getTid = some "ab" ∧ item'.tid.value = encode "ab" ∧
        ((encode "ab").length = 64 → item'.tid.raw = encode "ab") :=
  ⟨by decide, get_tid_returns_last_set_tid .init ["abcdef"] "ab" (by decide)⟩

/-- The bytes past the NUL are not cleared: after `set_tid("abcdef")` and `set_tid("ab")` the
slot still holds the `d`, `e` and `f` of the first `tid`. -/
theorem earlier_tid_bytes_stay_in_slot :
    (["abcdef", "ab"].foldlM WorkerStateTableItem.setTid .init).map (·.tid.raw.take 7) =
      .ok [97, 98, 0, 100, 101, 102, 0] := rfl

theorem applyWrites_writes (item : WorkerStateTableItem) (ws : List Write) :
    ∀ p ∈ (applyWrites item ws).1, ∃ w ∈ ws, p.1 = .write w := by
  induction ws generalizing item with
  | nil => simp [applyWrites]
  | cons w ws ih =>
    unfold applyWrites
    split
    · intro p mem
      rcases List.mem_cons.mp mem with rfl | mem
      · exact ⟨w, List.mem_cons_self w ws, rfl⟩
      · obtain ⟨w', mem', same⟩ := ih _ p mem
        exact ⟨w', List.mem_cons_of_mem w mem', same⟩
    · simp

theorem tableSection_pushes (item : WorkerStateTableItem) (ws : List Write) :
    (tableSection item ws).1.filterMap (·.1.pushed?) = [] := by
  refine List.filterMap_eq_nil_iff.mpr fun p mem => ?_
  simp only [tableSection, List.cons_append, List.mem_cons, List.mem_append, List.mem_singleton,
    List.not_mem_nil, or_false] at mem
  rcases mem with rfl | made | rfl
  · rfl
  · obtain ⟨w, -, same⟩ := applyWrites_writes item ws p made
    rw [same]; rfl
  · rfl

theorem tableSection_views (item : WorkerStateTableItem) (ws : List Write) :
    views (tableSection item ws).1 = [(tableSection item ws).2.1.triple] := by
  simp only [views, tableSection, List.cons_append, List.filterMap_cons, List.filterMap_append,
    List.filterMap_eq_nil_iff]
  have none : (applyWrites item ws).1.filterMap
      (fun p => if p.1 = .release .lockWorkerStateTable then some p.2.triple else none) = [] := by
    refine List.filterMap_eq_nil_iff.mpr fun p mem => ?_
    obtain ⟨w, -, same⟩ := applyWrites_writes item ws p mem
    simp [same]
  simp [none]

/-- A table section takes and frees the table lock, and writes `READY` only when no popped
task is owed a push. -/
theorem tableSection_replay (item : WorkerStateTableItem) (ws : List Write) (h : Holding)
    (free : h.table = false) (allowed : h.owed = none ∨ Write.setState WorkerState.ready ∉ ws) :
    h.replay ((tableSection item ws).1.map (·.1)) = some h := by
  have inside : (⟨true, h.cond, h.unnotified, h.owed⟩ : Holding).replay
      ((applyWrites item ws).1.map (·.1)) = some ⟨true, h.cond, h.unnotified, h.owed⟩ := by
    refine Holding.replay_of_fixed _ _ fun c mem => ?_
    obtain ⟨p, made, rfl⟩ := List.mem_map.mp mem
    obtain ⟨w, listed, same⟩ := applyWrites_writes item ws p made
    rw [same]
    rcases w with state | _ | _ <;> simp only [Holding.next, if_true, Bool.true_and]
    by_cases ready : state = WorkerState.ready
    · subst ready
      have owed : h.owed = none := allowed.resolve_right (not_not.mpr listed)
      simp [owed]
    · simp [ready]
  cases h
  simp only at free
  subst free
  simp [tableSection, Holding.replay_append, Holding.replay, Holding.next, inside]

/-- A table section of three writes whose `tid` fits: nothing raises and the slot ends as
the three writes say. -/
theorem tableSection_fits (item : WorkerStateTableItem) (state : Int) {taskName : String}
    (fits : Fits taskName) (timestamp : Nat) :
    (tableSection item [.setState state, .setTid taskName, .setTimestamp timestamp]).2.2 = false ∧
      (tableSection item [.setState state, .setTid taskName, .setTimestamp timestamp]).2.1.triple =
        (state, encode taskName, timestamp.toUInt32) := by
  obtain ⟨tid, set, value⟩ := item.tid.setValue_fits fits.1 fits.2
  have stored : (item.setState state).setTid taskName = .ok { item with state, tid } := by
    simp [WorkerStateTableItem.setTid, WorkerStateTableItem.setState, set]
  simp [tableSection, applyWrites, WorkerStateTableItem.write, stored, WorkerStateTableItem.triple,
    WorkerStateTableItem.getState, WorkerStateTableItem.getTimestamp, WorkerStateTableItem.setTimestamp,
    value]

@[simp] theorem views_nil : views [] = [] := rfl

@[simp] theorem views_cons (p : Call × WorkerStateTableItem) (log : List (Call × WorkerStateTableItem)) :
    views (p :: log) =
      (if p.1 = .release .lockWorkerStateTable then [p.2.triple] else []) ++ views log := by
  by_cases release : p.1 = .release .lockWorkerStateTable <;> simp [views, release]

@[simp] theorem views_append (log log' : List (Call × WorkerStateTableItem)) :
    views (log ++ log') = views log ++ views log' :=
  List.filterMap_append ..

/-- With every `tid` fitting, the loop pushes each popped `tid` once and in order, keeps the
order of `Holding.next`, and publishes each round's two triples. -/
theorem loop_fits (item : WorkerStateTableItem) (rounds : List Round)
    (fits : ∀ r ∈ rounds, Fits r.task.tid) :
    (Worker.loop item rounds).filterMap (·.1.pushed?) = rounds.map (·.task.tid) ∧
      Holding.free.replay ((Worker.loop item rounds).map (·.1)) = some Holding.free ∧
      views (Worker.loop item rounds) = rounds.flatMap Round.published := by
  induction rounds generalizing item with
  | nil => simp [Worker.loop, Holding.replay, Holding.next, Holding.free, Call.pushed?]
  | cons r rs ih =>
    simp only [List.forall_mem_cons] at fits
    obtain ⟨raisedE, tripleE⟩ := tableSection_fits item WorkerState.executing fits.1 r.started
    have pushesE := tableSection_pushes item
      [.setState WorkerState.executing, .setTid r.task.tid, .setTimestamp r.started]
    have viewsE := tableSection_views item
      [.setState WorkerState.executing, .setTid r.task.tid, .setTimestamp r.started]
    have replayE := tableSection_replay item
      [.setState WorkerState.executing, .setTid r.task.tid, .setTimestamp r.started]
      ⟨false, false, false, some r.task.tid⟩ rfl (.inr (by simp [WorkerState.executing, WorkerState.ready]))
    simp only [Worker.loop]
    generalize tableSection item
      [.setState WorkerState.executing, .setTid r.task.tid, .setTimestamp r.started] = E at *
    obtain ⟨raisedR, tripleR⟩ := tableSection_fits E.2.1 WorkerState.ready (by decide : Fits "") r.finished
    have pushesR := tableSection_pushes E.2.1 [.setState WorkerState.ready, .setTid "", .setTimestamp r.finished]
    have viewsR := tableSection_views E.2.1 [.setState WorkerState.ready, .setTid "", .setTimestamp r.finished]
    have replayR := tableSection_replay E.2.1 [.setState WorkerState.ready, .setTid "", .setTimestamp r.finished]
      Holding.free rfl (.inl rfl)
    generalize tableSection E.2.1 [.setState WorkerState.ready, .setTid "", .setTimestamp r.finished] = R at *
    obtain ⟨pushes, replay, published⟩ := ih R.2.1 fits.2
    simp only [raisedE, raisedR, if_false, Bool.false_eq_true]
    refine ⟨?_, ?_, ?_⟩
    · simp only [List.filterMap_append, List.filterMap_cons, pushesE, pushesR, pushes]
      rfl
    · simp only [Holding.free] at replayR replay
      simp [Holding.replay_append, Holding.replay, Holding.next, Holding.free, replayE, replayR, replay]
    · simp [viewsE, viewsR, tripleE, tripleR, published, Round.published]

/-- Whether the worker holds `lock_worker_state_table` after the call; `none` for a write to
the slot made without it. -/
def tableStep (held : Bool) : Call → Option Bool
  | .acquire .lockWorkerStateTable => some true
  | .release .lockWorkerStateTable => some false
  | .write _ => if held then some held else none
  | _ => some held

theorem tableStep_writes {cs : List Call} (writes : ∀ c ∈ cs, ∃ w, c = .write w) :
    cs.foldlM tableStep true = some true := by
  induction cs with
  | nil => rfl
  | cons c cs ih =>
    obtain ⟨w, rfl⟩ := writes c (List.mem_cons_self c cs)
    simpa [tableStep] using ih fun c mem => writes c (List.mem_cons_of_mem _ mem)

theorem tableSection_tableStep (item : WorkerStateTableItem) (ws : List Write) (held : Bool) :
    ((tableSection item ws).1.map (·.1)).foldlM tableStep held = some false := by
  have writes : ∀ c ∈ (applyWrites item ws).1.map (·.1), ∃ w, c = .write w := fun c mem => by
    obtain ⟨p, made, rfl⟩ := List.mem_map.mp mem
    obtain ⟨w, -, same⟩ := applyWrites_writes item ws p made
    exact ⟨w, same⟩
  simp [tableSection, tableStep, tableStep_writes writes]

/-- Whatever the `tid`s, every write to the slot is made while the worker holds
`lock_worker_state_table`, and the lock is free when the worker exits: a `set_tid` that raises
still leaves through the section's `__exit__`. -/
theorem worker_writes_under_table_lock (item : WorkerStateTableItem) (start : Nat)
    (rounds : List Round) :
    ((Worker.run item start rounds).map (·.1)).foldlM tableStep false = some false := by
  have loop : ∀ item, ((Worker.loop item rounds).map (·.1)).foldlM tableStep false = some false := by
    induction rounds with
    | nil => intro _; rfl
    | cons r rs ih =>
      intro item
      simp only [Worker.loop, List.map_cons, List.map_append, List.foldlM_cons, List.foldlM_append,
        tableSection_tableStep]
      split
      · rfl
      · simp only [List.map_cons, List.map_append, List.foldlM_cons, List.foldlM_append,
          tableSection_tableStep]
        split
        · rfl
        · simpa [tableStep] using ih _
  simp only [Worker.run, List.map_append, List.foldlM_append, tableSection_tableStep]
  split
  · rfl
  · simpa using loop _

/-- From a fresh slot, when every popped `tid` fits the slot: each `tid` is pushed once, in pop
order; the calls keep the order of `Holding.next` (slot writes under the table lock, each push
under `cond_result_queue` followed by one `notify`, the push before the slot is `READY` again);
and readers see `READY` and then, per round, `EXECUTING` with that round's `tid` and `READY`. -/
theorem worker_reports_fitting_tasks (start : Nat) (rounds : List Round)
    (fits : ∀ r ∈ rounds, Fits r.task.tid) :
    (Worker.run .init start rounds).filterMap (·.1.pushed?) = rounds.map (·.task.tid) ∧
      Holding.free.replay ((Worker.run .init start rounds).map (·.1)) = some Holding.free ∧
      views (Worker.run .init start rounds) =
        (WorkerState.ready, [], start.toUInt32) :: rounds.flatMap Round.published := by
  have raised : (tableSection .init [.setState WorkerState.ready, .setTimestamp start]).2.2 = false := rfl
  have triple : (tableSection .init [.setState WorkerState.ready, .setTimestamp start]).2.1.triple =
      (WorkerState.ready, [], start.toUInt32) := rfl
  have pushesF := tableSection_pushes .init [.setState WorkerState.ready, .setTimestamp start]
  have viewsF := tableSection_views .init [.setState WorkerState.ready, .setTimestamp start]
  have replayF := tableSection_replay .init [.setState WorkerState.ready, .setTimestamp start]
    Holding.free rfl (.inl rfl)
  simp only [Worker.run]
  generalize tableSection .init [.setState WorkerState.ready, .setTimestamp start] = F at *
  obtain ⟨pushes, replay, published⟩ := loop_fits F.2.1 rounds fits
  simp only [raised, if_false, Bool.false_eq_true]
  refine ⟨?_, ?_, ?_⟩
  · simp only [List.filterMap_append, pushesF, pushes, List.nil_append]
  · simp only [List.map_append, Holding.replay_append, replayF, replay, Option.some_bind]
  · simp [viewsF, triple, published]

theorem worker_reports_one_task :
    (∀ r ∈ [(⟨⟨"T1"⟩, true, 1, 2⟩ : Round)], Fits r.task.tid) ∧
      (Worker.run .init 0 [⟨⟨"T1"⟩, true, 1, 2⟩]).filterMap (·.1.pushed?) =
        [(⟨⟨"T1"⟩, true, 1, 2⟩ : Round)].map (·.task.tid) ∧
      Holding.free.replay ((Worker.run .init 0 [⟨⟨"T1"⟩, true, 1, 2⟩]).map (·.1)) = some Holding.free ∧
      views (Worker.run .init 0 [⟨⟨"T1"⟩, true, 1, 2⟩]) =
        (WorkerState.ready, [], (0 : Nat).toUInt32) ::
          [(⟨⟨"T1"⟩, true, 1, 2⟩ : Round)].flatMap Round.published :=
  ⟨by decide, worker_reports_fitting_tasks 0 _ (by decide)⟩

/-- A popped `tid` of 65 bytes: `set_tid` raises `ValueError` inside the section, after
`set_state(EXECUTING)`; the lock is released, the worker exits with status 1, the task is never
pushed, and readers see `EXECUTING` with an empty `tid` and the old time. A `tid` with a NUL
fits but is read back cut at the NUL. -/
theorem long_tid_never_reported :
    (Worker.run .init 0 [⟨⟨⟨List.replicate 65 'x'⟩⟩, false, 1, 2⟩]).filterMap (·.1.pushed?) = [] ∧
      Holding.free.replay ((Worker.run .init 0 [⟨⟨⟨List.replicate 65 'x'⟩⟩, false, 1, 2⟩]).map (·.1)) =
        none ∧
      views (Worker.run .init 0 [⟨⟨⟨List.replicate 65 'x'⟩⟩, false, 1, 2⟩]) =
        [(WorkerState.ready, [], 0), (WorkerState.executing, [], 0)] ∧
      views (Worker.run .init 0 [⟨⟨"a\x00b"⟩, false, 1, 2⟩]) =
        [(WorkerState.ready, [], 0), (WorkerState.executing, [97], 1), (WorkerState.ready, [], 2)] := by
  decide

/-! ### Any `tid` -/

/-- `set_tid` raises in an `EXECUTING` section exactly when the `tid` is longer than the
slot's 64 bytes. -/
theorem tableSection_raised (item : WorkerStateTableItem) (state : Int) (taskName : String)
    (timestamp : Nat) :
    (tableSection item [.setState state, .setTid taskName, .setTimestamp timestamp]).2.2 =
      decide (64 < (encode taskName).length) := by
  by_cases long : 64 < (encode taskName).length
  · simp [tableSection, applyWrites, WorkerStateTableItem.write, WorkerStateTableItem.setTid,
      RawArray.setValue, long]
  · obtain ⟨tid, set⟩ : ∃ tid, (item.setState state).tid.setValue (encode taskName) = .ok tid := by
      unfold RawArray.setValue
      rw [dif_neg long]
      split <;> exact ⟨_, rfl⟩
    simp [tableSection, applyWrites, WorkerStateTableItem.write, WorkerStateTableItem.setTid, set, long]

theorem loop_exit (item : WorkerStateTableItem) (rounds : List Round) :
    (Worker.loop item rounds).filterMap (·.1.pushed?) =
        (rounds.takeWhile fun r => (encode r.task.tid).length ≤ 64).map (·.task.tid) ∧
      ((Worker.loop item rounds).map (·.1)).getLast? =
        some (.exit (if rounds.all fun r => (encode r.task.tid).length ≤ 64 then 0 else 1)) := by
  induction rounds generalizing item with
  | nil => exact ⟨rfl, rfl⟩
  | cons r rs ih =>
    have pushesE := tableSection_pushes item
      [.setState WorkerState.executing, .setTid r.task.tid, .setTimestamp r.started]
    have raisedE := tableSection_raised item WorkerState.executing r.task.tid r.started
    simp only [Worker.loop]
    generalize tableSection item
      [.setState WorkerState.executing, .setTid r.task.tid, .setTimestamp r.started] = E at *
    by_cases fits : (encode r.task.tid).length ≤ 64
    · have raisedR : (tableSection E.2.1
          [.setState WorkerState.ready, .setTid "", .setTimestamp r.finished]).2.2 = false := by
        rw [tableSection_raised]; rfl
      have pushesR := tableSection_pushes E.2.1 [.setState WorkerState.ready, .setTid "", .setTimestamp r.finished]
      generalize tableSection E.2.1 [.setState WorkerState.ready, .setTid "", .setTimestamp r.finished] = R at *
      obtain ⟨pushes, last⟩ := ih R.2.1
      simp only [raisedE, raisedR, Nat.not_lt.mpr fits, decide_False, Bool.false_eq_true, if_false]
      refine ⟨?_, by simp [List.getLast?_cons, last, fits]⟩
      simp only [List.filterMap_cons, List.filterMap_append, pushesE, pushesR, pushes]
      simp [Call.pushed?, fits]
    · simp only [raisedE, Nat.not_le.mp fits, decide_True, if_true]
      refine ⟨?_, by simp [List.getLast?_cons, fits]⟩
      simp only [List.filterMap_cons, List.filterMap_append, pushesE]
      simp [Call.pushed?, fits]

/-- From any slot and over any popped tasks, whatever their `tid`s: the worker pushes, in pop
order, the `tid`s of the tasks before the first whose `tid` is longer than 64 bytes of UTF-8,
and its last call is `os._exit(1)` if there is such a task, whose `set_tid` raised, and
`os._exit(0)` after the last task otherwise. -/
theorem worker_exit_status (item : WorkerStateTableItem) (start : Nat) (rounds : List Round) :
    (Worker.run item start rounds).filterMap (·.1.pushed?) =
        (rounds.takeWhile fun r => (encode r.task.tid).length ≤ 64).map (·.task.tid) ∧
      ((Worker.run item start rounds).map (·.1)).getLast? =
        some (.exit (if rounds.all fun r => (encode r.task.tid).length ≤ 64 then 0 else 1)) := by
  have pushesF := tableSection_pushes item [.setState WorkerState.ready, .setTimestamp start]
  have raisedF : (tableSection item [.setState WorkerState.ready, .setTimestamp start]).2.2 = false := rfl
  simp only [Worker.run]
  generalize tableSection item [.setState WorkerState.ready, .setTimestamp start] = F at *
  obtain ⟨pushes, last⟩ := loop_exit F.2.1 rounds
  simp only [raisedF, Bool.false_eq_true, if_false]
  exact ⟨by simp [pushesF, pushes], by simp [last]⟩

end Cyclone
