import Cyclone.Message

/-! `ctrl/critical_section.py` over the lock that `task_queue` exposes, and the two parties
that use that lock: the master's `TASK_REQUEST` section and the task generator.
`CriticalSection.__enter__` acquires and throws the result away; `__exit__` releases
whatever `__enter__` got. The master asks `critical_section.is_locked()`, which that file
does not define, so in the sources the call raises `AttributeError`; the spec (§4.8) has it
report the result of the acquire. `CriticalSection.isLocked` covers both. -/
namespace Cyclone

/-- Modelled from the spec: `task_queue.lock` (`ctrl/shared_queue.py` is not in the sources;
the spec calls it a mutex). Python's `Lock` has no owner: `release` frees a held lock
whoever holds it, and raises `ValueError` on a free one. -/
structure Lock where
  held : Bool
  deriving DecidableEq, Repr

/-- `lock.acquire(True, timeout)` at a lock that stays as it is for the whole timeout: a free
lock is taken, a held one is not. The first component is the call's result. -/
def Lock.acquire (l : Lock) : Bool × Lock :=
  if l.held then (false, l) else (true, ⟨true⟩)

/-- `lock.release()`; `none` is the `ValueError` of a free lock. -/
def Lock.release (l : Lock) : Option Lock :=
  if l.held then some ⟨false⟩ else none

/-- `CriticalSection.__enter__`, with the acquire's result kept for `is_locked()`. -/
def CriticalSection.enter (l : Lock) : Bool × Lock := l.acquire

/-- `CriticalSection.__exit__`: `self._lock.release()`, taken or not. -/
def CriticalSection.exit (l : Lock) : Option Lock := l.release

/-- `critical_section.is_locked()` after an acquire that returned `acquired`: its result where
the class has the method, `none` for the `AttributeError` where it has not. -/
def CriticalSection.isLocked (hasIsLocked acquired : Bool) : Option Bool :=
  if hasIsLocked then some acquired else none

@[simp] theorem isLocked_present (acquired : Bool) :
    CriticalSection.isLocked true acquired = some acquired := rfl

@[simp] theorem isLocked_missing (acquired : Bool) : CriticalSection.isLocked false acquired = none := rfl

@[simp] theorem enter_free : CriticalSection.enter ⟨false⟩ = (true, ⟨true⟩) := rfl

@[simp] theorem enter_held : CriticalSection.enter ⟨true⟩ = (false, ⟨true⟩) := rfl

@[simp] theorem exit_held : CriticalSection.exit ⟨true⟩ = some ⟨false⟩ := rfl

@[simp] theorem exit_free : CriticalSection.exit ⟨false⟩ = none := rfl

/-- Where the master is with respect to `with CriticalSection(task_queue.lock, timeout=1)`;
`inside locked` carries whether the timed acquire succeeded, which the spec's `is_locked()`
reports. -/
inductive MasterAt
  | outside
  | inside (locked : Bool)
  deriving DecidableEq, Repr

/-- Where the generator is with respect to its own `acquire` ... `release` of the lock. -/
inductive GeneratorAt
  | outside
  | inside
  deriving DecidableEq, Repr

structure Parties where
  lock : Lock
  master : MasterAt
  generator : GeneratorAt
  deriving DecidableEq, Repr

def Parties.init : Parties := ⟨⟨false⟩, .outside, .outside⟩

/-- The steps of the two parties. The master's timed acquire is one step: it ends with the
lock taken if the lock is free, and timed out if the generator holds it. The generator's
acquire blocks, so it is a step only at a free lock. -/
inductive Move
  | masterEnter
  | masterExit
  | generatorAcquire
  | generatorRelease
  deriving DecidableEq, Repr

/-- A raise of `release` still leaves the `with` block, so an exit always returns the
party outside; only the lock tells whether it was freed. -/
def Parties.move (p : Parties) : Move → Option Parties
  | .masterEnter =>
    match p.master with
    | .outside =>
      let (locked, lock) := CriticalSection.enter p.lock
      some { p with lock := lock, master := .inside locked }
    | .inside _ => none
  | .masterExit =>
    match p.master with
    | .inside _ => some { p with lock := (CriticalSection.exit p.lock).getD p.lock, master := .outside }
    | .outside => none
  | .generatorAcquire =>
    match p.generator with
    | .outside => if p.lock.held then none else some { p with lock := ⟨true⟩, generator := .inside }
    | .inside => none
  | .generatorRelease =>
    match p.generator with
    | .inside => some { p with lock := (p.lock.release).getD p.lock, generator := .outside }
    | .outside => none

def Parties.run (p : Parties) : List Move → Option Parties
  | [] => some p
  | m :: ms => (p.move m).bind fun q => q.run ms

/-- The master holds the lock: it is inside its section and its acquire succeeded. -/
def Parties.masterHolds (p : Parties) : Bool := p.master == .inside true

/-- The generator holds the lock: it is between its acquire and its release. -/
def Parties.generatorHolds (p : Parties) : Bool := p.generator == .inside

/-- The generator holds the lock through the master's timed acquire; the master's
`__exit__` releases it anyway, and the master's next section takes the lock while the
generator is still inside its own. -/
theorem timed_out_exit_releases_generator_lock :
    Parties.init.run [.generatorAcquire, .masterEnter] =
        some ⟨⟨true⟩, .inside false, .inside⟩ ∧
      Parties.init.run [.generatorAcquire, .masterEnter, .masterExit] =
        some ⟨⟨false⟩, .outside, .inside⟩ ∧
      ((Parties.init.run [.generatorAcquire, .masterEnter, .masterExit, .masterEnter]).map
        fun p => p.masterHolds && p.generatorHolds) = some true := by
  decide

/-! ### Every interleaving -/

/-- The lock is held exactly when a party holds it, and no two parties hold it. -/
def Parties.exclusive (p : Parties) : Bool :=
  p.lock.held == (p.masterHolds || p.generatorHolds) && !(p.masterHolds && p.generatorHolds)

/-- The master leaves a section whose acquire timed out while the generator is inside its
own: `__exit__` releases the lock the generator holds. -/
def Parties.steals (p : Parties) (m : Move) : Bool :=
  m == .masterExit && p.master == .inside false && p.generator == .inside

/-- Some move of the run steals the lock. -/
def Parties.stealsIn (p : Parties) : List Move → Bool
  | [] => false
  | m :: ms => p.steals m || ((p.move m).map fun q => q.stealsIn ms).getD false

/-- Every move but a stealing exit keeps the lock exclusive: the two parties' moves checked
from each of the twelve states. -/
theorem Parties.move_exclusive (p : Parties) (m : Move) (exclusive : p.exclusive = true)
    (honest : p.steals m = false) : (p.move m).all Parties.exclusive = true := by
  obtain ⟨⟨_ | _⟩, _ | ⟨_ | _⟩, _ | _⟩ := p <;> cases m <;> revert exclusive honest <;> decide

theorem Parties.run_exclusive (p : Parties) (ms : List Move) (exclusive : p.exclusive = true)
    (honest : p.stealsIn ms = false) : (p.run ms).all Parties.exclusive = true := by
  induction ms generalizing p with
  | nil => exact exclusive
  | cons m ms ih =>
    simp only [stealsIn, Bool.or_eq_false_iff] at honest
    have kept := p.move_exclusive m exclusive honest.1
    simp only [run]
    cases moved : p.move m with
    | none => rfl
    | some q =>
      rw [moved] at kept honest
      exact ih q kept honest.2

/-- Over every interleaving of the master's one-second sections and the generator's acquire
and release from the start, the task-queue lock is held exactly when one of the two holds it,
and never by both, unless the master leaves a section whose acquire timed out while the
generator is inside its own. -/
theorem task_queue_lock_exclusive (ms : List Move) (honest : Parties.init.stealsIn ms = false) :
    (Parties.init.run ms).all Parties.exclusive = true :=
  Parties.init.run_exclusive ms rfl honest

/-- The master's acquire times out while the generator holds the lock, the generator
releases, and the master's `__exit__` then raises on the free lock: nothing is stolen. -/
theorem task_queue_lock_exclusive_example :
    Parties.init.stealsIn [.generatorAcquire, .masterEnter, .generatorRelease, .masterExit,
      .masterEnter, .masterExit] = false ∧
    (Parties.init.run [.generatorAcquire, .masterEnter, .generatorRelease, .masterExit,
      .masterEnter, .masterExit]).all Parties.exclusive = true :=
  ⟨by decide, task_queue_lock_exclusive _ (by decide)⟩

end Cyclone