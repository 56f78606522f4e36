import Cyclone.Master.Shutdown

/-! What `controller_heartbeat_dict` holds. Each decoded message upserts its sender with the
pass's `int(time.time())` before the branch on the message runs; afterwards the map only
loses entries (the drain's `pop` and the prune). So an entry is the time of its controller's
last message (`heartbeat_of_last_message`), and once distribution is off a controller enters
the map for good only when its `ExitCommand` cannot be sent (`drain_keeps_only_unsent`). -/
namespace Cyclone

section Heartbeat

variable (c : Config) (create : String → Option Message)

theorem pollTimeout_heartbeat (m : Master) (now : Int) {k : String} {t : Int}
    (tracked : (pollTimeout c m now).master.controllerHeartbeatDict.get? k = some t) :
    m.controllerHeartbeatDict.get? k = some t := by
  cases flag : m.taskDistribution
  · rw [pollTimeout_off c m now flag] at tracked
    split at tracked
    · rename_i k' _
      by_cases same : k = k' <;> simp_all
    · split at tracked <;> exact tracked
  · rwa [pollTimeout_on c m now flag] at tracked

/-- After the upsert, a message's branch keeps the map, or pops the sender in the drain. -/
theorem onMessage_heartbeats (m : Master) (o : Tick) (msg : Message) (sender : String) :
    (onMessage c m o msg sender).master.controllerHeartbeatDict =
        m.controllerHeartbeatDict.set sender o.seen ∨
      o.sendFails = false ∧ m.taskDistribution = false ∧
        (onMessage c m o msg sender).master.controllerHeartbeatDict =
          (m.controllerHeartbeatDict.set sender o.seen).pop sender := by
  cases flag : m.taskDistribution
  · rw [onMessage_off c m o msg sender flag, drain_eq]
    cases fails : o.sendFails
    · exact .inr ⟨rfl, rfl, by simp⟩
    · exact .inl (by simp)
  · exact .inl (onMessage_on c m o msg sender flag).1.2.2

theorem onMessage_heartbeat (m : Master) (o : Tick) (msg : Message) (sender : String) {k : String}
    {t : Int} (tracked : (onMessage c m o msg sender).master.controllerHeartbeatDict.get? k = some t) :
    k = sender ∧ o.seen = t ∨ k ≠ sender ∧ m.controllerHeartbeatDict.get? k = some t := by
  rcases onMessage_heartbeats c m o msg sender with map | ⟨-, -, map⟩ <;> rw [map] at tracked <;>
    by_cases same : k = sender <;> simp_all

/-- A step leaves a controller in the map either because it decoded a message from it, the
entry being that pass's `seen` reading, or because the entry was there, unchanged. -/
theorem step_heartbeat (m : Master) (e : Event) {k : String} {t : Int}
    (tracked : (step c create m e).1.controllerHeartbeatDict.get? k = some t) :
    (∃ o msg, e = .iteration o ∧ m.runFlag = true ∧ receive create o = .ok (some (msg, k)) ∧
        o.seen = t) ∨
      ¬ Upserts create m e k ∧ m.controllerHeartbeatDict.get? k = some t := by
  have quiet : ∀ o, ¬ (∃ msg, receive create o = .ok (some (msg, k))) → ¬ Upserts create m (.iteration o) k :=
    fun o none ⟨o', msg, same, _, decoded⟩ => by cases same; exact none ⟨msg, decoded⟩
  cases e with
  | iteration o =>
    cases running : m.runFlag
    · simp only [step, running] at tracked
      exact .inr ⟨(fun ⟨_, _, _, up, _⟩ => by rw [running] at up; cases up), tracked⟩
    · simp only [step, running, if_true, iterate_heartbeats] at tracked
      match decoded : receive create o with
      | .error _ =>
        rw [body_of_error c create m o decoded] at tracked
        exact .inr ⟨quiet o (by simp [decoded]), tracked⟩
      | .ok none =>
        rw [body_of_timeout c create m o decoded] at tracked
        exact .inr ⟨quiet o (by simp [decoded]), pollTimeout_heartbeat c m o.now tracked⟩
      | .ok (some (msg, sender)) =>
        rw [body_of_message c create m o decoded] at tracked
        rcases onMessage_heartbeat c m o msg sender tracked with ⟨rfl, seen⟩ | ⟨other, kept⟩
        · exact .inl ⟨o, msg, rfl, rfl, decoded, seen⟩
        · exact .inr ⟨quiet o (by simp [decoded, Ne.symm other]), kept⟩
  | _ => exact .inr ⟨(fun ⟨_, _, same, _⟩ => by cases same), by simpa [step] using tracked⟩

/-- Over every run, a controller in the heartbeat map has there the time of its last message:
the `seen` reading of the last pass that decoded a message from it, or, when no pass did, the
entry it had at the start. -/
theorem heartbeat_of_last_message (m : Master) (es : List Event) {k : String} {t : Int}
    (tracked : (run c create m es).1.controllerHeartbeatDict.get? k = some t) :
    (m.controllerHeartbeatDict.get? k = some t ∧
        ∀ p ∈ trace c create m es, ¬ Upserts create p.1 p.2 k) ∨
      ∃ pre o msg post, es = pre ++ .iteration o :: post ∧ (run c create m pre).1.runFlag = true ∧
        receive create o = .ok (some (msg, k)) ∧ o.seen = t ∧
        ∀ p ∈ trace c create (run c create m (pre ++ [.iteration o])).1 post,
          ¬ Upserts create p.1 p.2 k := by
  induction es using List.reverseRecOn with
  | nil => exact .inl ⟨tracked, by simp⟩
  | append_singleton es e ih =>
    simp only [run_append, run_cons, run_nil] at tracked
    rcases step_heartbeat c create _ e tracked with ⟨o, msg, rfl, running, decoded, seen⟩ |
      ⟨quiet, kept⟩
    · exact .inr ⟨es, o, msg, [], rfl, running, decoded, seen, by simp⟩
    · rcases ih kept with ⟨initial, silent⟩ | ⟨pre, o, msg, post, rfl, running, decoded, seen, silent⟩
      · refine .inl ⟨initial, ?_⟩
        simp only [trace_append, trace_cons, trace_nil, List.mem_append, List.mem_singleton]
        rintro p (mem | rfl)
        · exact silent p mem
        · exact quiet
      · refine .inr ⟨pre, o, msg, post ++ [e], by simp, running, decoded, seen, ?_⟩
        simp only [trace_append, trace_cons, trace_nil, List.mem_append, List.mem_singleton]
        rintro p (mem | rfl)
        · exact silent p mem
        · simpa [run_append] using quiet

/-- `C1` reports at 3 and at 7: its entry is 7, from the second pass. -/
theorem heartbeat_of_last_message_example :
    (run ⟨10, 100, false⟩ sampleCreate (Master.init 5) [.iteration (Tick.calm 3 (.data "C1 heartbeat")),
      .iteration (Tick.calm 7 (.data "C1 heartbeat"))]).1.controllerHeartbeatDict.get? "C1" = some 7 ∧
    (((Master.init 5).controllerHeartbeatDict.get? "C1" = some 7 ∧
        ∀ p ∈ trace ⟨10, 100, false⟩ sampleCreate (Master.init 5) [.iteration (Tick.calm 3 (.data "C1 heartbeat")),
          .iteration (Tick.calm 7 (.data "C1 heartbeat"))], ¬ Upserts sampleCreate p.1 p.2 "C1") ∨
      ∃ pre o msg post, [.iteration (Tick.calm 3 (.data "C1 heartbeat")),
          .iteration (Tick.calm 7 (.data "C1 heartbeat"))] = pre ++ .iteration o :: post ∧
        (run ⟨10, 100, false⟩ sampleCreate (Master.init 5) pre).1.runFlag = true ∧
        receive sampleCreate o = .ok (some (msg, "C1")) ∧ o.seen = 7 ∧
        ∀ p ∈ trace ⟨10, 100, false⟩ sampleCreate
            (run ⟨10, 100, false⟩ sampleCreate (Master.init 5) (pre ++ [.iteration o])).1 post,
          ¬ Upserts sampleCreate p.1 p.2 "C1") :=
  ⟨by decide, heartbeat_of_last_message _ _ _ _ (by decide)⟩

/-- With distribution off, a pass that decodes a message from `k` answers it with
`ExitCommand` alone, and when that send succeeds `k` is not in the map after the pass. -/
theorem step_drain_off (m : Master) (o : Tick) {msg : Message} {k : String}
    (off : m.taskDistribution = false) (running : m.runFlag = true)
    (received : receive create o = .ok (some (msg, k))) :
    (step c create m (.iteration o)).2 = [.send .exitCommand] ∧
      (o.sendFails = false → k ∉ (step c create m (.iteration o)).1.controllerHeartbeatDict.keys) := by
  refine ⟨by simp [(step_drains c create m o off).2.2, running, decoded, received], fun sent => ?_⟩
  simp [step, running, iterate_heartbeats, body_of_message c create m o received,
    (onMessage_off_sent c m o msg k off sent).2.1]

/-- With distribution off, a step leaves in the map only a controller that was there, or the
sender of a message whose `ExitCommand` could not be sent. -/
theorem step_keys_off (m : Master) (e : Event) (off : m.taskDistribution = false) {k : String}
    (tracked : k ∈ (step c create m e).1.controllerHeartbeatDict.keys) :
    k ∈ m.controllerHeartbeatDict.keys ∨
      ∃ o msg, e = .iteration o ∧ m.runFlag = true ∧ receive create o = .ok (some (msg, k)) ∧
        o.sendFails = true := by
  obtain ⟨t, seen⟩ := Option.isSome_iff_exists.mp (PyDict.mem_keys.mp tracked)
  rcases step_heartbeat c create m e seen with ⟨o, msg, rfl, running, received, -⟩ | ⟨-, kept⟩
  · refine .inr ⟨o, msg, rfl, running, received, ?_⟩
    cases fails : o.sendFails
    · exact absurd tracked ((step_drain_off c create m o off running received).2 fails)
    · rfl
  · exact .inl (PyDict.mem_keys.mpr (by simp [kept]))

/-- Once distribution is off, over every run: each pass that decodes a message from a
controller answers it with `ExitCommand` alone and, when that send succeeds, leaves the
controller out of the map, whether it was in it before or not. So the map keeps no
controller it did not hold at the start, except the sender of a message in a pass whose
`ExitCommand` `send_string` raised. -/
theorem drain_keeps_only_unsent (m : Master) (es : List Event) (off : m.taskDistribution = false) :
    (∀ p ∈ trace c create m es, ∀ o msg k, p.2 = .iteration o → p.1.runFlag = true →
        receive create o = .ok (some (msg, k)) →
        (step c create p.1 p.2).2 = [.send .exitCommand] ∧
          (o.sendFails = false → k ∉ (step c create p.1 p.2).1.controllerHeartbeatDict.keys)) ∧
      ∀ k ∈ (run c create m es).1.controllerHeartbeatDict.keys, k ∈ m.controllerHeartbeatDict.keys ∨
        ∃ p ∈ trace c create m es, ∃ o msg, p.2 = .iteration o ∧ p.1.runFlag = true ∧
          receive create o = .ok (some (msg, k)) ∧ o.sendFails = true := by
  induction es generalizing m with
  | nil => exact ⟨by simp, fun _ tracked => .inl tracked⟩
  | cons e es ih =>
    have off' : (step c create m e).1.taskDistribution = false := by
      rw [taskDistribution_step, off, Bool.false_and]
    obtain ⟨answered, kept⟩ := ih _ off'
    refine ⟨fun p mem => ?_, fun k tracked => ?_⟩
    · rcases List.mem_cons.mp mem with rfl | later
      · intro o msg k event running received
        obtain rfl : e = .iteration o := event
        exact step_drain_off c create m o off running received
      · exact answered p later
    · rcases kept k tracked with earlier | ⟨p, mem, failed⟩
      · rcases step_keys_off c create m e off earlier with old | ⟨o, msg, rfl, running, received, fails⟩
        · exact .inl old
        · exact .inr ⟨(m, .iteration o), by simp, o, msg, rfl, running, received, fails⟩
      · exact .inr ⟨p, by simp [mem], failed⟩

/-- With distribution off, `C1` reports and the `ExitCommand` cannot be sent: `C1` stays. -/
theorem drain_keeps_only_unsent_example :
    "C1" ∈ (run ⟨10, 100, false⟩ sampleCreate { Master.init 5 with taskDistribution := false }
      [.iteration { Tick.calm 3 (.data "C1 heartbeat") with sendFails := true }]).1.controllerHeartbeatDict.keys ∧
    { Master.init 5 with taskDistribution := false }.taskDistribution = false ∧
    ((∀ p ∈ trace ⟨10, 100, false⟩ sampleCreate { Master.init 5 with taskDistribution := false }
        [.iteration { Tick.calm 3 (.data "C1 heartbeat") with sendFails := true }],
        ∀ o msg k, p.2 = .iteration o → p.1.runFlag = true →
          receive sampleCreate o = .ok (some (msg, k)) →
          (step ⟨10, 100, false⟩ sampleCreate p.1 p.2).2 = [.send .exitCommand] ∧
            (o.sendFails = false →
              k ∉ (step ⟨10, 100, false⟩ sampleCreate p.1 p.2).1.controllerHeartbeatDict.keys)) ∧
      ∀ k ∈ (run ⟨10, 100, false⟩ sampleCreate { Master.init 5 with taskDistribution := false }
          [.iteration { Tick.calm 3 (.data "C1 heartbeat") with sendFails := true }]).1.controllerHeartbeatDict.keys,
        k ∈ { Master.init 5 with taskDistribution := false }.controllerHeartbeatDict.keys ∨
          ∃ p ∈ trace ⟨10, 100, false⟩ sampleCreate { Master.init 5 with taskDistribution := false }
              [.iteration { Tick.calm 3 (.data "C1 heartbeat") with sendFails := true }],
            ∃ o msg, p.2 = .iteration o ∧ p.1.runFlag = true ∧
              receive sampleCreate o = .ok (some (msg, k)) ∧ o.sendFails = true) :=
  ⟨by decide, rfl, drain_keeps_only_unsent _ _ _ _ (by rfl)⟩

end Heartbeat

end Cyclone
