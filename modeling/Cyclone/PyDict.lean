import Mathlib.Data.List.Nodup

/-! Python's `dict` as the master uses it for `controller_heartbeat_dict` and
`task_status_dict`: entries in insertion order, each key once. `d[k] = v` keeps an
existing key in its place and appends a new one; `d.pop(k, None)` removes the key.
The order matters: the heartbeat prune walks the keys in this order. -/
namespace Cyclone

structure PyDict (α β : Type) where
  entries : List (α × β)
  nodupKeys : (entries.map Prod.fst).Nodup

namespace PyDict

variable {α β : Type}

def empty : PyDict α β := ⟨[], List.nodup_nil⟩

def keys (d : PyDict α β) : List α := d.entries.map Prod.fst

/-- `len(d)`. -/
def size (d : PyDict α β) : Nat := d.entries.length

theorem ext {d d' : PyDict α β} (h : d.entries = d'.entries) : d = d' := by
  cases d; cases d'; cases h; rfl

instance [DecidableEq α] [DecidableEq β] : DecidableEq (PyDict α β) := fun a b =>
  decidable_of_iff (a.entries = b.entries) ⟨ext, congrArg _⟩

@[simp] theorem keys_empty : (empty : PyDict α β).keys = [] := rfl

theorem size_eq_zero {d : PyDict α β} : d.size = 0 ↔ d.keys = [] := by
  simp [size, keys]

variable [DecidableEq α]

/-- `d.get(k)`; `d[k]` raises `KeyError` exactly where this is `none`. -/
def get? (d : PyDict α β) (k : α) : Option β := d.entries.lookup k

theorem keys_map_update (es : List (α × β)) (k : α) (v : β) :
    (es.map fun e => if e.1 = k then (k, v) else e).map Prod.fst = es.map Prod.fst := by
  induction es with
  | nil => rfl
  | cons e es ih => by_cases h : e.1 = k <;> simp [h, ih]

/-- `d[k] = v`. -/
def set (d : PyDict α β) (k : α) (v : β) : PyDict α β :=
  if present : k ∈ d.keys then
    ⟨d.entries.map fun e => if e.1 = k then (k, v) else e, by
      rw [keys_map_update]; exact d.nodupKeys⟩
  else
    ⟨d.entries ++ [(k, v)], by
      rw [List.map_append]
      exact d.nodupKeys.append (List.nodup_singleton k) (List.disjoint_singleton.mpr present)⟩

/-- `d.pop(k, None)`. -/
def pop (d : PyDict α β) (k : α) : PyDict α β :=
  ⟨d.entries.filter (·.1 != k), d.nodupKeys.sublist ((List.filter_sublist _).map _)⟩

@[simp] theorem get?_empty (k : α) : (empty : PyDict α β).get? k = none := rfl

theorem lookup_cons_ite (es : List (α × β)) (k k' : α) (b : β) :
    ((k, b) :: es).lookup k' = if k' = k then some b else es.lookup k' := by
  by_cases h : k' = k
  · subst h; simp
  · simp only [List.lookup_cons, beq_false_of_ne h, h, if_false]

theorem mem_keys {d : PyDict α β} {k : α} : k ∈ d.keys ↔ (d.get? k).isSome := by
  simp only [keys, get?, List.lookup_isSome_iff, List.mem_map, beq_iff_eq]
  exact ⟨fun ⟨e, he, same⟩ => ⟨e, he, same.symm⟩, fun ⟨e, he, same⟩ => ⟨e, he, same.symm⟩⟩

theorem not_mem_keys {d : PyDict α β} {k : α} : k ∉ d.keys ↔ d.get? k = none := by
  rw [mem_keys, Option.not_isSome_iff_eq_none]

theorem lookup_map_update (es : List (α × β)) (k k' : α) (v : β) :
    (es.map fun e => if e.1 = k then (k, v) else e).lookup k' =
      if k' = k ∧ k ∈ es.map Prod.fst then some v else es.lookup k' := by
  induction es with
  | nil => simp
  | cons e es ih =>
    obtain ⟨a, b⟩ := e
    by_cases hk : a = k
    · subst hk; by_cases h : k' = a <;> simp [lookup_cons_ite, h, ih]
    · by_cases h : k' = a
      · subst h; simp [lookup_cons_ite, hk]
      · simp only [List.map_cons, hk, if_false, lookup_cons_ite, h, ih, List.mem_cons, Ne.symm hk,
          false_or]

theorem lookup_filter_ne (es : List (α × β)) (k k' : α) :
    (es.filter (·.1 != k)).lookup k' = if k' = k then none else es.lookup k' := by
  induction es with
  | nil => simp
  | cons e es ih =>
    obtain ⟨a, b⟩ := e
    by_cases ha : a = k
    · subst ha
      have drop : ((a, b) :: es).filter (·.1 != a) = es.filter (·.1 != a) := by
        simp [List.filter_cons]
      rw [drop, ih]
      by_cases h : k' = a <;> simp [lookup_cons_ite, h]
    · by_cases h : k' = a
      · subst h; simp [lookup_cons_ite, ha, Ne.symm ha]
      · simp [lookup_cons_ite, ha, h, ih]

theorem filter_map_update (es : List (α × β)) (k : α) (v : β) :
    (es.map fun e => if e.1 = k then (k, v) else e).filter (·.1 != k) = es.filter (·.1 != k) := by
  induction es with
  | nil => rfl
  | cons e es ih => by_cases h : e.1 = k <;> simp [h, ih, List.filter_cons]

@[simp] theorem get?_set (d : PyDict α β) (k k' : α) (v : β) :
    (d.set k v).get? k' = if k' = k then some v else d.get? k' := by
  unfold set
  split
  · rename_i present
    simp only [get?, lookup_map_update]
    by_cases h : k' = k <;> simp_all [keys]
  · rename_i absent
    simp only [get?, List.lookup_append, lookup_cons_ite, List.lookup_nil]
    by_cases h : k' = k
    · subst h; simp [show d.entries.lookup k' = none from not_mem_keys.mp absent]
    · simp only [h, if_false, Option.or_none]

@[simp] theorem get?_pop (d : PyDict α β) (k k' : α) :
    (d.pop k).get? k' = if k' = k then none else d.get? k' :=
  lookup_filter_ne d.entries k k'

@[simp] theorem mem_keys_set {d : PyDict α β} {k k' : α} {v : β} :
    k' ∈ (d.set k v).keys ↔ k' = k ∨ k' ∈ d.keys := by
  simp only [mem_keys, get?_set]
  by_cases h : k' = k <;> simp [h]

@[simp] theorem mem_keys_pop {d : PyDict α β} {k k' : α} :
    k' ∈ (d.pop k).keys ↔ k' ≠ k ∧ k' ∈ d.keys := by
  simp only [mem_keys, get?_pop]
  by_cases h : k' = k <;> simp [h]

theorem pop_set_self (d : PyDict α β) (k : α) (v : β) : (d.set k v).pop k = d.pop k := by
  apply ext
  unfold set pop
  split
  · exact filter_map_update d.entries k v
  · simp [List.filter_append]

theorem size_pop_lt {d : PyDict α β} {k : α} (present : k ∈ d.keys) : (d.pop k).size < d.size := by
  obtain ⟨e, he, rfl⟩ := List.mem_map.mp present
  exact List.length_filter_lt_length_iff_exists.mpr ⟨e, he, by simp⟩

theorem keys_pop_head {d : PyDict α β} {k : α} {ks : List α} (head : d.keys = k :: ks) :
    (d.pop k).keys = ks := by
  obtain ⟨_ | ⟨e, es⟩, nodup⟩ := d
  · cases head
  · simp only [keys, List.map_cons, List.cons.injEq] at head
    obtain ⟨rfl, rfl⟩ := head
    have absent : e.1 ∉ es.map Prod.fst := (List.nodup_cons.mp nodup).1
    have fresh : ∀ x ∈ es, (x.1 != e.1) = true := fun x mem => by
      have other : x.1 ≠ e.1 := fun same => absent (same ▸ List.mem_map_of_mem Prod.fst mem)
      simpa using other
    simp [pop, keys, List.filter_cons, List.filter_eq_self.mpr fresh]

end PyDict

end Cyclone
