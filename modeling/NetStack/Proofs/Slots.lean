import Mathlib.Algebra.GroupWithZero.Nat
import NetStack.Nic.Ring

/-!
# Slots around a ring

The cursors of a ring move on by one slot and wrap behind the last one. `Slot.ahead` is the slot a
number of places on, `Slot.distance` counts the places between two slots, and each undoes the other
(`distance_ahead`, `ahead_distance`). `Slot.window` lists what a run of consecutive slots holds,
oldest first: taking its first slot away moves the start on (`window_succ`), and its last slot is
the one that comes to it at the other end (`window_snoc`).
-/

namespace NetStack.Slot

variable {n : Nat} {α : Type}

/-- The slot `count` places behind a slot, counted around the ring. -/
def ahead (slot : Fin n) (count : Nat) : Fin n :=
  ⟨(slot.val + count) % n, Nat.mod_lt _ slot.pos⟩

/-- The number of slots from `first` up to `last`, which is not counted. -/
def distance (first last : Fin n) : Nat :=
  (last.val + n - first.val) % n

/-- No place behind a slot is the slot itself. -/
@[simp] theorem ahead_zero (slot : Fin n) : ahead slot 0 = slot :=
  Fin.ext (Nat.mod_eq_of_lt slot.isLt)

/-- The next slot is one place behind. -/
theorem next_eq_ahead (slot : Fin n) : next slot = ahead slot 1 := rfl

/-- Places behind a slot add up. -/
theorem ahead_ahead (slot : Fin n) (j k : Nat) : ahead (ahead slot j) k = ahead slot (j + k) := by
  apply Fin.ext
  show ((slot.val + j) % n + k) % n = (slot.val + (j + k)) % n
  rw [Nat.mod_add_mod, Nat.add_assoc]

/-- The places behind the next slot are those behind the slot, one further. -/
theorem ahead_next (slot : Fin n) (k : Nat) : ahead (next slot) k = ahead slot (k + 1) := by
  rw [next_eq_ahead, ahead_ahead, Nat.add_comm]

/-- The slot next to one of the places behind is the following place. -/
theorem next_ahead (slot : Fin n) (k : Nat) : next (ahead slot k) = ahead slot (k + 1) := by
  rw [next_eq_ahead, ahead_ahead]

/-- Once around the ring is back at the slot. -/
theorem ahead_size (slot : Fin n) : ahead slot n = slot := by
  apply Fin.ext
  show (slot.val + n) % n = slot.val
  rw [Nat.add_mod_right, Nat.mod_eq_of_lt slot.isLt]

/-- Less than a full ring of slots lies between two slots. -/
theorem distance_lt (first last : Fin n) : distance first last < n :=
  Nat.mod_lt _ first.pos

/-- The distance to a place within the ring is the number of places. -/
theorem distance_ahead (slot : Fin n) {count : Nat} (h : count < n) :
    distance slot (ahead slot count) = count := by
  have hlt := slot.isLt
  show ((slot.val + count) % n + n - slot.val) % n = count
  rcases Nat.lt_or_ge (slot.val + count) n with hnear | hwrap
  · rw [Nat.mod_eq_of_lt hnear, show slot.val + count + n - slot.val = count + n by omega,
      Nat.add_mod_right, Nat.mod_eq_of_lt h]
  · have hmod : (slot.val + count) % n = slot.val + count - n := by
      rw [Nat.mod_eq_sub_mod hwrap, Nat.mod_eq_of_lt (by omega)]
    rw [hmod, show slot.val + count - n + n - slot.val = count by omega, Nat.mod_eq_of_lt h]

/-- As many places behind `first` as there are up to `last` is `last`. -/
theorem ahead_distance (first last : Fin n) : ahead first (distance first last) = last := by
  have hfirst := first.isLt
  have hlast := last.isLt
  apply Fin.ext
  show (first.val + (last.val + n - first.val) % n) % n = last.val
  rw [Nat.add_mod_mod, show first.val + (last.val + n - first.val) = last.val + n by omega,
    Nat.add_mod_right, Nat.mod_eq_of_lt hlast]

/-- Every slot is some places behind any other, less than once around. -/
theorem exists_ahead (first slot : Fin n) : ∃ k < n, ahead first k = slot :=
  ⟨distance first slot, distance_lt first slot, ahead_distance first slot⟩

/-- Within one turn different places are different slots. -/
theorem ahead_inj (slot : Fin n) {j k : Nat} (hj : j < n) (hk : k < n) :
    ahead slot j = ahead slot k ↔ j = k := by
  constructor
  · intro h
    rw [← distance_ahead slot hj, h, distance_ahead slot hk]
  · intro h
    rw [h]

/-- A slot comes again only after a full turn. -/
theorem ahead_ne_self (slot : Fin n) {k : Nat} (hk : k + 1 < n) : ahead slot (k + 1) ≠ slot := by
  intro h
  have hzero := (ahead_inj slot hk slot.pos).1 (h.trans (ahead_zero slot).symm)
  omega

/-- A slot number survives its way through a register. -/
@[simp] theorem wrap_toWord (slot : Fin n) (hpos : 0 < n) (hn : n ≤ 2 ^ 32) :
    wrap (toWord slot) hpos = slot := by
  have hlt := slot.isLt
  apply Fin.ext
  show (UInt32.ofNat slot.val).toNat % n = slot.val
  rw [UInt32.toNat_ofNat_of_lt' (by show slot.val < 2 ^ 32; omega), Nat.mod_eq_of_lt hlt]

/-- The number that a register shows for a slot. -/
theorem toNat_toWord (slot : Fin n) (hn : n ≤ 2 ^ 32) : (toWord slot).toNat = slot.val := by
  have hlt := slot.isLt
  exact UInt32.toNat_ofNat_of_lt' (by show slot.val < 2 ^ 32; omega)

/-- The slot of its own number. -/
@[simp] theorem ofNat?_val (slot : Fin n) : ofNat? n slot.val = some slot := by
  simp [ofNat?]

/-- What the `count` slots from `first` on hold, in ring order. -/
def window (held : Fin n → α) (first : Fin n) (count : Nat) : List α :=
  (List.range count).map fun k => held (ahead first k)

@[simp] theorem window_zero (held : Fin n → α) (first : Fin n) : window held first 0 = [] := rfl

@[simp] theorem length_window (held : Fin n → α) (first : Fin n) (count : Nat) :
    (window held first count).length = count := by
  simp [window]

/-- The first slot of a window, and the window behind it. -/
theorem window_succ (held : Fin n → α) (first : Fin n) (count : Nat) :
    window held first (count + 1) = held first :: window held (next first) count := by
  simp [window, List.range_succ_eq_map, List.map_map, Function.comp_def, ahead_next]

/-- The last slot of a window, and the window in front of it. -/
theorem window_snoc (held : Fin n → α) (first : Fin n) (count : Nat) :
    window held first (count + 1) = window held first count ++ [held (ahead first count)] := by
  simp [window, List.range_succ]

/-- A window shows only the slots that it covers. -/
theorem window_congr {held other : Fin n → α} {first : Fin n} {count : Nat}
    (h : ∀ k < count, held (ahead first k) = other (ahead first k)) :
    window held first count = window other first count := by
  apply List.map_congr_left
  intro k hk
  exact h k (List.mem_range.1 hk)

end NetStack.Slot
