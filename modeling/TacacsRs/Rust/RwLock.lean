import Mathlib.Data.List.Nodup
import Mathlib.Logic.Function.Basic

/-!
# A fair lock with one writer

`tokio::sync::RwLock` serves its waiters first come, first served: a reader
enters when no writer is inside or ahead of it, a writer when it is first and
nobody is inside. A read guard that is dropped before the next await point is
never seen inside, so only the writer inside is recorded.
-/

namespace TacacsRs.Rust

/-- How a party wants the lock. -/
inductive LockMode where
  | read
  | write
  deriving DecidableEq, Repr

/-- What a task has to do with a lock. -/
inductive Stake where
  | outside
  | waiting (mode : LockMode)
  | writing
  deriving DecidableEq, Repr

/-- The writer that holds the lock and the parties in line for it; readers leave in the step in
which they get it. -/
structure RwLock where
  writer : Option Nat
  waiting : List (Nat × LockMode)
  deriving DecidableEq, Repr

namespace RwLock

/-- A lock that nobody wants. -/
def new : RwLock := ⟨none, []⟩

/-- The task queues up behind the other waiters. -/
def join (lock : RwLock) (task : Nat) (mode : LockMode) : RwLock :=
  { lock with waiting := lock.waiting ++ [(task, mode)] }

/-- No writer is inside or ahead of the waiting reader. -/
def CanRead (lock : RwLock) (task : Nat) : Prop :=
  lock.writer = none ∧ (task, .read) ∈ lock.waiting.takeWhile fun waiter => waiter.2 = .read

/-- Nobody is inside or ahead of the waiting writer. -/
def CanWrite (lock : RwLock) (task : Nat) : Prop :=
  lock.writer = none ∧ lock.waiting.head? = some (task, .write)

instance (lock : RwLock) (task : Nat) : Decidable (lock.CanRead task) :=
  inferInstanceAs (Decidable (_ ∧ _))

instance (lock : RwLock) (task : Nat) : Decidable (lock.CanWrite task) :=
  inferInstanceAs (Decidable (_ ∧ _))

/-- The first waiter enters as the writer. -/
def acquire (lock : RwLock) (task : Nat) : RwLock := ⟨some task, lock.waiting.tail⟩

/-- The task drops its guard, or the future that waits for one. -/
def leave (lock : RwLock) (task : Nat) : RwLock where
  writer := if lock.writer = some task then none else lock.writer
  waiting := lock.waiting.filter fun waiter => waiter.1 ≠ task

/-- The writer inside and the writers behind it, in the order in which they enter. -/
def line (lock : RwLock) : List Nat :=
  lock.writer.toList ++
    (lock.waiting.filter fun waiter => waiter.2 = .write).map Prod.fst

/-- The lock records the stakes of the tasks, each waiting at most once. -/
structure Tracks (lock : RwLock) (stake : Nat → Stake) : Prop where
  nodup : (lock.waiting.map Prod.fst).Nodup
  writer : ∀ task, lock.writer = some task ↔ stake task = .writing
  waiting : ∀ task mode, (task, mode) ∈ lock.waiting ↔ stake task = .waiting mode

variable {lock : RwLock} {stake : Nat → Stake} {task : Nat}

theorem tracks_new : Tracks new fun _ => .outside where
  nodup := List.nodup_nil
  writer := by simp [new]
  waiting := by simp [new]

theorem Tracks.mem_line_iff (h : lock.Tracks stake) :
    task ∈ lock.line ↔ stake task = .writing ∨ stake task = .waiting .write := by
  rw [line, List.mem_append, Option.mem_toList, h.writer, List.mem_map]
  refine or_congr_right ⟨?_, ?_⟩
  · rintro ⟨⟨waiter, mode⟩, hmem, rfl⟩
    rw [List.mem_filter, decide_eq_true_eq] at hmem
    obtain ⟨hmem, rfl⟩ := hmem
    exact (h.waiting waiter .write).mp hmem
  · intro hstake
    exact ⟨(task, .write), List.mem_filter.mpr ⟨(h.waiting task .write).mpr hstake, by simp⟩, rfl⟩

theorem Tracks.join (h : lock.Tracks stake) (hout : stake task = .outside) (mode : LockMode) :
    (lock.join task mode).Tracks (Function.update stake task (.waiting mode)) where
  nodup := by
    rw [RwLock.join, List.map_append, List.map_singleton]
    refine List.Nodup.append h.nodup (List.nodup_singleton task) ?_
    rw [List.disjoint_singleton]
    intro hmem
    obtain ⟨⟨waiter, other⟩, hwaiting, rfl⟩ := List.mem_map.mp hmem
    rw [h.waiting] at hwaiting
    simp [hwaiting] at hout
  writer := by
    intro other
    by_cases hother : other = task
    · subst hother
      simp [RwLock.join, h.writer, hout]
    · simp [RwLock.join, h.writer, hother]
  waiting := by
    intro other mode'
    rw [RwLock.join, List.mem_append, List.mem_singleton, h.waiting]
    by_cases hother : other = task
    · subst hother
      simp [hout, eq_comm]
    · simp [hother]

theorem Tracks.leave (h : lock.Tracks stake) (task : Nat) :
    (lock.leave task).Tracks (Function.update stake task .outside) where
  nodup := (List.filter_sublist.map Prod.fst).nodup h.nodup
  writer := by
    intro other
    by_cases hother : other = task
    · subst hother
      simp only [RwLock.leave, Function.update_self, reduceCtorEq, iff_false]
      split
      · simp
      · next hne => exact hne
    · rw [Function.update_of_ne hother, ← h.writer]
      simp only [RwLock.leave]
      split
      · next heq => simp [heq, Ne.symm hother]
      · rfl
  waiting := by
    intro other mode
    simp only [RwLock.leave, List.mem_filter, decide_eq_true_eq, h.waiting]
    by_cases hother : other = task
    · subst hother
      simp
    · simp [hother]

theorem Tracks.acquire (h : lock.Tracks stake) (hcan : lock.CanWrite task) :
    (lock.acquire task).Tracks (Function.update stake task .writing) := by
  obtain ⟨hfree, hhead⟩ := hcan
  obtain ⟨rest, hwaiting⟩ := List.head?_eq_some_iff.mp hhead
  have hnodup := h.nodup
  rw [hwaiting, List.map_cons, List.nodup_cons] at hnodup
  constructor
  case nodup =>
    rw [RwLock.acquire, hwaiting]
    exact hnodup.2
  case writer =>
    intro other
    have hother := h.writer other
    rw [hfree] at hother
    by_cases heq : other = task
    · simp [RwLock.acquire, heq]
    · simp [RwLock.acquire, heq, Ne.symm heq, ← hother]
  case waiting =>
    intro other mode
    have hmem := h.waiting other mode
    rw [hwaiting, List.mem_cons] at hmem
    rw [RwLock.acquire, hwaiting, List.tail_cons]
    by_cases heq : other = task
    · subst heq
      simp only [Function.update_self, reduceCtorEq, iff_false]
      intro hrest
      exact hnodup.1 (List.mem_map.mpr ⟨_, hrest, rfl⟩)
    · rw [Function.update_of_ne heq, ← hmem]
      simp [heq]

/-- What a task can do to the lock, with its stake before and after. -/
inductive Move (lock : RwLock) (task : Nat) : Stake → RwLock → Stake → Prop where
  | stay (stake : Stake) : Move lock task stake lock stake
  | join (mode : LockMode) : Move lock task .outside (lock.join task mode) (.waiting mode)
  | acquire (hcan : lock.CanWrite task) :
      Move lock task (.waiting .write) (lock.acquire task) .writing
  | leave (stake : Stake) : Move lock task stake (lock.leave task) .outside

theorem Tracks.move {lock' : RwLock} {new : Stake} (h : lock.Tracks stake)
    (hmove : Move lock task (stake task) lock' new) :
    lock'.Tracks (Function.update stake task new) := by
  generalize hbefore : stake task = before at hmove
  cases hmove with
  | stay =>
      rw [← hbefore, Function.update_eq_self]
      exact h
  | join mode => exact h.join hbefore mode
  | acquire hcan => exact h.acquire hcan
  | leave => exact h.leave task

/-- The writer inside stays there through the moves of the others. -/
theorem Move.writer_eq {lock' : RwLock} {before after : Stake} {writer : Nat}
    (hmove : Move lock task before lock' after) (hinside : lock.writer = some writer)
    (hne : task ≠ writer) : lock'.writer = some writer := by
  cases hmove with
  | stay => exact hinside
  | join mode => exact hinside
  | acquire hcan => exact absurd (hinside.symm.trans hcan.1) (by simp)
  | leave =>
      have hother : lock.writer ≠ some task := by
        rw [hinside, ne_eq, Option.some.injEq]
        exact Ne.symm hne
      rw [RwLock.leave, if_neg hother]
      exact hinside

/-- While no writer is inside, the first waiter enters. -/
theorem canRead_of_head {rest : List (Nat × LockMode)} (hfree : lock.writer = none)
    (hwaiting : lock.waiting = (task, .read) :: rest) : lock.CanRead task := by
  refine ⟨hfree, ?_⟩
  rw [hwaiting, List.takeWhile_cons_of_pos (by simp)]
  exact List.mem_cons_self

theorem canWrite_of_head {rest : List (Nat × LockMode)} (hfree : lock.writer = none)
    (hwaiting : lock.waiting = (task, .write) :: rest) : lock.CanWrite task := by
  refine ⟨hfree, ?_⟩
  rw [hwaiting, List.head?_cons]

/-- When a task waits, a writer is inside or some task can enter. -/
theorem Tracks.exists_entrant (h : lock.Tracks stake) {mode : LockMode}
    (hwaits : stake task = .waiting mode) :
    (∃ writer, stake writer = .writing) ∨
      ∃ first, (stake first = .waiting .read ∧ lock.CanRead first) ∨
        (stake first = .waiting .write ∧ lock.CanWrite first) := by
  cases hwriter : lock.writer with
  | some writer => exact .inl ⟨writer, (h.writer writer).mp hwriter⟩
  | none =>
      have hmem := (h.waiting task mode).mpr hwaits
      obtain ⟨⟨first, firstMode⟩, rest, hwaiting⟩ :=
        List.exists_cons_of_ne_nil (List.ne_nil_of_mem hmem)
      have hfirst : stake first = .waiting firstMode := by
        rw [← h.waiting, hwaiting]
        exact List.mem_cons_self
      cases firstMode with
      | read => exact .inr ⟨first, .inl ⟨hfirst, canRead_of_head hwriter hwaiting⟩⟩
      | write => exact .inr ⟨first, .inr ⟨hfirst, canWrite_of_head hwriter hwaiting⟩⟩

/-! What the operations do to the line of writers. -/

@[simp] theorem line_join_read (lock : RwLock) (task : Nat) :
    (lock.join task .read).line = lock.line := by
  simp [line, join]

@[simp] theorem line_join_write (lock : RwLock) (task : Nat) :
    (lock.join task .write).line = lock.line ++ [task] := by
  simp [line, join]

theorem line_acquire (hcan : lock.CanWrite task) : (lock.acquire task).line = lock.line := by
  obtain ⟨hfree, hhead⟩ := hcan
  obtain ⟨rest, hwaiting⟩ := List.head?_eq_some_iff.mp hhead
  simp [line, acquire, hfree, hwaiting]

theorem line_leave (lock : RwLock) (task : Nat) :
    (lock.leave task).line = lock.line.filter fun other => other ≠ task := by
  have hwaiting : ((lock.waiting.filter fun waiter => waiter.1 ≠ task).filter
      fun waiter => waiter.2 = .write).map Prod.fst =
      ((lock.waiting.filter fun waiter => waiter.2 = .write).map Prod.fst).filter
        fun other => other ≠ task := by
    rw [List.filter_map, List.filter_filter, List.filter_filter]
    congr 2
    funext waiter
    exact Bool.and_comm _ _
  have hwriter : (if lock.writer = some task then none else lock.writer).toList =
      lock.writer.toList.filter fun other => other ≠ task := by
    cases lock.writer with
    | none => simp
    | some other =>
        by_cases hother : other = task
        · simp [hother]
        · simp [hother]
  rw [line, line, leave, List.filter_append, ← hwaiting, ← hwriter]

/-- The writer inside is first in line. -/
theorem line_of_writer (h : lock.writer = some task) : ∃ rest, lock.line = task :: rest := by
  exact ⟨_, by rw [line, h]; rfl⟩

theorem Tracks.nodup_line (h : lock.Tracks stake) : lock.line.Nodup := by
  rw [line]
  refine List.Nodup.append ?_ ?_ ?_
  · cases lock.writer <;> simp
  · exact (List.filter_sublist.map Prod.fst).nodup h.nodup
  · intro task hwriter hwaiting
    rw [Option.mem_toList, h.writer] at hwriter
    obtain ⟨⟨waiter, mode⟩, hmem, rfl⟩ := List.mem_map.mp hwaiting
    have hstake := (h.waiting waiter mode).mp (List.mem_of_mem_filter hmem)
    rw [hwriter] at hstake
    simp at hstake

end RwLock

end TacacsRs.Rust
