import TacacsRs.Rust.Decoder

/-!
# Loops over a byte stream

A loop reads from a stream until it returns. Each round consumes some bytes and
may hand out a value. The stream in front of every round is recorded, so that
where a round started to read can be stated. The end of the list is the end of
the stream; other failures of the transport are not represented.
-/

namespace TacacsRs.Rust

/-- `AsyncReadExt::read_exact`: the next `n` bytes of the stream, or its early end. -/
def asyncReadExact (n : Nat) (stream : List UInt8) : Outcome (List UInt8 × List UInt8) :=
  if stream.length < n then .err (.msg "early eof") else .ok (stream.take n, stream.drop n)

theorem asyncReadExact_of_lt {n : Nat} {stream : List UInt8} (h : stream.length < n) :
    asyncReadExact n stream = .err (.msg "early eof") := if_pos h

theorem asyncReadExact_append {n : Nat} {buffer : List UInt8} (h : buffer.length = n)
    (stream : List UInt8) : asyncReadExact n (buffer ++ stream) = .ok (buffer, stream) := by
  subst h
  simp [asyncReadExact]

/-- What one round of a loop does with the stream in front of it. -/
inductive Round (β : Type) where
  | stop (outcome : Outcome Unit)
  | next (output : Option β) (rest : List UInt8)
  deriving DecidableEq, Repr

/-- What the round hands out. -/
def Round.output {β : Type} : Round β → Option β
  | .stop _ => none
  | .next output _ => output

/-- The output of the round, changed by `f`. -/
def Round.map {β γ : Type} (f : β → γ) : Round β → Round γ
  | .stop outcome => .stop outcome
  | .next output rest => .next (output.map f) rest

/-- A loop whose rounds consume at least one byte, unless they leave the loop. -/
structure StreamLoop (β : Type) where
  round : List UInt8 → Round β
  consumes : ∀ {stream output rest}, round stream = .next output rest → rest.length < stream.length

/-- A finished loop: the stream in front of each round, the values handed out, the result. -/
structure LoopRun (β : Type) where
  rounds : List (List UInt8)
  outputs : List β
  outcome : Outcome Unit

/-- The outputs of the run, changed by `f`. -/
def LoopRun.map {β γ : Type} (f : β → γ) (loopRun : LoopRun β) : LoopRun γ where
  rounds := loopRun.rounds
  outputs := loopRun.outputs.map f
  outcome := loopRun.outcome

namespace StreamLoop

variable {β : Type} (loop : StreamLoop β)

/-- The loop on a whole stream. -/
def run (stream : List UInt8) : LoopRun β :=
  match _h : loop.round stream with
  | .stop outcome => ⟨[stream], [], outcome⟩
  | .next output rest =>
      let later := run rest
      ⟨stream :: later.rounds, output.toList ++ later.outputs, later.outcome⟩
termination_by stream.length
decreasing_by exact loop.consumes _h

variable {loop} {stream rest : List UInt8}

theorem run_of_stop {outcome : Outcome Unit} (h : loop.round stream = .stop outcome) :
    loop.run stream = ⟨[stream], [], outcome⟩ := by
  rw [run]
  split
  · next outcome' h' =>
    rw [h, Round.stop.injEq] at h'
    rw [h']
  · next h' => simp [h] at h'

theorem run_of_next {output : Option β} (h : loop.round stream = .next output rest) :
    loop.run stream = ⟨stream :: (loop.run rest).rounds,
      output.toList ++ (loop.run rest).outputs, (loop.run rest).outcome⟩ := by
  rw [run]
  split
  · next h' => simp [h] at h'
  · next output' rest' h' =>
    rw [h, Round.next.injEq] at h'
    obtain ⟨rfl, rfl⟩ := h'
    rfl

/-- There is nothing to hand out of an empty stream. -/
theorem outputs_nil (loop : StreamLoop β) : (loop.run []).outputs = [] := by
  cases h : loop.round [] with
  | stop outcome => rw [run_of_stop h]
  | next output rest => exact absurd (loop.consumes h) (Nat.not_lt_zero _)

/-- Induction along a run: a round that stops, or a round and the run of what it left. -/
theorem run_induction (loop : StreamLoop β) {motive : List UInt8 → Prop}
    (stop : ∀ stream outcome, loop.round stream = .stop outcome → motive stream)
    (next : ∀ stream output rest, loop.round stream = .next output rest → motive rest →
      motive stream)
    (stream : List UInt8) : motive stream := by
  cases h : loop.round stream with
  | stop outcome => exact stop stream outcome h
  | next output rest => exact next stream output rest h (run_induction loop stop next rest)
termination_by stream.length
decreasing_by exact loop.consumes h

/-- A loop whose rounds are those of another one, with `f` applied to what they hand out, runs as
the other one does. -/
theorem run_map {γ : Type} {loop : StreamLoop β} {loop' : StreamLoop γ} (f : β → γ)
    (h : ∀ stream, loop'.round stream = (loop.round stream).map f) (stream : List UInt8) :
    loop'.run stream = (loop.run stream).map f := by
  induction stream using run_induction loop with
  | stop stream outcome hround =>
      have hround' : loop'.round stream = .stop outcome := by rw [h, hround, Round.map]
      rw [run_of_stop hround, run_of_stop hround', LoopRun.map, List.map_nil]
  | next stream output rest hround ih =>
      have hround' : loop'.round stream = .next (output.map f) rest := by rw [h, hround, Round.map]
      have houtput : (output.map f).toList = output.toList.map f := by cases output <;> rfl
      rw [run_of_next hround, run_of_next hround', ih, LoopRun.map, LoopRun.map, houtput,
        List.map_append]

/-- What holds of all that a round can hand out holds of all that a run hands out. -/
theorem forall_outputs {P : β → Prop}
    (h : ∀ stream output rest, loop.round stream = .next (some output) rest → P output)
    (stream : List UInt8) : ∀ output ∈ (loop.run stream).outputs, P output := by
  induction stream using run_induction loop with
  | stop stream outcome hround => simp [run_of_stop hround]
  | next stream output rest hround ih =>
      rw [run_of_next hround]
      rintro value hvalue
      rcases List.mem_append.mp hvalue with hfirst | hlater
      · rw [Option.mem_toList] at hfirst
        exact h stream value rest (hfirst ▸ hround)
      · exact ih value hlater

theorem mem_rounds_self (loop : StreamLoop β) (stream : List UInt8) :
    stream ∈ (loop.run stream).rounds := by
  cases h : loop.round stream with
  | stop outcome => simp [run_of_stop h]
  | next output rest => simp [run_of_next h]

/-- No round starts before the position at which the run started. -/
theorem length_le_of_mem_rounds {visited : List UInt8}
    (h : visited ∈ (loop.run stream).rounds) : visited.length ≤ stream.length := by
  induction stream using run_induction loop with
  | stop stream outcome hround =>
      rw [run_of_stop hround, List.mem_singleton] at h
      exact Nat.le_of_eq (congrArg List.length h)
  | next stream output rest hround ih =>
      rw [run_of_next hround, List.mem_cons] at h
      rcases h with rfl | h
      · exact Nat.le_refl _
      · exact Nat.le_trans (ih h) (Nat.le_of_lt (loop.consumes hround))

/-- A round that goes on does not depend on the bytes behind those it leaves. -/
def Local (loop : StreamLoop β) : Prop :=
  ∀ {stream output rest}, loop.round stream = .next output rest →
    ∀ more, loop.round (stream ++ more) = .next output (rest ++ more)

/-- A round that takes just the given bytes comes first on every stream that starts with them. -/
theorem Local.outputs_of_round (h : loop.Local) {bytes : List UInt8} {output : Option β}
    (hround : loop.round bytes = .next output []) (more : List UInt8) :
    (loop.run (bytes ++ more)).outputs = output.toList ++ (loop.run more).outputs := by
  rw [run_of_next (h hround more), List.nil_append]

/-- What a local loop hands out on a truncated stream is where the whole run starts. -/
theorem Local.outputs_prefix (h : loop.Local) (stream more : List UInt8) :
    (loop.run stream).outputs <+: (loop.run (stream ++ more)).outputs := by
  induction stream using run_induction loop with
  | stop stream outcome hround =>
      rw [run_of_stop hround]
      exact List.nil_prefix
  | next stream output rest hround ih =>
      rw [run_of_next hround, run_of_next (h hround more)]
      exact (List.prefix_append_right_inj _).mpr ih

end StreamLoop

end TacacsRs.Rust
