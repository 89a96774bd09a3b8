import Mathlib.Data.List.Induction

/-!
# Runs of labelled transition systems

A system is a partial step function on states and actions. An interleaving of
concurrent tasks is a list of actions; a step that is not enabled ends no run,
it is no step of one.
-/

namespace TacacsRs.Rust

variable {σ α : Type}

/-- The state reached when every action of the list is taken in turn. -/
def run (step : σ → α → Option σ) : σ → List α → Option σ
  | s, [] => some s
  | s, a :: actions => (step s a).bind fun s' => run step s' actions

variable {step : σ → α → Option σ} {s s' : σ} {a : α} {actions before after : List α}

@[simp] theorem run_nil : run step s [] = some s := rfl

theorem run_cons_of_step (h : step s a = some s') (actions : List α) :
    run step s (a :: actions) = run step s' actions := by
  simp [run, h]

theorem run_cons_eq_some_iff :
    run step s (a :: actions) = some s' ↔
      ∃ mid, step s a = some mid ∧ run step mid actions = some s' :=
  Option.bind_eq_some_iff

theorem run_append_eq_some_iff :
    run step s (before ++ after) = some s' ↔
      ∃ mid, run step s before = some mid ∧ run step mid after = some s' := by
  induction before generalizing s with
  | nil => simp
  | cons a before ih =>
      rw [List.cons_append]
      cases h : step s a with
      | none => simp [run, h]
      | some next => rw [run_cons_of_step h, run_cons_of_step h, ih]

/-- A run of a system is one of any system that has its steps. -/
theorem run_map {β : Type} {step' : σ → β → Option σ} (f : α → β)
    (h : ∀ s a, step' s (f a) = step s a) : run step' s (actions.map f) = run step s actions := by
  induction actions generalizing s with
  | nil => rfl
  | cons a actions ih =>
      rw [List.map_cons, run, run, h]
      exact congrArg _ (funext fun next => ih)

/-- The last step of a run. -/
theorem run_concat_eq_some_iff :
    run step s (actions ++ [a]) = some s' ↔
      ∃ mid, run step s actions = some mid ∧ step mid a = some s' := by
  rw [run_append_eq_some_iff]
  refine exists_congr fun mid => and_congr_right fun _ => ?_
  cases h : step mid a <;> simp [run, h]

/-- Every step of the run is taken in a state in which `guard` allows it. -/
def Meets (step : σ → α → Option σ) (guard : σ → α → Prop) (s : σ) (actions : List α) : Prop :=
  ∀ before a, before ++ [a] <+: actions → ∀ mid, run step s before = some mid → guard mid a

/-- Every state that the run goes through satisfies `property`. -/
def Throughout (step : σ → α → Option σ) (property : σ → Prop) (s : σ) (actions : List α) :
    Prop :=
  ∀ before, before <+: actions → ∀ mid, run step s before = some mid → property mid

theorem Meets.of_prefix {guard : σ → α → Prop} (h : Meets step guard s actions)
    (hpre : before <+: actions) : Meets step guard s before :=
  fun first a hfirst => h first a (hfirst.trans hpre)

theorem meets_of_forall {guard : σ → α → Prop} (h : ∀ a ∈ actions, ∀ mid, guard mid a) :
    Meets step guard s actions := by
  intro before a hpre mid _
  exact h a (hpre.subset (by simp)) mid

/-- A run in two parts meets a guard when both parts do. -/
theorem Meets.append {guard : σ → α → Prop} (hbefore : Meets step guard s before)
    (hafter : ∀ mid, run step s before = some mid → Meets step guard mid after) :
    Meets step guard s (before ++ after) := by
  intro first a hpre mid hmid
  rcases Nat.lt_or_ge first.length before.length with hlt | hge
  · apply hbefore first a _ mid hmid
    apply List.prefix_of_prefix_length_le hpre (List.prefix_append before after)
    rw [List.length_append, List.length_singleton]
    exact hlt
  · obtain ⟨second, rfl⟩ := List.prefix_of_prefix_length_le (List.prefix_append before after)
      ((List.prefix_append first [a]).trans hpre) hge
    obtain ⟨reached, hreached, hsecond⟩ := run_append_eq_some_iff.mp hmid
    rw [List.append_assoc, List.prefix_append_right_inj] at hpre
    exact hafter reached hreached second a hpre mid hsecond

theorem meets_singleton {guard : σ → α → Prop} (h : guard s a) : Meets step guard s [a] := by
  intro before action hpre mid hmid
  cases before with
  | nil =>
      obtain rfl : s = mid := by simpa using hmid
      obtain rfl : action = a := by simpa using hpre
      exact h
  | cons first before =>
      have hlength := hpre.length_le
      simp at hlength

theorem meets_nil {guard : σ → α → Prop} : Meets step guard s [] := by
  intro before a hpre
  simpa using hpre.length_le

theorem meets_cons_iff {guard : σ → α → Prop} :
    Meets step guard s (a :: actions) ↔
      guard s a ∧ ∀ next, step s a = some next → Meets step guard next actions := by
  constructor
  · intro h
    refine ⟨h [] a (by simp) s rfl, fun next hnext before action hpre mid hmid => ?_⟩
    exact h (a :: before) action (List.cons_prefix_cons.mpr ⟨rfl, hpre⟩) mid
      ((run_cons_of_step hnext before).trans hmid)
  · rintro ⟨hguard, hrest⟩
    have hfirst : Meets step guard s [a] := meets_singleton hguard
    refine hfirst.append fun mid hmid => ?_
    obtain ⟨next, hnext, hsame⟩ := run_cons_eq_some_iff.mp hmid
    obtain rfl := Option.some.inj hsame
    exact hrest next hnext

/-- Whether the steps of a given run meet a guard is found by taking them. -/
instance decidableMeets {guard : σ → α → Prop} [∀ s a, Decidable (guard s a)] :
    ∀ (s : σ) (actions : List α), Decidable (Meets step guard s actions)
  | _, [] => .isTrue meets_nil
  | s, a :: actions =>
      match hstep : step s a with
      | none => decidable_of_iff (guard s a) (by simp [meets_cons_iff, hstep])
      | some next =>
          have : Decidable (Meets step guard next actions) := decidableMeets next actions
          decidable_of_iff (guard s a ∧ Meets step guard next actions)
            (by simp [meets_cons_iff, hstep])

/-- What holds at the start and is kept by every allowed step, given the actions so far, holds
at the end of a run. -/
theorem invariant_of_history {guard : σ → α → Prop} {invariant : List α → σ → Prop}
    (hinit : invariant [] s)
    (hstep : ∀ before mid a next, invariant before mid → guard mid a → step mid a = some next →
      invariant (before ++ [a]) next)
    (hmeets : Meets step guard s actions) (hrun : run step s actions = some s') :
    invariant actions s' := by
  induction actions using List.reverseRecOn generalizing s' with
  | nil =>
      obtain rfl : s = s' := by simpa using hrun
      exact hinit
  | append_singleton actions a ih =>
      obtain ⟨mid, hmid, hlast⟩ := run_concat_eq_some_iff.mp hrun
      have hkept := ih (hmeets.of_prefix (List.prefix_append actions [a])) hmid
      exact hstep actions mid a s' hkept (hmeets actions a List.prefix_rfl mid hmid) hlast

theorem invariant_of_meets {guard : σ → α → Prop} {P : σ → Prop} (hinit : P s)
    (hstep : ∀ mid a next, P mid → guard mid a → step mid a = some next → P next)
    (hmeets : Meets step guard s actions) (hrun : run step s actions = some s') : P s' :=
  invariant_of_history hinit (fun _ => hstep) hmeets hrun

/-- What every step keeps, given the actions so far, holds at the end of a run. -/
theorem history_of_run {P : List α → σ → Prop} (hinit : P [] s)
    (hstep : ∀ before mid a next, P before mid → step mid a = some next → P (before ++ [a]) next)
    (hrun : run step s actions = some s') : P actions s' := by
  have hmeets : Meets step (fun _ _ => True) s actions := meets_of_forall fun _ _ _ => trivial
  exact invariant_of_history hinit (fun before mid a next hmid _ => hstep before mid a next hmid)
    hmeets hrun

theorem invariant_of_run {P : σ → Prop} (hinit : P s)
    (hstep : ∀ mid a next, P mid → step mid a = some next → P next)
    (hrun : run step s actions = some s') : P s' :=
  history_of_run (P := fun _ => P) hinit (fun _ => hstep) hrun

/-- Every action of a run that meets a guard was allowed where it was taken. -/
theorem Meets.exists_of_mem {guard : σ → α → Prop} (h : Meets step guard s actions)
    (hrun : run step s actions = some s') (ha : a ∈ actions) : ∃ mid, guard mid a := by
  obtain ⟨before, after, rfl⟩ := List.append_of_mem ha
  obtain ⟨mid, hmid, -⟩ := run_append_eq_some_iff.mp hrun
  exact ⟨mid, h before a (by simp) mid hmid⟩

/-- When every state that is not at rest has an allowed step that lowers its rank, some run of
allowed steps comes to rest. -/
theorem exists_meeting_run_to_rest {guard : σ → α → Prop} {kept atRest : σ → Prop}
    (rank : σ → Nat)
    (hprogress : ∀ mid, kept mid → ¬ atRest mid →
      ∃ a next, guard mid a ∧ step mid a = some next ∧ kept next ∧ rank next < rank mid)
    (hinit : kept s) :
    ∃ actions final, Meets step guard s actions ∧ run step s actions = some final ∧
      kept final ∧ atRest final := by
  induction hrank : rank s using Nat.strongRecOn generalizing s with
  | ind n ih =>
      by_cases hrest : atRest s
      · exact ⟨[], s, meets_nil, rfl, hinit, hrest⟩
      obtain ⟨a, next, ha, hnext, hkept, hlower⟩ := hprogress s hinit hrest
      obtain ⟨actions, final, hmeets, hrun, hfinal⟩ := ih (rank next) (hrank ▸ hlower) hkept rfl
      refine ⟨a :: actions, final, meets_cons_iff.mpr ⟨ha, fun other hother => ?_⟩,
        (run_cons_of_step hnext actions).trans hrun, hfinal⟩
      obtain rfl := Option.some.inj (hnext.symm.trans hother)
      exact hmeets

theorem exists_run_to_rest {allowed : α → Prop} {kept atRest : σ → Prop} (rank : σ → Nat)
    (hprogress : ∀ mid, kept mid → ¬ atRest mid →
      ∃ a next, allowed a ∧ step mid a = some next ∧ kept next ∧ rank next < rank mid)
    (hinit : kept s) :
    ∃ actions final, (∀ a ∈ actions, allowed a) ∧ run step s actions = some final ∧
      kept final ∧ atRest final := by
  obtain ⟨actions, final, hmeets, hrun, hfinal⟩ := exists_meeting_run_to_rest rank hprogress hinit
  refine ⟨actions, final, fun a ha => ?_, hrun, hfinal⟩
  obtain ⟨_, hallowed⟩ := hmeets.exists_of_mem hrun ha
  exact hallowed

/-- A run of legs is the run of their actions. -/
theorem run_legs (legs : List (List α)) : run (run step) s legs = run step s legs.flatten := by
  induction legs generalizing s with
  | nil => rfl
  | cons leg legs ih =>
      ext final
      rw [List.flatten_cons, run_append_eq_some_iff, run_cons_eq_some_iff]
      exact exists_congr fun mid => and_congr_right fun _ => by rw [ih]

/-- A rank that legs of allowed actions lower will do as well. -/
theorem exists_run_of_legs {allowed : α → Prop} {kept atRest : σ → Prop} (rank : σ → Nat)
    (hprogress : ∀ mid, kept mid → ¬ atRest mid →
      ∃ leg next, (∀ a ∈ leg, allowed a) ∧ run step mid leg = some next ∧ kept next ∧
        rank next < rank mid)
    (hinit : kept s) :
    ∃ actions final, (∀ a ∈ actions, allowed a) ∧ run step s actions = some final ∧
      kept final ∧ atRest final := by
  obtain ⟨legs, final, hlegs, hrun, hfinal⟩ := exists_run_to_rest rank hprogress hinit
  refine ⟨legs.flatten, final, fun a ha => ?_, (run_legs legs).symm.trans hrun, hfinal⟩
  obtain ⟨leg, hleg, hmem⟩ := List.mem_flatten.mp ha
  exact hlegs leg hleg a hmem

/-- Steps that all lower a rank are as many as the rank at most. -/
theorem length_le_of_rank {allowed : α → Prop} (rank : σ → Nat)
    (hlower : ∀ mid a next, allowed a → step mid a = some next → rank next < rank mid)
    (hactions : ∀ a ∈ actions, allowed a) (hrun : run step s actions = some s') :
    actions.length + rank s' ≤ rank s := by
  induction actions generalizing s with
  | nil =>
      obtain rfl : s = s' := by simpa using hrun
      simp
  | cons a actions ih =>
      obtain ⟨mid, hmid, hrest⟩ := run_cons_eq_some_iff.mp hrun
      have hfirst := hlower s a mid (hactions a List.mem_cons_self) hmid
      have hafter := ih (fun b hb => hactions b (List.mem_cons_of_mem a hb)) hrest
      rw [List.length_cons]
      omega

end TacacsRs.Rust
