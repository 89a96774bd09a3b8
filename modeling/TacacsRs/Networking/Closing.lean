import TacacsRs.Networking.Isolation

/-!
# Closing against creation

`create_session` reads the permission and inserts into the registry under two
locks, taken one after the other. Once new sessions are disabled every check
refuses; a call that made its check before goes on to register its session.
-/

namespace TacacsRs.Networking.SessionManager

open Rust Messages

/-- The call has returned an error, or its next step makes it return one. -/
def Refuses (manager : SessionManager) (call : Nat) : Prop :=
  (∃ error, manager.creations[call]? = some (.refused error)) ∨
    ∃ next error, manager.advance (.canCreateSessions call) = some next ∧
      next.creations[call]? = some (.refused error)

/-- From here on no id is inserted into the registry, and every call of `create_session` that has
not registered its session by now returns an error, unless its future is dropped. -/
def Closed (manager : SessionManager) : Prop :=
  ∀ actions final, run advance manager actions = some final →
    final.duplexChannels = manager.duplexChannels ∧
      ∀ (call : Nat) (creation : Creation), final.creations[call]? = some creation →
        (∃ sessionId, manager.creations[call]? = some (.created sessionId)) ∨
          creation = .cancelled ∨ final.Refuses call

/-- The calls of `create_session` that are not over have their check still to make. -/
def NonePermitted (manager : SessionManager) : Prop :=
  ∀ creation ∈ manager.creations, creation ≠ .creatingChannel

section Check

variable {manager : SessionManager} {call : Nat}

/-- A check that is made after closing refuses. -/
theorem refuses_of_checking (hclosed : manager.canAcceptNewSessions = false)
    (hcall : manager.creations[call]? = some .checkingPermission) : manager.Refuses call := by
  refine .inr ⟨{ manager with creations := manager.creations.set call (.refused notAccepting) },
    notAccepting, ?_, getElem?_set_of_some hcall _⟩
  simp only [advance, step, hcall, hclosed, Bool.false_eq_true, if_false, Option.map_some]

/-- A call that has made its check returns no error any more. -/
theorem not_refuses_of_creating (hcall : manager.creations[call]? = some .creatingChannel) :
    ¬ manager.Refuses call := by
  rintro (⟨error, hrefused⟩ | ⟨next, error, hnext, -⟩)
  · simp [hcall] at hrefused
  · simp [advance, step, hcall] at hnext

end Check

/-- The manager is closed to new sessions, and its registry is that of `start`; the calls that
are not over have their check still to make. -/
structure Shut (start manager : SessionManager) : Prop where
  closed : manager.canAcceptNewSessions = false
  registry : manager.duplexChannels = start.duplexChannels
  creations : ∀ (call : Nat) (creation : Creation), manager.creations[call]? = some creation →
    (∃ sessionId, start.creations[call]? = some (.created sessionId) ∧
      creation = .created sessionId) ∨ creation = .cancelled ∨
      (∃ error, creation = .refused error) ∨ creation = .checkingPermission

section Shut

variable {start manager next : SessionManager} {action : Action} {event : Event}

theorem shut_disabled (h : manager.NonePermitted) :
    Shut { manager with canAcceptNewSessions := false }
      { manager with canAcceptNewSessions := false } where
  closed := rfl
  registry := rfl
  creations := by
    intro call creation hcall
    cases creation with
    | checkingPermission => exact .inr (.inr (.inr rfl))
    | creatingChannel => exact absurd rfl (h _ (List.mem_of_getElem? hcall))
    | refused error => exact .inr (.inr (.inl ⟨error, rfl⟩))
    | created sessionId => exact .inl ⟨sessionId, hcall, rfl⟩
    | cancelled => exact .inr (.inl rfl)

/-- A call that moves on after closing is refused or cancelled. -/
theorem Shut.set (h : Shut start manager) {call : Nat} {creation : Creation}
    (hover : creation = .cancelled ∨ ∃ error, creation = .refused error) :
    Shut start { manager with creations := manager.creations.set call creation } where
  closed := h.closed
  registry := h.registry
  creations := by
    intro other changed hchanged
    rcases getElem?_set_cases hchanged with ⟨-, rfl⟩ | ⟨-, hold⟩
    · exact .inr (hover.imp_right .inl)
    · exact h.creations other changed hold

theorem Shut.step (h : Shut start manager) (hstep : Step manager action next event) :
    Shut start next := by
  cases hstep with
  | create =>
      refine ⟨h.closed, h.registry, ?_⟩
      intro call creation hcall
      rcases getElem?_append_singleton_cases hcall with ⟨-, rfl⟩ | hold
      · exact .inr (.inr (.inr rfl))
      · exact h.creations call creation hold
  | permit call hcall haccepting =>
      rw [h.closed] at haccepting
      simp at haccepting
  | refuse call => exact h.set (.inr ⟨notAccepting, rfl⟩)
  | cancel call => exact h.set (.inl rfl)
  | register call draws sessionId hcall =>
      have hbefore := h.creations call _ hcall
      simp at hbefore
  | disable => exact ⟨rfl, h.registry, h.creations⟩
  | lookup | reject | deliver | fail | receive | drop =>
      exact ⟨h.closed, h.registry, h.creations⟩

theorem Shut.closed_of_self (h : Shut manager manager) : manager.Closed := by
  intro actions final hrun
  have hshut : Shut manager final := by
    apply invariant_of_run h _ hrun
    intro mid action next hmid hstep
    obtain ⟨event, hcases⟩ := advance_eq_some hstep
    exact hmid.step hcases
  refine ⟨hshut.registry, ?_⟩
  intro call creation hcall
  rcases hshut.creations call creation hcall with
    ⟨sessionId, hcreated, -⟩ | rfl | ⟨error, rfl⟩ | rfl
  · exact .inl ⟨sessionId, hcreated⟩
  · exact .inr (.inl rfl)
  · exact .inr (.inr (.inl ⟨error, hcall⟩))
  · exact .inr (.inr (refuses_of_checking hshut.closed hcall))

end Shut

/-- In every state, disabling new sessions keeps every later id out of the registry and refuses
every call of `create_session` that has not registered its session by then, if and only if no
such call has made its check before. -/
theorem closing_wins_iff (manager : SessionManager) :
    (∀ closed, manager.advance .disableNewSessions = some closed → closed.Closed) ↔
      manager.NonePermitted := by
  constructor
  · rintro h creation hmem rfl
    obtain ⟨call, hcall⟩ := List.mem_iff_getElem?.mp hmem
    obtain ⟨-, hcreations⟩ := h _ rfl [] _ rfl
    rcases hcreations call _ hcall with ⟨sessionId, hcreated⟩ | hcancelled | hrefuses
    · exact absurd (hcall.symm.trans hcreated) (by simp)
    · simp at hcancelled
    · refine not_refuses_of_creating ?_ hrefuses
      exact hcall
  · rintro h closed hclosed
    obtain rfl := Option.some.inj hclosed
    exact (shut_disabled h).closed_of_self

/-- A call makes its check, new sessions are disabled, and the call registers its session. -/
def lateRun : List Action :=
  [.createSession, .canCreateSessions 0, .disableNewSessions, .createChannel 0 [7]]

theorem lateRun_registers :
    ∃ manager, run advance .new lateRun = some manager ∧
      manager.canAcceptNewSessions = false ∧ manager.duplexChannels.lookup 7 = some 0 ∧
      manager.creations = [.created 7] := by
  refine ⟨_, rfl, rfl, ?_, rfl⟩
  decide

end TacacsRs.Networking.SessionManager
