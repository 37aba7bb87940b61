import Jury.LocalState.Calls

-- Local state stays loadable along every run, and the files show what was done to the log: the checkpoint goes only
-- with logs that hold the same events up to the one it has recorded.
namespace Jury.LocalState

open Lib Protocol

variable [Crypto]

section Codes

variable {log longer : AuditLog} {draft : AuditEventDraft}

end Codes

section Steps

variable {keys : PrincipalKeys}

theorem Standing.left_extends (h : Standing keys state) :
    state.audit.events <+: (keys.left state call).audit.events := by
  have hends := h.perform_ends call
  rw [left_eq]
  generalize keys.perform call state = result at hends
  cases hends with
  | unrecorded happend | recorded happend => exact ⟨_, (append_eq_ok happend).symm⟩
  | _ => exact List.prefix_rfl

theorem Standing.left_time (h : Standing keys state) :
    state.checkpoint.updatedAtMs ≤ (keys.left state call).checkpoint.updatedAtMs := by
  have hends := h.perform_ends call
  rw [left_eq]
  generalize keys.perform call state = result at hends
  cases hends with
  | recorded _ htime | caughtUp htime | advanced _ _ _ _ htime => exact htime
  | _ => exact UInt64.le_refl _

end Steps

section Files

variable {keys : PrincipalKeys}

end Files

-- A call that fails may have written its event, but none rewrites or drops one, or turns the checkpoint's time back.
theorem audit_log_append_only (keys : PrincipalKeys) (start : VerifiedState) (hstart : keys.Opened start)
    (calls later : List LocalCall) :
    (keys.calls.final start calls).audit.events <+: (keys.calls.final start (calls ++ later)).audit.events ∧
      (keys.calls.final start calls).checkpoint.updatedAtMs ≤
        (keys.calls.final start (calls ++ later)).checkpoint.updatedAtMs := by
  have hstanding := hstart.sound.standing.final calls
  rw [Machine.final_append]
  generalize keys.calls.final start calls = reached at hstanding ⊢
  refine (Machine.final_preserves (P := fun state : VerifiedState => Standing keys state ∧
    reached.audit.events <+: state.audit.events ∧ reached.checkpoint.updatedAtMs ≤ state.checkpoint.updatedAtMs)
    ⟨hstanding, List.prefix_rfl, UInt64.le_refl _⟩ ?_).2
  rintro state call - ⟨hstate, hgrown, htime⟩
  exact ⟨hstate.left call, hgrown.trans hstate.left_extends, UInt64.le_trans htime hstate.left_time⟩

end Jury.LocalState

namespace Jury.LocalState.Sample

open Lib Protocol Protocol.Sample

theorem audit_log_append_only_refused : ∃ start, keys.initialState candidate 1000 = .ok start ∧
    start.audit.events <+: (keys.calls.final start [callAt 999]).audit.events ∧
      (keys.calls.final start [callAt 999]).audit.events.length = 2 := by
  obtain ⟨start, hstart, hlen⟩ := returns_iff.mp
    (by decide +kernel : Returns (keys.initialState candidate 1000) (fun start =>
      decide ((keys.calls.final start [callAt 999]).audit.events.length = 2)) = true)
  exact ⟨start, hstart, (audit_log_append_only keys start (.new hstart) [] [callAt 999]).1, of_decide_eq_true hlen⟩

end Jury.LocalState.Sample
