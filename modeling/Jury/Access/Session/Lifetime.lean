import Jury.Access.Session.Theorems
import Jury.Lib.Run

-- The life of a session, whoever provides the access: nothing comes back once it has ended, nothing is shown outside
-- its time window, and a pending request is continued with its own binding or not at all.
namespace Jury.Access

open Lib Protocol Vault Policy LocalState Engine

variable {ε α : Type} {phase : SessionPhase} {session after : PrincipalVaultSession} {time : UInt64}
  {token : RevisionToken} {pending : WitnessRequestBinding} {next : Unit → SessionM α}
  {outcome : SessionAccessOutcome α}

theorem final_ite {σ : Type} {P : σ → Prop} {c : Prop} [Decidable c] {x y : EStateM ε σ α} {s : σ}
    (hx : P (finalState (x s))) (hy : P (finalState (y s))) : P (finalState ((if c then x else y) s)) := by
  split
  · exact hx
  · exact hy

abbrev ProviderAnswers (α : Type) : Type :=
  RevisionAccessRequest → Except (ItemAccessError AccessProviderErrorKind) (ItemAccessOutcome α)

structure SessionItemSnapshot where
  itemId : ItemId
  name : List UInt8
  role : AccessRole
  keyEpoch : UInt64
  itemRevision : UInt64
  fieldCount : Option Nat
  updatedAtMs : Option UInt64
deriving DecidableEq

structure SessionSnapshot where
  schema : UInt16
  vaultId : VaultId
  policySequence : UInt64
  policyRevisionHash : Digest32
  principalId : PrincipalId
  phase : SessionPhase
  startedAtMs : UInt64
  lastActivityAtMs : UInt64
  absoluteExpiresAtMs : UInt64
  items : List SessionItemSnapshot
  pendingRequestDigest : Option Digest32
  activeRevision : Option RevisionToken
deriving DecidableEq

namespace PrincipalVaultSession

def snapshotItem (session : PrincipalVaultSession) (entry : AccessibleCatalogEntry) :
    Except SessionErrorKind SessionItemSnapshot := do
  let policyItem ← orReject session.publicVault.policy.items[entry.itemId]? .failed
  let envelope ← orReject (session.publicVault.envelope entry.itemId) .failed
  let metadata := session.bodyMetadata[entry.itemId]?
  return {
    itemId := entry.itemId
    name := entry.name
    role := entry.role
    keyEpoch := policyItem.keyEpoch
    itemRevision := envelope.currentRevision.itemRevision
    fieldCount := metadata.map (·.fieldCount)
    updatedAtMs := metadata.bind (·.updatedAtMs) }

def snapshot (nowMs : UInt64) : SessionM SessionSnapshot := do
  checkLive nowMs
  let session ← get
  let items ← check (session.catalog.mapM session.snapshotItem)
  set { session with lastActivityAtMs := nowMs }
  return {
    schema := 1
    vaultId := session.publicVault.policy.vaultId
    policySequence := session.publicVault.policy.sequence
    policyRevisionHash := session.publicVault.policy.terminalRevisionHash
    principalId := session.principalId
    phase := session.phase
    startedAtMs := session.startedAtMs
    lastActivityAtMs := nowMs
    absoluteExpiresAtMs := session.absoluteExpiresAtMs
    items
    pendingRequestDigest := session.pending.map (·.requestDigest)
    activeRevision := session.activeRevision }

structure Live (session : PrincipalVaultSession) (nowMs : UInt64) : Prop where
  operable : session.phase.isOperable = true
  notBefore : session.lastActivityAtMs ≤ nowMs
  unexpired : nowMs < session.absoluteExpiresAtMs
  active : nowMs - session.lastActivityAtMs < session.limits.inactivityTimeoutMs

structure Ended (session : PrincipalVaultSession) : Prop where
  inoperable : session.phase.isOperable = false
  catalog : session.catalog = []
  bodyMetadata : session.bodyMetadata = ∅
  pending : session.pending = none
  activeRevision : session.activeRevision = none

def OperableOrEnded (session : PrincipalVaultSession) : Prop := session.phase.isOperable = true ∨ session.Ended

theorem enterTerminal_ended (session : PrincipalVaultSession) (hphase : phase.isOperable = false) :
    (session.enterTerminal phase).Ended :=
  ⟨hphase, rfl, rfl, rfl, rfl⟩

inductive LiveCheck (nowMs : UInt64) (session : PrincipalVaultSession) :
    EStateM.Result SessionErrorKind PrincipalVaultSession Unit → Prop where
  | live (h : session.Live nowMs) : LiveCheck nowMs session (.ok () session)
  | inoperable (h : session.phase.isOperable = false) (error : SessionErrorKind) :
      LiveCheck nowMs session (.error error session)
  | ended (h : ¬ session.Live nowMs) (phase : SessionPhase) (hphase : phase.isOperable = false)
      (error : SessionErrorKind) : LiveCheck nowMs session (.error error (session.enterTerminal phase))

theorem checkLive_cases (nowMs : UInt64) (session : PrincipalVaultSession) :
    LiveCheck nowMs session (checkLive nowMs session) := by
  simp only [checkLive, get_bind]
  cases hoperable : session.phase.isOperable with
  | false => exact .inoperable hoperable _
  | true =>
    by_cases hearly : nowMs < session.lastActivityAtMs
    · simp only [Bool.not_true, Bool.false_eq_true, if_false, if_pos hearly]
      exact .ended (fun h => absurd h.notBefore (UInt64.not_le.mpr hearly)) _ rfl _
    · simp only [Bool.not_true, Bool.false_eq_true, if_false, if_neg hearly]
      split
      next hlate =>
        refine .ended (fun h => ?_) _ rfl _
        simp only [ge_iff_le, Bool.or_eq_true, decide_eq_true_eq] at hlate
        rcases hlate with hexpired | hidle
        · exact absurd h.unexpired (UInt64.not_lt.mpr hexpired)
        · exact absurd h.active (UInt64.not_lt.mpr hidle)
      next hwithin =>
        simp only [ge_iff_le, Bool.or_eq_true, decide_eq_true_eq, not_or, UInt64.not_le] at hwithin
        exact .live ⟨hoperable, UInt64.not_lt.mp hearly, hwithin.1, hwithin.2⟩

theorem checkLive_of_live (h : session.Live nowMs) : checkLive nowMs session = .ok () session := by
  have hcases := checkLive_cases nowMs session
  generalize checkLive nowMs session = result at hcases
  cases hcases with
  | live => rfl
  | inoperable hinoperable =>
    rw [h.operable] at hinoperable
    cases hinoperable
  | ended hdead => exact absurd h hdead

theorem live_of_checkLive (h : checkLive nowMs session = .ok u after) : session.Live nowMs ∧ after = session := by
  have hcases := checkLive_cases nowMs session
  rw [h] at hcases
  cases hcases with
  | live hlive => exact ⟨hlive, rfl⟩

theorem live_of_bind {answer : α} (h : (checkLive time >>= next) session = .ok answer after) : session.Live time := by
  obtain ⟨_, _, hlive, -⟩ := state_bind_eq_ok.mp h
  exact (live_of_checkLive hlive).1

-- Behind the check of the clock an operable session is live, and one that is not has ended.
theorem final_checkLive (h : session.OperableOrEnded)
    (hnext : session.Live time → (finalState (next () session)).OperableOrEnded) :
    (finalState ((checkLive time >>= next) session)).OperableOrEnded := by
  refine final_bind_of (fun _ after herror => ?_) fun _ after hok => ?_
  · have hcases := checkLive_cases time session
    rw [herror] at hcases
    cases hcases with
    | inoperable => exact h
    | ended _ phase hphase => exact .inr (session.enterTerminal_ended hphase)
  · obtain ⟨hlive, rfl⟩ := live_of_checkLive hok
    exact hnext hlive

theorem bind_of_inoperable (h : session.phase.isOperable = false) (time : UInt64) (next : Unit → SessionM α) :
    ∃ error, (checkLive time >>= next) session = .error error session := by
  have hdead : checkLive time session = .error (inoperable session.phase) session := by
    simp only [checkLive, get_bind, h, Bool.not_false, if_true]
    rfl
  exact ⟨_, bind_eq_error.mpr (.inl hdead)⟩

end PrincipalVaultSession

theorem failurePhase_inoperable (kind : AccessProviderErrorKind) : (failurePhase kind).isOperable = false := by
  cases kind <;> rfl

def SessionAccessOutcome.completes {α : Type} : SessionAccessOutcome α → Bool
  | .direct _ | .witnessedApproved _ => true
  | _ => false

namespace PrincipalVaultSession

variable {attempt : AccessAttempt}

theorem finish_ended (session : PrincipalVaultSession) (hphase : phase.isOperable = false) :
    (finalState ((finish phase : SessionM (SessionAccessOutcome α)) session)).Ended :=
  session.enterTerminal_ended hphase

theorem applyWitnessStatus_final (binding : Option WitnessRequestBinding) (status : WitnessedAccessStatus)
    (session : PrincipalVaultSession) :
    (finalState ((applyWitnessStatus binding status : SessionM (SessionAccessOutcome α)) session)).OperableOrEnded := by
  cases status with
  | pending => exact .inl rfl
  | _ => exact .inr (finish_ended session rfl)

theorem conclude_final (attempt : AccessAttempt) (token : RevisionToken)
    (outcome : Except (ItemAccessError ε) (ItemAccessOutcome α)) (session : PrincipalVaultSession) :
    (finalState (conclude attempt token outcome session)).OperableOrEnded := by
  match outcome with
  | .error (.provider kind) => exact .inr (finish_ended session (failurePhase_inoperable kind))
  | .error (.consumer _) => exact .inr (finish_ended session rfl)
  | .ok (.witnessed status) =>
    simp only [conclude]
    split
    · exact .inr (finish_ended session rfl)
    · exact applyWitnessStatus_final attempt.binding status session
  | .ok (.complete .direct value) | .ok (.complete .witnessedApproved value) =>
    simp only [conclude, finalState_get_bind]
    split
    · exact .inr (finish_ended session rfl)
    · exact .inl rfl

theorem catalogue_final (itemId : ItemId) (descriptor : ItemDescriptorV1) (h : session.phase.isOperable = true) :
    (finalState (catalogue itemId descriptor session)).OperableOrEnded := by
  have hkept : session.OperableOrEnded := .inl h
  unfold catalogue
  refine final_get (final_check hkept fun _ _ => final_check hkept fun _ _ => ?_)
  exact final_check hkept fun _ _ => .inl h

theorem unlock_final (itemId : ItemId) (state : ItemStateV1) (authority : AccessCompletion)
    (h : session.phase.isOperable = true) : (finalState (unlock itemId state authority session)).OperableOrEnded := by
  unfold unlock
  refine final_get (final_set (final_check ?_ fun _ _ => ?_))
  · exact .inl h
  · exact .inl h

theorem finish_ne_complete (hcomp : outcome.completes = true) (phase : SessionPhase) :
    finish phase session ≠ .ok outcome after := by
  intro h
  simp only [finish, state_eq_ok] at h
  rw [← h.1] at hcomp
  cases phase <;> cases hcomp

theorem conclude_complete {answered : Except (ItemAccessError ε) (ItemAccessOutcome α)}
    (h : conclude attempt token answered session = .ok outcome after) (hcomp : outcome.completes = true) :
    after.phase.isOperable = true := by
  match answered with
  | .error (.provider _) | .error (.consumer _) => exact absurd h (finish_ne_complete hcomp _)
  | .ok (.witnessed status) =>
    simp only [conclude] at h
    split at h
    · exact absurd h (finish_ne_complete hcomp _)
    · cases status with
      | pending =>
        simp only [applyWitnessStatus, state_eq_ok] at h
        rw [← h.1] at hcomp
        cases hcomp
      | _ => exact absurd h (finish_ne_complete hcomp _)
  | .ok (.complete .direct value) | .ok (.complete .witnessedApproved value) =>
    simp only [conclude, get_bind] at h
    split at h
    · exact absurd h (finish_ne_complete hcomp _)
    · simp only [state_eq_ok] at h
      rw [← h.2]
      rfl

variable [Crypto]

theorem checkBinding_terminal {binding : Option WitnessRequestBinding} {nowMs : UInt64}
    (h : session.checkBinding binding token nowMs = .terminal phase) : phase.isOperable = false := by
  unfold checkBinding at h
  split at h
  · cases h
    rfl
  · split at h
    · cases h
    · split at h
      · cases h
        rfl
      · split at h
        · split at h
          · cases h
            rfl
          · cases h
        · split at h <;> cases h

def admitAttempt {α : Type} (answer : ProviderAnswers α) (attempt : AccessAttempt) : SessionM (SessionAccessOutcome α) := do
  let session ← get
  if attempt.cancellation.asked then finish .cancelled
  else
    let policy := session.publicVault.policy
    let envelope ← check (orReject (session.publicVault.envelope attempt.itemId) .unavailable)
    let target ← check ((RevisionAccessTarget.current policy envelope session.principalId attempt.contentRole
      attempt.capability).mapError mapTargetError)
    let token := RevisionToken.current policy target attempt.capability
    match session.checkBinding attempt.binding token attempt.nowMs with
    | .terminal phase => finish phase
    | .invalid => throw .invalidBinding
    | .early binding =>
      set { session with pending := some binding, activeRevision := some token, phase := .witnessPending }
      return .pending
    | .admitted => conclude attempt token (answer { policy, envelope, target, capability := attempt.capability })

def accessThrough {α : Type} (answer : ProviderAnswers α) (attempt : AccessAttempt) :
    SessionM (SessionAccessOutcome α) := do
  checkLive attempt.nowMs
  admitAttempt answer attempt

theorem admit_final (answer : ProviderAnswers α) (attempt : AccessAttempt) (hoperable : session.phase.isOperable = true) :
    (finalState (admitAttempt answer attempt session)).OperableOrEnded := by
  unfold admitAttempt
  refine final_get ?_
  split
  · exact .inr (finish_ended session rfl)
  refine final_check (.inl hoperable) fun envelope _ => final_check (.inl hoperable) fun target _ => ?_
  generalize hchecked : session.checkBinding attempt.binding _ attempt.nowMs = checked
  cases checked with
  | terminal phase => exact .inr (finish_ended session (checkBinding_terminal hchecked))
  | invalid => exact .inl hoperable
  | early => exact .inl rfl
  | admitted => exact conclude_final attempt _ _ session

theorem accessThrough_final (answer : ProviderAnswers α) (attempt : AccessAttempt) (h : session.OperableOrEnded) :
    (finalState (accessThrough answer attempt session)).OperableOrEnded :=
  final_checkLive h fun hlive => admit_final answer attempt hlive.operable

theorem accessThrough_eq_ok {answer : ProviderAnswers α} (h : accessThrough answer attempt session = .ok outcome after) :
    session.Live attempt.nowMs ∧ admitAttempt answer attempt session = .ok outcome after := by
  simp only [accessThrough, state_bind_eq_ok] at h
  obtain ⟨_, _, hlive, h⟩ := h
  obtain ⟨hlive, rfl⟩ := live_of_checkLive hlive
  exact ⟨hlive, h⟩

theorem accessThrough_complete {answer : ProviderAnswers α} (h : accessThrough answer attempt session = .ok outcome after) (hcomp : outcome.completes = true) :
    after.phase.isOperable = true := by
  obtain ⟨-, h⟩ := accessThrough_eq_ok h
  simp only [admitAttempt, get_bind] at h
  split at h
  · exact absurd h (finish_ne_complete hcomp _)
  simp only [state_eq_ok] at h
  obtain ⟨envelope, _, ⟨-, rfl⟩, target, _, ⟨-, rfl⟩, h⟩ := h
  generalize session.checkBinding attempt.binding _ attempt.nowMs = checked at h
  cases checked with
  | terminal => exact absurd h (finish_ne_complete hcomp _)
  | invalid => exact absurd h throw_ne_ok
  | early =>
    simp only [state_eq_ok] at h
    rw [← h.2]
    rfl
  | admitted => exact conclude_complete h hcomp

theorem admit_of_mismatch (hpend : session.pending = some pending)
    (hother : attempt.binding ≠ some pending) (answer other : ProviderAnswers α) :
    admitAttempt answer attempt session = admitAttempt other attempt session := by
  have hchecked : ∀ token, session.checkBinding attempt.binding token attempt.nowMs = .terminal .replay := by
    intro token
    simp [checkBinding, hpend, hother]
  simp only [admitAttempt, get_bind, hchecked]

theorem admit_replay {envelope : ItemEnvelopeV1} {target : RevisionAccessTarget}
    (hpend : session.pending = some pending) (hother : attempt.binding ≠ some pending)
    (hasked : attempt.cancellation.asked = false) (hfound : session.publicVault.envelope attempt.itemId = some envelope)
    (htarget : RevisionAccessTarget.current session.publicVault.policy envelope session.principalId
      attempt.contentRole attempt.capability = .ok target) (answer : ProviderAnswers α) :
    admitAttempt answer attempt session = .ok .replay (session.enterTerminal .replay) := by
  have hchecked : ∀ token, session.checkBinding attempt.binding token attempt.nowMs = .terminal .replay := by
    intro token
    simp [checkBinding, hpend, hother]
  simp only [admitAttempt, get_bind, hasked, Bool.false_eq_true, if_false, hfound, hchecked]
  refine state_bind_eq_ok.mpr ⟨envelope, session, rfl, state_bind_eq_ok.mpr ⟨target, session, ?_, rfl⟩⟩
  rw [htarget]
  rfl

def discoverThrough (answer : ProviderAnswers ItemDescriptorV1) (itemId : ItemId)
    (binding : Option WitnessRequestBinding) (nowMs : UInt64) (cancellation : CancellationCheck) :
    SessionM (SessionAccessOutcome Unit) := do
  let session ← get
  if session.catalog.any fun entry => entry.itemId == itemId then
    checkLive nowMs
    return .direct ()
  else
    let outcome ← accessThrough answer
      { itemId, contentRole := .descriptor, capability := .read, binding, nowMs, cancellation }
    match outcome with
    | .direct descriptor => do
      catalogue itemId descriptor
      return .direct ()
    | .witnessedApproved descriptor => do
      catalogue itemId descriptor
      return .witnessedApproved ()
    | .pending => return .pending
    | .denied => return .denied
    | .expired => return .expired
    | .stale => return .stale
    | .replay => return .replay
    | .unavailable => return .unavailable
    | .cancelled => return .cancelled
    | .failed => return .failed
    | .insufficientQuorum => return .insufficientQuorum

def openThrough (answer : ProviderAnswers ItemStateV1) (selector : List UInt8) (capability : Capability)
    (binding : Option WitnessRequestBinding) (nowMs : UInt64) (cancellation : CancellationCheck) :
    SessionM (SessionAccessOutcome UnlockedItem) := do
  let session ← get
  let itemId ← check (session.resolve selector)
  let outcome ← accessThrough answer { itemId, contentRole := .body, capability, binding, nowMs, cancellation }
  match outcome with
  | .direct state => return .direct (← unlock itemId state .direct)
  | .witnessedApproved state => return .witnessedApproved (← unlock itemId state .witnessedApproved)
  | .pending => return .pending
  | .denied => return .denied
  | .expired => return .expired
  | .stale => return .stale
  | .replay => return .replay
  | .unavailable => return .unavailable
  | .cancelled => return .cancelled
  | .failed => return .failed
  | .insufficientQuorum => return .insufficientQuorum

end PrincipalVaultSession

section Providers

variable [Crypto] [ContentCrypto]

def ItemAccessProvider.answers {α : Type} (provider : ItemAccessProvider) (cancellation : CancellationCheck)
    (consumer : ScopedRevisionAccess → Except AccessProviderErrorKind α) : ProviderAnswers α := fun request =>
  provider.accessRevision request cancellation fun access => .ofExcept (consumer access)

theorem discoverDescriptor_eq (provider : ItemAccessProvider) (itemId : ItemId)
    (binding : Option WitnessRequestBinding) (nowMs : UInt64) (cancellation : CancellationCheck) :
    PrincipalVaultSession.discoverDescriptor provider itemId binding nowMs cancellation =
      PrincipalVaultSession.discoverThrough (provider.answers cancellation (·.openDescriptor)) itemId binding nowMs
        cancellation := rfl

theorem openItem_eq (provider : ItemAccessProvider) (selector : List UInt8) (capability : Capability)
    (binding : Option WitnessRequestBinding) (nowMs : UInt64) (cancellation : CancellationCheck) :
    PrincipalVaultSession.openItem provider selector capability binding nowMs cancellation =
      PrincipalVaultSession.openThrough (provider.answers cancellation (·.openBody)) selector capability binding nowMs
        cancellation := rfl

end Providers

inductive SessionStep where
  | discoverDescriptor (answer : ProviderAnswers ItemDescriptorV1) (itemId : ItemId)
      (binding : Option WitnessRequestBinding) (nowMs : UInt64) (cancellation : CancellationCheck)
  | openItem (answer : ProviderAnswers ItemStateV1) (selector : List UInt8) (capability : Capability)
      (binding : Option WitnessRequestBinding) (nowMs : UInt64) (cancellation : CancellationCheck)
  | preflightItems (selectors : List (List UInt8)) (nowMs : UInt64)
  | snapshot (nowMs : UInt64)
  | refreshSame (vault : ValidatedPublicVault) (checkpoint : LocalCheckpoint)
      (witnessPolicyCheckpointDigest : Option Digest32) (nowMs : UInt64)
  | cancel
  | lock

inductive StepAnswer where
  | discovered (outcome : SessionAccessOutcome Unit)
  | opened (outcome : SessionAccessOutcome UnlockedItem)
  | preflighted (itemIds : List ItemId)
  | shown (snapshot : SessionSnapshot)
  | done

-- An answer that gives plaintext of an item, or comes of plaintext that was opened.
def StepAnswer.showsContent : StepAnswer → Bool
  | discovered outcome => outcome.completes
  | opened outcome => outcome.completes
  | shown _ => true
  | preflighted _ | done => false

namespace SessionStep

def nowMs : SessionStep → Option UInt64
  | discoverDescriptor _ _ _ nowMs _ | openItem _ _ _ _ nowMs _ | preflightItems _ nowMs | snapshot nowMs
  | refreshSame _ _ _ nowMs => some nowMs
  | cancel | lock => none

def binding : SessionStep → Option (Option WitnessRequestBinding)
  | discoverDescriptor _ _ binding _ _ | openItem _ _ _ binding _ _ => some binding
  | _ => none

def through (step : SessionStep) (descriptors : ProviderAnswers ItemDescriptorV1)
    (states : ProviderAnswers ItemStateV1) : SessionStep :=
  match step with
  | discoverDescriptor _ itemId binding nowMs cancellation =>
    discoverDescriptor descriptors itemId binding nowMs cancellation
  | openItem _ selector capability binding nowMs cancellation =>
    openItem states selector capability binding nowMs cancellation
  | step => step

-- The access that a call comes to: not if the descriptor is known, nor if the selector names nothing.
def attempt (session : PrincipalVaultSession) : SessionStep → Option AccessAttempt
  | discoverDescriptor _ itemId binding nowMs cancellation =>
    if session.catalog.any fun entry => entry.itemId == itemId then none
    else some { itemId, contentRole := .descriptor, capability := .read, binding, nowMs, cancellation }
  | openItem _ selector capability binding nowMs cancellation =>
    (session.resolve selector).toOption.map fun itemId =>
      { itemId, contentRole := .body, capability, binding, nowMs, cancellation }
  | _ => none

open PrincipalVaultSession

variable [Crypto]

def perform : SessionStep → SessionM StepAnswer
  | discoverDescriptor answer itemId binding nowMs cancellation =>
    .discovered <$> discoverThrough answer itemId binding nowMs cancellation
  | openItem answer selector capability binding nowMs cancellation =>
    .opened <$> openThrough answer selector capability binding nowMs cancellation
  | preflightItems selectors nowMs => .preflighted <$> PrincipalVaultSession.preflightItems selectors nowMs
  | snapshot nowMs => .shown <$> PrincipalVaultSession.snapshot nowMs
  | refreshSame vault checkpoint witnessPolicyCheckpointDigest nowMs => do
    PrincipalVaultSession.refreshSame vault checkpoint witnessPolicyCheckpointDigest nowMs
    return .done
  | cancel => do
    modify (·.enterTerminal .cancelled)
    return .done
  | lock => do
    modify (·.enterTerminal .locked)
    return .done

theorem perform_live {step : SessionStep} {answer : StepAnswer} (h : step.perform session = .ok answer after)
    (htime : step.nowMs = some time) : session.Live time := by
  cases step with
  | discoverDescriptor provided itemId binding nowMs cancellation =>
    obtain rfl := Option.some.inj htime
    obtain ⟨outcome, h, -⟩ := state_map_eq_ok.mp h
    simp only [discoverThrough, get_bind] at h
    split at h
    · exact live_of_bind h
    · obtain ⟨_, _, haccess, -⟩ := state_bind_eq_ok.mp h
      exact (accessThrough_eq_ok haccess).1
  | openItem provided selector capability binding nowMs cancellation =>
    obtain rfl := Option.some.inj htime
    obtain ⟨outcome, h, -⟩ := state_map_eq_ok.mp h
    simp only [openThrough, state_eq_ok] at h
    obtain ⟨_, _, ⟨-, rfl⟩, _, _, haccess, -⟩ := h
    exact (accessThrough_eq_ok haccess).1
  | preflightItems selectors nowMs =>
    obtain rfl := Option.some.inj htime
    obtain ⟨itemIds, h, -⟩ := state_map_eq_ok.mp h
    exact live_of_bind h
  | snapshot nowMs =>
    obtain rfl := Option.some.inj htime
    obtain ⟨shown, h, -⟩ := state_map_eq_ok.mp h
    exact live_of_bind h
  | refreshSame vault checkpoint digest nowMs =>
    obtain rfl := Option.some.inj htime
    obtain ⟨_, _, h, -⟩ := state_bind_eq_ok.mp h
    exact live_of_bind h
  | cancel | lock => cases htime

section Ended

variable {session : PrincipalVaultSession}

theorem perform_ended (h : session.Ended) (step : SessionStep) : (finalState (step.perform session)).Ended := by
  have hsame : ∀ {α : Type} {x : SessionM α}, (∃ error, x session = .error error session) →
      ∀ {β : Type} (f : α → β), (finalState ((f <$> x) session)).Ended := by
    rintro α x ⟨error, hx⟩ β f
    simp only [Functor.map, EStateM.map, hx]
    exact h
  cases step with
  | discoverDescriptor provided itemId binding nowMs cancellation =>
    refine hsame ?_ _
    simp only [discoverThrough, get_bind, h.catalog, List.any_nil, Bool.false_eq_true, if_false]
    obtain ⟨error, hdead⟩ := bind_of_inoperable h.inoperable nowMs fun _ =>
      admitAttempt provided { itemId, contentRole := .descriptor, capability := .read, binding, nowMs, cancellation }
    exact ⟨error, bind_eq_error.mpr (.inl hdead)⟩
  | openItem provided selector capability binding nowMs cancellation =>
    refine hsame ⟨.unavailable, ?_⟩ _
    simp only [openThrough, get_bind]
    refine bind_eq_error.mpr (.inl ?_)
    simp [resolve, h.catalog, orReject, Except.map, check]
  | preflightItems selectors nowMs => exact hsame (bind_of_inoperable h.inoperable nowMs _) _
  | snapshot nowMs => exact hsame (bind_of_inoperable h.inoperable nowMs _) _
  | refreshSame vault checkpoint digest nowMs =>
    obtain ⟨error, hdead⟩ : ∃ error, PrincipalVaultSession.refreshSame vault checkpoint digest nowMs session =
        .error error session := bind_of_inoperable h.inoperable nowMs _
    have hfinal : (SessionStep.refreshSame vault checkpoint digest nowMs).perform session = .error error session :=
      bind_eq_error.mpr (.inl hdead)
    rw [hfinal]
    exact h
  | cancel | lock => exact session.enterTerminal_ended rfl

theorem perform_final (h : session.OperableOrEnded) (step : SessionStep) :
    (finalState (step.perform session)).OperableOrEnded := by
  rcases h with hoperable | hended
  swap
  · exact .inr (perform_ended hended step)
  have hmap : ∀ {α β : Type} (f : α → β) (x : SessionM α), finalState ((f <$> x) session) = finalState (x session) := by
    intro α β f x
    simp only [Functor.map, EStateM.map]
    cases x session <;> rfl
  have hkept : session.OperableOrEnded := .inl hoperable
  cases step with
  | discoverDescriptor provided itemId binding nowMs cancellation =>
    rw [perform, hmap, discoverThrough]
    refine final_get ?_
    split
    · exact final_checkLive hkept fun _ => hkept
    · refine final_seq (accessThrough_final provided _ hkept) fun outcome after hok haccess => ?_
      cases outcome with
      | direct descriptor | witnessedApproved descriptor =>
        exact final_seq (catalogue_final itemId descriptor (accessThrough_complete hok rfl)) fun _ _ _ h => h
      | _ => exact haccess
  | openItem provided selector capability binding nowMs cancellation =>
    rw [perform, hmap, openThrough]
    refine final_get (final_check hkept fun itemId _ => ?_)
    refine final_seq (accessThrough_final provided _ hkept) fun outcome after hok haccess => ?_
    cases outcome with
    | direct state | witnessedApproved state =>
      exact final_seq (unlock_final itemId state _ (accessThrough_complete hok rfl)) fun _ _ _ h => h
    | _ => exact haccess
  | preflightItems selectors nowMs =>
    rw [perform, hmap, PrincipalVaultSession.preflightItems]
    exact final_checkLive hkept fun _ =>
      final_get (final_check hkept fun _ _ => final_check hkept fun _ _ => .inl hoperable)
  | snapshot nowMs =>
    rw [perform, hmap, PrincipalVaultSession.snapshot]
    exact final_checkLive hkept fun _ => final_get (final_check hkept fun _ _ => .inl hoperable)
  | refreshSame vault checkpoint digest nowMs =>
    refine final_seq ?_ fun _ _ _ h => h
    unfold PrincipalVaultSession.refreshSame
    exact final_checkLive hkept fun _ => final_get (final_ite (.inl rfl) (.inr (session.enterTerminal_ended rfl)))
  | cancel | lock => exact .inr (session.enterTerminal_ended rfl)

end Ended

section Pending

variable {session : PrincipalVaultSession} {pending : WitnessRequestBinding} {step : SessionStep} {attempt : AccessAttempt}

theorem accessThrough_of_mismatch (hpend : session.pending = some pending)
    (hother : attempt.binding ≠ some pending) (answer other : ProviderAnswers α) :
    accessThrough answer attempt session = accessThrough other attempt session := by
  unfold accessThrough
  simp only [bind, EStateM.bind]
  cases hlive : checkLive attempt.nowMs session with
  | error => rfl
  | ok _ after =>
    obtain ⟨-, rfl⟩ := live_of_checkLive hlive
    exact admit_of_mismatch hpend hother answer other

theorem perform_through (hpend : session.pending = some pending)
    (hother : ∀ shown, step.binding = some shown → shown ≠ some pending)
    (descriptors : ProviderAnswers ItemDescriptorV1) (states : ProviderAnswers ItemStateV1) :
    (step.through descriptors states).perform session = step.perform session := by
  cases step with
  | discoverDescriptor provided itemId binding nowMs cancellation =>
    have hsame : ∀ attempt : AccessAttempt, attempt.binding = binding →
        accessThrough descriptors attempt session = accessThrough provided attempt session := fun attempt hbinding =>
      accessThrough_of_mismatch hpend (hbinding ▸ hother _ rfl) descriptors provided
    have hequal : discoverThrough descriptors itemId binding nowMs cancellation session =
        discoverThrough provided itemId binding nowMs cancellation session := by
      simp only [discoverThrough, get_bind]
      by_cases hknown : (session.catalog.any fun entry => entry.itemId == itemId) = true
      · simp only [if_pos hknown]
      · simp only [if_neg hknown, bind, EStateM.bind, hsame]
    simp only [through, perform, Functor.map, EStateM.map, hequal]
  | openItem provided selector capability binding nowMs cancellation =>
    have hsame : ∀ attempt : AccessAttempt, attempt.binding = binding →
        accessThrough states attempt session = accessThrough provided attempt session := fun attempt hbinding =>
      accessThrough_of_mismatch hpend (hbinding ▸ hother _ rfl) states provided
    have hequal : openThrough states selector capability binding nowMs cancellation session =
        openThrough provided selector capability binding nowMs cancellation session := by
      simp only [openThrough, get_bind]
      cases hresolved : session.resolve selector with
      | error => rfl
      | ok itemId => simp only [bind, EStateM.bind, check, hsame]
    simp only [through, perform, Functor.map, EStateM.map, hequal]
  | _ => rfl

structure Reaches (session : PrincipalVaultSession) (step : SessionStep) (attempt : AccessAttempt) : Prop where
  accesses : step.attempt session = some attempt
  live : session.Live attempt.nowMs
  uncancelled : attempt.cancellation.asked = false
  resolved : ∃ envelope target, session.publicVault.envelope attempt.itemId = some envelope ∧
    RevisionAccessTarget.current session.publicVault.policy envelope session.principalId attempt.contentRole
      attempt.capability = .ok target

def replayed : SessionStep → StepAnswer
  | openItem .. => .opened .replay
  | _ => .discovered .replay

theorem accessThrough_replay (hreaches : Reaches session step attempt)
    (hpend : session.pending = some pending) (hother : attempt.binding ≠ some pending) (answer : ProviderAnswers α) :
    accessThrough answer attempt session = .ok .replay (session.enterTerminal .replay) := by
  obtain ⟨envelope, target, hfound, htarget⟩ := hreaches.resolved
  have hadmit := admit_replay hpend hother hreaches.uncancelled hfound htarget answer
  exact state_bind_eq_ok.mpr ⟨(), session, checkLive_of_live hreaches.live, hadmit⟩

theorem perform_replay (hreaches : Reaches session step attempt)
    (hpend : session.pending = some pending) (hother : step.binding ≠ some (some pending)) :
    step.perform session = .ok step.replayed (session.enterTerminal .replay) := by
  have haccesses := hreaches.accesses
  cases step with
  | discoverDescriptor provided itemId binding nowMs cancellation =>
    simp only [SessionStep.attempt] at haccesses
    split at haccesses
    · cases haccesses
    next hnew =>
      obtain rfl := Option.some.inj haccesses
      have hreplay := accessThrough_replay hreaches hpend (fun h => hother (congrArg some h)) provided
      refine state_map_eq_ok.mpr ⟨.replay, ?_, rfl⟩
      simp only [discoverThrough, get_bind, if_neg hnew]
      exact state_bind_eq_ok.mpr ⟨.replay, _, hreplay, rfl⟩
  | openItem provided selector capability binding nowMs cancellation =>
    simp only [SessionStep.attempt, Option.map_eq_some_iff] at haccesses
    obtain ⟨itemId, hresolved, rfl⟩ := haccesses
    have hresolved : session.resolve selector = .ok itemId := by
      cases hresult : session.resolve selector with
      | error => rw [hresult] at hresolved; cases hresolved
      | ok found =>
        rw [hresult] at hresolved
        rw [Option.some.inj hresolved]
    have hreplay := accessThrough_replay hreaches hpend (fun h => hother (congrArg some h)) provided
    refine state_map_eq_ok.mpr ⟨.replay, ?_, rfl⟩
    simp only [openThrough, get_bind, hresolved]
    exact state_bind_eq_ok.mpr ⟨itemId, session, rfl, state_bind_eq_ok.mpr ⟨.replay, _, hreplay, rfl⟩⟩
  | _ => cases haccesses

end Pending

end SessionStep

theorem startSession_operable {checkpoint : LocalCheckpoint} {digest : Option Digest32}
    (h : startSession vault principalId checkpoint digest limits nowMs = .ok session) :
    session.phase.isOperable = true := by
  simp only [startSession, eq_ok] at h
  obtain ⟨_, -, _, -, _, -, _, -, _, -, _, -, rfl⟩ := h
  rfl

def sessions [Crypto] : Machine PrincipalVaultSession SessionStep (Except SessionErrorKind StepAnswer) where
  step session step := match step.perform session with
    | .ok answer after => (.ok answer, after)
    | .error error after => (.error error, after)

abbrev SessionEvent := Event PrincipalVaultSession SessionStep (Except SessionErrorKind StepAnswer)

section Runs

variable [Crypto]

theorem sessions_after (session : PrincipalVaultSession) (step : SessionStep) :
    (sessions.step session step).2 = finalState (step.perform session) := by
  unfold sessions
  dsimp only
  cases step.perform session <;> rfl

theorem sessions_output (h : (sessions.step session step).1 = .ok answer) :
    ∃ after, step.perform session = .ok answer after := by
  unfold sessions at h
  dsimp only at h
  cases hresult : step.perform session with
  | error =>
    rw [hresult] at h
    cases h
  | ok found after =>
    rw [hresult] at h
    cases h
    exact ⟨after, rfl⟩

theorem final_operableOrEnded {start : PrincipalVaultSession} (hstart : start.phase.isOperable = true)
    (steps : List SessionStep) : (sessions.final start steps).OperableOrEnded := by
  refine Machine.final_preserves (P := PrincipalVaultSession.OperableOrEnded) (.inl hstart) fun session step _ h => ?_
  rw [sessions_after]
  exact SessionStep.perform_final h step

structure StaysEnded (event : SessionEvent) : Prop where
  before : event.before.Ended
  after : event.after.Ended
  silent : ∀ answer, event.output = .ok answer → answer.showsContent = false

theorem trace_staysEnded (h : session.Ended) (steps : List SessionStep) :
    ∀ event ∈ sessions.trace session steps, StaysEnded event := by
  refine Machine.forall_trace (P := PrincipalVaultSession.Ended) h (fun session step _ h => ?_)
    fun session step _ h => ?_
  · rw [sessions_after]
    exact SessionStep.perform_ended h step
  · refine ⟨h, ?_, fun answer hanswer => ?_⟩
    · have hafter := sessions_after session step
      rw [Machine.event, hafter]
      exact SessionStep.perform_ended h step
    · obtain ⟨after, hperform⟩ := sessions_output hanswer
      cases htime : step.nowMs with
      | some time =>
        have hoperable := (SessionStep.perform_live hperform htime).operable
        rw [h.inoperable] at hoperable
        cases hoperable
      | none =>
        cases step with
        | cancel | lock =>
          cases hperform
          rfl
        | _ => cases htime

theorem session_lifetime (vault : ValidatedPublicVault) (principalId : PrincipalId) (checkpoint : LocalCheckpoint)
    (digest : Option Digest32) (limits : SessionLimits) (startedAtMs : UInt64) (start : PrincipalVaultSession)
    (hstart : startSession vault principalId checkpoint digest limits startedAtMs = .ok start)
    (earlier : List SessionStep) :
    ((sessions.final start earlier).phase.isOperable = false →
      ∀ later, ∀ event ∈ sessions.trace (sessions.final start earlier) later, StaysEnded event) ∧
    (∀ (step : SessionStep) (answer : StepAnswer) (after : PrincipalVaultSession),
      step.perform (sessions.final start earlier) = .ok answer after → answer.showsContent = true →
      ∃ nowMs, step.nowMs = some nowMs ∧ (sessions.final start earlier).Live nowMs) ∧
    ∀ (step : SessionStep) (pending : WitnessRequestBinding),
      (sessions.final start earlier).pending = some pending →
      (∀ shown, step.binding = some shown → shown ≠ some pending) →
      (∀ descriptors states, (step.through descriptors states).perform (sessions.final start earlier) =
        step.perform (sessions.final start earlier)) ∧
      ∀ attempt, SessionStep.Reaches (sessions.final start earlier) step attempt →
        step.perform (sessions.final start earlier) =
          .ok step.replayed ((sessions.final start earlier).enterTerminal .replay) := by
  have hfinal := final_operableOrEnded (startSession_operable hstart) earlier
  generalize sessions.final start earlier = session at hfinal ⊢
  refine ⟨fun hinoperable later => ?_, fun step answer after hperform hshows => ?_,
    fun step pending hpend hother => ⟨SessionStep.perform_through hpend hother, fun attempt hreaches => ?_⟩⟩
  · rcases hfinal with hoperable | hended
    · rw [hinoperable] at hoperable
      cases hoperable
    · exact trace_staysEnded hended later
  · cases htime : step.nowMs with
    | some time => exact ⟨time, rfl, SessionStep.perform_live hperform htime⟩
    | none =>
      cases step with
      | cancel | lock =>
        cases hperform
        cases hshows
      | _ => cases htime
  · exact SessionStep.perform_replay hreaches hpend fun h => hother _ h rfl

end Runs

end Jury.Access

namespace Jury.Access.Sample

open Lib Protocol.Sample Policy.Sample Engine.Sample

def earlyBinding : WitnessRequestBinding := { bindingFor 1 descriptorToken with notBeforeMs := some 3500 }

def waiting : SessionStep :=
  .discoverDescriptor (fun _ => .error (.provider .providerFailure)) witnessedItem (some earlyBinding) 3200 uncancelled

theorem started_eq_ok (h : started = .ok session) :
    ∃ vault limits, startSession vault owner acceptedCheckpoint (some (digestOf dealtCheckpoint.digest)) limits 2900 =
      .ok session := by
  simp only [started, bind_eq_ok] at h
  obtain ⟨vault, -, limits, -, hstart⟩ := h
  exact ⟨vault, limits, hstart⟩

theorem session_lifetime_locked : ∃ session, started = .ok session ∧
    ∀ event ∈ sessions.trace (sessions.final session [waiting, .lock]) [waiting, .snapshot 3300],
      StaysEnded event := by
  obtain ⟨session, hstarted⟩ := exists_eq_ok_of_isOk (by decide +kernel : started.isOk = true)
  obtain ⟨vault, limits, hstart⟩ := started_eq_ok hstarted
  exact ⟨session, hstarted, (session_lifetime vault owner acceptedCheckpoint _ limits 2900 session hstart
    [waiting, .lock]).1 rfl [waiting, .snapshot 3300]⟩

-- While the request is pending, a selector that names nothing is refused, and the request stays pending.
theorem unknown_selector_keeps_pending : ∃ session, started = .ok session ∧
    (sessions.final session [waiting]).pending = some earlyBinding ∧
    (sessions.final session [waiting, .openItem (fun _ => .error (.provider .providerFailure)) [0x62] .read none 3300
      uncancelled]).phase = .witnessPending := by
  obtain ⟨session, hstarted, hpend⟩ := returns_iff.mp (by decide +kernel :
    Returns started (fun session => decide ((sessions.final session [waiting]).pending = some earlyBinding ∧
      (sessions.final session [waiting, .openItem (fun _ => .error (.provider .providerFailure)) [0x62] .read none 3300
        uncancelled]).phase = .witnessPending)) = true)
  obtain ⟨hpend, hphase⟩ := of_decide_eq_true hpend
  exact ⟨session, hstarted, hpend, hphase⟩

end Jury.Access.Sample
