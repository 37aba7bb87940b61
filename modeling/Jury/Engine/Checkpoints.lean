import Jury.Engine.Stability

-- The checkpoints of a vault follow one another in one chain, and a request that names an older one is
-- never approved after the advance.
namespace Jury.Engine

open Lib Protocol Witness Policy

variable [Crypto]

variable {checkpoint : VaultPolicyCheckpointV1} {vault : RegisteredWitnessVault} {call : Call} {world : World}

structure Succeeds (old new : VaultPolicyCheckpointV1) : Prop where
  sequence : new.vaultPolicySequence.toNat = old.vaultPolicySequence.toNat + 1
  predecessor : old.digest = .ok new.predecessorCheckpointDigest
  later : old.issuedAtMs < new.issuedAtMs

theorem validateSuccessor_eq_ok (h : validateSuccessor current checkpoint = .ok u) : Succeeds current checkpoint := by
  simp only [validateSuccessor, eq_ok, orRefuse_eq_ok, passed, beq_eq_false_iff_ne, UInt64.not_lt, UInt64.not_le] at h
  obtain ⟨_, hbehind, _, hdiff, _, hnext, predecessor, hpred, hnamed, hlater⟩ := h
  refine ⟨?_, hnamed.symm ▸ hpred, hlater⟩
  -- Saturation would leave the sequence where it is, which is a fork.
  have hsum : checkpoint.vaultPolicySequence.toNat = min (current.vaultPolicySequence.toNat + 1) (2 ^ 64 - 1) := by
    rw [hnext, toNat_saturatingAdd]
    rfl
  have hle := UInt64.le_iff_toNat_le.mp hbehind
  have hne : checkpoint.vaultPolicySequence.toNat ≠ current.vaultPolicySequence.toNat :=
    fun heq => hdiff (UInt64.toNat_inj.mp heq)
  omega

abbrev Chain : VaultPolicyCheckpointV1 → VaultPolicyCheckpointV1 → Prop := Relation.ReflTransGen Succeeds

theorem Chain.sequence_le (h : Chain old new) : old.vaultPolicySequence ≤ new.vaultPolicySequence := by
  induction h with
  | refl => exact UInt64.le_refl _
  | tail _ hstep ih =>
    have hnext := hstep.sequence
    rw [UInt64.le_iff_toNat_le] at ih ⊢
    omega

-- A request that names a checkpoint of the vault from this one on.
def NamesFrom (checkpoint : VaultPolicyCheckpointV1) (request : WitnessRequestV1) : Prop :=
  ∃ named, Chain checkpoint named ∧ named.digest = .ok request.policyCheckpointDigest ∧
    request.vaultPolicySequence = named.vaultPolicySequence

section Steps

variable {context : EngineContext} {operation : Operation} {before after : WitnessLogicalState} {vaultId : VaultId}
  {current : RegisteredWitnessVault}

theorem VaultStep.succeeds (h : VaultStep context operation before after)
    (hcur : before.vaults[vaultId]? = some current) :
    ∃ vault, after.vaults[vaultId]? = some vault ∧ vault.acceptedRegistration = current.acceptedRegistration ∧
      (vault = current ∨ Succeeds current.currentCheckpoint vault.currentCheckpoint) := by
  cases h with
  | kept hvaults => exact ⟨current, hvaults ▸ hcur, rfl, .inl rfl⟩
  | @registered _ _ checkpoint _ _ _ hnew hvaults =>
    have hother : vaultId ≠ checkpoint.vaultId := by
      rintro rfl
      rw [hnew] at hcur
      cases hcur
    refine ⟨current, ?_, rfl, .inl rfl⟩
    rw [hvaults, getElem?_insert_ne _ _ hother]
    exact hcur
  | @advanced _ checkpoint material found _ _ _ hfound _ hsuccessor hvaults =>
    by_cases hsame : vaultId = checkpoint.vaultId
    · subst hsame
      obtain rfl := some_unique hfound hcur
      have hafter : after.vaults[checkpoint.vaultId]? =
          some { found with currentCheckpoint := checkpoint, currentPolicyMaterial := material } := by
        rw [hvaults, Std.ExtTreeMap.getElem?_insert_self]
      exact ⟨_, hafter, rfl, .inr (validateSuccessor_eq_ok hsuccessor)⟩
    · refine ⟨current, ?_, rfl, .inl rfl⟩
      rw [hvaults, getElem?_insert_ne _ _ hsame]
      exact hcur

-- A change of a registered vault is an advance to its new checkpoint, which closes the open requests of
-- that vault and leaves everything else.
structure Advances (context : EngineContext) (operation : Operation) (before after : WitnessLogicalState)
    (vaultId : VaultId) (current vault : RegisteredWitnessVault) : Prop where
  operation : ∃ policy material policies, operation = .advanceCheckpoint policy vault.currentCheckpoint material ∧
    validateCheckpointPublic policy.state vault.currentCheckpoint = .ok policies
  successor : Succeeds current.currentCheckpoint vault.currentCheckpoint
  registration : vault.acceptedRegistration = current.acceptedRegistration
  vaults : ∀ other, other ≠ vaultId → after.vaults[other]? = before.vaults[other]?
  stale : ∀ (key : ReplayKey) (entry : WitnessReplayEntry), before.replay[key]? = some entry → key.1 = vaultId →
    entry.state = .reserved → ∃ response,
      IsDenial entry.request entry.actionManifestDigest .stalePolicy (nextGeneration before) context.wallTimeMs response ∧
      after.replay[key]? = some { entry with state := .denied, response := some response }
  replay : ∀ key : ReplayKey,
    (∀ entry, before.replay[key]? = some entry → key.1 = vaultId → entry.state ≠ .reserved) →
      after.replay[key]? = before.replay[key]?

theorem EntryStep.of_advance {policy : ReplayedPolicy} {material : PolicyMaterialBytes}
    (h : EntryStep context (.advanceCheckpoint policy checkpoint material) before key old new) :
    new = old ∨ key.1 = checkpoint.vaultId ∧ ∃ known response, old = some known ∧ known.state = .reserved ∧
      IsDenial known.request known.actionManifestDigest .stalePolicy (nextGeneration before) context.wallTimeMs
        response ∧ new = some { known with state := .denied, response := some response } := by
  cases h with
  | kept => exact .inl rfl
  | stale hop hvault hres hdenial =>
    cases hop
    exact .inr ⟨hvault, _, _, rfl, hres, hdenial, rfl⟩
  | reserved hop | conflicted hop | cancelled hop | tombstoned hop | decided hop
    | compacted hop => cases hop

theorem LogicalStep.advances (h : LogicalStep context operation before after)
    (hcur : before.vaults[vaultId]? = some current) (hvault : after.vaults[vaultId]? = some vault)
    (hchanged : vault ≠ current) : Advances context operation before after vaultId current vault := by
  cases h.vaults with
  | kept hvaults =>
    rw [hvaults] at hvault
    exact absurd (some_unique hvault hcur) hchanged
  | @registered _ _ checkpoint _ _ _ hnew hvaults =>
    have hother : vaultId ≠ checkpoint.vaultId := by
      rintro rfl
      rw [hnew] at hcur
      cases hcur
    rw [hvaults, getElem?_insert_ne _ _ hother] at hvault
    exact absurd (some_unique hvault hcur) hchanged
  | @advanced policy checkpoint material found policies hop hvalid hfound _ hsuccessor hvaults hstale =>
    subst hop
    by_cases hsame : vaultId = checkpoint.vaultId
    · subst hsame
      obtain rfl := some_unique hfound hcur
      rw [hvaults, Std.ExtTreeMap.getElem?_insert_self] at hvault
      obtain rfl := Option.some.inj hvault
      refine ⟨⟨policy, material, policies, rfl, hvalid⟩, validateSuccessor_eq_ok hsuccessor, rfl, ?_, ?_, ?_⟩
      · intro other hother
        rw [hvaults, getElem?_insert_ne _ _ hother]
      · intro key entry hentry hkey hres
        rcases (h.entries key).of_advance with hkept | ⟨-, known, response, hknown, -, hdenial, hdenied⟩
        · exact absurd hres (hstale key entry (hkept.trans hentry) hkey)
        · obtain rfl := some_unique hentry hknown
          exact ⟨response, hdenial, hdenied⟩
      · intro key hopen
        rcases (h.entries key).of_advance with hkept | ⟨hkey, known, response, hknown, hres, -, -⟩
        · exact hkept
        · exact absurd hres (hopen known hknown hkey)
    · rw [hvaults, getElem?_insert_ne _ _ hsame] at hvault
      exact absurd (some_unique hvault hcur) hchanged

theorem EntryStep.released (h : EntryStep context operation before key old new) (hnew : new = some entry)
    (hresp : entry.response = some response) (hcontrib : response.contribution ≠ none) :
    old = some entry ∨ entry.state = .approved ∧ ∃ registered, before.vaults[key.1]? = some registered ∧
      registered.currentCheckpoint.digest = .ok entry.request.policyCheckpointDigest ∧
      entry.request.vaultPolicySequence = registered.currentCheckpoint.vaultPolicySequence := by
  cases h with
  | kept => exact .inl hnew
  | reserved =>
    cases hnew
    cases hresp
  | compacted => cases hnew
  | conflicted _ _ _ _ hdenial | stale _ _ _ hdenial | cancelled _ _ _ _ _ hdenial | tombstoned _ _ _ hdenial =>
    cases hnew
    cases hresp
    exact absurd hdenial.contribution hcontrib
  | decided _ hkey hdeciding hplanned =>
    cases hnew
    cases hplanned with
    | expired _ _ _ hdenial | denied _ _ hdenial =>
      cases hresp
      exact absurd hdenial.contribution hcontrib
    | recorded hcounted =>
      rw [hcounted.unanswered] at hresp
      cases hresp
    | approved hcounted =>
      have hvalid := validateRequest_eq_ok hcounted.valid
      obtain ⟨registered, hreg, hat⟩ := hvalid.registered
      obtain ⟨_, hgranted⟩ := hvalid.granted
      rw [hkey]
      dsimp only
      rw [hdeciding.same]
      exact .inr ⟨rfl, registered, hreg, hat.named, hgranted.history.1.trans hat.sequence.symm⟩

end Steps

section Runs

variable {origin before after : WitnessLogicalState} {vaultId : VaultId} {checkpoint : VaultPolicyCheckpointV1}

-- From a checkpoint on: the vault is on the chain of that checkpoint, and whatever was not released
-- before names a checkpoint of that chain.
structure Gated (origin : WitnessLogicalState) (vaultId : VaultId) (checkpoint : VaultPolicyCheckpointV1)
    (logical : WitnessLogicalState) : Prop where
  vault : ∃ vault, logical.vaults[vaultId]? = some vault ∧ Chain checkpoint vault.currentCheckpoint
  released : ∀ (key : ReplayKey) (entry : WitnessReplayEntry) (response : WitnessResponseV1),
    logical.replay[key]? = some entry → key.1 = vaultId → entry.response = some response →
      response.contribution ≠ none → origin.replay[key]? = some entry ∨ NamesFrom checkpoint entry.request

theorem Gated.stepped (h : Gated origin vaultId checkpoint before) (hstepped : Stepped call before after) :
    Gated origin vaultId checkpoint after := by
  cases hstepped with
  | @intro planned _ hstep hadv =>
    obtain ⟨-, -, hvaults, hreplay, -⟩ := advanceGeneration_eq_ok hadv
    obtain ⟨current, hcur, hchain⟩ := h.vault
    refine ⟨?_, fun key entry response hentry hkey hresp hcontrib => ?_⟩
    · obtain ⟨vault, hvault, -, hsame | hsucceeds⟩ := hstep.vaults.succeeds hcur
      · exact ⟨vault, hvaults ▸ hvault, hsame ▸ hchain⟩
      · exact ⟨vault, hvaults ▸ hvault, hchain.tail hsucceeds⟩
    · rw [hreplay] at hentry
      rcases (hstep.entries key).released hentry hresp hcontrib with hold | ⟨-, registered, hreg, hnamed⟩
      · exact h.released key entry response hold hkey hresp hcontrib
      · rw [hkey] at hreg
        obtain rfl := some_unique hreg hcur
        exact .inr ⟨_, hchain, hnamed⟩

theorem Gated.final (h : Gated origin vaultId checkpoint world.store.logical) (calls : List Call) :
    Gated origin vaultId checkpoint (engine.final world calls).store.logical :=
  final_logical h fun _ _ _ _ hbefore hstepped => hbefore.stepped hstepped

theorem Advances.gated {operation : Operation} (h : Advances context operation before after vaultId current vault)
    (hvault : after.vaults[vaultId]? = some vault) : Gated before vaultId vault.currentCheckpoint after := by
  refine ⟨⟨vault, hvault, .refl⟩, fun key entry response hentry hkey hresp hcontrib => .inl ?_⟩
  by_cases hopen : ∃ known, before.replay[key]? = some known ∧ known.state = .reserved
  · obtain ⟨known, hknown, hres⟩ := hopen
    obtain ⟨denial, hdenial, hdenied⟩ := h.stale key known hknown hkey hres
    obtain rfl := some_unique hentry hdenied
    obtain rfl := Option.some.inj hresp
    exact absurd hdenial.contribution hcontrib
  · rw [← h.replay key fun known hknown _ hres => hopen ⟨known, hknown, hres⟩]
    exact hentry

theorem final_chain (hcur : world.store.logical.vaults[vaultId]? = some current) (calls : List Call) :
    ∃ vault, (engine.final world calls).store.logical.vaults[vaultId]? = some vault ∧
      vault.acceptedRegistration = current.acceptedRegistration ∧
      Chain current.currentCheckpoint vault.currentCheckpoint := by
  refine final_logical (P := fun logical : WitnessLogicalState => ∃ vault : RegisteredWitnessVault,
    logical.vaults[vaultId]? = some vault ∧ vault.acceptedRegistration = current.acceptedRegistration ∧
      Chain current.currentCheckpoint vault.currentCheckpoint) ⟨current, hcur, rfl, .refl⟩ ?_
  rintro before after call - ⟨known, hknown, hregn, hchain⟩ ⟨-, hstep, hadv⟩
  obtain ⟨-, -, hvaults, -⟩ := advanceGeneration_eq_ok hadv
  obtain ⟨vault, hvault, hsame, hkept | hsucceeds⟩ := hstep.vaults.succeeds hknown
  · exact ⟨vault, hvaults ▸ hvault, hsame.trans hregn, hkept ▸ hchain⟩
  · exact ⟨vault, hvaults ▸ hvault, hsame.trans hregn, hchain.tail hsucceeds⟩

theorem Stepped.advances (h : Stepped call before after) (hcur : before.vaults[vaultId]? = some current)
    (hvault : after.vaults[vaultId]? = some vault) (hchanged : vault ≠ current) :
    Advances call.context call.operation before after vaultId current vault := by
  obtain ⟨-, hstep, hadv⟩ := h
  obtain ⟨-, -, hvaults, hreplay, -⟩ := advanceGeneration_eq_ok hadv
  rw [hvaults] at hvault
  obtain ⟨hop, hsuccessor, hregn, hothers, hstale, hkept⟩ := hstep.advances hcur hvault hchanged
  refine ⟨hop, hsuccessor, hregn, ?_, ?_, ?_⟩
  · rw [hvaults]
    exact hothers
  · rw [hreplay]
    exact hstale
  · rw [hreplay]
    exact hkept

def ReleasedApproved (logical : WitnessLogicalState) : Prop :=
  ∀ (key : ReplayKey) (entry : WitnessReplayEntry) (response : WitnessResponseV1), logical.replay[key]? = some entry →
    entry.response = some response → response.contribution ≠ none → entry.state = .approved

theorem final_releasedApproved (witnessId : PrincipalId) (calls : List Call) :
    ReleasedApproved (engine.final (World.initial witnessId) calls).store.logical := by
  refine final_logical (P := ReleasedApproved) (fun key entry response hentry => by cases hentry) ?_
  rintro before after call - h ⟨-, hstep, hadv⟩ key entry response hentry hresp hcontrib
  rw [(advanceGeneration_eq_ok hadv).2.2.2.1] at hentry
  rcases (hstep.entries key).released hentry hresp hcontrib with hold | ⟨happroved, -⟩
  · exact h key entry response hold hresp hcontrib
  · exact happroved

-- A contribution that is released after an advance had been stored with its approval before, or its
-- request names the new checkpoint or one after it.
theorem Gated.release {vaultId : VaultId} {origin : WitnessLogicalState}
    (h : Gated origin vaultId checkpoint world.store.logical) (horigin : ReleasedApproved origin) {later : List Call}
    {event : EngineEvent} (hevent : event ∈ engine.trace world later) {request : WitnessRequestV1}
    {response : WitnessResponseV1} (hreturns : ReturnsFor event request response) (hrequest : request.vaultId = vaultId)
    (hcontrib : response.contribution ≠ none) :
    (∃ entry, origin.replay[requestKey request]? = some entry ∧ entry.request = request ∧ entry.state = .approved ∧
      entry.response = some response) ∨ NamesFrom checkpoint request := by
  obtain ⟨earlier, input, rest, -, rfl⟩ := (Machine.mem_trace engine).mp hevent
  obtain ⟨entry, hentry, hsame, hresp⟩ := hreturns.recorded
  rw [Machine.event_after] at hentry
  rcases (h.final (earlier ++ [input])).released _ entry response hentry hrequest hresp hcontrib with
    hold | hnames
  · exact .inl ⟨entry, hold, hsame, horigin _ entry response hold hresp hcontrib, hresp⟩
  · exact .inr (hsame ▸ hnames)

-- From any moment of a run on, the checkpoints of a vault are one chain. A call that changes the vault is
-- an advance with its effects on the records; and a contribution that is released after it was stored
-- with an approval before, or is for a request at the new checkpoint or a later one.
theorem checkpoint_advance_gates (witnessId : PrincipalId) (calls : List Call) (vaultId : VaultId)
    (current : RegisteredWitnessVault)
    (hcurrent : (engine.final (World.initial witnessId) calls).store.logical.vaults[vaultId]? = some current) :
    (∀ later, ∃ vault,
      (engine.final (World.initial witnessId) (calls ++ later)).store.logical.vaults[vaultId]? = some vault ∧
      vault.acceptedRegistration = current.acceptedRegistration ∧
      Chain current.currentCheckpoint vault.currentCheckpoint) ∧
    ∀ (call : Call) (vault : RegisteredWitnessVault),
      ((engine.final (World.initial witnessId) calls).serve call).2.store.logical.vaults[vaultId]? = some vault →
      vault ≠ current →
      Advances call.context call.operation (engine.final (World.initial witnessId) calls).store.logical
        ((engine.final (World.initial witnessId) calls).serve call).2.store.logical vaultId current vault ∧
      ∀ later, ∀ event ∈ engine.trace ((engine.final (World.initial witnessId) calls).serve call).2 later,
        ∀ request response, ReturnsFor event request response → request.vaultId = vaultId →
          response.contribution ≠ none →
          (∃ entry, (engine.final (World.initial witnessId) calls).store.logical.replay[requestKey request]? = some entry ∧
            entry.request = request ∧ entry.state = .approved ∧ entry.response = some response) ∨
          NamesFrom vault.currentCheckpoint request ∧
            vault.currentCheckpoint.vaultPolicySequence ≤ request.vaultPolicySequence := by
  have happroved := final_releasedApproved witnessId calls
  constructor
  · intro later
    rw [Machine.final_append]
    exact final_chain hcurrent later
  generalize engine.final (World.initial witnessId) calls = world at *
  intro call vault hvault hchanged
  have hadvances : Advances call.context call.operation world.store.logical (world.serve call).2.store.logical vaultId
      current vault := by
    rcases serve_logical world call with hkept | hstepped
    · rw [hkept] at hvault
      exact absurd (some_unique hvault hcurrent) hchanged
    · exact hstepped.advances hcurrent hvault hchanged
  refine ⟨hadvances, fun later event hevent request response hreturns hrequest hcontrib => ?_⟩
  rcases (hadvances.gated hvault).release happroved hevent hreturns hrequest hcontrib with hstored | hnames
  · exact .inl hstored
  · obtain ⟨named, hchain, hdigest, hseq⟩ := hnames
    exact .inr ⟨⟨named, hchain, hdigest, hseq⟩, hseq.symm ▸ hchain.sequence_le⟩

end Runs

end Jury.Engine

namespace Jury.Engine.Sample

open Protocol Vault Witness Policy Protocol.Sample Policy.Sample

def nextJournal : PolicyJournalV1 :=
  extend journal [witnessPolicy] 1 1003 [.principalAdd (descriptor .human 7) "reader" ZERO_DIGEST]

theorem nextJournal_replays : (replayPolicyWithWitnessPolicies nextJournal [witnessPolicy]).isOk = true := by
  decide +kernel

def nextPolicy : ReplayedPolicy := .ofReplay nextJournal [witnessPolicy] nextJournal_replays

def nextCheckpoint : VaultPolicyCheckpointV1 := checkpointOf nextPolicy 1 (digestOf checkpoint.digest) 3000

def advancing (wallTimeMs : UInt64) : Call :=
  call wallTimeMs (.advanceCheckpoint nextPolicy nextCheckpoint material) []

end Jury.Engine.Sample

namespace Jury.Engine

open Lib Protocol.Sample Policy.Sample Engine.Sample

theorem checkpoint_advance_gates_reserved :
    ∃ current vault,
      (engine.final home [registering, reserving 10001 1 (manifest 1 10000 20000)]).store.logical.vaults[
        policy.state.vaultId]? = some current ∧
      (engine.final home [registering, reserving 10001 1 (manifest 1 10000 20000), advancing 10010]).store.logical.vaults[
        policy.state.vaultId]? = some vault ∧
      vault.currentCheckpoint.vaultPolicySequence = 3 ∧
      Advances (advancing 10010).context (advancing 10010).operation
        (engine.final home [registering, reserving 10001 1 (manifest 1 10000 20000)]).store.logical
        (engine.final home [registering, reserving 10001 1 (manifest 1 10000 20000), advancing 10010]).store.logical
        policy.state.vaultId current vault := by
  have hbefore : (engine.final home [registering, reserving 10001 1 (manifest 1 10000 20000)]).store.logical.vaults[
      policy.state.vaultId]?.map (·.currentCheckpoint.vaultPolicySequence) = some 2 := by decide +kernel
  have hafter : (engine.final home [registering, reserving 10001 1 (manifest 1 10000 20000),
      advancing 10010]).store.logical.vaults[policy.state.vaultId]?.map (·.currentCheckpoint.vaultPolicySequence) =
        some 3 := by decide +kernel
  rw [show [registering, reserving 10001 1 (manifest 1 10000 20000), advancing 10010] =
    [registering, reserving 10001 1 (manifest 1 10000 20000)] ++ [advancing 10010] from rfl, Machine.final_append]
    at hafter ⊢
  generalize [registering, reserving 10001 1 (manifest 1 10000 20000)] = calls at *
  generalize advancing 10010 = advance at *
  generalize policy.state.vaultId = vaultId at *
  obtain ⟨current, hcur, hseq⟩ := Option.map_eq_some_iff.mp hbefore
  obtain ⟨vault, hvault, hnext⟩ := Option.map_eq_some_iff.mp hafter
  have hchanged : vault ≠ current := by
    rintro rfl
    rw [hseq] at hnext
    exact absurd hnext (by decide)
  exact ⟨current, vault, hcur, hvault, hnext,
    ((checkpoint_advance_gates home.witnessId calls vaultId current hcur).2 advance vault hvault hchanged).1⟩

end Jury.Engine
