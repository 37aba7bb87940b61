import Jury.Access.Direct
import Jury.Engine.Response

-- Witnessed access to one part of an item's content: the endpoint checks its own request, gathers the answers of
-- the witnesses, opens the shares that they sealed to its session and combines a threshold of them.
namespace Jury.Access

open Lib Protocol Vault Witness Policy LocalState Engine

inductive AccessCompletion where
  | direct
  | witnessedApproved
deriving DecidableEq

inductive WitnessedAccessStatus where
  | pending
  | denied
  | expired
  | stale
  | replay
  | unavailable
  | cancelled
  | insufficientQuorum
deriving DecidableEq

def statusPriority : WitnessedAccessStatus → UInt8
  | .cancelled => 8
  | .expired => 7
  | .stale => 6
  | .replay => 5
  | .denied => 4
  | .unavailable => 3
  | .insufficientQuorum => 2
  | .pending => 1

def WitnessedAccessStatus.merge (status other : WitnessedAccessStatus) : WitnessedAccessStatus :=
  if statusPriority status ≥ statusPriority other then status else other

def mergeWitnessStatus (current : Option WitnessedAccessStatus) (next : WitnessedAccessStatus) :
    Option WitnessedAccessStatus :=
  some ((current.map (·.merge next)).getD next)

def witnessedStatus : WitnessReasonV1 → WitnessedAccessStatus
  | .missingApproval | .notYetValid => .pending
  | .approvalDenied | .approvalConflict | .policyDenied | .wrongOperation | .workloadExceeded | .directDowngrade =>
    .denied
  | .expired => .expired
  | .stalePolicy | .witnessBehind | .checkpointFork | .wrongScope => .stale
  | .replayConflict | .cancellationTooLate => .replay
  | .cancelled => .cancelled
  | .insufficientQuorum => .insufficientQuorum
  | .unavailable | .unsafeClock | .anchorConflict | .capacityExhausted | .restoredStateUnsafe | .internalFailure
  | .invalid | .unsupportedVersion | .invalidSignature | .invalidContribution | .none => .unavailable

inductive ItemAccessError (ε : Type) where
  | provider (kind : AccessProviderErrorKind)
  | consumer (error : ε)
deriving DecidableEq

inductive ItemAccessOutcome (α : Type) where
  | complete (authority : AccessCompletion) (value : α)
  | witnessed (status : WitnessedAccessStatus)
deriving DecidableEq

structure ItemDescriptorV1 where
  name : List UInt8
deriving DecidableEq

structure ItemFieldV1 where
  updatedAtMs : UInt64
deriving DecidableEq

structure ItemStateV1 where
  fields : List ItemFieldV1
deriving DecidableEq

-- The combination of shares, authenticated decryption, and the formats of the plaintexts are taken as given.
class ContentCrypto where
  combineBytes : List Bytes → Option Bytes
  openAead : Bytes → Nonce12 → Bytes → Bytes → Option Bytes
  decodeDescriptor : Bytes → Option ItemDescriptorV1
  parseFramed : UInt8 → Bytes → Option ItemStateV1

def itemDescriptorAad (vaultId : VaultId) (itemId : ItemId) (keyEpoch revision : UInt64)
    (revisionSealId : RevisionSealId) : Bytes :=
  jce "jury-vault-v1-item-descriptor" ++
  (octets [1] ++
  (vaultId.asBytes.bytes ++
  (itemId.asBytes.bytes ++
  (u64be keyEpoch ++
  (u64be revision ++
  revisionSealId.asBytes.bytes)))))

def itemBodyAad (vaultId : VaultId) (itemId : ItemId) (keyEpoch revision : UInt64)
    (revisionSealId : RevisionSealId) (bucketId : UInt8) : Bytes :=
  jce "jury-vault-v1-item-body" ++
  (octets [1] ++
  (vaultId.asBytes.bytes ++
  (itemId.asBytes.bytes ++
  (u64be keyEpoch ++
  (u64be revision ++
  (revisionSealId.asBytes.bytes ++
  octets [bucketId]))))))

section Opening

variable [Crypto] [ContentCrypto]

def openDescriptor (envelope : ItemEnvelopeV1) (secret : Bytes) : Option ItemDescriptorV1 :=
  if sha256 envelope.descriptorCiphertext.bytes != envelope.descriptor.ciphertextDigest then none
  else do
    let aad := itemDescriptorAad envelope.currentRevision.vaultId envelope.itemId envelope.descriptor.keyEpoch
      envelope.descriptor.revision envelope.descriptor.revisionSealId
    let plaintext ← ContentCrypto.openAead secret envelope.descriptor.nonce aad envelope.descriptorCiphertext.bytes
    ContentCrypto.decodeDescriptor plaintext

def openBody (envelope : ItemEnvelopeV1) (secret : Bytes) : Option ItemStateV1 :=
  let revision := envelope.currentRevision
  if sha256 envelope.bodyCiphertext.asBytes != revision.ciphertextDigest
      || revision.ciphertextLength.toNat != envelope.bodyCiphertext.asBytes.length
      || decide (envelope.bodyCiphertext.asBytes.length < 16) then none
  else do
    let aad := itemBodyAad revision.vaultId envelope.itemId revision.keyEpoch revision.itemRevision
      revision.revisionSealId revision.bucketId
    let plaintext ← ContentCrypto.openAead secret revision.nonce aad envelope.bodyCiphertext.asBytes
    ContentCrypto.parseFramed revision.bucketId plaintext

end Opening

-- What a consumer is handed: one part of an envelope, with the secret that opens it.
structure ScopedRevisionAccess where
  role : ContentRole
  envelope : ItemEnvelopeV1
  secret : Bytes
deriving DecidableEq

namespace ScopedRevisionAccess

variable [Crypto] [ContentCrypto]

def openDescriptor (access : ScopedRevisionAccess) : Except AccessProviderErrorKind ItemDescriptorV1 := do
  rejectIf (access.role != .descriptor) .invalidRequest
  orReject (Access.openDescriptor access.envelope access.secret) .invalidSlot

def openBody (access : ScopedRevisionAccess) : Except AccessProviderErrorKind ItemStateV1 := do
  rejectIf (access.role != .body) .invalidRequest
  orReject (Access.openBody access.envelope access.secret) .invalidSlot

end ScopedRevisionAccess

-- A consumer gives a value, fails or panics.
inductive Consumed (α ε : Type) where
  | returned (value : α)
  | failed (error : ε)
  | panicked

def Consumed.ofExcept {α ε : Type} : Except ε α → Consumed α ε
  | .ok value => .returned value
  | .error error => .failed error

-- What one access comes to: its outcome, the responses that were counted for it, and what the consumer was called
-- with if it was called.
structure Accessed (α ε : Type) where
  outcome : Except (ItemAccessError ε) (ItemAccessOutcome α)
  countedResponseIndices : List Nat
  consumed : Option ScopedRevisionAccess

-- The receiver of one request. Its private key stays with it and shows as what it opens.
structure RequestSessionIdentity where
  publicKey : RecipientPublicKey1216
  fingerprint : Digest32
  openHpke : VaultSuite → Encapsulation1120 → ShareCiphertext49 → Bytes → Bytes → Option Bytes

structure ContributionHpkeContext where
  suite : VaultSuite
  requestDigest : Digest32
  actionManifestDigest : Digest32
  responseId : ResponseId
  witnessId : PrincipalId
  witnessPolicyDigest : Digest32
  checkpointDigest : Digest32
  shareCommitment : Digest32
  shareIndex : UInt8
  capsuleSetDigest : Digest32
  capsuleContextDigest : Digest32
  sessionFingerprint : Digest32
  expiresAtMs : UInt64

def ContributionHpkeContext.infoPreimage (context : ContributionHpkeContext) : Bytes :=
  hpkePrefix "jury-witness-v1/contribution/info" context.suite.id ++
  (context.requestDigest.bytes ++
  (context.actionManifestDigest.bytes ++
  (context.responseId.asBytes.bytes ++
  (context.witnessId.asBytes.bytes ++
  (context.witnessPolicyDigest.bytes ++
  (context.checkpointDigest.bytes ++
  (context.shareCommitment.bytes ++
  octets [context.shareIndex])))))))

def ContributionHpkeContext.aadPreimage (context : ContributionHpkeContext) : Bytes :=
  hpkePrefix "jury-witness-v1/contribution/aad" context.suite.id ++
  (context.capsuleSetDigest.bytes ++
  (context.capsuleContextDigest.bytes ++
  (context.sessionFingerprint.bytes ++
  u64be context.expiresAtMs)))

-- The answers so far: the first approval for every share index, who approved, and the gravest status of the others.
structure Gathered where
  approved : BTreeMap UInt8 (Nat × WitnessResponseV1)
  approvedWitnesses : BTreeSet PrincipalId
  terminalStatus : Option WitnessedAccessStatus

def Gathered.empty : Gathered := { approved := ∅, approvedWitnesses := ∅, terminalStatus := none }

def Gathered.report (gathered : Gathered) (status : WitnessedAccessStatus) : Gathered :=
  { gathered with terminalStatus := mergeWitnessStatus gathered.terminalStatus status }

inductive Halt where
  | failed (kind : AccessProviderErrorKind)
  | answered (status : WitnessedAccessStatus)
deriving DecidableEq

def Halt.outcome {α ε : Type} : Halt → Except (ItemAccessError ε) (ItemAccessOutcome α)
  | failed kind => .error (.provider kind)
  | answered status => .ok (.witnessed status)

def publicRequestHalt (error : WitnessEngineError) : Halt :=
  match error.reason with
  | .stalePolicy | .witnessBehind | .checkpointFork => .failed .stalePolicy
  | _ => .failed .invalidRequest

structure CancellationCheck where
  asked : Bool
  accessed : Bool
  released : Bool

structure WitnessedItemAccessProvider where
  checkpoint : VaultPolicyCheckpointV1
  signedRequest : WitnessRequestV1
  manifest : ActionManifestV1
  responses : List WitnessResponseV1
  session : RequestSessionIdentity
  nowMs : UInt64

variable [Crypto]

-- Field by field, the target is the one that the request was signed for.
def targetMatches (request : RevisionAccessRequest) (signed : WitnessRequestV1) : Bool :=
  let target := request.target
  target.suite == request.policy.suite
    && target.vaultId == request.policy.vaultId
    && target.itemId == request.envelope.itemId
    && target.principalId == signed.requesterPrincipalId
    && target.itemId == signed.itemId
    && target.keyEpoch == signed.keyEpoch
    && target.contentRole == signed.contentRole
    && target.revision == signed.revision
    && target.revisionSealId == signed.revisionSealId
    && target.policySequence == signed.vaultPolicySequence
    && target.policyRevisionHash == request.policy.terminalRevisionHash
    && target.accessRole == signed.requestedAccessRole
    && target.itemAccessMode == signed.itemAccessMode
    && request.capability == operationCapability signed.operation

def preflightWitnessed (request : RevisionAccessRequest) (signed : WitnessRequestV1) :
    Except AccessProviderErrorKind Unit := do
  let target := request.target
  rejectIf (!targetMatches request signed) .invalidRequest
  (verifyItemAncestry request.envelope request.policy.verificationKey).mapError
    fun _ => AccessProviderErrorKind.invalidAncestry
  let item ← orReject request.policy.items[target.itemId]? .invalidRequest
  let currentHash ← orReject request.envelope.currentRevision.recomputedHash .invalidAncestry
  rejectIf
    (item.keyEpoch != target.keyEpoch
      || item.descriptor != request.envelope.descriptor
      || item.currentItemRevisionHash != currentHash
      || item.accessMode != some target.itemAccessMode)
    .invalidAncestry
  let explanation := request.policy.access target.itemId target.principalId request.capability
  rejectIf
    (!explanation.allowed
      || explanation.effectiveRole != some target.accessRole
      || explanation.reason != .allowed
      || !(explanation.path == .witnessed || explanation.path == .mixed))
    .unauthorized

-- One answer more. Only the first approval of a witness counts.
def gatherResponse (valid : WitnessResponseV1 → Bool) (gathered : Gathered) (entry : WitnessResponseV1 × Nat) :
    Gathered :=
  let (response, index) := entry
  if !valid response then gathered.report .unavailable
  else if response.decision.decision != .approve then gathered.report (witnessedStatus response.decision.reason)
  else match response.decision.shareIndex with
    | none => gathered.report .unavailable
    | some shareIndex =>
      if gathered.approvedWitnesses.contains response.decision.witnessId then gathered.report .replay
      else
        let gathered := { gathered with
          approvedWitnesses := gathered.approvedWitnesses.insert response.decision.witnessId }
        if gathered.approved.contains shareIndex then gathered.report .replay
        else { gathered with approved := gathered.approved.insert shareIndex (index, response) }

def shareCommitment (contextDigest : Digest32) (share : Bytes) : Digest32 :=
  sha256 (jce "jury-witness-v1/share/commitment" ++ (contextDigest.bytes ++ share))

structure Bound where
  requestDigest : Digest32
  manifestDigest : Digest32
  checkpointDigest : Digest32

def contributionContext (request : WitnessRequestV1) (bound : Bound) (suite : VaultSuite) (witnessId : PrincipalId)
    (contribution : WitnessContributionEnvelopeV1) : ContributionHpkeContext where
  suite
  requestDigest := bound.requestDigest
  actionManifestDigest := bound.manifestDigest
  responseId := contribution.responseId
  witnessId
  witnessPolicyDigest := request.witnessPolicyDigest
  checkpointDigest := bound.checkpointDigest
  shareCommitment := contribution.shareCommitment
  shareIndex := contribution.shareIndex
  capsuleSetDigest := contribution.capsuleSetDigest
  capsuleContextDigest := contribution.capsuleContextDigest
  sessionFingerprint := request.requestSessionKeyFingerprint
  expiresAtMs := request.expiresAtMs

def openShare (session : RequestSessionIdentity) (request : WitnessRequestV1) (bound : Bound) (suite : VaultSuite)
    (witnessId : PrincipalId) (contribution : WitnessContributionEnvelopeV1) : Option Bytes := do
  let context := contributionContext request bound suite witnessId contribution
  let share ← session.openHpke suite contribution.encapsulation contribution.ciphertext context.infoPreimage
    context.aadPreimage
  if share.toList.head? == some contribution.shareIndex
      && shareCommitment contribution.capsuleContextDigest share == contribution.shareCommitment then some share
  else none

-- The shares collected so far, each with the place of its response. Collection ends with the threshold.
def collectShares (suiteId : UInt16) (session : RequestSessionIdentity) (request : WitnessRequestV1) (bound : Bound)
    (threshold : Nat) (collected : List (Nat × Bytes)) :
    List (Nat × WitnessResponseV1) → Except AccessProviderErrorKind (List (Nat × Bytes))
  | [] => .ok collected
  | (index, response) :: rest =>
    match response.contribution with
    | none => collectShares suiteId session request bound threshold collected rest
    | some contribution =>
      match VaultSuite.fromId suiteId with
      | none => .error .invalidRequest
      | some suite =>
        match openShare session request bound suite response.decision.witnessId contribution with
        | none => collectShares suiteId session request bound threshold collected rest
        | some share =>
          let collected := collected ++ [(index, share)]
          if collected.length = threshold then .ok collected
          else collectShares suiteId session request bound threshold collected rest

variable [ContentCrypto]

def reconstructRevisionSecret (suiteId : UInt16) (session : RequestSessionIdentity)
    (checkpoint : VaultPolicyCheckpointV1) (request : WitnessRequestV1) (manifest : ActionManifestV1)
    (responses : List (Nat × WitnessResponseV1)) (threshold : Nat) :
    Except AccessProviderErrorKind (Option (Bytes × List Nat)) := do
  let requestDigest ← request.digest.mapError fun _ => AccessProviderErrorKind.invalidRequest
  let manifestDigest ← manifest.digest.mapError fun _ => AccessProviderErrorKind.invalidRequest
  let checkpointDigest ← checkpoint.digest.mapError fun _ => AccessProviderErrorKind.invalidRequest
  let collected ← collectShares suiteId session request { requestDigest, manifestDigest, checkpointDigest } threshold []
    responses
  if collected.length < threshold then return none
  let secret ← orReject (ContentCrypto.combineBytes (collected.map (·.2))) .providerFailure
  rejectIf (secret.length != 32) .providerFailure
  return some (secret, collected.map (·.1))

def openRole (envelope : ItemEnvelopeV1) (secret : Bytes) : ContentRole → Bool
  | .descriptor => (openDescriptor envelope secret).isSome
  | .body => (openBody envelope secret).isSome

namespace WitnessedItemAccessProvider

def gather (provider : WitnessedItemAccessProvider) (policy : PolicyState) : Gathered :=
  provider.responses.zipIdx.foldl
    (gatherResponse fun response =>
      (validateWitnessResponse policy provider.checkpoint provider.signedRequest provider.manifest response).isOk)
    .empty

-- A request dated more than the accepted skew ahead of the endpoint's clock.
def ahead (provider : WitnessedItemAccessProvider) : Bool :=
  let skewedNow := saturatingAdd provider.nowMs ACCEPTED_CLOCK_SKEW_MS
  decide (provider.signedRequest.issuedAtMs > skewedNow)
    || provider.signedRequest.notBeforeMs.any fun time => decide (time > skewedNow)

def reconstruct (provider : WitnessedItemAccessProvider) (request : RevisionAccessRequest) (cancelled : Bool) :
    Except Halt (Bytes × List Nat) := do
  rejectIf cancelled (.answered .cancelled)
  let validated ← (validatePublicRequest request.policy provider.checkpoint provider.signedRequest
    provider.manifest).mapError publicRequestHalt
  (preflightWitnessed request provider.signedRequest).mapError Halt.failed
  rejectIf provider.ahead (.answered .stale)
  rejectIf (decide (provider.nowMs ≥ provider.signedRequest.expiresAtMs)) (.answered .expired)
  rejectIf
    (provider.session.publicKey != provider.signedRequest.requestSessionPublicKey
      || provider.session.fingerprint != provider.signedRequest.requestSessionKeyFingerprint)
    (.failed .invalidRequest)
  let gathered := provider.gather request.policy
  let threshold := validated.rule.witnessThreshold.toNat
  rejectIf (decide (gathered.approved.size < threshold))
    (.answered (gathered.terminalStatus.getD .insufficientQuorum))
  let reconstructed ← (reconstructRevisionSecret request.policy.suite provider.session provider.checkpoint
    provider.signedRequest provider.manifest (gathered.approved.toList.map (·.2)) threshold).mapError Halt.failed
  orReject reconstructed (.answered ((gathered.terminalStatus.getD .unavailable).merge .unavailable))

def accessRevision {α ε : Type} (provider : WitnessedItemAccessProvider) (request : RevisionAccessRequest)
    (cancellation : CancellationCheck) (consumer : ScopedRevisionAccess → Consumed α ε) : Accessed α ε :=
  match provider.reconstruct request cancellation.accessed with
  | .error halt => { outcome := halt.outcome, countedResponseIndices := [], consumed := none }
  | .ok (secret, countedResponseIndices) =>
    if !openRole request.envelope secret request.target.contentRole then
      { outcome := .error (.provider .invalidSlot), countedResponseIndices, consumed := none }
    else if cancellation.released then
      { outcome := .ok (.witnessed .cancelled), countedResponseIndices, consumed := none }
    else
      let handed := { role := request.target.contentRole, envelope := request.envelope, secret }
      let outcome := match consumer handed with
        | .panicked => .error (.provider .consumerPanicked)
        | .failed error => .error (.consumer error)
        | .returned value => .ok (.complete .witnessedApproved value)
      { outcome, countedResponseIndices, consumed := some handed }

end WitnessedItemAccessProvider

end Jury.Access

namespace Jury.Access.Sample

open Lib Protocol Vault Witness Protocol.Sample Policy Policy.Sample Engine Engine.Sample

-- Every share of the secret repeats it behind the index, and opens from what carries it as it stands.
def shareBytes (shareIndex : UInt8) : List UInt8 := shareIndex :: List.replicate 32 0

def sealedShare (shareIndex : UInt8) : ShareCiphertext49 :=
  ⟨octets (shareIndex :: List.replicate 48 0), by rw [length_octets]; rfl⟩

scoped instance contentCrypto : ContentCrypto where
  combineBytes shares := shares.head?.map fun share => octets (share.toList.drop 1)
  openAead secret _ _ ciphertext := if secret = octets (List.replicate 32 0) then some ciphertext else none
  decodeDescriptor _ := some { name := [0x61] }
  parseFramed _ _ := some { fields := [] }

-- The witnessed item of the sample policy, dealt to its two witnesses, with the envelope that it is for.
def dealtCapsule (contentRole : ContentRole) (byte shareIndex : UInt8) : WitnessShareCapsuleV1 :=
  let capsule := capsule contentRole byte shareIndex
  { capsule with shareCommitment := shareCommitment capsule.contextDigest (octets (shareBytes shareIndex)) }

def dealtSlot (contentRole : ContentRole) : WitnessedSlotV1 :=
  let unbound := { witnessedSlot contentRole with
    capsules := [dealtCapsule contentRole 5 1, dealtCapsule contentRole 6 2] }
  { unbound with capsuleSetDigest := unbound.recomputedCapsuleSetDigest.getD ZERO_DIGEST }

def dealtState : WitnessedStateV1 :=
  let slots := [dealtSlot .descriptor, dealtSlot .body]
  { slots, digest := (witnessedSlotSetDigest slots).getD ZERO_DIGEST }

def dealtBody : SignedItemRevisionV1 :=
  let unsigned := { body with policySequence := 2, revisionSealId := identifier .revisionSeal 2 }
  { unsigned with signature := sign (verificationKey 1) unsigned.signaturePreimage }

def dealtJournal : PolicyJournalV1 :=
  extend founded [witnessPolicy] 1 1002 [
    .ownerRevoke (identifier .principal 2),
    .principalAdd (descriptor .approver 3) "approver" ZERO_DIGEST,
    .principalAdd (descriptor .approver 4) "approver" ZERO_DIGEST,
    .principalAdd (descriptor .witness 5) "witness" ZERO_DIGEST,
    .principalAdd (descriptor .witness 6) "witness" ZERO_DIGEST,
    .itemCreate witnessedItem .canonical 1 (described 1 1) (dealtBody.recomputedHash.getD ZERO_DIGEST) []
      (some dealtState)]

theorem dealt_journal_replays : (replayPolicyWithWitnessPolicies dealtJournal [witnessPolicy]).isOk = true := by
  decide +kernel

def dealt : ReplayedPolicy := .ofReplay dealtJournal [witnessPolicy] dealt_journal_replays

def dealtEnvelope : ItemEnvelopeV1 where
  itemId := witnessedItem
  descriptor := described 1 1
  descriptorCiphertext
  priorRevisions := []
  currentRevision := dealtBody
  bodyCiphertext

def dealtCheckpoint : VaultPolicyCheckpointV1 := checkpointOf dealt 1 ZERO_DIGEST 2000

-- What the owner asks for: the descriptor of the item, printed. The byte tells requests apart.
def descriptorManifest (byte : UInt8) : ActionManifestV1 :=
  let approvalTarget : ApprovalTargetV1 := {
    entries := [{ itemId := witnessedItem, fieldId := none, presentationCommitment := ZERO_DIGEST }]
    presentationDigest := ZERO_DIGEST }
  { manifest byte 3000 4000 with
    slotId := identifier .slot ContentRole.descriptor.tag
    contentRole := .descriptor
    revisionSealId := identifier .revisionSeal ContentRole.descriptor.tag
    vaultPolicySequence := dealt.state.sequence
    vaultPolicyHash := dealt.state.terminalRevisionHash
    approvalTarget
    approvalTargetDigest := digestOf approvalTarget.digest }

def descriptorRequest (byte : UInt8) : WitnessRequestV1 :=
  let unsigned := { request 1 (descriptorManifest byte) with policyCheckpointDigest := digestOf dealtCheckpoint.digest }
  { unsigned with clientSignature := sign (verificationKey 1) (unsigned.signaturePreimage.toOption.getD ∅) }

def contribution (byte shareIndex : UInt8) : WitnessContributionEnvelopeV1 :=
  let capsule := dealtCapsule .descriptor byte shareIndex
  { schema := 1
    responseId := identifier .response byte
    shareIndex
    shareCommitment := capsule.shareCommitment
    capsuleContextDigest := capsule.contextDigest
    capsuleSetDigest := (dealtSlot .descriptor).capsuleSetDigest
    requestSessionKeyFingerprint := (descriptorRequest 1).requestSessionKeyFingerprint
    encapsulation := FixedBytes.replicate 1120 byte
    ciphertext := sealedShare shareIndex }

def approvalAt (byte shareIndex requestByte : UInt8) (issuedAtMs : UInt64) : WitnessResponseV1 :=
  let request := descriptorRequest requestByte
  let contribution := contribution byte shareIndex
  let witnessId := identifier .principal byte
  let unsigned : WitnessDecisionV1 := {
    schema := 1
    responseId := contribution.responseId
    requestId := request.requestId
    requestDigest := digestOf request.digest
    actionManifestDigest := request.actionManifestDigest
    witnessId
    witnessSigningKeyFingerprint := signingKeyFingerprint 3 witnessId 1 (verificationKey byte)
    witnessSigningKeyEpoch := 1
    witnessPolicyId := request.witnessPolicyId
    witnessPolicyRevision := request.witnessPolicyRevision
    witnessPolicyDigest := request.witnessPolicyDigest
    policyCheckpointDigest := request.policyCheckpointDigest
    stateGeneration := 1
    decision := .approve
    reason := .none
    issuedAtMs
    expiresAtMs := request.expiresAtMs
    contributionDigest := some (digestOf contribution.digest)
    shareIndex := some shareIndex
    shareCommitment := some contribution.shareCommitment
    signature := NO_SIGNATURE }
  let signature := sign (verificationKey byte) (unsigned.signaturePreimage.toOption.getD ∅)
  { decision := { unsigned with signature }, contribution := some contribution }

def approvalOf (byte shareIndex requestByte : UInt8) : WitnessResponseV1 := approvalAt byte shareIndex requestByte 3100

theorem approval_travels : CarriesShare (approvalOf 5 1 1).decision ∧ TravelsWithApproval (approvalOf 5 1 1) := by
  refine (contributions_travel_with_approvals_iff.2 dealt.state dealtCheckpoint (descriptorRequest 1)
    (descriptorManifest 1) (approvalOf 5 1 1) (by decide +kernel)).mpr ?_
  unfold Together
  decide +kernel

def contributedDenial : WitnessResponseV1 :=
  let approval := approvalOf 5 1 1
  let unsigned : WitnessDecisionV1 := { approval.decision with
    decision := .deny
    reason := .policyDenied
    shareIndex := none
    shareCommitment := none }
  let signature := sign (verificationKey 5) (unsigned.signaturePreimage.toOption.getD ∅)
  { approval with decision := { unsigned with signature } }

theorem denial_travels_with_contribution : contributedDenial.decision.validateShape = .ok () ∧
    validateWitnessResponse dealt.state dealtCheckpoint (descriptorRequest 1) (descriptorManifest 1) contributedDenial =
      .ok () ∧
    contributedDenial.decision.decision ≠ .approve ∧ contributedDenial.decision.contributionDigest.isSome ∧
    contributedDenial.contribution.isSome := by
  decide +kernel

def receiver : RequestSessionIdentity where
  publicKey := FixedBytes.replicate 1216 9
  fingerprint := recipientPublicKeyFingerprint (FixedBytes.replicate 1216 9)
  openHpke _ _ ciphertext _ _ := some (octets (ciphertext.bytes.toList.take 33))

def provider (requestByte : UInt8) (responses : List WitnessResponseV1) : WitnessedItemAccessProvider where
  checkpoint := dealtCheckpoint
  signedRequest := descriptorRequest requestByte
  manifest := descriptorManifest requestByte
  responses
  session := receiver
  nowMs := 3200

def uncancelled : CancellationCheck := { asked := false, accessed := false, released := false }

end Jury.Access.Sample
