import Jury.Access.Quorum
import Jury.Engine.Approvals
import Jury.WitnessReceipt.Assembly

-- What an endpoint collects for one request: decisions of approvers from their files, then answers of witnesses.
namespace Jury.Cli

open Lib Protocol Witness Policy Engine

structure WitnessRequestArtifactV1 where
  checkpoint : VaultPolicyCheckpointV1
  request : WitnessRequestV1
  actionManifest : ActionManifestV1

section Waiting

variable {α : Type} [Crypto] (policy : PolicyState) (artifact : WitnessRequestArtifactV1)

end Waiting

section Waited

variable {α : Type} [Crypto] {policy : PolicyState} {artifact : WitnessRequestArtifactV1} {paths : List α}
  {approvals out : List ApprovalDecisionV1}

end Waited

section Tally

variable {decisions : Set ApprovalDecisionV1}
  (hsole : ∀ a ∈ decisions, ∀ b ∈ decisions, a.approverId = b.approverId → a = b)

include hsole

end Tally

end Jury.Cli

namespace Jury.Cli.Sample

open Lib Protocol.Witness Protocol.Sample Policy Policy.Sample Engine Engine.Sample Access.Sample WitnessReceipt.Sample

def artifact : WitnessRequestArtifactV1 where
  checkpoint := dealtCheckpoint
  request := descriptorRequest 1
  actionManifest := descriptorManifest 1

def denied : ApprovalDecisionV1 :=
  let unsigned := { approved with decision := .deny, reason := .approvalDenied }
  { unsigned with signature := sign (verificationKey 3) (unsigned.signaturePreimage.toOption.getD ∅) }

end Jury.Cli.Sample
