import Jury.Mutation.Planner
import Jury.Policy.Replay.Retirement

-- Importing an artifact at once and importing it by way of one in between. The preflight compares the two ends and a
-- flat list of the operations, so the ways agree as long as no item has its slots written on both halves.
namespace Jury.Mutation

open Lib Protocol Vault Policy LocalState Std List

variable {itemId : ItemId} {later : ItemEnvelopeV1}

section Maps

variable {κ β : Type} [Ord κ] [TransOrd κ]

end Maps

section Replacements

variable {operations later : List PolicyOperationV1} {id : PrincipalId}

end Replacements

section Items

def TransitionFlags.refused (flags : TransitionFlags) : Bool := flags.directDowngrade || flags.witnessWeakened

variable {current target : PolicyState}

end Items

section Halves

variable {operations later : List PolicyOperationV1} {itemId : ItemId}

variable [Crypto]

end Halves

section Artifacts

variable {candidate : VaultFileV1} {policy : PolicyState}

variable [Crypto]

theorem ValidatedComplete.complete (h : ValidatedComplete base policies policy) : Complete policy := by
  obtain ⟨catalog, -, hreplay⟩ := h.exists_catalog
  exact replay_complete _ _ _ hreplay

section Deltas

variable (hbase : ValidatedComplete base policies basePolicy) (hcand : ValidatedComplete candidate policies policy)

include hbase hcand

end Deltas

end Artifacts

end Jury.Mutation

namespace Jury.Mutation.Sample

open Lib Protocol Vault Protocol.Sample Policy Policy.Sample Access.Sample

end Jury.Mutation.Sample
