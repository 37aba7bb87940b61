import Jury.Protocol.Vault.Validate

-- The bootstrap manifest a rollover commits to before its destination exists, and the one case in
-- which a first revision may be empty.
namespace Jury.Protocol.Vault

open Lib Protocol

def manifestDiffers : FormatError := .invalid "rollover bootstrap manifest differs"

def isOneOfSuitePairs (version : UInt16) (sourceSuite : Option UInt16) (destinationSuite : UInt16) : Bool :=
  (version == 1 && sourceSuite == none && destinationSuite == 1)
    || (version == 2 && sourceSuite == some 1 && (destinationSuite == 1 || destinationSuite == 2))
    || (version == 2 && sourceSuite == some 2 && destinationSuite == 2)

namespace BootstrapManifestV1

def validateHeader (manifest : BootstrapManifestV1) : Except FormatError Unit :=
  rejectIf
    (!isOneOfSuitePairs manifest.version manifest.sourceSuite manifest.destinationSuite
      || manifest.principals.isEmpty
      || decide (manifest.principals.length > MAX_VAULT_BYTES / 66)
      || decide (manifest.items.length > MAX_ITEMS)
      || decide (manifest.witnessPolicies.length > manifest.items.length)
      || !sortedByKey manifest.principals (·.principalId)
      || !sortedByKey manifest.items (·.sourceItemId)
      || !(manifest.witnessPolicies.zip manifest.witnessPolicies.tail).all (fun pair =>
        (compare pair.1.sourcePolicyId pair.2.sourcePolicyId).isLT
          || (pair.1.sourcePolicyId == pair.2.sourcePolicyId
            && (match pair.1.sourcePolicyRevision, pair.2.sourcePolicyRevision with
              | none, some _ => true
              | some a, some b => decide (a < b)
              | _, none => false)))
      || manifest.witnessPolicies.any (fun entry =>
        if manifest.version = 1 then entry.sourcePolicyRevision.isSome
        else if manifest.version = 2 then !entry.sourcePolicyRevision.any (fun revision => decide (revision > 0))
        else true))
    manifestDiffers

def principalEntry (manifest : BootstrapManifestV1) (id : PrincipalId) : Option BootstrapPrincipalV1 :=
  manifest.principals.find? fun entry => entry.principalId == id

structure ItemScan where
  newItems : BTreeSet ItemId
  slots : BTreeSet SlotId
  usedPolicies : BTreeSet WitnessPolicyId

def validateGrant (manifest : BootstrapManifestV1) (item : BootstrapItemV1) (grant : BootstrapGrantV1) :
    Except FormatError (Option PrincipalId) := do
  let principal ← orReject (manifest.principalEntry grant.principalId) manifestDiffers
  rejectIf
    (principal.owner != (grant.role == .owner)
      || (!grant.direct && item.witnessed.isNone)
      || (item.itemKind == .legacy && !principal.owner))
    manifestDiffers
  return if principal.owner then some principal.principalId else none

def scanItem (manifest : BootstrapManifestV1) (scan : ItemScan) (item : BootstrapItemV1) :
    Except FormatError ItemScan := do
  let newPolicies : BTreeSet WitnessPolicyId :=
    Std.ExtTreeSet.ofList (manifest.witnessPolicies.map (·.destinationPolicyId)) compare
  rejectIf
    (manifest.items.any (fun entry => entry.sourceItemId == item.destinationItemId)
      || scan.newItems.contains item.destinationItemId
      || item.descriptor.revision != 1
      || item.descriptor.keyEpoch != 1
      || item.descriptor.plaintextSchema != 1
      || item.descriptor.ciphertextLength != 272
      || decide (item.grants.length > manifest.principals.length)
      || !sortedByKey item.grants (·.principalId))
    manifestDiffers
  let owners ← item.grants.mapM (validateGrant manifest item)
  rejectIf
    ((Std.ExtTreeSet.ofList (owners.filterMap id) compare : BTreeSet PrincipalId).size
      != (manifest.principals.filter (·.owner)).length)
    manifestDiffers
  let newItems := scan.newItems.insert item.destinationItemId
  match item.witnessed with
  | none => return { scan with newItems }
  | some witnessed =>
    rejectIf
      (!newPolicies.contains witnessed.policyId
        || scan.slots.contains witnessed.descriptorSlotId
        || (scan.slots.insert witnessed.descriptorSlotId).contains witnessed.bodySlotId)
      manifestDiffers
    return {
      newItems
      slots := (scan.slots.insert witnessed.descriptorSlotId).insert witnessed.bodySlotId
      usedPolicies := scan.usedPolicies.insert witnessed.policyId }

def validateShape (manifest : BootstrapManifestV1) : Except FormatError Unit := do
  manifest.validateHeader
  rejectIf
    (!(manifest.principalEntry manifest.actingOwnerPrincipalId).any (·.owner)
      || manifest.principals.any (fun entry =>
        entry.displayLabel.isEmpty || decide ((utf8 entry.displayLabel).length > MAX_PUBLIC_LABEL_BYTES)))
    manifestDiffers
  let newPolicies : BTreeSet WitnessPolicyId :=
    Std.ExtTreeSet.ofList (manifest.witnessPolicies.map (·.destinationPolicyId)) compare
  rejectIf
    (newPolicies.size != manifest.witnessPolicies.length
      || manifest.witnessPolicies.any (fun entry => newPolicies.contains entry.sourcePolicyId))
    manifestDiffers
  let scan ← manifest.items.foldlM (scanItem manifest) { newItems := ∅, slots := ∅, usedPolicies := ∅ }
  rejectIf (!decide (scan.usedPolicies = newPolicies)) manifestDiffers

def countBytes (length : Nat) : Except FormatError Bytes := orReject (lengthBe length) manifestDiffers

-- A record appended to what was written before it; the whole may not outgrow a vault file.
def record (output bytes : Bytes) : Except FormatError Bytes := do
  rejectIf (decide (output.length + 4 + bytes.length > MAX_VAULT_BYTES)) .artifactTooLarge
  let length ← countBytes bytes.length
  return output ++ (length ++ bytes)

def appendPrincipal (output : Bytes) (principal : BootstrapPrincipalV1) : Except FormatError Bytes := do
  let entry ← record (principal.principalId.asBytes.bytes ++ principal.unsignedDescriptorDigest.bytes)
    (utf8 principal.displayLabel)
  record output (entry ++ octets [if principal.owner then 1 else 0])

def appendGrant (output : Bytes) (grant : BootstrapGrantV1) : Except FormatError Bytes :=
  record output (grant.principalId.asBytes.bytes ++ octets [grant.role.tag, if grant.direct then 1 else 0])

def appendItem (output : Bytes) (item : BootstrapItemV1) : Except FormatError Bytes := do
  let entry ← record
    (item.sourceItemId.asBytes.bytes ++ (item.destinationItemId.asBytes.bytes ++ octets [item.itemKind.tag]))
    item.descriptor.canonicalBytes
  let grants ← countBytes item.grants.length
  let entry ← item.grants.foldlM appendGrant
    (entry ++ (item.initialItemRevisionHash.bytes ++ (item.directSlotSetDigest.bytes ++ grants)))
  let witnessed := match item.witnessed with
    | none => u8 0
    | some witnessed => u8 1 ++ (witnessed.policyId.asBytes.bytes ++
        (witnessed.descriptorSlotId.asBytes.bytes ++ witnessed.bodySlotId.asBytes.bytes))
  record output (entry ++ witnessed)

def appendWitnessPolicy (output : Bytes) (policy : BootstrapWitnessPolicyV1) : Except FormatError Bytes :=
  record output
    (policy.sourcePolicyId.asBytes.bytes ++
    ((policy.sourcePolicyRevision.map u64be).getD ∅ ++
    (policy.destinationPolicyId.asBytes.bytes ++
    policy.intentDigest.bytes)))

def canonicalBytes (manifest : BootstrapManifestV1) : Except FormatError Bytes := do
  manifest.validateShape
  let principals ← countBytes manifest.principals.length
  let output ← manifest.principals.foldlM appendPrincipal
    (jce "jury-v1/rollover/bootstrap" ++
    (u16be manifest.version ++
    ((manifest.sourceSuite.map u16be).getD ∅ ++
    (u16be manifest.destinationSuite ++
    (manifest.destinationVaultId.asBytes.bytes ++
    (u64be manifest.createdAtMs ++
    (manifest.actingOwnerPrincipalId.asBytes.bytes ++
    principals)))))))
  let items ← countBytes manifest.items.length
  let output ← manifest.items.foldlM appendItem (output ++ items)
  let policies ← countBytes manifest.witnessPolicies.length
  let output ← manifest.witnessPolicies.foldlM appendWitnessPolicy (output ++ policies)
  rejectIf (decide (output.length > MAX_VAULT_BYTES)) .artifactTooLarge
  return output

variable [Crypto]

def digest (manifest : BootstrapManifestV1) : Except FormatError Digest32 := do
  let bytes ← manifest.canonicalBytes
  return sha256 bytes

end BootstrapManifestV1

variable [Crypto]

-- A rollover whose manifest carries nothing but its owner has nothing to put into a first revision.
def PolicyGenesisV1.permitsEmptyRolloverBootstrap (genesis : PolicyGenesisV1) : Bool :=
  match genesis.sourceAttestation with
  | some (.rollover statement) =>
    match statement.bootstrapManifest with
    | none => false
    | some manifest =>
      match manifest.principals with
      | [principal] =>
        manifest.items.isEmpty
          && manifest.witnessPolicies.isEmpty
          && principal.principalId == genesis.owner.principalId
          && principal.owner
          && principal.displayLabel == "owner"
          && manifest.destinationVaultId == genesis.vaultId
          && manifest.destinationSuite == genesis.suite
          && manifest.createdAtMs == genesis.createdAtMs
          && manifest.actingOwnerPrincipalId == genesis.owner.principalId
          && (match manifest.digest with
            | .ok digest => digest == statement.bootstrapManifestDigest
            | .error _ => false)
          && principal.unsignedDescriptorDigest == sha256 genesis.owner.selfSignaturePreimage
      | _ => false
  | _ => false

end Jury.Protocol.Vault
