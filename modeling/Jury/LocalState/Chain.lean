import Jury.LocalState.Audit

-- The chain of an audit log. The code of an event authenticates the event and the code before it, so that the code of
-- one event pins down every event up to it.
namespace Jury.LocalState

open Lib Protocol Option

theorem AuditAction.tag_inj {a b : AuditAction} : a.tag = b.tag ↔ a = b := by
  cases a <;> cases b <;> decide

theorem AuditOutcome.tags_inj {a b : AuditOutcome} : a.tags = b.tags ↔ a = b := by
  constructor
  · intro h
    cases a with
    | failed stage =>
      cases b with
      | failed stage' => cases stage <;> cases stage' <;> first | rfl | exact absurd h (by decide)
      | _ => cases stage <;> exact absurd h (by decide)
    | _ =>
      cases b with
      | failed stage' => cases stage' <;> exact absurd h (by decide)
      | _ => first | rfl | exact absurd h (by decide)
  · rintro rfl
    rfl

theorem AuditOutcome.length_tags (outcome : AuditOutcome) : outcome.tags.length = 2 := by
  cases outcome <;> rfl

theorem AuditEvent.itemBytes_append_inj (h : itemBytes a ++ r = itemBytes b ++ s) :
    a.map (·.itemId) = b.map (·.itemId) ∧ r = s := by
  cases a <;> cases b <;> simp_all [itemBytes, Bytes.append_assoc]

theorem AuditEvent.nameBytes_append_inj {a b : Option String}
    (ha : ∀ name ∈ a, (utf8 name).length ≤ MAX_PERMITTED_ITEM_NAME_BYTES)
    (hb : ∀ name ∈ b, (utf8 name).length ≤ MAX_PERMITTED_ITEM_NAME_BYTES) (h : nameBytes a ++ r = nameBytes b ++ s) :
    a = b ∧ r = s := by
  cases a with
  | none =>
    cases b with
    | none => simpa [nameBytes] using h
    | some name => simp [nameBytes, Bytes.append_assoc] at h
  | some first =>
    cases b with
    | none => simp [nameBytes, Bytes.append_assoc] at h
    | some second =>
      have hfirst := ha first rfl
      have hsecond := hb second rfl
      simp only [nameBytes, code_inj, true_and] at h
      obtain ⟨hlen, htext⟩ := h
      have hsame : (utf8 first).length = (utf8 second).length := by
        have hnat := congrArg UInt32.toNat hlen
        simp only [UInt32.toNat_ofNat', MAX_PERMITTED_ITEM_NAME_BYTES] at hnat hfirst hsecond
        omega
      obtain ⟨htext, hrest⟩ := Bytes.append_inj htext hsame
      exact ⟨by rw [utf8_inj.mp htext], hrest⟩

theorem AuditItemScope.ext_option {a b : Option AuditItemScope} (hid : a.map (·.itemId) = b.map (·.itemId))
    (hname : a.bind (·.permittedItemName) = b.bind (·.permittedItemName)) : a = b := by
  cases a with
  | none => cases b <;> simp_all
  | some first =>
    cases b with
    | none => simp at hid
    | some second =>
      cases first
      cases second
      simp_all

section Shape

variable [Crypto] {event : AuditEvent}

section Shape

variable (h : event.validateShape = .ok ())

include h

theorem AuditEvent.validateShape_name :
    ∀ name ∈ event.item.bind (·.permittedItemName), (utf8 name).length ≤ MAX_PERMITTED_ITEM_NAME_BYTES := by
  simp only [validateShape, eq_ok] at h
  obtain ⟨-, -, -, hname, -⟩ := h
  intro name hmem
  rw [mem_def.mp hmem, any_some, Bool.or_eq_false_iff] at hname
  exact Nat.le_of_not_gt (of_decide_eq_false hname.2)

theorem AuditEvent.validateShape_link (hlink : event.witness = some link) : event.operationId = link.operationId := by
  simp only [validateShape, eq_ok, hlink, any_some, passed] at h
  obtain ⟨-, -, -, -, -, -, -, hlink⟩ := h
  exact hlink

theorem AuditEvent.validateShape_creation (haction : event.action = .vaultCreateOrImport) : event.sequence = 1 := by
  simp only [validateShape, validateAction, haction, eq_ok, passed, and_assoc] at h
  obtain ⟨-, -, -, -, -, -, -, hseq, -⟩ := h
  exact hseq

theorem AuditEvent.validateShape_linked :
    event.witness.isSome =
      (event.action == .witnessRequest || (event.action == .verification && event.item.isSome)) := by
  simp only [validateShape, bind_eq_ok] at h
  obtain ⟨-, -, -, -, _, haction, -⟩ := h
  unfold validateAction validateAction.validateWitnessed at haction
  cases hkind : event.action <;> simp only [hkind] at haction ⊢ <;>
    cases hitem : event.item <;> cases hwitness : event.witness <;> simp_all [rejectIf_eq_ok]

end Shape

theorem AuditEvent.macPreimage_inj {a b : AuditEvent} (ha : a.validateShape = .ok ()) (hb : b.validateShape = .ok ())
    (h : a.macPreimage = b.macPreimage) :
    a.version = b.version ∧ a.principalId = b.principalId ∧ a.vaultId = b.vaultId ∧
      a.genesisFingerprint = b.genesisFingerprint ∧ a.policySequence = b.policySequence ∧
      a.operationId = b.operationId ∧ a.action = b.action ∧ a.item = b.item ∧ a.outcome = b.outcome ∧
      a.previousMac = b.previousMac := by
  unfold macPreimage at h
  obtain ⟨-, h⟩ := jce_append_inj (by decide) (by decide) h
  simp only [code_inj] at h
  obtain ⟨hversion, hprin, hvault, hgen, hseq, hop, haction, h⟩ := h
  obtain ⟨hid, h⟩ := itemBytes_append_inj h
  obtain ⟨hname, h⟩ := nameBytes_append_inj (validateShape_name ha) (validateShape_name hb) h
  obtain ⟨houtcome, hprev⟩ := Bytes.append_inj h (by simp [AuditOutcome.length_tags])
  exact ⟨hversion, by simpa using hprin, by simpa using hvault, hgen, hseq, hop,
    AuditAction.tag_inj.mp haction, AuditItemScope.ext_option hid hname,
    AuditOutcome.tags_inj.mp (octets_inj.mp houtcome), FixedBytes.bytes_inj.mp hprev⟩

end Shape

-- No two of these events have one code for different contents, and no two links one hash.
structure CodesApart [Crypto] (principal : PrincipalLocalState) (events : List AuditEvent) : Prop where
  codes : ∀ a ∈ events, ∀ b ∈ events, principal.auditMac a.macPreimage = principal.auditMac b.macPreimage →
    a.macPreimage = b.macPreimage
  links : ∀ a ∈ events, ∀ b ∈ events, ∀ link ∈ a.witness, ∀ other ∈ b.witness,
    link.operationId = other.operationId → link = other

theorem CodesApart.subset [Crypto] {principal : PrincipalLocalState} {events fewer : List AuditEvent}
    (h : CodesApart principal events) (hsubset : fewer ⊆ events) : CodesApart principal fewer :=
  ⟨fun a ha b hb => h.codes a (hsubset ha) b (hsubset hb), fun a ha b hb => h.links a (hsubset ha) b (hsubset hb)⟩

structure EventSound [Crypto] (principal : PrincipalLocalState) (index : Nat) (event : AuditEvent) : Prop where
  place : index < MAX_AUDIT_EVENTS
  sequence : event.sequence = UInt64.ofNat (index + 1)
  scope : event.matchesScope principal.scope = true
  shape : event.validateShape = .ok ()
  mac : event.mac = principal.auditMac event.macPreimage

structure Chained [Crypto] (principal : PrincipalLocalState) (events : List AuditEvent) : Prop where
  sound : ∀ index event, events[index]? = some event → EventSound principal index event
  first : ∀ event, events[0]? = some event → event.action = .vaultCreateOrImport
  linked : ∀ index event next, events[index]? = some event → events[index + 1]? = some next →
    next.previousMac = event.mac

variable [Crypto]

theorem EventSound.creation (h : EventSound principal index event) (haction : event.action = .vaultCreateOrImport) :
    index = 0 := by
  have hseq := h.sequence.symm.trans (AuditEvent.validateShape_creation h.shape haction)
  have hplace := h.place
  have hnat := congrArg UInt64.toNat hseq
  have hone : (1 : UInt64).toNat = 1 := rfl
  simp only [UInt64.toNat_ofNat', MAX_AUDIT_EVENTS] at hnat hplace
  omega

-- Two authentic events with one code at one place are the same event.
theorem EventSound.eq (ha : EventSound principal index a) (hb : EventSound principal index b)
    (hcodes : CodesApart principal events) (hmemA : a ∈ events) (hmemB : b ∈ events) (hmac : a.mac = b.mac) :
    a = b := by
  have hpre := hcodes.codes a hmemA b hmemB (by rw [← ha.mac, ← hb.mac, hmac])
  obtain ⟨hversion, hprin, hvault, hgen, hpolicy, hop, haction, hitem, houtcome, hprev⟩ :=
    AuditEvent.macPreimage_inj ha.shape hb.shape hpre
  have hwitness : a.witness = b.witness := by
    have hboth : a.witness.isSome = b.witness.isSome := by
      rw [AuditEvent.validateShape_linked ha.shape, AuditEvent.validateShape_linked hb.shape, haction, hitem]
    cases hfirst : a.witness with
    | none =>
      rw [hfirst] at hboth
      exact (not_isSome_iff_eq_none.mp (by simp [← hboth])).symm
    | some link =>
      rw [hfirst] at hboth
      obtain ⟨other, hother⟩ := isSome_iff_exists.mp hboth.symm
      rw [hother]
      refine congrArg some (hcodes.links a hmemA b hmemB link hfirst other hother ?_)
      rw [← AuditEvent.validateShape_link ha.shape hfirst, ← AuditEvent.validateShape_link hb.shape hother, hop]
  have hseq := ha.sequence.trans hb.sequence.symm
  cases a
  cases b
  simp_all

theorem Chained.same_up_to (ha : Chained principal a) (hb : Chained principal b)
    (hcodes : CodesApart principal (a ++ b)) (hx : a[index]? = some x) (hy : b[other]? = some y)
    (hmac : x.mac = y.mac) : other = index ∧ a.take (index + 1) = b.take (index + 1) := by
  have hpair : ∀ (i j : Nat) (x y : AuditEvent), a[i]? = some x → b[j]? = some y → x.mac = y.mac →
      x.action = y.action ∧ x.previousMac = y.previousMac ∧ (i = j → x = y) := by
    intro i j x y hx hy hmac
    have hmemX := List.mem_append_left b (List.mem_of_getElem? hx)
    have hmemY := List.mem_append_right a (List.mem_of_getElem? hy)
    have hpre := hcodes.codes x hmemX y hmemY (by rw [← (ha.sound _ _ hx).mac, ← (hb.sound _ _ hy).mac, hmac])
    obtain ⟨-, -, -, -, -, -, haction, -, -, hprev⟩ :=
      AuditEvent.macPreimage_inj (ha.sound _ _ hx).shape (hb.sound _ _ hy).shape hpre
    refine ⟨haction, hprev, ?_⟩
    rintro rfl
    exact (ha.sound _ _ hx).eq (hb.sound _ _ hy) hcodes hmemX hmemY hmac
  induction index generalizing other x y with
  | zero =>
    obtain ⟨haction, -, heq⟩ := hpair _ _ _ _ hx hy hmac
    obtain rfl := (hb.sound _ _ hy).creation (haction.symm.trans (ha.first x hx))
    refine ⟨rfl, ?_⟩
    rw [List.take_add_one, List.take_add_one, hx, hy, heq rfl, List.take_zero, List.take_zero]
  | succ index ih =>
    obtain ⟨haction, hprev, heq⟩ := hpair _ _ _ _ hx hy hmac
    cases other with
    | zero =>
      have hplace := (ha.sound _ _ hx).creation (haction.trans (hb.first y hy))
      omega
    | succ other =>
      obtain ⟨before, hbefore⟩ : ∃ before, a[index]? = some before := by
        have := (List.getElem?_eq_some_iff.mp hx).1
        exact ⟨_, List.getElem?_eq_getElem (by omega)⟩
      obtain ⟨before', hbefore'⟩ : ∃ before, b[other]? = some before := by
        have := (List.getElem?_eq_some_iff.mp hy).1
        exact ⟨_, List.getElem?_eq_getElem (by omega)⟩
      have hmacs : before.mac = before'.mac := by
        rw [← ha.linked index before x hbefore hx, ← hb.linked other before' y hbefore' hy, hprev]
      obtain ⟨rfl, htake⟩ := ih hbefore hbefore' hmacs
      refine ⟨rfl, ?_⟩
      rw [List.take_add_one, List.take_add_one (i := other + 1), hx, hy, heq rfl, htake]

end Jury.LocalState
