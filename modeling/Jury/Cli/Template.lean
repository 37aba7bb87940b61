import Jury.Lib.Matching
import Jury.Protocol.Witness.Base

-- Injection templates: the references a template makes, the manifest that is put up for approval, and
-- the rendering of what was approved.
namespace Jury.Cli

open Lib Protocol Witness

inductive CliErrorKind where
  | invalidArguments
  | unsupportedPlatform
  | notFound
  | conflict
  | invalidIdentity
  | authenticationFailed
  | accessDenied
  | invalidVault
  | protectionUnavailable
  | filesystem
  | localState
  | process
  | interrupted (signal : UInt8)
deriving DecidableEq

structure CliError where
  kind : CliErrorKind
  code : String
  message : String
deriving DecidableEq

def MAX_TEMPLATE_OUTPUT_BYTES : Nat := 8388608
def MAX_TEMPLATE_REFERENCES : Nat := 1024
def MAX_PUBLIC_REVIEW_LABEL_BYTES : Nat := 256
def MAX_JSON_REFERENCE_BYTES : Nat := 12 * MAX_PUBLIC_REVIEW_LABEL_BYTES + 16
def MAX_ITEM_NAME_BYTES : Nat := 64
def MAX_FIELD_NAME_BYTES : Nat := 64

def invalidTemplate : CliError :=
  ⟨.invalidArguments, "invalid-template", "the bounded injection template is invalid"⟩

def fieldUnavailable : CliError :=
  ⟨.notFound, "field-unavailable", "the requested field is unavailable in the selected accessible item"⟩

def templateReferenceLimit : CliError :=
  ⟨.invalidArguments, "template-reference-limit", "the template contains too many field references"⟩

def templateHasNoReferences : CliError :=
  ⟨.invalidArguments, "template-has-no-references", "the injection template contains no field references"⟩

def templateOutputLimit : CliError :=
  ⟨.invalidArguments, "template-output-limit", "the resolved template exceeds the active output bound"⟩

def invalidReference : CliError :=
  ⟨.invalidArguments, "invalid-field-reference",
    "use ITEM/FIELD for native names or a JSON pair [\"item label\",\"field label\"] for exact public labels; ITEM.FIELD shorthand requires names without dots"⟩

structure FieldReference where
  item : Octets
  field : Octets
deriving DecidableEq

namespace FieldReference

instance : Ord FieldReference := keyOrd fun reference => (octets reference.item, octets reference.field)

instance : Std.TransOrd FieldReference := keyOrd_trans _

instance : Std.LawfulEqOrd FieldReference := keyOrd_lawful fun a b h => by
  cases a
  cases b
  simpa using h

end FieldReference

inductive NameError where
  | empty
  | tooLong (maximum actual : Nat)
  | nonAscii
  | invalidBoundary
  | invalidCharacter
deriving DecidableEq

def isAsciiAlphanumeric (byte : UInt8) : Bool := isAsciiAlphabetic byte || isAsciiDigit byte

def isAsciiControl (byte : UInt8) : Bool := decide (byte < 0x20) || byte == 0x7f

-- Space, tab, line feed, form feed and carriage return.
def isAsciiWhitespace (byte : UInt8) : Bool := [0x20, 0x09, 0x0a, 0x0c, 0x0d].contains byte

def validateName (value : Octets) (maximum : Nat) : Except NameError Unit := do
  rejectIf value.isEmpty .empty
  rejectIf (decide (value.length > maximum)) (.tooLong maximum value.length)
  rejectIf (value.any fun byte => decide (byte ≥ 0x80)) .nonAscii
  rejectIf (!(value.head?.any isAsciiAlphanumeric && value.getLast?.any isAsciiAlphanumeric)) .invalidBoundary
  rejectIf (value.any fun byte => !isAsciiAlphanumeric byte && !(byte == 0x2d || byte == 0x2e || byte == 0x5f))
    .invalidCharacter

def splitOnce (separator : UInt8) (value : Octets) : Option (Octets × Octets) :=
  (position [separator] value).map fun place => (value.take place, value.drop (place + 1))

-- What serde_json reads from the front of a text as a pair of strings, and how many bytes it took. It
-- stands outside the repository, and nothing is assumed of it.
abbrev SerdeJson := Octets → Option ((Octets × Octets) × Nat)

variable (serdeJson : SerdeJson)

def validLabel (label : Octets) : Bool :=
  !(label.isEmpty || decide (label.length > MAX_PUBLIC_REVIEW_LABEL_BYTES) || label.any isAsciiControl)

def parseJsonPrefix (bytes : Octets) : Except CliError (FieldReference × Nat) := do
  let ((item, field), byteOffset) ← orReject (serdeJson (bytes.take MAX_JSON_REFERENCE_BYTES)) invalidReference
  rejectIf (!(validLabel item && validLabel field)) invalidReference
  return (⟨item, field⟩, byteOffset)

-- Slash cannot occur in either name. A dot separates only when there is a single one.
def parseNative (value : Octets) : Except CliError FieldReference := do
  let (item, field) ← orReject
    (if value.contains 0x2f then splitOnce 0x2f value
      else (splitOnce 0x2e value).filter fun pair => !pair.2.contains 0x2e) invalidReference
  (validateName item MAX_ITEM_NAME_BYTES).mapError fun _ => invalidReference
  (validateName field MAX_FIELD_NAME_BYTES).mapError fun _ => invalidReference
  return ⟨item, field⟩

def parse (value : Octets) : Except CliError FieldReference :=
  if value.head? = some 0x5b then do
    rejectIf (decide (value.length > MAX_JSON_REFERENCE_BYTES)) invalidReference
    let (reference, stop) ← parseJsonPrefix serdeJson value
    rejectIf (!(value.drop stop).all isAsciiWhitespace) invalidReference
    return reference
  else parseNative value

structure TemplateReference where
  start : Nat
  stop : Nat
  item : Octets
  field : Octets
deriving DecidableEq

def TemplateReference.name (reference : TemplateReference) : FieldReference := ⟨reference.item, reference.field⟩

def OPENING : Octets := [0x7b, 0x7b]
def CLOSING : Octets := [0x7d, 0x7d]

def readReference (content : Octets) : Except CliError (FieldReference × Nat) :=
  if content.head? = some 0x5b then parseJsonPrefix serdeJson content
  else do
    let stop ← orReject (position CLOSING content) invalidTemplate
    let reference ← parse serdeJson (content.take stop)
    return (reference, stop)

def parseLoop (bytes : Octets) (cursor : Nat) (references : List TemplateReference) :
    Except CliError (List TemplateReference) :=
  if cursor < bytes.length then
    match position OPENING (bytes.drop cursor) with
    | none => if (position CLOSING (bytes.drop cursor)).isSome then .error invalidTemplate else .ok references
    | some relativeStart => do
      let start := cursor + relativeStart
      rejectIf (position CLOSING (slice bytes cursor start)).isSome invalidTemplate
      let (reference, relativeEnd) ← readReference serdeJson (bytes.drop (start + 2))
      let contentEnd := start + 2 + relativeEnd
      rejectIf (slice bytes contentEnd (contentEnd + 2) != CLOSING) invalidTemplate
      let references := references ++ [⟨start, contentEnd + 2, reference.item, reference.field⟩]
      rejectIf (decide (references.length > MAX_TEMPLATE_REFERENCES)) templateReferenceLimit
      parseLoop bytes (contentEnd + 2) references
  else .ok references
termination_by bytes.length - cursor

def parseTemplate (template : Octets) : Except CliError (List TemplateReference) := do
  let references ← parseLoop serdeJson template 0 []
  rejectIf references.isEmpty templateHasNoReferences
  return references

-- Public text enters the manifest in pieces of at most 4096 bytes.
def appendPublicManifestBytes (arguments : List ManifestArgumentV1) (bytes : Octets) :
    Except CliError (List ManifestArgumentV1) :=
  if h : bytes = [] then .ok arguments
  else do
    let taken := min bytes.length 4096
    let literal ← (BoundedBytes.new 4096 (octets (bytes.take taken))).mapError fun _ => invalidTemplate
    appendPublicManifestBytes (arguments ++ [.publicLiteral literal]) (bytes.drop taken)
termination_by bytes.length
decreasing_by
  have hpos := List.length_pos_of_ne_nil h
  rw [List.length_drop]
  omega

def manifestLoop (template : Octets) (targets : BTreeMap FieldReference (ItemId × FieldId))
    (arguments : List ManifestArgumentV1) (cursor : Nat) :
    List TemplateReference → Except CliError (List ManifestArgumentV1)
  | [] => appendPublicManifestBytes arguments (template.drop cursor)
  | reference :: rest => do
    let arguments ← appendPublicManifestBytes arguments (slice template cursor reference.start)
    let (itemId, fieldId) ← orReject targets[reference.name]? invalidTemplate
    manifestLoop template targets (arguments ++ [.secretPlaceholder ⟨itemId, some fieldId⟩]) reference.stop rest

def templateManifestArguments (template : Octets) (references : List TemplateReference)
    (targets : BTreeMap FieldReference (ItemId × FieldId)) : Except CliError (List ManifestArgumentV1) := do
  let arguments ← manifestLoop template targets [] 0 references
  rejectIf (decide (arguments.length > MAX_ARGUMENTS)) invalidTemplate
  return arguments

def appendBoundedOutput (output bytes : Octets) : Except CliError Octets := do
  rejectIf (decide (output.length + bytes.length > MAX_TEMPLATE_OUTPUT_BYTES)) templateOutputLimit
  return output ++ bytes

def renderLoop (template : Octets) (values : BTreeMap FieldReference Octets) (output : Octets) (cursor : Nat) :
    List TemplateReference → Except CliError Octets
  | [] => appendBoundedOutput output (template.drop cursor)
  | reference :: rest => do
    let output ← appendBoundedOutput output (slice template cursor reference.start)
    let value ← orReject values[reference.name]? fieldUnavailable
    let output ← appendBoundedOutput output value
    renderLoop template values output reference.stop rest

def renderTemplate (template : Octets) (references : List TemplateReference) (values : BTreeMap FieldReference Octets) :
    Except CliError Octets :=
  renderLoop template values [] 0 references

def insertFieldValue (fields : List (FieldId × Octets)) (values : BTreeMap FieldReference Octets)
    (entry : FieldReference × ItemId × FieldId) : Except CliError (BTreeMap FieldReference Octets) := do
  let field ← orReject (fields.find? fun field => field.1 == entry.2.2) fieldUnavailable
  return values.insert entry.1 field.2

def fieldValues (fields : List (FieldId × Octets)) (targets : BTreeMap FieldReference (ItemId × FieldId)) :
    Except CliError (BTreeMap FieldReference Octets) :=
  targets.toList.foldlM (insertFieldValue fields) ∅

-- What rendering is for: the text with a value in the place of every reference, if that fits.
def assemble (template : Octets) (value : FieldReference → Octets) : Nat → List TemplateReference → Octets
  | cursor, [] => template.drop cursor
  | cursor, reference :: rest =>
    slice template cursor reference.start ++ (value reference.name ++ assemble template value reference.stop rest)

def boundedOutput (output : Octets) : Except CliError Octets :=
  if output.length ≤ MAX_TEMPLATE_OUTPUT_BYTES then .ok output else .error templateOutputLimit

def fill (valueOf : WitnessTargetV1 → Octets) : ManifestArgumentV1 → Octets
  | .publicLiteral bytes => bytes.asBytes.toList
  | .secretPlaceholder target => valueOf target

def gaps (template : Octets) : Nat → List TemplateReference → List Octets
  | cursor, [] => [template.drop cursor]
  | cursor, reference :: rest => slice template cursor reference.start :: gaps template reference.stop rest

def NoDelimiter (text : Octets) : Prop := ¬ OPENING <:+: text ∧ ¬ CLOSING <:+: text

-- References one behind the other, each between its delimiters, and none in the text between them.
def Placed (template : Octets) : Nat → List TemplateReference → Prop
  | cursor, [] => NoDelimiter (template.drop cursor)
  | cursor, reference :: rest =>
    cursor ≤ reference.start ∧ reference.start + 4 ≤ reference.stop ∧
      slice template reference.start (reference.start + 2) = OPENING ∧
      slice template (reference.stop - 2) reference.stop = CLOSING ∧
      NoDelimiter (slice template cursor reference.start) ∧ Placed template reference.stop rest

section Parsing

variable {serdeJson}

theorem slice_drop_take {text : Octets} {start n : Nat} : slice text start (start + n) = (text.drop start).take n := by
  rw [slice, List.take_drop]

theorem parseLoop_placed (h : parseLoop serdeJson template cursor references = .ok found) :
    ∃ added, found = references ++ added ∧ Placed template cursor added := by
  -- By what is left of the text.
  induction hleft : template.length - cursor using Nat.strong_induction_on generalizing cursor references with
  | _ left ih =>
    subst hleft
    rw [parseLoop] at h
    split at h
    next hcursor =>
      split at h
      next hopening =>
        split at h
        · cases h
        next hclosing =>
          obtain rfl := Except.ok.inj h
          rw [Option.not_isSome_iff_eq_none] at hclosing
          exact ⟨[], (List.append_nil _).symm, position_eq_none.mp hopening, position_eq_none.mp hclosing⟩
      next relativeStart hopening =>
        obtain ⟨hplace, hbefore⟩ := position_eq_some (by decide) hopening
        simp only [eq_ok] at h
        obtain ⟨_, hclosing, ⟨reference, relativeEnd⟩, hread, _, hstop, _, hcount, hrest⟩ := h
        obtain ⟨added, hadded, hplaced⟩ := ih _ (by omega) hrest rfl
        refine ⟨_ :: added, by rw [hadded, List.append_assoc]; rfl, Nat.le_add_right _ _, by simp only; omega, ?_, ?_,
          ⟨?_, ?_⟩, hplaced⟩
        · rw [List.drop_drop, List.prefix_iff_eq_take] at hplace
          rw [slice_drop_take, hplace]
          rfl
        · exact bne_eq_false_iff_eq.mp hstop
        · rwa [slice_drop_take]
        · exact position_eq_none.mp (Option.not_isSome_iff_eq_none.mp (Bool.eq_false_iff.mp hclosing))
    next hcursor =>
      obtain rfl := Except.ok.inj h
      refine ⟨[], (List.append_nil _).symm, ?_⟩
      rw [Placed, List.drop_eq_nil_of_le (by omega)]
      exact ⟨by decide, by decide⟩

theorem parseTemplate_placed (h : parseTemplate serdeJson template = .ok references) :
    Placed template 0 references := by
  simp only [parseTemplate, eq_ok] at h
  obtain ⟨found, hfound, -, -, rfl⟩ := h
  obtain ⟨added, rfl, hplaced⟩ := parseLoop_placed hfound
  exact hplaced

section Placed

variable (h : Placed template cursor references)

include h

theorem Placed.gaps_noDelimiter : ∀ gap ∈ gaps template cursor references, NoDelimiter gap := by
  induction references generalizing cursor with
  | nil =>
    intro gap hgap
    obtain rfl := List.mem_singleton.mp hgap
    exact h
  | cons reference rest ih =>
    obtain ⟨-, -, -, -, hgap, hrest⟩ := h
    exact List.forall_mem_cons.mpr ⟨hgap, ih hrest⟩

theorem Placed.stop_le :
    ∀ reference ∈ references, cursor ≤ reference.start ∧ reference.start < reference.stop ∧
      reference.stop ≤ template.length := by
  induction references generalizing cursor with
  | nil => simp
  | cons first rest ih =>
    obtain ⟨hcursor, hwidth, -, hclosing, -, hrest⟩ := h
    have hlen := congrArg List.length hclosing
    rw [slice, List.length_drop, List.length_take] at hlen
    have hend : first.stop ≤ template.length := by
      change _ = 2 at hlen
      omega
    refine List.forall_mem_cons.mpr ⟨⟨hcursor, by omega, hend⟩, fun reference hreference => ?_⟩
    obtain ⟨hlater, hbound⟩ := ih hrest reference hreference
    exact ⟨by omega, hbound⟩

theorem Placed.pairwise : references.Pairwise fun left right => left.stop ≤ right.start := by
  induction references generalizing cursor with
  | nil => exact List.Pairwise.nil
  | cons first rest ih =>
    obtain ⟨-, -, -, -, -, hrest⟩ := h
    exact List.pairwise_cons.mpr ⟨fun reference hreference => (hrest.stop_le reference hreference).1, ih hrest⟩

end Placed

end Parsing

section Rendering

variable (template : Octets) (value : FieldReference → Octets)

theorem appendBoundedOutput_eq (output bytes : Octets) : appendBoundedOutput output bytes = boundedOutput (output ++ bytes) := by
  unfold appendBoundedOutput boundedOutput
  rw [List.length_append]
  split
  next hfits =>
    simp [rejectIf, Nat.not_lt.mpr hfits]
  next hfits =>
    simp [rejectIf, Nat.not_le.mp hfits]

theorem boundedOutput_bind {next : Octets → Except CliError Octets}
    (hnext : next output = boundedOutput (output ++ more)) :
    (boundedOutput output >>= next) = boundedOutput (output ++ more) := by
  unfold boundedOutput at *
  split
  next hfits => exact hnext
  next hfits =>
    rw [List.length_append, if_neg (by omega)]
    rfl

theorem renderLoop_eq {references : List TemplateReference} (hvalues : ∀ reference ∈ references,
      values[reference.name]? = some (value reference.name)) (output : Octets) (cursor : Nat) :
    renderLoop template values output cursor references =
      boundedOutput (output ++ assemble template value cursor references) := by
  induction references generalizing output cursor with
  | nil => rw [renderLoop, appendBoundedOutput_eq, assemble]
  | cons reference rest ih =>
    obtain ⟨hvalue, hrest⟩ := List.forall_mem_cons.mp hvalues
    rw [renderLoop, assemble, appendBoundedOutput_eq, ← List.append_assoc]
    apply boundedOutput_bind
    rw [hvalue]
    change (appendBoundedOutput _ _ >>= fun output => renderLoop template values output reference.stop rest) = _
    rw [appendBoundedOutput_eq, ← List.append_assoc]
    exact boundedOutput_bind (ih hrest _ _)

theorem appendPublicManifestBytes_eq (arguments : List ManifestArgumentV1) (bytes : Octets) :
    ∃ pieces : List OperationBytes,
      appendPublicManifestBytes arguments bytes = .ok (arguments ++ pieces.map .publicLiteral) ∧
        (pieces.map fun piece => piece.asBytes.toList).flatten = bytes := by
  induction hleft : bytes.length using Nat.strong_induction_on generalizing arguments bytes with
  | _ left ih =>
    subst hleft
    rw [appendPublicManifestBytes]
    split
    next hempty => exact ⟨[], by rw [List.map_nil, List.append_nil], hempty.symm⟩
    next hbytes =>
      have hpos := List.length_pos_of_ne_nil hbytes
      have hsize : (octets (bytes.take (min bytes.length 4096))).length ≤ 4096 := by
        rw [length_octets, List.length_take]
        omega
      obtain ⟨pieces, hpieces, hflat⟩ := ih (bytes.drop (min bytes.length 4096)).length (by rw [List.length_drop]; omega)
        (arguments ++ [.publicLiteral ⟨_, hsize⟩]) _ rfl
      refine ⟨⟨_, hsize⟩ :: pieces, ?_, ?_⟩
      · simp only [BoundedBytes.new, dif_pos hsize]
        rw [List.map_cons, List.append_cons]
        exact hpieces
      · rw [List.map_cons, List.flatten_cons, toList_octets, hflat, List.take_append_drop]

end Rendering

section Approval

variable (template : Octets) (value : FieldReference → Octets)

theorem manifestLoop_eq {references : List TemplateReference}
    (htargets : ∀ reference ∈ references, ∃ itemId fieldId, targets[reference.name]? = some (itemId, fieldId) ∧
      value reference.name = valueOf ⟨itemId, some fieldId⟩) (arguments : List ManifestArgumentV1) (cursor : Nat) :
    ∃ pieces, manifestLoop template targets arguments cursor references = .ok (arguments ++ pieces) ∧
      pieces.flatMap (fill valueOf) = assemble template value cursor references ∧
      ∀ literal, .publicLiteral literal ∈ pieces → ∃ gap ∈ gaps template cursor references, literal.asBytes.toList <:+: gap := by
  have hliterals : ∀ pieces : List OperationBytes, (pieces.map ManifestArgumentV1.publicLiteral).flatMap (fill valueOf) =
      (pieces.map fun piece => piece.asBytes.toList).flatten := fun pieces => by
    rw [List.flatMap_map, List.flatMap_def]
    rfl
  have hwithin : ∀ (pieces : List OperationBytes) (literal : OperationBytes),
      .publicLiteral literal ∈ pieces.map ManifestArgumentV1.publicLiteral →
        literal.asBytes.toList <:+: (pieces.map fun piece => piece.asBytes.toList).flatten := fun pieces literal hmem => by
    obtain ⟨piece, hpiece, heq⟩ := List.mem_map.mp hmem
    obtain rfl := ManifestArgumentV1.publicLiteral.inj heq
    exact List.infix_of_mem_flatten (List.mem_map_of_mem hpiece)
  induction references generalizing arguments cursor with
  | nil =>
    obtain ⟨pieces, hpieces, hflat⟩ := appendPublicManifestBytes_eq arguments (template.drop cursor)
    refine ⟨pieces.map .publicLiteral, hpieces, ?_, fun literal hliteral => ⟨_, List.mem_singleton_self _, ?_⟩⟩
    · rw [hliterals, hflat, assemble]
    · rw [← hflat]
      exact hwithin pieces literal hliteral
  | cons reference rest ih =>
    obtain ⟨⟨itemId, fieldId, htarget, hvalue⟩, hrest⟩ := List.forall_mem_cons.mp htargets
    obtain ⟨pieces, hpieces, hflat⟩ := appendPublicManifestBytes_eq arguments (slice template cursor reference.start)
    obtain ⟨later, hlater, hfill, hgaps⟩ := ih hrest
      (arguments ++ pieces.map .publicLiteral ++ [.secretPlaceholder ⟨itemId, some fieldId⟩]) reference.stop
    refine ⟨pieces.map .publicLiteral ++ .secretPlaceholder ⟨itemId, some fieldId⟩ :: later, ?_, ?_, ?_⟩
    · rw [manifestLoop, hpieces, htarget]
      refine hlater.trans ?_
      rw [List.append_assoc, List.append_assoc]
      rfl
    · rw [List.flatMap_append, hliterals, hflat, List.flatMap_cons, hfill, assemble, hvalue]
      rfl
    · intro literal hliteral
      rcases List.mem_append.mp hliteral with hmem | hmem
      · exact ⟨_, List.mem_cons_self, hflat ▸ hwithin pieces literal hmem⟩
      · rcases List.mem_cons.mp hmem with heq | hmem
        · cases heq
        · obtain ⟨gap, hgap, hinside⟩ := hgaps literal hmem
          exact ⟨gap, List.mem_cons_of_mem _ hgap, hinside⟩

def openedValue (fields : List (FieldId × Octets)) (target : WitnessTargetV1) : Octets :=
  ((fields.find? fun field => some field.1 == target.fieldId).map (·.2)).getD []

theorem insertFieldValue_self (h : insertFieldValue fields before (name, itemId, fieldId) = .ok after) :
    after[name]? = some (openedValue fields ⟨itemId, some fieldId⟩) := by
  simp only [insertFieldValue, eq_ok] at h
  obtain ⟨field, hfield, rfl⟩ := h
  rw [Std.ExtTreeMap.getElem?_insert_self, openedValue]
  simp [hfield]

theorem fieldValues_assigned {fields : List (FieldId × Octets)} {values : BTreeMap FieldReference Octets}
    (h : fieldValues fields targets = .ok values) {name : FieldReference} {itemId : ItemId} {fieldId : FieldId}
    (htarget : targets[name]? = some (itemId, fieldId)) :
    values[name]? = some (openedValue fields ⟨itemId, some fieldId⟩) := by
  obtain ⟨before, after, hsplit⟩ :=
    List.append_of_mem (Std.ExtTreeMap.mem_toList_iff_getElem?_eq_some.mpr htarget)
  have hents : ∀ entry ∈ after, targets[entry.1]? = some entry.2 := fun entry hentry => by
    apply Std.ExtTreeMap.mem_toList_iff_getElem?_eq_some.mp
    rw [hsplit]
    exact List.mem_append_right _ (List.mem_cons_of_mem _ hentry)
  rw [fieldValues, hsplit, foldlM_append_eq_ok] at h
  obtain ⟨reached, -, hrest⟩ := h
  obtain ⟨entered, hentered, hafter⟩ := foldlM_cons_eq_ok.mp hrest
  refine foldlM_preserves (P := fun values => values[name]? = some (openedValue fields ⟨itemId, some fieldId⟩))
    (fun entry hentry values next hvalues hround => ?_) (insertFieldValue_self hentered) hafter
  by_cases hname : entry.1 = name
  · obtain ⟨entryName, entryItem, entryField⟩ := entry
    obtain rfl : entryName = name := hname
    have htarget' := hents _ hentry
    rw [htarget] at htarget'
    obtain ⟨rfl, rfl⟩ := Prod.mk.inj (Option.some.inj htarget')
    exact insertFieldValue_self hround
  · simp only [insertFieldValue, eq_ok] at hround
    obtain ⟨field, -, rfl⟩ := hround
    rwa [getElem?_insert_ne _ _ (Ne.symm hname)]

-- What is approved is what is rendered. The manifest lists the public text in order with the target of
-- each reference in its place, and rendering puts the values of just these targets there, whatever
-- bytes they hold. No delimiter is left in the public text.
theorem rendered_eq_approved (serdeJson : SerdeJson) (template : Octets) (references : List TemplateReference)
    (targets : BTreeMap FieldReference (ItemId × FieldId)) (valueOf : WitnessTargetV1 → Octets)
    (values : BTreeMap FieldReference Octets) (hparse : parseTemplate serdeJson template = .ok references)
    (hassigned : ∀ reference ∈ references, ∃ itemId fieldId, targets[reference.name]? = some (itemId, fieldId) ∧
      values[reference.name]? = some (valueOf ⟨itemId, some fieldId⟩)) :
    (∃ arguments, templateManifestArguments template references targets =
          (if arguments.length > MAX_ARGUMENTS then .error invalidTemplate else .ok arguments) ∧
        renderTemplate template references values = boundedOutput (arguments.flatMap (fill valueOf)) ∧
        ∀ literal, .publicLiteral literal ∈ arguments → NoDelimiter literal.asBytes.toList) ∧
      (references.Pairwise fun left right => left.stop ≤ right.start) ∧
      (∀ reference ∈ references, reference.start < reference.stop ∧ reference.stop ≤ template.length) ∧
      ∀ gap ∈ gaps template 0 references, NoDelimiter gap := by
  have hplaced := parseTemplate_placed hparse
  refine ⟨?_, hplaced.pairwise, fun reference hreference => (hplaced.stop_le reference hreference).2,
    hplaced.gaps_noDelimiter⟩
  obtain ⟨value, hvalue⟩ : ∃ value : FieldReference → Octets, ∀ name, value name = (values[name]?).getD [] := ⟨_, fun _ => rfl⟩
  have hvalues : ∀ reference ∈ references, values[reference.name]? = some (value reference.name) := by
    intro reference hreference
    obtain ⟨itemId, fieldId, -, hassign⟩ := hassigned reference hreference
    rw [hvalue, hassign]
    rfl
  have htargets : ∀ reference ∈ references, ∃ itemId fieldId, targets[reference.name]? = some (itemId, fieldId) ∧
      value reference.name = valueOf ⟨itemId, some fieldId⟩ := by
    intro reference hreference
    obtain ⟨itemId, fieldId, htarget, hassign⟩ := hassigned reference hreference
    exact ⟨itemId, fieldId, htarget, by rw [hvalue, hassign]; rfl⟩
  obtain ⟨arguments, hloop, hfill, hliterals⟩ := manifestLoop_eq template value htargets [] 0
  refine ⟨arguments, ?_, ?_, fun literal hliteral => ?_⟩
  · rw [templateManifestArguments, hloop, List.nil_append]
    change (rejectIf (decide (arguments.length > MAX_ARGUMENTS)) invalidTemplate >>= fun _ => pure arguments) = _
    by_cases hmany : arguments.length > MAX_ARGUMENTS
    · rw [if_pos hmany, decide_eq_true hmany]
      rfl
    · rw [if_neg hmany, decide_eq_false hmany]
      rfl
  · rw [renderTemplate, renderLoop_eq template value hvalues, hfill]
    rfl
  · obtain ⟨gap, hgap, hinside⟩ := hliterals literal hliteral
    obtain ⟨hopening, hclosing⟩ := hplaced.gaps_noDelimiter gap hgap
    exact ⟨fun h => hopening (h.trans hinside), fun h => hclosing (h.trans hinside)⟩

end Approval

namespace Sample

open Protocol.Sample

def noJson : SerdeJson := fun _ => none

def template : Octets := "user=\x7b\x7bLogin/name\x7d\x7d;pass=\x7b\x7bLogin.pass\x7d\x7d".toUTF8.toList

def references : List TemplateReference :=
  [⟨5, 19, "Login".toUTF8.toList, "name".toUTF8.toList⟩, ⟨25, 39, "Login".toUTF8.toList, "pass".toUTF8.toList⟩]

def fields : List (FieldId × Octets) :=
  [(identifier .field 1, "a\x7b\x7bLogin.pass\x7d\x7d".toUTF8.toList), (identifier .field 2, "\x7d\x7db".toUTF8.toList)]

def targets : BTreeMap FieldReference (ItemId × FieldId) :=
  (Std.ExtTreeMap.empty.insert ⟨"Login".toUTF8.toList, "name".toUTF8.toList⟩ (identifier .item 1, identifier .field 1)).insert
    ⟨"Login".toUTF8.toList, "pass".toUTF8.toList⟩ (identifier .item 1, identifier .field 2)

theorem rendered_eq_approved_sample :
    parseTemplate noJson template = .ok references ∧
      ∃ values arguments, fieldValues fields targets = .ok values ∧
        templateManifestArguments template references targets = .ok arguments ∧
        renderTemplate template references values = boundedOutput (arguments.flatMap (fill (openedValue fields))) := by
  have hparse : parseTemplate noJson template = .ok references := by decide +kernel
  have hnamed : ∀ reference ∈ references, targets[reference.name]?.isSome = true := by decide +kernel
  obtain ⟨values, hvalues⟩ := exists_eq_ok_of_isOk (show (fieldValues fields targets).isOk = true by decide +kernel)
  obtain ⟨arguments, harguments⟩ := exists_eq_ok_of_isOk
    (show (templateManifestArguments template references targets).isOk = true by decide +kernel)
  obtain ⟨⟨found, hfound, hrender, -⟩, -⟩ := rendered_eq_approved noJson template references targets (openedValue fields)
    values hparse fun reference hreference => by
      obtain ⟨⟨itemId, fieldId⟩, htarget⟩ := Option.isSome_iff_exists.mp (hnamed reference hreference)
      exact ⟨itemId, fieldId, htarget, fieldValues_assigned hvalues htarget⟩
  rw [harguments] at hfound
  split at hfound
  · cases hfound
  · obtain rfl := Except.ok.inj hfound
    exact ⟨hparse, values, arguments, hvalues, harguments, hrender⟩

end Sample

end Jury.Cli
