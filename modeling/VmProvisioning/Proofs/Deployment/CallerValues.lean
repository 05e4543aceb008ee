import VmProvisioning.Proofs.DnsLabel
import VmProvisioning.Proofs.Json.Scalar
import VmProvisioning.Proofs.Quota.Admission
import VmProvisioning.Proofs.Template.Binding
import VmProvisioning.Proofs.Text.Pieces
import VmProvisioning.Deployment.Pipeline

/-!
# Callers put in scalars

A reference in double braces is replaced by the JSON value that its parameter spells. The name of a
machine and the size of its disk come from callers, who may choose any texts for them. Neither
spells an array or an object: labels have no brackets and braces, and a disk size is only admitted
if it is a quantity, which begins with neither.

## Main results

* `Quantity.not_opens_of_bytes`: how a quantity does not begin
* `isScalar_fill_callerReferences`: what is put in for the name and the disk size
-/

namespace VmProvisioning

variable {c : Char} {cs rest : List Char}

/-! ## Beginnings of quantities -/

namespace Json

theorem Opens.isBlank_eq_false (h : Opens c) : Text.isBlank c = false := by
  rcases h with rfl | rfl
  · decide
  · decide

theorem isBlank_of_isGap (h : isGap c = true) : Text.isBlank c = true := by
  simp only [isGap, Bool.or_eq_true, beq_iff_eq] at h
  rcases h with ((rfl | rfl) | rfl) | rfl
  · decide
  · decide
  · decide
  · decide

/-- A bracket or brace behind JSON's blanks is the first character that is not blank. -/
theorem dropWhile_isBlank_of_skipGap (hc : Opens c) (h : skipGap cs = c :: rest) :
    cs.dropWhile Text.isBlank = c :: rest := by
  induction cs with
  | nil => cases h
  | cons d cs ih =>
    rw [skipGap, List.dropWhile_cons] at h
    split at h
    · next hgap => rw [List.dropWhile_cons, if_pos (isBlank_of_isGap hgap), ih h]
    · cases h
      rw [List.dropWhile_cons, hc.isBlank_eq_false]
      rfl

end Json

/-- Trimming keeps the first character that is not trimmed. -/
theorem exists_trimBy_eq_cons {p : Char → Bool} (h : cs.dropWhile p = c :: rest)
    (hc : p c = false) : ∃ rest, Text.trimBy p cs = c :: rest := by
  rw [Text.trimBy, h, List.reverse_cons, List.dropWhile_append]
  split
  · exact ⟨[], by simp [hc]⟩
  · exact ⟨_, by rw [List.reverse_append, List.reverse_singleton, List.singleton_append]⟩

theorem Decimal.read?_of_opens (hc : Json.Opens c) : Decimal.read? (c :: cs) = none := by
  rcases hc with rfl | rfl
  · simp [Decimal.read?, Decimal.readSign, Decimal.readMagnitude?]
  · simp [Decimal.read?, Decimal.readSign, Decimal.readMagnitude?]

namespace Quantity

variable {text quantity : String} {units amount : Nat}

theorem readNumber_ne_ok_of_opens (hc : Json.Opens c) :
    readNumber (c :: cs) quantity ≠ .ok units := by
  have hkept : (c :: cs).dropWhile Text.isBlank = c :: cs := by
    rw [List.dropWhile_cons, hc.isBlank_eq_false]
    rfl
  obtain ⟨rest, htrim⟩ := exists_trimBy_eq_cons hkept hc.isBlank_eq_false
  rw [readNumber, htrim, Decimal.read?_of_opens hc]
  rintro ⟨⟩

theorem readNumber_nil_ne_ok : readNumber [] quantity ≠ .ok units := by
  nofun

/-- A number stands before the suffix. -/
theorem exists_eq_append_of_splitSuffix? {number : List Char} {factor : Nat}
    (h : splitSuffix? cs = some (number, factor)) : ∃ suffix, cs = number ++ suffix := by
  obtain ⟨⟨suffix, _⟩, -, hsuffix⟩ := List.exists_of_findSome?_eq_some h
  obtain ⟨front, hfront, heq⟩ := Option.map_eq_some_iff.mp hsuffix
  cases heq
  exact ⟨suffix.toList, Text.dropSuffix?_eq_some_iff.mp hfront⟩

/-- **A quantity begins with neither a bracket nor a brace** behind its blanks. -/
theorem not_opens_of_bytes (h : bytes text = .ok amount)
    (hskip : Json.skipGap text.toList = c :: rest) : ¬ Json.Opens c := by
  intro hc
  obtain ⟨tail, htrim⟩ :=
    exists_trimBy_eq_cons (Json.dropWhile_isBlank_of_skipGap hc hskip) hc.isBlank_eq_false
  rw [bytes, htrim] at h
  dsimp only at h
  split at h
  · next number factor hsplit =>
    obtain ⟨suffix, hsuffix⟩ := exists_eq_append_of_splitSuffix? hsplit
    cases hnumber : readNumber number text with
    | error failure =>
      rw [hnumber] at h
      cases h
    | ok units =>
      -- the number is empty or begins as the quantity
      cases number with
      | nil => exact readNumber_nil_ne_ok hnumber
      | cons d number =>
        cases hsuffix
        exact readNumber_ne_ok_of_opens hc hnumber
  · cases hnumber : readNumber (c :: tail) text with
    | error failure =>
      rw [hnumber] at h
      cases h
    | ok units => exact readNumber_ne_ok_of_opens hc hnumber

end Quantity

/-- A label begins with neither a bracket nor a brace. -/
theorem DnsLabel.not_opens_of_skipGap {text : String} (h : IsLabelText text)
    (hskip : Json.skipGap text.toList = c :: rest) : ¬ Json.Opens c := by
  have hmem : c ∈ text.toList := by
    refine (List.dropWhile_suffix Json.isGap).subset ?_
    rw [← Json.skipGap, hskip]
    exact List.mem_cons_self
  rintro (rfl | rfl)
  · exact absurd (h.chars _ hmem) (by decide)
  · exact absurd (h.chars _ hmem) (by decide)

/-! ## Values of references -/

namespace Reference

variable {values : Fields String} {name value : String}

/-- A reference in double braces becomes the value that its parameter spells, or its text. -/
theorem isScalar_fillValue {content : String} (hname : typedName? content = some name)
    (hvalue : Fields.get? values name = some value)
    (h : ∀ c rest, Json.skipGap value.toList = c :: rest → ¬ Json.Opens c) :
    (fillValue values content).isScalar = true := by
  rw [fillValue, hname, Option.bind_some, hvalue]
  dsimp only
  cases hread : Json.read? value with
  | none => rfl
  | some spelled => exact Json.isScalar_of_mem_read? h spelled hread

end Reference

variable {σ : Type} {source : RandomSource σ} {state : σ} {template : Template}
  {request : DeployRequest} {datacenter : Datacenter} {values : Fields String} {size : String}

/-- The name and the disk size of a request are among the values that it binds. -/
theorem Materialized.get?_overrides (request : DeployRequest) :
    Fields.get? (overrides request) "NAME" = some (DnsLabel.sanitize request.machineName) ∧
      ∀ size ∈ request.diskSize, Fields.get? (overrides request) "DISK_SIZE" = some size := by
  unfold overrides
  rw [Fields.get?_ofList, Fields.get?_ofList]
  cases request.diskSize with
  | none => exact ⟨rfl, nofun⟩
  | some size =>
    refine ⟨rfl, ?_⟩
    rintro _ ⟨⟩
    rfl

/-- **Callers put in scalars.** Whatever name a caller gives to a machine, and whatever disk size
that is admitted, the references to them become a text, a number, a truth value or null, and never
an array or an object. -/
theorem isScalar_fill_callerReferences
    (hceilings : datacenter.checkCeilings (Plan.requestedMachine template request) = .ok ())
    (hbound : Binding.bind source template.id template.parameters
      (Materialized.overrides { request with ns := datacenter.workloadNamespace }) state =
        .ok values) :
    (Fields.get? values "NAME" = some (DnsLabel.sanitize request.machineName) ∧
        (Reference.fill values (.text "${{NAME}}")).isScalar = true) ∧
      ∀ size ∈ request.diskSize, Fields.get? values "DISK_SIZE" = some size ∧
        (Reference.fill values (.text "${{DISK_SIZE}}")).isScalar = true := by
  obtain ⟨hname, hsize⟩ :=
    Materialized.get?_overrides { request with ns := datacenter.workloadNamespace }
  constructor
  · have hvalue := Binding.get?_bind_of_overridden hbound hname
    rw [Reference.fill]
    exact ⟨hvalue, Reference.isScalar_fillValue (by decide) hvalue fun c rest =>
      DnsLabel.not_opens_of_skipGap (DnsLabel.isLabelText_sanitize _)⟩
  · intro size hmem
    have hvalue := Binding.get?_bind_of_overridden hbound (hsize size hmem)
    have hdisk : (Plan.requestedMachine template request).diskSize = size := by
      rw [Plan.requestedMachine, Machine.new, Option.mem_def.mp hmem]
      rfl
    -- a size that is admitted is a quantity
    obtain ⟨bytes, hbytes, -⟩ := Dimension.checkCeiling_eq_ok_iff.mp
      (Datacenter.checkCeilings_eq_ok_iff.mp hceilings).2.2
    rw [hdisk] at hbytes
    rw [Reference.fill]
    exact ⟨hvalue, Reference.isScalar_fillValue (by decide) hvalue fun c rest =>
      Quantity.not_opens_of_bytes hbytes⟩

/-- A request whose name is a JSON array, and whose disk size is a number among blanks. -/
def bracketRequest : DeployRequest :=
  ⟨"appliance", "[7]", "", some " 10\t", "acme"⟩

/-- A datacenter that admits it. -/
def bracketDatacenter : Datacenter :=
  ⟨"acme", ⟨"acme", "acme-dev", ⟨4, 16, 20⟩, none⟩⟩

/-- The values that are bound. -/
def bracketValues : Fields String :=
  [("DISK_SIZE", " 10\t"), ("NAME", "7"), ("NAMESPACE", "acme-dev")]

/-- Both are numbers in the end. -/
theorem isScalar_fill_bracketRequest :
    bracketDatacenter.checkCeilings
        (Plan.requestedMachine (Template.new "appliance") bracketRequest) = .ok () ∧
      (Reference.fill bracketValues (.text "${{NAME}}") = .int 7 ∧
        (Reference.fill bracketValues (.text "${{NAME}}")).isScalar = true) ∧
      Reference.fill bracketValues (.text "${{DISK_SIZE}}") = .int 10 ∧
        (Reference.fill bracketValues (.text "${{DISK_SIZE}}")).isScalar = true := by
  have hceilings : bracketDatacenter.checkCeilings
      (Plan.requestedMachine (Template.new "appliance") bracketRequest) = .ok () := by
    decide +kernel
  have hbound : Binding.bind Congruential.source "appliance" [] (Materialized.overrides
      { bracketRequest with ns := bracketDatacenter.workloadNamespace }) 0 = .ok bracketValues := by
    decide +kernel
  obtain ⟨⟨-, hname⟩, hsize⟩ := isScalar_fill_callerReferences hceilings hbound
  exact ⟨hceilings, ⟨by decide +kernel, hname⟩, by decide +kernel, (hsize _ rfl).2⟩

end VmProvisioning
