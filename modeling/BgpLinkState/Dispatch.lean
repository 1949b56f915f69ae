import BgpLinkState.Node.MtId
import BgpLinkState.Node.FlexAlgoDefine
import BgpLinkState.Link.AppSpecLinkAttr

/-! `registered_tlvs[type].unpack(value).dict()`, the call the sub-TLV loop makes. Both
containers are registered, so they reach themselves through it, and it is defined here
with a budget of nested calls. Every nested call decodes a value shorter than the buffer
of its caller: a budget above the input's length is never spent, the result does not
depend on it, and `registeredUnpackDict`, the call without a budget, satisfies the
equations of the source. -/

namespace BgpLinkState.Dispatch
open Python LinkState SubTlv Node.MtId Node.FlexAlgoDefine

/-- Modelled from the spec: `TLV.dict()` (`yabgp/tlv.py` is not among the sources) tags
a value with its class's display name, `{'type': TYPE_STR, 'value': value}`. -/
def TLV.dict (typeStr : String) (value : PyValue) : PyValue :=
  .dict [("type", .str typeStr), ("value", value)]

def intList (values : List Nat) : PyValue := .list (values.map fun n => .int n)

/-- `cls.unpack(data)`: the value of the TLV, nested sub-TLVs decoded by `decode`. -/
def unpackClass (reg : Registry) (decode : TlvClass → Bytes → Run PyValue) :
    TlvClass → Bytes → Run PyValue
  | .multiTopologyIdentifier, data => liftM (intList <$> MultiTopologyIdentifier.unpack data)
  | .flexAlgorithmDefine, data => FlexAlgorithmDefine.unpack reg decode data
  | .flexAlgoExcludeAdminGroup, data => liftM (intList <$> FlexAlgoExcludeAdminGroup.unpack data)
  | .flexAlgoIncludeAnyAdminGroup, data =>
    liftM (intList <$> FlexAlgoIncludeAnyAdminGroup.unpack data)
  | .flexAlgoIncludeAllAdminGroup, data =>
    liftM (intList <$> FlexAlgoIncludeAllAdminGroup.unpack data)
  | .flexAlgoDefinitionFlags, data => liftM (FlexAlgoDefinitionFlags.unpack data)
  | .flexAlgoExcludeSRLG, data => liftM (intList <$> FlexAlgoExcludeSRLG.unpack data)
  | .appSpecLinkAttr, data => Link.AppSpecLinkAttr.unpack reg decode data
  | .other _ _ unpack, data => liftM (unpack data)

/-- `cls.unpack(data).dict()`. -/
def unpackDict (reg : Registry) (decode : TlvClass → Bytes → Run PyValue)
    (cls : TlvClass) (data : Bytes) : Run PyValue :=
  TLV.dict cls.TYPE_STR <$> unpackClass reg decode cls data

/-- The registry's classes decoding one another, with at most `fuel` calls nested. -/
def dispatch (reg : Registry) : Nat → TlvClass → Bytes → Run PyValue
  | 0, _, _ => ExceptT.mk none
  | fuel + 1, cls, data => unpackDict reg (dispatch reg fuel) cls data

/-- `cls.unpack(data).dict()` with no budget: a budget above the input's length. -/
def registeredUnpackDict (reg : Registry) (cls : TlvClass) (data : Bytes) : Run PyValue :=
  dispatch reg (data.length + 1) cls data

theorem liftM_isSome {α : Type} (result : Except PyError α) :
    (liftM result : Run α).run.isSome := by
  cases result <;> rfl

section Nested

variable (reg : Registry)

/-- The containers call `decode` only on values shorter than their input. -/
theorem unpackClass_congr {decode decode' : TlvClass → Bytes → Run PyValue} (cls : TlvClass)
    {data : Bytes}
    (agree : ∀ c value, value.length < data.length → decode c value = decode' c value) :
    unpackClass reg decode cls data = unpackClass reg decode' cls data := by
  have loops : ∀ offset subTlvs, unpackSubTlvs reg decode (data.drop offset) subTlvs =
      unpackSubTlvs reg decode' (data.drop offset) subTlvs := fun offset =>
    unpackSubTlvs_congr reg fun c value short =>
      agree c value (lt_of_lt_of_le short (by simp))
  cases cls with
  | flexAlgorithmDefine => simp only [unpackClass, FlexAlgorithmDefine.unpack, loops]
  | appSpecLinkAttr => simp only [unpackClass, Link.AppSpecLinkAttr.unpack, loops]
  | _ => rfl

/-- A class finishes when `decode` finishes on every value shorter than its input. -/
theorem unpackClass_isSome {decode : TlvClass → Bytes → Run PyValue} (cls : TlvClass)
    {data : Bytes}
    (finishes : ∀ c value, value.length < data.length → (decode c value).run.isSome) :
    (unpackClass reg decode cls data).run.isSome := by
  have loops : ∀ offset subTlvs,
      (unpackSubTlvs reg decode (data.drop offset) subTlvs).run.isSome := fun offset =>
    unpackSubTlvs_isSome reg fun c value short =>
      finishes c value (lt_of_lt_of_le short (by simp))
  cases cls with
  | flexAlgorithmDefine =>
    exact isSome_bind (liftM_isSome _) fun _ => isSome_bind (loops _ _) fun _ => rfl
  | appSpecLinkAttr =>
    exact isSome_bind (liftM_isSome _) fun _ => isSome_bind (liftM_isSome _) fun _ =>
      isSome_bind (liftM_isSome _) fun _ => isSome_bind (liftM_isSome _) fun _ =>
        isSome_bind (loops _ _) fun _ => rfl
  | _ => exact liftM_isSome _

/-- A budget above the input's length is never spent. -/
theorem dispatch_isSome :
    ∀ (fuel : Nat) (cls : TlvClass) (data : Bytes), data.length < fuel →
      (dispatch reg fuel cls data).run.isSome
  | 0, _, _, enough => absurd enough (Nat.not_lt_zero _)
  | fuel + 1, cls, data, enough =>
    isSome_bind (unpackClass_isSome reg cls fun c value short =>
      dispatch_isSome fuel c value (by omega)) fun _ => rfl

/-- Two budgets above the input's length give the same result. -/
theorem dispatch_stable :
    ∀ (fuel fuel' : Nat) (cls : TlvClass) (data : Bytes), data.length < fuel →
      data.length < fuel' → dispatch reg fuel cls data = dispatch reg fuel' cls data
  | 0, _, _, _, enough, _ => absurd enough (Nat.not_lt_zero _)
  | _, 0, _, _, _, enough' => absurd enough' (Nat.not_lt_zero _)
  | fuel + 1, fuel' + 1, cls, data, enough, enough' => by
    simp only [dispatch, unpackDict]
    rw [unpackClass_congr reg cls fun c value short =>
      dispatch_stable fuel fuel' c value (by omega) (by omega)]

/-- The call without a budget is a fixed point of the classes' decoders: each class
decodes its nested sub-TLVs with the same call. -/
theorem registeredUnpackDict_eq (cls : TlvClass) (data : Bytes) :
    registeredUnpackDict reg cls data = unpackDict reg (registeredUnpackDict reg) cls data := by
  rw [registeredUnpackDict, dispatch, unpackDict, unpackDict,
    unpackClass_congr reg cls fun c value short =>
      dispatch_stable reg data.length (value.length + 1) c value short (by omega)]
  rfl

/-- Nested decoding terminates: decoding nested sub-TLVs through the registry with any
budget of at least the input's length, each container returns or raises, whatever the
registry holds. -/
theorem containers_terminate (data : Bytes) (fuel : Nat) (enough : data.length ≤ fuel) :
    (FlexAlgorithmDefine.unpack reg (dispatch reg fuel) data).run.isSome ∧
      (Link.AppSpecLinkAttr.unpack reg (dispatch reg fuel) data).run.isSome :=
  ⟨unpackClass_isSome reg .flexAlgorithmDefine fun c value short =>
      dispatch_isSome reg fuel c value (by omega),
    unpackClass_isSome reg .appSpecLinkAttr fun c value short =>
      dispatch_isSome reg fuel c value (by omega)⟩

/-- A definition nested in a definition, under the registry these modules load. -/
theorem containers_terminate_nested :
    let data : Bytes := [0x80, 0x01, 0x00, 0x80, 0x04, 0x0f, 0x00, 0x04, 0x80, 0x01, 0x00, 0x80]
    data.length ≤ 12 ∧
      (FlexAlgorithmDefine.unpack (registeredTlvs fun _ => none)
          (dispatch (registeredTlvs fun _ => none) 12) data).run.isSome ∧
      (Link.AppSpecLinkAttr.unpack (registeredTlvs fun _ => none)
          (dispatch (registeredTlvs fun _ => none) 12) data).run.isSome :=
  ⟨by decide, containers_terminate _ _ 12 (by decide)⟩

end Nested

end BgpLinkState.Dispatch
