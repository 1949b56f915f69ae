import BgpLinkState.Containers

/-! Sub-TLVs nested to any depth, as the registry these modules load decodes them. A `Tlv`
is a sub-TLV of one of the eight classes, or of a type the registry lacks, and the
definitions and ASLAs among them hold sub-TLVs of their own. `Tlv.value` is the value
`struct.pack` writes for one, `Tlv.dict` the dictionary it stands for, and `Tlv.Fits` the
trees the two-octet fields can hold. `record_registeredUnpackDict` says that the
recursive decoder reads every such tree back, at every depth. -/

namespace BgpLinkState.Nested
open Python Hex LinkState SubTlv Node.MtId Node.FlexAlgoDefine Dispatch Containers

/-- A sub-TLV as its sender means it: the flags sub-TLV is its M-flag and the fifteen
reserved bits under it. -/
inductive Tlv where
  | mtId (ids : List Nat)
  | flexAlgoDefine (flexAlgo metricType calcType priority : UInt8) (subTlvs : List Tlv)
  | excludeAdminGroup (groups : List Nat)
  | includeAnyAdminGroup (groups : List Nat)
  | includeAllAdminGroup (groups : List Nat)
  | definitionFlags (m : Bool) (reserved : Nat)
  | excludeSRLG (srlgs : List Nat)
  | appSpecLinkAttr (sabm udabm reserved : Bytes) (subTlvs : List Tlv)
  | unknown (type : Nat) (value : Bytes)

/-- The type code in the sub-TLV's header. -/
def Tlv.type : Tlv → Nat
  | .mtId _ => 263
  | .flexAlgoDefine .. => 1039
  | .excludeAdminGroup _ => 1040
  | .includeAnyAdminGroup _ => 1041
  | .includeAllAdminGroup _ => 1042
  | .definitionFlags .. => 1043
  | .excludeSRLG _ => 1044
  | .appSpecLinkAttr .. => 1122
  | .unknown type _ => type

mutual

/-- The value octets of a sub-TLV. -/
def Tlv.value : Tlv → Bytes
  | .mtId ids => ids.flatMap (structPack 2)
  | .flexAlgoDefine flexAlgo metricType calcType priority subTlvs =>
    [flexAlgo, metricType, calcType, priority] ++ Tlv.wire subTlvs
  | .excludeAdminGroup groups => groups.flatMap (structPack 4)
  | .includeAnyAdminGroup groups => groups.flatMap (structPack 4)
  | .includeAllAdminGroup groups => groups.flatMap (structPack 4)
  | .definitionFlags m reserved => structPack 2 ((if m then 2 ^ 15 else 0) + reserved)
  | .excludeSRLG srlgs => srlgs.flatMap (structPack 4)
  | .appSpecLinkAttr sabm udabm reserved subTlvs =>
    [UInt8.ofNat sabm.length, UInt8.ofNat udabm.length] ++ reserved ++ sabm ++ udabm ++
      Tlv.wire subTlvs
  | .unknown _ value => value

/-- Sub-TLVs on the wire, each a `!HH` header and its value. -/
def Tlv.wire : List Tlv → Bytes
  | [] => []
  | t :: ts =>
    structPack 2 t.type ++ structPack 2 (Tlv.value t).length ++ Tlv.value t ++ Tlv.wire ts

end

mutual

/-- The dictionary a sub-TLV stands for: the class's `TYPE_STR` and its fields, or for a
type the registry lacks the fallback record. -/
def Tlv.dict : Tlv → PyValue
  | .mtId ids => TLV.dict "mt_id" (intList ids)
  | .flexAlgoDefine flexAlgo metricType calcType priority subTlvs =>
    TLV.dict "flex_algo_defn" (.dict [("flex_algo", .int flexAlgo.toNat),
      ("metric_type", .int metricType.toNat), ("calc_type", .int calcType.toNat),
      ("priority", .int priority.toNat), ("sub_tlvs", .list (Tlv.dicts subTlvs))])
  | .excludeAdminGroup groups => TLV.dict "flex_algo_excl_admin_group" (intList groups)
  | .includeAnyAdminGroup groups => TLV.dict "flex_algo_incl_any_admin_group" (intList groups)
  | .includeAllAdminGroup groups => TLV.dict "flex_algo_incl_all_admin_group" (intList groups)
  | .definitionFlags m _ =>
    TLV.dict "flex_algo_defn_flags" (.dict [("M", .int (if m then 1 else 0))])
  | .excludeSRLG srlgs => TLV.dict "flex_algo_excl_srlg" (intList srlgs)
  | .appSpecLinkAttr sabm udabm _ subTlvs =>
    TLV.dict "ASLA" (.dict [("sabm", Link.AppSpecLinkAttr.maskEntry sabm),
      ("udabm", Link.AppSpecLinkAttr.maskEntry udabm),
      ("sub_tlvs", .list (Tlv.dicts subTlvs))])
  | .unknown type value => fallbackRecord type value

/-- The dictionaries of sub-TLVs, in order. -/
def Tlv.dicts : List Tlv → List PyValue
  | [] => []
  | t :: ts => Tlv.dict t :: Tlv.dicts ts

end

/-- The trees the wire format holds under `reg`: every integer fits its field, every nested
value its two-octet length, every mask its length octet, and an unknown type is one `reg`
lacks. -/
inductive Tlv.Fits (reg : Registry) : Tlv → Prop
  | mtId {ids : List Nat} (values : ∀ x ∈ ids, x < 2 ^ 16) : Fits reg (.mtId ids)
  | flexAlgoDefine {flexAlgo metricType calcType priority : UInt8} {subTlvs : List Tlv}
      (each : ∀ t ∈ subTlvs, Fits reg t) (sized : ∀ t ∈ subTlvs, t.value.length < 2 ^ 16) :
      Fits reg (.flexAlgoDefine flexAlgo metricType calcType priority subTlvs)
  | excludeAdminGroup {groups : List Nat} (values : ∀ x ∈ groups, x < 2 ^ 32) :
      Fits reg (.excludeAdminGroup groups)
  | includeAnyAdminGroup {groups : List Nat} (values : ∀ x ∈ groups, x < 2 ^ 32) :
      Fits reg (.includeAnyAdminGroup groups)
  | includeAllAdminGroup {groups : List Nat} (values : ∀ x ∈ groups, x < 2 ^ 32) :
      Fits reg (.includeAllAdminGroup groups)
  | definitionFlags {m : Bool} {reserved : Nat} (unused : reserved < 2 ^ 15) :
      Fits reg (.definitionFlags m reserved)
  | excludeSRLG {srlgs : List Nat} (values : ∀ x ∈ srlgs, x < 2 ^ 32) :
      Fits reg (.excludeSRLG srlgs)
  | appSpecLinkAttr {sabm udabm reserved : Bytes} {subTlvs : List Tlv}
      (sabmFits : sabm.length < 256) (udabmFits : udabm.length < 256)
      (twoOctets : reserved.length = 2) (each : ∀ t ∈ subTlvs, Fits reg t)
      (sized : ∀ t ∈ subTlvs, t.value.length < 2 ^ 16) :
      Fits reg (.appSpecLinkAttr sabm udabm reserved subTlvs)
  | unknown {type : Nat} {value : Bytes} (unregistered : reg type = none)
      (typeFits : type < 2 ^ 16) : Fits reg (.unknown type value)

theorem Tlv.wire_eq (ts : List Tlv) :
    Tlv.wire ts = encodeSubTlvs (ts.map fun t => (t.type, t.value)) := by
  induction ts with
  | nil => rfl
  | cons t ts ih => simp [Tlv.wire, encodeSubTlvs, ih]

theorem Tlv.dicts_eq (ts : List Tlv) : Tlv.dicts ts = ts.map Tlv.dict := by
  induction ts with
  | nil => rfl
  | cons t ts ih => rw [Tlv.dicts, ih, List.map_cons]

theorem Tlv.Fits.type_lt {reg : Registry} {t : Tlv} (fits : t.Fits reg) :
    t.type < 2 ^ 16 := by
  cases fits with
  | unknown _ typeFits => exact typeFits
  | _ => simp only [Tlv.type]; omega

section Decode

variable {reg : Registry}

/-- The sub-TLV loop over well-formed sub-TLVs whose records all decode. -/
theorem unpackSubTlvs_wire {decode : TlvClass → Bytes → Run PyValue} {ts : List Tlv}
    (typed : ∀ t ∈ ts, t.type < 2 ^ 16) (sized : ∀ t ∈ ts, t.value.length < 2 ^ 16)
    (decoded : ∀ t ∈ ts, record reg decode t.type t.value = pure t.dict) :
    unpackSubTlvs reg decode (Tlv.wire ts) [] = pure (Tlv.dicts ts) := by
  have fit : ∀ subTlv ∈ ts.map (fun t => (t.type, t.value)),
      subTlv.1 < 2 ^ 16 ∧ subTlv.2.length < 2 ^ 16 := by
    simp only [List.mem_map]
    rintro _ ⟨t, member, rfl⟩
    exact ⟨typed t member, sized t member⟩
  rw [Tlv.wire_eq, unpackSubTlvs_encodeSubTlvs reg decode fit, mapM_map, mapM_pure_map decoded,
    Tlv.dicts_eq]
  rfl

theorem unpackU32List_flatMap {values : List Nat} (fit : ∀ x ∈ values, x < 2 ^ 32) :
    unpackU32List (values.flatMap (structPack 4)) = pure values := by
  rw [unpackU32List_eq, if_pos (by rw [length_flatMap_structPack, Nat.mul_mod_right]),
    chunkValues_flatMap_structPack (by decide) fit]

theorem MultiTopologyIdentifier.unpack_flatMap {ids : List Nat} (fit : ∀ x ∈ ids, x < 2 ^ 16) :
    MultiTopologyIdentifier.unpack (ids.flatMap (structPack 2)) = pure ids := by
  rw [MultiTopologyIdentifier.unpack, MultiTopologyIdentifier.unpackLoop_eq,
    if_pos (by rw [length_flatMap_structPack, Nat.mul_mod_right]),
    chunkValues_flatMap_structPack (by decide) fit]
  rfl

/-- The M-flag written above reserved bits is read back, the reserved bits dropped. -/
theorem FlexAlgoDefinitionFlags.unpack_structPack (m : Bool) {reserved : Nat}
    (unused : reserved < 2 ^ 15) :
    FlexAlgoDefinitionFlags.unpack (structPack 2 ((if m then 2 ^ 15 else 0) + reserved)) =
      pure (.dict [("M", .int (if m then 1 else 0))]) := by
  have fits : (if m then 2 ^ 15 else 0) + reserved < 256 ^ 2 := by split <;> omega
  have top : ((if m then 2 ^ 15 else 0) + reserved) >>> 15 = if m then 1 else 0 := by
    rw [Nat.shiftRight_eq_div_pow]
    split <;> omega
  rw [FlexAlgoDefinitionFlags.unpack, List.take_of_length_le (by simp), structUnpackH,
    structUnpack_of_length (length_structPack 2 _), be_structPack_of_lt fits, pure_bind, top]
  split <;> rfl

/-- A class of the node and link modules that decodes a tree's value to what the tree
stands for under the class's name: the registry's recursive decoder records the tree. -/
theorem record_of_unpackClass {base : Registry} (cls : TlvClass)
    (member : cls ∈ linkStateClasses) {t : Tlv} (typed : t.type = cls.TYPE) {body : PyValue}
    (decoded : unpackClass (registeredTlvs base) (registeredUnpackDict (registeredTlvs base)) cls
      t.value = pure body)
    (named : t.dict = TLV.dict cls.TYPE_STR body) :
    record (registeredTlvs base) (registeredUnpackDict (registeredTlvs base)) t.type t.value =
      pure t.dict := by
  calc record (registeredTlvs base) (registeredUnpackDict (registeredTlvs base)) t.type t.value
      = registeredUnpackDict (registeredTlvs base) cls t.value := by
        rw [typed, record, registeredTlvs_TYPE base member]
    _ = unpackDict (registeredTlvs base) (registeredUnpackDict (registeredTlvs base)) cls
          t.value := registeredUnpackDict_eq _ cls t.value
    _ = pure t.dict := by
        rw [unpackDict, decoded, named]
        rfl

end Decode

/-- The recursive decoder reads every tree the wire format holds back as the dictionary it
stands for, at every depth: the registry the node and link modules load, over whatever
else was registered, decodes each sub-TLV with `registered_tlvs[type].unpack(value).dict()`
and a type it lacks with the fallback record. -/
theorem record_registeredUnpackDict (base : Registry) {t : Tlv}
    (fits : t.Fits (registeredTlvs base)) :
    record (registeredTlvs base) (registeredUnpackDict (registeredTlvs base)) t.type t.value =
      pure t.dict := by
  induction fits with
  | mtId values =>
    refine record_of_unpackClass .multiTopologyIdentifier (by simp [linkStateClasses]) (by rfl)
      ?_ (by rfl)
    rw [unpackClass, Tlv.value, MultiTopologyIdentifier.unpack_flatMap values]
    rfl
  | @flexAlgoDefine flexAlgo metricType calcType priority subTlvs each sized ih =>
    refine record_of_unpackClass .flexAlgorithmDefine (by simp [linkStateClasses]) (by rfl) ?_
      (by rfl)
    rw [unpackClass, Tlv.value,
      @FlexAlgorithmDefine.unpack_append _ _ [flexAlgo, metricType, calcType, priority] rfl,
      unpackSubTlvs_wire (fun t member => (each t member).type_lt) sized ih]
    simp [field, be]
  | excludeAdminGroup values =>
    refine record_of_unpackClass .flexAlgoExcludeAdminGroup (by simp [linkStateClasses])
      (by rfl) ?_ (by rfl)
    rw [unpackClass, Tlv.value, FlexAlgoExcludeAdminGroup.unpack, unpackU32List_flatMap values]
    rfl
  | includeAnyAdminGroup values =>
    refine record_of_unpackClass .flexAlgoIncludeAnyAdminGroup (by simp [linkStateClasses])
      (by rfl) ?_ (by rfl)
    rw [unpackClass, Tlv.value, FlexAlgoIncludeAnyAdminGroup.unpack, unpackU32List_flatMap values]
    rfl
  | includeAllAdminGroup values =>
    refine record_of_unpackClass .flexAlgoIncludeAllAdminGroup (by simp [linkStateClasses])
      (by rfl) ?_ (by rfl)
    rw [unpackClass, Tlv.value, FlexAlgoIncludeAllAdminGroup.unpack, unpackU32List_flatMap values]
    rfl
  | @definitionFlags m reserved unused =>
    refine record_of_unpackClass .flexAlgoDefinitionFlags (by simp [linkStateClasses]) (by rfl)
      ?_ (by rfl)
    rw [unpackClass, Tlv.value, FlexAlgoDefinitionFlags.unpack_structPack m unused]
    rfl
  | excludeSRLG values =>
    refine record_of_unpackClass .flexAlgoExcludeSRLG (by simp [linkStateClasses]) (by rfl) ?_
      (by rfl)
    rw [unpackClass, Tlv.value, FlexAlgoExcludeSRLG.unpack, unpackU32List_flatMap values]
    rfl
  | @appSpecLinkAttr sabm udabm reserved subTlvs sabmFits udabmFits twoOctets each sized ih =>
    refine record_of_unpackClass .appSpecLinkAttr (by simp [linkStateClasses]) (by rfl) ?_
      (by rfl)
    rw [unpackClass, Tlv.value,
      Link.AppSpecLinkAttr.unpack_layout _ _ sabm udabm reserved sabmFits udabmFits twoOctets,
      unpackSubTlvs_wire (fun t member => (each t member).type_lt) sized ih]
    rfl
  | unknown unregistered typeFits =>
    rw [Tlv.type, record, unregistered]
    rfl

/-- A definition holding an ASLA that holds the flags sub-TLV, and an unknown sub-TLV. -/
theorem record_registeredUnpackDict_nested :
    let t := Tlv.flexAlgoDefine 128 1 0 128
      [.appSpecLinkAttr [] [] [0, 0] [.definitionFlags true 0], .unknown 65535 [0xde, 0xad]]
    t.Fits loaded ∧ record loaded (registeredUnpackDict loaded) t.type t.value = pure t.dict := by
  intro t
  have flags : ∀ s ∈ [Tlv.definitionFlags true 0], s.Fits loaded := by
    rintro _ (_ | ⟨_, ⟨⟩⟩)
    exact .definitionFlags (by decide)
  have fits : t.Fits loaded := by
    refine .flexAlgoDefine ?_ (by decide)
    rintro _ (_ | ⟨_, _ | ⟨_, ⟨⟩⟩⟩)
    · exact .appSpecLinkAttr (by decide) (by decide) rfl flags (by decide)
    · exact .unknown rfl (by decide)
  exact ⟨fits, record_registeredUnpackDict _ fits⟩

end BgpLinkState.Nested
