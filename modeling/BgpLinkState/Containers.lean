import BgpLinkState.Dispatch

/-! The two containers side by side. Each reads its fixed fields and hands the octets after
them to the same sub-TLV loop, so on well-formed sub-TLVs both give back the entries that
were written, and with zero-length masks `AppSpecLinkAttr.unpack` hands its loop the octets
after the header exactly as `FlexAlgorithmDefine.unpack` does: the two copies of the loop
agree on every buffer. The loop they share does not check a declared value length against
the octets left, and its fallback record passes the `b2a_hex` result to `str()`.

Each result is followed by a run under `loaded`, the registry these modules load, with its
own recursive decoder. -/

namespace BgpLinkState.Containers
open Python Hex LinkState SubTlv Node.FlexAlgoDefine Dispatch

/-- The registry these modules load, over an empty one. -/
abbrev loaded : Registry := registeredTlvs fun _ => none

/-- `AppSpecLinkAttr.unpack` inverts the wire layout: the two masks come back as their
lengths and hex digits, the reserved octets are ignored, and the sub-TLVs written after the
masks come back one entry each, in order, each its registered class's decoding of its whole
value or the fallback record of its whole value. -/
theorem appSpecLinkAttr_unpack_wire (reg : Registry) (decode : TlvClass → Bytes → Run PyValue)
    (sabm udabm reserved : Bytes) {subTlvs : List (Nat × Bytes)}
    (sabmFits : sabm.length < 256) (udabmFits : udabm.length < 256)
    (twoOctets : reserved.length = 2)
    (fit : ∀ subTlv ∈ subTlvs, subTlv.1 < 2 ^ 16 ∧ subTlv.2.length < 2 ^ 16)
    (returns : ∀ subTlv ∈ subTlvs, ∀ cls, reg subTlv.1 = some cls →
      ∃ out, decode cls subTlv.2 = pure out) :
    ∃ records, Link.AppSpecLinkAttr.unpack reg decode
        ([UInt8.ofNat sabm.length, UInt8.ofNat udabm.length] ++ reserved ++ sabm ++ udabm ++
          encodeSubTlvs subTlvs) =
        pure (.dict [("sabm", Link.AppSpecLinkAttr.maskEntry sabm),
          ("udabm", Link.AppSpecLinkAttr.maskEntry udabm), ("sub_tlvs", .list records)]) ∧
      List.Forall₂ (fun subTlv entry => Entry reg decode subTlv.1 subTlv.2 entry)
        subTlvs records := by
  obtain ⟨records, mapped, entries⟩ := mapM_record_returns reg decode returns
  refine ⟨records, ?_, entries⟩
  rw [Link.AppSpecLinkAttr.unpack_layout reg decode sabm udabm reserved sabmFits udabmFits
    twoOctets, unpackSubTlvs_encodeSubTlvs reg decode fit, mapped]
  rfl

/-- An SABM of four octets (the `!I` branch) and an UDABM of three (the raw dump) around
the flags, an admin-group and an unknown sub-TLV. -/
theorem appSpecLinkAttr_unpack_wire_flags :
    ∃ records, Link.AppSpecLinkAttr.unpack loaded (registeredUnpackDict loaded)
        ([UInt8.ofNat 4, UInt8.ofNat 3] ++ [0, 0] ++ [0x10, 0, 0, 0] ++ [0xff, 0, 1] ++
          encodeSubTlvs [(1043, [0x80, 0x00]), (1040, [0, 0, 0, 1]), (65535, [0xde, 0xad])]) =
        pure (.dict [("sabm", Link.AppSpecLinkAttr.maskEntry [0x10, 0, 0, 0]),
          ("udabm", Link.AppSpecLinkAttr.maskEntry [0xff, 0, 1]), ("sub_tlvs", .list records)]) ∧
      List.Forall₂ (fun subTlv entry =>
          Entry loaded (registeredUnpackDict loaded) subTlv.1 subTlv.2 entry)
        [(1043, [0x80, 0x00]), (1040, [0, 0, 0, 1]), (65535, [0xde, 0xad])] records :=
  appSpecLinkAttr_unpack_wire _ _ [0x10, 0, 0, 0] [0xff, 0, 1] [0, 0] (by decide) (by decide) rfl
    (by decide) (by
      rintro _ (_ | ⟨_, _ | ⟨_, _ | ⟨_, ⟨⟩⟩⟩⟩) cls found <;> cases found <;> exact ⟨_, rfl⟩)

/-- `FlexAlgorithmDefine.unpack` inverts the wire layout: the four header octets come back
as they are, with no range check, and the sub-TLVs written after them come back one entry
each, in order, each its registered class's decoding of its whole value (a nested
definition or ASLA included) or the fallback record of its whole value. -/
theorem flexAlgorithmDefine_unpack_wire (reg : Registry)
    (decode : TlvClass → Bytes → Run PyValue) (flexAlgo metricType calcType priority : UInt8)
    {subTlvs : List (Nat × Bytes)}
    (fit : ∀ subTlv ∈ subTlvs, subTlv.1 < 2 ^ 16 ∧ subTlv.2.length < 2 ^ 16)
    (returns : ∀ subTlv ∈ subTlvs, ∀ cls, reg subTlv.1 = some cls →
      ∃ out, decode cls subTlv.2 = pure out) :
    ∃ records, FlexAlgorithmDefine.unpack reg decode
        ([flexAlgo, metricType, calcType, priority] ++ encodeSubTlvs subTlvs) =
        pure (.dict [("flex_algo", .int flexAlgo.toNat), ("metric_type", .int metricType.toNat),
          ("calc_type", .int calcType.toNat), ("priority", .int priority.toNat),
          ("sub_tlvs", .list records)]) ∧
      List.Forall₂ (fun subTlv entry => Entry reg decode subTlv.1 subTlv.2 entry)
        subTlvs records := by
  obtain ⟨records, mapped, entries⟩ := mapM_record_returns reg decode returns
  refine ⟨records, ?_, entries⟩
  rw [@FlexAlgorithmDefine.unpack_append reg decode [flexAlgo, metricType, calcType, priority]
    rfl, unpackSubTlvs_encodeSubTlvs reg decode fit, mapped]
  simp [field, be]

/-- The test's definition `80010080` around the flags, an admin-group and an unknown
sub-TLV. -/
theorem flexAlgorithmDefine_unpack_wire_flags :
    ∃ records, FlexAlgorithmDefine.unpack loaded (registeredUnpackDict loaded)
        ([0x80, 0x01, 0x00, 0x80] ++
          encodeSubTlvs [(1043, [0x80, 0x00]), (1040, [0, 0, 0, 1]), (65535, [0xde, 0xad])]) =
        pure (.dict [("flex_algo", .int 128), ("metric_type", .int 1), ("calc_type", .int 0),
          ("priority", .int 128), ("sub_tlvs", .list records)]) ∧
      List.Forall₂ (fun subTlv entry =>
          Entry loaded (registeredUnpackDict loaded) subTlv.1 subTlv.2 entry)
        [(1043, [0x80, 0x00]), (1040, [0, 0, 0, 1]), (65535, [0xde, 0xad])] records :=
  flexAlgorithmDefine_unpack_wire _ _ 0x80 0x01 0x00 0x80 (by decide) (by
    rintro _ (_ | ⟨_, _ | ⟨_, _ | ⟨_, ⟨⟩⟩⟩⟩) cls found <;> cases found <;> exact ⟨_, rfl⟩)

/-- The two copies of the sub-TLV loop are one iterator: on the same sub-TLV octets, a
definition and an ASLA with empty masks raise the same exception or both return, and
then with the same `sub_tlvs`. -/
theorem sub_tlv_loops_agree (reg : Registry) (decode : TlvClass → Bytes → Run PyValue)
    {header reserved : Bytes} (sized : header.length = 4)
    (twoOctets : reserved.length = 2) (rest : Bytes) :
    (∀ e : PyError, FlexAlgorithmDefine.unpack reg decode (header ++ rest) = throw e ↔
      Link.AppSpecLinkAttr.unpack reg decode ([0, 0] ++ reserved ++ rest) = throw e) ∧
    ((∃ v, FlexAlgorithmDefine.unpack reg decode (header ++ rest) = pure v) ↔
      ∃ w, Link.AppSpecLinkAttr.unpack reg decode ([0, 0] ++ reserved ++ rest) = pure w) ∧
    (∀ v w, FlexAlgorithmDefine.unpack reg decode (header ++ rest) = pure v →
      Link.AppSpecLinkAttr.unpack reg decode ([0, 0] ++ reserved ++ rest) = pure w →
      v.getItem "sub_tlvs" = w.getItem "sub_tlvs") := by
  rw [FlexAlgorithmDefine.unpack_append reg decode sized,
    Link.AppSpecLinkAttr.unpack_no_masks reg decode twoOctets]
  generalize unpackSubTlvs reg decode rest [] = loop
  refine ⟨fun e => by rw [map_eq_throw, map_eq_throw], ?_, fun v w fad asla => ?_⟩
  · simp only [map_eq_pure]
    exact ⟨fun ⟨_, subTlvs, returns, _⟩ => ⟨_, subTlvs, returns, rfl⟩,
      fun ⟨_, subTlvs, returns, _⟩ => ⟨_, subTlvs, returns, rfl⟩⟩
  · obtain ⟨subTlvs, returns, rfl⟩ := map_eq_pure.mp fad
    obtain ⟨subTlvs', returns', rfl⟩ := map_eq_pure.mp asla
    cases pure_inj (returns.symm.trans returns')
    rfl

/-- A definition and an ASLA around the same flags sub-TLV. -/
theorem sub_tlv_loops_agree_flags :
    let header : Bytes := [0x80, 0x01, 0x00, 0x80]
    let rest : Bytes := [0x04, 0x13, 0x00, 0x02, 0x80, 0x00]
    let decode := registeredUnpackDict loaded
    header.length = 4 ∧ [(0 : UInt8), 0].length = 2 ∧
      (∀ e : PyError, FlexAlgorithmDefine.unpack loaded decode (header ++ rest) = throw e ↔
        Link.AppSpecLinkAttr.unpack loaded decode ([0, 0] ++ [0, 0] ++ rest) = throw e) ∧
      ((∃ v, FlexAlgorithmDefine.unpack loaded decode (header ++ rest) = pure v) ↔
        ∃ w, Link.AppSpecLinkAttr.unpack loaded decode ([0, 0] ++ [0, 0] ++ rest) = pure w) ∧
      (∀ v w, FlexAlgorithmDefine.unpack loaded decode (header ++ rest) = pure v →
        Link.AppSpecLinkAttr.unpack loaded decode ([0, 0] ++ [0, 0] ++ rest) = pure w →
        v.getItem "sub_tlvs" = w.getItem "sub_tlvs") :=
  ⟨rfl, rfl, @sub_tlv_loops_agree loaded (registeredUnpackDict loaded) [0x80, 0x01, 0x00, 0x80]
    [0, 0] rfl rfl [0x04, 0x13, 0x00, 0x02, 0x80, 0x00]⟩

/-- A final sub-TLV that declares more value octets than remain is not rejected by either
container: its record is made from the octets that are there. -/
theorem truncated_value_accepted (reg : Registry) (decode : TlvClass → Bytes → Run PyValue)
    {header reserved : Bytes} (sized : header.length = 4)
    (twoOctets : reserved.length = 2) {type length : Nat} {value : Bytes}
    (typeFits : type < 2 ^ 16) (lengthFits : length < 2 ^ 16) (short : value.length < length) :
    FlexAlgorithmDefine.unpack reg decode
        (header ++ (structPack 2 type ++ structPack 2 length ++ value)) =
      (fun entry => .dict [("flex_algo", .int (field header 0 1)),
        ("metric_type", .int (field header 1 1)), ("calc_type", .int (field header 2 1)),
        ("priority", .int (field header 3 1)), ("sub_tlvs", .list [entry])]) <$>
        record reg decode type value ∧
    Link.AppSpecLinkAttr.unpack reg decode
        ([0, 0] ++ reserved ++ (structPack 2 type ++ structPack 2 length ++ value)) =
      (fun entry => .dict [("sabm", Link.AppSpecLinkAttr.maskDict 0 none),
        ("udabm", Link.AppSpecLinkAttr.maskDict 0 none), ("sub_tlvs", .list [entry])]) <$>
        record reg decode type value := by
  rw [FlexAlgorithmDefine.unpack_append reg decode sized,
    Link.AppSpecLinkAttr.unpack_no_masks reg decode twoOctets,
    unpackSubTlvs_truncated reg decode typeFits lengthFits short]
  exact ⟨Functor.map_map .., Functor.map_map ..⟩

/-- The header `ffff0004` before the two octets `dead`. -/
theorem truncated_value_accepted_dead :
    ([0x80, 0x01, 0x00, 0x80] : Bytes).length = 4 ∧ ([0, 0] : Bytes).length = 2 ∧
      65535 < 2 ^ 16 ∧ 4 < 2 ^ 16 ∧ ([0xde, 0xad] : Bytes).length < 4 ∧
      FlexAlgorithmDefine.unpack loaded (registeredUnpackDict loaded)
          [0x80, 0x01, 0x00, 0x80, 0xff, 0xff, 0x00, 0x04, 0xde, 0xad] =
        pure (.dict [("flex_algo", .int 128), ("metric_type", .int 1), ("calc_type", .int 0),
          ("priority", .int 128), ("sub_tlvs", .list [fallbackRecord 65535 [0xde, 0xad]])]) ∧
      Link.AppSpecLinkAttr.unpack loaded (registeredUnpackDict loaded)
          [0x00, 0x00, 0x00, 0x00, 0xff, 0xff, 0x00, 0x04, 0xde, 0xad] =
        pure (.dict [("sabm", Link.AppSpecLinkAttr.maskDict 0 none),
          ("udabm", Link.AppSpecLinkAttr.maskDict 0 none),
          ("sub_tlvs", .list [fallbackRecord 65535 [0xde, 0xad]])]) :=
  ⟨rfl, rfl, by decide, by decide, by decide,
    @truncated_value_accepted loaded (registeredUnpackDict loaded) [0x80, 0x01, 0x00, 0x80] [0, 0]
      rfl rfl 65535 4 [0xde, 0xad] (by decide) (by decide) (by decide)⟩

/-- A sub-TLV of a type the registry lacks is recorded by either container with the value
`str(binascii.b2a_hex(value))`: its hex digits inside the bytes literal `b'...'`. -/
theorem unknown_sub_tlv_value_repr (reg : Registry) (decode : TlvClass → Bytes → Run PyValue)
    {header reserved : Bytes} (sized : header.length = 4)
    (twoOctets : reserved.length = 2) {type : Nat} {value : Bytes}
    (unregistered : reg type = none) (typeFits : type < 2 ^ 16)
    (lengthFits : value.length < 2 ^ 16) :
    FlexAlgorithmDefine.unpack reg decode (header ++ encodeSubTlvs [(type, value)]) =
      pure (.dict [("flex_algo", .int (field header 0 1)),
        ("metric_type", .int (field header 1 1)), ("calc_type", .int (field header 2 1)),
        ("priority", .int (field header 3 1)), ("sub_tlvs",
          .list [.dict [("type", .int type),
            ("value", .str ("b'" ++ String.mk (b2aHex value) ++ "'"))]])]) ∧
    Link.AppSpecLinkAttr.unpack reg decode ([0, 0] ++ reserved ++ encodeSubTlvs [(type, value)]) =
      pure (.dict [("sabm", Link.AppSpecLinkAttr.maskDict 0 none),
        ("udabm", Link.AppSpecLinkAttr.maskDict 0 none), ("sub_tlvs",
          .list [.dict [("type", .int type),
            ("value", .str ("b'" ++ String.mk (b2aHex value) ++ "'"))]])]) := by
  have fallback : record reg decode type value = pure (fallbackRecord type value) := by
    rw [record, unregistered]
  have loop : unpackSubTlvs reg decode (encodeSubTlvs [(type, value)]) [] =
      pure [fallbackRecord type value] := by
    rw [unpackSubTlvs_encodeSubTlvs reg decode (by simpa using ⟨typeFits, lengthFits⟩),
      List.mapM_cons, List.mapM_nil, fallback]
    rfl
  rw [FlexAlgorithmDefine.unpack_append reg decode sized,
    Link.AppSpecLinkAttr.unpack_no_masks reg decode twoOctets, loop]
  exact ⟨rfl, rfl⟩

/-- The test's unknown sub-TLV `ffff0004deadbeef`: the value is `"b'deadbeef'"`. -/
theorem unknown_sub_tlv_value_repr_deadbeef :
    ([0x80, 0x01, 0x00, 0x80] : Bytes).length = 4 ∧ ([0, 0] : Bytes).length = 2 ∧
      loaded 65535 = none ∧ 65535 < 2 ^ 16 ∧
      ([0xde, 0xad, 0xbe, 0xef] : Bytes).length < 2 ^ 16 ∧
      FlexAlgorithmDefine.unpack loaded (registeredUnpackDict loaded)
          [0x80, 0x01, 0x00, 0x80, 0xff, 0xff, 0x00, 0x04, 0xde, 0xad, 0xbe, 0xef] =
        pure (.dict [("flex_algo", .int 128), ("metric_type", .int 1), ("calc_type", .int 0),
          ("priority", .int 128),
          ("sub_tlvs", .list [.dict [("type", .int 65535), ("value", .str "b'deadbeef'")]])]) ∧
      Link.AppSpecLinkAttr.unpack loaded (registeredUnpackDict loaded)
          [0x00, 0x00, 0x00, 0x00, 0xff, 0xff, 0x00, 0x04, 0xde, 0xad, 0xbe, 0xef] =
        pure (.dict [("sabm", Link.AppSpecLinkAttr.maskDict 0 none),
          ("udabm", Link.AppSpecLinkAttr.maskDict 0 none),
          ("sub_tlvs", .list [.dict [("type", .int 65535), ("value", .str "b'deadbeef'")]])]) :=
  ⟨rfl, rfl, rfl, by decide, by decide,
    @unknown_sub_tlv_value_repr loaded (registeredUnpackDict loaded) [0x80, 0x01, 0x00, 0x80] [0, 0]
      rfl rfl 65535 [0xde, 0xad, 0xbe, 0xef] rfl (by decide) (by decide)⟩

/-- One to three octets after well-formed sub-TLVs are a sub-TLV header cut short: both
containers raise `struct.error` there, whatever masks the ASLA carries, once the sub-TLVs
before it decode. -/
theorem header_fragment_rejected (reg : Registry) (decode : TlvClass → Bytes → Run PyValue)
    {header : Bytes} (sized : header.length = 4) (sabm udabm : Bytes) {reserved : Bytes}
    (sabmFits : sabm.length < 256) (udabmFits : udabm.length < 256)
    (twoOctets : reserved.length = 2) {subTlvs : List (Nat × Bytes)}
    (fit : ∀ subTlv ∈ subTlvs, subTlv.1 < 2 ^ 16 ∧ subTlv.2.length < 2 ^ 16)
    (returns : ∀ subTlv ∈ subTlvs, ∀ cls, reg subTlv.1 = some cls →
      ∃ out, decode cls subTlv.2 = pure out)
    {tail : Bytes} (nonempty : tail ≠ []) (short : tail.length < 4) :
    FlexAlgorithmDefine.unpack reg decode (header ++ (encodeSubTlvs subTlvs ++ tail)) =
        throw .structError ∧
      Link.AppSpecLinkAttr.unpack reg decode
          ([UInt8.ofNat sabm.length, UInt8.ofNat udabm.length] ++ reserved ++ sabm ++ udabm ++
            (encodeSubTlvs subTlvs ++ tail)) = throw .structError := by
  obtain ⟨records, mapped, -⟩ := mapM_record_returns reg decode returns
  have loop : unpackSubTlvs reg decode (encodeSubTlvs subTlvs ++ tail) [] = throw .structError := by
    rw [unpackSubTlvs_fragment reg decode fit nonempty short, mapped, pure_bind]
  rw [FlexAlgorithmDefine.unpack_append reg decode sized,
    Link.AppSpecLinkAttr.unpack_layout reg decode sabm udabm reserved sabmFits udabmFits twoOctets,
    loop]
  exact ⟨rfl, rfl⟩

/-- The test's header fragment `0444`, after the definition's fixed octets and after an
ASLA with a one-octet SABM. -/
theorem header_fragment_rejected_0444 :
    ([0x80, 0x01, 0x00, 0x80] : Bytes).length = 4 ∧ ([0xff] : Bytes).length < 256 ∧
      ([] : Bytes).length < 256 ∧ ([0, 0] : Bytes).length = 2 ∧
      ([0x04, 0x44] : Bytes) ≠ [] ∧ ([0x04, 0x44] : Bytes).length < 4 ∧
      FlexAlgorithmDefine.unpack loaded (registeredUnpackDict loaded)
          [0x80, 0x01, 0x00, 0x80, 0x04, 0x44] = throw .structError ∧
      Link.AppSpecLinkAttr.unpack loaded (registeredUnpackDict loaded)
          [0x01, 0x00, 0x00, 0x00, 0xff, 0x04, 0x44] = throw .structError :=
  ⟨rfl, by decide, by decide, rfl, List.cons_ne_nil _ _, by decide,
    @header_fragment_rejected loaded (registeredUnpackDict loaded) [0x80, 0x01, 0x00, 0x80] rfl
      [0xff] [] [0, 0] (by decide) (by decide) rfl [] (by simp) (by simp) [0x04, 0x44]
      (List.cons_ne_nil _ _) (by decide)⟩

/-- An exception a nested decoder raises ends both containers with that exception, whatever
masks the ASLA carries: the sub-TLVs before it are decoded, and nothing after it is read,
however malformed. -/
theorem nested_exception_propagates (reg : Registry) (decode : TlvClass → Bytes → Run PyValue)
    {header : Bytes} (sized : header.length = 4) (sabm udabm : Bytes) {reserved : Bytes}
    (sabmFits : sabm.length < 256) (udabmFits : udabm.length < 256)
    (twoOctets : reserved.length = 2) {before : List (Nat × Bytes)} {type : Nat} {value : Bytes}
    (fit : ∀ subTlv ∈ before ++ [(type, value)], subTlv.1 < 2 ^ 16 ∧ subTlv.2.length < 2 ^ 16)
    (returns : ∀ subTlv ∈ before, ∀ cls, reg subTlv.1 = some cls →
      ∃ out, decode cls subTlv.2 = pure out)
    {cls : TlvClass} (found : reg type = some cls) {e : PyError}
    (raises : decode cls value = throw e) (tail : Bytes) :
    FlexAlgorithmDefine.unpack reg decode
        (header ++ (encodeSubTlvs (before ++ [(type, value)]) ++ tail)) = throw e ∧
      Link.AppSpecLinkAttr.unpack reg decode
        ([UInt8.ofNat sabm.length, UInt8.ofNat udabm.length] ++ reserved ++ sabm ++ udabm ++
          (encodeSubTlvs (before ++ [(type, value)]) ++ tail)) = throw e := by
  obtain ⟨records, mapped, -⟩ := mapM_record_returns reg decode returns
  have failing : record reg decode type value = throw e := by
    rw [record, found]
    exact raises
  have loop : unpackSubTlvs reg decode (encodeSubTlvs (before ++ [(type, value)]) ++ tail) [] =
      throw e := by
    rw [unpackSubTlvs_encodeSubTlvs_append reg decode fit, List.mapM_append, mapped, pure_bind,
      List.mapM_cons, failing]
    rfl
  rw [FlexAlgorithmDefine.unpack_append reg decode sized,
    Link.AppSpecLinkAttr.unpack_layout reg decode sabm udabm reserved sabmFits udabmFits twoOctets,
    loop]
  exact ⟨rfl, rfl⟩

/-- An ASLA of one octet nested in a definition raises `IndexError`, which ends the outer
definition before the lone octet after it is read. -/
theorem nested_exception_propagates_asla :
    ([0x80, 0x01, 0x00, 0x80] : Bytes).length = 4 ∧ ([0, 0] : Bytes).length = 2 ∧
      loaded 1122 = some .appSpecLinkAttr ∧
      registeredUnpackDict loaded .appSpecLinkAttr [0x04] = throw .indexError ∧
      FlexAlgorithmDefine.unpack loaded (registeredUnpackDict loaded)
          [0x80, 0x01, 0x00, 0x80, 0x04, 0x62, 0x00, 0x01, 0x04, 0x00] = throw .indexError ∧
      Link.AppSpecLinkAttr.unpack loaded (registeredUnpackDict loaded)
          [0x00, 0x00, 0x00, 0x00, 0x04, 0x62, 0x00, 0x01, 0x04, 0x00] = throw .indexError :=
  ⟨rfl, rfl, rfl, rfl,
    @nested_exception_propagates loaded (registeredUnpackDict loaded) [0x80, 0x01, 0x00, 0x80] rfl
      [] [] [0, 0] (by decide) (by decide) rfl [] 1122 [0x04] (by decide) (by simp)
      .appSpecLinkAttr rfl .indexError rfl [0x00]⟩

end BgpLinkState.Containers
