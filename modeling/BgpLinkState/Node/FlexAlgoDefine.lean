import BgpLinkState.SubTlv

/-! The Flexible Algorithm Definition TLV (type 1039) and its sub-TLVs (types 1040 to 1044).
The definition is four one-octet fields and a list of sub-TLVs read by the shared loop
through the registry. The three admin-group sub-TLVs and the SRLG sub-TLV carry the same
loop, `struct.unpack('!I', data[i:i+4])` for `i in range(0, len(data), 4)`, and the
flags sub-TLV keeps the top bit of its first two octets. -/

namespace BgpLinkState.Node.FlexAlgoDefine
open Python LinkState SubTlv

/-- `FlexAlgorithmDefine.unpack(data)`: the value of the returned TLV. The sub-TLVs are
looked up in `reg` and decoded by `decode`. -/
def FlexAlgorithmDefine.unpack (reg : Registry) (decode : TlvClass → Bytes → Run PyValue)
    (data : Bytes) : Run PyValue := do
  let (flexAlgo, metricType, calcType, priority) ← structUnpackBBBB (data.take 4)
  let subTlvs ← unpackSubTlvs reg decode (data.drop 4) []
  pure (.dict [("flex_algo", .int flexAlgo), ("metric_type", .int metricType),
    ("calc_type", .int calcType), ("priority", .int priority), ("sub_tlvs", .list subTlvs)])

/-- The four fixed octets come back as they are, with no range check, and the loop reads
the octets after them. -/
theorem FlexAlgorithmDefine.unpack_append (reg : Registry)
    (decode : TlvClass → Bytes → Run PyValue) {header : Bytes} (sized : header.length = 4)
    (rest : Bytes) :
    FlexAlgorithmDefine.unpack reg decode (header ++ rest) =
      (fun subTlvs => .dict [("flex_algo", .int (field header 0 1)),
        ("metric_type", .int (field header 1 1)), ("calc_type", .int (field header 2 1)),
        ("priority", .int (field header 3 1)), ("sub_tlvs", .list subTlvs)]) <$>
        unpackSubTlvs reg decode rest [] := by
  rw [FlexAlgorithmDefine.unpack, List.take_left' sized, List.drop_left' sized, structUnpackBBBB,
    structUnpack_of_length sized]
  simp only [liftM_pure, pure_bind, bind_pure_comp]

/-- The body of the admin-group and SRLG decoders: one `!I` value per four octets, for
`i in range(0, len(data), 4)`. -/
def unpackU32List (data : Bytes) : Except PyError (List Nat) :=
  (List.range' 0 ((data.length + 3) / 4) 4).mapM fun i => structUnpackI (slice data i (i + 4))

/-- `FlexAlgoExcludeAdminGroup.unpack(data)` (type 1040). -/
def FlexAlgoExcludeAdminGroup.unpack : Bytes → Except PyError (List Nat) := unpackU32List

/-- `FlexAlgoIncludeAnyAdminGroup.unpack(data)` (type 1041). -/
def FlexAlgoIncludeAnyAdminGroup.unpack : Bytes → Except PyError (List Nat) := unpackU32List

/-- `FlexAlgoIncludeAllAdminGroup.unpack(data)` (type 1042). -/
def FlexAlgoIncludeAllAdminGroup.unpack : Bytes → Except PyError (List Nat) := unpackU32List

/-- `FlexAlgoExcludeSRLG.unpack(data)` (type 1044). -/
def FlexAlgoExcludeSRLG.unpack : Bytes → Except PyError (List Nat) := unpackU32List

/-- `FlexAlgoDefinitionFlags.unpack(data)` (type 1043): `{'M': flags >> 15}`. -/
def FlexAlgoDefinitionFlags.unpack (data : Bytes) : Except PyError PyValue := do
  let flags ← structUnpackH (data.take 2)
  pure (.dict [("M", .int (flags >>> 15))])

section Groups

theorem unpackU32List_shift (data : Bytes) :
    ∀ (count start : Nat),
      (List.range' start count 4).mapM (fun i => structUnpackI (slice data i (i + 4))) =
        (List.range' 0 count 4).mapM fun i => structUnpackI (slice (data.drop start) i (i + 4))
  | 0, _ => rfl
  | count + 1, start => by
    have here : slice data start (start + 4) = slice (data.drop start) 0 4 := by simp
    rw [List.range'_succ, List.range'_succ, List.mapM_cons, List.mapM_cons, here,
      unpackU32List_shift data count (start + 4),
      unpackU32List_shift (data.drop start) count (0 + 4), List.drop_drop, Nat.zero_add]

/-- The loop returns the value of every four-octet chunk when the length is a multiple of
four, and raises `struct.error` at the partial chunk otherwise. -/
theorem unpackU32List_eq (data : Bytes) :
    unpackU32List data =
      if data.length % 4 = 0 then pure (chunkValues 4 data) else throw .structError := by
  rcases Nat.lt_or_ge data.length 4 with short | long
  · rcases Nat.eq_zero_or_pos data.length with empty | started
    · rw [List.length_eq_zero.mp empty]
      rfl
    · have count : (data.length + 3) / 4 = 1 := by omega
      have header : (slice data 0 4).length ≠ 4 := by simp; omega
      rw [unpackU32List, count, List.range'_succ, List.mapM_cons, structUnpackI,
        structUnpack_of_length_ne header, if_neg (by omega)]
      rfl
  · have count : (data.length + 3) / 4 = ((data.drop 4).length + 3) / 4 + 1 := by
      simp only [List.length_drop]
      omega
    have whole : (slice data 0 4).length = 4 := by simp; omega
    have chunks : chunkValues 4 data = be (slice data 0 4) :: chunkValues 4 (data.drop 4) := by
      conv_lhs => rw [← List.take_append_drop 4 data]
      exact chunkValues_append (by simp; omega) (by decide) _
    have parity : (data.drop 4).length % 4 = 0 ↔ data.length % 4 = 0 := by simp; omega
    rw [unpackU32List, count, List.range'_succ, List.mapM_cons, unpackU32List_shift,
      ← unpackU32List, unpackU32List_eq (data.drop 4), structUnpackI,
      structUnpack_of_length whole, chunks]
    by_cases aligned : data.length % 4 = 0
    · rw [if_pos (parity.mpr aligned), if_pos aligned]
      rfl
    · rw [if_neg (mt parity.mp aligned), if_neg aligned]
      rfl
termination_by data.length
decreasing_by
  simp only [List.length_drop]
  omega

/-- The admin-group and SRLG decoders are one decoder, and it inverts the concatenation of
`struct.pack('!I', x)`: it returns exactly when the length is a multiple of four, then with
the value of every four-octet chunk in order, and a trailing partial chunk raises
`struct.error` rather than being dropped or padded. -/
theorem unpackU32List_exact_u32_chunks :
    (FlexAlgoExcludeAdminGroup.unpack = unpackU32List ∧
      FlexAlgoIncludeAnyAdminGroup.unpack = unpackU32List ∧
      FlexAlgoIncludeAllAdminGroup.unpack = unpackU32List ∧
      FlexAlgoExcludeSRLG.unpack = unpackU32List) ∧
    (∀ data : Bytes, (∃ values, unpackU32List data = .ok values) ↔ data.length % 4 = 0) ∧
    (∀ data : Bytes, data.length % 4 = 0 → unpackU32List data = .ok (chunkValues 4 data)) ∧
    (∀ data : Bytes, data.length % 4 ≠ 0 → unpackU32List data = .error .structError) ∧
    (∀ values : List Nat, (∀ x ∈ values, x < 2 ^ 32) →
      unpackU32List (values.flatMap (structPack 4)) = .ok values) := by
  have aligned : ∀ data : Bytes, data.length % 4 = 0 →
      unpackU32List data = .ok (chunkValues 4 data) :=
    fun data parity => by rw [unpackU32List_eq, if_pos parity]; rfl
  have unaligned : ∀ data : Bytes, data.length % 4 ≠ 0 →
      unpackU32List data = .error .structError :=
    fun data parity => by rw [unpackU32List_eq, if_neg parity]; rfl
  refine ⟨⟨rfl, rfl, rfl, rfl⟩,
    fun data => ⟨fun ⟨values, returns⟩ => ?_, fun parity => ⟨_, aligned data parity⟩⟩,
    aligned, unaligned, fun values fit => ?_⟩
  · by_contra parity
    rw [unaligned data parity] at returns
    cases returns
  · have length : (values.flatMap (structPack 4)).length % 4 = 0 := by
      rw [length_flatMap_structPack, Nat.mul_mod_right]
    rw [aligned _ length, chunkValues_flatMap_structPack (by decide) fit]

end Groups

end BgpLinkState.Node.FlexAlgoDefine
