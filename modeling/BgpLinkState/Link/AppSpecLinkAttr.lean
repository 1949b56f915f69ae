import BgpLinkState.SubTlv

/-! The Application-Specific Link Attributes TLV (type 1122): two length octets, two
reserved octets, the SABM and UDABM masks of the declared lengths, then sub-TLVs read by
the shared loop. A mask of four or eight octets goes through `struct.unpack` and a
zero-padded format, any other length through `b2a_hex`; `unpackMask_eq` shows the three
renderings agree on a mask that is all there. Only the `struct` branches check that it
is: nothing checks the header length or the raw-hex branch's slice. -/

namespace BgpLinkState.Link.AppSpecLinkAttr
open Python Hex LinkState SubTlv

/-- The SABM or UDABM block of `unpack`: when `maskLen` is not zero, render the octets
`data[offset:offset + maskLen]` and move `offset` past them. -/
def unpackMask (maskLen : Nat) (data : Bytes) (offset : Nat) :
    Except PyError (Option String × Nat) :=
  if maskLen > 0 then do
    let maskBytes := slice data offset (offset + maskLen)
    let mask ←
      if maskLen = 4 then do
        let maskInt ← structUnpackI maskBytes
        pure ("0x" ++ formatHex 8 maskInt)
      else if maskLen = 8 then do
        let maskInt ← structUnpackQ maskBytes
        pure ("0x" ++ formatHex 16 maskInt)
      else pure ("0x" ++ String.mk (b2aHex maskBytes))
    pure (some mask, offset + maskLen)
  else pure (none, offset)

/-- `{'len': mask_len, 'value': mask}`. -/
def maskDict (maskLen : Nat) (mask : Option String) : PyValue :=
  .dict [("len", .int maskLen), ("value", match mask with | some m => .str m | none => .none)]

/-- `AppSpecLinkAttr.unpack(data)`: the value of the returned TLV. The sub-TLVs are looked
up in `reg` and decoded by `decode`. -/
def unpack (reg : Registry) (decode : TlvClass → Bytes → Run PyValue) (data : Bytes) :
    Run PyValue := do
  let sabmLen ← getItem data 0
  let udabmLen ← getItem data 1
  let offset := 4
  let (sabm, offset) ← unpackMask sabmLen data offset
  let (udabm, offset) ← unpackMask udabmLen data offset
  let subTlvs ← unpackSubTlvs reg decode (data.drop offset) []
  pure (.dict [("sabm", maskDict sabmLen sabm), ("udabm", maskDict udabmLen udabm),
    ("sub_tlvs", .list subTlvs)])

/-- A mask entry as its octets give it: their number, and `None` for no octets or else
`0x` followed by their hex digits. -/
def maskEntry (mask : Bytes) : PyValue :=
  .dict [("len", .int mask.length),
    ("value", if mask = [] then .none else .str ("0x" ++ String.mk (b2aHex mask)))]

/-- A mask that is all there renders as its hex digits whatever its length: the `!I` and
`!Q` branches agree with the raw dump. -/
theorem unpackMask_eq {data : Bytes} {offset : Nat} {mask : Bytes}
    (present : slice data offset (offset + mask.length) = mask) :
    unpackMask mask.length data offset =
      pure (if mask = [] then none else some ("0x" ++ String.mk (b2aHex mask)),
        offset + mask.length) := by
  rcases Nat.eq_zero_or_pos mask.length with empty | nonzero
  · have none : mask = [] := List.length_eq_zero.mp empty
    subst none
    rfl
  · have nonempty : mask ≠ [] := List.ne_nil_of_length_pos nonzero
    have rendered : ∀ width, mask.length = width →
        formatHex (2 * width) (be mask) = String.mk (b2aHex mask) := by
      rintro width rfl
      exact formatHex_be nonempty
    rw [unpackMask, if_pos nonzero, present, if_neg nonempty]
    by_cases four : mask.length = 4
    · simp [four, structUnpackI, ← rendered 4 four]
    · by_cases eight : mask.length = 8
      · simp [eight, structUnpackQ, ← rendered 8 eight]
      · simp [four, eight]

theorem maskDict_render (mask : Bytes) :
    maskDict mask.length (if mask = [] then none else some ("0x" ++ String.mk (b2aHex mask))) =
      maskEntry mask := by
  by_cases empty : mask = [] <;> simp [maskDict, maskEntry, empty]

section Wire

variable (reg : Registry) (decode : TlvClass → Bytes → Run PyValue)

/-- Whatever follows the masks: `unpack` renders both masks from their octets and hands
the loop the rest. -/
theorem unpack_layout (sabm udabm reserved : Bytes) (sabmFits : sabm.length < 256)
    (udabmFits : udabm.length < 256) (twoOctets : reserved.length = 2) (rest : Bytes) :
    unpack reg decode ([UInt8.ofNat sabm.length, UInt8.ofNat udabm.length] ++ reserved ++ sabm ++
        udabm ++ rest) =
      (fun subTlvs => .dict [("sabm", maskEntry sabm), ("udabm", maskEntry udabm),
        ("sub_tlvs", .list subTlvs)]) <$> unpackSubTlvs reg decode rest [] := by
  set header : Bytes := [UInt8.ofNat sabm.length, UInt8.ofNat udabm.length] ++ reserved
  have headerLength : header.length = 4 := by simp [header, twoOctets]
  have sabmLen : getItem (header ++ sabm ++ udabm ++ rest) 0 = pure sabm.length := by
    simp [getItem, header, UInt8.toNat_ofNat_of_lt sabmFits]
  have udabmLen : getItem (header ++ sabm ++ udabm ++ rest) 1 = pure udabm.length := by
    simp [getItem, header, UInt8.toNat_ofNat_of_lt udabmFits]
  have sabmSlice : slice (header ++ sabm ++ udabm ++ rest) 4 (4 + sabm.length) = sabm := by
    simp [List.append_assoc, List.drop_left' headerLength]
  have udabmSlice : slice (header ++ sabm ++ udabm ++ rest) (4 + sabm.length)
      (4 + sabm.length + udabm.length) = udabm := by
    simp [List.append_assoc, ← List.drop_drop, List.drop_left' headerLength]
  have after : (header ++ sabm ++ udabm ++ rest).drop (4 + sabm.length + udabm.length) = rest := by
    simp [List.append_assoc, ← List.drop_drop, List.drop_left' headerLength]
  simp only [unpack, sabmLen, udabmLen, unpackMask_eq sabmSlice, unpackMask_eq udabmSlice, after,
    liftM_pure, pure_bind, maskDict_render, bind_pure_comp]

/-- With no mask octets the fixed header is all `unpack` reads before the loop. -/
theorem unpack_no_masks {reserved : Bytes} (twoOctets : reserved.length = 2) (rest : Bytes) :
    unpack reg decode ([0, 0] ++ reserved ++ rest) =
      (fun subTlvs => .dict [("sabm", maskDict 0 none), ("udabm", maskDict 0 none),
        ("sub_tlvs", .list subTlvs)]) <$> unpackSubTlvs reg decode rest [] := by
  have layout := unpack_layout reg decode [] [] reserved (by decide) (by decide) twoOctets rest
  rwa [List.append_nil, List.append_nil] at layout

end Wire

/-- A mask past the end of the buffer, of a length the `struct` branches do not see,
renders as `0x` and no digits. -/
theorem unpackMask_past_end {maskLen : Nat} {data : Bytes} {offset : Nat}
    (past : data.length ≤ offset) (unchecked : maskLen ≠ 4 ∧ maskLen ≠ 8) :
    unpackMask maskLen data offset =
      pure (if maskLen = 0 then none else some "0x", offset + maskLen) := by
  have absent : slice data offset (offset + maskLen) = [] := by simp [past]
  rcases Nat.eq_zero_or_pos maskLen with rfl | nonzero
  · rfl
  · rw [unpackMask, if_pos nonzero, absent, if_neg unchecked.1, if_neg unchecked.2,
      if_neg (by omega)]
    rfl

/-- A mask block that returns moves `offset` past the declared length. -/
theorem unpackMask_next {maskLen : Nat} {data : Bytes} {offset : Nat}
    {result : Option String × Nat} (returns : unpackMask maskLen data offset = pure result) :
    result.2 = offset + maskLen := by
  unfold unpackMask at returns
  split_ifs at returns with positive
  · obtain ⟨_, -, done⟩ := except_bind_eq_pure.mp returns
    cases done
    rfl
  · obtain ⟨_, -, done⟩ := except_bind_eq_pure.mp returns
    cases done
    rfl
  · cases returns
    rfl
  · cases returns
    simp only [Nat.add_eq_left]
    omega

/-- The `struct` branches are the checks: a mask of four or eight octets that runs past the
end of the buffer raises `struct.error`. -/
theorem unpackMask_short {maskLen : Nat} {data : Bytes} {offset : Nat}
    (checked : maskLen = 4 ∨ maskLen = 8) (short : data.length < offset + maskLen) :
    unpackMask maskLen data offset = throw .structError := by
  have cut : (slice data offset (offset + maskLen)).length ≠ maskLen := by simp; omega
  rcases checked with rfl | rfl
  · rw [unpackMask, if_pos (by decide), if_pos rfl, structUnpackI, structUnpack_of_length_ne cut]
    rfl
  · rw [unpackMask, if_pos (by decide), if_neg (by decide), if_pos rfl, structUnpackQ,
      structUnpack_of_length_ne cut]
    rfl

/-- A mask block that returns moves `offset` past the declared length, and a mask of four
or eight octets that returns was there whole. -/
theorem unpackMask_returns {maskLen : Nat} {data : Bytes} {offset : Nat}
    {result : Option String × Nat} (returns : unpackMask maskLen data offset = pure result) :
    result.2 = offset + maskLen ∧
      (maskLen = 4 ∨ maskLen = 8 → offset + maskLen ≤ data.length) :=
  ⟨unpackMask_next returns, fun checked => Nat.le_of_not_lt fun short => by
    rw [unpackMask_short checked short] at returns
    cases returns⟩

section Unchecked

variable (reg : Registry) (decode : TlvClass → Bytes → Run PyValue)

/-- What returning guarantees: the buffer holds the two length octets, and a mask of four
or eight octets lies whole in it. -/
theorem unpack_returns {data : Bytes} {value : PyValue}
    (returns : unpack reg decode data = pure value) :
    ∃ sabmLen udabmLen rest, data = sabmLen :: udabmLen :: rest ∧
      (sabmLen.toNat = 4 ∨ sabmLen.toNat = 8 → 4 + sabmLen.toNat ≤ data.length) ∧
      (udabmLen.toNat = 4 ∨ udabmLen.toNat = 8 →
        4 + sabmLen.toNat + udabmLen.toNat ≤ data.length) := by
  rcases data with _ | ⟨sabmLen, _ | ⟨udabmLen, rest⟩⟩
  · cases returns
  · cases returns
  · have first : getItem (sabmLen :: udabmLen :: rest) 0 = pure sabmLen.toNat := rfl
    have second : getItem (sabmLen :: udabmLen :: rest) 1 = pure udabmLen.toNat := by
      simp [getItem]
    rw [unpack, first, second] at returns
    simp only [liftM_pure, pure_bind] at returns
    obtain ⟨⟨_, offset⟩, sabmReturns, returns⟩ := bind_eq_pure.mp returns
    obtain ⟨_, udabmReturns, -⟩ := bind_eq_pure.mp returns
    obtain ⟨next, sabmWhole⟩ := unpackMask_returns (liftM_eq_pure.mp sabmReturns)
    obtain ⟨-, udabmWhole⟩ := unpackMask_returns (liftM_eq_pure.mp udabmReturns)
    exact ⟨sabmLen, udabmLen, rest, rfl, sabmWhole, next ▸ udabmWhole⟩

theorem unpack_returns_sabm :
    unpack (fun _ => none) (fun _ _ => pure .none) [4, 0, 0, 0, 0x10, 0, 0, 0] =
        pure (.dict [("sabm", maskDict 4 (some "0x10000000")), ("udabm", maskDict 0 none),
          ("sub_tlvs", .list [])]) ∧
      ∃ sabmLen udabmLen rest,
        ([4, 0, 0, 0, 0x10, 0, 0, 0] : Bytes) = sabmLen :: udabmLen :: rest ∧
        (sabmLen.toNat = 4 ∨ sabmLen.toNat = 8 → 4 + sabmLen.toNat ≤ 8) ∧
        (udabmLen.toNat = 4 ∨ udabmLen.toNat = 8 →
          4 + sabmLen.toNat + udabmLen.toNat ≤ 8) := by
  have returns : unpack (fun _ => none) (fun _ _ => pure .none) [4, 0, 0, 0, 0x10, 0, 0, 0] =
      pure (.dict [("sabm", maskDict 4 (some "0x10000000")), ("udabm", maskDict 0 none),
        ("sub_tlvs", .list [])]) := by
    rw [unpack]
    show (do
      let subTlvs ← unpackSubTlvs (fun _ => none) (fun _ _ => pure .none) [] []
      pure (PyValue.dict [("sabm", maskDict 4 (some ("0x" ++ formatHex 8 0x10000000))),
        ("udabm", maskDict 0 none), ("sub_tlvs", .list subTlvs)]) : Run PyValue) = _
    rw [unpackSubTlvs_nil]
    rfl
  exact ⟨returns, unpack_returns _ _ returns⟩

/-- Nothing checks the fixed header or a mask whose length the `struct` branches do not
see: the two length octets alone decode, each mask that declares octets as `0x` and no
digits. -/
theorem unpack_length_octets (sabmLen udabmLen : UInt8)
    (sabmUnchecked : sabmLen.toNat ≠ 4 ∧ sabmLen.toNat ≠ 8)
    (udabmUnchecked : udabmLen.toNat ≠ 4 ∧ udabmLen.toNat ≠ 8) :
    unpack reg decode [sabmLen, udabmLen] =
      pure (.dict [("sabm", maskDict sabmLen.toNat (if sabmLen.toNat = 0 then none else some "0x")),
        ("udabm", maskDict udabmLen.toNat (if udabmLen.toNat = 0 then none else some "0x")),
        ("sub_tlvs", .list [])]) := by
  have sabm : unpackMask sabmLen.toNat [sabmLen, udabmLen] 4 =
      pure (if sabmLen.toNat = 0 then none else some "0x", 4 + sabmLen.toNat) :=
    unpackMask_past_end (by simp) sabmUnchecked
  have udabm : unpackMask udabmLen.toNat [sabmLen, udabmLen] (4 + sabmLen.toNat) =
      pure (if udabmLen.toNat = 0 then none else some "0x",
        4 + sabmLen.toNat + udabmLen.toNat) :=
    unpackMask_past_end (by simp; omega) udabmUnchecked
  have rest : [sabmLen, udabmLen].drop (4 + sabmLen.toNat + udabmLen.toNat) = [] := by
    simp only [List.drop_eq_nil_iff, List.length_cons, List.length_nil]
    omega
  have first : getItem [sabmLen, udabmLen] 0 = pure sabmLen.toNat := rfl
  have second : getItem [sabmLen, udabmLen] 1 = pure udabmLen.toNat := rfl
  simp only [unpack, first, second, liftM_pure, pure_bind, sabm, udabm, rest, unpackSubTlvs_nil]

theorem unpack_length_octets_zero :
    ((0 : UInt8).toNat ≠ 4 ∧ (0 : UInt8).toNat ≠ 8) ∧
      unpack (fun _ => none) (fun _ _ => pure .none) [0, 0] =
        pure (.dict [("sabm", maskDict 0 none), ("udabm", maskDict 0 none),
          ("sub_tlvs", .list [])]) :=
  ⟨by decide, unpack_length_octets _ _ 0 0 (by decide) (by decide)⟩

end Unchecked

end BgpLinkState.Link.AppSpecLinkAttr
