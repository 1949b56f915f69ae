import BgpLinkState.Python

/-! The Multi-Topology Identifier TLV (type 263): a list of two-octet entries, each a
12-bit MT-ID under four reserved bits. `unpack` reads them two octets at a time with
`struct.unpack('!H', data[:2])` until the buffer is empty, keeping the reserved bits. -/

namespace BgpLinkState.Node.MtId
open Python

/-- The `while data:` loop of `MultiTopologyIdentifier.unpack`, with the list `mt_id`
built so far. -/
def MultiTopologyIdentifier.unpackLoop (data : Bytes) (mtId : List Nat) :
    Except PyError (List Nat) :=
  if data = [] then pure mtId
  else do
    let value ← structUnpackH (data.take 2)
    MultiTopologyIdentifier.unpackLoop (data.drop 2) (mtId ++ [value])
termination_by data.length
decreasing_by
  have := List.length_pos.mpr ‹_›
  simp only [List.length_drop]
  omega

/-- `MultiTopologyIdentifier.unpack(data)`: the value of the returned TLV. -/
def MultiTopologyIdentifier.unpack (data : Bytes) : Except PyError (List Nat) :=
  MultiTopologyIdentifier.unpackLoop data []

namespace MultiTopologyIdentifier

theorem unpackLoop_nil (mtId : List Nat) : unpackLoop [] mtId = pure mtId := by
  rw [unpackLoop]
  rfl

theorem unpackLoop_single (b : UInt8) (mtId : List Nat) :
    unpackLoop [b] mtId = throw .structError := by
  rw [unpackLoop, if_neg (List.cons_ne_nil b []), structUnpackH,
    structUnpack_of_length_ne (by simp)]
  rfl

theorem unpackLoop_pair {data : Bytes} (long : 2 ≤ data.length) (mtId : List Nat) :
    unpackLoop data mtId = unpackLoop (data.drop 2) (mtId ++ [be (data.take 2)]) := by
  have nonempty : data ≠ [] := List.ne_nil_of_length_pos (by omega)
  rw [unpackLoop, if_neg nonempty, structUnpackH, structUnpack_of_length (by simp; omega)]
  rfl

/-- The loop returns the chunk values after `mtId` when the length is even, and raises
`struct.error` at a last lone octet otherwise. -/
theorem unpackLoop_eq (data : Bytes) (mtId : List Nat) :
    unpackLoop data mtId =
      if data.length % 2 = 0 then pure (mtId ++ chunkValues 2 data) else throw .structError := by
  induction data, mtId using unpackLoop.induct with
  | case1 mtId => simp [unpackLoop_nil]
  | case2 data mtId nonempty ih =>
    rcases data with _ | ⟨b, _ | ⟨c, rest⟩⟩
    · exact absurd rfl nonempty
    · simp [unpackLoop_single]
    · have halves : b :: c :: rest = [b, c] ++ rest := rfl
      have parity : (rest.length + 1 + 1) % 2 = rest.length % 2 := by omega
      rw [unpackLoop_pair (by simp), ih, halves,
        chunkValues_append (show [b, c].length = 2 from rfl) (by decide)]
      simp [parity]

/-- `unpack` inverts the concatenation of `struct.pack('!H', x)`: it returns exactly when
the length is even, then with every two-octet chunk's raw value in order, reserved bits
included, and a trailing octet raises `struct.error` rather than being dropped. -/
theorem unpack_exact_u16_chunks :
    (∀ data : Bytes, (∃ values, unpack data = .ok values) ↔ data.length % 2 = 0) ∧
    (∀ data : Bytes, data.length % 2 = 0 → unpack data = .ok (chunkValues 2 data)) ∧
    (∀ data : Bytes, data.length % 2 = 1 → unpack data = .error .structError) ∧
    (∀ values : List Nat, (∀ x ∈ values, x < 2 ^ 16) →
      unpack (values.flatMap (structPack 2)) = .ok values) := by
  have even : ∀ data : Bytes, data.length % 2 = 0 → unpack data = .ok (chunkValues 2 data) :=
    fun data parity => by rw [unpack, unpackLoop_eq, if_pos parity]; rfl
  have odd : ∀ data : Bytes, data.length % 2 = 1 → unpack data = .error .structError :=
    fun data parity => by rw [unpack, unpackLoop_eq, if_neg (by omega)]; rfl
  refine ⟨fun data => ⟨fun ⟨values, returns⟩ => ?_, fun parity => ⟨_, even data parity⟩⟩,
    even, odd, fun values fit => ?_⟩
  · by_contra parity
    rw [odd data (by omega)] at returns
    cases returns
  · have length : (values.flatMap (structPack 2)).length % 2 = 0 := by
      rw [length_flatMap_structPack, Nat.mul_mod_right]
    rw [even _ length, chunkValues_flatMap_structPack (by decide) fit]

end MultiTopologyIdentifier

end BgpLinkState.Node.MtId
