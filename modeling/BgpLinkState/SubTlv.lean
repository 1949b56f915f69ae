import BgpLinkState.Hex
import BgpLinkState.LinkState

/-! The sub-TLV loop that `AppSpecLinkAttr.unpack` and `FlexAlgorithmDefine.unpack` each
carry, word for word: while octets remain, read a `!HH` header, slice the value it
declares, append the registered decoder's dictionary or a fallback record, and advance
past the value.

`cut` says how the loop walks a buffer, apart from what it appends: the envelopes it
reads and the octets it stops at. `unpackSubTlvs_eq` splits the loop into that walk and
a `mapM` over the envelopes, and the rest of the module is about the walk. -/

namespace BgpLinkState.SubTlv
open Python Hex LinkState

/-- The record appended for a type the registry lacks. -/
def fallbackRecord (subTlvType : Nat) (subTlvValue : Bytes) : PyValue :=
  .dict [("type", .int subTlvType), ("value", .str (strOfBytes (b2aHex subTlvValue)))]

/-- What one iteration appends: `registered_tlvs[type].unpack(value).dict()`, computed by
`decode`, or the fallback record. -/
def record (reg : Registry) (decode : TlvClass → Bytes → Run PyValue) (subTlvType : Nat)
    (subTlvValue : Bytes) : Run PyValue :=
  match reg subTlvType with
  | some cls => decode cls subTlvValue
  | none => pure (fallbackRecord subTlvType subTlvValue)

/-- An entry of `sub_tlvs` for a sub-TLV: what the registered class's decoder, `decode`,
returns on the value, or for a type the registry lacks the fallback record of the value. -/
def Entry (reg : Registry) (decode : TlvClass → Bytes → Run PyValue) (subTlvType : Nat)
    (subTlvValue : Bytes) (entry : PyValue) : Prop :=
  match reg subTlvType with
  | some cls => decode cls subTlvValue = pure entry
  | none => entry = fallbackRecord subTlvType subTlvValue

/-- An iteration that returns appends exactly the entry `Entry` describes. -/
theorem record_eq_pure {reg : Registry} {decode : TlvClass → Bytes → Run PyValue}
    {subTlvType : Nat} {subTlvValue : Bytes} {entry : PyValue} :
    record reg decode subTlvType subTlvValue = pure entry ↔
      Entry reg decode subTlvType subTlvValue entry := by
  unfold record Entry
  split
  next => rfl
  next => exact ⟨fun same => (pure_inj same).symm, fun same => same ▸ rfl⟩

/-- `while sub_tlvs_bin_data: ...`, appending to `subTlvs`. -/
def unpackSubTlvs (reg : Registry) (decode : TlvClass → Bytes → Run PyValue)
    (subTlvsBinData : Bytes) (subTlvs : List PyValue) : Run (List PyValue) :=
  if subTlvsBinData = [] then pure subTlvs
  else do
    let (subTlvType, subTlvLen) ← structUnpackHH (subTlvsBinData.take 4)
    let subTlvValue := slice subTlvsBinData 4 (4 + subTlvLen)
    let entry ← record reg decode subTlvType subTlvValue
    unpackSubTlvs reg decode (subTlvsBinData.drop (4 + subTlvLen)) (subTlvs ++ [entry])
termination_by subTlvsBinData.length
decreasing_by
  have := List.length_pos.mpr ‹_›
  simp only [List.length_drop]
  omega

/-- A sub-TLV as the loop reads it: the header's type and length, and the slice of the
value it took. -/
structure Envelope where
  type : Nat
  length : Nat
  value : Bytes

/-- The envelopes the loop reads from a buffer, in order, and the octets it stops at:
none when the buffer is used up, one to three when a header read fails. -/
def cut (bin : Bytes) : List Envelope × Bytes :=
  if empty : bin = [] then ([], [])
  else if short : bin.length < 4 then ([], bin)
  else
    let length := field (bin.take 4) 2 2
    let rest := cut (bin.drop (4 + length))
    (⟨field (bin.take 4) 0 2, length, slice bin 4 (4 + length)⟩ :: rest.1, rest.2)
termination_by bin.length
decreasing_by
  simp only [List.length_drop]
  omega

/-- The octets an envelope was read from: its header, as `struct.pack('!HH', ...)` writes
it, and the value the loop took. -/
def Envelope.bytes (e : Envelope) : Bytes :=
  structPack 2 e.type ++ structPack 2 e.length ++ e.value

/-- The wire form of sub-TLVs `(type, value)`: `struct.pack('!HH', type, len(value))`
followed by the value, for each in turn. -/
def encodeSubTlvs (subTlvs : List (Nat × Bytes)) : Bytes :=
  subTlvs.flatMap fun subTlv => structPack 2 subTlv.1 ++ structPack 2 subTlv.2.length ++ subTlv.2

section Loop

variable (reg : Registry) (decode : TlvClass → Bytes → Run PyValue)

theorem unpackSubTlvs_nil (subTlvs : List PyValue) :
    unpackSubTlvs reg decode [] subTlvs = pure subTlvs := by
  rw [unpackSubTlvs]
  rfl

theorem unpackSubTlvs_short {bin : Bytes} (nonempty : bin ≠ []) (short : bin.length < 4)
    (subTlvs : List PyValue) : unpackSubTlvs reg decode bin subTlvs = throw .structError := by
  have header : (bin.take 4).length ≠ 4 := by
    rw [List.length_take]
    omega
  rw [unpackSubTlvs, if_neg nonempty, structUnpackHH, structUnpack_of_length_ne header]
  rfl

theorem unpackSubTlvs_step {bin : Bytes} (long : 4 ≤ bin.length) (subTlvs : List PyValue) :
    unpackSubTlvs reg decode bin subTlvs = (do
      let length := field (bin.take 4) 2 2
      let entry ← record reg decode (field (bin.take 4) 0 2) (slice bin 4 (4 + length))
      unpackSubTlvs reg decode (bin.drop (4 + length)) (subTlvs ++ [entry])) := by
  have nonempty : bin ≠ [] := List.ne_nil_of_length_pos (by omega)
  have header : (bin.take 4).length = 4 := by
    rw [List.length_take]
    omega
  rw [unpackSubTlvs, if_neg nonempty, structUnpackHH, structUnpack_of_length header]
  rfl

theorem cut_nil : cut [] = ([], []) := by
  rw [cut]
  rfl

theorem cut_short {bin : Bytes} (nonempty : bin ≠ []) (short : bin.length < 4) :
    cut bin = ([], bin) := by
  rw [cut, dif_neg nonempty, dif_pos short]

theorem cut_step {bin : Bytes} (long : 4 ≤ bin.length) :
    cut bin =
      let length := field (bin.take 4) 2 2
      (⟨field (bin.take 4) 0 2, length, slice bin 4 (4 + length)⟩ ::
        (cut (bin.drop (4 + length))).1, (cut (bin.drop (4 + length))).2) := by
  have nonempty : bin ≠ [] := List.ne_nil_of_length_pos (by omega)
  rw [cut, dif_neg nonempty, dif_neg (by omega)]

/-- The loop is its walk followed by the records of the envelopes in order: the first
record that raises ends it, and only when every record returned does a truncated header
raise `struct.error`. -/
theorem unpackSubTlvs_eq (bin : Bytes) (subTlvs : List PyValue) :
    unpackSubTlvs reg decode bin subTlvs = (do
      let records ← (cut bin).1.mapM fun e => record reg decode e.type e.value
      if (cut bin).2 = [] then pure (subTlvs ++ records) else throw .structError) := by
  induction bin using cut.induct generalizing subTlvs with
  | case1 =>
    simp only [unpackSubTlvs_nil, cut_nil, List.mapM_nil, pure_bind, if_true, List.append_nil]
  | case2 bin nonempty short =>
    simp only [unpackSubTlvs_short reg decode nonempty short, cut_short nonempty short,
      List.mapM_nil, pure_bind, nonempty, if_false]
  | case3 bin nonempty long length ih =>
    rw [unpackSubTlvs_step reg decode (by omega), cut_step (by omega)]
    simp only [ih, List.mapM_cons, bind_assoc, pure_bind, List.append_assoc, List.singleton_append]

end Loop

section Cut

/-- The walk covers the buffer: the envelopes' octets, then the octets it stopped at. -/
theorem cut_cover (bin : Bytes) : (cut bin).1.flatMap Envelope.bytes ++ (cut bin).2 = bin := by
  induction bin using cut.induct with
  | case1 => rw [cut_nil]; rfl
  | case2 bin nonempty short => rw [cut_short nonempty short]; rfl
  | case3 bin nonempty long length ih =>
    have header : (bin.take 4).length = 4 := by simp; omega
    rw [cut_step (by omega), List.flatMap_cons, List.append_assoc, ih, Envelope.bytes,
      structPack_field_field header, slice_eq, Nat.add_sub_cancel_left, ← List.drop_drop,
      List.append_assoc, List.take_append_drop, List.take_append_drop]

/-- Every envelope the walk reads has a header of two two-octet fields and never more
value than that header declares. -/
theorem cut_fits (bin : Bytes) :
    ∀ e ∈ (cut bin).1, e.type < 2 ^ 16 ∧ e.length < 2 ^ 16 ∧ e.value.length ≤ e.length := by
  induction bin using cut.induct with
  | case1 => simp [cut_nil]
  | case2 bin nonempty short => simp [cut_short nonempty short]
  | case3 bin nonempty long length ih =>
    rw [cut_step (by omega)]
    rintro e (_ | ⟨_, member⟩)
    · exact ⟨field_lt _ _ _, field_lt _ _ _, by simp⟩
    · exact ih e member

/-- A value the walk reads sits after a header inside the buffer. -/
theorem cut_value_lt (bin : Bytes) : ∀ e ∈ (cut bin).1, e.value.length + 4 ≤ bin.length := by
  induction bin using cut.induct with
  | case1 => simp [cut_nil]
  | case2 bin nonempty short => simp [cut_short nonempty short]
  | case3 bin nonempty long length ih =>
    rw [cut_step (by omega)]
    rintro e (_ | ⟨_, member⟩)
    · simp only [slice_eq, List.length_take, List.length_drop]
      omega
    · have := ih e member
      simp only [List.length_drop] at this
      omega

/-- A value cut short by the end of the buffer ends the walk: it is the last envelope, and
nothing is left over. -/
theorem cut_truncated_last (bin : Bytes) (before : List Envelope) (e : Envelope)
    (after : List Envelope) (split : (cut bin).1 = before ++ e :: after)
    (short : e.value.length < e.length) : after = [] ∧ (cut bin).2 = [] := by
  induction bin using cut.induct generalizing before with
  | case1 => simp [cut_nil] at split
  | case2 bin nonempty few => simp [cut_short nonempty few] at split
  | case3 bin nonempty long length ih =>
    rw [cut_step (by omega)] at split ⊢
    cases before with
    | nil =>
      obtain ⟨rfl, rfl⟩ := List.cons_eq_cons.mp split
      have used : bin.drop (4 + length) = [] := by
        simp only [slice_eq, List.length_take, Nat.add_sub_cancel_left] at short
        simp only [List.drop_eq_nil_iff, List.length_drop] at short ⊢
        omega
      simp [used, cut_nil]
    | cons first before =>
      exact ih before (List.cons_eq_cons.mp split).2

/-- A header written by `struct.pack('!HH', ...)` is read back as it was written: the walk
takes the declared octets of what follows as the value and goes on after them. -/
theorem cut_structPack {type length : Nat} (typeFits : type < 2 ^ 16)
    (lengthFits : length < 2 ^ 16) (rest : Bytes) :
    cut (structPack 2 type ++ structPack 2 length ++ rest) =
      (⟨type, length, rest.take length⟩ :: (cut (rest.drop length)).1,
        (cut (rest.drop length)).2) := by
  have header : (structPack 2 type ++ structPack 2 length).length = 4 := by simp
  have typeRead : field (structPack 2 type ++ structPack 2 length) 0 2 = type :=
    field_structPack typeFits [] _
  have lengthRead : field (structPack 2 type ++ structPack 2 length) 2 2 = length := by
    simpa using field_structPack lengthFits (structPack 2 type) []
  rw [cut_step (by simp; omega), List.take_left' header, typeRead, lengthRead]
  simp only [slice_eq, Nat.add_sub_cancel_left, ← List.drop_drop, List.drop_left' header]

/-- Sub-TLVs written with `encodeSubTlvs` are read back as they were written, each with
its whole value, and the walk goes on with what follows them. -/
theorem cut_encodeSubTlvs_append {subTlvs : List (Nat × Bytes)}
    (fit : ∀ subTlv ∈ subTlvs, subTlv.1 < 2 ^ 16 ∧ subTlv.2.length < 2 ^ 16) (tail : Bytes) :
    cut (encodeSubTlvs subTlvs ++ tail) =
      (subTlvs.map (fun subTlv => ⟨subTlv.1, subTlv.2.length, subTlv.2⟩) ++ (cut tail).1,
        (cut tail).2) := by
  induction subTlvs with
  | nil => rfl
  | cons subTlv subTlvs ih =>
    obtain ⟨type, value⟩ := subTlv
    obtain ⟨typeFits, lengthFits⟩ := fit _ (List.mem_cons_self _ _)
    have wire : encodeSubTlvs ((type, value) :: subTlvs) ++ tail =
        structPack 2 type ++ structPack 2 value.length ++
          (value ++ (encodeSubTlvs subTlvs ++ tail)) := by
      simp [encodeSubTlvs]
    rw [wire, cut_structPack typeFits lengthFits, List.take_left' rfl, List.drop_left' rfl,
      ih fun s member => fit s (List.mem_cons_of_mem _ member)]
    rfl

/-- One envelope whose header declares at least the octets that follow it: the walk takes
what is there as its value and stops with nothing left over. -/
theorem cut_single {type length : Nat} {value : Bytes} (typeFits : type < 2 ^ 16)
    (lengthFits : length < 2 ^ 16) (within : value.length ≤ length) :
    cut (structPack 2 type ++ structPack 2 length ++ value) =
      ([⟨type, length, value⟩], []) := by
  rw [cut_structPack typeFits lengthFits, List.take_of_length_le within,
    List.drop_eq_nil_of_le within, cut_nil]

end Cut

section Encoded

variable (reg : Registry) (decode : TlvClass → Bytes → Run PyValue)

theorem mapM_pure_map {α β : Type} {f : α → Run β} {g : α → β} :
    ∀ {items : List α}, (∀ item ∈ items, f item = pure (g item)) →
      items.mapM f = pure (items.map g)
  | [], _ => rfl
  | item :: items, returns => by
    rw [List.mapM_cons, returns item (List.mem_cons_self item items), pure_bind,
      mapM_pure_map fun i member => returns i (List.mem_cons_of_mem item member), pure_bind]
    rfl

theorem mapM_map {α β γ : Type} (f : β → Run γ) (g : α → β) :
    ∀ items : List α, (items.map g).mapM f = items.mapM fun item => f (g item)
  | [] => rfl
  | item :: items => by rw [List.map_cons, List.mapM_cons, List.mapM_cons, mapM_map f g items]

/-- Well-formed sub-TLVs in front of a buffer: the loop appends their records, in order,
and goes on with the rest of the buffer. -/
theorem unpackSubTlvs_encodeSubTlvs_append {subTlvs : List (Nat × Bytes)}
    (fit : ∀ subTlv ∈ subTlvs, subTlv.1 < 2 ^ 16 ∧ subTlv.2.length < 2 ^ 16)
    (tail : Bytes) (acc : List PyValue) :
    unpackSubTlvs reg decode (encodeSubTlvs subTlvs ++ tail) acc = (do
      let records ← subTlvs.mapM fun subTlv => record reg decode subTlv.1 subTlv.2
      unpackSubTlvs reg decode tail (acc ++ records)) := by
  rw [unpackSubTlvs_eq, cut_encodeSubTlvs_append fit, List.mapM_append, mapM_map]
  simp only [unpackSubTlvs_eq, bind_assoc, pure_bind, List.append_assoc]

/-- On a well-formed buffer the loop appends the records of the sub-TLVs written into it,
in order. -/
theorem unpackSubTlvs_encodeSubTlvs {subTlvs : List (Nat × Bytes)}
    (fit : ∀ subTlv ∈ subTlvs, subTlv.1 < 2 ^ 16 ∧ subTlv.2.length < 2 ^ 16)
    (acc : List PyValue) :
    unpackSubTlvs reg decode (encodeSubTlvs subTlvs) acc =
      (acc ++ ·) <$> subTlvs.mapM fun subTlv => record reg decode subTlv.1 subTlv.2 := by
  have whole := unpackSubTlvs_encodeSubTlvs_append reg decode fit [] acc
  simp only [List.append_nil, unpackSubTlvs_nil] at whole
  rw [whole, bind_pure_comp]

/-- One to three octets after well-formed sub-TLVs are a header cut short: once the
records before them return, the loop raises `struct.error`. -/
theorem unpackSubTlvs_fragment {subTlvs : List (Nat × Bytes)}
    (fit : ∀ subTlv ∈ subTlvs, subTlv.1 < 2 ^ 16 ∧ subTlv.2.length < 2 ^ 16)
    {tail : Bytes} (nonempty : tail ≠ []) (short : tail.length < 4) (acc : List PyValue) :
    unpackSubTlvs reg decode (encodeSubTlvs subTlvs ++ tail) acc = (do
      let _ ← subTlvs.mapM fun subTlv => record reg decode subTlv.1 subTlv.2
      throw .structError) := by
  simp only [unpackSubTlvs_encodeSubTlvs_append reg decode fit,
    unpackSubTlvs_short reg decode nonempty short]

theorem mapM_returns {α β : Type} {f : α → Run β} :
    ∀ {items : List α}, (∀ item ∈ items, ∃ out, f item = pure out) →
      ∃ outs, items.mapM f = pure outs ∧
        List.Forall₂ (fun item out => f item = pure out) items outs
  | [], _ => ⟨[], rfl, List.Forall₂.nil⟩
  | item :: items, returns => by
    obtain ⟨out, first⟩ := returns item (List.mem_cons_self item items)
    obtain ⟨outs, rest, pairs⟩ :=
      mapM_returns fun i member => returns i (List.mem_cons_of_mem item member)
    exact ⟨out :: outs, by simp only [List.mapM_cons, first, rest, pure_bind],
      List.Forall₂.cons first pairs⟩

theorem mapM_eq_pure {α β : Type} {f : α → Run β} :
    ∀ {items : List α} {outs : List β}, items.mapM f = pure outs →
      List.Forall₂ (fun item out => f item = pure out) items outs
  | [], _, returns => by cases pure_inj returns; exact List.Forall₂.nil
  | item :: items, _, returns => by
    rw [List.mapM_cons] at returns
    obtain ⟨out, first, rest⟩ := bind_eq_pure.mp returns
    obtain ⟨outs, mapped, done⟩ := bind_eq_pure.mp rest
    cases pure_inj done
    exact List.Forall₂.cons first (mapM_eq_pure mapped)

theorem mapM_congr {α β : Type} {f g : α → Run β} :
    ∀ {items : List α}, (∀ item ∈ items, f item = g item) → items.mapM f = items.mapM g
  | [], _ => rfl
  | item :: items, same => by
    rw [List.mapM_cons, List.mapM_cons, same item (List.mem_cons_self item items),
      mapM_congr fun i member => same i (List.mem_cons_of_mem item member)]

theorem mapM_isSome {α β : Type} {f : α → Run β} :
    ∀ {items : List α}, (∀ item ∈ items, (f item).run.isSome) → (items.mapM f).run.isSome
  | [], _ => rfl
  | item :: items, finishes => by
    rw [List.mapM_cons]
    exact isSome_bind (finishes item (List.mem_cons_self item items)) fun _ =>
      isSome_bind (mapM_isSome fun i member => finishes i (List.mem_cons_of_mem item member))
        fun _ => rfl

/-- A sub-TLV whose type is unregistered, or whose registered decoder returns, has a
record that returns. -/
theorem record_returns {subTlvType : Nat} {subTlvValue : Bytes}
    (returns : ∀ cls, reg subTlvType = some cls → ∃ out, decode cls subTlvValue = pure out) :
    ∃ out, record reg decode subTlvType subTlvValue = pure out := by
  unfold record
  split
  next cls found => exact returns cls found
  next => exact ⟨_, rfl⟩

/-- A final sub-TLV that declares more octets than remain is not rejected: the loop
decodes the octets that are there and returns. -/
theorem unpackSubTlvs_truncated {type length : Nat} {value : Bytes} (typeFits : type < 2 ^ 16)
    (lengthFits : length < 2 ^ 16) (short : value.length < length) (acc : List PyValue) :
    unpackSubTlvs reg decode (structPack 2 type ++ structPack 2 length ++ value) acc =
      (fun entry => acc ++ [entry]) <$> record reg decode type value := by
  rw [unpackSubTlvs_eq, cut_single typeFits lengthFits short.le]
  simp only [List.mapM_cons, List.mapM_nil, bind_assoc, pure_bind, if_pos, bind_pure_comp,
    map_pure, Functor.map_map]

/-- Sub-TLVs whose registered decoders all return have their entries appended, one per
sub-TLV, in order. -/
theorem mapM_record_returns {subTlvs : List (Nat × Bytes)}
    (returns : ∀ subTlv ∈ subTlvs, ∀ cls, reg subTlv.1 = some cls →
      ∃ out, decode cls subTlv.2 = pure out) :
    ∃ records, subTlvs.mapM (fun subTlv => record reg decode subTlv.1 subTlv.2) = pure records ∧
      List.Forall₂ (fun subTlv entry => Entry reg decode subTlv.1 subTlv.2 entry)
        subTlvs records := by
  obtain ⟨records, mapped, pairs⟩ := mapM_returns fun subTlv member =>
    record_returns reg decode (returns subTlv member)
  exact ⟨records, mapped, pairs.imp fun _ _ => record_eq_pure.mp⟩

/-- What the loop guarantees when it returns: the buffer is the envelopes it read, end to
end, each header two two-octet fields and each value at most as long as its header
declares, all but the last exactly as long; and one entry was appended per envelope, in
order, the registered decoder's result on its value or the fallback record of its value. -/
theorem unpackSubTlvs_framing {bin : Bytes} {acc out : List PyValue}
    (returns : unpackSubTlvs reg decode bin acc = pure out) :
    ∃ envelopes records, bin = envelopes.flatMap Envelope.bytes ∧
      (∀ e ∈ envelopes, e.type < 2 ^ 16 ∧ e.length < 2 ^ 16 ∧ e.value.length ≤ e.length) ∧
      (∀ e ∈ envelopes.dropLast, e.value.length = e.length) ∧
      out = acc ++ records ∧
      List.Forall₂ (fun e entry => Entry reg decode e.type e.value entry) envelopes records := by
  rw [unpackSubTlvs_eq] at returns
  obtain ⟨records, mapped, finished⟩ := bind_eq_pure.mp returns
  have used : (cut bin).2 = [] := by
    by_contra left
    rw [if_neg left] at finished
    cases finished
  rw [if_pos used] at finished
  refine ⟨(cut bin).1, records, ?_, cut_fits bin, fun e member => ?_,
    (pure_inj finished).symm, (mapM_eq_pure mapped).imp fun _ _ => record_eq_pure.mp⟩
  · conv_lhs => rw [← cut_cover bin, used, List.append_nil]
  · obtain ⟨before, after, split⟩ := List.append_of_mem member
    have nonempty : (cut bin).1 ≠ [] := List.ne_nil_of_mem (List.dropLast_subset _ member)
    have whole : (cut bin).1 = before ++ e :: (after ++ [(cut bin).1.getLast nonempty]) := by
      conv_lhs => rw [← List.dropLast_append_getLast nonempty, split]
      simp
    by_contra differ
    have short := lt_of_le_of_ne (cut_fits bin e (List.dropLast_subset _ member)).2.2 differ
    exact absurd (cut_truncated_last bin before e _ whole short).1 (by simp)

theorem unpackSubTlvs_framing_dead :
    unpackSubTlvs (fun _ => none) (fun _ _ => pure .none) [0xff, 0xff, 0x00, 0x04, 0xde, 0xad] [] =
        pure [fallbackRecord 65535 [0xde, 0xad]] ∧
      ∃ envelopes records, ([0xff, 0xff, 0x00, 0x04, 0xde, 0xad] : Bytes) =
          envelopes.flatMap Envelope.bytes ∧
        (∀ e ∈ envelopes, e.type < 2 ^ 16 ∧ e.length < 2 ^ 16 ∧ e.value.length ≤ e.length) ∧
        (∀ e ∈ envelopes.dropLast, e.value.length = e.length) ∧
        [fallbackRecord 65535 [0xde, 0xad]] = [] ++ records ∧
        List.Forall₂ (fun e entry =>
          Entry (fun _ => none) (fun _ _ => pure .none) e.type e.value entry)
          envelopes records := by
  have returns : unpackSubTlvs (fun _ => none) (fun _ _ => pure .none)
      [0xff, 0xff, 0x00, 0x04, 0xde, 0xad] [] = pure [fallbackRecord 65535 [0xde, 0xad]] := by
    rw [show ([0xff, 0xff, 0x00, 0x04, 0xde, 0xad] : Bytes) =
        structPack 2 65535 ++ structPack 2 4 ++ [0xde, 0xad] from rfl,
      unpackSubTlvs_truncated _ _ (by decide) (by decide) (by decide)]
    rfl
  exact ⟨returns, unpackSubTlvs_framing _ _ returns⟩

end Encoded

section Nested

variable (reg : Registry)

/-- The loop calls `decode` only on values shorter than its buffer, so two decoders that
agree there give the same loop. -/
theorem unpackSubTlvs_congr {decode decode' : TlvClass → Bytes → Run PyValue} {bin : Bytes}
    (agree : ∀ cls value, value.length < bin.length → decode cls value = decode' cls value)
    (subTlvs : List PyValue) :
    unpackSubTlvs reg decode bin subTlvs = unpackSubTlvs reg decode' bin subTlvs := by
  have records : ∀ e ∈ (cut bin).1,
      record reg decode e.type e.value = record reg decode' e.type e.value := by
    intro e member
    unfold record
    split
    next cls _ => exact agree cls e.value (by have := cut_value_lt bin e member; omega)
    next => rfl
  rw [unpackSubTlvs_eq, unpackSubTlvs_eq, mapM_congr records]

/-- The loop finishes when `decode` finishes on every value shorter than its buffer. -/
theorem unpackSubTlvs_isSome {decode : TlvClass → Bytes → Run PyValue} {bin : Bytes}
    (finishes : ∀ cls value, value.length < bin.length → (decode cls value).run.isSome)
    (subTlvs : List PyValue) : (unpackSubTlvs reg decode bin subTlvs).run.isSome := by
  have records : ∀ e ∈ (cut bin).1, (record reg decode e.type e.value).run.isSome := by
    intro e member
    unfold record
    split
    next cls _ => exact finishes cls e.value (by have := cut_value_lt bin e member; omega)
    next => rfl
  rw [unpackSubTlvs_eq]
  exact isSome_bind (mapM_isSome records) fun _ => by split <;> rfl

end Nested

end BgpLinkState.SubTlv
