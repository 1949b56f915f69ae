import Mathlib.Data.List.Basic
import Mathlib.Tactic.Ring

/-! The Python runtime as the link-state decoders use it. A `bytes` object is a list of
octets; `data[i]`, slicing and `struct.unpack` with the big-endian formats `!B`, `!H`,
`!I`, `!Q` are total functions that raise the exception Python raises; the values the
decoders build are `None`, integers, strings, lists and dictionaries.

A decode runs in `Run`, which adds to the exceptions an outcome for a recursion budget
that ran out: the registry lets a container decode itself, so the nesting depth is only
bounded by the input. -/

namespace BgpLinkState.Python

abbrev Bytes := List UInt8

/-- The exceptions a decode raises. `raised` is whatever a decoder of another module
raises. -/
inductive PyError where
  | indexError
  | structError
  | raised (name : String)
deriving DecidableEq, Repr

/-- The data `dict()` returns: dictionaries keep their items in insertion order. -/
inductive PyValue where
  | none
  | int (n : Int)
  | str (s : String)
  | list (items : List PyValue)
  | dict (items : List (String × PyValue))
deriving Repr

/-- `value[key]` on a dictionary: its first item under `key`. -/
def PyValue.getItem (key : String) : PyValue → Option PyValue
  | .dict items => items.lookup key
  | _ => none

/-- A call that returns, raises, or is still running when its recursion budget is spent
(`none`). -/
abbrev Run := ExceptT PyError Option

/-- `data[i]` on a bytes object. -/
def getItem (data : Bytes) (i : Nat) : Except PyError Nat :=
  match data[i]? with
  | some b => pure b.toNat
  | none => throw .indexError

/-- `data[i:j]`: the octets from `i` up to `j`, cut short at the end of `data`. -/
def slice (data : Bytes) (i j : Nat) : Bytes := (data.drop i).take (j - i)

/-- The unsigned integer in a big-endian field. -/
def be (field : Bytes) : Nat := field.foldl (fun acc b => acc * 256 + b.toNat) 0

/-- The octets at `offset` of a `width`-octet field of a packed buffer. -/
def field (buf : Bytes) (offset width : Nat) : Nat := be ((buf.drop offset).take width)

/-- `struct.unpack(fmt, buf)` for a format of `size` octets: `struct.error` unless `buf`
has exactly that size, and otherwise the fields `read` takes from it. -/
def structUnpack {α : Type} (size : Nat) (read : Bytes → α) (buf : Bytes) :
    Except PyError α :=
  if buf.length = size then pure (read buf) else throw .structError

/-- `struct.unpack('!H', buf)`. -/
def structUnpackH : Bytes → Except PyError Nat := structUnpack 2 be

/-- `struct.unpack('!I', buf)`. -/
def structUnpackI : Bytes → Except PyError Nat := structUnpack 4 be

/-- `struct.unpack('!Q', buf)`. -/
def structUnpackQ : Bytes → Except PyError Nat := structUnpack 8 be

/-- `struct.unpack('!HH', buf)`. -/
def structUnpackHH : Bytes → Except PyError (Nat × Nat) :=
  structUnpack 4 fun buf => (field buf 0 2, field buf 2 2)

/-- `struct.unpack('!BBBB', buf)`. -/
def structUnpackBBBB : Bytes → Except PyError (Nat × Nat × Nat × Nat) :=
  structUnpack 4 fun buf => (field buf 0 1, field buf 1 1, field buf 2 1, field buf 3 1)

/-- The big-endian values of the consecutive `width`-octet chunks of `data`, as many as
fit whole. -/
def chunkValues (width : Nat) (data : Bytes) : List Nat :=
  (List.range (data.length / width)).map fun i => field data (width * i) width

/-- `struct.pack` of `n` into a `width`-octet big-endian field: the wire form of a field. -/
def structPack : Nat → Nat → Bytes
  | 0, _ => []
  | width + 1, n => structPack width (n / 256) ++ [UInt8.ofNat (n % 256)]

section Lemmas

variable {α : Type}

@[simp] theorem liftM_pure (x : α) : (liftM (pure x : Except PyError α) : Run α) = pure x := rfl

@[simp] theorem liftM_throw (e : PyError) :
    (liftM (throw e : Except PyError α) : Run α) = throw e := rfl

@[simp] theorem throw_bind {β : Type} (e : PyError) (f : α → Run β) :
    (throw e : Run α) >>= f = throw e := rfl

theorem except_bind_eq_pure {β : Type} {x : Except PyError α} {f : α → Except PyError β}
    {b : β} : x >>= f = pure b ↔ ∃ a, x = pure a ∧ f a = pure b := by
  cases x with
  | error e => exact ⟨fun h => (by cases h), fun ⟨_, h, _⟩ => (by cases h)⟩
  | ok a => exact ⟨fun h => ⟨a, rfl, h⟩, fun ⟨_, h, next⟩ => (by cases h; exact next)⟩

theorem liftM_eq_pure {x : Except PyError α} {a : α} :
    (liftM x : Run α) = pure a ↔ x = pure a := by
  cases x with
  | error e => exact ⟨fun h => (by cases h), fun h => (by cases h)⟩
  | ok b => exact ⟨fun h => (by cases h; rfl), fun h => (by cases h; rfl)⟩

theorem map_eq_throw {β : Type} {f : α → β} {x : Run α} {e : PyError} :
    f <$> x = throw e ↔ x = throw e := by
  rcases x with _ | _ | a
  · exact ⟨fun h => (by cases h), fun h => (by cases h)⟩
  · exact ⟨fun h => (by cases h; rfl), fun h => (by cases h; rfl)⟩
  · exact ⟨fun h => (by cases h), fun h => (by cases h)⟩

theorem map_eq_pure {β : Type} {f : α → β} {x : Run α} {b : β} :
    f <$> x = pure b ↔ ∃ a, x = pure a ∧ f a = b := by
  rcases x with _ | _ | a
  · exact ⟨fun h => (by cases h), fun ⟨_, h, _⟩ => (by cases h)⟩
  · exact ⟨fun h => (by cases h), fun ⟨_, h, _⟩ => (by cases h)⟩
  · exact ⟨fun h => (by cases h; exact ⟨a, rfl, rfl⟩),
      fun ⟨_, h, same⟩ => (by cases h; rw [← same]; rfl)⟩

theorem bind_eq_pure {β : Type} {x : Run α} {f : α → Run β} {b : β} :
    x >>= f = pure b ↔ ∃ a, x = pure a ∧ f a = pure b := by
  rcases x with _ | _ | a
  · exact ⟨fun h => (by cases h), fun ⟨_, h, _⟩ => (by cases h)⟩
  · exact ⟨fun h => (by cases h), fun ⟨_, h, _⟩ => (by cases h)⟩
  · exact ⟨fun h => ⟨a, rfl, h⟩, fun ⟨_, h, next⟩ => (by cases h; exact next)⟩

theorem pure_inj {a b : α} (same : (pure a : Run α) = pure b) : a = b := by
  cases same
  rfl

/-- A call finishes when its first step does and every continuation does. -/
theorem isSome_bind {β : Type} {x : Run α} {f : α → Run β} (first : x.run.isSome)
    (next : ∀ a, (f a).run.isSome) : (x >>= f).run.isSome := by
  rw [ExceptT.run_bind]
  match result : x.run, first with
  | some (.ok a), _ => exact next a
  | some (.error _), _ => rfl

@[simp] theorem structUnpack_of_length {size : Nat} {read : Bytes → α} {buf : Bytes}
    (sized : buf.length = size) : structUnpack size read buf = pure (read buf) := by
  simp [structUnpack, sized]

@[simp] theorem structUnpack_of_length_ne {size : Nat} {read : Bytes → α} {buf : Bytes}
    (sized : buf.length ≠ size) : structUnpack size read buf = throw .structError := by
  simp [structUnpack, sized]

@[simp] theorem slice_eq (data : Bytes) (i j : Nat) :
    slice data i j = (data.drop i).take (j - i) := rfl

@[simp] theorem be_nil : be [] = 0 := rfl

@[simp] theorem be_append_singleton (bytes : Bytes) (b : UInt8) :
    be (bytes ++ [b]) = be bytes * 256 + b.toNat := by
  simp [be]

theorem be_lt (bytes : Bytes) : be bytes < 256 ^ bytes.length := by
  induction bytes using List.reverseRecOn with
  | nil => simp
  | append_singleton bytes b ih =>
    have octet : b.toNat < 256 := b.toNat_lt_size
    rw [be_append_singleton, List.length_append, List.length_singleton, Nat.pow_succ]
    omega

/-- A `width`-octet field holds less than `256 ^ width`, however short the buffer. -/
theorem field_lt (buf : Bytes) (offset width : Nat) : field buf offset width < 256 ^ width :=
  lt_of_lt_of_le (be_lt _) (Nat.pow_le_pow_right (by decide) (List.length_take_le _ _))

@[simp] theorem length_structPack (width n : Nat) : (structPack width n).length = width := by
  induction width generalizing n with
  | zero => rfl
  | succ width ih => simp [structPack, ih]

theorem be_structPack (width n : Nat) : be (structPack width n) = n % 256 ^ width := by
  induction width generalizing n with
  | zero => simp [structPack, Nat.mod_one]
  | succ width ih =>
    have low : (UInt8.ofNat (n % 256)).toNat = n % 256 :=
      UInt8.toNat_ofNat_of_lt (Nat.mod_lt n (by decide))
    rw [structPack, be_append_singleton, ih, low, Nat.pow_succ', Nat.mod_mul]
    ring

theorem be_structPack_of_lt {width n : Nat} (fits : n < 256 ^ width) :
    be (structPack width n) = n := by
  rw [be_structPack, Nat.mod_eq_of_lt fits]

theorem ofNat_toNat (b : UInt8) : UInt8.ofNat b.toNat = b :=
  UInt8.toNat.inj (UInt8.toNat_ofNat_of_lt b.toNat_lt_size)

theorem structPack_be (bytes : Bytes) : structPack bytes.length (be bytes) = bytes := by
  induction bytes using List.reverseRecOn with
  | nil => rfl
  | append_singleton bytes b ih =>
    have octet : b.toNat < 256 := b.toNat_lt_size
    have high : (be bytes * 256 + b.toNat) / 256 = be bytes := by omega
    have low : (be bytes * 256 + b.toNat) % 256 = b.toNat := by omega
    rw [List.length_append, List.length_singleton, structPack, be_append_singleton, high, ih,
      low, ofNat_toNat]

/-- A field read back from the octets `struct.pack` wrote. -/
theorem field_structPack {width n : Nat} (fits : n < 256 ^ width) (before rest : Bytes) :
    field (before ++ structPack width n ++ rest) before.length width = n := by
  rw [field, List.append_assoc, List.drop_left, List.take_left' (length_structPack width n),
    be_structPack_of_lt fits]

/-- A two-field header written back from the fields it holds. -/
theorem structPack_field_field {header : Bytes} (sized : header.length = 4) :
    structPack 2 (field header 0 2) ++ structPack 2 (field header 2 2) = header := by
  have front : structPack 2 (be (header.take 2)) = header.take 2 := by
    simpa [sized] using structPack_be (header.take 2)
  have back : structPack 2 (be (header.drop 2)) = header.drop 2 := by
    simpa [sized] using structPack_be (header.drop 2)
  have whole : (header.drop 2).take 2 = header.drop 2 :=
    List.take_of_length_le (by simp [sized])
  rw [field, field, List.drop_zero, whole, front, back, List.take_append_drop]

@[simp] theorem chunkValues_nil (width : Nat) : chunkValues width [] = [] := by
  simp [chunkValues]

/-- A whole chunk in front adds its value in front. -/
theorem chunkValues_append {width : Nat} {chunk : Bytes} (sized : chunk.length = width)
    (positive : 0 < width) (rest : Bytes) :
    chunkValues width (chunk ++ rest) = be chunk :: chunkValues width rest := by
  have count : (chunk ++ rest).length / width = rest.length / width + 1 := by
    rw [List.length_append, sized, Nat.add_comm, Nat.add_div_right _ positive]
  have shifted :
      ∀ i, field (chunk ++ rest) (width * (i + 1)) width = field rest (width * i) width := by
    intro i
    rw [field, field, Nat.mul_succ, Nat.add_comm, ← List.drop_drop, List.drop_left' sized]
  rw [chunkValues, count, List.range_succ_eq_map, List.map_cons, List.map_map, chunkValues]
  congr 1
  · rw [field, Nat.mul_zero, List.drop_zero, List.take_left' sized]
  · exact List.map_congr_left fun i _ => shifted i

@[simp] theorem length_flatMap_structPack (width : Nat) (values : List Nat) :
    (values.flatMap (structPack width)).length = width * values.length := by
  induction values with
  | nil => rfl
  | cons x values ih => simp [ih, Nat.mul_succ, Nat.add_comm]

/-- `struct.pack` chunks read back as the values packed. -/
theorem chunkValues_flatMap_structPack {width : Nat} (positive : 0 < width) :
    ∀ {values : List Nat}, (∀ x ∈ values, x < 256 ^ width) →
      chunkValues width (values.flatMap (structPack width)) = values
  | [], _ => chunkValues_nil width
  | x :: values, fit => by
    rw [List.flatMap_cons, chunkValues_append (length_structPack width x) positive,
      be_structPack_of_lt (fit x (List.mem_cons_self x values)),
      chunkValues_flatMap_structPack positive fun y member => fit y (List.mem_cons_of_mem x member)]

end Lemmas

end BgpLinkState.Python
