import BgpLinkState.Python
import Mathlib.Data.Nat.Digits

/-! Hex rendering of octets, as the decoders produce it: `binascii.b2a_hex`, its result
decoded with `.decode('ascii')` or passed to `str()`, and the zero-padded format
`'{:08x}'`. The format prints the digits of one integer while `b2a_hex` prints octets;
`formatHex_be` says they agree whenever the width is two digits per octet. -/

namespace BgpLinkState.Hex
open Python

/-- `binascii.b2a_hex(data)`: two lower-case hex digits per octet, as the characters of
the bytes object it returns. -/
def b2aHex (data : Bytes) : List Char :=
  data.flatMap fun b => [Nat.digitChar (b.toNat / 16), Nat.digitChar (b.toNat % 16)]

/-- `str(b)` for a bytes object of printable characters other than a quote or a
backslash, such as the digits `b2a_hex` returns: its repr `b'...'`. -/
def strOfBytes (chars : List Char) : String := "b'" ++ String.mk chars ++ "'"

/-- `'{:0<width>x}'.format(n)`: the lower-case hex digits of `n`, left-padded with `'0'`
to `width` characters. -/
def formatHex (width n : Nat) : String :=
  String.mk (List.replicate (width - (Nat.toDigits 16 n).length) '0' ++ Nat.toDigits 16 n)

/-- The `width` lowest hex digits of `n`, most significant first. -/
def hexDigits : Nat → Nat → List Char
  | 0, _ => []
  | width + 1, n => hexDigits width (n / 16) ++ [Nat.digitChar (n % 16)]

@[simp] theorem b2aHex_nil : b2aHex [] = [] := rfl

@[simp] theorem b2aHex_cons (b : UInt8) (data : Bytes) :
    b2aHex (b :: data) =
      Nat.digitChar (b.toNat / 16) :: Nat.digitChar (b.toNat % 16) :: b2aHex data := rfl

@[simp] theorem b2aHex_append (xs ys : Bytes) : b2aHex (xs ++ ys) = b2aHex xs ++ b2aHex ys :=
  List.flatMap_append xs ys _

@[simp] theorem length_b2aHex (data : Bytes) : (b2aHex data).length = 2 * data.length := by
  induction data with
  | nil => rfl
  | cons b data ih =>
    rw [b2aHex_cons, List.length_cons, List.length_cons, ih, List.length_cons]
    omega

theorem hexDigits_zero (width : Nat) : hexDigits width 0 = List.replicate width '0' := by
  induction width with
  | zero => rfl
  | succ width ih =>
    rw [hexDigits, Nat.zero_div, ih, Nat.zero_mod, List.replicate_succ']
    rfl

/-- Two hex digits per octet: `b2a_hex` prints the digits of the big-endian value. -/
theorem b2aHex_eq_hexDigits (data : Bytes) :
    b2aHex data = hexDigits (2 * data.length) (be data) := by
  induction data using List.reverseRecOn with
  | nil => rfl
  | append_singleton data b ih =>
    have octet : b.toNat < 256 := b.toNat_lt_size
    have high : (be data * 256 + b.toNat) / 16 / 16 = be data := by omega
    have middle : (be data * 256 + b.toNat) / 16 % 16 = b.toNat / 16 := by omega
    have low : (be data * 256 + b.toNat) % 16 = b.toNat % 16 := by omega
    have width : 2 * (data.length + 1) = 2 * data.length + 1 + 1 := by omega
    rw [b2aHex_append, ih, be_append_singleton, List.length_append, List.length_singleton,
      width, hexDigits, hexDigits, high, middle, low, List.append_assoc]
    rfl

private theorem toDigitsCore_append (fuel n : Nat) (ds : List Char) :
    Nat.toDigitsCore 16 fuel n ds = Nat.toDigitsCore 16 fuel n [] ++ ds := by
  induction fuel generalizing n ds with
  | zero => rfl
  | succ fuel ih =>
    simp only [Nat.toDigitsCore]
    split
    · rfl
    · rw [ih _ (_ :: ds), ih _ [_], List.append_assoc, List.singleton_append]

private theorem toDigitsCore_fuel (fuel other n : Nat) (enough : n < fuel)
    (enough' : n < other) :
    Nat.toDigitsCore 16 fuel n [] = Nat.toDigitsCore 16 other n [] := by
  induction fuel generalizing other n with
  | zero => omega
  | succ fuel ih =>
    obtain ⟨other, rfl⟩ : ∃ k, other = k + 1 := ⟨other - 1, by omega⟩
    simp only [Nat.toDigitsCore]
    split
    · rfl
    · rw [toDigitsCore_append fuel, toDigitsCore_append other, ih other (n / 16) (by omega)
        (by omega)]

theorem toDigits_of_lt {n : Nat} (small : n < 16) : Nat.toDigits 16 n = [Nat.digitChar n] := by
  simp [Nat.toDigits, Nat.toDigitsCore, Nat.div_eq_of_lt small, Nat.mod_eq_of_lt small]

theorem toDigits_of_le {n : Nat} (large : 16 ≤ n) :
    Nat.toDigits 16 n = Nat.toDigits 16 (n / 16) ++ [Nat.digitChar (n % 16)] := by
  have positive : n / 16 ≠ 0 := by omega
  rw [Nat.toDigits, Nat.toDigitsCore]
  simp only [positive, if_false]
  rw [toDigitsCore_append, toDigitsCore_fuel n (n / 16 + 1) _ (by omega) (by omega)]
  rfl

/-- Padding the digits of `n < 16 ^ width` gives its `width` lowest digits. -/
theorem pad_toDigits {width n : Nat} (positive : 0 < width) (fits : n < 16 ^ width) :
    List.replicate (width - (Nat.toDigits 16 n).length) '0' ++ Nat.toDigits 16 n =
      hexDigits width n := by
  induction width generalizing n with
  | zero => omega
  | succ width ih =>
    by_cases small : n < 16
    · rw [toDigits_of_lt small, hexDigits, Nat.div_eq_of_lt small, hexDigits_zero,
        Nat.mod_eq_of_lt small]
      rfl
    · have shorter : n / 16 < 16 ^ width := by
        rw [Nat.pow_succ] at fits
        omega
      have wide : 0 < width := by
        rcases Nat.eq_zero_or_pos width with rfl | wide
        · simp at fits
          omega
        · exact wide
      rw [toDigits_of_le (by omega), hexDigits, ← ih wide shorter, List.length_append,
        List.length_singleton, Nat.add_sub_add_right, List.append_assoc]

/-- `'{:0<2k>x}'` of the big-endian value of `k ≥ 1` octets prints exactly their
`b2a_hex` digits: the `!I` and `!Q` branches agree with the raw hex dump. -/
theorem formatHex_be {data : Bytes} (nonempty : data ≠ []) :
    formatHex (2 * data.length) (be data) = String.mk (b2aHex data) := by
  have positive : 0 < 2 * data.length := by
    have := List.length_pos.mpr nonempty
    omega
  have fits : be data < 16 ^ (2 * data.length) := by
    rw [Nat.pow_mul]
    exact be_lt data
  rw [formatHex, pad_toDigits positive fits, b2aHex_eq_hexDigits]

end BgpLinkState.Hex
