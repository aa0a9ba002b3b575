import Nmstate.NmDbus.Value
import Mathlib.Data.List.DropRight

namespace Nmstate

section Utf8

theorem uint8_toNat_or (a b : UInt8) : (a ||| b).toNat = a.toNat ||| b.toNat := BitVec.toNat_or ..

theorem uint32_toNat_or (a b : UInt32) : (a ||| b).toNat = a.toNat ||| b.toNat := BitVec.toNat_or ..

theorem uint32_toNat_shiftLeft (a b : UInt32) :
    (a <<< b).toNat = a.toNat <<< (b.toNat % 32) % 4294967296 := by
  show (a.toBitVec <<< (UInt32.mod b 32).toBitVec).toNat = _
  simp [BitVec.toNat_shiftLeft, UInt32.mod, UInt32.toNat]

theorem uint8_toNat_toUInt32 (a : UInt8) : a.toUInt32.toNat = a.toNat := rfl

theorem uint32_le_iff (a b : UInt32) : a ≤ b ↔ a.toNat ≤ b.toNat := Iff.rfl

theorem uint32_lt_iff (a b : UInt32) : a < b ↔ a.toNat < b.toNat := Iff.rfl

theorem uint8_beq (a b : UInt8) : (a == b) = (a.toNat == b.toNat) := by
  by_cases same : a = b
  · simp [same]
  · have differ : a.toNat ≠ b.toNat := fun e => same (UInt8.toNat.inj e)
    simp [same, differ]

/-- The byte `(v >>> s).toUInt8 &&& mask ||| lead` the encoder writes, as a number. -/
theorem encodedByte_toNat (v s : UInt32) (mask lead : UInt8) :
    ((v >>> s).toUInt8 &&& mask ||| lead).toNat =
      v.toNat >>> (s.toNat % 32) % 256 &&& mask.toNat ||| lead.toNat := by
  show (((v.toBitVec >>> (UInt32.mod s 32).toBitVec).toNat % 256) &&& _) ||| _ = _
  simp [BitVec.toNat_ushiftRight, UInt32.mod, UInt32.toNat]
  rfl

theorem lastByte_toNat (v : UInt32) (mask lead : UInt8) :
    (v.toUInt8 &&& mask ||| lead).toNat = v.toNat % 256 &&& mask.toNat ||| lead.toNat := by
  simp only [uint8_toNat_or, UInt8.and_toNat]
  rfl

theorem mask_7 (x : Nat) : x % 256 &&& 7 = x % 8 :=
  (Nat.and_pow_two_sub_one_eq_mod _ 3).trans (Nat.mod_mod_of_dvd x (by decide))
theorem mask_15 (x : Nat) : x % 256 &&& 15 = x % 16 :=
  (Nat.and_pow_two_sub_one_eq_mod _ 4).trans (Nat.mod_mod_of_dvd x (by decide))
theorem mask_31 (x : Nat) : x % 256 &&& 31 = x % 32 :=
  (Nat.and_pow_two_sub_one_eq_mod _ 5).trans (Nat.mod_mod_of_dvd x (by decide))
theorem mask_63 (x : Nat) : x % 256 &&& 63 = x % 64 :=
  (Nat.and_pow_two_sub_one_eq_mod _ 6).trans (Nat.mod_mod_of_dvd x (by decide))

/-- Bits below `1 <<< k` or-ed onto a multiple of `1 <<< k` are added to it. -/
theorem or_eq_add_of_lt (k : Nat) {a b : Nat} (ha : 1 <<< k ∣ a) (hb : b < 1 <<< k) :
    a ||| b = a + b := by
  rw [Nat.shiftLeft_eq, Nat.one_mul] at ha hb
  obtain ⟨q, rfl⟩ := ha
  exact (Nat.mul_add_lt_is_or hb q).symm

theorem ascii_byte : ∀ y < 128, y &&& 128 = 0 := by decide

theorem continuation_byte : ∀ y < 64, (y ||| 128) &&& 192 = 128 ∧ (y ||| 128) &&& 63 = y := by
  decide

theorem lead2_byte : ∀ y < 32,
    (y ||| 192) &&& 128 ≠ 0 ∧ (y ||| 192) &&& 224 = 192 ∧ (y ||| 192) &&& 31 = y := by
  decide

theorem lead3_byte : ∀ y < 16, (y ||| 224) &&& 128 ≠ 0 ∧ (y ||| 224) &&& 224 ≠ 192 ∧
    (y ||| 224) &&& 240 = 224 ∧ (y ||| 224) &&& 15 = y := by
  decide

theorem lead4_byte : ∀ y < 8, (y ||| 240) &&& 128 ≠ 0 ∧ (y ||| 240) &&& 224 ≠ 192 ∧
    (y ||| 240) &&& 240 ≠ 224 ∧ (y ||| 240) &&& 248 = 240 ∧ (y ||| 240) &&& 7 = y := by
  decide

variable {a : ByteArray} {i : Nat}

theorem decode_one {b : UInt8} (h0 : a[i]? = some b) (ascii : b.toNat < 128) :
    (String.utf8DecodeChar? a i).map Char.toNat = some b.toNat := by
  simp only [String.utf8DecodeChar?, h0, Option.bind_eq_bind, Option.some_bind, uint8_beq,
    UInt8.and_toNat, UInt8.reduceToNat, ascii_byte _ ascii]
  rfl

theorem decode_two {b0 b1 : UInt8} {x y : Nat} (h0 : a[i]? = some b0) (h1 : a[i + 1]? = some b1)
    (e0 : b0.toNat = x ||| 192) (e1 : b1.toNat = y ||| 128) (hx : x < 32) (hy : y < 64)
    (lo : 128 ≤ x * 64 + y) :
    (String.utf8DecodeChar? a i).map Char.toNat = some (x * 64 + y) := by
  obtain ⟨lead0, lead1, lead2⟩ := lead2_byte x hx
  obtain ⟨cont0, cont1⟩ := continuation_byte y hy
  have value : ((b0 &&& 31).toUInt32 <<< 6 ||| (b1 &&& 63).toUInt32).toNat = x * 64 + y := by
    simp only [uint32_toNat_or, uint32_toNat_shiftLeft, uint8_toNat_toUInt32, UInt8.and_toNat,
      e0, e1, lead2, cont1, UInt8.reduceToNat, UInt32.reduceToNat, Nat.reduceMod,
      Nat.shiftLeft_eq, Nat.reducePow]
    rw [Nat.mod_eq_of_lt (show x * 64 < 4294967296 by omega),
      or_eq_add_of_lt 6 (Nat.dvd_mul_left 64 x) hy]
  simp only [String.utf8DecodeChar?, h0, h1, Option.bind_eq_bind, Option.some_bind, uint8_beq,
    UInt8.and_toNat, e0, e1, UInt8.reduceToNat, lead0, lead1, cont0, beq_self_eq_true,
    beq_iff_eq, if_false, if_true, guard, reduceIte, uint32_le_iff, uint32_lt_iff, value,
    UInt32.reduceToNat, Option.pure_def]
  rw [if_pos lo, Option.some_bind, dif_pos (by omega), Option.map_some']
  exact congrArg some value

theorem decode_three {b0 b1 b2 : UInt8} {x y z : Nat} (h0 : a[i]? = some b0)
    (h1 : a[i + 1]? = some b1) (h2 : a[i + 2]? = some b2) (e0 : b0.toNat = x ||| 224)
    (e1 : b1.toNat = y ||| 128) (e2 : b2.toNat = z ||| 128) (hx : x < 16) (hy : y < 64)
    (hz : z < 64) (lo : 2048 ≤ x * 4096 + y * 64 + z)
    (valid : x * 4096 + y * 64 + z < 0xd800 ∨
      0xdfff < x * 4096 + y * 64 + z ∧ x * 4096 + y * 64 + z < 0x110000) :
    (String.utf8DecodeChar? a i).map Char.toNat = some (x * 4096 + y * 64 + z) := by
  obtain ⟨lead0, lead1, lead2, lead3⟩ := lead3_byte x hx
  obtain ⟨cont0, cont1⟩ := continuation_byte y hy
  obtain ⟨cont2, cont3⟩ := continuation_byte z hz
  have value : ((b0 &&& 15).toUInt32 <<< 12 ||| (b1 &&& 63).toUInt32 <<< 6 |||
      (b2 &&& 63).toUInt32).toNat = x * 4096 + y * 64 + z := by
    simp only [uint32_toNat_or, uint32_toNat_shiftLeft, uint8_toNat_toUInt32, UInt8.and_toNat,
      e0, e1, e2, lead3, cont1, cont3, UInt8.reduceToNat, UInt32.reduceToNat, Nat.reduceMod,
      Nat.shiftLeft_eq, Nat.reducePow]
    rw [Nat.mod_eq_of_lt (show x * 4096 < 4294967296 by omega),
      Nat.mod_eq_of_lt (show y * 64 < 4294967296 by omega),
      or_eq_add_of_lt 12 (Nat.dvd_mul_left 4096 x) (show y * 64 < 4096 by omega),
      or_eq_add_of_lt 6 (show 64 ∣ x * 4096 + y * 64 by omega) hz]
  simp only [String.utf8DecodeChar?, h0, h1, h2, Option.bind_eq_bind, Option.some_bind, uint8_beq,
    UInt8.and_toNat, e0, e1, e2, UInt8.reduceToNat, lead0, lead1, lead2, cont0, cont2,
    beq_self_eq_true, beq_iff_eq, if_false, if_true, Bool.and_self, guard, reduceIte,
    uint32_le_iff, uint32_lt_iff, value, UInt32.reduceToNat, Option.pure_def]
  rw [if_pos lo, Option.some_bind, dif_pos valid, Option.map_some']
  exact congrArg some value

theorem decode_four {b0 b1 b2 b3 : UInt8} {x y z w : Nat} (h0 : a[i]? = some b0)
    (h1 : a[i + 1]? = some b1) (h2 : a[i + 2]? = some b2) (h3 : a[i + 3]? = some b3)
    (e0 : b0.toNat = x ||| 240) (e1 : b1.toNat = y ||| 128) (e2 : b2.toNat = z ||| 128)
    (e3 : b3.toNat = w ||| 128) (hx : x < 8) (hy : y < 64) (hz : z < 64) (hw : w < 64)
    (valid : 0x10000 ≤ x * 262144 + y * 4096 + z * 64 + w ∧
      x * 262144 + y * 4096 + z * 64 + w < 0x110000) :
    (String.utf8DecodeChar? a i).map Char.toNat = some (x * 262144 + y * 4096 + z * 64 + w) := by
  obtain ⟨lead0, lead1, lead2, lead3, lead4⟩ := lead4_byte x hx
  obtain ⟨cont0, cont1⟩ := continuation_byte y hy
  obtain ⟨cont2, cont3⟩ := continuation_byte z hz
  obtain ⟨cont4, cont5⟩ := continuation_byte w hw
  have value : ((b0 &&& 7).toUInt32 <<< 18 ||| (b1 &&& 63).toUInt32 <<< 12 |||
      (b2 &&& 63).toUInt32 <<< 6 ||| (b3 &&& 63).toUInt32).toNat =
      x * 262144 + y * 4096 + z * 64 + w := by
    simp only [uint32_toNat_or, uint32_toNat_shiftLeft, uint8_toNat_toUInt32, UInt8.and_toNat,
      e0, e1, e2, e3, lead4, cont1, cont3, cont5, UInt8.reduceToNat, UInt32.reduceToNat,
      Nat.reduceMod, Nat.shiftLeft_eq, Nat.reducePow]
    rw [Nat.mod_eq_of_lt (show x * 262144 < 4294967296 by omega),
      Nat.mod_eq_of_lt (show y * 4096 < 4294967296 by omega),
      Nat.mod_eq_of_lt (show z * 64 < 4294967296 by omega),
      or_eq_add_of_lt 18 (Nat.dvd_mul_left 262144 x) (show y * 4096 < 262144 by omega),
      or_eq_add_of_lt 12 (show 4096 ∣ x * 262144 + y * 4096 by omega)
        (show z * 64 < 4096 by omega),
      or_eq_add_of_lt 6 (show 64 ∣ x * 262144 + y * 4096 + z * 64 by omega) hw]
  simp only [String.utf8DecodeChar?, h0, h1, h2, h3, Option.bind_eq_bind, Option.some_bind,
    uint8_beq, UInt8.and_toNat, e0, e1, e2, e3, UInt8.reduceToNat, lead0, lead1, lead2, lead3,
    cont0, cont2, cont4, beq_self_eq_true, beq_iff_eq, if_false, if_true, Bool.and_self, guard,
    reduceIte, uint32_le_iff, uint32_lt_iff, value, UInt32.reduceToNat, Option.pure_def]
  rw [dif_pos valid, Option.map_some']
  exact congrArg some value

/-- A code point below `2 ^ 11` is its two payload digits again. -/
theorem digits_two {n : Nat} (hi : n < 2048) : n / 64 % 32 * 64 + n % 64 = n := by omega

theorem digits_three {n : Nat} (hi : n < 65536) :
    n / 4096 % 16 * 4096 + n / 64 % 64 * 64 + n % 64 = n := by
  omega

theorem digits_four {n : Nat} (hi : n < 0x110000) :
    n / 262144 % 8 * 262144 + n / 4096 % 64 * 4096 + n / 64 % 64 * 64 + n % 64 = n := by
  omega

theorem getElem?_byteArray (b : ByteArray) (k : Nat) : b[k]? = b.data.toList[k]? := by
  rcases b with ⟨⟨bytes⟩⟩
  simp only [getElem?, decidableGetElem?]
  split
  · rename_i inside
    simp only [ByteArray.size, Array.size] at inside
    simp [inside]
    rfl
  · rename_i outside
    simp only [ByteArray.size, Array.size] at outside
    rw [dif_neg outside]

/-- Reading at `i` the bytes `utf8EncodeChar` writes for `c` gives back `c`. -/
theorem decode_utf8EncodeChar (c : Char) {rest : List UInt8}
    (bytes : a.data.toList.drop i = String.utf8EncodeChar c ++ rest) :
    String.utf8DecodeChar? a i = some c := by
  have at_ (k : Nat) : a[i + k]? = (String.utf8EncodeChar c ++ rest)[k]? := by
    rw [getElem?_byteArray, ← bytes, List.getElem?_drop]
  have valid : c.val.toNat < 0xd800 ∨ 0xdfff < c.val.toNat ∧ c.val.toNat < 0x110000 := c.valid
  suffices decoded : (String.utf8DecodeChar? a i).map Char.toNat = some c.toNat by
    obtain ⟨d, found, same⟩ := Option.map_eq_some'.mp decoded
    rw [found, Char.ext (UInt32.toNat.inj same)]
  have toNat_eq : c.toNat = c.val.toNat := rfl
  simp only [String.utf8EncodeChar, uint32_le_iff, UInt32.reduceToNat] at at_
  split_ifs at at_ with one two three
  · have h0 := at_ 0
    simp only [List.singleton_append, List.getElem?_cons_zero, Nat.add_zero] at h0
    have byte : c.val.toUInt8.toNat = c.val.toNat := Nat.mod_eq_of_lt (by omega)
    rw [decode_one h0 (by omega), byte, toNat_eq]
  · have h0 := at_ 0
    have h1 := at_ 1
    simp only [List.cons_append, List.getElem?_cons_zero, List.getElem?_cons_succ,
      Nat.add_zero] at h0 h1
    have e0 := encodedByte_toNat c.val 6 31 192
    have e1 := lastByte_toNat c.val 63 128
    simp only [UInt32.reduceToNat, UInt8.reduceToNat, Nat.reduceMod, Nat.shiftRight_eq_div_pow,
      Nat.reducePow, mask_31,
      mask_63] at e0 e1
    have sum := digits_two (Nat.lt_succ_of_le two)
    rw [decode_two h0 h1 e0 e1 (Nat.mod_lt _ (by decide)) (Nat.mod_lt _ (by decide))
      (by rw [sum]; exact Nat.lt_of_not_le one), sum, toNat_eq]
  · have h0 := at_ 0
    have h1 := at_ 1
    have h2 := at_ 2
    simp only [List.cons_append, List.getElem?_cons_zero, List.getElem?_cons_succ,
      Nat.add_zero] at h0 h1 h2
    have e0 := encodedByte_toNat c.val 12 15 224
    have e1 := encodedByte_toNat c.val 6 63 128
    have e2 := lastByte_toNat c.val 63 128
    simp only [UInt32.reduceToNat, UInt8.reduceToNat, Nat.reduceMod, Nat.shiftRight_eq_div_pow,
      Nat.reducePow, mask_15,
      mask_63] at e0 e1 e2
    have sum := digits_three (Nat.lt_succ_of_le three)
    rw [decode_three h0 h1 h2 e0 e1 e2 (Nat.mod_lt _ (by decide)) (Nat.mod_lt _ (by decide))
      (Nat.mod_lt _ (by decide)) (by rw [sum]; exact Nat.lt_of_not_le two) (by rw [sum]; exact valid),
      sum, toNat_eq]
  · have h0 := at_ 0
    have h1 := at_ 1
    have h2 := at_ 2
    have h3 := at_ 3
    simp only [List.cons_append, List.getElem?_cons_zero, List.getElem?_cons_succ,
      Nat.add_zero] at h0 h1 h2 h3
    have e0 := encodedByte_toNat c.val 18 7 240
    have e1 := encodedByte_toNat c.val 12 63 128
    have e2 := encodedByte_toNat c.val 6 63 128
    have e3 := lastByte_toNat c.val 63 128
    simp only [UInt32.reduceToNat, UInt8.reduceToNat, Nat.reduceMod, Nat.shiftRight_eq_div_pow,
      Nat.reducePow, mask_7,
      mask_63] at e0 e1 e2 e3
    have below : c.val.toNat < 0x110000 := by omega
    have sum := digits_four below
    rw [decode_four h0 h1 h2 h3 e0 e1 e2 e3 (Nat.mod_lt _ (by decide)) (Nat.mod_lt _ (by decide))
      (Nat.mod_lt _ (by decide)) (Nat.mod_lt _ (by decide))
      (by rw [sum]; exact ⟨Nat.lt_of_not_le three, below⟩), sum, toNat_eq]

theorem drop_utf8EncodeChar {i : Nat} {c : Char} {cs : List Char}
    (bytes : a.data.toList.drop i = (c :: cs).flatMap String.utf8EncodeChar) :
    i < a.size ∧ a.data.toList.drop (i + c.utf8Size) = cs.flatMap String.utf8EncodeChar := by
  rw [List.flatMap_cons] at bytes
  constructor
  · have nonempty := congrArg List.length bytes
    simp only [List.length_drop, List.length_append, String.length_utf8EncodeChar] at nonempty
    have := c.utf8Size_pos
    simp only [ByteArray.size, Array.size]
    omega
  · rw [← List.drop_drop, bytes, List.drop_left' (String.length_utf8EncodeChar c)]

theorem drop_nil_size {i : Nat} (bytes : a.data.toList.drop i = []) : ¬ i < a.size := by
  have := congrArg List.length bytes
  simp only [List.length_drop, List.length_nil] at this
  simp only [ByteArray.size, Array.size]
  omega

/-- The validation loop accepts, from `i` on, bytes that encode a list of characters. -/
theorem validateUTF8_loop_encoded (cs : List Char) {i : Nat}
    (bytes : a.data.toList.drop i = cs.flatMap String.utf8EncodeChar) :
    String.validateUTF8.loop a i = some () := by
  induction cs generalizing i with
  | nil =>
    rw [String.validateUTF8.loop, if_neg (drop_nil_size bytes)]
    rfl
  | cons c cs ih =>
    obtain ⟨inside, next⟩ := drop_utf8EncodeChar bytes
    rw [List.flatMap_cons] at bytes
    rw [String.validateUTF8.loop, if_pos inside, decode_utf8EncodeChar c bytes]
    exact ih next

/-- The decoding loop appends, from `i` on, the characters the bytes encode. -/
theorem fromUTF8_loop_encoded (cs : List Char) {i : Nat} (acc : String)
    (bytes : a.data.toList.drop i = cs.flatMap String.utf8EncodeChar) :
    String.fromUTF8.loop a i acc = ⟨acc.data ++ cs⟩ := by
  induction cs generalizing i acc with
  | nil =>
    rw [String.fromUTF8.loop, if_neg (drop_nil_size bytes), List.append_nil]
  | cons c cs ih =>
    obtain ⟨inside, next⟩ := drop_utf8EncodeChar bytes
    rw [List.flatMap_cons] at bytes
    rw [String.fromUTF8.loop, if_pos inside]
    simp only [decode_utf8EncodeChar c bytes, Option.getD_some]
    rw [ih (acc.push c) next]
    cases acc
    simp [String.push]

/-- Decoding what `String.toUTF8` encodes gives the string back. -/
theorem fromUTF8_toUTF8 (s : String) : String.fromUTF8? s.toUTF8 = some s := by
  have bytes : s.toUTF8.data.toList.drop 0 = s.data.flatMap String.utf8EncodeChar := rfl
  have valid : String.validateUTF8 s.toUTF8 := by
    simp [String.validateUTF8, validateUTF8_loop_encoded s.data bytes]
  rw [String.fromUTF8?, dif_pos valid, String.fromUTF8, fromUTF8_loop_encoded s.data "" bytes]
  rfl

theorem utf8Size_eq (c : Char) : c.utf8Size = if c.val.toNat ≤ 127 then 1
    else if c.val.toNat ≤ 2047 then 2 else if c.val.toNat ≤ 65535 then 3 else 4 := by
  simp only [Char.utf8Size, uint32_le_iff]
  rfl

/-- A digit below `1 <<< k` or-ed onto a lead that is a multiple of `1 <<< k` is added to it. -/
theorem or_lead {x lead : Nat} (k : Nat) (below : x < 1 <<< k) (aligned : 1 <<< k ∣ lead) :
    x ||| lead = lead + x := by
  rw [Nat.or_comm]
  exact or_eq_add_of_lt k aligned below

/-- `Utf8Error`: how many leading bytes are valid UTF-8, and the length of the invalid sequence
after them, `None` when the bytes end inside it. -/
structure Utf8Error where
  validUpTo : Nat
  errorLen : Option UInt8
  deriving DecidableEq, Repr

/-- `utf8_char_width`: the length of the sequence a first byte starts, 0 when it starts none. -/
def utf8CharWidth (b : UInt8) : Nat :=
  if b.toNat < 0x80 then 1 else if b.toNat < 0xC2 then 0 else if b.toNat < 0xE0 then 2
  else if b.toNat < 0xF0 then 3 else if b.toNat < 0xF5 then 4 else 0

section Width

variable {b : UInt8}

theorem utf8CharWidth_one (hi : b.toNat < 0x80) : utf8CharWidth b = 1 := if_pos hi

theorem utf8CharWidth_two (lo : 0xC2 ≤ b.toNat) (hi : b.toNat < 0xE0) : utf8CharWidth b = 2 := by
  rw [utf8CharWidth, if_neg (by omega), if_neg (by omega), if_pos hi]

theorem utf8CharWidth_three (lo : 0xE0 ≤ b.toNat) (hi : b.toNat < 0xF0) : utf8CharWidth b = 3 := by
  rw [utf8CharWidth, if_neg (by omega), if_neg (by omega), if_neg (by omega), if_pos hi]

theorem utf8CharWidth_four (lo : 0xF0 ≤ b.toNat) (hi : b.toNat < 0xF5) : utf8CharWidth b = 4 := by
  rw [utf8CharWidth, if_neg (by omega), if_neg (by omega), if_neg (by omega), if_neg (by omega),
    if_pos hi]

end Width

/-- A continuation byte, `10xxxxxx`, which `run_utf8_validation` tests as `b as i8 < -64`. -/
def isContinuation (b : UInt8) : Bool := 0x80 ≤ b.toNat && b.toNat < 0xC0

/-- The second bytes `run_utf8_validation` accepts after the first byte of a 3- or 4-byte
sequence: no overlong form, no surrogate, nothing past U+10FFFF. -/
def secondByteOk (first second : UInt8) : Bool :=
  if first.toNat = 0xE0 then 0xA0 ≤ second.toNat && second.toNat < 0xC0
  else if first.toNat = 0xED then 0x80 ≤ second.toNat && second.toNat < 0xA0
  else if first.toNat = 0xF0 then 0x90 ≤ second.toNat && second.toNat < 0xC0
  else if first.toNat = 0xF4 then 0x80 ≤ second.toNat && second.toNat < 0x90
  else isContinuation second

/-- `run_utf8_validation` of core, from the byte at `offset`: the error of the first sequence that
is not UTF-8. Its ASCII fast path only skips bytes the loop accepts one by one. -/
def runUtf8Validation (offset : Nat) : List UInt8 → Except Utf8Error Unit
  | [] => .ok ()
  | first :: rest =>
    match utf8CharWidth first, rest with
    | 1, rest => runUtf8Validation (offset + 1) rest
    | 2, b1 :: rest =>
      if isContinuation b1 then runUtf8Validation (offset + 2) rest else .error ⟨offset, some 1⟩
    | 3, b1 :: rest =>
      if !secondByteOk first b1 then .error ⟨offset, some 1⟩
      else match rest with
        | [] => .error ⟨offset, none⟩
        | b2 :: rest =>
          if isContinuation b2 then runUtf8Validation (offset + 3) rest else .error ⟨offset, some 2⟩
    | 4, b1 :: rest =>
      if !secondByteOk first b1 then .error ⟨offset, some 1⟩
      else match rest with
        | [] => .error ⟨offset, none⟩
        | b2 :: rest =>
          if !isContinuation b2 then .error ⟨offset, some 2⟩
          else match rest with
            | [] => .error ⟨offset, none⟩
            | b3 :: rest =>
              if isContinuation b3 then runUtf8Validation (offset + 4) rest
              else .error ⟨offset, some 3⟩
    | 2, [] | 3, [] | 4, [] => .error ⟨offset, none⟩
    | _, _ => .error ⟨offset, some 1⟩

section Validation

variable {offset : Nat} {b0 b1 b2 b3 : UInt8} {rest : List UInt8}

theorem runUtf8Validation_one (width : utf8CharWidth b0 = 1) :
    runUtf8Validation offset (b0 :: rest) = runUtf8Validation (offset + 1) rest := by
  simp [runUtf8Validation, width]

theorem runUtf8Validation_two (width : utf8CharWidth b0 = 2) (cont : isContinuation b1 = true) :
    runUtf8Validation offset (b0 :: b1 :: rest) = runUtf8Validation (offset + 2) rest := by
  simp [runUtf8Validation, width, cont]

theorem runUtf8Validation_three (width : utf8CharWidth b0 = 3) (second : secondByteOk b0 b1 = true)
    (cont : isContinuation b2 = true) :
    runUtf8Validation offset (b0 :: b1 :: b2 :: rest) = runUtf8Validation (offset + 3) rest := by
  simp [runUtf8Validation, width, second, cont]

theorem runUtf8Validation_four (width : utf8CharWidth b0 = 4) (second : secondByteOk b0 b1 = true)
    (cont2 : isContinuation b2 = true) (cont3 : isContinuation b3 = true) :
    runUtf8Validation offset (b0 :: b1 :: b2 :: b3 :: rest) = runUtf8Validation (offset + 4) rest := by
  simp [runUtf8Validation, width, second, cont2, cont3]

end Validation

theorem isContinuation_of_digit {b : UInt8} {y : Nat} (byte : b.toNat = 128 + y) (digit : y < 64) :
    isContinuation b = true := by
  simp only [isContinuation, byte, Bool.and_eq_true, decide_eq_true_eq]
  omega

/-- The byte `(v >>> s).toUInt8 &&& 63 ||| 128` the encoder writes after the first: a
continuation byte holding six bits of `v`. -/
theorem continuationByte_toNat (v s : UInt32) :
    ((v >>> s).toUInt8 &&& 63 ||| 128).toNat = 128 + v.toNat >>> (s.toNat % 32) % 64 := by
  simp only [encodedByte_toNat, UInt8.reduceToNat, mask_63]
  exact or_lead 6 (Nat.mod_lt _ (by decide)) ⟨2, rfl⟩

theorem lastContinuationByte_toNat (v : UInt32) :
    (v.toUInt8 &&& 63 ||| 128).toNat = 128 + v.toNat % 64 := by
  simp only [lastByte_toNat, UInt8.reduceToNat, mask_63]
  exact or_lead 6 (Nat.mod_lt _ (by decide)) ⟨2, rfl⟩

/-- `run_utf8_validation` accepts the bytes `utf8EncodeChar` writes for a character and goes on
after them. -/
theorem runUtf8Validation_utf8EncodeChar (c : Char) (offset : Nat) (rest : List UInt8) :
    runUtf8Validation offset (String.utf8EncodeChar c ++ rest) =
      runUtf8Validation (offset + c.utf8Size) rest := by
  have valid : c.val.toNat < 0xd800 ∨ 0xdfff < c.val.toNat ∧ c.val.toNat < 0x110000 := c.valid
  have e6 := continuationByte_toNat c.val 6
  have e12 := continuationByte_toNat c.val 12
  have e0 := lastContinuationByte_toNat c.val
  simp only [UInt32.reduceToNat, Nat.reduceMod, Nat.shiftRight_eq_div_pow, Nat.reducePow] at e6 e12
  have cont := fun {b : UInt8} {y : Nat} (byte : b.toNat = 128 + y % 64) =>
    isContinuation_of_digit byte (Nat.mod_lt y (by decide))
  rw [utf8Size_eq]
  unfold String.utf8EncodeChar
  simp only [uint32_le_iff, UInt32.reduceToNat]
  split_ifs with one two three
  · have ascii : c.val.toUInt8.toNat < 0x80 := show c.val.toNat % 256 < 0x80 by omega
    rw [List.singleton_append, runUtf8Validation_one (utf8CharWidth_one ascii)]
  · have lead : ((c.val >>> 6).toUInt8 &&& 31 ||| 192).toNat = 192 + c.val.toNat / 64 % 32 := by
      simp only [encodedByte_toNat, UInt8.reduceToNat, UInt32.reduceToNat, Nat.reduceMod, mask_31,
        Nat.shiftRight_eq_div_pow, Nat.reducePow]
      exact or_lead 5 (Nat.mod_lt _ (by decide)) ⟨6, rfl⟩
    rw [List.cons_append, List.singleton_append,
      runUtf8Validation_two (utf8CharWidth_two (by omega) (by omega)) (cont e0)]
  · have lead : ((c.val >>> 12).toUInt8 &&& 15 ||| 224).toNat = 224 + c.val.toNat / 4096 % 16 := by
      simp only [encodedByte_toNat, UInt8.reduceToNat, UInt32.reduceToNat, Nat.reduceMod, mask_15,
        Nat.shiftRight_eq_div_pow, Nat.reducePow]
      exact or_lead 4 (Nat.mod_lt _ (by decide)) ⟨14, rfl⟩
    rw [List.cons_append, List.cons_append, List.singleton_append,
      runUtf8Validation_three (utf8CharWidth_three (by omega) (by omega)) _ (cont e0)]
    simp only [secondByteOk, isContinuation, lead, e6]
    split_ifs <;> simp only [Bool.and_eq_true, decide_eq_true_eq] <;> omega
  · have lead : ((c.val >>> 18).toUInt8 &&& 7 ||| 240).toNat = 240 + c.val.toNat / 262144 % 8 := by
      simp only [encodedByte_toNat, UInt8.reduceToNat, UInt32.reduceToNat, Nat.reduceMod, mask_7,
        Nat.shiftRight_eq_div_pow, Nat.reducePow]
      exact or_lead 3 (Nat.mod_lt _ (by decide)) ⟨30, rfl⟩
    rw [List.cons_append, List.cons_append, List.cons_append, List.singleton_append,
      runUtf8Validation_four (utf8CharWidth_four (by omega) (by omega)) _ (cont e6) (cont e0)]
    simp only [secondByteOk, isContinuation, lead, e12]
    split_ifs <;> simp only [Bool.and_eq_true, decide_eq_true_eq] <;> omega

/-- `run_utf8_validation` accepts every encoded string. -/
theorem runUtf8Validation_encoded (cs : List Char) (offset : Nat) :
    runUtf8Validation offset (cs.flatMap String.utf8EncodeChar) = .ok () := by
  induction cs generalizing offset with
  | nil => rfl
  | cons c cs ih => rw [List.flatMap_cons, runUtf8Validation_utf8EncodeChar, ih]

end Utf8

/-- `FromUtf8Error`: the bytes `String::from_utf8` rejected, and why. -/
structure FromUtf8Error where
  bytes : List UInt8
  error : Utf8Error

/-- An `Option<u8>` as `{:?}` prints it. -/
def optionDebug (v : Option UInt8) : String :=
  match v with
  | some n => "Some(" ++ toString n ++ ")"
  | none => "None"

/-- The derived `Debug` text of a `FromUtf8Error`, which `{e:?}` prints. -/
def FromUtf8Error.debug (e : FromUtf8Error) : String :=
  "FromUtf8Error \x7b bytes: " ++ toString e.bytes ++ ", error: Utf8Error \x7b valid_up_to: " ++
    toString e.error.validUpTo ++ ", error_len: " ++ optionDebug e.error.errorLen ++ " \x7d \x7d"

/-- `String::from_utf8`: once `run_utf8_validation` accepts the bytes, Lean's `String.fromUTF8!`
decodes them, as `from_utf8_unchecked` does. -/
def stringFromUtf8 (vec : List UInt8) : Except FromUtf8Error String :=
  match runUtf8Validation 0 vec with
  | .error error => .error ⟨vec, error⟩
  | .ok () => .ok (String.fromUTF8! ⟨vec.toArray⟩)

/-- `String::from_utf8` gives back every string from its bytes. -/
theorem stringFromUtf8_toUTF8 (s : String) : stringFromUtf8 s.toUTF8.data.toList = .ok s := by
  have decoded := fromUTF8_toUTF8 s
  unfold String.fromUTF8? at decoded
  split at decoded
  · rename_i valid
    rw [stringFromUtf8, show runUtf8Validation 0 s.toUTF8.data.toList = .ok () from
      runUtf8Validation_encoded s.data 0, Array.toArray_toList]
    show Except.ok (String.fromUTF8! s.toUTF8) = _
    rw [String.fromUTF8!, dif_pos valid, Option.some.inj decoded]
  · cases decoded

/-- The URI scheme glib puts before a certificate's file path. -/
def GLIB_FILE_PATH_PREFIX : String := "file://"

namespace NmSetting8021X

/-- `file_path_to_glib_bytes`: the path as a `file://` URI ending in a NUL, in UTF-8. -/
def filePathToGlibBytes (filePath : String) : List UInt8 :=
  (GLIB_FILE_PATH_PREFIX ++ filePath ++ "\x00").toUTF8.data.toList

/-- `glib_bytes_to_file_path`: the bytes as UTF-8, every trailing NUL trimmed, then the
`file://` prefix drained; it is ASCII, so its length in bytes is its length in characters. -/
def glibBytesToFilePath (value : List UInt8) : Except NmError String :=
  match stringFromUtf8 value with
  | .ok decoded =>
    let filePath : String := ⟨decoded.data.rdropWhile (· == Char.ofNat 0)⟩
    if GLIB_FILE_PATH_PREFIX.data.isPrefixOf filePath.data then
      .ok ⟨filePath.data.drop GLIB_FILE_PATH_PREFIX.length⟩
    else
      .error (.new .invalidArgument
        ("Specified glib bytes is started with " ++ GLIB_FILE_PATH_PREFIX ++ ": " ++
          toString value))
  | .error e =>
    .error (.new .invalidArgument
      ("Failed to parse glib bytes to UTF-8 string: " ++ toString value ++ ": " ++ e.debug))

example : glibBytesToFilePath [0x66, 0xC3, 0x28] = .error (.new .invalidArgument
    ("Failed to parse glib bytes to UTF-8 string: [102, 195, 40]: FromUtf8Error \x7b " ++
      "bytes: [102, 195, 40], error: Utf8Error \x7b valid_up_to: 1, error_len: Some(1) \x7d \x7d")) :=
  rfl

/-- Bytes that decode to `file://`, the path, then only NULs give the path back. -/
theorem glibBytesToFilePath_of_decoded {value : List UInt8} {decoded filePath : String}
    (utf8 : stringFromUtf8 value = .ok decoded)
    (trimmed : decoded.data.rdropWhile (· == Char.ofNat 0) =
      GLIB_FILE_PATH_PREFIX.data ++ filePath.data) :
    glibBytesToFilePath value = .ok filePath := by
  simp only [glibBytesToFilePath, utf8, trimmed, List.isPrefixOf_iff_prefix, List.prefix_append,
    if_true]
  rw [show GLIB_FILE_PATH_PREFIX.length = GLIB_FILE_PATH_PREFIX.data.length from rfl,
    List.drop_left]

/-- A path whose last character is not a NUL comes back from its glib bytes: the one NUL
`file_path_to_glib_bytes` appends is the only one trimmed. -/
theorem glibBytesToFilePath_filePathToGlibBytes (filePath : String)
    (lastNotNul : filePath.data.getLast? ≠ some (Char.ofNat 0)) :
    glibBytesToFilePath (filePathToGlibBytes filePath) = .ok filePath := by
  have kept : (GLIB_FILE_PATH_PREFIX.data ++ filePath.data).rdropWhile (· == Char.ofNat 0) =
      GLIB_FILE_PATH_PREFIX.data ++ filePath.data := by
    rcases List.eq_nil_or_concat filePath.data with empty | ⟨init, last, split⟩
    · rw [empty, List.append_nil]
      decide
    · have notNul : ¬(last == Char.ofNat 0) = true := by
        simpa [split] using lastNotNul
      rw [split, List.concat_eq_append, ← List.append_assoc, List.rdropWhile_concat_neg (· == Char.ofNat 0) _ last notNul]
  have trimmed : (GLIB_FILE_PATH_PREFIX ++ filePath ++ "\x00").data.rdropWhile
      (· == Char.ofNat 0) = GLIB_FILE_PATH_PREFIX.data ++ filePath.data := by
    rw [String.data_append, String.data_append, show "\x00".data = [Char.ofNat 0] from rfl,
      List.rdropWhile_concat_pos (· == Char.ofNat 0) _ (Char.ofNat 0) rfl, kept]
  exact glibBytesToFilePath_of_decoded (stringFromUtf8_toUTF8 _) trimmed

theorem glibBytesToFilePath_filePathToGlibBytes_cert :
    "/etc/pki/ca.pem".data.getLast? ≠ some (Char.ofNat 0) ∧
      glibBytesToFilePath (filePathToGlibBytes "/etc/pki/ca.pem") = .ok "/etc/pki/ca.pem" :=
  ⟨by decide, glibBytesToFilePath_filePathToGlibBytes _ (by decide)⟩

end NmSetting8021X

end Nmstate
