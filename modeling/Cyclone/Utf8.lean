import Mathlib.Algebra.Group.Nat.Basic
import Mathlib.Tactic.SplitIfs
import Mathlib.Tactic.NthRewrite

/-! `str.encode()` and `bytes.decode()` are modelled by core's `String.toUTF8` and
`String.fromUTF8?`. Lean 4.14 proves no round trip between them; this module does. The
decoder's four branches are checked against the encoder's four per character: the tests on the
lead and continuation bytes hold for every byte (decided over all 256), and the bits the decoder
puts together are the code point (as numbers). The validating and the decoding loop then run
over the bytes one character at a time. -/
namespace Cyclone

theorem uint8_forall {P : UInt8 → Prop} (each : ∀ n < 256, P (UInt8.ofNat n)) : ∀ x, P x := fun x => by
  have := each x.toNat x.toNat_lt_size
  rwa [show UInt8.ofNat x.toNat = x from UInt8.toNat.inj (by simp [UInt8.toNat, UInt8.ofNat])] at this

/-! ### What the decoder reads from the bytes the encoder writes -/

section Bytes

set_option maxRecDepth 4096

theorem ascii_byte : ∀ x : UInt8, x.toNat < 128 → (x &&& 0x80 == 0) = true := uint8_forall (by decide)

theorem lead2_byte : ∀ x : UInt8, ((x &&& 0x1f ||| 0xc0) &&& 0x80 == 0) = false ∧
    ((x &&& 0x1f ||| 0xc0) &&& 0xe0 == 0xc0) = true ∧
    ((x &&& 0x1f ||| 0xc0) &&& 0x1f).toNat = x.toNat % 32 := uint8_forall (by decide)

theorem lead3_byte : ∀ x : UInt8, ((x &&& 0x0f ||| 0xe0) &&& 0x80 == 0) = false ∧
    ((x &&& 0x0f ||| 0xe0) &&& 0xe0 == 0xc0) = false ∧ ((x &&& 0x0f ||| 0xe0) &&& 0xf0 == 0xe0) = true ∧
    ((x &&& 0x0f ||| 0xe0) &&& 0x0f).toNat = x.toNat % 16 := uint8_forall (by decide)

theorem lead4_byte : ∀ x : UInt8, ((x &&& 0x07 ||| 0xf0) &&& 0x80 == 0) = false ∧
    ((x &&& 0x07 ||| 0xf0) &&& 0xe0 == 0xc0) = false ∧ ((x &&& 0x07 ||| 0xf0) &&& 0xf0 == 0xe0) = false ∧
    ((x &&& 0x07 ||| 0xf0) &&& 0xf8 == 0xf0) = true ∧
    ((x &&& 0x07 ||| 0xf0) &&& 0x07).toNat = x.toNat % 8 := uint8_forall (by decide)

theorem cont_byte : ∀ x : UInt8, ((x &&& 0x3f ||| 0x80) &&& 0xc0 == 0x80) = true ∧
    ((x &&& 0x3f ||| 0x80) &&& 0x3f).toNat = x.toNat % 64 := uint8_forall (by decide)

end Bytes

/-! ### Machine words as numbers -/

theorem UInt32.toNat_shiftLeft (a k : UInt32) : (a <<< k).toNat = a.toNat <<< (k.toNat % 32) % 2 ^ 32 := by
  show (a.toBitVec <<< (k % 32).toBitVec).toNat = _
  rw [BitVec.shiftLeft_eq', BitVec.toNat_shiftLeft]
  rfl

theorem UInt32.toNat_shiftRight (a k : UInt32) : (a >>> k).toNat = a.toNat >>> (k.toNat % 32) := by
  show (a.toBitVec >>> (k % 32).toBitVec).toNat = _
  rw [BitVec.ushiftRight_eq', BitVec.toNat_ushiftRight]
  rfl

theorem UInt32.toNat_or (a b : UInt32) : (a ||| b).toNat = a.toNat ||| b.toNat := rfl

theorem UInt32.le_iff_toNat_le (a b : UInt32) : a ≤ b ↔ a.toNat ≤ b.toNat := .rfl

theorem UInt32.lt_iff_toNat_lt (a b : UInt32) : a < b ↔ a.toNat < b.toNat := .rfl

theorem UInt8.toNat_toUInt32 (a : UInt8) : a.toUInt32.toNat = a.toNat := rfl

theorem UInt32.toNat_toUInt8 (a : UInt32) : a.toUInt8.toNat = a.toNat % 256 := by
  simp [UInt32.toUInt8, Nat.toUInt8, UInt8.toNat, UInt8.ofNat]

/-- Fields that do not overlap: `|||` is `+`. -/
theorem or_eq_add (m b k : Nat) (low : b < 2 ^ k) (aligned : m % 2 ^ k = 0) : m ||| b = m + b := by
  obtain ⟨q, rfl⟩ : ∃ q, m = 2 ^ k * q :=
    ⟨m / 2 ^ k, (Nat.mul_div_cancel' (Nat.dvd_of_mod_eq_zero aligned)).symm⟩
  exact (Nat.mul_add_lt_is_or low q).symm

/-! ### One character -/

theorem one_byte_value (v : UInt32) (hi : v.toNat < 0x80) : v.toUInt8.toUInt32 = v :=
  UInt32.toNat.inj (by rw [UInt8.toNat_toUInt32, UInt32.toNat_toUInt8]; omega)

theorem two_bytes_value (v : UInt32) (hi : v.toNat < 0x800) :
    (((v >>> 6).toUInt8 &&& 0x1f ||| 0xc0) &&& 0x1f).toUInt32 <<< 6 |||
      ((v.toUInt8 &&& 0x3f ||| 0x80) &&& 0x3f).toUInt32 = v := by
  apply UInt32.toNat.inj
  simp only [UInt32.toNat_or, UInt32.toNat_shiftLeft, UInt8.toNat_toUInt32, (lead2_byte _).2.2, (cont_byte _).2,
    UInt32.toNat_toUInt8, UInt32.toNat_shiftRight, Nat.shiftLeft_eq, Nat.shiftRight_eq_div_pow,
    UInt32.reduceToNat, Nat.reduceMod, Nat.reducePow]
  rw [or_eq_add _ _ 6 (by omega) (by omega)]
  omega

theorem three_bytes_value (v : UInt32) (hi : v.toNat < 0x10000) :
    (((v >>> 12).toUInt8 &&& 0x0f ||| 0xe0) &&& 0x0f).toUInt32 <<< 12 |||
      (((v >>> 6).toUInt8 &&& 0x3f ||| 0x80) &&& 0x3f).toUInt32 <<< 6 |||
      ((v.toUInt8 &&& 0x3f ||| 0x80) &&& 0x3f).toUInt32 = v := by
  apply UInt32.toNat.inj
  simp only [UInt32.toNat_or, UInt32.toNat_shiftLeft, UInt8.toNat_toUInt32, (lead3_byte _).2.2.2, (cont_byte _).2,
    UInt32.toNat_toUInt8, UInt32.toNat_shiftRight, Nat.shiftLeft_eq, Nat.shiftRight_eq_div_pow,
    UInt32.reduceToNat, Nat.reduceMod, Nat.reducePow]
  -- `|||` groups to the left: join the two high fields first
  nth_rewrite 2 [or_eq_add _ _ 12 (by omega) (by omega)]
  rw [or_eq_add _ _ 6 (by omega) (by omega)]
  omega

theorem four_bytes_value (v : UInt32) (hi : v.toNat < 0x110000) :
    (((v >>> 18).toUInt8 &&& 0x07 ||| 0xf0) &&& 0x07).toUInt32 <<< 18 |||
      (((v >>> 12).toUInt8 &&& 0x3f ||| 0x80) &&& 0x3f).toUInt32 <<< 12 |||
      (((v >>> 6).toUInt8 &&& 0x3f ||| 0x80) &&& 0x3f).toUInt32 <<< 6 |||
      ((v.toUInt8 &&& 0x3f ||| 0x80) &&& 0x3f).toUInt32 = v := by
  apply UInt32.toNat.inj
  simp only [UInt32.toNat_or, UInt32.toNat_shiftLeft, UInt8.toNat_toUInt32, (lead4_byte _).2.2.2.2, (cont_byte _).2,
    UInt32.toNat_toUInt8, UInt32.toNat_shiftRight, Nat.shiftLeft_eq, Nat.shiftRight_eq_div_pow,
    UInt32.reduceToNat, Nat.reduceMod, Nat.reducePow]
  nth_rewrite 3 [or_eq_add _ _ 18 (by omega) (by omega)]
  nth_rewrite 2 [or_eq_add _ _ 12 (by omega) (by omega)]
  rw [or_eq_add _ _ 6 (by omega) (by omega)]
  omega

theorem getElem?_mk_append (pre rest : List UInt8) (k : Nat) :
    (ByteArray.mk ⟨pre ++ rest⟩)[pre.length + k]? = rest[k]? := by
  show (pre ++ rest)[pre.length + k]? = _
  rw [List.getElem?_append_right (by omega), Nat.add_sub_cancel_left]

theorem getElem?_mk_append_length (pre rest : List UInt8) :
    (ByteArray.mk ⟨pre ++ rest⟩)[pre.length]? = rest[0]? :=
  getElem?_mk_append pre rest 0

/-- The decoder reads back the character the encoder wrote, whatever stands before and after it. -/
theorem utf8DecodeChar?_utf8EncodeChar (c : Char) (pre post : List UInt8) :
    String.utf8DecodeChar? ⟨⟨pre ++ String.utf8EncodeChar c ++ post⟩⟩ pre.length = some c := by
  have valid : c.val.toNat < 0xd800 ∨ 0xdfff < c.val.toNat ∧ c.val.toNat < 0x110000 := c.valid
  simp only [String.utf8EncodeChar, UInt32.le_iff_toNat_le, UInt32.reduceToNat]
  split_ifs with one two three
  all_goals
    simp only [List.append_assoc, List.cons_append, List.nil_append]
    simp only [String.utf8DecodeChar?, getElem?_mk_append, getElem?_mk_append_length]
    simp only [List.getElem?_cons_zero, List.getElem?_cons_succ, Option.bind_eq_bind, Option.some_bind]
  · simp only [ascii_byte c.val.toUInt8 (by rw [UInt32.toNat_toUInt8]; omega), if_true,
      one_byte_value _ (by omega : c.val.toNat < 0x80)]
  · simp only [lead2_byte, cont_byte, Bool.false_eq_true, if_false, if_true,
      two_bytes_value _ (by omega : c.val.toNat < 0x800), guard, UInt32.le_iff_toNat_le,
      UInt32.lt_iff_toNat_lt, UInt32.reduceToNat]
    rw [if_pos (by omega), dif_pos (by omega)]
    rfl
  · simp only [lead3_byte, cont_byte, Bool.false_eq_true, if_false, if_true, Bool.and_self,
      three_bytes_value _ (by omega : c.val.toNat < 0x10000), guard, UInt32.le_iff_toNat_le,
      UInt32.lt_iff_toNat_lt, UInt32.reduceToNat]
    rw [if_pos (by omega), dif_pos valid]
    rfl
  · simp only [lead4_byte, cont_byte, Bool.false_eq_true, if_false, if_true, Bool.and_self,
      four_bytes_value _ (by omega : c.val.toNat < 0x110000), guard, UInt32.le_iff_toNat_le,
      UInt32.lt_iff_toNat_lt, UInt32.reduceToNat]
    rw [dif_pos (by omega)]
    rfl

/-! ### Whole strings -/

theorem validateUTF8_loop (pre : List UInt8) (cs : List Char) :
    String.validateUTF8.loop ⟨⟨pre ++ cs.flatMap String.utf8EncodeChar⟩⟩ pre.length = some () := by
  induction cs generalizing pre with
  | nil =>
    rw [String.validateUTF8.loop, if_neg (by simp [ByteArray.size])]
    rfl
  | cons c cs ih =>
    have next := ih (pre ++ String.utf8EncodeChar c)
    rw [List.append_assoc, List.length_append, String.length_utf8EncodeChar] at next
    rw [String.validateUTF8.loop, if_pos (by simp [ByteArray.size]; have := c.utf8Size_pos; omega),
      List.flatMap_cons, ← List.append_assoc, utf8DecodeChar?_utf8EncodeChar, List.append_assoc]
    exact next

theorem fromUTF8_loop (pre : List UInt8) (cs : List Char) (acc : String) :
    String.fromUTF8.loop ⟨⟨pre ++ cs.flatMap String.utf8EncodeChar⟩⟩ pre.length acc = ⟨acc.data ++ cs⟩ := by
  induction cs generalizing pre acc with
  | nil => rw [String.fromUTF8.loop, if_neg (by simp [ByteArray.size]), List.append_nil]
  | cons c cs ih =>
    have next := ih (pre ++ String.utf8EncodeChar c) (acc.push c)
    rw [List.append_assoc, List.length_append, String.length_utf8EncodeChar] at next
    rw [String.fromUTF8.loop, if_pos (by simp [ByteArray.size]; have := c.utf8Size_pos; omega),
      List.flatMap_cons, ← List.append_assoc, utf8DecodeChar?_utf8EncodeChar, List.append_assoc]
    simpa [String.push] using next

/-- Decoding the UTF-8 bytes of a string gives the string back. -/
theorem fromUTF8?_toUTF8 (s : String) : String.fromUTF8? s.toUTF8 = some s := by
  have checked := validateUTF8_loop [] s.data
  have decoded := fromUTF8_loop [] s.data ""
  simp only [List.nil_append, List.length_nil] at checked decoded
  have valid : String.validateUTF8 s.toUTF8 := by simp [String.validateUTF8, String.toUTF8, checked]
  rw [String.fromUTF8?, dif_pos valid, String.fromUTF8]
  exact congrArg some decoded

end Cyclone
