import CalendarSeries.Text.Utf8
import Mathlib.Data.List.Basic
/-!
Texts read back from the bytes that encode them.
-/
namespace CalendarSeries.Text

/-- The bytes of a text. -/
def utf8 (text : String) : List UInt8 :=
  text.toUTF8.data.toList

theorem utf8_ofList (cs : List Char) :
    utf8 (String.ofList cs) = cs.flatMap String.utf8EncodeChar := by
  rw [utf8, String.toUTF8, String.toByteArray_ofList, List.utf8Encode, List.data_toByteArray]

theorem toNat_ofNat {n : Nat} (byte : n < 256) : (UInt8.ofNat n).toNat = n :=
  Nat.mod_eq_of_lt byte

theorem continuation_eq {n : Nat} (bits : n < 64) : continuation (n + 128) = some n := by
  simp [continuation]
  omega

theorem scalar_toNat {c : Char} {least : Nat} (above : least ≤ c.toNat) :
    scalar least c.toNat = some c := by
  have valid : c.toNat < 0xD800 ∨ 0xDFFF < c.toNat ∧ c.toNat < 0x110000 := c.valid
  rw [scalar, if_pos (by simp; omega), Char.ofNat_toNat]

/-- The bytes of a character as numbers. -/
theorem toNat_utf8EncodeChar (c : Char) :
    (String.utf8EncodeChar c).map UInt8.toNat =
      if c.toNat ≤ 127 then [c.toNat]
      else if c.toNat ≤ 2047 then [c.toNat / 64 % 32 + 192, c.toNat % 64 + 128]
      else if c.toNat ≤ 65535 then
        [c.toNat / 4096 % 16 + 224, c.toNat / 64 % 64 + 128, c.toNat % 64 + 128]
      else
        [c.toNat / 262144 % 8 + 240, c.toNat / 4096 % 64 + 128, c.toNat / 64 % 64 + 128,
          c.toNat % 64 + 128] := by
  have same : c.val.toNat = c.toNat := rfl
  simp only [String.utf8EncodeChar, same]
  split
  · rw [List.map_singleton, toNat_ofNat (by omega)]
  split
  · simp only [List.map_cons, List.map_nil]
    rw [toNat_ofNat (by omega), toNat_ofNat (by omega)]
  split
  · simp only [List.map_cons, List.map_nil]
    rw [toNat_ofNat (by omega), toNat_ofNat (by omega), toNat_ofNat (by omega)]
  · simp only [List.map_cons, List.map_nil]
    rw [toNat_ofNat (by omega), toNat_ofNat (by omega), toNat_ofNat (by omega),
      toNat_ofNat (by omega)]

/-- Each character is taken off the front. -/
theorem decodeUtf8_encoded (c : Char) (rest : List Nat) :
    decodeUtf8 ((String.utf8EncodeChar c).map UInt8.toNat ++ rest) =
      (decodeUtf8 rest).map (c :: ·) := by
  have valid : c.toNat < 0xD800 ∨ 0xDFFF < c.toNat ∧ c.toNat < 0x110000 := c.valid
  have bits (n : Nat) : continuation (n % 64 + 128) = some (n % 64) :=
    continuation_eq (Nat.mod_lt _ (by decide))
  rw [toNat_utf8EncodeChar]
  split
  · rename_i one
    conv_lhs => rw [List.singleton_append, decodeUtf8.eq_def]
    simp only
    rw [if_pos (by omega), Char.ofNat_toNat]
  split
  · rename_i two
    have whole : (c.toNat / 64 % 32 + 192 - 0xC0) * 64 + c.toNat % 64 = c.toNat := by omega
    conv_lhs => rw [List.cons_append, List.singleton_append, decodeUtf8.eq_def]
    simp only [bits, bind, Option.bind]
    rw [if_neg (by omega), if_pos (by simp; omega), whole, scalar_toNat (by omega)]
  split
  · rename_i three
    have whole : ((c.toNat / 4096 % 16 + 224 - 0xE0) * 64 + c.toNat / 64 % 64) * 64 +
        c.toNat % 64 = c.toNat := by omega
    conv_lhs =>
      rw [List.cons_append, List.cons_append, List.singleton_append, decodeUtf8.eq_def]
    simp only [bits, bind, Option.bind]
    rw [if_neg (by omega), if_neg (by simp), if_pos (by simp; omega), whole,
      scalar_toNat (by omega)]
  · rename_i four
    have whole : (((c.toNat / 262144 % 8 + 240 - 0xF0) * 64 + c.toNat / 4096 % 64) * 64 +
        c.toNat / 64 % 64) * 64 + c.toNat % 64 = c.toNat := by omega
    conv_lhs =>
      rw [List.cons_append, List.cons_append, List.cons_append, List.singleton_append,
        decodeUtf8.eq_def]
    simp only [bits, bind, Option.bind]
    rw [if_neg (by omega), if_neg (by simp), if_neg (by simp),
      if_pos (by simp; omega), whole, scalar_toNat (by omega)]

/-- What the bytes of a text encode is the text. -/
theorem decodeUtf8_utf8 (cs : List Char) :
    decodeUtf8 ((utf8 (String.ofList cs)).map UInt8.toNat) = some cs := by
  rw [utf8_ofList]
  induction cs with
  | nil => rfl
  | cons c cs ih =>
    rw [List.flatMap_cons, List.map_append, decodeUtf8_encoded, ih]
    rfl

end CalendarSeries.Text
