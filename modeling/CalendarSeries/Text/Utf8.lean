/-!
Reading UTF-8: bytes to characters, refusing stray and missing continuation bytes, overlong
forms, surrogates and values above U+10FFFF.
-/
namespace CalendarSeries.Text

/-- The low six bits of a continuation byte. -/
def continuation (byte : Nat) : Option Nat :=
  if 0x80 ≤ byte && byte < 0xC0 then some (byte - 0x80) else none

/-- A character of at least `least`, outside the surrogates. -/
def scalar (least n : Nat) : Option Char :=
  if least ≤ n && n ≤ 0x10FFFF && !(0xD800 ≤ n && n ≤ 0xDFFF) then some (Char.ofNat n) else none

def decodeUtf8 : List Nat → Option (List Char)
  | [] => some []
  | a :: rest =>
    if a < 0x80 then (decodeUtf8 rest).map (Char.ofNat a :: ·)
    else match rest with
      | [] => none
      | b :: rest =>
        if 0xC0 ≤ a && a < 0xE0 then do
          let c ← scalar 0x80 ((a - 0xC0) * 64 + (← continuation b))
          (decodeUtf8 rest).map (c :: ·)
        else match rest with
          | [] => none
          | c :: rest =>
            if 0xE0 ≤ a && a < 0xF0 then do
              let c ← scalar 0x800
                (((a - 0xE0) * 64 + (← continuation b)) * 64 + (← continuation c))
              (decodeUtf8 rest).map (c :: ·)
            else match rest with
              | [] => none
              | d :: rest =>
                if 0xF0 ≤ a && a < 0xF8 then do
                  let c ← scalar 0x10000
                    ((((a - 0xF0) * 64 + (← continuation b)) * 64 + (← continuation c)) * 64 +
                      (← continuation d))
                  (decodeUtf8 rest).map (c :: ·)
                else none

end CalendarSeries.Text
