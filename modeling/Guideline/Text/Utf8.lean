/-!
# UTF-8

Offsets into a text count the bytes of its UTF-8 form, and files hold texts in that form.
-/

namespace Guideline.Text

/-- The number of bytes of a text in UTF-8. -/
def byteLength : List Char → Nat
  | [] => 0
  | c :: cs => c.utf8Size + byteLength cs

/-- The bytes of a text. -/
def encode (cs : List Char) : List UInt8 :=
  cs.flatMap String.utf8EncodeChar

/-- The six bits of a byte that goes on with a character. -/
def continuation? (b : UInt8) : Option Nat :=
  if 0x80 ≤ b && b < 0xC0 then some (b.toNat - 0x80) else none

/-- The character with the number `n`, if it is at least `least`: a character must not take more
bytes than it needs. -/
def charFrom? (least n : Nat) : Option Char :=
  if least ≤ n && n.isValidChar then some (Char.ofNat n) else none

/-- The characters that bytes write in UTF-8. -/
def decode? : List UInt8 → Option (List Char)
  | [] => some []
  | a :: rest =>
    if a < 0x80 then (decode? rest).map (Char.ofNat a.toNat :: ·)
    else if a < 0xC0 then none
    else if a < 0xE0 then
      match rest with
      | b :: rest => do
        let c ← charFrom? 0x80 ((a.toNat - 0xC0) * 64 + (← continuation? b))
        return c :: (← decode? rest)
      | _ => none
    else if a < 0xF0 then
      match rest with
      | b :: c :: rest => do
        let c ← charFrom? 0x800
          (((a.toNat - 0xE0) * 64 + (← continuation? b)) * 64 + (← continuation? c))
        return c :: (← decode? rest)
      | _ => none
    else if a < 0xF8 then
      match rest with
      | b :: c :: d :: rest => do
        let c ← charFrom? 0x10000
          ((((a.toNat - 0xF0) * 64 + (← continuation? b)) * 64 + (← continuation? c)) * 64
            + (← continuation? d))
        return c :: (← decode? rest)
      | _ => none
    else none

end Guideline.Text
