import FeatureRun.Text.Numeral

/-!
Decoding of UTF-8. A fault names the bytes that cannot be decoded, from the first byte of the
character they would belong to.
-/
namespace FeatureRun.Text

inductive Utf8Reason where
  | start
  | continuation
  | ended
deriving DecidableEq, Repr

/-- The offending bytes and the position of the first. -/
structure Utf8Fault where
  position : Nat
  bytes : List UInt8
  reason : Utf8Reason
deriving DecidableEq, Repr

def Utf8Reason.message : Utf8Reason → String
  | .start => "invalid start byte"
  | .continuation => "invalid continuation byte"
  | .ended => "unexpected end of data"

def Utf8Fault.message (f : Utf8Fault) : String :=
  "'utf-8' codec can't decode " ++
    (match f.bytes with
      | [b] => "byte 0x" ++ String.ofList (hex 2 b.toNat) ++ " in position " ++ toString f.position
      | bs => "bytes in position " ++ toString f.position ++ "-" ++
          toString (f.position + bs.length - 1)) ++
    ": " ++ f.reason.message

/-- What a first byte asks for: the bits it contributes, how many bytes follow it, and the least
and greatest value of the next one. -/
structure Lead where
  bits : Nat
  owed : Nat
  least : UInt8 := 0x80
  greatest : UInt8 := 0xBF

/-- A byte that starts a character. -/
def Lead.ofByte? (b : UInt8) : Option Lead :=
  if b ≤ 0x7F then some { bits := b.toNat, owed := 0 }
  else if b < 0xC2 then none
  else if b ≤ 0xDF then some { bits := b.toNat - 0xC0, owed := 1 }
  else if b == 0xE0 then some { bits := 0, owed := 2, least := 0xA0 }
  else if b == 0xED then some { bits := 0xD, owed := 2, greatest := 0x9F }
  else if b ≤ 0xEF then some { bits := b.toNat - 0xE0, owed := 2 }
  else if b == 0xF0 then some { bits := 0, owed := 3, least := 0x90 }
  else if b ≤ 0xF3 then some { bits := b.toNat - 0xF0, owed := 3 }
  else if b == 0xF4 then some { bits := 4, owed := 3, greatest := 0x8F }
  else none

/-- Decodes the bytes from `position` on. `seen` holds the bytes of the character begun, last
first, and `lead` what it still asks for. -/
def decodeFrom (position : Nat) (seen : List UInt8) (lead : Lead) :
    List UInt8 → Except Utf8Fault (List Char)
  | [] =>
    if lead.owed = 0 then .ok [] else .error ⟨position, seen.reverse, .ended⟩
  | b :: r =>
    if lead.owed = 0 then
      match Lead.ofByte? b with
      | none => .error ⟨position, [b], .start⟩
      | some l =>
        if l.owed = 0 then (decodeFrom (position + 1) [] l r).map (Char.ofNat l.bits :: ·)
        else decodeFrom position [b] l r
    else if lead.least ≤ b && b ≤ lead.greatest then
      let bits := lead.bits * 0x40 + (b.toNat - 0x80)
      if lead.owed = 1 then
        (decodeFrom (position + seen.length + 1) [] { bits := 0, owed := 0 } r).map
          (Char.ofNat bits :: ·)
      else decodeFrom position (b :: seen) { bits := bits, owed := lead.owed - 1 } r
    else .error ⟨position, seen.reverse, .continuation⟩

/-- The text that the bytes encode. -/
def decodeUtf8 (bs : List UInt8) : Except Utf8Fault (List Char) :=
  decodeFrom 0 [] { bits := 0, owed := 0 } bs

end FeatureRun.Text
