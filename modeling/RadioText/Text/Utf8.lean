import RadioText.Text.Decimal

/-! UTF-8. Bytes that are no text say where the first of them are and, unless they only end too
early, how many there are. -/
namespace RadioText

abbrev Bytes := List UInt8

namespace Utf8

def encode (t : Text) : Bytes := t.flatMap String.utf8EncodeChar

/-- The first bytes that are no character: where they start, and how many they are if more bytes
could not complete them. -/
structure Fault where
  index : Nat
  length : Option Nat
deriving DecidableEq

def Fault.message (f : Fault) : Text :=
  match f.length with
  | some n =>
    "invalid utf-8 sequence of ".toList ++ Decimal.write n ++ " bytes from index ".toList
      ++ Decimal.write f.index
  | none => "incomplete utf-8 byte sequence from index ".toList ++ Decimal.write f.index

/-- How many bytes a character with this first byte has; `0` if there is none. -/
def width (lead : UInt8) : Nat :=
  if lead < 0x80 then 1
  else if lead < 0xC2 then 0
  else if lead < 0xE0 then 2
  else if lead < 0xF0 then 3
  else if lead < 0xF5 then 4
  else 0

def continues (b : UInt8) : Bool := 0x80 ≤ b && b < 0xC0

/-- Whether a byte can follow the first byte of a character of three or four bytes: no longer
spelling than needed, no surrogate, nothing beyond the last character. -/
def follows (lead b : UInt8) : Bool :=
  if lead = 0xE0 then 0xA0 ≤ b && b < 0xC0
  else if lead = 0xED then 0x80 ≤ b && b < 0xA0
  else if lead = 0xF0 then 0x90 ≤ b && b < 0xC0
  else if lead = 0xF4 then 0x80 ≤ b && b < 0x90
  else continues b

/-- The six bits of a byte that continues a character. -/
def low (b : UInt8) : Nat := b.toNat % 64

/-- Decode bytes that stand at `index`, after what is done, the last character first. -/
def decodeFrom (index : Nat) (done : Text) : Bytes → Except Fault Text
  | [] => .ok done.reverse
  | a :: rest =>
    let invalid (n : Nat) : Except Fault Text := .error ⟨index, some n⟩
    let incomplete : Except Fault Text := .error ⟨index, none⟩
    match width a with
    | 1 => decodeFrom (index + 1) (Char.ofNat a.toNat :: done) rest
    | 2 =>
      match rest with
      | [] => incomplete
      | b :: rest =>
        if continues b then
          decodeFrom (index + 2) (Char.ofNat (a.toNat % 32 * 64 + low b) :: done) rest
        else invalid 1
    | 3 =>
      match rest with
      | [] => incomplete
      | b :: rest =>
        if !follows a b then invalid 1
        else match rest with
          | [] => incomplete
          | c :: rest =>
            if continues c then
              decodeFrom (index + 3)
                (Char.ofNat ((a.toNat % 16 * 64 + low b) * 64 + low c) :: done) rest
            else invalid 2
    | 4 =>
      match rest with
      | [] => incomplete
      | b :: rest =>
        if !follows a b then invalid 1
        else match rest with
          | [] => incomplete
          | c :: rest =>
            if !continues c then invalid 2
            else match rest with
              | [] => incomplete
              | d :: rest =>
                if continues d then
                  decodeFrom (index + 4)
                    (Char.ofNat (((a.toNat % 8 * 64 + low b) * 64 + low c) * 64 + low d) :: done)
                    rest
                else invalid 3
    | _ => invalid 1

def decode (bytes : Bytes) : Except Fault Text := decodeFrom 0 [] bytes

end Utf8
end RadioText
