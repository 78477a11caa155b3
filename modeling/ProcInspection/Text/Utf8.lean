namespace ProcInspection

/-- File contents, names and link targets are byte strings: the kernel
promises no encoding for any of them. -/
abbrev Bytes := List UInt8

namespace Utf8

/-!
Text inside byte strings.

A byte string is read as a list of pieces, each a well-formed character or a
broken run.  A broken run is as long as it can be while still being the start
of some character, and one byte long when no character starts that way.
Strict decoding refuses broken runs.  Lossy decoding shows each of them as
one replacement character, so it never yields more characters than bytes.
-/

inductive Piece where
  | scalar (value : Char)
  | broken (bytes : Bytes)
  deriving DecidableEq

/-- What the first byte of a longer character announces: the number of bytes
after it, the bits it carries itself, and the range its second byte must lie
in.  The range excludes overlong forms, surrogates and values past the last
code point. -/
structure Lead where
  following : Nat
  payload : Nat
  secondLow : Nat
  secondHigh : Nat

def Lead.ofByte? (byte : UInt8) : Option Lead :=
  let b := byte.toNat
  if b < 0xC2 then none
  else if b < 0xE0 then some ⟨1, b - 0xC0, 0x80, 0xBF⟩
  else if b = 0xE0 then some ⟨2, 0, 0xA0, 0xBF⟩
  else if b = 0xED then some ⟨2, 13, 0x80, 0x9F⟩
  else if b < 0xF0 then some ⟨2, b - 0xE0, 0x80, 0xBF⟩
  else if b = 0xF0 then some ⟨3, 0, 0x90, 0xBF⟩
  else if b < 0xF4 then some ⟨3, b - 0xF0, 0x80, 0xBF⟩
  else if b = 0xF4 then some ⟨3, 4, 0x80, 0x8F⟩
  else none

def Lead.admits (lead : Lead) (second : UInt8) : Bool :=
  decide (lead.secondLow ≤ second.toNat) && decide (second.toNat ≤ lead.secondHigh)

def isContinuation (byte : UInt8) : Bool :=
  decide (0x80 ≤ byte.toNat) && decide (byte.toNat ≤ 0xBF)

/-- Append the six low bits of a continuation byte. -/
def shiftIn (value : Nat) (byte : UInt8) : Nat :=
  value * 64 + byte.toNat % 64

def pieces : Bytes -> List Piece
  | [] => []
  | first :: rest =>
      if first.toNat < 0x80 then
        .scalar (Char.ofNat first.toNat) :: pieces rest
      else
        match Lead.ofByte? first with
        | none => .broken [first] :: pieces rest
        | some lead =>
            match rest with
            | [] => [.broken [first]]
            | second :: afterSecond =>
                if lead.admits second then
                  let two := shiftIn lead.payload second
                  if lead.following = 1 then
                    .scalar (Char.ofNat two) :: pieces afterSecond
                  else
                    match afterSecond with
                    | [] => [.broken [first, second]]
                    | third :: afterThird =>
                        if isContinuation third then
                          let three := shiftIn two third
                          if lead.following = 2 then
                            .scalar (Char.ofNat three) :: pieces afterThird
                          else
                            match afterThird with
                            | [] => [.broken [first, second, third]]
                            | fourth :: afterFourth =>
                                if isContinuation fourth then
                                  .scalar (Char.ofNat (shiftIn three fourth)) :: pieces afterFourth
                                else
                                  .broken [first, second, third] :: pieces (fourth :: afterFourth)
                        else
                          .broken [first, second] :: pieces (third :: afterThird)
                else
                  .broken [first] :: pieces (second :: afterSecond)

def replacement : Char := '\uFFFD'

def Piece.shown : Piece -> Char
  | .scalar value => value
  | .broken _ => replacement

def Piece.isScalar : Piece -> Bool
  | .scalar _ => true
  | .broken _ => false

def decodeLossy (bytes : Bytes) : String :=
  String.ofList ((pieces bytes).map Piece.shown)

def decode? (bytes : Bytes) : Option String :=
  if (pieces bytes).all Piece.isScalar then some (decodeLossy bytes) else none

def encodeChars (text : List Char) : Bytes :=
  text.flatMap String.utf8EncodeChar

def encode (text : String) : Bytes :=
  encodeChars text.toList

end Utf8
end ProcInspection
