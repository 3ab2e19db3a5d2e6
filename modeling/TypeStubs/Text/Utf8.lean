/-! Text read from bytes. Bytes that form a character in UTF-8 give that character;
a byte that is part of no character is kept apart, so that a reader can pass over it
where the text does not matter. -/
namespace TypeStubs.Utf8

/-- Whether the byte continues a character. -/
def isContinuation (b : UInt8) : Bool := 0x80 ≤ b && b ≤ 0xBF

/-- The six low bits of a continuation byte. -/
def low (b : UInt8) : Nat := b.toNat % 64

/-- The character at the start of the bytes, with the number of bytes after its
first. Overlong forms, surrogates and numbers past the last character are none. -/
def first? : List UInt8 → Option (Char × Nat)
  | [] => none
  | a :: rest =>
    if a < 0x80 then some (Char.ofNat a.toNat, 0)
    else if 0xC2 ≤ a && a ≤ 0xDF then
      match rest with
      | b :: _ =>
        if isContinuation b then some (Char.ofNat ((a.toNat - 0xC0) * 64 + low b), 1) else none
      | _ => none
    else if 0xE0 ≤ a && a ≤ 0xEF then
      match rest with
      | b :: c :: _ =>
        let n := (a.toNat - 0xE0) * 4096 + low b * 64 + low c
        if isContinuation b && isContinuation c && decide (0x800 ≤ n) &&
            !(decide (0xD800 ≤ n) && decide (n ≤ 0xDFFF)) then some (Char.ofNat n, 2)
        else none
      | _ => none
    else if 0xF0 ≤ a && a ≤ 0xF4 then
      match rest with
      | b :: c :: d :: _ =>
        let n := (a.toNat - 0xF0) * 262144 + low b * 4096 + low c * 64 + low d
        if isContinuation b && isContinuation c && isContinuation d && decide (0x10000 ≤ n) &&
            decide (n ≤ 0x10FFFF) then some (Char.ofNat n, 3)
        else none
      | _ => none
    else none

/-- Passes over `skip` bytes and then reads characters; `none` stands for a byte that
is part of no character. -/
def decodeFrom : Nat → List UInt8 → List (Option Char)
  | _, [] => []
  | skip + 1, _ :: rest => decodeFrom skip rest
  | 0, a :: rest =>
    match first? (a :: rest) with
    | some (c, more) => some c :: decodeFrom more rest
    | none => none :: decodeFrom 0 rest

/-- The characters of the bytes; `none` stands for a byte that is part of none. -/
def decode (bytes : List UInt8) : List (Option Char) := decodeFrom 0 bytes

/-- The text the bytes spell, if every byte is part of a character. -/
def text? (bytes : ByteArray) : Option String :=
  ((decode bytes.toList).mapM id).map String.ofList

end TypeStubs.Utf8
