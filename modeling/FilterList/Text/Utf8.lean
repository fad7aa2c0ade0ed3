import FilterList.Text.Basic

/-!
UTF-8. Positions in a text are counted in the bytes of its encoding. Reading bytes back finds
either a character or a maximal broken part, the longest run that starts a character and then
goes wrong; lossy reading puts a replacement character for each broken part.
-/

namespace FilterList

abbrev Bytes := List UInt8

namespace Text

def utf8Length : Text → Nat
  | [] => 0
  | c :: rest => c.utf8Size + utf8Length rest

def toUtf8 (text : Text) : Bytes := text.flatMap String.utf8EncodeChar

end Text

namespace Utf8

/-- A byte that goes on with a character. -/
def isTail (b : UInt8) : Bool := 0x80 ≤ b && b ≤ 0xBF

/-- Whether `second` may follow the first byte of a character of three or four bytes. The
narrowed ranges keep out longer writings than needed, surrogates and code points too high. -/
def isSecond (first second : UInt8) : Bool :=
  if first == 0xE0 then 0xA0 ≤ second && second ≤ 0xBF
  else if first == 0xED then 0x80 ≤ second && second ≤ 0x9F
  else if first == 0xF0 then 0x90 ≤ second && second ≤ 0xBF
  else if first == 0xF4 then 0x80 ≤ second && second ≤ 0x8F
  else isTail second

/-- The character whose code point has the leading bits `lead` and then six bits of each tail. -/
def assemble (lead : Nat) (tails : Bytes) : Char :=
  Char.ofNat (tails.foldl (fun value b => 64 * value + (b.toNat - 0x80)) lead)

/-- The characters of a byte string, with `none` for each maximal broken part. -/
def decode : Bytes → List (Option Char)
  | [] => []
  | first :: rest =>
    if first < 0x80 then some (Char.ofNat first.toNat) :: decode rest
    else if 0xC2 ≤ first && first ≤ 0xDF then
      match rest with
      | second :: rest =>
        if isTail second then some (assemble (first.toNat - 0xC0) [second]) :: decode rest
        else none :: decode (second :: rest)
      | [] => [none]
    else if 0xE0 ≤ first && first ≤ 0xEF then
      match rest with
      | second :: rest =>
        if isSecond first second then
          match rest with
          | third :: rest =>
            if isTail third then
              some (assemble (first.toNat - 0xE0) [second, third]) :: decode rest
            else none :: decode (third :: rest)
          | [] => [none]
        else none :: decode (second :: rest)
      | [] => [none]
    else if 0xF0 ≤ first && first ≤ 0xF4 then
      match rest with
      | second :: rest =>
        if isSecond first second then
          match rest with
          | third :: rest =>
            if isTail third then
              match rest with
              | fourth :: rest =>
                if isTail fourth then
                  some (assemble (first.toNat - 0xF0) [second, third, fourth]) :: decode rest
                else none :: decode (fourth :: rest)
              | [] => [none]
            else none :: decode (third :: rest)
          | [] => [none]
        else none :: decode (second :: rest)
      | [] => [none]
    else none :: decode rest

/-- The text of a byte string, broken parts replaced. -/
def toTextLossy (bytes : Bytes) : Text := (decode bytes).map (·.getD '\uFFFD')

/-- The text of a byte string, if no part of it is broken. -/
def toText? (bytes : Bytes) : Option Text :=
  if (decode bytes).all Option.isSome then some ((decode bytes).filterMap id) else none

/-- The mark that some writers put before a text to show that it is UTF-8. -/
def byteOrderMark : Bytes := [0xEF, 0xBB, 0xBF]

end Utf8

end FilterList
