import EntityQuery.Text.Utf8

/-!
# Percent encoding

Request text as a sequence of logical bytes: a percent sign with two hexadecimal digits stands for
one byte, and any other byte stands for itself, a stray percent sign too.  Decoding everything, and
decoding all but quoted literals, both read this sequence, so they agree on where a byte ends.
-/

set_option autoImplicit false

namespace EntityQuery.Text

/-- One logical byte and whether it was written as a percent sign and two digits. -/
structure Piece where
  byte : UInt8
  /-- The bytes that wrote it. -/
  span : List UInt8
  deriving DecidableEq, Repr

namespace Piece

def isRaw (piece : Piece) : Bool := piece.span.length == 1

def ofByte (byte : UInt8) : Piece := ⟨byte, [byte]⟩

end Piece

def percentByte : UInt8 := 0x25
def plusByte : UInt8 := 0x2B
def spaceByte : UInt8 := 0x20
def quoteByte : UInt8 := 0x27

def hexValue? (byte : UInt8) : Option UInt8 :=
  if 0x30 ≤ byte ∧ byte ≤ 0x39 then some (byte - 0x30)
  else if 0x41 ≤ byte ∧ byte ≤ 0x46 then some (byte - 0x37)
  else if 0x61 ≤ byte ∧ byte ≤ 0x66 then some (byte - 0x57)
  else none

def hexPair? (high low : UInt8) : Option UInt8 :=
  match hexValue? high, hexValue? low with
  | some high, some low => some (high * 16 + low)
  | _, _ => none

def pieces : List UInt8 → List Piece
  | [] => []
  | first :: high :: low :: rest =>
      if first = percentByte then
        match hexPair? high low with
        | some byte => ⟨byte, [first, high, low]⟩ :: pieces rest
        | none => .ofByte first :: pieces (high :: low :: rest)
      else .ofByte first :: pieces (high :: low :: rest)
  | first :: rest => .ofByte first :: pieces rest

def percentDecodeBytes (bytes : List UInt8) : List UInt8 :=
  (pieces bytes).map Piece.byte

def percentDecode (text : List Char) : Except Utf8Error (List Char) :=
  decodeUtf8 (percentDecodeBytes (utf8 text))

mutual

/-- Decodes pieces outside a quoted literal, where a plus sign written raw is a space. -/
def decodeOutside : List Piece → List UInt8
  | [] => []
  | piece :: rest =>
      if piece.byte = quoteByte then quoteByte :: decodeInside rest
      else if piece.byte = plusByte && piece.isRaw then spaceByte :: decodeOutside rest
      else piece.byte :: decodeOutside rest

/-- Keeps the pieces of a quoted literal encoded until its closing quote.  A quote that another
follows is an escaped one and stays as written; a plus sign written raw becomes an escaped space. -/
def decodeInside : List Piece → List UInt8
  | [] => []
  | [piece] =>
      if piece.byte = quoteByte then [quoteByte]
      else if piece.byte = plusByte && piece.isRaw then [0x25, 0x32, 0x30]
      else piece.span
  | piece :: next :: rest =>
      if piece.byte = quoteByte then
        if next.byte = quoteByte then piece.span ++ next.span ++ decodeInside rest
        else quoteByte :: decodeOutside (next :: rest)
      else if piece.byte = plusByte && piece.isRaw then
        [0x25, 0x32, 0x30] ++ decodeInside (next :: rest)
      else piece.span ++ decodeInside (next :: rest)

end

/-- Undoes percent escapes everywhere except inside quoted literals, whose own reader undoes them.
There is no text when the decoded bytes are not UTF-8. -/
def decodeUnquoted? (text : List Char) : Option (List Char) :=
  (decodeUtf8 (decodeOutside (pieces (utf8 text)))).toOption

end EntityQuery.Text
