/-!
# UTF-8

Characters as bytes, and bytes as characters with the first fault named: where it starts, and
whether the text merely ends too early or how many bytes cannot begin or continue a character.
-/

set_option autoImplicit false

namespace EntityQuery.Text

/-- The first place at which bytes are not UTF-8. -/
inductive Utf8Error where
  /-- The bytes end inside a character that starts at `index`. -/
  | incomplete (index : Nat)
  /-- `length` bytes from `index` on belong to no character. -/
  | invalid (length index : Nat)
  deriving DecidableEq, Repr

namespace Utf8Error

def message : Utf8Error → String
  | .incomplete index => s!"incomplete utf-8 byte sequence from index {index}"
  | .invalid length index => s!"invalid utf-8 sequence of {length} bytes from index {index}"

end Utf8Error

def utf8 (text : List Char) : List UInt8 := text.flatMap String.utf8EncodeChar

def isContinuation (byte : UInt8) : Bool := 0x80 ≤ byte && byte ≤ 0xBF

def payload (byte : UInt8) : Nat := byte.toNat % 64

def secondOfThree (first second : UInt8) : Bool :=
  if first = 0xE0 then 0xA0 ≤ second && second ≤ 0xBF
  else if first = 0xED then 0x80 ≤ second && second ≤ 0x9F
  else isContinuation second

def secondOfFour (first second : UInt8) : Bool :=
  if first = 0xF0 then 0x90 ≤ second && second ≤ 0xBF
  else if first = 0xF4 then 0x80 ≤ second && second ≤ 0x8F
  else isContinuation second

/-- What the bytes begin with: a character and the bytes after it, or the kind of fault. -/
inductive Utf8Step where
  | finished
  | character (symbol : Char) (width : Nat) (rest : List UInt8)
  | cutOff
  | broken (length : Nat)

def readTwo (first : UInt8) : List UInt8 → Utf8Step
  | [] => .cutOff
  | second :: rest =>
      if isContinuation second then
        .character (Char.ofNat (first.toNat % 32 * 64 + payload second)) 2 rest
      else .broken 1

def readThree (first : UInt8) : List UInt8 → Utf8Step
  | [] => .cutOff
  | second :: rest =>
      if secondOfThree first second then
        match rest with
        | [] => .cutOff
        | third :: rest =>
            if isContinuation third then
              .character
                (Char.ofNat (first.toNat % 16 * 4096 + payload second * 64 + payload third)) 3 rest
            else .broken 2
      else .broken 1

def readFour (first : UInt8) : List UInt8 → Utf8Step
  | [] => .cutOff
  | second :: rest =>
      if secondOfFour first second then
        match rest with
        | [] => .cutOff
        | third :: rest =>
            if isContinuation third then
              match rest with
              | [] => .cutOff
              | fourth :: rest =>
                  if isContinuation fourth then
                    .character
                      (Char.ofNat (first.toNat % 8 * 262144 + payload second * 4096 +
                        payload third * 64 + payload fourth)) 4 rest
                  else .broken 3
            else .broken 2
      else .broken 1

def readCharacter : List UInt8 → Utf8Step
  | [] => .finished
  | first :: rest =>
      if first < 0x80 then .character (Char.ofNat first.toNat) 1 rest
      else if first < 0xC2 then .broken 1
      else if first < 0xE0 then readTwo first rest
      else if first < 0xF0 then readThree first rest
      else if first < 0xF5 then readFour first rest
      else .broken 1

def decodeFrom (fuel index : Nat) (bytes : List UInt8) : Except Utf8Error (List Char) :=
  match fuel with
  | 0 => .ok []
  | fuel + 1 =>
      match readCharacter bytes with
      | .finished => .ok []
      | .cutOff => .error (.incomplete index)
      | .broken length => .error (.invalid length index)
      | .character symbol width rest =>
          match decodeFrom fuel (index + width) rest with
          | .error fault => .error fault
          | .ok symbols => .ok (symbol :: symbols)

/-- The text that bytes spell.  A character takes at least one byte, so as many steps as there are
bytes suffice. -/
def decodeUtf8 (bytes : List UInt8) : Except Utf8Error (List Char) :=
  decodeFrom bytes.length 0 bytes

end EntityQuery.Text
