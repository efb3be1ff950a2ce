/-!
# Socket addresses

An address of the Internet Protocol, of version four or six, with a port: how it is read, and its
one written form.  Version six may shorten one run of zeros to two colons and may end in an address
of version four; it is written with its longest run of zeros shortened.
-/

set_option autoImplicit false

namespace EntityQuery

inductive SocketAddress where
  /-- Four octets. -/
  | four (octets : List Nat) (port : Nat)
  /-- Eight groups of sixteen bits, and the number of the zone that they are meant in. -/
  | six (groups : List Nat) (zone port : Nat)
  deriving DecidableEq, Repr

namespace SocketAddress

def digitValue? (base : Nat) (symbol : Char) : Option Nat :=
  let value :=
    if '0' ≤ symbol ∧ symbol ≤ '9' then symbol.toNat - '0'.toNat
    else if 'a' ≤ symbol ∧ symbol ≤ 'f' then symbol.toNat - 'a'.toNat + 10
    else if 'A' ≤ symbol ∧ symbol ≤ 'F' then symbol.toNat - 'A'.toNat + 10
    else base
  if value < base then some value else none

/-- The digits at the front of a text, and what follows them. -/
def takeDigits (base : Nat) : List Char → List Nat × List Char
  | [] => ([], [])
  | symbol :: rest =>
      match digitValue? base symbol with
      | none => ([], symbol :: rest)
      | some digit =>
          let (digits, rest) := takeDigits base rest
          (digit :: digits, rest)

def readNumber (base limit : Nat) (text : List Char) : Option (Nat × List Char) :=
  let (digits, rest) := takeDigits base text
  let value := digits.foldl (fun value digit => value * base + digit) 0
  if digits.isEmpty || limit ≤ value then none else some (value, rest)

def readShort (base limit width : Nat) (text : List Char) : Option (Nat × List Char) :=
  if width < (takeDigits base text).1.length then none else readNumber base limit text

def expect (symbol : Char) : List Char → Option (List Char)
  | [] => none
  | first :: rest => if first = symbol then some rest else none

def readOctet (text : List Char) : Option (Nat × List Char) :=
  if text.head? = some '0' ∧ 1 < (takeDigits 10 text).1.length then none
  else readShort 10 256 3 text

def readOctets : (count : Nat) → List Char → Option (List Nat × List Char)
  | 0, text => some ([], text)
  | count + 1, text => do
      let (octet, text) ← readOctet (← expect '.' text)
      let (octets, text) ← readOctets count text
      return (octet :: octets, text)

def readFour (text : List Char) : Option (List Nat × List Char) := do
  let (octet, text) ← readOctet text
  let (octets, text) ← readOctets 3 text
  return (octet :: octets, text)

def pairOctets : List Nat → List Nat
  | high :: low :: rest => (high * 256 + low) :: pairOctets rest
  | _ => []

def afterColon (isFirst : Bool) (text : List Char) : Option (List Char) :=
  if isFirst then some text else expect ':' text

/-- At most `limit` groups with colons between them, as many as there are.  An address of version
four may stand for the last two.  Returns the groups, whether they end in such an address, and what
follows. -/
def readGroups (isFirst : Bool) : (limit : Nat) → List Char → List Nat × Bool × List Char
  | 0, text => ([], false, text)
  | limit + 1, text =>
      let four := if limit = 0 then none else (afterColon isFirst text).bind readFour
      match four with
      | some (octets, rest) => (pairOctets octets, true, rest)
      | none =>
          match (afterColon isFirst text).bind (readShort 16 65536 4) with
          | none => ([], false, text)
          | some (group, rest) =>
              let (groups, endsInFour, rest) := readGroups false limit rest
              (group :: groups, endsInFour, rest)

def readSix (text : List Char) : Option (List Nat × List Char) := do
  let (front, endsInFour, text) := readGroups true 8 text
  if front.length = 8 then return (front, text)
  if endsInFour then none
  let text ← expect ':' (← expect ':' text)
  let (back, _, text) := readGroups true (7 - front.length) text
  return (front ++ List.replicate (8 - front.length - back.length) 0 ++ back, text)

def readPort (text : List Char) : Option Nat := do
  let (port, rest) ← readNumber 10 65536 (← expect ':' text)
  if rest.isEmpty then some port else none

def readZone (text : List Char) : Nat × List Char :=
  ((expect '%' text).bind (readNumber 10 0x100000000)).getD (0, text)

def readFourWithPort (text : List Char) : Option SocketAddress := do
  let (octets, text) ← readFour text
  return .four octets (← readPort text)

def readSixWithPort (text : List Char) : Option SocketAddress := do
  let (groups, text) ← readSix (← expect '[' text)
  let (zone, text) := readZone text
  return .six groups zone (← readPort (← expect ']' text))

def read? (text : String) : Option SocketAddress :=
  (readFourWithPort text.toList).or (readSixWithPort text.toList)

def writeFour (octets : List Nat) : String :=
  ".".intercalate (octets.map fun octet => toString octet)

def writeGroup (group : Nat) : String := String.ofList (Nat.toDigits 16 group)

def writeGroups (groups : List Nat) : String := ":".intercalate (groups.map writeGroup)

def leadingZeros (groups : List Nat) : Nat := (groups.takeWhile (· == 0)).length

def longestZeros : (start : Nat) → List Nat → Nat × Nat
  | _, [] => (0, 0)
  | start, group :: rest =>
      let here := leadingZeros (group :: rest)
      let later := longestZeros (start + 1) rest
      if later.2 ≤ here then (start, here) else later

/-- Eight groups.  Those that stand for an address of version four show it. -/
def writeSix (groups : List Nat) : String :=
  match groups with
  | [0, 0, 0, 0, 0, 0xffff, high, low] =>
      "::ffff:" ++ writeFour [high / 256, high % 256, low / 256, low % 256]
  | groups =>
      let (start, length) := longestZeros 0 groups
      if 1 < length then
        writeGroups (groups.take start) ++ "::" ++ writeGroups (groups.drop (start + length))
      else writeGroups groups

def render : SocketAddress → String
  | .four octets port => writeFour octets ++ ":" ++ toString port
  | .six groups zone port =>
      "[" ++ writeSix groups ++ (if zone = 0 then "" else "%" ++ toString zone) ++ "]:" ++
        toString port

end SocketAddress

end EntityQuery
