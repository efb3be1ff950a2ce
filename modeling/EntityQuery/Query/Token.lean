import EntityQuery.Decimal.Numeral
import EntityQuery.EdmType

/-!
# Tokens of queries

The words, names and literals of the query language, each read from the front of a text.  A reader
returns what it read and the text after it, and it never gives back part of what it read.
-/

set_option autoImplicit false

namespace EntityQuery.Query

open Decimal (isDigit)

def isSpace (symbol : Char) : Bool :=
  symbol == ' ' || symbol == '\t' || symbol == '\r' || symbol == '\n'

def skipSpace (text : List Char) : List Char := text.dropWhile isSpace

def isLetter (symbol : Char) : Bool :=
  ('a' ≤ symbol && symbol ≤ 'z') || ('A' ≤ symbol && symbol ≤ 'Z')

def isNameStart (symbol : Char) : Bool := isLetter symbol || symbol == '_'

def isNameSymbol (symbol : Char) : Bool := isLetter symbol || isDigit symbol || symbol == '_'

def endsWord : List Char → Bool
  | [] => true
  | symbol :: _ => !isNameSymbol symbol

def readExact (word text : List Char) : Option (List Char) :=
  if word.isPrefixOf text then some (text.drop word.length) else none

def readKeyword (word : String) (text : List Char) : Option (List Char) :=
  match readExact word.toList text with
  | some rest => if endsWord rest then some rest else none
  | none => none

def readOneOf {α : Type} (word : α → String) (choices : List α) (text : List Char) :
    Option (α × List Char) :=
  choices.findSome? fun choice => (readKeyword (word choice) text).map fun rest => (choice, rest)

def readName : List Char → Option (List Char × List Char)
  | [] => none
  | symbol :: rest =>
      if isNameStart symbol then
        some (symbol :: rest.takeWhile isNameSymbol, rest.dropWhile isNameSymbol)
      else none

/-! ## Literals

A reader of literals returns the characters that make up the literal. -/

/-- What a reader of literals returns: the literal and the text after it. -/
abbrev Lexeme := Option (List Char × List Char)

def readRun (count : Nat) (holds : Char → Bool) (text : List Char) : Lexeme :=
  let run := text.take count
  if run.length = count ∧ run.all holds then some (run, text.drop count) else none

def readSymbol (symbol : Char) : List Char → Lexeme
  | [] => none
  | next :: rest => if next = symbol then some ([symbol], rest) else none

def inSequence (readers : List (List Char → Lexeme)) (text : List Char) : Lexeme :=
  match readers with
  | [] => some ([], text)
  | reader :: others =>
      match reader text with
      | none => none
      | some (first, rest) =>
          match inSequence others rest with
          | none => none
          | some (second, rest) => some (first ++ second, rest)

def firstOf (readers : List (List Char → Lexeme)) (text : List Char) : Lexeme :=
  readers.findSome? fun reader => reader text

def optionally (reader : List Char → Lexeme) (text : List Char) : Lexeme :=
  match reader text with
  | some read => some read
  | none => some ([], text)

def readDigits (text : List Char) : Lexeme :=
  let digits := text.takeWhile isDigit
  if digits.isEmpty then none else some (digits, text.dropWhile isDigit)

def readWord (word : String) (text : List Char) : Lexeme :=
  (readKeyword word text).map fun rest => (word.toList, rest)

/-- The inside of a string up to and with its closing quote; two quotes are one inside it. -/
def readStringRest : List Char → Lexeme
  | [] => none
  | '\'' :: '\'' :: rest => (readStringRest rest).map fun read => ('\'' :: '\'' :: read.1, read.2)
  | '\'' :: rest => some (['\''], rest)
  | symbol :: rest => (readStringRest rest).map fun read => (symbol :: read.1, read.2)

def readString : List Char → Lexeme
  | '\'' :: rest => (readStringRest rest).map fun read => ('\'' :: read.1, read.2)
  | _ => none

def readDuration (text : List Char) : Lexeme :=
  match readExact "duration".toList text with
  | some rest => (readString rest).map fun read => ("duration".toList ++ read.1, read.2)
  | none => none

def readSign : List Char → Lexeme := firstOf [readSymbol '+', readSymbol '-']

def readFraction : List Char → Lexeme := inSequence [readSymbol '.', readDigits]

def readDayDigits : List Char → Lexeme :=
  inSequence [readRun 4 isDigit, readSymbol '-', readRun 2 isDigit, readSymbol '-',
    readRun 2 isDigit]

def readSeconds : List Char → Lexeme :=
  inSequence [readSymbol ':', readRun 2 isDigit, optionally readFraction]

def readOffset : List Char → Lexeme :=
  firstOf [readSymbol 'Z',
    inSequence [readSign, readRun 2 isDigit, readSymbol ':', readRun 2 isDigit]]

/-- An instant with its offset; the seconds may be absent. -/
def readInstant : List Char → Lexeme :=
  inSequence [readDayDigits, readSymbol 'T', readRun 2 isDigit, readSymbol ':',
    readRun 2 isDigit, optionally readSeconds, readOffset]

def readDate (text : List Char) : Lexeme :=
  match readDayDigits text with
  | some (date, rest) => if endsWord rest then some (date, rest) else none
  | none => none

def isHexDigit (symbol : Char) : Bool :=
  isDigit symbol || ('a' ≤ symbol && symbol ≤ 'f') || ('A' ≤ symbol && symbol ≤ 'F')

def readGuid : List Char → Lexeme :=
  inSequence [readRun 8 isHexDigit, readSymbol '-', readRun 4 isHexDigit, readSymbol '-',
    readRun 4 isHexDigit, readSymbol '-', readRun 4 isHexDigit, readSymbol '-',
    readRun 12 isHexDigit]

def readPower : List Char → Lexeme :=
  inSequence [firstOf [readSymbol 'e', readSymbol 'E'], optionally readSign, readDigits]

def readMagnitude : List Char → Lexeme :=
  firstOf [readWord "INF",
    inSequence [readDigits, optionally readFraction, optionally readPower]]

def readNumber : List Char → Lexeme := inSequence [optionally (readSymbol '-'), readMagnitude]

/-- The type of a number: one with a point, a power of ten or the word for infinity is a floating
point number, and any other has the smaller integer type that holds it. -/
def numberType (raw : List Char) : EdmType :=
  if raw.any fun symbol => symbol == '.' || symbol == 'e' || symbol == 'E' || symbol == 'I' then
    .double
  else
    match Decimal.readInteger? raw with
    | some value => if -2147483648 ≤ value ∧ value < 2147483648 then .int32 else .int64
    | none => .int64

def readLiteral (text : List Char) : Option (EdmType × List Char × List Char) :=
  let tagged (type : EdmType) (reader : List Char → Lexeme) :
      Option (EdmType × List Char × List Char) :=
    (reader text).map fun read => (type, read.1, read.2)
  tagged .null (readWord "null") <|>
    tagged .boolean (firstOf [readWord "true", readWord "false"]) <|>
    tagged .dateTimeOffset readInstant <|>
    tagged .date readDate <|>
    tagged .guid readGuid <|>
    ((readDuration text).map fun read => (.duration, read.1.drop "duration".length, read.2)) <|>
    tagged .string readString <|>
    ((readNumber text).map fun read => (numberType read.1, read.1, read.2))

end EntityQuery.Query
