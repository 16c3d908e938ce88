import Linkage.Number.Decimal
import Linkage.Toml.Tree

/-!
The leaves of a TOML document: blanks, line ends and comments, strings, keys, numbers and moments
of time. A reader takes its part off the front of the text and fails where the grammar does not
allow what it finds. Line ends inside strings are read as line feeds.
-/

namespace Linkage

abbrev Reader := StateT (List Char) Option

namespace Reader

def one (accepts : Char → Bool) : Reader Char := fun text =>
  match text with
  | char :: rest => if accepts char then some (char, rest) else none
  | [] => none

def char (expected : Char) : Reader Unit := do
  let _ ← one (· == expected)

def literal (expected : List Char) : Reader Unit := fun text =>
  if expected.isPrefixOf text then some ((), text.drop expected.length) else none

def many (accepts : Char → Bool) : Reader (List Char) := fun text =>
  some (text.takeWhile accepts, text.dropWhile accepts)

def peek : Reader (Option Char) := fun text => some (text.head?, text)

def digits : Nat → Reader (List Char)
  | 0 => pure []
  | count + 1 => do
      let first ← one Number.isDigit
      let rest ← digits count
      pure (first :: rest)

end Reader

namespace TomlText

open Reader

def isBlank (char : Char) : Bool := char == ' ' || char == '\t'

def blanks : Reader Unit := do
  let _ ← many isBlank

def isText (char : Char) : Bool :=
  char == '\t' || (' ' ≤ char && char != '\x7f')

def newline : Reader Unit := fun text =>
  match text with
  | '\n' :: rest | '\r' :: '\n' :: rest => some ((), rest)
  | _ => none

def comment : Reader Unit := do
  if (← peek) = some '#' then
    let _ ← many isText

def lineEnd : Reader Unit := do
  blanks
  comment
  if (← peek).isSome then newline

def spacing : Nat → Reader Unit
  | 0 => pure ()
  | fuel + 1 => do
      blanks
      match ← peek with
      | some '#' => do
          comment
          newline
          spacing fuel
      | some '\n' | some '\r' => do
          newline
          spacing fuel
      | _ => pure ()

def hexDigit? (char : Char) : Option Nat :=
  let code := char.toNat
  if '0' ≤ char ∧ char ≤ '9' then some (code - '0'.toNat)
  else if 'a' ≤ char ∧ char ≤ 'f' then some (code - 'a'.toNat + 10)
  else if 'A' ≤ char ∧ char ≤ 'F' then some (code - 'A'.toNat + 10)
  else none

def codePoint (count : Nat) : Reader Char := fun text =>
  match (text.take count).mapM hexDigit? with
  | none => none
  | some read =>
      let code := read.foldl (fun value digit => value * 16 + digit) 0
      if read.length = count ∧ code.isValidChar then
        some (Char.ofNat code, text.drop count)
      else none

def escaped : Reader Char := do
  match ← one fun _ => true with
  | 'b' => pure '\x08'
  | 't' => pure '\t'
  | 'n' => pure '\n'
  | 'f' => pure '\x0c'
  | 'r' => pure '\r'
  | '"' => pure '"'
  | '\\' => pure '\\'
  | 'u' => codePoint 4
  | 'U' => codePoint 8
  | _ => failure

/-- The rest of a string on one line, up to and with the closing quote. Backslashes count only
between double quotes. -/
def shortRest (mark : Char) : Nat → Reader (List Char)
  | 0 => failure
  | fuel + 1 => do
      let next ← one isText
      if next = mark then pure []
      else
        let read ← if next = '\\' ∧ mark = '"' then escaped else pure next
        let rest ← shortRest mark fuel
        pure (read :: rest)

def shortString (mark : Char) : Reader String := fun text =>
  ((do
    char mark
    let chars ← shortRest mark text.length
    pure (String.ofList chars) : Reader String) text)

def swallowed : Nat → Reader Unit
  | 0 => pure ()
  | fuel + 1 => do
      blanks
      match ← peek with
      | some '\n' | some '\r' => do
          newline
          swallowed fuel
      | _ => pure ()

def atLineEnd (text : List Char) : Bool :=
  match text.dropWhile isBlank with
  | '\n' :: _ | '\r' :: '\n' :: _ => true
  | _ => false

/-- The rest of a string over several lines. It ends at three quotes; up to two more directly
before them belong to the string. -/
def longRest (mark : Char) : Nat → Reader (List Char)
  | 0 => failure
  | fuel + 1 => do
      let text ← get
      let quotes := text.takeWhile (· == mark)
      if 3 ≤ quotes.length then
        let length := min quotes.length 5
        set (text.drop length)
        pure (List.replicate (length - 3) mark)
      else
        match text with
        | '\n' :: rest | '\r' :: '\n' :: rest => do
            set rest
            let more ← longRest mark fuel
            pure ('\n' :: more)
        | '\\' :: rest =>
            if mark = '"' then
              set rest
              if atLineEnd rest then
                swallowed rest.length
                longRest mark fuel
              else
                let read ← escaped
                let more ← longRest mark fuel
                pure (read :: more)
            else
              set rest
              let more ← longRest mark fuel
              pure ('\\' :: more)
        | _ => do
            let read ← one isText
            let more ← longRest mark fuel
            pure (read :: more)

/-- A line end directly after the opening quotes is not part of the string. -/
def longString (mark : Char) : Reader String := fun text =>
  ((do
    literal [mark, mark, mark]
    newline <|> pure ()
    let chars ← longRest mark text.length
    pure (String.ofList chars) : Reader String) text)

def stringValue (mark : Char) : Reader String := fun text =>
  if [mark, mark, mark].isPrefixOf text then longString mark text else shortString mark text

def nestingLimit : Nat := 80

def isBare (char : Char) : Bool :=
  ('a' ≤ char && char ≤ 'z') || ('A' ≤ char && char ≤ 'Z') || Number.isDigit char
    || char == '_' || char == '-'

def keyPart : Reader String := do
  match ← peek with
  | some '"' => shortString '"'
  | some '\'' => shortString '\''
  | _ => do
      let first ← one isBare
      let rest ← many isBare
      pure (String.ofList (first :: rest))

def keyParts : Nat → Reader (List String)
  | 0 => failure
  | limit + 1 => do
      blanks
      let part ← keyPart
      blanks
      if (← peek) = some '.' then
        char '.'
        let rest ← keyParts limit
        pure (part :: rest)
      else pure [part]

def key : Reader (List String × String) := do
  let parts ← keyParts (nestingLimit - 1)
  match parts.getLast? with
  | none => failure
  | some last => pure (parts.dropLast, last)

def grouped (accepts : Char → Bool) : Nat → Reader (List Char)
  | 0 => failure
  | fuel + 1 => do
      let first ← one accepts
      match ← peek with
      | some '_' => do
          char '_'
          let rest ← grouped accepts fuel
          pure (first :: rest)
      | some next =>
          if accepts next then
            let rest ← grouped accepts fuel
            pure (first :: rest)
          else pure [first]
      | none => pure [first]

def groupedDigits : Reader (List Char) := fun text => grouped Number.isDigit text.length text

def sign : Reader Bool := do
  match ← peek with
  | some '-' => do
      char '-'
      pure true
  | some '+' => do
      char '+'
      pure false
  | _ => pure false

def inRange (value : Int) : Reader Toml :=
  if -0x8000000000000000 ≤ value ∧ value < 0x8000000000000000 then pure (.integer value)
  else failure

def basedInteger (mark : Char) (base : Nat) : Reader Toml := fun text =>
  ((do
    literal ['0', mark]
    let accepts (char : Char) : Bool := (hexDigit? char).any (· < base)
    let read ← grouped accepts text.length
    inRange (read.foldl (fun value char => value * base + (hexDigit? char).getD 0) 0 : Nat)
    : Reader Toml) text)

/-- The digits before the point of a number. Only zero itself starts with a zero. -/
def wholeDigits : Reader (List Char) := do
  match ← peek with
  | some '0' => do
      char '0'
      pure ['0']
  | _ => groupedDigits

def fraction : Reader (List Char) := do
  char '.'
  groupedDigits

def exponent : Reader Int := do
  let _ ← one fun mark => mark == 'e' || mark == 'E'
  let negative ← sign
  let digits ← groupedDigits
  let value : Int := Number.digitsValue digits
  pure (if negative then -value else value)

def special (negative : Bool) (word : String) (bits : Nat) : Reader Toml := do
  literal word.toList
  pure (.float (Number.withSign .binary64 negative bits))

/-- A finite float is refused if it is too large, unless it is negative. -/
def floatOf (negative : Bool) (digits : List Char) (power : Int) : Reader Toml := do
  let bits := Number.decimalBits .binary64 (Number.digitsValue digits) power
  if !negative && bits == Number.BinaryFormat.infinityBits .binary64 then failure
  else pure (.float (Number.withSign .binary64 negative bits))

def decimalNumber (negative : Bool) : Reader Toml := do
  let whole ← wholeDigits
  match ← peek with
  | some '.' => do
      let places ← fraction
      let power ← match ← peek with
        | some 'e' | some 'E' => exponent
        | _ => pure 0
      floatOf negative (whole ++ places) (power - places.length)
  | some 'e' | some 'E' => do
      let power ← exponent
      floatOf negative whole power
  | _ =>
      let value : Int := Number.digitsValue whole
      inRange (if negative then -value else value)

def signedNumber : Reader Toml := do
  let negative ← sign
  let infinity := Number.BinaryFormat.infinityBits .binary64
  special negative "inf" infinity
    <|> special negative "nan" (infinity + Number.BinaryFormat.quietBit .binary64)
    <|> decimalNumber negative

def number : Reader Toml :=
  basedInteger 'x' 16 <|> basedInteger 'o' 8 <|> basedInteger 'b' 2 <|> signedNumber

def twoDigits (low high : Nat) : Reader Unit := do
  let value := Number.digitsValue (← digits 2)
  if low ≤ value ∧ value ≤ high then pure () else failure

def daysIn (year month : Nat) : Nat :=
  let leap := year % 4 == 0 && (year % 100 != 0 || year % 400 == 0)
  if month = 2 then (if leap then 29 else 28)
  else if month = 4 ∨ month = 6 ∨ month = 9 ∨ month = 11 then 30
  else 31

def date : Reader Unit := do
  let year := Number.digitsValue (← digits 4)
  char '-'
  let month := Number.digitsValue (← digits 2)
  char '-'
  if month < 1 ∨ 12 < month then failure
  twoDigits 1 (daysIn year month)

def timeOfDay : Reader Unit := do
  twoDigits 0 23
  char ':'
  twoDigits 0 59
  char ':'
  twoDigits 0 60
  if (← peek) = some '.' then
    char '.'
    let _ ← one Number.isDigit
    let _ ← many Number.isDigit

def zone : Reader Unit := do
  match ← peek with
  | some 'Z' | some 'z' => do
      let _ ← one fun _ => true
  | some '+' | some '-' => do
      let _ ← one fun _ => true
      twoDigits 0 23
      char ':'
      twoDigits 0 59
  | _ => pure ()

def timePart : Reader Unit :=
  (do
    let _ ← one fun mark => mark == 'T' || mark == 't' || mark == ' '
    timeOfDay
    zone) <|> pure ()

def moment : Reader Toml := fun text =>
  ((do
    (do
      date
      timePart) <|> timeOfDay
    let rest ← get
    pure (.moment (String.ofList (text.take (text.length - rest.length)))) : Reader Toml) text)

end TomlText

end Linkage
