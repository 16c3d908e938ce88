import Linkage.Text.Plain

/-!
Quoted texts, as messages show names and paths: between double quotes, with a backslash before a
quote or a backslash, the letters `n`, `r`, `t` and the digit `0` for line feed, carriage return,
tab and NUL, and a hexadecimal code for every other character that is not plain.
-/

namespace Linkage.Text

def escape (char : Char) : List Char :=
  if char = '"' then ['\\', '"']
  else if char = '\\' then ['\\', '\\']
  else if char = '\n' then ['\\', 'n']
  else if char = '\r' then ['\\', 'r']
  else if char = '\t' then ['\\', 't']
  else if char = '\x00' then ['\\', '0']
  else if isPlain char then [char]
  else ['\\', 'u', '\x7b'] ++ Nat.toDigits 16 char.toNat ++ ['\x7d']

def escapeAll (chars : List Char) : List Char :=
  chars.flatMap escape

def quote (text : String) : String :=
  String.ofList ('"' :: escapeAll text.toList ++ ['"'])

def quoteKey (module name : String) : String :=
  quote module ++ "." ++ quote name

end Linkage.Text
