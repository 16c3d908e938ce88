import Linkage.Toml.Text

/-!
Reading a TOML document. The reader answers nothing when the text is not a valid document: when
the grammar is broken, a key or a table is defined twice, a number is out of range or something is
nested too deep. How deep a value may nest is a number that falls with every bracket; the other
number only bounds the steps and is large enough for every text.
-/

namespace Linkage

namespace TomlText

open Reader

mutual

def value (depth : Nat) : Nat → Reader Toml
  | 0 => failure
  | fuel + 1 => do
      match ← peek with
      | some '"' => do
          let text ← stringValue '"'
          pure (.string text)
      | some '\'' => do
          let text ← stringValue '\''
          pure (.string text)
      | some 't' => do
          literal "true".toList
          pure (.boolean true)
      | some 'f' => do
          literal "false".toList
          pure (.boolean false)
      | some '[' =>
          match depth with
          | 0 => failure
          | inner + 1 => do
              char '['
              let items ← arrayItems inner fuel
              pure (.array .written items)
      | some '\x7b' =>
          match depth with
          | 0 => failure
          | inner + 1 => do
              char '\x7b'
              blanks
              if (← peek) = some '\x7d' then
                char '\x7d'
                pure (.table .inline [])
              else inlineEntries inner (.table .inline []) fuel
      | _ => moment <|> number

def arrayItems (depth : Nat) : Nat → Reader (List Toml)
  | 0 => failure
  | fuel + 1 => do
      spacing (← get).length
      if (← peek) = some ']' then
        char ']'
        pure []
      else
        let item ← value depth fuel
        spacing (← get).length
        if (← peek) = some ',' then
          char ','
          let rest ← arrayItems depth fuel
          pure (item :: rest)
        else
          char ']'
          pure [item]

def inlineEntries (depth : Nat) (table : Toml) : Nat → Reader Toml
  | 0 => failure
  | fuel + 1 => do
      let (path, last) ← key
      char '='
      blanks
      let read ← value depth fuel
      blanks
      match table.addValue path last read with
      | none => failure
      | some larger =>
          if (← peek) = some ',' then
            char ','
            inlineEntries depth larger fuel
          else
            char '\x7d'
            pure larger

end

def assignment (draft : TomlDraft) : Reader TomlDraft := do
  let (path, last) ← key
  char '='
  blanks
  let read ← value (nestingLimit - 1) (2 * (← get).length + 2)
  lineEnd
  match draft.addValue path last read with
  | none => failure
  | some larger => pure larger

def header (draft : TomlDraft) : Reader TomlDraft := do
  char '['
  let opened ←
    if (← peek) = some '[' then
      char '['
      let (path, last) ← key
      literal [']', ']']
      pure (draft.openElement path last)
    else
      let (path, last) ← key
      char ']'
      pure (draft.openTable path last)
  lineEnd
  match opened with
  | none => failure
  | some next => pure next

def statements (draft : TomlDraft) : Nat → Reader TomlDraft
  | 0 => failure
  | fuel + 1 => do
      blanks
      match ← peek with
      | none => pure draft
      | some '#' => do
          lineEnd
          statements draft fuel
      | some '\n' | some '\r' => do
          newline
          statements draft fuel
      | some '[' => do
          let next ← header draft
          statements next fuel
      | some _ => do
          let next ← assignment draft
          statements next fuel

end TomlText

/-- The tree of a document. A mark at the very start that only tells the encoding is skipped. -/
def Toml.read (text : String) : Option Toml :=
  let chars := match text.toList with
    | '\ufeff' :: rest => rest
    | chars => chars
  match TomlText.statements {} (chars.length + 1) chars with
  | some (draft, _) => draft.close
  | none => none

end Linkage
