import Linkage.Number.Decimal
import Linkage.Text.Alphanumeric
import Linkage.Text.Blank
import Linkage.Text.Pattern
import Linkage.Trace

/-!
Directives of a log filter: how much detail is shown, of which targets, and in which spans. A
directive is written `LEVEL`, `TARGET`, `TARGET=LEVEL` or `TARGET[SPAN{FIELD=VALUE}]=LEVEL`, where
every part of the last form may be left out. Without a level everything is shown.
-/

namespace Linkage

inductive ValueTest where
  | flag (expected : Bool)
  | count (expected : Nat)
  | number (text : String)
  | pattern (text : String) (pattern : Text.Pattern)
  deriving DecidableEq, Repr

structure FieldTest where
  name : String
  value : Option ValueTest
  deriving DecidableEq, Repr

structure Directive where
  /-- How the names of the targets start. -/
  target : String
  span : Option String
  fields : List FieldTest
  /-- The amount of detail that is shown; at zero there is none. -/
  detail : Nat
  deriving DecidableEq, Repr

inductive DirectiveFault where
  | form
  | level
  | pattern
  deriving DecidableEq, Repr

def DirectiveFault.message : DirectiveFault → String
  | .form => "invalid filter directive"
  | .level => "error parsing level filter: expected one of \"off\", \"error\", \"warn\", "
      ++ "\"info\", \"debug\", \"trace\", or a number 0-5"
  | .pattern => "invalid field filter: error building NFA"

namespace ValueTest

/-- A truth value, else a number, else a pattern. -/
def read? (text : List Char) : Option ValueTest :=
  if text = "true".toList then some (.flag true)
  else if text = "false".toList then some (.flag false)
  else match Number.readUnsigned 64 text, Number.readBinary .binary64 text with
    | .ok value, _ => some (.count value)
    | _, .ok _ => some (.number (String.ofList text))
    | _, _ => (Text.Pattern.read? text).map (.pattern (String.ofList text))

def fits : ValueTest → FieldValue → Bool
  | .flag expected, .flag value => expected == value
  | .count expected, .count value => expected == value
  | .pattern _ wanted, .text value | .pattern _ wanted, .written value =>
      wanted.fits value.toList
  | _, _ => false

end ValueTest

/-- Reads `NAME` or `NAME=VALUE`. What stands behind a second equals sign is not looked at. -/
def FieldTest.read? (text : List Char) : Option FieldTest :=
  let name := String.ofList (text.takeWhile (· ≠ '='))
  match text.dropWhile (· ≠ '=') with
  | [] => some ⟨name, none⟩
  | _ :: rest => (ValueTest.read? (rest.takeWhile (· ≠ '='))).map fun value => ⟨name, some value⟩

namespace Directive

def ofLevel (detail : Nat) : Directive := ⟨"", none, [], detail⟩

/-- A level by number, or by name in any case. -/
def readDetail? (text : List Char) : Option Nat :=
  match Number.readUnsigned 64 text with
  | .ok number => if number ≤ Level.trace.detail then some number else none
  | .error _ =>
      match String.ofList (text.map Char.toLower) with
      | "off" => some 0
      | "error" | "" => some Level.error.detail
      | "warn" => some Level.warn.detail
      | "info" => some Level.info.detail
      | "debug" => some Level.debug.detail
      | "trace" => some Level.trace.detail
      | _ => none

/-!
Parts of a text. A directive is found inside the outer blanks of its text, at offsets in bytes,
but its parts are cut at these offsets from the text with the blanks. So a directive with a blank
before it does not read as the same one without.
-/

/-- What follows the first bytes, which may not end inside a character. -/
def dropBytes : Nat → List Char → Option (List Char)
  | 0, text => some text
  | _ + 1, [] => none
  | count + 1, char :: rest =>
      if char.utf8Size ≤ count + 1 then dropBytes (count + 1 - char.utf8Size) rest else none

def takeBytes : Nat → List Char → Option (List Char)
  | 0, _ => some []
  | _ + 1, [] => none
  | count + 1, char :: rest =>
      if char.utf8Size ≤ count + 1 then
        (takeBytes (count + 1 - char.utf8Size) rest).map (char :: ·)
      else none

def cut (text : List Char) (start stop : Nat) : Except DirectiveFault (List Char) :=
  match (dropBytes start text).bind (takeBytes (stop - start)) with
  | some part => .ok part
  | none => .error .form

def cutRest (text : List Char) (start : Nat) : Except DirectiveFault (List Char) :=
  match dropBytes start text with
  | some part => .ok part
  | none => .error .form

inductive Place where
  | start
  | target
  | span (start : Nat)
  | field (start : Nat)
  | afterField
  | afterSpan
  | level (start : Nat)

structure Draft where
  place : Place
  directive : Directive

namespace Draft

def fresh : Draft := ⟨.start, .ofLevel Level.trace.detail⟩

/-- What the name of a target may start with. What follows may be any character. -/
def startsTarget (char : Char) : Bool :=
  char == '-' || char == ':' || char == '_' || Text.isAlphanumeric char

def advance (text : List Char) (offset : Nat) (char : Char) (draft : Draft) :
    Except DirectiveFault Draft :=
  let read := draft.directive
  match draft.place with
  | .start =>
      if char = '[' then .ok ⟨.span (offset + 1), read⟩
      else if startsTarget char then .ok ⟨.target, read⟩
      else .error .form
  | .target =>
      if char = '=' ∨ char = '[' then do
        let target ← cut text 0 offset
        let place := if char = '=' then Place.level (offset + 1) else .span (offset + 1)
        .ok ⟨place, { read with target := String.ofList target }⟩
      else .ok draft
  | .span start =>
      if char = ']' then do
        let name ← cut text start offset
        .ok ⟨.afterSpan, { read with span := some (String.ofList name) }⟩
      else if char = '\x7b' then do
        let name ← cut text start offset
        let span := if name.isEmpty then none else some (String.ofList name)
        .ok ⟨.field (offset + 1), { read with span := span }⟩
      else .ok draft
  | .field start =>
      if char = '\x7d' then do
        let field ← cut text start offset
        if field.isEmpty then .error .form
        else match FieldTest.read? field with
          | some test => .ok ⟨.afterField, { read with fields := [test] }⟩
          | none => .error .pattern
      else .ok draft
  | .afterField => if char = ']' then .ok ⟨.afterSpan, read⟩ else .error .form
  | .afterSpan => if char = '=' then .ok ⟨.level (offset + 1), read⟩ else .error .form
  | .level _ => .ok draft

def finish (text : List Char) (draft : Draft) : Except DirectiveFault Directive :=
  let read := draft.directive
  match draft.place with
  | .target =>
      match readDetail? text with
      | some detail => .ok (.ofLevel detail)
      | none => .ok { read with target := String.ofList text }
  | .level start => do
      let level ← cutRest text start
      if level.isEmpty then .ok read
      else match readDetail? level with
        | some detail => .ok { read with detail := detail }
        | none => .error .level
  | .afterSpan => .ok read
  | .start | .span _ | .field _ | .afterField => .error .form

def readFrom (text : List Char) : Nat → List Char → Draft → Except DirectiveFault Directive
  | _, [], draft => draft.finish text
  | offset, char :: rest, draft => do
      let next ← draft.advance text offset char
      readFrom text (offset + char.utf8Size) rest next

end Draft

def read (text : List Char) : Except DirectiveFault Directive :=
  Draft.readFrom text 0 (Text.dropOuterBlanks text) Draft.fresh

end Directive

end Linkage
