/-!
Patterns that a text fits or does not fit as a whole. A text is read from its first character on,
with all the ways of going through the pattern side by side, the preferred one first. A way that
has come to the end of the pattern gives up every way after it, so `a|ab` does not fit `ab`.
-/

namespace Linkage.Text

structure CharSet where
  negated : Bool
  ranges : List (Char × Char)
  deriving DecidableEq, Repr

namespace CharSet

def only (char : Char) : CharSet := ⟨false, [(char, char)]⟩

def withinLine : CharSet := ⟨true, [('\n', '\n')]⟩

def contains (set : CharSet) (char : Char) : Bool :=
  set.negated != set.ranges.any fun range => range.1 ≤ char && char ≤ range.2

end CharSet

inductive Pattern where
  | empty
  | one (set : CharSet)
  | textStart
  | textEnd
  | both (first second : Pattern)
  /-- The first alternative is preferred. -/
  | either (first second : Pattern)
  /-- Any number of times: the most that go, or with `few` the fewest. -/
  | many (few : Bool) (inner : Pattern)
  deriving DecidableEq, Repr

namespace Pattern

/-- A way through a pattern up to the next character: the set that has to contain it and the
pattern for what follows. Without them the way is at the end of the pattern. -/
abbrev Way := Option (CharSet × Pattern)

def Way.andThen (second : Pattern) (way : CharSet × Pattern) : Way :=
  some (way.1, .both way.2 second)

/-- The ways through a pattern, the preferred one first, at the start or at the end of the text or
between the two. -/
def ways (atStart atEnd : Bool) : Pattern → List Way
  | .empty => [none]
  | .one set => [some (set, .empty)]
  | .textStart => if atStart then [none] else []
  | .textEnd => if atEnd then [none] else []
  | .both first second =>
      (ways atStart atEnd first).flatMap fun way => match way with
        | some way => [Way.andThen second way]
        | none => ways atStart atEnd second
  | .either first second => ways atStart atEnd first ++ ways atStart atEnd second
  | .many few inner =>
      let again := (ways atStart atEnd inner).map fun way =>
        way.bind (Way.andThen (.many few inner))
      if few then none :: again else again ++ [none]

def underway : List Way → List (CharSet × Pattern)
  | some way :: rest => way :: underway rest
  | none :: _ | [] => []

/-- Whether one of several patterns, in their order of preference, fits the rest of a text. -/
def fitsRest (atStart : Bool) (patterns : List Pattern) : List Char → Bool
  | [] => patterns.any fun pattern => (ways atStart true pattern).contains none
  | char :: rest =>
      let next := (underway (patterns.flatMap (ways atStart false))).filter (·.1.contains char)
      fitsRest false (next.map Prod.snd).eraseDups rest

def fits (pattern : Pattern) (text : List Char) : Bool :=
  fitsRest true [pattern] text

/-- A part of a pattern that is being read: the alternatives that are complete, and the items of
the one that is not, the last item first. -/
structure Part where
  before : Option Pattern
  items : List Pattern

namespace Part

def fresh : Part := ⟨none, []⟩

def push (part : Part) (item : Pattern) : Part :=
  { part with items := item :: part.items }

def close (part : Part) : Pattern :=
  let branch := match part.items with
    | [] => .empty
    | last :: earlier => earlier.foldl (fun rest item => .both item rest) last
  match part.before with
  | some before => .either before branch
  | none => branch

def repeated (part : Part) (repetition : Pattern → Pattern) : Option Part :=
  match part.items with
  | [] => none
  | last :: earlier => some { part with items := repetition last :: earlier }

end Part

def once (few : Bool) (inner : Pattern) : Pattern :=
  if few then .either .empty inner else .either inner .empty

def repetition? (few : Bool) : Char → Option (Pattern → Pattern)
  | '*' => some (.many few)
  | '+' => some fun inner => .both inner (.many few inner)
  | '?' => some (once few)
  | _ => none

/-- The character that stands behind a backslash. Signs stand for themselves. -/
def escaped? : Char → Option Char
  | 'n' => some '\n'
  | 't' => some '\t'
  | 'r' => some '\r'
  | 'a' => some '\x07'
  | 'f' => some '\x0c'
  | 'v' => some '\x0b'
  | char =>
      if 0x80 ≤ char.toNat || char.isAlphanum || char == '<' || char == '>' then none
      else some char

def readMember? : List Char → Option (Char × List Char)
  | '[' :: _ | [] => none
  | ['\\'] => none
  | '\\' :: char :: rest => (escaped? char).map fun char => (char, rest)
  | char :: rest => some (char, rest)

/-- The ranges of a set up to its closing bracket, in at most `steps` ranges. A bracket in the
first place stands for itself, and so does a dash in the last. -/
def readRanges? : Nat → Bool → List Char → Option (List (Char × Char) × List Char)
  | 0, _, _ => none
  | steps + 1, isFirst, text =>
      match isFirst, text with
      | false, ']' :: rest => some ([], rest)
      | _, text => do
          let (low, afterLow) ← readMember? text
          let (high, rest) ← match afterLow with
            | '-' :: ']' :: _ => some (low, afterLow)
            | '-' :: afterDash => readMember? afterDash
            | _ => some (low, afterLow)
          if high < low then none
          else do
            let (ranges, rest) ← readRanges? steps false rest
            some ((low, high) :: ranges, rest)

def readSet? (text : List Char) : Option (CharSet × List Char) :=
  let (negated, members) := match text with
    | '^' :: rest => (true, rest)
    | rest => (false, rest)
  (readRanges? (members.length + 1) true members).map fun read => (⟨negated, read.1⟩, read.2)

def readParts? : Nat → List Part → List Char → Option Pattern
  | 0, _, _ => none
  | _, [], _ => none
  | _ + 1, [part], [] => some part.close
  | _ + 1, _, [] => none
  | steps + 1, part :: outer, char :: rest =>
      match repetition? false char, rest with
      | some _, '?' :: afterMark => do
          let repetition ← repetition? true char
          let part ← part.repeated repetition
          readParts? steps (part :: outer) afterMark
      | some repetition, _ => do
          let part ← part.repeated repetition
          readParts? steps (part :: outer) rest
      | none, _ =>
          match char, rest, outer with
          | '(', '?' :: ':' :: inside, _ => readParts? steps (Part.fresh :: part :: outer) inside
          | '(', '?' :: _, _ => none
          | '(', _, _ => readParts? steps (Part.fresh :: part :: outer) rest
          | ')', _, enclosing :: more =>
              readParts? steps (enclosing.push part.close :: more) rest
          | ')', _, [] => none
          | '|', _, _ => readParts? steps (⟨some part.close, []⟩ :: outer) rest
          | '[', _, _ => do
              let (set, rest) ← readSet? rest
              readParts? steps (part.push (.one set) :: outer) rest
          | '\x7b', _, _ => none
          | '.', _, _ => readParts? steps (part.push (.one .withinLine) :: outer) rest
          | '^', _, _ => readParts? steps (part.push .textStart :: outer) rest
          | '$', _, _ => readParts? steps (part.push .textEnd :: outer) rest
          | '\\', 'A' :: rest, _ => readParts? steps (part.push .textStart :: outer) rest
          | '\\', 'z' :: rest, _ => readParts? steps (part.push .textEnd :: outer) rest
          | '\\', named :: rest, _ => do
              let char ← escaped? named
              readParts? steps (part.push (.one (.only char)) :: outer) rest
          | '\\', [], _ => none
          | char, _, _ => readParts? steps (part.push (.one (.only char)) :: outer) rest

def read? (text : List Char) : Option Pattern :=
  readParts? (text.length + 1) [Part.fresh] text

end Pattern

end Linkage.Text
