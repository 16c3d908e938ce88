/-!
Paths as texts. A path is split at slashes; taking the parent drops the last component and joining
puts a slash between two paths, and neither tidies up anything else. A leading slash makes a path
absolute. Empty components and single points mean nothing, except for a point at the very start.
-/

namespace Linkage.Path

def split : List Char → List (List Char)
  | [] => [[]]
  | char :: rest =>
      if char = '/' then [] :: split rest
      else match split rest with
        | first :: more => (char :: first) :: more
        | [] => [[char]]

/-- The components that mean something: two points are kept, single points and blanks are not. -/
def components (path : List Char) : List (List Char) :=
  (split path).filter fun part => part ≠ [] ∧ part ≠ ['.']

def isAbsolute (path : List Char) : Bool :=
  path.head? = some '/'

/-- The root or the leading point, which the dropping of components leaves alone. -/
def headLength : List Char → Nat
  | '/' :: _ => 1
  | ['.'] | '.' :: '/' :: _ => 1
  | _ => 0

/-- Drops slashes and single points at the end of a text, given and returned back to front. -/
def trimEnd : List Char → List Char
  | '/' :: rest => trimEnd rest
  | '.' :: '/' :: rest => trimEnd rest
  | ['.'] => []
  | rest => rest

def dropLast (reversed : List Char) : List Char :=
  trimEnd (reversed.dropWhile (· ≠ '/'))

/-- The directory a path stands in, as far as the text tells. The root and the empty path have
none. -/
def parent? (path : List Char) : Option (List Char) :=
  let head := path.take (headLength path)
  let body := trimEnd (path.drop (headLength path)).reverse
  if body.isEmpty then
    if head = ['.'] then some [] else none
  else some (head ++ (dropLast body).reverse)

def join (base path : List Char) : List Char :=
  if isAbsolute path ∨ base = [] then path
  else if base.getLast? = some '/' then base ++ path
  else base ++ '/' :: path

/-- The last component, unless the path ends in the root, a point or two points. -/
def fileName? (path : List Char) : Option (List Char) :=
  let body := trimEnd (path.drop (headLength path)).reverse
  let last := (body.takeWhile (· ≠ '/')).reverse
  if last.isEmpty ∨ last = ['.', '.'] then none else some last

/-- The file name up to its last point. A point at the start does not count. -/
def fileStem? (path : List Char) : Option (List Char) :=
  (fileName? path).map fun name =>
    match (name.reverse.dropWhile (· ≠ '.')) with
    | [] | ['.'] => name
    | _ :: before => before.reverse

end Linkage.Path
