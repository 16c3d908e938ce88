import Linkage.Proofs.Cuts
import Linkage.Proofs.ManifestTexts

/-!
Where the paths of a manifest lead. Taking the parent of a path and joining two paths work on the
texts and leave repeated slashes and single points as they stand. Seen by their components, the one
drops the last component and the other puts two paths together. So a relative path of a manifest
leads where it would lead from the directory of the manifest.
-/

namespace Linkage

namespace Path

theorem split_ne_nil (path : List Char) : split path ≠ [] := by
  cases path with
  | nil => simp [split]
  | cons char rest =>
      rw [split]
      split
      · simp
      · split <;> simp

theorem split_append_slash (front back : List Char) :
    split (front ++ '/' :: back) = split front ++ split back := by
  induction front with
  | nil => simp [split]
  | cons char rest ih =>
      by_cases slash : char = '/'
      · simp [split, slash, ih]
      · obtain ⟨first, more, parts⟩ := List.exists_cons_of_ne_nil (split_ne_nil rest)
        simp [split, slash, ih, parts]

theorem split_of_no_slash {path : List Char} (noSlash : '/' ∉ path) : split path = [path] := by
  induction path with
  | nil => rfl
  | cons char rest ih =>
      rw [List.mem_cons, not_or] at noSlash
      simp [split, Ne.symm noSlash.1, ih noSlash.2]

theorem components_append_slash (front back : List Char) :
    components (front ++ '/' :: back) = components front ++ components back := by
  rw [components, split_append_slash, List.filter_append]
  rfl

@[simp] theorem components_nil : components [] = [] := rfl

@[simp] theorem components_point : components ['.'] = [] := rfl

@[simp] theorem components_cons_slash (path : List Char) :
    components ('/' :: path) = components path :=
  components_append_slash [] path

@[simp] theorem components_append_one_slash (path : List Char) :
    components (path ++ ['/']) = components path := by
  simp [components_append_slash]

structure IsPart (part : List Char) : Prop where
  noSlash : '/' ∉ part
  notBlank : part ≠ []
  notPoint : part ≠ ['.']

theorem IsPart.components {part : List Char} (isPart : IsPart part) : components part = [part] := by
  rw [Path.components, split_of_no_slash isPart.noSlash]
  simp [isPart.notBlank, isPart.notPoint]

theorem IsPart.reverse {part : List Char} (isPart : IsPart part) : IsPart part.reverse where
  noSlash := by simpa using isPart.noSlash
  notBlank := by simpa using isPart.notBlank
  notPoint := by simpa [List.reverse_eq_iff] using isPart.notPoint

/-! The last component. Texts are back to front here. -/

theorem components_trimEnd (reversed : List Char) :
    components (trimEnd reversed).reverse = components reversed.reverse := by
  fun_induction trimEnd reversed with
  | case1 rest ih => simp [ih]
  | case2 rest ih => simp [ih, components_append_slash]
  | case3 => rfl
  | case4 rest _ _ _ => rfl

theorem trimEnd_suffix (reversed : List Char) : trimEnd reversed <:+ reversed := by
  fun_induction trimEnd reversed with
  | case1 rest ih => exact ih.trans (List.suffix_cons _ _)
  | case2 rest ih => exact ih.trans ((List.suffix_cons _ _).trans (List.suffix_cons _ _))
  | case3 => exact List.nil_suffix
  | case4 rest _ _ _ => exact List.suffix_rfl

inductive EndsInPart : List Char → Prop where
  | alone {part : List Char} (isPart : IsPart part) : EndsInPart part
  | under {part : List Char} (before : List Char) (isPart : IsPart part) :
      EndsInPart (part ++ '/' :: before)

theorem trimEnd_eq_nil_or_endsInPart (reversed : List Char) :
    trimEnd reversed = [] ∨ EndsInPart (trimEnd reversed) := by
  fun_induction trimEnd reversed with
  | case1 rest ih => exact ih
  | case2 rest ih => exact ih
  | case3 => exact Or.inl rfl
  | case4 rest noSlash noPoint notPoint =>
      by_cases blank : rest = []
      · exact Or.inl blank
      right
      -- Nothing more is trimmed, so what follows the last slash is neither blank nor a point.
      by_cases found : '/' ∈ rest
      · obtain ⟨part, before, rfl, whole⟩ := List.eq_append_cons_of_mem found
        refine .under before ⟨whole, ?_, ?_⟩
        · rintro rfl
          exact noSlash before rfl
        · rintro rfl
          exact noPoint before rfl
      · exact .alone ⟨found, blank, notPoint⟩

theorem components_dropLast {reversed : List Char} (ends : EndsInPart reversed) :
    components (dropLast reversed).reverse = (components reversed.reverse).dropLast := by
  cases ends with
  | alone isPart =>
      rw [dropLast, Text.dropWhile_ne_of_not_mem isPart.noSlash, isPart.reverse.components]
      rfl
  | @under part before isPart =>
      -- The dropping stops at the slash before the component, and the rest is trimmed once more.
      have rest : dropLast (part ++ '/' :: before) = trimEnd before := by
        rw [dropLast, Text.dropWhile_ne_append isPart.noSlash]
        rfl
      rw [rest, components_trimEnd]
      simp [components_append_slash, isPart.reverse.components]

theorem dropLast_suffix (reversed : List Char) : dropLast reversed <:+ reversed :=
  (trimEnd_suffix _).trans (List.dropWhile_suffix _)

section
variable {path parent : List Char}

/-- The shapes that the front of a path can have. -/
inductive Head : List Char → List Char → List Char → Prop where
  | root (rest : List Char) : Head ('/' :: rest) ['/'] rest
  | point : Head ['.'] ['.'] []
  | under (rest : List Char) : Head ('.' :: '/' :: rest) ['.'] ('/' :: rest)
  | plain {path : List Char} (relative : isAbsolute path = false) : Head path [] path

theorem head_cases (path : List Char) :
    Head path (path.take (headLength path)) (path.drop (headLength path)) := by
  fun_cases headLength path with
  | case1 rest => exact .root rest
  | case2 => exact .point
  | case3 rest => exact .under rest
  | case4 _ noSlash _ _ =>
      refine .plain ?_
      cases path with
      | nil => rfl
      | cons char rest =>
          have notSlash : char ≠ '/' := by
            rintro rfl
            exact noSlash rest rfl
          simpa [isAbsolute] using notSlash

theorem Head.components_body {head body : List Char} (shape : Head path head body) :
    components body = components path := by
  cases shape with
  | root rest => simp
  | point => rfl
  | under rest => simpa using (components_append_slash ['.'] rest).symm
  | plain _ => rfl

/-- Whatever is left of the body, the head adds no component to it. -/
theorem Head.components_append {head body front : List Char} (shape : Head path head body)
    (isFront : front <+: body) : components (head ++ front) = components front := by
  obtain ⟨back, whole⟩ := isFront
  cases shape with
  | root rest => simp
  | point =>
      obtain ⟨rfl, -⟩ := List.append_eq_nil_iff.mp whole
      rfl
  | under rest =>
      cases front with
      | nil => rfl
      | cons char more =>
          rw [List.cons_append, List.cons.injEq] at whole
          obtain ⟨rfl, -⟩ := whole
          exact (components_append_slash ['.'] more).trans (components_cons_slash more).symm
  | plain _ => rfl

theorem Head.isAbsolute_append {head body front : List Char} (shape : Head path head body)
    (isFront : front <+: body) : isAbsolute (head ++ front) = isAbsolute path := by
  cases shape with
  | root rest => rfl
  | point => rfl
  | under rest => rfl
  | plain relative =>
      obtain ⟨back, rfl⟩ := isFront
      cases front with
      | nil => exact relative.symm
      | cons char more => rfl

theorem EndsInPart.ne_nil {reversed : List Char} (ends : EndsInPart reversed) :
    reversed ≠ [] := by
  cases ends with
  | alone isPart => exact isPart.notBlank
  | under before isPart => simp

def trimmed (path : List Char) : List Char :=
  trimEnd (path.drop (headLength path)).reverse

theorem trimmed_eq_nil_or_endsInPart (path : List Char) :
    trimmed path = [] ∨ EndsInPart (trimmed path) :=
  trimEnd_eq_nil_or_endsInPart _

theorem components_trimmed (path : List Char) :
    components (trimmed path).reverse = components path := by
  rw [trimmed, components_trimEnd, List.reverse_reverse, (head_cases path).components_body]

theorem dropLast_trimmed_front (path : List Char) :
    (dropLast (trimmed path)).reverse <+: path.drop (headLength path) := by
  have isSuffix := (dropLast_suffix (trimmed path)).trans (trimEnd_suffix _)
  simpa using List.reverse_prefix.mpr isSuffix

theorem parent?_of_blank (blank : trimmed path = []) :
    parent? path = if path.take (headLength path) = ['.'] then some [] else none := by
  rw [trimmed] at blank
  simp [parent?, blank]

theorem parent?_of_endsInPart (ends : EndsInPart (trimmed path)) :
    parent? path = some (path.take (headLength path) ++ (dropLast (trimmed path)).reverse) := by
  have notBlank := ends.ne_nil
  rw [trimmed] at notBlank
  simp [parent?, notBlank, trimmed]

/-- The parent of a path lacks its last component, and begins as the path does. -/
theorem parent?_eq_some (found : parent? path = some parent) :
    components parent = (components path).dropLast ∧ isAbsolute parent = isAbsolute path := by
  have shape := head_cases path
  rcases trimmed_eq_nil_or_endsInPart path with blank | ends
  · rw [parent?_of_blank blank, Option.ite_none_right_eq_some] at found
    obtain ⟨isPoint, ⟨⟩⟩ := found
    constructor
    · rw [← components_trimmed path, blank]
      rfl
    · rw [← shape.isAbsolute_append List.nil_prefix, isPoint]
      rfl
  · cases (parent?_of_endsInPart ends).symm.trans found
    constructor
    · rw [shape.components_append (dropLast_trimmed_front path),
        components_dropLast ends, components_trimmed]
    · exact shape.isAbsolute_append (dropLast_trimmed_front path)

theorem components_of_no_parent (orphan : parent? path = none) : components path = [] := by
  rcases trimmed_eq_nil_or_endsInPart path with blank | ends
  · rw [← components_trimmed path, blank]
    rfl
  · rw [parent?_of_endsInPart ends] at orphan
    cases orphan

end

variable {base path : List Char}

theorem components_join (relative : isAbsolute path = false) :
    components (join base path) = components base ++ components path := by
  by_cases blank : base = []
  · simp [join, blank]
  by_cases slash : base.getLast? = some '/'
  · obtain ⟨front, rfl⟩ := List.getLast?_eq_some_iff.mp slash
    simp [join, relative, components_append_slash]
  · simp [join, relative, blank, slash, components_append_slash]

theorem isAbsolute_join (relative : isAbsolute path = false) :
    isAbsolute (join base path) = isAbsolute base := by
  cases base with
  | nil =>
      rw [join, if_pos (Or.inr rfl)]
      exact relative
  | cons char rest =>
      simp only [join, relative, Bool.false_eq_true, false_or, reduceCtorEq, if_false]
      split <;> rfl

end Path

/-- The root is a directory, however it is written, and a directory cannot be read as a file. -/
def FileSystem.RootIsDirectory (files : FileSystem) : Prop :=
  ∀ path : String, Path.isAbsolute path.toList → Path.components path.toList = [] →
    ∃ error, files path = .error error

/-- Above the working directory, blanks and single points lead nowhere else. -/
theorem FileTree.walk_blank (tree : FileTree) (levels : Nat) {parts : List (List Char)}
    (blank : parts.filter (fun part => part ≠ [] ∧ part ≠ ['.']) = []) :
    tree.walk (.above levels) (parts.map String.ofList) = .ok (.above levels) := by
  induction parts with
  | nil => rfl
  | cons part rest ih =>
      by_cases counts : part ≠ [] ∧ part ≠ ['.']
      · simp [counts] at blank
      rw [List.filter_cons_of_neg (by simpa using counts)] at blank
      have stays : tree.enter (.above levels) (String.ofList part) = .ok (.above levels) := by
        by_cases empty : part = []
        · simp [FileTree.enter, empty]
        · have point : part = ['.'] := by simpa [empty] using counts
          simp [FileTree.enter, point]
      rw [List.map_cons, FileTree.walk]
      simp only [stays]
      exact ih blank

theorem FileTree.rootIsDirectory (tree : FileTree) : FileSystem.RootIsDirectory tree.read := by
  intro path absolute blank
  have walked := tree.walk_blank 1 blank
  simp only [FileTree.read, absolute, if_true, walked]
  repeat' split
  all_goals exact ⟨_, rfl⟩

namespace Manifest

/-- The paths of the manifest are relative to the directory of this path, and absolute if it is.
Where that directory is absolute or the empty path, a path that has been resolved stays as it is.
-/
structure ResolvesFrom (path : String) (manifest : Manifest) : Prop where
  ofAbsolute : ∀ target : String, Path.isAbsolute target.toList = true →
    manifest.resolvePath target = target
  components : ∀ target : String, Path.isAbsolute target.toList = false →
    Path.components (manifest.resolvePath target).toList =
      (Path.components path.toList).dropLast ++ Path.components target.toList
  isAbsolute : ∀ target : String, Path.isAbsolute target.toList = false →
    Path.isAbsolute (manifest.resolvePath target).toList = Path.isAbsolute path.toList
  again : (∀ parent, Path.parent? path.toList = some parent →
      Path.isAbsolute parent = true ∨ parent = []) →
    ∀ target, manifest.resolvePath (manifest.resolvePath target) = manifest.resolvePath target

variable {files : FileSystem} {path : String} {manifest : Manifest}

theorem readable_and_baseDir_of_ofPath (done : ofPath files path = .ok manifest) :
    (∃ content, files path = .ok content) ∧
      manifest.baseDir = (Path.parent? path.toList).map String.ofList := by
  rw [ofPath] at done
  cases found : files path with
  | error error =>
      rw [found] at done
      cases done
  | ok content =>
      refine ⟨⟨content, rfl⟩, ?_⟩
      split at done
      · cases done
      · split at done
        · cases done
        · cases done
          rfl

theorem resolvePath_of_no_base (noBase : manifest.baseDir = none) (target : String) :
    manifest.resolvePath target = target := by
  rw [resolvePath, noBase]

theorem resolvePath_of_absolute (manifest : Manifest) {target : String}
    (absolute : Path.isAbsolute target.toList = true) : manifest.resolvePath target = target := by
  rw [resolvePath]
  split
  · rw [if_pos absolute]
  · rfl

theorem resolvePath_of_relative {base : List Char} {target : String}
    (hasBase : manifest.baseDir = some (String.ofList base))
    (relative : Path.isAbsolute target.toList = false) :
    (manifest.resolvePath target).toList = Path.join base target.toList := by
  simp [resolvePath, hasBase, relative]

theorem resolvesFrom_of_no_parent (noBase : manifest.baseDir = none)
    (orphan : Path.parent? path.toList = none) (relative : Path.isAbsolute path.toList = false) :
    manifest.ResolvesFrom path where
  ofAbsolute target _ := resolvePath_of_no_base noBase target
  components target _ := by
    rw [resolvePath_of_no_base noBase, Path.components_of_no_parent orphan]
    rfl
  isAbsolute target isRelative := by
    rw [resolvePath_of_no_base noBase, isRelative, relative]
  again _ target := resolvePath_of_no_base noBase _

theorem resolvesFrom_of_parent {parent : List Char}
    (hasBase : manifest.baseDir = some (String.ofList parent))
    (found : Path.parent? path.toList = some parent) : manifest.ResolvesFrom path where
  ofAbsolute target absolute := manifest.resolvePath_of_absolute absolute
  components target relative := by
    rw [resolvePath_of_relative hasBase relative, Path.components_join relative,
      (Path.parent?_eq_some found).1]
  isAbsolute target relative := by
    rw [resolvePath_of_relative hasBase relative, Path.isAbsolute_join relative,
      (Path.parent?_eq_some found).2]
  again tidy target := by
    cases relative : Path.isAbsolute target.toList with
    | true =>
        rw [manifest.resolvePath_of_absolute relative, manifest.resolvePath_of_absolute relative]
    | false =>
        have joined := resolvePath_of_relative hasBase relative
        rcases tidy parent found with absolute | blank
        · apply manifest.resolvePath_of_absolute
          rw [joined, Path.isAbsolute_join relative, absolute]
        · have same : manifest.resolvePath target = target := by
            rw [← String.toList_inj, joined, blank, Path.join, if_pos (Or.inr rfl)]
          rw [same, same]

/-- A manifest that was read from a path resolves its paths from there; one that was read from a
text leaves them as they are. -/
theorem resolvePath_from_directory (rootIsDirectory : files.RootIsDirectory) :
    (∀ path manifest, ofPath files path = .ok manifest → manifest.ResolvesFrom path) ∧
      ∀ text manifest, ofText text = .ok manifest →
        ∀ target, manifest.resolvePath target = target := by
  constructor
  · intro path manifest done
    obtain ⟨⟨content, readable⟩, isBase⟩ := readable_and_baseDir_of_ofPath done
    cases found : Path.parent? path.toList with
    | some parent =>
        rw [found] at isBase
        exact resolvesFrom_of_parent isBase found
    | none =>
        rw [found] at isBase
        -- An absolute path without a parent would be the root.
        refine resolvesFrom_of_no_parent isBase found (Bool.eq_false_iff.mpr fun absolute => ?_)
        obtain ⟨error, unreadable⟩ :=
          rootIsDirectory path absolute (Path.components_of_no_parent found)
        cases readable.symm.trans unreadable
  · intro text manifest done
    obtain ⟨tree, _, decoded⟩ := ofText_eq_ok_iff_ofToml.mp done
    exact resolvePath_of_no_base (baseDir_of_ofToml decoded)

theorem resolvePath_beside_manifest :
    let tree := FileTree.addFile {} "sub/link.toml" (.bytes "main = '../a.wat'".toUTF8)
    let manifest : Manifest := { main := some "../a.wat", baseDir := some "./sub" }
    FileSystem.RootIsDirectory tree.read ∧
      ofPath tree.read "./sub//./link.toml" = .ok manifest ∧
      Path.components (manifest.resolvePath "../a.wat").toList =
        ["sub".toList, "..".toList, "a.wat".toList] ∧
      Path.isAbsolute (manifest.resolvePath "../a.wat").toList = false := by
  intro tree manifest
  have decoded : ofText "main = '../a.wat'" = .ok { manifest with baseDir := none } := by
    decide +kernel
  have directory : (Path.parent? "./sub//./link.toml".toList).map String.ofList =
      some "./sub" := by decide +kernel
  have found : tree.read "./sub//./link.toml" = .ok (.bytes "main = '../a.wat'".toUTF8) := rfl
  have parsed : ofPath tree.read "./sub//./link.toml" = .ok manifest := by
    rw [ofPath, found, Except.bind, FileContent.text_bytes]
    simp only [decoded, directory]
    rfl
  have resolves := (resolvePath_from_directory tree.rootIsDirectory).1 _ manifest parsed
  refine ⟨tree.rootIsDirectory, parsed, ?_, ?_⟩
  · rw [resolves.components "../a.wat" (by decide)]
    decide
  · rw [resolves.isAbsolute "../a.wat" (by decide)]
    decide

end Manifest

end Linkage
