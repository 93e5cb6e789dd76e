import SnapshotSuite.Text.Utf8
/-!
# Paths

A path is a text in which slashes part the names. Joining never tidies a path up: it is shown as it
was put together.
-/

namespace SnapshotSuite

/-- A path as it is written. -/
abbrev Path := String

namespace Path

/-- Whether the path starts at the root. -/
def isAbsolute (path : Path) : Bool :=
  path.toList.head? == some '/'

/-- The path of `file` seen from the directory `base`; an absolute file stays as it is. -/
def join (base file : Path) : Path :=
  if isAbsolute file then file
  else if base.toList.getLast?.all (· == '/') then base ++ file
  else base ++ "/" ++ file

/-- The bytes of the path of `file` seen from a directory whose path is given as bytes. -/
def joinBytes (base : Bytes) (file : Path) : Bytes :=
  let tail := Utf8.bytesOf file
  let slash := Utf8.bytesOf "/"
  if isAbsolute file then tail
  else if slash.isSuffixOf base ∨ base = [] then base ++ tail
  else base ++ slash ++ tail

/-- The names between the slashes, empty ones left out. -/
def names : List Char → List (List Char)
  | [] => []
  | c :: cs =>
    if c = '/' then names cs
    else
      match cs, names cs with
      | d :: _, n :: ns => if d = '/' then [c] :: n :: ns else (c :: n) :: ns
      | _, ns => [c] :: ns

/-- The components of a path, empty ones left out. -/
def components (path : Path) : List String :=
  (names path.toList).map String.ofList

/-- Whether the path ends in a slash, and so can only stand for a directory. -/
def endsInSlash (path : Path) : Bool :=
  path.toList.getLast? == some '/'

/-- A name cut at its last dot: what stands before it and what stands after it. -/
def cut? : List Char → Option (List Char × List Char)
  | [] => none
  | c :: cs =>
    match cut? cs with
    | some (before, after) => some (c :: before, after)
    | none => if c = '.' then some ([], cs) else none

/-- The name of an entry without its extension. A dot in first place starts none. -/
def stem (name : String) : String :=
  match cut? name.toList with
  | some (c :: before, _) => String.ofList (c :: before)
  | _ => name

/-- The extension of an entry, without its dot. -/
def extension? (name : String) : Option String :=
  match cut? name.toList with
  | some (_ :: _, after) => some (String.ofList after)
  | _ => none

end Path

end SnapshotSuite
