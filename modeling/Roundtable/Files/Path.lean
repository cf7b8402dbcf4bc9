/-!
The text of paths. A path is a sequence of segments with slashes between them; it is absolute if it
begins with a slash, which makes the first segment empty.
-/

namespace Roundtable.Files

/-- The pieces of a text between its slashes, of which the first goes on from `segment`, given last
character first. -/
def segmentsFrom (segment : List Char) : List Char → List String
  | [] => [String.ofList segment.reverse]
  | c :: rest =>
    if c = '/' then String.ofList segment.reverse :: segmentsFrom [] rest
    else segmentsFrom (c :: segment) rest

/-- The segments of a path, empty ones included. -/
def segments (path : String) : List String :=
  segmentsFrom [] path.toList

def isAbsolute (path : String) : Bool :=
  path.toList.head? = some '/'

/-- Segments without those at the end that lead nowhere: empty ones and single dots. -/
def dropIdle (segments : List String) : List String :=
  (segments.reverse.dropWhile fun segment => segment = "" || segment = ".").reverse

/-- The path of the directory that a path names something in. The first segment counts even if it
is a dot, or empty as in an absolute path; a root and an empty path are in no directory. -/
def parent? (path : String) : Option String :=
  match segments path with
  | [] => none
  | first :: rest =>
    match dropIdle rest with
    | [] => if first = "" then none else some ""
    | names =>
      match dropIdle names.dropLast with
      | [] => some (if first = "" then "/" else first)
      | names => some ("/".intercalate (first :: names))

/-- The directory and a relative path in it as one path. -/
def joinPath (directory path : String) : String :=
  if directory.toList.getLast? = some '/' then directory ++ path else directory ++ "/" ++ path

/-- The path with a tilde at its head replaced by the home directory, if there is one. A tilde that
does not stand alone or before a slash is part of a name. -/
def expandHome (home : Option String) (path : String) : String :=
  match home, path.toList with
  | some home, ['~'] => home
  | some home, '~' :: '/' :: rest =>
    let rest := rest.dropWhile (· = '/')
    if rest.isEmpty then home else joinPath home (String.ofList rest)
  | _, _ => path

end Roundtable.Files
