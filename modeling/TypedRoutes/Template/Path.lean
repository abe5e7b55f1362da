import TypedRoutes.Text.Trim
/-!
# Paths

The path of a request is what its URI leaves after the scheme and the authority, up to the query or the
fragment. A path in normal form begins with a slash and does not end in one, the root apart.

`normalizePath` takes any URI to its path, and `mount` joins a template under a base path.
-/
namespace TypedRoutes
open Text

/-- Whether a character is a slash. -/
def isSlash (c : Char) : Bool :=
  c == '/'

/-- Whether a character begins the query or the fragment. -/
def endsPath (c : Char) : Bool :=
  c == '?' || c == '#'

/-- The URI up to its query or fragment. -/
def beforeQuery (uri : List Char) : List Char :=
  uri.takeWhile (! endsPath ·)

/-- What follows `://`, if that stands before the first slash. -/
def afterScheme? : List Char → Option (List Char)
  | [] => none
  | c :: cs =>
    if isSlash c then none
    else
      match afterWord? "://".toList (c :: cs) with
      | some rest => some rest
      | none => afterScheme? cs

/-- The URI from its first slash on, without the scheme and the authority if it has them. -/
def withoutAuthority (uri : List Char) : List Char :=
  match afterScheme? uri with
  | some rest => rest.dropWhile (! isSlash ·)
  | none => uri

/-- The text with a slash in front, unless it begins with one. -/
def rooted (cs : List Char) : List Char :=
  match cs with
  | '/' :: _ => cs
  | _ => '/' :: cs

/-- The path of a URI. -/
def normalizePath (uri : List Char) : List Char :=
  rooted (trimEnd isSlash (withoutAuthority (beforeQuery uri)))

/-- The text without the slashes at its ends. -/
def trimSlashes (cs : List Char) : List Char :=
  trim isSlash cs

/-- A template joined under a base path. Slashes at the ends of either do not count, and a base of
nothing else is no base. -/
def mount (base : Option (List Char)) (template : List Char) : List Char :=
  let template := trimSlashes template
  match base.map trimSlashes with
  | none | some [] => '/' :: template
  | some base => if template.isEmpty then '/' :: base else '/' :: base ++ '/' :: template

end TypedRoutes
