/-
The address that a request is for.

An address is a path with or without a query (`/a?b`), the same behind a scheme and an
authority (`http://host/a?b`), an authority alone (`host:443`), or a star.  A fragment
is of no use to the one who answers and is left out.  Behind an authority an empty path
means the root, and the two usual schemes are written in lower case; everything else
is kept as it is given.
-/
namespace Telemetry.Http

/-- The address of a request. -/
structure Uri where
  scheme : Option (List Char)
  authority : List Char
  path : List Char
  query : Option (List Char)

namespace Uri

/-- Whether a character may stand in the name of a scheme. -/
def isSchemeChar (c : Char) : Bool := c.isAlphanum || ['+', '-', '.', '~'].contains c

/-- The name of a scheme and what follows it, if a text begins with a scheme. -/
def splitScheme? (chars : List Char) : Option (List Char × List Char) :=
  match chars.dropWhile isSchemeChar with
  | ':' :: '/' :: '/' :: rest => some (chars.takeWhile isSchemeChar, rest)
  | _ => none

/-- The name of a scheme as it is written. -/
def schemeName (name : List Char) : List Char :=
  let lowered := name.map Char.toLower
  if lowered = "http".toList ∨ lowered = "https".toList then lowered else name

/-- Whether a character belongs to an authority; the other three end it. -/
def isAuthorityChar (c : Char) : Bool := c != '/' && c != '?' && c != '#'

/-- The address whose path, query and fragment are given by a text. -/
def ofTarget (scheme : Option (List Char)) (authority target : List Char) : Uri :=
  let kept := target.takeWhile (· != '#')
  let path := kept.takeWhile (· != '?')
  ⟨scheme, authority, if path.isEmpty then ['/'] else path,
    (kept.dropWhile (· != '?')).tail?⟩

/-- The address that a text stands for. -/
def ofString (text : String) : Uri :=
  match text.toList with
  | '/' :: rest => ofTarget none [] ('/' :: rest)
  | ['*'] => ⟨none, [], ['*'], none⟩
  | chars =>
    match splitScheme? chars with
    | none => ⟨none, chars, [], none⟩
    | some (name, rest) =>
      ofTarget (some (schemeName name)) (rest.takeWhile isAuthorityChar)
        (rest.dropWhile isAuthorityChar)

/-- The characters of an address. -/
def chars (uri : Uri) : List Char :=
  (match uri.scheme with
    | none => []
    | some name => name ++ [':', '/', '/']) ++
    uri.authority ++ uri.path ++
    (match uri.query with
    | none => []
    | some query => '?' :: query)

/-- The address in writing. -/
def text (uri : Uri) : String := String.ofList uri.chars

end Uri

end Telemetry.Http
