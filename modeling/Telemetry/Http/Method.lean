/-
Request methods, and the label value made of them.

A method is any token, and its case matters: `GET` and `get` are two methods.  As a
label value it is written in lower case.  For the nine methods in common use that
text is in a table, so nothing has to be made for them; any other method is lowered
letter by letter.  A token is ASCII, so lowering the ASCII letters lowers them all.
-/
import Telemetry.Http.Error

namespace Telemetry.Http

/-- The characters of a token that are neither letters nor digits. -/
def tokenMarks : List Char :=
  ['!', '#', '$', '%', '&', '\x27', '*', '+', '-', '.', '^', '_', '\x60', '|', '~']

/-- Whether a character may stand in a token. -/
def isTokenChar (c : Char) : Bool := c.isAlphanum || tokenMarks.contains c

/-- Whether a text is a token: not empty, and made of token characters. -/
def isToken (text : List Char) : Bool := !text.isEmpty && text.all isTokenChar

/-- A request method. -/
structure Method where
  text : String
  token : isToken text.toList = true
deriving DecidableEq

namespace Method

/-- The method spelt by a text, if the text is a token. -/
def ofString (text : String) : Except MessageError Method :=
  if token : isToken text.toList = true then .ok ⟨text, token⟩ else .error .invalidMethod

/-- The methods in common use, each with its label value. -/
def common : List (String × String) :=
  [("GET", "get"), ("POST", "post"), ("PUT", "put"), ("DELETE", "delete"), ("HEAD", "head"),
   ("OPTIONS", "options"), ("CONNECT", "connect"), ("PATCH", "patch"), ("TRACE", "trace")]

/-- The label value that the table of common methods holds, if it holds one. -/
def commonLabel? (method : Method) : Option String := common.lookup method.text

/-- The method in lower case. -/
def lowered (method : Method) : String := String.ofList (method.text.toList.map Char.toLower)

/-- The method's label value. -/
def label (method : Method) : String := method.commonLabel?.getD method.lowered

end Method

end Telemetry.Http
