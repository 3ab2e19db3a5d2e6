import TypeStubs.Text.Blank
import TypeStubs.Text.Pieces

/-! The verbs of requests. -/
namespace TypeStubs

/-- The verb of a request. -/
inductive Verb where
  | get
  | post
  | put
  | delete
  | patch
  deriving DecidableEq, Repr, Inhabited

namespace Verb

/-- The verb as it is sent. -/
def text : Verb → String
  | .get => "GET"
  | .post => "POST"
  | .put => "PUT"
  | .delete => "DELETE"
  | .patch => "PATCH"

/-- Whether requests with the verb have a body. -/
def sendsBody : Verb → Bool
  | .post | .put | .patch => true
  | .get | .delete => false

/-- The verb a tag names, whatever the case of its letters and with or without the
name of the protocol before it. -/
def ofTag? (tag : String) : Option Verb :=
  let tag := Chars.asciiLower (Chars.trim tag.toList)
  let tag := String.ofList ((Chars.dropLead? "http".toList tag).getD tag)
  if tag == "get" then some .get
  else if tag == "post" then some .post
  else if tag == "put" then some .put
  else if tag == "delete" then some .delete
  else if tag == "patch" then some .patch
  else none

/-- The verb of a method. Without a tag that names one it is decided by whether there
is a body to send. -/
def choose (tag : Option String) (hasBody : Bool) : Verb :=
  (tag.bind ofTag?).getD (if hasBody then .post else .get)

end Verb

end TypeStubs
