/-! Why the system refuses to read or write a file. -/
namespace TypeStubs

/-- A refusal of the system. -/
inductive SystemError where
  | notFound
  | alreadyThere
  | notDirectory
  | isDirectory
  | nameTooLong
  | nulInPath
  /-- The file is no text. -/
  | notText
  /-- Any other refusal, with the system's own words. -/
  | other (text : String)
  deriving DecidableEq, Repr, Inhabited

namespace SystemError

/-- The text of a refusal. -/
def message : SystemError → String
  | .notFound => "No such file or directory (os error 2)"
  | .alreadyThere => "File exists (os error 17)"
  | .notDirectory => "Not a directory (os error 20)"
  | .isDirectory => "Is a directory (os error 21)"
  | .nameTooLong => "File name too long (os error 36)"
  | .nulInPath => "file name contained an unexpected NUL byte"
  | .notText => "stream did not contain valid UTF-8"
  | .other text => text

end SystemError

end TypeStubs
