-- Where program texts come from: files that are read whole, and what can go wrong
-- when one is.

namespace LS8

inductive FileError
  | notFound
  | notDirectory
  | isDirectory
  | nameTooLong
  /-- The bytes of the file are not a text in UTF-8. -/
  | notText
  | other (text : String)
  deriving DecidableEq

def FileError.message : FileError → String
  | .notFound => "No such file or directory (os error 2)"
  | .notDirectory => "Not a directory (os error 20)"
  | .isDirectory => "Is a directory (os error 21)"
  | .nameTooLong => "File name too long (os error 36)"
  | .notText => "stream did not contain valid UTF-8"
  | .other text => text

/-- A way to read the file with a given name. -/
abbrev Reader := String → Except FileError ByteArray

/-- Reads a file as text. -/
def Reader.text (read : Reader) (name : String) : Except FileError String :=
  match read name with
  | .error e => .error e
  | .ok bytes =>
    match String.fromUTF8? bytes with
    | some text => .ok text
    | none => .error .notText

end LS8
