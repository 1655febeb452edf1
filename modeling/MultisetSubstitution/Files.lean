import MultisetSubstitution.Text.Lines
import MultisetSubstitution.Text.Quoted
import MultisetSubstitution.Text.Utf8

/-! Files: the text of a file, and the reasons why there is none. -/

set_option autoImplicit false

namespace MultisetSubstitution.Files

inductive Fault where
  | nulInPath
  | missing (path : String)
  | notDirectory (path : String)
  | isDirectory (path : String)
  | alreadyThere (path : String)
  | nameTooLong (path : String)
  | undecodable (fault : Text.Utf8.Fault)
  deriving DecidableEq, Repr

def reasonText : Text.Utf8.Reason → String
  | .start => "invalid start byte"
  | .continuation => "invalid continuation byte"
  | .ended => "unexpected end of data"

def undecodableMessage (fault : Text.Utf8.Fault) : String :=
  let place :=
    if fault.length = 1 then
      "byte 0x" ++ String.ofList (Text.hexadecimal 2 fault.first.toNat) ++ " in position " ++
        toString fault.position
    else
      "bytes in position " ++ toString fault.position ++ "-" ++
        toString (fault.position + fault.length - 1)
  "'utf-8' codec can't decode " ++ place ++ ": " ++ reasonText fault.reason

def Fault.message : Fault → String
  | .nulInPath => "embedded null byte"
  | .missing path => "[Errno 2] No such file or directory: " ++ Text.quoted path
  | .notDirectory path => "[Errno 20] Not a directory: " ++ Text.quoted path
  | .isDirectory path => "[Errno 21] Is a directory: " ++ Text.quoted path
  | .alreadyThere path => "[Errno 17] File exists: " ++ Text.quoted path
  | .nameTooLong path => "[Errno 36] File name too long: " ++ Text.quoted path
  | .undecodable fault => undecodableMessage fault

/-- The text that the bytes of a file encode, with line feeds for all its line ends. -/
def textOfBytes (bytes : ByteArray) : Except Fault String :=
  match Text.Utf8.decode bytes with
  | .ok text => .ok (.ofList (Text.unifyLineEnds text.toList))
  | .error fault => .error (.undecodable fault)

end MultisetSubstitution.Files
