import ModuleRegistry.Table

/-!
# Receiving a reply

A reply arrives in pieces: its header lines one by one, then its body in chunks of any size.  A
`Reception` collects them.  Whoever delivers a piece is told how many of its bytes were taken, which
has to be all of them if the reply is to go on.

A header line gives one field: the key is the text before its first colon, the value the text after
it without spaces, tabs and line ends around it.  A line without a colon, such as the status line,
gives none.  A repeated key keeps the value that came last.  `fieldLine` is the writing of a field
in a request.
-/

namespace ModuleRegistry.Http

open Text (ascii)

/-- Space, tab, carriage return and line feed: what may surround a header value. -/
def isLinearSpace (b : UInt8) : Bool := b == 0x20 || b == 0x09 || b == 0x0D || b == 0x0A

/-- The field of a header line, if it has a colon. -/
def readField? (line : Text) : Option (Text × Text) :=
  if ':'.toUInt8 ∈ line then
    some (Text.before ':'.toUInt8 line, Text.strip isLinearSpace (Text.after ':'.toUInt8 line))
  else none

/-- The line that sends a field, without its line end. -/
def fieldLine (key value : Text) : Text := key ++ ascii ": " ++ value

/-- What has arrived of a reply. -/
structure Reception where
  headers : Table Text := ∅
  body : Text := []
deriving DecidableEq

namespace Reception

/-- Takes in a header line: how many of its bytes were taken, and what has arrived then. -/
def headerLine (r : Reception) (line : Text) : Nat × Reception :=
  (line.length,
    match readField? line with
    | some (key, value) => { r with headers := r.headers.insert key value }
    | none => r)

/-- Takes in a piece of the body: how many of its bytes were taken, and what has arrived then. -/
def chunk (r : Reception) (bytes : Text) : Nat × Reception :=
  (bytes.length, { r with body := r.body ++ bytes })

/-- What has arrived after header lines in order. -/
def headerLines (r : Reception) (lines : List Text) : Reception :=
  lines.foldl (fun r line => (r.headerLine line).2) r

theorem headerLine_of_no_colon (r : Reception) {line : Text} (h : ':'.toUInt8 ∉ line) :
    r.headerLine line = (line.length, r) := by
  simp [headerLine, readField?, h]

end Reception

example : readField? (ascii "Content-Type:  text/plain\r\n") =
    some (ascii "Content-Type", ascii "text/plain") := by decide
example : readField? (ascii "HTTP/1.1 200 OK\r\n") = none := by decide

end ModuleRegistry.Http
