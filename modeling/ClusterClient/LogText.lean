import ClusterClient.Error

namespace ClusterClient.LogText

/-- ASCII letters, digits, punctuation and the blank. -/
def isPrintable (c : Char) : Bool := ' ' ≤ c && c ≤ '~'

/-- What of a text is printable. -/
def printable (text : String) : String := String.ofList (text.toList.filter isPrintable)

/-- The last offset in bytes between two characters of a text, searched down from a given one. -/
def boundary (text : String) : Nat → Nat
  | 0 => 0
  | offset + 1 =>
    if String.Pos.Raw.isValid text ⟨offset + 1⟩ then offset + 1 else boundary text offset

/-- The search ends between two characters, at the latest before all of them. -/
theorem boundary_isValid (text : String) (room : Nat) :
    String.Pos.Raw.IsValid text ⟨boundary text room⟩ := by
  induction room with
  | zero => exact String.Pos.Raw.isValid_zero
  | succ offset ih =>
    rw [boundary]
    split
    · next between => exact String.Pos.Raw.isValid_eq_true_iff.mp between
    · exact ih

/-- The whole characters in the first bytes of a text. -/
def start (room : Nat) (text : String) : String :=
  (text.sliceTo (text.pos ⟨boundary text room⟩ (boundary_isValid text room))).copy

/-- How many bytes of a body are logged. -/
def bodyLimit : Nat := 200

/-- What a cut body ends with. -/
def cutMark (body : String) : String :=
  "... [truncated, " ++ toString body.utf8ByteSize ++ " bytes total]"

/-- A body for the log: cut after 200 bytes, and only what is printable. -/
def ofBody (body : String) : String :=
  printable (if bodyLimit < body.utf8ByteSize then start bodyLimit body ++ cutMark body else body)

/-- How many characters of an error are shown. -/
def errorLimit : Nat := 120

/-- The first printable characters of a text, as many as are shown. -/
def excerpt (text : String) : String :=
  String.ofList ((text.toList.filter isPrintable).take errorLimit)

/-- A text cut to what is printable and fits; dots tell that something is missing. -/
def abridged (text : String) : String :=
  if (excerpt text).utf8ByteSize < text.utf8ByteSize then excerpt text ++ "..." else excerpt text

/-- An error for the terminal, in place of its own text `display`. -/
def summary (error : Error) (display : String) : String :=
  match error with
  | .unauthorized .. => "Authentication failed. Check the configured bearer token."
  | .forbidden .. => "Permission denied for this resource."
  | .transport .. => "Request failed. Check your network connection and the server address."
  | .serverRejection _ status =>
    if status.code = 404 then "Resource not found."
    else if status.code = 409 then
      "Resource conflict. The resource may already exist or have been modified."
    else if 500 ≤ status.code then "Server temporarily unavailable. Please try again."
    else abridged display
  | _ => abridged display

def ofError (error : Error) : String := summary error error.message

end ClusterClient.LogText
