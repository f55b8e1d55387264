import ReferencePages.Json.Display
import ReferencePages.Utf8
/-!
What can go wrong in an exchange with the summarizing endpoint. A fault carries what it was raised with;
its name and its two text forms are what logs, messages and transcripts show of it.
-/

namespace ReferencePages

/-- The families of faults that carry a plain list of values. Faults of any other kind are told apart by
the name of their kind. -/
inductive FaultFamily
  | unreachable
  | timeout
  | system
  | connectionReset
  | protocol
  | statusLine
  | disconnected
  | badAddress
  | value
  | overflow
  | runtime
  | depth
  | missingKey
  | wrongType
  | exhausted
  | other (name : Text)
  deriving DecidableEq, Repr

/-- A fault of an exchange: values with their family, an answer with a status that is not a success, an
answer that broke off, or a refusal to summarize. -/
inductive ExchangeFault
  | plain (family : FaultFamily) (values : List Json)
  | status (code reason : Json) (body : Bytes)
  | incomplete (received : Nat) (missing : Option Int)
  | unavailable (values : List Json)
  deriving Repr

namespace FaultFamily

/-- The name that logs show. -/
def name : FaultFamily → Text
  | unreachable => "URLError"
  | timeout => "TimeoutError"
  | system => "OSError"
  | connectionReset => "ConnectionResetError"
  | protocol => "HTTPException"
  | statusLine => "BadStatusLine"
  | disconnected => "RemoteDisconnected"
  | badAddress => "InvalidURL"
  | value => "ValueError"
  | overflow => "OverflowError"
  | runtime => "RuntimeError"
  | depth => "RecursionError"
  | missingKey => "KeyError"
  | wrongType => "TypeError"
  | exhausted => "IndexError"
  | other name => name

/-- Families whose values are a system error number and its words. -/
def isSystem : FaultFamily → Bool
  | timeout | system | connectionReset | disconnected => true
  | _ => false

end FaultFamily

namespace ExchangeFault

/-- The names of system errors with a name of their own, by number. -/
def namedSystemErrors : List (Int × Text) :=
  [(1, "PermissionError"), (2, "FileNotFoundError"), (3, "ProcessLookupError"),
   (4, "InterruptedError"), (10, "ChildProcessError"), (11, "BlockingIOError"),
   (13, "PermissionError"), (17, "FileExistsError"), (20, "NotADirectoryError"),
   (21, "IsADirectoryError"), (32, "BrokenPipeError"), (103, "ConnectionAbortedError"),
   (104, "ConnectionResetError"), (108, "BrokenPipeError"), (110, "TimeoutError"),
   (111, "ConnectionRefusedError"), (114, "BlockingIOError"), (115, "BlockingIOError")]

/-- The number of a system error: the first of two to five values. A truth value counts as one or
zero. -/
def systemNumber? : List Json → Option Int
  | number :: _ :: more =>
    if more.length ≤ 3 then
      match number with
      | .int n => some n
      | .bool b => some (if b then 1 else 0)
      | _ => none
    else none
  | _ => none

/-- The values as one text. -/
def valuesText : List Json → Text
  | [] => ""
  | [v] => Json.toText v
  | vs => "(" ++ Text.joinWith ", " (vs.map Json.display) ++ ")"

/-- The name of a fault with values. A system error is named by its number where that has a name. -/
def plainName (family : FaultFamily) (values : List Json) : Text :=
  if family = .system then
    ((systemNumber? values).bind fun n => namedSystemErrors.lookup n).getD family.name
  else family.name

/-- The files that a system error names: the third of two to five values, and with it the fifth. Where
an operation would have had to wait, a number in the third place is an amount and no file. -/
def systemFiles (family : FaultFamily) (values : List Json) : List Json :=
  match values with
  | _ :: _ :: file :: more =>
    if more.length ≤ 2 ∧ ¬ file.isNull ∧
        ¬ (plainName family values = "BlockingIOError" ∧ file.isNumber) then
      file :: (more.drop 1).filter fun other => ¬ other.isNull
    else []
  | _ => []

/-- The text of a status line: an empty one is shown by its displayed form. -/
def statusLine (line : Json) : Json :=
  if line.isEmpty then .string line.display else line

/-- The values as they are kept. A system error that names files keeps its number and its words. -/
def keptValues (family : FaultFamily) (values : List Json) : List Json :=
  match family with
  | .statusLine => (values.take 1).map statusLine
  | .unreachable => values.take 1
  | _ => if family.isSystem ∧ systemFiles family values ≠ [] then values.take 2 else values

/-- The name that logs show. -/
def name : ExchangeFault → Text
  | plain family values => plainName family values
  | status .. => "HTTPError"
  | incomplete .. => "IncompleteRead"
  | unavailable _ => "SummarizationUnavailable"

/-- Whether the exchange took too long. -/
def isTimeout : ExchangeFault → Bool
  | plain (.other _) _ => false
  | fault => fault.name = "TimeoutError"

/-- The form that says what was received. -/
def incompleteText (received : Nat) (missing : Option Int) : Text :=
  "IncompleteRead(" ++ Text.ofNat received ++ " bytes read" ++
    (match missing with
      | some n => ", " ++ Text.ofInt n ++ " more expected"
      | none => "") ++ ")"

/-- A system error in words: its number, what it means, and the files that it names. -/
def systemText (family : FaultFamily) (values : List Json) : Text :=
  match values with
  | number :: words :: more =>
    if more.length ≤ 3 then
      "[Errno " ++ Json.toText number ++ "] " ++ Json.toText words ++
        (match systemFiles family values with
          | [] => []
          | files => ": " ++ Text.joinWith " -> " (files.map Json.display))
    else valuesText values
  | _ => valuesText values

/-- The fault in words. -/
def message : ExchangeFault → Text
  | plain .unreachable values =>
    "<urlopen error " ++ (match values with
      | v :: _ => Json.toText v
      | [] => "") ++ ">"
  | plain .missingKey [v] => Json.display v
  | plain family values =>
    if family.isSystem then systemText family values else valuesText (keptValues family values)
  | status code reason _ => "HTTP Error " ++ Json.toText code ++ ": " ++ Json.toText reason
  | incomplete received missing => incompleteText received missing
  | unavailable values => valuesText values

/-- The name with the values in parentheses. -/
def calledText (name : Text) (values : List Json) : Text :=
  name ++ "(" ++ Text.joinWith ", " (values.map Json.display) ++ ")"

/-- The fault with its name and its values. -/
def display : ExchangeFault → Text
  | plain family values => calledText (plainName family values) (keptValues family values)
  | status code reason _ =>
    "<HTTPError " ++ Json.toText code ++ ": " ++ Json.display reason ++ ">"
  | incomplete received missing => incompleteText received missing
  | unavailable values => calledText "SummarizationUnavailable" values

/-- Whether a fault is one of carrying out the exchange, as opposed to one of the program. -/
def isOfTransport : ExchangeFault → Bool
  | plain .runtime _ | plain .depth _ | plain .missingKey _ | plain .wrongType _
  | plain .exhausted _ | plain (.other _) _ => false
  | unavailable _ => false
  | _ => true

end ExchangeFault
end ReferencePages
