import CardFilter.Command.Call
import CardFilter.Names.Message
import Std.Async.DNS
import Std.Async.TCP
import Std.Async.Timer

/-!
# The program

Answers the questions of a command from the real outside: files, the standard input and the network.
-/

namespace CardFilter.Shell

open Std.Async

/-- What the system calls its errors. -/
def systemErrors : List (UInt32 × String) := [
  (1, "Operation not permitted"),
  (2, "No such file or directory"),
  (5, "Input/output error"),
  (13, "Permission denied"),
  (17, "File exists"),
  (20, "Not a directory"),
  (21, "Is a directory"),
  (22, "Invalid argument"),
  (28, "No space left on device"),
  (30, "Read-only file system"),
  (36, "File name too long"),
  (40, "Too many levels of symbolic links"),
  (104, "Connection reset by peer"),
  (110, "Connection timed out"),
  (111, "Connection refused")]

/-- The number of an error; some layers report it below zero. -/
def systemNumber (code : UInt32) : UInt32 := if code < 0x80000000 then code else 0 - code

/-- What is said about an error, with its number. -/
def systemText (code : UInt32) (detail : String) : String :=
  let number := systemNumber code
  (systemErrors.lookup number).getD detail ++ " (os error " ++ toString number ++ ")"

def errorText : IO.Error → String
  | .noFileOrDirectory _ code detail => systemText code detail
  | .permissionDenied _ code detail => systemText code detail
  | .alreadyExists _ code detail => systemText code detail
  | .inappropriateType _ code detail => systemText code detail
  | .invalidArgument _ code detail => systemText code detail
  | .noSuchThing _ code detail => systemText code detail
  | .resourceExhausted _ code detail => systemText code detail
  | .otherError code detail => systemText code detail
  | .userError detail => detail
  | error => toString error

/-- The number of the error that a part of the way to a file is no folder. -/
def notFolder : UInt32 := 20

/-- Whether there is no file, as against one that cannot be read. -/
def isAbsent : IO.Error → Bool
  | .noFileOrDirectory .. => true
  | .inappropriateType _ code _ => systemNumber code == notFolder
  | .invalidArgument .. => true
  | _ => false

def notText : String := "stream did not contain valid UTF-8"

def textOf (bytes : ByteArray) : Except String String :=
  match String.fromUTF8? bytes with
  | some text => .ok text
  | none => .error notText

def load (path : String) : IO (Except ReadError String) := do
  try
    return (textOf (← IO.FS.readBinFile path)).mapError .unreadable
  catch error =>
    let detail := errorText error
    return .error (if isAbsent error then .absent detail else .unreadable detail)

def input : IO (Except String String) := do
  try
    return textOf (← (← IO.getStdin).readBinToEnd)
  catch error =>
    return .error (errorText error)

/-- The folder that a path leads through, if it names one. -/
def folderOf (path : String) : Option String :=
  let reversed := path.toList.reverse.dropWhile (· == '/')
  match reversed.dropWhile (· != '/') with
  | [] => none
  | ['/'] => some "/"
  | _ :: rest => some (String.ofList rest.reverse)

def save (path content : String) : IO (Except WriteError Unit) := do
  try
    if let some folder := folderOf path then IO.FS.createDirAll folder
  catch error =>
    return .error ⟨true, errorText error⟩
  try
    IO.FS.writeFile path content
    return .ok ()
  catch error =>
    return .error ⟨false, errorText error⟩

def socketAddress (service : UInt16) : Std.Net.IPAddr → Std.Net.SocketAddress
  | .v4 address => .v4 ⟨address, service⟩
  | .v6 address => .v6 ⟨address, service⟩

/-- Reads until the other side closes. -/
partial def receiveAll (client : TCP.Socket.Client) (bytes : ByteArray) : Async ByteArray := do
  match ← client.recv? 65536 with
  | some more => receiveAll client (bytes ++ more)
  | none => return bytes

/-- Sends a request on a connection of its own and reads the whole answer. -/
def exchange (request : WebRequest) (address : WebAddress) : Async WebResponse := do
  let found ← DNS.getAddrInfo address.host (toString address.service)
  let some first := found[0]? | throw (IO.userError "the host has no address")
  let client ← TCP.Socket.Client.mk
  client.connect (socketAddress address.service first)
  client.send (request.message address).toUTF8
  let bytes ← receiveAll client .empty
  match WebResponse.ofBytes? bytes.toList with
  | some response => return response
  | none => throw (IO.userError "the answer is incomplete")

/-- A timer counts milliseconds in a word, so longer times than this are not waited for. -/
def longestTime : Nat := 1000000000

def expire (seconds : UInt64) : Async WebResponse := do
  sleep (Std.Time.Millisecond.Offset.ofNat (1000 * min seconds.toNat longestTime))
  throw (IO.userError "operation timed out")

instance : Inhabited WebResponse := ⟨⟨0, ""⟩⟩

/-- A request is sent if its address is one that can be reached and its headers can be written. -/
def send (request : WebRequest) : IO (Except String WebResponse) := do
  if !request.headers.all fun header ↦ isHeaderText header.2 then return .error "builder error"
  match WebAddress.ofUrl? request.url with
  | none => return .error ("no way to reach " ++ request.url)
  | some address =>
    try
      return .ok (← (Async.race (exchange request address) (expire request.timeout)).block)
    catch error =>
      return .error (errorText error)

/-- Runs a program for real. -/
def execute {α : Type} : Program α → IO (Except Failure α)
  | .done value => return .ok value
  | .fail failure => return .error failure
  | .load path next => do execute (next (← load path))
  | .input next => do execute (next (← input))
  | .save path content next => do execute (next (← save path content))
  | .send request next => do execute (next (← send request))

def environment : IO Environment := do
  return {
    home := ← IO.getEnv "HOME"
    settingsPath := ← IO.getEnv "CONDCTL_CONFIG"
    baseUrl := ← IO.getEnv "CONDCTL_API_URL"
    terminal := ← (← IO.getStdout).isTty }

def reportOn (call : Call) : IO Report := do
  match Invocation.ofArguments call.arguments with
  | .error stop => return stop.report
  | .ok invocation =>
    return invocation.report call.environment (← execute (invocation.answer call.environment))

end CardFilter.Shell

def main (arguments : List String) : IO UInt32 := do
  let report ← CardFilter.Shell.reportOn ⟨← CardFilter.Shell.environment, arguments⟩
  IO.print report.stdout
  IO.eprint report.stderr
  return report.exit.value.toUInt32
