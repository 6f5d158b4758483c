import Switchboard.Base64
import Switchboard.Digest.Sha1
import Switchboard.Http.Basic

/-! # From requests to frames

A client that wants to go on in frames asks for that in the headers of its request.

* `Http.Request.upgradeKey` — the key of such a request, if it is one;
* `Http.acceptance` — what shows the client that its request was understood;
* `Http.Response.switching` — the response after which frames follow. -/

namespace Switchboard.Http

def occurs (word : List Char) : List Char → Bool
  | [] => word.isEmpty
  | c :: text => word.isPrefixOf (c :: text) || occurs word text

/-- Whether a header has a value in which a word occurs, in letters of either case. -/
def mentions (headers : Headers) (name word : String) : Bool :=
  (headers.text? name).any fun value => occurs word.toList (Text.lowerAscii value).toList

def framingVersions : List String := ["13", "8", "7"]

/-- The key of a request to go on in frames. -/
def Request.upgradeKey (r : Request) : Option (List UInt8) :=
  if mentions r.headers "upgrade" "websocket" ∧ mentions r.headers "connection" "upgrade"
      ∧ (r.headers.text? "sec-websocket-version").any (· ∈ framingVersions) then
    r.headers.get? "sec-websocket-key"
  else none

/-- What is put behind every key before it is digested. -/
def acceptanceMark : String := "258EAFA5-E914-47DA-95CA-C5AB0DC85B11"

/-- What shows the client that its request was understood. -/
def acceptance (key : List UInt8) : String :=
  Base64.encode .standard (Sha1.digest (key ++ Bytes.ofString acceptanceMark)) ++ "="

def Response.switching (key : List UInt8) : Response :=
  ⟨101, [("upgrade", "websocket"), ("connection", "upgrade"),
    ("sec-websocket-accept", acceptance key)], ""⟩

end Switchboard.Http
