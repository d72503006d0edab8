import ChannelFeed.Http.Library
import ChannelFeed.Http.Status
import ChannelFeed.Url.Parser

/-!
# The network

What lies between a request and its reply. Replies are data: the servers of a run are the list of what
they will say and how long they take, in the order in which requests are sent. The last reply is given again
and again. Encrypted connections are no different from others. Of a request only the URL is told, without user name
and password: headers, proxies and the names of hosts being looked up are left out.
-/

namespace ChannelFeed.Http

/-- What goes wrong with a request or its reply, and how the library words it. -/
inductive Mishap where
  /-- No connection comes about, so that the request does not arrive. -/
  | refused (cause : String)
  | headless (cause : String)
  /-- The head of the reply comes, but not all of its body. -/
  | cutOff (cause : String)
deriving DecidableEq, Repr

structure Reply where
  status : Nat
  body : List UInt8
  location : Option String
  mishap : Option Mishap
  /-- How many milliseconds it takes until the head has come, or none will. A silent server takes for ever. -/
  headAfter : Option Nat
  /-- How many more it takes until the body has come, or no more of it will. -/
  bodyAfter : Option Nat
deriving DecidableEq, Repr

def Reply.prompt (status : Nat) (body : List UInt8) (location : Option String) (mishap : Option Mishap) : Reply :=
  ⟨status, body, location, mishap, some 0, some 0⟩

/-- The reply of a server that has nothing to say. -/
def Reply.empty : Reply := .prompt 200 [] none none

/-- Why a reply, or all of its body, was not obtained. -/
inductive TransportFault where
  | schemeNotAllowed (url : Url)
  | unsendable (url : Url)
  | noHead (url : Url) (cause : String)
  | tooManyRedirects (url : Url)
  | noBody (cause : String)
deriving DecidableEq, Repr

/-- How it is worded that a limit is over. -/
def timedOut : String := "operation timed out"

def TransportFault.message : TransportFault → String
  | .schemeNotAllowed url => about "builder error" url ++ "URL scheme is not allowed"
  | .unsendable url => about "builder error" url ++ "Parsed Url is not a valid Uri"
  | .noHead url cause => about "error sending request" url ++ cause
  | .tooManyRedirects url => about "error following redirect" url ++ "too many redirects"
  | .noBody cause => "request or response body error: " ++ cause
where
  about (what : String) (url : Url) : String := what ++ " for url (" ++ url.text ++ "): "

structure Network where
  /-- What will be said to the requests that are sent from now on. -/
  replies : List Reply
  /-- The requests that have arrived, the first one first. -/
  arrived : List String
deriving DecidableEq

namespace Network

def answering (replies : List Reply) : Network := ⟨replies, []⟩

/-- What comes of a request where no host can be reached. -/
def noRoute : Reply :=
  .prompt 0 [] none
    (some (.refused "error trying to connect: tcp connect error: Network is unreachable (os error 101)"))

/-- A network on which no host can be reached. -/
def unreachable : Network := .answering [noRoute]

def nextReply (net : Network) : Reply := net.replies.head?.getD .empty

/-- The replies behind the next one. The last reply stays. -/
def laterReplies : List Reply → List Reply
  | _ :: next :: rest => next :: rest
  | replies => replies

/-- How a request is written down when it arrives: without fragment, user name and password. -/
def logged (url : Url) : String := "GET " ++ url.anonymous.withoutFragment.text

/-- The longest URL that can be sent, in bytes. -/
def maxLength : Nat := 65534

/-- Whether a URL can be sent: it is not too long, and its host has no character that is only allowed
elsewhere. -/
def canSend (url : Url) : Bool :=
  url.chars.length ≤ maxLength && url.authority.any fun a =>
    a.host ≠ .name [] && !a.host.text.any fun c => ['"', '\x60', '\x7b', '\x7d'].contains c

/-- Sends a request. If it arrives, the reply is fixed. A connection that is refused is refused at once. -/
def request (net : Network) (url : Url) : Except TransportFault Reply × Network :=
  if url.scheme ≠ "http".toList ∧ url.scheme ≠ "https".toList then (.error (.schemeNotAllowed url), net)
  else if !canSend url then (.error (.unsendable url), net)
  else
    let sent := { net with replies := laterReplies net.replies }
    match net.nextReply.mishap with
    | some (.refused cause) => (.error (.noHead url cause), sent)
    | _ => (.ok net.nextReply, { sent with arrived := net.arrived ++ [logged url] })

end Network

end ChannelFeed.Http
