import ChannelFeed.Failure
import ChannelFeed.Url.Parser

/-!
# Endpoints

The base URL of a service and the URLs of its resources. A resource is named by one segment, which is
added to the path of the base behind its last slash.
-/

namespace ChannelFeed

/-- The base URL of a service: a URL whose path is a list of segments. -/
structure BaseUrl where
  url : Url
  hasSegments : url.hasPlainPath = false

namespace BaseUrl

def parse (text : String) : Except Failure BaseUrl :=
  match Url.parse text with
  | .error fault => .error (.invalidBaseUrl text fault.message)
  | .ok url =>
    if h : url.hasPlainPath = false then .ok ⟨url, h⟩
    else .error (.invalidBaseUrl text Url.Fault.noSegments.message)

theorem parse_eq_error {text : String} {failure : Failure} (refused : parse text = .error failure) :
    ∃ reason, failure = .invalidBaseUrl text reason := by
  unfold parse at refused
  split at refused
  · next fault _ =>
    cases refused
    exact ⟨fault.message, rfl⟩
  · split at refused
    · cases refused
    · cases refused
      exact ⟨Url.Fault.noSegments.message, rfl⟩

end BaseUrl

namespace Url

/-- A path without the empty segment at its end, but for the root. -/
def withoutTrailingSlash (segments : List (List Char)) : List (List Char) :=
  if segments.length > 1 ∧ segments.getLast? = some [] then segments.dropLast else segments

/-- A segment as it is added: line breaks and tabs are dropped, and everything is encoded that has a
meaning in a path. -/
def encodeSegment (kind : SchemeKind) (segment : List Char) : List Char :=
  percentEncode (if kind.isKnown then .specialSegment else .segment) (segment.filter (!isBreak ·))

/-- Adds one segment to a path. The root is replaced, and a segment that is a dot or two adds nothing. -/
def pushSegment (kind : SchemeKind) (segments : List (List Char)) (segment : List Char) :
    List (List Char) :=
  if segment = ['.'] ∨ segment = ['.', '.'] then segments
  else
    let done := if segments = [[]] then [] else segments
    tidy kind (addSegment kind true done (encodeSegment kind segment))

end Url

def BaseUrl.endpoint (base : BaseUrl) (segment : String) : Url :=
  let kind := Url.schemeKind base.url.scheme
  let path := Url.withoutTrailingSlash base.url.path.list
  { base.url with path := .listed (Url.pushSegment kind path segment.toList) }

end ChannelFeed
