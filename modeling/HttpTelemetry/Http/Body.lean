import HttpTelemetry.Http.Header
import HttpTelemetry.Http.Status

/-!
# Responses and their bodies

A response body is not a value but something to be polled: each poll gives a frame, nothing yet, a
failure, or the end. Whatever keeps such a state is a body; this module also holds the bodies whose
polls are fixed in advance.
-/

set_option autoImplicit false

namespace HttpTelemetry.Http

structure ResponseHead where
  status : Status
  headers : Headers := []
  deriving DecidableEq, Inhabited

inductive Frame where
  | data (bytes : Bytes)
  | trailers (fields : Headers)
  deriving DecidableEq

def Frame.size : Frame → Nat
  | .data bytes => bytes.length
  | .trailers _ => 0

inductive BodyPoll where
  | pending
  | frame (f : Frame)
  | failed (message : String)
  | finished
  deriving DecidableEq

def BodyPoll.octets : BodyPoll → Nat
  | .frame f => f.size
  | _ => 0

structure SizeHint where
  lower : Nat
  upper : Option Nat
  deriving DecidableEq

/-- States that can be polled as a body, and asked what is left without being changed. -/
class Body (β : Type) where
  poll : β → BodyPoll × β
  isEnd : β → Bool
  hint : β → SizeHint

/-- A body whose polls are listed. If it announces its end, it says so as soon as nothing is left,
and it knows how much is left; otherwise only a poll shows the end. -/
structure ListedBody where
  polls : List BodyPoll
  announcesEnd : Bool
  deriving DecidableEq

namespace ListedBody

def remaining (b : ListedBody) : Nat :=
  b.polls.foldr (fun
    | .frame f, octets => f.size + octets
    | _, octets => octets) 0

def poll (b : ListedBody) : BodyPoll × ListedBody :=
  match b.polls with
  | [] => (.finished, b)
  | p :: rest => (p, { b with polls := rest })

def hint (b : ListedBody) : SizeHint :=
  if b.announcesEnd then ⟨b.remaining, some b.remaining⟩ else ⟨0, none⟩

instance : Body ListedBody where
  poll := poll
  isEnd b := b.announcesEnd && b.polls.isEmpty
  hint := hint

/-- A body of known content: one frame, or none if there is no content. -/
def full (content : Bytes) : ListedBody :=
  ⟨if content.isEmpty then [] else [.frame (.data content)], true⟩

end ListedBody

structure Response where
  status : Status
  headers : Headers := []
  body : Bytes := []
  deriving DecidableEq

def Response.head (r : Response) : ResponseHead := ⟨r.status, r.headers⟩

end HttpTelemetry.Http
