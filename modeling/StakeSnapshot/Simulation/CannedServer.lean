import StakeSnapshot.Http.Exchange
import StakeSnapshot.Session

/-!
# A server with fixed replies

A server that answers each path with a reply it was given, and notes the requests that reach it. It
shows how replies of any kind are read.
-/

namespace StakeSnapshot.Simulation

open Http

structure CannedServer where
  place : Authority
  /-- Whether nothing listens. -/
  isDown : Bool
  replies : List (String × Reply)
  /-- The reply at all other paths. -/
  otherwise : Reply
  /-- The requests since the log was last read, the latest one first. -/
  log : List Http.Request
  session : Session

namespace CannedServer

def urlOf : Http.Request → Url
  | .get url => url
  | .post url _ => url

/-- Whether a request reaches the server. -/
def isReached (s : CannedServer) (r : Http.Request) : Bool :=
  !s.isDown && (urlOf r).authority == some s.place

/-- The reply to a request that reaches the server. After an interim reply nothing more comes. -/
def replyTo (s : CannedServer) (r : Http.Request) : Option Reply :=
  let reply := (s.replies.lookup (Url.pathText (urlOf r).path)).getD s.otherwise
  if Reply.isFinal reply.status then some reply else none

def accept : {α : Type} → Exchange α → CannedServer → CannedServer × Nat
  | _, .web (.send r), s => (if s.isReached r then { s with log := r :: s.log } else s, 0)
  | _, .session _, s => (s, 0)

def answer : {α : Type} → Exchange α → CannedServer → Outcome α × CannedServer
  | _, .web (.send r), s => (.ok (if s.isReached r then s.replyTo r else none), s)
  | _, .session q, s =>
    let (a, session) := s.session.answer q
    (.ok a, { s with session })

def service : Service Exchange CannedServer where
  accept := accept
  answer := answer
  permit s := s.session.permit

/-- The requests since the last time, in order. -/
def takeLog (s : CannedServer) : List Http.Request × CannedServer :=
  (s.log.reverse, { s with log := [] })

end CannedServer

end StakeSnapshot.Simulation
