/-!
# The network between a client and its server

A client asks for URLs one after the other, and each question gets a reply or none. A server that
cannot be reached is never asked. Redirects are followed before there is a reply, so a reply is what
comes of a question in the end, and of the URLs that were asked for those that a redirect led to are
left out.
-/

namespace ScenarioResults

inductive Reply where
  | answer (status : Nat) (body : String)
  /-- The connection closed without a reply. -/
  | closed
  /-- Nothing within the time the client waits. -/
  | silence
  /-- Redirects that came to no reply: whether for want of time, and what the client is told. -/
  | astray (late : Bool) (detail : String)
  deriving DecidableEq, Repr

/-- The replies to come, and the URLs that the server was asked for, in order. -/
structure Network where
  reachable : Bool := true
  replies : List Reply := []
  requests : List String := []
  deriving DecidableEq, Repr

/-- The reply to the next question. When there are no more, the connection closes. -/
def Network.get (url : String) (network : Network) : Reply × Network :=
  if network.reachable then
    (network.replies.head?.getD .closed,
      { network with
        replies := network.replies.tail, requests := network.requests ++ [url] })
  else (.closed, network)

end ScenarioResults
