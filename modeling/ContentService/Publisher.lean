import ContentService.Action

/-!
# Publisher

Announcements go out over a channel of a message server. The connection is opened with the first
announcement that finds the server, and then kept for ever, even when it is lost. What goes wrong
here never reaches the caller: the change that is announced has been made already.
-/

namespace ContentService

/-- The channel of the announcements. -/
def announcementChannel : String := "cms:invalidate"

/-- How the message server behaves. -/
inductive ServerState
  | ok
  /-- It refuses to publish. -/
  | refusing
  /-- It hangs up when asked to publish. -/
  | hangingUp
  /-- It takes no new connections. -/
  | down
  deriving DecidableEq, Repr

/-- The publisher's connection. -/
inductive Link
  | none
  | alive
  | lost
  deriving DecidableEq, Repr

/-- The publisher, and how many connections it has opened. -/
structure Publisher where
  link : Link
  opened : Nat
  deriving DecidableEq, Repr

namespace Publisher

/-- A publisher that has announced nothing yet. -/
def idle : Publisher := ⟨.none, 0⟩

/-- Opens a connection, unless there is one or the server takes none. -/
def connect (publisher : Publisher) (server : ServerState) : Publisher :=
  if publisher.link = .none ∧ server ≠ .down then ⟨.alive, publisher.opened + 1⟩ else publisher

/-- The publisher after an announcement, and the messages that the server took. -/
def announce (publisher : Publisher) (server : ServerState) (stale : Collection) :
    Publisher × List (String × String) :=
  let publisher := publisher.connect server
  match publisher.link, server with
  | .alive, .ok | .alive, .down => (publisher, [(announcementChannel, stale.name)])
  | .alive, .hangingUp => ({ publisher with link := .lost }, [])
  | _, _ => (publisher, [])

end Publisher

end ContentService
