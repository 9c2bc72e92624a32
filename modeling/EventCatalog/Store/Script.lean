/-
# EventCatalog.Store.Script — a store that follows a script

A script fixes the response to every request before it is sent: the first request gets the
first response, and so on.  What is sent is kept in order, so that a run over a script shows
both what the client made of the responses and what it asked for.
-/
import EventCatalog.Store.Client

set_option autoImplicit false

namespace EventCatalog

/-- A run over a script, with the requests that have been sent so far. -/
abbrev Script := StateM (List StoreRequest)

namespace Script

/-- The link to a store that gives response `k` to request `k`, both counted from zero. -/
def link (responses : Nat → Option StoreResponse) : Link Script := fun request => do
  let sent ← get
  set (sent ++ [request])
  return responses sent.length

/-- What a run yields and the requests that it sent. -/
def record {α : Type} (run : Script α) : α × List StoreRequest := StateT.run run []

theorem run_link (responses : Nat → Option StoreResponse) (request : StoreRequest)
    (sent : List StoreRequest) :
    (link responses request).run sent = (responses sent.length, sent ++ [request]) := rfl

end Script

end EventCatalog
