import PageClip.Text

/-! How often each endpoint may be used. Every endpoint has a counter of its own, which only
its own requests move. -/

namespace PageClip

/-- The endpoints whose use is counted. -/
inductive Endpoint where
  | execute
  | context
  | executeUrl
  deriving DecidableEq, Repr

/-- How many requests of an endpoint are served in one window. -/
def Endpoint.limit : Endpoint → Nat
  | .execute => 60
  | .context => 10
  | .executeUrl => 10

structure Hits where
  execute : Nat := 0
  context : Nat := 0
  executeUrl : Nat := 0
  deriving DecidableEq, Repr

namespace Hits

def count (h : Hits) : Endpoint → Nat
  | .execute => h.execute
  | .context => h.context
  | .executeUrl => h.executeUrl

def add (h : Hits) : Endpoint → Hits
  | .execute => { h with execute := h.execute + 1 }
  | .context => { h with context := h.context + 1 }
  | .executeUrl => { h with executeUrl := h.executeUrl + 1 }

/-- Whether the endpoint has been used as often as it may be. -/
def spent (h : Hits) (e : Endpoint) : Bool := e.limit ≤ h.count e

theorem count_add (h : Hits) (e f : Endpoint) :
    (h.add e).count f = h.count f + if e = f then 1 else 0 := by
  cases e <;> cases f <;> rfl

end Hits

end PageClip
