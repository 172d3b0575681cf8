import LabMatch.Connection.Text
import LabMatch.Wiring.Basic

/-!
# Routes through a wiring

A route is a chain of links: each one starts at the endpoint where the one
before it ended.  What the whole chain can still guarantee is the running
meet of its links.

`Wiring.routes` finds every route between two devices that visits no endpoint
twice and still satisfies a requirement.  The search proceeds in rounds, and a
route of round `n` has `n` links.  Since its endpoints differ from one another,
there are no more rounds than endpoints.
-/

namespace LabMatch

inductive RouteError
  | chainBreak (finish linkStart : Endpoint)
  | unanchored (link : String)
  | connection (error : ConnectionError)
deriving DecidableEq

def RouteError.message : RouteError → String
  | .chainBreak finish linkStart =>
    "chain break: path ends at " ++ finish.text ++ " but the link starts at " ++ linkStart.text
  | .unanchored link => "link `" ++ link ++ "` is not anchored to any endpoint"
  | .connection error => error.message

/-- A chain of links from an endpoint on. -/
structure Route where
  start : Endpoint
  /-- The links in the order they are followed, each from its start to its end. -/
  links : List Connection
  /-- The running meet of the links; absent before the first one. -/
  guarantee : Option Connection
deriving Inhabited

namespace Route

def atStart (start : Endpoint) : Route := ⟨start, [], none⟩

/-- The endpoints that the route arrives at. -/
def arrivals (route : Route) : List Endpoint :=
  route.links.filterMap fun link => link.anchor.map fun anchor => anchor.target

/-- Every endpoint of the route, in order. -/
def stops (route : Route) : List Endpoint := route.start :: route.arrivals

/-- Where the next link has to start. -/
def finish (route : Route) : Endpoint :=
  match route.links.getLast? with
  | some link => (link.anchor.map fun anchor => anchor.target).getD route.start
  | none => route.start

/-- The link as it is followed from the endpoint.  A link that works both ways
is turned around if it was given from its other end. -/
def follow (finish : Endpoint) (link : Connection) : Except RouteError Connection :=
  match link.anchor with
  | none => .error (.unanchored link.text)
  | some anchor =>
    if anchor.source = finish then .ok link
    else if !anchor.oneWay && anchor.target = finish then .ok link.flip
    else .error (.chainBreak finish anchor.source)

/-- What a route guarantees after one more link. -/
def narrow (guarantee : Option Connection) (link : Connection) :
    Except ConnectionError Connection :=
  match guarantee with
  | some current => current.meet link.unanchored
  | none => .ok link.unanchored

def append (route : Route) (link : Connection) : Except RouteError Route := do
  let followed ← follow route.finish link
  let guarantee ← (narrow route.guarantee followed).mapError RouteError.connection
  return { route with links := route.links ++ [followed], guarantee := some guarantee }

/-- Whether the route visits some endpoint twice. -/
def hasLoop (route : Route) : Bool := !decide route.stops.Nodup

/-- Whether every link of the route works both ways. -/
def worksBothWays (route : Route) : Bool :=
  route.links.all fun link => !link.anchor.any (·.oneWay)

/-- Whether the route still satisfies the requirement. -/
def satisfies (route : Route) (requirement : Connection) : Bool :=
  route.guarantee.any fun guarantee => guarantee.satisfies requirement

/-- The alternatives of the requirement that the route delivers, anchored at its
ends.  Nothing if there are none. -/
def delivered (route : Route) (requirement : Connection) : Option Connection :=
  match route.guarantee with
  | none => none
  | some guarantee =>
    let offered := requirement.alternatives.filter fun tags =>
      guarantee.alternatives.any tags.coveredBy
    (Connection.ofAlternatives offered
      (some ⟨⟨route.start, route.finish⟩, !route.worksBothWays⟩)).toOption

/-- Whether the link is the last one of the route again, so that following it
would lead straight back. -/
def turnsBack (route : Route) (link : Connection) : Bool :=
  match route.links.getLast? with
  | none => false
  | some last =>
    match last.anchor, link.anchor with
    | some lastAnchor, some linkAnchor => lastAnchor.sameLink linkAnchor && last.equivalent link
    | _, _ => false

end Route

namespace Wiring

/-- The routes with one more link, for every link at the end of the route that
can be followed. -/
def extensions (wiring : Wiring) (route : Route) : List Route :=
  (wiring.outgoing route.finish).filterMap fun link =>
    if route.turnsBack link then none else (route.append link).toOption

/-- One round of the search: the routes that have arrived, and those still open. -/
def advance (wiring : Wiring) (requirement : Connection) (target : DeviceId)
    (frontier : List Route) : List Route × List Route :=
  ((frontier.flatMap wiring.extensions).filter fun route =>
    !route.hasLoop && route.satisfies requirement).partition fun route =>
      route.finish.device == target

/-- The routes that arrive within the given number of rounds. -/
def search (wiring : Wiring) (requirement : Connection) (target : DeviceId) :
    Nat → List Route → List Route
  | 0, _ => []
  | _ + 1, [] => []
  | rounds + 1, frontier =>
    let next := wiring.advance requirement target frontier
    next.1 ++ search wiring requirement target rounds next.2

/-- The routes that the search starts from: one for every node of the device. -/
def departures (wiring : Wiring) (start : DeviceId) : List Route :=
  (wiring.nodes start).map fun node => Route.atStart ⟨start, node⟩

/-- Every endpoint that a route from the device can visit. -/
def reachable (wiring : Wiring) (start : DeviceId) : List Endpoint :=
  Ascending.ofList ((wiring.departures start).map Route.start ++
    wiring.entries.flatMap fun entry => entry.2.flatMap fun connection =>
      match connection.anchor with
      | some anchor => [anchor.source, anchor.target]
      | none => [])

/-- Every route from any node of the start to any node of the target that visits
no endpoint twice and satisfies the requirement, shorter ones first. -/
def routes (wiring : Wiring) (requirement : Connection) (start target : DeviceId) : List Route :=
  wiring.search requirement target (wiring.reachable start).length (wiring.departures start)

end Wiring

end LabMatch
