import LabMatch.Connection.Relations
import LabMatch.Ordered.SortedMap

/-!
# Wiring

A wiring stores a list of connections for each ordered pair of endpoints.
Every link is stored twice, once per end, so that both devices see it among
their own.  A link that works both ways is stored with its anchor starting at
the endpoint that it is stored under; a one-way link keeps its declared
direction in both places, so its far end can see it but not use it backwards.

No stored list is empty: storing an empty list removes the entry.
-/

namespace LabMatch

/-- The connections stored for each ordered pair of endpoints. -/
structure Wiring where
  table : SortedMap Span (List Connection)
deriving Inhabited

/-- The copy of a connection that is stored under its far end. -/
def Connection.farCopy (connection : Connection) : Connection :=
  if connection.anchor.any (·.oneWay) then connection else connection.flip

namespace Wiring

def empty : Wiring := ⟨SortedMap.empty⟩

def entries (wiring : Wiring) : List (Span × List Connection) := wiring.table.entries

/-- The connections stored for an ordered pair of endpoints. -/
def get (wiring : Wiring) (span : Span) : List Connection := (wiring.table.get? span).getD []

/-- Replaces the connections of one ordered pair of endpoints. -/
def put (wiring : Wiring) (span : Span) (connections : List Connection) : Wiring :=
  if connections.isEmpty then ⟨wiring.table.erase span⟩
  else ⟨wiring.table.insert span connections⟩

/-- Replaces the connections of a pair of endpoints, under both ends. -/
def putBoth (wiring : Wiring) (span : Span) (connections : List Connection) : Wiring :=
  (wiring.put span connections).put span.flip (connections.map Connection.farCopy)

/-- Adds a connection to those of an ordered pair of endpoints. -/
def append (wiring : Wiring) (span : Span) (connection : Connection) : Wiring :=
  wiring.put span (wiring.get span ++ [connection])

/-- Adds a connection between two endpoints, under both of them. -/
def connect (wiring : Wiring) (span : Span) (connection : Connection) : Wiring :=
  let attached := connection.attachedAt span.source span.target
  (wiring.append span attached).append span.flip attached.farCopy

def isEmpty (wiring : Wiring) : Bool := wiring.entries.isEmpty

/-- The number of connections, each direction counted. -/
def size (wiring : Wiring) : Nat :=
  wiring.entries.foldl (fun count entry => count + entry.2.length) 0

def devices (wiring : Wiring) : List DeviceId :=
  Ascending.ofList (wiring.entries.map fun entry => entry.1.source.device)

def hasDevice (wiring : Wiring) (device : DeviceId) : Bool :=
  wiring.entries.any fun entry => entry.1.source.device == device

/-- The nodes of the device that carry links, ascending. -/
def nodes (wiring : Wiring) (device : DeviceId) : List String :=
  Ascending.ofList ((wiring.entries.filter fun entry => entry.1.source.device == device).map
    fun entry => entry.1.source.node)

/-- The devices that links of the endpoint lead to, ascending. -/
def peers (wiring : Wiring) (endpoint : Endpoint) : List DeviceId :=
  Ascending.ofList ((wiring.entries.filter fun entry => entry.1.source == endpoint).map
    fun entry => entry.1.target.device)

/-- The connections stored under the endpoint. -/
def outgoing (wiring : Wiring) (endpoint : Endpoint) : List Connection :=
  (wiring.entries.filter fun entry => entry.1.source == endpoint).flatMap (·.2)

/-- The entries from any node of one device to any node of another one. -/
def entriesBetween (wiring : Wiring) (source target : DeviceId) :
    List (Span × List Connection) :=
  wiring.entries.filter fun entry =>
    entry.1.source.device == source && entry.1.target.device == target

/-- The connections from any node of one device to any node of another one. -/
def between (wiring : Wiring) (source target : DeviceId) : List Connection :=
  (wiring.entriesBetween source target).flatMap (·.2)

/-- The node pairs that link one device to another one. -/
def nodePairs (wiring : Wiring) (source target : DeviceId) : List Span :=
  (wiring.entriesBetween source target).map (·.1)

/-- What is available from one device to another one: any of the connections
between them. -/
def availableBetween (wiring : Wiring) (source target : DeviceId) : Option Connection :=
  (Connection.anyOf ((wiring.between source target).map Connection.unanchored)).toOption

/-- Splits every connection into its links.  Refused when some ordered pair of
endpoints holds more than one connection. -/
def expand (wiring : Wiring) : Except ConnectionError Wiring :=
  match wiring.entries.find? fun entry => 1 < entry.2.length with
  | some entry => .error (.duplicateLink entry.1.source entry.1.target)
  | none => .ok ⟨wiring.table.map fun connections => connections.flatMap Connection.links⟩

/-- The connection of an entry, moved to other devices.  The anchor of a one-way
link may point the other way than the entry. -/
def moveConnection (span : Span) (source target : DeviceId) (connection : Connection) :
    Connection :=
  match connection.anchor with
  | some anchor =>
    if anchor.source.device = span.target.device then
      connection.attachedAt ⟨target, anchor.source.node⟩ ⟨source, anchor.target.node⟩
    else connection.attachedAt ⟨source, span.source.node⟩ ⟨target, span.target.node⟩
  | none => connection.attachedAt ⟨source, span.source.node⟩ ⟨target, span.target.node⟩

/-- The wiring with its devices renamed.  Entries of a device without a new
name are dropped. -/
def rename (wiring : Wiring) (newName : DeviceId → Option DeviceId) : Wiring :=
  wiring.entries.foldl
    (fun renamed entry =>
      match newName entry.1.source.device, newName entry.1.target.device with
      | some source, some target =>
        renamed.put ⟨⟨source, entry.1.source.node⟩, ⟨target, entry.1.target.node⟩⟩
          (entry.2.map (moveConnection entry.1 source target))
      | _, _ => renamed)
    empty

def listsEquivalent : List Connection → List Connection → Bool
  | [], [] => true
  | first :: others, first' :: others' => first.equivalent first' && listsEquivalent others others'
  | _, _ => false

/-- Whether two lists of entries have the same keys and equivalent connections. -/
def entriesEquivalent : List (Span × List Connection) → List (Span × List Connection) → Bool
  | [], [] => true
  | first :: others, first' :: others' =>
    first.1 == first'.1 && listsEquivalent first.2 first'.2 && entriesEquivalent others others'
  | _, _ => false

/-- Whether two wirings store equivalent connections for the same endpoints.
Anchors are not compared. -/
def equivalent (wiring other : Wiring) : Bool := entriesEquivalent wiring.entries other.entries

end Wiring

end LabMatch
