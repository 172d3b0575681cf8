import LabMatch.Wiring.Basic

/-!
# Rows

The links of a wiring, kept in four nested maps: the device and the node that a link leaves,
and the device and the node that it leads to.  Each device with links has a row of its own.
Maps are made when something is stored in them, and a map that is left empty is removed,
from the inside out.

`Wiring` keeps the same links in a single map.
-/

namespace LabMatch

namespace SortedMap

variable {Key Value : Type} [LT Key]

def isEmpty (map : SortedMap Key Value) : Bool := map.entries.isEmpty

variable [DecidableLT Key] [KeyOrder Key]

/-- Changes the value stored under a key, which is the default if there was none. -/
def upsert [Inhabited Value] (map : SortedMap Key Value) (key : Key) (change : Value → Value) :
    SortedMap Key Value :=
  map.insert key (change ((map.get? key).getD default))

/-- Changes the map stored under a key, if there is one, and removes it if that leaves it
empty. -/
def prune {InnerKey : Type} [LT InnerKey]
    (map : SortedMap Key (SortedMap InnerKey Value)) (key : Key)
    (change : SortedMap InnerKey Value → SortedMap InnerKey Value) :
    SortedMap Key (SortedMap InnerKey Value) :=
  match map.get? key with
  | none => map
  | some inner =>
    let changed := change inner
    if changed.isEmpty then map.erase key else map.insert key changed

end SortedMap

/-- The connections towards the nodes of one device. -/
abbrev PeerNodes := SortedMap String (List Connection)

/-- The connections that leave one node, by the device that they lead to. -/
abbrev PeerMap := SortedMap DeviceId PeerNodes

/-- The connections that leave one device, by its nodes. -/
abbrev NodeMap := SortedMap String PeerMap

/-- The connections of every device that has any. -/
structure Rows where
  table : SortedMap DeviceId NodeMap

namespace Rows

def empty : Rows := ⟨SortedMap.empty⟩

/-- The list stored for an ordered pair of endpoints. -/
def find? (rows : Rows) (span : Span) : Option (List Connection) :=
  (rows.table.get? span.source.device).bind fun nodes =>
    (nodes.get? span.source.node).bind fun peers =>
      (peers.get? span.target.device).bind fun peerNodes => peerNodes.get? span.target.node

/-- The connections of an ordered pair of endpoints. -/
def get (rows : Rows) (span : Span) : List Connection := (rows.find? span).getD []

/-- Changes the list of an ordered pair of endpoints, with all maps made that it takes. -/
def update (rows : Rows) (span : Span) (change : List Connection → List Connection) : Rows :=
  ⟨rows.table.upsert span.source.device fun nodes =>
    nodes.upsert span.source.node fun peers =>
      peers.upsert span.target.device fun peerNodes => peerNodes.upsert span.target.node change⟩

/-- Removes the list of an ordered pair of endpoints, with all maps that are left empty. -/
def remove (rows : Rows) (span : Span) : Rows :=
  ⟨rows.table.prune span.source.device fun nodes =>
    nodes.prune span.source.node fun peers =>
      peers.prune span.target.device fun peerNodes => peerNodes.erase span.target.node⟩

/-- Adds a connection to those of an ordered pair of endpoints. -/
def push (rows : Rows) (span : Span) (connection : Connection) : Rows :=
  rows.update span fun connections => connections ++ [connection]

/-- Replaces the connections of one ordered pair of endpoints. -/
def put (rows : Rows) (span : Span) (connections : List Connection) : Rows :=
  if connections.isEmpty then rows.remove span else rows.update span fun _ => connections

/-- Replaces the connections of a pair of endpoints, under both ends. -/
def putBoth (rows : Rows) (span : Span) (connections : List Connection) : Rows :=
  (rows.put span connections).put span.flip (connections.map Connection.farCopy)

/-- Adds a connection between two endpoints, under both of them. -/
def connect (rows : Rows) (span : Span) (connection : Connection) : Rows :=
  let attached := connection.attachedAt span.source span.target
  (rows.push span attached).push span.flip attached.farCopy

/-- Every list with its endpoints, row by row. -/
def entries (rows : Rows) : List (Span × List Connection) :=
  rows.table.entries.flatMap fun row =>
    row.2.entries.flatMap fun node =>
      node.2.entries.flatMap fun peer =>
        peer.2.entries.map fun peerNode =>
          (⟨⟨row.1, node.1⟩, ⟨peer.1, peerNode.1⟩⟩, peerNode.2)

def isEmpty (rows : Rows) : Bool := rows.table.isEmpty

def size (rows : Rows) : Nat :=
  rows.entries.foldl (fun count entry => count + entry.2.length) 0

def devices (rows : Rows) : List DeviceId := rows.table.keys

def hasDevice (rows : Rows) (device : DeviceId) : Bool := (rows.table.get? device).isSome

def nodes (rows : Rows) (device : DeviceId) : List String :=
  ((rows.table.get? device).map SortedMap.keys).getD []

/-- Stores the links of another entry, unless it holds more than one connection. -/
def expandEntry (expanded : Rows) (entry : Span × List Connection) :
    Except ConnectionError Rows :=
  if 1 < entry.2.length then .error (.duplicateLink entry.1.source entry.1.target)
  else .ok (expanded.put entry.1 (entry.2.flatMap Connection.links))

/-- Splits every connection into its links.  Refused when some ordered pair of endpoints
holds more than one connection. -/
def expand (rows : Rows) : Except ConnectionError Rows := rows.entries.foldlM expandEntry empty

/-- The rows with their devices renamed.  Entries of a device without a new name are
dropped. -/
def rename (rows : Rows) (newName : DeviceId → Option DeviceId) : Rows :=
  rows.entries.foldl
    (fun renamed entry =>
      match newName entry.1.source.device, newName entry.1.target.device with
      | some source, some target =>
        renamed.put ⟨⟨source, entry.1.source.node⟩, ⟨target, entry.1.target.node⟩⟩
          (entry.2.map (Wiring.moveConnection entry.1 source target))
      | _, _ => renamed)
    empty

end Rows

end LabMatch
