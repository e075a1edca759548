import PadRelay.Pairs

/-!
# The directory of connections

Connections are known under any number of keys and belong to any number of groups. Three tables stay
in step: keys to connections, connections to their keys, and groups to their members. A connection
that is entered is watched once, so that everything it has here goes when it closes.
-/

namespace PadRelay

/-- Connections by key and by group. -/
structure Directory (κ : Type) where
  /-- The connection under each key. -/
  byKey : Table κ Party := ∅
  /-- The keys of each connection. -/
  byConnection : Table Identity (List κ) := ∅
  /-- The members of each group. -/
  groups : Table String (Table Identity Party) := ∅
  /-- Connections whose close is watched. -/
  watched : List Identity := []

/-- The group that every clear connection joins. -/
def everyone : String := "ALL"

namespace Directory

variable {κ : Type}

def members (directory : Directory κ) (group : String) : List Party :=
  match directory.groups.get? group with
  | some members => members.values
  | none => []

/-- Number of members of a group. -/
def groupSize (directory : Directory κ) (group : String) : Nat :=
  match directory.groups.get? group with
  | some members => members.size
  | none => 0

/-- Whether a connection belongs to a group. -/
def isMember (directory : Directory κ) (group : String) (id : Identity) : Bool :=
  match directory.groups.get? group with
  | some members => members.contains id
  | none => false

/-- Add a connection to a group: whether it was no member before. -/
def join (directory : Directory κ) (group : String) (party : Party) : Bool × Directory κ :=
  let members := (directory.groups.get? group).getD ∅
  if members.contains party.id then (false, directory)
  else
    (true, { directory with
      groups := directory.groups.insert group (members.insert party.id party) })

/-- Take a connection out of a group: whether it was a member. Empty groups are dropped. -/
def leave (directory : Directory κ) (group : String) (id : Identity) : Bool × Directory κ :=
  match directory.groups.get? group with
  | none => (false, directory)
  | some members =>
      let rest := members.erase id
      (members.contains id, { directory with
        groups :=
          if rest.isEmpty then directory.groups.erase group
          else directory.groups.insert group rest })

/-- Note that the close of a connection is watched: whether it was not watched before. -/
def watch (directory : Directory κ) (id : Identity) : Bool × Directory κ :=
  if id ∈ directory.watched then (false, directory)
  else (true, { directory with watched := id :: directory.watched })

/-- Every connection with a key or a group, once for each identity. -/
def connections (directory : Directory κ) : List Party :=
  ((directory.byKey.values ++ directory.groups.values.flatMap Table.values).foldl
    (fun found party => found.insert party.id party) (∅ : Table Identity Party)).values

def keysOf (directory : Directory κ) (id : Identity) : List κ :=
  (directory.byConnection.get? id).getD []

/-- The text of a directory in logs. -/
def describe (directory : Directory κ) (label : String) : String :=
  s!"ConnectionRegistry \x7b label: \"{label}\", keys: {directory.byKey.size}, groups: " ++
    s!"{directory.groups.size}, .. \x7d"

variable [DecidableEq κ]

/-- The connection under a key. -/
def get? (directory : Directory κ) (key : κ) : Option Party := directory.byKey.get? key

/-- The keys of connections without one key of one connection. -/
def unlink (byConnection : Table Identity (List κ)) (id : Identity) (key : κ) :
    Table Identity (List κ) :=
  match byConnection.get? id with
  | none => byConnection
  | some keys =>
      let rest := keys.erase key
      if rest.isEmpty then byConnection.erase id else byConnection.insert id rest

/-- Enter a connection under a key: the connection that the key had before. -/
def put (directory : Directory κ) (key : κ) (party : Party) : Option Party × Directory κ :=
  let previous := directory.byKey.get? key
  let unlinked :=
    match previous with
    | some other =>
        if other.id = party.id then directory.byConnection
        else unlink directory.byConnection other.id key
    | none => directory.byConnection
  (previous, { directory with
    byKey := directory.byKey.insert key party
    byConnection := unlinked.insert party.id (((unlinked.get? party.id).getD []).insert key) })

/-- Take a key out: the connection that it had. -/
def remove (directory : Directory κ) (key : κ) : Option Party × Directory κ :=
  match directory.byKey.get? key with
  | none => (none, directory)
  | some party =>
      (some party, { directory with
        byKey := directory.byKey.erase key
        byConnection := unlink directory.byConnection party.id key })

/-- Everything of a connection taken out: the keys that it had. A key that another connection has
taken over stays with that one. -/
def forget (directory : Directory κ) (id : Identity) : List κ × Directory κ :=
  let keys := directory.keysOf id
  (keys, { directory with
    byKey := directory.byKey.filter fun key party => !(key ∈ keys && party.id = id)
    byConnection := directory.byConnection.erase id
    groups :=
      (directory.groups.mapValues fun _ members => members.erase id).filter
        fun _ members => !members.isEmpty
    watched := directory.watched.filter (· ≠ id) })

/-- The members of a group except the connections under the given keys. -/
def audience (directory : Directory κ) (group : String) (except : List κ) : List Party :=
  let excluded := except.filterMap fun key => (directory.get? key).map Party.id
  (directory.members group).filter fun party => party.id ∉ excluded

end Directory

end PadRelay
