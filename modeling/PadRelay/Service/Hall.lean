import PadRelay.Service
import PadRelay.Wire.Codec

/-!
# Halls

A service that is watched: its sessions go by names, and after every turn it can be told what was
written to whom and which sessions have ended. Keys that were sent in the clear are kept in order.
-/

namespace PadRelay

/-- A service that is watched. -/
structure Hall where
  service : Service
  names : Table String Nat := ∅
  keys : List Key := []
  ended : List String := []

/-- What a turn has brought. -/
structure Turn where
  /-- The payloads written to each session. -/
  written : List (String × List Bytes)
  /-- Sessions that have ended, by name. -/
  ended : List String
  /-- How often the sink of each session without frames was finished. -/
  finishes : List (String × Nat)

namespace Hall

/-- The session under a name. -/
def indexOf (hall : Hall) (name : String) : Nat :=
  (hall.names.get? name).getD hall.service.sessions.length

def cast (hall : Hall) : List (String × Session) :=
  hall.names.entries.filterMap fun (name, index) =>
    hall.service.sessions[index]?.map fun session => (name, session)

/-- Give the name to the session that connects next. -/
def name (hall : Hall) (name : String) : Hall :=
  { hall with names := hall.names.insert name hall.service.sessions.length }

/-- The key in a payload, if it is an answer that carries one. -/
def keyIn? (payload : Bytes) : Option Key :=
  match Codec.json.decode payload with
  | .ok (.keyResponse response) => response.key.bind fun key => (Key.ofBytes key).toOption
  | _ => none

def writtenSince (before : Service) (session : Session) : List Bytes :=
  match before.sessions.find? fun old => old.party = session.party with
  | some old => session.writer.sink.written.drop old.writer.sink.written.length
  | none => session.writer.sink.written

/-- Something happens to the service; then everything moves until nothing can. -/
def turn (hall : Hall) (change : Service → Service) : Turn × Hall :=
  let next := { hall with service := (change hall.service).settle }
  let written := (next.cast.map fun (name, session) =>
    (name, writtenSince hall.service session)).filter fun entry => !entry.2.isEmpty
  let ended := (next.cast.filter fun (name, session) =>
    !session.running && !hall.ended.contains name).map Prod.fst
  ({ written, ended,
     finishes := (next.cast.filter fun entry => !entry.2.isFramed).map fun (name, session) =>
       (name, session.writer.sink.finishes) },
   { next with
     keys := hall.keys ++ written.flatMap fun entry => entry.2.filterMap keyIn?
     ended := ended ++ hall.ended })

end Hall

end PadRelay
