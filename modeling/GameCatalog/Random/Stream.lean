import GameCatalog.Identifier

/-!
Streams of random octets.  A stream first yields the octets it was given, and then
those of a linear congruential generator: each step multiplies the 64-bit state by a
constant, adds another one and yields the most significant octet.
-/

namespace GameCatalog

/-- A stream of octets: those still at hand, and the generator that follows them. -/
structure Stream where
  pending : Bytes
  state : UInt64

namespace Stream

/-- The state of the generator after one step. -/
def advance (state : UInt64) : UInt64 :=
  state * 6364136223846793005 + 1442695040888963407

/-- Draws an octet. -/
def next (stream : Stream) : UInt8 × Stream :=
  match stream.pending with
  | octet :: rest => (octet, { stream with pending := rest })
  | [] =>
      let state := advance stream.state
      ((state >>> 56).toUInt8, { stream with state })

/-- Draws so many octets from a source, given how it yields one. -/
def draw {Source : Type} (yield : Source → UInt8 × Source) :
    (count : Nat) → Source → Bytes × Source
  | 0, source => ([], source)
  | count + 1, source =>
      let (octet, source) := yield source
      let (octets, source) := draw yield count source
      (octet :: octets, source)

def identifier {entity : Entity} (stream : Stream) : Id entity × Stream :=
  let (octets, stream) := draw next 16 stream
  (Id.ofRandom octets, stream)

end Stream

end GameCatalog
