import GameCatalog.Random.Stream

/-!
Random alphanumeric text by rejection.  Octets come in blocks of 64.  An octet below
248, the greatest multiple of 62 that fits, is accepted and picks one of 62 symbols,
each of which four octets pick; all other octets are skipped.  Whatever a block holds
beyond the last symbol needed is dropped.
-/

namespace GameCatalog.Alphanumeric

/-- How many octets are drawn at a time. -/
def blockSize : Nat := 64

/-- The octet picks a symbol. -/
def accepts (octet : UInt8) : Bool :=
  octet < 248

/-- The symbols: digits, small letters, capital letters. -/
def alphabet : List Char :=
  ['0', '1', '2', '3', '4', '5', '6', '7', '8', '9',
    'a', 'b', 'c', 'd', 'e', 'f', 'g', 'h', 'i', 'j', 'k', 'l', 'm',
    'n', 'o', 'p', 'q', 'r', 's', 't', 'u', 'v', 'w', 'x', 'y', 'z',
    'A', 'B', 'C', 'D', 'E', 'F', 'G', 'H', 'I', 'J', 'K', 'L', 'M',
    'N', 'O', 'P', 'Q', 'R', 'S', 'T', 'U', 'V', 'W', 'X', 'Y', 'Z']

/-- The symbol that an octet picks. -/
def symbol (octet : UInt8) : Char :=
  alphabet.getD (octet.toNat % 62) '0'

/-- The symbols that a block yields, of which no more than `missing` are wanted. -/
def symbols (missing : Nat) (block : Bytes) : List Char :=
  ((block.filter accepts).take missing).map symbol

/--
Draws a text of `missing` symbols from at most so many blocks; fails when they do not
yield enough.
-/
def draw? {Source : Type} (yield : Source → UInt8 × Source) :
    (blocks missing : Nat) → Source → Option (List Char × Source)
  | _, 0, source => some ([], source)
  | 0, _ + 1, _ => none
  | blocks + 1, missing + 1, source =>
      let (block, source) := Stream.draw yield blockSize source
      let fresh := symbols (missing + 1) block
      (draw? yield blocks (missing + 1 - fresh.length) source).map fun (rest, source) =>
        (fresh ++ rest, source)

/--
How many blocks are enough for a text of the given length: those that hold octets
at hand, and one for each symbol, since the generator never yields a whole block of
octets that are skipped.
-/
def enoughBlocks (length : Nat) (stream : Stream) : Nat :=
  stream.pending.length / blockSize + 1 + length

def draw (length : Nat) (stream : Stream) : List Char × Stream :=
  (draw? Stream.next (enoughBlocks length stream) length stream).getD ([], stream)

end GameCatalog.Alphanumeric
