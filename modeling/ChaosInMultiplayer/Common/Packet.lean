/-!
# Packets

A packet owns a copy of the bytes it was made from.
-/

namespace Chs

/-- A packet, with the bytes of its buffer. -/
structure Packet where
  packet : List UInt8
  deriving DecidableEq

namespace Packet

/-- The first `size` bytes at `data`. -/
def copyData (data : List UInt8) (size : Nat) : List UInt8 :=
  data.take size

/-- The packet of the first `size` bytes at `data`. -/
def construct (data : List UInt8) (size : Nat) : Packet :=
  ⟨copyData data size⟩

/-- The bytes of the packet. -/
def data (p : Packet) : List UInt8 :=
  p.packet

/-- The number of bytes of the packet, a `std::size_t`. -/
def size (p : Packet) : Nat :=
  p.packet.length

/-- The packet of the bytes of a string. -/
def ofString (s : String) : Packet :=
  construct s.toUTF8.toList s.utf8ByteSize

end Packet

end Chs
