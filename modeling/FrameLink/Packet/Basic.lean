import FrameLink.Packet.Value

/-!
Packets: a byte string with a read cursor. Writing appends the bytes of a value at the end or
puts them in front; reading decodes a value from the bytes after the cursor and moves the cursor
past it. A read that fails leaves the packet as it was.
-/

namespace FrameLink

/-- A byte string and the position of the next byte to read. -/
structure Packet where
  bytes : List UInt8
  cursor : Nat
deriving DecidableEq, Repr

namespace Packet

def empty : Packet := ⟨[], 0⟩

def ofBytes (data : List UInt8) : Packet := ⟨data, 0⟩

def length (p : Packet) : Nat := p.bytes.length

def isEmpty (p : Packet) : Bool := p.bytes.isEmpty

def unread (p : Packet) : List UInt8 := p.bytes.drop p.cursor

def unreadLength (p : Packet) : Nat := p.length - p.cursor

def write (p : Packet) (v : Value) : Packet := { p with bytes := p.bytes ++ v.encode }

/-- Put the bytes of a value in front of the content; the cursor keeps its number, so it now points
into the shifted content. -/
def insertFront (p : Packet) (v : Value) : Packet := { p with bytes := v.encode ++ p.bytes }

def append (p : Packet) (data : List UInt8) : Packet := { p with bytes := p.bytes ++ data }

/-- A packet that starts with a 16-bit message number. -/
def withId (id : Int16) : Packet := empty.write (.i16 id)

/-- Put the length of the whole content in front of it as a signed 32-bit word, whatever the
cursor; content longer than such a word can count is refused. -/
def writeLength (p : Packet) : Except NetError Packet :=
  if p.length ≤ i32Max then .ok (p.insertFront (.i32 (Int32.ofNat p.length)))
  else .error (.frameTooLarge p.length i32Max)

def skip (p : Packet) (count : Nat) : Packet := { p with cursor := p.cursor + count }

def read (p : Packet) (kind : Kind) : Except NetError (Value × Packet) := do
  let (v, size) ← kind.decode p.unread
  pure (v, p.skip size)

def peek (p : Packet) (kind : Kind) : Except NetError Value := do
  let (v, _) ← kind.decode p.unread
  pure v

/-- Take exactly `count` raw bytes after the cursor and move past them. -/
def readBytes (p : Packet) (count : Nat) : Except NetError (List UInt8 × Packet) := do
  ensure p.unread count
  pure (p.unread.take count, p.skip count)

/-- Move the cursor back by `count` bytes, stopping at the start. -/
def rewind (p : Packet) (count : Nat) : Packet := { p with cursor := p.cursor - count }

/-- Forget the bytes already read: the unread bytes become the whole content. -/
def discardRead (p : Packet) : Packet := ⟨p.unread, 0⟩

end Packet

end FrameLink
