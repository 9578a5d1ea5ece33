import NetStack.Address
import NetStack.Errno
import NetStack.Host

/-!
# The socket table

A socket may have a local port and a remote address. The table has a fixed number of places; a
descriptor is the number of a place, and a new socket takes the first free one. Any number may be
given where a descriptor is asked for: one that names no open socket is an error.
-/

namespace NetStack

/-- The address of a remote port. -/
structure Remote where
  ip : Ipv4
  port : UInt16
  deriving DecidableEq, Repr

/-- A socket: where it receives and to whom it sends. -/
structure Socket where
  localPort : Option UInt16
  remote : Option Remote
  deriving DecidableEq, Repr

namespace Socket

/-- A socket that is neither bound nor connected. -/
def fresh : Socket := ⟨none, none⟩

/-- The socket with a local port. -/
def bind (socket : Socket) (port : UInt16) : Socket :=
  { socket with localPort := some port }

/-- The socket with a remote address. -/
def connect (socket : Socket) (ip : Ipv4) (port : UInt16) : Socket :=
  { socket with remote := some ⟨ip, port⟩ }

end Socket

/-- The places of the open sockets. -/
structure SocketTable where
  places : Vector (Option Socket) Host.socketTableSize
  deriving DecidableEq

namespace SocketTable

/-- The table without sockets. -/
def empty : SocketTable :=
  ⟨Vector.replicate Host.socketTableSize none⟩

/-- The socket under a descriptor. -/
def get? (table : SocketTable) (fd : Nat) : Option Socket :=
  table.places[fd]?.join

/-- The socket under a descriptor, or the error that there is none. -/
def get (table : SocketTable) (fd : Nat) : Except Errno Socket :=
  match table.get? fd with
  | some socket => .ok socket
  | none => .error .badFileNumber

/-- The table with a place filled or emptied; a number beyond the table changes nothing. -/
def set (table : SocketTable) (fd : Nat) (place : Option Socket) : SocketTable :=
  ⟨table.places.setIfInBounds fd place⟩

/-- The first free place. -/
def free? (table : SocketTable) : Option (Fin Host.socketTableSize) :=
  (List.finRange Host.socketTableSize).find? fun fd => table.places[fd].isNone

/-- Opens a socket in the first free place. -/
def add (table : SocketTable) (socket : Socket) : Except Errno (Nat × SocketTable) :=
  match table.free? with
  | some fd => .ok (fd.val, table.set fd.val (some socket))
  | none => .error .tooManyOpenFiles

/-- Changes an open socket. -/
def modify (table : SocketTable) (fd : Nat) (change : Socket → Socket) :
    Except Errno SocketTable :=
  match table.get? fd with
  | some socket => .ok (table.set fd (some (change socket)))
  | none => .error .badFileNumber

/-- Closes an open socket, and says what it was. -/
def remove (table : SocketTable) (fd : Nat) : Except Errno (Socket × SocketTable) :=
  match table.get? fd with
  | some socket => .ok (socket, table.set fd none)
  | none => .error .badFileNumber

/-- Whether an open socket receives on a port. -/
def isBound (table : SocketTable) (port : UInt16) : Bool :=
  table.places.any fun place => match place with
    | some socket => socket.localPort == some port
    | none => false

/-- Writing a place changes what is found there and nowhere else. -/
theorem get?_set (table : SocketTable) (place : Option Socket) (fd other : Nat)
    (h : fd < Host.socketTableSize) :
    (table.set fd place).get? other = if other = fd then place else table.get? other := by
  by_cases heq : other = fd
  · subst heq
    simp [get?, set, h]
  · simp [get?, set, heq, Ne.symm heq]

end SocketTable

end NetStack
