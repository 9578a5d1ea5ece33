/-!
# Error numbers

The numbers under which a system call reports why it failed. A call returns a non-negative number
on success and the negated error number on failure.
-/

namespace NetStack

/-- Why a system call fails. -/
inductive Errno where
  /-- The descriptor is not that of an open socket. -/
  | badFileNumber
  /-- The transmit ring is full at the moment. -/
  | tryAgain
  /-- An argument is out of its range. -/
  | invalidArgument
  /-- The socket table is full. -/
  | tooManyOpenFiles
  /-- The datagram does not fit a frame. -/
  | messageTooLong
  /-- The socket lacks a local or a remote address. -/
  | notConnected
  deriving DecidableEq, Repr

namespace Errno

/-- The number of an error. -/
def code : Errno → Nat
  | badFileNumber => 9
  | tryAgain => 11
  | invalidArgument => 22
  | tooManyOpenFiles => 24
  | messageTooLong => 90
  | notConnected => 107

/-- What a system call returns for an error. -/
def negated (errno : Errno) : Int :=
  -errno.code

/-- The symbol of an error. -/
def symbol : Errno → String
  | badFileNumber => "EBADF"
  | tryAgain => "EAGAIN"
  | invalidArgument => "EINVAL"
  | tooManyOpenFiles => "EMFILE"
  | messageTooLong => "EMSGSIZE"
  | notConnected => "ENOTCONN"

/-- The symbol and the number of an error. -/
def message (errno : Errno) : String :=
  s!"{errno.symbol} ({errno.code})"

/-- What a system call returns: the number that it found, or the negated error. -/
def result : Except Errno Nat → Int
  | .ok n => n
  | .error errno => errno.negated

/-- A failing call returns a negative number. -/
theorem negated_lt_zero (errno : Errno) : errno.negated < 0 := by
  cases errno <;> decide

end Errno

end NetStack
