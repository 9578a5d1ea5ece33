import NetStack.Nic.Device

/-!
# Register windows

A window of 32-bit words through which a driver reaches its card's registers. As plain memory it
stores what is written and reads it back; no device acts on it. Addresses of the host and of the
card are the same.
-/

namespace NetStack

/-- A window of words, addressed by byte offset. -/
structure Window where
  /-- The address at which the driver accesses the first word. -/
  base : UInt64
  words : Array UInt32
  deriving DecidableEq, Repr

namespace Window

/-- A window of zeros at an address. -/
def zero (count : Nat) (base : UInt64 := 0) : Window := ⟨base, Array.replicate count 0⟩

/-- The number of words in the register window of a card: 128 KiB. -/
def cardWords : Nat := 32768

/-- The word at a byte offset. -/
def read (window : Window) (offset : Nat) : UInt32 :=
  window.words.getD (offset / 4) 0

/-- The window with the word at a byte offset written. -/
def write (window : Window) (offset : Nat) (value : UInt32) : Window :=
  { window with words := window.words.setIfInBounds (offset / 4) value }

/-- Where a card on this window sees an address of the host. -/
def busAddress (address : Nat) : UInt64 := UInt64.ofNat address

instance : Device Window where
  read window reg := (window.read reg.offset, window)
  write window tx reg value := pure (window.write reg.offset value, tx)
  busAddress _ := busAddress
  peek window reg := window.read reg.offset
  control window tx rx
    | .store reg value => pure (.ok, window.write reg.offset value, tx, rx)
    | _ => pure (.unsupported, window, tx, rx)

end Window

end NetStack
