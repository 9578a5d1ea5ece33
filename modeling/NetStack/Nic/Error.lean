import NetStack.Bytes

/-!
# Why the card cannot be set up or used

Setting up is fatal when it fails: without a card there is no network. A refused transmission is
transient: the frame is dropped and the caller is told.
-/

namespace NetStack

/-- Why the card cannot be set up. -/
inductive SetupError where
  /-- No slot of the bus holds the card. -/
  | deviceNotFound
  /-- The slot holds another device. -/
  | unexpectedDevice (vendor device : UInt16)
  /-- The card cannot work with descriptor rings of this size. -/
  | badRingGeometry
  deriving DecidableEq, Repr

/-- The cause in words. -/
def SetupError.message : SetupError → String
  | deviceNotFound => "e1000 not found on PCI bus 0"
  | unexpectedDevice vendor device =>
    let vendorText := Bytes.hexPadded 4 vendor.toNat
    let deviceText := Bytes.hexPadded 4 device.toNat
    s!"unexpected PCI device {vendorText}:{deviceText}"
  | badRingGeometry => "descriptor ring size must be a power of two and a multiple of 8"

/-- Why a frame is not accepted for transmission. -/
inductive TransmitError where
  /-- The frame is longer than a transmit buffer. -/
  | frameTooLarge (length limit : Nat)
  /-- The descriptor at the tail still belongs to the card. -/
  | ringFull
  deriving DecidableEq, Repr

/-- The cause in words. -/
def TransmitError.message : TransmitError → String
  | frameTooLarge length limit => s!"frame of {length} bytes exceeds {limit} byte limit"
  | ringFull => "tx ring full"

end NetStack
