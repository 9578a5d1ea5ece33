import NetStack.Nic.Device

/-!
# Recording register files

A register file without side effects that keeps the driver's accesses in order, and shows every
address of the host to the card as one fixed number.
-/

namespace NetStack

/-- A register file and the accesses that were made to it. -/
structure Recorder where
  registers : Registers
  trace : List Access
  /-- Where the card sees every address. -/
  fixedAddress : UInt64

namespace Recorder

/-- A file of zeros with nothing recorded. -/
def start (fixedAddress : UInt64) : Recorder where
  registers := Registers.zero
  trace := []
  fixedAddress := fixedAddress

/-- Reads a register and records it. -/
def read (recorder : Recorder) (reg : Reg) : UInt32 × Recorder :=
  let value := recorder.registers.get reg
  let access := { isWrite := false, reg, value }
  (value, { recorder with trace := recorder.trace ++ [access] })

/-- Stores a register without recording it. -/
def store (recorder : Recorder) (reg : Reg) (value : UInt32) : Recorder :=
  { recorder with registers := recorder.registers.set value reg }

/-- Writes a register and records it. -/
def write (recorder : Recorder) (reg : Reg) (value : UInt32) : Recorder :=
  let access := { isWrite := true, reg, value }
  { recorder.store reg value with trace := recorder.trace ++ [access] }

instance : Device Recorder where
  read := read
  write recorder tx reg value := pure (recorder.write reg value, tx)
  busAddress recorder _ := recorder.fixedAddress
  peek recorder reg := recorder.registers.get reg
  control recorder tx rx
    | .store reg value => pure (.ok, recorder.store reg value, tx, rx)
    | .takeTrace => pure (.accesses recorder.trace, { recorder with trace := [] }, tx, rx)
    | _ => pure (.unsupported, recorder, tx, rx)

end Recorder

end NetStack
