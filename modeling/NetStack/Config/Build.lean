import NetStack.Config.Settings

/-!
# Configuration runs

A run checks a document and writes the constants of its settings to a file, unless they stand there
already. A run that fails leaves the file as it was. A run without a document warns, and builds with
the defaults.
-/

namespace NetStack.Config

/-- A constant of the generated file: its name and the literal that it stands for. -/
structure Constant where
  name : String
  literal : String
  deriving DecidableEq, Repr

/-- An IPv4 address as a literal. -/
def ipLiteral (ip : Ipv4) : String :=
  s!"Ipv4Addr::new({ip.a.toNat}, {ip.b.toNat}, {ip.c.toNat}, {ip.d.toNat})"

/-- A hardware address as a literal. -/
def macLiteral (mac : Mac) : String :=
  let bytes := mac.toBytes.map fun byte => "0x" ++ String.ofList (Bytes.hexByte byte)
  "[" ++ ", ".intercalate bytes ++ "]"

/-- The address that a 64-bit integer stands for, in two's complement. -/
def addressOf (value : Int) : Nat :=
  (value % UInt64.size).toNat

/-- The address of a 64-bit integer as a hexadecimal literal. -/
def hexLiteral (value : Int) : String :=
  "0x" ++ Bytes.hexNat (addressOf value)

/-- The constants of some settings, in the order of the file. -/
def Settings.constants (settings : Settings) : List Constant :=
  [ ⟨"LOCAL_IP", ipLiteral settings.localIp⟩,
    ⟨"LOCAL_MAC", macLiteral settings.localMac⟩,
    ⟨"GATEWAY_MAC", macLiteral settings.gatewayMac⟩,
    ⟨"IP_DEFAULT_TTL", toString settings.ttl⟩,
    ⟨"TX_RING_SIZE", toString settings.txRingSize⟩,
    ⟨"RX_RING_SIZE", toString settings.rxRingSize⟩,
    ⟨"TX_BUFFER_SIZE", toString settings.txBufferSize⟩,
    ⟨"RX_BUFFER_SIZE", toString settings.rxBufferSize⟩,
    ⟨"FRAME_CAPACITY", toString settings.frameCapacity⟩,
    ⟨"VERIFY_RX_CHECKSUMS", toString settings.verifyChecksums⟩,
    ⟨"UDP_SOCKET_TABLE_SIZE", toString settings.socketTableSize⟩,
    ⟨"SOCKET_BACKLOG", toString settings.socketBacklog⟩,
    ⟨"ECAM_BASE", hexLiteral settings.ecamBase⟩,
    ⟨"E1000_MMIO_BASE", hexLiteral settings.registerBase⟩ ]

/-- The generated file: nothing, or the constants of the last run that succeeded. -/
abbrev Output := Option (List Constant)

/-- What a run reports. -/
structure Outcome where
  /-- The warnings that were printed before the run ended. -/
  warnings : List String
  /-- Why the run failed, if it did. -/
  fault : Option Fault
  /-- Whether the file was written. -/
  written : Bool
  deriving DecidableEq, Repr

/-- The warning of a run without a document. -/
def missingDocument : String :=
  "Kernel.toml not found, using built-in network defaults"

/-- One run: the outcome, and the file afterwards. -/
def run (document : Option Document) (file : Output) : Outcome × Output :=
  let warnings := if document.isNone then [missingDocument] else []
  match (Request.ofDocument (document.getD [])).check with
  | .error fault => ({ warnings, fault := some fault, written := false }, file)
  | .ok settings =>
    let constants := settings.constants
    -- a file that would not change is left alone
    if file = some constants then ({ warnings, fault := none, written := false }, file)
    else ({ warnings, fault := none, written := true }, some constants)

/-- Runs one after another over the same file: each outcome with the file after it. -/
def runs (file : Output) : List (Option Document) → List (Outcome × Output)
  | [] => []
  | document :: rest =>
    let step := run document file
    step :: runs step.2 rest

end NetStack.Config
