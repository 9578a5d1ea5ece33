import NetStack.Address.Text
import NetStack.Config.Document
import NetStack.Host
import NetStack.PowerOfTwo

/-!
# Settings

A document asks for settings (`Request`: every absent value replaced by its default), a request is
checked in a fixed order, and the first fault stops it. What passes are `Settings`, whose addresses
are values and no longer texts.
-/

namespace NetStack.Config

/-- The settings that a document asks for, with the defaults filled in and nothing checked. -/
structure Request where
  localIp : String
  localMac : String
  gatewayMac : String
  ttl : Int
  txRingSize : Int
  rxRingSize : Int
  txBufferSize : Int
  rxBufferSize : Int
  frameCapacity : Int
  verifyChecksums : Bool
  socketTableSize : Int
  socketBacklog : Int
  ecamBase : Int
  registerBase : Int
  deriving DecidableEq, Repr

/-- What a document asks for. -/
def Request.ofDocument (document : Document) : Request where
  localIp := document.text "network" "local_ip" Host.ip.text
  localMac := document.text "network" "local_mac" Host.mac.text
  gatewayMac := document.text "network" "gateway_mac" Host.gateway.text
  ttl := document.integer "network" "ip_default_ttl" Host.ttl.toNat
  txRingSize := document.integer "network" "tx_ring_size" Host.txRingSize
  rxRingSize := document.integer "network" "rx_ring_size" Host.rxRingSize
  txBufferSize := document.integer "network" "tx_buffer_size" Host.txBufferSize
  rxBufferSize := document.integer "network" "rx_buffer_size" Host.rxBufferSize
  frameCapacity := document.integer "network" "frame_capacity" Host.frameCapacity
  verifyChecksums := document.boolean "network" "verify_rx_checksums" Host.verifyChecksums
  socketTableSize := document.integer "network" "udp_socket_table_size" Host.socketTableSize
  socketBacklog := document.integer "network" "socket_backlog" Host.socketBacklog
  ecamBase := document.integer "platform" "ecam_base" Host.ecamBase
  registerBase := document.integer "platform" "e1000_mmio_base" Host.registerBase.toNat

/-- Why a request is refused. -/
inductive Fault where
  /-- The host's address is not an IPv4 address. -/
  | badIp (text : String)
  /-- The address under a key is not a hardware address. -/
  | badMac (key text : String)
  /-- The time to live does not fit its byte, or is zero. -/
  | badTtl (value : Int)
  /-- The ring size under a key is not a power of two. -/
  | ringNotPowerOfTwo (key : String) (value : Int)
  /-- The descriptor table of a ring size is not a multiple of 128 bytes. -/
  | ringNotAligned (key : String) (value : Int)
  /-- The card is programmed for receive buffers of one size only. -/
  | badRxBuffer
  /-- A transmit buffer cannot hold a frame of minimal length, or is longer than the card allows. -/
  | badTxBuffer (value : Int)
  /-- The registers do not lie within the first 4 GiB. -/
  | badRegisterBase
  deriving DecidableEq, Repr

/-- The fault in words. -/
def Fault.message : Fault → String
  | badIp text => s!"Kernel.toml: local_ip = \"{text}\" 不是合法的 IPv4 地址"
  | badMac key text => s!"Kernel.toml: {key} = \"{text}\" 不是合法的 MAC 地址"
  | badTtl value => s!"Kernel.toml: ip_default_ttl = {value} 超出范围"
  | ringNotPowerOfTwo key value => s!"Kernel.toml: {key} = {value} 必须是 2 的幂"
  | ringNotAligned key value => s!"Kernel.toml: {key} = {value} 描述符表大小必须是 128 字节的倍数"
  | badRxBuffer => "Kernel.toml: rx_buffer_size 只支持 2048"
  | badTxBuffer value => s!"Kernel.toml: tx_buffer_size = {value} 超出范围"
  | badRegisterBase => "Kernel.toml: e1000_mmio_base 必须位于 4GiB 以下"

/-- Checked settings. -/
structure Settings where
  localIp : Ipv4
  localMac : Mac
  gatewayMac : Mac
  ttl : Int
  txRingSize : Int
  rxRingSize : Int
  txBufferSize : Int
  rxBufferSize : Int
  frameCapacity : Int
  verifyChecksums : Bool
  socketTableSize : Int
  socketBacklog : Int
  ecamBase : Int
  registerBase : Int
  deriving DecidableEq, Repr

/-- The hardware address under a key. -/
def checkMac (key text : String) : Except Fault Mac :=
  match Mac.ofText? text with
  | some mac => .ok mac
  | none => .error (.badMac key text)

/-- The IPv4 address of the host. -/
def checkIp (text : String) : Except Fault Ipv4 :=
  match Ipv4.ofText? text with
  | some ip => .ok ip
  | none => .error (.badIp text)

/-- The size of a descriptor ring: a power of two whose table of 16-byte descriptors is a multiple
of 128 bytes. The length of the table is taken as it is; it fits 64 bits below 2^60 descriptors. -/
def checkRingSize (key : String) (value : Int) : Except Fault Int :=
  -- a negative number is refused before it is taken for a natural one
  if value ≤ 0 ∨ isPowerOfTwo value.toNat = false then
    .error (.ringNotPowerOfTwo key value)
  else if value * 16 % 128 ≠ 0 then
    .error (.ringNotAligned key value)
  else
    .ok value

/-- The settings of a request, or the first fault in it. -/
def Request.check (request : Request) : Except Fault Settings := do
  let localIp ← checkIp request.localIp
  let localMac ← checkMac "local_mac" request.localMac
  let gatewayMac ← checkMac "gateway_mac" request.gatewayMac
  unless 1 ≤ request.ttl ∧ request.ttl ≤ 255 do
    throw (.badTtl request.ttl)
  let txRingSize ← checkRingSize "tx_ring_size" request.txRingSize
  let rxRingSize ← checkRingSize "rx_ring_size" request.rxRingSize
  unless request.rxBufferSize = 2048 do
    throw .badRxBuffer
  unless 64 ≤ request.txBufferSize ∧ request.txBufferSize ≤ 16288 do
    throw (.badTxBuffer request.txBufferSize)
  unless request.registerBase < UInt32.size do
    throw .badRegisterBase
  return { request with localIp, localMac, gatewayMac, txRingSize, rxRingSize }

end NetStack.Config
