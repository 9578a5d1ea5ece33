import Mathlib.Data.Finmap
import NetStack.Proofs.Ownership
import NetStack.Proofs.Sending

/-!
# The socket table as a partial map

Seen from its callers the socket table is a partial map from the descriptors below
`Host.socketTableSize` to sockets: which place of the table a socket gets is decided by the map
alone. `Sockets` is such a map together with the queues of the ports, and `Bench.Does` says what
each operation on sockets answers and does to it: a new socket gets the least descriptor that is
free, a socket is changed or closed under its own descriptor only, and a port's queue is emptied
with its last socket.

`follows_act` shows that an operation on a stack is one on its map. All other moves of a run keep
the map (`table_of_legal`). So the map that starts empty and follows the operations is the table's
at every moment (`sockets_refine`).
-/

namespace NetStack

/-- Open sockets by their descriptors. -/
abbrev SocketMap := Finmap fun _ : Nat => Socket

/-- Some socket has a port as its local port. -/
def SocketMap.Bound (map : SocketMap) (port : UInt16) : Prop :=
  ∃ fd socket, map.lookup fd = some socket ∧ socket.localPort = some port

/-- What the callers know of the sockets. -/
structure Sockets where
  /-- The open sockets. -/
  map : SocketMap
  /-- What is parked for each port. -/
  queue : UInt16 → List Datagram

namespace Sockets

/-- What opening a socket does. -/
inductive Opens (socket : Socket) (sockets : Sockets) : Except Errno Nat → Sockets → Prop
  /-- As long as there is room, the socket gets the least descriptor that is free. -/
  | opened {fd : Nat} (hroom : sockets.map.keys.card < Host.socketTableSize)
      (hfree : fd ∉ sockets.map) (hleast : ∀ lower < fd, lower ∈ sockets.map) :
      Opens socket sockets (.ok fd) { sockets with map := sockets.map.insert fd socket }
  | full (hfull : ¬sockets.map.keys.card < Host.socketTableSize) :
      Opens socket sockets (.error .tooManyOpenFiles) sockets

/-- What changing a socket does. -/
inductive Changes (fd : Nat) (change : Socket → Socket) (sockets : Sockets) :
    Except Errno Unit → Sockets → Prop
  | changed {socket : Socket} (hfd : sockets.map.lookup fd = some socket) :
      Changes fd change sockets (.ok ())
        { sockets with map := sockets.map.insert fd (change socket) }
  | unknown (hfd : fd ∉ sockets.map) :
      Changes fd change sockets (.error .badFileNumber) sockets

/-- What closing a socket does. -/
inductive Closes (fd : Nat) (sockets : Sockets) : Except Errno Unit → Sockets → Prop
  /-- The queue of the socket's port stays as long as the port has another socket, and so do all
  other queues. -/
  | closed {socket : Socket} {next : Sockets} (hfd : sockets.map.lookup fd = some socket)
      (hmap : next.map = sockets.map.erase fd)
      (hkept : ∀ port, socket.localPort ≠ some port ∨ next.map.Bound port →
        next.queue port = sockets.queue port)
      (hlast : ∀ port, socket.localPort = some port → ¬next.map.Bound port →
        next.queue port = []) :
      Closes fd sockets (.ok ()) next
  | unknown (hfd : fd ∉ sockets.map) : Closes fd sockets (.error .badFileNumber) sockets

end Sockets

namespace SocketTable

/-- The open sockets of a table with their descriptors, lowest first. -/
def entries (table : SocketTable) : List (Σ _ : Nat, Socket) :=
  (List.range Host.socketTableSize).filterMap fun fd => (table.get? fd).map (Sigma.mk fd)

/-- The open sockets of a table. -/
def map (table : SocketTable) : SocketMap :=
  table.entries.toFinmap

/-- What is looked up among the sockets of some places. -/
theorem dlookup_filterMap (table : SocketTable) (fd : Nat) (places : List Nat) :
    (places.filterMap fun place => (table.get? place).map (Sigma.mk place)).dlookup fd =
      if fd ∈ places then table.get? fd else none := by
  induction places with
  | nil => rfl
  | cons place places ih =>
    cases hplace : table.get? place with
    | none =>
      -- a free place has no entry, and looking up its descriptor finds nothing on either side
      rw [List.filterMap_cons_none (by rw [hplace]; rfl), ih]
      by_cases heq : fd = place
      · rw [heq, hplace, ite_self, ite_self]
      · simp only [List.mem_cons, heq, false_or]
    | some socket =>
      rw [List.filterMap_cons_some (by rw [hplace]; rfl)]
      by_cases heq : fd = place
      · rw [heq, List.dlookup_cons_eq, if_pos List.mem_cons_self, hplace]
      · rw [List.dlookup_cons_ne _ _ heq, ih]
        simp only [List.mem_cons, heq, false_or]

/-- The map has a socket under a descriptor where the table has it. -/
@[simp] theorem lookup_map (table : SocketTable) (fd : Nat) :
    table.map.lookup fd = table.get? fd := by
  unfold map entries
  rw [Finmap.dlookup_list_toFinmap, dlookup_filterMap]
  by_cases hfd : fd ∈ List.range Host.socketTableSize
  · rw [if_pos hfd]
  · rw [if_neg hfd]
    cases hsocket : table.get? fd with
    | none => rfl
    | some socket => exact absurd (List.mem_range.2 (lt_of_get? hsocket)) hfd

/-- The descriptors of the map are those under which the table has a socket. -/
theorem mem_map_iff (table : SocketTable) (fd : Nat) :
    fd ∈ table.map ↔ ∃ socket, table.get? fd = some socket := by
  rw [Finmap.mem_iff]
  simp only [lookup_map]

/-- No descriptor of the map lies beyond the table. -/
theorem lt_of_mem_map {table : SocketTable} {fd : Nat} (h : fd ∈ table.map) :
    fd < Host.socketTableSize := by
  obtain ⟨socket, hsocket⟩ := (mem_map_iff _ _).1 h
  exact lt_of_get? hsocket

/-- An empty table has an empty map. -/
theorem map_empty : empty.map = ∅ := by
  apply Finmap.ext_lookup
  intro fd
  rw [lookup_map, Finmap.lookup_empty]
  unfold get? empty
  rw [Vector.getElem?_replicate]
  split <;> rfl

/-- A socket in a place of the table is one in the map. -/
theorem map_set_some (table : SocketTable) {fd : Nat} (h : fd < Host.socketTableSize)
    (socket : Socket) : (table.set fd (some socket)).map = table.map.insert fd socket := by
  apply Finmap.ext_lookup
  intro other
  rw [lookup_map, get?_set _ _ _ _ h]
  by_cases heq : other = fd
  · rw [heq, if_pos rfl, Finmap.lookup_insert]
  · rw [if_neg heq, Finmap.lookup_insert_of_ne _ heq, lookup_map]

/-- An emptied place is no descriptor of the map. -/
theorem map_set_none (table : SocketTable) {fd : Nat} (h : fd < Host.socketTableSize) :
    (table.set fd none).map = table.map.erase fd := by
  apply Finmap.ext_lookup
  intro other
  rw [lookup_map, get?_set _ _ _ _ h]
  by_cases heq : other = fd
  · rw [heq, if_pos rfl, Finmap.lookup_erase]
  · rw [if_neg heq, Finmap.lookup_erase_ne heq, lookup_map]

/-- The table has a socket on a port if the map has one. -/
theorem isBound_iff_bound (table : SocketTable) (port : UInt16) :
    table.isBound port = true ↔ table.map.Bound port := by
  unfold SocketMap.Bound
  rw [isBound_iff]
  simp only [lookup_map]

/-- The descriptors of the map are places of the table. -/
theorem keys_map_subset (table : SocketTable) :
    table.map.keys ⊆ Finset.range Host.socketTableSize := by
  intro fd hfd
  rw [Finset.mem_range]
  exact lt_of_mem_map (Finmap.mem_keys.1 hfd)

/-- There is room in the map exactly if a place of the table is free. -/
theorem card_keys_lt_iff (table : SocketTable) : table.map.keys.card < Host.socketTableSize ↔
    ∃ fd < Host.socketTableSize, fd ∉ table.map := by
  have hsubset := table.keys_map_subset
  constructor
  · -- if no place were free, there would be as many descriptors as places
    intro hcard
    by_contra hnone
    have hall : Finset.range Host.socketTableSize ⊆ table.map.keys := by
      intro fd hfd
      rw [Finmap.mem_keys]
      by_contra hfree
      exact hnone ⟨fd, Finset.mem_range.1 hfd, hfree⟩
    have hle := Finset.card_le_card hall
    rw [Finset.card_range] at hle
    omega
  · rintro ⟨fd, hlt, hfree⟩
    have hstrict : table.map.keys ⊂ Finset.range Host.socketTableSize := by
      refine Finset.ssubset_iff_subset_ne.2 ⟨hsubset, fun heq => hfree ?_⟩
      rw [← Finmap.mem_keys, heq]
      exact Finset.mem_range.2 hlt
    have hcard := Finset.card_lt_card hstrict
    rw [Finset.card_range] at hcard
    exact hcard

/-- A place is free if the map has no socket there. -/
theorem isNone_iff_not_mem_map (table : SocketTable) (place : Fin Host.socketTableSize) :
    (table.places.get place).isNone = true ↔ place.val ∉ table.map := by
  rw [isNone_get_iff, ← Finmap.lookup_eq_none, lookup_map]

/-- The first free place is the least descriptor that the map has not. -/
theorem free?_eq_some {table : SocketTable} {place : Fin Host.socketTableSize}
    (h : table.free? = some place) :
    place.val ∉ table.map ∧ ∀ lower < place.val, lower ∈ table.map := by
  unfold free? at h
  obtain ⟨hfree, index, hindex, hplace, hearlier⟩ := List.find?_eq_some_iff_getElem.1 h
  rw [List.getElem_finRange] at hplace
  refine ⟨(isNone_iff_not_mem_map _ _).1 hfree, fun lower hlower => ?_⟩
  have hbefore : lower < index := by
    rw [← hplace] at hlower
    exact hlower
  -- the places are searched in order, so that those before the first free one are taken
  have htaken := hearlier lower hbefore
  rw [List.getElem_finRange, Bool.not_eq_true', ← Bool.not_eq_true] at htaken
  by_contra hnone
  exact htaken ((isNone_iff_not_mem_map _ ⟨lower, hlower.trans place.isLt⟩).2 hnone)

/-- Without a free place there is no room in the map. -/
theorem free?_eq_none {table : SocketTable} (h : table.free? = none) :
    ¬table.map.keys.card < Host.socketTableSize := by
  unfold free? at h
  rw [card_keys_lt_iff]
  rintro ⟨fd, hlt, hfree⟩
  have htaken := List.find?_eq_none.1 h ⟨fd, hlt⟩ (List.mem_finRange _)
  exact htaken ((isNone_iff_not_mem_map _ ⟨fd, hlt⟩).2 hfree)

end SocketTable

namespace Stack

open Sockets (Opens Changes Closes)

variable {β : Type}

/-- The sockets of a stack, as its callers know them. -/
def sockets (stack : Stack β) : Sockets where
  map := stack.table.map
  queue := stack.backlog.queue

/-- The map of a stack has what its table has. -/
theorem lookup_sockets (stack : Stack β) (fd : Nat) :
    stack.sockets.map.lookup fd = stack.table.get? fd :=
  stack.table.lookup_map fd

/-- The map of a stack lacks what its table lacks. -/
theorem not_mem_sockets_iff (stack : Stack β) (fd : Nat) :
    fd ∉ stack.sockets.map ↔ stack.table.get? fd = none := by
  rw [← Finmap.lookup_eq_none, lookup_sockets]

/-- A new stack has no socket, and nothing is parked. -/
theorem sockets_ofTransport (transport : Transport β) :
    (ofTransport transport).sockets = ⟨∅, fun _ => []⟩ := by
  unfold sockets ofTransport
  rw [SocketTable.map_empty]
  rfl

/-- A socket is added to a stack as it is opened in the map. -/
theorem opens_add (stack : Stack β) (socket : Socket) :
    (∃ fd table, stack.table.add socket = .ok (fd, table) ∧
      Opens socket stack.sockets (.ok fd) { stack with table }.sockets) ∨
    (stack.table.add socket = .error .tooManyOpenFiles ∧
      Opens socket stack.sockets (.error .tooManyOpenFiles) stack.sockets) := by
  unfold SocketTable.add
  cases hplace : stack.table.free? with
  | some place =>
    obtain ⟨hfree, hleast⟩ := SocketTable.free?_eq_some hplace
    have hroom := stack.table.card_keys_lt_iff.2 ⟨place.val, place.isLt, hfree⟩
    have hnext : { stack with table := stack.table.set place.val (some socket) }.sockets =
        { stack.sockets with map := stack.sockets.map.insert place.val socket } := by
      unfold sockets
      rw [SocketTable.map_set_some _ place.isLt]
    refine .inl ⟨place.val, _, rfl, ?_⟩
    rw [hnext]
    exact .opened hroom hfree hleast
  | none => exact .inr ⟨rfl, .full (SocketTable.free?_eq_none hplace)⟩

/-- The outcome of an operation that changes the sockets only if it succeeds, and the driver never.
-/
inductive Settles (does : Except Errno Unit → Sockets → Prop) (stack : Stack β) :
    Except Errno (Stack β) → Prop
  | settled {next : Stack β} (htransport : next.transport = stack.transport)
      (h : does (.ok ()) next.sockets) : Settles does stack (.ok next)
  | refused {errno : Errno} (h : does (.error errno) stack.sockets) :
      Settles does stack (.error errno)

/-- A socket of a stack is changed as it is changed in the map. -/
theorem settles_modify (stack : Stack β) (fd : Nat) (change : Socket → Socket) :
    Settles (Changes fd change stack.sockets) stack
      ((stack.table.modify fd change).map fun table => { stack with table }) := by
  unfold SocketTable.modify
  cases hsocket : stack.table.get? fd with
  | some socket =>
    have hlookup := (stack.lookup_sockets fd).trans hsocket
    have hnext : { stack with table := stack.table.set fd (some (change socket)) }.sockets =
        { stack.sockets with map := stack.sockets.map.insert fd (change socket) } := by
      unfold sockets
      rw [SocketTable.map_set_some _ (SocketTable.lt_of_get? hsocket)]
    refine .settled rfl ?_
    rw [hnext]
    exact .changed hlookup
  | none => exact .refused (.unknown ((stack.not_mem_sockets_iff fd).2 hsocket))

/-- A socket of a stack is closed as it is closed in the map. -/
theorem settles_close (stack : Stack β) (fd : Nat) :
    Settles (Closes fd stack.sockets) stack (stack.close fd) := by
  cases hclose : stack.close fd with
  | ok next =>
    obtain ⟨socket, hsocket, htable, htransport, hqueue⟩ := queue_close hclose
    have hlookup := (stack.lookup_sockets fd).trans hsocket
    have hmap : next.sockets.map = stack.sockets.map.erase fd := by
      show next.table.map = stack.table.map.erase fd
      rw [htable, SocketTable.map_set_none _ (SocketTable.lt_of_get? hsocket)]
    refine .settled htransport (.closed hlookup hmap ?_ ?_)
    · intro port hkept
      show next.backlog.queue port = stack.backlog.queue port
      rw [hqueue, if_neg]
      rintro ⟨hport, hfree⟩
      rcases hkept with hother | hbound
      · exact hother hport
      · exact hfree ((next.table.isBound_iff_bound port).2 hbound)
    · intro port hport hfree
      have hlast := mt (next.table.isBound_iff_bound port).1 hfree
      show next.backlog.queue port = []
      rw [hqueue, if_pos ⟨hport, hlast⟩]
  | error errno =>
    unfold close SocketTable.remove at hclose
    cases hsocket : stack.table.get? fd with
    | some socket =>
      rw [hsocket] at hclose
      cases hclose
    | none =>
      rw [hsocket] at hclose
      cases hclose
      exact .refused (.unknown ((stack.not_mem_sockets_iff fd).2 hsocket))

end Stack

namespace Bench

open Sockets (Opens Changes Closes)

/-- Whether an action is an operation on the sockets of the table. -/
def Action.onTable : Action → Bool
  | .socket | .bind _ _ | .connect _ _ _ | .openConnected _ _ _ | .close _ => true
  | .sysConnect _ _ _ | .sysClose _ => true
  | _ => false

/-- An answer with which an operation on sockets is refused. -/
def Answer.Refuses : Answer → Prop
  | .failed _ => True
  | .code n => n < 0
  | _ => False

/-- What an operation on sockets answers and does. -/
inductive Does (sockets : Sockets) : Action → Answer → Sockets → Prop
  | socket {outcome : Except Errno Nat} {next : Sockets}
      (h : Opens ⟨none, none⟩ sockets outcome next) :
      Does sockets .socket (.ofErrno .count outcome) next
  | bind {fd : Nat} {port : UInt16} {outcome : Except Errno Unit} {next : Sockets}
      (h : Changes fd (fun socket => ⟨some port, socket.remote⟩) sockets outcome next) :
      Does sockets (.bind fd port) (.ofErrno (fun _ => .ok) outcome) next
  | connect {fd : Nat} {ip : Ipv4} {port : UInt16} {outcome : Except Errno Unit} {next : Sockets}
      (h : Changes fd (fun socket => ⟨socket.localPort, some ⟨ip, port⟩⟩) sockets outcome next) :
      Does sockets (.connect fd ip port) (.ofErrno (fun _ => .ok) outcome) next
  | openConnected {ip : Ipv4} {remotePort localPort : UInt16} {outcome : Except Errno Nat}
      {next : Sockets} (h : Opens ⟨some localPort, some ⟨ip, remotePort⟩⟩ sockets outcome next) :
      Does sockets (.openConnected ip remotePort localPort) (.ofErrno .count outcome) next
  | close {fd : Nat} {outcome : Except Errno Unit} {next : Sockets}
      (h : Closes fd sockets outcome next) :
      Does sockets (.close fd) (.ofErrno (fun _ => .ok) outcome) next
  /-- The system call refuses numbers that are no ports before it opens a socket. -/
  | sysConnect_noPort {address localPort remotePort : UInt32}
      (h : 65535 < localPort.toNat ∨ 65535 < remotePort.toNat) :
      Does sockets (.sysConnect address localPort remotePort)
        (.code Errno.invalidArgument.negated) sockets
  | sysConnect {address localPort remotePort : UInt32} {outcome : Except Errno Nat}
      {next : Sockets} (hlocal : localPort.toNat ≤ 65535) (hremote : remotePort.toNat ≤ 65535)
      (h : Opens ⟨some (.ofNat localPort.toNat), some ⟨.ofWord address, .ofNat remotePort.toNat⟩⟩
        sockets outcome next) :
      Does sockets (.sysConnect address localPort remotePort) (.code (Errno.result outcome)) next
  /-- A negative number is no descriptor. -/
  | sysClose_negative {fd : Int} (h : fd < 0) :
      Does sockets (.sysClose fd) (.code Errno.badFileNumber.negated) sockets
  | sysClose {fd : Nat} {outcome : Except Errno Unit} {next : Sockets}
      (h : Closes fd sockets outcome next) :
      Does sockets (.sysClose fd) (.code (Errno.result (outcome.map fun _ => 0))) next

/-- A run of operations on sockets, and of other moves, which open, change and close none. What
those park and take is left open. -/
inductive Run (start : Sockets) : List (Move Action Call Waiting Answer) → Sockets → Prop
  | nil : Run start [] start
  | does {past : List (Move Action Call Waiting Answer)} {sockets next : Sockets} {action : Action}
      {answer : Answer} (earlier : Run start past sockets)
      (h : Does sockets action answer next) : Run start (past ++ [.act action answer]) next
  | other {past : List (Move Action Call Waiting Answer)} {sockets next : Sockets}
      {move : Move Action Call Waiting Answer} (earlier : Run start past sockets)
      (hmove : ∀ action answer, move = .act action answer → action.onTable = false)
      (hmap : next.map = sockets.map) : Run start (past ++ [move]) next

variable {β : Type}

/-- What an operation on sockets does to a stack: to its map what it should, to its driver nothing,
and nothing at all if it is refused. -/
structure Follows (stack : Stack β) (action : Action) (answer : Answer) (next : Stack β) :
    Prop where
  does : Does stack.sockets action answer next.sockets
  transport : next.transport = stack.transport
  refused : answer.Refuses → next = stack

/-- An operation that settles as the map does is one of the map. -/
theorem Follows.of_settles {stack next : Stack β} {action : Action} {answer : Answer}
    {outcome : Except Errno (Stack β)} {does : Except Errno Unit → Sockets → Prop}
    (h : stack.Settles does outcome) (hact : settle stack outcome = (answer, next))
    (hdoes : ∀ {outcome next}, does outcome next →
      Does stack.sockets action (.ofErrno (fun _ => .ok) outcome) next) :
    Follows stack action answer next := by
  cases h with
  | settled htransport h =>
    cases hact
    exact ⟨hdoes h, htransport, False.elim⟩
  | refused h =>
    cases hact
    exact ⟨hdoes h, rfl, fun _ => rfl⟩

/-- A connected socket is opened in the map as it is in the table. -/
theorem opens_openConnected {stack next : Stack β} {ip : Ipv4} {remotePort localPort : UInt16}
    {outcome : Except Errno Nat}
    (h : (stack.openConnected ip remotePort localPort).value = (outcome, next)) :
    Opens ⟨some localPort, some ⟨ip, remotePort⟩⟩ stack.sockets outcome next.sockets ∧
      next.transport = stack.transport ∧ (∀ errno, outcome = .error errno → next = stack) := by
  unfold Stack.openConnected at h
  rcases stack.opens_add ((Socket.fresh.bind localPort).connect ip remotePort) with
    ⟨fd, table, hadd, hopens⟩ | ⟨hadd, hopens⟩
  · rw [hadd] at h
    cases h
    exact ⟨hopens, rfl, fun errno herror => by cases herror⟩
  · rw [hadd] at h
    cases h
    exact ⟨hopens, rfl, fun _ _ => rfl⟩

/-- The connect call with two ports opens a socket. -/
theorem connect_of_le {stack next : Stack β} {address localPort remotePort : UInt32}
    {outcome : Except Errno Nat} (hlocal : localPort.toNat ≤ 65535)
    (hremote : remotePort.toNat ≤ 65535)
    (hopened : (stack.openConnected (.ofWord address) (.ofNat remotePort.toNat)
      (.ofNat localPort.toNat)).value = (outcome, next)) :
    (Syscall.connect stack address localPort remotePort).value =
      (Errno.result outcome, next) := by
  unfold Syscall.connect
  rw [Syscall.checkPort_of_le hlocal, Syscall.checkPort_of_le hremote]
  show (Errno.result (stack.openConnected _ _ _).value.1, (stack.openConnected _ _ _).value.2) = _
  rw [hopened]

/-- The connect call with a number that is no port is refused. -/
theorem connect_of_lt (stack : Stack β) (address : UInt32) {localPort remotePort : UInt32}
    (h : 65535 < localPort.toNat ∨ 65535 < remotePort.toNat) :
    (Syscall.connect stack address localPort remotePort).value =
      (Errno.invalidArgument.negated, stack) := by
  unfold Syscall.connect
  by_cases hlocal : 65535 < localPort.toNat
  · rw [Syscall.checkPort_of_lt hlocal]
    rfl
  · have hremote := h.resolve_left hlocal
    rw [Syscall.checkPort_of_le (Nat.not_lt.1 hlocal), Syscall.checkPort_of_lt hremote]
    rfl

/-- The close call with a negative number is refused. -/
theorem close_of_neg (stack : Stack β) {fd : Int} (h : fd < 0) :
    Syscall.close stack fd = (Errno.badFileNumber.negated, stack) := by
  unfold Syscall.close Syscall.checkDescriptor
  rw [if_pos h]

/-- The close call answers with zero for a socket that is closed. -/
theorem close_of_ok {stack closed : Stack β} {fd : Nat} (h : stack.close fd = .ok closed) :
    Syscall.close stack (fd : Int) = (0, closed) := by
  unfold Syscall.close Syscall.checkDescriptor
  rw [if_neg (Int.not_lt.2 (Int.natCast_nonneg fd))]
  simp only [Int.toNat_natCast, h]

/-- The close call answers with the error that closing comes to. -/
theorem close_of_error {stack : Stack β} {fd : Nat} {errno : Errno}
    (h : stack.close fd = .error errno) :
    Syscall.close stack (fd : Int) = (errno.negated, stack) := by
  unfold Syscall.close Syscall.checkDescriptor
  rw [if_neg (Int.not_lt.2 (Int.natCast_nonneg fd))]
  simp only [Int.toNat_natCast, h]

variable [Device β]

/-- An operation on the sockets of a stack is one of its map. -/
theorem follows_act {stack next : Stack β} {action : Action} {answer : Answer}
    (hact : (act action stack).value = (answer, next)) (h : action.onTable = true) :
    Follows stack action answer next := by
  cases action with
  | socket =>
    simp only [act, Stack.socket] at hact
    rcases stack.opens_add Socket.fresh with ⟨fd, table, hadd, hopens⟩ | ⟨hadd, hopens⟩
    · rw [hadd] at hact
      cases hact
      exact ⟨.socket hopens, rfl, False.elim⟩
    · rw [hadd] at hact
      cases hact
      exact ⟨.socket hopens, rfl, fun _ => rfl⟩
  | bind fd port =>
    exact .of_settles (stack.settles_modify fd _) hact .bind
  | connect fd ip port =>
    exact .of_settles (stack.settles_modify fd _) hact .connect
  | openConnected ip remotePort localPort =>
    rcases hopened : (stack.openConnected ip remotePort localPort).value with ⟨outcome, opened⟩
    simp only [act, Logged.value_bind, hopened] at hact
    cases hact
    obtain ⟨hopens, htransport, hrefused⟩ := opens_openConnected hopened
    refine ⟨.openConnected hopens, htransport, fun hrefuses => ?_⟩
    cases outcome with
    | ok fd => exact hrefuses.elim
    | error errno => exact hrefused errno rfl
  | close fd =>
    exact .of_settles (stack.settles_close fd) hact .close
  | sysConnect address localPort remotePort =>
    -- both ports are checked before the table is looked at
    by_cases hports : localPort.toNat ≤ 65535 ∧ remotePort.toNat ≤ 65535
    · obtain ⟨hlocal, hremote⟩ := hports
      rcases hopened : (stack.openConnected (.ofWord address) (.ofNat remotePort.toNat)
        (.ofNat localPort.toNat)).value with ⟨outcome, opened⟩
      simp only [act, Logged.value_bind, connect_of_le hlocal hremote hopened] at hact
      cases hact
      obtain ⟨hopens, htransport, hrefused⟩ := opens_openConnected hopened
      refine ⟨.sysConnect hlocal hremote hopens, htransport, fun hrefuses => ?_⟩
      cases outcome with
      | ok fd => exact absurd hrefuses (Int.not_lt.2 (Int.natCast_nonneg fd))
      | error errno => exact hrefused errno rfl
    · have hnone : 65535 < localPort.toNat ∨ 65535 < remotePort.toNat := by omega
      simp only [act, Logged.value_bind, connect_of_lt stack address hnone] at hact
      cases hact
      exact ⟨.sysConnect_noPort hnone, rfl, fun _ => rfl⟩
  | sysClose fd =>
    by_cases hfd : fd < 0
    · simp only [act, close_of_neg stack hfd] at hact
      cases hact
      exact ⟨.sysClose_negative hfd, rfl, fun _ => rfl⟩
    · obtain ⟨fd, rfl⟩ := Int.eq_ofNat_of_zero_le (Int.not_lt.1 hfd)
      have hsettles := stack.settles_close fd
      cases hclose : stack.close fd with
      | ok closed =>
        simp only [act, close_of_ok hclose] at hact
        cases hact
        rw [hclose] at hsettles
        cases hsettles with
        | settled htransport h =>
          exact ⟨.sysClose h, htransport, fun hneg => absurd hneg (Int.lt_irrefl 0)⟩
      | error errno =>
        simp only [act, close_of_error hclose] at hact
        cases hact
        rw [hclose] at hsettles
        cases hsettles with
        | refused h => exact ⟨.sysClose h, rfl, fun _ => rfl⟩
  | _ => cases h

/-- Writing from a socket leaves the table alone. -/
theorem table_write (stack : Stack β) (fd : Nat) (payload : Bytes) :
    (stack.write fd payload).value.2.table = stack.table := by
  unfold Stack.write
  split
  · rfl
  · simp only [Logged.value_bind]
    split <;> rfl
  · rfl

/-- All other actions leave the table alone. -/
theorem table_act (stack : Stack β) {action : Action} (h : action.onTable = false) :
    (act action stack).value.2.table = stack.table := by
  cases action with
  | fillRx slot length status data =>
    simp only [act, changeRx, Logged.value_pure]
    split <;> rfl
  | markTx slot status =>
    simp only [act, changeTx, Logged.value_pure]
    split <;> rfl
  | transmit frame =>
    simp only [act, Logged.value_bind]
    split <;> rfl
  | send dst dport sport payload =>
    simp only [act, Logged.value_bind]
    split <;> rfl
  | write fd payload => exact table_write stack fd payload
  | sysSend dst dport sport buffer =>
    simp only [act, Syscall.send, Logged.value_bind]
    split <;> rfl
  | sysWrite fd buffer =>
    simp only [act, Syscall.write, Logged.value_bind]
    split
    · rfl
    · exact table_write _ _ _
  | socket | bind fd port | connect fd ip port | openConnected ip remotePort localPort | close fd
  | sysConnect address localPort remotePort | sysClose fd => cases h
  | _ => rfl

/-- A call that goes on leaves the table alone. -/
theorem table_resume (waiting : Waiting) (stack : Stack β) :
    (resume waiting stack).value.2.table = stack.table := by
  cases waiting with
  | port port reader => exact (Stack.parks_receiveOn stack port).table
  | _ => rfl

/-- A call that is entered leaves the table alone. -/
theorem table_enter (call : Call) (stack : Stack β) :
    (enter call stack).value.2.table = stack.table := by
  unfold enter
  split
  · rfl
  · exact table_resume _ _

/-- An operation on the sockets happens in no other move than in its own. -/
theorem table_of_legal {moment : Moment (Stack β) Action Call Waiting Answer}
    {sleeping : List (Sleeper Waiting)} (hlegal : (stackSystem β).Legal sleeping moment)
    (hmove : ∀ action answer, moment.move = .act action answer → action.onTable = false) :
    moment.after.table = moment.before.table :=
  hlegal.relates (fun stack next => next.table = stack.table)
    (fun action answer heq => table_act _ (hmove action answer heq))
    (fun call => table_enter call _) (fun waiting => table_resume waiting _) rfl

/-- A move that is an operation on the sockets follows the map. -/
theorem follows_of_legal {moment : Moment (Stack β) Action Call Waiting Answer}
    {sleeping : List (Sleeper Waiting)} (hlegal : (stackSystem β).Legal sleeping moment)
    {action : Action} {answer : Answer} (hmove : moment.move = .act action answer)
    (htable : action.onTable = true) : Follows moment.before action answer moment.after := by
  unfold System.Legal at hlegal
  rw [hmove] at hlegal
  exact follows_act hlegal htable

/-- Along a path the operations on the sockets are run on the map. -/
theorem run_of_path {start s : Stack β} {waiting : List (Sleeper Waiting)}
    {past : List (Moment (Stack β) Action Call Waiting Answer)}
    (hpath : System.Path (stackSystem β) start [] past s waiting) :
    Run start.sockets (past.map Moment.move) s.sockets ∧
      ∀ moment ∈ past, ∀ action answer, moment.move = .act action answer →
        action.onTable = true → Follows moment.before action answer moment.after := by
  refine hpath.history (fun past s => Run start.sockets (past.map Moment.move) s.sockets ∧
    ∀ moment ∈ past, ∀ action answer, moment.move = .act action answer →
      action.onTable = true → Follows moment.before action answer moment.after)
    ⟨.nil, by simp⟩ ?_
  rintro earlier moment - asleep hlegal ⟨hrun, hfollows⟩
  constructor
  · rw [List.map_append, List.map_singleton]
    -- a move that is no operation on the sockets may park and take datagrams, but keeps the map
    by_cases htable : ∃ action answer, moment.move = .act action answer ∧ action.onTable = true
    · obtain ⟨action, answer, hmove, htable⟩ := htable
      rw [hmove]
      exact hrun.does (follows_of_legal hlegal hmove htable).does
    · have hother : ∀ action answer, moment.move = .act action answer →
          action.onTable = false := fun action answer hmove =>
        Bool.eq_false_iff.2 fun hon => htable ⟨action, answer, hmove, hon⟩
      exact hrun.other hother (congrArg SocketTable.map (table_of_legal hlegal hother))
  · intro other hmem action answer hmove htable
    rcases List.mem_append.1 hmem with hearlier | hlast
    · exact hfollows other hearlier action answer hmove htable
    · rw [List.mem_singleton.1 hlast] at hmove ⊢
      exact follows_of_legal hlegal hmove htable

/-- In every run of a new stack, and at each of its moments, the table agrees with the partial map
that starts empty and on which the operations on sockets are run with the same answers; all its
descriptors are below the size of the table. Each of these operations does to sockets and queues
what it does to the map, and leaves the driver alone; one that is refused leaves everything as it
was. -/
theorem sockets_refine (transport : Transport β) (steps : List (Step Action Call)) (moves : Nat) :
    let start := Stack.ofTransport transport
    let past := ((stackSystem β).journalAll steps start).take moves
    let stack := System.stateAfter start past
    Run ⟨∅, fun _ => []⟩ (past.map Moment.move) stack.sockets ∧
    (∀ fd, stack.table.get? fd = stack.sockets.map.lookup fd) ∧
    (∀ fd ∈ stack.sockets.map, fd < Host.socketTableSize) ∧
    ∀ moment ∈ past, ∀ action answer, moment.move = .act action answer → action.onTable = true →
      Follows moment.before action answer moment.after := by
  intro start past stack
  obtain ⟨hrun, hfollows⟩ := run_of_path (System.journalAll_path
    (List.take_prefix moves ((stackSystem β).journalAll steps start)))
  rw [Stack.sockets_ofTransport transport] at hrun
  exact ⟨hrun, fun fd => (stack.lookup_sockets fd).symm, fun fd => SocketTable.lt_of_mem_map,
    hfollows⟩

end Bench

end NetStack
