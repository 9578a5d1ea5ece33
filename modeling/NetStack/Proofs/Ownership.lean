import NetStack.Proofs.Calls
import NetStack.Proofs.Framing

/-!
# Who owns what is parked

A datagram is parked for a port only if the port has a socket, and closing the last socket of a port
discards what is parked there. So a queue that is not empty has an owner, with one exception:
binding a socket that is already bound takes it off its old port, and what is parked there stays.
`Strands` is such a bind, and `owned_iff` says that it is the only way to a queue without an owner;
as long as it does not happen, whoever takes a port finds nothing parked. `exists_stranded` is a run
in which it happens, and in which the next owner of the port reads a datagram that was parked for
the one before.
-/

namespace NetStack

namespace SocketTable

/-- After a place was written, a port is bound by what stands there now, or by another place. -/
theorem isBound_set_iff (table : SocketTable) (place : Option Socket) {fd : Nat} (port : UInt16)
    (hfd : fd < Host.socketTableSize) : (table.set fd place).isBound port = true ↔
      (∃ socket, place = some socket ∧ socket.localPort = some port) ∨
        ∃ other socket, other ≠ fd ∧ table.get? other = some socket ∧
          socket.localPort = some port := by
  rw [isBound_iff]
  constructor
  · rintro ⟨other, socket, hother, hport⟩
    rw [get?_set _ _ _ _ hfd] at hother
    by_cases heq : other = fd
    · rw [if_pos heq] at hother
      exact .inl ⟨socket, hother, hport⟩
    · rw [if_neg heq] at hother
      exact .inr ⟨other, socket, heq, hother, hport⟩
  · rintro (⟨socket, hplace, hport⟩ | ⟨other, socket, hne, hother, hport⟩)
    · refine ⟨fd, socket, ?_, hport⟩
      rw [get?_set _ _ _ _ hfd, if_pos rfl, hplace]
    · refine ⟨other, socket, ?_, hport⟩
      rw [get?_set _ _ _ _ hfd, if_neg hne, hother]

/-- A descriptor that names a socket is one of the table's places. -/
theorem lt_of_get? {table : SocketTable} {fd : Nat} {socket : Socket}
    (h : table.get? fd = some socket) : fd < Host.socketTableSize := by
  obtain ⟨hlt, -⟩ := Vector.getElem?_eq_some_iff.1 (Option.join_eq_some_iff.1 h)
  exact hlt

/-- A place is free if its number names no socket. -/
theorem isNone_get_iff (table : SocketTable) (place : Fin Host.socketTableSize) :
    (table.places.get place).isNone = true ↔ table.get? place.val = none := by
  have hget : table.get? place.val = table.places.get place := by
    unfold get?
    rw [Vector.getElem?_eq_getElem place.isLt]
    rfl
  rw [hget, Option.isNone_iff_eq_none]

/-- A new socket takes no place from another one. -/
theorem isBound_of_add {table next : SocketTable} {socket : Socket} {fd : Nat} {port : UInt16}
    (hadd : table.add socket = .ok (fd, next)) (h : table.isBound port = true) :
    next.isBound port = true := by
  obtain ⟨other, owner, hother, hport⟩ := (isBound_iff _ _).1 h
  unfold add at hadd
  split at hadd
  · next place hfree =>
    cases hadd
    have hnone := List.find?_some hfree
    have hplace := (isNone_get_iff table place).1 hnone
    have hne : other ≠ place.val := by
      rintro rfl
      rw [hplace] at hother
      cases hother
    exact (isBound_set_iff _ _ _ place.isLt).2 (.inr ⟨other, owner, hne, hother, hport⟩)
  · cases hadd

/-- Changing anything but the local port of a socket leaves all ports bound. -/
theorem isBound_of_modify {table next : SocketTable} {fd : Nat} {change : Socket → Socket}
    {port : UInt16} (hmodify : table.modify fd change = .ok next)
    (hchange : ∀ socket, (change socket).localPort = socket.localPort)
    (h : table.isBound port = true) : next.isBound port = true := by
  obtain ⟨other, owner, hother, hport⟩ := (isBound_iff _ _).1 h
  unfold modify at hmodify
  split at hmodify
  · next socket hsocket =>
    cases hmodify
    rw [isBound_set_iff _ _ _ (lt_of_get? hsocket)]
    by_cases heq : other = fd
    · rw [heq, hsocket, Option.some.injEq] at hother
      exact .inl ⟨change socket, rfl, by rw [hchange, hother, hport]⟩
    · exact .inr ⟨other, owner, heq, hother, hport⟩
  · cases hmodify

/-- Closing a socket leaves all ports bound but its own. -/
theorem isBound_of_remove {table next : SocketTable} {fd : Nat} {socket : Socket} {port : UInt16}
    (hremove : table.remove fd = .ok (socket, next)) (hport : socket.localPort ≠ some port)
    (h : table.isBound port = true) : next.isBound port = true := by
  obtain ⟨other, owner, hother, howner⟩ := (isBound_iff _ _).1 h
  unfold remove at hremove
  split at hremove
  · next found hfound =>
    cases hremove
    have hne : other ≠ fd := by
      rintro rfl
      rw [hfound, Option.some.injEq] at hother
      rw [hother] at hport
      exact hport howner
    exact (isBound_set_iff _ _ _ (lt_of_get? hfound)).2 (.inr ⟨other, owner, hne, hother, howner⟩)
  · cases hremove

/-- A socket on port 7 that moves to port 8, and another one that takes port 7 after it. -/
theorem exists_rebound : ∃ first moved again : SocketTable,
    empty.add ((Socket.fresh.bind 7).connect ⟨10, 0, 2, 2⟩ 9) = .ok (0, first) ∧
      first.isBound 7 = true ∧ first.modify 0 (·.bind 8) = .ok moved ∧
      moved.isBound 7 = false ∧
      moved.add ((Socket.fresh.bind 7).connect ⟨10, 0, 2, 2⟩ 9) = .ok (1, again) ∧
      again.get? 1 = some ((Socket.fresh.bind 7).connect ⟨10, 0, 2, 2⟩ 9) := by
  have hnone (other : Nat) (hother : other ≠ 0) (place : Option Socket) :
      (empty.set 0 place).get? other = none := by
    rw [get?_set _ _ _ _ (by decide), if_neg hother]
    unfold get? empty
    rw [Vector.getElem?_replicate]
    split <;> rfl
  refine ⟨_, _, _, rfl, ?_, rfl, ?_, rfl, rfl⟩
  · exact (isBound_set_iff _ _ _ (by decide)).2 (.inl ⟨_, rfl, rfl⟩)
  · rw [Bool.eq_false_iff, Ne, isBound_set_iff _ _ _ (by decide)]
    rintro (⟨socket, hsocket, hport⟩ | ⟨other, socket, hother, hsocket, -⟩)
    · cases hsocket
      revert hport
      decide
    · rw [hnone other hother] at hsocket
      cases hsocket

end SocketTable

namespace Stack

variable {β : Type}

/-- Every port with parked datagrams has a socket. -/
def Owned (stack : Stack β) : Prop :=
  ∀ port, stack.backlog.queue port ≠ [] → stack.table.isBound port = true

/-- A stack before and after an operation that leaves the sockets alone, and parks datagrams only
where there is a socket. -/
structure Parks (stack next : Stack β) : Prop where
  table : next.table = stack.table
  queue : ∀ port, next.backlog.queue port ≠ [] →
    stack.backlog.queue port ≠ [] ∨ stack.table.isBound port = true

/-- Nothing is parked. -/
theorem Parks.of_same {stack next : Stack β} (htable : next.table = stack.table)
    (hbacklog : next.backlog = stack.backlog) : Parks stack next :=
  ⟨htable, fun port hqueue => .inl (by rw [← hbacklog]; exact hqueue)⟩

/-- What is parked first, and then. -/
theorem Parks.trans {a b c : Stack β} (h : Parks a b) (h' : Parks b c) : Parks a c where
  table := h'.table.trans h.table
  queue := by
    intro port hqueue
    rcases h'.queue port hqueue with hthere | hbound
    · exact h.queue port hthere
    · rw [h.table] at hbound
      exact .inr hbound

/-- A datagram that nobody has a socket for is dropped. -/
theorem parks_park (stack : Stack β) (datagram : Datagram) :
    Parks stack (stack.park datagram).value := by
  by_cases hbound : stack.table.isBound datagram.dport = true
  · rw [park_of_bound hbound]
    refine ⟨rfl, fun port hqueue => ?_⟩
    by_cases hport : port = datagram.dport
    · exact .inr (hport ▸ hbound)
    · have hsame := stack.backlog.queue_park_of_ne datagram hport
      exact .inl fun hempty => hqueue (hsame.trans hempty)
  · rw [park_of_free hbound]
    exact .of_same rfl rfl

/-- Taking a parked datagram fills no queue. -/
theorem parks_take? {stack : Stack β} {port : UInt16} {datagram : Datagram} {rest : Backlog}
    (htake : stack.backlog.take? port = some (datagram, rest)) :
    Parks stack { stack with backlog := rest } := by
  refine ⟨rfl, fun other hqueue => .inl fun hempty => hqueue ?_⟩
  show rest.queue other = []
  rw [Backlog.eq_dropOldest_of_take? htake, Backlog.queue_dropOldest]
  split
  · next heq => rw [← heq, hempty, List.tail_nil]
  · exact hempty

/-- A reader passes datagrams on only to ports with a socket. -/
theorem parks_receiveOn [RegisterBus β] (stack : Stack β) (port : UInt16) :
    Parks stack (stack.receiveOn port).value.2 := by
  fun_induction receiveOn stack port with
  | case1 stack datagram rest htake => exact parks_take? htake
  | case2 => exact .of_same rfl rfl
  | case3 => exact .of_same rfl rfl
  | case4 => exact .of_same rfl rfl
  | case5 stack _ _ datagram _ transport _ _ _ _ ih =>
    have htransport : Parks stack { stack with transport } := .of_same rfl rfl
    exact (htransport.trans (parks_park _ datagram)).trans ih

/-- A stack before and after an operation that leaves no queue behind. -/
structure Tidy (stack next : Stack β) : Prop where
  /-- Nothing is parked for a port without a socket. -/
  queue : ∀ port, next.backlog.queue port ≠ [] →
    stack.backlog.queue port ≠ [] ∨ stack.table.isBound port = true
  /-- Where datagrams are parked there is a socket, unless there was none before. -/
  bound : ∀ port, next.backlog.queue port ≠ [] → next.table.isBound port = true ∨
    stack.backlog.queue port ≠ [] ∧ stack.table.isBound port = false

/-- As long as no port loses its sockets, no queue is left behind. -/
theorem Tidy.of_bound {stack next : Stack β}
    (hqueue : ∀ port, next.backlog.queue port ≠ [] →
      stack.backlog.queue port ≠ [] ∨ stack.table.isBound port = true)
    (hbound : ∀ port, stack.table.isBound port = true → next.table.isBound port = true) :
    Tidy stack next := by
  refine ⟨hqueue, fun port hthere => ?_⟩
  by_cases h : stack.table.isBound port = true
  · exact .inl (hbound port h)
  · exact .inr ⟨(hqueue port hthere).resolve_right h, Bool.eq_false_iff.2 h⟩

/-- Whoever leaves the sockets alone and parks datagrams only for them leaves no queue behind. -/
theorem Parks.tidy {stack next : Stack β} (h : Parks stack next) : Tidy stack next :=
  .of_bound h.queue fun port hbound => by rw [h.table, hbound]

/-- Whoever leaves sockets and queues alone leaves no queue behind. -/
theorem Tidy.of_same {stack next : Stack β} (htable : next.table = stack.table)
    (hbacklog : next.backlog = stack.backlog) : Tidy stack next :=
  (Parks.of_same htable hbacklog).tidy

/-- Opening or changing sockets leaves no queue behind, as long as no port loses its sockets. -/
theorem Tidy.of_table {stack : Stack β} {table : SocketTable}
    (hbound : ∀ port, stack.table.isBound port = true → table.isBound port = true) :
    Tidy stack { stack with table } :=
  .of_bound (fun _ => .inl) hbound

/-- Closing a socket takes it out of the table. The queue of a port is emptied if it was the
socket's and no other socket has it. -/
theorem queue_close {stack next : Stack β} {fd : Nat} (h : stack.close fd = .ok next) :
    ∃ socket, stack.table.get? fd = some socket ∧ next.table = stack.table.set fd none ∧
      next.transport = stack.transport ∧
      ∀ port, next.backlog.queue port =
        if socket.localPort = some port ∧ ¬next.table.isBound port = true then []
        else stack.backlog.queue port := by
  unfold close SocketTable.remove at h
  cases hsocket : stack.table.get? fd with
  | none =>
    rw [hsocket] at h
    cases h
  | some socket =>
    rw [hsocket] at h
    cases h
    refine ⟨socket, rfl, rfl, rfl, fun port => ?_⟩
    cases hclosed : socket.localPort with
    | none => rfl
    | some closed =>
      by_cases hbound : (stack.table.set fd none).isBound closed = true
      · -- another socket has the port, so that nothing is discarded
        have hkeeps : ¬(some closed = some port ∧
            ¬(stack.table.set fd none).isBound port = true) := by
          rintro ⟨hsame, hfree⟩
          rw [← Option.some.inj hsame] at hfree
          exact hfree hbound
        rw [if_neg hkeeps]
        simp only [hbound, if_true]
      · simp only [hbound]
        rw [if_neg Bool.false_ne_true, Backlog.queue_discard]
        by_cases hsame : port = closed
        · rw [hsame, if_pos rfl, if_pos ⟨rfl, hbound⟩]
        · have hother : ¬(some closed = some port ∧
              ¬(stack.table.set fd none).isBound port = true) :=
            fun hboth => hsame (Option.some.inj hboth.1).symm
          rw [if_neg hsame, if_neg hother]

/-- Closing a socket takes it out of the table, and keeps the queues of all ports but its own, and
that one too if another socket has the port. -/
theorem exists_removed_of_close {stack next : Stack β} {fd : Nat}
    (hclose : stack.close fd = .ok next) :
    ∃ socket, stack.table.remove fd = .ok (socket, next.table) ∧
      ∀ port, next.backlog.queue port ≠ [] → stack.backlog.queue port ≠ [] ∧
        (socket.localPort = some port → next.table.isBound port = true) := by
  obtain ⟨socket, hsocket, htable, -, hqueue⟩ := queue_close hclose
  refine ⟨socket, ?_, fun port hthere => ?_⟩
  · unfold SocketTable.remove
    rw [hsocket, htable]
  · rw [hqueue] at hthere
    split at hthere
    · exact absurd rfl hthere
    · next hkept => exact ⟨hthere, fun hport => by_contra fun hfree => hkept ⟨hport, hfree⟩⟩

/-- Closing a socket leaves no queue behind. -/
theorem tidy_close {stack next : Stack β} {fd : Nat} (hclose : stack.close fd = .ok next) :
    Tidy stack next := by
  obtain ⟨socket, hremove, hkept⟩ := exists_removed_of_close hclose
  refine ⟨fun port hqueue => .inl (hkept port hqueue).1, fun port hqueue => ?_⟩
  obtain ⟨hsome, hown⟩ := hkept port hqueue
  by_cases hport : socket.localPort = some port
  · exact .inl (hown hport)
  · by_cases h : stack.table.isBound port = true
    · exact .inl (SocketTable.isBound_of_remove hremove hport h)
    · exact .inr ⟨hsome, Bool.eq_false_iff.2 h⟩

/-- Opening a socket leaves no queue behind. -/
theorem tidy_add {stack : Stack β} {socket : Socket} {fd : Nat} {table : SocketTable}
    (hadd : stack.table.add socket = .ok (fd, table)) : Tidy stack { stack with table } :=
  .of_table fun _ => SocketTable.isBound_of_add hadd

/-- Opening a bound and connected socket leaves no queue behind. -/
theorem tidy_openConnected (stack : Stack β) (ip : Ipv4) (remotePort localPort : UInt16) :
    Tidy stack (stack.openConnected ip remotePort localPort).value.2 := by
  unfold openConnected
  split
  · exact .of_same rfl rfl
  · next hadd => exact tidy_add hadd

/-- Sending from a socket touches neither sockets nor queues. -/
theorem tidy_write [RegisterBus β] (stack : Stack β) (fd : Nat) (payload : Bytes) :
    Tidy stack (stack.write fd payload).value.2 := by
  unfold write
  split
  · exact .of_same rfl rfl
  · simp only [Logged.value_bind]
    split <;> exact .of_same rfl rfl
  · exact .of_same rfl rfl

/-- A reader of another port that finds a single datagram in the ring parks it for its port. -/
theorem backlog_of_receiveOn {stack next : Stack Emulated} {port : UInt16}
    {progress : Progress Datagram} {datagram : Datagram} (h : stack.adapter.RxLinked)
    (hvalue : (stack.receiveOn port).value = (progress, next))
    (hqueue : stack.backlog.queue port = [])
    (hone : datagrams Host.frameCapacity stack.adapter.stored = [datagram])
    (hother : datagram.dport ≠ port) (hbound : stack.table.isBound datagram.dport = true) :
    next.table = stack.table ∧ next.backlog = stack.backlog.park datagram := by
  rcases receiveOn_spec h hvalue with ⟨taken, rest, htake, -⟩ |
    ⟨consumed, passed, -, hpasses, -, hserved⟩
  · rw [(Backlog.take?_eq_none_iff _ _).2 hqueue] at htake
    cases htake
  have hall : datagrams Host.frameCapacity consumed ++
      datagrams Host.frameCapacity next.adapter.stored = [datagram] := by
    rw [← datagrams_append, ← hpasses.stored, hone]
  cases hserved with
  | @done found hport hfound =>
    -- the only datagram is for another port
    have hmem : found ∈ [datagram] := by
      rw [← hall, hfound]
      simp
    rw [List.mem_singleton.1 hmem] at hport
    exact absurd hport hother
  | waiting hleft hpassed =>
    rw [hleft, datagrams_nil, List.append_nil, hpassed] at hall
    have hparked : parked stack.table [datagram] = [datagram] := List.filter_cons_of_pos hbound
    refine ⟨hpasses.table, ?_⟩
    rw [hpasses.backlog, hall, hparked]
    rfl

/-- Opening a bound and connected socket, if there is a place for it. -/
theorem openConnected_of_add {stack : Stack β} {ip : Ipv4} {remotePort localPort : UInt16}
    {fd : Nat} {table : SocketTable}
    (hadd : stack.table.add ((Socket.fresh.bind localPort).connect ip remotePort) =
      .ok (fd, table)) :
    (stack.openConnected ip remotePort localPort).value = (.ok fd, { stack with table }) := by
  unfold openConnected
  rw [hadd]
  rfl

end Stack

namespace Bench

open Stack (Tidy)

variable {β : Type}

/-- What is done to the table alone, if it succeeds. -/
theorem tidy_settle {stack : Stack β} {outcome : Except Errno (Stack β)}
    (h : ∀ changed, outcome = .ok changed → Tidy stack changed) :
    Tidy stack (settle stack outcome).2 := by
  cases outcome with
  | error errno => exact .of_same rfl rfl
  | ok changed => exact h changed rfl

variable [Device β]

/-- No action leaves a queue behind but binding a socket. -/
theorem tidy_act (stack : Stack β) {action : Action} (hbind : ∀ fd port, action ≠ .bind fd port) :
    Tidy stack (act action stack).value.2 := by
  cases action with
  | bind fd port => exact absurd rfl (hbind fd port)
  | fillRx slot length status data =>
    simp only [act, changeRx, Logged.value_pure]
    split <;> exact .of_same rfl rfl
  | markTx slot status =>
    simp only [act, changeTx, Logged.value_pure]
    split <;> exact .of_same rfl rfl
  | transmit frame =>
    simp only [act, Logged.value_bind]
    split <;> exact .of_same rfl rfl
  | send dst dport sport payload =>
    simp only [act, Logged.value_bind]
    split <;> exact .of_same rfl rfl
  | socket =>
    simp only [act, Stack.socket]
    cases hadd : stack.table.add Socket.fresh with
    | error errno => exact .of_same rfl rfl
    | ok added => exact Stack.tidy_add hadd
  | connect fd ip port =>
    refine tidy_settle fun changed hconnect => ?_
    unfold Stack.connect at hconnect
    cases hmodify : stack.table.modify fd (·.connect ip port) with
    | error errno =>
      rw [hmodify] at hconnect
      cases hconnect
    | ok table =>
      rw [hmodify] at hconnect
      cases hconnect
      exact .of_table fun _ => SocketTable.isBound_of_modify hmodify fun _ => rfl
  | openConnected ip remotePort localPort => exact Stack.tidy_openConnected _ _ _ _
  | close fd => exact tidy_settle fun changed hclose => Stack.tidy_close hclose
  | write fd payload => exact Stack.tidy_write _ _ _
  | sysSend dst dport sport buffer =>
    simp only [act, Syscall.send, Logged.value_bind]
    split <;> exact .of_same rfl rfl
  | sysConnect address localPort remotePort =>
    simp only [act, Syscall.connect, Logged.value_bind]
    split
    · exact .of_same rfl rfl
    · exact Stack.tidy_openConnected _ _ _ _
  | sysWrite fd buffer =>
    simp only [act, Syscall.write, Logged.value_bind]
    split
    · exact .of_same rfl rfl
    · exact Stack.tidy_write _ _ _
  | sysClose fd =>
    simp only [act, Syscall.close]
    split
    · exact .of_same rfl rfl
    · split
      · exact .of_same rfl rfl
      · next hclose => exact Stack.tidy_close hclose
  | _ => exact .of_same rfl rfl

/-- No call leaves a queue behind. -/
theorem tidy_resume (waiting : Waiting) (stack : Stack β) :
    Tidy stack (resume waiting stack).value.2 := by
  cases waiting with
  | port port reader => exact (Stack.parks_receiveOn stack port).tidy
  | _ => exact .of_same rfl rfl

/-- No call leaves a queue behind when it is entered. -/
theorem tidy_enter (call : Call) (stack : Stack β) : Tidy stack (enter call stack).value.2 := by
  unfold enter
  split
  · exact .of_same rfl rfl
  · exact tidy_resume _ _

/-- A move strands the queue of a port if it binds the last socket of the port to another one while
datagrams are parked there. -/
def Strands (moment : Moment (Stack β) Action Call Waiting Answer) (port : UInt16) : Prop :=
  (∃ fd other answer, moment.move = .act (.bind fd other) answer) ∧
    moment.before.table.isBound port = true ∧ moment.after.table.isBound port = false ∧
    moment.after.backlog.queue port ≠ []

/-- Binding a socket changes no queue. -/
theorem backlog_bind (stack : Stack β) (fd : Nat) (port : UInt16) :
    (act (.bind fd port) stack).value.2.backlog = stack.backlog := by
  show (settle stack (stack.bind fd port)).2.backlog = stack.backlog
  unfold Stack.bind
  cases stack.table.modify fd (·.bind port) <;> rfl

/-- Where datagrams are parked after a move there is a socket, unless there was none before, or the
move strands them. And no move parks anything where there was no socket. -/
theorem bound_or_strands {moment : Moment (Stack β) Action Call Waiting Answer}
    {sleeping : List (Sleeper Waiting)} (hlegal : (stackSystem β).Legal sleeping moment)
    {port : UInt16} (hqueue : moment.after.backlog.queue port ≠ []) :
    (moment.before.backlog.queue port ≠ [] ∨ moment.before.table.isBound port = true) ∧
      (moment.after.table.isBound port = true ∨
        (moment.before.backlog.queue port ≠ [] ∧ moment.before.table.isBound port = false) ∨
        Strands moment port) := by
  obtain ⟨before, move, after⟩ := moment
  by_cases hbind : ∃ fd other answer, move = .act (.bind fd other) answer
  · obtain ⟨fd, other, answer, rfl⟩ := hbind
    have hafter : (act (.bind fd other) before).value.2 = after := congrArg Prod.snd hlegal
    have hsame : after.backlog = before.backlog := by
      rw [← hafter, backlog_bind]
    have hbefore : before.backlog.queue port ≠ [] := by
      rw [← hsame]
      exact hqueue
    refine ⟨.inl hbefore, ?_⟩
    by_cases h : after.table.isBound port = true
    · exact .inl h
    · by_cases hthere : before.table.isBound port = true
      · exact .inr (.inr ⟨⟨fd, other, answer, rfl⟩, hthere, Bool.eq_false_iff.2 h, hqueue⟩)
      · exact .inr (.inl ⟨hbefore, Bool.eq_false_iff.2 hthere⟩)
  · have htidy : Tidy before after := by
      refine hlegal.relates Tidy (fun action answer hmove => ?_) (fun call => tidy_enter call before)
        (fun waiting => tidy_resume waiting before) (.of_same rfl rfl)
      have hother (fd : Nat) (other : UInt16) : action ≠ .bind fd other := by
        intro heq
        exact hbind ⟨fd, other, answer, by rw [← heq]; exact hmove⟩
      exact tidy_act before hother
    exact ⟨htidy.queue port hqueue, (htidy.bound port hqueue).imp_right .inl⟩

/-- As long as no move strands a queue, every port with parked datagrams has a socket, and where
there was no socket before a move there is nothing parked after it. -/
theorem owned_of_path {start s : Stack β} {waiting : List (Sleeper Waiting)}
    {past : List (Moment (Stack β) Action Call Waiting Answer)}
    (hpath : System.Path (stackSystem β) start [] past s waiting) (hstart : start.Owned)
    (hstrands : ∀ moment ∈ past, ∀ port, ¬Strands moment port) :
    s.Owned ∧ ∀ moment ∈ past, ∀ port, moment.before.table.isBound port = false →
      moment.after.backlog.queue port = [] := by
  refine hpath.history (fun past s => s.Owned ∧ ∀ moment ∈ past, ∀ port,
    moment.before.table.isBound port = false → moment.after.backlog.queue port = [])
    ⟨hstart, by simp⟩ ?_
  rintro earlier moment hmem asleep hlegal ⟨howned, hempty⟩
  constructor
  · intro port hqueue
    rcases (bound_or_strands hlegal hqueue).2 with hbound | ⟨hthere, hfree⟩ | hstrand
    · exact hbound
    · rw [howned port hthere] at hfree
      cases hfree
    · exact absurd hstrand (hstrands moment hmem port)
  · intro other hother port hfree
    rcases List.mem_append.1 hother with hearlier | hlast
    · exact hempty other hearlier port hfree
    · rw [List.mem_singleton.1 hlast] at hfree ⊢
      by_cases hqueue : moment.after.backlog.queue port = []
      · exact hqueue
      rcases (bound_or_strands hlegal hqueue).1 with hthere | hbound
      · rw [howned port hthere] at hfree
        cases hfree
      · rw [hbound] at hfree
        cases hfree

/-- In a run from a new stack, every port with parked datagrams has a socket at every moment,
exactly if no bind takes the last socket of a port to another one while datagrams are parked there.
Then nothing is parked for a port when it gets its first socket. -/
theorem owned_iff (transport : Transport β) (steps : List (Step Action Call)) (moves : Nat) :
    let start := Stack.ofTransport transport
    let past := ((stackSystem β).journalAll steps start).take moves
    ((∀ count, (System.stateAfter start (past.take count)).Owned) ↔
      ∀ moment ∈ past, ∀ port, ¬Strands moment port) ∧
    ((∀ moment ∈ past, ∀ port, ¬Strands moment port) →
      ∀ moment ∈ past, ∀ port, moment.before.table.isBound port = false →
        moment.after.backlog.queue port = []) := by
  intro start past
  have hstart : start.Owned := fun port hqueue => absurd rfl hqueue
  have hpath (count : Nat) := System.journalAll_path
    ((List.take_prefix count past).trans (List.take_prefix moves _))
  refine ⟨⟨fun howned moment hmem port hstrand => ?_, fun hstrands count => ?_⟩,
    fun hstrands => ?_⟩
  · -- the state after a bind that strands a queue is a witness against ownership
    obtain ⟨earlier, later, hpast⟩ := List.append_of_mem hmem
    obtain ⟨-, -, hfree, hqueue⟩ := hstrand
    have htake : past.take (earlier.length + 1) = earlier ++ [moment] := by
      rw [hpast, List.take_length_add_append]
      rfl
    have hafter := howned (earlier.length + 1) port
    rw [htake, System.stateAfter_snoc, hfree] at hafter
    cases hafter hqueue
  · exact (owned_of_path (hpath count) hstart fun moment hmem =>
      hstrands moment (List.mem_of_mem_take hmem)).1
  · have hwhole := hpath past.length
    rw [List.take_length] at hwhole
    exact (owned_of_path hwhole hstart hstrands).2

/-- The frame of an incoming datagram is read as that datagram. -/
theorem receive_incoming (transport : Transport Emulated) (dst : Option Ipv4) {datagram : Datagram}
    {capacity : Nat} (h : datagram.payload.length ≤ Udp.maxPayload)
    (hroom : datagram.payload.length ≤ capacity) :
    Udp.receive (incoming transport dst datagram) capacity = .ok datagram := by
  have hread := Udp.decode_setAddresses_frame (dst.getD transport.localIp) datagram.dport
    datagram.src datagram.sport h hroom transport.localMac transport.gateway [] Host.verifyChecksums
  rw [List.append_nil] at hread
  exact hread

/-- A frame that fits a buffer is accepted while there is room in the ring. -/
theorem exists_injected {stack : Stack Emulated} {frame : Bytes} (h : stack.adapter.RxLinked)
    (hfits : frame.length ≤ Host.rxBufferSize)
    (hroom : stack.adapter.bus.filled stack.adapter.last + 1 < Host.rxRingSize) :
    ∃ next, (runControl stack (.inject frame)).value = (.flag true, next) ∧
      next.table = stack.table ∧ next.backlog = stack.backlog ∧ next.adapter.RxLinked ∧
      next.adapter.stored = stack.adapter.stored ++ [frame] := by
  have hinject := Emulated.RxLinked.inject_of_room h hfits hroom
  simp only [runControl, Device.control, Emulated.control, Logged.value_bind, hinject]
  exact ⟨_, rfl, rfl, rfl, Emulated.RxLinked.arrived h hfits hroom,
    stack.adapter.bus.stored_arrived _ _ hfits hroom⟩

/-- Running two lists of steps is running one after the other. -/
theorem runAll_append_snd (first later : List (Step Action Call)) (stack : Stack β) :
    ((stackSystem β).runAll (first ++ later) stack).2 =
      ((stackSystem β).runAll later ((stackSystem β).runAll first stack).2).2 := by
  induction first generalizing stack with
  | nil => rfl
  | cons step first ih => exact ih _

/-- A call without events ends where its first attempt ends, answered or given up. -/
theorem run_call_nil_snd (call : Call) (stack : Stack β) :
    ((stackSystem β).run (.call call []) stack).value.2 = (enter call stack).value.2 := by
  rcases hentered : (enter call stack).value with ⟨attempt, next⟩
  have hsystem : ((stackSystem β).enter call stack).value = (attempt, next) := hentered
  simp only [System.run, Logged.value_bind, hsystem]
  cases attempt <;> rfl

/-- A datagram for port 7 that a reader of port 9 parks, once a socket was opened on port 7. -/
theorem exists_parked {first : SocketTable} (hopen : SocketTable.empty.add
      ((Socket.fresh.bind 7).connect ⟨10, 0, 2, 2⟩ 9) = .ok (0, first))
    (hbound : first.isBound 7 = true) : ∃ start : Stack Emulated,
    (setUp (Emulated.start true) ⟨none, none, none⟩).value = .ok start ∧
      let parked := ((stackSystem Emulated).runAll
        [.act (.openConnected ⟨10, 0, 2, 2⟩ 9 7),
          .act (.injectDatagram none ⟨⟨10, 0, 2, 2⟩, 9, 7, [1, 2, 3]⟩), .call (.receiveOn 9) []]
        start).2
      parked.table = first ∧ parked.backlog.queue 7 = [⟨⟨10, 0, 2, 2⟩, 9, 7, [1, 2, 3]⟩] := by
  obtain ⟨start, hvalue, hsetUp, htable, hbacklog⟩ := exists_setUp true ⟨none, none, none⟩
  refine ⟨start, hvalue, ?_⟩
  -- the socket is opened, and the datagram comes in
  rw [← htable] at hopen
  obtain ⟨opened, hopened⟩ : ∃ opened : Stack Emulated, opened = { start with table := first } :=
    ⟨_, rfl⟩
  have hact : (act (.openConnected ⟨10, 0, 2, 2⟩ 9 7) start).value.2 = opened := by
    simp only [act, Logged.value_bind, Stack.openConnected_of_add hopen, hopened]
    rfl
  have hlinked : opened.adapter.RxLinked := hopened ▸ hsetUp.rxLinked
  have hfits : (incoming opened.transport none ⟨⟨10, 0, 2, 2⟩, 9, 7, [1, 2, 3]⟩).length ≤
      Host.rxBufferSize := by
    show 45 ≤ Host.rxBufferSize
    decide
  have hroom : opened.adapter.bus.filled opened.adapter.last + 1 < Host.rxRingSize := by
    rw [hopened, show (Stack.adapter { start with table := first }) = start.adapter from rfl,
      hsetUp.filled]
    decide
  obtain ⟨full, hinjected, hfullTable, hfullBacklog, hlinked, hstored⟩ :=
    exists_injected hlinked hfits hroom
  have hring : datagrams Host.frameCapacity full.adapter.stored =
      [⟨⟨10, 0, 2, 2⟩, 9, 7, [1, 2, 3]⟩] := by
    have hempty : opened.adapter.stored = [] := hopened ▸ hsetUp.stored
    rw [hstored, hempty, List.nil_append, datagrams_cons,
      receive_incoming opened.transport none (by decide) (by decide)]
    rfl
  have hnothing (port : UInt16) : full.backlog.queue port = [] := by
    rw [hfullBacklog, hopened, show ({ start with table := first } : Stack Emulated).backlog =
      Backlog.empty from hbacklog]
    rfl
  -- the reader of another port parks it
  rcases hreceived : (full.receiveOn 9).value with ⟨progress, parked⟩
  obtain ⟨hparkedTable, hparkedBacklog⟩ := Stack.backlog_of_receiveOn hlinked hreceived
    (hnothing 9) hring (by decide) (by rw [hfullTable, hopened]; exact hbound)
  have hinject : (act (.injectDatagram none ⟨⟨10, 0, 2, 2⟩, 9, 7, [1, 2, 3]⟩) opened).value.2 =
      full := congrArg Prod.snd hinjected
  have hrun : ((stackSystem Emulated).run (.call (.receiveOn 9) []) full).value.2 = parked := by
    rw [run_call_nil_snd]
    show (full.receiveOn 9).value.2 = parked
    rw [hreceived]
  have hall : ((stackSystem Emulated).runAll
      [.act (.openConnected ⟨10, 0, 2, 2⟩ 9 7),
        .act (.injectDatagram none ⟨⟨10, 0, 2, 2⟩, 9, 7, [1, 2, 3]⟩), .call (.receiveOn 9) []]
      start).2 = parked := by
    show ((stackSystem Emulated).run (.call (.receiveOn 9) [])
      (act (.injectDatagram none ⟨⟨10, 0, 2, 2⟩, 9, 7, [1, 2, 3]⟩)
        (act (.openConnected ⟨10, 0, 2, 2⟩ 9 7) start).value.2).value.2).value.2 = parked
    rw [hact, hinject, hrun]
  rw [hall]
  refine ⟨?_, ?_⟩
  · rw [hparkedTable, hfullTable, hopened]
  · have hparked := full.backlog.queue_park ⟨⟨10, 0, 2, 2⟩, 9, 7, [1, 2, 3]⟩
    rw [hnothing 7] at hparked
    rw [hparkedBacklog, hparked]
    simp

/-- A socket on port 7 that is bound to port 8 while a datagram is parked for port 7. The datagram
stays where no socket is, and the next owner of port 7 reads it. -/
theorem exists_stranded : ∃ start : Stack Emulated,
    (setUp (Emulated.start true) ⟨none, none, none⟩).value = .ok start ∧
      let opening : Step Action Call := .act (.openConnected ⟨10, 0, 2, 2⟩ 9 7)
      let parking : List (Step Action Call) :=
        [opening, .act (.injectDatagram none ⟨⟨10, 0, 2, 2⟩, 9, 7, [1, 2, 3]⟩),
          .call (.receiveOn 9) []]
      let stranded := ((stackSystem Emulated).runAll (parking ++ [.act (.bind 0 8)]) start).2
      let reopened :=
        ((stackSystem Emulated).runAll (parking ++ [.act (.bind 0 8), opening]) start).2
      ¬stranded.Owned ∧ stranded.table.isBound 7 = false ∧
        ((stackSystem Emulated).enter (.read 1 [0, 0, 0, 0]) reopened).value.1 =
          .finished (.read 3 [1, 2, 3, 0]) := by
  obtain ⟨first, moved, again, hopen, hbound, hbind, hfree, hagain, hget⟩ :=
    SocketTable.exists_rebound
  obtain ⟨start, hvalue, hparked⟩ := exists_parked hopen hbound
  refine ⟨start, hvalue, ?_⟩
  simp only [runAll_append_snd]
  generalize ((stackSystem Emulated).runAll _ start).2 = parked at hparked ⊢
  obtain ⟨htable, hqueue⟩ := hparked
  have hmoved : (act (.bind 0 8) parked).value.2 = { parked with table := moved } := by
    show (settle parked (parked.bind 0 8)).2 = _
    unfold Stack.bind
    rw [htable, hbind]
    rfl
  have hagain' : (act (.openConnected ⟨10, 0, 2, 2⟩ 9 7) { parked with table := moved }).value.2 =
      { parked with table := again } := by
    have hopened : (Stack.openConnected { parked with table := moved } ⟨10, 0, 2, 2⟩ 9 7).value =
        (.ok 1, { parked with table := again }) := Stack.openConnected_of_add hagain
    simp only [act, Logged.value_bind, hopened]
    rfl
  have hport : ({ parked with table := again } : Stack Emulated).portOf 1 = .ok 7 := by
    unfold Stack.portOf SocketTable.get
    rw [hget]
    rfl
  have htake : parked.backlog.take? 7 =
      some (⟨⟨10, 0, 2, 2⟩, 9, 7, [1, 2, 3]⟩, parked.backlog.dropOldest 7) := by
    unfold Backlog.take?
    rw [hqueue]
    rfl
  have hread : (Stack.receiveOn { parked with table := again } 7).value =
      (.done ⟨⟨10, 0, 2, 2⟩, 9, 7, [1, 2, 3]⟩,
        { parked with table := again, backlog := parked.backlog.dropOldest 7 }) :=
    Stack.receiveOn_of_take? htake
  show ¬(act (.bind 0 8) parked).value.2.Owned ∧
    (act (.bind 0 8) parked).value.2.table.isBound 7 = false ∧
    (enter (.read 1 [0, 0, 0, 0]) (act (.openConnected ⟨10, 0, 2, 2⟩ 9 7)
      (act (.bind 0 8) parked).value.2).value.2).value.1 = .finished (.read 3 [1, 2, 3, 0])
  rw [hmoved, hagain']
  refine ⟨fun howned => ?_, hfree, ?_⟩
  · have hbound : moved.isBound 7 = true := howned 7 (by simp [hqueue])
    rw [hfree] at hbound
    cases hbound
  · simp only [enter, Call.check, hport, resume, Logged.value_bind, hread]
    rfl

end Bench

end NetStack
