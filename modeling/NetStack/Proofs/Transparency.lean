import NetStack.Proofs.Delivery
import NetStack.Proofs.Upkeep

/-!
# ARP beside reception

A call that takes datagrams meets other frames on its way. It answers those that ask for the host's
address, and passes over all that carry no datagram. `Responder.Answers` is what happens to the
driver while frames are taken and answered one after another, and `Transport.Receives` says which
frames a call takes (`Transport.exists_receives`). Of whole runs, `ReceptionLaw` says that nothing
but the datagrams among the taken frames is returned, and nothing but the replies to the requests
among them is handed to the card; `receptionLaw_run` proves it from setting up on.
-/

namespace NetStack

/-- A reply that was handed to the card. -/
structure Reply where
  frame : Bytes
  /-- Whether the card took it. -/
  taken : Bool

namespace Responder

/-- The reply to a frame, if the frame asks for the responder's IPv4 address. -/
def reply? (responder : Responder) (frame : Bytes) : Option Bytes :=
  match ArpFrame.decode frame with
  | .error _ => none
  | .ok request =>
    if request.packet.operation = 1 ∧ request.packet.protocolLength = 4 ∧
        request.packet.targetIp = responder.ip then
      some (ArpFrame.reply request responder.mac)
    else none

/-- What is answered for is a request for the responder's IPv4 address. -/
theorem answers_iff (responder : Responder) (packet : ArpPacket) :
    responder.answers packet = true ↔
      packet.operation = 1 ∧ packet.protocolLength = 4 ∧ packet.targetIp = responder.ip := by
  unfold answers ArpPacket.isRequest
  rw [Bool.and_eq_true, Bool.and_eq_true, beq_iff_eq, beq_iff_eq, beq_iff_eq, and_assoc]
  rfl

/-- A reply fits a transmit buffer. -/
theorem length_of_reply? {responder : Responder} {frame reply : Bytes}
    (h : responder.reply? frame = some reply) : reply.length ≤ Host.txBufferSize := by
  unfold reply? at h
  split at h
  · cases h
  · split at h
    · cases h
      rw [ArpFrame.reply, ArpFrame.length_encode]
      decide
    · cases h

/-- A driver before and after frames were taken from its ring, from the oldest on, and those that
ask for the responder's address were answered, each before the next one was taken. -/
inductive Answers (responder : Responder) :
    List Bytes → List Reply → Adapter Emulated → Adapter Emulated → Prop
  | nil (adapter : Adapter Emulated) : Answers responder [] [] adapter adapter
  /-- A frame that asks for nothing. -/
  | quiet {frame : Bytes} {frames : List Bytes} {replies : List Reply}
      {adapter holding next : Adapter Emulated}
      (hframe : (adapter.waitFrame .never).value = (.done frame, .never, holding))
      (hreply : responder.reply? frame = none)
      (later : Answers responder frames replies holding next) :
      Answers responder (frame :: frames) replies adapter next
  /-- A request whose reply the card takes. -/
  | replied {frame reply : Bytes} {frames : List Bytes} {replies : List Reply}
      {adapter holding sent next : Adapter Emulated}
      (hframe : (adapter.waitFrame .never).value = (.done frame, .never, holding))
      (hreply : responder.reply? frame = some reply)
      (htransmit : (holding.transmit reply).value = (.ok (), sent))
      (later : Answers responder frames replies sent next) :
      Answers responder (frame :: frames) (⟨reply, true⟩ :: replies) adapter next
  /-- A request whose reply finds the transmit ring full, and is lost. -/
  | lost {frame reply : Bytes} {frames : List Bytes} {replies : List Reply}
      {adapter holding refused next : Adapter Emulated}
      (hframe : (adapter.waitFrame .never).value = (.done frame, .never, holding))
      (hreply : responder.reply? frame = some reply)
      (hfull : holding.bus.pending = Host.txRingSize)
      (htransmit : (holding.transmit reply).value = (.error .ringFull, refused))
      (later : Answers responder frames replies refused next) :
      Answers responder (frame :: frames) (⟨reply, false⟩ :: replies) adapter next

/-- Every request among the frames is replied to once, in the order of the frames. -/
theorem Answers.map_frame {responder : Responder} {frames : List Bytes} {replies : List Reply}
    {adapter next : Adapter Emulated} (h : Answers responder frames replies adapter next) :
    replies.map Reply.frame = frames.filterMap responder.reply? := by
  induction h with
  | nil => rfl
  | quiet _ hreply _ ih => rw [List.filterMap_cons_none hreply, ih]
  | replied _ hreply _ _ ih => rw [List.filterMap_cons_some hreply, List.map_cons, ih]
  | lost _ hreply _ _ _ ih => rw [List.filterMap_cons_some hreply, List.map_cons, ih]

/-- Frames that are taken and answered first, and then. -/
theorem Answers.append {responder : Responder} {first later : List Bytes}
    {replies further : List Reply} {a b c : Adapter Emulated}
    (h : Answers responder first replies a b) (h' : Answers responder later further b c) :
    Answers responder (first ++ later) (replies ++ further) a c := by
  induction h with
  | nil => exact h'
  | quiet hframe hreply _ ih => exact .quiet hframe hreply (ih h')
  | replied hframe hreply htransmit _ ih => exact .replied hframe hreply htransmit (ih h')
  | lost hframe hreply hfull htransmit _ ih => exact .lost hframe hreply hfull htransmit (ih h')

/-- The replies that the card took come behind all frames that were sent or are outstanding, and
nothing else does. -/
theorem Answers.frames_eq {responder : Responder} {frames : List Bytes} {replies : List Reply}
    {adapter next : Adapter Emulated} (h : Answers responder frames replies adapter next)
    (hlinked : adapter.TxLinked) : next.TxLinked ∧
      next.bus.sent ++ next.outstanding = adapter.bus.sent ++ adapter.outstanding ++
        (replies.filter Reply.taken).map Reply.frame := by
  have htaken {adapter holding : Adapter Emulated} {frame : Bytes} (hlinked : adapter.TxLinked)
      (hframe : (adapter.waitFrame .never).value = (.done frame, .never, holding)) :
      holding.TxLinked ∧ holding.bus.sent ++ holding.outstanding =
        adapter.bus.sent ++ adapter.outstanding := by
    have hsame := adapter.sameTx_waitFrame .never
    rw [hframe] at hsame
    exact ⟨hlinked.of_sameTx hsame, hsame.frames_eq⟩
  induction h with
  | nil => exact ⟨hlinked, (List.append_nil _).symm⟩
  | quiet hframe _ _ ih =>
    obtain ⟨hholding, hframes⟩ := htaken hlinked hframe
    obtain ⟨hnext, hlater⟩ := ih hholding
    rw [hframes] at hlater
    exact ⟨hnext, hlater⟩
  | replied hframe hreply htransmit _ ih =>
    obtain ⟨hholding, hframes⟩ := htaken hlinked hframe
    cases hholding.transmit_spec htransmit with
    | taken _ hsent hbehind =>
      obtain ⟨hnext, hlater⟩ := ih hsent
      rw [hbehind, hframes] at hlater
      refine ⟨hnext, ?_⟩
      rw [hlater, List.filter_cons_of_pos rfl, List.map_cons, List.append_assoc]
      rfl
  | lost hframe hreply hfull htransmit _ ih =>
    obtain ⟨hholding, hframes⟩ := htaken hlinked hframe
    cases hholding.transmit_spec htransmit with
    | full =>
      -- a refusal leaves the ring and the line as they are
      obtain ⟨hnext, hlater⟩ := ih hholding
      refine ⟨hnext, ?_⟩
      rw [List.filter_cons_of_neg (by simp), ← hframes]
      exact hlater

/-- Dealing with a frame that was taken answers it. A reply is short, so only a full ring refuses
it. -/
theorem exists_answers (responder : Responder) {adapter holding : Adapter Emulated}
    {frame : Bytes} (hlinked : holding.TxLinked)
    (hframe : (adapter.waitFrame .never).value = (.done frame, .never, holding)) :
    ∃ replies, Answers responder [frame] replies adapter
      (responder.handle holding frame).value.2 := by
  unfold handle
  cases hdecode : ArpFrame.decode frame with
  | error error =>
    have hreply : responder.reply? frame = none := by
      unfold reply?
      rw [hdecode]
    exact ⟨[], .quiet hframe hreply (.nil _)⟩
  | ok request =>
    by_cases hanswers : responder.answers request.packet = true
    · have hreply : responder.reply? frame = some (ArpFrame.reply request responder.mac) := by
        unfold reply?
        rw [hdecode]
        exact if_pos ((responder.answers_iff _).1 hanswers)
      have hfits := length_of_reply? hreply
      simp only [hanswers, if_true, Logged.value_bind]
      rcases htransmit : (holding.transmit (ArpFrame.reply request responder.mac)).value with
        ⟨outcome, next⟩
      cases hlinked.transmit_spec htransmit with
      | tooLong hlong => exact absurd hfits (Nat.not_le.2 hlong)
      | full _ hfull => exact ⟨_, .lost hframe hreply hfull htransmit (.nil _)⟩
      | taken => exact ⟨_, .replied hframe hreply htransmit (.nil _)⟩
    · have hreply : responder.reply? frame = none := by
        unfold reply?
        rw [hdecode]
        exact if_neg fun hasks => hanswers ((responder.answers_iff _).2 hasks)
      simp only [hanswers]
      exact ⟨[], .quiet hframe hreply (.nil _)⟩

end Responder

/-- Frames carry no datagram if none of them is read as one. -/
theorem datagrams_eq_nil_iff (capacity : Nat) (frames : List Bytes) :
    datagrams capacity frames = [] ↔
      ∀ frame ∈ frames, ∃ error, Udp.receive frame capacity = .error error := by
  unfold datagrams
  rw [List.filterMap_eq_nil_iff]
  have hnone (frame : Bytes) : (Udp.receive frame capacity).toOption = none ↔
      ∃ error, Udp.receive frame capacity = .error error := by
    cases Udp.receive frame capacity <;> simp [Except.toOption]
  simp only [hnone]

namespace Transport

/-- What a call does to the driver that takes datagrams until it has one, whatever it has to wait
for: it takes the frames from the ring up to the first one that is read as a datagram, or all of
them if there is none, and answers them as it takes them. -/
inductive Receives (capacity : Nat) (responder : Responder) (before after : Adapter Emulated)
    (replies : List Reply) : Progress Datagram → Prop
  | done {skipped : List Bytes} {frame : Bytes} {datagram : Datagram}
      (hskipped : ∀ other ∈ skipped, ∃ error, Udp.receive other capacity = .error error)
      (hframe : Udp.receive frame capacity = .ok datagram)
      (hstored : before.stored = skipped ++ [frame] ++ after.stored)
      (hreplies : responder.Answers (skipped ++ [frame]) replies before after) :
      Receives capacity responder before after replies (.done datagram)
  | waiting
      (hskipped : ∀ other ∈ before.stored, ∃ error, Udp.receive other capacity = .error error)
      (hleft : after.stored = [])
      (hreplies : responder.Answers before.stored replies before after) :
      Receives capacity responder before after replies .waiting

/-- A call that takes datagrams transmits its replies and nothing else. -/
theorem Receives.frames_eq {capacity : Nat} {responder : Responder}
    {before after : Adapter Emulated} {replies : List Reply} {progress : Progress Datagram}
    (h : Receives capacity responder before after replies progress) (hlinked : before.TxLinked) :
    after.bus.sent ++ after.outstanding =
      before.bus.sent ++ before.outstanding ++ (replies.filter Reply.taken).map Reply.frame := by
  cases h with
  | done _ _ _ hreplies => exact (hreplies.frames_eq hlinked).2
  | waiting _ _ hreplies => exact (hreplies.frames_eq hlinked).2

/-- Passing over a first frame. -/
theorem Receives.skip {capacity : Nat} {responder : Responder}
    {before between after : Adapter Emulated} {frame : Bytes} {first later : List Reply}
    {error : FrameError} {progress : Progress Datagram}
    (hstored : before.stored = frame :: between.stored)
    (hframe : Udp.receive frame capacity = .error error)
    (hfirst : responder.Answers [frame] first before between)
    (h : Receives capacity responder between after later progress) :
    Receives capacity responder before after (first ++ later) progress := by
  have hskip {skipped : List Bytes}
      (hskipped : ∀ other ∈ skipped, ∃ error, Udp.receive other capacity = .error error) :
      ∀ other ∈ frame :: skipped, ∃ error, Udp.receive other capacity = .error error :=
    List.forall_mem_cons.2 ⟨⟨error, hframe⟩, hskipped⟩
  cases h with
  | done hskipped hlast hbetween hreplies =>
    refine .done (hskip hskipped) hlast ?_ (hfirst.append hreplies)
    rw [hstored, hbetween]
    rfl
  | waiting hskipped hleft hreplies =>
    refine .waiting ?_ hleft ?_
    · rw [hstored]
      exact hskip hskipped
    · rw [hstored]
      exact hfirst.append hreplies

/-- Dealing with a frame does to the driver what answering it does. -/
theorem adapter_dispatch (transport : Transport Emulated) (frame : Bytes) (capacity : Nat) :
    (transport.dispatch frame capacity).value.2.adapter =
      (transport.responder.handle transport.adapter frame).value.2 := by
  simp only [dispatch, Logged.value_bind]
  split
  · rfl
  · split <;> rfl

/-- Taking a frame and dealing with it: the frame leaves the ring, and is answered. -/
theorem exists_answers_dispatch {transport next : Transport Emulated} {capacity : Nat}
    {frame : Bytes} {adapter : Adapter Emulated} {rest : Stop} {found : Option Datagram}
    (hrx : transport.adapter.RxLinked) (htx : transport.adapter.TxLinked)
    (hframe : (transport.adapter.waitFrame .never).value = (.done frame, rest, adapter))
    (hnext : (dispatch { transport with adapter } frame capacity).value = (found, next)) :
    rest = .never ∧ found = (Udp.receive frame capacity).toOption ∧
      transport.adapter.stored = frame :: next.adapter.stored ∧ next.adapter.RxLinked ∧
      next.adapter.TxLinked ∧ next.responder = transport.responder ∧
      ∃ replies, transport.responder.Answers [frame] replies transport.adapter next.adapter := by
  obtain ⟨hask, htakes⟩ := hrx.takes_of_done hframe
  have hrest : rest = .never := (Option.some.inj hask).symm
  subst hrest
  have hsame := transport.adapter.sameTx_waitFrame .never
  rw [hframe] at hsame
  have hupkeep : transport.Upkeep { transport with adapter } := .of_adapter (.of_sameTx hsame)
  -- the frame is dealt with by a host that is as it was before
  have hresponder := hupkeep.responder_eq
  obtain ⟨hfound, hkept⟩ := dispatch_spec { transport with adapter } frame capacity
  have hdispatch := upkeep_dispatch { transport with adapter } frame capacity
  have hadapter := adapter_dispatch { transport with adapter } frame capacity
  obtain ⟨replies, hreplies⟩ :=
    transport.responder.exists_answers (hupkeep.adapter.linked htx) hframe
  rw [hnext] at hfound hkept hdispatch hadapter
  rw [hresponder] at hadapter
  simp only at hfound hkept hdispatch hadapter
  have hboth := hupkeep.trans hdispatch
  refine ⟨rfl, hfound, ?_, htakes.linked.of_sameRx hkept, hboth.adapter.linked htx,
    hboth.responder_eq, replies, ?_⟩
  · rw [htakes.stored, hkept.stored_eq]
  · rw [hadapter]
    exact hreplies

/-- Every call that takes datagrams and is never told to stop does so. -/
theorem exists_receives {transport next : Transport Emulated} {capacity : Nat} {rest : Stop}
    {progress : Progress Datagram} (hrx : transport.adapter.RxLinked)
    (htx : transport.adapter.TxLinked)
    (hvalue : (transport.receiveUntil capacity .never).value = (progress, rest, next)) :
    rest = .never ∧ ∃ replies,
      Receives capacity transport.responder transport.adapter next.adapter replies progress := by
  generalize hstop : Stop.never = stop at hvalue
  fun_induction receiveUntil transport capacity stop with
  | case1 transport stop _ _ adapter hframe =>
    subst hstop
    rcases hrx.waitFrame_cases hframe with ⟨-, hask, -⟩ | ⟨hstopped, -⟩ | ⟨_, hstopped, -⟩
    · cases hask
    · cases hstopped
    · cases hstopped
  | case2 transport stop _ _ adapter hframe =>
    subst hstop
    cases hvalue
    rcases hrx.waitFrame_cases hframe with ⟨hwaiting, -⟩ | ⟨-, hask, rfl, hempty⟩ |
      ⟨_, hwaiting, -⟩
    · cases hwaiting
    · refine ⟨(Option.some.inj hask).symm, [], .waiting ?_ hempty ?_⟩
      · simp [hempty]
      · rw [hempty]
        exact .nil _
    · cases hwaiting
  | case3 transport stop _ frame _ adapter hframe _ _ datagram _ hnext =>
    subst hstop
    cases hvalue
    obtain ⟨hrest, hfound, hstored, -, -, -, replies, hreplies⟩ :=
      exists_answers_dispatch hrx htx hframe hnext
    have hread : Udp.receive frame capacity = .ok datagram := by
      cases hreceive : Udp.receive frame capacity with
      | error error =>
        rw [hreceive] at hfound
        cases hfound
      | ok read =>
        rw [hreceive] at hfound
        cases hfound
        rfl
    have hnone : ∀ other ∈ ([] : List Bytes), ∃ error, Udp.receive other capacity = .error error :=
      List.forall_mem_nil _
    exact ⟨hrest, replies, .done hnone hread hstored hreplies⟩
  | case4 transport stop _ frame _ adapter hframe _ _ _ hnext _ ih =>
    subst hstop
    obtain ⟨rfl, hfound, hstored, hrx', htx', hresponder, first, hfirst⟩ :=
      exists_answers_dispatch hrx htx hframe hnext
    have hread : ∃ error, Udp.receive frame capacity = .error error := by
      cases hreceive : Udp.receive frame capacity with
      | error error => exact ⟨error, rfl⟩
      | ok read =>
        rw [hreceive] at hfound
        cases hfound
    obtain ⟨error, hread⟩ := hread
    obtain ⟨hrest, later, hlater⟩ := ih hrx' htx' rfl hvalue
    rw [hresponder] at hlater
    exact ⟨hrest, first ++ later, hlater.skip hstored hread hfirst⟩

end Transport

namespace Bench

open Transport (Receives)

namespace Event

/-- A move is one of a transport if it is a regular action, or a call that takes datagrams of at
most `capacity` bytes and is never told to stop. -/
def OnTransport (capacity : Nat) (event : Event) : Prop :=
  match event.move with
  | .act action _ => action.Regular
  | .enter call _ => call = .receive capacity .never
  | _ => True

/-- The frames that a call took from the ring when it ran. -/
def consumed (event : Event) : List Bytes :=
  match event.move.attempt? with
  | some _ => event.before.adapter.stored.take
      (event.before.adapter.stored.length - event.after.adapter.stored.length)
  | none => []

/-- The datagram that was returned to a caller. -/
def returned? (event : Event) : Option Datagram :=
  match event.move.answer? with
  | some (.datagram datagram) => some datagram
  | _ => none

/-- What is on a transport is regular. -/
theorem OnTransport.regular {event : Event} {capacity : Nat} (h : event.OnTransport capacity) :
    event.Regular := by
  obtain ⟨before, move, after⟩ := event
  cases move with
  | act action answer => exact h
  | _ => trivial

end Event

/-- The replies that calls handed to the card in the course of some moves, in order. Those that the
card took are all that the calls put behind the frames that were sent or are outstanding. -/
inductive Attempted (capacity : Nat) (responder : Responder) : List Event → List Reply → Prop
  | nil : Attempted capacity responder [] []
  | quiet {past : List Event} {replies : List Reply} {event : Event}
      (earlier : Attempted capacity responder past replies) (hmove : event.move.attempt? = none) :
      Attempted capacity responder (past ++ [event]) replies
  | call {past : List Event} {replies now : List Reply} {event : Event}
      {progress : Progress Datagram} (earlier : Attempted capacity responder past replies)
      (hmove : event.move.attempt? =
        some (attemptOf .datagram (.datagram capacity .never) progress))
      (hreceives : Receives capacity responder event.before.adapter event.after.adapter now
        progress)
      (hframes : event.after.adapter.bus.sent ++ event.after.adapter.outstanding =
        event.before.adapter.bus.sent ++ event.before.adapter.outstanding ++
          (now.filter Reply.taken).map Reply.frame) :
      Attempted capacity responder (past ++ [event]) (replies ++ now)

/-- What holds of reception after everything that happened: ARP and all other frames that carry no
datagram make no difference to what is returned, and requests are answered on the way. -/
structure ReceptionLaw (capacity : Nat) (responder : Responder) (past : List Event)
    (now : Stack Emulated) : Prop where
  /-- The frames that came in were taken by calls, in order, or are still in the ring. -/
  arrived : past.flatMap Event.arrived = past.flatMap Event.consumed ++ now.adapter.stored
  /-- What was returned are the datagrams that the taken frames carry. -/
  returned : past.filterMap Event.returned? = datagrams capacity (past.flatMap Event.consumed)
  /-- What the calls handed to the card are the replies to the requests among the taken frames. -/
  replies : ∃ replies, Attempted capacity responder past replies ∧
    replies.map Reply.frame = (past.flatMap Event.consumed).filterMap responder.reply?

/-- What a call that takes datagrams does when it runs, from its start or after a wait. -/
theorem receives_of_resume {stack next : Stack Emulated} {capacity : Nat}
    {attempt : Attempt Answer Waiting} (hrx : stack.adapter.RxLinked)
    (htx : stack.adapter.TxLinked)
    (hvalue : (resume (.datagram capacity .never) stack).value = (attempt, next)) :
    ∃ progress replies, attempt = attemptOf .datagram (.datagram capacity .never) progress ∧
      Receives capacity stack.transport.responder stack.adapter next.adapter replies progress := by
  rcases hreceive : (stack.transport.receiveUntil capacity .never).value with
    ⟨progress, rest, transport⟩
  obtain ⟨rfl, replies, hreceives⟩ := Transport.exists_receives hrx htx hreceive
  simp only [resume, Logged.value_bind, hreceive] at hvalue
  cases hvalue
  exact ⟨progress, replies, rfl, hreceives⟩

/-- A call that takes datagrams tells from its answer what it found, and from the ring what it took.
-/
theorem read_of_receives {capacity : Nat} {responder : Responder} {event : Event}
    {replies : List Reply} {progress : Progress Datagram}
    (hmove : event.move.attempt? =
      some (attemptOf .datagram (.datagram capacity .never) progress))
    (h : Receives capacity responder event.before.adapter event.after.adapter replies progress) :
    event.before.adapter.stored = event.consumed ++ event.after.adapter.stored ∧
      event.returned?.toList = datagrams capacity event.consumed ∧
      replies.map Reply.frame = event.consumed.filterMap responder.reply? := by
  have hconsumed {taken : List Bytes}
      (hstored : event.before.adapter.stored = taken ++ event.after.adapter.stored) :
      event.consumed = taken := by
    unfold Event.consumed
    rw [hmove, hstored]
    simp
  cases h with
  | @done skipped frame datagram hskipped hframe hstored hreplies =>
    rw [hconsumed hstored]
    refine ⟨hstored, ?_, hreplies.map_frame⟩
    have hreturned : event.returned? = some datagram := by
      unfold Event.returned? Move.answer?
      rw [hmove]
      rfl
    rw [hreturned, datagrams_append, (datagrams_eq_nil_iff _ _).2 hskipped, datagrams_cons,
      hframe]
    rfl
  | waiting hskipped hleft hreplies =>
    have hstored : event.before.adapter.stored =
        event.before.adapter.stored ++ event.after.adapter.stored := by
      rw [hleft, List.append_nil]
    rw [hconsumed hstored]
    refine ⟨hstored, ?_, hreplies.map_frame⟩
    have hreturned : event.returned? = none := by
      unfold Event.returned? Move.answer?
      rw [hmove]
      rfl
    rw [hreturned, (datagrams_eq_nil_iff _ _).2 hskipped]
    rfl

/-- Every call waits for a datagram of at most `capacity` bytes, and is never told to stop. -/
def AllReceive (capacity : Nat) (sleeping : List (Sleeper Waiting)) : Prop :=
  ∀ sleeper ∈ sleeping, sleeper.rest = .datagram capacity .never

/-- Whatever is called or resumed takes datagrams. -/
theorem resume_of_attempt? {event : Event} {sleeping : List (Sleeper Waiting)} {capacity : Nat}
    {attempt : Attempt Answer Waiting} (hsleeping : AllReceive capacity sleeping)
    (hon : event.OnTransport capacity) (hlegal : (stackSystem Emulated).Legal sleeping event)
    (hmove : event.move.attempt? = some attempt) :
    (resume (.datagram capacity .never) event.before).value = (attempt, event.after) := by
  obtain ⟨before, move, after⟩ := event
  cases move with
  | act action answer => cases hmove
  | abandon waiting => cases hmove
  | enter call attempt =>
    cases hmove
    have hcall : call = .receive capacity .never := hon
    subst hcall
    exact hlegal
  | resume waiting attempt =>
    cases hmove
    obtain ⟨⟨sleeper, hsleeper, hrest, -⟩, hresumed⟩ := hlegal
    have hwaiting : waiting = .datagram capacity .never :=
      hrest.symm.trans (hsleeping sleeper (List.mem_of_head? hsleeper))
    subst hwaiting
    exact hresumed

/-- Where only such calls are made, only such calls wait. -/
theorem AllReceive.step {event : Event} {sleeping : List (Sleeper Waiting)} {capacity : Nat}
    (h : AllReceive capacity sleeping) (hmove : ∀ attempt, event.move.attempt? = some attempt →
      ∃ progress, attempt = attemptOf .datagram (.datagram capacity .never) progress) :
    AllReceive capacity ((stackSystem Emulated).track sleeping event) := by
  intro sleeper hmem
  rcases System.mem_track hmem with ⟨older, hold, rfl⟩ | ⟨hsuspended, -, -⟩
  · exact h older hold
  · obtain ⟨progress, hattempt⟩ := hmove _ (Move.attempt?_of_suspended? hsuspended)
    cases progress with
    | done => cases hattempt
    | stopped => cases hattempt
    | waiting => exact Attempt.suspended.inj hattempt

/-- A move in which no call runs takes nothing from the ring, and puts behind what is there what
comes in. -/
theorem stored_of_quiet {event : Event} {sleeping : List (Sleeper Waiting)}
    (h : event.before.adapter.RxLinked) (hregular : event.Regular)
    (hlegal : (stackSystem Emulated).Legal sleeping event) (hmove : event.move.attempt? = none) :
    event.after.adapter.stored = event.before.adapter.stored ++ event.arrived ∧
      event.after.adapter.RxLinked := by
  obtain ⟨before, move, after⟩ := event
  cases move with
  | act action answer =>
    have hacts := act_spec h hregular hlegal
    exact ⟨hacts.stored, hacts.linked⟩
  | enter call attempt => cases hmove
  | resume waiting attempt => cases hmove
  | abandon waiting =>
    have hsame : after = before := hlegal.2
    subst hsame
    exact ⟨(List.append_nil _).symm, h⟩

/-- While a call runs no frame comes in. -/
theorem arrived_of_attempt? {event : Event} {attempt : Attempt Answer Waiting}
    (hmove : event.move.attempt? = some attempt) : event.arrived = [] := by
  obtain ⟨before, move, after⟩ := event
  cases move with
  | act action answer => cases hmove
  | _ => rfl

/-- The law holds after one more move if the move takes frames from the front of the ring, puts what
comes in behind them, and returns and replies to what it took. -/
theorem ReceptionLaw.snoc {capacity : Nat} {responder : Responder} {past : List Event}
    {event : Event} {now : List Reply} (h : ReceptionLaw capacity responder past event.before)
    (hstored : event.before.adapter.stored ++ event.arrived =
      event.consumed ++ event.after.adapter.stored)
    (hreturned : event.returned?.toList = datagrams capacity event.consumed)
    (hreplies : now.map Reply.frame = event.consumed.filterMap responder.reply?)
    (hattempted : ∀ replies, Attempted capacity responder past replies →
      Attempted capacity responder (past ++ [event]) (replies ++ now)) :
    ReceptionLaw capacity responder (past ++ [event]) event.after := by
  have hconsumed : (past ++ [event]).flatMap Event.consumed =
      past.flatMap Event.consumed ++ event.consumed := by
    rw [List.flatMap_append, List.flatMap_singleton]
  obtain ⟨replies, hearlier, hmap⟩ := h.replies
  refine ⟨?_, ?_, replies ++ now, hattempted replies hearlier, ?_⟩
  · rw [List.flatMap_append, List.flatMap_singleton, h.arrived, List.append_assoc, hstored,
      hconsumed, List.append_assoc]
  · rw [Moment.filterMap_snoc, h.returned, hreturned, hconsumed, datagrams_append]
  · rw [List.map_append, hmap, hreplies, hconsumed, List.filterMap_append]

/-- What a run of a transport keeps: both rings are linked to the card, ARP requests are answered as
they were from the start, and the law of reception holds. -/
structure Reception (capacity : Nat) (responder : Responder) (past : List Event)
    (now : Stack Emulated) : Prop where
  rxLinked : now.adapter.RxLinked
  txLinked : now.adapter.TxLinked
  responder_eq : now.transport.responder = responder
  law : ReceptionLaw capacity responder past now

/-- Every move of a transport keeps it. -/
theorem Reception.step {capacity : Nat} {responder : Responder} {past : List Event} {event : Event}
    {sleeping : List (Sleeper Waiting)} (h : Reception capacity responder past event.before)
    (hsleeping : AllReceive capacity sleeping) (hon : event.OnTransport capacity)
    (hlegal : (stackSystem Emulated).Legal sleeping event) :
    Reception capacity responder (past ++ [event]) event.after ∧
      AllReceive capacity ((stackSystem Emulated).track sleeping event) := by
  have hupkeep := upkeep_of_legal hon.regular hlegal
  have htx := hupkeep.adapter.linked h.txLinked
  have hresponder := hupkeep.responder_eq.trans h.responder_eq
  cases hmove : event.move.attempt? with
  | none =>
    obtain ⟨hstored, hrx⟩ := stored_of_quiet h.rxLinked hon.regular hlegal hmove
    have hconsumed : event.consumed = [] := by
      unfold Event.consumed
      rw [hmove]
    have hreturned : event.returned? = none := by
      unfold Event.returned? Move.answer?
      rw [hmove]
    have hattempted (replies : List Reply) (hearlier : Attempted capacity responder past replies) :
        Attempted capacity responder (past ++ [event]) (replies ++ []) := by
      rw [List.append_nil]
      exact hearlier.quiet hmove
    refine ⟨⟨hrx, htx, hresponder, h.law.snoc ?_ ?_ ?_ hattempted⟩,
      hsleeping.step fun attempt hattempt => ?_⟩
    · rw [hconsumed, hstored, List.nil_append]
    · rw [hconsumed, hreturned]
      rfl
    · rw [hconsumed]
      rfl
    · rw [hmove] at hattempt
      cases hattempt
  | some attempt =>
    have hresumed := resume_of_attempt? hsleeping hon hlegal hmove
    obtain ⟨progress, now, rfl, hreceives⟩ := receives_of_resume h.rxLinked h.txLinked hresumed
    rw [h.responder_eq] at hreceives
    obtain ⟨hstored, hreturned, hreplies⟩ := read_of_receives hmove hreceives
    have hrx := (resume_spec h.rxLinked hresumed).linked
    have hframes := hreceives.frames_eq h.txLinked
    refine ⟨⟨hrx, htx, hresponder, h.law.snoc ?_ hreturned hreplies fun replies hearlier =>
      hearlier.call hmove hreceives hframes⟩, hsleeping.step fun attempt hattempt => ?_⟩
    · rw [arrived_of_attempt? hmove, List.append_nil, hstored]
    · rw [hmove] at hattempt
      exact ⟨progress, (Option.some.inj hattempt).symm⟩

/-- Along every path of a transport from where it was set up. -/
theorem reception_of_path {capacity : Nat} {start s : Stack Emulated} {past : List Event}
    {waiting : List (Sleeper Waiting)}
    (hpath : System.Path (stackSystem Emulated) start [] past s waiting)
    (hstart : start.adapter.SetUp) (hon : ∀ event ∈ past, event.OnTransport capacity) :
    Reception capacity start.transport.responder past s ∧ AllReceive capacity waiting := by
  induction hpath with
  | nil =>
    refine ⟨⟨hstart.rxLinked, hstart.txLinked, rfl, ?_, rfl, [], .nil, rfl⟩, ?_⟩
    · exact hstart.stored.symm
    · intro sleeper hmem
      cases hmem
  | @snoc past sleeping event _ hlegal ih =>
    obtain ⟨hearlier, hlast⟩ := List.forall_mem_append.1 hon
    obtain ⟨hreception, hsleeping⟩ := ih hearlier
    exact hreception.step hsleeping (hlast event (List.mem_singleton_self _)) hlegal

/-- From setting up on, at every moment of every run of a transport, ARP makes no difference to
reception: what was returned are the datagrams that the frames carry that calls have taken, each
call takes the frames up to the first one that carries a datagram, and the calls reply to the
requests among them, once each and in order. -/
theorem receptionLaw_run (auto : Bool) (addresses : Addresses) (capacity : Nat) :
    ∃ stack : Stack Emulated, (setUp (Emulated.start auto) addresses).value = .ok stack ∧
      ∀ (steps : List (Step Action Call)) (moves : Nat),
        let past := ((stackSystem Emulated).journalAll steps stack).take moves
        (∀ event ∈ past, Event.OnTransport capacity event) →
          ReceptionLaw capacity stack.transport.responder past (System.stateAfter stack past) := by
  obtain ⟨stack, hvalue, hsetUp, -, -⟩ := exists_setUp auto addresses
  refine ⟨stack, hvalue, ?_⟩
  intro steps moves past hon
  have hpath := System.journalAll_path
    (List.take_prefix moves ((stackSystem Emulated).journalAll steps stack))
  exact (reception_of_path hpath hsetUp hon).1.law

/-- A request for the host's address, a datagram behind it, and a call that meets both. -/
theorem exists_reception : ∃ stack : Stack Emulated,
    (setUp (Emulated.start true) ⟨none, none, none⟩).value = .ok stack ∧
      let past := (stackSystem Emulated).journalAll
        [.act (.injectRequest Host.gateway ⟨10, 0, 2, 2⟩ Host.ip),
          .act (.injectDatagram none ⟨⟨10, 0, 2, 2⟩, 9, 7, [1, 2, 3]⟩),
          .call (.receive 16 .never) []] stack
      (∀ event ∈ past, Event.OnTransport 16 event) ∧
        ReceptionLaw 16 stack.transport.responder past (System.stateAfter stack past) := by
  obtain ⟨stack, hvalue, hlaw⟩ := receptionLaw_run true ⟨none, none, none⟩ 16
  refine ⟨stack, hvalue, ?_⟩
  intro past
  have hon : ∀ event ∈ past, Event.OnTransport 16 event := by
    rcases hasked : ((stackSystem Emulated).act
      (.injectRequest Host.gateway ⟨10, 0, 2, 2⟩ Host.ip) stack).value with ⟨answer, asked⟩
    rcases hfilled : ((stackSystem Emulated).act
      (.injectDatagram none ⟨⟨10, 0, 2, 2⟩, 9, 7, [1, 2, 3]⟩) asked).value with ⟨answer', filled⟩
    rcases hentered : ((stackSystem Emulated).enter (.receive 16 .never) filled).value with
      ⟨attempt, last⟩
    simp only [past, System.journalAll, System.journal, System.run, Logged.value_bind,
      Logged.value_pure, hasked, hfilled, hentered, System.journalYield]
    cases attempt <;> simp [Event.OnTransport, Action.Regular]
  have hwhole := hlaw [.act (.injectRequest Host.gateway ⟨10, 0, 2, 2⟩ Host.ip),
    .act (.injectDatagram none ⟨⟨10, 0, 2, 2⟩, 9, 7, [1, 2, 3]⟩),
    .call (.receive 16 .never) []] past.length
  rw [List.take_length] at hwhole
  exact ⟨hon, hwhole hon⟩

end Bench

end NetStack
