import Mathlib.Algebra.Group.Int.Defs
import Mathlib.Algebra.GroupWithZero.Nat
import NetStack.Config.Settings

/-!
# What is required of a configuration

A request is asked for a list of things (`Request.requirements`). It passes the check exactly if it
meets them all, and is refused with the fault of the first one that it does not meet
(`checked_check`); the settings that come out are the request with its addresses read
(`Request.Yields`). Each step of the check looks at a few requirements, and a step behind another
goes on behind the requirements of the first (`Checked.bind`).
-/

namespace NetStack

/-- The powers of two from 8 on are the third one and those behind it. -/
theorem eight_le_two_pow_iff (k : Nat) : 8 ≤ 2 ^ k ↔ 3 ≤ k := by
  rw [show 8 = 2 ^ 3 from rfl, Nat.pow_le_pow_iff_right (by decide)]

/-- They are the powers of two that are multiples of 8. -/
theorem two_pow_mod_eight_iff (k : Nat) : 2 ^ k % 8 = 0 ↔ 3 ≤ k := by
  constructor
  · intro h
    refine Nat.le_of_not_lt fun hlt => ?_
    have hsmall : k = 0 ∨ k = 1 ∨ k = 2 := by omega
    obtain rfl | rfl | rfl := hsmall <;> exact absurd h (by decide)
  · intro h
    obtain ⟨j, rfl⟩ := Nat.exists_eq_add_of_le h
    rw [Nat.pow_add]
    exact Nat.mul_mod_right 8 _

end NetStack

namespace NetStack.Config

/-- Something that is required, and the fault where it is not met. -/
structure Requirement where
  met : Prop
  fault : Fault

/-- A fault is that of the first requirement that is not met. -/
inductive FirstUnmet : List Requirement → Fault → Prop where
  /-- The requirement in front is not met. -/
  | here {requirement : Requirement} {rest : List Requirement} (hunmet : ¬requirement.met) :
    FirstUnmet (requirement :: rest) requirement.fault
  /-- The requirement in front is met, and another one behind it is not. -/
  | later {requirement : Requirement} {rest : List Requirement} {fault : Fault}
    (hmet : requirement.met) (hrest : FirstUnmet rest fault) :
    FirstUnmet (requirement :: rest) fault

namespace FirstUnmet

variable {first rest : List Requirement} {fault other : Fault}

/-- What follows an unmet requirement makes no difference. -/
theorem append (h : FirstUnmet first fault) (rest : List Requirement) :
    FirstUnmet (first ++ rest) fault := by
  induction h with
  | here hunmet => exact here hunmet
  | later hmet _ ih => exact later hmet ih

/-- Requirements that are met may stand in front. -/
theorem behind (hmet : ∀ requirement ∈ first, requirement.met) (h : FirstUnmet rest fault) :
    FirstUnmet (first ++ rest) fault := by
  induction first with
  | nil => exact h
  | cons requirement first ih =>
    rw [List.forall_mem_cons] at hmet
    exact later hmet.1 (ih hmet.2)

/-- Some requirement is not met. -/
theorem not_met (h : FirstUnmet first fault) : ¬∀ requirement ∈ first, requirement.met := by
  induction h with
  | here hunmet => exact fun hall => hunmet (hall _ List.mem_cons_self)
  | later _ _ ih => exact fun hall => ih fun _ hmem => hall _ (List.mem_cons_of_mem _ hmem)

/-- There is one first unmet requirement only. -/
theorem unique (h : FirstUnmet first fault) (hother : FirstUnmet first other) : fault = other := by
  induction h with
  | here hunmet =>
    cases hother with
    | here => rfl
    | later hmet => exact absurd hmet hunmet
  | later hmet _ ih =>
    cases hother with
    | here hunmet => exact absurd hmet hunmet
    | later _ hrest => exact ih hrest

end FirstUnmet

/-- A check of some requirements: it succeeds, with a result that `Result` describes, only if all
are met, and fails with the fault of the first unmet one. -/
structure Checked {α : Type} (requirements : List Requirement) (outcome : Except Fault α)
    (Result : α → Prop) : Prop where
  ok : ∀ a, outcome = .ok a → (∀ requirement ∈ requirements, requirement.met) ∧ Result a
  error : ∀ fault, outcome = .error fault → FirstUnmet requirements fault

namespace Checked

variable {α β : Type} {first rest : List Requirement} {Result : α → Prop} {Last : β → Prop}

/-- A result without a check. -/
theorem pure {a : α} (ha : Result a) : Checked [] (.ok a) Result where
  ok _ h := by
    cases h
    exact ⟨fun _ hmem => absurd hmem List.not_mem_nil, ha⟩
  error _ h := nomatch h

/-- A check behind a check asks for what it requires behind the other's requirements. -/
theorem bind {outcome : Except Fault α} {next : α → Except Fault β}
    (hfirst : Checked first outcome Result) (hnext : ∀ a, Result a → Checked rest (next a) Last) :
    Checked (first ++ rest) (outcome >>= next) Last := by
  cases houtcome : outcome with
  | error fault =>
    have hunmet := (hfirst.error fault houtcome).append rest
    constructor
    · intro b h
      exact nomatch h
    · intro other h
      cases h
      exact hunmet
  | ok a =>
    obtain ⟨hmet, ha⟩ := hfirst.ok a houtcome
    have hlast := hnext a ha
    constructor
    · intro b h
      obtain ⟨hmore, hb⟩ := hlast.ok b h
      exact ⟨List.forall_mem_append.2 ⟨hmet, hmore⟩, hb⟩
    · intro fault h
      exact (hlast.error fault h).behind hmet

/-- What is refused unless a requirement is met is checked for it first. -/
theorem refuse {p : Prop} [Decidable p] {requirement : Requirement}
    (hmet : requirement.met ↔ ¬p) {next : Except Fault α}
    (hnext : requirement.met → Checked rest next Result) :
    Checked (requirement :: rest) (if p then .error requirement.fault else next) Result := by
  by_cases hp : p
  · rw [if_pos hp]
    constructor
    · intro a h
      exact nomatch h
    · intro fault h
      cases h
      exact .here fun h => hmet.1 h hp
  · rw [if_neg hp]
    have hnext := hnext (hmet.2 hp)
    constructor
    · intro a h
      obtain ⟨hall, ha⟩ := hnext.ok a h
      exact ⟨List.forall_mem_cons.2 ⟨hmet.2 hp, hall⟩, ha⟩
    · intro fault h
      exact .later (hmet.2 hp) (hnext.error fault h)

/-- A guard in front of further checks. -/
theorem guard {p : Prop} [Decidable p] {requirement : Requirement}
    (hmet : requirement.met ↔ p) {next : Unit → Except Fault α}
    (hnext : Checked rest (next ()) Result) :
    Checked (requirement :: rest) (if p then next () else throw requirement.fault >>= next)
      Result := by
  rw [← ite_not]
  exact refuse (hmet.trans Decidable.not_not.symm) fun _ => hnext

/-- A check succeeds exactly if all that it requires is met. -/
theorem succeeds_iff {outcome : Except Fault α} (h : Checked first outcome Result) :
    (∃ a, outcome = .ok a) ↔ ∀ requirement ∈ first, requirement.met := by
  cases houtcome : outcome with
  | error fault =>
    have hunmet := (h.error fault houtcome).not_met
    exact ⟨fun ⟨_, ha⟩ => (nomatch ha), fun hmet => absurd hmet hunmet⟩
  | ok a => exact ⟨fun _ => (h.ok a houtcome).1, fun _ => ⟨a, rfl⟩⟩

/-- A check fails exactly with the fault of the first unmet requirement. -/
theorem fails_iff {outcome : Except Fault α} (h : Checked first outcome Result) (fault : Fault) :
    outcome = .error fault ↔ FirstUnmet first fault := by
  cases houtcome : outcome with
  | error other =>
    rw [Except.error.injEq]
    exact ⟨fun heq => heq ▸ h.error other houtcome, (h.error other houtcome).unique⟩
  | ok a => exact ⟨(nomatch ·), fun hunmet => absurd (h.ok a houtcome).1 hunmet.not_met⟩

/-- What is read from a text must be readable. -/
theorem read {parsed : Option α} {fault : Fault} {outcome : Except Fault α}
    (hsome : ∀ a, parsed = some a → outcome = .ok a)
    (hnone : parsed = none → outcome = .error fault) :
    Checked [⟨∃ a, parsed = some a, fault⟩] outcome fun a => parsed = some a := by
  cases hparsed : parsed with
  | none =>
    rw [hnone hparsed]
    constructor
    · intro _ h
      exact nomatch h
    · intro _ h
      cases h
      exact .here fun ⟨_, h⟩ => nomatch h
  | some a =>
    rw [hsome a hparsed]
    constructor
    · intro _ h
      cases h
      exact ⟨List.forall_mem_singleton.2 ⟨a, rfl⟩, rfl⟩
    · intro _ h
      exact nomatch h

end Checked

/-- An IPv4 address is required. -/
theorem checked_checkIp (text : String) :
    Checked [⟨∃ ip, Ipv4.ofText? text = some ip, .badIp text⟩] (checkIp text)
      fun ip => Ipv4.ofText? text = some ip :=
  Checked.read (fun ip h => by rw [checkIp, h]) fun h => by rw [checkIp, h]

/-- A hardware address is required. -/
theorem checked_checkMac (key text : String) :
    Checked [⟨∃ mac, Mac.ofText? text = some mac, .badMac key text⟩] (checkMac key text)
      fun mac => Mac.ofText? text = some mac :=
  Checked.read (fun mac h => by rw [checkMac, h]) fun h => by rw [checkMac, h]

/-! ## Ring sizes -/

/-- A number that is positive, and a power of two once it is taken for a natural one, is a power of
two, and the other way round. -/
theorem isPowerOfTwo_toNat_iff (value : Int) :
    0 < value ∧ isPowerOfTwo value.toNat = true ↔ ∃ k : Nat, value = 2 ^ k := by
  rw [isPowerOfTwo_iff]
  constructor
  · rintro ⟨hpos, k, hk⟩
    refine ⟨k, ?_⟩
    rw [← Int.toNat_of_nonneg (Int.le_of_lt hpos), hk, Int.natCast_pow]
    rfl
  · rintro ⟨k, rfl⟩
    exact ⟨Int.pow_pos (by decide), k, Int.toNat_pow_of_nonneg (by decide) k⟩

/-- A power of two that is at least 8 is required of a ring. -/
theorem checked_checkRingSize (key : String) (value : Int) :
    Checked
      [⟨∃ k : Nat, value = 2 ^ k, .ringNotPowerOfTwo key value⟩,
        ⟨8 ≤ value, .ringNotAligned key value⟩]
      (checkRingSize key value) fun size => size = value := by
  refine Checked.refuse ?_ fun hpower => Checked.refuse ?_ fun _ => Checked.pure rfl
  · show (∃ k : Nat, value = 2 ^ k) ↔ ¬(value ≤ 0 ∨ isPowerOfTwo value.toNat = false)
    rw [← isPowerOfTwo_toNat_iff, not_or, Int.not_le, Bool.not_eq_false]
  · obtain ⟨k, hk⟩ := hpower
    show 8 ≤ value ↔ ¬(value * 16 % 128 ≠ 0)
    have hvalue : value = (2 ^ k : Nat) := by
      rw [hk, Int.natCast_pow]
      rfl
    have hle := eight_le_two_pow_iff k
    have hunits := two_pow_mod_eight_iff k
    omega

/-! ## Requests -/

/-- What is required of a request, in the order in which it is checked. -/
def Request.requirements (request : Request) : List Requirement :=
  [ ⟨∃ ip, Ipv4.ofText? request.localIp = some ip, .badIp request.localIp⟩,
    ⟨∃ mac, Mac.ofText? request.localMac = some mac, .badMac "local_mac" request.localMac⟩,
    ⟨∃ mac, Mac.ofText? request.gatewayMac = some mac, .badMac "gateway_mac" request.gatewayMac⟩,
    ⟨1 ≤ request.ttl ∧ request.ttl ≤ 255, .badTtl request.ttl⟩,
    ⟨∃ k : Nat, request.txRingSize = 2 ^ k, .ringNotPowerOfTwo "tx_ring_size" request.txRingSize⟩,
    ⟨8 ≤ request.txRingSize, .ringNotAligned "tx_ring_size" request.txRingSize⟩,
    ⟨∃ k : Nat, request.rxRingSize = 2 ^ k, .ringNotPowerOfTwo "rx_ring_size" request.rxRingSize⟩,
    ⟨8 ≤ request.rxRingSize, .ringNotAligned "rx_ring_size" request.rxRingSize⟩,
    ⟨request.rxBufferSize = 2048, .badRxBuffer⟩,
    ⟨64 ≤ request.txBufferSize ∧ request.txBufferSize ≤ 16288, .badTxBuffer request.txBufferSize⟩,
    ⟨request.registerBase ≤ 2 ^ 32 - 1, .badRegisterBase⟩ ]

/-- Settings that are a request with its addresses read. -/
structure Request.Yields (request : Request) (settings : Settings) : Prop where
  localIp : Ipv4.ofText? request.localIp = some settings.localIp
  localMac : Mac.ofText? request.localMac = some settings.localMac
  gatewayMac : Mac.ofText? request.gatewayMac = some settings.gatewayMac
  eq : settings = { request with
    localIp := settings.localIp
    localMac := settings.localMac
    gatewayMac := settings.gatewayMac }

/-- A request is checked for what is required of it, and its settings come out. -/
theorem checked_check (request : Request) :
    Checked request.requirements request.check request.Yields := by
  unfold Request.check Request.requirements
  refine (checked_checkIp _).bind fun localIp hlocalIp => ?_
  refine (checked_checkMac _ _).bind fun localMac hlocalMac => ?_
  refine (checked_checkMac _ _).bind fun gatewayMac hgatewayMac => ?_
  refine Checked.guard Iff.rfl ?_
  refine (checked_checkRingSize _ _).bind fun _ htx => ?_
  refine (checked_checkRingSize _ _).bind fun _ hrx => ?_
  refine Checked.guard Iff.rfl <| Checked.guard Iff.rfl <| Checked.guard ?_ <| Checked.pure ?_
  · show request.registerBase ≤ 2 ^ 32 - 1 ↔ request.registerBase < (UInt32.size : Nat)
    rw [show ((UInt32.size : Nat) : Int) = 2 ^ 32 by rfl]
    omega
  · exact ⟨hlocalIp, hlocalMac, hgatewayMac, by rw [htx, hrx]⟩

/-- The defaults meet all requirements. -/
theorem defaults_met : ∀ requirement ∈ (Request.ofDocument []).requirements, requirement.met := by
  have hcheck : (Request.ofDocument []).check.isOk = true := by decide
  rw [← (checked_check _).succeeds_iff]
  cases houtcome : (Request.ofDocument []).check with
  | error fault =>
    rw [houtcome] at hcheck
    exact nomatch hcheck
  | ok settings => exact ⟨settings, rfl⟩

end NetStack.Config
