import DrogonPay.Model.PayUtils

/-!
Contract: the replay protection in front of the WeChat notification handlers of
`CallbackService.cc`.

Owns: `isTimestampFresh`, `checkNonce` on a Redis that expires its entries, and
the system of deliveries that pass through both.

Does not own: the signature check before them, or the database step behind them.
-/

namespace DrogonPay.CallbackService

/-! ## Freshness -/

def isSpace (b : UInt8) : Bool := b = 32 || (9 ≤ b && b ≤ 13)

/-- `std::stoll`: leading white space and a sign are skipped, the digits up to
the first other byte are read; `none` when there are none or the number does not
fit 64 bits. -/
def stollPrefixed (text : Bytes) : Option Int :=
  let trimmed := text.dropWhile isSpace
  let (negative, unsigned) := match trimmed with
    | 45 :: rest => (true, rest)
    | 43 :: rest => (false, rest)
    | _ => (false, trimmed)
  let digits := unsigned.takeWhile Decimal.isDigit
  let number : Int := if negative then -(Decimal.value digits : Int) else Decimal.value digits
  if digits.isEmpty then none
  else if -(2 ^ 63) ≤ number && number < 2 ^ 63 then some number
  else none

def kMaxSkewSeconds : Int := 300

/-- The milliseconds of a clock that counts nanoseconds in 64 bits. -/
abbrev Clock := Fin (2 ^ 63 / 10 ^ 6)

/-- The clock counts milliseconds; the handler reads its seconds. -/
def secondsOf (clock : Nat) : Int := (clock / 1000 : Nat)

/-- The value an `int64_t` keeps of a number. -/
def int64 (n : Int) : Int := n.bmod (2 ^ 64)

/-- `std::llabs`; the least value has no counterpart and is kept. -/
def llabs (n : Int) : Int := int64 n.natAbs

/-- Why the timestamp of a delivery is refused at this time, `none` when it is
fresh. -/
def isTimestampFresh (clock : Nat) (timestamp : Bytes) : Option String :=
  match stollPrefixed timestamp with
  | none => some "invalid timestamp"
  | some cbTime =>
      if llabs (int64 (secondsOf clock - cbTime)) > kMaxSkewSeconds then
        some "timestamp out of acceptable window"
      else none

/-! ## Nonces -/

/-- The time at which an entry of Redis expires, for every key that was ever
set. -/
abbrev Redis := Bytes → Option Nat

/-- `SET key 1 NX EX seconds`: sets the key unless it is there and has not
expired, and answers whether it did. -/
def setNxEx (redis : Redis) (clock : Nat) (key : Bytes) (seconds : Nat) : Redis × Bool :=
  if (redis key).any fun expiry => clock < expiry then (redis, false)
  else (fun other => if other = key then some (clock + seconds * 1000) else redis other, true)

/-- The key of a nonce, up to a NUL as `c_str()` hands it on. -/
def nonceKey (nonce : Bytes) : Bytes := (ascii "cb:nonce:" ++ nonce).takeWhile fun b => b ≠ 0

def kNonceSeconds : Nat := 360

/-- First sight of the nonce; an empty one is not tracked. -/
def checkNonce (redis : Redis) (clock : Nat) (nonce : Bytes) : Redis × Bool :=
  if nonce.isEmpty then (redis, true) else setNxEx redis clock (nonceKey nonce) kNonceSeconds

/-! ## Deliveries -/

inductive Kind where
  | payment
  | refund
deriving DecidableEq, Repr

/-- The headers of a delivery that both checks read. -/
structure Headers where
  kind : Kind
  timestamp : Bytes
  nonce : Bytes
deriving DecidableEq, Repr

/-- The deliveries whose timestamp was found fresh wait for Redis; those that
were seen first go on to the database step. -/
structure Gate where
  clock : Clock
  redis : Redis
  waiting : List Headers
  letThrough : List Headers

inductive GateEvent where
  | tick (milliseconds : Nat)
  | deliver (headers : Headers)
  | answer (index : Nat)

namespace Gate

def initial (clock : Clock) : Gate := ⟨clock, fun _ => none, [], []⟩

/-- One step; `none` when no such delivery waits, or the clock would run over. -/
def step (gate : Gate) : GateEvent → Option Gate
  | .tick milliseconds =>
      if inRange : gate.clock.val + milliseconds < 2 ^ 63 / 10 ^ 6 then
        some { gate with clock := ⟨gate.clock.val + milliseconds, inRange⟩ }
      else none
  | .deliver headers =>
      match isTimestampFresh gate.clock headers.timestamp with
      | some _ => some gate
      | none => some { gate with waiting := gate.waiting ++ [headers] }
  | .answer index => do
      let headers ← gate.waiting[index]?
      let (redis, firstSight) := checkNonce gate.redis gate.clock headers.nonce
      return { gate with
        redis := redis
        waiting := gate.waiting.eraseIdx index
        letThrough := if firstSight then gate.letThrough ++ [headers] else gate.letThrough }

theorem step_answer {gate gate' : Gate} {index : Nat}
    (stepped : gate.step (.answer index) = some gate') :
    ∃ headers redis firstSight, gate.waiting[index]? = some headers ∧
      checkNonce gate.redis gate.clock headers.nonce = (redis, firstSight) ∧
      gate' = { gate with
        redis := redis
        waiting := gate.waiting.eraseIdx index
        letThrough := if firstSight then gate.letThrough ++ [headers] else gate.letThrough } := by
  obtain ⟨headers, found, rest⟩ := Option.bind_eq_some_iff.mp stepped
  exact ⟨headers, _, _, found, rfl, (Option.some.inj rest).symm⟩

/-- The runs in which every step meets `ok`. -/
inductive Run (ok : Gate → GateEvent → Prop) (start : Gate) : List GateEvent → Gate → Prop where
  | nil : Run ok start [] start
  | snoc {events : List GateEvent} {event : GateEvent} {gate gate' : Gate}
      (run : Run ok start events gate) (meets : ok gate event)
      (stepped : gate.step event = some gate') : Run ok start (events ++ [event]) gate'

theorem Run.mono {ok ok' : Gate → GateEvent → Prop} {start gate : Gate} {events : List GateEvent}
    (run : Run ok start events gate) (weaker : ∀ gate event, ok gate event → ok' gate event) :
    Run ok' start events gate := by
  induction run with
  | nil => exact .nil
  | snoc _ meets stepped inductionHypothesis =>
      exact inductionHypothesis.snoc (weaker _ _ meets) stepped

/-- A list of events in order, as long as every one passes the check. -/
def runAll (check : Gate → GateEvent → Bool) (gate : Gate) : List GateEvent → Option Gate
  | [] => some gate
  | event :: events =>
      if check gate event then (gate.step event).bind fun next => runAll check next events
      else none

theorem Run.of_runAll {check : Gate → GateEvent → Bool} {start gate mid : Gate}
    {done events : List GateEvent}
    (soFar : Run (fun gate event => check gate event = true) start done mid)
    (ran : mid.runAll check events = some gate) :
    Run (fun gate event => check gate event = true) start (done ++ events) gate := by
  induction events generalizing done mid with
  | nil =>
      cases ran
      simpa using soFar
  | cons event rest inductionHypothesis =>
      simp only [runAll] at ran
      split at ran
      · rename_i passes
        obtain ⟨next, stepped, continued⟩ := Option.bind_eq_some_iff.mp ran
        have extended := inductionHypothesis (soFar.snoc passes stepped) continued
        simpa using extended
      · cases ran

end Gate
end DrogonPay.CallbackService
