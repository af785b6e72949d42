import DrogonPay.Services.ReplayGuard

/-!
Contract: a delivery is let through to the database step once.

Owns:
- `NoReplay`, "no two deliveries with the same nonce and timestamp are let
  through";
- `isTimestampFresh_iff`, the timestamps the 64-bit comparison lets through;
- `recordedInWindow`, by which a nonce is recorded while its timestamp is fresh
  and less than a minute ahead of the clock;
- `no_replay`, for every run that meets it, and a run with a timestamp from the
  future that does not.

Does not own: the handlers behind the gate.
-/

namespace DrogonPay.CallbackService

/-- The same message, sent again. -/
def SameMessage (first second : Headers) : Prop :=
  first.nonce = second.nonce ∧ first.timestamp = second.timestamp

/-- No message with a nonce is let through twice. -/
def NoReplay (gate : Gate) : Prop :=
  gate.letThrough.Pairwise fun earlier later =>
    earlier.nonce ≠ [] → ¬ SameMessage earlier later

/-- When Redis answers for a delivery with a nonce, its timestamp is still fresh, and
less than 60 seconds ahead of the clock. -/
def recordedInWindow (gate : Gate) : GateEvent → Bool
  | .answer index =>
      (gate.waiting[index]?).all fun headers =>
        headers.nonce.isEmpty || ((isTimestampFresh gate.clock headers.timestamp).isNone &&
          (stollPrefixed headers.timestamp).all fun cbTime => cbTime < secondsOf gate.clock + 60)
  | _ => true

/-! ## Freshness -/

theorem stollPrefixed_range {text : Bytes} {cbTime : Int}
    (read : stollPrefixed text = some cbTime) : -(2 ^ 63) ≤ cbTime ∧ cbTime < 2 ^ 63 := by
  simp only [stollPrefixed, Option.ite_none_left_eq_some, Option.ite_none_right_eq_some,
    Option.some.injEq, Bool.and_eq_true, decide_eq_true_eq] at read
  obtain ⟨_, inRange, rfl⟩ := read
  exact inRange

/-- A clock that has not run over, in seconds. -/
theorem secondsOf_range (clock : Clock) :
    0 ≤ secondsOf clock ∧ secondsOf clock < 9223372037 := by
  have inRange := clock.isLt
  simp only [secondsOf]
  omega

/-- The comparison is made on 64 bits: besides the window it lets through the one
timestamp whose distance is the least `int64_t`. -/
theorem isTimestampFresh_iff {clock : Clock} {timestamp : Bytes} :
    isTimestampFresh clock timestamp = none ↔
      ∃ cbTime, stollPrefixed timestamp = some cbTime ∧
        ((secondsOf clock ≤ cbTime + kMaxSkewSeconds ∧ cbTime ≤ secondsOf clock + kMaxSkewSeconds) ∨
          secondsOf clock = cbTime + 2 ^ 63) := by
  unfold isTimestampFresh
  cases read : stollPrefixed timestamp with
  | none => simp
  | some cbTime =>
      obtain ⟨least, most⟩ := stollPrefixed_range read
      obtain ⟨started, bounded⟩ := secondsOf_range clock
      generalize secondsOf clock = now at started bounded
      have window : llabs (int64 (now - cbTime)) ≤ kMaxSkewSeconds ↔
          ((now ≤ cbTime + kMaxSkewSeconds ∧ cbTime ≤ now + kMaxSkewSeconds) ∨
            now = cbTime + 2 ^ 63) := by
        simp only [llabs, int64, kMaxSkewSeconds, Int.bmod_def, Nat.cast_pow, Nat.cast_ofNat]
        split_ifs <;> omega
      simp [window]

/-! ## Redis -/

section Redis

variable {redis redis' : Redis} {clock : Nat} {key : Bytes} {seconds : Nat}

/-- The expiry of a key only ever moves on. -/
theorem setNxEx_expiry {other : Bytes} {expiry : Nat} (entry : redis other = some expiry) :
    ∃ later, (setNxEx redis clock key seconds).1 other = some later ∧ expiry ≤ later := by
  unfold setNxEx
  split
  · exact ⟨expiry, entry, le_refl _⟩
  · rename_i expired
    by_cases isKey : other = key
    · subst isKey
      refine ⟨clock + seconds * 1000, by simp, ?_⟩
      rw [entry] at expired
      have lapsed : ¬ clock < expiry := by simpa using expired
      omega
    · exact ⟨expiry, by simp [isKey, entry], le_refl _⟩

theorem setNxEx_set (set : (setNxEx redis clock key seconds).2 = true) :
    (∀ expiry, redis key = some expiry → expiry ≤ clock) ∧
      (setNxEx redis clock key seconds).1 key = some (clock + seconds * 1000) := by
  unfold setNxEx at set ⊢
  split at set
  · cases set
  · rename_i expired
    rw [if_neg expired]
    refine ⟨fun expiry entry => ?_, by simp⟩
    rw [entry] at expired
    have lapsed : ¬ clock < expiry := by simpa using expired
    omega

/-- What `checkNonce` keeps of every other nonce. -/
theorem checkNonce_expiry (clock : Nat) (nonce : Bytes) {other : Bytes} {expiry : Nat}
    (entry : redis other = some expiry) :
    ∃ later, (checkNonce redis clock nonce).1 other = some later ∧ expiry ≤ later := by
  unfold checkNonce
  split
  · exact ⟨expiry, entry, le_refl _⟩
  · exact setNxEx_expiry entry

theorem checkNonce_tracked {nonce : Bytes} (tracked : nonce ≠ []) :
    checkNonce redis clock nonce = setNxEx redis clock (nonceKey nonce) kNonceSeconds := by
  rw [checkNonce, if_neg]
  simpa using tracked

end Redis

/-! ## The window -/

/-- The nonce of the message is held until its timestamp is stale. -/
def Held (redis : Redis) (headers : Headers) : Prop :=
  ∃ expiry, redis (nonceKey headers.nonce) = some expiry ∧
    ∀ clock : Clock, isTimestampFresh clock headers.timestamp = none → clock.val < expiry

theorem Held.checkNonce {redis : Redis} {headers : Headers} (held : Held redis headers)
    (clock : Nat) (nonce : Bytes) : Held (checkNonce redis clock nonce).1 headers := by
  obtain ⟨expiry, entry, holds⟩ := held
  obtain ⟨later, entry', grows⟩ := checkNonce_expiry clock nonce entry
  exact ⟨later, entry', fun clock fresh => (holds clock fresh).trans_le grows⟩

/-- A timestamp that is fresh now and less than a minute ahead is stale when an
entry that is set now expires. -/
theorem stale_of_expired {clock later : Clock} {timestamp : Bytes} {cbTime : Int}
    (read : stollPrefixed timestamp = some cbTime) (ahead : cbTime < secondsOf clock + 60)
    (fresh : isTimestampFresh clock timestamp = none)
    (still : isTimestampFresh later timestamp = none) :
    later.val < clock.val + kNonceSeconds * 1000 := by
  obtain ⟨now, isNow, inWindow⟩ := isTimestampFresh_iff.mp fresh
  obtain ⟨then', isThen, inWindow'⟩ := isTimestampFresh_iff.mp still
  obtain rfl : cbTime = now := Option.some.inj (read.symm.trans isNow)
  obtain rfl : cbTime = then' := Option.some.inj (read.symm.trans isThen)
  obtain ⟨started, bounded⟩ := secondsOf_range clock
  obtain ⟨started', bounded'⟩ := secondsOf_range later
  by_contra expired
  have apart : secondsOf clock + 360 ≤ secondsOf later := by
    simp only [secondsOf, kNonceSeconds] at expired ⊢
    omega
  simp only [kMaxSkewSeconds] at inWindow inWindow'
  omega

structure GateInv (gate : Gate) : Prop where
  held : ∀ headers ∈ gate.letThrough, headers.nonce ≠ [] → Held gate.redis headers
  noReplay : NoReplay gate

/-- What Redis answers keeps the invariant. -/
theorem GateInv.answer {gate gate' : Gate} {index : Nat} (inv : GateInv gate)
    (meets : recordedInWindow gate (.answer index) = true)
    (stepped : gate.step (.answer index) = some gate') : GateInv gate' := by
  obtain ⟨headers, redis, firstSight, found, checked, rfl⟩ := Gate.step_answer stepped
  have kept : ∀ earlier ∈ gate.letThrough, earlier.nonce ≠ [] → Held redis earlier := by
    intro earlier member tracked
    have still := (inv.held earlier member tracked).checkNonce gate.clock headers.nonce
    rwa [checked] at still
  cases firstSight with
  | false => exact ⟨kept, inv.noReplay⟩
  | true =>
      have inWindow (tracked : headers.nonce ≠ []) :
          isTimestampFresh gate.clock headers.timestamp = none ∧
            ∀ cbTime, stollPrefixed headers.timestamp = some cbTime →
              cbTime < secondsOf gate.clock + 60 := by
        simpa [recordedInWindow, found, tracked, Option.all_eq_true] using meets
      have recorded (tracked : headers.nonce ≠ []) :
          (∀ expiry, gate.redis (nonceKey headers.nonce) = some expiry → expiry ≤ gate.clock) ∧
            redis (nonceKey headers.nonce) = some (gate.clock + kNonceSeconds * 1000) := by
        rw [checkNonce_tracked tracked] at checked
        have set := setNxEx_set (congrArg Prod.snd checked)
        rwa [checked] at set
      refine ⟨?_, ?_⟩
      · intro other member tracked
        rcases List.mem_append.mp member with old | new
        · exact kept other old tracked
        · -- the nonce that is recorded now outlives the window of its timestamp
          rw [List.mem_singleton.mp new] at tracked ⊢
          obtain ⟨fresh, ahead⟩ := inWindow tracked
          refine ⟨_, (recorded tracked).2, fun later still => ?_⟩
          obtain ⟨cbTime, read, _⟩ := isTimestampFresh_iff.mp fresh
          exact stale_of_expired read (ahead cbTime read) fresh still
      · refine List.pairwise_append.mpr ⟨inv.noReplay, List.pairwise_singleton _ _, ?_⟩
        rintro earlier member later isLast tracked ⟨sameNonce, sameTime⟩
        rw [List.mem_singleton.mp isLast] at sameNonce sameTime
        -- the earlier delivery's nonce is still held while this timestamp is fresh
        obtain ⟨expiry, entry, holds⟩ := inv.held earlier member tracked
        rw [sameNonce] at entry tracked
        rw [sameTime] at holds
        have held := holds gate.clock (inWindow tracked).1
        have lapsed := (recorded tracked).1 expiry entry
        omega

theorem GateInv.step {gate gate' : Gate} {event : GateEvent} (inv : GateInv gate)
    (meets : recordedInWindow gate event = true) (stepped : gate.step event = some gate') :
    GateInv gate' := by
  cases event with
  | tick milliseconds =>
      simp only [Gate.step] at stepped
      split_ifs at stepped
      cases stepped
      exact ⟨inv.held, inv.noReplay⟩
  | deliver headers =>
      simp only [Gate.step] at stepped
      split at stepped
      · cases stepped
        exact inv
      · cases stepped
        exact ⟨inv.held, inv.noReplay⟩
  | answer index => exact inv.answer meets stepped

/-- No message is let through twice in a run whose nonces are recorded in the
window of their timestamps. -/
theorem no_replay {start : Clock} {events : List GateEvent} {gate : Gate}
    (run : Gate.Run (fun gate event => recordedInWindow gate event = true) (Gate.initial start)
      events gate) : NoReplay gate := by
  have inv : GateInv gate := by
    induction run with
    | nil => exact ⟨by simp [Gate.initial], by simp [NoReplay, Gate.initial]⟩
    | snoc _ meets stepped inductionHypothesis => exact inductionHypothesis.step meets stepped
  exact inv.noReplay

/-! ## Two deliveries of one message -/

/-- A message that was signed at second 1000. -/
def signedAtThousand (kind : Kind) : Headers := ⟨kind, ascii "1000", ascii "n"⟩

/-- The message arrives fifty seconds early, again 250 seconds later, and again
when its nonce has expired. -/
def sentThrice : List GateEvent :=
  [.deliver (signedAtThousand .payment), .answer 0, .tick 250000,
    .deliver (signedAtThousand .refund), .answer 0, .tick 110000,
    .deliver (signedAtThousand .payment)]

theorem no_replay_thrice :
    ∃ gate, Gate.Run (fun gate event => recordedInWindow gate event = true) (Gate.initial ⟨950000, by decide⟩)
        sentThrice gate ∧ gate.letThrough = [signedAtThousand .payment] ∧ gate.waiting = [] ∧
      NoReplay gate := by
  have passed : ((Gate.initial ⟨950000, by decide⟩).runAll recordedInWindow sentThrice).any
      (fun gate => gate.letThrough = [signedAtThousand .payment] && gate.waiting = []) = true := by
    decide +kernel
  obtain ⟨gate, ran, holds⟩ := (Option.any_eq_true _ _).mp passed
  rw [Bool.and_eq_true, decide_eq_true_eq, decide_eq_true_eq] at holds
  have run := Gate.Run.of_runAll .nil ran
  exact ⟨gate, run, holds.1, holds.2, no_replay run⟩

/-- The message arrives 300 seconds early, and again when its nonce has expired. -/
def sentFromTheFuture : List GateEvent :=
  [.deliver (signedAtThousand .payment), .answer 0, .tick 360000,
    .deliver (signedAtThousand .payment), .answer 0]

theorem replayed_from_the_future :
    ¬ ∀ (start : Clock) (events : List GateEvent) (gate : Gate),
      Gate.Run (fun _ _ => True) (Gate.initial start) events gate → NoReplay gate := by
  intro claim
  have twice : ((Gate.initial ⟨700000, by decide⟩).runAll (fun _ _ => true)
      sentFromTheFuture).any (fun gate => gate.letThrough =
        [signedAtThousand .payment, signedAtThousand .payment]) = true := by decide +kernel
  obtain ⟨gate, ran, holds⟩ := (Option.any_eq_true _ _).mp twice
  have passed := of_decide_eq_true holds
  have run := (Gate.Run.of_runAll .nil ran).mono fun _ _ _ => trivial
  have once := claim _ _ gate run
  rw [NoReplay, passed] at once
  exact List.rel_of_pairwise_cons once (List.mem_singleton.mpr rfl) (by decide) ⟨rfl, rfl⟩

end DrogonPay.CallbackService
