import DrogonPay.Laws.Settled
import DrogonPay.Promises.Programs
import DrogonPay.Promises.Requests

/-!
Contract: what a create request is told when its key was used before.

Owns:
- `OwnSnapshot`: the response stored under a key is one for the hash of its row;
- `replay_agrees_iff`: two requests of which one is answered with the response of
  the other agree on all their fields iff they agree on those the hash leaves out;
- `refund_replayed`: the answer of a refund comes back with its body and without
  its error code.

Does not own: who holds a key, or for how long.
-/

namespace DrogonPay

open ReadCommitted IdempotencyService

/-! ## The stored response belongs to the hash -/

/-- A client response in the row was stored under the hash of the row. -/
def OwnSnapshot (row : Option IdempotencyRow) : Prop :=
  ∀ value requestHash response, row = some value →
    value.responseSnapshot = some (snapshotOf requestHash response) →
    value.requestHash = requestHash

theorem snapshotOf_inj {hash hash' : Bytes} {response response' : Json}
    (same : snapshotOf hash response = snapshotOf hash' response') :
    hash = hash' ∧ response = response' := by
  simpa [snapshotOf, Json.object] using same

theorem ReservationAfter.ownSnapshot {key : Bytes} {st : Stmt} {res : st.Res}
    {old new : Option IdempotencyRow} (after : ReservationAfter key st res old new)
    (stores : ∀ key hash snapshot, st = .saveSnapshot key hash snapshot →
      ∃ response, snapshot = snapshotOf hash response)
    (finalizes : ∀ key ownerToken snapshot, st = .finalizeReservation key ownerToken snapshot →
      Unlike snapshot)
    (own : OwnSnapshot old) : OwnSnapshot new := by
  intro value requestHash response isNew stored
  cases after with
  | same _ => exact own value requestHash response isNew stored
  | reserved =>
      cases isNew
      cases stored
  | @saved hash snapshot row isHash =>
      cases isNew
      obtain ⟨written, rfl⟩ := stores _ _ _ rfl
      have same := snapshotOf_inj (Option.some.inj stored)
      exact isHash.trans same.1
  | @finalized ownerToken snapshot row owned =>
      cases isNew
      exact absurd (Option.some.inj stored) (finalizes _ _ _ rfl _ _)
  | cleared _ _ => cases isNew
  | dropped _ => cases isNew
  | purged _ => cases isNew

theorem idempotencyColumn_ownSnapshot {ok : PaySys → PayEvent → Prop} :
    idempotencyColumn.Keeps (fun _ _ old new => OwnSnapshot old → OwnSnapshot new)
      (fun s event => ok s event ∧ s.Obliged payContract) where
  refl _ _ _ := id
  trans _ _ _ _ _ first second := second ∘ first
  later := id
  onDb meets runs key := by
    obtain ⟨env, _, result⟩ := runs.result
    have promised := runs.issued (meets.2 _ (List.mem_of_getElem? runs.proc))
    refine (reservation_after result key).ownSnapshot ?_ ?_
    · rintro _ _ _ rfl
      exact promised
    · rintro _ _ _ rfl
      exact promised
  onTxn meets runs key := by
    obtain ⟨env, _, result⟩ := runs.result
    have promised := runs.issued (meets.2 _ (List.mem_of_getElem? runs.proc))
    refine (reservation_after result key).ownSnapshot ?_ ?_
    · rintro _ _ _ rfl
      exact promised
    · rintro _ _ _ rfl
      exact promised

/-- The row a request finds under its key holds a response for the hash it was
reserved with. -/
theorem Run.found_ownSnapshot {cfg : Config} {ok : PaySys → PayEvent → Prop}
    {events : List PayEvent} {s : PaySys} (run : PayRun cfg ok events s) {p : PayProc}
    (member : p ∈ s.procs) {key : Bytes} {row : IdempotencyRow}
    (found : Saw p.log (.findLiveIdempotency key) (some row)) : OwnSnapshot (some row) := by
  have obliged : PayRun cfg (fun s event => ok s event ∧ s.Obliged payContract) events s :=
    run.with_invariant fun run => run.obliged (verified_serve cfg)
  obtain ⟨seen, env, result, own⟩ :=
    obliged.column_saw (P := fun _ row => OwnSnapshot row) idempotencyColumn_ownSnapshot
      (fun _ _ _ _ isSome => by cases isSome) member found
  have answered := Option.some.inj result
  obtain ⟨isRow, _⟩ := Option.filter_eq_some_iff.mp answered
  have holds := own key
  rw [show idempotencyColumn.read seen key = some row from isRow] at holds
  exact holds

/-! ## Replays -/

/-- The second process found under the key a response that the first one
stored. -/
def Finds (key : Bytes) (first second : PayProc) : Prop :=
  ∃ requestHash snapshot row, Saw first.log (.saveSnapshot key requestHash snapshot) true ∧
    Saw second.log (.findLiveIdempotency key) (some row) ∧ row.responseSnapshot = some snapshot

/-- The second process was answered with the response of the first. -/
def Replays (key : Bytes) (first second : PayProc) : Prop :=
  Finds key first second ∧ ∃ out, .replied out ∈ second.log ∧ out.error = none

section Pairs

variable {cfg : Config} {ok : PaySys → PayEvent → Prop} {events : List PayEvent} {s : PaySys}
  {first second : PayProc} {request request' : Request} {key requestHash requestHash' : Bytes}

/-- A request that is not refused has the hash of the row it found. -/
theorem hash_of_told {row : IdempotencyRow} {out : Reply} (told : Told requestHash (some row) out)
    (accepted : out.error = none) : row.requestHash = requestHash := by
  by_contra different
  have refused : IdempotencyService.heard requestHash (some row) = some .Conflict := by
    simp [IdempotencyService.heard, verdict, different]
  rw [Told, refused] at told
  exact told accepted

/-- Both requests have the hash of the row. -/
theorem Replays.same_hash (run : PayRun cfg ok events s) (firstRuns : first ∈ s.procs)
    (secondRuns : second ∈ s.procs) (sent : Owner first.log request)
    (sentLater : Owner second.log request') (keyed : key ≠ [])
    (isKeyed : request.keyed cfg = some (key, requestHash))
    (isKeyed' : request'.keyed cfg = some (key, requestHash')) (replays : Replays key first second) :
    requestHash = requestHash' := by
  obtain ⟨⟨hash, snapshot, row, saved, found, isSnapshot⟩, out, said, accepted⟩ := replays
  obtain ⟨_, isHash, response, rfl, _, _⟩ :=
    (Run.tells_stored run firstRuns sent isKeyed keyed).saves key hash snapshot true saved
  have told := (Run.tells_stored run secondRuns sentLater isKeyed' keyed).finds key _ out found said
  have own := Run.found_ownSnapshot run secondRuns found row requestHash response rfl isSnapshot
  exact own.symm.trans (hash_of_told told accepted)

end Pairs

/-! ## Which fields agree -/

/-- The object whose digest is the hash of a create request. -/
def Request.hashed : Request → Option Json
  | .createPayment request _ _ _ =>
      some (Json.object [("amount", .str request.amount), ("currency", .str request.currency),
        ("description", .str request.description), ("order_no", .str request.orderNo)])
  | .createQRPayment request _ _ =>
      (PaymentService.readQrRequest request).map fun qr =>
        Json.object [("amount", .str qr.amount), ("buyer_id", .str qr.buyerId),
          ("channel", .str qr.channel),
          ("currency", .str ((PaymentService.normalizeQrCurrency qr.requestedCurrency).getD
            qr.requestedCurrency)),
          ("notify_url", .str qr.notifyUrl), ("order_no", .str qr.orderNo),
          ("subject", .str qr.subject), ("time_expire", .str qr.timeExpire),
          ("user_id", .int qr.userId)]
  | .createRefund request _ _ =>
      some (Json.object [("amount", .str request.amount), ("order_no", .str request.orderNo),
        ("reason", .str request.reason)])
  | _ => none

/-- The digest does not map the two requests' objects to one text. -/
def CollisionFree (cfg : Config) (request request' : Request) : Prop :=
  ∀ object object', request.hashed = some object → request'.hashed = some object' →
    cfg.digest object = cfg.digest object' → object = object'

theorem Request.keyed_hashed {cfg : Config} {request : Request} {key requestHash : Bytes}
    (isKeyed : request.keyed cfg = some (key, requestHash)) :
    ∃ object, request.hashed = some object ∧ cfg.digest object = requestHash := by
  cases request with
  | createPayment request idempotencyKey paymentNo now =>
      cases isKeyed
      exact ⟨_, rfl, rfl⟩
  | createQRPayment request paymentNo now =>
      obtain ⟨qr, read, same⟩ := Option.map_eq_some_iff.mp isKeyed
      cases same
      exact ⟨_, by rw [Request.hashed, read]; rfl, rfl⟩
  | createRefund request idempotencyKey uuid =>
      cases isKeyed
      exact ⟨_, rfl, rfl⟩
  | _ => cases isKeyed

/-- A QR request with the currency it is booked in. -/
def PaymentService.QrRequest.booked (qr : QrRequest) : QrRequest :=
  { qr with
    requestedCurrency := (normalizeQrCurrency qr.requestedCurrency).getD qr.requestedCurrency }

/-- The requests agree on every field that reaches a row or the channel. -/
def Request.Agrees : Request → Request → Prop
  | .createPayment request _ _ _, .createPayment request' _ _ _ => request = request'
  | .createQRPayment request _ _, .createQRPayment request' _ _ =>
      (PaymentService.readQrRequest request).map (·.booked) =
        (PaymentService.readQrRequest request').map (·.booked)
  | .createRefund request _ _, .createRefund request' _ _ => request = request'
  | _, _ => False

/-- The requests agree on the fields that their hash leaves out. -/
def Request.AgreesUnhashed : Request → Request → Prop
  | .createPayment request _ _ _, .createPayment request' _ _ _ =>
      request.userId = request'.userId ∧ request.channel = request'.channel ∧
        request.notifyUrl = request'.notifyUrl ∧ request.timeExpire = request'.timeExpire ∧
        request.attach = request'.attach ∧ request.sceneInfo = request'.sceneInfo
  | .createQRPayment request _ _, .createQRPayment request' _ _ =>
      request.isMember (ascii "buyer_id") = request'.isMember (ascii "buyer_id")
  | .createRefund request _ _, .createRefund request' _ _ =>
      request.paymentNo = request'.paymentNo ∧ request.refundNo = request'.refundNo ∧
        request.notifyUrl = request'.notifyUrl ∧ request.fundsAccount = request'.fundsAccount
  | _, _ => False

theorem PaymentService.hasBuyerId_of_read {request : Json} {qr : QrRequest}
    (read : readQrRequest request = some qr) :
    qr.hasBuyerId = request.isMember (ascii "buyer_id") := by
  simp only [readQrRequest, Option.bind_eq_bind, Option.bind_eq_some_iff, Option.pure_def] at read
  obtain ⟨_, _, _, _, _, _, _, _, _, _, _, _, read⟩ := read
  split at read
  · simp only [Option.bind_eq_some_iff, Option.some.injEq] at read
    obtain ⟨_, _, _, _, _, _, _, _, rfl⟩ := read
    rfl
  · simp only [Option.bind_eq_some_iff, Option.some.injEq] at read
    obtain ⟨_, _, _, _, _, _, _, _, rfl⟩ := read
    rfl

/-- Requests with one hashed object agree on the hashed fields. -/
theorem Request.agrees_iff {request request' : Request} {object : Json} {cfg : Config}
    {key requestHash requestHash' : Bytes} (isHashed : request.hashed = some object)
    (isHashed' : request'.hashed = some object)
    (isKeyed : request.keyed cfg = some (key, requestHash))
    (isKeyed' : request'.keyed cfg = some (key, requestHash')) :
    request.Agrees request' ↔ request.AgreesUnhashed request' := by
  have same := isHashed.trans isHashed'.symm
  cases request with
  | createPayment request idempotencyKey paymentNo now =>
      cases request' with
      | createPayment request' idempotencyKey' paymentNo' now' =>
          obtain ⟨orderNo, amount, currency, description⟩ := request
          obtain ⟨orderNo', amount', currency', description'⟩ := request'
          simp [Request.hashed, Json.object] at same
          simp [Request.Agrees, Request.AgreesUnhashed, same]
          tauto
      | _ => exact Iff.rfl
  | createQRPayment request paymentNo now =>
      cases request' with
      | createQRPayment request' paymentNo' now' =>
          obtain ⟨qr, read, sameKey⟩ := Option.map_eq_some_iff.mp isKeyed
          obtain ⟨qr', read', sameKey'⟩ := Option.map_eq_some_iff.mp isKeyed'
          have presence := PaymentService.hasBuyerId_of_read read
          have presence' := PaymentService.hasBuyerId_of_read read'
          have isKey := (Prod.ext_iff.mp sameKey).1.trans (Prod.ext_iff.mp sameKey').1.symm
          obtain ⟨orderNo, amount, channel, subject, timeExpire, userId, currency, key, notifyUrl,
            buyerId, hasBuyerId⟩ := qr
          obtain ⟨orderNo', amount', channel', subject', timeExpire', userId', currency', key',
            notifyUrl', buyerId', hasBuyerId'⟩ := qr'
          simp [Request.hashed, Json.object, read, read'] at same
          simp [Request.Agrees, Request.AgreesUnhashed, PaymentService.QrRequest.booked, read, read',
            ← presence, ← presence', same]
          exact fun _ => isKey
      | _ => exact Iff.rfl
  | createRefund request idempotencyKey uuid =>
      cases request' with
      | createRefund request' idempotencyKey' uuid' =>
          obtain ⟨orderNo, paymentNo, refundNo, amount, reason, notifyUrl, fundsAccount⟩ := request
          obtain ⟨orderNo', paymentNo', refundNo', amount', reason', notifyUrl', fundsAccount'⟩ :=
            request'
          simp [Request.hashed, Json.object] at same
          simp [Request.Agrees, Request.AgreesUnhashed, same]
      | _ => exact Iff.rfl
  | _ => cases isHashed

/-- A request that is answered with the response of another one agrees with it on
all fields iff they agree on those the hash leaves out. -/
theorem replay_agrees_iff {cfg : Config} {ok : PaySys → PayEvent → Prop} {events : List PayEvent}
    {s : PaySys} (run : PayRun cfg ok events s) {first second : PayProc}
    (firstRuns : first ∈ s.procs) (secondRuns : second ∈ s.procs) {request request' : Request}
    (sent : Owner first.log request) (sentLater : Owner second.log request')
    (collisionFree : CollisionFree cfg request request') {key requestHash requestHash' : Bytes}
    (keyed : key ≠ []) (isKeyed : request.keyed cfg = some (key, requestHash))
    (isKeyed' : request'.keyed cfg = some (key, requestHash')) (replays : Replays key first second) :
    request.Agrees request' ↔ request.AgreesUnhashed request' := by
  have same := replays.same_hash run firstRuns secondRuns sent sentLater keyed isKeyed isKeyed'
  obtain ⟨object, isHashed, isDigest⟩ := Request.keyed_hashed isKeyed
  obtain ⟨object', isHashed', isDigest'⟩ := Request.keyed_hashed isKeyed'
  obtain rfl : object = object' :=
    collisionFree object object' isHashed isHashed' (isDigest.trans (same.trans isDigest'.symm))
  exact Request.agrees_iff isHashed isHashed' isKeyed isKeyed'

/-! Two payments of one order under one key, the second for another user. -/

/-- The responses the log stores under the key. -/
def storedUnder (key : Bytes) (log : List PayEntry) : List (Bytes × Json) :=
  log.filterMap fun
    | .ran (.saveSnapshot key' requestHash snapshot) (done : Bool) =>
        if done && key' = key then some (requestHash, snapshot) else none
    | _ => none

/-- The rows the log finds under the key. -/
def foundUnder (key : Bytes) (log : List PayEntry) : List IdempotencyRow :=
  log.filterMap fun
    | .ran (.findLiveIdempotency key') (row : Option IdempotencyRow) =>
        if key' = key then row else none
    | _ => none

def finds (key : Bytes) (first second : PayProc) : Bool :=
  (storedUnder key first.log).any fun stored =>
    (foundUnder key second.log).any fun row => row.responseSnapshot.any stored.2.same

/-- The answers the log gives. -/
def repliesOf (log : List PayEntry) : List Reply :=
  log.filterMap fun
    | .replied out => some out
    | _ => none

theorem mem_repliesOf {log : List PayEntry} {out : Reply} :
    out ∈ repliesOf log ↔ .replied out ∈ log := by
  simp only [repliesOf, List.mem_filterMap]
  constructor
  · rintro ⟨entry, member, isReply⟩
    cases entry <;> simp at isReply
    rwa [← isReply]
  · exact fun member => ⟨_, member, rfl⟩

theorem finds_sound {key : Bytes} {first second : PayProc} (holds : finds key first second = true) :
    Finds key first second := by
  simp only [finds, List.any_eq_true, Option.any_eq_true] at holds
  obtain ⟨⟨requestHash, snapshot⟩, stored, row, found, snapshot', isSnapshot, same⟩ := holds
  obtain rfl := Json.eq_of_same _ _ same
  refine ⟨requestHash, snapshot, row, ?_, ?_, isSnapshot⟩
  · obtain ⟨entry, member, isStored⟩ := List.mem_filterMap.mp stored
    split at isStored
    · simp only [Option.ite_none_right_eq_some, Bool.and_eq_true, decide_eq_true_eq,
        Option.some.injEq, Prod.mk.injEq] at isStored
      obtain ⟨⟨isDone, rfl⟩, rfl, rfl⟩ := isStored
      rw [isDone] at member
      exact member
    · cases isStored
  · obtain ⟨entry, member, isFound⟩ := List.mem_filterMap.mp found
    split at isFound
    · simp only [Option.ite_none_right_eq_some] at isFound
      obtain ⟨rfl, rfl⟩ := isFound
      exact member
    · cases isFound

/-- A payment of ten yuan under a key is offered and answered, and the same is
asked once more under the key, for this user. -/
def paidTwiceUnderKey (userId : Int) : List PayEvent :=
  [.spawn (.createPayment tenYuanOnWechat (ascii "K") (drawn "p") 0)] ++ steps 0 5 1 ++
    [.answer 0 codeUrl] ++ steps 0 3 1 ++
    [.spawn (.createPayment { tenYuanOnWechat with userId } (ascii "K") (drawn "q") 0)] ++
    steps 1 2 2

/-- Both processes are payments under the key with one hashed object, and the
second is answered with the response of the first. -/
def replaysPayment (s : PaySys) : Bool :=
  match s.procs with
  | [first, second] =>
      match first.log.head?, second.log.head? with
      | some (.spawned (.createPayment request key _ _)),
        some (.spawned (.createPayment request' key' _ _)) =>
          key = ascii "K" && key' = ascii "K" && request.amount = request'.amount &&
            request.currency = request'.currency && request.description = request'.description &&
            request.orderNo = request'.orderNo && request.userId = 1 &&
            finds (ascii "K") first second && (repliesOf second.log).any (·.error.isNone)
      | _, _ => false
  | _ => false

def userOfSecond (s : PaySys) : Option Int :=
  match s.procs with
  | [_, second] =>
      match second.log.head? with
      | some (.spawned (.createPayment request _ _ _)) => some request.userId
      | _ => none
  | _ => none

/-- What `replaysPayment` evaluates, in terms of the law. -/
theorem replaysPayment_sound {s : PaySys} {userId : Int} (holds : replaysPayment s = true)
    (isUser : userOfSecond s = some userId) (cfg : Config) :
    ∃ first ∈ s.procs, ∃ second ∈ s.procs, ∃ request request' paymentNo paymentNo' now now',
      Owner first.log (.createPayment request (ascii "K") paymentNo now) ∧
      Owner second.log (.createPayment request' (ascii "K") paymentNo' now') ∧
      CollisionFree cfg (.createPayment request (ascii "K") paymentNo now)
        (.createPayment request' (ascii "K") paymentNo' now') ∧
      Replays (ascii "K") first second ∧ request.userId = 1 ∧ request'.userId = userId := by
  unfold replaysPayment at holds
  split at holds
  · rename_i first second isProcs
    split at holds
    · rename_i request key paymentNo now request' key' paymentNo' now' sent sentLater
      simp only [Bool.and_eq_true, decide_eq_true_eq] at holds
      obtain ⟨⟨⟨⟨⟨⟨⟨⟨rfl, rfl⟩, amount⟩, currency⟩, description⟩, orderNo⟩, first1⟩, found⟩, said⟩ :=
        holds
      simp only [userOfSecond, isProcs, sentLater, Option.some.injEq] at isUser
      obtain ⟨out, isReply, accepted⟩ := List.any_eq_true.mp said
      refine ⟨first, by simp [isProcs], second, by simp [isProcs], request, request', paymentNo,
        paymentNo', now, now', sent, sentLater, ?_, ⟨finds_sound found, out,
          mem_repliesOf.mp isReply, by simpa using accepted⟩, first1, isUser⟩
      rintro object object' isObject isObject' _
      cases isObject
      cases isObject'
      simp [amount, currency, description, orderNo]
    · cases holds
  · cases holds

theorem replay_agrees_for_the_same_user :
    ∃ s, PayRun shop (fun _ _ => True) (paidTwiceUnderKey 1) s ∧
      ∃ first ∈ s.procs, ∃ second ∈ s.procs, ∃ request request',
        Owner first.log request ∧ Owner second.log request' ∧ Replays (ascii "K") first second ∧
        (request.Agrees request' ↔ request.AgreesUnhashed request') := by
  obtain ⟨s, run, holds⟩ := replay_run (fun _ _ => true) (paidTwiceUnderKey 1)
    (fun s => replaysPayment s && userOfSecond s = some 1) (by decide +kernel)
  simp only [Bool.and_eq_true, decide_eq_true_eq] at holds
  obtain ⟨first, firstRuns, second, secondRuns, request, request', _, _, _, _, sent, sentLater,
    collisionFree, replays, _, _⟩ := replaysPayment_sound holds.1 holds.2 shop
  exact ⟨s, run.mono fun _ _ _ => trivial, first, firstRuns, second, secondRuns, _, _, sent,
    sentLater, replays, replay_agrees_iff run firstRuns secondRuns sent sentLater collisionFree
      (by decide) rfl rfl replays⟩

theorem replayed_for_another_user :
    ¬ ∀ (cfg : Config) (events : List PayEvent) (s : PaySys) (first second : PayProc)
      (request request' : Request) (key requestHash requestHash' : Bytes),
      PayRun cfg (fun _ _ => True) events s → first ∈ s.procs → second ∈ s.procs →
      Owner first.log request → Owner second.log request' → CollisionFree cfg request request' →
      key ≠ [] → request.keyed cfg = some (key, requestHash) →
      request'.keyed cfg = some (key, requestHash') → Replays key first second →
      request.Agrees request' := by
  intro claim
  obtain ⟨s, run, holds⟩ := replay_run (fun _ _ => true) (paidTwiceUnderKey 2)
    (fun s => replaysPayment s && userOfSecond s = some 2) (by decide +kernel)
  simp only [Bool.and_eq_true, decide_eq_true_eq] at holds
  obtain ⟨first, firstRuns, second, secondRuns, request, request', _, _, _, _, sent, sentLater,
    collisionFree, replays, isUser, isUser'⟩ := replaysPayment_sound holds.1 holds.2 shop
  have agrees := claim shop _ s first second _ _ (ascii "K") _ _ (run.mono fun _ _ _ => trivial)
    firstRuns secondRuns sent sentLater collisionFree (by decide) rfl rfl replays
  have same : request = request' := agrees
  rw [← same, isUser] at isUser'
  cases isUser'

/-! ## Refunds over HTTP -/

/-- `error.value()`. -/
def ErrorCode.value : ErrorCode → Nat
  | .pay code => code
  | .system code => code
  | .ioError => 5
  | .invalidArgument => 22

def mapErrorToHttpStatus (errorCode : Nat) : Nat :=
  if errorCode ∈ [1404, 1004] then 404
  else if errorCode ∈ [1001, 1400, 400] then 400
  else if errorCode = 1409 then 409
  else if errorCode = 1501 then 503
  else if errorCode = 1502 then 502
  else 500

/-- The status `PayController::refund` answers with. -/
def Reply.httpStatus (reply : Reply) : Nat :=
  match reply.error with
  | none => 200
  | some error => mapErrorToHttpStatus error.value

section Refunds

variable {cfg : Config} {ok : PaySys → PayEvent → Prop} {events : List PayEvent} {s : PaySys}
  {first second : PayProc} {request : CreateRefundRequest} {key : Bytes} {uuid uuid' : Drawn}
  {out out' : Reply}

/-- A request that finds a response stored under its hash is told that
response. -/
theorem told_snapshotOf {requestHash : Bytes} {row : IdempotencyRow} {response : Json}
    (isHash : row.requestHash = requestHash)
    (isSnapshot : row.responseSnapshot = some (snapshotOf requestHash response))
    (notNull : response.isNull = false) (told : Told requestHash (some row) out) :
    out = ⟨response, none⟩ := by
  have read : (snapshotOf requestHash response).at? (ascii "response") = some response := by
    have names : ascii "request_hash" ≠ ascii "response" := by decide
    simp [snapshotOf, Json.at?, Json.get, Json.object, Json.lookup, names]
  have replay : IdempotencyService.heard requestHash (some row) = some (.Replay response) := by
    simp [IdempotencyService.heard, verdict, isHash, isSnapshot, read, notNull]
  rw [Told, replay] at told
  exact told

/-- What an identical refund under the same key says. -/
theorem refund_told (run : PayRun cfg ok events s) (firstRuns : first ∈ s.procs)
    (secondRuns : second ∈ s.procs) (sent : Owner first.log (.createRefund request key uuid))
    (sentLater : Owner second.log (.createRefund request key uuid')) (keyed : key ≠ [])
    (finds : Finds key first second) (said : .replied out ∈ first.log)
    (saidLater : .replied out' ∈ second.log) :
    out' = ⟨out.body, none⟩ := by
  obtain ⟨hash, snapshot, row, saved, found, isSnapshot⟩ := finds
  obtain ⟨_, rfl, response, rfl, notNull, answers⟩ :=
    (Run.tells_stored run firstRuns sent rfl keyed).saves key hash snapshot true saved
  have told := (Run.tells_stored run secondRuns sentLater rfl keyed).finds key _ out' found saidLater
  have own := Run.found_ownSnapshot run secondRuns found row _ response rfl isSnapshot
  have same : out' = ⟨response, none⟩ := told_snapshotOf own isSnapshot notNull told
  rw [same, answers out said]

/-- An identical refund under the same key that finds the response of the first
is answered with its body, and without an error code whatever the first one had. -/
theorem refund_replayed (run : PayRun cfg ok events s) (firstRuns : first ∈ s.procs)
    (secondRuns : second ∈ s.procs) (sent : Owner first.log (.createRefund request key uuid))
    (sentLater : Owner second.log (.createRefund request key uuid')) (keyed : key ≠ [])
    (finds : Finds key first second) (said : .replied out ∈ first.log)
    (saidLater : .replied out' ∈ second.log) :
    out'.body = out.body ∧ out'.error = none ∧ out'.httpStatus = 200 := by
  rw [refund_told run firstRuns secondRuns sent sentLater keyed finds said saidLater]
  exact ⟨rfl, rfl, rfl⟩

end Refunds

/-! A refund the channel refuses is stored, and asked for once more. -/

def notConfigured : ChannelAnswer := ⟨.null, ascii "wechat pay config missing"⟩

/-- Four of ten yuan are asked back, the channel refuses, and the request is
sent again under its key. -/
def refusedRefundTwice : List PayEvent :=
  paidOnWechat ++ [.spawn (.createRefund (refundOf "r" "4.00") (ascii "K") (drawn "u"))] ++
    steps 2 11 3 ++ [.answer 2 notConfigured] ++ steps 2 1 3 ++ steps 3 1 3 ++
    [.spawn (.createRefund (refundOf "r" "4.00") (ascii "K") (drawn "v"))] ++ steps 4 3 4

deriving instance DecidableEq for CreateRefundRequest

/-- The third and the last process are the refund under the key, and the last one
finds the response of the third, which was an error. -/
def replaysRefund (s : PaySys) : Bool :=
  match s.procs with
  | [_, _, first, _, second] =>
      match first.log.head?, second.log.head? with
      | some (.spawned (.createRefund request key _)),
        some (.spawned (.createRefund request' key' _)) =>
          key = ascii "K" && key' = ascii "K" && request = request' &&
            finds (ascii "K") first second && (repliesOf first.log).any (·.error.isSome) &&
            !(repliesOf second.log).isEmpty
      | _, _ => false
  | _ => false

theorem replaysRefund_sound {s : PaySys} (holds : replaysRefund s = true) :
    ∃ first ∈ s.procs, ∃ second ∈ s.procs, ∃ request uuid uuid' out out',
      Owner first.log (.createRefund request (ascii "K") uuid) ∧
      Owner second.log (.createRefund request (ascii "K") uuid') ∧ Finds (ascii "K") first second ∧
      .replied out ∈ first.log ∧ .replied out' ∈ second.log ∧ out.error ≠ none := by
  unfold replaysRefund at holds
  split at holds
  · rename_i first third second isProcs
    split at holds
    · rename_i request key uuid request' key' uuid' sent sentLater
      simp only [Bool.and_eq_true, decide_eq_true_eq] at holds
      obtain ⟨⟨⟨⟨⟨rfl, rfl⟩, rfl⟩, found⟩, said⟩, saidLater⟩ := holds
      obtain ⟨out, isReply, failed⟩ := List.any_eq_true.mp said
      cases isReplies : repliesOf second.log with
      | nil => simp [isReplies] at saidLater
      | cons out' rest =>
          have isReply' : out' ∈ repliesOf second.log := by simp [isReplies]
          exact ⟨first, by simp [isProcs], second, by simp [isProcs], request, uuid, uuid', out,
            out', sent, sentLater, finds_sound found, mem_repliesOf.mp isReply,
            mem_repliesOf.mp isReply', by intro isNone; simp [isNone] at failed⟩
    · cases holds
  · cases holds

theorem refund_replayed_after_refusal :
    ∃ s, PayRun shop (fun _ _ => True) refusedRefundTwice s ∧
      ∃ first ∈ s.procs, ∃ second ∈ s.procs, ∃ out out', .replied out ∈ first.log ∧
        .replied out' ∈ second.log ∧ out.error ≠ none ∧
        out'.body = out.body ∧ out'.error = none ∧ out'.httpStatus = 200 := by
  obtain ⟨s, run, holds⟩ := replay_run (fun _ _ => true) refusedRefundTwice replaysRefund
    (by decide +kernel)
  obtain ⟨first, firstRuns, second, secondRuns, request, _, _, out, out', sent, sentLater, finds,
    said, saidLater, failed⟩ := replaysRefund_sound holds
  exact ⟨s, run.mono fun _ _ _ => trivial, first, firstRuns, second, secondRuns, out, out', said,
    saidLater, failed, refund_replayed run firstRuns secondRuns sent sentLater (by decide) finds
      said saidLater⟩

theorem refusal_replayed_as_success :
    ¬ ∀ (cfg : Config) (events : List PayEvent) (s : PaySys) (first second : PayProc)
      (request : CreateRefundRequest) (key : Bytes) (uuid uuid' : Drawn) (out out' : Reply),
      PayRun cfg (fun _ _ => True) events s → first ∈ s.procs → second ∈ s.procs →
      Owner first.log (.createRefund request key uuid) →
      Owner second.log (.createRefund request key uuid') → key ≠ [] → Finds key first second →
      .replied out ∈ first.log → .replied out' ∈ second.log →
      out'.body = out.body ∧ out'.error = out.error ∧ out'.httpStatus = out.httpStatus := by
  intro claim
  obtain ⟨s, run, holds⟩ := replay_run (fun _ _ => true) refusedRefundTwice replaysRefund
    (by decide +kernel)
  obtain ⟨first, firstRuns, second, secondRuns, request, _, _, out, out', sent, sentLater, finds,
    said, saidLater, failed⟩ := replaysRefund_sound holds
  have faithful := claim shop _ s first second _ _ _ _ out out' (run.mono fun _ _ _ => trivial)
    firstRuns secondRuns sent sentLater (by decide) finds said saidLater
  have told := refund_told run firstRuns secondRuns sent sentLater (by decide) finds said saidLater
  rw [told] at faithful
  exact failed faithful.2.1.symm

end DrogonPay
