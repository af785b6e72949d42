import DrogonPay.Model.Signature

/-!
Contract: `IdempotencyService.cc`, and the reply helpers the services share.

Owns: the reservation protocol of the request paths (`checkDatabase`,
`updateResult`, `clearReservation`) and `purgeExpired`, in continuation-passing
form as the source has it.

Does not own: the reservations of the notification handlers.
-/

namespace DrogonPay

open ReadCommitted

/-- Call the request's callback and end. -/
def answer (body : Json) (error : Option ErrorCode) : PayProg :=
  .reply ⟨body, error⟩ .done

/-- `{"code": .., "message": ..}`. -/
def message (code : Nat) (text : Bytes) : Json :=
  Json.object [("code", .int code), ("message", .str text)]

/-- Use a value whose computation may have thrown; an exception inside a
callback ends the request without an answer. -/
def orThrow {α : Type} (value : Option α) (next : α → PayProg) : PayProg :=
  match value with
  | some a => next a
  | none => .done

namespace IdempotencyService

inductive CheckResult where
  | Started
  | Replay (cachedResult : Json)
  | InProgress
  | Conflict
  | Error

/-- What the row of a taken key says about a request with this hash. -/
def readReservation (requestHash : Bytes) (row : IdempotencyRow)
    (callback : CheckResult → PayProg) : PayProg :=
  if row.requestHash = requestHash then
    match row.responseSnapshot with
    | none => callback .InProgress
    | some snapshot =>
        orThrow (snapshot.at? (ascii "response")) fun response =>
          if response.isNull then callback .InProgress else callback (.Replay response)
  else callback .Conflict

def checkDatabase (cfg : Config) (idempotencyKey requestHash : Bytes)
    (callback : CheckResult → PayProg) : PayProg :=
  if idempotencyKey.isEmpty then callback .Started
  else
    .sql .db (.reserve idempotencyKey requestHash none cfg.ttlSeconds) fun
      | none => callback .Error
      | some (some _) => callback .Started
      | some none =>
          .sql .db (.findLiveIdempotency idempotencyKey) fun
            | some (some row) => readReservation requestHash row callback
            | _ => callback .Error

def checkAndSetStatus (cfg : Config) (idempotencyKey requestHash : Bytes)
    (callback : CheckResult → PayProg) : PayProg :=
  checkDatabase cfg idempotencyKey requestHash callback

/-- The older form of the check, which answers whether to go on and with what. -/
def checkAndSet (cfg : Config) (idempotencyKey requestHash : Bytes)
    (callback : Bool → Json → PayProg) : PayProg :=
  checkAndSetStatus cfg idempotencyKey requestHash fun
    | .Started => callback true .null
    | .Replay cachedResult => callback true cachedResult
    | .InProgress | .Conflict | .Error => callback false .null

/-- The cached form of a response. -/
def snapshotOf (requestHash : Bytes) (response : Json) : Json :=
  Json.object [("request_hash", .str requestHash), ("response", response)]

def updateResult (idempotencyKey requestHash : Bytes) (response : Json)
    (callback : Bool → PayProg) : PayProg :=
  .sql .db (.saveSnapshot idempotencyKey requestHash (snapshotOf requestHash response)) fun
    | some true => callback true
    | _ => callback false

def clearReservation (idempotencyKey requestHash : Bytes) (callback : Bool → PayProg) : PayProg :=
  if idempotencyKey.isEmpty then callback false
  else
    .sql .db (.clearReservation idempotencyKey requestHash) fun
      | some _ => callback true
      | none => callback false

/-- Delete the rows that have expired by the clock of the server. -/
def purgeExpired (callback : Bool → PayProg) : PayProg :=
  .sql .db .purgeIdempotency fun
    | some _ => callback true
    | none => callback false

/-- Store a response before it is answered, and give the key back when that
fails. -/
def storeThenAnswer (idempotencyKey requestHash : Bytes) (reply : Reply) : PayProg :=
  updateResult idempotencyKey requestHash reply.body fun
    | true => answer reply.body reply.error
    | false =>
        clearReservation idempotencyKey requestHash fun _ => answer reply.body reply.error

end IdempotencyService
end DrogonPay
