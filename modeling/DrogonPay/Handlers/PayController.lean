import DrogonPay.Services.Payment
import DrogonPay.Services.Refund

/-!
Contract: the three booking handlers of `PayHandlers.cc`, from the HTTP request to
the call of the service.

Owns:
- `validateAmount` and `validateBodyTypes`;
- `createPayment`, `createQRPayment` and `refund`: what is answered at once, what
  throws, and what is handed to the service under which idempotency key.

Does not own: the services behind them, HTTP parsing, and SHA-256, which is a
parameter.
-/

namespace DrogonPay.PayController

/-- The parts of a request a handler reads. A missing header reads as empty, a
body that is no JSON as `none`. -/
structure HttpRequest where
  isOptions : Bool
  body : Option Json
  xIdempotencyKey : Bytes
  idempotencyKey : Bytes
  userIdAttribute : Option Int

/-- What a handler does: the empty answer to OPTIONS, an answer of its own, an
exception, or a call of the service. -/
inductive Handled (α : Type) where
  | preflight
  | answered (status : Nat) (code : Nat) (message : Bytes)
  | thrown
  | handed (request : α)

/-- `^\d+(\.\d{1,2})?$` -/
def validateAmount (amount : Bytes) : Bool :=
  !(amount.takeWhile Decimal.isDigit).isEmpty &&
    match amount.dropWhile Decimal.isDigit with
    | [] => true
    | mark :: fraction =>
        mark = Decimal.point && !fraction.isEmpty && fraction.length ≤ 2 &&
          fraction.all Decimal.isDigit

inductive FieldType where
  | String
  | Int64
deriving DecidableEq

structure BodyField where
  key : String
  type : FieldType
  optional : Bool

def FieldType.holds (type : FieldType) (value : Json) : Bool :=
  match type with
  | .String => value.isString
  | .Int64 => value.isInt64

def FieldType.expected : FieldType → Bytes
  | .String => ascii "a string"
  | .Int64 => ascii "an integer"

/-- The first field whose shape is wrong, as an error. -/
def validateBodyTypes (json : Json) : List BodyField → Option Bytes
  | [] => none
  | field :: fields =>
      if json.isMember (ascii field.key) then
        if field.type.holds ((json.at? (ascii field.key)).getD .null) then
          validateBodyTypes json fields
        else
          some (ascii "Field " ++ ascii field.key ++ ascii " must be " ++ field.type.expected)
      else if field.optional then validateBodyTypes json fields
      else some (ascii "Field " ++ ascii field.key ++ ascii " is required")

def optionalText (key : String) : BodyField := ⟨key, .String, true⟩

def optionalInt64 (key : String) : BodyField := ⟨key, .Int64, true⟩

/-- jsoncpp asserts that a value asked for its members is null or an object. -/
def hasMembers : Json → Bool
  | .null => true
  | .obj _ => true
  | _ => false

def lacks (json : Json) (keys : List String) : Bool :=
  keys.any fun key => !json.isMember (ascii key)

def respondBadRequest {α : Type} (message : Bytes) : Handled α := .answered 400 400 message

def invalidAmount {α : Type} : Handled α :=
  .answered 400 40001 (ascii
    "Invalid amount format. Expected positive number with up to 2 decimal places (e.g. 100.00)")

def respondPluginUnavailable {α : Type} (what : String) : Handled α :=
  .answered 503 1501 (ascii what ++ ascii " is not available in this process")

/-- The checks every booking handler starts with: a JSON body with the required
fields, and every field it reads of the right type. -/
def withBody {α : Type} (req : HttpRequest) (required : List String) (missing : String)
    (fields : List BodyField) (next : Json → Handled α) : Handled α :=
  if req.isOptions then .preflight
  else
    match req.body with
    | none => respondBadRequest (ascii "Invalid JSON")
    | some json =>
        if !hasMembers json then .thrown
        else if lacks json required then respondBadRequest (ascii missing)
        else
          match validateBodyTypes json fields with
          | some shapeError => respondBadRequest shapeError
          | none => next json

/-- The caller's key, or the one derived from the request. -/
def keyOr (req : HttpRequest) (derived : Bytes) : Bytes :=
  if !req.xIdempotencyKey.isEmpty then req.xIdempotencyKey
  else if !req.idempotencyKey.isEmpty then req.idempotencyKey
  else derived

/-! ## createPayment -/

def createPaymentFields : List BodyField :=
  [optionalText "order_no", optionalText "amount", optionalText "currency",
    optionalText "description", optionalText "notify_url", optionalText "channel",
    optionalInt64 "user_id", optionalText "time_expire"]

/-- The owner: from the body, else from the request's attributes, else 0. -/
def readUserId (req : HttpRequest) (json : Json) : Option Int :=
  if json.isMember (ascii "user_id") then do (← json.at? (ascii "user_id")).asInt64
  else some (req.userIdAttribute.getD 0)

def readCreatePayment (req : HttpRequest) (json : Json) : Option CreatePaymentRequest := do
  let amount ← json.stringAt "amount"
  let orderNo ← json.stringAt "order_no"
  let currency ← PaymentService.stringOr json "currency" (ascii "CNY")
  let description ← json.stringAt "description"
  let notifyUrl ← json.stringAt "notify_url"
  let channel ← PaymentService.stringOr json "channel" (ascii "alipay")
  let timeExpire ← json.stringAt "time_expire"
  let userId ← readUserId req json
  let sceneInfo ← json.at? (ascii "scene_info")
  return ⟨orderNo, amount, currency, description, notifyUrl, userId, sceneInfo, channel,
    timeExpire, []⟩

def derivedPaymentKey (getSha256 : Bytes → Bytes) (request : CreatePaymentRequest) : Bytes :=
  ascii "payment:" ++ request.orderNo ++ ascii ":" ++ Decimal.natText request.userId.toNat ++
    ascii ":" ++ getSha256 (request.amount ++ request.currency)

def createPayment (getSha256 : Bytes → Bytes) (serviceReady : Bool) (req : HttpRequest) :
    Handled (CreatePaymentRequest × Bytes) :=
  withBody req ["order_no", "amount"] "Missing required fields: order_no and amount"
    createPaymentFields fun json =>
      match readCreatePayment req json with
      | none => .thrown
      | some request =>
          if !validateAmount request.amount then invalidAmount
          else if request.userId ≤ 0 then
            .answered 401 401 (ascii
              "User ID required. Please provide user_id in request body.")
          else if !serviceReady then respondPluginUnavailable "Payment service"
          else .handed (request, keyOr req (derivedPaymentKey getSha256 request))

/-! ## createQRPayment -/

def createQRPaymentFields : List BodyField :=
  [optionalText "order_no", optionalText "amount", optionalText "channel",
    optionalInt64 "user_id", optionalText "description", optionalText "product_name",
    optionalText "currency", optionalText "notify_url", optionalText "buyer_id",
    optionalText "idempotency_key", optionalText "time_expire"]

/-- The optional fields that are handed over as they came. -/
def passedFields (json : Json) : List (Bytes × Json) :=
  ["currency", "notify_url", "buyer_id", "idempotency_key", "time_expire"].filterMap fun field =>
    if json.isMember (ascii field) then
      some (ascii field, (json.at? (ascii field)).getD .null)
    else none

/-- A key of the headers takes the place of a missing or empty key of the body. -/
def withHeaderKey (req : HttpRequest) (request : Json) : Option Json := do
  let key ← request.stringAt "idempotency_key"
  let headerKey := keyOr req []
  if key.isEmpty && !headerKey.isEmpty then
    return request.withMember "idempotency_key" (.str headerKey)
  else return request

/-- The request of the QR service: the booking fields, then those passed on. -/
def qrBody (orderNo amount channel : Bytes) (userId : Int) (description subject : Bytes)
    (json : Json) : Json :=
  .obj ([(ascii "order_no", .str orderNo), (ascii "amount", .str amount),
    (ascii "channel", .str channel), (ascii "user_id", .int userId),
    (ascii "description", .str description), (ascii "subject", .str subject)] ++
    passedFields json)

def readCreateQRPayment (req : HttpRequest) (json : Json) (amount : Bytes) (userId : Int) :
    Option Json := do
  let orderNo ← json.stringAt "order_no"
  let channel ← json.stringAt "channel"
  let description ← json.stringAt "description"
  let subject ← PaymentService.stringOr json "product_name" (ascii "Payment")
  withHeaderKey req (qrBody orderNo amount channel userId description subject json)

def createQRPayment (serviceReady : Bool) (req : HttpRequest) : Handled Json :=
  withBody req ["order_no", "amount", "channel", "user_id"]
    "Missing required fields: order_no, amount, channel, user_id" createQRPaymentFields fun json =>
      match json.stringAt "amount", json.intAt "user_id" with
      | some amount, some qrUserId =>
          if !validateAmount amount then invalidAmount
          else if qrUserId ≤ 0 then
            respondBadRequest (ascii "Field user_id must be a positive integer")
          else
            match readCreateQRPayment req json amount qrUserId with
            | none => .thrown
            | some request =>
                if !serviceReady then respondPluginUnavailable "Payment service"
                else .handed request
      | _, _ => .thrown

/-! ## refund -/

def refundFields : List BodyField :=
  [optionalText "order_no", optionalText "amount", optionalText "reason",
    optionalText "notify_url", optionalText "funds_account", optionalText "payment_no",
    optionalText "refund_no"]

def readRefund (json : Json) : Option CreateRefundRequest := do
  let amount ← json.stringAt "amount"
  let orderNo ← json.stringAt "order_no"
  let reason ← json.stringAt "reason"
  let notifyUrl ← json.stringAt "notify_url"
  let fundsAccount ← json.stringAt "funds_account"
  let paymentNo ← json.stringAt "payment_no"
  let refundNo ← json.stringAt "refund_no"
  return ⟨orderNo, paymentNo, refundNo, amount, reason, notifyUrl, fundsAccount⟩

def derivedRefundKey (getSha256 : Bytes → Bytes) (request : CreateRefundRequest) : Bytes :=
  ascii "refund:" ++ request.orderNo ++ ascii ":" ++ getSha256 (request.amount ++ request.reason)

def refund (getSha256 : Bytes → Bytes) (serviceReady : Bool) (req : HttpRequest) :
    Handled (CreateRefundRequest × Bytes) :=
  withBody req ["order_no", "amount"] "Missing required fields: order_no and amount"
    refundFields fun json =>
      match readRefund json with
      | none => .thrown
      | some request =>
          if !validateAmount request.amount then invalidAmount
          else if !serviceReady then respondPluginUnavailable "Refund service"
          else .handed (request, keyOr req (derivedRefundKey getSha256 request))

/-! ## What reaches the services -/

theorem withBody_handed {α : Type} {req : HttpRequest} {required : List String} {missing : String}
    {fields : List BodyField} {next : Json → Handled α} {request : α}
    (handed : withBody req required missing fields next = .handed request) :
    ∃ json, req.body = some json ∧ next json = .handed request := by
  unfold withBody respondBadRequest at handed
  split at handed
  · simp at handed
  · split at handed
    · simp at handed
    · next json isBody =>
      split at handed
      · simp at handed
      · split at handed
        · simp at handed
        · split at handed
          · simp at handed
          · exact ⟨json, isBody, handed⟩

theorem createPayment_handed {getSha256 : Bytes → Bytes} {serviceReady : Bool} {req : HttpRequest}
    {request : CreatePaymentRequest} {key : Bytes}
    (handed : createPayment getSha256 serviceReady req = .handed (request, key)) :
    validateAmount request.amount = true ∧ 0 < request.userId ∧
      key = keyOr req (derivedPaymentKey getSha256 request) := by
  obtain ⟨json, -, handed⟩ := withBody_handed handed
  unfold invalidAmount respondPluginUnavailable at handed
  split at handed
  · simp at handed
  · next read isRead =>
    split at handed
    · simp at handed
    · next valid =>
      split at handed
      · simp at handed
      · next owned =>
        split at handed
        · simp at handed
        · obtain ⟨rfl, rfl⟩ := Prod.mk.inj (Handled.handed.inj handed)
          exact ⟨by simpa using valid, by omega, rfl⟩

theorem refund_handed {getSha256 : Bytes → Bytes} {serviceReady : Bool} {req : HttpRequest}
    {request : CreateRefundRequest} {key : Bytes}
    (handed : refund getSha256 serviceReady req = .handed (request, key)) :
    validateAmount request.amount = true ∧
      key = keyOr req (derivedRefundKey getSha256 request) := by
  obtain ⟨json, -, handed⟩ := withBody_handed handed
  unfold invalidAmount respondPluginUnavailable at handed
  split at handed
  · simp at handed
  · next read isRead =>
    split at handed
    · simp at handed
    · next valid =>
      split at handed
      · simp at handed
      · obtain ⟨rfl, rfl⟩ := Prod.mk.inj (Handled.handed.inj handed)
        exact ⟨by simpa using valid, rfl⟩

theorem isInt64_of_asInt64 {value : Json} {n : Int} (read : value.asInt64 = some n) :
    (Json.int n).isInt64 = true := by
  cases value with
  | null =>
      obtain rfl := Option.some.inj read
      rfl
  | bool b =>
      obtain rfl := Option.some.inj read
      cases b <;> rfl
  | int m =>
      simp only [Json.asInt64, Option.ite_none_right_eq_some] at read
      obtain ⟨inRange, isInt⟩ := read
      obtain rfl := Option.some.inj isInt
      exact inRange
  | real m integral text =>
      simp only [Json.asInt64, Option.ite_none_right_eq_some] at read
      obtain ⟨inRange, isInt⟩ := read
      obtain rfl := Option.some.inj isInt
      exact inRange
  | str s => simp [Json.asInt64] at read
  | arr items => simp [Json.asInt64] at read
  | obj members => simp [Json.asInt64] at read

theorem createQRPayment_handed {serviceReady : Bool} {req : HttpRequest} {request : Json}
    (handed : createQRPayment serviceReady req = .handed request) :
    ∃ json orderNo amount channel userId description subject, req.body = some json ∧
      validateAmount amount = true ∧ 0 < userId ∧ (Json.int userId).isInt64 = true ∧
      withHeaderKey req (qrBody orderNo amount channel userId description subject json) =
        some request := by
  obtain ⟨json, isBody, handed⟩ := withBody_handed handed
  unfold invalidAmount respondBadRequest respondPluginUnavailable at handed
  split at handed
  · next amount userId _ isOwner =>
    obtain ⟨value, -, isInt⟩ := Option.bind_eq_some_iff.mp isOwner
    split at handed
    · simp at handed
    · next valid =>
      split at handed
      · simp at handed
      · next owned =>
        split at handed
        · simp at handed
        · next read isRead =>
          split at handed
          · simp at handed
          · obtain rfl := Handled.handed.inj handed
            simp only [readCreateQRPayment, Option.bind_eq_bind, Option.bind_eq_some_iff] at isRead
            obtain ⟨orderNo, -, channel, -, description, -, subject, -, isRequest⟩ := isRead
            exact ⟨json, orderNo, amount, channel, userId, description, subject, isBody,
              by simpa using valid, by omega, isInt64_of_asInt64 isInt, isRequest⟩
  · simp at handed

theorem lookup_append (front back : List (Bytes × Json)) (key : Bytes) :
    Json.lookup (front ++ back) key = (Json.lookup front key).or (Json.lookup back key) := by
  unfold Json.lookup
  rw [List.find?_append]
  cases front.find? fun entry => entry.1 = key <;> rfl

theorem lookup_passed {json : Json} {key : Bytes} (absent : json.isMember key = false) :
    Json.lookup (passedFields json) key = none := by
  unfold Json.lookup passedFields
  rw [Option.map_eq_none_iff, List.find?_eq_none]
  intro entry member
  obtain ⟨field, -, isEntry⟩ := List.mem_filterMap.mp member
  split at isEntry
  · next present =>
    obtain rfl := Option.some.inj isEntry
    simp only [decide_eq_true_eq]
    rintro rfl
    simp [absent] at present
  · simp at isEntry

theorem get_withMember_other {value : Json} {key : String} {other : Bytes} {fallback : Json}
    (member : Json) (object : hasMembers value = true) (differs : other ≠ ascii key) :
    (value.withMember key member).get other fallback = value.get other fallback := by
  have last : ¬ ascii key = other := fun isKey => differs isKey.symm
  cases value with
  | null => simp [Json.withMember, Json.get, Json.lookup, last]
  | obj members =>
      have filtered : (members.find? fun entry => decide (entry.1 ≠ ascii key ∧ entry.1 = other)) =
          members.find? fun entry => decide (entry.1 = other) := by
        congr 1
        funext entry
        by_cases isOther : entry.1 = other
        · simp [isOther, differs]
        · simp [isOther]
      simp only [Json.withMember, Json.get, Json.lookup, List.find?_append, List.find?_filter,
        decide_eq_true_eq, filtered]
      simp [last]
  | bool b => simp [hasMembers] at object
  | int n => simp [hasMembers] at object
  | real n text => simp [hasMembers] at object
  | str s => simp [hasMembers] at object
  | arr items => simp [hasMembers] at object

/-- Only the key of a request depends on the headers. -/
theorem get_keyed {req : HttpRequest} {body request fallback : Json} {other : Bytes}
    (object : hasMembers body = true) (keyed : withHeaderKey req body = some request)
    (differs : other ≠ ascii "idempotency_key") :
    request.get other fallback = body.get other fallback := by
  simp only [withHeaderKey, Option.bind_eq_bind, Option.bind_eq_some_iff] at keyed
  obtain ⟨key, -, isRequest⟩ := keyed
  split at isRequest
  · obtain rfl := Option.some.inj isRequest
    exact get_withMember_other _ object differs
  · obtain rfl := Option.some.inj isRequest
    rfl

theorem readQrRequest_reads {request : Json} {qr : PaymentService.QrRequest}
    (read : PaymentService.readQrRequest request = some qr) :
    PaymentService.stringOr request "order_no" [] = some qr.orderNo ∧
      PaymentService.stringOr request "amount" [] = some qr.amount ∧
      PaymentService.stringOr request "channel" (ascii "alipay") = some qr.channel ∧
      PaymentService.stringOr request "idempotency_key"
        (ascii "QR_" ++ qr.orderNo ++ ascii "_" ++ qr.channel) = some qr.idempotencyKey ∧
      PaymentService.qrUserId request = some qr.userId ∧
      PaymentService.readQrHead request = some (qr.orderNo, qr.amount) ∧
      (qr.channel ≠ ascii "wechat" → qr.requestedCurrency = ascii "CNY") := by
  simp only [PaymentService.readQrRequest, Option.bind_eq_bind, Option.bind_eq_some_iff,
    Option.pure_def] at read
  obtain ⟨orderNo, isOrder, amount, isAmount, _, isChannel, _, isSubject, _, isExpiry, _, isOwner,
    read⟩ := read
  have isHead : PaymentService.readQrHead request = some (orderNo, amount) := by
    simp only [PaymentService.readQrHead, isOrder, isAmount, isChannel, isSubject, isExpiry,
      Option.bind_eq_bind, Option.bind_some, Option.pure_def]
  split at read
  · next isWechat =>
    simp only [Option.bind_eq_some_iff, Option.some.injEq] at read
    obtain ⟨_, -, _, isKey, _, -, _, -, rfl⟩ := read
    exact ⟨isOrder, isAmount, isChannel, isKey, isOwner, isHead, fun other => absurd isWechat other⟩
  · simp only [Option.bind_eq_some_iff, Option.some.injEq] at read
    obtain ⟨_, isCurrency, _, isKey, _, -, _, -, rfl⟩ := read
    exact ⟨isOrder, isAmount, isChannel, isKey, isOwner, isHead,
      fun _ => isCurrency.symm⟩

/-- What the QR service reads of a request the handler made. -/
theorem readQrRequest_handed {req : HttpRequest} {json request : Json}
    {orderNo amount channel description subject : Bytes} {userId : Int}
    {qr : PaymentService.QrRequest}
    (inRange : (Json.int userId).isInt64 = true)
    (keyed : withHeaderKey req (qrBody orderNo amount channel userId description subject json) =
      some request)
    (read : PaymentService.readQrRequest request = some qr) :
    qr.amount = amount ∧ qr.userId = userId := by
  obtain ⟨-, isAmount, -, -, isOwner, -⟩ := readQrRequest_reads read
  have owner : PaymentService.qrUserId request = some userId := by
    rw [PaymentService.qrUserId, get_keyed rfl keyed (by decide)]
    change (if (Json.int userId).isInt64 = true then (Json.int userId).asInt64 else some 0) = _
    rw [if_pos inRange]
    exact if_pos inRange
  have amounts : PaymentService.stringOr request "amount" [] = some amount := by
    rw [PaymentService.stringOr, get_keyed rfl keyed (by decide)]
    rfl
  rw [amounts] at isAmount
  rw [owner] at isOwner
  exact ⟨(Option.some.inj isAmount).symm, (Option.some.inj isOwner).symm⟩

/-- The key of a request that came without one. -/
theorem readQrRequest_headerless {req : HttpRequest} {json request : Json}
    {orderNo amount channel description subject : Bytes} {userId : Int}
    {qr : PaymentService.QrRequest}
    (noHeader : keyOr req [] = []) (noKey : json.isMember (ascii "idempotency_key") = false)
    (keyed : withHeaderKey req (qrBody orderNo amount channel userId description subject json) =
      some request)
    (read : PaymentService.readQrRequest request = some qr) :
    qr.idempotencyKey = ascii "QR_" ++ qr.orderNo ++ ascii "_" ++ qr.channel := by
  have unkeyed : ∀ fallback, (qrBody orderNo amount channel userId description subject json).get
      (ascii "idempotency_key") fallback = some fallback := by
    intro fallback
    rw [qrBody, Json.get, lookup_append, lookup_passed noKey]
    rfl
  obtain rfl : request = qrBody orderNo amount channel userId description subject json := by
    simp only [withHeaderKey, noHeader, List.isEmpty_nil, Bool.not_true, Bool.and_false,
      Bool.false_eq_true, if_false, Option.bind_eq_bind, Option.bind_eq_some_iff] at keyed
    obtain ⟨-, -, isRequest⟩ := keyed
    exact (Option.some.inj isRequest).symm
  obtain ⟨-, -, -, isKey, -⟩ := readQrRequest_reads read
  rw [PaymentService.stringOr, unkeyed] at isKey
  exact (Option.some.inj isKey).symm

end DrogonPay.PayController
