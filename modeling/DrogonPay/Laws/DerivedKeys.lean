import DrogonPay.Handlers.PayController
import DrogonPay.Model.Columns

/-!
Contract: what the idempotency key derived for a request without one tells about
it.

Owns:
- `Headerless`, a request that came without a key, as a handler hands it on, with
  the key it is given;
- `Identified`, the promise: keys coincide for one request only, and a derived key
  fits its column;
- `identified_iff`: the promise holds exactly for requests whose hashed texts do
  not run together and whose order number leaves room for the rest of the key.

Does not own: what a service does with a key. SHA-256 is a parameter: its digests
are 64 hexadecimal digits, and the two texts at hand do not collide.
-/

namespace DrogonPay

open PayController

/-- Characters of a UTF-8 text: the bytes that do not continue one. -/
def characters (text : Bytes) : Nat := text.countP fun b => !(128 ≤ b && b < 192)

/-- A digest as `getSha256` writes it. -/
structure IsHexDigest (digest : Bytes) : Prop where
  length_eq : digest.length = 64
  digits : ∀ b ∈ digest, (48 ≤ b ∧ b ≤ 57) ∨ (65 ≤ b ∧ b ≤ 70)

/-- What a booking handler hands to its service. -/
inductive Submission where
  | refund (request : CreateRefundRequest)
  | payment (request : CreatePaymentRequest)
  | qr (request : PaymentService.QrRequest)

namespace Submission

def orderNo : Submission → Bytes
  | refund request => request.orderNo
  | payment request => request.orderNo
  | qr request => request.orderNo

/-- The text whose digest goes into the key. -/
def hashed : Submission → Bytes
  | refund request => request.amount ++ request.reason
  | payment request => request.amount ++ request.currency
  | qr _ => []

def derivedKey (getSha256 : Bytes → Bytes) : Submission → Bytes
  | refund request => derivedRefundKey getSha256 request
  | payment request => derivedPaymentKey getSha256 request
  | qr request => ascii "QR_" ++ request.orderNo ++ ascii "_" ++ request.channel

/-- What equal keys have to mean. Of two QR requests, and of a QR and a create
request, nothing is asked. -/
def Same : Submission → Submission → Prop
  | refund r, refund r' => r.orderNo = r'.orderNo ∧ r.amount = r'.amount ∧ r.reason = r'.reason
  | payment r, payment r' =>
      r.orderNo = r'.orderNo ∧ r.userId = r'.userId ∧ r.amount = r'.amount ∧
        r.currency = r'.currency
  | refund _, _ => False
  | _, refund _ => False
  | _, _ => True

/-- Two requests of one order do not differ in where the amount ends in one and
the same hashed text. -/
def Unambiguous : Submission → Submission → Prop
  | refund r, refund r' =>
      r.orderNo = r'.orderNo → r.amount ++ r.reason = r'.amount ++ r'.reason → r.amount = r'.amount
  | payment r, payment r' =>
      r.orderNo = r'.orderNo → r.userId = r'.userId →
        r.amount ++ r.currency = r'.amount ++ r'.currency → r.amount = r'.amount
  | _, _ => True

/-- The order number leaves room for the rest of the key. -/
def LeavesRoom : Submission → Prop
  | refund request => characters request.orderNo ≤ 56
  | payment request =>
      characters request.orderNo + (Decimal.natText request.userId.toNat).length ≤ 54
  | qr request => characters request.orderNo + characters request.channel ≤ 124

end Submission

/-- A request without a key of its own, as it is handed on, and the key it is
given. -/
inductive Headerless (getSha256 : Bytes → Bytes) : Submission → Bytes → Prop where
  | refund {serviceReady : Bool} {req : HttpRequest} {request : CreateRefundRequest} {key : Bytes}
      (noHeader : keyOr req [] = [])
      (handed : PayController.refund getSha256 serviceReady req = .handed (request, key)) :
      Headerless getSha256 (.refund request) key
  | payment {serviceReady : Bool} {req : HttpRequest} {request : CreatePaymentRequest} {key : Bytes}
      (noHeader : keyOr req [] = [])
      (handed : createPayment getSha256 serviceReady req = .handed (request, key)) :
      Headerless getSha256 (.payment request) key
  | qr {serviceReady : Bool} {req : HttpRequest} {json request : Json}
      {qr : PaymentService.QrRequest} (noHeader : keyOr req [] = []) (isBody : req.body = some json)
      (noKey : json.isMember (ascii "idempotency_key") = false)
      (handed : createQRPayment serviceReady req = .handed request)
      (read : PaymentService.readQrRequest request = some qr) :
      Headerless getSha256 (.qr qr) qr.idempotencyKey

/-- The promise about two requests without keys. -/
structure Identified (a b : Submission) (keyA keyB : Bytes) : Prop where
  identifies : keyA = keyB → a.Same b
  fits : characters a.orderNo ≤ 64 → characters keyA ≤ keyWidth
  fits' : characters b.orderNo ≤ 64 → characters keyB ≤ keyWidth

/-! ## The derived keys -/

theorem keyOr_headerless {req : HttpRequest} (noHeader : keyOr req [] = []) (derived : Bytes) :
    keyOr req derived = derived := by
  unfold keyOr at noHeader ⊢
  cases first : req.xIdempotencyKey with
  | cons head tail => simp [first] at noHeader
  | nil =>
      cases second : req.idempotencyKey with
      | cons head tail => simp [first, second] at noHeader
      | nil => rfl

theorem Headerless.key_eq {getSha256 : Bytes → Bytes} {submission : Submission} {key : Bytes}
    (headerless : Headerless getSha256 submission key) :
    key = submission.derivedKey getSha256 := by
  cases headerless with
  | refund noHeader handed =>
      exact (refund_handed handed).2.trans (keyOr_headerless noHeader _)
  | payment noHeader handed =>
      exact (createPayment_handed handed).2.2.trans (keyOr_headerless noHeader _)
  | qr noHeader isBody noKey handed read =>
      obtain ⟨json, orderNo, amount, channel, userId, description, subject, isBody', -, -, -,
        keyed⟩ := createQRPayment_handed handed
      obtain rfl := Option.some.inj (isBody.symm.trans isBody')
      exact readQrRequest_headerless noHeader noKey keyed read

theorem Headerless.owner_pos {getSha256 : Bytes → Bytes} {request : CreatePaymentRequest}
    {key : Bytes} (headerless : Headerless getSha256 (.payment request) key) :
    0 < request.userId := by
  cases headerless with
  | payment noHeader handed => exact (createPayment_handed handed).2.1

/-- A text is split at its last colon in one way only. -/
theorem split_last_colon {front back front' back' : Bytes} (plain : 58 ∉ back) (plain' : 58 ∉ back')
    (same : front ++ 58 :: back = front' ++ 58 :: back') : front = front' ∧ back = back' := by
  rcases List.append_eq_append_iff.mp same with ⟨middle, isFront, isBack⟩ | ⟨middle, isFront, isBack⟩
  · cases middle with
    | nil => exact ⟨by simpa using isFront.symm, by simpa using isBack⟩
    | cons head tail =>
        obtain ⟨-, rfl⟩ := List.cons.inj isBack
        exact absurd (by simp) plain
  · cases middle with
    | nil => exact ⟨by simpa using isFront, by simpa using isBack.symm⟩
    | cons head tail =>
        obtain ⟨-, rfl⟩ := List.cons.inj isBack
        exact absurd (by simp) plain'

theorem colon_notMem_natText (n : Nat) : (58 : UInt8) ∉ Decimal.natText n := fun member =>
  absurd (Decimal.isDigit_of_mem_natText member) (by decide)

theorem natText_injective {m n : Nat} (same : Decimal.natText m = Decimal.natText n) : m = n := by
  rw [← Decimal.value_natText m, same, Decimal.value_natText]

/-- When two derived keys coincide. -/
theorem derivedKey_refund_eq_iff {getSha256 : Bytes → Bytes}
    (hex : ∀ text, IsHexDigest (getSha256 text)) {r r' : CreateRefundRequest} :
    derivedRefundKey getSha256 r = derivedRefundKey getSha256 r' ↔
      r.orderNo = r'.orderNo ∧ getSha256 (r.amount ++ r.reason) = getSha256 (r'.amount ++ r'.reason) := by
  constructor
  · intro same
    have width := (hex (r.amount ++ r.reason)).length_eq.trans
      (hex (r'.amount ++ r'.reason)).length_eq.symm
    obtain ⟨front, digests⟩ := List.append_inj' same width
    exact ⟨List.append_cancel_left (List.append_cancel_right front), digests⟩
  · rintro ⟨order, digests⟩
    rw [derivedRefundKey, derivedRefundKey, order, digests]

theorem derivedKey_payment_eq_iff {getSha256 : Bytes → Bytes}
    (hex : ∀ text, IsHexDigest (getSha256 text)) {r r' : CreatePaymentRequest}
    (owned : 0 < r.userId) (owned' : 0 < r'.userId) :
    derivedPaymentKey getSha256 r = derivedPaymentKey getSha256 r' ↔
      r.orderNo = r'.orderNo ∧ r.userId = r'.userId ∧
        getSha256 (r.amount ++ r.currency) = getSha256 (r'.amount ++ r'.currency) := by
  constructor
  · intro same
    have width := (hex (r.amount ++ r.currency)).length_eq.trans
      (hex (r'.amount ++ r'.currency)).length_eq.symm
    obtain ⟨front, digests⟩ := List.append_inj' same width
    have split : ascii "payment:" ++ r.orderNo ++ 58 :: Decimal.natText r.userId.toNat =
        ascii "payment:" ++ r'.orderNo ++ 58 :: Decimal.natText r'.userId.toNat := by
      have colon : ascii ":" = [58] := rfl
      simpa [colon] using List.append_cancel_right front
    obtain ⟨orders, owners⟩ :=
      split_last_colon (colon_notMem_natText _) (colon_notMem_natText _) split
    have sameOwner := natText_injective owners
    exact ⟨List.append_cancel_left orders, by omega, digests⟩
  · rintro ⟨order, owner, digests⟩
    rw [derivedPaymentKey, derivedPaymentKey, order, owner, digests]

/-- The first byte of a key tells which kind of request it is for. -/
theorem Submission.derivedKey_head (getSha256 : Bytes → Bytes) (s : Submission) :
    (s.derivedKey getSha256).head? =
      some (match s with
        | .refund _ => 114
        | .payment _ => 112
        | .qr _ => 81) := by
  cases s <;> rfl

/-! ## Lengths -/

theorem characters_append (left right : Bytes) :
    characters (left ++ right) = characters left + characters right := by
  simp [characters]

theorem characters_of_ascii {text : Bytes} (plain : ∀ b ∈ text, b < 128) :
    characters text = text.length := by
  rw [characters, List.countP_eq_length]
  intro b member
  have small := plain b member
  simp only [Bool.not_eq_true', Bool.and_eq_false_iff, decide_eq_false_iff_not]
  exact Or.inl (UInt8.not_le.mpr small)

theorem characters_digest {digest : Bytes} (hex : IsHexDigest digest) : characters digest = 64 := by
  rw [characters_of_ascii, hex.length_eq]
  intro b member
  rcases hex.digits b member with ⟨-, upper⟩ | ⟨-, upper⟩
  · exact UInt8.lt_of_le_of_lt upper (by decide)
  · exact UInt8.lt_of_le_of_lt upper (by decide)

theorem characters_natText (n : Nat) :
    characters (Decimal.natText n) = (Decimal.natText n).length := by
  refine characters_of_ascii fun b member => ?_
  have isDig := Decimal.isDigit_of_mem_natText member
  simp only [Decimal.isDigit, Bool.and_eq_true, decide_eq_true_eq] at isDig
  exact UInt8.lt_of_le_of_lt isDig.2 (by decide)

theorem Submission.derivedKey_fits_iff {getSha256 : Bytes → Bytes}
    (hex : ∀ text, IsHexDigest (getSha256 text)) (s : Submission) :
    characters (s.derivedKey getSha256) ≤ keyWidth ↔ s.LeavesRoom := by
  have refundMark : characters (ascii "refund:") = 7 := by decide
  have paymentMark : characters (ascii "payment:") = 8 := by decide
  have colon : characters (ascii ":") = 1 := by decide
  have qrMark : characters (ascii "QR_") = 3 := by decide
  have underscore : characters (ascii "_") = 1 := by decide
  cases s with
  | refund request =>
      simp only [derivedKey, derivedRefundKey, characters_append, characters_digest (hex _),
        refundMark, colon, keyWidth, LeavesRoom]
      omega
  | payment request =>
      simp only [derivedKey, derivedPaymentKey, characters_append, characters_digest (hex _),
        characters_natText, paymentMark, colon, keyWidth, LeavesRoom]
      omega
  | qr request =>
      simp only [derivedKey, characters_append, qrMark, underscore, keyWidth, LeavesRoom]
      omega

/-! ## The promise -/

/-- Equal keys mean one request exactly when the hashed texts do not run
together. -/
theorem same_of_key_iff {getSha256 : Bytes → Bytes} (hex : ∀ text, IsHexDigest (getSha256 text))
    {a b : Submission} {keyA keyB : Bytes}
    (collisionFree : getSha256 a.hashed = getSha256 b.hashed → a.hashed = b.hashed)
    (headerlessA : Headerless getSha256 a keyA) (headerlessB : Headerless getSha256 b keyB) :
    (keyA = keyB → a.Same b) ↔ a.Unambiguous b := by
  have isKeyA := headerlessA.key_eq
  have isKeyB := headerlessB.key_eq
  subst isKeyA isKeyB
  -- keys of different kinds differ in their first byte
  have heads : a.derivedKey getSha256 = b.derivedKey getSha256 →
      (a.derivedKey getSha256).head? = (b.derivedKey getSha256).head? := congrArg List.head?
  rw [Submission.derivedKey_head, Submission.derivedKey_head] at heads
  cases a with
  | refund r =>
      cases b with
      | refund r' =>
          simp only [Submission.derivedKey, derivedKey_refund_eq_iff hex, Submission.Same,
            Submission.Unambiguous]
          constructor
          · intro same order text
            exact (same ⟨order, congrArg getSha256 text⟩).2.1
          · rintro unambiguous ⟨order, digests⟩
            have text := collisionFree digests
            have amounts := unambiguous order text
            refine ⟨order, amounts, ?_⟩
            rw [Submission.hashed, Submission.hashed, amounts] at text
            exact List.append_cancel_left text
      | payment r' => exact iff_of_true (fun same => absurd (heads same) (by simp)) trivial
      | qr r' => exact iff_of_true (fun same => absurd (heads same) (by simp)) trivial
  | payment r =>
      cases b with
      | refund r' => exact iff_of_true (fun same => absurd (heads same) (by simp)) trivial
      | payment r' =>
          simp only [Submission.derivedKey,
            derivedKey_payment_eq_iff hex headerlessA.owner_pos headerlessB.owner_pos,
            Submission.Same, Submission.Unambiguous]
          constructor
          · intro same order owner text
            exact (same ⟨order, owner, congrArg getSha256 text⟩).2.2.1
          · rintro unambiguous ⟨order, owner, digests⟩
            have text := collisionFree digests
            have amounts := unambiguous order owner text
            refine ⟨order, owner, amounts, ?_⟩
            rw [Submission.hashed, Submission.hashed, amounts] at text
            exact List.append_cancel_left text
      | qr r' => exact iff_of_true (fun _ => trivial) trivial
  | qr r =>
      cases b with
      | refund r' => exact iff_of_true (fun same => absurd (heads same) (by simp)) trivial
      | payment r' => exact iff_of_true (fun _ => trivial) trivial
      | qr r' => exact iff_of_true (fun _ => trivial) trivial

/-- The keys of two requests identify them and fit their column exactly when the
hashed texts do not run together and the order numbers leave room. -/
theorem identified_iff {getSha256 : Bytes → Bytes} (hex : ∀ text, IsHexDigest (getSha256 text))
    {a b : Submission} {keyA keyB : Bytes}
    (collisionFree : getSha256 a.hashed = getSha256 b.hashed → a.hashed = b.hashed)
    (headerlessA : Headerless getSha256 a keyA) (headerlessB : Headerless getSha256 b keyB) :
    Identified a b keyA keyB ↔
      a.Unambiguous b ∧ (characters a.orderNo ≤ 64 → a.LeavesRoom) ∧
        (characters b.orderNo ≤ 64 → b.LeavesRoom) := by
  have fitsA := a.derivedKey_fits_iff hex
  have fitsB := b.derivedKey_fits_iff hex
  rw [← headerlessA.key_eq] at fitsA
  rw [← headerlessB.key_eq] at fitsB
  rw [← same_of_key_iff hex collisionFree headerlessA headerlessB, ← fitsA, ← fitsB]
  exact ⟨fun promise => ⟨promise.identifies, promise.fits, promise.fits'⟩,
    fun ⟨identifies, fits, fits'⟩ => ⟨identifies, fits, fits'⟩⟩

/-! ## Two requests, one key -/

/-- SHA-256 on the texts of the requests below. -/
def sha256Here (text : Bytes) : Bytes :=
  if text = ascii "12 items" then
    ascii "F1EC66CFA49A615A772A74F70915756FB273CE3A869245E78147F21DCD04367F"
  else if text = ascii "1.00late" then
    ascii "EDC630290287732B3C22391955DD96529C40AF74D38B1600635923BBD4B4C0B0"
  else ascii "24192D798310FBE6C9F1059DE1FD4658221BD48CF8E0CF736ADEF34ED8EE3EA3"

theorem isHexDigest_sha256Here (text : Bytes) : IsHexDigest (sha256Here text) := by
  unfold sha256Here
  split
  · exact ⟨by decide, by decide +kernel⟩
  · split
    · exact ⟨by decide, by decide +kernel⟩
    · exact ⟨by decide, by decide +kernel⟩

/-- A request with this body and no headers. -/
def plainRequest (fields : List (String × Json)) : HttpRequest :=
  ⟨false, some (Json.object fields), [], [], none⟩

def refundOfOrder (amount reason : String) : CreateRefundRequest :=
  ⟨ascii "A1", [], [], ascii amount, ascii reason, [], []⟩

def refundBody (amount reason : String) : HttpRequest :=
  plainRequest [("order_no", Json.text "A1"), ("amount", Json.text amount),
    ("reason", Json.text reason)]

/-- One yuan for "2 items" and twelve yuan for " items" share a key. -/
theorem derived_key_of_two_refunds :
    ∃ key, Headerless sha256Here (.refund (refundOfOrder "1" "2 items")) key ∧
      Headerless sha256Here (.refund (refundOfOrder "12" " items")) key ∧
      ¬ Identified (.refund (refundOfOrder "1" "2 items"))
        (.refund (refundOfOrder "12" " items")) key key := by
  refine ⟨_, @Headerless.refund _ true (refundBody "1" "2 items") _ _ rfl rfl,
    @Headerless.refund _ true (refundBody "12" " items") _ _ rfl rfl, ?_⟩
  intro promise
  exact absurd (promise.identifies rfl).2.1 (by decide)

/-- A refund and a payment of one order are told apart, and their keys fit. -/
theorem derived_keys_of_refund_and_payment :
    Identified (.refund (refundOfOrder "1.00" "late"))
      (.payment ⟨ascii "A1", ascii "1.00", ascii "CNY", [], [], 7, .null, ascii "alipay", [], []⟩)
      (derivedRefundKey sha256Here (refundOfOrder "1.00" "late"))
      (derivedPaymentKey sha256Here
        ⟨ascii "A1", ascii "1.00", ascii "CNY", [], [], 7, .null, ascii "alipay", [], []⟩) := by
  have isRefund : Headerless sha256Here (.refund (refundOfOrder "1.00" "late"))
      (derivedRefundKey sha256Here (refundOfOrder "1.00" "late")) :=
    @Headerless.refund _ true (refundBody "1.00" "late") _ _ rfl rfl
  have isPayment : Headerless sha256Here
      (.payment ⟨ascii "A1", ascii "1.00", ascii "CNY", [], [], 7, .null, ascii "alipay", [], []⟩)
      (derivedPaymentKey sha256Here
        ⟨ascii "A1", ascii "1.00", ascii "CNY", [], [], 7, .null, ascii "alipay", [], []⟩) :=
    @Headerless.payment _ true (plainRequest [("order_no", Json.text "A1"),
      ("amount", Json.text "1.00"), ("user_id", .int 7)]) _ _ rfl rfl
  exact (identified_iff isHexDigest_sha256Here (fun digests => absurd digests (by decide)) isRefund
    isPayment).mpr ⟨trivial, fun _ => by unfold Submission.LeavesRoom; decide,
      fun _ => by unfold Submission.LeavesRoom; decide⟩

end DrogonPay
