import DrogonPay.Laws.ChannelCalls
import DrogonPay.Laws.NotifyUrl
import DrogonPay.Model.OrderFields
import DrogonPay.Model.Rfc3339

/-!
Contract: the fields a channel is handed.

Owns:
- `Config.checked`, the services with the validators of `utils/PayUtils.cc`;
- `Request.Admits`, the rules of the channels for what is sent on behalf of a
  request;
- `calls_admitted`: in every run, every order and every refund that is handed to a
  channel keeps these rules.

Does not own: the amounts of an order, or what the channel answers.
-/

namespace DrogonPay

open ReadCommitted PaymentService

/-- The services with the validators of `PayUtils.cc`. -/
def Config.checked (cfg : Config) : Config :=
  { cfg with
    validateNotifyUrl := PayUtils.validateNotifyUrl
    validateTimeExpire := PayUtils.validateTimeExpire
    validateWechatOrderFields := PayUtils.validateWechatOrderFields }

@[simp] theorem Config.checked_validateNotifyUrl (cfg : Config) (url : Bytes) :
    cfg.checked.validateNotifyUrl url = PayUtils.validateNotifyUrl url := rfl

@[simp] theorem Config.checked_validateTimeExpire (cfg : Config) (text channel : Bytes)
    (now : Nat) :
    cfg.checked.validateTimeExpire text channel now = PayUtils.validateTimeExpire text channel now :=
  rfl

@[simp] theorem Config.checked_validateWechatOrderFields (cfg : Config)
    (outTradeNo description attach : Bytes) :
    cfg.checked.validateWechatOrderFields outTradeNo description attach =
      PayUtils.validateWechatOrderFields outTradeNo description attach := rfl

/-! ## The rules -/

/-- The payload carries a text of this kind. -/
def Carries (payload : Json) (key : String) (usable : Bytes → Prop) : Prop :=
  ∃ text, payload.at? (ascii key) = some (.str text) ∧ usable text

/-- The payload has no such member, or it is a text of this kind. -/
def MayCarry (payload : Json) (key : String) (usable : Bytes → Prop) : Prop :=
  payload.isMember (ascii key) = true → Carries payload key usable

/-- A web address that is short enough, on a host that is not blocked. -/
def Outward (url : Bytes) : Prop :=
  PayUtils.hasScheme url = true ∧ url.length ≤ 512 ∧
    PayUtils.isBlockedHost (PayUtils.extractUrlHost url) = false

/-- An instant behind `now`, and no more than seven days. -/
def DueWithinWeek (now : Nat) (text : Bytes) : Prop :=
  ∃ deadline, PayUtils.parseRfc3339 text = .ok deadline ∧ (now : Int) < deadline ∧
    deadline ≤ now + 7 * 86400

/-- The parameter table of a WeChat order. -/
structure WechatOrder (payload : Json) (now : Nat) : Prop where
  named : Carries payload "out_trade_no" fun orderNo => 6 ≤ orderNo.length ∧
    orderNo.length ≤ 32 ∧ ∀ c ∈ orderNo, PayUtils.isOutTradeNoByte c = true
  described : Carries payload "description" fun text =>
    text ≠ [] ∧ PayUtils.utf8CodePointLength text ≤ 127
  attached : MayCarry payload "attach" fun text => PayUtils.utf8CodePointLength text ≤ 128
  due : MayCarry payload "time_expire" (DueWithinWeek now)

/-- The amount of a WeChat refund: something, and no more than its order. -/
def PartOfOrder (payload : Json) : Prop :=
  ∃ amount refund total, payload.at? (ascii "amount") = some amount ∧
    amount.at? (ascii "refund") = some (.int refund) ∧
    amount.at? (ascii "total") = some (.int total) ∧ 0 < refund ∧ refund ≤ total

/-- When a request is judged. -/
def Request.clock : Request → Nat
  | .createPayment _ _ _ now | .createQRPayment _ _ now => now
  | _ => 0

/-- What a channel may be handed on behalf of a request. -/
def Request.Admits (request : Request) : ChannelCall → Prop
  | .createQRPayment channel payload =>
      MayCarry payload "notify_url" Outward ∧
        (channel = ascii "wechat" → WechatOrder payload request.clock)
  | .refund channel payload =>
      MayCarry payload "notify_url" Outward ∧
      MayCarry payload "reason" (fun text => text.length ≤ 80) ∧
      MayCarry payload "funds_account"
        (fun text => text = ascii "AVAILABLE" ∨ text = ascii "UNSETTLED") ∧
      (channel = ascii "wechat" → PartOfOrder payload)
  | _ => True

/-! ## Payloads -/

section Payloads

theorem mayCarry_object {members : List (String × Json)} {key : String} {usable : Bytes → Prop}
    (each : ∀ entry ∈ members, ascii entry.1 = ascii key →
      ∃ text, entry.2 = .str text ∧ usable text) :
    MayCarry (Json.object members) key usable := by
  intro present
  obtain ⟨value, found⟩ := Option.isSome_iff_exists.mp present
  obtain ⟨⟨name, value'⟩, isFirst, rfl⟩ := Option.map_eq_some_iff.mp found
  obtain ⟨entry, member, same⟩ := List.mem_map.mp (List.mem_of_find?_eq_some isFirst)
  have named : name = ascii key := by simpa using List.find?_some isFirst
  obtain ⟨isName, isValue⟩ := Prod.mk.inj same
  obtain ⟨text, isText, fits⟩ := each entry member (isName.trans named)
  refine ⟨text, ?_, fits⟩
  show some ((Json.lookup _ (ascii key)).getD .null) = _
  rw [found, ← isText, isValue]
  rfl

theorem forall_mem_optional {P : String × Json → Prop} {key : String} {value : Bytes} :
    (∀ entry ∈ PaymentService.optional key value, P entry) ↔ (value ≠ [] → P (key, .str value)) := by
  unfold PaymentService.optional
  cases value with
  | nil => simp
  | cons first rest => simp

/-- What the gate let through. -/
theorem outward_of_pass {url : Bytes} (some : url ≠ [])
    (passes : PayUtils.validateNotifyUrl url = none) : Outward url :=
  (PayUtils.validate_accepts some).mp passes

theorem due_of_pass {text : Bytes} {now : Nat}
    (passes : PayUtils.validateTimeExpire text (ascii "wechat") now = none) :
    DueWithinWeek now text := by
  unfold PayUtils.validateTimeExpire at passes
  split at passes
  · cases passes
  · rename_i deadline parsed
    split at passes
    · cases passes
    · split at passes
      · cases passes
      · rename_i late far
        simp only [true_and, gt_iff_lt, not_lt] at far
        exact ⟨deadline, parsed, by omega, far⟩

/-- The fields of a WeChat order that pass the table. -/
theorem fields_of_pass {outTradeNo description attach : Bytes}
    (passes : PayUtils.validateWechatOrderFields outTradeNo description attach = none) :
    (6 ≤ outTradeNo.length ∧ outTradeNo.length ≤ 32 ∧
      ∀ c ∈ outTradeNo, PayUtils.isOutTradeNoByte c = true) ∧
    (description ≠ [] ∧ PayUtils.utf8CodePointLength description ≤ 127) ∧
    (attach ≠ [] → PayUtils.utf8CodePointLength attach ≤ 128) := by
  unfold PayUtils.validateWechatOrderFields at passes
  split at passes
  · cases passes
  · split at passes
    · cases passes
    · split at passes
      · cases passes
      · split at passes
        · cases passes
        · split at passes
          · cases passes
          · rename_i lengths bytes named long attached
            simp only [gt_iff_lt, Bool.or_eq_true, decide_eq_true_eq, not_or, not_lt] at lengths
            simp only [Bool.not_eq_true', Bool.not_eq_false, List.all_eq_true] at bytes
            exact ⟨⟨lengths.1, lengths.2, bytes⟩, ⟨by simpa using named, Nat.le_of_not_lt long⟩,
              fun some => by simpa [some] using attached⟩

/-! ### What the services send -/

variable {cfg : Config}

theorem admits_createPayment {body : CreatePaymentRequest} {key : Bytes} {paymentNo : Drawn}
    {now totalFen : Nat} (passes : createProblem cfg.checked body now = none) :
    (Request.createPayment body key paymentNo now).Admits
      (.createQRPayment body.channel (createPayload cfg.checked body totalFen)) := by
  simp only [createProblem, Option.or_eq_none_iff] at passes
  obtain ⟨isPublic, dueInTime, fields⟩ := passes
  have outward : body.notifyUrl ≠ [] → Outward body.notifyUrl :=
    fun some => outward_of_pass some isPublic
  refine ⟨?_, fun isWechat => ?_⟩
  · unfold createPayload
    split
    · refine mayCarry_object ?_
      simp only [List.forall_mem_append, List.forall_mem_cons, forall_mem_optional]
      simpa +decide using outward
    · refine mayCarry_object ?_
      simp only [List.forall_mem_append, List.forall_mem_cons, forall_mem_optional]
      split <;> simpa +decide using outward
  · have other : body.channel ≠ ascii "alipay" := by rw [isWechat]; decide
    obtain ⟨named, described, attached⟩ := fields_of_pass (by simpa [isWechat] using fields)
    rw [createPayload, if_neg other]
    refine ⟨⟨body.orderNo, ?_, named⟩, ⟨body.description, ?_, described⟩, mayCarry_object ?_,
      mayCarry_object ?_⟩
    · simp +decide [Json.at?, Json.get, Json.object, Json.lookup]
    · simp +decide [Json.at?, Json.get, Json.object, Json.lookup]
    · simp only [List.forall_mem_append, List.forall_mem_cons, forall_mem_optional]
      split <;> simpa +decide using attached
    · have due : body.timeExpire ≠ [] → DueWithinWeek now body.timeExpire := by
        intro some
        exact due_of_pass (by simpa [isWechat, some] using dueInTime)
      simp only [List.forall_mem_append, List.forall_mem_cons, forall_mem_optional]
      split <;> simpa +decide [Request.clock] using due

theorem admits_createQRPayment {body : Json} {paymentNo : Drawn} {now : Nat} {qr : QrRequest}
    {currency : Bytes} (passes : qrProblem cfg.checked qr now = none) :
    (Request.createQRPayment body paymentNo now).Admits
      (.createQRPayment qr.channel (qrPayload qr currency)) := by
  simp only [qrProblem, Option.or_eq_none_iff] at passes
  obtain ⟨dueInTime, wechat⟩ := passes
  by_cases isWechat : qr.channel = ascii "wechat"
  · rw [if_pos isWechat] at wechat
    split at wechat
    · cases wechat
    · obtain ⟨fields, isPublic⟩ := Option.or_eq_none_iff.mp wechat
      obtain ⟨named, described, _⟩ := fields_of_pass fields
      have outward : qr.notifyUrl ≠ [] → Outward qr.notifyUrl :=
        fun some => outward_of_pass some (by simpa [some] using isPublic)
      have due : qr.timeExpire ≠ [] → DueWithinWeek now qr.timeExpire := by
        intro some
        exact due_of_pass (by simpa [isWechat, some] using dueInTime)
      rw [qrPayload, if_pos isWechat]
      refine ⟨mayCarry_object ?_, fun _ => ⟨⟨qr.orderNo, ?_, named⟩, ⟨qr.subject, ?_, described⟩,
        mayCarry_object ?_, mayCarry_object ?_⟩⟩
      · simp only [List.forall_mem_append, List.forall_mem_cons, forall_mem_optional]
        simpa +decide using outward
      · simp +decide [Json.at?, Json.get, Json.object, Json.lookup]
      · simp +decide [Json.at?, Json.get, Json.object, Json.lookup]
      · simp only [List.forall_mem_append, List.forall_mem_cons, forall_mem_optional]
        simp +decide
      · simp only [List.forall_mem_append, List.forall_mem_cons, forall_mem_optional]
        simpa +decide [Request.clock] using due
  · rw [qrPayload, if_neg isWechat]
    refine ⟨mayCarry_object ?_, fun isChannel => absurd isChannel isWechat⟩
    simp only [List.forall_mem_append, List.forall_mem_cons]
    split <;> simp +decide

/-- A refund whose request passed and whose amounts fit. -/
structure RefundService.RefundCase.Fits (cfg : Config) (c : RefundService.RefundCase) : Prop where
  passes : RefundService.requestProblem cfg.checked c.request = none
  some : 0 < c.refundFen
  within : c.refundFen ≤ c.totalFen

open RefundService in
theorem fields_of_refund {request : CreateRefundRequest}
    (passes : requestProblem cfg.checked request = none) :
    request.reason.length ≤ 80 ∧ (request.notifyUrl ≠ [] → Outward request.notifyUrl) ∧
      (request.fundsAccount ≠ [] →
        request.fundsAccount = ascii "AVAILABLE" ∨ request.fundsAccount = ascii "UNSETTLED") := by
  unfold requestProblem at passes
  split at passes
  · cases passes
  · rename_i short
    split at passes
    · cases passes
    · split at passes
      · cases passes
      · split at passes
        · cases passes
        · rename_i account
          refine ⟨Nat.le_of_not_lt short, fun some => ?_, fun some => ?_⟩
          · exact outward_of_pass some (by simpa [some] using passes)
          · by_contra other
            simp only [not_or] at other
            exact account (by simp [some, other])

open RefundService in
theorem admits_createRefund {body : CreateRefundRequest} {key : Bytes} {uuid : Drawn}
    {c : RefundCase} (fits : c.Fits cfg) :
    (Request.createRefund body key uuid).Admits
      (.refund (ascii "alipay") (alipayRefundPayload c)) ∧
    (Request.createRefund body key uuid).Admits
      (.refund (ascii "wechat") (wechatRefundPayload c)) := by
  obtain ⟨short, outward, account⟩ := fields_of_refund fits.passes
  have isPayload : wechatRefundPayload c = Json.object ([("out_trade_no", .str c.orderNo),
      ("out_refund_no", .str c.refundNo)] ++ PaymentService.optional "reason" c.request.reason ++
      PaymentService.optional "notify_url" c.request.notifyUrl ++
      PaymentService.optional "funds_account" c.request.fundsAccount ++
      [("amount", Json.object [("refund", .int c.refundFen), ("total", .int c.totalFen),
        ("currency", .str c.currency)])]) := rfl
  constructor
  · refine ⟨mayCarry_object ?_, mayCarry_object ?_, mayCarry_object ?_, fun isWechat => ?_⟩
    · split <;> simp +decide
    · split <;> simp +decide [short]
    · split <;> simp +decide
    · exact absurd isWechat (by decide)
  · rw [isPayload]
    refine ⟨mayCarry_object ?_, mayCarry_object ?_, mayCarry_object ?_, fun _ => ?_⟩
    · simp only [List.forall_mem_append, List.forall_mem_cons, forall_mem_optional]
      simpa +decide using outward
    · simp only [List.forall_mem_append, List.forall_mem_cons, forall_mem_optional]
      simp +decide [short]
    · simp only [List.forall_mem_append, List.forall_mem_cons, forall_mem_optional]
      simpa +decide using account
    · have has : (wechatRefundPayload c).at? (ascii "amount") =
          some (Json.object [("refund", .int c.refundFen), ("total", .int c.totalFen),
            ("currency", .str c.currency)]) := by
        simp only [wechatRefundPayload]
        split <;> split <;> split <;>
          simp +decide [Json.at?, Json.get, Json.object, Json.lookup]
      rw [← isPayload]
      refine ⟨_, c.refundFen, c.totalFen, has, ?_, ?_, by exact_mod_cast fits.some,
        by exact_mod_cast fits.within⟩
      · simp [Json.at?, Json.get, Json.object, Json.lookup]
      · simp +decide [Json.at?, Json.get, Json.object, Json.lookup]

end Payloads

/-! ## The law -/

section Runs

variable {cfg : Config} {ok : PaySys → PayEvent → Prop} {events : List PayEvent} {s : PaySys}
  {p : PayProc}

/-- A request asks for nothing but what it admits. -/
theorem asks_admitted (cfg : Config) (request : Request) :
    (serve cfg.checked request).Asks request.Admits request.Admits := by
  by_cases creates : request.creates
  · cases request with
    | createPayment body key paymentNo now =>
        exact asks_createPayment fun _ passes => admits_createPayment passes
    | createQRPayment body paymentNo now =>
        exact asks_createQRPayment fun _ _ passes => admits_createQRPayment passes
    | createRefund body key uuid =>
        exact asks_createRefund fun passes c isRequest some within =>
          admits_createRefund ⟨isRequest ▸ passes, some, within⟩
    | _ => exact creates.elim
  · have free : ∀ x : ChannelCall, ¬ x.Charges → request.Admits x := by
      intro x free
      cases x with
      | createQRPayment _ _ => exact absurd trivial free
      | refund _ _ => exact absurd trivial free
      | _ => trivial
    exact (mute_serve cfg.checked creates).mono free free

/-- What a process is about to hand to a channel keeps the channel's rules. -/
theorem calls_admitted (run : PayRun cfg.checked ok events s) (member : p ∈ s.procs)
    {request : Request} (owner : Owner p.log request) {x : ChannelCall}
    {next : ChannelAnswer → PayProg} {rest : List PayProg} (head : p.queue = .call x next :: rest) :
    request.Admits x := by
  have asks : ∀ waiting ∈ p.queue, waiting.Asks request.Admits request.Admits :=
    run.keeps_of (Q := fun started => started = request) Prog.asks_closed (fun _ => id)
      (by rintro _ rfl; exact asks_admitted cfg _) p member request owner rfl
  exact (asks (.call x next) (by rw [head]; exact List.mem_cons_self)).1

end Runs

/-- An order with a deadline and a web address, up to the offer to WeChat. -/
def orderOffered : List PayEvent :=
  [.spawn (.createQRPayment (Json.object [("order_no", Json.text "order-1"),
    ("amount", Json.text "10.00"), ("channel", Json.text "wechat"), ("user_id", .int 1),
    ("subject", Json.text "Tea"), ("notify_url", Json.text "https://shop.example.com/notify"),
    ("time_expire", Json.text "2030-01-01T00:00:00+08:00")]) (drawn "p") 1893420000)] ++
    steps 0 4 1893420000

private def offersQr : Option ChannelCall → Bool
  | some (.createQRPayment _ _) => true
  | _ => false

theorem calls_admitted_offered :
    ∃ s p request x next rest, PayRun shop.checked (fun _ _ => true = true) orderOffered s ∧
      p ∈ s.procs ∧ Owner p.log request ∧ p.queue = .call x next :: rest ∧ x.Charges ∧
      request.Admits x := by
  have evaluates : (Sys.runAll (S := payStore) (serve shop.checked) (fun _ _ => true)
      (Sys.initial Db.empty) orderOffered).any (fun s =>
        offersQr ((s.procs[0]?).bind nextCall)) = true := by decide +kernel
  obtain ⟨s, run, offers⟩ := Run.exists_of_runAll evaluates
  unfold offersQr at offers
  split at offers
  · rename_i channel payload isNext
    obtain ⟨p, proc, isNext⟩ := Option.bind_eq_some_iff.mp isNext
    obtain ⟨next, rest, head⟩ := head_of_nextCall isNext
    have member := List.mem_of_getElem? proc
    obtain ⟨request, owner⟩ := run.owned p member
    exact ⟨s, p, request, _, next, rest, run, member, owner, head, trivial,
      calls_admitted run member owner head⟩
  · cases offers

end DrogonPay
