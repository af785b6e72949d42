import DrogonPay.Channels.Exchange
import DrogonPay.Laws.Settled
import DrogonPay.Promises.Reservations
import Mathlib.Data.List.Infix

/-!
Contract: an unknown outcome closes nothing.

Owns:
- what it means that a channel refused a refund or an order;
- the laws of the two classifiers: a refund is closed, or an attempt failed,
  only if nothing was sent or the channel refused, with the exchanges on which
  the code keeps them.

Does not own: notifications and syncs, which close rows on what they read.
-/

namespace DrogonPay

open ReadCommitted

/-! ## Texts -/

theorem startsWith_append (literal start : String) (rest : Bytes)
    (short : (ascii start).length ≤ (ascii literal).length) :
    startsWith (ascii literal ++ rest) start = (ascii start).isPrefixOf (ascii literal) := by
  rw [startsWith, Bool.eq_iff_iff, List.isPrefixOf_iff_prefix, List.isPrefixOf_iff_prefix]
  constructor
  · exact fun front => List.prefix_of_prefix_length_le front (List.prefix_append _ _) short
  · exact fun front => front.trans (List.prefix_append _ _)

/-- Whether a text that starts with a literal has a prefix is evaluated on the
literal. -/
theorem startsWith_literal {literal start : String} (rest : Bytes) {holds : Bool}
    (short : (ascii start).length ≤ (ascii literal).length)
    (evaluates : (ascii start).isPrefixOf (ascii literal) = holds) :
    startsWith (ascii literal ++ rest) start = holds :=
  (startsWith_append literal start rest short).trans evaluates

/-- A text that starts with another byte has not this prefix. -/
theorem startsWith_other {first b : UInt8} {rest tail : Bytes} (start : String)
    (isStart : ascii start = b :: tail) (different : b ≠ first) :
    startsWith (first :: rest) start = false := by
  rw [startsWith, isStart]
  simp [List.isPrefixOf, different]

theorem contains_of_append (front : Bytes) (part : String) :
    contains (front ++ ascii part) part = true := by
  rw [contains, List.any_eq_true]
  refine ⟨ascii part, ?_, ?_⟩
  · exact (List.mem_tails _ _).mpr (List.suffix_append _ _)
  · rw [startsWith, List.isPrefixOf_iff_prefix]

namespace WechatChannel

/-- The text of a failed answer starts with its status. -/
theorem startsWith_http (status : HttpStatus) (detail : Bytes) :
    startsWith (httpFailureText status detail) "HTTP " = true := by
  rw [httpFailureText, List.append_assoc, List.append_assoc,
    startsWith_append _ _ _ (by decide)]
  decide

/-- It starts with a four exactly for a 4xx. -/
theorem startsWith_http_four (status : HttpStatus) (detail : Bytes) :
    startsWith (httpFailureText status detail) "HTTP 4" = true ↔
      400 ≤ status.code ∧ status.code < 500 := by
  obtain ⟨code, lower, upper⟩ := status
  have tens : Decimal.natText (code / 10) = Decimal.natText (code / 10 / 10) ++
      [Decimal.digit (code / 10)] := Decimal.natText_step (by omega)
  have hundreds : Decimal.natText (code / 10 / 10) = [Decimal.digit (code / 10 / 10)] :=
    Decimal.natText_small (by omega)
  have first : Decimal.digit (code / 10 / 10) = 52 ↔ code / 10 / 10 = 4 := by
    rw [← UInt8.toNat_inj, Decimal.digit_toNat]
    have small : code / 10 / 10 < 10 := by omega
    rw [Nat.mod_eq_of_lt small]
    show 48 + code / 10 / 10 = 52 ↔ _
    omega
  have isFour : (52 : UInt8) = Decimal.digit (code / 10 / 10) ↔ 400 ≤ code ∧ code < 500 := by
    rw [eq_comm, first]
    omega
  rw [httpFailureText, Decimal.natText_step (n := code) (by omega), tens, hundreds]
  simpa [startsWith, ascii, List.isPrefixOf] using isFour

theorem contains_no_envelope (status : HttpStatus) :
    contains (httpFailureText status (ascii "no error envelope")) "no error envelope" = true := by
  have untrimmed : httpFailureText status (ascii "no error envelope") =
      (ascii "HTTP " ++ Decimal.natText status.code ++ ascii ": ") ++
        ascii "no error envelope" := rfl
  rw [untrimmed]
  exact contains_of_append _ _

end WechatChannel

/-! ## Refusals -/

/-- The two channels. -/
inductive Provider where
  | wechat
  | alipay
deriving DecidableEq, Repr

def Provider.name : Provider → Bytes
  | .wechat => ascii "wechat"
  | .alipay => ascii "alipay"

/-- No request left the process. -/
def Exchange.isUnsent : Exchange → Bool
  | .unsent _ => true
  | _ => false

/-- A verified 4xx answer of WeChat with an error envelope. -/
def WechatChannel.RefusesByStatus (response : HttpResponse) : Prop :=
  400 ≤ response.status.code ∧ response.status.code < 500 ∧
    ∃ detail, errorEnvelope response.json = some detail ∧ isBlank detail = false

/-- A verified 2xx answer of WeChat with this body. -/
def WechatChannel.AnswersWith (response : HttpResponse) (body : Json) : Prop :=
  200 ≤ response.status.code ∧ response.status.code < 300 ∧ response.json = some body

/-- The body names an error code. -/
def NamesCode (body : Json) : Prop := ∃ code, body.stringAt "code" = some code ∧ code ≠ []

/-- An Alipay answer that was read to its end: an `error_response`, or an answer
whose code is not the one of success. -/
def AlipayChannel.Refuses (method : Bytes) (response : HttpResponse) : Prop :=
  response.status.code = 200 ∧ ∃ root, response.json = some root ∧
    ((∃ problem, readBody method root = some (.error problem)) ∨
      ∃ answer, readBody method root = some (.ok answer) ∧
        ∃ code, answer.stringAt "code" = some code ∧ code ≠ [] ∧ code ≠ ascii "10000")

/-- A complete answer of the channel says that the refund was refused or
closed. -/
def RefusesRefund (provider : Provider) (x : Exchange) : Prop :=
  ∃ response, x = .answered response ∧
    match provider with
    | .wechat =>
        response.signatureError = none ∧
          (WechatChannel.RefusesByStatus response ∨
            ∃ body, WechatChannel.AnswersWith response body ∧
              (NamesCode body ∨ ∃ status, body.stringAt "status" = some status ∧
                (status = ascii "CLOSED" ∨ status = ascii "ABNORMAL")))
    | .alipay => AlipayChannel.Refuses (ascii "alipay.trade.refund") response

/-- A complete answer of the channel refuses the order. -/
def RefusesOrder (provider : Provider) (x : Exchange) : Prop :=
  ∃ response, x = .answered response ∧
    match provider with
    | .wechat =>
        response.signatureError = none ∧
          (WechatChannel.RefusesByStatus response ∨
            ∃ body, WechatChannel.AnswersWith response body ∧ NamesCode body)
    | .alipay => AlipayChannel.Refuses (ascii "alipay.trade.precreate") response

/-- Everything a WeChat client can hand its caller. -/
theorem WechatChannel.sendWechatRequest_cases {timeoutMs : Nat} {x : Exchange} {a : ChannelAnswer}
    (answered : sendWechatRequest timeoutMs x = some a) :
    x.isUnsent = true ∨ (∃ rest, a.error = ascii "http request" ++ rest) ∨
      ∃ response, x = .answered response ∧
        ((∃ verifyError, response.signatureError = some verifyError ∧
            a.error = ascii "response signature verification failed: " ++ verifyError) ∨
          response.signatureError = none ∧
            ((∃ detail, a.error = httpFailureText response.status detail ∧
                (detail = ascii "no error envelope" ∨
                  errorEnvelope response.json = some detail ∧ isBlank detail = false)) ∨
              a.error = ascii "invalid json response" ∨
              a.error = [] ∧ (a.result = .obj [] ∨ AnswersWith response a.result))) := by
  cases x with
  | unsent fault => exact Or.inl rfl
  | timedOut =>
      cases answered
      exact Or.inr (Or.inl ⟨ascii " timed out after " ++ Decimal.natText timeoutMs ++ ascii "ms",
        rfl⟩)
  | lost =>
      cases answered
      exact Or.inr (Or.inl ⟨ascii " failed", rfl⟩)
  | answered response =>
      refine Or.inr (Or.inr ⟨response, rfl, ?_⟩)
      simp only [sendWechatRequest] at answered
      split at answered
      · rename_i verifyError unverified
        cases answered
        exact Or.inl ⟨verifyError, unverified, rfl⟩
      · rename_i verified
        refine Or.inr ⟨verified, ?_⟩
        split_ifs at answered with empty outside
        · cases answered
          exact Or.inr (Or.inr ⟨rfl, Or.inl rfl⟩)
        · obtain ⟨detail, envelope, isAnswer⟩ := Option.bind_eq_some_iff.mp answered
          cases isAnswer
          refine Or.inl ⟨_, rfl, ?_⟩
          cases blank : isBlank detail with
          | true => exact Or.inl rfl
          | false => exact Or.inr ⟨envelope, blank⟩
        · split at answered
          · cases answered
            exact Or.inr (Or.inl rfl)
          · rename_i body parsed
            cases answered
            exact Or.inr (Or.inr ⟨rfl, Or.inr ⟨by omega, by omega, parsed⟩⟩)

/-- What the services hear of this exchange. -/
def heard (writer : JsonWriter) (timeoutMs : Nat) (x : Exchange) (call : ChannelCall)
    (a : ChannelAnswer) : Prop :=
  channelAnswer writer timeoutMs call x = some a

/-! ## Refunds -/

/-- The statement closes the refund. -/
def closesRefund (refundNo : Bytes) : Stmt → Prop
  | .casRefund target status _ => target = refundNo ∧ status = .REFUND_FAIL
  | .updateRefund target status _ => target = refundNo ∧ status = .REFUND_FAIL
  | _ => False

/-- The answer says that the refund failed. -/
def saysRefundFailed (reply : Reply) : Prop :=
  ((reply.body.at? (ascii "data")).bind fun data => data.at? (ascii "status")) =
    some (Json.text "REFUND_FAIL")

theorem sparesKeys_closesRefund (refundNo : Bytes) : SparesKeys (closesRefund refundNo) := by
  intro st onKeys
  cases st <;> first | exact id | cases onKeys

namespace RefundService

variable {hears : ChannelCall → ChannelAnswer → Prop} {c : RefundCase} {key hash : Bytes}

theorem may_proceedCallback {ran : (st : Stmt) → st.Res → Prop} {issues : Stmt → Prop}
    {reports : Reply → Prop}
    (spares : SparesKeys issues) (reply : Reply) :
    (proceedCallback key hash reply).May hears ran issues reports ↔ reports reply := by
  have wrapped : (wrappedRefundCallback key hash reply).May hears ran issues reports ↔
      reports reply := by
    unfold wrappedRefundCallback
    split
    · exact may_storeThenAnswer spares
    · exact may_answer
  unfold proceedCallback
  split
  · exact may_clearReservation spares fun _ => wrapped
  · exact wrapped

/-- What is looked for in a refund's program. -/
private abbrev Closes (hears : ChannelCall → ChannelAnswer → Prop) (c : RefundCase)
    (program : PayProg) : Prop :=
  program.May hears Stmt.Possible (closesRefund c.refundNo) saysRefundFailed

private theorem closes_callback (reply : Reply) :
    Closes hears c (proceedCallback key hash reply) ↔ saysRefundFailed reply :=
  may_proceedCallback (sparesKeys_closesRefund _) reply

/-- An error without data says nothing of the refund. -/
private theorem not_failed_refundError (code : Nat) (text : Bytes) :
    ¬ saysRefundFailed (refundError code text) := by
  intro stated
  cases stated

private theorem not_closes_settleOrder {refundStatus : RefundStatus} {finished : PayProg}
    (ends : ¬ Closes hears c finished) :
    ¬ Closes hears c (settleOrder c refundStatus (proceedCallback key hash) finished) := by
  have failed : ∀ text, ¬ Closes hears c (proceedCallback key hash (refundError 1500 text)) :=
    fun text closes => not_failed_refundError _ _ ((closes_callback _).mp closes)
  unfold settleOrder
  split
  · rintro (issued | closes | ⟨sumText, _, closes⟩)
    · exact issued
    · exact failed _ closes
    · dsimp only at closes
      split at closes
      · exact failed _ closes
      · split at closes
        · rcases closes with issued | closes | ⟨_, _, closes⟩
          · exact issued
          · exact failed _ closes
          · exact ends closes
        · exact ends closes
  · exact ends

/-- An accepted refund is not closed. -/
private theorem not_closes_accepted {refundStatus : RefundStatus} {refundId : Bytes} {result : Json}
    (accepted : refundStatus ≠ .REFUND_FAIL) :
    ¬ Closes hears c (updateRefundWithSuccess c refundStatus refundId result
      (proceedCallback key hash)) := by
  rintro (issued | closes | ⟨moved, _, closes⟩)
  · exact accepted issued.2
  · exact not_failed_refundError _ _ ((closes_callback _).mp closes)
  · refine not_closes_settleOrder ?_ closes
    rw [closes_callback]
    intro stated
    have isText : Json.str refundStatus.text = Json.text "REFUND_FAIL" := Option.some.inj stated
    cases refundStatus with
    | REFUND_FAIL => exact accepted rfl
    | _ => exact absurd isText (by simp [Json.text, RefundStatus.text]; decide)

/-- A refusal of WeChat closes the refund when it is definitive. -/
private theorem closes_refused {errorMessage : Bytes} {definitive : Bool} :
    Closes hears c (refuseWechatRefund c errorMessage definitive (proceedCallback key hash)) ↔
      definitive = true := by
  cases definitive with
  | true => exact iff_of_true (Or.inl (Or.inl ⟨rfl, rfl⟩)) rfl
  | false =>
      refine iff_of_false (fun closes => ?_) (by simp)
      cases (closes_callback _).mp closes

/-- The classifier passes only local faults and 4xx answers with an envelope. -/
private theorem certain_cases {timeoutMs : Nat} {x : Exchange} {a : ChannelAnswer}
    (answered : WechatChannel.sendWechatRequest timeoutMs x = some a) (failed : a.error ≠ [])
    (certain : refundCertainlyDidNotHappen a.error = true) :
    x.isUnsent = true ∨ RefusesRefund .wechat x := by
  rcases WechatChannel.sendWechatRequest_cases answered with unsent | ⟨rest, text⟩ |
    ⟨response, rfl, ⟨verifyError, _, text⟩ | ⟨verified, ⟨detail, text, envelope⟩ | text | ⟨text, _⟩⟩⟩
  · exact Or.inl unsent
  · have isHttp : startsWith a.error "http request" = true := by
      rw [text]
      exact startsWith_literal rest (by decide) (by decide)
    have notRefused : startsWith a.error "HTTP 4" = false := by
      rw [text]
      exact startsWith_literal rest (by decide) (by decide)
    simp [refundCertainlyDidNotHappen, isHttp, notRefused] at certain
  · have unverified : startsWith a.error "response signature verification failed" = true := by
      rw [text]
      exact startsWith_literal verifyError (by decide) (by decide)
    have notRefused : startsWith a.error "HTTP 4" = false := by
      rw [text]
      exact startsWith_literal verifyError (by decide) (by decide)
    simp [refundCertainlyDidNotHappen, unverified, notRefused] at certain
  · have isHttp : startsWith a.error "HTTP " = true := by
      rw [text]
      exact WechatChannel.startsWith_http _ _
    have refused : startsWith a.error "HTTP 4" = true ∧
        contains a.error "no error envelope" = false := by
      simpa [refundCertainlyDidNotHappen, isHttp] using certain
    rw [text, WechatChannel.startsWith_http_four] at refused
    rcases envelope with none | ⟨isEnvelope, notBlank⟩
    · rw [none, WechatChannel.contains_no_envelope] at refused
      cases refused.2
    · exact Or.inr ⟨response, rfl, verified,
        Or.inl ⟨refused.1.1, refused.1.2, detail, isEnvelope, notBlank⟩⟩
  · rw [text] at certain
    exact absurd certain (by decide)
  · exact absurd text failed

/-- A program after a read that may throw. -/
private theorem closes_orThrow {α : Type} {value : Option α} {next : α → PayProg} :
    Closes hears c (orThrow value next) ↔ ∃ a, value = some a ∧ Closes hears c (next a) := by
  cases value <;> simp [orThrow]

private theorem refuses_of_closes_wechat {timeoutMs : Nat} {x : Exchange} {a : ChannelAnswer}
    (answered : WechatChannel.sendWechatRequest timeoutMs x = some a)
    (closes : Closes hears c (onWechatRefund c (proceedCallback key hash) a)) :
    x.isUnsent = true ∨ RefusesRefund .wechat x := by
  unfold onWechatRefund at closes
  split at closes
  · rename_i failed
    exact certain_cases answered (by simpa using failed) (closes_refused.mp closes)
  · rename_i accepted
    have noError : a.error = [] := by simpa using accepted
    obtain ⟨status, isStatus, closes⟩ := closes_orThrow.mp closes
    obtain ⟨refundId, _, closes⟩ := closes_orThrow.mp closes
    dsimp only at closes
    -- the body that names a code or a closed status was a verified 2xx
    have refuses : NamesCode a.result ∨ status = ascii "CLOSED" ∨ status = ascii "ABNORMAL" →
        RefusesRefund .wechat x := by
      intro stated
      rcases WechatChannel.sendWechatRequest_cases answered with unsent | ⟨rest, text⟩ |
        ⟨response, rfl, ⟨_, _, text⟩ | ⟨verified, ⟨_, text, _⟩ | text | ⟨_, empty | body⟩⟩⟩
      · cases x with
        | unsent fault =>
            cases answered
            exact absurd noError fault.nonempty
        | _ => cases unsent
      · rw [noError] at text
        cases text
      · rw [noError] at text
        cases text
      · rw [noError] at text
        cases text
      · rw [noError] at text
        cases text
      · rw [empty] at isStatus stated
        cases isStatus
        rcases stated with ⟨code, isCode, notEmpty⟩ | closed | closed
        · cases isCode
          exact absurd rfl notEmpty
        · cases closed
        · cases closed
      · refine ⟨response, rfl, verified, Or.inr ⟨a.result, body, ?_⟩⟩
        rcases stated with code | closed
        · exact Or.inl code
        · exact Or.inr ⟨status, isStatus, closed⟩
    -- a refusal is definitive when the status maps or a code is named
    have refused : ∀ mapped : Bool, (mapped = true →
          status = ascii "CLOSED" ∨ status = ascii "ABNORMAL") →
        Closes hears c (orThrow (a.result.stringAt "code") fun code =>
          orThrow (if code.isEmpty then some [] else a.result.stringAt "message") fun detail =>
            refuseWechatRefund c (wechatRefundProblem mapped status code detail)
              (mapped || !code.isEmpty) (proceedCallback key hash)) →
        RefusesRefund .wechat x := by
      intro mapped closed closes
      obtain ⟨code, isCode, closes⟩ := closes_orThrow.mp closes
      obtain ⟨detail, _, closes⟩ := closes_orThrow.mp closes
      have definitive := closes_refused.mp closes
      rcases Bool.or_eq_true _ _ ▸ definitive with isMapped | named
      · exact refuses (Or.inr (closed isMapped))
      · exact refuses (Or.inl ⟨code, isCode, by simpa using named⟩)
    split at closes
    · exact Or.inr (refused false (by simp) closes)
    · rename_i mapped
      exact Or.inr (refused true (fun _ => PayUtils.mapRefundStatus_fail mapped) closes)
    · rename_i mappedStatus notFail _
      exact absurd closes (not_closes_accepted (by simpa using notFail))

private theorem closes_alipay {a : ChannelAnswer} :
    Closes hears c (onAlipayRefund c (proceedCallback key hash) a) ↔
      a.error ≠ [] ∨ ∃ code, a.result.stringAt "code" = some code ∧ code ≠ ascii "10000" ∧
        (a.result.stringAt "msg").isSome = true := by
  unfold onAlipayRefund
  split
  · rename_i failed
    exact iff_of_true (Or.inl (Or.inl ⟨rfl, rfl⟩)) (Or.inl (by simpa using failed))
  · rename_i accepted
    have noError : a.error = [] := by simpa using accepted
    rw [closes_orThrow]
    constructor
    · rintro ⟨code, isCode, closes⟩
      split at closes
      · rename_i refused
        obtain ⟨msg, isMsg, _⟩ := closes_orThrow.mp closes
        exact Or.inr ⟨code, isCode, refused, by simp [isMsg]⟩
      · obtain ⟨refundId, _, closes⟩ := closes_orThrow.mp closes
        exact absurd closes (not_closes_accepted (by decide))
    · rintro (failed | ⟨code, isCode, refused, readable⟩)
      · exact absurd noError failed
      · obtain ⟨msg, isMsg⟩ := Option.isSome_iff_exists.mp readable
        refine ⟨code, isCode, ?_⟩
        rw [if_pos refused, closes_orThrow]
        exact ⟨msg, isMsg, Or.inl (Or.inl ⟨rfl, rfl⟩)⟩

private theorem invoke_wechat {cfg : Config} {callback : Reply → PayProg}
    (ready : cfg.channels (ascii "wechat") = true) :
    invokeRefundChannel cfg c (ascii "wechat") callback =
      .call (.refund (ascii "wechat") (wechatRefundPayload c)) (onWechatRefund c callback) := by
  have notAlipay : ascii "wechat" ≠ ascii "alipay" := by decide
  rw [invokeRefundChannel, if_neg notAlipay, if_pos rfl, if_pos ready]

private theorem invoke_alipay {cfg : Config} {callback : Reply → PayProg}
    (ready : cfg.channels (ascii "alipay") = true) :
    invokeRefundChannel cfg c (ascii "alipay") callback =
      .call (.refund (ascii "alipay") (alipayRefundPayload c)) (onAlipayRefund c callback) := by
  rw [invokeRefundChannel, if_pos rfl, if_pos ready]

end RefundService

/-- Alipay was not asked, or gave an answer that names a code or says
`error_response`. An answer without a code counts when reading on throws. -/
def AlipaySpeaks (method : Bytes) (reads : Json → Bool) : Exchange → Prop
  | .unsent _ => True
  | .timedOut | .lost => False
  | .answered response =>
      response.status.code = 200 ∧ ∃ root, response.json = some root ∧
        ∀ answer, AlipayChannel.readBody method root = some (.ok answer) →
          answer.stringAt "code" = some [] → reads answer = false

theorem JsonWriter.text_ne_nil (writer : JsonWriter) (value : Json) :
    writer.toStyledString value ≠ [] := by
  obtain ⟨first, rest, text, _⟩ := writer.starts value
  rw [text]
  simp

/-- The errors of the Alipay client are JSON texts. -/
theorem AlipayChannel.sendRequest_error {writer : JsonWriter} {method : Bytes} {x : Exchange}
    {a : ChannelAnswer} (sent : sendRequest writer method x = some a) (failed : a.error ≠ []) :
    ∃ value, a.error = writer.toStyledString value := by
  cases x with
  | unsent fault => cases sent
  | timedOut =>
      cases sent
      exact ⟨_, rfl⟩
  | lost =>
      cases sent
      exact ⟨_, rfl⟩
  | answered response =>
      simp only [sendRequest] at sent
      split at sent
      · cases sent
        exact ⟨_, rfl⟩
      · split at sent
        · cases sent
          exact ⟨_, rfl⟩
        · obtain ⟨body, _, sent⟩ := Option.bind_eq_some_iff.mp sent
          cases body with
          | error problem =>
              cases sent
              exact ⟨_, rfl⟩
          | ok result =>
              cases sent
              exact absurd rfl failed

/-- A caller gives up on an error, and on an answer that it can read and that
has not the code of success. -/
def GivesUp (reads : Json → Bool) (a : ChannelAnswer) : Prop :=
  a.error ≠ [] ∨ ∃ code, a.result.stringAt "code" = some code ∧ code ≠ ascii "10000" ∧
    reads a.result = true

/-- It does so only if nothing was sent or Alipay refused. -/
def GivesUpSoundly (writer : JsonWriter) (method : Bytes) (reads : Json → Bool) (x : Exchange) :
    Prop :=
  ∀ a, AlipayChannel.sendRequest writer method x = some a → GivesUp reads a →
    x.isUnsent = true ∨ ∃ response, x = .answered response ∧
      AlipayChannel.Refuses method response

private theorem not_givesUpSoundly {writer : JsonWriter} {method : Bytes} {reads : Json → Bool}
    {x : Exchange} {value : Json}
    (sent : AlipayChannel.sendRequest writer method x =
      some ⟨.null, writer.toStyledString value⟩)
    (notUnsent : x.isUnsent = false)
    (notRefused : ∀ response, x = .answered response → ¬ AlipayChannel.Refuses method response) :
    ¬ GivesUpSoundly writer method reads x := by
  intro claim
  rcases claim _ sent (Or.inl (writer.text_ne_nil _)) with unsent | ⟨response, answered, refuses⟩
  · rw [notUnsent] at unsent
    cases unsent
  · exact notRefused response answered refuses

/-- What the caller of a request hears of a body that was read. -/
private def heardOf (writer : JsonWriter) : Except Json Json → Option ChannelAnswer
  | .error problem => some ⟨.null, writer.toStyledString problem⟩
  | .ok result => some ⟨result, []⟩

/-- For a body that parses, the code decides. -/
private theorem givesUpSoundly_parsed {writer : JsonWriter} {method : Bytes}
    {reads : Json → Bool} {response : HttpResponse} {root : Json}
    (isOk : response.status.code = 200) (parsed : response.json = some root) :
    GivesUpSoundly writer method reads (.answered response) ↔
      ∀ answer, AlipayChannel.readBody method root = some (.ok answer) →
        answer.stringAt "code" = some [] → reads answer = false := by
  have sent : AlipayChannel.sendRequest writer method (.answered response) =
      (AlipayChannel.readBody method root).bind (heardOf writer) := by
    simp only [AlipayChannel.sendRequest, isOk, ne_eq, not_true_eq_false, if_false, parsed]
    rfl
  have refuses : (Exchange.answered response).isUnsent = true ∨ (∃ other,
      Exchange.answered response = .answered other ∧ AlipayChannel.Refuses method other) ↔
      AlipayChannel.Refuses method response := by
    simp [Exchange.isUnsent]
  unfold GivesUpSoundly
  rw [sent, refuses]
  cases said : AlipayChannel.readBody method root with
  | none => simp
  | some body =>
      cases body with
      | error problem =>
          refine iff_of_true (fun _ _ _ => ?_) (by simp)
          exact ⟨isOk, root, parsed, Or.inl ⟨problem, said⟩⟩
      | ok answer =>
          simp only [Option.bind_some, heardOf, Option.some.injEq, forall_eq', Except.ok.injEq]
          constructor
          · intro claim noCode
            by_contra readable
            obtain ⟨_, other, isOther, ⟨problem, isProblem⟩ | ⟨body, isBody, code, isCode, named, _⟩⟩ :=
              claim (Or.inr ⟨[], noCode, by decide, by simpa using readable⟩)
            · rw [parsed] at isOther
              cases isOther
              rw [said] at isProblem
              cases isProblem
            · rw [parsed] at isOther
              cases isOther
              rw [said] at isBody
              cases isBody
              rw [noCode] at isCode
              exact named (Option.some.inj isCode).symm
          · rintro claim (failed | ⟨code, isCode, refused, readable⟩)
            · exact absurd rfl failed
            · refine ⟨isOk, root, parsed, Or.inr ⟨answer, said, code, isCode, ?_, refused⟩⟩
              rintro rfl
              rw [claim isCode] at readable
              cases readable

/-- Giving up is right exactly when Alipay spoke. -/
theorem givesUpSoundly_iff (writer : JsonWriter) (method : Bytes) (reads : Json → Bool)
    (x : Exchange) : GivesUpSoundly writer method reads x ↔ AlipaySpeaks method reads x := by
  cases x with
  | unsent fault => exact iff_of_true (fun _ _ _ => Or.inl rfl) trivial
  | timedOut => exact iff_of_false (not_givesUpSoundly rfl rfl (by simp)) id
  | lost => exact iff_of_false (not_givesUpSoundly rfl rfl (by simp)) id
  | answered response =>
      by_cases isOk : response.status.code = 200
      · cases parsed : response.json with
        | none =>
            have unread : ∀ other, Exchange.answered response = .answered other →
                ¬ AlipayChannel.Refuses method other := by
              rintro _ ⟨⟩ ⟨_, root, isRoot, _⟩
              rw [parsed] at isRoot
              cases isRoot
            have sent : AlipayChannel.sendRequest writer method (.answered response) =
                some ⟨.null, writer.toStyledString (Json.object
                  [("error", Json.text "Invalid response format"),
                    ("raw_response", .str response.body)])⟩ := by
              simp [AlipayChannel.sendRequest, isOk, parsed]
            refine iff_of_false (not_givesUpSoundly sent rfl unread) ?_
            rintro ⟨_, root, isRoot, _⟩
            rw [parsed] at isRoot
            cases isRoot
        | some root =>
            rw [givesUpSoundly_parsed isOk parsed]
            constructor
            · exact fun reads => ⟨isOk, root, parsed, reads⟩
            · rintro ⟨_, other, isOther, reads⟩
              rw [parsed] at isOther
              cases isOther
              exact reads
      · have unread : ∀ other, Exchange.answered response = .answered other →
            ¬ AlipayChannel.Refuses method other := by
          rintro _ ⟨⟩ refuses
          exact isOk refuses.1
        have sent : AlipayChannel.sendRequest writer method (.answered response) =
            some ⟨.null, writer.toStyledString (Json.object [("error",
              .str (ascii "HTTP status code: " ++ Decimal.natText response.status.code))])⟩ := by
          simp [AlipayChannel.sendRequest, isOk]
        exact iff_of_false (not_givesUpSoundly sent rfl unread) fun speaks => isOk speaks.1

/-- The refund is closed only if nothing was sent or the channel refused. -/
def RefundClosedSoundly (writer : JsonWriter) (timeoutMs : Nat) (cfg : Config)
    (c : RefundService.RefundCase) (idempotencyKey requestHash : Bytes) (provider : Provider)
    (x : Exchange) : Prop :=
  (RefundService.invokeRefundChannel cfg c provider.name
      (RefundService.proceedCallback idempotencyKey requestHash)).May
    (heard writer timeoutMs x) Stmt.Possible (closesRefund c.refundNo) saysRefundFailed →
    (cfg.channels provider.name = false ∨ x.isUnsent = true) ∨ RefusesRefund provider x

/-- WeChat refunds of unknown outcome stay open; Alipay ones do exactly when
Alipay was not asked or gave a full answer. -/
theorem refund_closed_soundly_iff (writer : JsonWriter) (timeoutMs : Nat) (cfg : Config)
    (c : RefundService.RefundCase) (idempotencyKey requestHash : Bytes) (provider : Provider)
    (x : Exchange) :
    RefundClosedSoundly writer timeoutMs cfg c idempotencyKey requestHash provider x ↔
      (provider = .alipay → cfg.channels (ascii "alipay") = true →
        AlipaySpeaks (ascii "alipay.trade.refund")
          (fun answer => (answer.stringAt "msg").isSome) x) := by
  have notAlipay : ascii "wechat" ≠ ascii "alipay" := by decide
  unfold RefundClosedSoundly
  cases provider with
  | wechat =>
      refine iff_of_true ?_ (fun isAlipay => by cases isAlipay)
      rw [show Provider.wechat.name = ascii "wechat" from rfl]
      by_cases ready : cfg.channels (ascii "wechat") = true
      · rw [RefundService.invoke_wechat ready]
        rintro ⟨a, answered, closes⟩
        have sent : WechatChannel.sendWechatRequest timeoutMs x = some a := by
          simpa [heard, channelAnswer, ChannelCall.channel, notAlipay] using answered
        rcases RefundService.refuses_of_closes_wechat sent closes with unsent | refuses
        · exact Or.inl (Or.inr unsent)
        · exact Or.inr refuses
      · exact fun _ => Or.inl (Or.inl (by simpa using ready))
  | alipay =>
      rw [show Provider.alipay.name = ascii "alipay" from rfl]
      by_cases ready : cfg.channels (ascii "alipay") = true
      · rw [RefundService.invoke_alipay ready, ← givesUpSoundly_iff writer, may_call]
        simp only [heard, channelAnswer, ChannelCall.channel, if_true, alipayMethod, ready,
          true_imp_iff]
        constructor
        · intro claim a sent givesUp
          rcases claim ⟨a, sent, RefundService.closes_alipay.mpr givesUp⟩ with
            (unready | unsent) | ⟨response, answered, refuses⟩
          · cases unready
          · exact Or.inl unsent
          · exact Or.inr ⟨response, answered, refuses⟩
        · rintro claim ⟨a, sent, closes⟩
          rcases claim a sent (RefundService.closes_alipay.mp closes) with
            unsent | ⟨response, answered, refuses⟩
          · exact Or.inl (Or.inr unsent)
          · exact Or.inr ⟨response, answered, refuses⟩
      · refine iff_of_true (fun _ => Or.inl (Or.inl ?_)) (fun _ isReady => absurd isReady ready)
        simpa using ready

/-! Alipay does not answer a refund, and the refund is closed. -/

/-- The layout of jsoncpp for an object of plain texts. -/
def plainWriter : JsonWriter where
  toStyledString
    | .obj members =>
        ascii "\x7b\n" ++ (members.map fun (key, value) =>
          ascii "\t\"" ++ key ++ ascii "\" : \"" ++ value.asString.getD [] ++
            ascii "\"\n").flatten ++ ascii "\x7d\n"
    | _ => ascii "null\n"
  starts value := by
    cases value with
    | obj members => exact ⟨123, _, rfl, by decide⟩
    | _ => exact ⟨110, _, rfl, by decide⟩

/-- Four yuan of ten, asked back on Alipay. -/
def fourOfTen : RefundService.RefundCase :=
  ⟨refundOf "r" "4.00", ascii "r", ascii "#p", 400, 1000, ascii "CNY"⟩

theorem refund_closed_on_no_answer :
    ¬ RefundClosedSoundly plainWriter 30000 shop fourOfTen [] [] .alipay .timedOut := by
  intro sound
  have closes : (RefundService.invokeRefundChannel shop fourOfTen Provider.alipay.name
      (RefundService.proceedCallback [] [])).May (heard plainWriter 30000 .timedOut) Stmt.Possible
      (closesRefund fourOfTen.refundNo) saysRefundFailed :=
    ⟨_, rfl, Or.inl (Or.inl ⟨rfl, rfl⟩)⟩
  rcases sound closes with (unready | unsent) | ⟨_, answered, _⟩
  · cases unready
  · cases unsent
  · cases answered

/-! ## Payment attempts -/

/-- The statement fails the attempt or its order. -/
def closesAttempt (paymentNo orderNo : Bytes) : Stmt → Prop
  | .failPayment target => target = paymentNo
  | .casPayment target status _ => target = paymentNo ∧ status = .FAIL
  | .updateOrder target status => target = orderNo ∧ status = .FAILED
  | _ => False

theorem sparesKeys_closesAttempt (paymentNo orderNo : Bytes) :
    SparesKeys (closesAttempt paymentNo orderNo) := by
  intro st onKeys
  cases st <;> first | exact id | cases onKeys

namespace PaymentService

/-- What is looked for in the program of an attempt. -/
private abbrev Fails (hears : ChannelCall → ChannelAnswer → Prop) (paymentNo orderNo : Bytes)
    (program : PayProg) : Prop :=
  program.May hears Stmt.Possible (closesAttempt paymentNo orderNo) fun _ => False

section Create

variable {hears : ChannelCall → ChannelAnswer → Prop} {paymentNo orderNo key hash : Bytes}

private theorem fails_orThrow {α : Type} {value : Option α} {next : α → PayProg} :
    Fails hears paymentNo orderNo (orThrow value next) ↔
      ∃ a, value = some a ∧ Fails hears paymentNo orderNo (next a) := by
  cases value <;> simp [orThrow]

private theorem not_fails_wrapped (reply : Reply) :
    ¬ Fails hears paymentNo orderNo (wrappedCreateCallback key hash reply) := by
  unfold wrappedCreateCallback
  split
  · exact (may_storeThenAnswer (sparesKeys_closesAttempt _ _)).mp
  · split
    · exact (may_clearReservation (sparesKeys_closesAttempt _ _) fun _ => may_answer).mp
    · exact may_answer.mp

/-- A refusal that is certain is booked. -/
private theorem fails_bookRefused (finish : PayProg) :
    Fails hears paymentNo orderNo (bookRefusedAttempt paymentNo orderNo finish) := by
  refine Or.inr (Or.inr ⟨some ⟨⟨paymentNo, orderNo, []⟩, .INIT, [], 0⟩, ?_, Or.inl rfl⟩)
  rintro row ⟨⟩
  rfl

/-- What a create takes for the failure of its call. -/
def failureOf (channel : Bytes) (a : ChannelAnswer) : Option Bytes :=
  if a.error.isEmpty then channelResultError channel a.result else some a.error

private theorem fails_onCreateAnswer {request : CreatePaymentRequest} {a : ChannelAnswer} :
    Fails hears paymentNo request.orderNo
        (onCreateAnswer request paymentNo (wrappedCreateCallback key hash) a.result a.error) ↔
      ∃ error, failureOf request.channel a = some error ∧ error ≠ [] ∧
        attemptCertainlyNotCreated error = true := by
  have created : ¬ Fails hears paymentNo request.orderNo
      (answerCreated request paymentNo a.result (wrappedCreateCallback key hash)) := by
    unfold answerCreated
    rw [fails_orThrow]
    rintro ⟨data, _, fails⟩
    exact not_fails_wrapped _ fails
  unfold onCreateAnswer
  rw [fails_orThrow]
  refine exists_congr fun error => and_congr_right fun _ => ?_
  split
  · rename_i isEmpty
    refine iff_of_false ?_ (by simpa using fun failed => absurd isEmpty (by simpa using failed))
    rintro (issued | fails | ⟨matched, _, fails⟩)
    · cases issued.2
    · exact not_fails_wrapped _ fails
    · cases matched with
      | false => exact created fails
      | true =>
          rcases fails with issued | fails | ⟨_, _, fails⟩
          · exact issued
          · exact created fails
          · exact created fails
  · rename_i failed
    have notEmpty : error ≠ [] := by simpa using failed
    dsimp only
    split
    · rename_i certain
      exact iff_of_true (fails_bookRefused _) ⟨notEmpty, certain⟩
    · rename_i uncertain
      exact iff_of_false (not_fails_wrapped _) fun both => uncertain both.2

/-- A create fails its attempt when its call failed for certain. -/
private theorem fails_proceedCreatePayment {cfg : Config} {request : CreatePaymentRequest}
    {totalFen : Nat} (ready : cfg.channels request.channel = true) :
    Fails hears paymentNo request.orderNo
        (proceedCreatePayment cfg request paymentNo totalFen (wrappedCreateCallback key hash)) ↔
      ∃ a, hears (.createQRPayment request.channel (createPayload cfg request totalFen)) a ∧
        ∃ error, failureOf request.channel a = some error ∧ error ≠ [] ∧
          attemptCertainlyNotCreated error = true := by
  have called : Fails hears paymentNo request.orderNo
        (.call (.createQRPayment request.channel (createPayload cfg request totalFen)) fun a =>
          onCreateAnswer request paymentNo (wrappedCreateCallback key hash) a.result a.error) ↔
      ∃ a, hears (.createQRPayment request.channel (createPayload cfg request totalFen)) a ∧
        ∃ error, failureOf request.channel a = some error ∧ error ≠ [] ∧
          attemptCertainlyNotCreated error = true :=
    may_call.trans (exists_congr fun a => and_congr_right fun _ => fails_onCreateAnswer)
  rw [← called]
  unfold proceedCreatePayment
  rw [if_pos ready]
  constructor
  · rintro ⟨_ | _, fails⟩
    · exact absurd fails (not_fails_wrapped _)
    · rcases fails with issued | fails | ⟨_, _, issued | fails | ⟨_, _, _ | _, fails⟩⟩
      · exact absurd issued id
      · exact absurd fails (not_fails_wrapped _)
      · exact absurd issued id
      · exact absurd fails (not_fails_wrapped _)
      · exact absurd fails (not_fails_wrapped _)
      · exact fails
  · intro fails
    exact ⟨true, Or.inr (Or.inr ⟨(0 : Nat), trivial,
      Or.inr (Or.inr ⟨(0 : Nat), trivial, true, fails⟩)⟩)⟩

end Create

section Qr

variable {hears : ChannelCall → ChannelAnswer → Prop} {qr : QrRequest}
  {paymentNo hash : Bytes}

private theorem not_fails_failQr {code : Nat} {text : Bytes} {extra : Json} :
    ¬ Fails hears paymentNo qr.orderNo (failQr qr hash code text extra) :=
  (may_clearReservation (sparesKeys_closesAttempt _ _) fun _ => may_answer).mp

private theorem fails_refuseQrOffer {failure text : Bytes} {extra : Json} :
    Fails hears paymentNo qr.orderNo (refuseQrOffer qr hash paymentNo failure text extra) ↔
      attemptCertainlyNotCreated failure = true := by
  unfold refuseQrOffer
  split
  · rename_i certain
    exact iff_of_true (Or.inl ⟨rfl, rfl⟩) certain
  · rename_i uncertain
    exact iff_of_false not_fails_failQr uncertain

/-- What a QR offer takes for the failure of its call; reading the channel's own
code fields may throw. -/
def qrFailureOf (qr : QrRequest) (a : ChannelAnswer) : Option Bytes :=
  if a.error.isEmpty then
    (channelResultError qr.channel a.result).bind fun error =>
      if error.isEmpty then some [] else (qrExtra qr a.result).map fun _ => error
  else some a.error

/-- An offer fails its attempt when its call failed for certain. -/
private theorem fails_offerQrChannel {payload : Json} :
    Fails hears paymentNo qr.orderNo (offerQrChannel qr hash paymentNo payload) ↔
      ∃ a, hears (.createQRPayment qr.channel payload) a ∧
        ∃ error, qrFailureOf qr a = some error ∧ error ≠ [] ∧
          attemptCertainlyNotCreated error = true := by
  unfold offerQrChannel
  refine may_call.trans (exists_congr fun a => and_congr_right fun _ => ?_)
  have promoted : ∀ data, ¬ Fails hears paymentNo qr.orderNo
      (promoteQrRows qr hash paymentNo data) := by
    have responded : ∀ data, ¬ Fails hears paymentNo qr.orderNo (respondQr qr hash data) :=
      fun data => (may_storeThenAnswer (sparesKeys_closesAttempt _ _)).mp
    rintro data (issued | fails | ⟨matched, _, fails⟩)
    · cases issued.2
    · exact responded data fails
    · cases matched with
      | false => exact responded data fails
      | true =>
          rcases fails with issued | fails | ⟨_, _, fails⟩
          · exact issued
          · exact responded data fails
          · exact responded data fails
  by_cases noError : a.error = []
  · simp only [noError, List.isEmpty_nil, Bool.not_true, Bool.false_eq_true, if_false,
      qrFailureOf, if_true]
    refine fails_orThrow.trans ?_
    cases said : channelResultError qr.channel a.result with
    | none => simp
    | some error =>
        simp only [Option.some.injEq, exists_eq_left', Option.bind_some]
        by_cases accepted : error.isEmpty = true
        · rw [if_pos accepted, if_pos accepted]
          refine iff_of_false ?_ ?_
          · intro fails
            obtain ⟨data, _, promotes⟩ := fails_orThrow.mp fails
            exact promoted data promotes
          · rintro ⟨_, isNil, notNil, _⟩
            exact notNil (Option.some.inj isNil).symm
        · rw [if_neg accepted, if_neg accepted]
          have notEmpty : error ≠ [] := by simpa using accepted
          refine fails_orThrow.trans ?_
          cases qrExtra qr a.result with
          | none => simp
          | some extra => simp [fails_refuseQrOffer, notEmpty]
  · have failed : (!a.error.isEmpty) = true := by simpa using noError
    rw [if_pos failed]
    simp [qrFailureOf, fails_refuseQrOffer, noError]

end Qr

/-! The classifier. -/

/-- The text of a JSON value is taken for a refusal. -/
private theorem certain_jsonText (writer : JsonWriter) (value : Json) :
    attemptCertainlyNotCreated (writer.toStyledString value) = true := by
  obtain ⟨first, rest, text, member⟩ := writer.starts value
  have others : (65 : UInt8) ≠ first ∧ (87 : UInt8) ≠ first ∧ (72 : UInt8) ≠ first ∧
      (104 : UInt8) ≠ first ∧ (105 : UInt8) ≠ first := by
    refine ⟨?_, ?_, ?_, ?_, ?_⟩ <;> (rintro rfl; exact absurd member (by decide))
  obtain ⟨notA, notW, notH, notLowerH, notI⟩ := others
  have notNoCode : first :: rest ≠ kNoPayableCode := fun same =>
    notW (List.cons.inj same).1.symm
  have notInvalid : first :: rest ≠ ascii "invalid json response" := fun same =>
    notI (List.cons.inj same).1.symm
  simp [text, attemptCertainlyNotCreated, notNoCode, notInvalid,
    startsWith_other "Alipay error: " rfl notA,
    startsWith_other "WeChat error: " rfl notW,
    startsWith_other "HTTP 4" rfl notH, startsWith_other "HTTP " rfl notH,
    startsWith_other "http request" rfl notLowerH]

/-- So is the text of an answer whose signature does not verify. -/
private theorem certain_unverified (verifyError : Bytes) :
    attemptCertainlyNotCreated
      (ascii "response signature verification failed: " ++ verifyError) = true := by
  have starts : ∀ (b : UInt8) (tail : Bytes) (start : String), ascii start = b :: tail →
      b ≠ 114 → startsWith
        (ascii "response signature verification failed: " ++ verifyError) start = false :=
    fun b tail start isStart different => startsWith_other start isStart different
  have notNoCode : ascii "response signature verification failed: " ++ verifyError ≠
      kNoPayableCode := fun same => absurd (List.cons.inj same).1 (by decide)
  have notInvalid : ascii "response signature verification failed: " ++ verifyError ≠
      ascii "invalid json response" := fun same => absurd (List.cons.inj same).1 (by decide)
  simp [attemptCertainlyNotCreated, notNoCode, notInvalid,
    starts _ _ "Alipay error: " rfl (by decide), starts _ _ "WeChat error: " rfl (by decide),
    starts _ _ "HTTP 4" rfl (by decide), starts _ _ "HTTP " rfl (by decide),
    starts _ _ "http request" rfl (by decide)]

/-- What is found wrong with an Alipay answer. -/
private theorem alipayResult_cases {result : Json} {error : Bytes}
    (said : channelResultError (ascii "alipay") result = some error) :
    ∃ code, result.stringAt "code" = some code ∧
      (code = ascii "10000" ∧ error = [] ∨
        code ≠ ascii "10000" ∧ ∃ rest, error = ascii "Alipay error: " ++ rest) := by
  rw [channelResultError, if_pos rfl] at said
  obtain ⟨code, isCode, said⟩ := Option.bind_eq_some_iff.mp said
  refine ⟨code, isCode, ?_⟩
  split at said
  · rename_i success
    cases said
    exact Or.inl ⟨success, rfl⟩
  · rename_i refused
    refine Or.inr ⟨refused, ?_⟩
    obtain ⟨subMsg, _, said⟩ := Option.bind_eq_some_iff.mp said
    have worded : ∀ detail : Bytes, ∃ rest,
        (if detail.isEmpty then ascii "Alipay error: code " ++ code
          else ascii "Alipay error: " ++ detail) = ascii "Alipay error: " ++ rest := by
      intro detail
      split
      · exact ⟨ascii "code " ++ code, rfl⟩
      · exact ⟨detail, rfl⟩
    dsimp only at said
    split at said
    · obtain ⟨detail, _, said⟩ := Option.bind_eq_some_iff.mp said
      rw [← Option.some.inj said]
      exact worded detail
    · rw [← Option.some.inj said]
      exact worded subMsg

/-- The error the service itself words for a channel's answer is certain. -/
private theorem certain_worded (rest : Bytes) :
    attemptCertainlyNotCreated (ascii "Alipay error: " ++ rest) = true := by
  have starts : startsWith (ascii "Alipay error: " ++ rest) "Alipay error: " = true :=
    startsWith_literal rest (by decide) (by decide)
  simp [attemptCertainlyNotCreated, starts]

/-- Every answer of Alipay that is given up on is booked as refused. -/
private theorem certain_alipay {writer : JsonWriter} {method : Bytes} {x : Exchange}
    {a : ChannelAnswer} (sent : AlipayChannel.sendRequest writer method x = some a) :
    (∃ error, failureOf (ascii "alipay") a = some error ∧ error ≠ [] ∧
        attemptCertainlyNotCreated error = true) ↔
      GivesUp (fun result => (channelResultError (ascii "alipay") result).isSome) a := by
  by_cases noError : a.error = []
  · simp only [failureOf, noError, List.isEmpty_nil, if_true, GivesUp, ne_eq, not_true_eq_false,
      false_or]
    constructor
    · rintro ⟨error, said, failed, _⟩
      obtain ⟨code, isCode, ⟨_, isNil⟩ | ⟨refused, _⟩⟩ := alipayResult_cases said
      · exact absurd isNil failed
      · exact ⟨code, isCode, refused, by simp [said]⟩
    · rintro ⟨code, isCode, refused, readable⟩
      obtain ⟨error, said⟩ := Option.isSome_iff_exists.mp readable
      obtain ⟨other, isOther, ⟨success, _⟩ | ⟨_, rest, rfl⟩⟩ := alipayResult_cases said
      · rw [isCode] at isOther
        cases isOther
        exact absurd success refused
      · exact ⟨_, said, by simp [ascii], certain_worded rest⟩
  · have isError : failureOf (ascii "alipay") a = some a.error := by simp [failureOf, noError]
    refine iff_of_true ⟨a.error, isError, noError, ?_⟩ (Or.inl noError)
    obtain ⟨value, isText⟩ := AlipayChannel.sendRequest_error sent noError
    rw [isText]
    exact certain_jsonText writer value

/-- The same for a QR offer, which also reads the channel's code fields. -/
private theorem certain_alipay_qr {writer : JsonWriter} {method : Bytes} {x : Exchange}
    {qr : QrRequest} {a : ChannelAnswer} (onAlipay : qr.channel = ascii "alipay")
    (sent : AlipayChannel.sendRequest writer method x = some a) :
    (∃ error, qrFailureOf qr a = some error ∧ error ≠ [] ∧
        attemptCertainlyNotCreated error = true) ↔
      GivesUp (fun result => (channelResultError (ascii "alipay") result).isSome &&
        (qrExtra qr result).isSome) a := by
  have plain := certain_alipay sent
  by_cases noError : a.error = []
  · simp only [failureOf, qrFailureOf, noError, List.isEmpty_nil, if_true, GivesUp, ne_eq,
      not_true_eq_false, false_or, onAlipay] at plain ⊢
    cases extra : qrExtra qr a.result with
    | none =>
        refine iff_of_false ?_ (by simp)
        rintro ⟨error, said, failed, _⟩
        obtain ⟨_, _, said⟩ := Option.bind_eq_some_iff.mp said
        split at said
        · exact failed (Option.some.inj said).symm
        · cases said
    | some fields =>
        have same : ((channelResultError (ascii "alipay") a.result).bind fun error =>
            if error.isEmpty then some [] else (some fields).map fun _ => error) =
            channelResultError (ascii "alipay") a.result := by
          cases channelResultError (ascii "alipay") a.result with
          | none => rfl
          | some error =>
              by_cases isNil : error = [] <;> simp [isNil]
        rw [same]
        simpa using plain
  · have isError : qrFailureOf qr a = some a.error := by simp [qrFailureOf, noError]
    have isFailure : failureOf (ascii "alipay") a = some a.error := by simp [failureOf, noError]
    rw [isFailure] at plain
    rw [isError]
    exact plain.trans (iff_of_true (Or.inl noError) (Or.inl noError))

/-- What is found wrong with a WeChat answer. -/
private theorem wechatResult_cases {result : Json} {error : Bytes}
    (said : channelResultError (ascii "wechat") result = some error) (failed : error ≠ []) :
    error = kNoPayableCode ∨ NamesCode result := by
  have notAlipay : ascii "wechat" ≠ ascii "alipay" := by decide
  rw [channelResultError, if_neg notAlipay, if_pos rfl] at said
  obtain ⟨codeUrl, _, said⟩ := Option.bind_eq_some_iff.mp said
  obtain ⟨prepayId, _, said⟩ := Option.bind_eq_some_iff.mp said
  split at said
  · exact absurd (Option.some.inj said).symm failed
  · obtain ⟨code, isCode, said⟩ := Option.bind_eq_some_iff.mp said
    split at said
    · exact Or.inl (Option.some.inj said).symm
    · rename_i named
      exact Or.inr ⟨code, isCode, by simpa using named⟩

/-- A verified exchange with WeChat is taken for a refusal only if it is one. -/
private theorem refuses_of_certain {timeoutMs : Nat} {x : Exchange} {a : ChannelAnswer}
    {error : Bytes} (sent : WechatChannel.sendWechatRequest timeoutMs x = some a)
    (verified : ∀ response, x = .answered response → response.signatureError = none)
    (isError : failureOf (ascii "wechat") a = some error) (failed : error ≠ [])
    (certain : attemptCertainlyNotCreated error = true) :
    x.isUnsent = true ∨ RefusesOrder .wechat x := by
  have fromError : a.error ≠ [] → error = a.error := by
    intro notNil
    rw [failureOf, if_neg (by simpa using notNil)] at isError
    exact (Option.some.inj isError).symm
  rcases WechatChannel.sendWechatRequest_cases sent with unsent | ⟨rest, text⟩ |
    ⟨response, rfl, ⟨verifyError, unverified, _⟩ | ⟨isVerified, ⟨detail, text, envelope⟩ | text |
      ⟨noError, body⟩⟩⟩
  · exact Or.inl unsent
  · rw [fromError (by simp [text, ascii]), text] at certain
    have isHttp : startsWith (ascii "http request" ++ rest) "http request" = true :=
      startsWith_literal rest (by decide) (by decide)
    have notRefused : startsWith (ascii "http request" ++ rest) "HTTP 4" = false :=
      startsWith_literal rest (by decide) (by decide)
    have notAlipay : startsWith (ascii "http request" ++ rest) "Alipay error: " = false :=
      startsWith_other _ rfl (by decide)
    have notWechat : startsWith (ascii "http request" ++ rest) "WeChat error: " = false :=
      startsWith_other _ rfl (by decide)
    simp [attemptCertainlyNotCreated, isHttp, notRefused, notAlipay, notWechat] at certain
  · rw [verified response rfl] at unverified
    cases unverified
  · rw [fromError (by simp [text, WechatChannel.httpFailureText, ascii]), text] at certain
    have isHttp := WechatChannel.startsWith_http response.status detail
    have notAlipay : startsWith (WechatChannel.httpFailureText response.status detail)
        "Alipay error: " = false := startsWith_other _ rfl (by decide)
    have notWechat : startsWith (WechatChannel.httpFailureText response.status detail)
        "WeChat error: " = false := startsWith_other _ rfl (by decide)
    have refused : startsWith (WechatChannel.httpFailureText response.status detail) "HTTP 4" =
          true ∧
        contains (WechatChannel.httpFailureText response.status detail) "no error envelope" =
          false := by
      simpa [attemptCertainlyNotCreated, isHttp, notAlipay, notWechat] using certain
    rw [WechatChannel.startsWith_http_four] at refused
    rcases envelope with none | ⟨isEnvelope, notBlank⟩
    · rw [none, WechatChannel.contains_no_envelope] at refused
      cases refused.2
    · exact Or.inr ⟨response, rfl, isVerified,
        Or.inl ⟨refused.1.1, refused.1.2, detail, isEnvelope, notBlank⟩⟩
  · rw [fromError (by simp [text, ascii]), text] at certain
    exact absurd certain (by decide)
  · have said : channelResultError (ascii "wechat") a.result = some error := by
      simpa [failureOf, noError] using isError
    rcases wechatResult_cases said failed with unpayable | ⟨code, isCode, named⟩
    · rw [unpayable] at certain
      exact absurd certain (by decide)
    · rcases body with empty | answers
      · rw [empty] at isCode
        cases isCode
        exact absurd rfl named
      · exact Or.inr ⟨response, rfl, isVerified, Or.inr ⟨a.result, answers, code, isCode, named⟩⟩

end PaymentService

/-- WeChat's answer, if there is one, carries a valid signature. -/
def AnswerVerified (x : Exchange) : Prop :=
  ∀ response, x = .answered response → response.signatureError = none

/-- The attempt is failed only if nothing was sent or the channel refused. -/
def AttemptClosedSoundly (writer : JsonWriter) (timeoutMs : Nat) (provider : Provider)
    (x : Exchange) (asked : Bool) (paymentNo orderNo : Bytes) (program : PayProg) : Prop :=
  program.May (heard writer timeoutMs x) Stmt.Possible (closesAttempt paymentNo orderNo)
      (fun _ => False) →
    (asked = false ∨ x.isUnsent = true) ∨ RefusesOrder provider x

/-- The exchange is of a kind the classifier reads rightly. -/
def OutcomeRead (provider : Provider) (reads : Json → Bool) (x : Exchange) : Prop :=
  match provider with
  | .wechat => AnswerVerified x
  | .alipay => AlipaySpeaks (ascii "alipay.trade.precreate") reads x

/-- The program of an attempt fails it exactly when the call failed for certain;
so it does so soundly exactly when every such failure is a refusal. -/
private theorem attemptClosedSoundly_iff {writer : JsonWriter} {timeoutMs : Nat}
    {provider : Provider} {x : Exchange} {paymentNo orderNo : Bytes} {program : PayProg}
    {payload : Json} {failure : ChannelAnswer → Option Bytes}
    (fails : program.May (heard writer timeoutMs x) Stmt.Possible
        (closesAttempt paymentNo orderNo) (fun _ => False) ↔
      ∃ a, heard writer timeoutMs x (.createQRPayment provider.name payload) a ∧
        ∃ error, failure a = some error ∧ error ≠ [] ∧
          PaymentService.attemptCertainlyNotCreated error = true)
    {reads : Json → Bool}
    (onAlipay : provider = .alipay → ∀ a,
      AlipayChannel.sendRequest writer (ascii "alipay.trade.precreate") x = some a →
      ((∃ error, failure a = some error ∧ error ≠ [] ∧
        PaymentService.attemptCertainlyNotCreated error = true) ↔ GivesUp reads a))
    (onWechat : provider = .wechat → ∀ a error, failure a = some error →
      PaymentService.failureOf (ascii "wechat") a = some error)
    (unverified : provider = .wechat → ∀ a, a.error ≠ [] → failure a = some a.error) :
    AttemptClosedSoundly writer timeoutMs provider x true paymentNo orderNo program ↔
      OutcomeRead provider reads x := by
  have notAlipay : ascii "wechat" ≠ ascii "alipay" := by decide
  unfold AttemptClosedSoundly
  rw [fails]
  cases provider with
  | wechat =>
      have sends : ∀ a, heard writer timeoutMs x (.createQRPayment Provider.wechat.name payload) a ↔
          WechatChannel.sendWechatRequest timeoutMs x = some a := by
        intro a
        simp [heard, channelAnswer, ChannelCall.channel, Provider.name, notAlipay]
      simp only [sends]
      constructor
      · rintro claim response rfl
        cases signature : response.signatureError with
        | none => rfl
        | some verifyError =>
            have sent : WechatChannel.sendWechatRequest timeoutMs (.answered response) =
                some ⟨.null, ascii "response signature verification failed: " ++ verifyError⟩ := by
              simp [WechatChannel.sendWechatRequest, signature]
            rcases claim ⟨_, sent, _, unverified rfl _ (by simp [ascii]), by simp [ascii],
              PaymentService.certain_unverified verifyError⟩ with
              (unready | unsent) | ⟨_, ⟨⟩, verified, _⟩
            · cases unready
            · cases unsent
            · rw [signature] at verified
              cases verified
      · rintro verified ⟨a, sent, error, isError, failed, certain⟩
        rcases PaymentService.refuses_of_certain sent verified (onWechat rfl a error isError) failed
          certain with unsent | refuses
        · exact Or.inl (Or.inr unsent)
        · exact Or.inr refuses
  | alipay =>
      have sends : ∀ a, heard writer timeoutMs x (.createQRPayment Provider.alipay.name payload) a ↔
          AlipayChannel.sendRequest writer (ascii "alipay.trade.precreate") x = some a := by
        intro a
        simp [heard, channelAnswer, ChannelCall.channel, Provider.name, alipayMethod]
      simp only [sends]
      refine Iff.trans ?_ (givesUpSoundly_iff writer _ reads x)
      constructor
      · intro claim a sent givesUp
        rcases claim ⟨a, sent, (onAlipay rfl a sent).mpr givesUp⟩ with
          (unready | unsent) | ⟨response, answered, refuses⟩
        · cases unready
        · exact Or.inl unsent
        · exact Or.inr ⟨response, answered, refuses⟩
      · rintro claim ⟨a, sent, failed⟩
        rcases claim a sent ((onAlipay rfl a sent).mp failed) with
          unsent | ⟨response, answered, refuses⟩
        · exact Or.inl (Or.inr unsent)
        · exact Or.inr ⟨response, answered, refuses⟩

private theorem create_closed_soundly_iff (writer : JsonWriter) (timeoutMs : Nat) (cfg : Config)
    (request : CreatePaymentRequest) (paymentNo : Bytes) (totalFen : Nat)
    (idempotencyKey requestHash : Bytes) (provider : Provider) (x : Exchange)
    (onProvider : request.channel = provider.name) :
    AttemptClosedSoundly writer timeoutMs provider x (cfg.channels provider.name) paymentNo
        request.orderNo (PaymentService.proceedCreatePayment cfg request paymentNo totalFen
          (PaymentService.wrappedCreateCallback idempotencyKey requestHash)) ↔
      (cfg.channels provider.name = true → OutcomeRead provider
        (fun result => (PaymentService.channelResultError (ascii "alipay") result).isSome) x) := by
  by_cases ready : cfg.channels provider.name = true
  · have fails : PaymentService.Fails (heard writer timeoutMs x) paymentNo request.orderNo
        (PaymentService.proceedCreatePayment cfg request paymentNo totalFen
          (PaymentService.wrappedCreateCallback idempotencyKey requestHash)) ↔ _ :=
      PaymentService.fails_proceedCreatePayment (onProvider ▸ ready)
    rw [onProvider] at fails
    rw [ready, eq_self, true_imp_iff]
    refine attemptClosedSoundly_iff fails ?_ ?_ ?_
    · rintro rfl a sent
      exact PaymentService.certain_alipay sent
    · rintro rfl a error isError
      exact isError
    · rintro rfl a notNil
      simp [PaymentService.failureOf, notNil]
  · refine iff_of_true (fun _ => Or.inl (Or.inl ?_)) (fun isReady => absurd isReady ready)
    simpa using ready

private theorem qr_closed_soundly_iff (writer : JsonWriter) (timeoutMs : Nat)
    (qr : PaymentService.QrRequest) (requestHash paymentNo : Bytes) (payload : Json)
    (provider : Provider) (x : Exchange) (onProvider : qr.channel = provider.name) :
    AttemptClosedSoundly writer timeoutMs provider x true paymentNo qr.orderNo
        (PaymentService.offerQrChannel qr requestHash paymentNo payload) ↔
      OutcomeRead provider
        (fun result => (PaymentService.channelResultError (ascii "alipay") result).isSome &&
          (PaymentService.qrExtra qr result).isSome) x := by
  have fails : PaymentService.Fails (heard writer timeoutMs x) paymentNo qr.orderNo
      (PaymentService.offerQrChannel qr requestHash paymentNo payload) ↔ _ :=
    PaymentService.fails_offerQrChannel
  rw [onProvider] at fails
  refine attemptClosedSoundly_iff fails ?_ ?_ ?_
  · rintro rfl a sent
    exact PaymentService.certain_alipay_qr onProvider sent
  · rintro rfl a error isError
    by_cases noError : a.error = []
    · simp only [PaymentService.qrFailureOf, noError, List.isEmpty_nil, if_true,
        onProvider] at isError
      obtain ⟨found, said, isError⟩ := Option.bind_eq_some_iff.mp isError
      have same : found = error := by
        by_cases isNil : found.isEmpty = true
        · rw [if_pos isNil] at isError
          rw [← Option.some.inj isError]
          simpa using isNil
        · rw [if_neg isNil] at isError
          obtain ⟨_, _, same⟩ := Option.map_eq_some_iff.mp isError
          exact same
      rw [same] at said
      simpa [PaymentService.failureOf, noError, Provider.name] using said
    · simpa [PaymentService.qrFailureOf, PaymentService.failureOf, noError] using isError
  · rintro rfl a notNil
    simp [PaymentService.qrFailureOf, notNil]

/-- Attempts of unknown outcome stay open on WeChat exactly when the answer, if
there is one, verifies, and on Alipay exactly when Alipay was not asked or gave
a full answer; the same for both create paths. -/
theorem attempt_closed_soundly (writer : JsonWriter) (timeoutMs : Nat) (cfg : Config)
    (request : CreatePaymentRequest) (qr : PaymentService.QrRequest) (paymentNo : Bytes)
    (totalFen : Nat) (payload : Json) (idempotencyKey requestHash : Bytes) (provider : Provider)
    (x : Exchange) :
    (AttemptClosedSoundly writer timeoutMs provider x (cfg.channels provider.name) paymentNo
        request.orderNo (PaymentService.proceedCreatePayment cfg
          { request with channel := provider.name } paymentNo totalFen
          (PaymentService.wrappedCreateCallback idempotencyKey requestHash)) ↔
      (cfg.channels provider.name = true → OutcomeRead provider
        (fun result => (PaymentService.channelResultError (ascii "alipay") result).isSome) x)) ∧
    (AttemptClosedSoundly writer timeoutMs provider x true paymentNo qr.orderNo
        (PaymentService.offerQrChannel { qr with channel := provider.name } requestHash paymentNo
          payload) ↔
      OutcomeRead provider
        (fun result => (PaymentService.channelResultError (ascii "alipay") result).isSome &&
          (PaymentService.qrExtra { qr with channel := provider.name } result).isSome) x) :=
  ⟨create_closed_soundly_iff writer timeoutMs cfg { request with channel := provider.name }
      paymentNo totalFen idempotencyKey requestHash provider x rfl,
    qr_closed_soundly_iff writer timeoutMs { qr with channel := provider.name } requestHash
      paymentNo payload provider x rfl⟩

/-! An answer of WeChat that does not verify fails the attempt. -/

/-- An accepted order whose answer carries a signature that does not verify. -/
def forgedAnswer : Exchange :=
  .answered ⟨⟨200, by decide, by decide⟩, [],
    some (Json.object [("code_url", Json.text "weixin://pay")]), some (ascii "bad signature")⟩

theorem attempt_closed_on_unverified_answer :
    ¬ AttemptClosedSoundly plainWriter 5000 .wechat forgedAnswer true (ascii "#p") (ascii "o")
      (PaymentService.proceedCreatePayment shop tenYuanOnWechat (ascii "#p") 1000
        (PaymentService.wrappedCreateCallback [] [])) := by
  intro sound
  have verified := (create_closed_soundly_iff plainWriter 5000 shop tenYuanOnWechat (ascii "#p")
    1000 [] [] .wechat forgedAnswer rfl).mp sound rfl
  cases verified _ rfl

end DrogonPay
