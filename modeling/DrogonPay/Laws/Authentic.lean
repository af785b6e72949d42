import DrogonPay.Handlers.Notifications
import DrogonPay.Laws.TrustedCerts

/-!
Contract: the endpoints and clients through which everything a process hears comes in.

Owns:
- `Gateway`, what the doors and the clients of a deployment are built with;
- `Starts` and `Answers`, how a request starts a process and how a call is answered,
  and `Admits`, the events of a run in which both hold;
- `Authentic`, what a message that came in so has passed, and the proof that each
  has.

Does not own: what a message says, or what is done with it.
-/

namespace DrogonPay

open ReadCommitted

/-- The deployment: its doors, and what its WeChat client trusts from the start. -/
structure Gateway where
  wechat : CallbackService.WechatDoor
  alipay : AlipayCallbackController.AlipayDoor
  platformCertPath : Bytes
  platformCaCertPath : Bytes
  timeoutMs : Nat
  writer : JsonWriter
  /-- How the clients read the body of an answer. -/
  parseJson : Bytes → Option Json

namespace Gateway

open WechatChannel (Client Post DownloadEvent Downloads DownloadRun Trusted)

variable (gateway : Gateway)

/-- A state the client's downloads can lead to. -/
def Reached (clock : Int) (events : List DownloadEvent) (downloads : Downloads) : Prop :=
  DownloadRun gateway.wechat.crypto gateway.wechat.settings gateway.timeoutMs
    (Client.fresh gateway.platformCertPath gateway.platformCaCertPath) clock events downloads

/-- A notification starts a process when its endpoint serves it; the other requests
are free. -/
def Starts : Request → Prop
  | request@(.paymentNotification _ _) | request@(.refundNotification _ _) =>
      ∃ clock events downloads available post now firstSight ownerToken,
        gateway.Reached clock events downloads ∧
        WechatCallbackController.notify gateway.wechat available downloads.client post now
          firstSight ownerToken = .ok request
  | request@(.alipayNotification _ _ _ _) =>
      ∃ body, AlipayCallbackController.notify gateway.alipay body = .ok request
  | _ => True

/-- What the answer verifier of the client makes of an answer, unless the client is
gone. -/
def Checked (response : HttpResponse) : Prop :=
  response.signatureError =
      some (ascii "wechat client destroyed before the answer was verified") ∨
    ∃ clock events downloads answer now, gateway.Reached clock events downloads ∧
      answer.body = response.body ∧ response.signatureError =
        WechatChannel.verifyResponse gateway.wechat.crypto downloads.client answer now

/-- A call is answered with what its client makes of an exchange. -/
def Answers (call : ChannelCall) (a : ChannelAnswer) : Prop :=
  ∃ x, channelAnswer gateway.writer gateway.timeoutMs call x = some a ∧
    ∀ response, x = .answered response →
      response.json = gateway.parseJson response.body ∧
      (call.channel ≠ ascii "alipay" → gateway.Checked response)

/-- Whatever comes in passes the doors and the clients. -/
def Admits (s : PaySys) : PayEvent → Prop
  | .spawn request => gateway.Starts request
  | .answer pid a => ∀ p call k rest, s.procs[pid]? = some p → p.queue = .call call k :: rest →
      gateway.Answers call a
  | _ => True

/-! ## Authentic messages -/

/-- A post signed under a certificate that a client of this deployment trusts. -/
def SignedBy (post : Post) (now : Int) : Prop :=
  ∃ clock events downloads certContent, gateway.Reached clock events downloads ∧
    Trusted gateway.wechat.crypto gateway.wechat.settings gateway.timeoutMs
      gateway.platformCertPath gateway.platformCaCertPath events post now certContent

/-- What a message has passed: a notification its door, an answer of WeChat the
verifier. Alipay's answers carry no signature that is checked. -/
inductive Authentic : PayEntry → Prop where
  | wechatNotification {kind : CallbackService.Kind} {client : Client} {post : Post} {clock : Nat}
      {notification : Notification} {ownerToken : Drawn}
      (opened : CallbackService.WechatOpened gateway.wechat kind client post clock notification)
      (signed : gateway.SignedBy post (CallbackService.secondsOf clock)) :
      Authentic (.spawned (kind.request ownerToken notification))
  | alipayNotification {body : Bytes} {request : Request}
      (opened : AlipayCallbackController.AlipayOpened gateway.alipay body request) :
      Authentic (.spawned request)
  | wechatAnswer {call : ChannelCall} {a : ChannelAnswer} {answer : Post} {now : Int}
      (signed : gateway.SignedBy answer now)
      (read : a.result = .obj [] ∨ gateway.parseJson answer.body = some a.result) :
      Authentic (.answered call a)
  | alipayAnswer {call : ChannelCall} {a : ChannelAnswer} {body : Bytes} {root : Json}
      (onAlipay : call.channel = ascii "alipay")
      (parsed : gateway.parseJson body = some root)
      (read : AlipayChannel.readBody (alipayMethod call) root = some (.ok a.result)) :
      Authentic (.answered call a)

variable {gateway}

theorem signedBy_of_verified {clock : Int} {events : List DownloadEvent} {downloads : Downloads}
    (reached : gateway.Reached clock events downloads) {post : Post} {now : Int}
    (verified : WechatChannel.verifyCallback gateway.wechat.crypto downloads.client post now =
      none) :
    gateway.SignedBy post now := by
  obtain ⟨certContent, trusted⟩ := WechatChannel.trusted_of_verified reached verified
  exact ⟨clock, events, downloads, certContent, reached, trusted⟩

theorem authentic_of_notified {clock : Int} {events : List DownloadEvent} {downloads : Downloads}
    (reached : gateway.Reached clock events downloads) {available firstSight : Bool} {post : Post}
    {now : Nat} {ownerToken : Drawn} {request : Request}
    (served : WechatCallbackController.notify gateway.wechat available downloads.client post now
      firstSight ownerToken = .ok request) :
    gateway.Authentic (.spawned request) := by
  obtain ⟨kind, notification, rfl, opened⟩ := WechatCallbackController.opened_of_notified served
  exact .wechatNotification opened (signedBy_of_verified reached opened.verified)

/-- What starts a process as a notification is authentic. -/
theorem Starts.authentic {request : Request} (starts : gateway.Starts request)
    (isNotification : (∃ notification ownerToken,
        request = .paymentNotification notification ownerToken ∨
          request = .refundNotification notification ownerToken) ∨
      ∃ tradeNo outTradeNo tradeStatus totalAmount,
        request = .alipayNotification tradeNo outTradeNo tradeStatus totalAmount) :
    gateway.Authentic (.spawned request) := by
  rcases isNotification with ⟨notification, ownerToken, rfl | rfl⟩ |
    ⟨tradeNo, outTradeNo, tradeStatus, totalAmount, rfl⟩
  · obtain ⟨clock, events, downloads, available, post, now, firstSight, token, reached, served⟩ :=
      starts
    exact authentic_of_notified reached served
  · obtain ⟨clock, events, downloads, available, post, now, firstSight, token, reached, served⟩ :=
      starts
    exact authentic_of_notified reached served
  · obtain ⟨body, served⟩ := starts
    exact .alipayNotification (AlipayCallbackController.notify_ok.mp served).1

/-- A WeChat answer without an error passed the verifier. -/
theorem verified_of_wechat {timeoutMs : Nat} {x : Exchange} {a : ChannelAnswer}
    (heard : WechatChannel.sendWechatRequest timeoutMs x = some a) (through : a.error = []) :
    ∃ response, x = .answered response ∧ response.signatureError = none ∧
      (a.result = .obj [] ∨ response.json = some a.result) := by
  cases x with
  | unsent fault =>
      cases heard
      exact absurd through fault.nonempty
  | timedOut =>
      cases heard
      simp [ascii] at through
  | lost =>
      cases heard
      simp [ascii] at through
  | answered response =>
      refine ⟨response, rfl, ?_⟩
      simp only [WechatChannel.sendWechatRequest] at heard
      split at heard
      · cases heard
        simp [ascii] at through
      · rename_i verified
        refine ⟨verified, ?_⟩
        split_ifs at heard with empty outside
        · cases heard
          exact Or.inl rfl
        · obtain ⟨detail, _, isAnswer⟩ := Option.bind_eq_some_iff.mp heard
          cases isAnswer
          simp [WechatChannel.httpFailureText, ascii] at through
        · split at heard
          · cases heard
            simp [ascii] at through
          · rename_i body parsed
            cases heard
            exact Or.inr parsed

/-- An Alipay answer without an error is read off a body. -/
theorem read_of_alipay {writer : JsonWriter} {method : Bytes} {x : Exchange} {a : ChannelAnswer}
    (heard : AlipayChannel.sendRequest writer method x = some a) (through : a.error = []) :
    ∃ response root, x = .answered response ∧ response.json = some root ∧
      AlipayChannel.readBody method root = some (.ok a.result) := by
  have written : ∀ value, writer.toStyledString value ≠ [] := by
    intro value
    obtain ⟨first, rest, isText, _⟩ := writer.starts value
    rw [isText]
    exact List.cons_ne_nil _ _
  cases x with
  | unsent fault => cases heard
  | timedOut =>
      cases heard
      exact absurd through (written _)
  | lost =>
      cases heard
      exact absurd through (written _)
  | answered response =>
      simp only [AlipayChannel.sendRequest] at heard
      split at heard
      · cases heard
        exact absurd through (written _)
      · split at heard
        · cases heard
          exact absurd through (written _)
        · rename_i root parsed
          obtain ⟨read, isRead, isAnswer⟩ := Option.bind_eq_some_iff.mp heard
          cases read with
          | error problem =>
              cases isAnswer
              exact absurd through (written _)
          | ok result =>
              cases isAnswer
              exact ⟨response, root, rfl, parsed, isRead⟩

/-- An answer that tells of no error is authentic. -/
theorem Answers.authentic {call : ChannelCall} {a : ChannelAnswer}
    (answers : gateway.Answers call a) (through : a.error = []) :
    gateway.Authentic (.answered call a) := by
  obtain ⟨x, heard, received⟩ := answers
  unfold channelAnswer at heard
  split at heard
  · rename_i onAlipay
    obtain ⟨response, root, rfl, parsed, read⟩ := read_of_alipay heard through
    exact .alipayAnswer onAlipay ((received response rfl).1 ▸ parsed) read
  · rename_i onWechat
    obtain ⟨response, rfl, verified, read⟩ := verified_of_wechat heard through
    obtain ⟨isJson, checked⟩ := received response rfl
    rcases checked onWechat with gone |
      ⟨clock, events, downloads, answer, now, reached, sameBody, isVerdict⟩
    · rw [verified] at gone
      cases gone
    · have passes := WechatChannel.verified_response (isVerdict.symm.trans verified)
      refine .wechatAnswer (signedBy_of_verified reached passes) ?_
      rw [sameBody, ← isJson]
      exact read

end Gateway
end DrogonPay
