import DrogonPay.Handlers.Notifications
import DrogonPay.Percent.Text

/-!
Contract: which posted forms the Alipay endpoint serves, and as what.

Owns:
- `served_as_signed`: while only genuine notifications are signed, a form is served
  as one of them, if no value holds an ampersand;
- `served_of_signed`: a genuine notification is served whatever the order of its
  pairs, under the usual encoding of a form.

Does not own: RSA, and what the sync makes of the request.
-/

namespace DrogonPay.AlipayCallbackController

open AlipayChannel (AlipayClient formMarks unsigned signedContent)
open Form (Pair Values Clean valueOf gather)

/-! ## Forms -/

/-- The encoding of a posted value: blanks are plus signs. -/
def formEncode (value : Bytes) : Bytes :=
  value.flatMap fun b => if b = 32 then [43] else Percent.encodeByte b

/-- The body of a form with these pairs. -/
def formOf (posted : List (Pair UInt8)) : Bytes :=
  Form.text formMarks (posted.map fun pair => (pair.1, formEncode pair.2))

/-! ## A till that takes Alipay -/

/-- An RSA2 signature of the text below. -/
def tillSignature : Bytes :=
  ascii "KFRZvkJB6in9KsnZlyKU7hxdnvCtjyo5CHSGIjliWEWryO/l+BDzilohDCgNBcNRBiypiWH/cZSaui" ++
  ascii "WGVjbMCHNWMlDaVz0cZKGmR4tOKnTnlKTxAyieEy2SvNLZrSkvcfamP4SVeIFln8IpFT3lZO15Hv36" ++
  ascii "70zZAAFOBRhuFnitbTk3Gv/ieuMwEqc1Ro2KayUrFjeQwuT7Rkf+ztcm/wn20S1UxeG33jIryC1Cax" ++
  ascii "9l9YGV4+D0ZAfxiA8wjHKqeNVaGHJcecTK9nDaXfWIpLLylTKXNAD5EmEcWwvt3M/d41m4/2tcyz6S" ++
  ascii "DmsbXvn2fNTpjkIeV3chZW2mbfrsAQ=="

def paidContent : Bytes :=
  ascii "app_id=2021000000000001&out_trade_no=o&total_amount=10.00" ++
    ascii "&trade_no=T&trade_status=TRADE_SUCCESS"

/-- What the notification of a payment says. -/
def paidValues : Values UInt8 :=
  gather [(ascii "app_id", ascii "2021000000000001"), (ascii "out_trade_no", ascii "o"),
    (ascii "total_amount", ascii "10.00"), (ascii "trade_no", ascii "T"),
    (ascii "trade_status", ascii "TRADE_SUCCESS"), (ascii "sign_type", ascii "RSA2"),
    (ascii "sign", tillSignature)]

def tillClient : AlipayClient where
  appId := ascii "2021000000000001"
  verify content signature := content = paidContent && signature = tillSignature

def tillDoor : AlipayDoor where
  tools := ⟨fun _ => none, fun _ => [], fun text => (Percent.decode text).getD text⟩
  alipayClient := some tillClient
  paymentService := true

theorem paid_content : signedContent paidValues = paidContent := by decide +kernel

/-- The notification as it is posted, in another order than it is signed in. -/
def paidForm : Bytes := formOf paidValues.rows.reverse

/-- The form is served as the notification of its payment. -/
theorem notify_paidForm : notify tillDoor paidForm =
    .ok (.alipayNotification (ascii "T") (ascii "o") (ascii "TRADE_SUCCESS") (ascii "10.00")) := by
  have values : [ascii "trade_no", ascii "out_trade_no", ascii "trade_status",
      ascii "total_amount"].map (valueOf (parseForm tillDoor.tools.urlDecode paidForm)) =
      [ascii "T", ascii "o", ascii "TRADE_SUCCESS", ascii "10.00"] := by
    decide +kernel
  simp only [List.map_cons, List.map_nil, List.cons.injEq, and_true] at values
  obtain ⟨tradeNo, outTradeNo, tradeStatus, totalAmount⟩ := values
  refine notify_ok.mpr ⟨⟨⟨tillClient, rfl, by decide +kernel, Or.inr (by decide +kernel)⟩, ?_⟩, rfl⟩
  rw [requestOf, tradeNo, outTradeNo, tradeStatus, totalAmount]

/-! ## What is served was signed -/

section Served

variable {door : AlipayDoor} {alipayClient : AlipayClient} {body : Bytes} {request : Request}

/-- The pairs of these values can be told apart in a text. -/
def Undivided (values : Values UInt8) : Prop := ∀ pair ∈ values.rows, Clean formMarks pair

theorem mem_of_gathered {pairs : List (Pair UInt8)} {pair : Pair UInt8}
    (member : pair ∈ (gather pairs).rows) : pair ∈ pairs :=
  (Form.mem_of_find_gather (Table.find_eq_some_iff.mpr ⟨member, rfl⟩)).1

/-- The names of a form that is read hold no mark, so only its values can. -/
theorem undivided_of_values {urlDecode : Bytes → Bytes}
    (whole : ∀ name, (38 : UInt8) ∉ valueOf (parseForm urlDecode body) name) :
    Undivided (parseForm urlDecode body) := by
  intro pair member
  obtain ⟨raw, isRaw, same⟩ := List.mem_map.mp (mem_of_gathered member)
  have found : (parseForm urlDecode body).find pair.1 = some pair :=
    Table.find_eq_some_iff.mpr ⟨member, rfl⟩
  refine ⟨?_, ?_⟩
  · rw [← same]
    exact (Form.clean_of_read isRaw).name
  · have isValue : valueOf (parseForm urlDecode body) pair.1 = pair.2 := by simp [valueOf, found]
    rw [← isValue]
    exact whole pair.1

/-- What was signed determines the request. -/
theorem requestOf_of_signed {values values' : Values UInt8} (undivided : Undivided values)
    (undivided' : Undivided values') (same : signedContent values = signedContent values') :
    requestOf values = requestOf values' := by
  have counted : ∀ {values : Values UInt8}, Undivided values →
      ∀ pair ∈ Form.counted unsigned values, Clean formMarks pair :=
    fun undivided pair member => undivided pair (List.mem_of_mem_filter member)
  have value : ∀ name, unsigned name = false → valueOf values name = valueOf values' name :=
    fun _ => Form.value_of_canonical (counted undivided) (counted undivided') same
  simp only [requestOf]
  rw [value (ascii "trade_no") (by decide), value (ascii "out_trade_no") (by decide),
    value (ascii "trade_status") (by decide), value (ascii "total_amount") (by decide)]

/-- While only genuine notifications are signed and none holds an ampersand, a form
without one is served as a genuine notification. -/
theorem served_as_signed (isClient : door.alipayClient = some alipayClient)
    {genuine : Values UInt8 → Prop}
    (unforged : ∀ content signature, alipayClient.verify content signature = true →
      ∃ values, genuine values ∧ signedContent values = content)
    (undivided : ∀ values, genuine values → Undivided values)
    (whole : ∀ name, (38 : UInt8) ∉ valueOf (parseForm door.tools.urlDecode body) name)
    (served : notify door body = .ok request) :
    ∃ values, genuine values ∧ request = requestOf values := by
  obtain ⟨⟨⟨client, isClient', verified, _⟩, rfl⟩, _⟩ := notify_ok.mp served
  obtain rfl : alipayClient = client := Option.some.inj (isClient.symm.trans isClient')
  obtain ⟨values, isGenuine, same⟩ := unforged _ _ verified
  exact ⟨values, isGenuine, requestOf_of_signed (undivided_of_values whole)
    (undivided values isGenuine) same.symm⟩

end Served

theorem clean_paidValues : ∀ pair ∈ paidValues.rows,
    (38 : UInt8) ∉ pair.1 ∧ (61 : UInt8) ∉ pair.1 ∧ (38 : UInt8) ∉ pair.2 := by
  decide +kernel

theorem served_as_signed_paid :
    ∃ request values, notify tillDoor paidForm = .ok request ∧ values = paidValues ∧
      request = requestOf values := by
  have unforged : ∀ content signature, tillClient.verify content signature = true →
      ∃ values, values = paidValues ∧ signedContent values = content := by
    intro content signature verified
    simp only [tillClient, Bool.and_eq_true, decide_eq_true_eq] at verified
    exact ⟨paidValues, rfl, paid_content.trans verified.1.symm⟩
  have undivided : ∀ values, values = paidValues → Undivided values := by
    rintro _ rfl pair member
    obtain ⟨outer, inner, value⟩ := clean_paidValues pair member
    exact ⟨⟨outer, inner⟩, value⟩
  have whole : ∀ name,
      (38 : UInt8) ∉ valueOf (parseForm tillDoor.tools.urlDecode paidForm) name := by
    have rows : ∀ pair ∈ (parseForm tillDoor.tools.urlDecode paidForm).rows,
        (38 : UInt8) ∉ pair.2 := by
      decide +kernel
    exact Form.not_mem_valueOf rows
  obtain ⟨values, isPaid, same⟩ := served_as_signed rfl unforged undivided whole notify_paidForm
  exact ⟨_, values, notify_paidForm, isPaid, same⟩

/-! A subject with ampersands can be taken apart: the two texts that are signed are one,
and the second names another amount. -/

def dividedSubject : Values UInt8 :=
  gather [(ascii "subject", ascii "tea&total_amount=100.00&totalx="),
    (ascii "total_amount", ascii "0.01"), (ascii "trade_no", ascii "T")]

def dividedForm : Bytes :=
  ascii "subject=tea&total_amount=100.00&totalx=%26total_amount=0.01&trade_no=T"

example : signedContent (parseForm (fun text => (Percent.decode text).getD text) dividedForm) =
      signedContent dividedSubject ∧
    valueOf (parseForm (fun text => (Percent.decode text).getD text) dividedForm)
      (ascii "total_amount") = ascii "100.00" := by
  decide +kernel

/-! ## What is genuine is served -/

section Signed

variable {door : AlipayDoor} {alipayClient : AlipayClient} {values : Values UInt8}
  {posted : List (Pair UInt8)}

/-- The decoder of the forms undoes percent encoding; a plus sign never reaches it. -/
def Decodes (urlDecode : Bytes → Bytes) : Prop :=
  ∀ text value, 43 ∉ text → Percent.decode text = some value → urlDecode text = value

theorem not_mem_encodeByte {b mark : UInt8} (reserved : Percent.isUnreserved mark = false)
    (other : mark ≠ Percent.percent) : mark ∉ Percent.encodeByte b := by
  have encoded := Percent.encoded_encode [b]
  rw [show Percent.encode [b] = Percent.encodeByte b from List.append_nil _] at encoded
  exact encoded.not_mem reserved other

theorem not_mem_formEncode {value : Bytes} {mark : UInt8}
    (reserved : Percent.isUnreserved mark = false) (other : mark ≠ Percent.percent)
    (noPlus : mark ≠ 43) : mark ∉ formEncode value := by
  intro member
  obtain ⟨b, _, isMark⟩ := List.mem_flatMap.mp member
  split at isMark
  · exact noPlus (List.mem_singleton.mp isMark)
  · exact not_mem_encodeByte reserved other isMark

theorem decodeValue_formEncode {urlDecode : Bytes → Bytes} (decodes : Decodes urlDecode)
    (value : Bytes) : decodeValue urlDecode (formEncode value) = value := by
  refine decodes _ _ ?_ ?_
  · intro member
    obtain ⟨b, _, isPlus⟩ := List.mem_map.mp member
    split at isPlus
    · exact absurd isPlus (by decide)
    · contradiction
  · induction value with
    | nil => rfl
    | cons b rest inductionHypothesis =>
        rw [formEncode, List.flatMap_cons, List.map_append, ← formEncode]
        split
        · rename_i isBlank
          rw [List.map_singleton, if_pos rfl, List.singleton_append,
            Percent.decode_cons (by decide), inductionHypothesis, isBlank, Option.map_some]
        · have kept : (Percent.encodeByte b).map (fun c => if c = 43 then 32 else c) =
              Percent.encodeByte b :=
            (List.map_congr_left fun c member => if_neg fun isPlus =>
              not_mem_encodeByte (by decide) (by decide) (isPlus ▸ member)).trans (List.map_id' _)
          rw [kept, Percent.decode_encodeByte, inductionHypothesis, Option.map_some]

theorem parseForm_formOf {urlDecode : Bytes → Bytes} (decodes : Decodes urlDecode)
    (names : ∀ pair ∈ posted, (38 : UInt8) ∉ pair.1 ∧ (61 : UInt8) ∉ pair.1) :
    parseForm urlDecode (formOf posted) = gather posted := by
  have clean : ∀ pair ∈ posted.map fun pair => (pair.1, formEncode pair.2),
      Clean formMarks pair := by
    intro encoded member
    obtain ⟨pair, isPosted, rfl⟩ := List.mem_map.mp member
    exact ⟨names pair isPosted, not_mem_formEncode (by decide) (by decide) (by decide)⟩
  rw [parseForm, formOf, Form.read_text clean, List.map_map]
  simp [Function.comp_def, decodeValue_formEncode decodes]

/-- A notification that Alipay signed is served, in whatever order its pairs are
posted. -/
theorem served_of_signed (isClient : door.alipayClient = some alipayClient)
    (service : door.paymentService = true) (decodes : Decodes door.tools.urlDecode)
    (names : ∀ pair ∈ values.rows, (38 : UInt8) ∉ pair.1 ∧ (61 : UInt8) ∉ pair.1)
    (order : posted.Perm values.rows)
    (signed : alipayClient.verify (signedContent values) (valueOf values (ascii "sign")) = true)
    (own : alipayClient.appId = [] ∨ valueOf values (ascii "app_id") = alipayClient.appId) :
    notify door (formOf posted) = .ok (requestOf values) := by
  have parsed : parseForm door.tools.urlDecode (formOf posted) = gather posted :=
    parseForm_formOf decodes fun pair member => names pair (order.mem_iff.mp member)
  have value := Form.valueOf_gather_of_perm order
  have sameContent : signedContent (gather posted) = signedContent values :=
    Form.canonical_congr fun name _ => value name
  refine notify_ok.mpr ⟨⟨⟨alipayClient, isClient, ?_, ?_⟩, ?_⟩, service⟩
  · rw [parsed, sameContent, value]
    exact signed
  · rw [parsed, value]
    exact own
  · rw [parsed, requestOf, requestOf, value, value, value, value]

end Signed
theorem served_of_signed_paid :
    notify tillDoor (formOf paidValues.rows.reverse) = .ok (requestOf paidValues) := by
  have decodes : Decodes tillDoor.tools.urlDecode := fun text value _ isValue => by
    simp [tillDoor, isValue]
  refine served_of_signed rfl rfl decodes (fun pair member => ?_) (List.reverse_perm _)
    (by decide +kernel) (Or.inr (by decide +kernel))
  exact ⟨(clean_paidValues pair member).1, (clean_paidValues pair member).2.1⟩

end DrogonPay.AlipayCallbackController
