import DrogonPay.Channels.WechatRequests

/-!
Contract: what the path of a signed request tells about the number it is for.

Owns:
- `encode_eq`: `urlEncodePathSegment` is the percent-encoding of RFC 3986;
- `NumberedCall`, the calls that name an order or a refund, and the target each
  of them means;
- `urlEncodePathSegment_roundTrip`: the encoding is undone by decoding, and a
  path splits into its fixed parts and the encoded numbers, so that two calls
  have one path only when they are the same call.

Does not own: how WeChat reads a target.
-/

namespace DrogonPay

open PayUtils (urlEncodePathSegment)

theorem encode_eq (raw : Bytes) : urlEncodePathSegment raw = Percent.encode raw := by
  have each : ∀ c : UInt8,
      (if PayUtils.unreserved c then [c]
        else [37, PayUtils.kHex.getD ((c >>> 4) &&& 0xF).toNat 0,
          PayUtils.kHex.getD (c &&& 0xF).toNat 0]) = Percent.encodeByte c :=
    Hex.forall_bytes (by decide +kernel)
  rw [urlEncodePathSegment, Percent.encode]
  exact congrArg (raw.flatMap ·) (funext each)

/-- The separators of a target do not occur in an encoded number. -/
theorem not_mem_encoded {separator : UInt8} (reserved : separator ∈ ascii "/?#&=") (raw : Bytes) :
    separator ∉ urlEncodePathSegment raw := by
  have splits : ∀ b ∈ ascii "/?#&=", Percent.isUnreserved b = false ∧ b ≠ Percent.percent := by
    decide +kernel
  obtain ⟨isReserved, other⟩ := splits separator reserved
  rw [encode_eq]
  exact (Percent.encoded_encode raw).not_mem isReserved other

theorem urlEncodePathSegment_inj {left right : Bytes} :
    urlEncodePathSegment left = urlEncodePathSegment right ↔ left = right := by
  rw [encode_eq, encode_eq]
  exact ⟨Percent.encode_injective, congrArg Percent.encode⟩

/-- The calls whose path names an order or a refund. -/
inductive NumberedCall where
  | queryTransaction (orderNo : Bytes)
  | closeTransaction (orderNo : Bytes)
  | queryRefund (refundNo : Bytes)
deriving DecidableEq

namespace NumberedCall

def submit (client : WechatPayClient) (timestamp nonce : Bytes) :
    NumberedCall → Except Bytes SignedRequest
  | queryTransaction orderNo => client.queryTransaction orderNo timestamp nonce
  | closeTransaction orderNo => client.closeTransaction orderNo timestamp nonce
  | queryRefund refundNo => client.queryRefund refundNo timestamp nonce

def path (mchId : Bytes) : NumberedCall → Bytes
  | queryTransaction orderNo => WechatPayClient.queryPath mchId orderNo
  | closeTransaction orderNo => WechatPayClient.closePath orderNo
  | queryRefund refundNo => WechatPayClient.refundPath refundNo

/-- The fixed parts and the encoded numbers a path is meant to have. -/
def target (mchId : Bytes) : NumberedCall → UrlTarget
  | queryTransaction orderNo =>
      ⟨[[], ascii "v3", ascii "pay", ascii "transactions", ascii "out-trade-no",
        urlEncodePathSegment orderNo], some [[ascii "mchid", urlEncodePathSegment mchId]], none⟩
  | closeTransaction orderNo =>
      ⟨[[], ascii "v3", ascii "pay", ascii "transactions", ascii "out-trade-no",
        urlEncodePathSegment orderNo, ascii "close"], none, none⟩
  | queryRefund refundNo =>
      ⟨[[], ascii "v3", ascii "refund", ascii "domestic", ascii "refunds",
        urlEncodePathSegment refundNo], none, none⟩

theorem path_of_submit {client : WechatPayClient} {timestamp nonce : Bytes} {call : NumberedCall}
    {request : SignedRequest} (submitted : call.submit client timestamp nonce = .ok request) :
    request.path = call.path client.mchId := by
  cases call with
  | queryTransaction orderNo =>
      simp only [submit, WechatPayClient.queryTransaction] at submitted
      split at submitted
      · cases submitted
      · split at submitted
        · cases submitted
        · exact WechatPayClient.path_of_sign submitted
  | closeTransaction orderNo =>
      simp only [submit, WechatPayClient.closeTransaction] at submitted
      split at submitted
      · cases submitted
      · split at submitted
        · cases submitted
        · exact WechatPayClient.path_of_sign submitted
  | queryRefund refundNo =>
      simp only [submit, WechatPayClient.queryRefund] at submitted
      split at submitted
      · cases submitted
      · exact WechatPayClient.path_of_sign submitted

end NumberedCall

/-! ## Taking a path apart -/

/-- An encoded number is a segment like the fixed ones. -/
theorem plain_encoded (raw : Bytes) :
    47 ∉ urlEncodePathSegment raw ∧ 63 ∉ urlEncodePathSegment raw ∧
      35 ∉ urlEncodePathSegment raw :=
  ⟨not_mem_encoded (by decide) raw, not_mem_encoded (by decide) raw,
    not_mem_encoded (by decide) raw⟩

/-- Fixed segments around an encoded number. -/
theorem plain_around (front behind : List Bytes) (raw : Bytes)
    (fixed : ∀ segment ∈ front ++ behind, 47 ∉ segment ∧ 63 ∉ segment ∧ 35 ∉ segment) :
    UrlTarget.Plain (front ++ urlEncodePathSegment raw :: behind) := by
  refine ⟨by simp, fun segment member => ?_⟩
  rcases List.mem_append.mp member with before | rest
  · exact fixed segment (List.mem_append_left _ before)
  · rcases List.mem_cons.mp rest with rfl | after
    · exact plain_encoded raw
    · exact fixed segment (List.mem_append_right _ after)

theorem split_queryPath (mchId orderNo : Bytes) :
    UrlTarget.split (WechatPayClient.queryPath mchId orderNo) =
      (NumberedCall.queryTransaction orderNo).target mchId := by
  let front := [[], ascii "v3", ascii "pay", ascii "transactions", ascii "out-trade-no"]
  have plain := plain_around front [] orderNo (by decide)
  have plainMchId : 35 ∉ urlEncodePathSegment mchId ∧ 38 ∉ urlEncodePathSegment mchId ∧
      61 ∉ urlEncodePathSegment mchId :=
    ⟨not_mem_encoded (by decide) mchId, not_mem_encoded (by decide) mchId,
      not_mem_encoded (by decide) mchId⟩
  have spelled : WechatPayClient.queryPath mchId orderNo =
      joinPath (front ++ [urlEncodePathSegment orderNo]) ++
        63 :: (ascii "mchid" ++ 61 :: urlEncodePathSegment mchId) := by
    simp [WechatPayClient.queryPath, joinPath, front, ascii]
  rw [spelled, UrlTarget.split_query plain (by decide) plainMchId]
  rfl

theorem split_closePath (mchId orderNo : Bytes) :
    UrlTarget.split (WechatPayClient.closePath orderNo) =
      (NumberedCall.closeTransaction orderNo).target mchId := by
  let front := [[], ascii "v3", ascii "pay", ascii "transactions", ascii "out-trade-no"]
  have plain := plain_around front [ascii "close"] orderNo (by decide)
  have spelled : WechatPayClient.closePath orderNo =
      joinPath (front ++ [urlEncodePathSegment orderNo, ascii "close"]) := by
    simp [WechatPayClient.closePath, joinPath, front, ascii]
  rw [spelled, UrlTarget.split_path plain]
  rfl

theorem split_refundPath (mchId refundNo : Bytes) :
    UrlTarget.split (WechatPayClient.refundPath refundNo) =
      (NumberedCall.queryRefund refundNo).target mchId := by
  let front := [[], ascii "v3", ascii "refund", ascii "domestic", ascii "refunds"]
  have plain := plain_around front [] refundNo (by decide)
  have spelled : WechatPayClient.refundPath refundNo =
      joinPath (front ++ [urlEncodePathSegment refundNo]) := by
    simp [WechatPayClient.refundPath, joinPath, front, ascii]
  rw [spelled, UrlTarget.split_path plain]
  rfl

namespace NumberedCall

theorem split_path (mchId : Bytes) (call : NumberedCall) :
    UrlTarget.split (call.path mchId) = call.target mchId := by
  cases call with
  | queryTransaction orderNo => exact split_queryPath mchId orderNo
  | closeTransaction orderNo => exact split_closePath mchId orderNo
  | queryRefund refundNo => exact split_refundPath mchId refundNo

theorem target_injective {mchId : Bytes} {left right : NumberedCall}
    (same : left.target mchId = right.target mchId) : left = right := by
  cases left <;> cases right <;>
    simp_all [target, urlEncodePathSegment_inj]

end NumberedCall

/-- The promise: an encoded number is a segment of unreserved characters and
triplets that decodes to the number, numbers and calls are not confused, and
every path that is signed has the parts it is meant to have. -/
theorem urlEncodePathSegment_roundTrip :
    (∀ raw, Percent.Encoded (urlEncodePathSegment raw) ∧
      Percent.decode (urlEncodePathSegment raw) = some raw ∧
      ∀ separator ∈ ascii "/?#&=", separator ∉ urlEncodePathSegment raw) ∧
    (∀ left right, urlEncodePathSegment left = urlEncodePathSegment right ↔ left = right) ∧
    (∀ (client : WechatPayClient) (call : NumberedCall) (timestamp nonce : Bytes),
      ∀ request ∈ (call.submit client timestamp nonce).toOption,
        request.path = call.path client.mchId) ∧
    (∀ (mchId : Bytes) (call : NumberedCall),
      UrlTarget.split (call.path mchId) = call.target mchId) ∧
    (∀ (mchId : Bytes) (left right : NumberedCall),
      left.path mchId = right.path mchId ↔ left = right) := by
  refine ⟨fun raw => ⟨?_, ?_, fun separator reserved => not_mem_encoded reserved raw⟩,
    fun left right => urlEncodePathSegment_inj, fun client call timestamp nonce request sent => ?_,
    NumberedCall.split_path, fun mchId left right => ⟨fun same => ?_, congrArg (NumberedCall.path mchId)⟩⟩
  · rw [encode_eq]
    exact Percent.encoded_encode raw
  · rw [encode_eq]
    exact Percent.decode_encode raw
  · cases submitted : call.submit client timestamp nonce with
    | error fault =>
        rw [submitted] at sent
        cases sent
    | ok given =>
        rw [submitted] at sent
        cases sent
        exact NumberedCall.path_of_submit submitted
  · refine @NumberedCall.target_injective mchId _ _ ?_
    rw [← NumberedCall.split_path, ← NumberedCall.split_path, same]

end DrogonPay
