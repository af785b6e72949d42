import DrogonPay.Channels.CertDownloads

/-!
Contract: which certificates a client trusts, and how often it asks for them.

Owns:
- `Delivered`, a certificate that came sealed with the API key in an answer to a
  download and passed every check when it was filed;
- `trusted_of_verified`: what verifies a notification was deployed with the client or
  delivered so, whatever the order of the answers;
- `Spaced`, the law of the download window, and `downloads_spaced`: downloads lie an
  interval apart, and a call is turned away only within an interval of one.

Does not own: what a notification says.
-/

namespace DrogonPay.WechatChannel

variable (crypto : Crypto) (settings : CertSettings) (timeoutMs : Nat)

/-! ## Where a certificate comes from -/

/-- The node holds this certificate, sealed with the API key; it is its own serial's,
valid at the time and anchored. -/
structure Vouched (certNode : Json) (now : Int) (anchors serial certContent : Bytes) : Prop where
  named : ∃ serialNo, certNode.stringAt "serial_no" = some serialNo ∧
    normalizeSerialHex serialNo = serial
  sealed : ∃ encNode ciphertext nonce associatedData,
    certNode.at? (ascii "encrypt_certificate") = some encNode ∧
    encNode.stringAt "ciphertext" = some ciphertext ∧ encNode.stringAt "nonce" = some nonce ∧
    encNode.stringAt "associated_data" = some associatedData ∧
    Sealed crypto settings.apiV3Key ciphertext nonce associatedData certContent
  cert : ∃ cert, parseCert crypto.toHost certContent = some cert ∧
    isWithinValidity cert now = true ∧ normalizeSerialHex (crypto.i2sAsn1Integer cert.serial) = serial
  chained : chainsToConfiguredAnchors crypto.toHost certContent anchors = true

def Delivered (events : List DownloadEvent) (anchors serial certContent : Bytes) : Prop :=
  ∃ exchange now body nodes, .answer exchange now ∈ events ∧
    sendWechatRequest timeoutMs (Exchange.unverified exchange) = some ⟨body, []⟩ ∧
    body.at? (ascii "data") = some (.arr nodes) ∧
    ∃ certNode ∈ nodes, Vouched crypto settings certNode now anchors serial certContent

variable {crypto settings timeoutMs}

/-- A call files a certificate that passes every check, or leaves the client as it
was. -/
theorem Client.setPlatformCert_spec (client : Client) (serialNo certContent : Bytes) (now : Int) :
    client.setPlatformCert crypto.toHost serialNo certContent now = (false, client) ∨
      ∃ cert, parseCert crypto.toHost certContent = some cert ∧
        isWithinValidity cert now = true ∧
        normalizeSerialHex (crypto.i2sAsn1Integer cert.serial) = normalizeSerialHex serialNo ∧
        chainsToConfiguredAnchors crypto.toHost certContent client.platformCaCertPath = true ∧
        client.setPlatformCert crypto.toHost serialNo certContent now =
          (true, client.filed crypto.toHost cert certContent) := by
  simp only [setPlatformCert]
  split
  · exact Or.inl rfl
  · cases parsed : parseCert crypto.toHost certContent with
    | none => exact Or.inl rfl
    | some cert =>
        dsimp only
        split_ifs with late other loose
        · exact Or.inl rfl
        · exact Or.inl rfl
        · exact Or.inl rfl
        · simp only [Bool.not_eq_true', Bool.not_eq_false, Bool.or_eq_true,
            decide_eq_true_eq, not_or, not_ne_iff] at late other loose
          exact Or.inr ⟨cert, rfl, late, other.2, loose, rfl⟩

theorem fileCertificate_spec {client client' : Client} {certNode : Json} {now : Int}
    {accepted : Bool}
    (filed : fileCertificate crypto settings client certNode now = some (client', accepted)) :
    client' = client ∨ ∃ cert certContent,
      Vouched crypto settings certNode now client.platformCaCertPath
        (normalizeSerialHex (crypto.i2sAsn1Integer cert.serial)) certContent ∧
      client' = client.filed crypto.toHost cert certContent := by
  unfold fileCertificate at filed
  obtain ⟨serialNo, isSerial, filed⟩ := Option.bind_eq_some_iff.mp filed
  obtain ⟨encNode, isNode, filed⟩ := Option.bind_eq_some_iff.mp filed
  split at filed
  · cases filed
    exact Or.inl rfl
  · obtain ⟨ciphertext, isCiphertext, filed⟩ := Option.bind_eq_some_iff.mp filed
    obtain ⟨nonce, isNonce, filed⟩ := Option.bind_eq_some_iff.mp filed
    obtain ⟨associatedData, isData, filed⟩ := Option.bind_eq_some_iff.mp filed
    split at filed
    · cases filed
      exact Or.inl rfl
    · rename_i plaintext decrypted
      rcases Client.setPlatformCert_spec client serialNo plaintext now with
        same | ⟨cert, parsed, valid, own, chained, isFiled⟩
      · rw [same] at filed
        cases filed
        exact Or.inl rfl
      · rw [isFiled] at filed
        cases filed
        exact Or.inr ⟨cert, plaintext, ⟨⟨serialNo, isSerial, own.symm⟩,
          ⟨encNode, ciphertext, nonce, associatedData, isNode, isCiphertext, isNonce, isData,
            sealed_of_decrypted decrypted⟩, ⟨cert, parsed, valid, rfl⟩, chained⟩, rfl⟩

/-- What filing a certificate the nodes vouch for keeps is kept by filing them all. -/
theorem fileCertificates_keeps {P : Client → Prop} {now : Int} {nodes : List Json}
    (files : ∀ client cert certContent, P client → (∃ certNode ∈ nodes,
      Vouched crypto settings certNode now client.platformCaCertPath
        (normalizeSerialHex (crypto.i2sAsn1Integer cert.serial)) certContent) →
      P (client.filed crypto.toHost cert certContent))
    {client : Client} (holds : P client) (installed : Nat) :
    P (fileCertificates crypto settings client installed now nodes).1 := by
  induction nodes generalizing client installed with
  | nil => exact holds
  | cons certNode rest inductionHypothesis =>
      unfold fileCertificates
      split
      · exact holds
      · rename_i client' accepted filed
        refine inductionHypothesis ?_ ?_ _
        · rintro client cert certContent holds ⟨later, member, vouched⟩
          exact files client cert certContent holds
            ⟨later, List.mem_cons_of_mem _ member, vouched⟩
        · rcases fileCertificate_spec filed with same | ⟨cert, certContent, vouched, same⟩
          · rw [same]
            exact holds
          · rw [same]
            exact files client cert certContent holds ⟨certNode, List.mem_cons_self, vouched⟩

theorem certificatesAnswered_keeps {P : Client → Prop} {answer : ChannelAnswer} {now : Int}
    (files : ∀ client cert certContent nodes, P client → answer.error = [] →
      answer.result.at? (ascii "data") = some (.arr nodes) → (∃ certNode ∈ nodes,
        Vouched crypto settings certNode now client.platformCaCertPath
          (normalizeSerialHex (crypto.i2sAsn1Integer cert.serial)) certContent) →
      P (client.filed crypto.toHost cert certContent))
    {client : Client} (holds : P client) :
    P (certificatesAnswered crypto settings client answer now).1 := by
  unfold certificatesAnswered
  split
  · exact holds
  · rename_i through
    split
    · exact holds
    · rename_i nodes isData
      exact fileCertificates_keeps (fun client cert certContent holds vouched =>
        files client cert certContent nodes holds (not_ne_iff.mp through) isData vouched) holds 0
    · exact holds

/-- A client that trusts nothing but what was delivered to it. -/
structure Grounded (crypto : Crypto) (settings : CertSettings) (timeoutMs : Nat) (start : Client)
    (events : List DownloadEvent) (client : Client) : Prop where
  deployed : client.platformCertPath = start.platformCertPath
  anchors : client.platformCaCertPath = start.platformCaCertPath
  delivered : ∀ serial certContent, client.platformCerts serial = some certContent →
    Delivered crypto settings timeoutMs events start.platformCaCertPath serial certContent

theorem Grounded.later {start client : Client} {events : List DownloadEvent}
    (grounded : Grounded crypto settings timeoutMs start events client)
    (event : DownloadEvent) :
    Grounded crypto settings timeoutMs start (events ++ [event]) client := by
  refine ⟨grounded.deployed, grounded.anchors, fun serial certContent found => ?_⟩
  obtain ⟨exchange, now, body, nodes, isEvent, rest⟩ := grounded.delivered serial certContent found
  exact ⟨exchange, now, body, nodes, List.mem_append_left _ isEvent, rest⟩

/-- An answer leaves the client grounded. -/
theorem Grounded.answered {start client : Client} {events : List DownloadEvent}
    (grounded : Grounded crypto settings timeoutMs start events client) {exchange : Exchange}
    {now : Int} {answer : ChannelAnswer}
    (heard : sendWechatRequest timeoutMs (Exchange.unverified exchange) = some answer) :
    Grounded crypto settings timeoutMs start (events ++ [.answer exchange now])
      (certificatesAnswered crypto settings client answer now).1 := by
  refine certificatesAnswered_keeps ?_ (grounded.later _)
  rintro client cert certContent nodes before through isData ⟨certNode, member, vouched⟩
  refine ⟨before.deployed, before.anchors, fun serial found isFound => ?_⟩
  simp only [Client.filed] at isFound
  split at isFound
  · rename_i same
    cases isFound
    obtain ⟨body, error⟩ := answer
    obtain rfl : error = [] := through
    rw [before.anchors, ← same] at vouched
    exact ⟨exchange, now, body, nodes, by simp, heard, isData, certNode, member, vouched⟩
  · exact before.delivered serial found isFound

theorem grounded {platformCertPath platformCaCertPath : Bytes} {clock : Int}
    {events : List DownloadEvent} {s : Downloads}
    (run : DownloadRun crypto settings timeoutMs
      (Client.fresh platformCertPath platformCaCertPath) clock events s) :
    Grounded crypto settings timeoutMs (Client.fresh platformCertPath platformCaCertPath) events
      s.client := by
  refine run.keeps (P := fun events s => Grounded crypto settings timeoutMs
    (Client.fresh platformCertPath platformCaCertPath) events s.client)
    ⟨rfl, rfl, fun _ _ found => by cases found⟩ ?_
  intro events event s s' before stepped
  cases event with
  | tick nanoseconds =>
      cases stepped
      exact before.later _
  | call authorization =>
      cases authorization with
      | error _ =>
          cases stepped
          exact before.later _
      | ok _ =>
          cases stepped
          exact before.later _
  | lock index =>
      obtain ⟨now, _, stepped⟩ := Option.bind_eq_some_iff.mp stepped
      split at stepped
      · cases stepped
        exact before.later _
      · cases stepped
        exact before.later _
  | answer exchange now =>
      simp only [Downloads.step] at stepped
      split at stepped
      · cases stepped
      · split at stepped
        · cases stepped
          exact before.later _
        · rename_i answer heard
          cases stepped
          exact before.answered heard

/-! ## What verifies a message -/

/-- The message is signed under the key of a certificate that is valid now, carries
the serial of the message, and was deployed with the client or delivered to it. -/
structure Trusted (crypto : Crypto) (settings : CertSettings) (timeoutMs : Nat)
    (platformCertPath platformCaCertPath : Bytes) (events : List DownloadEvent) (post : Post)
    (now : Int) (certContent : Bytes) : Prop where
  signed : Signed crypto post.message post.signature certContent now
  own : certificateSerialHex crypto.toHost certContent = normalizeSerialHex post.serialNo
  origin : crypto.readFile platformCertPath = some certContent ∨
    Delivered crypto settings timeoutMs events platformCaCertPath
      (normalizeSerialHex post.serialNo) certContent

theorem trusted_of_verified {platformCertPath platformCaCertPath : Bytes} {clock : Int}
    {events : List DownloadEvent} {s : Downloads}
    (run : DownloadRun crypto settings timeoutMs
      (Client.fresh platformCertPath platformCaCertPath) clock events s)
    {post : Post} {now : Int} (verified : verifyCallback crypto s.client post now = none) :
    ∃ certContent, Trusted crypto settings timeoutMs platformCertPath platformCaCertPath events
      post now certContent := by
  obtain ⟨certContent, resolved, signed⟩ := verified_callback verified
  obtain ⟨deployed, _, delivered⟩ := grounded run
  refine ⟨certContent, ?_⟩
  rcases Client.resolve_ok resolved with found | ⟨isStatic, own⟩
  · obtain ⟨_, _, _, _, _, _, _, _, _, vouched⟩ := delivered _ _ found
    obtain ⟨cert, parsed, _, own⟩ := vouched.cert
    refine ⟨signed, ?_, Or.inr (delivered _ _ found)⟩
    simp only [certificateSerialHex, parsed, own]
  · rw [deployed] at isStatic
    exact ⟨signed, own, Or.inl isStatic⟩

/-! ## The download window -/

/-- The interval in nanoseconds. -/
def CertSettings.interval (settings : CertSettings) : Int :=
  settings.certDownloadMinIntervalSeconds * nanosecondsPerSecond

/-- Downloads lie an interval apart, and whoever was turned away came within an
interval of one. -/
structure Spaced (settings : CertSettings) (s : Downloads) : Prop where
  apart : s.issued.Pairwise fun earlier later => earlier + settings.interval ≤ later
  covered : ∀ now ∈ s.throttled, ∃ sent ∈ s.issued, now < sent + settings.interval

theorem elapsedSeconds_lt_iff (now before : Int) :
    elapsedSeconds now before < settings.certDownloadMinIntervalSeconds ↔
      now < before + settings.interval := by
  have floored := settings.floored
  simp only [elapsedSeconds, CertSettings.interval, nanosecondsPerSecond]
  generalize settings.certDownloadMinIntervalSeconds = seconds at floored
  by_cases ahead : 0 ≤ now - before
  · rw [Int.tdiv_eq_ediv_of_nonneg ahead]
    omega
  · have backwards : (now - before).tdiv 1000000000 ≤ 0 := by
      rw [← Int.neg_nonneg, ← Int.neg_tdiv]
      exact Int.tdiv_nonneg (by omega) (by omega)
    constructor
    · intro _
      omega
    · intro _
      omega

/-- The window is stamped with the last download, and every reading is one of a
clock that has started. -/
structure Stamped (settings : CertSettings) (s : Downloads) : Prop extends Spaced settings s where
  stamp : s.lastCertDownloadAt = 0 ∧ s.issued = [] ∨
    s.lastCertDownloadAt ∈ s.issued ∧ 0 < s.lastCertDownloadAt ∧
      ∀ sent ∈ s.issued, sent ≤ s.lastCertDownloadAt
  clock : 0 < s.clock
  waiting : ∀ now ∈ s.waiting, 0 < now

theorem Stamped.lock {s s' : Downloads} (stamped : Stamped settings s) {index : Nat}
    (stepped : s.step crypto settings timeoutMs (.lock index) = some s') :
    Stamped settings s' := by
  obtain ⟨now, found, stepped⟩ := Option.bind_eq_some_iff.mp stepped
  have positive := stamped.waiting now (List.mem_of_getElem? found)
  have others : ∀ other ∈ s.waiting.eraseIdx index, 0 < other := fun other member =>
    stamped.waiting other (List.mem_of_mem_eraseIdx member)
  have floored := settings.floored
  have interval : 0 < settings.interval := by
    simp only [CertSettings.interval, nanosecondsPerSecond]
    omega
  split at stepped
  · rename_i throttled
    cases stepped
    simp only [isThrottled, Bool.and_eq_true, decide_eq_true_eq, elapsedSeconds_lt_iff] at throttled
    refine ⟨⟨stamped.apart, fun other member => ?_⟩, stamped.stamp, stamped.clock, others⟩
    rcases List.mem_append.mp member with old | new
    · exact stamped.covered other old
    · rw [List.mem_singleton.mp new]
      rcases stamped.stamp with ⟨never, _⟩ | ⟨sent, _⟩
      · exact absurd never throttled.1
      · exact ⟨_, sent, throttled.2⟩
  · rename_i free
    cases stepped
    simp only [isThrottled, Bool.and_eq_true, decide_eq_true_eq, elapsedSeconds_lt_iff] at free
    -- whatever was sent lies an interval before this reading
    have before : ∀ sent ∈ s.issued, sent + settings.interval ≤ now := by
      intro sent member
      rcases stamped.stamp with ⟨_, nothing⟩ | ⟨_, started, latest⟩
      · rw [nothing] at member
        cases member
      · have sooner := latest sent member
        by_contra late
        exact free ⟨started.ne', by omega⟩
    refine ⟨⟨?_, ?_⟩, Or.inr ⟨by simp, positive, ?_⟩, stamped.clock, others⟩
    · refine List.pairwise_append.mpr ⟨stamped.apart, List.pairwise_singleton _ _, ?_⟩
      intro sent member last isLast
      rw [List.mem_singleton.mp isLast]
      exact before sent member
    · intro other member
      obtain ⟨sent, isSent, soon⟩ := stamped.covered other member
      exact ⟨sent, List.mem_append_left _ isSent, soon⟩
    · intro sent member
      rcases List.mem_append.mp member with old | new
      · have apart := before sent old
        show sent ≤ now
        omega
      · exact le_of_eq (List.mem_singleton.mp new)

/-- In every run of a client whose clock has started, the downloads are spaced. -/
theorem downloads_spaced {crypto : Crypto} {settings : CertSettings} {timeoutMs : Nat}
    {client : Client} {clock : Int} {events : List DownloadEvent} {s : Downloads}
    (started : 0 < clock) (run : DownloadRun crypto settings timeoutMs client clock events s) :
    Spaced settings s := by
  have stamped : Stamped settings s := by
    refine run.keeps (P := fun _ s => Stamped settings s) ?_ ?_
    · exact ⟨⟨List.Pairwise.nil, nofun⟩, Or.inl ⟨rfl, rfl⟩, started, nofun⟩
    · intro events event s s' before stepped
      cases event with
      | tick nanoseconds =>
          cases stepped
          refine ⟨⟨before.apart, before.covered⟩, before.stamp, ?_, before.waiting⟩
          have clock := before.clock
          show 0 < s.clock + nanoseconds
          omega
      | call authorization =>
          cases authorization with
          | error _ =>
              cases stepped
              exact before
          | ok _ =>
              cases stepped
              refine ⟨⟨before.apart, before.covered⟩, before.stamp, before.clock, fun now member => ?_⟩
              rcases List.mem_append.mp member with old | new
              · exact before.waiting now old
              · rw [List.mem_singleton.mp new]
                exact before.clock
      | lock index => exact before.lock stepped
      | answer exchange now =>
          simp only [Downloads.step] at stepped
          split at stepped
          · cases stepped
          · split at stepped
            · cases stepped
              exact ⟨⟨before.apart, before.covered⟩, before.stamp, before.clock, before.waiting⟩
            · cases stepped
              exact ⟨⟨before.apart, before.covered⟩, before.stamp, before.clock, before.waiting⟩
  exact stamped.toSpaced

/-- OpenSSL without a key or a certificate. -/
def keyless : Crypto where
  parse _ := none
  i2sAsn1Integer := Decimal.natText
  verifies _ _ := false
  readFile _ := none
  base64Decode _ := []
  publicKey _ := none
  digestVerifies _ _ _ := false
  opens _ _ _ _ _ := none

/-- Two threads call at once, and a third one a second later. -/
def threeCalls : List DownloadEvent :=
  [.call (.ok []), .call (.ok []), .lock 1, .lock 0, .tick 1000000000, .call (.ok []), .lock 0]

theorem downloads_spaced_once :
    ∃ s, DownloadRun keyless (.ofConfig [] 0) 5000 (Client.fresh [] []) 7 threeCalls s ∧
      s.issued = [7, 1000000007] ∧ s.throttled = [7] ∧ Spaced (.ofConfig [] 0) s := by
  have ran : ∃ s, Steps.runAll (Downloads.step keyless (.ofConfig [] 0) 5000)
      (Downloads.initial (Client.fresh [] []) 7) threeCalls = some s ∧
      s.issued = [7, 1000000007] ∧ s.throttled = [7] := ⟨_, rfl, rfl, rfl⟩
  obtain ⟨s, ran, issued, throttled⟩ := ran
  have run := Steps.Run.of_runAll ran
  exact ⟨s, run, issued, throttled, downloads_spaced (by decide) run⟩

end DrogonPay.WechatChannel
