import DrogonPay.Hex.Text

/-!
Contract: the platform certificates of the WeChat client (`WechatChannel.cc`).

Owns:
- `normalizeSerialHex`, and what is assumed of OpenSSL's serial text
  (`Host.RendersSerials`);
- the certificate cache with `setPlatformCert`, `getPlatformCert` and
  `resolveTrustedPlatformCert`;
- the law of certificate identity, with the serials it holds for.

Does not own: PEM and X.509 parsing, `i2s_ASN1_INTEGER`, chain verification and the
file system, which are parameters, or the download that feeds the cache.
-/

namespace DrogonPay

namespace WechatChannel

/-! ## Serial numbers -/

/-- Upper case, without leading zeros. -/
def normalizeSerialHex (raw : Bytes) : Bytes :=
  let upper := raw.map Hex.upper
  match upper.dropWhile (· = 48) with
  | [] => ascii "0"
  | rest => rest

/-! ## The client -/

/-- What the client reads of a certificate. -/
structure X509 where
  serial : Nat
  notBefore : Int
  notAfter : Int

/-- OpenSSL and the file system. `i2sAsn1Integer` is the text of a serial, and
`verifies` the chain verification of a certificate against the anchors of a CA
file. -/
structure Host where
  parse : Bytes → Option X509
  i2sAsn1Integer : Nat → Bytes
  verifies : Bytes → Bytes → Bool
  readFile : Bytes → Option Bytes

/-- What OpenSSL documents of `i2s_ASN1_INTEGER`: a value of fewer than 128 bits is
written in decimal, a larger one as `0x` and hexadecimal digits. -/
structure Host.RendersSerials (host : Host) : Prop where
  decimal : ∀ n < 2 ^ 127, host.i2sAsn1Integer n = Decimal.natText n
  hex : ∀ n, 2 ^ 127 ≤ n →
    ∃ digits, Hex.Spells digits n ∧ host.i2sAsn1Integer n = ascii "0x" ++ digits

/-- The part of a client that deals with certificates. -/
structure Client where
  platformCertPath : Bytes
  platformCaCertPath : Bytes
  platformCerts : Bytes → Option Bytes

variable (host : Host)

def parseCert (certContent : Bytes) : Option X509 :=
  if certContent.isEmpty then none else host.parse certContent

/-- `X509_cmp_current_time` counts a time that is now as past. -/
def isWithinValidity (cert : X509) (now : Int) : Bool :=
  cert.notBefore ≤ now && now < cert.notAfter

def certificateSerialHex (certContent : Bytes) : Bytes :=
  match parseCert host certContent with
  | none => []
  | some cert => normalizeSerialHex (host.i2sAsn1Integer cert.serial)

def chainsToConfiguredAnchors (certPem caPath : Bytes) : Bool :=
  if caPath.isEmpty then true
  else
    match host.readFile caPath with
    | none => false
    | some caPem => host.verifies caPem certPem

namespace Client

/-- File a certificate under its own serial, if it passes every check. -/
def setPlatformCert (client : Client) (serialNo certContent : Bytes) (now : Int) :
    Bool × Client :=
  if serialNo.isEmpty then (false, client)
  else
    match parseCert host certContent with
    | none => (false, client)
    | some cert =>
        let actualSerial := normalizeSerialHex (host.i2sAsn1Integer cert.serial)
        if !isWithinValidity cert now then (false, client)
        else if actualSerial.isEmpty || actualSerial ≠ normalizeSerialHex serialNo then
          (false, client)
        else if !chainsToConfiguredAnchors host certContent client.platformCaCertPath then
          (false, client)
        else
          (true, { client with platformCerts := fun serial =>
            if serial = actualSerial then some certContent else client.platformCerts serial })

def getPlatformCert (client : Client) (serialNo : Bytes) : Bytes :=
  (client.platformCerts (normalizeSerialHex serialNo)).getD []

/-- The certificate a signature header names, or why it is not trusted. -/
def resolveTrustedPlatformCert (client : Client) (serialNo : Bytes) : Except Bytes Bytes :=
  if serialNo.isEmpty then .error (ascii "missing Wechatpay-Serial")
  else if serialNo.length > 64 then .error (ascii "Wechatpay-Serial too long")
  else
    let cached := client.getPlatformCert serialNo
    let unknown : Except Bytes Bytes :=
      .error (ascii "no trusted platform certificate for serial: " ++ serialNo)
    if !cached.isEmpty then .ok cached
    else if client.platformCertPath.isEmpty then unknown
    else
      match host.readFile client.platformCertPath with
      | none =>
          .error (ascii "failed to read static cert: failed to open file: " ++
            client.platformCertPath)
      | some staticCert =>
          if certificateSerialHex host staticCert = normalizeSerialHex serialNo then
            if staticCert.isEmpty then unknown else .ok staticCert
          else unknown

/-- A call of `setPlatformCert`. -/
structure Call where
  serialNo : Bytes
  certContent : Bytes
  now : Int

/-- The client after a sequence of calls. -/
def afterCalls (client : Client) (calls : List Call) : Client :=
  calls.foldl (fun client call =>
    (client.setPlatformCert host call.serialNo call.certContent call.now).2) client

/-- A client that has seen no certificate yet. -/
def fresh (platformCertPath platformCaCertPath : Bytes) : Client :=
  ⟨platformCertPath, platformCaCertPath, fun _ => none⟩

end Client

/-! ## What a call can do -/

theorem normalizeSerialHex_ne_nil (raw : Bytes) : normalizeSerialHex raw ≠ [] := by
  simp only [normalizeSerialHex]
  split
  · decide
  · assumption

theorem parseCert_nonempty {certContent : Bytes} {cert : X509}
    (parsed : parseCert host certContent = some cert) : certContent ≠ [] := by
  rintro rfl
  cases parsed

namespace Client

/-- The client with a certificate filed under its serial. -/
def filed (client : Client) (cert : X509) (certContent : Bytes) : Client :=
  { client with platformCerts := fun serial =>
      if serial = normalizeSerialHex (host.i2sAsn1Integer cert.serial) then some certContent
      else client.platformCerts serial }

/-- A certificate that passes the checks is filed. -/
theorem setPlatformCert_files {client : Client} {serialNo certContent : Bytes} {now : Int}
    {cert : X509} (named : serialNo ≠ []) (parsed : parseCert host certContent = some cert)
    (valid : isWithinValidity cert now = true)
    (own : normalizeSerialHex (host.i2sAsn1Integer cert.serial) = normalizeSerialHex serialNo)
    (chained : chainsToConfiguredAnchors host certContent client.platformCaCertPath = true) :
    client.setPlatformCert host serialNo certContent now =
      (true, client.filed host cert certContent) := by
  have nonempty := normalizeSerialHex_ne_nil serialNo
  simp [setPlatformCert, named, parsed, valid, own, chained, filed, nonempty]

/-- A call files the certificate, or leaves the client as it was. -/
theorem setPlatformCert_cases (client : Client) (serialNo certContent : Bytes) (now : Int) :
    (client.setPlatformCert host serialNo certContent now).2 = client ∨
      ∃ cert, parseCert host certContent = some cert ∧
        (client.setPlatformCert host serialNo certContent now).2 =
          client.filed host cert certContent := by
  simp only [setPlatformCert]
  split
  · exact Or.inl rfl
  · cases parsed : parseCert host certContent with
    | none => exact Or.inl rfl
    | some cert =>
        dsimp only
        split_ifs
        · exact Or.inl rfl
        · exact Or.inl rfl
        · exact Or.inl rfl
        · exact Or.inr ⟨cert, rfl, rfl⟩

variable {host}

/-- A property that filing a certificate keeps is kept by every sequence of
calls. -/
theorem afterCalls_keeps {P : Client → Prop} {calls : List Call}
    (files : ∀ client call cert, call ∈ calls → parseCert host call.certContent = some cert →
      P client → P (client.filed host cert call.certContent))
    {client : Client} (holds : P client) : P (client.afterCalls host calls) := by
  induction calls generalizing client with
  | nil => exact holds
  | cons call rest inductionHypothesis =>
      have later : ∀ client later cert, later ∈ rest →
          parseCert host later.certContent = some cert → P client →
          P (client.filed host cert later.certContent) :=
        fun client later cert member => files client later cert (by simp [member])
      refine inductionHypothesis later ?_
      show P (client.setPlatformCert host call.serialNo call.certContent call.now).2
      rcases client.setPlatformCert_cases host call.serialNo call.certContent call.now
        with same | ⟨cert, parsed, isFiled⟩
      · rw [same]
        exact holds
      · rw [isFiled]
        exact files client call cert (by simp) parsed holds

/-- Every cached certificate parses and is cached under its own serial. -/
def Ordered (host : Host) (client : Client) : Prop :=
  ∀ serial certContent, client.platformCerts serial = some certContent →
    ∃ cert, parseCert host certContent = some cert ∧
      serial = normalizeSerialHex (host.i2sAsn1Integer cert.serial)

theorem ordered_fresh (platformCertPath platformCaCertPath : Bytes) :
    Ordered host (fresh platformCertPath platformCaCertPath) :=
  fun _ _ found => by cases found

theorem Ordered.filed {client : Client} {cert : X509} {certContent : Bytes}
    (ordered : Ordered host client) (parsed : parseCert host certContent = some cert) :
    Ordered host (client.filed host cert certContent) := by
  intro serial found isFound
  simp only [Client.filed] at isFound
  split at isFound
  · rename_i same
    cases isFound
    exact ⟨cert, parsed, same⟩
  · exact ordered serial found isFound

theorem Ordered.afterCalls {client : Client} (ordered : Ordered host client)
    (calls : List Call) : Ordered host (client.afterCalls host calls) :=
  afterCalls_keeps (fun _ _ _ _ parsed before => before.filed parsed) ordered

theorem afterCalls_anchors (client : Client) (calls : List Call) :
    (client.afterCalls host calls).platformCaCertPath = client.platformCaCertPath :=
  afterCalls_keeps (P := fun later => later.platformCaCertPath = client.platformCaCertPath)
    (fun _ _ _ _ _ same => same) rfl

/-- A filed certificate stays until another one of its serial is filed. -/
theorem afterCalls_stays {client : Client} {cert : X509} {certContent : Bytes}
    (calls : List Call)
    (found : client.platformCerts (normalizeSerialHex (host.i2sAsn1Integer cert.serial)) =
      some certContent)
    (others : ∀ call ∈ calls, ∀ other, parseCert host call.certContent = some other →
      call.certContent = certContent ∨ normalizeSerialHex (host.i2sAsn1Integer other.serial) ≠
        normalizeSerialHex (host.i2sAsn1Integer cert.serial)) :
    (client.afterCalls host calls).platformCerts
      (normalizeSerialHex (host.i2sAsn1Integer cert.serial)) = some certContent := by
  refine afterCalls_keeps (P := fun later => later.platformCerts
    (normalizeSerialHex (host.i2sAsn1Integer cert.serial)) = some certContent) ?_ found
  intro client call other member parsed before
  simp only [filed]
  split
  · rename_i same
    rcases others call member other parsed with content | different
    · rw [content]
    · exact absurd same.symm different
  · exact before

end Client

/-! ## Certificate identity -/

/-- A certificate of serial `n` that a client accepts, and how it is found. -/
def FoundUnderSerial (n : Nat) : Prop :=
  ∀ (platformCertPath platformCaCertPath : Bytes) (before : List Client.Call)
    (serialNo certContent : Bytes) (now : Int) (cert : X509),
    Hex.Spells serialNo n → parseCert host certContent = some cert → cert.serial = n →
    isWithinValidity cert now = true →
    chainsToConfiguredAnchors host certContent platformCaCertPath = true →
    ∃ client, ((Client.fresh platformCertPath platformCaCertPath).afterCalls host
        before).setPlatformCert host serialNo certContent now = (true, client) ∧
      ∀ after : List Client.Call,
        (∀ call ∈ after, ∀ other, parseCert host call.certContent = some other →
          other.serial = n → call.certContent = certContent) →
        (∀ named, Hex.Spells named n →
          (client.afterCalls host after).getPlatformCert named = certContent ∧
            (named.length ≤ 64 →
              (client.afterCalls host after).resolveTrustedPlatformCert host named =
                .ok certContent)) ∧
        ∀ m named, m ≠ n → Hex.Spells named m →
          (client.afterCalls host after).getPlatformCert named ≠ certContent ∧
            (client.afterCalls host after).resolveTrustedPlatformCert host named ≠
              .ok certContent

/-- The serial text of a certificate is the one of every hexadecimal spelling of
its serial and of no other number's, so that the certificate is found under its
own serial only. -/
def CertificateIdentity (n : Nat) : Prop :=
  (∀ spelling, Hex.Spells spelling n →
    normalizeSerialHex (host.i2sAsn1Integer n) = normalizeSerialHex spelling) ∧
  (∀ m spelling, m ≠ n → Hex.Spells spelling m →
    normalizeSerialHex (host.i2sAsn1Integer n) ≠ normalizeSerialHex spelling) ∧
  FoundUnderSerial host n

section Renders

variable {host} (renders : host.RendersSerials)

include renders

/-- A single digit is its own hexadecimal spelling. -/
private theorem normalized_small {n m : Nat} {spelling : Bytes} (small : n < 10)
    (spells : Hex.Spells spelling m) :
    normalizeSerialHex (host.i2sAsn1Integer n) = normalizeSerialHex spelling ↔ n = m := by
  rw [renders.decimal n (by omega)]
  exact Hex.canonical_eq_iff (Hex.spells_decimal_small small) spells

/-- The decimal text of a larger serial is the hexadecimal text of another. -/
private theorem normalized_decimal {n : Nat} (large : 10 ≤ n) (below : n < 2 ^ 127) :
    normalizeSerialHex (host.i2sAsn1Integer n) ≠ normalizeSerialHex (Hex.natText n) := by
  rw [renders.decimal n below]
  obtain ⟨m, different, spells⟩ := Hex.spells_decimal_large large
  intro same
  exact different ((Hex.canonical_eq_iff spells (Hex.spells_natText n)).mp same)

/-- The text of a serial of 128 bits keeps the `X` of its `0x`. -/
private theorem marked_of_large {n : Nat} (large : 2 ^ 127 ≤ n) :
    (88 : UInt8) ∈ normalizeSerialHex (host.i2sAsn1Integer n) := by
  have marked : ∀ digits, (88 : UInt8) ∈ normalizeSerialHex (ascii "0x" ++ digits) := by
    intro digits
    have upper : (ascii "0x" ++ digits).map Hex.upper = 48 :: 88 :: digits.map Hex.upper := by
      simp [ascii, Hex.upper]
    simp [normalizeSerialHex, upper]
  obtain ⟨digits, -, isText⟩ := renders.hex n large
  rw [isText]
  exact marked digits

omit renders in
private theorem unmarked {n : Nat} {spelling : Bytes} (spells : Hex.Spells spelling n) :
    (88 : UInt8) ∉ normalizeSerialHex spelling := by
  intro member
  exact absurd (Hex.isDigit_of_mem_canonical spells member) (by decide)

/-- Another serial has another text than a single digit. -/
private theorem normalized_other {n other : Nat} (small : n < 10) (different : other ≠ n) :
    normalizeSerialHex (host.i2sAsn1Integer other) ≠ normalizeSerialHex (host.i2sAsn1Integer n) := by
  have spells := Hex.spells_decimal_small small
  have isText := renders.decimal n (by omega)
  intro same
  by_cases below : other < 2 ^ 127
  · have spellsOther : Hex.Spells (Decimal.natText other) (Hex.value (Decimal.natText other)) :=
      ⟨Decimal.natText_ne_nil other, fun b member => Hex.isDigit_of_mem_decimal member, rfl⟩
    rw [isText, renders.decimal other below] at same
    have isValue := (Hex.canonical_eq_iff spellsOther spells).mp same
    have bound := Hex.le_value_decimal other
    have otherSmall : other < 10 := by omega
    exact different ((Hex.spells_decimal_small otherSmall).2.2.symm.trans isValue)
  · have member := marked_of_large renders (n := other) (by omega)
    rw [same, isText] at member
    exact unmarked spells member

end Renders

namespace Client

variable {client : Client} {cert : X509} {certContent : Bytes}

/-- A cached certificate is found under every spelling of its serial text. -/
theorem resolve_of_found {named : Bytes} (notEmpty : named ≠ [])
    (parsed : parseCert host certContent = some cert)
    (found : client.platformCerts (normalizeSerialHex named) = some certContent) :
    client.getPlatformCert named = certContent ∧
      (named.length ≤ 64 →
        client.resolveTrustedPlatformCert host named = .ok certContent) := by
  have content := parseCert_nonempty host parsed
  have cached : client.getPlatformCert named = certContent := by
    simp [getPlatformCert, found]
  refine ⟨cached, fun short => ?_⟩
  have notLong : ¬ named.length > 64 := by omega
  simp [resolveTrustedPlatformCert, notEmpty, notLong, cached, content]

/-- A certificate is not found under another serial text than its own. -/
theorem resolve_of_other {named : Bytes} (ordered : Ordered host client)
    (parsed : parseCert host certContent = some cert)
    (different : normalizeSerialHex (host.i2sAsn1Integer cert.serial) ≠ normalizeSerialHex named) :
    client.getPlatformCert named ≠ certContent ∧
      client.resolveTrustedPlatformCert host named ≠ .ok certContent := by
  have uncached : client.getPlatformCert named ≠ certContent := by
    intro same
    simp only [getPlatformCert] at same
    cases found : client.platformCerts (normalizeSerialHex named) with
    | none =>
        rw [found] at same
        exact parseCert_nonempty host parsed same.symm
    | some cached =>
        rw [found] at same
        obtain ⟨owner, isParsed, isSerial⟩ := ordered _ cached found
        have isCert : owner = cert := by
          rw [Option.getD_some] at same
          rw [same, parsed] at isParsed
          exact (Option.some.inj isParsed).symm
        rw [isCert] at isSerial
        exact different isSerial.symm
  have notStatic : certificateSerialHex host certContent ≠ normalizeSerialHex named := by
    simpa [certificateSerialHex, parsed] using different
  refine ⟨uncached, fun resolved => ?_⟩
  simp only [resolveTrustedPlatformCert] at resolved
  split_ifs at resolved
  · exact uncached (Except.ok.inj resolved)
  · cases read : host.readFile client.platformCertPath with
    | none =>
        rw [read] at resolved
        cases resolved
    | some staticCert =>
        rw [read] at resolved
        dsimp only at resolved
        split_ifs at resolved with own
        exact notStatic (Except.ok.inj resolved ▸ own)

end Client

private theorem foundUnderSerial_small (renders : host.RendersSerials) {n : Nat} (small : n < 10) :
    FoundUnderSerial host n := by
  intro platformCertPath platformCaCertPath before serialNo certContent now cert spells
    parsed isSerial valid chained
  subst isSerial
  let client := (Client.fresh platformCertPath platformCaCertPath).afterCalls host before
  have ordered : client.Ordered host := (Client.ordered_fresh _ _).afterCalls before
  have anchors : client.platformCaCertPath = platformCaCertPath :=
    Client.afterCalls_anchors _ _
  have own := (normalized_small renders small spells).mpr rfl
  have accepted : client.setPlatformCert host serialNo certContent now =
      (true, client.filed host cert certContent) :=
    Client.setPlatformCert_files host spells.1 parsed valid own (by rw [anchors]; exact chained)
  refine ⟨client.filed host cert certContent, accepted, fun after others => ?_⟩
  have filed : (client.filed host cert certContent).platformCerts
      (normalizeSerialHex (host.i2sAsn1Integer cert.serial)) = some certContent := by
    simp [Client.filed]
  have stays := Client.afterCalls_stays after filed fun call member other isOther => by
    by_cases same : other.serial = cert.serial
    · exact Or.inl (others call member other isOther same)
    · exact Or.inr (normalized_other renders small same)
  refine ⟨fun named isSpelling => ?_, fun m named different isSpelling => ?_⟩
  · rw [(normalized_small renders small isSpelling).mpr rfl] at stays
    exact Client.resolve_of_found host isSpelling.1 parsed stays
  · refine Client.resolve_of_other host ((ordered.filed parsed).afterCalls after) parsed ?_
    exact fun same => different ((normalized_small renders small isSpelling).mp same).symm

/-- The serials under which a certificate is what WeChat says it is are those of
one decimal digit. -/
theorem certificateIdentity_iff (renders : host.RendersSerials) (n : Nat) :
    CertificateIdentity host n ↔ n < 10 := by
  constructor
  · rintro ⟨agree, _, _⟩
    have same := agree _ (Hex.spells_natText n)
    by_contra large
    by_cases below : n < 2 ^ 127
    · exact normalized_decimal renders (by omega) below same
    · have member := marked_of_large renders (n := n) (by omega)
      rw [same] at member
      exact unmarked (Hex.spells_natText n) member
  · intro small
    refine ⟨fun spelling spells => (normalized_small renders small spells).mpr rfl,
      fun m spelling different spells same => ?_, foundUnderSerial_small host renders small⟩
    exact different ((normalized_small renders small spells).mp same).symm

/-! Serial ten is `10` to OpenSSL and `A` to WeChat. -/

/-- A host whose certificates are their serials in hexadecimal. -/
def serialHost : Host where
  parse text := some ⟨Hex.value text, 0, 10⟩
  i2sAsn1Integer n := if n < 2 ^ 127 then Decimal.natText n else ascii "0x" ++ Hex.natText n
  verifies _ _ := true
  readFile _ := none

theorem serialHost_renders : serialHost.RendersSerials where
  decimal _ below := if_pos below
  hex n large := ⟨Hex.natText n, Hex.spells_natText n, if_neg (by omega)⟩

theorem certificateIdentity_of_nine : CertificateIdentity serialHost 9 :=
  (certificateIdentity_iff serialHost serialHost_renders 9).mpr (by decide)

theorem certificateIdentity_fails_at_ten :
    serialHost.RendersSerials ∧ ¬ CertificateIdentity serialHost 10 := by
  refine ⟨serialHost_renders, fun identity => ?_⟩
  have spells : Hex.Spells (ascii "A") 10 := ⟨by decide +kernel, by decide +kernel, rfl⟩
  exact absurd (identity.1 (ascii "A") spells) (by decide +kernel)

end WechatChannel
end DrogonPay
