import DrogonPay.Model.NotifyUrl

/-!
Contract: which URLs `validateNotifyUrl` accepts although their host is internal.

Owns:
- `SoundHost`, what an accepted host must not be;
- `extractUrlHost_eq`: the code reads the host an RFC 3986 reader reads, up to
  brackets that do not close;
- `notifyUrl_sound_iff`: the check is sound exactly for the URLs whose host is not
  the spelling of an internal IPv4 address with the dot of the root behind it.

Does not own: names, which the check lets pass.
-/

namespace DrogonPay.PayUtils

open Inet (aton ipv6 isInternal isGlobalUnicast withoutRootDot)

/-- The host is not `localhost`, not an internal IPv4 address, and as an IPv6
literal global unicast; the dot of the root does not count. -/
structure SoundHost (host : Inet.Host) : Prop where
  named : (withoutRootDot host.text).map lower ≠ ascii "localhost"
  v4 : ∀ address, aton (withoutRootDot host.text) = some address → isInternal address = false
  v6 : host.bracketed = true →
    ∀ groups, ipv6 (withoutRootDot host.text) = some groups → isGlobalUnicast groups = true

/-- An URL that is accepted has a sound host. -/
def NotifyUrlSound (url : Bytes) : Prop :=
  url ≠ [] → validateNotifyUrl url = none → SoundHost (Inet.host url)

def hasScheme (url : Bytes) : Bool := (ascii "http://").isPrefixOf url || (ascii "https://").isPrefixOf url

/-- The host is an internal IPv4 address, in any spelling, and the dot of the
root. -/
def InternalWithRootDot (url : Bytes) : Prop :=
  ∃ name address, (Inet.host url).text = name ++ [Inet.dot] ∧ aton name = some address ∧
    isInternal address = true

/-! ## The host of the URL -/

theorem afterScheme_of_hasScheme {url : Bytes} (scheme : hasScheme url = true) :
    findSchemeEnd url = some (Inet.afterScheme url) := by
  simp only [hasScheme, Bool.or_eq_true, List.isPrefixOf_iff_prefix] at scheme
  rcases scheme with ⟨rest, rfl⟩ | ⟨rest, rfl⟩
  · rfl
  · rfl

theorem endsAuthority_iff (b : UInt8) :
    (b ≠ 47 && b ≠ 63 && b ≠ 35) = !Inet.endsAuthority b := by
  simp [Inet.endsAuthority]

theorem takeWhile_append_of_mem {b : UInt8} {text tail : Bytes} (member : b ∈ text) :
    ((text ++ tail).takeWhile fun c => c ≠ b) = text.takeWhile fun c => c ≠ b := by
  rw [List.takeWhile_append, if_neg]
  intro all
  have whole := List.takeWhile_prefix (l := text) (fun c => decide (c ≠ b))
  have isAll := whole.eq_of_length all
  have passes := List.takeWhile_eq_self_iff.mp isAll b member
  simp at passes

/-- A text that holds the byte, around its first one. -/
theorem eq_append_of_mem {b : UInt8} {text : Bytes} (member : b ∈ text) :
    text = (text.takeWhile fun c => c ≠ b) ++ b :: (text.dropWhile fun c => c ≠ b).tail := by
  induction text with
  | nil => cases member
  | cons head tail inductionHypothesis =>
      by_cases isByte : head = b
      · simp [isByte]
      · have later := inductionHypothesis ((List.mem_cons.mp member).resolve_left (Ne.symm isByte))
        rw [List.takeWhile_cons_of_pos (by simpa using isByte),
          List.dropWhile_cons_of_pos (by simpa using isByte), List.cons_append, ← later]

/-- A reader that stops at the port or the end of the authority reads no further
than the port. -/
theorem takeWhile_host {text tail : Bytes} (inside : ∀ b ∈ text, Inet.endsAuthority b = false)
    (stops : ∀ b, tail.head? = some b → Inet.endsAuthority b = true) :
    ((text ++ tail).takeWhile fun b => b ≠ 47 && b ≠ 58 && b ≠ 63 && b ≠ 35) =
      text.takeWhile fun b => b ≠ Inet.colon := by
  have splits (b : UInt8) : (b ≠ 47 && b ≠ 58 && b ≠ 63 && b ≠ 35) =
      (b ≠ Inet.colon && !Inet.endsAuthority b) := by
    exact Hex.forall_bytes (P := fun b => (b ≠ 47 && b ≠ 58 && b ≠ 63 && b ≠ 35) =
      (b ≠ Inet.colon && !Inet.endsAuthority b)) (by decide +kernel) b
  simp only [splits]
  induction text with
  | nil =>
      cases tail with
      | nil => rfl
      | cons b rest => simp [stops b rfl]
  | cons b rest inductionHypothesis =>
      have here := inside b (by simp)
      have later := inductionHypothesis fun c member => inside c (by simp [member])
      by_cases isColon : b = Inet.colon
      · simp [isColon]
      · simp only [List.cons_append, List.takeWhile_cons, here, ne_eq, isColon, not_false_eq_true,
          decide_true, Bool.not_false, Bool.and_self, if_true, later]

section Extract

variable {url : Bytes}

/-- What stands behind the authority. -/
def behindAuthority (url : Bytes) : Bytes :=
  (Inet.afterScheme url).dropWhile fun b => !Inet.endsAuthority b

theorem behindAuthority_head {b : UInt8} (first : (behindAuthority url).head? = some b) :
    Inet.endsAuthority b = true := by
  have stops := List.head?_dropWhile_not (fun b => !Inet.endsAuthority b) (Inet.afterScheme url)
  rw [show (Inet.afterScheme url).dropWhile _ = behindAuthority url from rfl, first] at stops
  simpa using stops

/-- The code drops the userinfo and nothing else. -/
theorem drop_userinfo :
    (Inet.afterScheme url).drop
        ((Inet.authority url).length - (Inet.hostAndPort url).length) =
      Inet.hostAndPort url ++ behindAuthority url := by
  have isSuffix : Inet.hostAndPort url <:+ Inet.authority url := by
    unfold Inet.hostAndPort Inet.afterLast
    rw [← List.reverse_prefix, List.reverse_reverse]
    exact List.takeWhile_prefix _
  have joined : Inet.authority url ++ behindAuthority url = Inet.afterScheme url :=
    List.takeWhile_append_dropWhile
  rw [← joined, List.drop_append_of_le_length (Nat.sub_le _ _),
    ← List.suffix_iff_eq_drop.mp isSuffix]

theorem inside_of_mem_hostAndPort {b : UInt8} (member : b ∈ Inet.hostAndPort url) :
    Inet.endsAuthority b = false := by
  have inAuthority : b ∈ Inet.authority url := by
    have inReverse := (List.takeWhile_sublist _).subset (List.mem_reverse.mp member)
    exact List.mem_reverse.mp inReverse
  have inside := List.mem_takeWhile_imp inAuthority
  simpa using inside

/-- What the code reads of the text behind the userinfo. -/
private def hostBehindUserinfo : Bytes → Bytes
  | 91 :: literal => if 93 ∈ literal then literal.takeWhile fun b => b ≠ 93 else []
  | text => text.takeWhile fun b => b ≠ 47 && b ≠ 58 && b ≠ 63 && b ≠ 35

/-- The code reads the host of the URL, unless the authority opens a bracket that
it does not close. -/
theorem extractUrlHost_eq (scheme : hasScheme url = true) :
    extractUrlHost url = (Inet.host url).text ∨
      ((Inet.host url).text.head? = some 91 ∧ (Inet.host url).bracketed = false) := by
  have inside : ∀ b ∈ Inet.hostAndPort url, Inet.endsAuthority b = false :=
    fun _ => inside_of_mem_hostAndPort
  have read : extractUrlHost url =
      hostBehindUserinfo (Inet.hostAndPort url ++ behindAuthority url) := by
    rw [← drop_userinfo]
    simp only [extractUrlHost, afterScheme_of_hasScheme scheme, endsAuthority_iff]
    rfl
  rw [read]
  unfold hostBehindUserinfo Inet.host
  generalize Inet.hostAndPort url = text at inside
  have stops : ∀ b, (behindAuthority url).head? = some b → Inet.endsAuthority b = true :=
    fun _ => behindAuthority_head
  generalize behindAuthority url = tail at stops
  cases text with
  | nil =>
      left
      have stopped := takeWhile_host inside stops
      cases tail with
      | nil => rfl
      | cons b rest =>
          have ends := stops b rfl
          split
          · exact absurd ends (by simp_all [Inet.endsAuthority])
          · exact stopped
  | cons b literal =>
      have stopped := takeWhile_host inside stops
      by_cases isBracket : b = 91
      · subst isBracket
        by_cases closes : 93 ∈ literal
        · left
          have closesLater : 93 ∈ literal ++ tail := List.mem_append_left _ closes
          simp only [List.cons_append, closes, closesLater, if_true]
          exact takeWhile_append_of_mem closes
        · right
          simp [closes, Inet.colon]
      · left
        split
        · rename_i same
          exact absurd (List.head_eq_of_cons_eq same) isBracket
        · split
          · rename_i same
            exact absurd (List.head_eq_of_cons_eq same) isBracket
          · exact stopped

end Extract

/-! ## Numeric spellings -/

theorem lower_eq_dot (b : UInt8) : lower b = Inet.dot ↔ b = Inet.dot :=
  Hex.forall_bytes (P := fun b => lower b = Inet.dot ↔ b = Inet.dot) (by decide +kernel) b

theorem lower_decimal (b : UInt8) : Decimal.isDigit b = true → Decimal.isDigit (lower b) = true :=
  Hex.forall_bytes (P := fun b => Decimal.isDigit b = true → Decimal.isDigit (lower b) = true)
    (by decide +kernel) b

theorem lower_hex (b : UInt8) : Hex.isDigit b = true → Hex.isDigit (lower b) = true :=
  Hex.forall_bytes (P := fun b => Hex.isDigit b = true → Hex.isDigit (lower b) = true)
    (by decide +kernel) b

theorem isNumericLabel_decimal {label : Bytes} (some : label ≠ [])
    (digits : ∀ b ∈ label, Decimal.isDigit b = true) : isNumericLabel label = true := by
  unfold isNumericLabel
  split
  · exact absurd rfl some
  · rename_i mark b rest
    have isDigit := digits mark (by simp)
    rw [if_neg]
    · exact List.all_eq_true.mpr digits
    · intro isMark
      simp only [Bool.or_eq_true, decide_eq_true_eq] at isMark
      rcases isMark with rfl | rfl <;> exact absurd isDigit (by decide)
  · exact List.all_eq_true.mpr digits

/-- The labels of an address have the shape the code looks for. -/
theorem isNumericLabel_of_part {label : Bytes} {n : Nat} (read : Inet.part label = some n) :
    isNumericLabel (label.map lower) = true := by
  rcases Inet.part_cases read with ⟨some, decimal⟩ | ⟨mark, digits, rfl, isMark, some, hex⟩
  · apply isNumericLabel_decimal (by simpa using some)
    intro b member
    obtain ⟨c, isByte, rfl⟩ := List.mem_map.mp member
    exact lower_decimal c (decimal c isByte)
  · have marked : lower mark = 120 := by rcases isMark with rfl | rfl <;> decide
    cases digits with
    | nil => exact absurd rfl some
    | cons b rest =>
        have allHex : ((b :: rest).map lower).all Hex.isDigit = true := by
          refine List.all_eq_true.mpr fun d member => ?_
          obtain ⟨c, isByte, rfl⟩ := List.mem_map.mp member
          exact lower_hex c (hex c isByte)
        have zero : lower 48 = 48 := by decide
        simpa [isNumericLabel, marked, zero] using allHex

theorem isNumericAddressShape_of_aton {text : Bytes} {n : Nat} (read : aton text = some n) :
    isNumericAddressShape (text.map lower) = true := by
  unfold isNumericAddressShape
  rw [show (46 : UInt8) = Inet.dot from rfl, Inet.splitOn_map lower_eq_dot, List.all_map]
  refine List.all_eq_true.mpr fun label isLabel => ?_
  obtain ⟨value, isPart⟩ := Inet.parts_of_aton read label isLabel
  exact isNumericLabel_of_part isPart

/-! ## Dotted quads -/

/-- A segment of the dotted quad is a decimal part. -/
theorem ipv4Segment_spec {seg : Bytes} {v : Nat} (read : ipv4Segment seg = some v) :
    Inet.part seg = some v ∧ v < 256 ∧ (46 : UInt8) ∉ seg := by
  unfold ipv4Segment at read
  split_ifs at read with sized digits large zero
  obtain rfl := Option.some.inj read
  simp only [Bool.or_eq_true, List.isEmpty_iff, decide_eq_true_eq, not_or] at sized
  simp only [Bool.not_eq_true', Bool.not_eq_false, List.all_eq_true] at digits
  refine ⟨?_, by omega, fun member => absurd (digits _ member) (by decide)⟩
  have decimal : Inet.spelled Decimal.isDigit Decimal.value seg = some (Decimal.value seg) :=
    Inet.spelled_eq_some.mpr ⟨sized.1, digits, rfl⟩
  unfold Inet.part
  split
  · rfl
  · exact absurd zero (by simp)
  · exact decimal

theorem ipv4Segments_spec {more : Nat} {text : Bytes} {values : List Nat}
    (read : ipv4Segments more text = some values) :
    (text.splitOn Inet.dot).mapM Inet.part = some values ∧ values.length = more + 1 ∧
      ∀ v ∈ values, v < 256 := by
  induction more generalizing text values with
  | zero =>
      obtain ⟨v, segment, rfl⟩ := Option.map_eq_some_iff.mp read
      obtain ⟨isPart, small, noDot⟩ := ipv4Segment_spec segment
      refine ⟨?_, rfl, by simpa using small⟩
      rw [List.splitOn_eq_singleton (by exact noDot)]
      simp [isPart]
  | succ more inductionHypothesis =>
      obtain ⟨v, segment, rest⟩ := Option.bind_eq_some_iff.mp read
      split_ifs at rest with dotted
      obtain ⟨others, segments, isAll⟩ := Option.bind_eq_some_iff.mp rest
      cases isAll
      obtain ⟨isPart, small, noDot⟩ := ipv4Segment_spec segment
      obtain ⟨parts, count, bounded⟩ := inductionHypothesis segments
      have joined : text = (text.takeWhile fun b => b ≠ 46) ++
          Inet.dot :: (text.dropWhile fun b => b ≠ 46).tail := eq_append_of_mem dotted
      refine ⟨?_, by simp [count], ?_⟩
      · rw [joined, List.splitOn_append_cons_self_of_not_mem (by exact noDot), List.mapM_cons, isPart,
          parts]
        rfl
      · intro w member
        rcases List.mem_cons.mp member with isFirst | later
        · exact isFirst ▸ small
        · exact bounded w later

/-- What a text that parses as a dotted quad is worth to `inet_aton`. -/
theorem aton_of_parseIpv4 {text : Bytes} {a b : Nat} {rest : List Nat}
    (parsed : parseIpv4 text = some (a :: b :: rest)) :
    a < 256 ∧ b < 256 ∧
      ∃ low, low < 2 ^ 16 ∧ aton text = some (a * 2 ^ 24 + b * 2 ^ 16 + low) := by
  obtain ⟨parts, count, bounded⟩ := ipv4Segments_spec parsed
  match rest, count with
  | [c, d], _ =>
      have small := fun v member => bounded v member
      simp only [List.mem_cons, List.not_mem_nil, or_false, forall_eq_or_imp, forall_eq] at small
      obtain ⟨aSmall, bSmall, cSmall, dSmall⟩ := small
      refine ⟨aSmall, bSmall, c * 2 ^ 8 + d, by omega, ?_⟩
      rw [aton, parts, Option.bind_some, Inet.address,
        if_pos ⟨aSmall, bSmall, cSmall, dSmall⟩]
      exact congrArg some (Nat.add_assoc _ _ _)

theorem isPrivateIpv4_of_internal {a b low : Nat} (aSmall : a < 256) (bSmall : b < 256)
    (lowSmall : low < 2 ^ 16) (internal : isInternal (a * 2 ^ 24 + b * 2 ^ 16 + low) = true) :
    isPrivateIpv4 a b = true := by
  have twelve : ∀ b < 256, b / 16 = 1 → b &&& 0xF0 = 16 := by decide +kernel
  have ten : ∀ b < 256, b / 64 = 1 → b &&& 0xC0 = 64 := by decide +kernel
  simp only [isInternal, Bool.or_eq_true, decide_eq_true_eq] at internal
  simp only [isPrivateIpv4, Bool.or_eq_true, Bool.and_eq_true, decide_eq_true_eq]
  have ranges : a = 0 ∨ a = 10 ∨ a = 127 ∨ (a = 100 ∧ b / 64 = 1) ∨ (a = 169 ∧ b = 254) ∨
      (a = 172 ∧ b / 16 = 1) ∨ (a = 192 ∧ b = 168) := by
    omega
  rcases ranges with h | h | h | ⟨h, mid⟩ | h | ⟨h, mid⟩ | h
  · simp [h]
  · simp [h]
  · simp [h]
  · simp [h, ten b bSmall mid]
  · simp [h]
  · simp [h, twelve b bSmall mid]
  · simp [h]

/-! ## The dot of the root -/

theorem ipv4Segment_dot (text : Bytes) : ipv4Segment (text ++ [46]) = none := by
  rw [Option.eq_none_iff_forall_ne_some]
  intro v read
  exact (ipv4Segment_spec read).2.2 (by simp)

theorem ipv4Segments_nil (more : Nat) : ipv4Segments more [] = none := by
  cases more <;> rfl

/-- A text that ends in a dot is no dotted quad. -/
theorem ipv4Segments_dot (more : Nat) (text : Bytes) : ipv4Segments more (text ++ [46]) = none := by
  induction more generalizing text with
  | zero => rw [ipv4Segments, ipv4Segment_dot, Option.map_none]
  | succ more inductionHypothesis =>
      have behind : ipv4Segments more ((text ++ [46]).dropWhile fun b => b ≠ 46).tail = none := by
        by_cases dotted : 46 ∈ text
        · have dropped : ((text ++ [46]).dropWhile fun b => b ≠ 46).tail =
              (text.dropWhile fun b => b ≠ 46).tail ++ [46] := by
            have some : (text.dropWhile fun b => b ≠ 46) ≠ [] := by
              rw [Ne, List.dropWhile_eq_nil_iff]
              intro all
              simpa using all 46 dotted
            rw [List.dropWhile_append, if_neg (by simpa using some), List.tail_append_of_ne_nil some]
          rw [dropped]
          exact inductionHypothesis _
        · have dropped : ((text ++ [46]).dropWhile fun b => b ≠ 46) = [46] := by
            rw [List.dropWhile_append_of_pos]
            · simp
            · intro b member
              simpa using fun isDot : b = 46 => dotted (isDot ▸ member)
          rw [dropped]
          exact ipv4Segments_nil more
      rw [ipv4Segments, behind]
      cases ipv4Segment ((text ++ [46]).takeWhile fun b => b ≠ 46) <;> simp

/-- An address with the dot of the root passes for a name. -/
theorem not_blocked_of_dot {name : Bytes} {n : Nat} (read : aton name = some n) :
    isBlockedHost (name ++ [Inet.dot]) = false := by
  have numeric := isNumericAddressShape_of_aton read
  have noColon : (58 : UInt8) ∉ name ++ [Inet.dot] := by
    intro member
    rcases List.mem_append.mp member with inName | isDot
    · exact Inet.colon_not_mem_aton read inName
    · exact absurd (List.mem_singleton.mp isDot) (by decide)
  have notLocal : (name ++ [Inet.dot]).map lower ≠ ascii "localhost" := by
    intro same
    have last := congrArg List.getLast? same
    rw [List.map_append, List.map_singleton, List.getLast?_concat] at last
    exact absurd last (by decide)
  have notLocalDot : (name ++ [Inet.dot]).map lower ≠ ascii "localhost." := by
    intro same
    have front := congrArg List.dropLast same
    rw [List.map_append, List.map_singleton, List.dropLast_concat] at front
    rw [front] at numeric
    exact absurd numeric (by decide +kernel)
  have shape : isNumericAddressShape ((name ++ [Inet.dot]).map lower) = false := by
    unfold isNumericAddressShape
    rw [show (46 : UInt8) = Inet.dot from rfl, Inet.splitOn_map lower_eq_dot,
      List.splitOn_append_cons_self]
    simp [isNumericLabel]
  have unparsed : parseIpv4 (name ++ [Inet.dot]) = none := ipv4Segments_dot 3 name
  simp only [isBlockedHost, notLocal, notLocalDot, noColon, unparsed, shape]
  simp

/-! ## IPv6 literals -/

/-- The code reads the first group of a literal, whatever stands behind it. -/
theorem leading_group {field behind : Bytes} {g : Nat} (read : Inet.group field = some g) :
    Hex.value (((field ++ Inet.colon :: behind).take 4).takeWhile Hex.isDigit) = g := by
  obtain ⟨_, short, digits, value, _⟩ := Inet.group_spec read
  have stop : ((Inet.colon :: behind).take (4 - field.length)).takeWhile Hex.isDigit = [] := by
    cases 4 - field.length with
    | zero => rfl
    | succ room => rfl
  rw [List.take_append, List.take_of_length_le short, List.takeWhile_append_of_pos digits, stop,
    List.append_nil, value]

theorem isGlobalUnicast_of_mask {g : Nat} (small : g < 2 ^ 16) (mask : g &&& 0xE000 = 0x2000) :
    g / 2 ^ 13 = 1 := by
  have shifted := congrArg (· >>> 13) mask
  simp only [Nat.shiftRight_and_distrib] at shifted
  have low : (g >>> 13) &&& 7 = 1 := shifted
  rw [show (7 : Nat) = 2 ^ 3 - 1 from rfl, Nat.and_two_pow_sub_one_eq_mod,
    Nat.shiftRight_eq_div_pow] at low
  omega

/-- A literal that the code lets pass is global unicast. -/
theorem isGlobalUnicast_of_pass {text tail : Bytes} {groups : List Nat}
    (read : ipv6 text = some groups) (passes : isGlobalUnicastIpv6 (text ++ tail) = true) :
    isGlobalUnicast groups = true := by
  unfold isGlobalUnicastIpv6 at passes
  split_ifs at passes with leads
  rcases Inet.ipv6_head read with begins | ⟨field, behind, g, rfl, isGroup, first⟩
  · exact absurd (by rw [List.head?_append, begins]; rfl) leads
  · rw [List.append_assoc, List.cons_append, leading_group isGroup] at passes
    have mask : g &&& 0xE000 = 0x2000 := by simpa using passes
    have inRange := isGlobalUnicast_of_mask (Inet.group_spec isGroup).2.2.2.2 mask
    rw [isGlobalUnicast, first]
    exact decide_eq_true inRange

theorem colon_mem_ipv6 {text : Bytes} {groups : List Nat} (read : ipv6 text = some groups) :
    Inet.colon ∈ text := by
  rcases Inet.ipv6_head read with begins | ⟨field, behind, g, rfl, _, _⟩
  · exact List.mem_of_head? begins
  · simp

/-! ## Soundness -/

/-- What a host that is not blocked is not. -/
theorem not_blocked {host : Bytes} (passes : isBlockedHost host = false) :
    host.map lower ≠ ascii "localhost" ∧ host.map lower ≠ ascii "localhost." ∧
      (Inet.colon ∈ host → isGlobalUnicastIpv6 host = true) ∧
      ∀ address, aton host = some address → isInternal address = false := by
  simp only [isBlockedHost] at passes
  split_ifs at passes with _ isLocal hasColon
  · simp only [Bool.or_eq_true, decide_eq_true_eq, not_or] at isLocal
    refine ⟨isLocal.1, isLocal.2, fun _ => by simpa using passes, fun address read => ?_⟩
    exact absurd (show Inet.colon ∈ host from hasColon) (Inet.colon_not_mem_aton read)
  · simp only [Bool.or_eq_true, decide_eq_true_eq, not_or] at isLocal
    refine ⟨isLocal.1, isLocal.2, fun isColon => absurd isColon hasColon, fun address read => ?_⟩
    split at passes
    · rename_i a b rest parsed
      obtain ⟨aSmall, bSmall, low, lowSmall, isAddress⟩ := aton_of_parseIpv4 parsed
      obtain rfl := Option.some.inj (isAddress.symm.trans read)
      by_contra internal
      have blocked := isPrivateIpv4_of_internal aSmall bSmall lowSmall (by simpa using internal)
      exact absurd passes (by simp [blocked])
    · exact absurd passes (by simp [isNumericAddressShape_of_aton read])

/-- A host is its name, or its name and the dot of the root. -/
theorem withoutRootDot_cases (text : Bytes) :
    withoutRootDot text = text ∨ text = withoutRootDot text ++ [Inet.dot] := by
  unfold withoutRootDot
  split
  · rename_i last
    obtain ⟨name, rfl⟩ := List.getLast?_eq_some_iff.mp last
    exact .inr (by rw [List.dropLast_concat])
  · exact .inl rfl

theorem withoutRootDot_concat (name : Bytes) : withoutRootDot (name ++ [Inet.dot]) = name := by
  simp [withoutRootDot]

theorem soundHost_of_pass {host : Inet.Host} (passes : isBlockedHost host.text = false)
    (noDot : ¬ ∃ name address, host.text = name ++ [Inet.dot] ∧ aton name = some address ∧
      isInternal address = true) : SoundHost host := by
  obtain ⟨notLocal, notLocalDot, v6, v4⟩ := not_blocked passes
  rcases withoutRootDot_cases host.text with plain | dotted
  · refine ⟨plain.symm ▸ notLocal, plain.symm ▸ v4, fun _ groups read => ?_⟩
    rw [plain] at read
    have global := v6 (colon_mem_ipv6 read)
    exact isGlobalUnicast_of_pass read (by rwa [List.append_nil])
  · refine ⟨fun isLocal => ?_, fun address read => ?_, fun _ groups read => ?_⟩
    · rw [dotted, List.map_append, isLocal] at notLocalDot
      exact notLocalDot (by decide)
    · by_contra internal
      exact noDot ⟨_, address, dotted, read, by simpa using internal⟩
    · have isColon : Inet.colon ∈ host.text := by
        rw [dotted]
        exact List.mem_append_left _ (colon_mem_ipv6 read)
      have global := v6 isColon
      rw [dotted] at global
      exact isGlobalUnicast_of_pass read global

/-- A host that opens a bracket is none of the refused ones. -/
theorem soundHost_of_bracket {host : Inet.Host} (opens : host.text.head? = some 91)
    (plain : host.bracketed = false) : SoundHost host := by
  have nameOpens : (withoutRootDot host.text).head? = some 91 := by
    rcases withoutRootDot_cases host.text with same | dotted
    · rwa [same]
    · rw [dotted, List.head?_append] at opens
      cases first : (withoutRootDot host.text).head? with
      | some b => rwa [first] at opens
      | none =>
          rw [first] at opens
          exact absurd opens (by decide)
  refine ⟨fun isLocal => ?_, fun address read => ?_, fun bracketed => ?_⟩
  · have first := congrArg List.head? isLocal
    rw [List.head?_map, nameOpens] at first
    exact absurd first (by decide)
  · have isByte := Inet.isPartByte_of_mem_aton read (List.mem_of_head? nameOpens) (by decide)
    exact absurd isByte (by decide)
  · rw [plain] at bracketed
    cases bracketed

theorem validate_accepts {url : Bytes} (some : url ≠ []) :
    validateNotifyUrl url = none ↔
      hasScheme url = true ∧ url.length ≤ 512 ∧ isBlockedHost (extractUrlHost url) = false := by
  unfold validateNotifyUrl
  rw [if_neg (by simpa using some)]
  cases scheme : hasScheme url with
  | false =>
      rw [hasScheme, Bool.or_eq_false_iff] at scheme
      simp [scheme]
  | true =>
      rw [if_neg (by rw [hasScheme, Bool.or_eq_true] at scheme; rcases scheme with h | h <;> simp [h])]
      by_cases long : url.length > 512
      · rw [if_pos long]
        simp [long]
      · rw [if_neg long]
        cases isBlockedHost (extractUrlHost url) <;> simp [Nat.le_of_not_lt long]

/-- The check is sound for an URL unless its host is an internal IPv4 address with
the dot of the root behind it. -/
theorem notifyUrl_sound_iff (url : Bytes) :
    NotifyUrlSound url ↔
      ¬ (hasScheme url = true ∧ url.length ≤ 512 ∧ InternalWithRootDot url) := by
  constructor
  · rintro sound ⟨scheme, short, name, address, isHost, read, internal⟩
    have nonempty : url ≠ [] := by
      rintro rfl
      exact absurd scheme (by decide)
    -- the code reads this host, and takes it for a name
    have extracted : extractUrlHost url = name ++ [Inet.dot] := by
      rcases extractUrlHost_eq scheme with same | ⟨opens, _⟩
      · rw [same, isHost]
      · have isByte : Inet.isPartByte 91 = true := by
          rw [isHost] at opens
          cases name with
          | nil => exact absurd opens (by decide)
          | cons b rest =>
              obtain rfl : b = 91 := by simpa using opens
              exact Inet.isPartByte_of_mem_aton read (by simp) (by decide)
        exact absurd isByte (by decide)
    have accepted : validateNotifyUrl url = none :=
      (validate_accepts nonempty).mpr ⟨scheme, short, extracted ▸ not_blocked_of_dot read⟩
    have external := (sound nonempty accepted).v4 address
    rw [isHost, withoutRootDot_concat] at external
    exact absurd internal (by simp [external read])
  · intro noDot nonempty accepted
    obtain ⟨scheme, short, passes⟩ := (validate_accepts nonempty).mp accepted
    rcases extractUrlHost_eq scheme with same | ⟨opens, plain⟩
    · rw [same] at passes
      exact soundHost_of_pass passes fun dotted => noDot ⟨scheme, short, dotted⟩
    · exact soundHost_of_bracket opens plain

/-- `http://127.0.0.1./` is accepted. -/
theorem notifyUrl_not_sound : ¬ NotifyUrlSound (ascii "http://127.0.0.1./") := by
  intro sound
  have loopback := (sound (by decide) (by decide +kernel)).v4 (127 * 2 ^ 24 + 1) (by decide +kernel)
  exact absurd loopback (by decide)

end DrogonPay.PayUtils
