import DrogonPay.Laws.Reservation
import DrogonPay.Promises.Contract
import DrogonPay.ReadCommitted.Traces

/-!
Contract: what a client request tells under its idempotency key.

Owns:
- `Request.keyed`, the key and the hash a create request works under;
- `ClientLog`: a request stores the body it answers, under its own key and hash,
  and answers what it finds stored under that hash;
- `traces_serve`: the three create paths lead to such logs only.

Does not own: who stored what a request finds.
-/

namespace DrogonPay

open ReadCommitted IdempotencyService

/-! ## Keys and hashes -/

/-- The key and the hash of a create request. -/
def Request.keyed (cfg : Config) : Request → Option (Bytes × Bytes)
  | .createPayment request key _ _ => some (key, PaymentService.createHash cfg request)
  | .createQRPayment request _ _ =>
      (PaymentService.readQrRequest request).map fun qr => (qr.idempotencyKey, PaymentService.qrHash cfg qr)
  | .createRefund request key _ => some (key, RefundService.refundHash cfg request)
  | _ => none

/-! ## Logs -/

/-- What the row under the key makes a request answer: the stored response, or an
error. -/
def Told (requestHash : Bytes) (row : Option IdempotencyRow) (out : Reply) : Prop :=
  match IdempotencyService.heard requestHash row with
  | some (.Replay response) => out = ⟨response, none⟩
  | _ => out.error ≠ none

/-- The log of a request that works under a key and a hash. -/
structure ClientLog (key requestHash : Bytes) (log : List PayEntry) : Prop where
  saves : ∀ key' hash snapshot done, Saw log (.saveSnapshot key' hash snapshot) done →
    key' = key ∧ hash = requestHash ∧ ∃ response, snapshot = snapshotOf requestHash response ∧
      response.isNull = false ∧ ∀ out, Entry.replied out ∈ log → out.body = response
  finds : ∀ key' row out, Saw log (.findLiveIdempotency key') row →
    Entry.replied out ∈ log → Told requestHash row out

/-- A statement that neither stores nor looks up a response. -/
def Stmt.aside : Stmt → Bool
  | .saveSnapshot _ _ _ | .findLiveIdempotency _ => false
  | _ => true

/-- Nothing is stored or said yet, and `told` is what may be said after what was
found. -/
structure Unsaid (requestHash : Bytes) (told : Reply → Prop) (log : List PayEntry) : Prop where
  unsaved : ∀ key hash snapshot done, ¬ Saw log (.saveSnapshot key hash snapshot) done
  silent : ∀ out, Entry.replied out ∉ log
  found : ∀ key row, Saw log (.findLiveIdempotency key) row →
    ∀ out, told out → Told requestHash row out

section Logs

variable {key requestHash : Bytes} {told : Reply → Prop} {log : List PayEntry}

theorem Unsaid.clientLog (unsaid : Unsaid requestHash told log) : ClientLog key requestHash log :=
  ⟨fun _ _ _ _ saved => absurd saved (unsaid.unsaved _ _ _ _),
    fun _ _ out _ said => absurd said (unsaid.silent out)⟩

/-- An entry that is neither a stored response, nor a lookup, nor a reply. -/
def Entry.aside : PayEntry → Bool
  | .ran st _ => st.aside
  | .replied _ => false
  | _ => true

theorem Unsaid.append (unsaid : Unsaid requestHash told log) {more : List PayEntry}
    (aside : ∀ entry ∈ more, Entry.aside entry = true) : Unsaid requestHash told (log ++ more) := by
  have old : ∀ entry ∈ log ++ more, Entry.aside entry = false → entry ∈ log := by
    intro entry member other
    rcases List.mem_append.mp member with isOld | isNew
    · exact isOld
    · rw [aside entry isNew] at other
      cases other
  exact ⟨fun key hash snapshot done saved => unsaid.unsaved _ _ _ _ (old _ saved rfl),
    fun out said => unsaid.silent out (old _ said rfl),
    fun key row found => unsaid.found key row (old _ found rfl)⟩

theorem Unsaid.snoc (unsaid : Unsaid requestHash told log) {entry : PayEntry}
    (aside : Entry.aside entry = true) : Unsaid requestHash told (log ++ [entry]) :=
  unsaid.append (by simpa using aside)

end Logs

/-- Once it is told, a request's log stays one under aside entries. -/
theorem ClientLog.snoc {key requestHash : Bytes} {log : List PayEntry} {entry : PayEntry}
    (client : ClientLog key requestHash log) (aside : Entry.aside entry = true) :
    ClientLog key requestHash (log ++ [entry]) := by
  have old : ∀ other ∈ log ++ [entry], Entry.aside other = false → other ∈ log := by
    intro other member notAside
    rcases List.mem_append.mp member with isOld | isNew
    · exact isOld
    · rw [List.mem_singleton.mp isNew, aside] at notAside
      cases notAside
  refine ⟨fun key' hash snapshot done saved => ?_, fun key' row out found said =>
    client.finds key' row out (old _ found rfl) (old _ said rfl)⟩
  obtain ⟨isKey, isHash, response, isSnapshot, some, answers⟩ :=
    client.saves key' hash snapshot done (old _ saved rfl)
  exact ⟨isKey, isHash, response, isSnapshot, some, fun out said => answers out (old _ said rfl)⟩

theorem Unsaid.replied {key requestHash : Bytes} {told : Reply → Prop} {log : List PayEntry}
    (unsaid : Unsaid requestHash told log) {reply : Reply} (may : told reply) :
    ClientLog key requestHash (log ++ [.replied reply]) := by
  refine ⟨fun key' hash snapshot done saved => ?_, fun key' row out found said => ?_⟩
  · exact absurd (by simpa [Saw] using saved) (unsaid.unsaved key' hash snapshot done)
  · have isFound : Saw log (.findLiveIdempotency key') row := by simpa [Saw] using found
    have isOut : out = reply := by simpa [unsaid.silent] using said
    exact isOut ▸ unsaid.found key' row isFound _ may

theorem verdict_ne_started {requestHash : Bytes} {row : IdempotencyRow} :
    verdict requestHash row ≠ some .Started := by
  unfold verdict
  split
  · cases row.responseSnapshot with
    | none => simp
    | some snapshot =>
        intro started
        obtain ⟨response, _, result⟩ := Option.map_eq_some_iff.mp started
        split at result <;> cases result
  · simp

theorem verdict_replay {requestHash : Bytes} {row : IdempotencyRow} {response : Json}
    (replays : verdict requestHash row = some (.Replay response)) : response.isNull = false := by
  unfold verdict at replays
  split at replays
  · cases isSnapshot : row.responseSnapshot with
    | none =>
        rw [isSnapshot] at replays
        cases replays
    | some snapshot =>
        rw [isSnapshot] at replays
        obtain ⟨stored, _, result⟩ := Option.map_eq_some_iff.mp replays
        split at result
        · cases result
        · rename_i notNull
          cases result
          simpa using notNull
  · cases replays

/-! ## Rules -/

/-- All logs of the program are those of a request under the key and the hash. -/
def Leads (key requestHash : Bytes) (program : PayProg) (slot : Slot paySig)
    (log : List PayEntry) : Prop :=
  program.Traces (fun _ _ => True) (fun _ _ => True) (ClientLog key requestHash) slot log

section Rules

variable {key requestHash : Bytes} {told : Reply → Prop} {slot : Slot paySig}
  {log record : List PayEntry}

theorem leads_done (idle : Idle slot) (unsaid : Unsaid requestHash told log) :
    Leads key requestHash .done slot log :=
  ⟨unsaid.clientLog, fun record active => absurd active (idle record)⟩

theorem leads_pooled {st : Stmt} {k : Option st.Res → PayProg} (aside : st.aside = true)
    (unsaid : Unsaid requestHash told log)
    (ran : ∀ res log', Unsaid requestHash told log' → Leads key requestHash (k (some res)) slot log')
    (failed : ∀ log', Unsaid requestHash told log' → Leads key requestHash (k none) slot log') :
    Leads key requestHash (.sql .db st k) slot log :=
  ⟨unsaid.clientLog, fun res _ => ran res _ (unsaid.snoc aside), fun _ => failed _ (unsaid.snoc rfl)⟩

theorem leads_within {st : Stmt} {k : Option st.Res → PayProg} (aside : st.aside = true)
    (unsaid : Unsaid requestHash told log) (plain : ∀ entry ∈ record, Entry.aside entry = true)
    (ran : ∀ res record', (∀ entry ∈ record', Entry.aside entry = true) →
      Leads key requestHash (k (some res)) (.active record') log)
    (failed : ∀ log', Unsaid requestHash told log' → Leads key requestHash (k none) .closed log') :
    Leads key requestHash (.sql .txn st k) (.active record) log := by
  refine ⟨unsaid.clientLog, fun res _ => ran res _ fun entry member => ?_, fun cause =>
    failed _ (unsaid.snoc rfl)⟩
  rcases List.mem_append.mp member with old | new
  · exact plain entry old
  · rw [List.mem_singleton.mp new]
    exact aside

theorem leads_call {x : ChannelCall} {k : ChannelAnswer → PayProg}
    (unsaid : Unsaid requestHash told log)
    (answered : ∀ a log', Unsaid requestHash told log' → Leads key requestHash (k a) slot log') :
    Leads key requestHash (.call x k) slot log :=
  ⟨unsaid.clientLog, fun a _ => answered a _ (unsaid.snoc rfl)⟩

theorem leads_start {k : Bool → PayProg} (unsaid : Unsaid requestHash told log)
    (opened : Leads key requestHash (k true) (.active []) log)
    (refused : ∀ log', Unsaid requestHash told log' → Leads key requestHash (k false) .closed log') :
    Leads key requestHash (.start k) slot log :=
  ⟨unsaid.clientLog, opened, refused _ (unsaid.snoc rfl)⟩

theorem leads_commit {k : Bool → PayProg} (unsaid : Unsaid requestHash told log)
    (plain : ∀ entry ∈ record, Entry.aside entry = true)
    (next : ∀ done log', Unsaid requestHash told log' → Leads key requestHash (k done) .closed log') :
    Leads key requestHash (.commit k) (.active record) log :=
  ⟨unsaid.clientLog, next true _ (unsaid.append plain), next false _ (unsaid.snoc rfl)⟩

theorem leads_rollback {next : PayProg} (unsaid : Unsaid requestHash told log)
    (continues : ∀ slot', Idle slot' → Leads key requestHash next slot' log) :
    Leads key requestHash (.rollback next) slot log :=
  ⟨unsaid.clientLog, continues _ (Idle.rolledBack slot)⟩

theorem leads_fork {child next : PayProg} (unsaid : Unsaid requestHash told log)
    (waits : next.repliesNow = []) (forked : Leads key requestHash child .none log)
    (continues : Leads key requestHash next slot log) :
    Leads key requestHash (.fork child next) slot log := by
  refine ⟨unsaid.clientLog, ?_, continues⟩
  rw [waits, List.append_nil]
  exact forked

theorem leads_orThrow {α : Type} {value : Option α} {next : α → PayProg} (idle : Idle slot)
    (unsaid : Unsaid requestHash told log)
    (continues : ∀ a, value = some a → Leads key requestHash (next a) slot log) :
    Leads key requestHash (orThrow value next) slot log := by
  cases value with
  | none => exact leads_done idle unsaid
  | some a => exact continues a rfl

/-- The end of a request that says what it may. -/
theorem leads_answer {body : Json} {error : Option ErrorCode} (idle : Idle slot)
    (unsaid : Unsaid requestHash told log) (may : told ⟨body, error⟩) :
    Leads key requestHash (answer body error) slot log :=
  ⟨unsaid.clientLog, unsaid.replied may, fun record active => absurd active (idle record)⟩

/-- A request that gives its key back while it says what it may. -/
theorem leads_clearAside {body : Json} {error : Option ErrorCode} (idle : Idle slot)
    (unsaid : Unsaid requestHash told log) (may : told ⟨body, error⟩) :
    Leads key requestHash
      (.fork (clearReservation key requestHash fun _ => .done) (answer body error)) slot log := by
  have said : ClientLog key requestHash (log ++ [.replied ⟨body, error⟩]) := unsaid.replied may
  refine ⟨unsaid.clientLog, ?_, leads_answer idle unsaid may⟩
  unfold clearReservation
  split
  · exact ⟨said, nofun⟩
  · exact ⟨said, fun _ _ => ⟨said.snoc rfl, nofun⟩, fun _ => ⟨said.snoc rfl, nofun⟩⟩

theorem leads_clear {k : Bool → PayProg} (unsaid : Unsaid requestHash told log)
    (next : ∀ done log', Unsaid requestHash told log' → Leads key requestHash (k done) slot log') :
    Leads key requestHash (clearReservation key requestHash k) slot log := by
  unfold clearReservation
  split
  · exact next false log unsaid
  · exact leads_pooled rfl unsaid (fun _ log' => next true log') fun log' => next false log'

/-- A response that was stored is the one that is answered. -/
theorem leads_store {reply : Reply} (idle : Idle slot) (unsaid : Unsaid requestHash told log)
    (may : told reply) (some : reply.body.isNull = false) :
    Leads key requestHash (storeThenAnswer key requestHash reply) slot log := by
  -- the log once the response is stored, with nothing but the reply to follow
  have stored : ∀ done more, (∀ entry ∈ more, Entry.aside entry = true ∨ entry = .replied reply) →
      ClientLog key requestHash (log ++ [.ran (.saveSnapshot key requestHash
        (snapshotOf requestHash reply.body)) done] ++ more) := by
    intro done more ends
    have said : ∀ out, Entry.replied out ∈ log ++ [.ran (.saveSnapshot key requestHash
        (snapshotOf requestHash reply.body)) done] ++ more → out = reply := by
      intro out member
      rcases List.mem_append.mp member with early | late
      · exact absurd (by simpa using early) (unsaid.silent out)
      · rcases ends _ late with aside | same
        · cases aside
        · exact Entry.replied.inj same
    refine ⟨fun key' hash snapshot done' saved => ?_, fun key' row out found isSaid => ?_⟩
    · rcases List.mem_append.mp saved with early | late
      · rcases List.mem_append.mp early with old | new
        · exact absurd old (unsaid.unsaved _ _ _ _)
        · cases List.mem_singleton.mp new
          exact ⟨rfl, rfl, reply.body, rfl, some, fun out member => by rw [said out member]⟩
      · rcases ends _ late with aside | same
        · cases aside
        · cases same
    · rw [said out isSaid]
      rcases List.mem_append.mp found with early | late
      · exact unsaid.found key' row (by simpa [Saw] using early) _ may
      · rcases ends _ late with aside | same
        · cases aside
        · cases same
  have ends : ∀ done more, (∀ entry ∈ more, Entry.aside entry = true) →
      Leads key requestHash (answer reply.body reply.error) slot
        (log ++ [.ran (.saveSnapshot key requestHash (snapshotOf requestHash reply.body)) done] ++
          more) := by
    intro done more aside
    refine ⟨stored done more fun entry member => Or.inl (aside entry member), ?_,
      fun record active => absurd active (idle record)⟩
    rw [List.append_assoc _ more]
    refine stored done _ fun entry member => ?_
    rcases List.mem_append.mp member with early | last
    · exact Or.inl (aside entry early)
    · exact Or.inr (List.mem_singleton.mp last)
  have endsNow : ∀ done, Leads key requestHash (answer reply.body reply.error) slot
      (log ++ [.ran (.saveSnapshot key requestHash (snapshotOf requestHash reply.body)) done]) :=
    fun done => by simpa using ends done [] (by simp)
  refine ⟨unsaid.clientLog, fun done _ => ?_, fun cause => ?_⟩
  · cases done with
    | true => exact endsNow true
    | false =>
        show Leads key requestHash (clearReservation key requestHash fun _ => _) slot _
        unfold clearReservation
        split
        · exact endsNow false
        · exact ⟨by simpa using stored false [] (by simp),
            fun res _ => ends false _ (by simp [Entry.aside, Stmt.aside]),
            fun cause => ends false _ (by simp [Entry.aside])⟩
  · exact leads_clear (unsaid.snoc rfl) fun _ log' unsaid' => leads_answer idle unsaid' may

/-- What the check of a key makes of the request. -/
theorem leads_checkDatabase {cfg : Config} {callback : CheckResult → PayProg}
    (unsaid : Unsaid requestHash (fun _ => True) log)
    (started : ∀ log', Unsaid requestHash (fun _ => True) log' →
      Leads key requestHash (callback .Started) slot log')
    (replayed : ∀ response log', response.isNull = false →
      Unsaid requestHash (fun out => out = ⟨response, none⟩) log' →
      Leads key requestHash (callback (.Replay response)) slot log')
    (refused : ∀ result log', (∀ response, result ≠ .Replay response) → result ≠ .Started →
      Unsaid requestHash (fun out => out.error ≠ none) log' →
      Leads key requestHash (callback result) slot log') (idle : Idle slot) :
    Leads key requestHash (checkDatabase cfg key requestHash callback) slot log := by
  have unfound : ∀ log' told, Unsaid requestHash (fun _ => True) log' → Unsaid requestHash told log' :=
    fun log' told unsaid' => ⟨unsaid'.unsaved, unsaid'.silent,
      fun key' row found out _ => unsaid'.found key' row found out trivial⟩
  have failed : ∀ log', Unsaid requestHash (fun out => out.error ≠ none) log' →
      Leads key requestHash (callback .Error) slot log' :=
    fun log' => refused .Error log' (by rintro _ ⟨⟩) (by rintro ⟨⟩)
  unfold checkDatabase
  split
  · exact started log unsaid
  · refine leads_pooled rfl unsaid (fun res log' unsaid' => ?_) fun log' unsaid' =>
      failed log' (unfound log' _ unsaid')
    cases res with
    | some now => exact started log' unsaid'
    | none =>
        refine ⟨unsaid'.clientLog, fun row _ => ?_, fun cause =>
          failed _ (unfound _ _ (unsaid'.snoc rfl))⟩
        -- the lookup decides what may be said
        have found : ∀ told : Reply → Prop, (∀ out, told out → Told requestHash row out) →
            Unsaid requestHash told (log' ++ [.ran (.findLiveIdempotency key) row]) := by
          intro told may
          refine ⟨fun _ _ _ _ saved => ?_, fun out said => ?_, fun key' row' isFound out tells => ?_⟩
          · exact unsaid'.unsaved _ _ _ _ (by simpa [Saw] using saved)
          · exact unsaid'.silent out (by simpa using said)
          · rcases List.mem_append.mp isFound with old | new
            · exact unsaid'.found key' row' old out trivial
            · cases List.mem_singleton.mp new
              exact may out tells
        cases row with
        | none =>
            refine failed _ (found _ fun out isError => ?_)
            simpa [Told, IdempotencyService.heard] using isError
        | some row =>
            show Leads key requestHash (readReservation requestHash row callback) slot _
            rw [readReservation_eq]
            cases isVerdict : verdict requestHash row with
            | none => exact leads_done idle (found (fun _ => False) (by rintro _ ⟨⟩))
            | some result =>
                cases result with
                | Started => exact absurd isVerdict verdict_ne_started
                | Replay response =>
                    refine replayed response _ (verdict_replay isVerdict) (found _ fun out isOut => ?_)
                    simpa [Told, IdempotencyService.heard, isVerdict] using isOut
                | _ =>
                    refine refused _ _ (by simp) (by simp) (found _ fun out isError => ?_)
                    simpa [Told, IdempotencyService.heard, isVerdict] using isError

end Rules

attribute [irreducible] Leads

/-- A callback that may be called with any reply, and stores one with data before
it says it. -/
structure Tells (key requestHash : Bytes) (callback : Reply → PayProg) : Prop where
  leads : ∀ reply slot log, Idle slot → Unsaid requestHash (fun _ => True) log →
    Leads key requestHash (callback reply) slot log
  waits : ∀ reply : Reply, reply.body.isMember (ascii "data") = true →
    (callback reply).repliesNow = []

/-! ## createRefund -/

namespace RefundService

theorem refusedRefund_data (code : Nat) (text : Bytes) (data : List (String × Json)) :
    (refusedRefund code text data).body.isMember (ascii "data") = true := rfl

section Walk

variable {key requestHash : Bytes} {callback : Reply → PayProg} {slot : Slot paySig}
  {log : List PayEntry} {c : RefundCase} {cfg : Config} {request : CreateRefundRequest}

theorem leads_updateRefundWithError {refundNo : Bytes} {reply : Reply}
    (data : reply.body.isMember (ascii "data") = true) (tells : Tells key requestHash callback)
    (idle : Idle slot) (unsaid : Unsaid requestHash (fun _ => True) log) :
    Leads key requestHash (updateRefundWithError refundNo (callback reply)) slot log := by
  refine leads_fork unsaid (tells.waits reply data) ?_ (tells.leads reply slot log idle unsaid)
  exact leads_pooled rfl unsaid (fun _ _ unsaid' => leads_done Idle.none unsaid')
    fun _ unsaid' => leads_done Idle.none unsaid'

theorem leads_settleOrder {refundStatus : RefundStatus} {reply : Reply}
    (tells : Tells key requestHash callback) (idle : Idle slot)
    (unsaid : Unsaid requestHash (fun _ => True) log) :
    Leads key requestHash (settleOrder c refundStatus callback (callback reply)) slot log := by
  unfold settleOrder
  split
  · refine leads_pooled rfl unsaid (fun sumText log' unsaid' => ?_) fun log' unsaid' =>
      tells.leads _ _ _ idle unsaid'
    dsimp only
    split
    · exact tells.leads _ _ _ idle unsaid'
    · split
      · exact leads_pooled rfl unsaid' (fun _ _ unsaid => tells.leads _ _ _ idle unsaid)
          fun _ unsaid => tells.leads _ _ _ idle unsaid
      · exact tells.leads _ _ _ idle unsaid'
  · exact tells.leads _ _ _ idle unsaid

theorem leads_updateRefundWithSuccess {refundStatus : RefundStatus} {refundId : Bytes}
    {result : Json} (tells : Tells key requestHash callback) (idle : Idle slot)
    (unsaid : Unsaid requestHash (fun _ => True) log) :
    Leads key requestHash (updateRefundWithSuccess c refundStatus refundId result callback) slot
      log :=
  leads_pooled rfl unsaid (fun _ _ unsaid' => leads_settleOrder tells idle unsaid')
    fun _ unsaid' => tells.leads _ _ _ idle unsaid'

theorem leads_onAlipayRefund {a : ChannelAnswer} (tells : Tells key requestHash callback)
    (idle : Idle slot) (unsaid : Unsaid requestHash (fun _ => True) log) :
    Leads key requestHash (onAlipayRefund c callback a) slot log := by
  unfold onAlipayRefund
  split
  · exact leads_updateRefundWithError (refusedRefund_data _ _ _) tells idle unsaid
  · refine leads_orThrow idle unsaid fun alipayCode _ => ?_
    split
    · refine leads_orThrow idle unsaid fun msg _ => ?_
      exact leads_updateRefundWithError (refusedRefund_data _ _ _) tells idle unsaid
    · exact leads_orThrow idle unsaid fun refundId _ =>
        leads_updateRefundWithSuccess tells idle unsaid

theorem leads_refuseWechatRefund {errorMessage : Bytes} {definitive : Bool}
    (tells : Tells key requestHash callback) (idle : Idle slot)
    (unsaid : Unsaid requestHash (fun _ => True) log) :
    Leads key requestHash (refuseWechatRefund c errorMessage definitive callback) slot log := by
  unfold refuseWechatRefund
  dsimp only
  split
  · exact leads_updateRefundWithError (refusedRefund_data _ _ _) tells idle unsaid
  · exact tells.leads _ _ _ idle unsaid

theorem leads_onWechatRefund {a : ChannelAnswer} (tells : Tells key requestHash callback)
    (idle : Idle slot) (unsaid : Unsaid requestHash (fun _ => True) log) :
    Leads key requestHash (onWechatRefund c callback a) slot log := by
  unfold onWechatRefund
  split
  · exact leads_refuseWechatRefund tells idle unsaid
  · refine leads_orThrow idle unsaid fun wechatStatus _ => ?_
    refine leads_orThrow idle unsaid fun refundId _ => ?_
    dsimp only
    split
    · refine leads_orThrow idle unsaid fun code _ => ?_
      exact leads_orThrow idle unsaid fun detail _ => leads_refuseWechatRefund tells idle unsaid
    · refine leads_orThrow idle unsaid fun code _ => ?_
      exact leads_orThrow idle unsaid fun detail _ => leads_refuseWechatRefund tells idle unsaid
    · exact leads_updateRefundWithSuccess tells idle unsaid

theorem leads_invokeRefundChannel {channel : Bytes} (tells : Tells key requestHash callback)
    (idle : Idle slot) (unsaid : Unsaid requestHash (fun _ => True) log) :
    Leads key requestHash (invokeRefundChannel cfg c channel callback) slot log := by
  unfold invokeRefundChannel
  split
  · split
    · exact leads_call unsaid fun a _ unsaid' => leads_onAlipayRefund tells idle unsaid'
    · exact tells.leads _ _ _ idle unsaid
  · split
    · split
      · exact leads_call unsaid fun a _ unsaid' => leads_onWechatRefund tells idle unsaid'
      · exact leads_updateRefundWithError (refusedRefund_data _ _ _) tells idle unsaid
    · exact tells.leads _ _ _ idle unsaid

theorem leads_insertRefundRow {record : List PayEntry} (tells : Tells key requestHash callback)
    (unsaid : Unsaid requestHash (fun _ => True) log)
    (plain : ∀ entry ∈ record, Entry.aside entry = true) :
    Leads key requestHash (insertRefundRow cfg c callback) (.active record) log := by
  refine leads_within rfl unsaid plain (fun _ record' plain' => ?_) fun log' unsaid' =>
    leads_rollback unsaid' fun _ idle => tells.leads _ _ _ idle unsaid'
  refine leads_within rfl unsaid plain' (fun order record plain => ?_) fun log' unsaid' =>
    leads_rollback unsaid' fun _ idle => tells.leads _ _ _ idle unsaid'
  cases order with
  | none => exact leads_rollback unsaid fun _ idle => tells.leads _ _ _ idle unsaid
  | some order =>
      refine leads_commit unsaid plain fun done log' unsaid' => ?_
      cases done with
      | true => exact leads_invokeRefundChannel tells Idle.closed unsaid'
      | false => exact tells.leads _ _ _ Idle.closed unsaid'

theorem leads_proceedWithInsert (tells : Tells key requestHash callback)
    (unsaid : Unsaid requestHash (fun _ => True) log) :
    Leads key requestHash (proceedWithInsert cfg c callback) slot log := by
  refine leads_start unsaid ?_ fun log' unsaid' => tells.leads _ _ _ Idle.closed unsaid'
  refine leads_within rfl unsaid (by simp) (fun payment record plain => ?_) fun log' unsaid' =>
    leads_rollback unsaid' fun _ idle => tells.leads _ _ _ idle unsaid'
  cases payment with
  | none => exact leads_rollback unsaid fun _ idle => tells.leads _ _ _ idle unsaid
  | some payment =>
      refine leads_within rfl unsaid plain (fun sumText record plain => ?_) fun log' unsaid' =>
        leads_rollback unsaid' fun _ idle => tells.leads _ _ _ idle unsaid'
      dsimp only
      split
      · exact leads_rollback unsaid fun _ idle => tells.leads _ _ _ idle unsaid
      · split
        · exact leads_rollback unsaid fun _ idle => tells.leads _ _ _ idle unsaid
        · exact leads_insertRefundRow tells unsaid plain

theorem leads_proceedWithAmountCheck (tells : Tells key requestHash callback) (idle : Idle slot)
    (unsaid : Unsaid requestHash (fun _ => True) log) :
    Leads key requestHash (proceedWithAmountCheck cfg c callback) slot log := by
  refine leads_pooled rfl unsaid (fun row log' unsaid' => ?_) fun log' unsaid' =>
    tells.leads _ _ _ idle unsaid'
  cases row with
  | some row => exact tells.leads _ _ _ idle unsaid'
  | none =>
      refine leads_pooled rfl unsaid' (fun count log unsaid => ?_) fun log unsaid =>
        tells.leads _ _ _ idle unsaid
      dsimp only
      split
      · exact tells.leads _ _ _ idle unsaid
      · exact leads_proceedWithInsert tells unsaid

theorem leads_proceedOrderFlow {refundNo paymentNo : Bytes} (tells : Tells key requestHash callback)
    (idle : Idle slot) (unsaid : Unsaid requestHash (fun _ => True) log) :
    Leads key requestHash (proceedOrderFlow cfg request refundNo paymentNo callback) slot log := by
  refine leads_pooled rfl unsaid (fun order log' unsaid' => ?_) fun log' unsaid' =>
    tells.leads _ _ _ idle unsaid'
  cases order with
  | none => exact tells.leads _ _ _ idle unsaid'
  | some order =>
      dsimp only
      split
      · split
        · exact tells.leads _ _ _ idle unsaid'
        · exact leads_proceedWithAmountCheck tells idle unsaid'
      · exact tells.leads _ _ _ idle unsaid'

theorem leads_proceedWithPayment {uuid paymentNo : Bytes} (tells : Tells key requestHash callback)
    (idle : Idle slot) (unsaid : Unsaid requestHash (fun _ => True) log) :
    Leads key requestHash (proceedWithPayment cfg request uuid paymentNo callback) slot log := by
  refine leads_pooled rfl unsaid (fun payment log' unsaid' => ?_) fun log' unsaid' =>
    tells.leads _ _ _ idle unsaid'
  cases payment with
  | none => exact tells.leads _ _ _ idle unsaid'
  | some payment =>
      dsimp only
      split
      · exact leads_proceedOrderFlow tells idle unsaid'
      · exact tells.leads _ _ _ idle unsaid'

theorem leads_attemptsFinder {orderNo : Bytes} {statuses : List PaymentStatus} {thenEmpty : PayProg}
    {proceedWith : Bytes → PayProg} (tells : Tells key requestHash callback) (idle : Idle slot)
    (unsaid : Unsaid requestHash (fun _ => True) log)
    (empty : ∀ log', Unsaid requestHash (fun _ => True) log' →
      Leads key requestHash thenEmpty slot log')
    (found : ∀ paymentNo log', Unsaid requestHash (fun _ => True) log' →
      Leads key requestHash (proceedWith paymentNo) slot log') :
    Leads key requestHash (attemptsFinder orderNo statuses thenEmpty callback proceedWith) slot
      log := by
  refine leads_pooled rfl unsaid (fun payment log' unsaid' => ?_) fun log' unsaid' =>
    tells.leads _ _ _ idle unsaid'
  cases payment with
  | none => exact empty log' unsaid'
  | some payment => exact found _ log' unsaid'

theorem leads_proceedRefund {uuid : Bytes} (tells : Tells key requestHash callback)
    (idle : Idle slot) (unsaid : Unsaid requestHash (fun _ => True) log) :
    Leads key requestHash (proceedRefund cfg request uuid callback) slot log := by
  have withPayment : ∀ paymentNo log', Unsaid requestHash (fun _ => True) log' →
      Leads key requestHash (proceedWithPayment cfg request uuid paymentNo callback) slot log' :=
    fun paymentNo log' unsaid' => leads_proceedWithPayment tells idle unsaid'
  unfold proceedRefund
  split
  · exact tells.leads _ _ _ idle unsaid
  · split
    · refine leads_attemptsFinder tells idle unsaid (fun log' unsaid' => ?_) withPayment
      exact leads_attemptsFinder tells idle unsaid'
        (fun log unsaid => tells.leads _ _ _ idle unsaid) withPayment
    · exact leads_proceedWithPayment tells idle unsaid

theorem leads_wrappedRefundCallback {reply : Reply} {told : Reply → Prop} (idle : Idle slot)
    (unsaid : Unsaid requestHash told log) (may : told reply) :
    Leads key requestHash (wrappedRefundCallback key requestHash reply) slot log := by
  unfold wrappedRefundCallback
  split
  · rename_i stores
    refine leads_store idle unsaid may ?_
    cases isBody : reply.body with
    | null => simp [isBody, Json.isMember] at stores
    | _ => rfl
  · exact leads_answer idle unsaid may

theorem tells_proceedCallback (keyed : key ≠ []) :
    Tells key requestHash (proceedCallback key requestHash) := by
  refine ⟨fun reply slot log idle unsaid => ?_, fun reply data => ?_⟩
  · unfold proceedCallback
    split
    · exact leads_clear unsaid fun _ _ unsaid' =>
        leads_wrappedRefundCallback idle unsaid' trivial
    · exact leads_wrappedRefundCallback idle unsaid trivial
  · simp [proceedCallback, wrappedRefundCallback, data, keyed, storeThenAnswer, updateResult,
      Prog.repliesNow]

theorem leads_createRefund {uuid : Bytes} (keyed : key ≠ []) (idle : Idle slot)
    (unsaid : Unsaid (refundHash cfg request) (fun _ => True) log) :
    Leads key (refundHash cfg request) (createRefund cfg request key uuid) slot log := by
  unfold createRefund
  dsimp only
  rw [if_neg (by simpa using keyed)]
  refine leads_checkDatabase unsaid
    (fun log' unsaid' => leads_proceedRefund (tells_proceedCallback keyed) idle unsaid')
    (fun response log' _ unsaid' => leads_wrappedRefundCallback idle unsaid' rfl)
    (fun result log' notReplay notStarted unsaid' => ?_) idle
  cases result with
  | Started => exact absurd rfl notStarted
  | Replay response => exact absurd rfl (notReplay response)
  | _ => exact leads_wrappedRefundCallback idle unsaid' nofun

end Walk

end RefundService

/-! ## createPayment and createQRPayment -/

namespace PaymentService

section Walk

variable {key requestHash : Bytes} {callback : Reply → PayProg} {slot : Slot paySig}
  {log : List PayEntry} {cfg : Config} {request : CreatePaymentRequest} {paymentNo : Bytes}

theorem leads_bookRefusedAttempt {orderNo : Bytes} {finish : PayProg}
    (unsaid : Unsaid requestHash (fun _ => True) log)
    (ends : ∀ log', Unsaid requestHash (fun _ => True) log' →
      Leads key requestHash finish slot log') :
    Leads key requestHash (bookRefusedAttempt paymentNo orderNo finish) slot log := by
  refine leads_pooled rfl unsaid (fun payment log' unsaid' => ?_) ends
  cases payment with
  | none => exact ends log' unsaid'
  | some payment =>
      refine leads_pooled rfl unsaid' (fun _ log unsaid => ?_) ends
      refine leads_pooled rfl unsaid (fun order log' unsaid' => ?_) ends
      cases order with
      | none => exact ends log' unsaid'
      | some order => exact leads_pooled rfl unsaid' (fun _ => ends) ends

theorem leads_answerCreated {result : Json} (tells : Tells key requestHash callback)
    (idle : Idle slot) (unsaid : Unsaid requestHash (fun _ => True) log) :
    Leads key requestHash (answerCreated request paymentNo result callback) slot log :=
  leads_orThrow idle unsaid fun _ _ => tells.leads _ _ _ idle unsaid

theorem leads_onCreateAnswer {result : Json} {transportError : Bytes}
    (tells : Tells key requestHash callback) (idle : Idle slot)
    (unsaid : Unsaid requestHash (fun _ => True) log) :
    Leads key requestHash (onCreateAnswer request paymentNo callback result transportError) slot
      log := by
  refine leads_orThrow idle unsaid fun error _ => ?_
  dsimp only
  split
  · refine leads_pooled rfl unsaid (fun moved log' unsaid' => ?_) fun log' unsaid' =>
      tells.leads _ _ _ idle unsaid'
    cases moved with
    | false => exact leads_answerCreated tells idle unsaid'
    | true =>
        exact leads_pooled rfl unsaid' (fun _ _ unsaid => leads_answerCreated tells idle unsaid)
          fun _ unsaid => leads_answerCreated tells idle unsaid
  · split
    · exact leads_bookRefusedAttempt unsaid fun _ unsaid' => tells.leads _ _ _ idle unsaid'
    · exact tells.leads _ _ _ idle unsaid

theorem leads_proceedCreatePayment {totalFen : Nat} (tells : Tells key requestHash callback)
    (unsaid : Unsaid requestHash (fun _ => True) log) :
    Leads key requestHash (proceedCreatePayment cfg request paymentNo totalFen callback) slot
      log := by
  have dropped : ∀ log' reply, Unsaid requestHash (fun _ => True) log' →
      Leads key requestHash (.rollback (callback reply)) .closed log' :=
    fun log' reply unsaid' => leads_rollback unsaid' fun _ idle => tells.leads _ _ _ idle unsaid'
  refine leads_start unsaid ?_ fun log' unsaid' => tells.leads _ _ _ Idle.closed unsaid'
  refine leads_within rfl unsaid (by simp) (fun _ record plain => ?_) fun log' unsaid' =>
    dropped log' _ unsaid'
  refine leads_within rfl unsaid plain (fun _ record plain => ?_) fun log' unsaid' =>
    dropped log' _ unsaid'
  refine leads_commit unsaid plain fun done log' unsaid' => ?_
  cases done with
  | false => exact tells.leads _ _ _ Idle.closed unsaid'
  | true =>
      dsimp only
      split
      · exact leads_call unsaid' fun a _ unsaid => leads_onCreateAnswer tells Idle.closed unsaid
      · exact leads_onCreateAnswer tells Idle.closed unsaid'

theorem tells_wrappedCreateCallback (keyed : key ≠ []) :
    Tells key requestHash (wrappedCreateCallback key requestHash) := by
  refine ⟨fun reply slot log idle unsaid => ?_, fun reply data => ?_⟩
  · unfold wrappedCreateCallback
    split
    · rename_i stores
      refine leads_store idle unsaid trivial ?_
      cases isBody : reply.body with
      | null => simp [isBody, Json.isMember] at stores
      | _ => rfl
    · split
      · exact leads_clear unsaid fun _ _ unsaid' => leads_answer idle unsaid' trivial
      · exact leads_answer idle unsaid trivial
  · cases isError : reply.error with
    | none =>
        simp [wrappedCreateCallback, isError, data, keyed, storeThenAnswer, updateResult, Prog.repliesNow]
    | some code =>
        simp [wrappedCreateCallback, isError, keyed, clearReservation, Prog.repliesNow]

theorem leads_invalidCreate {problem : Bytes} (idle : Idle slot)
    (unsaid : Unsaid requestHash (fun _ => True) log) :
    Leads key requestHash (invalidCreate key requestHash problem) slot log :=
  leads_clear unsaid fun _ _ unsaid' => leads_answer idle unsaid' trivial

/-- What the check makes of a payment request, once it is known how it goes on
when it holds the key. -/
theorem leads_checked {proceed : PayProg} (idle : Idle slot)
    (unsaid : Unsaid requestHash (fun _ => True) log)
    (started : ∀ log', Unsaid requestHash (fun _ => True) log' →
      Leads key requestHash proceed slot log') :
    Leads key requestHash (checkDatabase cfg key requestHash fun
      | .Started => proceed
      | refused => answerUnstarted refused) slot log := by
  refine leads_checkDatabase unsaid started
    (fun response log' _ unsaid' => leads_answer idle unsaid' rfl)
    (fun result log' notReplay notStarted unsaid' => ?_) idle
  cases result with
  | Started => exact absurd rfl notStarted
  | Replay response => exact absurd rfl (notReplay response)
  | _ => exact leads_answer idle unsaid' nofun

theorem leads_createPayment {now : Nat} (keyed : key ≠ []) (idle : Idle slot)
    (unsaid : Unsaid (createHash cfg request) (fun _ => True) log) :
    Leads key (createHash cfg request) (createPayment cfg request key paymentNo now) slot log := by
  refine leads_checked idle unsaid fun log' unsaid' => ?_
  split
  · exact leads_invalidCreate idle unsaid'
  · split
    · exact leads_invalidCreate idle unsaid'
    · exact leads_proceedCreatePayment (tells_wrappedCreateCallback keyed) unsaid'

end Walk

section Qr

variable {requestHash : Bytes} {qr : QrRequest} {slot : Slot paySig} {log : List PayEntry}
  {cfg : Config} {paymentNo : Bytes} {payload : Json}

theorem leads_failQr {code : Nat} {text : Bytes} {extra : Json} (idle : Idle slot)
    (unsaid : Unsaid requestHash (fun _ => True) log) :
    Leads qr.idempotencyKey requestHash (failQr qr requestHash code text extra) slot log :=
  leads_clear unsaid fun _ _ unsaid' => leads_answer idle unsaid' trivial

theorem leads_respondQr {data : Json} (idle : Idle slot)
    (unsaid : Unsaid requestHash (fun _ => True) log) :
    Leads qr.idempotencyKey requestHash (respondQr qr requestHash data) slot log :=
  leads_store idle unsaid trivial rfl

theorem leads_promoteQrRows {data : Json} (idle : Idle slot)
    (unsaid : Unsaid requestHash (fun _ => True) log) :
    Leads qr.idempotencyKey requestHash (promoteQrRows qr requestHash paymentNo data) slot log := by
  refine leads_pooled rfl unsaid (fun moved log' unsaid' => ?_) fun _ unsaid' =>
    leads_respondQr idle unsaid'
  cases moved with
  | false => exact leads_respondQr idle unsaid'
  | true =>
      exact leads_pooled rfl unsaid' (fun _ _ unsaid => leads_respondQr idle unsaid)
        fun _ unsaid => leads_respondQr idle unsaid

theorem leads_refuseQrOffer {failure text : Bytes} {extra : Json} (idle : Idle slot)
    (unsaid : Unsaid requestHash (fun _ => True) log) :
    Leads qr.idempotencyKey requestHash
      (refuseQrOffer qr requestHash paymentNo failure text extra) slot log := by
  unfold refuseQrOffer
  split
  · exact leads_pooled rfl unsaid (fun _ _ unsaid' => leads_failQr idle unsaid')
      fun _ unsaid' => leads_failQr idle unsaid'
  · exact leads_failQr idle unsaid

theorem leads_offerQrChannel (idle : Idle slot)
    (unsaid : Unsaid requestHash (fun _ => True) log) :
    Leads qr.idempotencyKey requestHash (offerQrChannel qr requestHash paymentNo payload) slot
      log := by
  refine leads_call unsaid fun a log' unsaid' => ?_
  split
  · exact leads_refuseQrOffer idle unsaid'
  · refine leads_orThrow idle unsaid' fun resultError _ => ?_
    split
    · exact leads_orThrow idle unsaid' fun data _ => leads_promoteQrRows idle unsaid'
    · exact leads_orThrow idle unsaid' fun extra _ => leads_refuseQrOffer idle unsaid'

theorem leads_bookQrPayment (idle : Idle slot)
    (unsaid : Unsaid requestHash (fun _ => True) log) :
    Leads qr.idempotencyKey requestHash (bookQrPayment qr requestHash paymentNo payload) slot
      log :=
  leads_pooled rfl unsaid (fun _ _ unsaid' => leads_offerQrChannel idle unsaid')
    fun _ unsaid' => leads_failQr idle unsaid'

theorem leads_bookQr {currency : Bytes} (idle : Idle slot)
    (unsaid : Unsaid requestHash (fun _ => True) log) :
    Leads qr.idempotencyKey requestHash (bookQr cfg qr requestHash paymentNo currency payload) slot
      log := by
  refine leads_pooled rfl unsaid (fun order log' unsaid' => ?_) fun _ unsaid' =>
    leads_failQr idle unsaid'
  cases order with
  | none =>
      exact leads_pooled rfl unsaid' (fun _ _ unsaid => leads_bookQrPayment idle unsaid)
        fun _ unsaid => leads_failQr idle unsaid
  | some existing =>
      dsimp only
      split
      · exact leads_failQr idle unsaid'
      · refine leads_pooled rfl unsaid' (fun settled log unsaid => ?_) fun _ unsaid =>
          leads_failQr idle unsaid
        cases settled with
        | nil => exact leads_bookQrPayment idle unsaid
        | cons first rest => exact leads_failQr idle unsaid

theorem leads_proceedQr {now : Nat} (idle : Idle slot)
    (unsaid : Unsaid requestHash (fun _ => True) log) :
    Leads qr.idempotencyKey requestHash (proceedQr cfg qr requestHash paymentNo now) slot log := by
  unfold proceedQr
  split
  · exact leads_clearAside idle unsaid trivial
  · split
    · exact leads_clearAside idle unsaid trivial
    · split
      · exact leads_bookQr idle unsaid
      · exact leads_clearAside idle unsaid trivial

theorem leads_createQRPayment {request : Json} {now : Nat} (idle : Idle slot)
    (read : readQrRequest request = some qr)
    (unsaid : Unsaid (qrHash cfg qr) (fun _ => True) log) :
    Leads qr.idempotencyKey (qrHash cfg qr) (createQRPayment cfg request paymentNo now) slot
      log := by
  refine leads_orThrow idle unsaid fun head _ => ?_
  dsimp only
  split
  · exact leads_answer idle unsaid trivial
  · refine leads_orThrow idle unsaid fun userId _ => ?_
    split
    · exact leads_answer idle unsaid trivial
    · refine leads_orThrow idle unsaid fun qr' isRead => ?_
      obtain rfl : qr = qr' := Option.some.inj (read.symm.trans isRead)
      exact leads_checked idle unsaid fun _ unsaid' => leads_proceedQr idle unsaid'

end Qr

end PaymentService

/-! ## All create requests -/

/-- The create requests with a key of their own. -/
def Request.Keyed (cfg : Config) (request : Request) : Prop :=
  ∃ key requestHash, request.keyed cfg = some (key, requestHash) ∧ key ≠ []

/-- What the log of a create request is like. -/
def TellsStored (cfg : Config) (request : Request) (log : List PayEntry) : Prop :=
  ∀ key requestHash, request.keyed cfg = some (key, requestHash) → ClientLog key requestHash log

theorem unsaid_spawned (requestHash : Bytes) (request : Request) :
    Unsaid requestHash (fun _ => True) [Entry.spawned request] :=
  ⟨by simp [Saw], by simp, by simp [Saw]⟩

/-- The log of every create request in a run. -/
theorem Run.tells_stored {cfg : Config} {ok : PaySys → PayEvent → Prop} {events : List PayEvent}
    {s : PaySys} (run : PayRun cfg ok events s) {p : PayProc} (member : p ∈ s.procs)
    {request : Request} (owner : Owner p.log request) {key requestHash : Bytes}
    (isKeyed : request.keyed cfg = some (key, requestHash)) (keyed : key ≠ []) :
    ClientLog key requestHash p.log := by
  have leading : Leading (serve cfg) ok Db.empty (fun request => request.Keyed cfg)
      (fun _ _ _ => True) (fun _ _ _ => True) (TellsStored cfg) := by
    refine ⟨?_, ?_, fun _ _ _ _ _ => trivial, fun _ _ _ _ => trivial⟩
    · rintro request ⟨key, requestHash, isKeyed, keyed⟩
      have leads : Leads key requestHash (serve cfg request) .none [.spawned request] := by
        cases request with
        | createPayment request idempotencyKey paymentNo now =>
            cases isKeyed
            exact PaymentService.leads_createPayment keyed Idle.none (unsaid_spawned _ _)
        | createQRPayment request paymentNo now =>
            obtain ⟨qr, read, same⟩ := Option.map_eq_some_iff.mp isKeyed
            cases same
            exact PaymentService.leads_createQRPayment Idle.none read (unsaid_spawned _ _)
        | createRefund request idempotencyKey uuid =>
            cases isKeyed
            exact RefundService.leads_createRefund keyed Idle.none (unsaid_spawned _ _)
        | _ => cases isKeyed
      unfold Leads at leads
      refine leads.mono fun log client key' requestHash' isKeyed' => ?_
      cases isKeyed.symm.trans isKeyed'
      exact client
    · intro request log tells key requestHash isKeyed
      exact (tells key requestHash isKeyed).snoc rfl
  exact run.traces leading member owner ⟨key, requestHash, isKeyed, keyed⟩ key requestHash isKeyed

end DrogonPay
