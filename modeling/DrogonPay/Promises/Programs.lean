import DrogonPay.Promises.Callback
import DrogonPay.ReadCommitted.Records

/-!
Contract: every request's program keeps the contract of the services.

Owns: the lemmas for `Reconciliation`, and `verified_serve`, by which the laws
over runs learn of the contract.

Does not own: what follows for a run.
-/

namespace DrogonPay

open ReadCommitted

variable {cfg : Config} {slot : Slot paySig} {log : List PayEntry}

namespace ReconciliationService

theorem runs_forEach {ρ : Type} {rows : List ρ} {each : ρ → PayProg} (bystander : Bystander log)
    (idle : Idle slot)
    (runs : ∀ row ∈ rows, ∀ log', log <+: log' → Bystander log' →
      Runs payContract .none log' (each row)) :
    Runs payContract slot log (forEach rows each) := by
  induction rows with
  | nil => exact runs_end idle bystander.done
  | cons row rest inductionHypothesis =>
      have later := inductionHypothesis fun row member => runs row (List.mem_cons_of_mem _ member)
      refine runs_fork.mpr ⟨Verified.of_runs ?_, later⟩
      obtain ⟨outs, eq⟩ := Proc.advance_log ⟨slot, log, []⟩ (forEach rest each)
      rw [eq]
      exact runs row List.mem_cons_self _ (List.prefix_append _ _) (bystander.append _)

/-- The sweep of a reconciliation read this order. -/
def Swept (log : List PayEntry) (now : Nat) (order : OrderRow) : Prop :=
  Owner log (.reconcile now) ∧
    ∃ channel limit rows, Saw log (.sweepOrders channel limit) rows ∧ order ∈ rows

theorem Swept.append {now : Nat} {order : OrderRow} (swept : Swept log now order)
    (more : List PayEntry) : Swept (log ++ more) now order := by
  obtain ⟨owner, channel, limit, rows, saw, member⟩ := swept
  exact ⟨owner.append more, channel, limit, rows, saw.append more, member⟩

theorem runs_closeIfExpired {order : OrderRow} {tradeState : Bytes} {now : Nat} {next : PayProg}
    (bystander : Bystander log) (swept : Swept log now order)
    (continues : Runs payContract slot log next) :
    Runs payContract slot log (closeIfExpired order tradeState now next) := by
  unfold closeIfExpired
  split
  · rename_i passed
    refine runs_fork.mpr ⟨Verified.of_runs ?_, continues⟩
    obtain ⟨outs, eq⟩ := Proc.advance_log ⟨slot, log, []⟩ next
    rw [eq]
    obtain ⟨owner, channel, limit, rows, saw, member⟩ := swept.append (outs.map Entry.replied)
    exact runs_call.mpr ⟨⟨now, channel, limit, rows, order, owner, saw, member, rfl, passed.2⟩,
      fun a => runs_end Idle.none ((bystander.append _).append _).done⟩
  · exact continues

theorem runs_syncWeChatOrder {now : Nat} {order : OrderRow} (bystander : Bystander log)
    (swept : Swept log now order) (idle : Idle slot) :
    Runs payContract slot log (syncWeChatOrder now order) := by
  refine runs_call.mpr ⟨trivial, fun a => ?_⟩
  have known := bystander.append [.answered (.queryPayment (ascii "wechat") order.orderNo) a]
  split
  · refine runs_orThrow idle known.done fun _ _ => runs_orThrow idle known.done fun _ _ => ?_
    refine runs_closeIfExpired known (swept.append _) ?_
    exact PaymentService.runs_syncOrderStatusFromWechat (fun _ => trivial) known idle
      fun said read =>
        ⟨_, List.mem_append_right _ (List.mem_singleton_self _), PaymentService.message_wechat read⟩
  · exact runs_end idle known.done

theorem runs_syncAlipayOrder {order : OrderRow} (bystander : Bystander log) (idle : Idle slot) :
    Runs payContract slot log (syncAlipayOrder order) := by
  refine runs_call.mpr ⟨trivial, fun a => ?_⟩
  have known := bystander.append [.answered (.queryPayment (ascii "alipay") order.orderNo) a]
  split
  · exact PaymentService.runs_syncOrderStatusFromAlipay (fun _ => trivial) known idle
      fun said read =>
        ⟨_, List.mem_append_right _ (List.mem_singleton_self _), PaymentService.message_alipay read⟩
  · exact runs_end idle known.done

theorem runs_syncRefund {refund : RefundRow} (bystander : Bystander log) (idle : Idle slot) :
    Runs payContract slot log (syncRefund refund) := by
  refine runs_call.mpr ⟨trivial, fun a => ?_⟩
  split
  · rename_i through
    exact RefundService.runs_syncRefundStatusFromWechat (fun _ => trivial) (bystander.append _) idle
      (by simp) (by simpa using through)
  · exact runs_end idle (bystander.append _).done

/-- A sweep reads its rows and forks one process for each. -/
theorem runs_sweep {ρ : Type} {st : Stmt} {rowsOf : st.Res → List ρ} {each : ρ → PayProg}
    {k : Option st.Res → PayProg} (bystander : Bystander log) (idle : Idle slot)
    (promise : Promise log none st) (other : st.table ≠ some .refunds)
    (found : ∀ res, k (some res) = forEach (rowsOf res) each) (failed : k none = .done)
    (runs : ∀ res, ∀ row ∈ rowsOf res, ∀ log', log ++ [.ran st res] <+: log' → Bystander log' →
      Runs payContract .none log' (each row)) :
    Runs payContract slot log (.sql .db st k) := by
  refine runs_pooled bystander.done promise other (fun res _ _ => ?_) fun cause _ => ?_
  · rw [found]
    exact runs_forEach (bystander.append _) idle (runs res)
  · rw [failed]
    exact runs_end idle (bystander.append _).done

theorem runs_dispatch {configured : Bool} {sweep next : PayProg} (bystander : Bystander log)
    (sweeps : ∀ log', log <+: log' → Bystander log' → Runs payContract .none log' sweep)
    (continues : Runs payContract slot log next) :
    Runs payContract slot log (dispatch configured sweep next) := by
  unfold dispatch
  split
  · refine runs_fork.mpr ⟨Verified.of_runs ?_, continues⟩
    obtain ⟨outs, eq⟩ := Proc.advance_log ⟨slot, log, []⟩ next
    rw [eq]
    exact sweeps _ (List.prefix_append _ _) (bystander.append _)
  · exact continues

theorem runs_reconcile {now : Nat} (owner : Owner log (.reconcile now)) (idle : Idle slot) :
    Runs payContract slot log (reconcile cfg now) := by
  have bystander : Bystander log := ⟨_, owner, nofun⟩
  have purges : ∀ log', Bystander log' →
      Runs payContract .none log' (.sql .db .purgeIdempotency fun _ => .done) := by
    intro log' bystander
    exact runs_pooled bystander.done trivial (by simp [Stmt.table])
      (fun res _ ends => runs_end Idle.none ends) fun cause ends => runs_end Idle.none ends
  refine runs_dispatch bystander (fun log' longer bystander => ?_) ?_
  · refine runs_sweep bystander Idle.none trivial (by simp [Stmt.table])
      (fun _ => rfl) rfl fun rows order member log'' further bystander => ?_
    refine runs_syncWeChatOrder bystander ⟨head_of_longer owner ?_, _, _, rows, ?_, member⟩ Idle.none
    · exact longer.trans ((List.prefix_append _ _).trans further)
    · exact further.subset Saw.last
  · refine runs_dispatch bystander (fun log' _ bystander => ?_) ?_
    · exact runs_sweep bystander Idle.none trivial (by simp [Stmt.table])
        (fun _ => rfl) rfl fun _ _ _ _ _ bystander => runs_syncAlipayOrder bystander Idle.none
    · refine runs_dispatch bystander (fun log' _ bystander => ?_) ?_
      · exact runs_sweep bystander Idle.none trivial (by simp [Stmt.table])
          (fun _ => rfl) rfl fun _ _ _ _ _ bystander => runs_syncRefund bystander Idle.none
      · refine runs_fork.mpr ⟨Verified.of_runs (purges _ ?_), runs_answer idle bystander.done _ _⟩
        exact bystander.append _

end ReconciliationService

/-- The program of every request keeps the contract. -/
theorem verified_serve (cfg : Config) (request : Request) :
    Verified payContract (Proc.spawn request (serve cfg request)) := by
  refine Verified.of_runs ?_
  have owner : Owner [.spawned request] request := rfl
  have bystander : (∀ refund idempotencyKey uuid,
      request ≠ .createRefund refund idempotencyKey uuid) →
      Bystander [.spawned request] := fun other => ⟨request, owner, other⟩
  cases request with
  | createPayment request idempotencyKey paymentNo now =>
      exact PaymentService.runs_createPayment paymentNo.nonempty Idle.none (bystander nofun).done
  | createQRPayment request paymentNo now =>
      exact PaymentService.runs_createQRPayment paymentNo.nonempty Idle.none (bystander nofun).done
  | createRefund request idempotencyKey uuid =>
      refine RefundService.runs_createRefund Idle.none ⟨by simp, fun _ _ _ _ _ => ?_⟩ owner
      intro before refundNo settling after split settles
      have member : settling ∈ [(.spawned (.createRefund request idempotencyKey uuid) : PayEntry)] := by
        rw [split]
        simp
      obtain ⟨refundId, stamp, rfl⟩ := settles
      cases List.mem_singleton.mp member
  | queryOrder orderNo => exact PaymentService.runs_queryOrder (bystander nofun) Idle.none
  | queryRefund refundNo => exact RefundService.runs_queryRefund (bystander nofun) Idle.none
  | paymentNotification notification ownerToken =>
      exact CallbackService.runs_handlePaymentCallback owner Idle.none
  | refundNotification notification ownerToken =>
      exact CallbackService.runs_handleRefundCallback owner Idle.none
  | alipayNotification tradeNo outTradeNo tradeStatus totalAmount =>
      exact PaymentService.runs_alipayNotification Idle.none owner
  | reconcile now => exact ReconciliationService.runs_reconcile owner Idle.none

end DrogonPay
