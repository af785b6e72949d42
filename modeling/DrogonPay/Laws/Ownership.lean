import DrogonPay.Laws.Atomic

/-!
Contract: a reservation that was finalized stays, and its holder alone settled
under it.

Owns:
- `leftToDeliveries` and `freshToken`, the world in which only deliveries use a
  key and every owner token is drawn once;
- `ReservationOwned`, what a step may do to the reservation of the key and which
  settlements it may commit;
- `reservation_owned`, for every step of every run in that world.

Does not own: what else a settlement writes.
-/

namespace DrogonPay

open ReadCommitted

/-- The owner token a request was given. -/
def Request.token : Request → Option Bytes
  | .paymentNotification _ ownerToken | .refundNotification _ ownerToken => some ownerToken.text
  | _ => none

/-- A statement that can change the reservation of this key. -/
def Stmt.aims (key : Bytes) : Stmt → Bool
  | .reserve target _ _ _ | .saveSnapshot target _ _ | .clearReservation target _
  | .dropReservation target | .finalizeReservation target _ _ => target = key
  | .purgeIdempotency => true
  | _ => false

/-- The owner token of the request a process serves. -/
def tokenOf (log : List PayEntry) : Option Bytes :=
  match log.head? with
  | some (.spawned request) => request.token
  | _ => none

namespace CallbackService

/-! ## The world of a key -/

/-- No client request uses the key and no purge runs: whatever statement can
change its reservation is one of a delivery. -/
def leftToDeliveries (key : Bytes) (s : PaySys) (event : PayEvent) : Bool :=
  match s.executing event, event.mover with
  | some (st, _), some pid =>
      !st.aims key || (s.procs[pid]?).any fun p => (tokenOf p.log).isSome
  | _, _ => true

/-- Owner tokens are distinct. -/
def freshToken (s : PaySys) (event : PayEvent) : Bool :=
  match event with
  | .spawn request => request.token.isNone || s.procs.all fun p => tokenOf p.log ≠ request.token
  | _ => true

/-- The runs in which the reservation of the key is left to deliveries with
distinct tokens. -/
def ofDeliveries (key : Bytes) (s : PaySys) (event : PayEvent) : Prop :=
  leftToDeliveries key s event = true ∧ freshToken s event = true

/-- The process works off this delivery under the key. -/
def Delivering (key : Bytes) (p : PayProc) (delivery : Delivery) : Prop :=
  ∃ request, Owner p.log request ∧ Delivers request delivery ∧ delivery.idempotencyKey = key

/-- Among these entries is a write of a settlement. -/
def Settling (entries : List PayEntry) : Prop := ∃ w ∈ payStore.pending entries, w.settles = true

/-- What a step may do to the reservation of the key, and under which
reservation a settlement is committed. -/
structure ReservationOwned (key : Bytes) (s : PaySys) (event : PayEvent) (s' : PaySys) : Prop where
  kept : ∀ row, s.db.idempotency.find key = some row → row.responseSnapshot.isSome →
    s'.db.idempotency.find key = some row
  owned : ∀ pid p record delivery, s.Commits event pid p record → Settling record →
    Delivering key p delivery →
    (∃ row, s.db.idempotency.find key = some row ∧
      row.ownerToken = some delivery.ownerToken ∧ row.responseSnapshot = none) ∧
    s'.db.snapshot key = some delivery.plain
  once : ∀ (i j : Nat) p q delivery delivery', s'.procs[i]? = some p → s'.procs[j]? = some q →
    Delivering key p delivery → Delivering key q delivery' → Settling p.log → Settling q.log →
    i = j

/-! ## Deliveries and their tokens -/

theorem tokenOf_owner {log : List PayEntry} {request : Request} (owner : Owner log request) :
    tokenOf log = request.token := by
  have head : log.head? = some (.spawned request) := owner
  simp [tokenOf, head]

theorem isDelivery_of_token {request : Request} (drawn : request.token.isSome) :
    IsDelivery request := by
  cases request with
  | paymentNotification notification ownerToken => exact Or.inl ⟨notification, ownerToken, rfl⟩
  | refundNotification notification ownerToken => exact Or.inr ⟨notification, ownerToken, rfl⟩
  | _ => cases drawn

theorem Delivers.isDelivery {request : Request} {delivery : Delivery}
    (delivers : Delivers request delivery) : IsDelivery request := by
  cases delivers with
  | payment _ => exact Or.inl ⟨_, _, rfl⟩
  | refund _ => exact Or.inr ⟨_, _, rfl⟩

theorem Delivers.token {request : Request} {delivery : Delivery}
    (delivers : Delivers request delivery) : request.token = some delivery.ownerToken := by
  cases delivers <;> rfl

theorem Delivers.unique {request : Request} {delivery delivery' : Delivery}
    (delivers : Delivers request delivery) (delivers' : Delivers request delivery') :
    delivery = delivery' := by
  cases delivers with
  | payment read =>
      cases delivers' with
      | payment read' =>
          cases read.symm.trans read'
          rfl
  | refund read =>
      cases delivers' with
      | refund read' =>
          cases read.symm.trans read'
          rfl

theorem Delivering.unique {key : Bytes} {p : PayProc} {delivery delivery' : Delivery}
    (delivering : Delivering key p delivery) (delivering' : Delivering key p delivery') :
    delivery = delivery' := by
  obtain ⟨request, owner, delivers, _⟩ := delivering
  obtain ⟨request', owner', delivers', _⟩ := delivering'
  obtain rfl := Owner.unique owner owner'
  exact delivers.unique delivers'

section World

variable {cfg : Config} {key : Bytes} {events : List PayEvent} {s : PaySys}

/-- One process bears an owner token. -/
theorem alone (run : PayRun cfg (ofDeliveries key) events s) {i j : Nat} {p q : PayProc}
    {delivery delivery' : Delivery} (atP : s.procs[i]? = some p) (atQ : s.procs[j]? = some q)
    (delivering : Delivering key p delivery) (delivering' : Delivering key q delivery')
    (same : delivery.ownerToken = delivery'.ownerToken) : i = j := by
  obtain ⟨request, owner, delivers, _⟩ := delivering
  obtain ⟨request', owner', delivers', _⟩ := delivering'
  have taggedP : Tagged Request.token p delivery.ownerToken := ⟨request, owner, delivers.token⟩
  have taggedQ : Tagged Request.token q delivery.ownerToken :=
    ⟨request', owner', same ▸ delivers'.token⟩
  refine run.alone ?_ ?_ i j p q delivery.ownerToken atP atQ taggedP taggedQ
  · rintro s request t ⟨_, fresh⟩ isToken r member ⟨other, head, isOther⟩
    simp only [freshToken, isToken, Option.isNone_some, Bool.false_or, List.all_eq_true,
      decide_eq_true_eq] at fresh
    exact fresh r member ((tokenOf_owner head).trans isOther)
  · exact fun request drawn => forkless_serve cfg (isDelivery_of_token drawn)

/-- A process that is not a delivery runs no statement aimed at the key. -/
theorem delivery_of_aims {event : PayEvent} {pid : Nat} {p : PayProc} {request : Request}
    {st : Stmt} {seen : Db} (meets : ofDeliveries key s event) (isMover : event.mover = some pid)
    (proc : s.procs[pid]? = some p) (owner : Owner p.log request)
    (executes : s.executing event = some (st, seen)) (aims : st.aims key = true) :
    IsDelivery request := by
  have left := meets.1
  simp only [leftToDeliveries, executes, isMover, aims, Bool.not_true, Bool.false_or, proc,
    Option.any_some, tokenOf_owner owner] at left
  exact isDelivery_of_token left

/-- The delivery has finalized its reservation, for good. -/
def Finalizes (log : List PayEntry) (delivery : Delivery) : Prop :=
  Saw log (.finalizeReservation delivery.idempotencyKey delivery.ownerToken delivery.plain) true

/-- Whoever finalized the reservation of the key holds it, and a snapshot is that
of a process that did. -/
structure Inv (key : Bytes) (s : PaySys) : Prop where
  holds : ∀ p ∈ s.procs, ∀ delivery, Delivering key p delivery → Finalizes p.log delivery →
    ∃ row, s.db.idempotency.find key = some row ∧ row.ownerToken = some delivery.ownerToken ∧
      row.responseSnapshot = some delivery.plain
  origin : ∀ row, s.db.idempotency.find key = some row → row.responseSnapshot.isSome →
    ∃ p ∈ s.procs, ∃ delivery, Delivering key p delivery ∧
      row.ownerToken = some delivery.ownerToken ∧ Finalizes p.log delivery

/-- No statement among the new entries finalized the reservation of the key. -/
def Quiet (key : Bytes) (log log' : List PayEntry) : Prop :=
  ∀ ownerToken snapshot, Saw log' (.finalizeReservation key ownerToken snapshot) true →
    Saw log (.finalizeReservation key ownerToken snapshot) true

/-- What a move does to the reservation of the key. -/
inductive Change (key : Bytes) (p : PayProc) (log : List PayEntry) :
    Option IdempotencyRow → Option IdempotencyRow → Prop where
  | same {row : Option IdempotencyRow} (quiet : Quiet key p.log log) : Change key p log row row
  | unfinished {old new : Option IdempotencyRow} (quiet : Quiet key p.log log)
      (before : ∀ row, old = some row → row.responseSnapshot = none)
      (after : ∀ row, new = some row → row.responseSnapshot = none) : Change key p log old new
  | finalized {delivery : Delivery} {row : IdempotencyRow} (delivering : Delivering key p delivery)
      (owned : row.ownerToken = some delivery.ownerToken) (first : Unfinalized p.log)
      (finalizes : Finalizes log delivery) :
      Change key p log (some row) (some (row.finalize delivery.plain))

/-- Writes of other tables, or of other keys, leave the reservation. -/
theorem reservation_left {db : Db} {ws : List Write}
    (others : ∀ w ∈ ws, Key.idempotency key ∉ w.keys) :
    (payStore.applyAll db ws).idempotency.find key = db.idempotency.find key :=
  idempotencyColumn.read_applyAll_unlocked others

/-- A statement that is not aimed at the key does not lock its reservation. -/
theorem unlocked_of_aims {st : Stmt} {res : st.Res} (misses : st.aims key = false) :
    ∀ w ∈ st.writes res, Key.idempotency key ∉ w.keys := by
  intro w member isKey
  have table := Stmt.writes_table member
  rw [idempotencyColumn_locked w key isKey] at table
  have stamped : ∀ {target : Bytes} {res : Option Nat} {write : Nat → Write},
      (∀ now, (write now).keys = [.idempotency target]) → w ∈ Stmt.stamped res write →
      key = target := by
    intro target res write keys member
    obtain ⟨now, _, rfl⟩ := by simpa [Stmt.stamped] using member
    simpa [keys] using isKey
  have matched : ∀ {target : Bytes} {res : Bool} {write : Write},
      write.keys = [.idempotency target] → w ∈ Stmt.matched res write → key = target := by
    intro target res write keys member
    simp only [Stmt.matched] at member
    split at member
    · rw [List.mem_singleton.mp member, keys] at isKey
      simpa using isKey
    · cases member
  cases st with
  | reserve target requestHash ownerToken ttl =>
      simp [Stmt.aims, stamped (fun _ => rfl) member] at misses
  | saveSnapshot target requestHash snapshot =>
      simp [Stmt.aims, matched rfl member] at misses
  | clearReservation target requestHash => simp [Stmt.aims, matched rfl member] at misses
  | dropReservation target => simp [Stmt.aims, matched rfl member] at misses
  | finalizeReservation target ownerToken snapshot =>
      simp [Stmt.aims, matched rfl member] at misses
  | purgeIdempotency => cases misses
  | _ => cases table

/-- A transaction that wrote nothing of the reservation did not finalize it. -/
theorem not_finalized {record : List PayEntry} {ownerToken : Bytes} {snapshot : Json}
    (unwritten : ∀ w ∈ payStore.pending record, Key.idempotency key ∉ w.keys) :
    ¬ Saw record (.finalizeReservation key ownerToken snapshot) true := by
  intro saw
  refine unwritten (.setSnapshot key snapshot) ?_ (by simp [Write.keys])
  exact List.mem_flatMap.mpr ⟨_, saw, by simp [Stmt.writes, Stmt.matched]⟩

/-- A statement of a delivery on a pooled connection. -/
theorem change_pooled {db : Db} {env : Env} {p : PayProc} {st : Stmt} {res : st.Res}
    (ran : st.run db env = some res) (promise : DeliveryPromise p.log none st) :
    Change key p (p.log ++ [.ran st res]) (db.idempotency.find key)
      ((payStore.applyAll db (st.writes res)).idempotency.find key) := by
  have after := reservation_after ran key
  generalize db.idempotency.find key = old at after
  generalize (payStore.applyAll db (st.writes res)).idempotency.find key = new at after
  have quiet : (∀ ownerToken snapshot,
      (Entry.ran st res : PayEntry) ≠ .ran (.finalizeReservation key ownerToken snapshot) true) →
      Quiet key p.log (p.log ++ [.ran st res]) := by
    intro other ownerToken snapshot saw
    rcases List.mem_append.mp saw with old | new
    · exact old
    · exact absurd (List.mem_singleton.mp new).symm (other ownerToken snapshot)
  cases after with
  | same missed =>
      refine .same (quiet fun ownerToken snapshot same => ?_)
      cases same
      simp [Stmt.hits] at missed
  | reserved =>
      exact .unfinished (quiet (by rintro _ _ ⟨⟩)) (by rintro _ ⟨⟩) (by rintro _ ⟨⟩; rfl)
  | saved _ => exact absurd promise id
  | cleared _ _ => exact absurd promise id
  | dropped unfinished =>
      exact .unfinished (quiet (by rintro _ _ ⟨⟩)) (by rintro _ ⟨⟩; exact unfinished)
        (by rintro _ ⟨⟩)
  | @finalized ownerToken snapshot row owned =>
      obtain ⟨request, delivery, owner, delivers, isKey, isToken, isPlain, first, _⟩ := promise
      subst isToken isPlain
      rw [Option.getD_none, List.append_nil] at first
      refine .finalized ⟨request, owner, delivers, isKey⟩ owned first ?_
      rw [Finalizes, isKey]
      exact Saw.last
  | purged _ => exact absurd promise id

/-- A settlement writes no reservation before the finalizing. -/
theorem Settlement.leaves_reservations {log entries : List PayEntry} {request : Request}
    (settlement : Settlement log request entries) :
    ∀ w ∈ payStore.pending entries, w.table ≠ .idempotency := by
  have stamped : ∀ {w : Write} {stamp : Option Nat} {write : Nat → Write},
      w ∈ Stmt.stamped stamp write → (∀ now, (write now).table ≠ .idempotency) →
      w.table ≠ .idempotency := by
    intro w stamp write member others
    obtain ⟨now, _, rfl⟩ := by simpa [Stmt.stamped] using member
    exact others now
  intro w member
  cases settlement with
  | payment _ _ _ summed _ =>
      simp only [noticeReads, Store.pending_append, Store.pending_cons_ran, Store.pending_nil,
        Summed.unwritten summed, Stmt.writes, Stmt.matched, if_true, List.nil_append,
        List.append_nil, List.mem_append, List.mem_singleton] at member
      rcases member with rfl | rfl | updated | rfl
      · rintro ⟨⟩
      · rintro ⟨⟩
      · exact stamped updated fun _ => by rintro ⟨⟩
      · rintro ⟨⟩
  | @refund _ _ _ _ _ _ _ _ _ _ covers _ _ _ _ _ _ cover =>
      simp only [Store.pending_append, Store.pending_cons_ran, Store.pending_nil, Stmt.writes,
        List.nil_append, List.append_nil, List.mem_append, List.mem_singleton] at member
      rcases member with (moved | touched | rfl | rfl) | covered
      · exact stamped moved fun _ => by rintro ⟨⟩
      · exact stamped touched fun _ => by rintro ⟨⟩
      · rintro ⟨⟩
      · rintro ⟨⟩
      · split at cover
        · obtain ⟨res, rfl⟩ := cover
          rw [Store.pending_ran] at covered
          exact stamped covered fun _ => by rintro ⟨⟩
        · rw [cover] at covered
          cases covered
  | refundMoved _ _ _ _ _ =>
      simp only [Store.pending_cons_ran, Store.pending_nil, Stmt.writes, List.append_nil,
        List.mem_append, List.mem_singleton] at member
      rcases member with moved | touched | rfl
      · exact stamped moved fun _ => by rintro ⟨⟩
      · exact stamped touched fun _ => by rintro ⟨⟩
      · rintro ⟨⟩

/-- The commit of a delivery. -/
theorem change_committed {p : PayProc} {record : List PayEntry} {ok : PaySys → PayEvent → Prop}
    (run : PayRun cfg ok events s) (member : p ∈ s.procs) (isRecord : p.slot.record = record)
    (commit : DeliveryCommit p.log record) :
    Change key p (p.log ++ record) (s.db.idempotency.find key)
      ((s.view record).idempotency.find key) := by
  have quiet : (∀ w ∈ payStore.pending record, Key.idempotency key ∉ w.keys) →
      Change key p (p.log ++ record) (s.db.idempotency.find key)
        ((s.view record).idempotency.find key) := by
    intro unwritten
    rw [Sys.view, reservation_left unwritten]
    refine .same fun ownerToken snapshot saw => ?_
    exact (List.mem_append.mp saw).resolve_right (not_finalized unwritten)
  rcases commit with unwritten |
    ⟨request, delivery, entries, owner, delivers, settlement, first, rfl⟩ | ⟨_, unsettled⟩
  · exact quiet (by simp [unwritten])
  · have left : ∀ w ∈ payStore.pending entries, ∀ key, Key.idempotency key ∉ w.keys :=
      fun w mem key isKey => settlement.leaves_reservations w mem
        (idempotencyColumn_locked w key isKey)
    by_cases isKey : delivery.idempotencyKey = key
    · subst isKey
      obtain ⟨reservation, found, isToken, _⟩ :=
        finalized run member delivery.idempotencyKey entries _ _ isRecord
      rw [isRecord] at found
      have reads : (s.view (entries ++ [.ran (.finalizeReservation delivery.idempotencyKey
          delivery.ownerToken delivery.plain) true])).idempotency.find delivery.idempotencyKey =
          (s.db.idempotency.find delivery.idempotencyKey).map (.finalize delivery.plain) := by
        rw [Sys.view, Store.pending_append, Store.applyAll_append, Store.pending_ran]
        refine (idempotencyColumn.read_applyAll _ _ _).trans ?_
        rw [show idempotencyColumn.read _ delivery.idempotencyKey =
          s.db.idempotency.find delivery.idempotencyKey from
          reservation_left fun w mem => left w mem _]
        simp [Column.actAll, idempotencyColumn, actOnIdempotency, Stmt.writes, Stmt.matched]
      rw [reads] at found ⊢
      obtain ⟨row, before, rfl⟩ := Option.map_eq_some_iff.mp found
      rw [before]
      exact .finalized ⟨request, owner, delivers, rfl⟩ isToken first
        (by rw [Finalizes, ← List.append_assoc]; exact Saw.last)
    · refine quiet fun w mem => ?_
      rw [Store.pending_append, Store.pending_ran] at mem
      rcases List.mem_append.mp mem with inside | last
      · exact left w inside key
      · simp only [Stmt.writes, Stmt.matched, if_true, List.mem_singleton] at last
        rw [last]
        simpa [Write.keys] using Ne.symm isKey
  · exact quiet fun w mem isKey => (unsettled w mem).2 (idempotencyColumn_locked w key isKey)

/-- A process that serves no delivery has no statement aimed at the key in its
transaction. -/
theorem record_misses (run : PayRun cfg (ofDeliveries key) events s) {p : PayProc}
    (member : p ∈ s.procs) {request : Request} (owner : Owner p.log request)
    (notDelivery : ¬ IsDelivery request) :
    ∀ w ∈ payStore.pending p.slot.record, Key.idempotency key ∉ w.keys := by
  obtain ⟨request', owner', misses⟩ := Run.witnessed
    (W := fun request _ (st : Stmt) _ => ¬ IsDelivery request → st.aims key = false) (by
      intro events s event pid p request record st res _ meets owner runs notDelivery
      by_contra aims
      have isMover : event.mover = some pid := by
        obtain ⟨env, rfl, _⟩ := runs.result
        rfl
      exact notDelivery (delivery_of_aims meets isMover runs.proc owner runs.executing
        (by simpa using aims))) run p member
  obtain rfl := Owner.unique owner owner'
  intro w pending
  obtain ⟨entry, inRecord, written⟩ := List.mem_flatMap.mp pending
  cases entry with
  | ran st res =>
      obtain ⟨before, after, split⟩ := List.append_of_mem inRecord
      exact unlocked_of_aims (misses before st res after split notDelivery) w written
  | _ => cases written

theorem verified_delivery {ok : PaySys → PayEvent → Prop} (run : PayRun cfg ok events s)
    {p : PayProc} (member : p ∈ s.procs) {request : Request} (owner : Owner p.log request)
    (isDelivery : IsDelivery request) : Verified deliveryContract p :=
  run.verified_of (Q := IsDelivery) (fun _ => delivered_serve cfg) p member request owner isDelivery

/-- What any move does to the reservation of the key. -/
theorem change_moves (run : PayRun cfg (ofDeliveries key) events s) {event : PayEvent} {pid : Nat}
    {p : PayProc} {slot : Slot paySig} {log : List PayEntry} {m : Move payStore}
    (meets : ofDeliveries key s event) (moves : s.Moves event pid p slot log m) :
    Change key p log (s.db.idempotency.find key)
      ((payStore.applyAll s.db m.commits).idempotency.find key) := by
  have member := List.mem_of_getElem? moves.proc
  obtain ⟨request, owner⟩ := run.owned p member
  have acts := moves.acts
  generalize m.commits = commits at acts
  cases acts with
  | calm calm =>
      obtain ⟨_, extra, rfl, quiet⟩ := calm
      refine .same fun ownerToken snapshot saw => ?_
      exact (List.mem_append.mp saw).resolve_right fun new => quiet _ new
  | onTxn _ => exact .same fun _ _ saw => saw
  | @onDb st res runs =>
      obtain ⟨env, isEvent, result⟩ := runs.result
      have isMover : event.mover = some pid := by rw [isEvent]; rfl
      cases aims : st.aims key with
      | true =>
          have isDelivery := delivery_of_aims meets isMover runs.proc owner runs.executing aims
          exact change_pooled result
            (runs.issued (verified_delivery run member owner isDelivery).obligation)
      | false =>
          rw [reservation_left (unlocked_of_aims aims)]
          refine .same fun ownerToken snapshot saw => ?_
          refine (List.mem_append.mp saw).resolve_right fun new => ?_
          cases List.mem_singleton.mp new
          simp [Stmt.aims] at aims
  | @commit record commits =>
      have isRecord : p.slot.record = record := by rw [commits.slot, Slot.record_active]
      by_cases isDelivery : IsDelivery request
      · have verified := verified_delivery run member owner isDelivery
        exact change_committed run member isRecord (commits.committed verified.obligation)
      · have unwritten := record_misses run member owner isDelivery
        rw [isRecord] at unwritten
        rw [reservation_left unwritten]
        refine .same fun ownerToken snapshot saw => ?_
        exact (List.mem_append.mp saw).resolve_right (not_finalized unwritten)

/-- A delivery finds its own reservation unfinished as long as it has finalized
nothing. -/
theorem Inv.unfinished (run : PayRun cfg (ofDeliveries key) events s) (inv : Inv key s) {pid : Nat}
    {p : PayProc} {delivery : Delivery} {row : IdempotencyRow} (proc : s.procs[pid]? = some p)
    (delivering : Delivering key p delivery) (found : s.db.idempotency.find key = some row)
    (owned : row.ownerToken = some delivery.ownerToken) (first : Unfinalized p.log) :
    row.responseSnapshot = none := by
  by_contra finished
  obtain ⟨q, member, delivery', delivering', owned', finalizes⟩ :=
    inv.origin row found (Option.isSome_iff_ne_none.mpr finished)
  obtain ⟨other, atQ⟩ := List.mem_iff_getElem?.mp member
  have same : delivery.ownerToken = delivery'.ownerToken :=
    Option.some.inj (owned.symm.trans owned')
  obtain rfl := alone run proc atQ delivering delivering' same
  obtain rfl : p = q := Option.some.inj (proc.symm.trans atQ)
  exact first _ _ _ finalizes

/-- The owner of a process does not change. -/
theorem Delivering.of_longer {p q : PayProc} {delivery : Delivery} {request : Request}
    (owner : Owner p.log request) (longer : p.log <+: q.log)
    (delivering : Delivering key q delivery) : Delivering key p delivery := by
  obtain ⟨request', owner', delivers, isKey⟩ := delivering
  have same : request' = request := Owner.unique owner' (head_of_longer owner longer)
  exact ⟨request, owner, same ▸ delivers, isKey⟩

theorem Delivering.longer {p q : PayProc} {delivery : Delivery} (longer : p.log <+: q.log)
    (delivering : Delivering key p delivery) : Delivering key q delivery := by
  obtain ⟨request, owner, delivers, isKey⟩ := delivering
  exact ⟨request, head_of_longer owner longer, delivers, isKey⟩

/-! The three ways a change can go, as the process that moved, the others and the
row itself see them. -/

section Changes

variable {p : PayProc} {log : List PayEntry} {old new : Option IdempotencyRow}

theorem Change.own {delivery : Delivery} (change : Change key p log old new)
    (delivering : Delivering key p delivery) (finalizes : Finalizes log delivery)
    (held : Finalizes p.log delivery → ∃ row, old = some row ∧
      row.ownerToken = some delivery.ownerToken ∧ row.responseSnapshot = some delivery.plain) :
    ∃ row, new = some row ∧ row.ownerToken = some delivery.ownerToken ∧
      row.responseSnapshot = some delivery.plain := by
  have before : Quiet key p.log log → Finalizes p.log delivery := by
    intro quiet
    obtain ⟨_, _, _, isKey⟩ := delivering
    rw [Finalizes, isKey] at finalizes ⊢
    exact quiet _ _ finalizes
  cases change with
  | same quiet => exact held (before quiet)
  | unfinished quiet unfinished _ =>
      obtain ⟨row, isOld, _, snapshot⟩ := held (before quiet)
      rw [unfinished row isOld] at snapshot
      cases snapshot
  | finalized delivering' owned _ _ =>
      obtain rfl := delivering.unique delivering'
      exact ⟨_, rfl, owned, rfl⟩

theorem Change.others {row : IdempotencyRow} (change : Change key p log old new)
    (held : old = some row) (finished : row.responseSnapshot.isSome)
    (apart : ∀ delivery, Delivering key p delivery →
      row.ownerToken ≠ some delivery.ownerToken) : new = some row := by
  cases change with
  | same _ => exact held
  | unfinished _ unfinished _ => simp [unfinished row held] at finished
  | finalized delivering owned _ _ =>
      cases held
      exact absurd owned (apart _ delivering)

theorem Change.origin {row : IdempotencyRow} (change : Change key p log old new)
    (isNew : new = some row) (finished : row.responseSnapshot.isSome) :
    old = some row ∨ ∃ delivery, Delivering key p delivery ∧
      row.ownerToken = some delivery.ownerToken ∧ Finalizes log delivery := by
  cases change with
  | same _ => exact Or.inl isNew
  | unfinished _ _ unfinished => simp [unfinished row isNew] at finished
  | finalized delivering owned _ finalizes =>
      cases isNew
      exact Or.inr ⟨_, delivering, owned, finalizes⟩

end Changes

theorem inv_after (run : PayRun cfg (ofDeliveries key) events s) (inv : Inv key s)
    {event : PayEvent} {pid : Nat} {p : PayProc} {slot : Slot paySig} {log : List PayEntry}
    {m : Move payStore} (meets : ofDeliveries key s event)
    (moves : s.Moves event pid p slot log m) : Inv key (s.after pid m) := by
  have member := List.mem_of_getElem? moves.proc
  obtain ⟨request, owner⟩ := run.owned p member
  have change := change_moves run meets moves
  obtain ⟨_, extra, grown, quiet⟩ := moves.settles
  have longer : p.log <+: m.next.1.log := moves.longer
  have stands : m.next.1 ∈ (s.after pid m).procs := by
    have bound : pid < s.procs.length := (List.getElem?_eq_some_iff.mp moves.proc).1
    exact List.mem_append_left _ (List.mem_set bound _)
  refine ⟨?_, ?_⟩
  · intro r atR delivery delivering finalizes
    have own : r.log = m.next.1.log → ∃ row,
        (s.after pid m).db.idempotency.find key = some row ∧
        row.ownerToken = some delivery.ownerToken ∧
        row.responseSnapshot = some delivery.plain := by
      intro isLog
      have was : Delivering key p delivery :=
        Delivering.of_longer owner (by rw [isLog]; exact longer) delivering
      refine change.own was ?_ (inv.holds p member delivery was)
      rw [Finalizes, Saw, isLog, grown] at finalizes
      exact (List.mem_append.mp finalizes).resolve_right fun new => quiet _ new
    rcases Sys.mem_procs_after atR with rfl | ⟨kid, _, rfl⟩ | ⟨other, different, found⟩
    · exact own rfl
    · exact own rfl
    · obtain ⟨row, held, owned, snapshot⟩ :=
        inv.holds r (List.mem_of_getElem? found) delivery delivering finalizes
      refine ⟨row, change.others held (by simp [snapshot]) ?_, owned, snapshot⟩
      intro delivery' delivering' owned'
      have same : delivery.ownerToken = delivery'.ownerToken :=
        Option.some.inj (owned.symm.trans owned')
      exact different (alone run found moves.proc delivering delivering' same)
  · intro row found finished
    rcases change.origin found finished with held | ⟨delivery, delivering, owned, finalizes⟩
    · obtain ⟨q, atQ, delivery, delivering, owned, finalizes⟩ := inv.origin row held finished
      obtain ⟨other, foundQ⟩ := List.mem_iff_getElem?.mp atQ
      by_cases isMover : other = pid
      · subst isMover
        obtain rfl : p = q := Option.some.inj (moves.proc.symm.trans foundQ)
        exact ⟨m.next.1, stands, delivery, delivering.longer longer, owned,
          List.IsPrefix.subset longer finalizes⟩
      · refine ⟨q, ?_, delivery, delivering, owned, finalizes⟩
        refine List.mem_append_left _ (List.mem_iff_getElem?.mpr ⟨other, ?_⟩)
        rw [List.getElem?_set_ne (Ne.symm isMover)]
        exact foundQ
    · refine ⟨m.next.1, stands, delivery, delivering.longer longer, owned, ?_⟩
      rw [Finalizes, Saw, grown]
      exact List.mem_append_left _ finalizes

theorem inv_run (run : PayRun cfg (ofDeliveries key) events s) : Inv key s := by
  induction run with
  | nil => exact ⟨by simp [Sys.initial], fun row found => by cases found⟩
  | snoc run meets stepped inductionHypothesis =>
      rcases Sys.step_cases stepped with ⟨request, _, rfl⟩ | ⟨pid, p, slot, log, m, moves, rfl⟩
      · refine ⟨?_, ?_⟩
        · intro p member delivery delivering finalizes
          rcases List.mem_append.mp member with old | new
          · exact inductionHypothesis.holds p old delivery delivering finalizes
          · rw [List.mem_singleton.mp new] at finalizes
            simp [Finalizes, Saw, Proc.spawn] at finalizes
        · intro row found finished
          obtain ⟨p, member, rest⟩ := inductionHypothesis.origin row found finished
          exact ⟨p, List.mem_append_left _ member, rest⟩
      · exact inv_after run inductionHypothesis meets moves

/-! ## Settlements -/

/-- What a delivery runs on a pooled connection settles nothing. -/
theorem pooled_unsettled {log : List PayEntry} {st : Stmt} {res : st.Res}
    (promise : DeliveryPromise log none st) : ∀ w ∈ st.writes res, w.settles = false := by
  intro w member
  have isTable := Stmt.writes_table member
  have reserves : w.table = .idempotency → w.settles = false := by
    intro isReservation
    cases w <;> first | rfl | cases isReservation
  cases st with
  | reserve | dropReservation | finalizeReservation => exact reserves (Option.some.inj isTable.symm)
  | saveSnapshot | clearReservation | purgeIdempotency => exact absurd promise id
  | insertCallback row =>
      rw [List.mem_singleton.mp member]
      rfl
  | lockAttempt | findRefund => cases isTable
  | casPayment =>
      obtain ⟨_, pooled, _⟩ := promise
      cases pooled
  | _ =>
      rcases promise rfl with reads | ⟨paymentNo, issued⟩
      · rw [reads] at isTable
        cases isTable
      · cases issued

/-- A delivery commits a settlement with its reservation finalized, or none. -/
theorem committed_finalizes {log record : List PayEntry} {request : Request} {delivery : Delivery}
    (commit : DeliveryCommit log record) (owner : Owner log request)
    (delivers : Delivers request delivery) (settling : Settling record) :
    Finalizes record delivery ∧ Unfinalized log := by
  obtain ⟨w, written, settles⟩ := settling
  rcases commit with unwritten |
    ⟨request', delivery', entries, owner', delivers', _, first, rfl⟩ | ⟨_, unsettled⟩
  · rw [unwritten] at written
    cases written
  · obtain rfl := Owner.unique owner owner'
    obtain rfl := delivers.unique delivers'
    exact ⟨Saw.last, first⟩
  · rw [(unsettled w written).1] at settles
    cases settles

/-- A delivery that has settled has finalized its reservation. -/
theorem settled_finalizes {ok : PaySys → PayEvent → Prop} (run : PayRun cfg ok events s) :
    ∀ p ∈ s.procs, ∃ request, Owner p.log request ∧ ∀ delivery, Delivers request delivery →
      Settling p.log → Finalizes p.log delivery := by
  have grows : ∀ {log more : List PayEntry} {request : Request},
      (Owner log request ∧ ∀ delivery, Delivers request delivery → Settling log →
        Finalizes log delivery) →
      (∀ delivery, Delivers request delivery → Settling more → Finalizes more delivery) →
      ∃ request, Owner (log ++ more) request ∧ ∀ delivery, Delivers request delivery →
        Settling (log ++ more) → Finalizes (log ++ more) delivery := by
    rintro log more request ⟨owner, known⟩ new
    refine ⟨request, owner.append more, ?_⟩
    rintro delivery delivers ⟨w, written, settles⟩
    rw [Store.pending_append] at written
    rcases List.mem_append.mp written with old | added
    · exact List.mem_append_left _ (known delivery delivers ⟨w, old, settles⟩)
    · exact List.mem_append_right _ (new delivery delivers ⟨w, added, settles⟩)
  have calmly : ∀ {more : List PayEntry}, (∀ entry ∈ more, entry.Quiet) → ¬ Settling more := by
    rintro more quiet ⟨w, written, _⟩
    obtain ⟨entry, inMore, isWrite⟩ := List.mem_flatMap.mp written
    cases entry with
    | ran st res => exact quiet _ inMore
    | _ => cases isWrite
  induction run with
  | nil => simp [Sys.initial]
  | @snoc _ event s s' run meets stepped inductionHypothesis =>
      rcases Sys.step_cases stepped with ⟨request, _, rfl⟩ | ⟨pid, p, slot, log, m, moves, rfl⟩
      · intro p member
        rcases List.mem_append.mp member with old | new
        · exact inductionHypothesis p old
        · rw [List.mem_singleton.mp new]
          exact ⟨request, rfl, fun delivery _ settling =>
            absurd settling (calmly (by simp [Proc.spawn, Entry.Quiet]))⟩
      · have member := List.mem_of_getElem? moves.proc
        obtain ⟨request, owner, known⟩ := inductionHypothesis p member
        have obligation : ∀ {delivery}, Delivers request delivery →
            deliveryContract.Obligation p := fun delivers =>
          (verified_delivery run member owner delivers.isDelivery).obligation
        refine Sys.forall_after (P := fun _ log => ∃ request, Owner log request ∧
          ∀ delivery, Delivers request delivery → Settling log → Finalizes log delivery) moves ?_ ?_
          fun other r _ found => inductionHypothesis r (List.mem_of_getElem? found)
        · rintro slot log slot' log' ⟨_, extra, rfl, quiet⟩ ⟨request, known⟩
          exact grows known fun _ _ settling => absurd settling (calmly quiet)
        · have acts := moves.acts
          generalize m.commits = commits at acts
          cases acts with
          | calm calm =>
              obtain ⟨_, extra, rfl, quiet⟩ := calm
              exact grows ⟨owner, known⟩ fun _ _ settling => absurd settling (calmly quiet)
          | onTxn _ => exact ⟨request, owner, known⟩
          | @onDb st res runs =>
              refine grows ⟨owner, known⟩ ?_
              rintro delivery delivers ⟨w, written, settles⟩
              rw [Store.pending_ran] at written
              rw [pooled_unsettled (runs.issued (obligation delivers)) w written] at settles
              cases settles
          | commit commits =>
              exact grows ⟨owner, known⟩ fun delivery delivers settling =>
                (committed_finalizes (commits.committed (obligation delivers)) owner delivers
                  settling).1

/-- A finalized reservation stays, a settlement is committed only by the holder
of the reservation and together with its snapshot, and only one delivery ever
settles under the key. -/
theorem reservation_owned {event : PayEvent} {s' : PaySys}
    (run : PayRun cfg (ofDeliveries key) events s) (meets : ofDeliveries key s event)
    (stepped : s.step (serve cfg) event = some s') : ReservationOwned key s event s' := by
  have inv := inv_run run
  have run' := run.snoc meets stepped
  refine ⟨fun row found finished => ?_, ?_, ?_⟩
  · rcases Sys.step_cases stepped with ⟨request, _, rfl⟩ | ⟨pid, p, slot, log, m, moves, rfl⟩
    · exact found
    · have change := change_moves run meets moves
      rw [found] at change
      generalize isNew : (payStore.applyAll s.db m.commits).idempotency.find key = new at change
      refine isNew.trans ?_
      cases change with
      | same _ => rfl
      | unfinished _ unfinished _ => simp [unfinished row rfl] at finished
      | finalized delivering owned first _ =>
          rw [inv.unfinished run moves.proc delivering found owned first] at finished
          cases finished
  · rintro pid p record delivery commits settling ⟨request, owner, delivers, isKey⟩
    have member := List.mem_of_getElem? commits.proc
    have isRecord : p.slot.record = record := by rw [commits.slot, Slot.record_active]
    have commit := commits.committed
      (verified_delivery run member owner delivers.isDelivery).obligation
    obtain ⟨finalizes, first⟩ := committed_finalizes commit owner delivers settling
    have noisy : ¬ Quiet key p.log (p.log ++ record) := by
      intro quiet
      rw [Finalizes, isKey] at finalizes
      exact first _ _ _ (quiet _ _ (List.mem_append_right _ finalizes))
    have change : Change key p (p.log ++ record) (s.db.idempotency.find key)
        ((s.view record).idempotency.find key) := change_committed run member isRecord commit
    rw [Db.snapshot, commits.visible stepped]
    generalize isOld : s.db.idempotency.find key = old at change
    generalize (s.view record).idempotency.find key = new at change
    cases change with
    | same quiet => exact absurd quiet noisy
    | unfinished quiet _ _ => exact absurd quiet noisy
    | @finalized delivery' row delivering owned _ _ =>
        obtain rfl := delivering.unique ⟨request, owner, delivers, isKey⟩
        refine ⟨⟨row, rfl, owned, ?_⟩, rfl⟩
        exact inv.unfinished run commits.proc delivering isOld owned first
  · intro i j p q delivery delivery' atP atQ delivering delivering' settledP settledQ
    have held : ∀ {r : PayProc} {delivery : Delivery}, r ∈ s'.procs → Delivering key r delivery →
        Settling r.log → ∃ row, s'.db.idempotency.find key = some row ∧
          row.ownerToken = some delivery.ownerToken := by
      rintro r delivery member ⟨request, owner, delivers, isKey⟩ settled
      obtain ⟨request', owner', known⟩ := settled_finalizes run' r member
      obtain rfl := Owner.unique owner owner'
      obtain ⟨row, found, owned, _⟩ := (inv_run run').holds r member delivery
        ⟨request, owner, delivers, isKey⟩ (known delivery delivers settled)
      exact ⟨row, found, owned⟩
    obtain ⟨row, found, owned⟩ := held (List.mem_of_getElem? atP) delivering settledP
    obtain ⟨row', found', owned'⟩ := held (List.mem_of_getElem? atQ) delivering' settledQ
    obtain rfl : row = row' := Option.some.inj (found.symm.trans found')
    exact alone run' atP atQ delivering delivering' (Option.some.inj (owned.symm.trans owned'))

end World

/-! ## A run -/

/-- Three deliveries of one notification: the first reserves the key and starts
its transaction, the second drops the reservation, and the third takes it over
and finalizes it. -/
def takenOver : List PayEvent :=
  [.spawn (.createPayment tenYuanOnWechat [] (drawn "p") 0)] ++ steps 0 4 1 ++
    [.spawn (.paymentNotification paidNotice (drawn "k1"))] ++ steps 1 3 2 ++
    [.spawn (.paymentNotification paidNotice (drawn "k2"))] ++ steps 2 2 3 ++
    [.spawn (.paymentNotification paidNotice (drawn "k3"))] ++ steps 3 10 4

theorem reservation_owned_taken_over :
    ∃ s s', PayRun shop (ofDeliveries (ascii "N1")) takenOver s ∧
      ofDeliveries (ascii "N1") s (.exec 3 ⟨4, fun _ => 0⟩) ∧
      s.step (serve shop) (.exec 3 ⟨4, fun _ => 0⟩) = some s' ∧
      paymentIs s'.db "#p" .SUCCESS ∧
      ReservationOwned (ascii "N1") s (.exec 3 ⟨4, fun _ => 0⟩) s' := by
  obtain ⟨s, run, holds⟩ := replay_run
    (fun s event => leftToDeliveries (ascii "N1") s event && freshToken s event) takenOver
    (fun s => leftToDeliveries (ascii "N1") s (.exec 3 ⟨4, fun _ => 0⟩) &&
      freshToken s (.exec 3 ⟨4, fun _ => 0⟩) &&
      (s.step (serve shop) (.exec 3 ⟨4, fun _ => 0⟩)).any fun s' => paymentIs s'.db "#p" .SUCCESS)
    (by decide +kernel)
  simp only [Bool.and_eq_true, Option.any_eq_true] at holds
  obtain ⟨meets, s', stepped, paid⟩ := holds
  have inWorld : PayRun shop (ofDeliveries (ascii "N1")) takenOver s :=
    run.mono fun _ _ passes => by simpa [ofDeliveries] using passes
  exact ⟨s, s', inWorld, meets, stepped, paid, reservation_owned inWorld meets stepped⟩

end CallbackService
end DrogonPay
