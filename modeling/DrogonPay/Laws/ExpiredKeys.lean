import DrogonPay.Laws.Settled
import DrogonPay.ReadCommitted.Amid

/-!
Contract: what a check of an idempotency key returns once the row of the key has
expired.

Owns:
- `Meanwhile`, what becomes of the database while nobody works on the key:
  anything in the other rows, and purges;
- `FreeAgain`, the promise: the next check returns `Started`;
- `free_again_iff`: the promise holds exactly for the empty key and for a key
  whose row a purge has deleted.

Does not own: the holder of a key; it is no longer running.
-/

namespace DrogonPay

open ReadCommitted IdempotencyService

/-- Others leave the key alone, but for purges at times past `expiry`; their
number comes first. -/
inductive Meanwhile (key : Bytes) (expiry : Nat) : Nat → Db → Db → Prop where
  | other {db db' : Db} (same : db'.idempotency.find key = db.idempotency.find key) :
      Meanwhile key expiry 0 db db'
  | purge {purges : Nat} {db mid db' : Db} {env : Env} {keys : List Bytes}
      (before : Meanwhile key expiry purges db mid) (late : expiry < env.now)
      (ran : Stmt.purgeIdempotency.run mid env = some keys)
      (same : db'.idempotency.find key =
        (payStore.applyAll mid (Stmt.purgeIdempotency.writes keys)).idempotency.find key) :
      Meanwhile key expiry (purges + 1) db db'

/-- The results of a check as reports. -/
def told : CheckResult → Reply
  | .Started => ⟨Json.text "Started", none⟩
  | .Replay cachedResult => ⟨Json.object [("Replay", cachedResult)], none⟩
  | .InProgress => ⟨Json.text "InProgress", none⟩
  | .Conflict => ⟨Json.text "Conflict", none⟩
  | .Error => ⟨Json.text "Error", none⟩

def tell (result : CheckResult) : PayProg := .reply (told result) .done

/-- A check of the key returns this result, with others between its statements
and clocks past `expiry`. -/
def CheckReturns (cfg : Config) (key requestHash : Bytes) (expiry : Nat) (db : Db)
    (result : CheckResult) : Prop :=
  Ends (S := payStore) (fun db db' => ∃ purges, Meanwhile key expiry purges db db')
    (fun env => expiry < env.now) db (checkAndSetStatus cfg key requestHash tell) (told result)

/-- The next check returns, and it returns `Started`. -/
structure FreeAgain (cfg : Config) (key requestHash : Bytes) (expiry : Nat) (db : Db) : Prop where
  returns : ∃ result, CheckReturns cfg key requestHash expiry db result
  started : ∀ result, CheckReturns cfg key requestHash expiry db result → result = .Started

/-! ## The row of the key -/

section Row

variable {key : Bytes} {expiry : Nat} {purges more : Nat} {db mid db' : Db} {row : IdempotencyRow}

/-- A purge past `expiry` deletes the row of the key, if it is there. -/
theorem find_of_purge {env : Env} {keys : List Bytes} (late : expiry < env.now)
    (ran : Stmt.purgeIdempotency.run db env = some keys)
    (expired : ∀ row, db.idempotency.find key = some row → row.expireAt = some expiry) :
    (payStore.applyAll db (Stmt.purgeIdempotency.writes keys)).idempotency.find key = none := by
  have deleted := find_deleteAll keys db key
  rw [Stmt.writes, deleted]
  split
  · rfl
  · rename_i spared
    cases found : db.idempotency.find key with
    | none => rfl
    | some row =>
        obtain ⟨member, isKey⟩ := Table.find_eq_some_iff.mp found
        have gone : key ∈ keys := by
          rw [← Option.some.inj ran, ← isKey]
          refine List.mem_map.mpr ⟨row, List.mem_filter.mpr ⟨member, ?_⟩, rfl⟩
          simp [expired row found, late]
        exact absurd gone spared

/-- A row that is gone stays away. -/
theorem Meanwhile.find_none (meanwhile : Meanwhile key expiry purges db db')
    (gone : db.idempotency.find key = none) : db'.idempotency.find key = none := by
  induction meanwhile with
  | other same => rw [same, gone]
  | purge _ late ran same inductionHypothesis =>
      have absent := inductionHypothesis gone
      rw [same, find_of_purge late ran fun row found => absurd found (by rw [absent]; nofun)]

/-- An expired row is there until the first purge. -/
theorem Meanwhile.find_some (meanwhile : Meanwhile key expiry purges db db')
    (found : db.idempotency.find key = some row) (expires : row.expireAt = some expiry) :
    db'.idempotency.find key = if purges = 0 then some row else none := by
  induction meanwhile with
  | other same => rw [same, found, if_pos rfl]
  | @purge purges _ mid _ _ _ _ late ran same inductionHypothesis =>
      have known := inductionHypothesis found
      rw [same, if_neg (Nat.succ_ne_zero purges), find_of_purge late ran]
      intro other foundOther
      rw [known] at foundOther
      split at foundOther
      · cases foundOther
        exact expires
      · cases foundOther

theorem Meanwhile.trans (first : Meanwhile key expiry purges db mid)
    (second : Meanwhile key expiry more mid db') :
    ∃ total, Meanwhile key expiry total db db' := by
  induction second with
  | other same =>
      cases first with
      | other same' => exact ⟨0, .other (same.trans same')⟩
      | purge before late ran same' => exact ⟨_, .purge before late ran (same.trans same')⟩
  | purge _ late ran same inductionHypothesis =>
      obtain ⟨total, before⟩ := inductionHypothesis first
      exact ⟨total + 1, .purge before late ran same⟩

end Row

/-! ## The check -/

theorem told_injective {left right : CheckResult} (same : told left = told right) :
    left = right := by
  cases left <;> cases right <;> simp_all [told, Json.text, Json.object, ascii]

section Check

variable {cfg : Config} {key requestHash : Bytes} {expiry : Nat} {db : Db}

theorem returns_of_empty {result : CheckResult} :
    CheckReturns cfg [] requestHash expiry db result ↔ result = .Started := by
  have reports : checkAndSetStatus cfg [] requestHash tell = .reply (told .Started) .done := rfl
  rw [CheckReturns, reports, ends_reply]
  exact ⟨fun same => (told_injective same).symm, fun isStarted => by rw [isStarted]⟩

/-- Over a row that is gone a check returns `Started` and nothing else. -/
theorem returns_of_gone (gone : db.idempotency.find key = none) {result : CheckResult} :
    CheckReturns cfg key requestHash expiry db result ↔ result = .Started := by
  by_cases empty : key = []
  · rw [empty]
    exact returns_of_empty
  · have nonempty : key.isEmpty = false := by simpa using empty
    simp only [CheckReturns, checkAndSetStatus, checkDatabase, nonempty, Bool.false_eq_true,
      if_false]
    rw [ends_sql]
    constructor
    · rintro ⟨db', env, res, ⟨purges, meanwhile⟩, -, runs, later⟩
      have stillGone := meanwhile.find_none gone
      cases runs
      simp only [stillGone, Option.isNone_none, if_true] at later
      exact (told_injective (ends_reply.mp later)).symm
    · rintro rfl
      refine ⟨db, ⟨expiry + 1, fun _ => 0⟩, some (expiry + 1), ⟨0, .other rfl⟩,
        Nat.lt_succ_self expiry, ?_, ends_reply.mpr rfl⟩
      simp [Stmt.run, gone]

/-- Over an expired row a check returns `Error`. -/
theorem returns_error (nonempty : key ≠ []) {row : IdempotencyRow}
    (found : db.idempotency.find key = some row) (expires : row.expireAt = some expiry) :
    CheckReturns cfg key requestHash expiry db .Error := by
  have isKey : key.isEmpty = false := by simpa using nonempty
  simp only [CheckReturns, checkAndSetStatus, checkDatabase, isKey, Bool.false_eq_true, if_false]
  rw [ends_sql]
  refine ⟨db, ⟨expiry + 1, fun _ => 0⟩, none, ⟨0, .other rfl⟩, Nat.lt_succ_self expiry, ?_, ?_⟩
  · simp [Stmt.run, found]
  · -- the row that stood in the way is not read
    refine ends_sql.mpr ⟨db, ⟨expiry + 1, fun _ => 0⟩, none, ⟨0, .other rfl⟩,
      Nat.lt_succ_self expiry, ?_, ends_reply.mpr rfl⟩
    simp [Stmt.run, found, Option.filter, expires]

end Check

/-- What a check reports in a run of any system is what it returns here, when the
steps of the others leave the key alone and nothing fails. -/
theorem returns_of_run {cfg : Config} {key requestHash : Bytes} {expiry pid : Nat}
    {entry : Request → PayProg} {ok : PaySys → PayEvent → Prop} {start s : PaySys}
    {events : List PayEvent} (run : Run entry ok start events s)
    (apart : ∀ {s s' : PaySys} {event : PayEvent}, ok s event → event.mover ≠ some pid →
      s.step entry event = some s' → ∃ purges, Meanwhile key expiry purges s.db s'.db)
    (clocks : ∀ {s : PaySys} {env : Env}, ok s (.exec pid env) → expiry < env.now)
    {request : Request}
    (begins : start.procs[pid]? =
      some ((checkAndSetStatus cfg key requestHash tell).begun [.spawned request]))
    (clean : s.Clean) {p : PayProc} (proc : s.procs[pid]? = some p) {result : CheckResult}
    (reported : .replied (told result) ∈ p.log) :
    CheckReturns cfg key requestHash expiry start.db result := by
  have pooled : (checkAndSetStatus cfg key requestHash tell).Pooled := by
    unfold checkAndSetStatus checkDatabase
    split
    · trivial
    · intro res
      match res with
      | none => trivial
      | some (some _) => trivial
      | some none =>
          intro res
          match res with
          | none => trivial
          | some none => trivial
          | some (some row) =>
              show (readReservation requestHash row tell).Pooled
              unfold readReservation
              split
              · split
                · trivial
                · cases Json.at? _ (ascii "response") with
                  | none => trivial
                  | some response =>
                      simp only [orThrow]
                      split <;> trivial
              · trivial
  exact run.ends (fun db => ⟨0, .other rfl⟩)
    (fun _ _ _ ⟨_, first⟩ ⟨_, second⟩ => first.trans second) apart clocks pooled (by simp) begins
    clean proc reported

/-! ## The promise -/

/-- A key with an expired row is free again exactly when it is empty or a purge
has come by. -/
theorem free_again_iff (cfg : Config) {key requestHash : Bytes} {db db' : Db}
    {row : IdempotencyRow} {expiry purges : Nat} (found : db.idempotency.find key = some row)
    (expires : row.expireAt = some expiry) (meanwhile : Meanwhile key expiry purges db db') :
    FreeAgain cfg key requestHash expiry db' ↔ key = [] ∨ 0 < purges := by
  have now := meanwhile.find_some found expires
  constructor
  · intro free
    by_contra neither
    rw [not_or, Nat.not_lt, Nat.le_zero] at neither
    rw [if_pos neither.2] at now
    cases free.started .Error (returns_error neither.1 now expires)
  · rintro (rfl | purged)
    · exact ⟨⟨.Started, returns_of_empty.mpr rfl⟩, fun result => returns_of_empty.mp⟩
    · rw [if_neg (by omega)] at now
      exact ⟨⟨.Started, (returns_of_gone now).mpr rfl⟩, fun result => (returns_of_gone now).mp⟩

/-! A key that expires at 100. -/

def lapsed : IdempotencyRow := ⟨ascii "K", ascii "h", none, some 100, none⟩

def lapsedDb : Db := payStore.applyAll Db.empty [.insertIdempotency lapsed]

theorem lapsed_found : lapsedDb.idempotency.find (ascii "K") = some lapsed := rfl

/-- What the database is after a purge at 101. -/
def purgedDb : Db := payStore.applyAll lapsedDb (Stmt.purgeIdempotency.writes [ascii "K"])

theorem lapsed_purged : Meanwhile (ascii "K") 100 1 lapsedDb purgedDb :=
  have purges : Stmt.purgeIdempotency.run lapsedDb ⟨101, fun _ => 0⟩ =
      some [ascii "K"] := rfl
  .purge (.other rfl) (by decide) purges rfl

theorem free_again_iff_purged :
    FreeAgain shop (ascii "K") (ascii "h") 100 purgedDb ↔ ascii "K" = [] ∨ 0 < 1 :=
  free_again_iff shop lapsed_found rfl lapsed_purged

/-- A create under the key of another one whose time is over. -/
def againUnderKey : List PayEvent :=
  [.spawn (.createPayment tenYuan (ascii "K") (drawn "p") 0)] ++ steps 0 5 1 ++
    [.spawn (.createPayment tenYuan (ascii "K") (drawn "q") 90000)] ++ steps 1 2 90000

/-- The second create was refused because its key could not be checked. -/
def refusedCheck (s : PaySys) : Bool :=
  s.procs[1]?.any fun p => p.log.any fun
    | .replied reply => reply.error = some (.pay 1003)
    | _ => false

theorem expired_key_not_free :
    (¬ ∀ (cfg : Config) (key requestHash : Bytes) (db db' : Db) (row : IdempotencyRow)
      (expiry purges : Nat), db.idempotency.find key = some row → row.expireAt = some expiry →
        Meanwhile key expiry purges db db' → FreeAgain cfg key requestHash expiry db') ∧
    ∃ s, PayRun shop (fun _ _ => True) againUnderKey s ∧ refusedCheck s = true := by
  constructor
  · intro claim
    have free := claim shop (ascii "K") (ascii "h") lapsedDb lapsedDb lapsed 100 0 rfl rfl
      (.other rfl)
    cases free.started .Error (returns_error (by decide) lapsed_found rfl)
  · obtain ⟨s, run, refused⟩ := replay_run (fun _ _ => true) againUnderKey refusedCheck
      (by decide +kernel)
    exact ⟨s, run.mono fun _ _ _ => trivial, refused⟩

end DrogonPay
