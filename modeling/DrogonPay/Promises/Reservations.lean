import DrogonPay.Model.Effects
import DrogonPay.ReadCommitted.May
import DrogonPay.Services.Payment

/-!
Contract: what the reservations of the request paths add to what a program may
do.

Owns: one rule for each step of `IdempotencyService`: when the statements looked
for are on other tables, only the callback counts.

Does not own: the programs behind the callbacks.
-/

namespace DrogonPay

open ReadCommitted

variable {hears : ChannelCall → ChannelAnswer → Prop} {ran : (st : Stmt) → st.Res → Prop}
  {issues : Stmt → Prop} {reports : Reply → Prop}

theorem may_answer {body : Json} {error : Option ErrorCode} :
    (answer body error).May (σ := paySig) hears ran issues reports ↔ reports ⟨body, error⟩ := by
  simp [answer]

theorem may_orThrow {α : Type} {value : Option α} {next : α → PayProg} :
    (orThrow value next).May (σ := paySig) hears ran issues reports ↔
      ∃ a, value = some a ∧ (next a).May hears ran issues reports := by
  cases value <;> simp [orThrow]

/-- The statements are on other tables than the idempotency keys. -/
def SparesKeys (issues : Stmt → Prop) : Prop := ∀ st : Stmt, st.table = some .idempotency → ¬ issues st

theorem may_clearReservation (spares : SparesKeys issues) {key hash : Bytes}
    {callback : Bool → PayProg} {P : Prop}
    (continues : ∀ cleared, (callback cleared).May hears ran issues reports ↔ P) :
    (IdempotencyService.clearReservation key hash callback).May hears ran issues reports ↔ P := by
  unfold IdempotencyService.clearReservation
  split
  · exact continues false
  · exact may_sql_other (spares _ rfl) (continues false) fun res => (continues true).mp

theorem may_storeThenAnswer (spares : SparesKeys issues) {key hash : Bytes} {reply : Reply} :
    (IdempotencyService.storeThenAnswer key hash reply).May hears ran issues reports ↔
      reports reply := by
  have failed : (IdempotencyService.clearReservation key hash fun _ =>
      answer reply.body reply.error).May hears ran issues reports ↔ reports reply :=
    may_clearReservation spares fun _ => may_answer
  refine may_sql_other (spares _ rfl) failed fun res => ?_
  cases res with
  | true => exact may_answer.mp
  | false => exact failed.mp

/-- Of a check that is passed only the request's own program remains. It is passed
without a key, or when the key can be reserved. -/
theorem may_checkDatabase (spares : SparesKeys issues) {cfg : Config} {key hash : Bytes}
    {callback : IdempotencyService.CheckResult → PayProg}
    (sparesRead : ¬ issues (.findLiveIdempotency key))
    (refused : ∀ result, result ≠ .Started → ¬ (callback result).May hears ran issues reports) :
    (IdempotencyService.checkDatabase cfg key hash callback).May hears ran issues reports ↔
      (key = [] ∨ ∃ now, ran (.reserve key hash none cfg.ttlSeconds) (some now)) ∧
        (callback .Started).May hears ran issues reports := by
  have error := refused .Error (by simp)
  have inProgress := refused .InProgress (by simp)
  have conflict := refused .Conflict (by simp)
  have unread : ∀ row, ¬ (IdempotencyService.readReservation hash row callback).May hears ran issues
      reports := by
    intro row
    unfold IdempotencyService.readReservation orThrow
    split
    · split
      · exact inProgress
      · split
        · simp only
          split
          · exact inProgress
          · exact refused _ (by simp)
        · exact id
    · exact conflict
  unfold IdempotencyService.checkDatabase
  split
  · next isEmpty => simp [List.isEmpty_iff.mp isEmpty]
  · next keyed =>
    have named : key ≠ [] := fun isNil => keyed (by simp [isNil])
    rw [may_sql, or_iff_right named]
    constructor
    · rintro (issued | failed | ⟨res, reserves, later⟩)
      · exact absurd issued (spares _ rfl)
      · exact absurd failed error
      · cases res with
        | some stamp => exact ⟨⟨stamp, reserves⟩, later⟩
        | none =>
            rcases later with issued | failed | ⟨found, -, later⟩
            · exact absurd issued sparesRead
            · exact absurd failed error
            · cases found with
              | none => exact absurd later error
              | some row => exact absurd later (unread row)
    · rintro ⟨⟨stamp, reserves⟩, started⟩
      exact Or.inr (Or.inr ⟨some stamp, reserves, started⟩)

end DrogonPay
