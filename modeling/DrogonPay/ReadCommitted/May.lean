import DrogonPay.ReadCommitted.Program

/-!
Contract: what a program can do at all.

Owns: `Prog.May`, "some run of this program, or of one it forks, issues such a
statement or gives such a report", where the outside and the database are limited
to the answers they are allowed to give.

Does not own: when the run does it; transactions and the database are not looked
at.
-/

namespace DrogonPay.ReadCommitted

variable {σ : Sig}

/-- Some run of the program issues a statement of the kind `issues` or gives a
report of the kind `reports`, when a call `x` is answered `a` only if
`heard x a`, and a statement `st` that runs is answered `res` only if
`ran st res`. -/
def Prog.May (heard : σ.Ext → σ.Ans → Prop) (ran : (st : σ.Stmt) → σ.Res st → Prop)
    (issues : σ.Stmt → Prop) (reports : σ.Out → Prop) : Prog σ → Prop
  | .done => False
  | .sql _ st k =>
      issues st ∨ (k none).May heard ran issues reports ∨
        ∃ res, ran st res ∧ (k (some res)).May heard ran issues reports
  | .call x k => ∃ a, heard x a ∧ (k a).May heard ran issues reports
  | .start k => ∃ began, (k began).May heard ran issues reports
  | .commit k => ∃ committed, (k committed).May heard ran issues reports
  | .rollback next => next.May heard ran issues reports
  | .reply out next => reports out ∨ next.May heard ran issues reports
  | .both first second =>
      first.May heard ran issues reports ∨ second.May heard ran issues reports
  | .fork child next => child.May heard ran issues reports ∨ next.May heard ran issues reports

section Rules

variable {heard : σ.Ext → σ.Ans → Prop} {ran : (st : σ.Stmt) → σ.Res st → Prop}
  {issues : σ.Stmt → Prop} {reports : σ.Out → Prop}

@[simp] theorem may_done : (Prog.done : Prog σ).May heard ran issues reports ↔ False := Iff.rfl

theorem may_sql {on : Target} {st : σ.Stmt} {k : Option (σ.Res st) → Prog σ} :
    (Prog.sql on st k).May heard ran issues reports ↔
      issues st ∨ (k none).May heard ran issues reports ∨
        ∃ res, ran st res ∧ (k (some res)).May heard ran issues reports := Iff.rfl

theorem may_call {x : σ.Ext} {k : σ.Ans → Prog σ} :
    (Prog.call x k).May heard ran issues reports ↔
      ∃ a, heard x a ∧ (k a).May heard ran issues reports := Iff.rfl

@[simp] theorem may_reply {out : σ.Out} {next : Prog σ} :
    (Prog.reply out next).May heard ran issues reports ↔
      reports out ∨ next.May heard ran issues reports := Iff.rfl

/-- A statement that is not of the kind is passed over, when nothing that
follows it depends on what it answers. -/
theorem may_sql_other {on : Target} {st : σ.Stmt} {k : Option (σ.Res st) → Prog σ} {P : Prop}
    (other : ¬ issues st) (failed : (k none).May heard ran issues reports ↔ P)
    (answered : ∀ res, (k (some res)).May heard ran issues reports → P) :
    (Prog.sql on st k).May heard ran issues reports ↔ P := by
  rw [may_sql, failed]
  constructor
  · rintro (issued | holds | ⟨res, _, later⟩)
    · exact absurd issued other
    · exact holds
    · exact answered res later
  · exact fun holds => Or.inr (Or.inl holds)

/-- A program that may do nothing of the kind, shape by shape. -/
theorem not_may_sql {on : Target} {st : σ.Stmt} {k : Option (σ.Res st) → Prog σ}
    (other : ¬ issues st) (rest : ∀ res, ¬ (k res).May heard ran issues reports) :
    ¬ (Prog.sql on st k).May heard ran issues reports := by
  rintro (issued | failed | ⟨res, -, later⟩)
  · exact other issued
  · exact rest none failed
  · exact rest (some res) later

theorem not_may_call {x : σ.Ext} {k : σ.Ans → Prog σ}
    (rest : ∀ a, ¬ (k a).May heard ran issues reports) :
    ¬ (Prog.call x k).May heard ran issues reports := by
  rintro ⟨a, -, later⟩
  exact rest a later

end Rules

end DrogonPay.ReadCommitted
