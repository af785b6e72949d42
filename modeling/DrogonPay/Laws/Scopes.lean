import DrogonPay.Handlers.AuthCheck

/-!
Contract: which spellings of a scoped route are checked for its scope.

Owns:
- the scoped routes with their documented scopes, and `Dispatched`, the paths the
  router takes for them: letter case does not count there;
- `enforced_iff`: a dispatched path is checked for the scope of its route exactly
  when it is spelled as it was registered.

Does not own: the router, which is not part of the source. A preflight is answered
without work and is not checked.
-/

namespace DrogonPay.AuthCheck

/-- The routes that have a scope. -/
inductive Route where
  | orderQuery
  | refund
  | refundQuery
  | reconcile
deriving DecidableEq

namespace Route

/-- The path `PayPlugin` registers, relative to the base path. -/
def suffix : Route → Bytes
  | orderQuery => ascii "/query"
  | refund => ascii "/refund"
  | refundQuery => ascii "/refund/query"
  | reconcile => ascii "/reconcile/summary"

/-- The scope documented for the route. -/
def scope : Route → Bytes
  | orderQuery => ascii "order_query"
  | refund => ascii "refund"
  | refundQuery => ascii "refund_query"
  | reconcile => ascii "reconcile"

end Route

def lower (b : UInt8) : UInt8 := if 65 ≤ b ∧ b ≤ 90 then b + 32 else b

/-- The router takes the path for the route. -/
def Dispatched (basePath : Bytes) (route : Route) (path : Bytes) : Prop :=
  path.map lower = (basePath ++ route.suffix).map lower

/-- Whoever passes the check on this path has been granted the scope of the
route. -/
def Enforced (basePath : Bytes) (route : Route) (path : Bytes) : Prop :=
  ∀ (settings : Settings) (req : HttpRequest), req.path = path → req.isOptions = false →
    checkAuth settings req basePath = .passed →
    checkScope settings.customConfig (extractApiKey req) route.scope = some true

/-- The path is spelled as it was registered; of the reconcile route only the part
that is tested. -/
def AsRegistered (basePath : Bytes) (route : Route) (path : Bytes) : Prop :=
  match route with
  | .reconcile => ∃ rest, path = basePath ++ ascii "/reconcile" ++ rest
  | route => path = basePath ++ route.suffix

theorem isPrefixOf_eq_of_length {front text : Bytes} (isPrefix : front.isPrefixOf text = true)
    (length : text.length = front.length) : text = front :=
  ((List.isPrefixOf_iff_prefix.mp isPrefix).eq_of_length length.symm).symm

/-- What is left of a dispatched path behind the base path resolves to the scope
of the route if it is spelled as registered. -/
theorem relativeScope_iff {route : Route} {rel : Bytes} (length : rel.length = route.suffix.length) :
    relativeScope rel = route.scope ↔ AsRegistered [] route rel := by
  unfold relativeScope AsRegistered
  cases route with
  | orderQuery =>
      constructor
      · intro resolved
        split at resolved
        · exact absurd resolved (by decide)
        · split at resolved
          · exact absurd resolved (by decide)
          · split at resolved
            · next isPrefix => exact isPrefixOf_eq_of_length isPrefix length
            · split at resolved <;> exact absurd resolved (by decide)
      · rintro rfl
        rfl
  | refund =>
      constructor
      · intro resolved
        split at resolved
        · exact absurd resolved (by decide)
        · split at resolved
          · next isPrefix => exact isPrefixOf_eq_of_length isPrefix length
          · split at resolved
            · exact absurd resolved (by decide)
            · split at resolved <;> exact absurd resolved (by decide)
      · rintro rfl
        rfl
  | refundQuery =>
      constructor
      · intro resolved
        split at resolved
        · next isPrefix => exact isPrefixOf_eq_of_length isPrefix length
        · split at resolved
          · exact absurd resolved (by decide)
          · split at resolved
            · exact absurd resolved (by decide)
            · split at resolved <;> exact absurd resolved (by decide)
      · rintro rfl
        rfl
  | reconcile =>
      constructor
      · intro resolved
        split at resolved
        · exact absurd resolved (by decide)
        · split at resolved
          · exact absurd resolved (by decide)
          · split at resolved
            · exact absurd resolved (by decide)
            · split at resolved
              · next isPrefix =>
                obtain ⟨rest, isRest⟩ := List.isPrefixOf_iff_prefix.mp isPrefix
                exact ⟨rest, isRest.symm⟩
              · exact absurd resolved (by decide)
      · rintro ⟨rest, rfl⟩
        rfl

/-- A dispatched path resolves to the scope of its route if it is spelled as
registered. -/
theorem resolveScope_iff {basePath path : Bytes} {route : Route}
    (dispatched : Dispatched basePath route path) :
    resolveScope path basePath = route.scope ↔ AsRegistered basePath route path := by
  have length : path.length = basePath.length + route.suffix.length := by
    simpa using congrArg List.length dispatched
  have registered : AsRegistered basePath route path ↔
      basePath <+: path ∧ AsRegistered [] route (path.drop basePath.length) := by
    constructor
    · intro spelled
      cases route with
      | reconcile =>
          obtain ⟨rest, rfl⟩ := spelled
          rw [List.append_assoc, List.drop_left]
          exact ⟨List.prefix_append _ _, rest, rfl⟩
      | _ =>
          obtain rfl := spelled
          rw [List.drop_left]
          exact ⟨List.prefix_append _ _, rfl⟩
    · rintro ⟨⟨rel, rfl⟩, spelled⟩
      rw [List.drop_left] at spelled
      cases route with
      | reconcile =>
          obtain ⟨rest, rfl⟩ := spelled
          exact ⟨rest, by simp⟩
      | _ =>
          obtain rfl := spelled
          rfl
  rw [registered, resolveScope]
  by_cases isBase : basePath <+: path
  · rw [if_pos (List.isPrefixOf_iff_prefix.mpr isBase), relativeScope_iff (by simp [length])]
    exact ⟨fun spelled => ⟨isBase, spelled⟩, And.right⟩
  · rw [if_neg (fun isPrefix => isBase (List.isPrefixOf_iff_prefix.mp isPrefix))]
    refine iff_of_false ?_ fun both => isBase both.1
    cases route <;> decide

/-! ## The promise -/

/-- One key, to which the given scope is granted. -/
def settingsGranting (scope : Bytes) : Settings :=
  ⟨Json.object [("pay", Json.object [("api_keys", .arr [Json.text "k"]),
    ("api_key_scopes", Json.object [("k", .arr [.str scope])])])], none, none⟩

def requestFor (path : Bytes) : HttpRequest := ⟨false, path, ascii "k", []⟩

theorem checkScope_settingsGranting (granted scope : Bytes) :
    checkScope (settingsGranting granted).customConfig (ascii "k") scope =
      some (decide (granted = scope)) := by
  change listsScope scope [.str granted] = _
  by_cases same : granted = scope <;> simp [listsScope, Json.asString, same]

/-- The key passes under the scope its path resolves to. -/
theorem checkAuth_settingsGranting (path basePath : Bytes) :
    checkAuth (settingsGranting (resolveScope path basePath)) (requestFor path) basePath =
      .passed := by
  have allowed : allowedKeys (settingsGranting (resolveScope path basePath)) =
      some [ascii "k"] := rfl
  have isKey : extractApiKey (requestFor path) = ascii "k" := rfl
  have isPath : (requestFor path).path = path := rfl
  unfold checkAuth
  rw [if_neg (by simp [requestFor]), allowed]
  simp only [isKey, isPath, checkScope_settingsGranting, decide_true]
  rw [if_neg (by decide), if_neg (by decide), if_neg (by decide)]
  split <;> rfl

/-- A path that is not spelled as registered lets a key pass that was not granted
the scope of the route. -/
theorem not_enforced_of_misspelled {basePath path : Bytes} {route : Route}
    (dispatched : Dispatched basePath route path)
    (misspelled : ¬ AsRegistered basePath route path) : ¬ Enforced basePath route path := by
  intro enforced
  have granted := enforced (settingsGranting (resolveScope path basePath)) (requestFor path) rfl rfl
    (checkAuth_settingsGranting path basePath)
  have isKey : extractApiKey (requestFor path) = ascii "k" := rfl
  rw [isKey, checkScope_settingsGranting, Option.some.injEq, decide_eq_true_eq] at granted
  exact misspelled ((resolveScope_iff dispatched).mp granted)

/-- A dispatched path is checked for the scope of its route, and resolves to it,
exactly when it is spelled as registered. -/
theorem enforced_iff {basePath path : Bytes} {route : Route}
    (dispatched : Dispatched basePath route path) :
    (Enforced basePath route path ↔ AsRegistered basePath route path) ∧
      (resolveScope path basePath = route.scope ↔ AsRegistered basePath route path) := by
  refine ⟨⟨fun enforced => ?_, fun spelled => ?_⟩, resolveScope_iff dispatched⟩
  · by_contra misspelled
    exact not_enforced_of_misspelled dispatched misspelled enforced
  · intro settings req isPath work passed
    subst isPath
    have resolves := (resolveScope_iff dispatched).mpr spelled
    rw [← resolves]
    refine checkScope_of_passed work ?_ passed
    rw [resolves]
    cases route <;> decide

theorem enforced_on_refund : Enforced (ascii "/api/pay") .refund (ascii "/api/pay/refund") := by
  have dispatched : Dispatched (ascii "/api/pay") .refund (ascii "/api/pay/refund") := rfl
  exact (enforced_iff dispatched).1.mpr rfl

/-- Two spellings that reach a scoped handler: one resolves to no scope, one to the
scope of another route, and both let a key pass without the scope. -/
theorem misspelled_paths_pass :
    Dispatched (ascii "/api/pay") .refund (ascii "/api/pay/REFUND") ∧
      resolveScope (ascii "/api/pay/REFUND") (ascii "/api/pay") = [] ∧
      ¬ Enforced (ascii "/api/pay") .refund (ascii "/api/pay/REFUND") ∧
    Dispatched (ascii "/api/pay") .refundQuery (ascii "/api/pay/refund/QUERY") ∧
      resolveScope (ascii "/api/pay/refund/QUERY") (ascii "/api/pay") = ascii "refund" ∧
      ¬ Enforced (ascii "/api/pay") .refundQuery (ascii "/api/pay/refund/QUERY") := by
  refine ⟨rfl, rfl, not_enforced_of_misspelled rfl ?_, rfl, rfl, not_enforced_of_misspelled rfl ?_⟩
  · change ¬ ascii "/api/pay/REFUND" = _
    decide
  · change ¬ ascii "/api/pay/refund/QUERY" = _
    decide

end DrogonPay.AuthCheck
