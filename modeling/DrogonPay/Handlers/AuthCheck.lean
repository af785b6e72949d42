import DrogonPay.Handlers.PayController

/-!
Contract: `AuthCheck.cc`, the check every authenticated handler starts with.

Owns:
- the keys a process accepts, from its configuration and its environment;
- `resolveScope`, `checkScope` and `checkAuth`.

Does not own: which handler a path is dispatched to. The scan of the keys takes
the same time for every key; of that only its result is kept.
-/

namespace DrogonPay.AuthCheck

/-- The custom configuration, and `PAY_API_KEY` and `PAY_API_KEYS` where they are
set. -/
structure Settings where
  customConfig : Json
  payApiKey : Option Bytes
  payApiKeys : Option Bytes

/-- The parts of a request the check reads. A missing header reads as empty. -/
structure HttpRequest where
  isOptions : Bool
  path : Bytes
  xApiKey : Bytes
  authorization : Bytes

inductive Outcome where
  | passed
  | refused (status : Nat) (body : Bytes)
  | thrown
deriving DecidableEq

/-! ## Keys -/

def isBlank (b : UInt8) : Bool := b = 32 || b = 9

def trim (value : Bytes) : Bytes :=
  ((value.dropWhile isBlank).reverse.dropWhile isBlank).reverse

def splitKeys (value : Bytes) : List Bytes :=
  ((value.splitOn 44).map trim).filter fun key => !key.isEmpty

def extractApiKey (req : HttpRequest) : Bytes :=
  let bearer := ascii "Bearer "
  if !req.xApiKey.isEmpty then req.xApiKey
  else if bearer.isPrefixOf req.authorization && req.authorization.length > bearer.length then
    req.authorization.drop bearer.length
  else req.authorization

/-- `value.isMember(key)`; throws on a value that is neither null nor an object. -/
def memberOf (value : Json) (key : String) : Option Bool :=
  if PayController.hasMembers value then some (value.isMember (ascii key)) else none

/-- The setting `pay.<key>`, if there is one. -/
def paySetting (customConfig : Json) (key : String) : Option (Option Json) := do
  if !(← memberOf customConfig "pay") then return none
  let pay ← customConfig.at? (ascii "pay")
  if !(← memberOf pay key) then return none
  return some (← pay.at? (ascii key))

def configuredKeys (customConfig : Json) : Option (List Bytes) := do
  match ← paySetting customConfig "api_keys" with
  | some (.arr items) =>
      let keys ← items.mapM Json.asString
      return keys.filter fun key => !key.isEmpty
  | _ => return []

def allowedKeys (settings : Settings) : Option (List Bytes) := do
  let configured ← configuredKeys settings.customConfig
  let single := (settings.payApiKey.map trim).toList.filter fun key => !key.isEmpty
  let extra := (settings.payApiKeys.map splitKeys).getD []
  return configured ++ single ++ extra

def containsKey (keys : List Bytes) (key : Bytes) : Bool := keys.any fun allowed => allowed = key

/-! ## Scopes -/

/-- The scope of a path relative to the base path; the tests are made in this
order. -/
def relativeScope (rel : Bytes) : Bytes :=
  if (ascii "/refund/query").isPrefixOf rel then ascii "refund_query"
  else if (ascii "/refund").isPrefixOf rel then ascii "refund"
  else if (ascii "/query").isPrefixOf rel then ascii "order_query"
  else if (ascii "/reconcile").isPrefixOf rel then ascii "reconcile"
  else []

def resolveScope (path basePath : Bytes) : Bytes :=
  if basePath.isPrefixOf path then relativeScope (path.drop basePath.length) else []

/-- The list names the scope; an item that is no text throws before a later one
is looked at. -/
def listsScope (scope : Bytes) : List Json → Option Bool
  | [] => some false
  | item :: items => do
      if (← item.asString) = scope then return true else listsScope scope items

def namesScope (scopes : Json) (scope : Bytes) : Option Bool :=
  match scopes with
  | .arr items => listsScope scope items
  | _ => some false

/-- The configuration grants the scope to the key: by its own list, or by the
default one, or because neither is configured. -/
def checkScope (customConfig : Json) (key scope : Bytes) : Option Bool := do
  match ← paySetting customConfig "api_key_scopes" with
  | some (.obj scopeConfig) =>
      match Json.lookup scopeConfig key with
      | some scopes => namesScope scopes scope
      | none =>
          match ← paySetting customConfig "api_key_default_scopes" with
          | some defaults => namesScope defaults scope
          | none => return true
  | _ => return true

def checkAuth (settings : Settings) (req : HttpRequest) (basePath : Bytes) : Outcome :=
  if req.isOptions then .passed
  else
    match allowedKeys settings with
    | none => .thrown
    | some allowed =>
        let key := extractApiKey req
        let scope := resolveScope req.path basePath
        if allowed.isEmpty then .refused 503 (ascii "api key not configured")
        else if key.isEmpty then .refused 401 (ascii "missing api key")
        else if !containsKey allowed key then .refused 401 (ascii "invalid api key")
        else if scope.isEmpty then .passed
        else
          match checkScope settings.customConfig key scope with
          | none => .thrown
          | some true => .passed
          | some false => .refused 403 (ascii "api key scope not allowed")

/-- Past the check, a resolved scope is granted. -/
theorem checkScope_of_passed {settings : Settings} {req : HttpRequest} {basePath : Bytes}
    (work : req.isOptions = false) (resolves : resolveScope req.path basePath ≠ [])
    (passed : checkAuth settings req basePath = .passed) :
    checkScope settings.customConfig (extractApiKey req) (resolveScope req.path basePath) =
      some true := by
  unfold checkAuth at passed
  rw [if_neg (by simp [work])] at passed
  split at passed
  · simp at passed
  · simp only at passed
    split at passed
    · simp at passed
    · split at passed
      · simp at passed
      · split at passed
        · simp at passed
        · rw [if_neg (by simpa using resolves)] at passed
          split at passed
          · simp at passed
          · assumption
          · simp at passed

end DrogonPay.AuthCheck
