import DrogonPay.Table.Keyed
import Mathlib.Data.List.Sort
import Mathlib.Data.List.TakeWhile

/-!
Contract: texts of named values, such as the body of a posted form.

Owns:
- `text` and `read`, with the pairs that are read back, and `gather`, by which the
  last of several values of a name counts;
- `canonical`, the text of the values in the order of their names, without empty
  values and without the names that are skipped;
- `canonical_congr`: the order of the pairs does not show in it;
- `value_of_canonical`: values without the outer mark are determined by it.

Does not own: how a value is encoded, or what the text is used for.
-/

namespace DrogonPay.Form

/-- The mark between two pairs, and the one between a name and its value. -/
structure Marks (α : Type) where
  between : α
  inside : α
  distinct : between ≠ inside

/-- A name and its value. -/
abbrev Pair (α : Type) := List α × List α

/-- One value for each name. -/
abbrev Values (α : Type) := Table (List α) (Pair α) Prod.fst

section Texts

variable {α : Type} [DecidableEq α] (marks : Marks α)

def pairText (pair : Pair α) : List α := pair.1 ++ marks.inside :: pair.2

def text (pairs : List (Pair α)) : List α :=
  [marks.between].intercalate (pairs.map (pairText marks))

/-- A part is a pair from its first inner mark on. -/
def readPair (part : List α) : Option (Pair α) :=
  match part.dropWhile (· ≠ marks.inside) with
  | [] => none
  | _ :: value => some (part.takeWhile (· ≠ marks.inside), value)

def read (form : List α) : List (Pair α) := (form.splitOn marks.between).filterMap (readPair marks)

/-- A pair whose text can be told from what stands around it. -/
structure Clean (pair : Pair α) : Prop where
  name : marks.between ∉ pair.1 ∧ marks.inside ∉ pair.1
  value : marks.between ∉ pair.2

variable {marks} {pair : Pair α} {pairs pairs' : List (Pair α)}

theorem readPair_pairText (clean : Clean marks pair) :
    readPair marks (pairText marks pair) = some pair := by
  obtain ⟨name, value⟩ := pair
  have passes : ∀ a ∈ name, decide (a ≠ marks.inside) = true := fun a member =>
    decide_eq_true fun same => clean.name.2 (same ▸ member)
  have rest : (name ++ marks.inside :: value).dropWhile (· ≠ marks.inside) =
      marks.inside :: value := by
    rw [List.dropWhile_append_of_pos passes, List.dropWhile_cons_of_neg (by simp)]
  have first : (name ++ marks.inside :: value).takeWhile (· ≠ marks.inside) = name := by
    rw [List.takeWhile_append_of_pos passes, List.takeWhile_cons_of_neg (by simp), List.append_nil]
  simp only [readPair, pairText, rest, first]

theorem readPair_some {part : List α} (isPair : readPair marks part = some pair) :
    marks.inside ∉ pair.1 ∧ part = pairText marks pair := by
  have whole := List.takeWhile_append_dropWhile (p := (· ≠ marks.inside)) (l := part)
  unfold readPair at isPair
  split at isPair
  · cases isPair
  · rename_i mark value split
    cases isPair
    have isMark : mark = marks.inside := by
      have stops := List.head?_dropWhile_not (· ≠ marks.inside) part
      rw [split] at stops
      simpa using stops
    refine ⟨fun member => ?_, ?_⟩
    · simpa using List.mem_takeWhile_imp member
    · rw [split, isMark] at whole
      exact whole.symm

omit [DecidableEq α] in
theorem not_mem_pairText (clean : Clean marks pair) : marks.between ∉ pairText marks pair := by
  simp [pairText, clean.name.1, clean.value, marks.distinct]

/-- Clean pairs are read back in their order. -/
theorem read_text (clean : ∀ pair ∈ pairs, Clean marks pair) :
    read marks (text marks pairs) = pairs := by
  cases pairs with
  | nil => simp [read, text, readPair]
  | cons pair rest =>
      have parts : (text marks (pair :: rest)).splitOn marks.between =
          (pair :: rest).map (pairText marks) := by
        refine List.splitOn_intercalate marks.between ?_ (by simp)
        intro part member
        obtain ⟨pair', isPair, rfl⟩ := List.mem_map.mp member
        exact not_mem_pairText (clean pair' isPair)
      rw [read, parts, List.filterMap_map]
      have each : ∀ pair' ∈ pair :: rest,
          (readPair marks ∘ pairText marks) pair' = some pair' := fun pair' isPair =>
        readPair_pairText (clean pair' isPair)
      rw [List.filterMap_congr each]
      simp

theorem text_injective (clean : ∀ pair ∈ pairs, Clean marks pair)
    (clean' : ∀ pair ∈ pairs', Clean marks pair) (same : text marks pairs = text marks pairs') :
    pairs = pairs' := by
  rw [← read_text clean, same, read_text clean']

/-- No part of a text holds the mark it was split at. -/
theorem not_mem_part {mark : α} {form part : List α} (member : part ∈ form.splitOn mark) :
    mark ∉ part := by
  induction form generalizing part with
  | nil =>
      rw [List.splitOn_nil, List.mem_singleton] at member
      simp [member]
  | cons a rest inductionHypothesis =>
      rw [List.splitOn_cons_eq_if_modifyHead] at member
      split at member
      · rcases List.mem_cons.mp member with rfl | later
        · simp
        · exact inductionHypothesis later
      · rename_i other
        obtain ⟨first, later, parts⟩ := List.exists_cons_of_ne_nil (List.splitOn_ne_nil mark rest)
        rw [parts, List.modifyHead_cons] at member
        have behind : ∀ part ∈ first :: later, mark ∉ part := fun part isPart =>
          inductionHypothesis (by rw [parts]; exact isPart)
        rcases List.mem_cons.mp member with rfl | isLater
        · have different : mark ≠ a := fun same => other (beq_iff_eq.mpr same.symm)
          simpa [different] using behind first List.mem_cons_self
        · exact behind part (List.mem_cons_of_mem _ isLater)

/-- What is read of a text is clean. -/
theorem clean_of_read {form : List α} (member : pair ∈ read marks form) : Clean marks pair := by
  obtain ⟨part, isPart, isPair⟩ := List.mem_filterMap.mp member
  obtain ⟨inner, rfl⟩ := readPair_some isPair
  have outer := not_mem_part isPart
  simp only [pairText, List.mem_append, List.mem_cons, not_or] at outer
  exact ⟨⟨outer.1, inner⟩, outer.2.2⟩

end Texts

/-! ## Values by name -/

section Values

variable {α : Type} [DecidableEq α] {values values' : Values α} {pair : Pair α}
  {pairs : List (Pair α)}

def put (values : Values α) (pair : Pair α) : Values α :=
  (values.deleteIf fun name => name = pair.1).insert pair

/-- The last value of a name counts. -/
def gather (pairs : List (Pair α)) : Values α := pairs.foldl put Table.empty

/-- The value of a name, empty when there is none. -/
def valueOf (values : Values α) (name : List α) : List α :=
  ((values.find name).map Prod.snd).getD []

theorem find_put (name : List α) :
    (put values pair).find name = if pair.1 = name then some pair else values.find name := by
  simp only [put, Table.find_insert, Table.find_deleteIf, decide_eq_true_eq]
  split
  · rename_i same
    simp [same]
  · rename_i different
    rw [if_neg fun same => different same.symm]

theorem find_gather (name : List α) :
    (gather pairs).find name = pairs.reverse.find? fun pair => pair.1 = name := by
  induction pairs using List.reverseRecOn with
  | nil => rfl
  | append_singleton earlier last inductionHypothesis =>
      rw [gather, List.foldl_append, List.foldl_cons, List.foldl_nil, find_put, ← gather,
        List.reverse_append, List.reverse_singleton, List.singleton_append, List.find?_cons,
        inductionHypothesis]
      by_cases same : last.1 = name
      · simp [same]
      · simp [same]

theorem mem_of_find_gather {name : List α} (found : (gather pairs).find name = some pair) :
    pair ∈ pairs ∧ pair.1 = name := by
  rw [find_gather] at found
  exact ⟨List.mem_reverse.mp (List.mem_of_find?_eq_some found),
    by simpa using List.find?_some found⟩

/-- Where every name occurs once, its value is the one it occurs with. -/
theorem valueOf_gather (once : (pairs.map Prod.fst).Nodup) (member : pair ∈ pairs) :
    valueOf (gather pairs) pair.1 = pair.2 := by
  cases found : (gather pairs).find pair.1 with
  | none =>
      rw [find_gather] at found
      exact absurd (List.find?_eq_none.mp found pair (List.mem_reverse.mpr member)) (by simp)
  | some other =>
      obtain ⟨isMember, same⟩ := mem_of_find_gather found
      rw [valueOf, found, List.inj_on_of_nodup_map once isMember member same]
      rfl

theorem valueOf_gather_of_absent {name : List α} (absent : ∀ pair ∈ pairs, pair.1 ≠ name) :
    valueOf (gather pairs) name = [] := by
  cases found : (gather pairs).find name with
  | none => simp [valueOf, found]
  | some pair =>
      obtain ⟨isMember, same⟩ := mem_of_find_gather found
      exact absurd same (absent pair isMember)

theorem not_mem_valueOf {a : α} (rows : ∀ pair ∈ values.rows, a ∉ pair.2) (name : List α) :
    a ∉ valueOf values name := by
  cases found : values.find name with
  | none => simp [valueOf, found]
  | some pair =>
      simpa [valueOf, found] using rows pair (Table.find_eq_some_iff.mp found).1

/-- Values are gathered whatever their order. -/
theorem valueOf_gather_of_perm (order : pairs.Perm values.rows) (name : List α) :
    valueOf (gather pairs) name = valueOf values name := by
  have once : (pairs.map Prod.fst).Nodup := (order.map Prod.fst).nodup_iff.mpr values.nodup
  cases found : values.find name with
  | none =>
      have absent := Table.find_eq_none_iff.mp found
      rw [valueOf_gather_of_absent fun pair member => absent pair (order.mem_iff.mp member)]
      simp [valueOf, found]
  | some pair =>
      obtain ⟨member, rfl⟩ := Table.find_eq_some_iff.mp found
      rw [valueOf_gather once (order.mem_iff.mpr member)]
      simp [valueOf, found]

/-! ## Canonical texts -/

variable (marks : Marks α) (upTo : List α → List α → Prop) [DecidableRel upTo]
  (skip : List α → Bool)

/-- The pairs that count: not skipped and not empty. -/
def counted (values : Values α) : List (Pair α) :=
  values.rows.filter fun pair => !skip pair.1 && !pair.2.isEmpty

def canonical (values : Values α) : List α :=
  text marks ((counted skip values).insertionSort fun a b => upTo a.1 b.1)

variable {skip}

theorem mem_counted :
    pair ∈ counted skip values ↔ skip pair.1 = false ∧ pair.2 ≠ [] ∧
      valueOf values pair.1 = pair.2 := by
  simp only [counted, List.mem_filter, Bool.and_eq_true, Bool.not_eq_true', List.isEmpty_eq_false_iff]
  constructor
  · rintro ⟨member, counts, some⟩
    have found := Table.find_eq_some_iff.mpr ⟨member, rfl⟩
    exact ⟨counts, some, by simp [valueOf, found]⟩
  · rintro ⟨counts, some, isValue⟩
    cases found : values.find pair.1 with
    | none => exact absurd (by simpa [valueOf, found] using isValue.symm) some
    | some other =>
        obtain ⟨member, sameName⟩ := Table.find_eq_some_iff.mp found
        have sameValue : other.2 = pair.2 := by simpa [valueOf, found] using isValue
        exact ⟨Prod.ext sameName sameValue ▸ member, counts, some⟩

omit [DecidableEq α] in
theorem nodup_counted : (counted skip values).Nodup := values.nodup.of_map.filter _

variable {marks upTo}

section Order

variable [Std.Total upTo] [IsTrans (List α) upTo] [Std.Antisymm upTo]

/-- Only the values of the names that count show in the text. -/
theorem canonical_congr
    (same : ∀ name, skip name = false → valueOf values name = valueOf values' name) :
    canonical marks upTo skip values = canonical marks upTo skip values' := by
  have isPerm : (counted skip values).Perm (counted skip values') := by
    refine (List.perm_ext_iff_of_nodup nodup_counted nodup_counted).mpr fun pair => ?_
    rw [mem_counted, mem_counted]
    constructor
    · rintro ⟨counts, some, isValue⟩
      exact ⟨counts, some, (same pair.1 counts).symm.trans isValue⟩
    · rintro ⟨counts, some, isValue⟩
      exact ⟨counts, some, (same pair.1 counts).trans isValue⟩
  have total : Std.Total fun a b : Pair α => upTo a.1 b.1 := ⟨fun a b => Std.Total.total a.1 b.1⟩
  have trans : IsTrans (Pair α) fun a b => upTo a.1 b.1 :=
    ⟨fun a b c first second => IsTrans.trans a.1 b.1 c.1 first second⟩
  refine congrArg (text marks) (List.Perm.eq_of_pairwise ?_ (List.pairwise_insertionSort _ _)
    (List.pairwise_insertionSort _ _)
    ((List.perm_insertionSort _ _).trans (isPerm.trans (List.perm_insertionSort _ _).symm)))
  intro a b isFirst isSecond first second
  obtain ⟨counts, _, isValue⟩ := mem_counted.mp ((List.mem_insertionSort _).mp isFirst)
  obtain ⟨_, _, isValue'⟩ := mem_counted.mp ((List.mem_insertionSort _).mp isSecond)
  have sameName : a.1 = b.1 := Std.Antisymm.antisymm a.1 b.1 first second
  refine Prod.ext sameName ?_
  rw [← isValue, ← isValue', same a.1 counts, sameName]

end Order

/-- The text determines the values of the names that count, when it can be taken
apart. -/
theorem value_of_canonical (clean : ∀ pair ∈ counted skip values, Clean marks pair)
    (clean' : ∀ pair ∈ counted skip values', Clean marks pair)
    (same : canonical marks upTo skip values = canonical marks upTo skip values')
    {name : List α} (counts : skip name = false) : valueOf values name = valueOf values' name := by
  have sorted := text_injective
    (fun pair member => clean pair ((List.mem_insertionSort _).mp member))
    (fun pair member => clean' pair ((List.mem_insertionSort _).mp member)) same
  have members : ∀ pair, pair ∈ counted skip values ↔ pair ∈ counted skip values' := by
    intro pair
    rw [← List.mem_insertionSort fun a b : Pair α => upTo a.1 b.1, sorted, List.mem_insertionSort]
  have value : ∀ {left right : Values α},
      (∀ pair, pair ∈ counted skip left → pair ∈ counted skip right) →
      valueOf left name ≠ [] → valueOf right name = valueOf left name := by
    intro left right within some
    exact (mem_counted.mp (within (name, valueOf left name)
      (mem_counted.mpr ⟨counts, some, rfl⟩))).2.2
  by_cases some : valueOf values name = []
  · by_cases some' : valueOf values' name = []
    · rw [some, some']
    · exact value (fun pair => (members pair).mpr) some'
  · exact (value (fun pair => (members pair).mp) some).symm

end Values

end DrogonPay.Form
