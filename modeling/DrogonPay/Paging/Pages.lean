import Mathlib.Data.List.Sort
import Mathlib.Data.List.Nodup
import Mathlib.Data.List.TakeWhile

/-!
Contract: rows read page by page, each page cut from its own sorting of them.

Owns:
- `Arrangement`, the rows sorted by a stamp, latest first, rows with one stamp in
  any order;
- `page` and `listing`, the pages read one after the other until one is empty;
- `length_listing`, `perm_listing` and `exists_repeated`: as many rows are listed
  as there are; they are listed once each if every page ends between two stamps;
  and if one does not, some sortings list a row twice.

Does not own: where the rows come from.
-/

namespace DrogonPay.Paging

variable {α : Type} {stamp : α → Nat} {rows : List α}

/-- One sorting of the rows. -/
structure Arrangement (stamp : α → Nat) (rows : List α) where
  listed : List α
  perm : listed.Perm rows
  sorted : listed.Pairwise fun a b => stamp b ≤ stamp a

/-- The sorting that keeps the given order of equal stamps. -/
def arranged (stamp : α → Nat) (rows : List α) : Arrangement stamp rows where
  listed := rows.insertionSort fun a b => stamp b ≤ stamp a
  perm := List.perm_insertionSort _ rows
  sorted := by
    have : Std.Total fun a b => stamp b ≤ stamp a := ⟨fun a b => Nat.le_total _ _⟩
    have : IsTrans α fun a b => stamp b ≤ stamp a := ⟨fun a b c ab bc => Nat.le_trans bc ab⟩
    exact List.pairwise_insertionSort _ rows

theorem Arrangement.length_eq (a : Arrangement stamp rows) : a.listed.length = rows.length :=
  a.perm.length_eq

/-- The page of the given number. -/
def page (size number : Nat) (listed : List α) : List α :=
  (listed.drop (number * size)).take size

/-- Read pages from the given one on, until one is empty. -/
def readPages (pageOf : Nat → List α) : Nat → Nat → List α
  | 0, _ => []
  | fuel + 1, number =>
      if (pageOf number).isEmpty then [] else pageOf number ++ readPages pageOf fuel (number + 1)

/-- Everything that is listed, when page `k` is cut from the `k`-th sorting. -/
def listing (size : Nat) (views : Nat → Arrangement stamp rows) : List α :=
  readPages (fun number => page size number (views number).listed) (rows.length + 1) 0

/-- Every page that is not the last ends between two stamps: the rows up to there
are the ones with a stamp from some `least` on. -/
def EndsBetween (stamp : α → Nat) (rows : List α) (size : Nat) : Prop :=
  ∀ number, 0 < number * size → number * size < rows.length →
    ∃ least, rows.countP (fun row => least ≤ stamp row) = number * size

/-! ## Reading until an empty page -/

theorem readPages_eq {pageOf : Nat → List α}
    (stays : ∀ number, pageOf number = [] → pageOf (number + 1) = []) (fuel number : Nat) :
    readPages pageOf fuel number = (List.range' number fuel).flatMap pageOf := by
  have empties : ∀ fuel number, pageOf number = [] →
      (List.range' number fuel).flatMap pageOf = [] := by
    intro fuel
    induction fuel with
    | zero => exact fun _ _ => rfl
    | succ fuel inductionHypothesis =>
        intro number isEmpty
        rw [List.range'_succ, List.flatMap_cons, isEmpty,
          inductionHypothesis (number + 1) (stays number isEmpty)]
        rfl
  induction fuel generalizing number with
  | zero => rfl
  | succ fuel inductionHypothesis =>
      rw [readPages]
      split
      · next isEmpty => rw [empties (fuel + 1) number (List.isEmpty_iff.mp isEmpty)]
      · rw [inductionHypothesis (number + 1), List.range'_succ, List.flatMap_cons]

theorem readPages_map {β : Type} (f : α → β) (pageOf : Nat → List α) (fuel number : Nat) :
    readPages (fun number => (pageOf number).map f) fuel number =
      (readPages pageOf fuel number).map f := by
  induction fuel generalizing number with
  | zero => rfl
  | succ fuel inductionHypothesis =>
      simp only [readPages, List.isEmpty_map, inductionHypothesis]
      split
      · rfl
      · rw [List.map_append]

theorem length_page (size number : Nat) (listed : List α) :
    (page size number listed).length = min size (listed.length - number * size) := by
  simp [page]

theorem listing_eq {size : Nat} (size_pos : 0 < size) (views : Nat → Arrangement stamp rows) :
    listing size views =
      (List.range (rows.length + 1)).flatMap fun number =>
        page size number (views number).listed := by
  rw [listing, readPages_eq, List.range_eq_range']
  intro number isEmpty
  rw [← List.length_eq_zero_iff, length_page, Arrangement.length_eq] at isEmpty ⊢
  rw [Nat.succ_mul]
  omega

/-- How many rows the pages before the given one hold. -/
theorem length_pages {size : Nat} (views : Nat → Arrangement stamp rows) (number : Nat) :
    ((List.range number).flatMap fun number => page size number (views number).listed).length =
      min (number * size) rows.length := by
  induction number with
  | zero => simp
  | succ number inductionHypothesis =>
      rw [List.range_succ, List.flatMap_append, List.length_append, inductionHypothesis,
        List.flatMap_singleton, length_page, Arrangement.length_eq, Nat.succ_mul]
      omega

theorem length_le_pages {size : Nat} (size_pos : 0 < size) (rows : List α) :
    rows.length ≤ (rows.length + 1) * size := by
  calc rows.length ≤ rows.length + 1 := Nat.le_succ _
    _ = (rows.length + 1) * 1 := (Nat.mul_one _).symm
    _ ≤ (rows.length + 1) * size := Nat.mul_le_mul_left _ size_pos

theorem length_listing {size : Nat} (size_pos : 0 < size) (views : Nat → Arrangement stamp rows) :
    (listing size views).length = rows.length := by
  have enough := length_le_pages size_pos rows
  rw [listing_eq size_pos, length_pages]
  omega

/-! ## Pages that end between stamps -/

theorem filter_sorted {listed : List α} (sorted : listed.Pairwise fun a b => stamp b ≤ stamp a)
    (least : Nat) :
    listed.filter (fun row => least ≤ stamp row) = listed.takeWhile fun row => least ≤ stamp row := by
  induction listed with
  | nil => rfl
  | cons head tail inductionHypothesis =>
      obtain ⟨below, sortedTail⟩ := List.pairwise_cons.mp sorted
      by_cases late : least ≤ stamp head
      · simp [late, inductionHypothesis sortedTail]
      · have none : tail.filter (fun row => least ≤ stamp row) = [] := by
          rw [List.filter_eq_nil_iff]
          intro row member
          have bound := below row member
          simp only [decide_eq_true_eq]
          omega
        simp [late, none]

/-- Where as many rows have a stamp from `least` on, a sorting starts with just
these. -/
theorem take_eq_filter (a : Arrangement stamp rows) {least count : Nat}
    (counted : rows.countP (fun row => least ≤ stamp row) = count) :
    a.listed.take count = a.listed.filter fun row => least ≤ stamp row := by
  have length : (a.listed.filter fun row => least ≤ stamp row).length = count := by
    rw [← List.countP_eq_length_filter, a.perm.countP_eq, counted]
  rw [filter_sorted a.sorted least] at length ⊢
  conv_rhs => rw [List.prefix_iff_eq_take.mp (List.takeWhile_prefix _), length]

/-- The pages before the given one hold what any sorting starts with. -/
theorem pages_perm_take {size : Nat} (between : EndsBetween stamp rows size)
    (views : Nat → Arrangement stamp rows) (number : Nat) (a : Arrangement stamp rows) :
    ((List.range number).flatMap fun number => page size number (views number).listed).Perm
      (a.listed.take (number * size)) := by
  -- any two sortings agree up to a page end
  have agree : ∀ (number : Nat) (a b : Arrangement stamp rows),
      (a.listed.take (number * size)).Perm (b.listed.take (number * size)) := by
    intro number a b
    by_cases start : number * size = 0
    · simp [start]
    · by_cases last : rows.length ≤ number * size
      · rw [List.take_of_length_le (by rw [a.length_eq]; exact last),
          List.take_of_length_le (by rw [b.length_eq]; exact last)]
        exact a.perm.trans b.perm.symm
      · obtain ⟨least, counted⟩ := between number (by omega) (by omega)
        rw [take_eq_filter a counted, take_eq_filter b counted]
        exact (a.perm.trans b.perm.symm).filter _
  induction number with
  | zero => simp
  | succ number inductionHypothesis =>
      rw [List.range_succ, List.flatMap_append, List.flatMap_singleton]
      have before := (inductionHypothesis.trans (agree number a (views number))).append_right
        (page size number (views number).listed)
      have joined : (views number).listed.take (number * size) ++
          page size number (views number).listed =
          (views number).listed.take ((number + 1) * size) := by
        rw [page, Nat.succ_mul, ← List.take_add]
      rw [joined] at before
      exact before.trans (agree (number + 1) (views number) a)

/-- Pages that end between stamps list every row once. -/
theorem perm_listing {size : Nat} (size_pos : 0 < size) (between : EndsBetween stamp rows size)
    (views : Nat → Arrangement stamp rows) : (listing size views).Perm rows := by
  have listed := pages_perm_take between views (rows.length + 1) (arranged stamp rows)
  rw [List.take_of_length_le (by rw [Arrangement.length_eq]; exact length_le_pages size_pos rows)]
    at listed
  rw [listing_eq size_pos]
  exact listed.trans (arranged stamp rows).perm

/-! ## A page that ends inside a stamp -/

/-- Two neighbours with one stamp change places. -/
def Arrangement.exchange (a : Arrangement stamp rows) {front back : List α} {x y : α}
    (isListed : a.listed = front ++ x :: y :: back) (equal : stamp x = stamp y) :
    Arrangement stamp rows where
  listed := front ++ y :: x :: back
  perm := by
    have swapped : (front ++ y :: x :: back).Perm (front ++ x :: y :: back) :=
      (List.Perm.swap x y back).append_left front
    exact swapped.trans (isListed ▸ a.perm)
  sorted := by
    have sorted := a.sorted
    rw [isListed] at sorted
    simp only [List.pairwise_append, List.pairwise_cons, List.mem_cons] at sorted ⊢
    grind

theorem mem_page {size number : Nat} {front back : List α} {x : α}
    (from_start : number * size ≤ front.length) (inside : front.length < (number + 1) * size) :
    x ∈ page size number (front ++ x :: back) := by
  rw [page, List.drop_append_of_le_length from_start, List.take_append]
  rw [Nat.succ_mul] at inside
  refine List.mem_append.mpr (Or.inr ?_)
  rw [List.length_drop]
  obtain ⟨room, isRoom⟩ : ∃ room, size - (front.length - number * size) = room + 1 :=
    ⟨size - (front.length - number * size) - 1, by omega⟩
  rw [isRoom, List.take_succ_cons]
  exact List.mem_cons_self

/-- The last row before a position and the first behind it. -/
theorem exists_neighbours {listed : List α} {count : Nat} (positive : 0 < count)
    (below : count < listed.length) :
    ∃ front x y back, listed = front ++ x :: y :: back ∧ front.length + 1 = count := by
  have before : count - 1 < listed.length := by omega
  have isRest := List.drop_eq_getElem_cons before
  rw [Nat.sub_add_cancel positive, List.drop_eq_getElem_cons below] at isRest
  refine ⟨listed.take (count - 1), listed[count - 1], listed[count], listed.drop (count + 1), ?_,
    by simp; omega⟩
  rw [← isRest, List.take_append_drop]

/-- If no stamp has just the rows before a position, the rows around it have one
stamp. -/
theorem equal_of_uncounted (a : Arrangement stamp rows) {front back : List α} {x y : α}
    (isListed : a.listed = front ++ x :: y :: back)
    (uncounted : ∀ least, rows.countP (fun row => least ≤ stamp row) ≠ front.length + 1) :
    stamp x = stamp y := by
  have sorted := a.sorted
  rw [isListed] at sorted
  obtain ⟨-, sortedRest, acrossFront⟩ := List.pairwise_append.mp sorted
  obtain ⟨belowX, sortedBack⟩ := List.pairwise_cons.mp sortedRest
  obtain ⟨belowY, -⟩ := List.pairwise_cons.mp sortedBack
  by_contra differ
  have lower : stamp y < stamp x := by
    have bound := belowX y List.mem_cons_self
    omega
  refine uncounted (stamp x) ?_
  have inFront : front.countP (fun row => stamp x ≤ stamp row) = front.length := by
    rw [List.countP_eq_length]
    intro row member
    simpa using acrossFront row member x List.mem_cons_self
  have inBack : back.countP (fun row => stamp x ≤ stamp row) = 0 := by
    rw [List.countP_eq_zero]
    intro row member
    have bound := belowY row member
    simp only [decide_eq_true_eq]
    omega
  rw [← a.perm.countP_eq, isListed, List.countP_append, List.countP_cons, List.countP_cons,
    inFront, inBack]
  simp [Nat.not_le.mpr lower]

/-- Where a page ends inside a stamp, some sortings list a row twice. -/
theorem exists_repeated {size : Nat} (size_pos : 0 < size)
    (inside : ¬ EndsBetween stamp rows size) :
    ∃ views : Nat → Arrangement stamp rows, ¬ (listing size views).Nodup := by
  simp only [EndsBetween, not_forall, not_exists] at inside
  obtain ⟨number, positive, below, uncounted⟩ := inside
  let a := arranged stamp rows
  obtain ⟨front, x, y, back, isListed, isFront⟩ :=
    exists_neighbours positive (a.length_eq ▸ below)
  have equal : stamp x = stamp y := by
    refine equal_of_uncounted a isListed fun least counted => uncounted least ?_
    rw [counted, isFront]
  have number_pos : 0 < number := Nat.pos_of_mul_pos_right positive
  have isNumber : number - 1 + 1 = number := by omega
  have previous : (number - 1) * size + size = number * size := by
    rw [← Nat.succ_mul, Nat.succ_eq_add_one, isNumber]
  -- the page before the cut is read in one order, the page behind it in the other
  refine ⟨fun j => if j = number - 1 then a else a.exchange isListed equal, fun nodup => ?_⟩
  have onFirst : x ∈ page size (number - 1) a.listed := by
    rw [isListed]
    exact mem_page (by omega) (by rw [isNumber]; omega)
  have onSecond : x ∈ page size number (a.exchange isListed equal).listed := by
    have isExchanged : (a.exchange isListed equal).listed = (front ++ [y]) ++ x :: back := by
      simp [Arrangement.exchange]
    rw [isExchanged]
    exact mem_page (by simp; omega) (by rw [Nat.succ_mul]; simp; omega)
  rw [listing_eq size_pos, List.nodup_flatMap] at nodup
  have number_le : number ≤ number * size := Nat.le_mul_of_pos_right number size_pos
  obtain ⟨-, apart⟩ := nodup
  rw [List.pairwise_iff_getElem] at apart
  have disjoint := apart (number - 1) number (by simp; omega) (by simp; omega) (by omega)
  simp only [List.getElem_range] at disjoint
  refine disjoint (a := x) ?_ ?_
  · simpa using onFirst
  · simpa [show number ≠ number - 1 by omega] using onSecond

end DrogonPay.Paging
