import DrogonPay.Services.OrderList

/-!
Contract: what the pages of the order list amount to.

Owns:
- `orderPages`, the calls at offsets 0, L, 2L, .. until an empty page;
- `pagesPartition_iff`: they list every matching order once exactly when no
  matching order has more than one attempt and no page ends between two orders of
  one `created_at`.

Does not own: writes between the calls.
-/

namespace DrogonPay.PaymentService

open Paging

/-- All entries of the pages of the given size, read until a page is empty; there
are never more pages than rows. -/
def orderPages (db : Db) (status : Bytes) (userId : Int) (size : Nat)
    (sortings : Nat → Arrangement JoinedRow.createdAt (joinedRows db status userId)) :
    List OrderEntry :=
  readPages (fun number => queryOrderList db status userId size (number * size) (sortings number))
    ((joinedRows db status userId).length + 1) 0

/-- Whatever sortings the server chooses, the pages list every matching order
once, and no other. -/
def PagesPartition (db : Db) (status : Bytes) (userId : Int) (size : Nat) : Prop :=
  ∀ sortings, ((orderPages db status userId size sortings).map OrderEntry.orderNo).Perm
    ((matchingOrders db status userId).map fun order => order.orderNo)

theorem orderPages_eq {db : Db} {status : Bytes} {userId : Int} {size : Nat} (size_pos : 0 < size)
    (size_le : size ≤ 100)
    (sortings : Nat → Arrangement JoinedRow.createdAt (joinedRows db status userId)) :
    (orderPages db status userId size sortings).map OrderEntry.orderNo =
      (listing size sortings).map fun row => row.order.orderNo := by
  have limit : actualLimit size = size := if_pos ⟨size_pos, size_le⟩
  have pages : orderPages db status userId size sortings =
      (listing size sortings).map orderEntry := by
    rw [orderPages, listing, ← readPages_map]
    simp only [queryOrderList, limit, page]
  rw [pages, List.map_map]
  rfl

theorem leftJoin_length (db : Db) (order : OrderRow) :
    (leftJoin db order).length = max 1 (attemptsOf db order).length := by
  unfold leftJoin
  split
  · next none => simp [List.isEmpty_iff.mp none]
  · next some => simpa [Nat.one_le_iff_ne_zero] using some

theorem leftJoin_order {db : Db} {order : OrderRow} (single : (attemptsOf db order).length ≤ 1) :
    (leftJoin db order).map JoinedRow.order = [order] := by
  unfold leftJoin
  split
  · rfl
  · next some =>
    obtain ⟨attempt, isAttempt⟩ : ∃ attempt, attemptsOf db order = [attempt] := by
      refine List.length_eq_one_iff.mp ?_
      have positive := List.length_pos_iff.mpr (mt List.isEmpty_iff.mpr some)
      omega
    rw [isAttempt]
    rfl

/-- With one attempt each, the rows of the join are the orders. -/
theorem joinedRows_order {db : Db} {status : Bytes} {userId : Int}
    (single : ∀ order ∈ matchingOrders db status userId, (attemptsOf db order).length ≤ 1) :
    (joinedRows db status userId).map JoinedRow.order = matchingOrders db status userId := by
  rw [joinedRows, List.map_flatMap]
  refine (List.flatMap_congr fun order member => leftJoin_order (single order member)).trans ?_
  exact List.flatMap_singleton' _

/-- A further attempt is a further row. -/
theorem length_joined (db : Db) (orders : List OrderRow) :
    orders.length ≤ (orders.flatMap (leftJoin db)).length ∧
      ((orders.flatMap (leftJoin db)).length = orders.length →
        ∀ order ∈ orders, (attemptsOf db order).length ≤ 1) := by
  induction orders with
  | nil => simp
  | cons head tail inductionHypothesis =>
      obtain ⟨least, exact_⟩ := inductionHypothesis
      have isHead := leftJoin_length db head
      rw [List.flatMap_cons, List.length_append, List.length_cons, isHead]
      refine ⟨by omega, fun length order member => ?_⟩
      rcases List.mem_cons.mp member with rfl | inTail
      · omega
      · exact exact_ (by omega) order inTail

theorem nodup_matching (db : Db) (status : Bytes) (userId : Int) :
    ((matchingOrders db status userId).map fun order => order.orderNo).Nodup :=
  db.orders.nodup.sublist (List.filter_sublist.map _)

/-- With one attempt each, the cuts between the rows are cuts between the orders. -/
theorem endsBetween_joined {db : Db} {status : Bytes} {userId : Int} {size : Nat}
    (single : ∀ order ∈ matchingOrders db status userId, (attemptsOf db order).length ≤ 1) :
    EndsBetween JoinedRow.createdAt (joinedRows db status userId) size ↔
      EndsBetween OrderRow.createdAt (matchingOrders db status userId) size := by
  have isOrders := joinedRows_order single
  have length : (joinedRows db status userId).length = (matchingOrders db status userId).length := by
    rw [← isOrders, List.length_map]
  have counted : ∀ least,
      (joinedRows db status userId).countP (fun row => least ≤ row.createdAt) =
        (matchingOrders db status userId).countP fun order => least ≤ order.createdAt := by
    intro least
    rw [← isOrders, List.countP_map]
    rfl
  simp only [EndsBetween, length, counted]

section Partition

variable {db : Db} {status : Bytes} {userId : Int} {size : Nat}

/-- As many entries are listed as the join has rows. -/
theorem single_of_partition (size_pos : 0 < size) (size_le : size ≤ 100)
    (partition : PagesPartition db status userId size) :
    ∀ order ∈ matchingOrders db status userId, (attemptsOf db order).length ≤ 1 := by
  have listed := (partition fun _ => arranged _ _).length_eq
  rw [orderPages_eq size_pos size_le, List.length_map, List.length_map,
    length_listing size_pos] at listed
  exact (length_joined db _).2 listed

/-- A page that ends inside a creation time lists an order twice. -/
theorem endsBetween_of_partition (size_pos : 0 < size) (size_le : size ≤ 100)
    (partition : PagesPartition db status userId size) :
    EndsBetween OrderRow.createdAt (matchingOrders db status userId) size := by
  have single := single_of_partition size_pos size_le partition
  refine (endsBetween_joined single).mp ?_
  by_contra inside
  obtain ⟨sortings, repeated⟩ := exists_repeated size_pos inside
  have listed := partition sortings
  rw [orderPages_eq size_pos size_le] at listed
  exact repeated (List.Nodup.of_map _ (listed.nodup_iff.mpr (nodup_matching db status userId)))

/-- The pages partition the matching orders exactly when no matching order has more
than one attempt and every page ends between two creation times. -/
theorem pagesPartition_iff (size_pos : 0 < size) (size_le : size ≤ 100) :
    PagesPartition db status userId size ↔
      (∀ order ∈ matchingOrders db status userId, (attemptsOf db order).length ≤ 1) ∧
        EndsBetween OrderRow.createdAt (matchingOrders db status userId) size := by
  constructor
  · exact fun partition => ⟨single_of_partition size_pos size_le partition,
      endsBetween_of_partition size_pos size_le partition⟩
  · rintro ⟨single, between⟩ sortings
    have listed := perm_listing size_pos ((endsBetween_joined single).mpr between) sortings
    rw [orderPages_eq size_pos size_le, ← joinedRows_order single, List.map_map]
    exact listed.map _

end Partition

/-! ## A list of two orders -/

/-- An order of the given number and creation time. -/
def listedOrder (orderNo : String) (createdAt : Nat) : OrderRow :=
  ⟨⟨ascii orderNo, 1, ascii "10.00", ascii "CNY", ascii "alipay", ascii "tea", none⟩, .PAYING,
    createdAt, createdAt⟩

def listedAttempt (paymentNo orderNo : String) : PaymentRow :=
  ⟨⟨ascii paymentNo, ascii orderNo, ascii "10.00"⟩, .PROCESSING, [], 1⟩

/-- Two orders, the first with the given attempts. -/
def twoOrders (first second : Nat) (attempts : List PaymentRow)
    (distinct : (attempts.map fun row => row.paymentNo).Nodup) : Db :=
  { Db.empty with
    orders := ⟨[listedOrder "a" first, listedOrder "b" second],
      show [ascii "a", ascii "b"].Nodup by decide⟩
    payments := ⟨attempts, distinct⟩ }

theorem pages_partition_two_orders :
    PagesPartition (twoOrders 2 1 [listedAttempt "p" "a"] (by decide)) [] 0 1 := by
  refine (pagesPartition_iff (by decide) (by decide)).mpr ⟨by decide, ?_⟩
  intro number positive below
  have isOne : number = 1 := by
    have two : number * 1 < 2 := below
    omega
  subst isOne
  exact ⟨2, by decide⟩

/-- An order that was offered twice is listed twice, and two orders of one time are
not told apart by their pages. -/
theorem pages_repeat_orders :
    ¬ PagesPartition
        (twoOrders 2 1 [listedAttempt "p" "a", listedAttempt "q" "a"] (by decide)) [] 0 10 ∧
      ¬ PagesPartition (twoOrders 1 1 [] (by decide)) [] 0 1 := by
  constructor
  · intro partition
    have single := single_of_partition (by decide) (by decide) partition
    exact absurd (single (listedOrder "a" 2) (by decide)) (by decide)
  · intro partition
    obtain ⟨least, counted⟩ :=
      endsBetween_of_partition (by decide) (by decide) partition 1 (by decide) (by decide)
    -- both orders count, or neither
    have both : ([listedOrder "a" 1, listedOrder "b" 1].countP
        fun order => least ≤ order.createdAt) = 1 := counted
    by_cases early : least ≤ 1
    · simp [listedOrder, early] at both
    · simp [listedOrder, early] at both

end DrogonPay.PaymentService
