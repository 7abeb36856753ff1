import TunnelControl.Wire.Bytes

/-!
# Bytes that wait

A backlog holds bytes that were added in pieces and are taken in the order in which they came, so many at a
time.  The pieces that were added last are kept apart, the latest first, until all before them is taken.

* `Backlog.toList`     the bytes that wait;
* `Backlog.add`        adds a piece behind them;
* `Backlog.take`       takes the first of them.

`toList_add`, `take_fst` and `toList_take` say that these are `++`, `List.take` and `List.drop`.
-/

namespace TunnelControl

structure Backlog where
  /-- the bytes that come next -/
  next : Bytes := []
  /-- the pieces behind them, the latest first -/
  added : List Bytes := []
  deriving DecidableEq, Repr

namespace Backlog

def toList (b : Backlog) : Bytes := b.next ++ b.added.reverse.flatten

def length (b : Backlog) : Nat :=
  b.added.foldl (fun n piece => n + piece.length) b.next.length

def isEmpty (b : Backlog) : Bool := b.next.isEmpty && b.added.all List.isEmpty

def add (b : Backlog) (piece : Bytes) : Backlog := { b with added := piece :: b.added }

/-- the first `n` bytes, or as many as there are, and those behind them -/
def take (b : Backlog) (n : Nat) : Bytes × Backlog :=
  match b.next.splitAt n with
  | (piece, next@(_ :: _)) => (piece, { b with next })
  | (piece, []) =>
    let (more, next) := b.added.reverse.flatten.splitAt (n - piece.length)
    (piece ++ more, { next })

@[simp] theorem toList_empty : toList {} = [] := rfl

@[simp] theorem toList_add (b : Backlog) (piece : Bytes) : (b.add piece).toList = b.toList ++ piece := by
  simp [toList, add]

theorem length_eq (b : Backlog) : b.length = b.toList.length := by
  have h (pieces : List Bytes) (n : Nat) :
      pieces.foldl (fun n piece => n + piece.length) n = n + pieces.reverse.flatten.length := by
    induction pieces generalizing n with
    | nil => rfl
    | cons piece pieces ih =>
      rw [List.foldl_cons, ih, List.reverse_cons, List.flatten_append, List.length_append,
        List.flatten_singleton]
      omega
  rw [length, h, toList, List.length_append]

theorem isEmpty_eq (b : Backlog) : b.isEmpty = b.toList.isEmpty := by
  have append (xs ys : Bytes) : (xs ++ ys).isEmpty = (xs.isEmpty && ys.isEmpty) := by
    cases xs <;> rfl
  have h (pieces : List Bytes) : pieces.reverse.flatten.isEmpty = pieces.all List.isEmpty := by
    induction pieces with
    | nil => rfl
    | cons piece pieces ih =>
      rw [List.reverse_cons, List.flatten_append, append, ih, List.flatten_singleton, List.all_cons,
        Bool.and_comm]
  rw [isEmpty, toList, append, h]

/-- both parts of what is taken, in terms of the bytes that wait -/
private theorem take_eq (b : Backlog) (n : Nat) :
    (b.take n).1 = b.toList.take n ∧ (b.take n).2.toList = b.toList.drop n := by
  unfold take toList
  rw [List.splitAt_eq]
  cases h : b.next.drop n with
  | cons c cs =>
    have hn : n < b.next.length := by
      apply Nat.lt_of_not_le
      intro hle
      rw [List.drop_eq_nil_of_le hle] at h
      cases h
    constructor
    · rw [List.take_append_of_le_length (Nat.le_of_lt hn)]
    · rw [List.drop_append_of_le_length (Nat.le_of_lt hn), h]
  | nil =>
    have hn : b.next.length ≤ n := List.drop_eq_nil_iff.mp h
    rw [List.take_of_length_le hn]
    simp only [List.splitAt_eq, List.take_append, List.drop_append, List.take_of_length_le hn, h,
      List.nil_append, List.reverse_nil, List.flatten_nil, List.append_nil, and_self]

theorem take_fst (b : Backlog) (n : Nat) : (b.take n).1 = b.toList.take n := (take_eq b n).1

@[simp] theorem toList_take (b : Backlog) (n : Nat) : (b.take n).2.toList = b.toList.drop n :=
  (take_eq b n).2

end Backlog

end TunnelControl
