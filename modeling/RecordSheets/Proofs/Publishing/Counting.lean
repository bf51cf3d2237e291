import Mathlib.Algebra.GroupWithZero.Nat
import RecordSheets.Publisher
import RecordSheets.Statistics

/-!
# Counting outcomes

Outcomes are counted twice: by the statistics, step by step and modulo 2^64, and by the report, which also lists them. Both are said
by what an outcome adds. A counter holds the sum of what the steps add to it (`Statistics.counter_ticks`), in whatever order they
come, and a report is made of the outcomes of a batch in batch order (`Report.ofBatch_eq`).
-/

namespace RecordSheets

/-- A position of a list splits it, and setting the position changes what stands there. -/
theorem exists_split_set {α : Type} {xs : List α} {i : Nat} {x : α} (h : xs[i]? = some x) (y : α) :
    ∃ before behind, xs = before ++ x :: behind ∧ xs.set i y = before ++ y :: behind := by
  obtain ⟨hlt, rfl⟩ := List.getElem?_eq_some_iff.1 h
  obtain ⟨before, behind, hsplit, -, hset⟩ := @List.exists_of_set _ i y xs hlt
  exact ⟨before, behind, hsplit, hset⟩

/-! ## Counters -/

/-- The counters that steps add to. -/
inductive Counter where
  | success
  | error
  | empty
  | unavailable
  | rows
  | bytes
  deriving DecidableEq, Repr

/-- What a step adds to a counter. -/
def Tick.amount : Counter → Tick → Nat
  | .success, .success => 1
  | .error, .error => 1
  | .empty, .empty => 1
  | .unavailable, .unavailable => 1
  | .rows, .rows n => n.toNat
  | .bytes, .bytes n => n.toNat
  | _, _ => 0

def Tick.total (k : Counter) (steps : List Tick) : Nat := (steps.map (Tick.amount k)).sum

theorem Tick.total_perm (k : Counter) {steps steps' : List Tick} (h : steps.Perm steps') :
    Tick.total k steps = Tick.total k steps' := (h.map (Tick.amount k)).sum_nat

theorem Tick.total_append (k : Counter) (steps steps' : List Tick) :
    Tick.total k (steps ++ steps') = Tick.total k steps + Tick.total k steps' := by
  simp [Tick.total]

namespace Statistics

/-- The value of a counter. -/
def counter (s : Statistics) : Counter → UInt64
  | .success => s.success
  | .error => s.error
  | .empty => s.empty
  | .unavailable => s.unavailable
  | .rows => s.rows
  | .bytes => s.bytes

/-- One step adds its amount to each counter. -/
theorem counter_tick (s : Statistics) (step : Tick) (k : Counter) :
    (s.tick step).counter k = s.counter k + UInt64.ofNat (step.amount k) := by
  cases step <;> cases k <;> simp [tick, counter, Tick.amount]

/-- Some steps add the sum of their amounts to each counter. -/
theorem counter_ticks (s : Statistics) (steps : List Tick) (k : Counter) :
    (s.ticks steps).counter k = s.counter k + UInt64.ofNat (Tick.total k steps) := by
  induction steps generalizing s with
  | nil => simp [ticks, Tick.total]
  | cons step rest ih =>
    have hrest : (s.ticks (step :: rest)).counter k = ((s.tick step).ticks rest).counter k := rfl
    rw [hrest, ih, counter_tick, Tick.total, Tick.total, List.map_cons, List.sum_cons, UInt64.ofNat_add, UInt64.add_assoc]

end Statistics

/-! ## Reports -/

namespace Outcome

def path? : Outcome → Option String
  | .written path _ _ => some path
  | _ => none

/-- Why an outcome is a failure, if it is one. -/
def reason? : Outcome → Option String
  | .failed reason => some reason
  | _ => none

def isEmpty : Outcome → Bool
  | .empty => true
  | _ => false

def isWritten (outcome : Outcome) : Bool := outcome.path?.isSome

end Outcome

namespace Report

/-- The failures of categories with their outcomes, in order. -/
def failuresOf (xs : List (CategoryRecords × Outcome)) : List (String × String) :=
  xs.filterMap fun x => x.2.reason?.map fun reason => (x.1.category, reason)

/-- The categories that had nothing to write, of categories with their outcomes, in order. -/
def emptiesOf (xs : List (CategoryRecords × Outcome)) : List String :=
  (xs.filter fun x => x.2.isEmpty).map fun x => x.1.category

/-- Recording outcomes one after the other appends each to the list of its kind and counts it there. -/
theorem foldl_record (xs : List (CategoryRecords × Outcome)) (r : Report) :
    xs.foldl (fun r x => r.record x.1.category x.2) r =
      { success := r.success + (xs.filterMap fun x => x.2.path?).length
        failed := r.failed + (failuresOf xs).length
        empty := r.empty + (emptiesOf xs).length
        files := r.files ++ xs.filterMap fun x => x.2.path?
        failures := r.failures ++ failuresOf xs
        emptyCategories := r.emptyCategories ++ emptiesOf xs
        unavailable := r.unavailable } := by
  induction xs generalizing r with
  | nil => simp [failuresOf, emptiesOf]
  | cons x rest ih =>
    obtain ⟨entry, outcome⟩ := x
    rw [List.foldl_cons, ih]
    cases outcome <;>
      simp [record, failuresOf, emptiesOf, Outcome.path?, Outcome.reason?, Outcome.isEmpty, Nat.add_assoc, Nat.add_comm 1]

/-- The report on a batch splits its categories by their outcomes, in batch order, and counts them. -/
theorem ofBatch_eq (batch : List CategoryRecords) (outcomes : List Outcome) :
    ofBatch batch outcomes =
      { success := ((batch.zip outcomes).filterMap fun x => x.2.path?).length
        failed := (failuresOf (batch.zip outcomes)).length
        empty := (emptiesOf (batch.zip outcomes)).length
        files := (batch.zip outcomes).filterMap fun x => x.2.path?
        failures := failuresOf (batch.zip outcomes)
        emptyCategories := emptiesOf (batch.zip outcomes)
        unavailable := [] } := by
  have hfold : ofBatch batch outcomes = (batch.zip outcomes).foldl (fun r x => r.record x.1.category x.2) {} := rfl
  rw [hfold, foldl_record]
  simp

/-- Recording categories without records changes the list of these only. -/
theorem foldl_recordUnavailable (xs : List (String × String)) (r : Report) :
    xs.foldl (fun r x => r.recordUnavailable x.1 x.2) r = { r with unavailable := r.unavailable ++ xs } := by
  induction xs generalizing r with
  | nil => simp
  | cons x rest ih =>
    rw [List.foldl_cons, ih]
    simp [recordUnavailable]

end Report

end RecordSheets
