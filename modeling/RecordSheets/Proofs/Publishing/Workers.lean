import RecordSheets.Proofs.Publishing.Counting

/-!
# Workers that count at the same time

Several workers count what becomes of the categories on the same counters. A written sheet takes a worker three steps, and between them
the others take theirs: whoever's turn it is takes one step (`Crew.turn`), and any list of turns is a schedule. Once nobody has a step
left, the counters hold what was counted modulo 2^64, whichever worker counted it and whenever (`Statistics.tallies_run`).

What a counter holds together with what the steps that are left will add to it is the same before and after each turn
(`Crew.counter_turn`). So at the end it is what all steps add, and at no time does it matter whose outcome is counted half.
-/

namespace RecordSheets

/-! ## What is counted -/

/-- What is counted: the outcome of a category, or that the records of one could not be had. -/
inductive Counted where
  | outcome (o : Outcome)
  | unavailable
  deriving DecidableEq, Repr

namespace Counted

/-- The steps that count it. -/
def ticks : Counted → List Tick
  | .outcome o => o.ticks
  | .unavailable => [.unavailable]

/-- The outcome that is counted, if it is one. -/
def outcome? : Counted → Option Outcome
  | .outcome o => some o
  | .unavailable => none

/-- Tells whether a category without records is counted. -/
def isUnavailable : Counted → Bool
  | .outcome _ => false
  | .unavailable => true

/-- What it is worth to a counter without a bound. -/
def worth : Counter → Counted → Nat
  | .success, .outcome (.written ..) => 1
  | .error, .outcome (.failed _) => 1
  | .empty, .outcome .empty => 1
  | .unavailable, .unavailable => 1
  | .rows, .outcome (.written _ rows _) => rows
  | .bytes, .outcome (.written _ _ bytes) => bytes
  | _, _ => 0

/-- The steps that count it add its worth, as far as a counter can tell. -/
theorem ofNat_total_ticks (x : Counted) (k : Counter) : UInt64.ofNat (Tick.total k x.ticks) = UInt64.ofNat (x.worth k) := by
  rcases x with (⟨path, rows, bytes⟩ | _ | _) | _
  case outcome.written =>
    have hrows : UInt64.ofNat rows.toUInt64.toNat = UInt64.ofNat rows := UInt64.ofNat_toNat
    have hbytes : UInt64.ofNat bytes.toUInt64.toNat = UInt64.ofNat bytes := UInt64.ofNat_toNat
    cases k <;> simp only [ticks, worth, Outcome.ticks, Tick.total, List.map_cons, List.map_nil, List.sum_cons, List.sum_nil,
      Tick.amount, Nat.add_zero, Nat.zero_add, hrows, hbytes]
  all_goals cases k <;> rfl

/-- The steps that count several things add what these are worth together. -/
theorem ofNat_total_flatMap (xs : List Counted) (k : Counter) :
    UInt64.ofNat (Tick.total k (xs.flatMap ticks)) = UInt64.ofNat (xs.map (worth k)).sum := by
  induction xs with
  | nil => rfl
  | cons x rest ih =>
    rw [List.flatMap_cons, Tick.total_append, List.map_cons, List.sum_cons, UInt64.ofNat_add, UInt64.ofNat_add, ih,
      ofNat_total_ticks]

end Counted

namespace Outcome

def isFailed (outcome : Outcome) : Bool := outcome.reason?.isSome

def rows : Outcome → Nat
  | .written _ rows _ => rows
  | _ => 0

def bytes : Outcome → Nat
  | .written _ _ bytes => bytes
  | _ => 0

end Outcome

/-- The counters hold the numbers of outcomes of each kind, of categories without records, and of rows and bytes, all modulo 2^64. -/
structure Statistics.Tallies (s : Statistics) (outcomes : List Outcome) (unavailable : Nat) : Prop where
  /-- The sheets that were written. -/
  success : s.success.toNat = outcomes.countP Outcome.isWritten % UInt64.size
  /-- The categories that failed. -/
  error : s.error.toNat = outcomes.countP Outcome.isFailed % UInt64.size
  /-- The categories that had nothing to write. -/
  empty : s.empty.toNat = outcomes.countP Outcome.isEmpty % UInt64.size
  /-- The categories without records. -/
  unavailable : s.unavailable.toNat = unavailable % UInt64.size
  /-- The rows that were written. -/
  rows : s.rows.toNat = (outcomes.map Outcome.rows).sum % UInt64.size
  /-- The bytes that were written. -/
  bytes : s.bytes.toNat = (outcomes.map Outcome.bytes).sum % UInt64.size

/-- What things are worth together is how many of them there are of each kind, and what the written sheets hold. -/
theorem Counted.sum_worth (xs : List Counted) :
    (xs.map (worth .success)).sum = (xs.filterMap outcome?).countP Outcome.isWritten ∧
      (xs.map (worth .error)).sum = (xs.filterMap outcome?).countP Outcome.isFailed ∧
      (xs.map (worth .empty)).sum = (xs.filterMap outcome?).countP Outcome.isEmpty ∧
      (xs.map (worth .unavailable)).sum = xs.countP isUnavailable ∧
      (xs.map (worth .rows)).sum = ((xs.filterMap outcome?).map Outcome.rows).sum ∧
      (xs.map (worth .bytes)).sum = ((xs.filterMap outcome?).map Outcome.bytes).sum := by
  induction xs with
  | nil => exact ⟨rfl, rfl, rfl, rfl, rfl, rfl⟩
  | cons x rest ih =>
    obtain ⟨hsuccess, herror, hempty, hunavailable, hrows, hbytes⟩ := ih
    simp only [List.map_cons, List.sum_cons, hsuccess, herror, hempty, hunavailable, hrows, hbytes]
    rcases x with (_ | _ | _) | _ <;>
      simp [worth, outcome?, isUnavailable, List.filterMap_cons, List.countP_cons, Outcome.isWritten, Outcome.path?,
        Outcome.isFailed, Outcome.reason?, Outcome.isEmpty, Outcome.rows, Outcome.bytes, Nat.add_comm 1]

/-! ## Workers -/

/-- Counters, and the steps that each of the workers at them still has to take. -/
structure Crew where
  /-- The counters. -/
  counters : Statistics
  /-- The steps that are left to each worker, in order. -/
  left : List (List Tick)
  deriving DecidableEq, Repr

namespace Crew

/-- Workers at some counters before the first turn, each with things to count one after the other. -/
def start (s : Statistics) (work : List (List Counted)) : Crew := ⟨s, work.map fun xs => xs.flatMap Counted.ticks⟩

/-- The worker of a number takes its next step, if it has one. -/
def turn (c : Crew) (i : Nat) : Crew :=
  match c.left[i]? with
  | some (step :: rest) => ⟨c.counters.tick step, c.left.set i rest⟩
  | _ => c

def run (c : Crew) (turns : List Nat) : Crew := turns.foldl turn c

/-- Nobody has a step left. -/
def Done (c : Crew) : Prop := ∀ steps ∈ c.left, steps = []

instance (c : Crew) : Decidable c.Done := inferInstanceAs (Decidable (∀ steps ∈ c.left, steps = []))

/-- A turn changes nothing, or one worker takes the first of the steps that are left to it. -/
theorem turn_cases (c : Crew) (i : Nat) :
    c.turn i = c ∨ ∃ before step rest behind, c.left = before ++ (step :: rest) :: behind ∧
      c.turn i = ⟨c.counters.tick step, before ++ rest :: behind⟩ := by
  unfold turn
  split
  · rename_i step rest hi
    obtain ⟨before, behind, hleft, hset⟩ := exists_split_set hi rest
    exact .inr ⟨before, step, rest, behind, hleft, by rw [hset]⟩
  · exact .inl rfl

/-- A worker with a step left takes it when its turn comes. -/
theorem turn_of_split (s : Statistics) (before : List (List Tick)) (step : Tick) (rest : List Tick) (behind : List (List Tick)) :
    (Crew.mk s (before ++ (step :: rest) :: behind)).turn before.length = ⟨s.tick step, before ++ rest :: behind⟩ := by
  simp [turn]

/-- A turn moves what it adds to a counter from the steps that are left to the counter. -/
theorem counter_turn (c : Crew) (i : Nat) (k : Counter) :
    (c.turn i).counters.counter k + UInt64.ofNat (Tick.total k (c.turn i).left.flatten) =
      c.counters.counter k + UInt64.ofNat (Tick.total k c.left.flatten) := by
  rcases c.turn_cases i with hsame | ⟨before, step, rest, behind, hleft, hturn⟩
  · rw [hsame]
  · have hstep : Tick.total k (step :: rest) = step.amount k + Tick.total k rest := by simp [Tick.total]
    rw [hturn, hleft]
    simp only [Statistics.counter_tick, List.flatten_append, List.flatten_cons, Tick.total_append, hstep, UInt64.ofNat_add]
    ac_rfl

theorem counter_run (c : Crew) (turns : List Nat) (k : Counter) :
    (c.run turns).counters.counter k + UInt64.ofNat (Tick.total k (c.run turns).left.flatten) =
      c.counters.counter k + UInt64.ofNat (Tick.total k c.left.flatten) := by
  induction turns generalizing c with
  | nil => rfl
  | cons i rest ih =>
    rw [run, List.foldl_cons, ← run, ih, counter_turn]

theorem total_run (c : Crew) (turns : List Nat) : (c.run turns).counters.total = c.counters.total := by
  induction turns generalizing c with
  | nil => rfl
  | cons i rest ih =>
    rw [run, List.foldl_cons, ← run, ih]
    rcases c.turn_cases i with hsame | ⟨before, step, more, behind, -, hturn⟩
    · rw [hsame]
    · rw [hturn]
      cases step <;> rfl

theorem done_iff (c : Crew) : c.Done ↔ c.left.flatten = [] := List.flatten_eq_nil_iff.symm

/-- Once nobody has a step left, the counters hold what all things are worth. -/
theorem counter_run_of_done {s : Statistics} {work : List (List Counted)} {turns : List Nat}
    (h : ((start s work).run turns).Done) (k : Counter) :
    ((start s work).run turns).counters.counter k = s.counter k + UInt64.ofNat (work.flatten.map (Counted.worth k)).sum := by
  have hrun := counter_run (start s work) turns k
  have hall : (start s work).left.flatten = work.flatten.flatMap Counted.ticks := by
    rw [start, List.flatMap_def, List.map_flatten, List.flatten_flatten, List.map_map]
    simp only [List.flatMap_def, Function.comp_def]
  rw [(done_iff _).1 h, hall, Counted.ofNat_total_flatMap] at hrun
  have hnone : UInt64.ofNat (Tick.total k []) = 0 := rfl
  rw [hnone, UInt64.add_zero] at hrun
  exact hrun

/-- Whatever turns were taken, the workers can come to an end. -/
theorem exists_done (c : Crew) : ∃ turns, (c.run turns).Done := by
  induction hn : c.left.flatten.length generalizing c with
  | zero => exact ⟨[], (done_iff c).2 (List.eq_nil_of_length_eq_zero hn)⟩
  | succ n ih =>
    obtain ⟨s, left⟩ := c
    obtain ⟨steps, hmem, hne⟩ : ∃ steps ∈ left, steps ≠ [] := by
      have hflat : left.flatten ≠ [] := List.ne_nil_of_length_eq_add_one hn
      simpa [List.flatten_eq_nil_iff] using hflat
    obtain ⟨step, rest, rfl⟩ := List.exists_cons_of_ne_nil hne
    obtain ⟨before, behind, rfl⟩ := List.append_of_mem hmem
    have hless : (before ++ rest :: behind).flatten.length = n := by
      simp only [List.flatten_append, List.flatten_cons, List.length_append, List.length_cons] at hn ⊢
      omega
    obtain ⟨turns, hturns⟩ := ih ⟨s.tick step, before ++ rest :: behind⟩ hless
    refine ⟨before.length :: turns, ?_⟩
    rwa [run, List.foldl_cons, turn_of_split, ← run]

end Crew

/-! ## What the counters come to -/

/-- Statistics are told apart by a counter, or by the number of categories. -/
theorem Statistics.eq_of_counter {s s' : Statistics} (htotal : s.total = s'.total) (h : ∀ k, s.counter k = s'.counter k) :
    s = s' := by
  obtain ⟨total, success, error, empty, unavailable, rows, bytes⟩ := s
  obtain ⟨total', success', error', empty', unavailable', rows', bytes'⟩ := s'
  cases htotal
  cases h .success
  cases h .error
  cases h .empty
  cases h .unavailable
  cases h .rows
  cases h .bytes
  rfl

/-- All things that are counted are outcomes or categories without records. -/
theorem Counted.length_eq (xs : List Counted) :
    xs.length = (xs.filterMap outcome?).length + xs.countP isUnavailable := by
  induction xs with
  | nil => rfl
  | cons x rest ih =>
    cases x <;> simp [outcome?, isUnavailable, List.filterMap_cons, List.countP_cons, ih, Nat.add_assoc, Nat.add_comm 1]

/-- Numbers of outcomes that fit into a counter are counted exactly. -/
theorem Statistics.Tallies.exact {s : Statistics} {outcomes : List Outcome} {unavailable : Nat}
    (h : s.Tallies outcomes unavailable) (hfew : outcomes.length + unavailable < UInt64.size) :
    s.success.toNat = outcomes.countP Outcome.isWritten ∧ s.error.toNat = outcomes.countP Outcome.isFailed ∧
      s.empty.toNat = outcomes.countP Outcome.isEmpty ∧ s.unavailable.toNat = unavailable := by
  have hsuccess : outcomes.countP Outcome.isWritten ≤ outcomes.length := List.countP_le_length
  have herror : outcomes.countP Outcome.isFailed ≤ outcomes.length := List.countP_le_length
  have hempty : outcomes.countP Outcome.isEmpty ≤ outcomes.length := List.countP_le_length
  rw [h.success, h.error, h.empty, h.unavailable]
  refine ⟨Nat.mod_eq_of_lt ?_, Nat.mod_eq_of_lt ?_, Nat.mod_eq_of_lt ?_, Nat.mod_eq_of_lt ?_⟩ <;> omega

namespace Crew

/-- Some turns bring workers with things to count to an end, at which their counters hold certain values. -/
structure Ends (s : Statistics) (work : List (List Counted)) (turns : List Nat) (s' : Statistics) : Prop where
  /-- Nobody has a step left. -/
  done : ((start s work).run turns).Done
  /-- The counters hold these values. -/
  counters : ((start s work).run turns).counters = s'

variable {s s' : Statistics} {work : List (List Counted)} {turns : List Nat}

/-- At the end each counter has grown by what all things are worth to it. -/
theorem Ends.counter (h : Ends s work turns s') (k : Counter) :
    s'.counter k = s.counter k + UInt64.ofNat (work.flatten.map (Counted.worth k)).sum := by
  rw [← h.counters, counter_run_of_done h.done]

/-- The same things end in the same counters, whoever counts them and in whatever order the steps are taken. -/
theorem Ends.unique (h : Ends s work turns s') {work' : List (List Counted)} {turns' : List Nat} {s'' : Statistics}
    (h' : Ends s work' turns' s'') (hperm : work'.flatten.Perm work.flatten) : s'' = s' := by
  refine Statistics.eq_of_counter ?_ fun k => ?_
  · rw [← h.counters, ← h'.counters, total_run, total_run]
    rfl
  · rw [h.counter, h'.counter, (hperm.map (Counted.worth k)).sum_nat]

/-- At the end counters that started at zero tell what was counted. -/
theorem Ends.tallies {total : Nat} (h : Ends { total := total } work turns s') :
    s'.Tallies (work.flatten.filterMap Counted.outcome?) (work.flatten.countP Counted.isUnavailable) := by
  have hcounter : ∀ k, (s'.counter k).toNat = (work.flatten.map (Counted.worth k)).sum % UInt64.size := by
    intro k
    have hzero : Statistics.counter { total := total } k = 0 := by cases k <;> rfl
    rw [h.counter, hzero, UInt64.zero_add, UInt64.toNat_ofNat']
  obtain ⟨hsuccess, herror, hempty, hunavailable, hrows, hbytes⟩ := Counted.sum_worth work.flatten
  exact
    { success := hsuccess ▸ hcounter .success
      error := herror ▸ hcounter .error
      empty := hempty ▸ hcounter .empty
      unavailable := hunavailable ▸ hcounter .unavailable
      rows := hrows ▸ hcounter .rows
      bytes := hbytes ▸ hcounter .bytes }

/-- Whatever turns were taken, some more bring the workers to an end. -/
theorem exists_ends (s : Statistics) (work : List (List Counted)) (turns : List Nat) :
    ∃ more s', Ends s work (turns ++ more) s' := by
  obtain ⟨more, hdone⟩ := exists_done ((start s work).run turns)
  refine ⟨more, _, ?_, rfl⟩
  rwa [run, List.foldl_append]

end Crew

/-- Workers that count at the same time can come to an end whatever turns were taken, and then the counters tell what was counted: the
numbers of outcomes of each kind and of categories without records, exactly if they fit into a counter, and the sums of rows and bytes
modulo 2^64. The same things end in the same counters, whoever counts them and in whatever order the steps are taken. -/
theorem Statistics.tallies_run (total : Nat) (work : List (List Counted)) :
    (∀ turns, ∃ more s, Crew.Ends { total := total } work (turns ++ more) s) ∧
      ∀ (turns : List Nat) (s : Statistics), Crew.Ends { total := total } work turns s →
        s.Tallies (work.flatten.filterMap Counted.outcome?) (work.flatten.countP Counted.isUnavailable) ∧
        (work.flatten.length < UInt64.size →
          s.success.toNat = (work.flatten.filterMap Counted.outcome?).countP Outcome.isWritten ∧
            s.error.toNat = (work.flatten.filterMap Counted.outcome?).countP Outcome.isFailed ∧
            s.empty.toNat = (work.flatten.filterMap Counted.outcome?).countP Outcome.isEmpty ∧
            s.unavailable.toNat = work.flatten.countP Counted.isUnavailable) ∧
        ∀ (work' : List (List Counted)) (turns' : List Nat) (s' : Statistics), work'.flatten.Perm work.flatten →
          Crew.Ends { total := total } work' turns' s' → s' = s := by
  refine ⟨Crew.exists_ends _ work, fun turns s h => ⟨h.tallies, fun hfew => ?_, fun work' turns' s' hperm h' => ?_⟩⟩
  · exact h.tallies.exact (Counted.length_eq work.flatten ▸ hfew)
  · exact h.unique h' hperm

namespace Crew

/-- Two workers: one counts a sheet with nearly as many rows as a counter holds and a category without records, the other three
outcomes. -/
def pair : List (List Counted) :=
  [[.outcome (.written "data/船.csv" 18446744073709551615 7), .unavailable],
    [.outcome (.failed ""), .outcome (.written "data/皮.csv" 3 5), .outcome .empty]]

/-- The same things counted by one worker, in another order. -/
def single : List (List Counted) :=
  [[.outcome .empty, .unavailable, .outcome (.written "data/皮.csv" 3 5),
    .outcome (.written "data/船.csv" 18446744073709551615 7), .outcome (.failed "")]]

/-- What both come to. -/
def pairCounters : Statistics := { total := 5, success := 2, error := 1, empty := 1, unavailable := 1, rows := 2, bytes := 12 }

end Crew

open Crew in
/-- The theorem where the steps of two workers alternate and the number of rows wraps around. -/
theorem Statistics.tallies_run_pair :
    Ends { total := 5 } pair [0, 1, 0, 1, 1, 0, 1, 0, 1] pairCounters ∧ pair.flatten.length < UInt64.size ∧
      single.flatten.Perm pair.flatten ∧
      pairCounters.rows.toNat = ([18446744073709551615, 3] : List Nat).sum % UInt64.size ∧ pairCounters.success.toNat = 2 ∧
      ∀ s, Ends { total := 5 } single [0, 0, 0, 0, 0, 0, 0, 0, 0] s → s = pairCounters := by
  have hends : Ends { total := 5 } pair [0, 1, 0, 1, 1, 0, 1, 0, 1] pairCounters := ⟨by decide +kernel, by decide +kernel⟩
  have hfew : pair.flatten.length < UInt64.size := by decide +kernel
  have hperm : single.flatten.Perm pair.flatten := by decide +kernel
  obtain ⟨htallies, hexact, hsame⟩ := (tallies_run 5 pair).2 _ _ hends
  exact ⟨hends, hfew, hperm, htallies.rows, (hexact hfew).1, fun s h => hsame _ _ _ hperm h⟩

end RecordSheets
