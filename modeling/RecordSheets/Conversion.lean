import RecordSheets.Catalogue
import RecordSheets.Publisher
import RecordSheets.Statistics

/-!
# Conversions

A conversion loads the records of all categories of a catalogue, publishes those that could be had, and counts what became of the
categories, for the report and for the statistics.
-/

namespace RecordSheets

/-- What converting the categories of a catalogue comes to. -/
structure Conversion where
  /-- The categories whose records were loaded. -/
  batch : List CategoryRecords
  /-- The categories whose records could not be had, with the reasons. -/
  unavailable : List (String × String)
  /-- What became of the categories of the batch. -/
  outcomes : List Outcome
  /-- The report on the batch, with the unavailable categories. -/
  report : Report
  /-- The steps by which the statistics count the unavailable categories and the outcomes. -/
  steps : List Tick
  /-- The files afterwards. -/
  tree : FileTree

/-- Converts the categories of a catalogue: loads them from a tree, publishes the batch at a desk and counts. -/
def Publisher.convert (p : Publisher) (c : Catalogue) (source : FileTree) (desk : Desk) : Conversion :=
  let (batch, unavailable) := c.loadBatch source c.categories
  let (outcomes, desk) := p.publishAll desk batch
  { batch := batch
    unavailable := unavailable
    outcomes := outcomes
    report := unavailable.foldl (fun r (category, reason) => r.recordUnavailable category reason) (Report.ofBatch batch outcomes)
    steps := unavailable.map (fun _ => Tick.unavailable) ++ outcomes.flatMap Outcome.ticks
    tree := desk.tree }

end RecordSheets
