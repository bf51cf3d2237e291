import RecordSheets.Proofs.Catalogue.Search
import RecordSheets.Proofs.Json.FaultPlaces

/-!
# The two readings of a record file

The threshold of a catalogue decides which files are mapped into memory and which are read through a buffer. It decides nothing else:
for every content of its file a category has the same records, no records, or the same failure with either reading
(`Catalogue.fetch_thresholds`). Only one failure can tell the two apart, by the place of a number that is out of range
(`Catalogue.SameAnswer`).

This is about files. A path that leads to a folder by the time its records are wanted is refused in two different ways.
-/

namespace RecordSheets

namespace Catalogue

/-! ## Answers that are the same -/

/-- A record file with a number that is out of range at a line and a column. -/
def outOfRange (path : String) (place : Nat × Nat) : Failure :=
  .sourceUnreadable path (.fault .numberOutOfRange place.1 place.2)

/-- Two answers that are the same, or that report a number of the same file to be out of range at places one byte apart. -/
inductive SameAnswer {α : Type} : Except Failure α → Except Failure α → Prop where
  | same (answer : Except Failure α) : SameAnswer answer answer
  | later (path : String) {place next : Nat × Nat} (h : Json.OneOn place next) :
    SameAnswer (.error (outOfRange path place)) (.error (outOfRange path next))
  | earlier (path : String) {place next : Nat × Nat} (h : Json.OneOn place next) :
    SameAnswer (.error (outOfRange path next)) (.error (outOfRange path place))

namespace SameAnswer

variable {α β : Type} {x y : Except Failure α}

theorem symm (h : SameAnswer x y) : SameAnswer y x := by
  cases h with
  | same => exact .same _
  | later path h => exact .earlier path h
  | earlier path h => exact .later path h

theorem bind (h : SameAnswer x y) (f : α → Except Failure β) : SameAnswer (x.bind f) (y.bind f) := by
  cases h with
  | same => exact .same _
  | later path h => exact .later path h
  | earlier path h => exact .earlier path h

end SameAnswer

/-! ## One file -/

variable {t : FileTree} {c : Catalogue} {path category : String}

/-- What does not lead to a folder gives the same document mapped into memory and through a buffer. -/
theorem document_mapped_buffered (h : t.hasFolder path = false) :
    SameAnswer (document t path .mapped) (document t path .buffered) := by
  cases hfind : t.find path with
  | error e =>
    simp only [document, hfind]
    exact .same _
  | ok entry =>
    cases entry with
    | folder => simp [FileTree.hasFolder, hfind] at h
    | file content =>
      simp only [document, hfind]
      cases hread : Json.read content with
      | ok v => exact .same _
      | error f =>
        simp only [Json.Fault.obstacle]
        rcases Json.place_read hread with hplace | ⟨hcause, hplace⟩
        · rw [hplace]
          exact .same _
        · rw [hcause]
          exact .later path hplace

/-- What does not lead to a folder gives the same document in whichever ways it is read. -/
theorem document_readings (h : t.hasFolder path = false) (reading other : Json.Reading) :
    SameAnswer (document t path reading) (document t path other) := by
  cases reading with
  | mapped =>
    cases other with
    | mapped => exact .same _
    | buffered => exact document_mapped_buffered h
  | buffered =>
    cases other with
    | mapped => exact (document_mapped_buffered h).symm
    | buffered => exact .same _

/-! ## The records of a category -/

/-- The records in a document that a path led to. -/
def recordsIn (path : String) : Json → Except Failure (Option (List Json))
  | .arr [] => .ok none
  | .arr records => .ok (some records)
  | _ => .error (.sourceNotAList path)

/-- The records of a category are those in the document of its file. -/
theorem fetch_eq_bind (hpath : c.pathFor? category = some path) :
    c.fetch t category =
      (document t path (if c.threshold ≤ sizeAt t path then .mapped else .buffered)).bind (recordsIn path) := by
  simp only [fetch, hpath]
  cases document t path (if c.threshold ≤ sizeAt t path then .mapped else .buffered) with
  | error e => rfl
  | ok v =>
    cases v with
    | arr records => cases records <;> rfl
    | _ => rfl

/-- A category whose path does not lead to a folder has the same records for every threshold. -/
theorem fetch_readings (h : ∀ path, c.pathFor? category = some path → t.hasFolder path = false) (a b : Nat) :
    SameAnswer ({ c with threshold := a }.fetch t category) ({ c with threshold := b }.fetch t category) := by
  cases hpath : c.pathFor? category with
  | none =>
    have hnone : ∀ n, { c with threshold := n }.fetch t category = .ok none := by
      intro n
      have hpath' : { c with threshold := n }.pathFor? category = none := hpath
      simp only [fetch, hpath']
    rw [hnone a, hnone b]
    exact .same _
  | some path =>
    have hbind : ∀ n, { c with threshold := n }.fetch t category =
        (document t path (if n ≤ sizeAt t path then .mapped else .buffered)).bind (recordsIn path) := by
      intro n
      exact fetch_eq_bind hpath
    rw [hbind a, hbind b]
    exact (document_readings (h path hpath) _ _).bind _

variable {dir : String} {maxDepth : Option Nat} {filter : CategoryFilter}

/-- In the tree that was searched the path of a category leads to a file. -/
theorem hasFile_of_scan (hscan : scan t dir maxDepth filter = .ok c) (hpath : c.pathFor? category = some path) : t.hasFile path = true := by
  obtain ⟨folder, q, -, -, hq, -, rfl⟩ := exists_place_of_scan hscan hpath
  exact (Bool.and_eq_true_iff.1 (List.mem_filter.1 hq).2).2

/-- The categories of a folder make the same batch for every threshold, and the same ones are left out of it. -/
theorem loadBatch_thresholds (hscan : scan t dir maxDepth filter = .ok c) (categories : List String) (a b : Nat) :
    ({ c with threshold := a }.loadBatch t categories).1 = ({ c with threshold := b }.loadBatch t categories).1 ∧
      ({ c with threshold := a }.loadBatch t categories).2.map Prod.fst =
        ({ c with threshold := b }.loadBatch t categories).2.map Prod.fst := by
  induction categories with
  | nil => exact ⟨rfl, rfl⟩
  | cons category rest ih =>
    obtain ⟨hbatch, hleft⟩ := ih
    have hhead : SameAnswer ({ c with threshold := a }.fetch t category) ({ c with threshold := b }.fetch t category) :=
      fetch_readings (fun path hpath => FileTree.not_hasFolder_of_hasFile (hasFile_of_scan hscan hpath)) a b
    simp only [loadBatch]
    generalize { c with threshold := a }.fetch t category = x at hhead
    generalize { c with threshold := b }.fetch t category = y at hhead
    cases hhead with
    | same =>
      rcases x with e | _ | records
      · simp [hbatch, hleft]
      · simp [hbatch, hleft]
      · simp [hbatch, hleft]
    | later path h => simp [hbatch, hleft]
    | earlier path h => simp [hbatch, hleft]

/-- A category of a folder has the same records, has none, or fails for the same reason and the same file, whichever threshold decides
between the two readings: in the tree that was searched, and in every other one where its path does not lead to a folder. Only the
place of a number out of range may be named one byte apart. -/
theorem fetch_thresholds (hscan : scan t dir maxDepth filter = .ok c) (category : String) (a b : Nat) :
    SameAnswer ({ c with threshold := a }.fetch t category) ({ c with threshold := b }.fetch t category) ∧
      ∀ t', (∀ path, c.pathFor? category = some path → t'.hasFolder path = false) →
        SameAnswer ({ c with threshold := a }.fetch t' category) ({ c with threshold := b }.fetch t' category) := by
  constructor
  · exact fetch_readings (fun path hpath => FileTree.not_hasFolder_of_hasFile (hasFile_of_scan hscan hpath)) a b
  · intro t' h
    exact fetch_readings h a b

/-- A folder with one record file of a content. -/
def oneFile (content : String) : FileTree := ⟨[("in", .folder [("hull.json", .file (Utf8.encode content))])], []⟩

/-- The theorem at a number that is out of range at the end of a line. A buffered stream counts the line break, so it names the start of
the next line. Once the file is empty, the two agree as well. -/
theorem fetch_thresholds_longNumber :
    ∃ c, scan (oneFile "[1e400\n]") "in" none .all = .ok c ∧
      { c with threshold := 0 }.fetch (oneFile "[1e400\n]") "船体" = .error (outOfRange "in/hull.json" (1, 6)) ∧
      { c with threshold := 9 }.fetch (oneFile "[1e400\n]") "船体" = .error (outOfRange "in/hull.json" (2, 0)) ∧
      SameAnswer ({ c with threshold := 0 }.fetch (oneFile "[1e400\n]") "船体")
        ({ c with threshold := 9 }.fetch (oneFile "[1e400\n]") "船体") ∧
      SameAnswer ({ c with threshold := 0 }.fetch (oneFile "") "船体") ({ c with threshold := 9 }.fetch (oneFile "") "船体") := by
  have hlocate : (oneFile "[1e400\n]").locate "in" = .ok ["in"] := rfl
  have hscan : scan (oneFile "[1e400\n]") "in" none .all = .ok { entries := [("船体", "in/hull.json")] } := by
    rw [scan_of_inOrder hlocate rfl rfl (by decide +kernel)]
    rfl
  obtain ⟨hhere, hthere⟩ := fetch_thresholds hscan "船体" 0 9
  refine ⟨_, hscan, by rfl, by rfl, hhere, ?_⟩
  refine hthere (oneFile "") fun path hpath => ?_
  obtain rfl : "in/hull.json" = path := Option.some.inj hpath
  rfl

end Catalogue

end RecordSheets
