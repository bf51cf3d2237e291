import Mathlib.Data.List.Nodup
import RecordSheets.Json.Reader

/-!
# The keys of a document

Every object of a document that is read has each of its keys once, even if the document gives a key more often: the member that comes
later takes the place of the one before. The reader holds nothing else at any time (`Reader.Distinct`): not in the lists and objects
that are open, and not at its spot.
-/

namespace RecordSheets

/-- A value in which every object has each of its keys once. -/
inductive Json.Distinct : Json → Prop where
  | null : Distinct .null
  | bool (b : Bool) : Distinct (.bool b)
  | int (i : Int) : Distinct (.int i)
  | float (x : Binary64) : Distinct (.float x)
  | str (s : String) : Distinct (.str s)
  | arr {items : List Json} (h : ∀ v ∈ items, Distinct v) : Distinct (.arr items)
  | obj {fields : Fields} (hkeys : fields.keys.Nodup) (h : ∀ x ∈ fields, Distinct x.2) : Distinct (.obj fields)

namespace Fields

/-- Members with different keys, and values in which every object has each of its keys once. -/
structure Distinct (fields : Fields) : Prop where
  /-- The keys differ. -/
  keys : fields.keys.Nodup
  /-- Every object in the values has each of its keys once. -/
  values : ∀ x ∈ fields, Json.Distinct x.2

/-- The members after an insertion are the new one and some of those before. -/
theorem mem_insert {fs : Fields} {key : String} {value : Json} {x : String × Json} (h : x ∈ fs.insert key value) :
    x = (key, value) ∨ x ∈ fs := by
  induction fs with
  | nil => exact .inl (List.mem_singleton.1 h)
  | cons y fs ih =>
    obtain ⟨k, v⟩ := y
    rw [insert] at h
    split at h
    · rename_i hk
      rcases List.mem_cons.1 h with h | h
      · exact .inl (by rw [h, hk])
      · exact .inr (List.mem_cons_of_mem _ h)
    · rcases List.mem_cons.1 h with h | h
      · exact .inr (by rw [h]; exact List.mem_cons_self)
      · exact (ih h).imp_right (List.mem_cons_of_mem _)

/-- An insertion keeps the keys different. -/
theorem nodup_keys_insert {fs : Fields} (h : fs.keys.Nodup) (key : String) (value : Json) :
    (fs.insert key value).keys.Nodup := by
  by_cases hk : key ∈ fs.keys
  · rwa [keys_insert_of_mem hk]
  · rw [insert_of_not_mem hk, keys, List.map_append, List.map_singleton, ← List.concat_eq_append]
    exact h.concat hk

theorem distinct_nil : Distinct [] := ⟨List.nodup_nil, by simp⟩

theorem Distinct.insert {fs : Fields} (h : fs.Distinct) (key : String) {value : Json} (hv : value.Distinct) :
    (fs.insert key value).Distinct := by
  refine ⟨nodup_keys_insert h.keys key value, ?_⟩
  intro x hx
  rcases mem_insert hx with rfl | hx
  · exact hv
  · exact h.values x hx

theorem Distinct.obj {fs : Fields} (h : fs.Distinct) : (Json.obj fs).Distinct := .obj h.keys h.values

end Fields

namespace Json

/-! ## What the reader holds -/

/-- An open list or object whose parts are distinct. -/
def Frame.Distinct : Frame → Prop
  | .list items => ∀ v ∈ items, v.Distinct
  | .member fields _ => fields.Distinct

/-- A spot that holds distinct values and members only. -/
def Spot.Distinct : Spot → Prop
  | .value _ => True
  | .key fields _ => fields.Distinct
  | .colon fields _ => fields.Distinct
  | .after v => v.Distinct
  | .word _ v => v.Distinct
  | .string .value _ _ => True
  | .string (.key fields) _ _ => fields.Distinct
  | .number _ => True

namespace Reader

/-- A reader that holds distinct values and members only. -/
structure Distinct (r : Reader) : Prop where
  /-- The open lists and objects are distinct. -/
  frames : ∀ f ∈ r.frames, f.Distinct
  /-- The spot is distinct. -/
  spot : r.spot.Distinct

variable {frames : List Frame} {r : Reader} {b : UInt8}

/-- A value begins with nothing but distinct parts. -/
theorem distinct_beginValue (hf : ∀ f ∈ frames, f.Distinct) {want : Want} (h : beginValue frames want b = .ok r) :
    r.Distinct := by
  have hlist : ∀ f ∈ Frame.list [] :: frames, f.Distinct := by
    rw [List.forall_mem_cons]
    exact ⟨by simp [Frame.Distinct], hf⟩
  unfold beginValue at h
  repeat' split at h
  all_goals cases h
  · exact ⟨hlist, trivial⟩
  · exact ⟨hf, Fields.distinct_nil⟩
  · exact ⟨hf, trivial⟩
  · exact ⟨hf, .null⟩
  · exact ⟨hf, .bool true⟩
  · exact ⟨hf, .bool false⟩
  · exact ⟨hf, trivial⟩
  · exact ⟨(List.forall_mem_cons.1 hf).2, .arr (by simp)⟩
  · exact ⟨hf, trivial⟩
  · exact ⟨hf, trivial⟩

/-- A key begins, or an object ends, with the members that there are. -/
theorem distinct_beginKey (hf : ∀ f ∈ frames, f.Distinct) {fields : Fields} (hfields : fields.Distinct) {opened : Bool}
    (h : beginKey frames fields opened b = .ok r) : r.Distinct := by
  unfold beginKey at h
  repeat' split at h
  all_goals cases h
  · exact ⟨hf, hfields⟩
  · exact ⟨hf, hfields.obj⟩

/-- Behind a distinct value the reader goes on with distinct parts. -/
theorem distinct_goOn (hf : ∀ f ∈ frames, f.Distinct) {v : Json} (hv : v.Distinct) (h : goOn frames v b = .ok r) :
    r.Distinct := by
  unfold goOn at h
  split at h
  · cases h
    exact ⟨hf, hv⟩
  · split at h
    · cases h
    · rename_i items outer
      rw [List.forall_mem_cons] at hf
      have hitems : ∀ w ∈ v :: items, w.Distinct := List.forall_mem_cons.2 ⟨hv, hf.1⟩
      split at h
      · cases h
        exact ⟨List.forall_mem_cons.2 ⟨hitems, hf.2⟩, trivial⟩
      · split at h
        · cases h
          exact ⟨hf.2, .arr fun w hw => hitems w (List.mem_reverse.1 hw)⟩
        · cases h
    · rename_i fields key outer
      rw [List.forall_mem_cons] at hf
      have hfields : (fields.insert key v).Distinct := Fields.Distinct.insert hf.1 key hv
      repeat' split at h
      all_goals cases h
      · exact ⟨hf.2, hfields⟩
      · exact ⟨hf.2, hfields.obj⟩

/-- A string ends as a value without objects, or as a key behind the members that there are. -/
theorem distinct_endString (hf : ∀ f ∈ frames, f.Distinct) {role : Role} {got : Bytes} {inside : Inside}
    (hrole : (Spot.string role got inside).Distinct) (h : endString frames role got = .ok r) : r.Distinct := by
  unfold endString at h
  split at h
  · cases h
  · split at h
    · cases h
      exact ⟨hf, .str _⟩
    · cases h
      exact ⟨hf, hrole⟩

/-- A whole number holds no objects, in whichever form it is kept. -/
theorem distinct_wholeValue (negative : Bool) (digits : Nat) : (Numeral.wholeValue negative digits).Distinct := by
  unfold Numeral.wholeValue
  split
  · split
    · exact .int _
    · exact .float _
  · exact .int _

/-- A number with a fraction or an exponent holds no objects. -/
theorem distinct_floatValue {negative : Bool} {digits : Nat} {scale : Int} {v : Json}
    (h : Numeral.floatValue negative digits scale = .ok v) : v.Distinct := by
  unfold Numeral.floatValue at h
  split at h
  · cases h
    exact .float _
  · cases h

/-- The value of a literal holds no objects. -/
theorem distinct_numeral {n : Numeral} {v : Json} (h : n.value = .ok v) : v.Distinct := by
  cases n with
  | sign => cases h
  | leadingZero neg =>
    cases h
    exact distinct_wholeValue neg 0
  | whole neg m =>
    cases h
    exact distinct_wholeValue neg m
  | longWhole neg m s => exact distinct_floatValue h
  | fraction neg m s started =>
    cases started with
    | true => exact distinct_floatValue h
    | false => cases h
  | longFraction neg m s => exact distinct_floatValue h
  | exponentMark => cases h
  | exponentSign => cases h
  | exponent neg m s up e => exact distinct_floatValue h
  | vanishing neg =>
    cases h
    exact .float _

theorem eq_ok_of_atByte {x : Except Cause Reader} (h : step.atByte x = .ok r) : x = .ok r := by
  cases x with
  | error c => cases h
  | ok r' =>
    cases h
    rfl

/-- A byte keeps all that the reader holds distinct. -/
theorem Distinct.step (hr : r.Distinct) {next : Reader} (h : r.step b = .ok next) : next.Distinct := by
  obtain ⟨frames, spot⟩ := r
  obtain ⟨hf, hspot⟩ := hr
  cases spot with
  | value want =>
    simp only [Reader.step] at h
    split at h
    · cases h
      exact ⟨hf, hspot⟩
    · exact distinct_beginValue hf (eq_ok_of_atByte h)
  | key fields opened =>
    simp only [Reader.step] at h
    split at h
    · cases h
      exact ⟨hf, hspot⟩
    · exact distinct_beginKey hf hspot (eq_ok_of_atByte h)
  | colon fields key =>
    simp only [Reader.step] at h
    repeat' split at h
    all_goals cases h
    · exact ⟨hf, hspot⟩
    · exact ⟨List.forall_mem_cons.2 ⟨hspot, hf⟩, trivial⟩
  | after v => exact distinct_goOn hf hspot (eq_ok_of_atByte h)
  | word left v =>
    cases left with
    | nil => exact distinct_goOn hf hspot (eq_ok_of_atByte h)
    | cons c left =>
      simp only [Reader.step] at h
      split at h
      · cases h
        refine ⟨hf, ?_⟩
        show (if left.isEmpty = true then Spot.after v else Spot.word left v).Distinct
        split
        · exact hspot
        · exact hspot
      · cases h
  | string role got inside =>
    simp only [Reader.step] at h
    split at h
    · exact distinct_endString hf hspot (eq_ok_of_atByte h)
    · have hmap := eq_ok_of_atByte h
      cases hstep : stringStep got inside b with
      | error c => simp [hstep, Except.map] at hmap
      | ok x =>
        rw [hstep] at hmap
        cases hmap
        refine ⟨hf, ?_⟩
        cases role with
        | value => trivial
        | key fields => exact hspot
  | number n =>
    simp only [Reader.step] at h
    split at h
    · cases h
    · cases h
      exact ⟨hf, trivial⟩
    · split at h
      · cases h
      · rename_i v hv
        exact distinct_goOn hf (distinct_numeral hv) (eq_ok_of_atByte h)

/-- A document that ends where the reader stands is distinct. -/
theorem Distinct.finish (hr : r.Distinct) {v : Json} (h : r.finish = .ok v) : v.Distinct := by
  obtain ⟨frames, spot⟩ := r
  have hend : ∀ {w : Json}, w.Distinct → endAfter frames w = .ok v → v.Distinct := by
    intro w hw hw'
    unfold endAfter at hw'
    split at hw'
    · cases hw'
      exact hw
    · cases hw'
    · cases hw'
  unfold Reader.finish at h
  split at h
  case h_5 v' hspot => exact hend (show (Spot.after v').Distinct from hspot ▸ hr.spot) h
  case h_8 n hspot =>
    cases hvalue : n.value with
    | error c => simp [hvalue, Except.bind] at h
    | ok w =>
      rw [hvalue] at h
      exact hend (distinct_numeral hvalue) h
  all_goals cases h

/-- A reader that holds distinct values only gives a distinct one. -/
theorem Distinct.run (hr : r.Distinct) {seen : Nat} {text : Bytes} {v : Json} (h : r.run seen text = .ok v) :
    v.Distinct := by
  induction text generalizing r seen with
  | nil =>
    rw [Reader.run] at h
    cases hfinish : r.finish with
    | error c => simp [hfinish, Except.mapError] at h
    | ok w =>
      rw [hfinish] at h
      cases h
      exact hr.finish hfinish
  | cons b rest ih =>
    rw [Reader.run] at h
    split at h
    · cases h
    · rename_i next hstep
      exact ih (hr.step hstep) h

end Reader

/-- Every object of a document that is read has each of its keys once. -/
theorem distinct_read {text : Bytes} {v : Json} (h : read text = .ok v) : v.Distinct := by
  have hstart : Reader.start.Distinct := ⟨by simp [Reader.start], trivial⟩
  exact hstart.run h

end Json

end RecordSheets
