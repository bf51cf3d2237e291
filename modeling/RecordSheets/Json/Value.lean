import RecordSheets.Number.Binary64

/-!
# JSON values

A JSON value whose objects keep their members in the order in which their keys first came. Whole numbers and binary64 numbers
are apart: `1` and `1.0` are different values.
-/

namespace RecordSheets

/-- A JSON value. -/
inductive Json where
  | null
  | bool (b : Bool)
  | int (i : Int)
  | float (x : Binary64)
  | str (s : String)
  | arr (items : List Json)
  | obj (fields : List (String × Json))
  deriving Repr

/-- The members of an object in stored order. -/
abbrev Fields := List (String × Json)

/-- What is found in a list of pairs stands in it. -/
theorem mem_of_lookup {α β : Type} [BEq α] [LawfulBEq α] {entries : List (α × β)} {key : α} {value : β}
    (h : entries.lookup key = some value) : (key, value) ∈ entries := by
  obtain ⟨before, behind, hsplit, -⟩ := List.lookup_eq_some_iff.1 h
  rw [hsplit]
  simp

/-- Nothing is found for a key that does not stand in a list of pairs. -/
theorem lookup_of_not_mem {α β : Type} [BEq α] [LawfulBEq α] {entries : List (α × β)} {key : α}
    (h : key ∉ entries.map Prod.fst) : entries.lookup key = none := by
  rw [List.lookup_eq_none_iff]
  intro x hx
  have hne : key ≠ x.1 := fun heq => h (heq ▸ List.mem_map_of_mem hx)
  simpa using hne

/-- In a list of pairs with different keys a key is found with what it stands beside. -/
theorem lookup_of_nodup {α β : Type} [BEq α] [LawfulBEq α] {entries : List (α × β)} (h : (entries.map Prod.fst).Nodup)
    {x : α × β} (hx : x ∈ entries) : entries.lookup x.1 = some x.2 := by
  induction entries with
  | nil => cases hx
  | cons y rest ih =>
    obtain ⟨hy, hrest⟩ := List.nodup_cons.1 h
    rcases List.mem_cons.1 hx with rfl | hx
    · rw [List.lookup_cons_self]
    · have hne : x.1 ≠ y.1 := fun heq => hy (heq ▸ List.mem_map_of_mem hx)
      rw [List.lookup_cons, beq_false_of_ne hne]
      exact ih hrest hx

namespace Fields

def keys (fs : Fields) : List String := fs.map Prod.fst

def get? (fs : Fields) (key : String) : Option Json := List.lookup key fs

/-- Gives a key a value: a key that is there keeps its place, a new key comes last. -/
def insert : Fields → String → Json → Fields
  | [], key, value => [(key, value)]
  | (k, v) :: rest, key, value => if k = key then (k, value) :: rest else (k, v) :: insert rest key value

/-- Changes every value, given its key. -/
def mapValues (fs : Fields) (f : String → Json → Json) : Fields := fs.map fun (k, v) => (k, f k v)

/-- A key has the value it was given last. -/
theorem get?_insert_self (fs : Fields) (key : String) (value : Json) : (fs.insert key value).get? key = some value := by
  induction fs with
  | nil => simp [insert, get?]
  | cons x fs ih =>
    obtain ⟨k, v⟩ := x
    by_cases hk : k = key
    · simp [insert, get?, hk]
    · have hb : (key == k) = false := by simpa using fun h => hk h.symm
      simpa [insert, get?, hk, List.lookup_cons, hb] using ih

theorem get?_insert_of_ne {key other : String} (h : other ≠ key) (fs : Fields) (value : Json) :
    (fs.insert key value).get? other = fs.get? other := by
  induction fs with
  | nil => simp [insert, get?, List.lookup_cons, beq_false_of_ne h]
  | cons x fs ih =>
    obtain ⟨k, v⟩ := x
    by_cases hk : k = key
    · subst hk
      simp [insert, get?, List.lookup_cons, beq_false_of_ne h]
    · simp only [get?] at ih
      simp [insert, get?, hk, List.lookup_cons, ih]

/-- A key that is there keeps its place. -/
theorem keys_insert_of_mem {fs : Fields} {key : String} (h : key ∈ fs.keys) (value : Json) :
    (fs.insert key value).keys = fs.keys := by
  induction fs with
  | nil => simp [keys] at h
  | cons x fs ih =>
    obtain ⟨k, v⟩ := x
    by_cases hk : k = key
    · simp [insert, keys, hk]
    · have hm : key ∈ Fields.keys fs := by
        rcases List.mem_cons.1 h with h | h
        · exact absurd h.symm hk
        · exact h
      have := ih hm
      simp only [keys] at this
      simp [insert, keys, hk, this]

/-- A new key comes last. -/
theorem insert_of_not_mem {fs : Fields} {key : String} (h : key ∉ fs.keys) (value : Json) :
    fs.insert key value = fs ++ [(key, value)] := by
  induction fs with
  | nil => rfl
  | cons x fs ih =>
    obtain ⟨k, v⟩ := x
    simp only [keys, List.map_cons, List.mem_cons, not_or] at h
    rw [insert, if_neg (Ne.symm h.1), ih h.2, List.cons_append]

theorem mem_keys_of_get? {fs : Fields} {key : String} {value : Json} (h : fs.get? key = some value) : key ∈ fs.keys :=
  List.mem_map_of_mem (f := Prod.fst) (mem_of_lookup h)

/-- Where the keys differ, the key of a member has the value of the member. -/
theorem get?_of_mem {fs : Fields} (hd : fs.keys.Nodup) {x : String × Json} (h : x ∈ fs) : fs.get? x.1 = some x.2 :=
  lookup_of_nodup hd h

/-- An object whose keys differ is known by its keys, in order, and their values. -/
theorem eq_of_get? {fs gs : Fields} (hd : fs.keys.Nodup) (hkeys : gs.keys = fs.keys)
    (h : ∀ key ∈ fs.keys, gs.get? key = fs.get? key) : gs = fs := by
  induction fs generalizing gs with
  | nil => exact List.map_eq_nil_iff.1 hkeys
  | cons x rest ih =>
    obtain ⟨k, v⟩ := x
    obtain ⟨hk, hrest⟩ := List.nodup_cons.1 hd
    cases gs with
    | nil => cases hkeys
    | cons y more =>
      obtain ⟨l, w⟩ := y
      obtain ⟨rfl, hmore⟩ := List.cons.inj hkeys
      have hvalue : w = v := by simpa [get?] using h l List.mem_cons_self
      have hsame : more = rest := by
        refine ih hrest hmore fun key hmem => ?_
        have hne : key ≠ l := fun heq => hk (heq ▸ hmem)
        simpa [get?, List.lookup_cons, beq_false_of_ne hne] using h key (List.mem_cons_of_mem _ hmem)
      rw [hvalue, hsame]

/-- Changing the values keeps the keys. -/
theorem keys_mapValues (fs : Fields) (f : String → Json → Json) : (fs.mapValues f).keys = fs.keys := by
  simp [mapValues, keys]

/-- A changed value is the change of the value that was there. -/
theorem get?_mapValues (fs : Fields) (f : String → Json → Json) (key : String) :
    (fs.mapValues f).get? key = (fs.get? key).map (f key) := by
  induction fs with
  | nil => rfl
  | cons x fs ih =>
    obtain ⟨k, v⟩ := x
    by_cases hk : key = k
    · subst hk
      simp [mapValues, get?]
    · simp only [mapValues, get?] at ih
      simp [mapValues, get?, List.lookup_cons, beq_false_of_ne hk, ih]

theorem mapValues_self (fs : Fields) : (fs.mapValues fun _ v => v) = fs := List.map_id fs

theorem mapValues_congr {fs : Fields} {f g : String → Json → Json} (h : ∀ x ∈ fs, f x.1 x.2 = g x.1 x.2) :
    fs.mapValues f = fs.mapValues g := by
  refine List.map_congr_left fun x hx => ?_
  obtain ⟨k, v⟩ := x
  exact congrArg (Prod.mk k) (h (k, v) hx)

/-- Two changes of every value, one after the other, are one change. -/
theorem mapValues_mapValues (fs : Fields) (f g : String → Json → Json) :
    (fs.mapValues f).mapValues g = fs.mapValues fun k v => g k (f k v) := by
  simp [mapValues]

end Fields

namespace Json

def string? : Json → Option String
  | .str s => some s
  | _ => none

def fields? : Json → Option Fields
  | .obj fields => some fields
  | _ => none

def items? : Json → Option (List Json)
  | .arr items => some items
  | _ => none

end Json

end RecordSheets
