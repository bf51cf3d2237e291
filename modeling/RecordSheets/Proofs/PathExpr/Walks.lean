import RecordSheets.PathExpr.Evaluate
import RecordSheets.Proofs.Text.Numbers

/-!
# Walks along paths

A path leads from a value to one inside it by its steps, which are taken one after the other. So a longer path leads on from where the
shorter one ends, and if the shorter one ends nowhere, so does the longer one (`Json.resolve?_composes`).

A step leads nowhere from a value that blocks it (`Json.Blocks`): from null and from scalars, from an object without that key, and from a
list without an element at that position. Which steps are positions of a list, and that no two elements have one in common, is
`Json.resolve?_position`.
-/

namespace RecordSheets

namespace Json

/-! ## One step -/

/-- A value that a step does not lead into. -/
inductive Blocks : Json → String → Prop where
  /-- Nothing lies in null or in a scalar. -/
  | leaf {v : Json} {step : String} (hfields : v.fields? = none) (hitems : v.items? = none) : Blocks v step
  /-- The object has no such key. -/
  | noKey {fields : Fields} {step : String} (h : step ∉ fields.keys) : Blocks (.obj fields) step
  /-- The step is no number of 64 bits, or the list ends before this position. -/
  | noElement {items : List Json} {step : String}
      (h : ∀ n ≤ Text.wordLimit, Text.Unsigned step.toList n → items.length ≤ n) : Blocks (.arr items) step

/-- A step leads to the element at the position that it writes. -/
theorem child?_arr_eq_some_iff (items : List Json) (step : String) (v : Json) :
    (Json.arr items).child? step = some v ↔ ∃ n ≤ Text.wordLimit, Text.Unsigned step.toList n ∧ items[n]? = some v := by
  rw [child?, Option.bind_eq_some_iff]
  constructor
  · rintro ⟨n, hread, hv⟩
    obtain ⟨hn, hle⟩ := (Text.unsigned?_eq_some_iff _ _).1 hread
    exact ⟨n, hle, hn, hv⟩
  · rintro ⟨n, hle, hn, hv⟩
    exact ⟨n, (Text.unsigned?_eq_some_iff _ _).2 ⟨hn, hle⟩, hv⟩

/-- A step leads nowhere in a list that has no element at the position that it writes, or if it writes none. -/
theorem child?_arr_eq_none_iff (items : List Json) (step : String) :
    (Json.arr items).child? step = none ↔ ∀ n ≤ Text.wordLimit, Text.Unsigned step.toList n → items.length ≤ n := by
  rw [Option.eq_none_iff_forall_ne_some]
  constructor
  · intro h n hle hn
    rw [← List.getElem?_eq_none_iff, Option.eq_none_iff_forall_ne_some]
    exact fun v hv => h v ((child?_arr_eq_some_iff items step v).2 ⟨n, hle, hn, hv⟩)
  · intro h v hv
    obtain ⟨n, hle, hn, hv⟩ := (child?_arr_eq_some_iff items step v).1 hv
    rw [List.getElem?_eq_none (h n hle hn)] at hv
    cases hv

/-- A step leads nowhere exactly from the values that block it. -/
theorem child?_eq_none_iff (v : Json) (step : String) : v.child? step = none ↔ v.Blocks step := by
  constructor
  · intro h
    cases v with
    | obj fields =>
      refine .noKey fun hmem => ?_
      obtain ⟨x, hx, rfl⟩ := List.mem_map.1 hmem
      simpa using List.lookup_eq_none_iff.1 h x hx
    | arr items => exact .noElement ((child?_arr_eq_none_iff items step).1 h)
    | _ => exact .leaf rfl rfl
  · intro h
    cases h with
    | leaf hfields hitems =>
      cases v with
      | obj fields => cases hfields
      | arr items => cases hitems
      | _ => rfl
    | noKey h => exact lookup_of_not_mem h
    | noElement h => exact (child?_arr_eq_none_iff _ step).2 h

/-! ## Steps one after the other -/

/-- A walk along steps that comes to a value which blocks the next one. -/
inductive Stuck : Json → List String → Prop where
  | here {v : Json} {step : String} {rest : List String} (h : v.Blocks step) : Stuck v (step :: rest)
  | later {v w : Json} {step : String} {rest : List String} (hstep : v.child? step = some w) (h : Stuck w rest) :
      Stuck v (step :: rest)

/-- Steps lead nowhere exactly if the walk along them is stuck. -/
theorem foldlM_child?_eq_none_iff (v : Json) (steps : List String) : steps.foldlM child? v = none ↔ v.Stuck steps := by
  induction steps generalizing v with
  | nil =>
    constructor
    · intro h
      cases h
    · intro h
      cases h
  | cons step rest ih =>
    rw [List.foldlM_cons]
    cases hstep : v.child? step with
    | none => exact ⟨fun _ => .here ((child?_eq_none_iff v step).1 hstep), fun _ => rfl⟩
    | some w =>
      rw [Option.bind_eq_bind, Option.bind_some, ih]
      constructor
      · exact .later hstep
      · intro h
        cases h with
        | here hblocks =>
          rw [(child?_eq_none_iff v step).2 hblocks] at hstep
          cases hstep
        | later hother h =>
          rw [hother] at hstep
          exact Option.some.inj hstep ▸ h

/-- A path leads nowhere exactly if the walk along its steps is stuck. -/
theorem resolve?_eq_none_iff (v : Json) (path : String) : v.resolve? path = none ↔ v.Stuck (Text.cut '.' path) :=
  foldlM_child?_eq_none_iff v (Text.cut '.' path)

/-- The steps of two paths with a dot between them are those of the first and then those of the second. -/
theorem cut_dot (p q : String) : Text.cut '.' (p ++ "." ++ q) = Text.cut '.' p ++ Text.cut '.' q := by
  have htext : (p ++ "." ++ q).toList = p.toList ++ '.' :: q.toList := by simp
  rw [Text.cut, htext, Text.pieces_append_cons, List.map_append]
  rfl

/-- A path behind another one is followed from where this leads. -/
theorem resolve?_dot (v : Json) (p q : String) : v.resolve? (p ++ "." ++ q) = (v.resolve? p).bind fun w => w.resolve? q := by
  rw [resolve?, cut_dot, List.foldlM_append]
  rfl

/-- A path leads on from where its beginning leads: if the beginning leads to a value, the whole leads where the rest leads from there. If
the beginning leads nowhere, which is so exactly if it comes to null, to a scalar, to an object without the next key or to a list without
the next position, no longer path leads anywhere. -/
theorem resolve?_composes (v : Json) (p : String) :
    (∀ w, v.resolve? p = some w → ∀ q, v.resolve? (p ++ "." ++ q) = w.resolve? q) ∧
      (v.resolve? p = none → ∀ q, v.resolve? (p ++ "." ++ q) = none) ∧
      (v.resolve? p = none ↔ v.Stuck (Text.cut '.' p)) ∧
      (v.Stuck (Text.cut '.' p) → ∀ q, v.resolve? (p ++ "." ++ q) = none) := by
  have hnone : v.resolve? p = none → ∀ q, v.resolve? (p ++ "." ++ q) = none := by
    intro h q
    rw [resolve?_dot, h, Option.bind_none]
  refine ⟨?_, hnone, resolve?_eq_none_iff v p, fun h => hnone ((resolve?_eq_none_iff v p).2 h)⟩
  intro w h q
  rw [resolve?_dot, h, Option.bind_some]

namespace WalksWitness

/-- A ship with a list of ranks in an object, and with a member of the empty key. -/
def ship : Json := .obj [("crew", .obj [("ranks", .arr [.null, .str "Captain"]), ("", .bool true)])]

theorem resolve?_crew : ship.resolve? "crew" = some (.obj [("ranks", .arr [.null, .str "Captain"]), ("", .bool true)]) := rfl

theorem stuck_ranks : ship.Stuck (Text.cut '.' "crew.ranks.2") := (resolve?_eq_none_iff ship "crew.ranks.2").1 rfl

end WalksWitness

open WalksWitness in
/-- The theorem at a path that goes on behind a dot at its end, into a list and beyond the end of the list. -/
theorem resolve?_composes_ranks :
    ship.resolve? "crew" = some (.obj [("ranks", .arr [.null, .str "Captain"]), ("", .bool true)]) ∧
      ship.resolve? "crew." = some (.bool true) ∧ ship.resolve? "crew.ranks.+01" = some (.str "Captain") ∧
      ship.Stuck (Text.cut '.' "crew.ranks.2") ∧ ship.resolve? "crew.ranks.2" = none ∧
      ∀ q, ship.resolve? ("crew.ranks.2" ++ "." ++ q) = none := by
  obtain ⟨hon, -, -, -⟩ := resolve?_composes ship "crew"
  obtain ⟨-, -, hnone, hstuck⟩ := resolve?_composes ship "crew.ranks.2"
  have hdot : ship.resolve? "crew." = _ := hon _ resolve?_crew ""
  have hranks : ship.resolve? "crew.ranks.+01" = _ := hon _ resolve?_crew "ranks.+01"
  exact ⟨resolve?_crew, hdot, hranks, stuck_ranks, hnone.2 stuck_ranks, hstuck stuck_ranks⟩

/-! ## Positions in a list -/

/-- A step without dots is a path by itself. -/
theorem resolve?_step {step : String} (h : '.' ∉ step.toList) (v : Json) : v.resolve? step = v.child? step := by
  rw [resolve?, Text.cut, Text.pieces_of_not_mem h, List.map_singleton, String.ofList_toList, List.foldlM_cons]
  exact bind_pure _

/-- A step that writes a number leads to the element at this position of a list, if there is one. -/
theorem child?_arr_of_unsigned {items : List Json} (hlength : items.length ≤ Text.wordLimit) {step : String} {n : Nat}
    (h : Text.Unsigned step.toList n) : (Json.arr items).child? step = items[n]? := by
  refine Option.ext fun v => ?_
  rw [child?_arr_eq_some_iff]
  constructor
  · rintro ⟨k, -, hk, hv⟩
    rwa [h.unique hk]
  · intro hv
    obtain ⟨hn, -⟩ := List.getElem?_eq_some_iff.1 hv
    exact ⟨n, by omega, h, hv⟩

/-- A step that writes no number leads nowhere in a list. -/
theorem child?_arr_of_not_unsigned {items : List Json} {step : String} (h : ∀ n, ¬Text.Unsigned step.toList n) :
    (Json.arr items).child? step = none :=
  (child?_arr_eq_none_iff items step).2 fun n _ hn => absurd hn (h n)

/-- A step leads to the elements at the positions that it writes, whatever is written. -/
theorem child?_arr_iff {items : List Json} (hlength : items.length ≤ Text.wordLimit) (step : String) (v : Json) :
    (Json.arr items).child? step = some v ↔ ∃ n, Text.Unsigned step.toList n ∧ items[n]? = some v := by
  constructor
  · intro hv
    obtain ⟨n, -, hn, hv⟩ := (child?_arr_eq_some_iff items step v).1 hv
    exact ⟨n, hn, hv⟩
  · rintro ⟨n, hn, hv⟩
    rw [child?_arr_of_unsigned hlength hn, hv]

/-- Where the elements differ, an element is found by the texts of its own position only. -/
theorem child?_arr_getElem_iff {items : List Json} (hlength : items.length ≤ Text.wordLimit) (hd : items.Nodup)
    (step : String) {n : Nat} (hn : n < items.length) :
    (Json.arr items).child? step = some items[n] ↔ Text.Unsigned step.toList n := by
  constructor
  · intro hv
    obtain ⟨k, hk, hsame⟩ := (child?_arr_iff hlength step _).1 hv
    rw [← List.getElem?_eq_getElem hn] at hsame
    rwa [(List.getElem?_inj hn hd).1 hsame.symm]
  · intro h
    rw [child?_arr_of_unsigned hlength h, List.getElem?_eq_getElem hn]

/-- A step without dots leads to an element of a list exactly if it writes the element's position: ASCII digits of any number with this
value, behind one plus sign or none, where zeros in front do not count. So no element is found by the position of another one. Every other
step leads nowhere, and so does a number beyond 64 bits, as the length of a list is a number of 64 bits itself. -/
theorem resolve?_position {items : List Json} (hlength : items.length ≤ Text.wordLimit) {step : String}
    (hdot : '.' ∉ step.toList) :
    (∀ v, (Json.arr items).resolve? step = some v ↔ ∃ n, Text.Unsigned step.toList n ∧ items[n]? = some v) ∧
      (items.Nodup → ∀ (n : Nat) (_ : n < items.length),
        (Json.arr items).resolve? step = some items[n] ↔ Text.Unsigned step.toList n) ∧
      (∀ (width : Nat) (digits : List Char) (n : Nat), Text.Digits digits n →
        step.toList = List.replicate width '0' ++ digits ∨ step.toList = '+' :: (List.replicate width '0' ++ digits) →
        (Json.arr items).resolve? step = items[n]?) ∧
      (step.toList = [] ∨ step.toList = ['+'] ∨ (∃ c ∈ step.toList, c ≠ '+' ∧ c.isDigit = false) ∨
        (∃ n, Text.Unsigned step.toList n ∧ Text.wordLimit < n) → (Json.arr items).resolve? step = none) := by
  rw [resolve?_step hdot]
  refine ⟨child?_arr_iff hlength step, fun hd n hn => child?_arr_getElem_iff hlength hd step hn, ?_, ?_⟩
  · intro width digits n hdigits hstep
    have hzeros := (Text.digits_zeros_iff hdigits.nonempty width n).2 hdigits
    refine child?_arr_of_unsigned hlength ?_
    rcases hstep with hstep | hstep
    · exact hstep ▸ .bare hzeros
    · exact hstep ▸ .plus hzeros
  · rintro (hempty | hplus | ⟨c, hc, hother⟩ | ⟨n, hn, hlarge⟩)
    · exact child?_arr_of_not_unsigned fun n hn => hn.shape.1 hempty
    · exact child?_arr_of_not_unsigned fun n hn => hn.shape.2.1 hplus
    · refine child?_arr_of_not_unsigned fun n hn => ?_
      have hdigit := hn.shape.2.2 c hc hother.1
      rw [hother.2] at hdigit
      cases hdigit
    · rw [child?_arr_of_unsigned hlength hn]
      exact List.getElem?_eq_none (by omega)

/-- The theorem at steps with a sign and zeros, at one that is one more than fits in 64 bits beyond a position of the list, and at one
with a digit of another script. -/
theorem resolve?_position_signed :
    [Json.null, .str "Captain"].length ≤ Text.wordLimit ∧ [Json.null, .str "Captain"].Nodup ∧
      '.' ∉ "+0001".toList ∧ (Json.arr [.null, .str "Captain"]).resolve? "+0001" = some (.str "Captain") ∧
      '.' ∉ "18446744073709551617".toList ∧
      (Json.arr [.null, .str "Captain"]).resolve? "18446744073709551617" = none ∧
      '.' ∉ "１".toList ∧ (Json.arr [.null, .str "Captain"]).resolve? "１" = none := by
  have hlength : [Json.null, .str "Captain"].length ≤ Text.wordLimit := by decide
  have hd : [Json.null, .str "Captain"].Nodup := by simp
  have hsigned : '.' ∉ "+0001".toList := by simp
  have hlarge : '.' ∉ "18446744073709551617".toList := by simp
  have hwide : '.' ∉ "１".toList := by simp
  refine ⟨hlength, hd, hsigned, ?_, hlarge, ?_, hwide, ?_⟩
  · have hdigits : Text.Digits "0001".toList 1 := ⟨by simp, by simp, rfl⟩
    exact ((resolve?_position hlength hsigned).2.1 hd 1 (by decide)).2 (.plus hdigits)
  · have hnumber : Text.Unsigned "18446744073709551617".toList 18446744073709551617 := .bare ⟨by simp, by simp, rfl⟩
    exact (resolve?_position hlength hlarge).2.2.2 (.inr (.inr (.inr ⟨_, hnumber, by decide⟩)))
  · exact (resolve?_position hlength hwide).2.2.2 (.inr (.inr (.inl ⟨'１', by simp, by decide, by decide⟩)))

end Json

end RecordSheets
