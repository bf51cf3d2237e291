import Mathlib.Data.List.Infix
import RecordSheets.Proofs.Sheet.Locality

/-!
# The i18n texts of a record

The texts of a record's tokens are put into its row one token after the other, and a token is looked for in the cells as the tokens
before it left them. Where no token is found in the text of any (`Row.Settled`), a cell is replaced at most once, and what becomes of it
can be said at once (`Row.withTexts_of_settled`): it is the text of the first token that is found in it.

Where a token may be a part of a cell, this is the first one of the list, neither the longest nor the leftmost in the cell, and to put
the texts in again changes nothing (`Mapping.sheet_firstText`). Where a token has to be the whole cell, the order of the list does not
matter, nor does a token that is listed again, nor anything in the list that has no text (`Mapping.sheet_wholeText`).
-/

namespace RecordSheets

/-! ## The tokens of a record -/

/-- The list at the token path of a record, if there is a list. -/
def Json.tokenItems? (record : Json) (path : String) : Option (List Json) :=
  (record.resolve? (String.ofList (path.toList.erase '.'))).bind Json.items?

/-- The tokens of a record are the strings in its list. -/
theorem Json.tokensAt_of_tokenItems? {record : Json} {path : String} {items : List Json}
    (h : record.tokenItems? path = some items) : record.tokensAt path = items.filterMap Json.string? := by
  obtain ⟨value, hvalue, hlist⟩ := Option.bind_eq_some_iff.1 h
  unfold tokensAt
  rw [hvalue]
  cases value with
  | arr found =>
    cases hlist
    rfl
  | _ => cases hlist

namespace Glossary

/-- The strings in a list that have a text in a glossary, in order and each with its text. -/
def knownIn (texts : Glossary) (items : List Json) : List (String × String) :=
  items.filterMap fun item => item.string?.bind fun token => (texts.lookup? token).map fun text => (token, text)

/-- A token is known if it is a string in the list and has a text. -/
theorem mem_knownIn_iff {texts : Glossary} {items : List Json} {x : String × String} :
    x ∈ texts.knownIn items ↔ Json.str x.1 ∈ items ∧ texts.lookup? x.1 = some x.2 := by
  rw [knownIn, List.mem_filterMap]
  constructor
  · rintro ⟨item, hitem, hknown⟩
    cases item with
    | str s =>
      obtain ⟨found, hfound, heq⟩ := Option.map_eq_some_iff.1 hknown
      cases heq
      exact ⟨hitem, hfound⟩
    | _ => cases hknown
  · rintro ⟨hitem, htext⟩
    refine ⟨.str x.1, hitem, ?_⟩
    simp [Json.string?, htext]

/-- The text of a token is found in the list of the known ones wherever it stands there. -/
theorem lookup_knownIn_eq_some_iff {texts : Glossary} {items : List Json} {token text : String} :
    (texts.knownIn items).lookup token = some text ↔ (token, text) ∈ texts.knownIn items := by
  constructor
  · exact mem_of_lookup
  · intro h
    cases hlookup : (texts.knownIn items).lookup token with
    | none =>
      have hne := List.lookup_eq_none_iff.1 hlookup _ h
      simp at hne
    | some other =>
      have hother := mem_knownIn_iff.1 (mem_of_lookup hlookup)
      exact hother.2.symm.trans (mem_knownIn_iff.1 h).2

/-- Ways to tell the same tokens in another list. -/
inductive Retold (texts : Glossary) : List Json → List Json → Prop
  /-- The order is another one. -/
  | reorder {items items' : List Json} : items.Perm items' → Retold texts items items'
  /-- Something in the list is told again. -/
  | again {item : Json} {items : List Json} : item ∈ items → Retold texts items (item :: items)
  /-- Something is put in that is no string, or a string without a text. -/
  | idle {item : Json} {items : List Json} : (∀ token, item = .str token → texts.lookup? token = none) →
    Retold texts items (item :: items)
  /-- One change comes after another. -/
  | trans {items items' items'' : List Json} : Retold texts items items' → Retold texts items' items'' →
    Retold texts items items''

theorem Retold.mem_knownIn_iff {texts : Glossary} {items items' : List Json} (h : Retold texts items items')
    (x : String × String) : x ∈ texts.knownIn items' ↔ x ∈ texts.knownIn items := by
  induction h with
  | reorder hperm => rw [Glossary.mem_knownIn_iff, Glossary.mem_knownIn_iff, hperm.mem_iff]
  | again hitem =>
    rw [Glossary.mem_knownIn_iff, Glossary.mem_knownIn_iff, List.mem_cons, or_iff_right_of_imp]
    rintro rfl
    exact hitem
  | idle hno =>
    rw [Glossary.mem_knownIn_iff, Glossary.mem_knownIn_iff, List.mem_cons]
    refine and_congr_left fun htext => or_iff_right fun heq => ?_
    rw [hno _ heq.symm] at htext
    cases htext
  | trans _ _ ih ih' => exact ih'.trans ih

theorem Retold.lookup_knownIn {texts : Glossary} {items items' : List Json} (h : Retold texts items items') (s : String) :
    (texts.knownIn items').lookup s = (texts.knownIn items).lookup s := by
  refine Option.ext fun text => ?_
  rw [lookup_knownIn_eq_some_iff, lookup_knownIn_eq_some_iff, h.mem_knownIn_iff]

end Glossary

namespace Row

/-! ## Putting texts in one after the other -/

/-- A cell whose string is replaced, if there is something for it. -/
def reworded (other? : String → Option String) : Json → Json
  | .str s => .str ((other? s).getD s)
  | cell => cell

/-- No token of a list is found in a text of the list. -/
def Settled (opts : Localization) (known : List (String × String)) : Prop :=
  ∀ x ∈ known, ∀ y ∈ known, tokenFound opts y.1 x.2 = false

theorem Settled.mono {opts : Localization} {known known' : List (String × String)} (h : Settled opts known)
    (hsub : ∀ x ∈ known', x ∈ known) : Settled opts known' :=
  fun x hx y hy => h x (hsub x hx) y (hsub y hy)

/-- The text of the first token of a list that is found in a string. -/
def foundText? (opts : Localization) (known : List (String × String)) (s : String) : Option String :=
  (known.find? fun x => tokenFound opts x.1 s).map Prod.snd

/-- Only the tokens that have a text do anything to a cell. -/
theorem foldl_tokenCell (texts : Glossary) (opts : Localization) (items : List Json) (cell : Json) :
    (items.filterMap Json.string?).foldl (tokenCell texts opts) cell =
      (texts.knownIn items).foldl (fun cell x => textCell opts x.1 x.2 cell) cell := by
  induction items generalizing cell with
  | nil => rfl
  | cons item rest ih =>
    cases item with
    | str token =>
      have htokens : (Json.str token :: rest).filterMap Json.string? = token :: rest.filterMap Json.string? := rfl
      rw [htokens, List.foldl_cons, ih, Glossary.knownIn, Glossary.knownIn, List.filterMap_cons, tokenCell, Json.string?,
        Option.bind_some]
      cases texts.lookup? token <;> rfl
    | _ => exact ih cell

/-- A string in which no token is found stays as it is. -/
theorem foldl_textCell_of_not_found {opts : Localization} {known : List (String × String)} {s : String}
    (h : ∀ x ∈ known, tokenFound opts x.1 s = false) :
    known.foldl (fun cell x => textCell opts x.1 x.2 cell) (.str s) = .str s := by
  induction known with
  | nil => rfl
  | cons x rest ih =>
    rw [List.forall_mem_cons] at h
    rw [List.foldl_cons, textCell, h.1, if_neg Bool.false_ne_true]
    exact ih h.2

theorem foldl_textCell_of_not_str {opts : Localization} (known : List (String × String)) {cell : Json}
    (h : ∀ s, cell ≠ .str s) : known.foldl (fun cell x => textCell opts x.1 x.2 cell) cell = cell := by
  induction known with
  | nil => rfl
  | cons x rest ih =>
    have hsame : textCell opts x.1 x.2 cell = cell := by
      cases cell with
      | str s => exact absurd rfl (h s)
      | _ => rfl
    rw [List.foldl_cons, hsame, ih]

/-- Where no token is found in a text, a string becomes the text of the first token that is found in it: the tokens before that one
leave it alone, and those behind it are not found in the text. -/
theorem foldl_textCell_str {opts : Localization} {known : List (String × String)} (h : Settled opts known) (s : String) :
    known.foldl (fun cell x => textCell opts x.1 x.2 cell) (.str s) = .str ((foundText? opts known s).getD s) := by
  unfold foundText?
  induction known with
  | nil => rfl
  | cons x rest ih =>
    have hrest : Settled opts rest := h.mono fun y hy => List.mem_cons_of_mem _ hy
    rw [List.foldl_cons, textCell, List.find?_cons]
    cases hfound : tokenFound opts x.1 s with
    | true => exact foldl_textCell_of_not_found fun y hy => h x List.mem_cons_self y (List.mem_cons_of_mem _ hy)
    | false => exact ih hrest

/-- Where no token is found in a text, putting the texts in replaces every string by the text of the first token that is found in it. -/
theorem withTexts_of_settled {texts : Glossary} {opts : Localization} {items : List Json}
    (h : Settled opts (texts.knownIn items)) (row : Row) :
    withTexts texts opts row (items.filterMap Json.string?) =
      Fields.mapValues row fun _ => reworded (foundText? opts (texts.knownIn items)) := by
  rw [withTexts_eq_mapValues]
  refine congrArg (Fields.mapValues row) (funext fun _ => funext fun cell => ?_)
  rw [foldl_tokenCell]
  cases cell with
  | str s => exact foldl_textCell_str h s
  | _ => exact foldl_textCell_of_not_str _ nofun

/-- Strings that are replaced by ones for which there is nothing are replaced once and for all. -/
theorem reworded_reworded {other? : String → Option String} (h : ∀ s text, other? s = some text → other? text = none)
    (cell : Json) : reworded other? (reworded other? cell) = reworded other? cell := by
  cases cell with
  | str s =>
    cases hs : other? s with
    | none => simp [reworded, hs]
    | some text => simp [reworded, hs, h s text hs]
  | _ => rfl

/-- Where no token is found in a text, none is found in what a string was replaced by. -/
theorem foundText?_of_foundText? {opts : Localization} {known : List (String × String)} (h : Settled opts known)
    {s text : String} (hs : foundText? opts known s = some text) : foundText? opts known text = none := by
  obtain ⟨x, hx, rfl⟩ := Option.map_eq_some_iff.1 hs
  have hnone : (known.find? fun y => tokenFound opts y.1 x.2) = none := by
    rw [List.find?_eq_none]
    intro y hy
    rw [h x (List.mem_of_find?_eq_some hx) y hy]
    exact Bool.false_ne_true
  rw [foundText?, hnone]
  rfl

/-! ## Parts of cells and whole cells -/

/-- Where a token may be a part of a cell, it is found wherever it stands in it. -/
theorem tokenFound_iff_isInfix {opts : Localization} (h : opts.strict = false) (token s : String) :
    tokenFound opts token s = true ↔ token.toList <:+: s.toList := by
  rw [tokenFound, h, Bool.not_false, Bool.true_and, Bool.or_eq_true, Text.occursIn_iff, beq_iff_eq, or_iff_right_iff_imp]
  rintro rfl
  exact List.infix_rfl

/-- Where a token has to be the whole cell, it is found in itself only. -/
theorem tokenFound_eq_beq {opts : Localization} (h : opts.strict = true) (token s : String) :
    tokenFound opts token s = (s == token) := by
  rw [tokenFound, h, Bool.not_true, Bool.false_and, Bool.or_false]

/-- The text of the first token of a list that occurs in a string. -/
def firstText? (known : List (String × String)) (s : String) : Option String :=
  (known.find? fun x => decide (x.1.toList <:+: s.toList)).map Prod.snd

/-- Where a token may be a part of a cell, the first one that occurs in a string is found. -/
theorem foundText?_eq_firstText? {opts : Localization} (h : opts.strict = false) (known : List (String × String)) :
    foundText? opts known = firstText? known := by
  funext s
  have hfound : (fun x : String × String => tokenFound opts x.1 s) = fun x => decide (x.1.toList <:+: s.toList) := by
    funext x
    rw [Bool.eq_iff_iff, tokenFound_iff_isInfix h, decide_eq_true_iff]
  rw [foundText?, firstText?, hfound]

/-- Where a token has to be the whole cell, the text of a string is the one that is listed for it. -/
theorem foundText?_eq_lookup {opts : Localization} (h : opts.strict = true) (known : List (String × String)) (s : String) :
    foundText? opts known s = known.lookup s := by
  rw [foundText?]
  induction known with
  | nil => rfl
  | cons x rest ih =>
    obtain ⟨token, text⟩ := x
    rw [List.find?_cons, List.lookup_cons, tokenFound_eq_beq h]
    cases s == token with
    | true => rfl
    | false => exact ih

end Row

namespace Mapping

/-- The row of a record before the i18n texts are put in. -/
def namedRow (m : Mapping) (presets : Presets) (opts : Localization) (record : Json) : Row :=
  Row.withNames presets.names opts (m.row record).withLabels

/-- The texts of the tokens in a record's list are put into its row. -/
theorem getElem?_sheet_of_tokenItems? {m : Mapping} {path : String} (hpath : m.tokenPath = some path) (presets : Presets)
    (opts : Localization) {records : List Json} {i : Nat} {record : Json} (hrecord : records[i]? = some record)
    {items : List Json} (hitems : record.tokenItems? path = some items) :
    (m.sheet presets opts records)[i]? =
      some (Row.withTexts presets.texts opts (m.namedRow presets opts record) (items.filterMap Json.string?)) := by
  rw [sheet_eq_map, List.getElem?_map, hrecord, Option.map_some, localizedRow, hpath,
    ← Json.tokensAt_of_tokenItems? hitems]
  rfl

namespace TextsWitness

/-- A mapping with a gun, a description and a path of tokens. -/
def guns : Mapping := ⟨"火炮", [⟨"主炮", PathExpr.parse ".gun"⟩, ⟨"描述", PathExpr.parse ".desc"⟩], some ".ids"⟩

/-- Presets with the texts of two tokens. -/
def presets : Presets := ⟨.empty, ⟨[("ids_a", "甲"), ("ids_b", "乙")]⟩⟩

/-- A list of tokens with one that has no text and with something that is no string. -/
def ids : List Json := [.str "IDS_A", .str "IDS_X", .int 5, .str "ids_b"]

/-- The same tokens in another order, with one of them told again and with something more that is no token. -/
def idsRetold : List Json := (Json.null :: .str "ids_b" :: ids).reverse

/-- A gun with a list of tokens. -/
def gun (ids : List Json) : Json := .obj [("gun", .str "ids_b"), ("desc", .str "ids_b for IDS_A"), ("ids", .arr ids)]

theorem retold_ids : presets.texts.Retold ids idsRetold := by
  have hagain : presets.texts.Retold ids (.str "ids_b" :: ids) := .again (by simp [ids])
  have hidle : presets.texts.Retold (.str "ids_b" :: ids) (.null :: .str "ids_b" :: ids) := .idle (by rintro _ ⟨⟩)
  exact (hagain.trans hidle).trans (.reorder (List.reverse_perm _).symm)

end TextsWitness

/-- Where a token may be a part of a cell, and no text of a token in a record's list holds such a token, every string in the row of the
record becomes the text of the first token of the list that occurs in it, and stays as it is if none does; everything else stays, too.
To put the texts in again changes nothing. -/
theorem sheet_firstText {m : Mapping} {path : String} (hpath : m.tokenPath = some path) (presets : Presets)
    {opts : Localization} (hparts : opts.strict = false) {records : List Json} {i : Nat} {record : Json}
    (hrecord : records[i]? = some record) {items : List Json} (hitems : record.tokenItems? path = some items)
    (hsettled : ∀ x ∈ presets.texts.knownIn items, ∀ y ∈ presets.texts.knownIn items, ¬y.1.toList <:+: x.2.toList) :
    ∃ row, (m.sheet presets opts records)[i]? = some row ∧
      row = (m.namedRow presets opts record).mapValues
        (fun _ => Row.reworded (Row.firstText? (presets.texts.knownIn items))) ∧
      Row.withTexts presets.texts opts row (record.tokensAt path) = row := by
  have hfound : Row.Settled opts (presets.texts.knownIn items) := by
    intro x hx y hy
    rw [← Bool.not_eq_true, Row.tokenFound_iff_isInfix hparts]
    exact hsettled x hx y hy
  rw [Json.tokensAt_of_tokenItems? hitems, getElem?_sheet_of_tokenItems? hpath presets opts hrecord hitems,
    Row.withTexts_of_settled hfound, ← Row.foundText?_eq_firstText? hparts]
  refine ⟨_, rfl, rfl, ?_⟩
  rw [Row.withTexts_of_settled hfound, Fields.mapValues_mapValues]
  refine congrArg (Fields.mapValues _) (funext fun _ => funext fun cell => ?_)
  exact Row.reworded_reworded (fun s text hs => Row.foundText?_of_foundText? hfound hs) cell

open TextsWitness in
/-- The theorem at a description with two tokens, the first of which in the description is not the first of the list. -/
theorem sheet_firstText_twoTokens :
    guns.tokenPath = some ".ids" ∧ [Json.null, gun ids][1]? = some (gun ids) ∧ (gun ids).tokenItems? ".ids" = some ids ∧
      (∀ x ∈ presets.texts.knownIn ids, ∀ y ∈ presets.texts.knownIn ids, ¬y.1.toList <:+: x.2.toList) ∧
      ∃ row, (guns.sheet presets {} [.null, gun ids])[1]? = some row ∧
        ((row.get? "主炮").bind Json.string? = some "乙" ∧ (row.get? "描述").bind Json.string? = some "甲") ∧
        Row.withTexts presets.texts {} row ((gun ids).tokensAt ".ids") = row := by
  have hsettled : ∀ x ∈ presets.texts.knownIn ids, ∀ y ∈ presets.texts.knownIn ids, ¬y.1.toList <:+: x.2.toList := by
    decide +kernel
  have hpath : guns.tokenPath = some ".ids" := rfl
  have hparts : Localization.strict {} = false := rfl
  have hrecord : [Json.null, gun ids][1]? = some (gun ids) := rfl
  have hitems : (gun ids).tokenItems? ".ids" = some ids := rfl
  obtain ⟨row, hrow, heq, hagain⟩ := sheet_firstText hpath presets hparts hrecord hitems hsettled
  refine ⟨hpath, hrecord, hitems, hsettled, row, hrow, ?_, hagain⟩
  rw [heq]
  decide +kernel

/-- Where a token has to be the whole cell, and no text of a token in a record's list is such a token, every string in the row of the
record becomes the text that it has as a token of the list, and stays as it is if it is none; everything else stays, too. In the row of
another record, whose list tells these tokens in another way, the strings become the same texts. So it has the same row, if it has the
same one before the i18n texts are put in. -/
theorem sheet_wholeText {m : Mapping} {path : String} (hpath : m.tokenPath = some path) (presets : Presets)
    {opts : Localization} (hwhole : opts.strict = true) {records : List Json} {i : Nat} {record : Json}
    (hrecord : records[i]? = some record) {items : List Json} (hitems : record.tokenItems? path = some items)
    (hsettled : ∀ x ∈ presets.texts.knownIn items, ∀ y ∈ presets.texts.knownIn items, x.2 ≠ y.1) :
    ∃ row, (m.sheet presets opts records)[i]? = some row ∧
      row = (m.namedRow presets opts record).mapValues
        (fun _ => Row.reworded fun s => (presets.texts.knownIn items).lookup s) ∧
      ∀ (records' : List Json) (j : Nat) (record' : Json) (items' : List Json), records'[j]? = some record' →
        record'.tokenItems? path = some items' → presets.texts.Retold items items' →
        ∃ row', (m.sheet presets opts records')[j]? = some row' ∧
          row' = (m.namedRow presets opts record').mapValues
            (fun _ => Row.reworded fun s => (presets.texts.knownIn items).lookup s) ∧
          (m.namedRow presets opts record' = m.namedRow presets opts record → row' = row) := by
  have hfound : Row.Settled opts (presets.texts.knownIn items) := by
    intro x hx y hy
    rw [Row.tokenFound_eq_beq hwhole, beq_eq_false_iff_ne]
    exact hsettled x hx y hy
  rw [getElem?_sheet_of_tokenItems? hpath presets opts hrecord hitems, Row.withTexts_of_settled hfound,
    funext (Row.foundText?_eq_lookup hwhole _)]
  refine ⟨_, rfl, rfl, ?_⟩
  intro records' j record' items' hrecord' hitems' hretold
  have hfound' : Row.Settled opts (presets.texts.knownIn items') := hfound.mono fun x hx => (hretold.mem_knownIn_iff x).1 hx
  rw [getElem?_sheet_of_tokenItems? hpath presets opts hrecord' hitems', Row.withTexts_of_settled hfound',
    funext (Row.foundText?_eq_lookup hwhole _), funext hretold.lookup_knownIn]
  refine ⟨_, rfl, rfl, ?_⟩
  intro hnamed
  rw [hnamed]

open TextsWitness in
/-- The theorem at a gun whose list of tokens is told in two ways, in two sheets. -/
theorem sheet_wholeText_retold :
    guns.tokenPath = some ".ids" ∧ [gun ids][0]? = some (gun ids) ∧ (gun ids).tokenItems? ".ids" = some ids ∧
      (∀ x ∈ presets.texts.knownIn ids, ∀ y ∈ presets.texts.knownIn ids, x.2 ≠ y.1) ∧
      (gun idsRetold).tokenItems? ".ids" = some idsRetold ∧ presets.texts.Retold ids idsRetold ∧
      ∃ row, (guns.sheet presets { strict := true } [gun ids])[0]? = some row ∧
        (guns.sheet presets { strict := true } [.null, gun idsRetold])[1]? = some row ∧
        (row.get? "主炮").bind Json.string? = some "乙" ∧ (row.get? "描述").bind Json.string? = some "ids_b for IDS_A" := by
  have hsettled : ∀ x ∈ presets.texts.knownIn ids, ∀ y ∈ presets.texts.knownIn ids, x.2 ≠ y.1 := by decide +kernel
  have hpath : guns.tokenPath = some ".ids" := rfl
  have hwhole : Localization.strict { strict := true } = true := rfl
  have hrecord : [gun ids][0]? = some (gun ids) := rfl
  have hitems : (gun ids).tokenItems? ".ids" = some ids := rfl
  have hitems' : (gun idsRetold).tokenItems? ".ids" = some idsRetold := rfl
  obtain ⟨row, hrow, heq, hsame⟩ := sheet_wholeText hpath presets hwhole hrecord hitems hsettled
  refine ⟨hpath, hrecord, hitems, hsettled, hitems', retold_ids, row, hrow, ?_, ?_⟩
  · obtain ⟨row', hrow', -, heq'⟩ := hsame [.null, gun idsRetold] 1 (gun idsRetold) idsRetold rfl hitems' retold_ids
    rw [hrow', heq' rfl]
  · rw [heq]
    decide +kernel

end Mapping

end RecordSheets
