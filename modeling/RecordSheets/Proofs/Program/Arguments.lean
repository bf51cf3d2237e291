import Mathlib.Logic.Basic
import RecordSheets.CommandLine
import RecordSheets.Json.Value

/-!
# Arguments that name no files to write

The error log and the report are files that only their own options ask for. Arguments without these options give none of them
(`CommandLine.asksNothing_parse`): every argument keeps it so, whatever it is otherwise.
-/

namespace RecordSheets.CommandLine

/-- What comes from two steps comes from the second one, at what comes from the first. -/
theorem bind_eq_ok_iff {ε α β : Type} {x : Except ε α} {f : α → Except ε β} {b : β} :
    (x >>= f) = .ok b ↔ ∃ a, x = .ok a ∧ f a = .ok b := by
  cases x with
  | error e => exact iff_of_false nofun fun h => nomatch h
  | ok a =>
    constructor
    · exact fun h => ⟨a, rfl, h⟩
    · rintro ⟨a', ha, h⟩
      cases ha
      exact h

/-- Options that ask for neither an error log nor a report. -/
structure AsksNothing (o : Options) : Prop where
  /-- There is to be no error log. -/
  log : o.log = none
  /-- There is to be no report. -/
  report : o.report = none

/-- An option that is neither that of the error log nor that of the report. -/
def Harmless (key : Opt) : Prop := key ≠ .log ∧ key ≠ .report

instance (key : Opt) : Decidable (Harmless key) := inferInstanceAs (Decidable (key ≠ .log ∧ key ≠ .report))

/-- An argument that is not the option of a name, with or without a value attached. -/
def Without (name : String) (arg : String) : Prop := arg.toList.takeWhile (· != '=') ≠ "--".toList ++ name.toList

instance (name arg : String) : Decidable (Without name arg) :=
  inferInstanceAs (Decidable (arg.toList.takeWhile (· != '=') ≠ "--".toList ++ name.toList))

/-- Arguments have been read without asking for an error log or a report. -/
structure Progress.AsksNothing (p : Progress) : Prop where
  /-- The options so far ask for nothing. -/
  options : CommandLine.AsksNothing p.options
  /-- The option that waits for its value asks for nothing. -/
  pending : ∀ key value, p.pending = some (key, value) → Harmless key

/-- The value of a harmless option asks for nothing. -/
theorem asksNothing_setValue {o o' : Options} (h : AsksNothing o) {key : Opt} (hkey : Harmless key) {value : String}
    (hset : setValue o key value = .ok o') : AsksNothing o' := by
  have hmap : ∀ {α : Type} {x : Except UsageError α} {f : α → Options}, x.map f = .ok o' → ∃ a, f a = o' := by
    intro α x f hx
    cases x with
    | error e => cases hx
    | ok a => exact ⟨a, Except.ok.inj hx⟩
  cases key <;> simp only [setValue] at hset
  case log => exact absurd rfl hkey.1
  case report => exact absurd rfl hkey.2
  case pattern | nameColumns =>
    cases hset
    exact ⟨h.log, h.report⟩
  all_goals
    obtain ⟨a, rfl⟩ := hmap hset
    exact ⟨h.log, h.report⟩

namespace Progress

variable {p p' : Progress}

/-- Noting an option changes neither the options nor what waits. -/
theorem note_eq_ok {key : Key} (h : p.note key = .ok p') : p'.options = p.options ∧ p'.pending = p.pending := by
  unfold note at h
  split at h
  · cases h
  · cases h
    exact ⟨rfl, rfl⟩

theorem asksNothing_take (h : p.AsksNothing) {key : Opt} (hkey : Harmless key) {value : String}
    (htake : p.take key value = .ok p') : p'.AsksNothing := by
  obtain ⟨noted, hnote, hrest⟩ := bind_eq_ok_iff.1 htake
  obtain ⟨options, hset, hend⟩ := bind_eq_ok_iff.1 hrest
  cases hend
  obtain ⟨hoptions, hpending⟩ := note_eq_ok hnote
  rw [hoptions] at hset
  refine ⟨asksNothing_setValue h.options hkey hset, fun key' value' hwaits => h.pending key' value' ?_⟩
  rw [← hpending]
  exact hwaits

/-- Checking the value that waits asks for nothing. -/
theorem asksNothing_settle (h : p.AsksNothing) (hsettle : p.settle = .ok p') : p'.AsksNothing := by
  unfold settle at hsettle
  split at hsettle
  · cases hsettle
    exact h
  · cases hsettle
  · rename_i key value hwaits
    exact asksNothing_take (p := { p with pending := none }) ⟨h.options, nofun⟩ (h.pending key _ hwaits) hsettle

/-- A harmless option asks for nothing. -/
theorem asksNothing_option (h : p.AsksNothing) {key : Opt} (hkey : Harmless key) {attached : Option String}
    (hoption : p.option key attached = .ok p') : p'.AsksNothing := by
  obtain ⟨settled, hsettle, hrest⟩ := bind_eq_ok_iff.1 hoption
  have hsettled := asksNothing_settle h hsettle
  cases attached with
  | some value => exact asksNothing_take hsettled hkey hrest
  | none =>
    cases hrest
    refine ⟨hsettled.options, fun key' value' hwaits => ?_⟩
    cases hwaits
    exact hkey

theorem asksNothing_switch (h : p.AsksNothing) {key : Switch} (hswitch : p.switch key = .ok p') : p'.AsksNothing := by
  obtain ⟨settled, hsettle, hrest⟩ := bind_eq_ok_iff.1 hswitch
  have hsettled := asksNothing_settle h hsettle
  cases key with
  | help => cases hrest
  | version => cases hrest
  | verbose =>
    cases hrest
    exact ⟨⟨hsettled.options.log, hsettled.options.report⟩, hsettled.pending⟩
  | dryRun | validateOnly | strictI18n =>
    obtain ⟨noted, hnote, hend⟩ := bind_eq_ok_iff.1 hrest
    cases hend
    have hpending : noted.pending = settled.pending := (note_eq_ok hnote).2
    exact ⟨⟨hsettled.options.log, hsettled.options.report⟩, hpending ▸ hsettled.pending⟩

theorem asksNothing_short (h : p.AsksNothing) {cs : List Char} (hshort : p.short cs = .ok p') : p'.AsksNothing := by
  have hkeys : ∀ x ∈ shortKeys, x.2 ≠ .opt .log ∧ x.2 ≠ .opt .report := by decide
  induction cs generalizing p with
  | nil =>
    cases hshort
    exact h
  | cons c rest ih =>
    rw [short] at hshort
    split at hshort
    · cases hshort
    · obtain ⟨switched, hswitch, hrest⟩ := bind_eq_ok_iff.1 hshort
      exact ih (asksNothing_switch h hswitch) hrest
    · rename_i key hkey
      obtain ⟨hlog, hreport⟩ := hkeys _ (mem_of_lookup hkey)
      exact asksNothing_option h ⟨fun heq => hlog (congrArg Key.opt heq), fun heq => hreport (congrArg Key.opt heq)⟩ hshort

/-- A name behind two hyphens asks for nothing, unless it is that of the error log or of the report. -/
theorem asksNothing_long (h : p.AsksNothing) {cs : List Char} (hlog : cs.takeWhile (· != '=') ≠ "log".toList)
    (hreport : cs.takeWhile (· != '=') ≠ "report".toList) (hlong : p.long cs = .ok p') : p'.AsksNothing := by
  have hkeys : ∀ x ∈ longKeys, (x.2 = .opt .log → x.1 = "log") ∧ (x.2 = .opt .report → x.1 = "report") := by decide
  have hname : ∀ name : String, String.ofList (cs.takeWhile (· != '=')) = name → cs.takeWhile (· != '=') = name.toList := by
    rintro name rfl
    rw [String.toList_ofList]
  unfold long at hlong
  dsimp only at hlong
  split at hlong
  · cases hlong
  · rename_i key hkey
    obtain ⟨hislog, hisreport⟩ := hkeys _ (mem_of_lookup hkey)
    refine asksNothing_option h ⟨?_, ?_⟩ hlong
    · rintro rfl
      exact hlog (hname _ (hislog rfl))
    · rintro rfl
      exact hreport (hname _ (hisreport rfl))
  · rcases ite_eq_iff.1 hlong with ⟨-, herror⟩ | ⟨-, hswitch⟩
    · cases herror
    · exact asksNothing_switch h hswitch

theorem asksNothing_bare (h : p.AsksNothing) {arg : String} (hbare : p.bare arg = .ok p') : p'.AsksNothing := by
  unfold bare at hbare
  split at hbare
  · rename_i key hwaits
    split at hbare
    · cases hbare
    · cases hbare
      refine ⟨h.options, fun key' value' hthen => ?_⟩
      cases hthen
      exact h.pending key none hwaits
  · cases hbare

/-- An argument asks for nothing, unless it is the option of the error log or of the report. -/
theorem asksNothing_step (h : p.AsksNothing) {arg : String} (hlog : Without "log" arg) (hreport : Without "report" arg)
    (hstep : p.step arg = .ok p') : p'.AsksNothing := by
  unfold step at hstep
  split at hstep
  · exact asksNothing_bare h hstep
  · split at hstep
    · cases hstep
      exact ⟨h.options, h.pending⟩
    · rename_i cs _ hcs
      have hbehind : ∀ name, Without name arg → cs.takeWhile (· != '=') ≠ name.toList := by
        intro name hname heq
        refine hname ?_
        rw [hcs, ← heq]
        rfl
      exact asksNothing_long h (hbehind _ hlog) (hbehind _ hreport) hstep
    · exact asksNothing_bare h hstep
    · exact asksNothing_short h hstep
    · exact asksNothing_bare h hstep

/-- Arguments ask for nothing if none of them does. -/
theorem asksNothing_foldlM (h : p.AsksNothing) {args : List String}
    (hargs : ∀ arg ∈ args, Without "log" arg ∧ Without "report" arg) (hrun : args.foldlM step p = .ok p') :
    p'.AsksNothing := by
  induction args generalizing p with
  | nil =>
    cases hrun
    exact h
  | cons arg rest ih =>
    rw [List.forall_mem_cons] at hargs
    rw [List.foldlM_cons] at hrun
    obtain ⟨next, hstep, hrest⟩ := bind_eq_ok_iff.1 hrun
    exact ih (asksNothing_step h hargs.1.1 hargs.1.2 hstep) hargs.2 hrest

end Progress

/-- Arguments without the options of the error log and of the report give options that ask for neither. -/
theorem asksNothing_parse {args : List String} (hargs : ∀ arg ∈ args, Without "log" arg ∧ Without "report" arg) {o : Options}
    (hparse : parse args = .ok o) : AsksNothing o := by
  obtain ⟨p, hrun, hfinish⟩ := bind_eq_ok_iff.1 hparse
  have hstart : Progress.AsksNothing {} := ⟨⟨rfl, rfl⟩, nofun⟩
  have hp := Progress.asksNothing_foldlM hstart hargs hrun
  obtain ⟨settled, hsettle, hend⟩ := bind_eq_ok_iff.1 hfinish
  have hsettled := Progress.asksNothing_settle hp hsettle
  split at hend
  · cases hend
    exact hsettled.options
  · cases hend

end RecordSheets.CommandLine
