import PathTemplate.Catalog
import Mathlib.Data.List.Forall2

/-!
# Catalog — which entry of a catalog is reported

The entries are compiled in order, each under its own options, until one of them repeats a name or
does not compile.  What happens at one entry is said by the cases of `Catalog.Run`, and what happens
to a whole catalog follows by induction on them.

- `CatalogEntry.compiled` : what an entry compiles to
- `Logged.warnings`       : the reports of entries that do not compile
- `Catalog.Run`           : compiling entry by entry
- `Catalog.SoundAfter`    : new names, all different, and templates that compile
- `Catalog.Fault`         : what is wrong with an entry, and what is reported of it
- `Catalog.compileAll_outcome` : success and failure of a catalog
-/

namespace PathTemplate

def Event.isRejected : Event → Bool
  | .compiled .. => false
  | .cached .. => false
  | .attempted .. => false
  | .rejected .. => true

def Logged.warnings {α : Type} (x : Logged α) : List Event := x.events.filter Event.isRejected

/-- What an entry compiles to: under the dialect and the normalization of its own where it has them,
and under the defaults elsewhere. -/
def CatalogEntry.compiled (e : CatalogEntry) (defaults : CompileOptions) :
    Except TemplateError Template :=
  (Template.compileWith e.template
    { dialect := e.dialect.getD defaults.dialect
      normalize := e.normalize.getD defaults.normalize }).value

/-- Compiling a template rejects no entry. -/
theorem Template.warnings_compileWith (text : Text) (o : CompileOptions) :
    (compileWith text o).warnings = [] := by
  rw [compileWith, compile]
  split
  case h_1 => rfl
  case h_2 => rfl

namespace Catalog

variable {defaults : CompileOptions} {seen earlier : List Text} {c before after : Catalog}
  {e : CatalogEntry} {t : Template} {err : TemplateError} {warnings : List Event}
  {outcome : Except TemplateError (List (Text × Template))} {ts : List (Text × Template)}

/-! ## Entry by entry -/

/-- Compiling a catalog behind entries with the names `seen`: its outcome and its warnings. -/
inductive Run (defaults : CompileOptions) :
    List Text → Catalog → Except TemplateError (List (Text × Template)) → List Event → Prop
  | nil (seen : List Text) : Run defaults seen [] (.ok []) []
  | repeated {seen : List Text} {e : CatalogEntry} (rest : Catalog) :
      e.name ∈ seen → Run defaults seen (e :: rest) (.error (.duplicateName e.name)) []
  | rejected {seen : List Text} {e : CatalogEntry} {err : TemplateError} (rest : Catalog) :
      e.name ∉ seen → e.compiled defaults = .error err →
        Run defaults seen (e :: rest) (.error err) [.rejected e.name e.template err]
  | compiled {seen : List Text} {e : CatalogEntry} {t : Template} {rest : Catalog}
      {outcome : Except TemplateError (List (Text × Template))} {warnings : List Event} :
      e.name ∉ seen → e.compiled defaults = .ok t →
        Run defaults (e.name :: seen) rest outcome warnings →
          Run defaults seen (e :: rest) (outcome.map fun ts => (e.name, t) :: ts) warnings

/-- An entry that does not compile ends the run, and a warning comes behind what has been reported. -/
theorem compileAfter_of_error (rest : Catalog) (hnew : e.name ∉ seen)
    (he : e.compiled defaults = .error err) :
    (compileAfter defaults seen (e :: rest)).value = .error err ∧
      (compileAfter defaults seen (e :: rest)).warnings =
        [.rejected e.name e.template err] := by
  have hnot : seen.contains e.name = false := by simpa using hnew
  have hvalue : (Template.compileWith e.template (e.options defaults)).value = .error err := he
  have hnone := Template.warnings_compileWith e.template (e.options defaults)
  have hrun : compileAfter defaults seen (e :: rest) =
      ⟨.error err, (Template.compileWith e.template (e.options defaults)).events ++
        [.rejected e.name e.template err]⟩ := by
    rw [compileAfter, hnot, if_neg Bool.false_ne_true]
    simp only [Bind.bind, hvalue, Logged.report, pure, List.append_nil]
  rw [Logged.warnings] at hnone
  rw [hrun, Logged.warnings, List.filter_append, hnone]
  exact ⟨rfl, rfl⟩

/-- An entry that compiles is put in front of what the entries behind it compile to. -/
theorem compileAfter_of_ok (rest : Catalog) (hnew : e.name ∉ seen)
    (he : e.compiled defaults = .ok t) :
    (compileAfter defaults seen (e :: rest)).value =
        (compileAfter defaults (e.name :: seen) rest).value.map (fun ts => (e.name, t) :: ts) ∧
      (compileAfter defaults seen (e :: rest)).warnings =
        (compileAfter defaults (e.name :: seen) rest).warnings := by
  have hnot : seen.contains e.name = false := by simpa using hnew
  have hvalue : (Template.compileWith e.template (e.options defaults)).value = .ok t := he
  have hnone := Template.warnings_compileWith e.template (e.options defaults)
  have hrun : compileAfter defaults seen (e :: rest) =
      ⟨(compileAfter defaults (e.name :: seen) rest).value.map fun ts => (e.name, t) :: ts,
        (Template.compileWith e.template (e.options defaults)).events ++
          (compileAfter defaults (e.name :: seen) rest).events⟩ := by
    rw [compileAfter, hnot, if_neg Bool.false_ne_true]
    simp only [Bind.bind, hvalue, pure]
    cases (compileAfter defaults (e.name :: seen) rest).value with
    | error err => simp [Except.map]
    | ok ts => simp [Except.map]
  rw [Logged.warnings] at hnone
  rw [hrun, Logged.warnings, List.filter_append, hnone]
  exact ⟨rfl, rfl⟩

theorem run_compileAfter (defaults : CompileOptions) (seen : List Text) (c : Catalog) :
    Run defaults seen c (compileAfter defaults seen c).value
      (compileAfter defaults seen c).warnings := by
  -- The names that were seen grow from entry to entry.
  induction c generalizing seen with
  | nil => exact .nil seen
  | cons e rest ih =>
      by_cases hseen : e.name ∈ seen
      · -- The name is looked up before anything is compiled.
        rw [compileAfter, if_pos (List.contains_iff_mem.mpr hseen)]
        exact .repeated rest hseen
      · cases he : e.compiled defaults with
        | error err =>
            obtain ⟨hvalue, hwarnings⟩ := compileAfter_of_error rest hseen he
            rw [hvalue, hwarnings]
            exact .rejected rest hseen he
        | ok t =>
            obtain ⟨hvalue, hwarnings⟩ := compileAfter_of_ok rest hseen he
            rw [hvalue, hwarnings]
            exact .compiled hseen he (ih (e.name :: seen))

/-! ## Whole catalogs -/

/-- The names are new and all different, and the templates compile. -/
structure SoundAfter (defaults : CompileOptions) (seen : List Text) (c : Catalog) : Prop where
  fresh : ∀ e ∈ c, e.name ∉ seen
  nodup : (c.map (·.name)).Nodup
  compiles : ∀ e ∈ c, ∃ t, e.compiled defaults = .ok t

theorem SoundAfter.cons (hnew : e.name ∉ seen) (he : e.compiled defaults = .ok t)
    (hc : SoundAfter defaults (e.name :: seen) c) : SoundAfter defaults seen (e :: c) where
  fresh := List.forall_mem_cons.mpr
    ⟨hnew, fun x hx hmem => hc.fresh x hx (List.mem_cons_of_mem e.name hmem)⟩
  nodup := by
    apply List.nodup_cons.mpr ⟨?_, hc.nodup⟩
    intro hmem
    obtain ⟨x, hx, hname⟩ := List.mem_map.mp hmem
    exact hc.fresh x hx (hname ▸ List.mem_cons_self)
  compiles := List.forall_mem_cons.mpr ⟨⟨t, he⟩, hc.compiles⟩

/-- What is wrong with an entry behind others with the names `earlier`, with the error and the
warnings for it.  A name that is not new counts first, be the template as it may. -/
inductive Fault (defaults : CompileOptions) (earlier : List Text) (e : CatalogEntry) :
    TemplateError → List Event → Prop
  | repeated : e.name ∈ earlier → Fault defaults earlier e (.duplicateName e.name) []
  | rejected {err : TemplateError} :
      e.name ∉ earlier → e.compiled defaults = .error err →
        Fault defaults earlier e err [.rejected e.name e.template err]

/-- A sound catalog has no faulty entry. -/
theorem SoundAfter.not_fault (hc : SoundAfter defaults seen (before ++ e :: after)) :
    ¬ Fault defaults (before.map (·.name) ++ seen) e err warnings := by
  have he : e ∈ before ++ e :: after := List.mem_append_right before List.mem_cons_self
  rintro (hrepeated | ⟨-, herr⟩)
  · rcases List.mem_append.mp hrepeated with hbefore | hseen
    · have hnodup := hc.nodup
      rw [List.map_append] at hnodup
      exact (List.nodup_append.mp hnodup).2.2 _ hbefore _ List.mem_cons_self rfl
    · exact hc.fresh e he hseen
  · obtain ⟨t, ht⟩ := hc.compiles e he
    cases herr.symm.trans ht

/-- A run that succeeds has gone through a sound catalog. -/
theorem Run.of_ok (h : Run defaults seen c outcome warnings) (hok : outcome = .ok ts) :
    SoundAfter defaults seen c ∧
      List.Forall₂ (fun e p => p.1 = e.name ∧ e.compiled defaults = .ok p.2) c ts ∧
      warnings = [] := by
  induction h generalizing ts with
  | nil seen =>
      cases hok
      exact ⟨⟨List.forall_mem_nil _, List.nodup_nil, List.forall_mem_nil _⟩, .nil, rfl⟩
  | repeated | rejected => cases hok
  | @compiled seen e t rest outcome warnings hnew he _ ih =>
      cases outcome with
      | error err => cases hok
      | ok ts =>
          cases hok
          obtain ⟨hsound, hall, hwarnings⟩ := ih rfl
          exact ⟨hsound.cons hnew he, .cons ⟨rfl, he⟩ hall, hwarnings⟩

/-- A run that fails has gone through sound entries up to a faulty one. -/
theorem Run.of_error (h : Run defaults seen c outcome warnings) (herr : outcome = .error err) :
    ∃ before e after, c = before ++ e :: after ∧ SoundAfter defaults seen before ∧
      Fault defaults (before.map (·.name) ++ seen) e err warnings := by
  have hnil : ∀ seen, SoundAfter defaults seen [] := fun seen =>
    ⟨List.forall_mem_nil _, List.nodup_nil, List.forall_mem_nil _⟩
  induction h with
  | nil => cases herr
  | @repeated seen e rest hseen =>
      cases herr
      exact ⟨[], e, rest, rfl, hnil seen, .repeated hseen⟩
  | @rejected seen e err rest hnew he =>
      cases herr
      exact ⟨[], e, rest, rfl, hnil seen, .rejected hnew he⟩
  | @compiled seen e t rest outcome warnings hnew he _ ih =>
      cases outcome with
      | ok ts => cases herr
      | error err =>
          cases herr
          obtain ⟨before, x, after, rfl, hsound, hfault⟩ := ih rfl
          refine ⟨e :: before, x, after, rfl, hsound.cons hnew he, ?_⟩
          -- The name of the entry has moved from the names that were seen to those before.
          have hmem : x.name ∈ before.map (·.name) ++ e.name :: seen ↔
              x.name ∈ (e :: before).map (·.name) ++ seen := by
            simp only [List.map_cons, List.mem_append, List.mem_cons]
            tauto
          cases hfault with
          | repeated hrepeated => exact .repeated (hmem.mp hrepeated)
          | rejected hx hxerr => exact .rejected (hx ∘ hmem.mpr) hxerr

/-- A catalog compiles if and only if its names are all different and each entry compiles under its
own options and the defaults elsewhere, and then each name comes with what its entry compiles to, in
order and without a warning.  Otherwise the first entry counts that repeats a name or does not
compile.  If it repeats a name, this is the error, without a warning, even if it does not compile
either; and else the error is that of its template, with one warning. -/
theorem compileAll_outcome (c : Catalog) (defaults : CompileOptions) :
    ((∃ ts, (c.compileAll defaults).value = .ok ts) ↔
      (c.map (·.name)).Nodup ∧ ∀ e ∈ c, ∃ t, e.compiled defaults = .ok t) ∧
    (∀ ts, (c.compileAll defaults).value = .ok ts →
      List.Forall₂ (fun e p => p.1 = e.name ∧ e.compiled defaults = .ok p.2) c ts ∧
        (c.compileAll defaults).warnings = []) ∧
    ∀ err, (c.compileAll defaults).value = .error err →
      ∃ before e after, c = before ++ e :: after ∧
        ((before.map (·.name)).Nodup ∧ ∀ x ∈ before, ∃ t, x.compiled defaults = .ok t) ∧
        ((e.name ∈ before.map (·.name) ∧ err = .duplicateName e.name ∧
            (c.compileAll defaults).warnings = []) ∨
          (e.name ∉ before.map (·.name) ∧ e.compiled defaults = .error err ∧
            (c.compileAll defaults).warnings = [.rejected e.name e.template err])) := by
  have hrun : Run defaults [] c (c.compileAll defaults).value (c.compileAll defaults).warnings :=
    run_compileAfter defaults [] c
  refine ⟨⟨?_, ?_⟩, ?_, ?_⟩
  · rintro ⟨ts, hts⟩
    obtain ⟨hsound, -, -⟩ := hrun.of_ok hts
    exact ⟨hsound.nodup, hsound.compiles⟩
  · rintro ⟨hnodup, hcompiles⟩
    have hsound : SoundAfter defaults [] c := ⟨fun _ _ => List.not_mem_nil, hnodup, hcompiles⟩
    cases hvalue : (c.compileAll defaults).value with
    | ok ts => exact ⟨ts, rfl⟩
    | error err =>
        -- A run that fails has come to a faulty entry, and here there is none.
        obtain ⟨before, e, after, rfl, -, hfault⟩ := hrun.of_error hvalue
        exact absurd hfault hsound.not_fault
  · intro ts hts
    exact (hrun.of_ok hts).2
  · intro err herr
    obtain ⟨before, e, after, hc, hsound, hfault⟩ := hrun.of_error herr
    rw [List.append_nil] at hfault
    refine ⟨before, e, after, hc, ⟨hsound.nodup, hsound.compiles⟩, ?_⟩
    generalize (c.compileAll defaults).warnings = warnings at hfault ⊢
    cases hfault with
    | repeated hmem => exact .inl ⟨hmem, rfl, rfl⟩
    | rejected hnew he => exact .inr ⟨hnew, he, rfl⟩

end Catalog
end PathTemplate
