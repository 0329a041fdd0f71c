import Mathlib.Data.List.Induction
import Folio.Composer
/-!
# What a layout leaves unused

A layout makes calls to its composer in any order, and the composer keeps what they used of the
child. `Accounts` ties this record to the calls made so far: a call to render a section counts from
then on, whatever the renderer and the sink come to, and a call to set it aside counts as long as
none renders it. Every call keeps the account (`Accounts.call`), so the record is exact after any
calls, and so is the report on what is unused.
-/

namespace Folio

namespace Usage

variable (u : Usage) (key other : String)

@[simp] theorem mem_rendered_renderSection :
    other ∈ (u.renderSection key).rendered ↔ other ∈ u.rendered ∨ other = key := by
  unfold renderSection
  by_cases h : key ∈ u.rendered
  · simp only [h, if_true]
    exact ⟨.inl, fun ho => ho.elim id fun he => he ▸ h⟩
  · simp [h]

@[simp] theorem mem_ignored_renderSection :
    other ∈ (u.renderSection key).ignored ↔ other ∈ u.ignored ∧ other ≠ key := by
  simp [renderSection]

@[simp] theorem rendered_ignoreSection : (u.ignoreSection key).rendered = u.rendered := by
  unfold ignoreSection
  split <;> rfl

@[simp] theorem mem_ignored_ignoreSection :
    other ∈ (u.ignoreSection key).ignored ↔ other ∈ u.ignored ∨ other = key ∧ key ∉ u.rendered := by
  unfold ignoreSection
  split
  · next h =>
    refine ⟨.inl, fun ho => ho.elim id ?_⟩
    rintro ⟨rfl, hr⟩
    exact h.resolve_left hr
  · next h => simp [not_or.1 h]

@[simp] theorem body_renderSection : (u.renderSection key).body = u.body := rfl

@[simp] theorem rendered_ignoreBody : u.ignoreBody.rendered = u.rendered := by
  unfold ignoreBody
  split <;> rfl

@[simp] theorem ignored_ignoreBody : u.ignoreBody.ignored = u.ignored := by
  unfold ignoreBody
  split <;> rfl

@[simp] theorem body_ignoreSection : (u.ignoreSection key).body = u.body := by
  unfold ignoreSection
  split <;> rfl

end Usage

/-! ## Calls -/

/-- A call that a layout makes to its composer. A section is rendered into the sink that the layout
has at that time. -/
inductive Composer.Call where
  | renderBody
  | ignoreBody
  | isSectionDefined (name : String)
  | renderSection (name : String) (required : Bool) (sink : Sink)
  | ignoreSection (name : String)
  | check

namespace Composer.Call

/-- The name leads to the section under a key. The empty name is refused and leads to none. -/
def leads (key name : String) : Bool := name ≠ "" && Text.fold name = key

/-- The call asks for the section under a key. -/
def renders (key : String) : Call → Bool
  | .renderSection name _ _ => leads key name
  | _ => false

/-- The call sets the section under a key aside. -/
def ignores (key : String) : Call → Bool
  | .ignoreSection name => leads key name
  | _ => false

/-- The call asks for the body. -/
def rendersBody : Call → Bool
  | .renderBody => true
  | _ => false

/-- The call sets the body aside. -/
def ignoresBody : Call → Bool
  | .ignoreBody => true
  | _ => false

/-- A section with a name is led to by every name of the same fold. -/
theorem leads_fold_iff {defined : String} (h : defined ≠ "") (name : String) :
    leads (Text.fold defined) name = true ↔ Text.fold name = Text.fold defined := by
  simp only [leads, Bool.and_eq_true, decide_eq_true_eq]
  refine ⟨And.right, fun hf => ⟨?_, hf⟩⟩
  rintro rfl
  rw [Text.fold_empty] at hf
  exact h ((Text.fold_eq_empty_iff defined).1 hf.symm)

theorem any_rendersBody (calls : List Call) : calls.any rendersBody = true ↔ .renderBody ∈ calls := by
  rw [List.any_eq_true]
  constructor
  · rintro ⟨call, hmem, h⟩
    cases call <;> first | exact hmem | simp [rendersBody] at h
  · exact fun h => ⟨_, h, rfl⟩

theorem any_ignoresBody (calls : List Call) : calls.any ignoresBody = true ↔ .ignoreBody ∈ calls := by
  rw [List.any_eq_true]
  constructor
  · rintro ⟨call, hmem, h⟩
    cases call <;> first | exact hmem | simp [ignoresBody] at h
  · exact fun h => ⟨_, h, rfl⟩

end Composer.Call

namespace Composer

/-- The composer after a call, and what the call reports. -/
def call (c : Composer) : Call → Composer × Journal
  | .renderBody => (c.renderBody.2, [])
  | .ignoreBody => (c.ignoreBody, [])
  | .isSectionDefined _ => (c, [])
  | .renderSection name required sink =>
    let pull := c.renderSection name required sink
    (pull.composer, pull.events)
  | .ignoreSection name => ((c.ignoreSection name).2, [])
  | .check => (c, c.unused.map .warned)

/-- The composer after calls. -/
def after (c : Composer) (calls : List Call) : Composer := calls.foldl (fun c call => (c.call call).1) c

/-- The composer belongs to the layout at `template`, whose child has the sections of `r`, called or
not, and `body`. -/
structure Bound (template : String) (r : Registry) (body : Option Content) (c : Composer) : Prop where
  template : c.template = template
  child : ∃ sections, c.child = some ⟨sections, body⟩ ∧ sections.names = r.names

end Composer

/-- What a call to the composer of a child with the sections of `r` and `body` adds to the usage. -/
def Usage.add (r : Registry) (body : Option Content) (u : Usage) : Composer.Call → Usage
  | .renderBody => if body.isSome then u.renderBody else u
  | .ignoreBody => u.ignoreBody
  | .renderSection name _ _ => if name ≠ "" ∧ Text.fold name ∈ r.keys then u.renderSection (Text.fold name) else u
  | .ignoreSection name => if name ≠ "" ∧ Text.fold name ∈ r.keys then u.ignoreSection (Text.fold name) else u
  | _ => u

namespace Composer

variable {c : Composer} {template : String} {r sections : Registry} {body : Option Content}

/-- A section that the child defines is marked before its renderer is called, and called however often
that was done before. -/
theorem renderSection_found (h : c.child = some ⟨sections, body⟩) {name : String} (hn : name ≠ "") {s : Section}
    (hs : sections.find? name = some s) (required : Bool) (sink : Sink) :
    c.renderSection name required sink =
      let ran := (s.renderer (s.calls + 1)).run sink
      { result := ran.1.map fun _ => some .empty
        composer :=
          { c with child := some ⟨sections.countCall s.key, body⟩, usage := c.usage.renderSection (Text.fold name) }
        sink := ran.2
        events :=
          (if Text.fold name ∈ c.usage.rendered then [.warned (.sectionAlreadyRendered c.template name)] else []) ++
            [.pulled name c.template] } := by
  simp [renderSection, sectionsFor_of_child h, hn, Registry.render, hs, h]

/-- A section that the child does not define is not called. -/
theorem renderSection_missing (h : c.child = some ⟨sections, body⟩) {name : String} (hn : name ≠ "")
    (hs : sections.find? name = none) (required : Bool) (sink : Sink) :
    c.renderSection name required sink =
      { result := if required then .error (c.undefined name) else .ok none
        composer := c
        sink
        events :=
          if Text.fold name ∈ c.usage.rendered then [.warned (.sectionAlreadyRendered c.template name)] else [] } := by
  simp [renderSection, sectionsFor_of_child h, hn, Registry.render, hs]

theorem renderSection_of_has (h : c.child = some ⟨sections, body⟩) {name : String} (hn : name ≠ "")
    (hd : sections.has name = true) (required : Bool) (sink : Sink) :
    ∃ sections', sections'.names = sections.names ∧ (c.renderSection name required sink).composer =
      { c with child := some ⟨sections', body⟩, usage := c.usage.renderSection (Text.fold name) } := by
  rw [← sections.isSome_find? name] at hd
  obtain ⟨s, hs⟩ := Option.isSome_iff_exists.1 hd
  refine ⟨sections.countCall s.key, sections.names_countCall s.key, ?_⟩
  rw [renderSection_found h hn hs]

theorem renderSection_of_not_has (h : c.child = some ⟨sections, body⟩) {name : String}
    (hd : ¬ (name ≠ "" ∧ sections.has name = true)) (required : Bool) (sink : Sink) :
    (c.renderSection name required sink).composer = c := by
  by_cases hn : name = ""
  · simp [renderSection, sectionsFor_of_child h, hn]
  · have hnone : sections.find? name = none :=
      (sections.find?_eq_none_iff name).2 fun hhas => hd ⟨hn, hhas⟩
    rw [renderSection_missing h hn hnone]

theorem ignoreSection_of_child (h : c.child = some ⟨sections, body⟩) (name : String) :
    (c.ignoreSection name).2 =
      if name ≠ "" ∧ sections.has name = true then { c with usage := c.usage.ignoreSection (Text.fold name) }
      else c := by
  unfold ignoreSection
  rw [sectionsFor_of_child h]
  by_cases hn : name = ""
  · simp [hn]
  · by_cases hd : sections.has name = true <;> simp [hn, hd]

/-- A call leaves the child's names and body, and records what it uses. -/
theorem Bound.call (h : Bound template r body c) (call : Call) :
    Bound template r body (c.call call).1 ∧ (c.call call).1.usage = c.usage.add r body call := by
  obtain ⟨sections, hchild, hnames⟩ := h.child
  -- Renderers may have been called since, which changes no name.
  have hhas (name : String) : sections.has name = true ↔ Text.fold name ∈ r.keys := by
    rw [Registry.has_iff, Registry.keys_eq, hnames, ← Registry.keys_eq]
  cases call with
  | renderBody =>
    cases body with
    | none => simpa [Composer.call, Composer.renderBody, hchild, Usage.add] using h
    | some body =>
      simp only [Composer.call, Composer.renderBody, hchild, Option.bind_some]
      exact ⟨⟨h.template, sections, rfl, hnames⟩, rfl⟩
  | renderSection name required sink =>
    simp only [Composer.call, Usage.add, ← hhas]
    by_cases hd : name ≠ "" ∧ sections.has name = true
    · obtain ⟨sections', hnames', hc⟩ := renderSection_of_has hchild hd.1 hd.2 required sink
      rw [hc, if_pos hd]
      exact ⟨⟨h.template, sections', rfl, hnames'.trans hnames⟩, rfl⟩
    · rw [renderSection_of_not_has hchild hd, if_neg hd]
      exact ⟨h, rfl⟩
  | ignoreSection name =>
    simp only [Composer.call, Usage.add, ← hhas, ignoreSection_of_child hchild]
    by_cases hd : name ≠ "" ∧ sections.has name = true
    · rw [if_pos hd, if_pos hd]
      exact ⟨⟨h.template, sections, hchild, hnames⟩, rfl⟩
    · rw [if_neg hd, if_neg hd]
      exact ⟨h, rfl⟩
  | ignoreBody => exact ⟨⟨h.template, sections, hchild, hnames⟩, rfl⟩
  | isSectionDefined name => exact ⟨h, rfl⟩
  | check => exact ⟨h, rfl⟩

end Composer

/-! ## Accounts -/

namespace Usage

open Composer (Call)

variable {r : Registry} {body : Option Content} {calls : List Call} {u : Usage}

theorem mem_rendered_add (u : Usage) (call : Call) (key : String) :
    key ∈ (u.add r body call).rendered ↔ key ∈ u.rendered ∨ key ∈ r.keys ∧ call.renders key = true := by
  cases call with
  | renderBody => by_cases hb : body.isSome = true <;> simp [add, hb, renderBody, Call.renders]
  | renderSection name required sink =>
    by_cases hd : name ≠ "" ∧ Text.fold name ∈ r.keys
    · rw [add, if_pos hd, mem_rendered_renderSection]
      simp only [Call.renders, Call.leads]
      grind
    · rw [add, if_neg hd]
      simp only [Call.renders, Call.leads]
      grind
  | ignoreSection name => by_cases hd : name ≠ "" ∧ Text.fold name ∈ r.keys <;> simp [add, hd, Call.renders]
  | _ => simp [add, Call.renders]

theorem mem_ignored_add (u : Usage) (call : Call) (key : String) :
    key ∈ (u.add r body call).ignored ↔
      (key ∈ u.ignored ∨ key ∈ r.keys ∧ call.ignores key = true ∧ key ∉ u.rendered) ∧
        ¬ (key ∈ r.keys ∧ call.renders key = true) := by
  cases call with
  | renderBody =>
    by_cases hb : body.isSome = true <;> simp [add, hb, renderBody, Call.renders, Call.ignores]
  | renderSection name required sink =>
    by_cases hd : name ≠ "" ∧ Text.fold name ∈ r.keys
    · rw [add, if_pos hd, mem_ignored_renderSection]
      simp only [Call.renders, Call.ignores, Call.leads]
      grind
    · rw [add, if_neg hd]
      simp only [Call.renders, Call.ignores, Call.leads]
      grind
  | ignoreSection name =>
    by_cases hd : name ≠ "" ∧ Text.fold name ∈ r.keys
    · rw [add, if_pos hd, mem_ignored_ignoreSection]
      simp only [Call.renders, Call.ignores, Call.leads]
      grind
    · rw [add, if_neg hd]
      simp only [Call.renders, Call.ignores, Call.leads]
      grind
  | _ => simp [add, Call.renders, Call.ignores]

/-- What calls make of a body. -/
def bodyAfter (body : Option Content) (calls : List Call) : BodyState :=
  if body.isSome && calls.any Call.rendersBody then .rendered
  else if calls.any Call.ignoresBody then .ignored
  else .pending

theorem bodyAfter_eq_rendered : bodyAfter body calls = .rendered ↔ body.isSome = true ∧ .renderBody ∈ calls := by
  rw [bodyAfter, ← Call.any_rendersBody, ← Bool.and_eq_true]
  split
  · next h => exact iff_of_true rfl h
  · next h => split <;> exact iff_of_false (by simp) h

theorem bodyAfter_eq_ignored :
    bodyAfter body calls = .ignored ↔ ¬ (body.isSome = true ∧ .renderBody ∈ calls) ∧ .ignoreBody ∈ calls := by
  rw [bodyAfter, ← Call.any_rendersBody, ← Call.any_ignoresBody, ← Bool.and_eq_true]
  split
  · next h => exact iff_of_false (by simp) fun hn => hn.1 h
  · next h =>
    split
    · next hi => exact iff_of_true rfl ⟨h, hi⟩
    · next hi => exact iff_of_false (by simp) fun hn => hi hn.2

/-- The usage is what the calls used: of sections that are defined, those that a call renders, and
those that a call sets aside and none renders. -/
structure Accounts (r : Registry) (body : Option Content) (calls : List Call) (u : Usage) : Prop where
  rendered : ∀ key, key ∈ u.rendered ↔ key ∈ r.keys ∧ calls.any (·.renders key) = true
  ignored : ∀ key, key ∈ u.ignored ↔
    key ∈ r.keys ∧ calls.any (·.renders key) = false ∧ calls.any (·.ignores key) = true
  body : u.body = bodyAfter body calls

theorem body_add (call : Call) (h : u.body = bodyAfter body calls) :
    (u.add r body call).body = bodyAfter body (calls ++ [call]) := by
  simp only [bodyAfter, List.any_append, List.any_cons, List.any_nil, Bool.or_false] at h ⊢
  cases call with
  | renderBody =>
    by_cases hb : body.isSome = true
    · simp [add, hb, renderBody, Call.rendersBody]
    · simp [add, hb, h, Call.ignoresBody]
  | ignoreBody =>
    simp only [add, ignoreBody, Call.rendersBody, Call.ignoresBody, Bool.or_false, Bool.or_true]
    grind
  | renderSection name required sink =>
    by_cases hd : name ≠ "" ∧ Text.fold name ∈ r.keys <;>
      simp [add, hd, h, Call.rendersBody, Call.ignoresBody]
  | ignoreSection name =>
    by_cases hd : name ≠ "" ∧ Text.fold name ∈ r.keys <;>
      simp [add, hd, h, Call.rendersBody, Call.ignoresBody]
  | _ => simp [add, h, Call.rendersBody, Call.ignoresBody]

/-- Every call keeps the account. -/
theorem Accounts.add (h : Accounts r body calls u) (call : Call) :
    Accounts r body (calls ++ [call]) (u.add r body call) := by
  -- What is ignored depends on what was rendered before the call, so both accounts are needed for it.
  refine ⟨fun key => ?_, fun key => ?_, body_add call h.body⟩
  · rw [mem_rendered_add, h.rendered, List.any_append]
    simp only [List.any_cons, List.any_nil, Bool.or_false, Bool.or_eq_true]
    grind
  · rw [mem_ignored_add, h.ignored, h.rendered, List.any_append, List.any_append]
    simp only [List.any_cons, List.any_nil, Bool.or_false, Bool.or_eq_true, Bool.or_eq_false_iff]
    grind

end Usage

/-! ## Reports -/

namespace Composer

variable {c : Composer} {template : String} {r : Registry} {body : Option Content} {calls : List Call}

/-- The names of the sections of `r` that no call renders and none sets aside, as they are spelled there. -/
def unusedBy (r : Registry) (calls : List Call) : List String :=
  r.names.filter fun name =>
    calls.all fun call => !call.renders (Text.fold name) && !call.ignores (Text.fold name)

/-- What the layout at `template` left unused of a child with the sections of `r` and `body`. -/
def reportAfter (template : String) (r : Registry) (body : Option Content) (calls : List Call) : List Diagnostic :=
  if r.names = [] then
    if body.isSome && !calls.any Call.rendersBody && !calls.any Call.ignoresBody then [.bodyNotRendered template]
    else []
  else
    match unusedBy r calls with
    | [] => []
    | names => [.sectionsNotRendered template names]

/-- After any calls the composer is the one it was, and its usage what they used. -/
theorem after_accounts (template view : String) (r : Registry) (body : Option Content) (traced : Bool)
    (calls : List Call) :
    Bound template r body ((forLayout template view ⟨r, body⟩ traced).after calls) ∧
      ((forLayout template view ⟨r, body⟩ traced).after calls).usage.Accounts r body calls := by
  induction calls using List.reverseRecOn with
  | nil =>
    refine ⟨⟨rfl, r, rfl, rfl⟩, fun key => ?_, fun key => ?_, ?_⟩
    · simp [after, forLayout, unbound, Usage.start]
    · simp [after, forLayout, unbound, Usage.start]
    · simp [after, forLayout, unbound, Usage.start, Usage.bodyAfter]
  | append_singleton calls call ih =>
    obtain ⟨hbound, haccounts⟩ := ih
    obtain ⟨hbound', husage⟩ := hbound.call call
    have hafter : (forLayout template view ⟨r, body⟩ traced).after (calls ++ [call]) =
        (((forLayout template view ⟨r, body⟩ traced).after calls).call call).1 := by
      simp [after]
    rw [hafter, husage]
    exact ⟨hbound', haccounts.add call⟩

/-- A section is unused by the record exactly if it is unused by the calls. -/
theorem unusedNames_eq {sections : Registry} (ha : c.usage.Accounts r body calls) (hnames : sections.names = r.names) :
    c.unusedNames sections = unusedBy r calls := by
  rw [unusedNames, unusedBy, hnames]
  apply List.filter_congr
  intro name hname
  have hkey : Text.fold name ∈ r.keys := by
    rw [Registry.keys_eq]
    exact List.mem_map_of_mem hname
  rw [Bool.eq_iff_iff, decide_eq_true_iff, ha.rendered, ha.ignored]
  simp only [hkey, true_and, List.any_eq_true, List.any_eq_false, List.all_eq_true, Bool.and_eq_true,
    Bool.not_eq_true']
  grind

theorem unused_eq (hb : Bound template r body c) (ha : c.usage.Accounts r body calls) :
    c.unused = reportAfter template r body calls := by
  obtain ⟨sections, hchild, hnames⟩ := hb.child
  have hempty : sections.isEmpty = true ↔ r.names = [] := by
    rw [← hnames]
    simp [Registry.isEmpty, Registry.names]
  unfold unused reportAfter
  simp only [hchild, hempty, unusedNames_eq ha hnames, hb.template]
  by_cases hr : r.names = []
  · rw [if_pos hr, if_pos hr, ha.body, Usage.bodyAfter]
    cases body.isSome <;> cases calls.any Call.rendersBody <;> cases calls.any Call.ignoresBody <;> simp
  · cases hu : unusedBy r calls <;> simp [hr]

/-- After any calls the record of a layout's composer is exact, and so is the report on what is unused. -/
theorem usage_after (template view : String) (r : Registry) (body : Option Content) (traced : Bool)
    (calls : List Call) :
    let c := (forLayout template view ⟨r, body⟩ traced).after calls
    (∀ key, key ∈ c.usage.rendered ↔ key ∈ r.keys ∧ ∃ call ∈ calls, call.renders key = true) ∧
      (∀ key, key ∈ c.usage.ignored ↔
        key ∈ r.keys ∧ (∀ call ∈ calls, call.renders key = false) ∧ ∃ call ∈ calls, call.ignores key = true) ∧
      (c.usage.body = .rendered ↔ body.isSome ∧ .renderBody ∈ calls) ∧
      (c.usage.body = .ignored ↔ ¬ (body.isSome ∧ .renderBody ∈ calls) ∧ .ignoreBody ∈ calls) ∧
      (c.call .check).2 = (reportAfter template r body calls).map .warned := by
  intro c
  obtain ⟨hbound, haccounts⟩ := after_accounts template view r body traced calls
  refine ⟨fun key => ?_, fun key => ?_, ?_, ?_, ?_⟩
  · rw [haccounts.rendered, List.any_eq_true]
  · rw [haccounts.ignored, List.any_eq_true, List.any_eq_false]
    simp
  · rw [haccounts.body, Usage.bodyAfter_eq_rendered]
  · rw [haccounts.body, Usage.bodyAfter_eq_ignored]
  · simp only [call, unused_eq hbound haccounts, c]

end Composer
end Folio
