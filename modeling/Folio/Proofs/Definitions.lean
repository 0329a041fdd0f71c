import Mathlib.Data.List.Induction
import Mathlib.Data.List.Nodup
import Folio.Section
/-!
# Defining sections

A page asks for its sections one after the other, and some of these definitions are refused. What a
registry holds then is told by the definitions that were accepted: its sections are these, in order,
and its index leads to each of them and nowhere else.

`Follows.next` says that one more definition, accepted or not, keeps the two together, and
`registry_after` what that comes to after any definitions.
-/

namespace Folio

/-- A section that a page asks for. -/
structure Definition where
  name : String
  renderer : Renderer

namespace Definition

def key (d : Definition) : String := Text.fold d.name

/-- The section as long as nobody has called it. -/
def toSection (d : Definition) : Section := ⟨d.name, d.renderer, 0⟩

end Definition

/-- A registry, and the definitions that it has accepted. -/
structure Defined where
  registry : Registry
  accepted : List Definition

namespace Defined

/-- One more definition, which leaves everything as it is if it is refused. -/
def next (s : Defined) (d : Definition) : Defined :=
  match s.registry.define d.name d.renderer with
  | .error _ => s
  | .ok registry => ⟨registry, s.accepted ++ [d]⟩

/-- What definitions lead to, from a registry without sections. -/
def after (ds : List Definition) : Defined := ds.foldl next ⟨.empty, []⟩

/-- The registry holds what was accepted, which is the first definition under each key. -/
structure Follows (ds : List Definition) (s : Defined) : Prop where
  sections : s.registry.sections = s.accepted.map Definition.toSection
  named : ∀ d ∈ s.accepted, d.name ≠ ""
  distinct : (s.accepted.map Definition.key).Nodup
  first : ∀ key ≠ "", s.accepted.find? (·.key = key) = ds.find? (·.key = key)

variable {ds : List Definition} {s : Defined}

theorem Follows.keys (h : Follows ds s) : s.registry.keys = s.accepted.map Definition.key := by
  rw [Registry.keys, h.sections, List.map_map]
  rfl

theorem Follows.has_iff (h : Follows ds s) (name : String) :
    s.registry.has name = true ↔ ∃ d ∈ s.accepted, Text.fold d.name = Text.fold name := by
  rw [Registry.has_iff, h.keys, List.mem_map]
  rfl

theorem Follows.find?_eq (h : Follows ds s) (name : String) :
    s.registry.find? name = (s.accepted.find? (·.key = Text.fold name)).map Definition.toSection := by
  rw [Registry.find?_eq, h.sections, List.find?_map]
  rfl

/-- A name leads to the one accepted definition of its key. -/
theorem Follows.find?_of_mem (h : Follows ds s) {d : Definition} (hd : d ∈ s.accepted) {name : String}
    (hname : Text.fold d.name = Text.fold name) : s.registry.find? name = some d.toSection := by
  have hsome : (s.accepted.find? (·.key = Text.fold name)).isSome = true := by
    rw [List.find?_isSome]
    exact ⟨d, hd, decide_eq_true hname⟩
  obtain ⟨found, hfound⟩ := Option.isSome_iff_exists.1 hsome
  have hkey : found.key = d.key := by
    have hp := List.find?_some hfound
    rw [decide_eq_true_eq] at hp
    exact hp.trans hname.symm
  have heq : found = d := List.inj_on_of_nodup_map h.distinct (List.mem_of_find?_eq_some hfound) hd hkey
  rw [h.find?_eq, hfound, heq]
  rfl

/-- A registry has a place for a key exactly where the section of that key is, as no other one has it. -/
theorem Follows.index_iff (h : Follows ds s) (key : String) (i : Nat) :
    s.registry.index key = some i ↔
      ∃ hi : i < s.registry.sections.length, s.registry.sections[i].key = key := by
  have hdistinct : (s.registry.sections.map (·.key)).Nodup := by
    rw [show s.registry.sections.map (·.key) = s.registry.keys from rfl, h.keys]
    exact h.distinct
  rw [s.registry.indexed, List.idxOf?_eq_some_iff]
  simp only [List.length_map, List.getElem_map]
  constructor
  · rintro ⟨hi, hkey, -⟩
    exact ⟨hi, hkey⟩
  · rintro ⟨hi, hkey⟩
    refine ⟨hi, hkey, ?_⟩
    intro j hj hsame
    rw [List.Nodup, List.pairwise_map, List.pairwise_iff_getElem] at hdistinct
    exact hdistinct j i (by omega) hi hj (hsame.trans hkey.symm)

/-! ## One more definition -/

theorem Follows.accept (h : Follows ds s) {d : Definition} {r : Registry}
    (hd : s.registry.define d.name d.renderer = .ok r) : Follows (ds ++ [d]) ⟨r, s.accepted ++ [d]⟩ := by
  have hnew : d.key ∉ s.accepted.map Definition.key := h.keys ▸ (Registry.keys_define hd).2
  obtain ⟨hname, new, rfl⟩ := Registry.define_eq_ok_iff.1 hd
  constructor
  · rw [Registry.sections_add, h.sections, List.map_append]
    rfl
  · intro other hother
    rcases List.mem_append.1 hother with hother | hother
    · exact h.named other hother
    · rw [List.mem_singleton.1 hother]
      simpa using hname
  · rw [List.map_append, List.map_singleton]
    exact h.distinct.append (List.nodup_singleton _) (List.disjoint_singleton.2 hnew)
  · intro key hkey
    rw [List.find?_append, List.find?_append, h.first key hkey]

theorem Follows.refuse (h : Follows ds s) {d : Definition} {e : Error}
    (hd : s.registry.define d.name d.renderer = .error e) : Follows (ds ++ [d]) s := by
  refine ⟨h.sections, h.named, h.distinct, ?_⟩
  intro key hkey
  rw [List.find?_append, ← h.first key hkey]
  -- What is refused has no key, or comes after what was accepted under its key.
  rcases Registry.define_eq_error_iff.1 hd with ⟨hempty, -⟩ | ⟨-, hhas, -⟩
  · have hne : d.key ≠ key := by
      rw [Definition.key, hempty, Text.fold_empty]
      exact hkey.symm
    simp [hne]
  · by_cases hk : d.key = key
    · obtain ⟨other, hmem, hother⟩ := (h.has_iff d.name).1 hhas
      have hfound : (s.accepted.find? (·.key = key)).isSome = true := by
        rw [List.find?_isSome]
        exact ⟨other, hmem, by simpa [Definition.key, ← hk] using hother⟩
      rw [Option.or_of_isSome hfound]
    · simp [hk]

theorem Follows.next (h : Follows ds s) (d : Definition) : Follows (ds ++ [d]) (s.next d) := by
  unfold Defined.next
  cases hd : s.registry.define d.name d.renderer with
  | ok r => exact h.accept hd
  | error e => exact h.refuse hd

theorem follows_after (ds : List Definition) : Follows ds (after ds) := by
  induction ds using List.reverseRecOn with
  | nil => exact ⟨rfl, by simp [after], by simp [after], by simp [after]⟩
  | append_singleton ds d ih =>
    have hafter : after (ds ++ [d]) = (after ds).next d := by simp [after]
    rw [hafter]
    exact ih.next d

/-! ## Any definitions -/

/-- After any definitions, accepted or not, the sections and the index of a registry are in step, its
names are those of the accepted definitions, and a name leads to the first definition of its key. A
definition is refused exactly if it has no name or its key is there, and changes nothing then. -/
theorem registry_after (ds : List Definition) :
    let s := after ds
    let r := s.registry
    (∀ name ∈ r.names, name ≠ "") ∧ (r.names.map Text.fold).Nodup ∧
      (∀ key i, r.index key = some i ↔ ∃ hi : i < r.sections.length, r.sections[i].key = key) ∧
      r.names = s.accepted.map (·.name) ∧
      (∀ name, (r.has name = true ↔ (r.find? name).isSome = true) ∧
        (r.has name = true ↔ ∃ d ∈ s.accepted, Text.fold d.name = Text.fold name)) ∧
      (∀ d ∈ s.accepted, ∀ name, Text.fold d.name = Text.fold name → r.find? name = some d.toSection) ∧
      (∀ name ≠ "", r.find? name = (ds.find? fun d => Text.fold d.name = Text.fold name).map Definition.toSection) ∧
      ∀ d : Definition,
        (r.define d.name d.renderer = .error (.argument "name") ↔ d.name = "") ∧
        (r.define d.name d.renderer = .error (.conflict d.name) ↔ d.name ≠ "" ∧ r.has d.name = true) ∧
        ∀ e, r.define d.name d.renderer = .error e →
          (e = .argument "name" ∨ e = .conflict d.name) ∧ s.next d = s := by
  intro s r
  have h : Follows ds s := follows_after ds
  have hnames : r.names = s.accepted.map (·.name) := by
    rw [Registry.names, h.sections, List.map_map]
    rfl
  refine ⟨?_, ?_, h.index_iff, hnames, ?_, ?_, ?_, ?_⟩
  · intro name hname
    rw [hnames] at hname
    obtain ⟨d, hd, rfl⟩ := List.mem_map.1 hname
    exact h.named d hd
  · rw [← Registry.keys_eq, h.keys]
    exact h.distinct
  · intro name
    exact ⟨by rw [r.isSome_find?], h.has_iff name⟩
  · intro d hd name hname
    exact h.find?_of_mem hd hname
  · intro name hname
    rw [h.find?_eq, h.first _ fun hk => hname ((Text.fold_eq_empty_iff name).1 hk)]
    rfl
  · intro d
    refine ⟨?_, ?_, ?_⟩
    · rw [Registry.define_eq_error_iff]
      simp
    · rw [Registry.define_eq_error_iff]
      simp
    · intro e hd
      refine ⟨?_, by simp only [next, r, hd]⟩
      rcases Registry.define_eq_error_iff.1 hd with ⟨-, he⟩ | ⟨-, -, he⟩
      · exact .inl he
      · exact .inr he

end Defined
end Folio
