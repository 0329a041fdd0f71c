import Mathlib.Data.List.Forall2
import Folio.PageData
import Folio.Proofs.Usage
/-!
# Spellings of a name

Names match by their fold, so the fold has to be a good notion of the same name. It is: folding twice is
folding once, because no lower case has another lower case, and names that differ in the case of letters
of ASCII only have one fold, because such a change is seen neither by a letter nor by the sigmas around
it. Main statement: `fold_names_the_same`, what is stored under one spelling of a name is found under the
others, and the composer does not tell them apart.
-/

namespace Folio

namespace Text

/-! ## A lower case has no other one -/

/-- The capital I with a dot as a run, with the first character of its lower case only. -/
def dottedRun : CaseRun := ⟨0x130, 0x130, 1, 0x69⟩

/-- No image of the run `r` is in the run `q`: the two are apart, or `q` holds every second code point and
the images of `r` are among the others. -/
def CaseRun.clears (r q : CaseRun) : Bool :=
  Nat.blt (r.image + (r.last - r.first)) q.first || Nat.blt q.last r.image ||
    ((r.step == 2 || r.first == r.last) && q.step == 2 && (r.image + q.first) % 2 == 1)

theorem CaseRun.not_holds_image {r q : CaseRun} (h : r.clears q = true) {n : Nat} (hn : r.holds n = true) :
    q.holds (r.image + (n - r.first)) = false := by
  obtain ⟨first, last, step, image⟩ := r
  obtain ⟨first', last', step', image'⟩ := q
  simp only [clears, holds, Bool.or_eq_true, Bool.and_eq_true, Nat.blt_eq, beq_iff_eq, decide_eq_true_eq] at h hn
  simp only [holds, Bool.and_eq_false_iff, decide_eq_false_iff_not, beq_eq_false_iff_ne]
  rcases h with (h | h) | ⟨⟨rfl | rfl, rfl⟩, h⟩ <;> omega

/-- Every run of the table is clear of all others and of itself. -/
theorem caseRuns_clear : (caseRuns.all fun r => (dottedRun :: caseRuns).all r.clears) = true := by decide +kernel

/-- The character is its own lower case. -/
def Settled (c : Char) : Prop := c ≠ dottedCapitalI ∧ lowerCode c.toNat = c.toNat

instance (c : Char) : Decidable (Settled c) := inferInstanceAs (Decidable (_ ∧ _))

theorem Settled.ne_capitalSigma {c : Char} (h : Settled c) : c ≠ capitalSigma := by
  rintro rfl
  exact absurd h.2 (by decide +kernel)

theorem Settled.lower {c : Char} (h : Settled c) : lower c = [c] := by
  rw [Text.lower, if_neg h.1, h.2, Char.ofNat_toNat]

/-- The image of a code point in a run of the table is in no run. -/
theorem settled_image {r : CaseRun} (hr : r ∈ caseRuns) {n : Nat} (hn : r.holds n = true) :
    Settled (Char.ofNat (r.image + (n - r.first))) := by
  have hclear {q : CaseRun} (hq : q ∈ dottedRun :: caseRuns) : q.holds (r.image + (n - r.first)) = false :=
    CaseRun.not_holds_image (List.all_eq_true.1 (List.all_eq_true.1 caseRuns_clear r hr) q hq) hn
  by_cases hvalid : (r.image + (n - r.first)).isValidChar
  · have hcode : (Char.ofNat (r.image + (n - r.first))).toNat = r.image + (n - r.first) := by
      rw [Char.ofNat, dif_pos hvalid]
      rfl
    refine ⟨fun hc => ?_, ?_⟩
    · have hdotted := hclear (List.mem_cons_self ..)
      rw [← hcode, hc] at hdotted
      exact absurd hdotted (by decide +kernel)
    · have hnone : caseRuns.find? (·.holds (r.image + (n - r.first))) = none :=
        List.find?_eq_none.2 fun q hq => by simp [hclear (List.mem_cons_of_mem _ hq)]
      rw [hcode, lowerCode, hnone]
  · -- A code point that is no character would become the character zero, which has no other case.
    rw [Char.ofNat, dif_neg hvalid]
    decide +kernel

theorem settled_of_mem_lower {c d : Char} (h : d ∈ lower c) : Settled d := by
  unfold lower at h
  split at h
  · rcases List.mem_pair.1 h with rfl | rfl <;> decide +kernel
  · next hc =>
    obtain rfl := List.mem_singleton.1 h
    unfold lowerCode
    split
    · next r hr => exact settled_image (List.mem_of_find?_eq_some hr) (by simpa using List.find?_some hr)
    · next hnone =>
      rw [Char.ofNat_toNat]
      exact ⟨hc, by rw [lowerCode, hnone]⟩

theorem settled_of_mem_foldFrom {before cs : List Char} {d : Char} (h : d ∈ foldFrom before cs) : Settled d := by
  induction cs generalizing before with
  | nil => cases h
  | cons c cs ih =>
    rcases List.mem_append.1 h with hd | hd
    · split at hd
      · obtain rfl := List.mem_singleton.1 hd
        split <;> decide +kernel
      · exact settled_of_mem_lower hd
    · exact ih hd

theorem foldFrom_of_settled (before : List Char) {cs : List Char} (h : ∀ c ∈ cs, Settled c) :
    foldFrom before cs = cs := by
  induction cs generalizing before with
  | nil => rfl
  | cons c cs ih =>
    obtain ⟨hc, hcs⟩ := List.forall_mem_cons.1 h
    rw [foldFrom, if_neg hc.ne_capitalSigma, hc.lower, ih _ hcs, List.singleton_append]

theorem fold_fold (s : String) : fold (fold s) = fold s := by
  have hsettled : ∀ c ∈ foldChars s.toList, Settled c := fun _ => settled_of_mem_foldFrom
  rw [fold, fold, String.toList_ofList, foldChars, foldFrom_of_settled [] hsettled]

/-! ## Letters of ASCII in another case -/

/-- What folding sees of a character: its lower case, whether it is cased, whether it is passed over, and
whether it is a capital sigma. -/
def aspect (c : Char) : List Char × Bool × Bool × Bool :=
  (lower c, isCased c, isCaseIgnorable c, c = capitalSigma)

/-- A letter of ASCII looks the same in both cases. -/
theorem aspect_toLower (c : Char) : aspect c.toLower = aspect c := by
  have hletters : ∀ n : Fin 26, aspect (Char.ofNat (65 + n)).toLower = aspect (Char.ofNat (65 + n)) := by
    decide +kernel
  by_cases h : c.val ≥ 'A'.val ∧ c.val ≤ 'Z'.val
  · have hlow : 65 ≤ c.toNat := h.1
    have hhigh : c.toNat ≤ 90 := h.2
    have hc := hletters ⟨c.toNat - 65, by omega⟩
    simpa only [Nat.add_sub_cancel' hlow, Char.ofNat_toNat] using hc
  · have hother : c.toLower = c := dif_neg h
    rw [hother]

/-- One text is the other with some letters of ASCII in another case. -/
def Recased (s t : String) : Prop := List.Forall₂ (fun c d => c.toLower = d.toLower) s.toList t.toList

instance (s t : String) : Decidable (Recased s t) := inferInstanceAs (Decidable (List.Forall₂ _ _ _))

/-- Characters of the same aspects, one by one. -/
abbrev SameAspects : List Char → List Char → Prop := List.Forall₂ fun c d => aspect c = aspect d

theorem Recased.sameAspects {s t : String} (h : Recased s t) : SameAspects s.toList t.toList :=
  h.imp fun c d hcd => by rw [← aspect_toLower c, hcd, aspect_toLower]

theorem SameAspects.meetsCased {cs ds : List Char} (h : SameAspects cs ds) : meetsCased cs = meetsCased ds := by
  induction h with
  | nil => rfl
  | @cons c d cs ds hcd _ ih =>
    obtain ⟨-, hcased, hignorable, -⟩ : _ ∧ _ ∧ _ ∧ _ := by simpa [aspect] using hcd
    unfold Text.meetsCased at ih ⊢
    simp only [List.dropWhile_cons, hignorable]
    by_cases hd : isCaseIgnorable d = true
    · simpa [hd] using ih
    · simpa [hd] using hcased

/-- Folding sees nothing but the aspects, of the characters and of those around them. -/
theorem SameAspects.foldFrom {cs ds : List Char} (h : SameAspects cs ds) {before before' : List Char}
    (hbefore : SameAspects before before') : foldFrom before cs = foldFrom before' ds := by
  induction h generalizing before before' with
  | nil => rfl
  | @cons c d cs ds hcd hrest ih =>
    have hends : endsWord before cs = endsWord before' ds := by
      rw [endsWord, hbefore.meetsCased, SameAspects.meetsCased hrest, endsWord]
    obtain ⟨hlower, -, -, hsigma⟩ : _ ∧ _ ∧ _ ∧ _ := by simpa [aspect] using hcd
    rw [Text.foldFrom, Text.foldFrom, ih (.cons hcd hbefore), hends, hlower]
    simp only [hsigma]

theorem Recased.fold {s t : String} (h : Recased s t) : fold t = fold s := by
  rw [Text.fold, Text.fold, foldChars, foldChars, h.sameAspects.foldFrom .nil]

/-- The text is the name itself, the name in lower case, or the name with letters of ASCII in another case. -/
def Spells (name s : String) : Prop := s = name ∨ s = fold name ∨ Recased name s

theorem Spells.fold {name s : String} (h : Spells name s) : fold s = fold name := by
  rcases h with rfl | rfl | h
  · rfl
  · exact fold_fold name
  · exact h.fold

end Text

/-! ## What is stored under a name -/

variable {s t : String}

theorem eq_empty_iff_of_fold_eq (h : Text.fold t = Text.fold s) : t = "" ↔ s = "" := by
  rw [← Text.fold_eq_empty_iff, h, Text.fold_eq_empty_iff]

namespace Registry

theorem has_of_fold_eq (h : Text.fold t = Text.fold s) (r : Registry) : r.has t = r.has s := by rw [has, h, has]

theorem find?_of_fold_eq (h : Text.fold t = Text.fold s) (r : Registry) : r.find? t = r.find? s := by
  rw [find?, h, find?]

theorem has_of_define {r r' : Registry} {renderer : Renderer} (h : r.define s renderer = .ok r') :
    r'.has s = true := by
  rw [has_iff, (keys_define h).1]
  exact List.mem_append_right _ (List.mem_singleton_self _)

theorem find?_of_define {r r' : Registry} {renderer : Renderer} (h : r.define s renderer = .ok r') :
    r'.find? s = some ⟨s, renderer, 0⟩ := by
  obtain ⟨-, new, rfl⟩ := define_eq_ok_iff.1 h
  have hnone := (find?_eq_none_iff r s).2 new
  rw [find?_eq] at hnone
  rw [find?_eq, sections_add, List.find?_append, hnone]
  simp [Section.key]

/-- A name is refused where there is a section under another spelling of it. -/
theorem define_of_fold_eq (h : Text.fold t = Text.fold s) (hs : s ≠ "") {r : Registry} (hr : r.has s = true)
    (renderer : Renderer) : r.define t renderer = .error (.conflict t) := by
  have ht : t ≠ "" := fun ht => hs ((eq_empty_iff_of_fold_eq h).1 ht)
  exact define_eq_error_iff.2 (.inr ⟨ht, (r.has_of_fold_eq h).trans hr, rfl⟩)

end Registry

/-! ## What a composer does with a name -/

namespace Composer

variable (c : Composer) (h : Text.fold t = Text.fold s)
include h

theorem sectionsFor_of_fold_eq (operation : String) : c.sectionsFor operation t = c.sectionsFor operation s := by
  have hempty : t.isEmpty = s.isEmpty := by
    rw [Bool.eq_iff_iff, String.isEmpty_iff, String.isEmpty_iff, eq_empty_iff_of_fold_eq h]
  simp only [sectionsFor, hempty]

theorem isSectionDefined_of_fold_eq : c.isSectionDefined t = c.isSectionDefined s := by
  simp only [isSectionDefined, c.sectionsFor_of_fold_eq h, Registry.has_of_fold_eq h]

theorem ignoreSection_of_fold_eq :
    (c.ignoreSection t).2 = (c.ignoreSection s).2 ∧
      (c.ignoreSection t).1.toOption = (c.ignoreSection s).1.toOption := by
  unfold ignoreSection
  rw [c.sectionsFor_of_fold_eq h, h]
  split
  · exact ⟨rfl, rfl⟩
  · next sections _ =>
    rw [sections.has_of_fold_eq h]
    split <;> exact ⟨rfl, rfl⟩

/-- Two spellings of a name pull one section. Only errors and warnings show which of them was used. -/
theorem renderSection_of_fold_eq (required : Bool) (sink : Sink) :
    let pull := c.renderSection s required sink
    let pull' := c.renderSection t required sink
    pull'.composer = pull.composer ∧ pull'.sink = pull.sink ∧ pull'.result.toOption = pull.result.toOption ∧
      pull'.events.diagnostics.map (·.kind) = pull.events.diagnostics.map (·.kind) := by
  unfold renderSection
  rw [c.sectionsFor_of_fold_eq h]
  cases c.sectionsFor "render_section" s with
  | error e => exact ⟨rfl, rfl, rfl, rfl⟩
  | ok sections =>
    simp only [h, Registry.render, sections.find?_of_fold_eq h]
    cases sections.find? s with
    | none =>
      refine ⟨rfl, rfl, ?_, ?_⟩
      · cases required <;> rfl
      · by_cases hr : Text.fold s ∈ c.usage.rendered <;> simp [hr, Journal.diagnostics, Diagnostic.kind]
    | some found =>
      refine ⟨rfl, rfl, rfl, ?_⟩
      by_cases hr : Text.fold s ∈ c.usage.rendered <;> simp [hr, Journal.diagnostics, Diagnostic.kind]

omit h

/-- Two calls are the same up to the name that they use. -/
inductive Call.Alike (same : String → String → Prop) : Call → Call → Prop
  | same (call) : Alike same call call
  | isSectionDefined {name other} : same name other → Alike same (.isSectionDefined name) (.isSectionDefined other)
  | renderSection {name other} (required sink) : same name other →
      Alike same (.renderSection name required sink) (.renderSection other required sink)
  | ignoreSection {name other} : same name other → Alike same (.ignoreSection name) (.ignoreSection other)

variable {same : String → String → Prop} (hsame : ∀ s t, same s t → Text.fold t = Text.fold s)
include hsame

theorem call_of_alike {a b : Call} (hab : a.Alike same b) :
    (c.call b).1 = (c.call a).1 ∧
      (c.call b).2.diagnostics.map (·.kind) = (c.call a).2.diagnostics.map (·.kind) := by
  cases hab with
  | same | isSectionDefined => exact ⟨rfl, rfl⟩
  | renderSection required sink hst =>
    obtain ⟨hcomposer, -, -, hkinds⟩ := c.renderSection_of_fold_eq (hsame _ _ hst) required sink
    exact ⟨hcomposer, hkinds⟩
  | ignoreSection hst => exact ⟨(c.ignoreSection_of_fold_eq (hsame _ _ hst)).1, rfl⟩

/-- However the calls of a layout spell the names, its composer is the same in the end. -/
theorem after_of_alike {as bs : List Call} (hcalls : List.Forall₂ (Call.Alike same) as bs) :
    c.after bs = c.after as := by
  induction hcalls generalizing c with
  | nil => rfl
  | cons hab _ ih =>
    have hnext := (c.call_of_alike hsame hab).1
    simp only [after, List.foldl_cons, hnext] at ih ⊢
    exact ih _

end Composer

/-- Folding is a sound notion of the same name. Folding twice is folding once, and letters of ASCII may be in
either case. So where a section is defined under a name that is not empty, its other spellings find it and
are refused; a shared value is found under all of them; and a composer does the same for all of them, in
one call and along any calls. -/
theorem fold_names_the_same (s : String) :
    Text.fold (Text.fold s) = Text.fold s ∧
    (∀ t, Text.Recased s t → Text.fold t = Text.fold s) ∧
    (∀ t, s ≠ "" → Text.Spells s t →
      (∀ (r : Registry) renderer r', r.define s renderer = .ok r' →
        r'.has t = true ∧ r'.find? t = some ⟨s, renderer, 0⟩ ∧
          ∀ again, r'.define t again = .error (.conflict t)) ∧
      (∀ (r : Registry) renderer e, r.define s renderer = .error e →
        r.has t = true ∧ ∀ again, r.define t again = .error (.conflict t)) ∧
      (∀ (d : PageData) value, (d.set s value).get? t = some value ∧ (d.set s value).contains t = true) ∧
      ∀ (c : Composer) required sink,
        (c.renderSection t required sink).composer = (c.renderSection s required sink).composer ∧
        (c.renderSection t required sink).sink = (c.renderSection s required sink).sink ∧
        (c.renderSection t required sink).result.toOption = (c.renderSection s required sink).result.toOption ∧
        (c.renderSection t required sink).events.diagnostics.map (·.kind) =
          (c.renderSection s required sink).events.diagnostics.map (·.kind) ∧
        (c.ignoreSection t).2 = (c.ignoreSection s).2 ∧ c.isSectionDefined t = c.isSectionDefined s) ∧
    ∀ (c : Composer) calls calls', List.Forall₂ (Composer.Call.Alike Text.Spells) calls calls' →
      c.after calls' = c.after calls ∧ (c.after calls').unused = (c.after calls).unused := by
  refine ⟨Text.fold_fold s, fun t ht => ht.fold, fun t hs ht => ⟨?_, ?_, ?_, ?_⟩, ?_⟩
  · intro r renderer r' hr
    have hhas := Registry.has_of_define hr
    exact ⟨(r'.has_of_fold_eq ht.fold).trans hhas, (r'.find?_of_fold_eq ht.fold).trans (Registry.find?_of_define hr),
      Registry.define_of_fold_eq ht.fold hs hhas⟩
  · intro r renderer e hr
    have hhas : r.has s = true := by
      rcases Registry.define_eq_error_iff.1 hr with ⟨hempty, -⟩ | ⟨-, hhas, -⟩
      · exact absurd hempty hs
      · exact hhas
    exact ⟨(r.has_of_fold_eq ht.fold).trans hhas, Registry.define_of_fold_eq ht.fold hs hhas⟩
  · intro d value
    have hget : (d.set s value).get? t = some value := by rw [PageData.get?_set, if_pos ht.fold]
    exact ⟨hget, by rw [PageData.contains, hget, Option.isSome_some]⟩
  · intro c required sink
    obtain ⟨hcomposer, hsink, hresult, hkinds⟩ := c.renderSection_of_fold_eq ht.fold required sink
    exact ⟨hcomposer, hsink, hresult, hkinds, (c.ignoreSection_of_fold_eq ht.fold).1,
      c.isSectionDefined_of_fold_eq ht.fold⟩
  · intro c calls calls' hcalls
    have hafter := c.after_of_alike (fun _ _ hst => Text.Spells.fold hst) hcalls
    exact ⟨hafter, by rw [hafter]⟩

/-- The name `ΟΔΟΣ Aİ`, in which a final sigma stands before a blank and a dotted I after a letter of ASCII. -/
def streetName : String := "\u039f\u0394\u039f\u03a3 A\u0130"

/-- The name with its one letter of ASCII in lower case. -/
def streetRecased : String := "\u039f\u0394\u039f\u03a3 a\u0130"

/-- The name is defined, refused in its other spellings, found in the data, and set aside under them. -/
theorem fold_names_the_same_street :
    streetName ≠ "" ∧ Text.Spells streetName streetRecased ∧ Text.fold streetRecased = Text.fold streetName ∧
      (∃ r, Registry.empty.define streetName (.ofContent .empty) = .ok r ∧
        (∀ again, r.define streetRecased again = .error (.conflict streetRecased)) ∧
        r.define streetName (.ofContent .empty) = .error (.conflict streetName) ∧ r.has streetRecased = true ∧
        (Composer.forLayout "/" "/" ⟨r, none⟩ false).after [.ignoreSection streetRecased] =
          (Composer.forLayout "/" "/" ⟨r, none⟩ false).after [.ignoreSection streetName]) ∧
      (PageData.empty.set streetName .null).get? streetRecased = some .null := by
  have hne : streetName ≠ "" := by decide
  have hrecased : Text.Recased streetName streetRecased := by decide
  have hspells : Text.Spells streetName streetRecased := .inr (.inr hrecased)
  obtain ⟨-, hfold, hnames, hcalls⟩ := fold_names_the_same streetName
  obtain ⟨hdefined, hrefused, hdata, -⟩ := hnames streetRecased hne hspells
  have hself := (hnames streetName hne (.inl rfl)).1
  have hnew : ¬ Registry.empty.has streetName = true := by simp [Registry.has, Registry.empty]
  have hdefine : Registry.empty.define streetName (.ofContent .empty) = .ok _ :=
    Registry.define_eq_ok_iff.2 ⟨by decide, hnew, rfl⟩
  have hagain := (hself _ _ _ hdefine).2.2 (.ofContent .empty)
  refine ⟨hne, hspells, hfold _ hrecased, ⟨_, hdefine, ?_, hagain, (hrefused _ _ _ hagain).1, ?_⟩, (hdata _ _).1⟩
  · exact (hdefined _ _ _ hdefine).2.2
  · exact (hcalls _ _ _ (.cons (.ignoreSection hspells) .nil)).1

/-- The final sigma is one, the capital I with a dot becomes two characters. -/
example : Text.fold streetName = "\u03bf\u03b4\u03bf\u03c2 ai\u0307" := by decide +kernel

end Folio
