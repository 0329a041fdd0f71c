import Mathlib.Data.List.Induction
import Mathlib.Data.List.Nodup
import Folio.Proofs.Canonical
/-!
# Registering pages

Pages are registered one after the other, and some registrations are refused. `Follows` ties the catalog
to the pages offered so far: each of its paths is the normal form of its page's path, no path is there
twice, and a path leads to the first page offered under it. Every registration keeps this, accepted or not
(`Follows.next`).

As no path is there twice, nothing that a catalog answers depends on the order of its entries
(`same_of_perm`). `catalog_after` puts these together.
-/

namespace Folio

/-- The path that a page is registered under, if its path as written has a normal form. -/
def Page.key? (page : Page) : Option String := (Path.normalize page.path).toOption

theorem Page.key?_eq_some_iff (page : Page) (key : String) :
    page.key? = some key ↔ Path.normalize page.path = .ok key := by
  unfold key?
  cases Path.normalize page.path <;> simp [Except.toOption]

namespace Catalog
variable {c c' : Catalog}

/-- The paths of the pages, in the order of their registration. -/
def keys (c : Catalog) : List String := c.entries.map (·.1)

theorem find?_eq_none_iff (c : Catalog) (key : String) : c.find? key = none ↔ key ∉ c.keys := by
  rw [find?, Option.map_eq_none_iff, List.find?_eq_none, keys, List.mem_map]
  constructor
  · rintro h ⟨e, he, hk⟩
    exact h e he (decide_eq_true hk)
  · intro h e he hk
    exact h ⟨e, he, of_decide_eq_true hk⟩

theorem mem_keys_of_find? {key : String} {page : Page} (h : c.find? key = some page) : key ∈ c.keys := by
  by_contra hnot
  rw [(c.find?_eq_none_iff key).2 hnot] at h
  cases h

theorem register_error_iff (c : Catalog) (page : Page) (e : Error) :
    c.register page = .error e ↔ Path.normalize page.path = .error e ∨
      ∃ key ∈ c.keys, Path.normalize page.path = .ok key ∧ e = .duplicatePage key := by
  unfold register
  cases hn : Path.normalize page.path with
  | error e' => simp
  | ok key =>
    dsimp only
    cases hf : c.find? key with
    | some other => simp [mem_keys_of_find? hf, @eq_comm _ e]
    | none => simp [(c.find?_eq_none_iff key).1 hf]

theorem register_new {page : Page} {key : String} (hn : Path.normalize page.path = .ok key) (hnew : key ∉ c.keys) :
    c.register page = .ok ⟨c.entries ++ [(key, page)]⟩ := by
  simp only [register, hn, (c.find?_eq_none_iff key).2 hnew]

/-! ## Orders of entries -/

theorem find?_eq_some_iff (h : c.keys.Nodup) (key : String) (page : Page) :
    c.find? key = some page ↔ (key, page) ∈ c.entries := by
  constructor
  · intro hf
    obtain ⟨e, he, rfl⟩ := Option.map_eq_some_iff.1 hf
    obtain rfl : e.1 = key := by simpa using List.find?_some he
    exact List.mem_of_find?_eq_some he
  · intro hmem
    cases hf : c.find? key with
    | none => exact absurd (List.mem_map_of_mem hmem) ((c.find?_eq_none_iff key).1 hf)
    | some other =>
      obtain ⟨e, he, rfl⟩ := Option.map_eq_some_iff.1 hf
      have hkey : e.1 = key := by simpa using List.find?_some he
      rw [List.inj_on_of_nodup_map h (List.mem_of_find?_eq_some he) hmem hkey]

theorem find?_perm (h : c.keys.Nodup) (hp : c.entries.Perm c'.entries) (key : String) : c.find? key = c'.find? key := by
  have h' : c'.keys.Nodup := (hp.map _).nodup_iff.1 h
  apply Option.ext
  intro page
  rw [find?_eq_some_iff h, find?_eq_some_iff h', hp.mem_iff]

theorem pathLe_trans (a b d : String) (hab : pathLe a b = true) (hbd : pathLe b d = true) : pathLe a d = true := by
  simp only [pathLe, decide_eq_true_eq] at hab hbd ⊢
  exact List.le_trans hab hbd

theorem pathLe_total (a b : String) : (pathLe a b || pathLe b a) = true := by
  simp only [pathLe, Bool.or_eq_true, decide_eq_true_eq]
  exact List.le_total _ _

theorem pathLe_antisymm {a b : String} (hab : pathLe a b = true) (hba : pathLe b a = true) : a = b := by
  simp only [pathLe, decide_eq_true_eq] at hab hba
  exact Text.encode_injective (List.le_antisymm hab hba)

theorem paths_perm_keys (c : Catalog) : c.paths.Perm c.keys := List.mergeSort_perm _ _

theorem paths_ordered (c : Catalog) : c.paths.Pairwise fun a b => pathLe a b = true :=
  List.pairwise_mergeSort pathLe_trans pathLe_total _

theorem paths_increasing (h : c.keys.Nodup) : c.paths.Pairwise fun a b => Text.encode a < Text.encode b := by
  have hdistinct : c.paths.Nodup := c.paths_perm_keys.nodup_iff.2 h
  refine (c.paths_ordered.and hdistinct).imp ?_
  rintro a b ⟨hle, hne⟩
  by_contra hlt
  exact hne (pathLe_antisymm hle (decide_eq_true (List.not_lt.1 hlt)))

/-- Catalogs that have the same pages and answer alike. -/
structure Same (c c' : Catalog) : Prop where
  entries : c.entries.Perm c'.entries
  get : ∀ path, c.get path = c'.get path
  contains : ∀ path, c.contains path = c'.contains path
  paths : c.paths = c'.paths
  size : c.size = c'.size

theorem same_of_perm (h : c.keys.Nodup) (hp : c.entries.Perm c'.entries) : c.Same c' where
  entries := hp
  get path := by simp only [Catalog.get, find?_perm h hp]
  contains path := by simp only [Catalog.contains, find?_perm h hp]
  paths := by
    have hpaths : c.paths.Perm c'.paths :=
      (c.paths_perm_keys.trans (hp.map _)).trans c'.paths_perm_keys.symm
    exact hpaths.eq_of_pairwise (fun _ _ _ _ => pathLe_antisymm) c.paths_ordered c'.paths_ordered
  size := hp.length_eq

end Catalog

/-! ## One more page -/

/-- A catalog, and the pages that it has accepted. -/
structure Enrolled where
  catalog : Catalog
  accepted : List Page

namespace Enrolled

/-- One more registration, which leaves everything as it is if it is refused. -/
def next (s : Enrolled) (page : Page) : Enrolled :=
  match s.catalog.register page with
  | .error _ => s
  | .ok catalog => ⟨catalog, s.accepted ++ [page]⟩

/-- What registrations lead to, from a catalog without pages. -/
def after (pages : List Page) : Enrolled := pages.foldl next ⟨.empty, []⟩

structure Follows (pages : List Page) (s : Enrolled) : Prop where
  accepted : s.accepted = s.catalog.entries.map (·.2)
  keyed : ∀ e ∈ s.catalog.entries, Path.normalize e.2.path = .ok e.1
  distinct : s.catalog.keys.Nodup
  first : ∀ key, s.catalog.find? key = pages.find? (·.key? = some key)

variable {pages : List Page} {s : Enrolled} {page : Page}

theorem Follows.accept (h : Follows pages s) {key : String} (hn : Path.normalize page.path = .ok key)
    (hnew : key ∉ s.catalog.keys) :
    Follows (pages ++ [page]) ⟨⟨s.catalog.entries ++ [(key, page)]⟩, s.accepted ++ [page]⟩ := by
  constructor
  · simp [h.accepted]
  · intro e he
    rcases List.mem_append.1 he with he | he
    · exact h.keyed e he
    · rw [List.mem_singleton.1 he]
      exact hn
  · rw [Catalog.keys, List.map_append]
    exact h.distinct.append (List.nodup_singleton _) (List.disjoint_singleton.2 hnew)
  · intro other
    rw [List.find?_append, ← h.first other, Catalog.find?, List.find?_append, Option.map_or]
    congr 1
    simp only [List.find?_cons, List.find?_nil, page.key?_eq_some_iff, hn, Except.ok.injEq]
    by_cases hk : key = other <;> simp [hk]

theorem Follows.refuse (h : Follows pages s) {e : Error} (hr : s.catalog.register page = .error e) :
    Follows (pages ++ [page]) s := by
  refine ⟨h.accepted, h.keyed, h.distinct, ?_⟩
  intro key
  rw [List.find?_append, ← h.first key]
  -- A refused page has no path, or comes after the page that has it.
  by_cases hk : page.key? = some key
  · rw [page.key?_eq_some_iff] at hk
    rcases (s.catalog.register_error_iff page e).1 hr with hn | ⟨taken, hmem, hn, -⟩
    · rw [hn] at hk
      cases hk
    · obtain rfl : taken = key := Except.ok.inj (hn.symm.trans hk)
      have hsome : (s.catalog.find? taken).isSome = true := by
        rw [Option.isSome_iff_ne_none]
        exact fun hnone => (s.catalog.find?_eq_none_iff taken).1 hnone hmem
      rw [Option.or_of_isSome hsome]
  · simp [hk]

theorem Follows.next (h : Follows pages s) (page : Page) : Follows (pages ++ [page]) (s.next page) := by
  unfold Enrolled.next
  cases hr : s.catalog.register page with
  | error e => exact h.refuse hr
  | ok catalog =>
    obtain ⟨key, hn, hf, hentries⟩ := Catalog.keys_register hr
    have hnew := (s.catalog.find?_eq_none_iff key).1 hf
    obtain rfl : catalog = ⟨s.catalog.entries ++ [(key, page)]⟩ := by rw [← hentries]
    exact h.accept hn hnew

theorem after_snoc (pages : List Page) (page : Page) : after (pages ++ [page]) = (after pages).next page := by
  simp [after]

theorem follows_registered (pages : List Page) : Follows pages (after pages) := by
  induction pages using List.reverseRecOn with
  | nil => exact ⟨rfl, by simp [after, Catalog.empty], by simp [after, Catalog.keys, Catalog.empty], fun _ => rfl⟩
  | append_singleton pages page ih =>
    rw [after_snoc]
    exact ih.next page

/-- A path belongs to the first page that was accepted under it. -/
theorem Follows.find?_accepted (h : Follows pages s) (key : String) :
    s.accepted.find? (·.key? = some key) = s.catalog.find? key := by
  rw [h.accepted, List.find?_map, Catalog.find?]
  congr 1
  rw [← List.head?_filter, ← List.head?_filter]
  congr 1
  apply List.filter_congr
  intro e he
  simp [Page.key?_eq_some_iff, h.keyed e he]

/-! ## Any pages -/

/-- Where no two pages have the same path, all that have one are registered. -/
theorem entries_of_distinct (pages : List Page) (h : (pages.filterMap Page.key?).Nodup) :
    (after pages).catalog.entries = pages.filterMap fun page => page.key?.map (·, page) := by
  induction pages using List.reverseRecOn with
  | nil => rfl
  | append_singleton pages page ih =>
    rw [List.filterMap_append] at h
    have hentries := ih h.of_append_left
    rw [after_snoc, List.filterMap_append, ← hentries]
    cases hn : Path.normalize page.path with
    | error e =>
      have hrefused := ((after pages).catalog.register_error_iff page e).2 (.inl hn)
      simp [next, hrefused, Page.key?, hn, Except.toOption]
    | ok key =>
      have hkey := (page.key?_eq_some_iff key).2 hn
      have hnew : key ∉ (after pages).catalog.keys := by
        have hkeys : (after pages).catalog.keys = pages.filterMap Page.key? := by
          rw [Catalog.keys, hentries, List.map_filterMap]
          congr 1
          funext other
          cases other.key? <;> rfl
        rw [hkeys]
        exact fun hmem => List.disjoint_of_nodup_append h hmem (by simp [hkey])
      simp [next, Catalog.register_new hn hnew, hkey]

/-- After any registrations, accepted or not, the paths of a catalog are canonical, each the normal form of
its page's path, and no two are the same; it lists them in the order of their bytes. A registration is
refused exactly if the path has no normal form or is taken, and changes nothing then. A path leads to the
first page that was accepted under its normal form, which is the first one offered under it. Pages of
distinct paths make the same catalog in every order. -/
theorem catalog_after (pages : List Page) :
    let s := after pages
    let c := s.catalog
    (∀ e ∈ c.entries, Path.Canonical e.1 ∧ Path.normalize e.2.path = .ok e.1) ∧ c.keys.Nodup ∧
      (c.paths.Pairwise fun a b => Text.encode a < Text.encode b) ∧ c.paths.Perm c.keys ∧
      c.paths.length = c.size ∧
      (∀ page e, c.register page = .error e ↔
        (Path.normalize page.path = .error e ∧ e = .invalidPath "/" page.path) ∨
          ∃ key ∈ c.keys, Path.normalize page.path = .ok key ∧ e = .duplicatePage key) ∧
      (∀ page e, c.register page = .error e → s.next page = s) ∧
      (∀ path, c.get path =
        match Path.normalize path with
        | .error _ => .error (.invalidPath "/" path)
        | .ok key =>
          match s.accepted.find? (·.key? = some key) with
          | some page => .ok page
          | none => .error (.pageNotFound key)) ∧
      (∀ key, s.accepted.find? (·.key? = some key) = pages.find? (·.key? = some key)) ∧
      (∀ path, c.contains path = true ↔ ∃ page, c.get path = .ok page) ∧
      ∀ pages', pages.Perm pages' → (pages.filterMap Page.key?).Nodup → c.Same (after pages').catalog := by
  intro s c
  have h : Follows pages s := follows_registered pages
  refine ⟨?_, h.distinct, Catalog.paths_increasing h.distinct, c.paths_perm_keys, ?_, ?_, ?_, ?_, ?_, ?_, ?_⟩
  · intro e he
    exact ⟨Path.canonical_of_normalize (h.keyed e he), h.keyed e he⟩
  · rw [c.paths_perm_keys.length_eq, Catalog.keys, List.length_map, Catalog.size]
  · intro page e
    rw [c.register_error_iff]
    exact or_congr_left ⟨fun hn => ⟨hn, Path.normalize_eq_error hn⟩, And.left⟩
  · intro page e hr
    simp only [next, c] at hr ⊢
    rw [hr]
  · intro path
    unfold Catalog.get
    cases hn : Path.normalize path with
    | error e => rw [Path.normalize_eq_error hn]
    | ok key =>
      simp only [h.find?_accepted]
      cases s.catalog.find? key <;> rfl
  · intro key
    rw [h.find?_accepted, h.first]
  · intro path
    exact (c.get_isOk_iff path).symm
  · intro pages' hp hdistinct
    have hdistinct' := (hp.filterMap Page.key?).nodup_iff.1 hdistinct
    apply Catalog.same_of_perm h.distinct
    rw [entries_of_distinct pages hdistinct, entries_of_distinct pages' hdistinct']
    exact hp.filterMap _

end Enrolled

/-! ## Two pages -/

namespace Demo

def blankPage (path : String) : Page := ⟨path, none, .done (.ok ())⟩

end Demo

/-- Two pages make the same catalog in both orders. A third one whose path comes to one of theirs is
refused, and a path above the root leads to none. -/
theorem Enrolled.catalog_after_docs :
    let docs := Demo.blankPage "~/docs/./intro/"
    let index := Demo.blankPage "/index"
    let twin := Demo.blankPage "docs/x/../intro"
    (after [docs, index]).catalog.Same (after [index, docs]).catalog ∧
      (after [docs, twin]).catalog.register twin = .error (.duplicatePage "/docs/intro") ∧
      (after [docs, twin]).catalog.get "docs/intro" = .ok docs ∧
      (after [docs, twin]).catalog.get "/docs/../.." = .error (.invalidPath "/" "/docs/../..") := by
  intro docs index twin
  have hdocs : docs.key? = some "/docs/intro" := by decide +kernel
  have hindex : index.key? = some "/index" := by decide +kernel
  have htwin : twin.key? = some "/docs/intro" := by decide +kernel
  have hdistinct : ([docs, index].filterMap Page.key?).Nodup := by
    simp [hdocs, hindex]
  obtain ⟨-, -, -, -, -, -, -, -, -, -, horder⟩ := catalog_after [docs, index]
  obtain ⟨-, -, -, -, -, hregister, -, hget, hfirst, -⟩ := catalog_after [docs, twin]
  have hkey : "/docs/intro" ∈ (after [docs, twin]).catalog.keys := by decide +kernel
  refine ⟨horder [index, docs] (.swap _ _ _) hdistinct, ?_, ?_, ?_⟩
  · exact (hregister twin _).2 (.inr ⟨_, hkey, (twin.key?_eq_some_iff _).1 htwin, rfl⟩)
  · have hpath : Path.normalize "docs/intro" = .ok "/docs/intro" := by rfl
    have hfound : [docs, twin].find? (·.key? = some "/docs/intro") = some docs := by simp [hdocs]
    rw [hget, hpath]
    simp only [hfirst, hfound]
  · have hpath : Path.normalize "/docs/../.." = .error (.invalidPath "/" "/docs/../..") := by rfl
    rw [hget, hpath]

end Folio
