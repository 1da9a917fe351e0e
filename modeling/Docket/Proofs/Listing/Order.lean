/-
The order of the listings in their files.  Where no two issues have the same
number and no two pull requests the same url, the order in which they stand
in their files is seen nowhere: neither in a listing nor in a session.

# Why it is not seen

A pull request is looked up by its url, and the last one with that url
counts.  Where urls are distinct there is no other, so which one is found
does not depend on the order (`pullAt?_eq_some_iff`); pull requests without
a url are never found and may be repeated.  The linked issues are put in the
order of their numbers, and distinct numbers leave only one such order
(`linkPulls_perm_issues`).  So the same records are loaded, and the records
are all that a listing (`showList_congr`) and the lines of a session
(`Shell.answers_congr`) see of the files.
-/
import Docket.Proofs.Listing.FixedPoint
import Docket.Proofs.Listing.Stages
import Docket.Proofs.Shell.Session
import Mathlib.Data.List.Nodup

namespace Docket

-- ================================================ statement vocabulary

/-- No two issues have the same number. -/
def DistinctNumbers (issues : List Record) : Prop := (issues.map Record.number).Nodup

/-- No two pull requests have the same url; those without one do not
count. -/
def DistinctUrls (pulls : List Pull) : Prop := (pulls.filterMap Pull.url).Nodup

/-- The listing at a path is the same in other files, or it holds the same
items there, which are distinct, in another order. -/
def Shuffled {α : Type} (decode : String → Option (List α)) (Distinct : List α → Prop)
    (files files' : Files) (path : String) : Prop :=
  files'.entry path = files.entry path
    ∨ ∃ items items', readListing decode files path = .ok items
      ∧ readListing decode files' path = .ok items' ∧ items.Perm items' ∧ Distinct items

/-- The listings of a configuration are the same in other files, but for the
order of distinct issues and distinct pull requests. -/
structure Reordered (files files' : Files) (config : Config) : Prop where
  issues : Shuffled readRecords? DistinctNumbers files files' config.issuesPath
  pulls : Shuffled readPulls? DistinctUrls files files' config.pullsPath

variable {issues issues' : List Record} {pulls pulls' : List Pull} {files files' : Files}
  {config : Config}

-- ============================================================= linking

/-- Distinct pull requests are told apart by their urls. -/
theorem DistinctUrls.eq_of_url {p q : Pull} {url : String} (h : DistinctUrls pulls)
    (hp : p ∈ pulls) (hq : q ∈ pulls) (hpu : p.url = some url) (hqu : q.url = some url) :
    p = q := by
  unfold DistinctUrls at h
  induction pulls with
  | nil => cases hp
  | cons first pulls ih =>
      -- a pull request behind the first one has another url
      have hother : ∀ {r : Pull}, r ∈ pulls → r.url = some url → first.url ≠ some url := by
        intro r hr hru hfirst
        rw [List.filterMap_cons_some hfirst] at h
        exact (List.nodup_cons.1 h).1 (List.mem_filterMap.2 ⟨r, hr, hru⟩)
      have hrest : (pulls.filterMap Pull.url).Nodup :=
        ((List.sublist_cons_self first pulls).filterMap _).nodup h
      rcases List.mem_cons.1 hp with rfl | hp <;> rcases List.mem_cons.1 hq with rfl | hq
      · rfl
      · exact absurd hpu (hother ‹q ∈ pulls› hqu)
      · exact absurd hqu (hother ‹p ∈ pulls› hpu)
      · exact ih hrest hp hq

/-- Among distinct pull requests, the one that is found is the one with that
url. -/
theorem pullAt?_eq_some_iff {url : String} {pull : Pull} (h : DistinctUrls pulls) :
    pullAt? pulls url = some pull ↔ pull ∈ pulls ∧ pull.url = some url := by
  constructor
  · intro hfound
    exact ⟨List.mem_reverse.1 (List.mem_of_find?_eq_some hfound), url_of_pullAt? hfound⟩
  · rintro ⟨hmem, hurl⟩
    cases hfound : pullAt? pulls url with
    | none =>
        have hnone := List.find?_eq_none.1 hfound pull (List.mem_reverse.2 hmem)
        exact absurd (beq_iff_eq.2 hurl) hnone
    | some other =>
        have hother := List.mem_reverse.1 (List.mem_of_find?_eq_some hfound)
        rw [h.eq_of_url hother hmem (url_of_pullAt? hfound) hurl]

theorem pullAt?_perm (hpulls : pulls.Perm pulls') (h : DistinctUrls pulls) (url : String) :
    pullAt? pulls' url = pullAt? pulls url := by
  have h' : DistinctUrls pulls' := (hpulls.filterMap Pull.url).nodup_iff.1 h
  refine Option.ext fun pull => ?_
  rw [pullAt?_eq_some_iff h, pullAt?_eq_some_iff h', hpulls.mem_iff]

/-- The order of distinct pull requests does not count. -/
theorem linkPulls_perm_pulls (hpulls : pulls.Perm pulls') (h : DistinctUrls pulls)
    (issues : List Record) : linkPulls issues pulls' = linkPulls issues pulls := by
  have hlink : ∀ issue : Record, issue.link pulls' = issue.link pulls := by
    intro issue
    have htarget : issue.target? pulls' = issue.target? pulls := by
      unfold Record.target?
      simp only [pullAt?_perm hpulls h]
    unfold Record.link
    rw [htarget]
  unfold linkPulls
  rw [funext hlink]

/-- Distinct issues are told apart by the numbers of their records. -/
theorem DistinctNumbers.eq_of_linkPulls {r s : Record} (h : DistinctNumbers issues)
    (hr : r ∈ linkPulls issues pulls) (hs : s ∈ linkPulls issues pulls)
    (hnumber : r.number = s.number) : r = s := by
  obtain ⟨i, hi, rfl⟩ := List.mem_map.1 ((linkPulls_perm issues pulls).mem_iff.1 hr)
  obtain ⟨j, hj, rfl⟩ := List.mem_map.1 ((linkPulls_perm issues pulls).mem_iff.1 hs)
  rw [Record.number_link, Record.number_link] at hnumber
  rw [List.inj_on_of_nodup_map h hi hj hnumber]

/-- The order of distinct issues does not count: their records are the same,
and there is one order of their numbers only. -/
theorem linkPulls_perm_issues (hissues : issues.Perm issues') (h : DistinctNumbers issues)
    (pulls : List Pull) : linkPulls issues' pulls = linkPulls issues pulls := by
  have hperm : (linkPulls issues' pulls).Perm (linkPulls issues pulls) :=
    calc (linkPulls issues' pulls).Perm (issues'.map (Record.link pulls)) :=
          linkPulls_perm issues' pulls
      List.Perm _ (issues.map (Record.link pulls)) := hissues.symm.map _
      List.Perm _ (linkPulls issues pulls) := (linkPulls_perm issues pulls).symm
  refine hperm.eq_of_pairwise ?_ (pairwise_linkPulls issues' pulls) (pairwise_linkPulls issues pulls)
  intro r s hr hs hrs hsr
  have hnumber := UInt64.le_antisymm (of_decide_eq_true hrs) (of_decide_eq_true hsr)
  exact h.eq_of_linkPulls (hperm.mem_iff.1 hr) hs hnumber

-- ============================================================= loading

/-- A shuffled listing is there if the other one is. -/
theorem Shuffled.isFile_eq {α : Type} {decode : String → Option (List α)}
    {Distinct : List α → Prop} {path : String} (h : Shuffled decode Distinct files files' path) :
    files'.isFile path = files.isFile path := by
  rcases h with hentry | ⟨items, items', hread, hread', -, -⟩
  · exact Files.isFile_congr hentry
  · rw [isFile_of_readListing hread, isFile_of_readListing hread']

/-- Reordered listings load the same records, or fail alike. -/
theorem Reordered.loadRecords_eq (h : Reordered files files' config) :
    (loadRecords files' config).result = (loadRecords files config).result := by
  have hlink : ∀ issues, (loadPulls files' config).result.map (linkPulls issues)
      = (loadPulls files config).result.map (linkPulls issues) := by
    intro issues
    rw [result_loadPulls, result_loadPulls, h.pulls.isFile_eq]
    rcases h.pulls with hentry | ⟨pulls, pulls', hread, hread', hperm, hdistinct⟩
    · rw [readListing_congr hentry]
    · rw [hread, hread', isFile_of_readListing hread]
      exact congrArg Except.ok (linkPulls_perm_pulls hperm hdistinct issues)
  rw [result_loadRecords, result_loadRecords, h.issues.isFile_eq, funext hlink]
  rcases h.issues with hentry | ⟨issues, issues', hread, hread', hperm, hdistinct⟩
  · rw [readListing_congr hentry]
  · have hlinked : linkPulls issues' = linkPulls issues :=
      funext (linkPulls_perm_issues hperm hdistinct)
    rw [hread, hread']
    simp only [Except.bind, hlinked]

/-- What is read item by item is read in the order of the items. -/
theorem exists_mapM_of_perm {α β : Type} {f : α → Option β} {items items' : List α}
    (hperm : items.Perm items') :
    ∀ {values : List β}, items.mapM f = some values →
      ∃ values', items'.mapM f = some values' ∧ values.Perm values' := by
  induction hperm with
  | nil => exact fun h => ⟨_, h, List.Perm.refl _⟩
  | cons item _ ih =>
      intro values h
      simp only [List.mapM_cons, Option.bind_eq_bind, Option.bind_eq_some_iff] at h ⊢
      obtain ⟨value, hvalue, rest, hrest, hvalues⟩ := h
      cases hvalues
      obtain ⟨rest', hrest', hperm⟩ := ih hrest
      exact ⟨_, ⟨value, hvalue, rest', hrest', rfl⟩, hperm.cons value⟩
  | swap item item' _ =>
      intro values h
      simp only [List.mapM_cons, Option.bind_eq_bind, Option.bind_eq_some_iff] at h ⊢
      obtain ⟨value', hvalue', _, ⟨value, hvalue, rest, hrest, hinner⟩, hvalues⟩ := h
      cases hinner
      cases hvalues
      exact ⟨_, ⟨value, hvalue, _, ⟨value', hvalue', rest, hrest, rfl⟩, rfl⟩,
        List.Perm.swap value value' rest⟩
  | trans _ _ ih ih' =>
      intro values h
      obtain ⟨_, h', hperm⟩ := ih h
      obtain ⟨_, h'', hperm'⟩ := ih' h'
      exact ⟨_, h'', hperm.trans hperm'⟩

-- ================================================== order is not seen

/-- The order of the listings in their files is not seen.  Distinct issues
and distinct pull requests in another order are linked to the same records;
an array with its items in another order is read as such a listing; and
where listings only differ in that order, a listing ends the same and prints
the same for every query, format and limit, and a session answers each of
its lines the same. -/
theorem file_order_unseen :
    (∀ (issues issues' : List Record) (pulls pulls' : List Pull), issues.Perm issues' →
      pulls.Perm pulls' → DistinctNumbers issues → DistinctUrls pulls →
      linkPulls issues' pulls' = linkPulls issues pulls)
      ∧ (∀ text text' items items', Json.ofString? text = some (.array items) →
        Json.ofString? text' = some (.array items') → items.Perm items' →
        (∀ issues, readRecords? text = some issues →
          ∃ issues', readRecords? text' = some issues' ∧ issues.Perm issues')
        ∧ ∀ pulls, readPulls? text = some pulls →
          ∃ pulls', readPulls? text' = some pulls' ∧ pulls.Perm pulls')
      ∧ (∀ files files' config, Reordered files files' config → ∀ text format limit,
        (showList files' config text format limit).result
            = (showList files config text format limit).result
          ∧ (showList files' config text format limit).output
            = (showList files config text format limit).output)
      ∧ (∀ (world world' : World) (r : Request),
        (world'.config r.invocation).result = (world.config r.invocation).result →
        (∀ config, world.configured? r = some config →
          Reordered world.files world'.files config) →
        (world'.run r.invocation).result = (world.run r.invocation).result
          ∧ (world'.run r.invocation).output = (world.run r.invocation).output)
      ∧ ∀ files files' config input,
        (∀ dir ∈ config.dataDir :: (Shell.heard input).filterMap namedDir?,
          Reordered files files' (config.withDataDir dir)) →
        (Shell.session files' config input).output = (Shell.session files config input).output
          ∧ ∀ shell, (Shell.reload files (Shell.start config)).result = .ok shell →
            (Shell.reload files' (Shell.start config)).result = .ok shell
              ∧ Shell.answers files' shell (Shell.heard input)
                = Shell.answers files shell (Shell.heard input) := by
  refine ⟨fun issues issues' pulls pulls' hissues hpulls hnumbers hurls => ?_,
    fun text text' items items' htext htext' hperm => ⟨fun issues hread => ?_,
      fun pulls hread => ?_⟩,
    fun files files' config h text format limit => ?_, fun world world' r hconfig h => ?_,
    fun files files' config input h => ⟨?_, fun shell hshell => ?_⟩⟩
  · rw [linkPulls_perm_issues hissues hnumbers, linkPulls_perm_pulls hpulls hurls]
  · unfold readRecords? at hread ⊢
    rw [htext] at hread
    rw [htext']
    exact exists_mapM_of_perm hperm hread
  · unfold readPulls? at hread ⊢
    rw [htext] at hread
    rw [htext']
    exact exists_mapM_of_perm hperm hread
  · have hload := h.loadRecords_eq
    exact ⟨(showList_congr hload).1, Run.output_congr (showList_congr hload).2⟩
  · obtain ⟨hresult, hprinted⟩ := run_congr hconfig fun config hthere =>
      (h config hthere).loadRecords_eq
    exact ⟨hresult, Run.output_congr hprinted⟩
  · exact Shell.output_session_congr fun dir hdir => (h dir hdir).loadRecords_eq
  · have hsame : SameRecords files files' config ((Shell.heard input).filterMap namedDir?) :=
      fun dir hdir => (h dir hdir).loadRecords_eq
    rw [Shell.result_reload_eq] at hshell ⊢
    cases hshell
    exact ⟨congrArg Except.ok (Shell.loaded_congr hsame.here), Shell.answers_congr hsame⟩

/-- Three issues in no order, of which two link to pull requests. -/
def scatteredIssues : List Record :=
  [{ Record.ofNumber 7 with pull := some ⟨some "u", none, none, none⟩ }, .ofNumber 4,
    { Record.ofNumber 2 with pull := some ⟨some "v", none, none, none⟩ }]

/-- Pull requests of which two have no url. -/
def scatteredPulls : List Pull :=
  [⟨some "u", none, none, some "today"⟩, ⟨none, none, none, none⟩, ⟨some "v", none, none, none⟩,
    ⟨none, none, none, none⟩]

/-- The array of pull requests, as it is written. -/
def encodePulls (pulls : List Pull) : Json := .array (pulls.map Pull.encode)

/-- A machine whose files hold two listings. -/
def listingWorld (issues : List Record) (pulls : List Pull) : World :=
  twoListings (.text (encodeRecords issues).pretty) (.text (encodePulls pulls).pretty)

theorem ofString?_encodePulls (pulls : List Pull) :
    Json.ofString? (encodePulls pulls).pretty = some (encodePulls pulls) :=
  (clean_array Pull.clean_encode pulls).ofString?_pretty_self

theorem ofString?_encodeRecords (issues : List Record) :
    Json.ofString? (encodeRecords issues).pretty = some (encodeRecords issues) :=
  (clean_encodeRecords issues).ofString?_pretty_self

theorem readRecords?_pretty_self (issues : List Record) :
    readRecords? (encodeRecords issues).pretty = some issues := by
  unfold readRecords?
  rw [ofString?_encodeRecords]
  exact Json.mapM_map Record.decode?_encode issues

/-- The listings of such a machine are read as they were written. -/
theorem readListing_listingWorld (issues : List Record) (pulls : List Pull) :
    readListing readRecords? (listingWorld issues pulls).files Config.standard.issuesPath
        = .ok issues
      ∧ readListing readPulls? (listingWorld issues pulls).files Config.standard.pullsPath
        = .ok pulls := by
  have hpaths := Config.standard_paths
  rw [hpaths.1, hpaths.2, readListing_eq_ok_iff, readListing_eq_ok_iff]
  refine ⟨⟨_, rfl, readRecords?_pretty_self issues⟩, _, rfl, ?_⟩
  unfold readPulls?
  rw [ofString?_encodePulls]
  exact Json.mapM_map Pull.decode?_encode pulls

theorem reordered_listingWorld (hissues : issues.Perm issues') (hpulls : pulls.Perm pulls')
    (hnumbers : DistinctNumbers issues) (hurls : DistinctUrls pulls) :
    Reordered (listingWorld issues pulls).files (listingWorld issues' pulls').files .standard := by
  obtain ⟨hi, hp⟩ := readListing_listingWorld issues pulls
  obtain ⟨hi', hp'⟩ := readListing_listingWorld issues' pulls'
  exact ⟨Or.inr ⟨issues, issues', hi, hi', hissues, hnumbers⟩,
    Or.inr ⟨pulls, pulls', hp, hp', hpulls, hurls⟩⟩

/-- The scattered listings back to front, with the arrays that they are
written as, on the command line and in a session. -/
theorem file_order_unseen_scattered :
    DistinctNumbers scatteredIssues ∧ DistinctUrls scatteredPulls
      ∧ linkPulls scatteredIssues.reverse scatteredPulls.reverse
        = linkPulls scatteredIssues scatteredPulls
      ∧ (∃ issues, readRecords? (encodeRecords scatteredIssues.reverse).pretty = some issues
        ∧ scatteredIssues.Perm issues)
      ∧ Reordered (listingWorld scatteredIssues scatteredPulls).files
        (listingWorld scatteredIssues.reverse scatteredPulls.reverse).files .standard
      ∧ (showList (listingWorld scatteredIssues.reverse scatteredPulls.reverse).files .standard
          "pr" .json (some 1)).output
        = (showList (listingWorld scatteredIssues scatteredPulls).files .standard "pr" .json
          (some 1)).output
      ∧ ((listingWorld scatteredIssues.reverse scatteredPulls.reverse).run
          (Request.ofWord "merged" .text).invocation).output
        = ((listingWorld scatteredIssues scatteredPulls).run
          (Request.ofWord "merged" .text).invocation).output
      ∧ (Shell.session (listingWorld scatteredIssues.reverse scatteredPulls.reverse).files
          .standard ["merged"]).output
        = (Shell.session (listingWorld scatteredIssues scatteredPulls).files .standard
          ["merged"]).output := by
  have hissues : scatteredIssues.Perm scatteredIssues.reverse := (List.reverse_perm _).symm
  have hpulls : scatteredPulls.Perm scatteredPulls.reverse := (List.reverse_perm _).symm
  have hdistinct : DistinctNumbers scatteredIssues ∧ DistinctUrls scatteredPulls := by
    unfold DistinctNumbers DistinctUrls
    exact ⟨by decide, by decide⟩
  have hfiles := reordered_listingWorld hissues hpulls hdistinct.1 hdistinct.2
  have hconfig : ∀ issues pulls, (listingWorld issues pulls).configured?
      (Request.ofWord "merged" .text) = some .standard :=
    fun _ _ => configured?_twoListings ..
  have hdirs : ∀ dir ∈ Config.standard.dataDir :: (Shell.heard ["merged"]).filterMap namedDir?,
      dir = Config.standard.dataDir := by
    have hword : commandWords? "merged" = none := by cbv
    intro dir hdir
    simpa [Shell.heard, quits, namedDir?, commandName?, hword] using hdir
  refine ⟨hdistinct.1, hdistinct.2,
    file_order_unseen.1 _ _ _ _ hissues hpulls hdistinct.1 hdistinct.2,
    (file_order_unseen.2.1 _ _ _ _ (ofString?_encodeRecords _) (ofString?_encodeRecords _)
      (hissues.map _)).1 _ (readRecords?_pretty_self _),
    hfiles, (file_order_unseen.2.2.1 _ _ _ hfiles _ _ _).2,
    (file_order_unseen.2.2.2.1 _ _ _ ?_ fun config hthere => ?_).2,
    (file_order_unseen.2.2.2.2 _ _ _ _ fun dir hdir => ?_).1⟩
  · rw [World.configured?_eq_some_iff.1 (hconfig ..), World.configured?_eq_some_iff.1 (hconfig ..)]
  · obtain rfl := Option.some.inj ((hconfig ..).symm.trans hthere)
    exact hfiles
  · rw [hdirs dir hdir]
    exact hfiles

end Docket
