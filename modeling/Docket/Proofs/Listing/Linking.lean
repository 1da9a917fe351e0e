/-
Linking issues to pull requests.  Nothing is lost and nothing is made up:
each issue is there once, changed in its pull request at most, and the
issues stand in the order of their numbers, those of one number as they
stood before.

# Lists by number

`Rearranged` says that the records of each number are the same in two lists,
and in the same order.  Sorting only rearranges, and there is one way to put
a list in order that does no more than that (`Rearranged.eq_of_ordered`).  So
sorting forgets how a list was arranged (`sortRecords_congr`), and with it
whether parts of it had been sorted before.

# One issue

A pull request is found by its url, so a linked issue still links to the url
that it linked to before (`Record.linkUrl?_link`).  Linking again is
therefore linking to all the pull requests at once, the later ones first
(`Record.link_link`).

Main statements: linking is the stable sort of the linked issues, and the
number of links that is told is the number of issues that link to one of the
pull requests; linking in batches, of pull requests or of issues, is linking
at once.
-/
import Docket.Proofs.Listing.Showing
import Mathlib.Data.List.Forall2
import Mathlib.Data.List.Count

namespace Docket

-- ================================================ statement vocabulary

/-- The pull request is the last one with that url. -/
def IsLastAt (pulls : List Pull) (url : String) (pull : Pull) : Prop :=
  ∃ front back, pulls = front ++ pull :: back ∧ pull.url = some url
    ∧ ∀ other ∈ back, other.url ≠ some url

/-- What becomes of an issue: it gets the last pull request with the url of
its link, and is left alone if there is no link, no url or no such pull
request. -/
inductive Linked (pulls : List Pull) (issue : Record) : Record → Prop
  | found {link pull : Pull} {url : String} (links : issue.pull = some link)
      (named : link.url = some url) (last : IsLastAt pulls url pull) :
      Linked pulls issue { issue with pull := some pull }
  | noLink (links : issue.pull = none) : Linked pulls issue issue
  | noUrl {link : Pull} (links : issue.pull = some link) (named : link.url = none) :
      Linked pulls issue issue
  | missing {link : Pull} {url : String} (links : issue.pull = some link)
      (named : link.url = some url) (absent : ∀ pull ∈ pulls, pull.url ≠ some url) :
      Linked pulls issue issue

/-- There is a pull request with the url that the issue links to. -/
def Record.LinksInto (pulls : List Pull) (issue : Record) : Prop :=
  ∃ link ∈ issue.pull, ∃ url ∈ link.url, ∃ pull ∈ pulls, pull.url = some url

instance (pulls : List Pull) (issue : Record) : Decidable (issue.LinksInto pulls) :=
  inferInstanceAs (Decidable (∃ link ∈ issue.pull, ∃ url ∈ link.url, ∃ pull ∈ pulls, _))

/-- The records of each number are the same, in the same order. -/
def Rearranged (records records' : List Record) : Prop :=
  ∀ n : UInt64, records'.filter (fun r => r.number == n) = records.filter (fun r => r.number == n)

/-- `sorted` has the records once each, in the order of their numbers, and
those of one number as they stood before. -/
structure StableSort (records sorted : List Record) : Prop where
  once : sorted.Perm records
  ordered : sorted.Pairwise fun r s => r.number ≤ s.number
  stable : Rearranged records sorted

variable {pulls more : List Pull} {pull : Pull} {url : String} {issue : Record}
  {records records' records'' : List Record}

-- ========================================================= pull requests

/-- A pull request that is found has the url that it was looked up by. -/
theorem url_of_pullAt? (h : pullAt? pulls url = some pull) : pull.url = some url := by
  have hfound := List.find?_some h
  exact beq_iff_eq.1 hfound

/-- The pull request that is found is the last one with the url. -/
theorem pullAt?_eq_some_iff_isLastAt :
    pullAt? pulls url = some pull ↔ IsLastAt pulls url pull := by
  unfold pullAt? IsLastAt
  rw [List.find?_eq_some_iff_append]
  constructor
  · rintro ⟨hurl, back, front, hpulls, hback⟩
    refine ⟨front.reverse, back.reverse, ?_, beq_iff_eq.1 hurl, ?_⟩
    · rw [← List.reverse_reverse pulls, hpulls]
      simp
    · intro other hother heq
      have hno := hback other (List.mem_reverse.1 hother)
      rw [heq] at hno
      simp at hno
  · rintro ⟨front, back, rfl, hurl, hback⟩
    refine ⟨beq_iff_eq.2 hurl, back.reverse, front.reverse, by simp, ?_⟩
    intro other hother
    have hno := hback other (List.mem_reverse.1 hother)
    simpa using hno

/-- None is found exactly if none has the url. -/
theorem pullAt?_eq_none_iff : pullAt? pulls url = none ↔ ∀ pull ∈ pulls, pull.url ≠ some url := by
  unfold pullAt?
  rw [List.find?_eq_none]
  simp

/-- Later pull requests come before earlier ones. -/
theorem pullAt?_append : pullAt? (pulls ++ more) url = (pullAt? more url).or (pullAt? pulls url) := by
  unfold pullAt?
  rw [List.reverse_append, List.find?_append]

-- ============================================================= one issue

/-- The url that an issue links to, if it does. -/
def Record.linkUrl? (issue : Record) : Option String := issue.pull.bind Pull.url

/-- The pull request that an issue links to is found by its url. -/
theorem Record.target?_eq (pulls : List Pull) (issue : Record) :
    issue.target? pulls = issue.linkUrl?.bind (pullAt? pulls) := by
  unfold target? linkUrl?
  cases issue.pull <;> rfl

/-- An issue gets the pull request that it links to. -/
theorem Record.link_of_target? (h : issue.target? pulls = some pull) :
    issue.link pulls = { issue with pull := some pull } := by
  unfold link
  rw [h]

/-- A linked issue links to the url that it linked to before. -/
theorem Record.linkUrl?_link (pulls : List Pull) (issue : Record) :
    (issue.link pulls).linkUrl? = issue.linkUrl? := by
  cases htarget : issue.target? pulls with
  | none => rw [link_eq_self htarget]
  | some pull =>
      rw [link_of_target? htarget]
      rw [target?_eq, Option.bind_eq_some_iff] at htarget
      obtain ⟨url, hlink, hpull⟩ := htarget
      rw [hlink]
      exact url_of_pullAt? hpull

/-- Of two lists of pull requests, the second one is looked at first. -/
theorem Record.target?_append (pulls more : List Pull) (issue : Record) :
    issue.target? (pulls ++ more) = (issue.target? more).or (issue.target? pulls) := by
  simp only [target?_eq]
  cases issue.linkUrl? with
  | none => rfl
  | some url => exact pullAt?_append

/-- Linking to some pull requests and then to more is linking to all of
them. -/
theorem Record.link_link (pulls more : List Pull) (issue : Record) :
    (issue.link pulls).link more = issue.link (pulls ++ more) := by
  have hagain : (issue.link pulls).target? more = issue.target? more := by
    rw [target?_eq, target?_eq, linkUrl?_link]
  have hall := target?_append pulls more issue
  cases hmore : issue.target? more with
  | none =>
      rw [hmore, Option.none_or] at hall
      rw [link_eq_self (hagain.trans hmore)]
      unfold link
      rw [hall]
  | some pull =>
      rw [hmore, Option.some_or] at hall
      rw [link_of_target? (hagain.trans hmore), link_of_target? hall]
      -- all that the first link changed is put over by the second one
      unfold link
      split <;> rfl

/-- Linking twice to the same pull requests is linking once. -/
theorem Record.link_twice (pulls : List Pull) (issue : Record) :
    (issue.link pulls).link pulls = issue.link pulls := by
  have hsame : issue.target? (pulls ++ pulls) = issue.target? pulls := by
    rw [target?_append, Option.or_self]
  rw [link_link]
  unfold link
  rw [hsame]

/-- There is nothing to link to without pull requests. -/
theorem Record.link_nil (issue : Record) : issue.link [] = issue := by
  refine link_eq_self ?_
  simp [target?, pullAt?]

/-- What linking makes of an issue. -/
theorem Record.linked_link (pulls : List Pull) (issue : Record) :
    Linked pulls issue (issue.link pulls) := by
  have htarget := issue.target?_eq pulls
  unfold linkUrl? at htarget
  cases hlink : issue.pull with
  | none =>
      rw [hlink] at htarget
      rw [link_eq_self htarget]
      exact .noLink hlink
  | some link =>
      rw [hlink, Option.bind_some] at htarget
      cases hurl : link.url with
      | none =>
          rw [hurl] at htarget
          rw [link_eq_self htarget]
          exact .noUrl hlink hurl
      | some url =>
          rw [hurl, Option.bind_some] at htarget
          cases hpull : pullAt? pulls url with
          | none =>
              rw [link_eq_self (htarget.trans hpull)]
              exact .missing hlink hurl (pullAt?_eq_none_iff.1 hpull)
          | some pull =>
              rw [link_of_target? (htarget.trans hpull)]
              exact .found hlink hurl (pullAt?_eq_some_iff_isLastAt.1 hpull)

/-- An issue gets a pull request exactly if there is one with the url that
it links to. -/
theorem Record.isSome_target?_iff : (issue.target? pulls).isSome = true ↔ issue.LinksInto pulls := by
  rw [target?_eq]
  unfold linkUrl? LinksInto
  cases issue.pull with
  | none => simp
  | some link =>
      rw [Option.bind_some]
      cases hurl : link.url with
      | none => simp [hurl]
      | some url =>
          have hnone : pullAt? pulls url = none ↔ ∀ pull ∈ pulls, pull.url ≠ some url :=
            pullAt?_eq_none_iff
          rw [Option.bind_some, Option.isSome_iff_ne_none, ne_eq, hnone]
          simp [hurl]

-- ======================================================= lists by number

theorem Rearranged.symm (h : Rearranged records records') : Rearranged records' records :=
  fun n => (h n).symm

theorem Rearranged.trans (h : Rearranged records records') (h' : Rearranged records' records'') :
    Rearranged records records'' :=
  fun n => (h' n).trans (h n)

/-- A rearranged list has the same records. -/
theorem Rearranged.perm (h : Rearranged records records') : records'.Perm records := by
  rw [List.perm_iff_count]
  intro r
  have hcount : ∀ l : List Record, (l.filter fun s => s.number == r.number).count r = l.count r :=
    fun l => List.count_filter (beq_self_eq_true r.number)
  rw [← hcount, h r.number, hcount]

/-- Lists put one behind the other are rearranged part by part. -/
theorem Rearranged.append {others others' : List Record} (h : Rearranged records records')
    (h' : Rearranged others others') : Rearranged (records ++ others) (records' ++ others') := by
  intro n
  rw [List.filter_append, List.filter_append, h n, h' n]

/-- What keeps the numbers of records keeps lists rearranged. -/
theorem Rearranged.map {f : Record → Record} (hf : ∀ r, (f r).number = r.number)
    (h : Rearranged records records') : Rearranged (records.map f) (records'.map f) := by
  intro n
  have hnumber : (fun r => (f r).number == n) = fun r : Record => r.number == n := by
    funext r
    rw [hf]
  simp only [List.filter_map, Function.comp_def, hnumber, h n]

/-- In a list that is not empty there are records of some number. -/
theorem Rearranged.ne_nil {r : Record} (h : Rearranged (r :: records) records') :
    records' ≠ [] := by
  rintro rfl
  have hn := h r.number
  simp at hn

/-- Two lists in order that are rearranged into each other are one. -/
theorem Rearranged.eq_of_ordered (h : Rearranged records records')
    (hrecords : records.Pairwise fun r s => r.number ≤ s.number)
    (hrecords' : records'.Pairwise fun r s => r.number ≤ s.number) : records' = records := by
  induction records generalizing records' with
  | nil =>
      cases records' with
      | nil => rfl
      | cons s records' => exact absurd rfl h.symm.ne_nil
  | cons r records ih =>
      cases records' with
      | nil => exact absurd rfl h.ne_nil
      | cons s records' =>
          rw [List.pairwise_cons] at hrecords hrecords'
          have hmem : ∀ t, t ∈ s :: records' ↔ t ∈ r :: records := fun t => h.perm.mem_iff
          -- both heads have the least number that there is
          have hle : r.number ≤ s.number := by
            rcases List.mem_cons.1 ((hmem s).1 List.mem_cons_self) with heq | hs
            · exact heq ▸ UInt64.le_refl _
            · exact hrecords.1 s hs
          have hge : s.number ≤ r.number := by
            rcases List.mem_cons.1 ((hmem r).2 List.mem_cons_self) with heq | hr
            · exact heq ▸ UInt64.le_refl _
            · exact hrecords'.1 r hr
          have hnumber : s.number = r.number := UInt64.le_antisymm hge hle
          have hfirst := h r.number
          rw [List.filter_cons_of_pos (by simpa using hnumber),
            List.filter_cons_of_pos (by simp), List.cons.injEq] at hfirst
          obtain ⟨rfl, hrest⟩ := hfirst
          refine congrArg (s :: ·) (ih ?_ hrecords.2 hrecords'.2)
          intro n
          by_cases hn : s.number = n
          · rw [← hn]
            exact hrest
          · have hother := h n
            rw [List.filter_cons_of_neg (by simpa using hn),
              List.filter_cons_of_neg (by simpa using hn)] at hother
            exact hother

-- =============================================================== sorting

theorem decide_number_trans (r s t : Record) (hrs : decide (r.number ≤ s.number) = true)
    (hst : decide (s.number ≤ t.number) = true) : decide (r.number ≤ t.number) = true :=
  decide_eq_true (UInt64.le_trans (of_decide_eq_true hrs) (of_decide_eq_true hst))

theorem decide_number_total (r s : Record) :
    (decide (r.number ≤ s.number) || decide (s.number ≤ r.number)) = true := by
  simpa using UInt64.le_total r.number s.number

/-- Sorted records stand in the order of their numbers. -/
theorem pairwise_sortRecords (records : List Record) :
    (sortRecords records).Pairwise fun r s => decide (r.number ≤ s.number) = true :=
  List.pairwise_mergeSort decide_number_trans decide_number_total records

theorem ordered_sortRecords (records : List Record) :
    (sortRecords records).Pairwise fun r s => r.number ≤ s.number :=
  (pairwise_sortRecords records).imp of_decide_eq_true

/-- Sorting keeps the records of one number in their order. -/
theorem rearranged_sortRecords (records : List Record) :
    Rearranged records (sortRecords records) := by
  intro n
  have hsame : (records.filter fun r => r.number == n).Pairwise
      fun r s => decide (r.number ≤ s.number) = true := by
    refine List.pairwise_of_forall_mem_list ?_
    intro r hr s hs
    have hrn : r.number = n := by simpa using (List.mem_filter.1 hr).2
    have hsn : s.number = n := by simpa using (List.mem_filter.1 hs).2
    rw [hrn, hsn]
    exact decide_eq_true (UInt64.le_refl n)
  have hsub : (records.filter fun r => r.number == n).Sublist (sortRecords records) :=
    List.sublist_mergeSort decide_number_trans decide_number_total hsame List.filter_sublist
  have hkept := hsub.filter fun r => r.number == n
  rw [List.filter_filter] at hkept
  simp only [Bool.and_self] at hkept
  have hlength : ((sortRecords records).filter fun r => r.number == n).length
      = (records.filter fun r => r.number == n).length :=
    ((List.mergeSort_perm records _).filter _).length_eq
  exact (hkept.eq_of_length hlength.symm).symm

/-- Lists that are rearranged into each other are sorted alike. -/
theorem sortRecords_congr (h : Rearranged records records') :
    sortRecords records' = sortRecords records := by
  have hsorted : Rearranged (sortRecords records) (sortRecords records') :=
    ((rearranged_sortRecords records).symm.trans h).trans (rearranged_sortRecords records')
  exact hsorted.eq_of_ordered (ordered_sortRecords records) (ordered_sortRecords records')

/-- Sorting is the one stable sort. -/
theorem stableSort_iff {sorted : List Record} :
    StableSort records sorted ↔ sorted = sortRecords records := by
  constructor
  · intro h
    exact ((rearranged_sortRecords records).symm.trans h.stable).eq_of_ordered
      (ordered_sortRecords records) h.ordered
  · rintro rfl
    exact ⟨(rearranged_sortRecords records).perm, ordered_sortRecords records,
      rearranged_sortRecords records⟩

-- ========================================================= many issues

variable {issues : List Record} {files : Files} {config : Config}

/-- Linked records stand in the order of their numbers. -/
theorem pairwise_linkPulls (issues : List Record) (pulls : List Pull) :
    (linkPulls issues pulls).Pairwise fun r s => decide (r.number ≤ s.number) = true :=
  pairwise_sortRecords _

/-- Linking what was linked and sorted is linking it in any arrangement. -/
theorem linkPulls_rearranged (h : Rearranged records records') (pulls : List Pull) :
    linkPulls records' pulls = linkPulls records pulls :=
  sortRecords_congr (h.map (Record.number_link pulls))

/-- Issues that are linked and sorted are the linked issues, rearranged. -/
theorem rearranged_linkPulls (issues : List Record) (pulls : List Pull) :
    Rearranged (issues.map (Record.link pulls)) (linkPulls issues pulls) :=
  rearranged_sortRecords _

/-- Linking to some pull requests and then to more is linking to all of
them at once. -/
theorem linkPulls_linkPulls (issues : List Record) (pulls more : List Pull) :
    linkPulls (linkPulls issues pulls) more = linkPulls issues (pulls ++ more) := by
  have hlink : (issues.map (Record.link pulls)).map (Record.link more)
      = issues.map (Record.link (pulls ++ more)) := by
    rw [List.map_map]
    exact List.map_congr_left fun issue _ => issue.link_link pulls more
  calc linkPulls (linkPulls issues pulls) more
      = linkPulls (issues.map (Record.link pulls)) more :=
        linkPulls_rearranged (rearranged_linkPulls issues pulls) more
    _ = sortRecords (issues.map (Record.link (pulls ++ more))) := by
        unfold linkPulls
        rw [hlink]

/-- A second link to the same pull requests changes nothing. -/
theorem map_link_twice (issues : List Record) (pulls : List Pull) :
    (issues.map (Record.link pulls)).map (Record.link pulls) = issues.map (Record.link pulls) := by
  rw [List.map_map]
  exact List.map_congr_left fun issue _ => issue.link_twice pulls

/-- Linking batches of issues, and then all that came of them, is linking
them at once. -/
theorem linkPulls_append (issues others : List Record) (pulls : List Pull) :
    linkPulls (linkPulls issues pulls ++ linkPulls others pulls) pulls
      = linkPulls (issues ++ others) pulls := by
  have hparts := (rearranged_linkPulls issues pulls).append (rearranged_linkPulls others pulls)
  calc linkPulls (linkPulls issues pulls ++ linkPulls others pulls) pulls
      = linkPulls (issues.map (Record.link pulls) ++ others.map (Record.link pulls)) pulls :=
        linkPulls_rearranged hparts pulls
    _ = sortRecords ((issues ++ others).map (Record.link pulls)) := by
        unfold linkPulls
        rw [List.map_append, map_link_twice, map_link_twice, List.map_append]

/-- Linking in batches is linking at once: pull requests that come later
count as if they had stood behind the others, linking again to the same ones
changes nothing, and batches of issues may be linked one by one before all
of them are put together. -/
theorem linkPulls_in_batches :
    (∀ issues pulls more,
      linkPulls (linkPulls issues pulls) more = linkPulls issues (pulls ++ more))
      ∧ (∀ issues pulls, linkPulls (linkPulls issues pulls) pulls = linkPulls issues pulls)
      ∧ ∀ issues others pulls,
        linkPulls (linkPulls issues pulls ++ linkPulls others pulls) pulls
          = linkPulls (issues ++ others) pulls := by
  refine ⟨linkPulls_linkPulls, fun issues pulls => ?_, linkPulls_append⟩
  have hbatch := linkPulls_append issues [] pulls
  have hnone : linkPulls [] pulls = [] := by simp [linkPulls, sortRecords]
  rw [hnone, List.append_nil, List.append_nil] at hbatch
  exact hbatch

-- =============================================================== telling

theorem linkedCount_eq (issues : List Record) (pulls : List Pull) :
    linkedCount issues pulls = issues.countP fun issue => decide (issue.LinksInto pulls) := by
  refine List.countP_congr fun issue _ => ?_
  rw [decide_eq_true_eq]
  exact Record.isSome_target?_iff

/-- Loading pull requests tells nothing about links. -/
theorem linkedPulls_not_mem_loadPulls (files : Files) (config : Config) (count : Nat) :
    Event.linkedPulls count ∉ (loadPulls files config).events := by
  unfold loadPulls
  split
  · exact List.not_mem_nil
  · intro hmem
    cases List.mem_singleton.1 hmem

/-- Records that are loaded are told last: how many there are, and how many
of them are linked. -/
theorem events_loadRecords (hissues : readListing readRecords? files config.issuesPath = .ok issues)
    (hpulls : (loadPulls files config).result = .ok pulls) :
    (loadRecords files config).events = (loadPulls files config).events
      ++ [.loadedRecords issues.length pulls.length config.dataDir,
        .linkedPulls (linkedCount issues pulls)] := by
  unfold loadRecords
  rw [if_pos (isFile_of_readListing hissues), Run.events_bind hissues, Run.events_bind hpulls]
  rfl

/-- Linking loses nothing and makes nothing up.  It is the one stable sort,
by number, of a list in which each issue has become what it links to: the
last pull request with the url of its link, or itself.  The number of links
that loading tells is the number of issues that link to the url of one of
the pull requests, and it is told once. -/
theorem linking_keeps_issues (issues : List Record) (pulls : List Pull) :
    (∃ linked, List.Forall₂ (Linked pulls) issues linked
        ∧ ∀ sorted, StableSort linked sorted ↔ sorted = linkPulls issues pulls)
      ∧ linkedCount issues pulls = issues.countP (fun issue => decide (issue.LinksInto pulls))
      ∧ ∀ files config, readListing readRecords? files config.issuesPath = .ok issues →
        (loadPulls files config).result = .ok pulls →
        (loadRecords files config).result = .ok (linkPulls issues pulls)
          ∧ ∀ count, Event.linkedPulls count ∈ (loadRecords files config).events
            ↔ count = issues.countP fun issue => decide (issue.LinksInto pulls) := by
  refine ⟨⟨issues.map (Record.link pulls), ?_, fun sorted => stableSort_iff⟩,
    linkedCount_eq issues pulls, fun files config hissues hpulls => ⟨?_, fun count => ?_⟩⟩
  · rw [List.forall₂_map_right_iff, List.forall₂_same]
    exact fun issue _ => issue.linked_link pulls
  · exact loadRecords_eq_ok_iff.2
      ⟨isFile_of_readListing hissues, issues, pulls, hissues, hpulls, rfl⟩
  · rw [events_loadRecords hissues hpulls, List.mem_append, ← linkedCount_eq]
    have hnone := linkedPulls_not_mem_loadPulls files config count
    simp [hnone]

/-- Four issues, two of them with the same number, of which three have
links: to the url `u`, to a url of no pull request, and to none. -/
def tiedIssues : List Record :=
  [{ Record.ofNumber 7 with pull := some ⟨some "u", none, none, none⟩ },
    { Record.ofNumber 4 with title := some "a", pull := some ⟨some "v", none, none, none⟩ },
    { Record.ofNumber 4 with title := some "b" },
    { Record.ofNumber 2 with pull := some ⟨none, none, none, none⟩ }]

/-- Three pull requests, two of them with the url `u` and one without any. -/
def tiedPulls : List Pull :=
  [⟨some "u", none, none, none⟩, ⟨none, none, none, none⟩, ⟨some "u", none, none, some "today"⟩]

/-- Files with listings of these. -/
def tiedFiles : Files where
  entry path :=
    if path = "./issues.json" then
      .text ("[\x7b\"number\":7,\"pull_request\":\x7b\"url\":\"u\"\x7d\x7d,"
        ++ "\x7b\"number\":4,\"title\":\"a\",\"pull_request\":\x7b\"url\":\"v\"\x7d\x7d,"
        ++ "\x7b\"number\":4,\"title\":\"b\"\x7d,\x7b\"number\":2,\"pull_request\":\x7b\x7d\x7d]")
    else if path = "./pulls.json" then
      .text "[\x7b\"url\":\"u\"\x7d,\x7b\x7d,\x7b\"url\":\"u\",\"merged_at\":\"today\"\x7d]"
    else .missing

/-- One of the four issues is linked, to the last pull request with its url;
the two of one number keep their order. -/
theorem linking_keeps_issues_tied :
    readListing readRecords? tiedFiles Config.standard.issuesPath = .ok tiedIssues
      ∧ (loadPulls tiedFiles .standard).result = .ok tiedPulls
      ∧ (loadRecords tiedFiles .standard).result = .ok
        [{ Record.ofNumber 2 with pull := some ⟨none, none, none, none⟩ },
          { Record.ofNumber 4 with title := some "a", pull := some ⟨some "v", none, none, none⟩ },
          { Record.ofNumber 4 with title := some "b" },
          { Record.ofNumber 7 with pull := some ⟨some "u", none, none, some "today"⟩ }]
      ∧ Event.linkedPulls 1 ∈ (loadRecords tiedFiles .standard).events := by
  have hpath := Config.standard_paths
  have hissues : readListing readRecords? tiedFiles Config.standard.issuesPath
      = .ok tiedIssues := by
    rw [hpath.1]
    exact readListing_eq_ok_iff.2 ⟨_, rfl, by decide +kernel⟩
  have hpulls : (loadPulls tiedFiles .standard).result = .ok tiedPulls := by
    rw [result_loadPulls, if_pos (by decide), hpath.2]
    exact readListing_eq_ok_iff.2 ⟨_, rfl, by decide +kernel⟩
  have hlinked : linkPulls tiedIssues tiedPulls
      = [{ Record.ofNumber 2 with pull := some ⟨none, none, none, none⟩ },
        { Record.ofNumber 4 with title := some "a", pull := some ⟨some "v", none, none, none⟩ },
        { Record.ofNumber 4 with title := some "b" },
        { Record.ofNumber 7 with pull := some ⟨some "u", none, none, some "today"⟩ }] := by
    simp [linkPulls, sortRecords, Record.link, Record.target?, pullAt?, Record.ofNumber,
      tiedIssues, tiedPulls, List.mergeSort]
  obtain ⟨hloaded, htold⟩ :=
    (linking_keeps_issues tiedIssues tiedPulls).2.2 tiedFiles .standard hissues hpulls
  refine ⟨hissues, hpulls, ?_, (htold 1).2 (by decide)⟩
  rw [← hlinked]
  exact hloaded

end Docket
