import CivicForum.Proofs.Watch.Move

/-! # What a scan flags

* `Store.hits`: the active entries that content matches.
* `Store.keeping`: the store with some entries taken off the watchlist.
* `Watch.scanEffect_eq`: what comes of a scan when there is somebody to report.
* `Store.hits_keeping`: entries that are no hits have no influence on which ones are.
* `Session.scan_flags_the_hits`: a scan flags every hit once, in the order of the watchlist.
-/

set_option autoImplicit false

namespace CivicForum

open Work

/-- The active entries that content matches. -/
def Store.hits (s : Store) (content : String) : List Watch.Entry :=
  s.keywords.rows.filter fun e =>
    e.isActive && e.matches? content.toList (Text.lower content.toList) = some true

/-- The store with only some of the entries left on the watchlist. -/
def Store.keeping (s : Store) (keep : Watch.Entry → Bool) : Store :=
  { s with keywords := { s.keywords with rows := s.keywords.rows.filter keep } }

/-! ## Hits -/

namespace Store

variable {s : Store} {content : String} {e q : Watch.Entry}

theorem matching_activeKeywords (s : Store) (content : String) :
    Watch.matching s.activeKeywords content = s.hits content := by
  unfold Watch.matching activeKeywords hits
  rw [List.filter_filter]
  refine List.filter_congr fun e _ => ?_
  rw [Bool.and_comm]

theorem mem_hits : e ∈ s.hits content ↔ e ∈ s.keywords.rows ∧ e.isActive = true ∧
    e.matches? content.toList (Text.lower content.toList) = some true := by
  simp only [hits, List.mem_filter, Bool.and_eq_true, decide_eq_true_eq]

theorem Ordered.sorted_hits (h : s.Ordered) (content : String) :
    (s.hits content).Pairwise fun e q => e.id < q.id :=
  h.keywords.sorted.sublist List.filter_sublist

theorem Ordered.mem_hitIds (h : s.Ordered) (hq : q ∈ s.keywords.rows) :
    q.id ∈ (s.hits content).map Watch.Entry.id ↔ q ∈ s.hits content := by
  refine ⟨fun hid => ?_, List.mem_map_of_mem⟩
  obtain ⟨e, he, hid⟩ := List.mem_map.mp hid
  obtain rfl := h.keywords.sound.eq_of_key_eq (mem_hits.mp he).1 hq hid
  exact he

theorem hits_keeping {keep : Watch.Entry → Bool} (hkeep : ∀ e ∈ s.hits content, keep e = true) :
    (s.keeping keep).hits content = s.hits content := by
  unfold keeping hits
  rw [List.filter_filter]
  refine List.filter_congr fun e he => Bool.eq_iff_iff.mpr ?_
  rw [Bool.and_eq_true]
  exact ⟨And.left, fun hhit => ⟨hhit, hkeep e (List.mem_filter.mpr ⟨he, hhit⟩)⟩⟩

theorem Ordered.keeping (h : s.Ordered) (keep : Watch.Entry → Bool) : (s.keeping keep).Ordered where
  keywords := {
    sorted := h.keywords.sorted.sublist List.filter_sublist
    bounded := fun e he => h.keywords.bounded e (List.mem_filter.mp he).1 }
  flags := h.flags
  room := h.room

end Store

/-! ## Scans -/

section Scan

variable {s : Store} {systemId contentId : Int} {kind : Content.Kind} {now : Instant}

theorem Watch.scanEffect_eq (h : s.Ordered) (hreporter : s.users.contains systemId = true)
    (content : String) :
    scanEffect s systemId content kind contentId now =
      if Text.wordMax < s.flags.lastId + (s.hits content).length then .error (.database .full)
      else .ok (s.flagsBy systemId kind contentId now (s.hits content),
        { s with
          flags := ⟨s.flags.rows ++ s.flagsBy systemId kind contentId now (s.hits content),
            s.flags.lastId + (s.hits content).length⟩
          keywords := s.keywords.mapRows fun e =>
            if e ∈ s.hits content then e.counted else e }) := by
  have hdistinct : ((s.hits content).map Entry.id).Nodup :=
    List.pairwise_map.mpr ((h.sorted_hits content).imp fun hlt => Int.ne_of_lt hlt)
  have hcounted : (s.keywords.mapRows fun e =>
      if e.id ∈ (s.hits content).map Entry.id then e.counted else e) =
      s.keywords.mapRows fun e => if e ∈ s.hits content then e.counted else e := by
    refine Table.mapRows_congr fun e he => ?_
    simp only [h.mem_hitIds he]
  unfold scanEffect
  rw [Store.matching_activeKeywords, raiseEffect_of_reporter hreporter h.room,
    Store.flaggedByAll_eq, Store.flaggedByAll_flags, Store.flaggedByAll_keywords hdistinct, hcounted]

theorem Call.run_scan (content : String) :
    (scan content kind contentId).run systemId now s =
      ((Watch.scanEffect s systemId content kind contentId now).answering .flags).on s :=
  ((Watch.hasEffect_scan s systemId content kind contentId now).answer Answer.flags).commit_eq

theorem Call.run_scan_keeping (h : s.Ordered) (hreporter : s.users.contains systemId = true)
    {content : String} {keep : Watch.Entry → Bool}
    (hkeep : ∀ e ∈ s.hits content, keep e = true) :
    let o := (scan content kind contentId).run systemId now s
    let o' := (scan content kind contentId).run systemId now (s.keeping keep)
    o'.1 = o.1 ∧ o'.2.flags = o.2.flags := by
  intro o o'
  have hreporter' : (s.keeping keep).users.contains systemId = true := hreporter
  have hflags : (s.keeping keep).flags = s.flags := rfl
  have hraised : ∀ entries, (s.keeping keep).flagsBy systemId kind contentId now entries =
      s.flagsBy systemId kind contentId now entries := fun _ => rfl
  have ho : o = _ := run_scan content
  have ho' : o' = _ := run_scan content
  rw [Watch.scanEffect_eq h hreporter] at ho
  rw [Watch.scanEffect_eq (h.keeping keep) hreporter', Store.hits_keeping hkeep, hflags,
    hraised] at ho'
  rw [ho, ho']
  split
  · exact ⟨rfl, rfl⟩
  · exact ⟨rfl, rfl⟩

end Scan

/-! ## Whole runs -/

namespace Session

theorem room_for_hits (systemId : Option Int) (start : Instant) (index : Bool) (as : List Action)
    (content : String) :
    let s := ((fresh systemId start index).after as).store
    s.flags.lastId + (s.hits content).length ≤ (as.length * (as.length + 1) : Int) := by
  intro s
  obtain ⟨hkeywords, hflags⟩ := Prod.mk.inj (reports_fresh systemId start index)
  have hlast := lastFlagId_after_le (fresh systemId start index) as
  have hlength := length_keywords_after_le (fresh systemId start index) as
  rw [hkeywords, hflags] at hlast
  rw [hkeywords] at hlength
  have hhits : (s.hits content).length ≤ s.keywords.rows.length := List.length_filter_le _ _
  have hlast : s.flags.lastId ≤ 0 + as.length * (((0 : Nat) : Int) + as.length) := hlast
  have hlength : s.keywords.rows.length ≤ 0 + as.length := hlength
  rw [Int.natCast_zero, Int.zero_add, Int.zero_add] at hlast
  rw [Int.mul_add, Int.mul_one]
  omega

/-- Whatever has happened, as long as there is somebody to report, a scan raises one flag for every
active entry that the content matches, in the order of their identifiers, and counts one match for
each; nothing else changes. It is refused only when there are not enough identifiers of flags left,
and a run uses up no more of them than the square of its length. Entries that are switched off, do
not match or are no patterns have no influence: without any of them the flags are the same. -/
theorem scan_flags_the_hits (systemId : Option Int) (start : Instant) (index : Bool)
    (as : List Action) (content : String) (kind : Content.Kind) (contentId : Int) (now : Instant)
    (hreporter : ((fresh systemId start index).after as).store.users.contains
      ((fresh systemId start index).after as).systemId = true) :
    let f := (fresh systemId start index).after as
    let s := f.store
    let scan (s : Store) := (Call.scan content kind contentId).run f.systemId now s
    let hits := s.hits content
    let raised : List Flag := hits.mapIdx fun i e =>
      { id := s.flags.lastId + 1 + i
        contentKind := kind
        contentId := contentId
        reporterId := f.systemId
        reason := e.flagReason
        details := some ("Matched watchlist keyword: " ++ e.keyword)
        status := .pending
        createdAt := now }
    (hits.Pairwise fun e q => e.id < q.id) ∧
    (∀ r ∈ s.flags.rows, r.id ≤ s.flags.lastId) ∧
    (s.flags.lastId + hits.length ≤ Text.wordMax → scan s = (.ok (.flags raised),
      { s with
        flags := ⟨s.flags.rows ++ raised, s.flags.lastId + hits.length⟩
        keywords := s.keywords.mapRows fun e =>
          if e ∈ hits then { e with matchCount := e.matchCount + 1 } else e })) ∧
    (Text.wordMax < s.flags.lastId + hits.length → scan s = (.error (.database .full), s)) ∧
    s.flags.lastId + hits.length ≤ (as.length * (as.length + 1) : Int) ∧
    ∀ keep : Watch.Entry → Bool, (∀ e ∈ hits, keep e = true) →
      (scan (s.keeping keep)).1 = (scan s).1 ∧ (scan (s.keeping keep)).2.flags = (scan s).2.flags := by
  intro f s scan hits raised
  have h : s.Ordered := ordered_run systemId start index as
  have hscan : scan s = _ := Call.run_scan content
  rw [Watch.scanEffect_eq h hreporter] at hscan
  refine ⟨h.sorted_hits content, h.flags.bounded, fun hroom => ?_, fun hfull => ?_,
    room_for_hits systemId start index as content, fun keep hkeep => ?_⟩
  · have hfits : ¬ Text.wordMax < s.flags.lastId + ((s.hits content).length : Int) :=
      Int.not_lt.mpr hroom
    rw [hscan, if_neg hfits]
    rfl
  · have hfull : Text.wordMax < s.flags.lastId + ((s.hits content).length : Int) := hfull
    rw [hscan, if_pos hfull]
    rfl
  · exact Call.run_scan_keeping h hreporter hkeep

/-- A keyword that is listed twice, a pattern, one that is none, a keyword that is switched off, and
one that will not match. -/
def mixedList : List Action :=
  [.call (.addKeyword "spam" false "advertising"),
    .write (.addKeyword "[" true "brackets"),
    .call (.addKeyword "spam" false "junk"),
    .call (.addKeyword "^.+$" true "one line"),
    .call (.addKeyword "cheap" false "advertising"),
    .call (.setKeywordActive 5 false),
    .call (.addKeyword "casino" false "gambling")]

/-- Both entries of the keyword and the pattern raise a flag, and they would without the others. -/
theorem mixed_list_scanned :
    let f := (fresh (some 1) ⟨1748779200, 0⟩ true).after mixedList
    let scan (s : Store) := (Call.scan "Buy cheap SPAM" .comment 7).run f.systemId f.now s
    let flag (id : Int) (reason : String) (keyword : String) : Flag :=
      { id := id
        contentKind := .comment
        contentId := 7
        reporterId := 1
        reason := reason
        details := some ("Matched watchlist keyword: " ++ keyword)
        status := .pending
        createdAt := ⟨1748779200, 0⟩ }
    let flags := [flag 1 "advertising" "spam", flag 2 "junk" "spam", flag 3 "one line" "^.+$"]
    (scan f.store).1 = .ok (.flags flags) ∧
    (scan f.store).2.keywords.rows.map Watch.Entry.matchCount = [1, 0, 1, 1, 0, 0] ∧
    (scan (f.store.keeping fun e => e.id ∈ [1, 3, 4])).1 = (scan f.store).1 := by
  have hscans := scan_flags_the_hits (some 1) ⟨1748779200, 0⟩ true mixedList "Buy cheap SPAM"
    .comment 7 ((fresh (some 1) ⟨1748779200, 0⟩ true).after mixedList).now (by decide +kernel)
  generalize hf : (fresh (some 1) ⟨1748779200, 0⟩ true).after mixedList = f at hscans ⊢
  intro _ scan flag flags
  obtain ⟨-, -, hscan, -, -, hkeeping⟩ := hscans
  have hhits : f.store.hits "Buy cheap SPAM" =
      f.store.keywords.rows.filter fun e => e.id ∈ [1, 3, 4] := by
    rw [← hf]
    decide +kernel
  have hraised : f.store.flagsBy f.systemId .comment 7 f.now (f.store.hits "Buy cheap SPAM") =
      flags := by
    rw [← hf]
    decide +kernel
  have hcounted : (f.store.keywords.rows.map fun e =>
      if e ∈ f.store.hits "Buy cheap SPAM" then e.counted else e).map Watch.Entry.matchCount =
        [1, 0, 1, 1, 0, 0] := by
    rw [← hf]
    decide +kernel
  have hroom : f.store.flags.lastId + (f.store.hits "Buy cheap SPAM").length ≤ Text.wordMax := by
    rw [← hf]
    decide +kernel
  have hscan := hscan hroom
  refine ⟨?_, ?_, (hkeeping _ fun e he => ?_).1⟩
  · refine (congrArg Prod.fst hscan).trans ?_
    exact congrArg (fun fs => Except.ok (Answer.flags fs)) hraised
  · exact (congrArg (fun o => o.2.keywords.rows.map Watch.Entry.matchCount) hscan).trans hcounted
  · have he : e ∈ f.store.hits "Buy cheap SPAM" := he
    rw [hhits] at he
    exact (List.mem_filter.mp he).2

end Session

end CivicForum
