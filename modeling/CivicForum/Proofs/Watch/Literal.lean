import CivicForum.Proofs.Text.Lowercase
import CivicForum.Proofs.Watch.Flagging

/-! # Keywords that occur literally

A keyword is looked for in lower case, both the keyword and the content having been put in lower case
as a whole.

* `Watch.occursIn_eq_true`: the search finds the parts of a text.
* `Watch.Entry.Finds`: content matches an entry.
* `Session.literal_keyword_found_iff`: when a keyword that is part of the content is found there.
* `Session.sigma_hides_keyword`: a keyword that is not.
-/

set_option autoImplicit false

namespace CivicForum

/-- The content matches the entry. -/
def Watch.Entry.Finds (e : Watch.Entry) (content : String) : Prop :=
  e.matches? content.toList (Text.lower content.toList) = some true

instance (e : Watch.Entry) : DecidablePred e.Finds := fun _ => inferInstanceAs (Decidable (_ = _))

namespace Watch

theorem occursIn_eq_true {part cs : List Char} : occursIn part cs = true ↔ part <:+: cs := by
  induction cs with
  | nil => rw [occursIn, List.isEmpty_iff, List.infix_nil]
  | cons c rest ih =>
    rw [occursIn, Bool.or_eq_true, List.isPrefixOf_iff_prefix, ih, List.infix_cons_iff]

variable {e : Entry}

theorem Entry.finds_iff (he : e.isPattern = false) (content : String) :
    e.Finds content ↔ Text.lower e.keyword.toList <:+: Text.lower content.toList := by
  unfold Finds matches?
  rw [he, if_neg nofun, Option.some.injEq, occursIn_eq_true]

theorem Entry.finds_of_agree (he : e.isPattern = false) {a b : String}
    (hagree : Text.SigmasAgree a.toList.reverse b.toList e.keyword.toList) :
    e.Finds (a ++ e.keyword ++ b) := by
  rw [Entry.finds_iff he, String.toList_append, String.toList_append]
  exact Text.lower_infix_of_agree hagree

theorem Entry.finds_everywhere_iff (he : e.isPattern = false) :
    (∀ a b : String, e.Finds (a ++ e.keyword ++ b)) ↔ Text.Steady e.keyword.toList := by
  rw [Text.steady_iff]
  constructor
  · intro hfinds a b
    have hfound := hfinds (.ofList a) (.ofList b)
    rwa [Entry.finds_iff he, String.toList_append, String.toList_append, String.toList_ofList,
      String.toList_ofList] at hfound
  · intro hpart a b
    rw [Entry.finds_iff he, String.toList_append, String.toList_append]
    exact hpart a.toList b.toList

/-- A scan raises a flag for every active entry that the content matches. -/
theorem Entry.flagged_of_finds {s : Store} {systemId contentId : Int} {content : String}
    {kind : Content.Kind} (h : s.Ordered) (hreporter : s.users.contains systemId = true)
    (hroom : s.flags.lastId + (s.hits content).length ≤ Text.wordMax)
    (he : e ∈ s.keywords.rows) (hactive : e.isActive = true) (hfinds : e.Finds content)
    (now : Instant) :
    ∃ flags, ((Call.scan content kind contentId).run systemId now s).1 = .ok (.flags flags) ∧
      ∃ id, (e.flag systemId kind contentId).entry id now ∈ flags := by
  have hhit : e ∈ s.hits content := Store.mem_hits.mpr ⟨he, hactive, hfinds⟩
  obtain ⟨i, hi, rfl⟩ := List.getElem_of_mem hhit
  refine ⟨s.flagsBy systemId kind contentId now (s.hits content), ?_, s.flags.nextId + i, ?_⟩
  · rw [Call.run_scan, scanEffect_eq h hreporter, if_neg (Int.not_lt.mpr hroom)]
    rfl
  · exact List.mem_iff_getElem.mpr ⟨i, by rwa [Store.length_flagsBy], List.getElem_mapIdx ..⟩

end Watch

/-! ## Whole runs -/

namespace Session

/-- A keyword that is part of some content is found there if each of its capital sigmas ends a word
in the content exactly when it does in the keyword; a scan then raises a flag for the entry, as long
as there is somebody to report and there are identifiers left. A keyword is found wherever it occurs
exactly if it settles by itself which of its sigmas end words, in particular if it has none. -/
theorem literal_keyword_found_iff (systemId : Option Int) (start : Instant) (index : Bool)
    (as : List Action) :
    let f := (fresh systemId start index).after as
    let s := f.store
    ∀ e ∈ s.keywords.rows, e.isActive = true → e.isPattern = false →
      (∀ a b : String, Text.SigmasAgree a.toList.reverse b.toList e.keyword.toList →
        e.Finds (a ++ e.keyword ++ b)) ∧
      ((∀ a b : String, e.Finds (a ++ e.keyword ++ b)) ↔ Text.Steady e.keyword.toList) ∧
      ('Σ' ∉ e.keyword.toList → ∀ a b : String, e.Finds (a ++ e.keyword ++ b)) ∧
      ∀ content kind contentId now, e.Finds content → s.users.contains f.systemId = true →
        s.flags.lastId + (s.hits content).length ≤ Text.wordMax →
        ∃ flags, ((Call.scan content kind contentId).run f.systemId now s).1 = .ok (.flags flags) ∧
          ∃ id, (e.flag f.systemId kind contentId).entry id now ∈ flags := by
  intro f s e he hactive hplain
  have h : s.Ordered := ordered_run systemId start index as
  refine ⟨fun a b hagree => Watch.Entry.finds_of_agree hplain hagree,
    Watch.Entry.finds_everywhere_iff hplain, fun hnone => ?_,
    fun content kind contentId now hfinds hreporter hroom => ?_⟩
  · exact (Watch.Entry.finds_everywhere_iff hplain).mpr (Text.steady_of_not_mem hnone)
  · exact Watch.Entry.flagged_of_finds h hreporter hroom he hactive hfinds now

/-- Two keywords with capital sigmas; only the first one is found wherever it occurs. -/
def sigmaList : List Action :=
  [.call (.addKeyword "ΣΑΒΒΑΤΟ" false "calendar"), .call (.addKeyword "ΟΔΟΣ" false "address")]

def sabbath : Watch.Entry := .added 1 "ΣΑΒΒΑΤΟ" false "calendar" ⟨1748779200, 0⟩

def street : Watch.Entry := .added 2 "ΟΔΟΣ" false "address" ⟨1748779200, 0⟩

theorem sigma_list_scanned :
    let f := (fresh (some 1) ⟨1748779200, 0⟩ true).after sigmaList
    (∀ a b : String, sabbath.Finds (a ++ sabbath.keyword ++ b)) ∧
    (∃ flags, ((Call.scan "ΟΔΟΣ 5" .idea 3).run f.systemId f.now f.store).1 = .ok (.flags flags) ∧
      ∃ id, (street.flag f.systemId .idea 3).entry id f.now ∈ flags) ∧
    ¬ ∀ a b : String, street.Finds (a ++ street.keyword ++ b) := by
  have hfound := literal_keyword_found_iff (some 1) ⟨1748779200, 0⟩ true sigmaList
  have hrows : sabbath ∈ ((fresh (some 1) ⟨1748779200, 0⟩ true).after sigmaList).store.keywords.rows ∧
      street ∈ ((fresh (some 1) ⟨1748779200, 0⟩ true).after sigmaList).store.keywords.rows := by
    decide +kernel
  obtain ⟨-, hsabbath, -, -⟩ := hfound sabbath hrows.1 rfl rfl
  obtain ⟨-, hstreet, -, hflagged⟩ := hfound street hrows.2 rfl rfl
  refine ⟨hsabbath.mpr (by decide +kernel), ?_, fun hall => ?_⟩
  · exact hflagged "ΟΔΟΣ 5" .idea 3 _ (by decide +kernel) (by decide +kernel) (by decide +kernel)
  · exact absurd (hstreet.mp hall) (by decide +kernel)

/-- The keyword is part of the content, but there its sigma ends no word. -/
theorem sigma_hides_keyword :
    let f := (fresh (some 1) ⟨1748779200, 0⟩ true).after sigmaList
    street ∈ f.store.keywords.rows ∧ street.isActive = true ∧ street.isPattern = false ∧
    "ΟΔΟΣΑ" = "" ++ street.keyword ++ "Α" ∧ ¬ street.Finds "ΟΔΟΣΑ" ∧
    f.store.users.contains f.systemId = true ∧
    (Call.scan "ΟΔΟΣΑ" .comment 1).run f.systemId f.now f.store = (.ok (.flags []), f.store) := by
  decide +kernel

end Session

end CivicForum
