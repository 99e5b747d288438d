import CivicForum.Proofs.Watch.Move
import Mathlib.Algebra.Order.BigOperators.Group.List
import Mathlib.Algebra.Order.Ring.Int

/-! # Match counts and automatic flags balance

* `Store.raisedFlags`, `Store.matchTotal`: the flags that carry the remark of a keyword, and the
  matches that the entries with this keyword have counted.
* `Store.Balanced`: the two agree, and only the system remarks on a flag.
* `Store.Balanced.flaggedBy`: an entry that raises its flag adds one to both sides.
* `Store.Balanced.move`: every move of the two tables keeps the balance.
* `Session.match_counts_balance_flags`: they agree in every forum that a fresh one can become.
-/

set_option autoImplicit false

namespace CivicForum

open Work

/-! ## What is compared -/

/-- The remark on the flags that a keyword raises. -/
def Watch.remark (keyword : String) : String := "Matched watchlist keyword: " ++ keyword

/-- How many flags carry the remark of a keyword. -/
def Store.raisedFlags (s : Store) (keyword : String) : Nat :=
  s.flags.rows.countP fun f => f.details = some (Watch.remark keyword)

/-- How many matches all the entries with a keyword have counted. -/
def Store.matchTotal (s : Store) (keyword : String) : Int :=
  ((s.keywords.rows.filter fun e => e.keyword = keyword).map Watch.Entry.matchCount).sum

/-- Only the system remarks on a flag, and every flag has taken an identifier of its own. -/
structure Table.Filed (flags : Table Flag) (systemId : Int) : Prop where
  reporter : ∀ f ∈ flags.rows, f.details ≠ none → f.reporterId = systemId
  spent : (flags.rows.length : Int) ≤ flags.lastId
  room : flags.lastId ≤ Text.wordMax

/-- Flags and match counts agree. -/
structure Store.Balanced (s : Store) (systemId : Int) : Prop where
  filed : s.flags.Filed systemId
  entries : s.keywords.Sound
  counted : ∀ e ∈ s.keywords.rows, 0 ≤ e.matchCount
  balance : ∀ keyword, (s.raisedFlags keyword : Int) = s.matchTotal keyword

/-- The watchlist has this entry, which may have counted more matches by now. -/
def Store.Lists (s : Store) (e : Watch.Entry) : Prop :=
  ∃ q ∈ s.keywords.rows, q.id = e.id ∧ q.keyword = e.keyword

theorem Watch.remark_inj {k l : String} : remark k = remark l ↔ k = l :=
  String.append_right_inj _

/-! ## Sums over the rows of a table -/

namespace Table

variable {α : Type} [Keyed α] {rows : List α} {r : α} {g : α → Int}

theorem sum_update_of_not_mem (hr : Keyed.key r ∉ rows.map Keyed.key) (f : α → α) :
    ((rows.map fun q => if Keyed.key q = Keyed.key r then f q else q).map g).sum =
      (rows.map g).sum := by
  have hsame : ∀ q ∈ rows, (if Keyed.key q = Keyed.key r then f q else q) = q := by
    intro q hq
    refine if_neg fun hkey => hr ?_
    rw [← hkey]
    exact List.mem_map_of_mem hq
  rw [List.map_congr_left hsame, List.map_id']

/-- A change of one row changes a sum over all rows by what it changes of that row. -/
theorem sum_update (hdistinct : (rows.map Keyed.key).Nodup) (hr : r ∈ rows) (f : α → α) :
    ((rows.map fun q => if Keyed.key q = Keyed.key r then f q else q).map g).sum =
      (rows.map g).sum + (g (f r) - g r) := by
  induction rows with
  | nil => cases hr
  | cons q rest ih =>
    obtain ⟨hnew, hrest⟩ := List.nodup_cons.mp hdistinct
    simp only [List.map_cons, List.sum_cons]
    rcases List.mem_cons.mp hr with rfl | hr
    · rw [if_pos rfl, sum_update_of_not_mem hnew]
      omega
    · have hne : Keyed.key q ≠ Keyed.key r := fun hkey => hnew (hkey ▸ List.mem_map_of_mem hr)
      rw [if_neg hne, ih hrest hr]
      omega

end Table

namespace Table.Filed

variable {flags : Table Flag} {systemId : Int}

theorem insert (h : flags.Filed systemId) {f : Flag} (hid : f.id = flags.nextId)
    (hroom : flags.nextId ≤ Text.wordMax) (hf : f.details ≠ none → f.reporterId = systemId) :
    (flags.insert f).Filed systemId where
  reporter q hq := by
    rcases List.mem_append.mp hq with hq | hq
    · exact h.reporter q hq
    · obtain rfl := List.mem_singleton.mp hq
      exact hf
  spent := by
    have hspent := h.spent
    have hlast : (flags.insert f).lastId = max flags.lastId f.id := rfl
    rw [hlast, hid, insert_rows, List.length_append, List.length_singleton]
    unfold nextId
    omega
  room := by
    have hlast : (flags.insert f).lastId = max flags.lastId f.id := rfl
    rw [hlast, hid]
    exact Int.max_le.mpr ⟨h.room, hroom⟩

theorem settle (h : flags.Filed systemId) (id : Int) (status : Flag.Status) :
    (flags.update id fun f => f.withStatus status).Filed systemId where
  reporter q hq := by
    obtain ⟨f, hf, rfl⟩ := List.mem_map.mp hq
    have hreporter := h.reporter f hf
    split
    · exact hreporter
    · exact hreporter
  spent := by
    rw [update_eq_mapRows, mapRows_rows, List.length_map]
    exact h.spent
  room := h.room

end Table.Filed

/-! ## Both sides, statement by statement -/

namespace Store

variable {s t : Store} {systemId : Int} {keyword : String}

/-- What an entry adds to the matches of a keyword. -/
def matchesFor (keyword : String) (e : Watch.Entry) : Int :=
  if e.keyword = keyword then e.matchCount else 0

theorem matchTotal_eq (s : Store) (keyword : String) :
    s.matchTotal keyword = (s.keywords.rows.map (matchesFor keyword)).sum := by
  unfold matchTotal
  induction s.keywords.rows with
  | nil => rfl
  | cons e rest ih =>
    rw [List.map_cons, List.sum_cons, ← ih, List.filter_cons]
    by_cases hkeyword : e.keyword = keyword
    · simp [matchesFor, hkeyword]
    · simp [matchesFor, hkeyword]

theorem raisedFlags_withFlag (f : Flag) : (s.withFlag f).raisedFlags keyword =
    s.raisedFlags keyword + if f.details = some (Watch.remark keyword) then 1 else 0 := by
  unfold raisedFlags withFlag
  rw [Table.insert_rows, List.countP_append, List.countP_singleton]
  simp only [decide_eq_true_eq]

theorem raisedFlags_settled (id : Int) (status : Flag.Status) :
    (s.settled id status).raisedFlags keyword = s.raisedFlags keyword := by
  unfold raisedFlags settled
  rw [Table.update_eq_mapRows, Table.mapRows_rows, List.countP_map]
  congr 1
  funext f
  rw [Function.comp_apply]
  split <;> rfl

theorem matchTotal_withKeyword (e : Watch.Entry) :
    (s.withKeyword e).matchTotal keyword = s.matchTotal keyword + matchesFor keyword e := by
  rw [matchTotal_eq, matchTotal_eq]
  unfold withKeyword
  rw [Table.insert_rows, List.map_append, List.sum_append, List.map_singleton, List.sum_singleton]

theorem matchTotal_switched (id : Int) (isActive : Bool) :
    (s.switched id isActive).matchTotal keyword = s.matchTotal keyword := by
  rw [matchTotal_eq, matchTotal_eq]
  unfold switched
  rw [Table.update_eq_mapRows, Table.mapRows_rows, List.map_map]
  congr 2
  funext e
  rw [Function.comp_apply]
  split <;> rfl

theorem matchTotal_counted (h : s.keywords.Sound) {e : Watch.Entry} (he : e ∈ s.keywords.rows) :
    (s.counted e.id).matchTotal keyword =
      s.matchTotal keyword + if e.keyword = keyword then 1 else 0 := by
  have hsum := Table.sum_update (g := matchesFor keyword) h.distinct he Watch.Entry.counted
  have hone : matchesFor keyword e.counted - matchesFor keyword e =
      if e.keyword = keyword then 1 else 0 := by
    unfold matchesFor Watch.Entry.counted
    dsimp only
    split <;> omega
  rw [matchTotal_eq, matchTotal_eq, ← hone]
  exact hsum

/-! ## The balance, statement by statement -/

theorem Balanced.of_reports_eq (h : s.Balanced systemId) (ht : t.reports = s.reports) :
    t.Balanced systemId := by
  obtain ⟨hkeywords, hflags⟩ := Prod.mk.inj ht
  refine ⟨?_, ?_, ?_, fun K => ?_⟩
  · rw [hflags]
    exact h.filed
  · rw [hkeywords]
    exact h.entries
  · rw [hkeywords]
    exact h.counted
  · unfold raisedFlags matchTotal
    rw [hflags, hkeywords]
    exact h.balance K

theorem Balanced.withFlag (h : s.Balanced systemId) {f : Flag} (hid : f.id = s.flags.nextId)
    (hroom : s.flags.nextId ≤ Text.wordMax) (hf : f.details = none) :
    (s.withFlag f).Balanced systemId where
  filed := h.filed.insert hid hroom fun hsome => absurd hf hsome
  entries := h.entries
  counted := h.counted
  balance K := by
    rw [raisedFlags_withFlag, hf, if_neg nofun]
    exact h.balance K

theorem Balanced.settled (h : s.Balanced systemId) (id : Int) (status : Flag.Status) :
    (s.settled id status).Balanced systemId where
  filed := h.filed.settle id status
  entries := h.entries
  counted := h.counted
  balance K := by
    rw [raisedFlags_settled]
    exact h.balance K

/-- A new entry has counted nothing, whatever other entries have the keyword. -/
theorem Balanced.withKeyword (h : s.Balanced systemId) {e : Watch.Entry}
    (hid : e.id = s.keywords.nextId) (hcount : e.matchCount = 0) :
    (s.withKeyword e).Balanced systemId where
  filed := h.filed
  entries := h.entries.insert hid
  counted q hq := by
    rcases List.mem_append.mp hq with hq | hq
    · exact h.counted q hq
    · obtain rfl := List.mem_singleton.mp hq
      exact Int.le_of_eq hcount.symm
  balance K := by
    have hnothing : matchesFor K e = 0 := by
      unfold matchesFor
      split
      · exact hcount
      · rfl
    rw [matchTotal_withKeyword, hnothing, Int.add_zero]
    exact h.balance K

theorem Balanced.switched (h : s.Balanced systemId) (id : Int) (isActive : Bool) :
    (s.switched id isActive).Balanced systemId where
  filed := h.filed
  entries := h.entries.update fun _ => rfl
  counted q hq := by
    obtain ⟨e, he, rfl⟩ := List.mem_map.mp hq
    have hcount := h.counted e he
    split
    · exact hcount
    · exact hcount
  balance K := by
    rw [matchTotal_switched]
    exact h.balance K

variable {kind : Content.Kind} {contentId : Int} {now : Instant} {e q : Watch.Entry}

theorem Balanced.flaggedBy (h : s.Balanced systemId) (he : s.Lists e)
    (hroom : s.flags.nextId ≤ Text.wordMax) :
    (s.flaggedBy systemId kind contentId now e).Balanced systemId := by
  obtain ⟨r, hr, hid, hkeyword⟩ := he
  let f : Flag := (e.flag systemId kind contentId).entry s.flags.nextId now
  have hflagged : s.flaggedBy systemId kind contentId now e = (s.withFlag f).counted r.id := by
    rw [hid]
    rfl
  have hfiled : (s.flags.insert f).Filed systemId := h.filed.insert rfl hroom fun _ => rfl
  rw [hflagged]
  refine ⟨hfiled, h.entries.update fun _ => rfl, ?_, fun K => ?_⟩
  · intro q hq
    obtain ⟨o, ho, rfl⟩ := List.mem_map.mp hq
    have hcount := h.counted o ho
    split
    · exact Int.le_add_one hcount
    · exact hcount
  · have hflags : ((s.withFlag f).raisedFlags K : Int) =
        s.raisedFlags K + if r.keyword = K then 1 else 0 := by
      have hdetails : f.details = some (Watch.remark r.keyword) := by
        rw [hkeyword]
        rfl
      rw [raisedFlags_withFlag, hdetails]
      simp only [Option.some.injEq, Watch.remark_inj]
      split <;> rfl
    have htotal : ((s.withFlag f).counted r.id).matchTotal K =
        s.matchTotal K + if r.keyword = K then 1 else 0 := matchTotal_counted h.entries hr
    have hbalance := h.balance K
    have hkept : ((s.withFlag f).counted r.id).raisedFlags K = (s.withFlag f).raisedFlags K := rfl
    rw [hkept, hflags, htotal, hbalance]

theorem Lists.flaggedBy (h : s.Lists q) (e : Watch.Entry) :
    (s.flaggedBy systemId kind contentId now e).Lists q := by
  obtain ⟨r, hr, hid, hkeyword⟩ := h
  refine ⟨_, List.mem_map_of_mem hr, ?_⟩
  split
  · exact ⟨hid, hkeyword⟩
  · exact ⟨hid, hkeyword⟩

/-- What is not the watchlist's leaves the balance alone as long as it makes no remarks. -/
theorem Balanced.move {Reported : Statement.NewFlag → Prop} (h : s.Balanced systemId)
    (hmove : Watch.Move systemId Reported s t) (hremarks : ∀ r, Reported r → r.details = none) :
    t.Balanced systemId := by
  cases hmove with
  | rest t ht => exact h.of_reports_eq ht
  | report r now hr hroom => exact h.withFlag rfl hroom (hremarks r hr)
  | settle id status => exact h.settled id status
  | list keyword isPattern flagReason now => exact h.withKeyword rfl rfl
  | switch id isActive => exact h.switched id isActive
  | scan content kind contentId now hroom =>
    let entries := Watch.matching s.activeKeywords content
    have hlisted : ∀ e ∈ entries, s.Lists e := by
      intro e he
      have hactive : e ∈ s.activeKeywords := (List.mem_filter.mp he).1
      exact ⟨e, (List.mem_filter.mp hactive).1, rfl, rfl⟩
    have hkept : (s.flaggedByAll systemId kind contentId now entries).Balanced systemId ∧
        ∀ e ∈ entries, (s.flaggedByAll systemId kind contentId now entries).Lists e := by
      refine flaggedByAll_induction (P := fun t => t.Balanced systemId ∧ ∀ e ∈ entries, t.Lists e)
        ⟨h, hlisted⟩ hroom fun t e he ht hnext => ?_
      exact ⟨ht.1.flaggedBy (ht.2 e he) hnext, fun q hq => (ht.2 q hq).flaggedBy e⟩
    exact hkept.1

theorem balanced_fresh (systemId : Option Int) (now : Instant) (index : Bool) (id : Int) :
    (Session.fresh systemId now index).store.Balanced id := by
  refine Balanced.of_reports_eq (s := {}) ⟨⟨nofun, ?_, ?_⟩, Table.sound_empty, nofun, ?_⟩
    (Session.reports_fresh systemId now index)
  · decide
  · decide
  · exact fun _ => rfl

/-- No entry has counted more matches than identifiers of flags were given out. -/
theorem Balanced.matchCount_le (h : s.Balanced systemId) (he : e ∈ s.keywords.rows) :
    e.matchCount ≤ Text.wordMax := by
  have hnonneg : ∀ n ∈ s.keywords.rows.map (matchesFor e.keyword), 0 ≤ n := by
    intro n hn
    obtain ⟨q, hq, rfl⟩ := List.mem_map.mp hn
    unfold matchesFor
    split
    · exact h.counted q hq
    · exact Int.le_refl 0
  have hown : matchesFor e.keyword e = e.matchCount := if_pos rfl
  have hsum : matchesFor e.keyword e ≤ (s.keywords.rows.map (matchesFor e.keyword)).sum :=
    List.single_le_sum hnonneg _ (List.mem_map_of_mem he)
  have hraised : s.raisedFlags e.keyword ≤ s.flags.rows.length := List.countP_le_length
  have hbalance := h.balance e.keyword
  have hspent := h.filed.spent
  have hroom := h.filed.room
  rw [matchTotal_eq] at hbalance
  omega

end Store

/-! ## Runs -/

namespace Session

variable {f : Session}

theorem balanced_step (h : f.store.Balanced f.systemId) {a : Action}
    (ha : ∀ r, a = .write (.createFlag r) → r.details = none) :
    (f.step a).2.store.Balanced (f.step a).2.systemId := by
  rw [systemId_step]
  exact h.move (watched_step f a) ha

theorem balanced_after (h : f.store.Balanced f.systemId) {as : List Action}
    (has : ∀ r, .write (.createFlag r) ∈ as → r.details = none) :
    (f.after as).store.Balanced (f.after as).systemId := by
  induction as generalizing f with
  | nil => exact h
  | cons a as ih =>
    have hfirst := balanced_step h fun r hr => has r (hr ▸ List.mem_cons_self)
    exact ih hfirst fun r hr => has r (List.mem_cons_of_mem a hr)

/-- Whatever has happened, the flags that carry the remark of a keyword are as many as the matches
that all the entries with this keyword have counted, and every flag with a remark is the system
user's: with several entries for one keyword, entries switched off and on again, scans that are
refused half way, and flags of users, which carry no remark. No count leaves its word. -/
theorem match_counts_balance_flags (systemId : Option Int) (start : Instant) (index : Bool)
    (as : List Action) (hremarks : ∀ r, .write (.createFlag r) ∈ as → r.details = none) :
    let f := (fresh systemId start index).after as
    (∀ keyword, (f.store.raisedFlags keyword : Int) = f.store.matchTotal keyword) ∧
    (∀ r ∈ f.store.flags.rows, r.details ≠ none → r.reporterId = f.systemId) ∧
    ∀ e ∈ f.store.keywords.rows, 0 ≤ e.matchCount ∧ e.matchCount ≤ Text.wordMax := by
  intro f
  have h : f.store.Balanced f.systemId :=
    balanced_after (Store.balanced_fresh systemId start index _) hremarks
  exact ⟨h.balance, h.filed.reporter, fun e he => ⟨h.counted e he, h.matchCount_le he⟩⟩

/-- A keyword that is listed twice. One of its entries is switched off before the second scan, the
scan before that is refused for want of a reporter, and a user flags something, too. -/
def listedTwice : List Action :=
  [.call (.addKeyword "spam" false "advertising"),
    .call (.scan "spam" .comment 1),
    .write (.createUser { username := "ann" }),
    .write (.addKeyword "spam" false "junk"),
    .call (.addKeyword "cheap" false "advertising"),
    .call (.scan "Cheap SPAM" .comment 1),
    .call (.setKeywordActive 1 false),
    .call (.scan "spam" .idea 2),
    .write (.createFlag ⟨.idea, 2, 1, "rude", none, .pending⟩),
    .write (.setFlagStatus 1 .dismissed)]

theorem listed_twice_balanced :
    let f := (fresh none ⟨1748779200, 0⟩ true).after listedTwice
    (f.store.raisedFlags "spam" : Int) = f.store.matchTotal "spam" ∧
    f.store.raisedFlags "spam" = 3 ∧ f.store.raisedFlags "cheap" = 1 ∧
    f.store.keywords.rows.map Watch.Entry.matchCount = [1, 2, 1] ∧
    f.store.flags.rows.length = 5 ∧
    ∀ r ∈ f.store.flags.rows, r.details ≠ none → r.reporterId = 1 := by
  intro f
  have hremarks : ∀ r, .write (.createFlag r) ∈ listedTwice → r.details = none := by
    intro r hr
    simp only [listedTwice, List.mem_cons, Action.write.injEq, PlatformWrite.createFlag.injEq,
      reduceCtorEq, List.not_mem_nil, false_or, or_false] at hr
    rw [hr]
  obtain ⟨hbalance, hreporter, -⟩ :=
    match_counts_balance_flags none ⟨1748779200, 0⟩ true listedTwice hremarks
  have hsystem : f.systemId = 1 := systemId_after listedTwice
  refine ⟨hbalance "spam", by decide +kernel, by decide +kernel, by decide +kernel,
    by decide +kernel, fun r hr hremark => (hreporter r hr hremark).trans hsystem⟩

end Session

end CivicForum
