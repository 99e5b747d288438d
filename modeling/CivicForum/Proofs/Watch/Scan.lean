import CivicForum.Proofs.Call

/-! # What is written to flags and the watchlist

* `Store.withFlag`, `Store.withKeyword`, `Store.switched`, `Store.settled`, `Store.counted`: the
  store after a statement on one row.
* `Store.flaggedBy`: the store after an entry has raised its flag and is counted.
* `Store.flaggedByAll`, `Store.flaggedByAll_eq`: the store after several entries have done so, step
  by step and at once.
* `Store.flaggedByAll_induction`: what each entry keeps, all of them keep.
* `Watch.scanEffect`, `Watch.hasEffect_scan`: what comes of a scan.
-/

set_option autoImplicit false

namespace CivicForum

open Work

/-! ## Rows and stores as they are written -/

/-- The row that a report becomes. -/
def Statement.NewFlag.entry (f : NewFlag) (id : Int) (now : Instant) : Flag :=
  ⟨id, f.contentKind, f.contentId, f.reporterId, f.reason, f.details, f.status, now⟩

def Flag.withStatus (f : Flag) (status : Flag.Status) : Flag := { f with status := status }

namespace Watch.Entry

/-- An entry as it is added. -/
def added (id : Int) (keyword : String) (isPattern : Bool) (flagReason : String) (now : Instant) :
    Entry := ⟨id, keyword, isPattern, flagReason, true, 0, now⟩

def switched (e : Entry) (isActive : Bool) : Entry := { e with isActive := isActive }

def counted (e : Entry) : Entry := { e with matchCount := e.matchCount + 1 }

end Watch.Entry

namespace Store

def withFlag (s : Store) (f : Flag) : Store := { s with flags := s.flags.insert f }

def settled (s : Store) (id : Int) (status : Flag.Status) : Store :=
  { s with flags := s.flags.update id fun f => f.withStatus status }

def withKeyword (s : Store) (e : Watch.Entry) : Store :=
  { s with keywords := s.keywords.insert e }

def switched (s : Store) (id : Int) (isActive : Bool) : Store :=
  { s with keywords := s.keywords.update id fun e => e.switched isActive }

def counted (s : Store) (id : Int) : Store :=
  { s with keywords := s.keywords.update id Watch.Entry.counted }

/-- An entry has raised its flag and is counted. -/
def flaggedBy (s : Store) (systemId : Int) (kind : Content.Kind) (contentId : Int) (now : Instant)
    (e : Watch.Entry) : Store :=
  (s.withFlag ((e.flag systemId kind contentId).entry s.flags.nextId now)).counted e.id

/-- Entries have raised their flags, one after the other. -/
def flaggedByAll (s : Store) (systemId : Int) (kind : Content.Kind) (contentId : Int)
    (now : Instant) (entries : List Watch.Entry) : Store :=
  entries.foldl (fun t e => t.flaggedBy systemId kind contentId now e) s

/-- The flags that entries raise. -/
def flagsBy (s : Store) (systemId : Int) (kind : Content.Kind) (contentId : Int) (now : Instant)
    (entries : List Watch.Entry) : List Flag :=
  entries.mapIdx fun i e => (e.flag systemId kind contentId).entry (s.flags.nextId + i) now

end Store

variable {J : Store → Prop} {s : Store} {E : Refusal → Prop} {now : Instant}

namespace Statement

theorem yields_insertFlag {f : NewFlag} {Q : Flag → Store → Prop}
    (hfull : Text.wordMax < s.flags.nextId → E (.database .full))
    (hkey : s.flags.nextId ≤ Text.wordMax → s.users.contains f.reporterId = false →
      E (.database .foreignKey))
    (hJ : J (s.withFlag (f.entry s.flags.nextId now)))
    (hQ : s.flags.nextId ≤ Text.wordMax → s.users.contains f.reporterId = true →
      Q (f.entry s.flags.nextId now) (s.withFlag (f.entry s.flags.nextId now))) :
    Yields J s (insertFlag f now) Q E := by
  refine .bind (.current (.bind (yields_freshId hfull fun hroom => ?_)))
  refine .bind (yields_requireUser (hkey hroom) fun hreporter => ?_)
  exact .bind (.put hJ (.pure (hQ hroom hreporter)))

theorem yields_setFlagStatus {id : Int} {status : Flag.Status} {Q : Nat → Store → Prop}
    (hJ : J (s.settled id status)) (hQ : ∀ n, Q n (s.settled id status)) :
    Yields J s (setFlagStatus id status) Q E :=
  .bind (.current (.bind (.put hJ (.pure (hQ _)))))

theorem yields_insertKeyword {keyword : String} {isPattern : Bool} {flagReason : String}
    {Q : Watch.Entry → Store → Prop} (hfull : E (.database .full))
    (hJ : J (s.withKeyword (.added s.keywords.nextId keyword isPattern flagReason now)))
    (hQ : ∀ e, Q e (s.withKeyword (.added s.keywords.nextId keyword isPattern flagReason now))) :
    Yields J s (insertKeyword keyword isPattern flagReason now) Q E :=
  .bind (.current (.bind (yields_freshId (fun _ => hfull) fun _ => .bind (.put hJ (.pure (hQ _))))))

theorem yields_setKeywordActive {id : Int} {isActive : Bool}
    {Q : Option Watch.Entry → Store → Prop} (hJ : J (s.switched id isActive))
    (hQ : ∀ e, Q e (s.switched id isActive)) : Yields J s (setKeywordActive id isActive) Q E :=
  .bind (.current (.bind (.put hJ (.pure (hQ _)))))

theorem yields_recordMatch {id : Int} {Q : Unit → Store → Prop} (hJ : J (s.counted id))
    (hQ : Q () (s.counted id)) : Yields J s (recordMatch id) Q E := .bind (.current (.put hJ hQ))

end Statement

/-! ## Several entries -/

section Several

variable {systemId contentId : Int} {kind : Content.Kind} {entries : List Watch.Entry}
  {e : Watch.Entry}

namespace Store

theorem flaggedBy_lastId : (s.flaggedBy systemId kind contentId now e).flags.lastId =
    s.flags.lastId + 1 := Int.max_eq_right (Int.le_add_one (Int.le_refl _))

theorem flagsBy_cons (rest : List Watch.Entry) :
    s.flagsBy systemId kind contentId now (e :: rest) =
      (e.flag systemId kind contentId).entry s.flags.nextId now ::
        (s.flaggedBy systemId kind contentId now e).flagsBy systemId kind contentId now rest := by
  unfold flagsBy
  unfold Table.nextId
  rw [List.mapIdx_cons, flaggedBy_lastId]
  congr 1
  · rw [Int.natCast_zero, Int.add_zero]
  · refine congrArg (fun f => List.mapIdx f rest) (funext fun i => funext fun e => ?_)
    rw [Int.natCast_add, Int.natCast_one, Int.add_comm (i : Int), ← Int.add_assoc]

theorem length_flagsBy : (s.flagsBy systemId kind contentId now entries).length = entries.length :=
  List.length_mapIdx

theorem flaggedByAll_flags : (s.flaggedByAll systemId kind contentId now entries).flags =
    ⟨s.flags.rows ++ s.flagsBy systemId kind contentId now entries,
      s.flags.lastId + entries.length⟩ := by
  induction entries generalizing s with
  | nil =>
    show s.flags = ⟨s.flags.rows ++ [], s.flags.lastId + 0⟩
    rw [List.append_nil, Int.add_zero]
  | cons e rest ih =>
    have hfirst : (s.flaggedBy systemId kind contentId now e).flags.rows =
        s.flags.rows ++ [(e.flag systemId kind contentId).entry s.flags.nextId now] := rfl
    refine ih.trans ?_
    rw [hfirst, flaggedBy_lastId, flagsBy_cons, List.append_assoc, List.singleton_append,
      List.length_cons, Int.natCast_add, Int.natCast_one, Int.add_assoc, Int.add_comm 1]

/-- With distinct identifiers, each of the entries is counted once. -/
theorem flaggedByAll_keywords (hdistinct : (entries.map Watch.Entry.id).Nodup) :
    (s.flaggedByAll systemId kind contentId now entries).keywords = s.keywords.mapRows fun q =>
      if q.id ∈ entries.map Watch.Entry.id then q.counted else q := by
  induction entries generalizing s with
  | nil => exact (Table.mapRows_eq_self fun q _ => if_neg List.not_mem_nil).symm
  | cons e rest ih =>
    obtain ⟨hnew, hrest⟩ := List.nodup_cons.mp hdistinct
    have hfirst : (s.flaggedBy systemId kind contentId now e).keywords =
        s.keywords.mapRows fun q => if q.id = e.id then q.counted else q := rfl
    refine (ih hrest).trans ?_
    rw [hfirst, Table.mapRows_mapRows]
    refine Table.mapRows_congr fun q _ => ?_
    rw [Function.comp_apply, List.map_cons]
    by_cases hq : q.id = e.id
    · have hcounted : q.counted.id ∉ rest.map Watch.Entry.id := fun hmem => hnew (hq ▸ hmem)
      rw [if_pos hq, if_neg hcounted, if_pos (List.mem_cons.mpr (.inl hq))]
    · simp only [List.mem_cons, hq, false_or, if_false]

theorem flaggedByAll_eq : s.flaggedByAll systemId kind contentId now entries =
    { s with
      flags := (s.flaggedByAll systemId kind contentId now entries).flags
      keywords := (s.flaggedByAll systemId kind contentId now entries).keywords } := by
  induction entries generalizing s with
  | nil => rfl
  | cons e rest ih => exact ih

theorem flaggedByAll_induction {P : Store → Prop} (h : P s)
    (hroom : entries ≠ [] → s.flags.lastId + entries.length ≤ Text.wordMax)
    (hstep : ∀ t, ∀ e ∈ entries, P t → t.flags.nextId ≤ Text.wordMax →
      P (t.flaggedBy systemId kind contentId now e)) :
    P (s.flaggedByAll systemId kind contentId now entries) := by
  induction entries generalizing s with
  | nil => exact h
  | cons e rest ih =>
    have hlast := hroom (List.cons_ne_nil e rest)
    rw [List.length_cons] at hlast
    have hnext : s.flags.nextId ≤ Text.wordMax := by
      unfold Table.nextId
      omega
    refine ih (hstep s e List.mem_cons_self h hnext) (fun _ => ?_) fun t q hq =>
      hstep t q (List.mem_cons_of_mem e hq)
    show (s.flaggedBy systemId kind contentId now e).flags.lastId + rest.length ≤ Text.wordMax
    rw [flaggedBy_lastId]
    omega

end Store

namespace Watch

/-- What comes of raising the flags of some entries. -/
def raiseEffect (s : Store) (systemId : Int) (kind : Content.Kind) (contentId : Int)
    (now : Instant) (entries : List Entry) : Effect (List Flag) :=
  if entries = [] then .ok ([], s)
  else if s.flags.nextId ≤ Text.wordMax ∧ s.users.contains systemId = false then
    .error (.database .foreignKey)
  else if Text.wordMax < s.flags.lastId + entries.length then .error (.database .full)
  else .ok (s.flagsBy systemId kind contentId now entries,
    s.flaggedByAll systemId kind contentId now entries)

theorem raiseEffect_of_reporter (hreporter : s.users.contains systemId = true)
    (hroom : s.flags.lastId ≤ Text.wordMax) :
    raiseEffect s systemId kind contentId now entries =
      if Text.wordMax < s.flags.lastId + entries.length then .error (.database .full)
      else .ok (s.flagsBy systemId kind contentId now entries,
        s.flaggedByAll systemId kind contentId now entries) := by
  unfold raiseEffect
  rw [hreporter]
  rcases entries with - | ⟨e, rest⟩
  · rw [if_pos rfl, List.length_nil, if_neg (by omega)]
    rfl
  · rw [if_neg (List.cons_ne_nil e rest), if_neg (by simp)]

/-- When flags were raised, there was a reporter and room for all of them. -/
theorem raiseEffect_eq_ok {fs : List Flag} {t : Store}
    (h : raiseEffect s systemId kind contentId now entries = .ok (fs, t)) :
    fs = s.flagsBy systemId kind contentId now entries ∧
      t = s.flaggedByAll systemId kind contentId now entries ∧
      (entries ≠ [] → s.users.contains systemId = true ∧
        s.flags.lastId + entries.length ≤ Text.wordMax) := by
  unfold raiseEffect at h
  split at h
  · next hnone =>
    obtain ⟨rfl, rfl⟩ := Prod.mk.inj (Except.ok.inj h)
    subst hnone
    exact ⟨rfl, rfl, fun hne => absurd rfl hne⟩
  split at h
  · cases h
  · next hne hreporter =>
    split at h
    · cases h
    · next hroom =>
      obtain ⟨rfl, rfl⟩ := Prod.mk.inj (Except.ok.inj h)
      have hpos : 0 < entries.length := List.length_pos_iff.mpr hne
      have hnext : s.flags.nextId ≤ Text.wordMax := by
        unfold Table.nextId
        omega
      refine ⟨rfl, rfl, fun _ => ⟨?_, Int.not_lt.mp hroom⟩⟩
      exact eq_true_of_ne_false fun hmissing => hreporter ⟨hnext, hmissing⟩

theorem hasEffect_raiseAll (s : Store) (systemId : Int) (kind : Content.Kind) (contentId : Int)
    (now : Instant) (entries : List Entry) :
    HasEffect (fun _ => True) s (raiseAll systemId kind contentId now entries)
      (raiseEffect s systemId kind contentId now entries) := by
  induction entries generalizing s with
  | nil => exact .pure rfl
  | cons e rest ih =>
    have hne : e :: rest ≠ [] := List.cons_ne_nil e rest
    have hlength : ((e :: rest).length : Int) = rest.length + 1 := by
      rw [List.length_cons, Int.natCast_add, Int.natCast_one]
    unfold raiseEffect
    rw [if_neg hne, hlength]
    refine .bind (Statement.yields_insertFlag (fun hfull => ?_) (fun hroom hmissing => ?_) trivial
      fun hroom hreporter => ?_)
    · rw [if_neg fun h => Int.not_lt.mpr h.1 hfull, if_pos]
      unfold Table.nextId at hfull
      omega
    · exact if_pos ⟨hroom, hmissing⟩
    have hthere : s.users.contains systemId = true := hreporter
    rw [if_neg fun h => by rw [hthere] at h; cases h.2]
    let t := s.flaggedBy systemId kind contentId now e
    have hlast : t.flags.lastId = s.flags.lastId + 1 := Store.flaggedBy_lastId
    have hrest : raiseEffect t systemId kind contentId now rest = _ :=
      raiseEffect_of_reporter hthere (hlast ▸ hroom)
    rw [hlast, Int.add_assoc, Int.add_comm 1] at hrest
    refine .bind (Statement.yields_recordMatch trivial (.bind ?_))
    refine (ih t).mono (fun _ ht => ht) (fun fs u hfs => .pure ?_) fun refusal hrefused => ?_
    · rw [hrest] at hfs
      split at hfs
      · cases hfs
      · next hfits =>
        obtain ⟨rfl, rfl⟩ := Prod.mk.inj (Except.ok.inj hfs)
        rw [if_neg hfits, Store.flagsBy_cons]
        rfl
    · rw [hrest] at hrefused
      split at hrefused
      · next hfull =>
        rw [if_pos hfull]
        exact hrefused
      · cases hrefused

/-- What comes of a scan. -/
def scanEffect (s : Store) (systemId : Int) (content : String) (kind : Content.Kind)
    (contentId : Int) (now : Instant) : Effect (List Flag) :=
  raiseEffect s systemId kind contentId now (matching s.activeKeywords content)

theorem hasEffect_scan (s : Store) (systemId : Int) (content : String) (kind : Content.Kind)
    (contentId : Int) (now : Instant) :
    HasEffect (fun _ => True) s (scan systemId content kind contentId now)
      (scanEffect s systemId content kind contentId now) :=
  .bind (.current (hasEffect_raiseAll s systemId kind contentId now _))

end Watch

end Several

end CivicForum
