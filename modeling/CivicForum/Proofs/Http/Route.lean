import CivicForum.Http.Service
import CivicForum.Proofs.Json.Reading
import Mathlib.Data.List.TakeWhile

/-! # Where each call is asked for

* `Http.Endpoint`: a method, a path and the fields of a body.
* `Call.endpoint?`: the endpoint of a call; four calls have none.
* `Http.segments_flatMap`: a path is divided into the parts that it is put together from.
* `Http.readId?_number`: an identifier is read from a path as it is written.
* `Call.serves_of_endpoint?`: what lies under the endpoint of a call makes this call.
-/

set_option autoImplicit false

namespace CivicForum

open Text

namespace Http

/-! ## Endpoints -/

/-- Where a call is asked for, and with what. -/
structure Endpoint where
  access : Access
  /-- The parts of the path below the root of the services. -/
  parts : List String
  /-- The fields of the body, if one is read. -/
  input : Option (List (String × Json)) := none
  /-- The values of the fields that may be left out. -/
  defaults : List (String × Json) := []

namespace Endpoint

def method (e : Endpoint) : String :=
  match e.access with
  | .read => "GET"
  | .write => "POST"

/-- The parts of the path, each one after a slash. -/
def target (e : Endpoint) : String :=
  String.ofList (("v1" :: "moderation" :: e.parts).flatMap fun part => '/' :: part.toList)

/-- A question about a user. -/
def ofUser (userId : Int) (rest : List String) : Endpoint :=
  ⟨.read, "users" :: Refusal.number userId :: rest, none, []⟩

end Endpoint

/-- The name of an event in a path. -/
def eventName : Member.Counter → String
  | .approvedComments => "comment_approved"
  | .upheldFlags => "flag_upheld"
  | .validatedReports => "report_validated"

end Http

namespace Call

open Http Refusal

/-- Where the call is asked for. A level, whether approval is required, whether a penalty can be
appealed and the weight of one reporter are not asked for by requests. -/
def endpoint? : Call → Option Endpoint
  | .profile userId => some (.ofUser userId ["trust"])
  | .ban userId => some (.ofUser userId ["ban"])
  | .admission userId => some (.ofUser userId ["admission"])
  | .penaltiesOf userId => some (.ofUser userId ["penalties"])
  | .activePenalty userId => some (.ofUser userId ["penalties", "active"])
  | .nextPenalty userId => some (.ofUser userId ["penalties", "next"])
  | .appealsOf userId => some (.ofUser userId ["appeals"])
  | .recalculate userId => some ⟨.write, ["users", number userId, "trust", "recalculate"], none, []⟩
  | .record k userId => some ⟨.write, ["users", number userId, "events", eventName k], none, []⟩
  | .issue r => some ⟨.write, ["penalties"],
      some [("user_id", .int r.userId), ("penalty_type", .text (Named.wire r.kind)),
        ("reason", .text r.reason), ("issued_by", .int r.issuedBy),
        ("related_flag_ids", .list (r.relatedFlagIds.map .int)),
        ("bulk_delete_content", .truth r.removeContent)],
      [("related_flag_ids", .list []), ("bulk_delete_content", .truth false)]⟩
  | .sweep => some ⟨.write, ["penalties", "expire"], none, []⟩
  | .penalty id => some ⟨.read, ["penalties", number id], none, []⟩
  | .revoke id revokedBy reason => some ⟨.write, ["penalties", number id, "revoke"],
      some [("revoked_by", .int revokedBy), ("reason", .text reason)], []⟩
  | .submitAppeal id userId reason => some ⟨.write, ["penalties", number id, "appeal"],
      some [("user_id", .int userId), ("reason", .text reason)], []⟩
  | .pendingAppeals => some ⟨.read, ["appeals", "pending"], none, []⟩
  | .appeal id => some ⟨.read, ["appeals", number id], none, []⟩
  | .reviewAppeal id reviewerId decision notes => some ⟨.write, ["appeals", number id, "review"],
      some [("reviewer_id", .int reviewerId), ("action", .text decision), ("notes", .text notes)],
      [("notes", .text "")]⟩
  | .keywords => some ⟨.read, ["watchlist"], none, []⟩
  | .addKeyword keyword isPattern flagReason => some ⟨.write, ["watchlist"],
      some [("keyword", .text keyword), ("is_regex", .truth isPattern),
        ("auto_flag_reason", .text flagReason)],
      [("is_regex", .truth false)]⟩
  | .setKeywordActive id isActive => some ⟨.write, ["watchlist", number id, "active"],
      some [("is_active", .truth isActive)], []⟩
  | .scan content kind contentId =>
    some ⟨.write, ["content", Named.wire kind, number contentId, "scan"],
      some [("content", .text content)], []⟩
  | .weightedFlags kind contentId =>
    some ⟨.read, ["content", Named.wire kind, number contentId, "weight"], none, []⟩
  | .level _ | .requiresApproval _ | .canAppeal _ | .weightFor _ => none

/-- The numbers that a request for the call gives. -/
def numbers : Call → List Int
  | .profile id | .ban id | .admission id | .penaltiesOf id | .activePenalty id => [id]
  | .nextPenalty id | .appealsOf id | .recalculate id | .record _ id | .penalty id => [id]
  | .appeal id | .setKeywordActive id _ | .scan _ _ id | .weightedFlags _ id => [id]
  | .requiresApproval id | .canAppeal id | .weightFor id | .level id => [id]
  | .issue r => r.userId :: r.issuedBy :: r.relatedFlagIds
  | .revoke id revokedBy _ => [id, revokedBy]
  | .submitAppeal penaltyId userId _ => [penaltyId, userId]
  | .reviewAppeal id reviewerId _ _ => [id, reviewerId]
  | .sweep | .pendingAppeals | .keywords | .addKeyword .. => []

/-- How the answer to the call is given as JSON. -/
def present : Call → Answer → Json
  | .recalculate _ | .record .. => Present.score
  | .ban _ => Present.ban
  | .admission _ => Present.admission
  | .nextPenalty _ => Present.nextPenalty
  | .sweep => Present.expired
  | .weightedFlags .. => Present.weight
  | _ => Answer.toJson

end Call

namespace Http

/-! ## Paths -/

/-- The part has none of the characters that divide a target or start an escape. -/
def PlainPart (part : List Char) : Prop := ∀ c ∈ part, c ≠ '/' ∧ c ≠ '?' ∧ c ≠ '#' ∧ c ≠ '%'

instance (part : List Char) : Decidable (PlainPart part) :=
  List.decidableBAll _ part

theorem splitSlashes_append {part : List Char} (h : PlainPart part) (rest : List Char) :
    splitSlashes (part ++ '/' :: rest) = part :: splitSlashes rest := by
  induction part with
  | nil => rfl
  | cons c part ih =>
    obtain ⟨hc, hpart⟩ := List.forall_mem_cons.mp h
    rw [List.cons_append, splitSlashes, if_neg hc.1, ih hpart]

theorem splitSlashes_plain {part : List Char} (h : PlainPart part) :
    splitSlashes part = [part] := by
  induction part with
  | nil => rfl
  | cons c part ih =>
    obtain ⟨hc, hpart⟩ := List.forall_mem_cons.mp h
    rw [splitSlashes, if_neg hc.1, ih hpart]

theorem splitSlashes_flatMap {part : List Char} {parts : List (List Char)}
    (h : ∀ p ∈ part :: parts, PlainPart p) :
    splitSlashes (part ++ parts.flatMap fun p => '/' :: p) = part :: parts := by
  induction parts generalizing part with
  | nil =>
    rw [List.flatMap_nil, List.append_nil]
    exact splitSlashes_plain (h part List.mem_cons_self)
  | cons next parts ih =>
    obtain ⟨hpart, hparts⟩ := List.forall_mem_cons.mp h
    rw [List.flatMap_cons, List.cons_append, splitSlashes_append hpart, ih hparts]

/-- A path of plain parts is divided into these parts. -/
theorem segments_flatMap {part : List Char} {parts : List (List Char)}
    (h : ∀ p ∈ part :: parts, PlainPart p) :
    segments (String.ofList ((part :: parts).flatMap fun p => '/' :: p)) =
      some (part :: parts) := by
  have hkept : ∀ c ∈ (part :: parts).flatMap fun p => '/' :: p,
      (c ≠ '?' && c ≠ '#') = true := by
    intro c hc
    obtain ⟨p, hp, hcp⟩ := List.mem_flatMap.mp hc
    rcases List.mem_cons.mp hcp with rfl | hcp
    · rfl
    · obtain ⟨-, hquery, hfragment, -⟩ := h p hp c hcp
      simp [hquery, hfragment]
  unfold segments
  rw [String.toList_ofList, List.takeWhile_eq_self_iff.mpr hkept, List.flatMap_cons,
    List.cons_append]
  exact congrArg some (splitSlashes_flatMap h)

/-! ## Parameters -/

theorem percentDecode?_plain {part : List Char} (h : PlainPart part) :
    percentDecode? part = some part :=
  if_neg fun hmem => (h _ hmem).2.2.2 rfl

variable {n : Int}

theorem plainPart_writeInt (n : Int) : PlainPart (writeInt n) := by
  intro c hc
  rcases mem_writeInt hc with rfl | hdigit
  · decide
  · refine ⟨?_, ?_, ?_, ?_⟩ <;>
    · rintro rfl
      exact absurd hdigit (by decide)

theorem toList_number (n : Int) : (Refusal.number n).toList = writeInt n := String.toList_ofList

theorem readId?_number (h : isWord n = true) :
    readId? (Refusal.number n).toList = some n := by
  unfold readId?
  rw [toList_number, percentDecode?_plain (plainPart_writeInt n), Option.bind_some,
    readWord?_writeInt h]

theorem readKind?_wire (kind : Content.Kind) : readKind? (Named.wire kind).toList = some kind := by
  cases kind with
  | idea => rfl
  | comment => rfl

theorem readEvent?_eventName (k : Member.Counter) : readEvent? (eventName k).toList = some k := by
  cases k with
  | approvedComments => rfl
  | upheldFlags => rfl
  | validatedReports => rfl

/-- An identifier is none of the words that stand in its place. -/
theorem number_ne_word (n : Int) (word : String)
    (h : ∃ c ∈ word.toList, c ≠ '-' ∧ isDigit c = false) : Refusal.number n ≠ word := by
  rintro rfl
  obtain ⟨c, hc, hminus, hdigit⟩ := h
  rw [toList_number] at hc
  rcases mem_writeInt hc with rfl | hdigit'
  · exact hminus rfl
  · rw [hdigit] at hdigit'
    cases hdigit'

theorem number_ne_empty (n : Int) : Refusal.number n ≠ "" := fun h =>
  writeInt_ne_nil n ((toList_number n).symm.trans (congrArg String.toList h))

theorem below_penalty (id : Int) :
    Resource.below ["penalties".toList, (Refusal.number id).toList] =
      some (.penalty (Refusal.number id).toList) := by
  have hword := number_ne_word id "expire" ⟨'e', by decide, by decide, by decide⟩
  simp [Resource.below, number_ne_empty]

theorem below_appeal (id : Int) :
    Resource.below ["appeals".toList, (Refusal.number id).toList] =
      some (.appeal (Refusal.number id).toList) := by
  have hword := number_ne_word id "pending" ⟨'p', by decide, by decide, by decide⟩
  simp [Resource.below, number_ne_empty]

/-! ## Bodies -/

theorem mapM_int? (ns : List Int) : ns.mapM (Json.int? ∘ Json.int) = some ns :=
  (List.mapM_pure (m := Option) (f := id)).trans (congrArg some ns.map_id)

/-- A request for a penalty is read from its JSON as it was. -/
theorem ofJson?_toJson (r : Penalty.Request) : Penalty.Request.ofJson? r.toJson = some r := by
  have hkind : (Named.ofJson? (Named.toJson r.kind) : Option Penalty.Kind) = some r.kind := by
    cases r.kind <;> rfl
  simp [Penalty.Request.ofJson?, Penalty.Request.toJson, Json.field?, Json.int?, Json.text?,
    Json.truth?, Json.list?, List.lookup_cons, hkind, mapM_int?]

/-! ## Handlers -/

/-- With the input for a body, the handler makes the call. -/
inductive Handler.Makes (h : Handler) (c : Call) :
    Option (List (String × Json)) → List (String × Json) → Prop where
  | plain (hformat : h.format = none) (hcall : h.call .null = some c) : Makes h c none []
  | body {fields : List Json.Format.Field} {input defaults : List (String × Json)}
      (hformat : h.format = some (.record fields))
      (hfits : Json.Format.Fits fields input defaults)
      (hdistinct : (input.map Prod.fst).Nodup)
      (hcall : h.call (.record input) = some c) : Makes h c (some input) defaults

/-- What lies under the endpoint makes the call, and presents its answer. -/
def Endpoint.Serves (e : Endpoint) (c : Call) : Prop :=
  ∃ resource handler, Resource.below (e.parts.map String.toList) = some resource ∧
    resource ≠ .index ∧ resource.allows e.access = true ∧
    resource.handler? e.access = some handler ∧ handler.present = c.present ∧
    handler.Makes c e.input e.defaults

section

variable {access : Access} {parts : List String} {resource : Resource} {c : Call}

theorem Endpoint.serves_plain (hbelow : Resource.below (parts.map String.toList) = some resource)
    (hindex : resource ≠ .index) (hallows : resource.allows access = true)
    (hhandler : resource.handler? access = some (.plain c c.present)) :
    Endpoint.Serves ⟨access, parts, none, []⟩ c :=
  ⟨resource, _, hbelow, hindex, hallows, hhandler, rfl, .plain rfl rfl⟩

theorem Endpoint.serves_body {handler : Handler} {fields : List Json.Format.Field}
    {input defaults : List (String × Json)}
    (hbelow : Resource.below (parts.map String.toList) = some resource)
    (hindex : resource ≠ .index) (hallows : resource.allows access = true)
    (hhandler : resource.handler? access = some handler) (hpresent : handler.present = c.present)
    (hformat : handler.format = some (.record fields))
    (hfits : Json.Format.Fits fields input defaults) (hdistinct : (input.map Prod.fst).Nodup)
    (hcall : handler.call (.record input) = some c) :
    Endpoint.Serves ⟨access, parts, some input, defaults⟩ c :=
  ⟨resource, handler, hbelow, hindex, hallows, hhandler, hpresent,
    .body hformat hfits hdistinct hcall⟩

end

end Http

namespace Call

open Http Refusal Json.Format

variable {c : Call} {e : Endpoint}

theorem plainPart_of_endpoint? (h : c.endpoint? = some e) :
    ∀ part ∈ e.parts, PlainPart part.toList := by
  have hnumber : ∀ n, PlainPart (Refusal.number n).toList := fun n =>
    (toList_number n).symm ▸ plainPart_writeInt n
  have hevent : ∀ k, PlainPart (eventName k).toList := fun k => by cases k <;> decide
  have hkind : ∀ kind : Content.Kind, PlainPart (Named.wire kind).toList := fun kind => by
    cases kind <;> decide
  cases c <;> cases h <;>
    simp only [Endpoint.ofUser, List.forall_mem_cons, hnumber, hevent, hkind, true_and] <;>
      decide

/-- The body of a request for a penalty is taken as it is meant. -/
theorem fits_issue (r : Penalty.Request) (hnumbers : ∀ n ∈ (issue r).numbers, isWord n = true) :
    ∃ fields, Penalty.Request.format = .record fields ∧ Fits fields
      [("user_id", .int r.userId), ("penalty_type", .text (Named.wire r.kind)),
        ("reason", .text r.reason), ("issued_by", .int r.issuedBy),
        ("related_flag_ids", .list (r.relatedFlagIds.map .int)),
        ("bulk_delete_content", .truth r.removeContent)]
      [("related_flag_ids", .list []), ("bulk_delete_content", .truth false)] := by
  have huser := hnumbers r.userId List.mem_cons_self
  have hissuer := hnumbers r.issuedBy (by simp [numbers])
  have hkind : (Named.format Penalty.Kind).Takes (.text (Named.wire r.kind)) :=
    takes_choice (by cases r.kind <;> decide)
  have hflags : (listOf int).Takes (.list (r.relatedFlagIds.map .int)) :=
    takes_listOf (List.forall_mem_map.mpr fun n hn =>
      takes_int (hnumbers n (by simp [numbers, hn])))
  refine ⟨_, rfl, ?_⟩
  exact .cons ⟨rfl, takes_int huser, by simp⟩ (.cons ⟨rfl, hkind, by simp⟩
    (.cons ⟨rfl, takes_text r.reason, by simp⟩ (.cons ⟨rfl, takes_int hissuer, by simp⟩
      (.cons ⟨rfl, hflags, by simp⟩ (.cons ⟨rfl, takes_truth r.removeContent, by simp⟩ .nil)))))

/-- What lies under the endpoint of a call makes this call, once its numbers fit. -/
theorem serves_of_endpoint? (h : c.endpoint? = some e)
    (hnumbers : ∀ n ∈ c.numbers, isWord n = true) : e.Serves c := by
  cases c with
  | profile userId | admission userId | ban userId | penaltiesOf userId | activePenalty userId
  | nextPenalty userId | appealsOf userId | recalculate userId =>
    obtain rfl := Option.some.inj h
    have hid := readId?_number (hnumbers userId List.mem_cons_self)
    exact Endpoint.serves_plain rfl nofun rfl (Option.bind_eq_some_iff.mpr ⟨userId, hid, rfl⟩)
  | record k userId =>
    obtain rfl := Option.some.inj h
    have hid := readId?_number (hnumbers userId List.mem_cons_self)
    have hbelow : Resource.below ["users".toList, (number userId).toList, "events".toList,
        (eventName k).toList] = some (.event (number userId).toList (eventName k).toList) := by
      cases k <;> rfl
    have hhandler : (Resource.event (number userId).toList (eventName k).toList).handler? .write =
        some (.plain (.record k userId) Present.score) := by
      rw [Resource.handler?, hid, readEvent?_eventName]
      rfl
    exact Endpoint.serves_plain hbelow nofun rfl hhandler
  | weightedFlags kind contentId =>
    obtain rfl := Option.some.inj h
    have hid := readId?_number (hnumbers contentId List.mem_cons_self)
    exact Endpoint.serves_plain rfl nofun rfl (Option.bind_eq_some_iff.mpr
      ⟨kind, readKind?_wire kind, Option.bind_eq_some_iff.mpr ⟨contentId, hid, rfl⟩⟩)
  | sweep | pendingAppeals | keywords =>
    obtain rfl := Option.some.inj h
    exact Endpoint.serves_plain rfl nofun rfl rfl
  | penalty id =>
    obtain rfl := Option.some.inj h
    have hid := readId?_number (hnumbers id List.mem_cons_self)
    exact Endpoint.serves_plain (below_penalty id) nofun rfl
      (Option.bind_eq_some_iff.mpr ⟨id, hid, rfl⟩)
  | appeal id =>
    obtain rfl := Option.some.inj h
    have hid := readId?_number (hnumbers id List.mem_cons_self)
    exact Endpoint.serves_plain (below_appeal id) nofun rfl
      (Option.bind_eq_some_iff.mpr ⟨id, hid, rfl⟩)
  | issue r =>
    obtain rfl := Option.some.inj h
    have hbelow : Resource.below ["penalties".toList] = some .penalties := rfl
    obtain ⟨fields, hformat, hfits⟩ := fits_issue r hnumbers
    exact Endpoint.serves_body hbelow nofun rfl rfl rfl (congrArg some hformat) hfits (by simp)
      (congrArg (Option.map Call.issue) (ofJson?_toJson r))
  | revoke id userId reason | submitAppeal id userId reason =>
    obtain rfl := Option.some.inj h
    have hid := readId?_number (hnumbers id List.mem_cons_self)
    have huser := hnumbers userId (List.mem_cons_of_mem _ List.mem_cons_self)
    exact Endpoint.serves_body rfl nofun rfl (Option.bind_eq_some_iff.mpr ⟨id, hid, rfl⟩) rfl rfl
      (.cons ⟨rfl, takes_int huser, nofun⟩ (.cons ⟨rfl, takes_text reason, nofun⟩ .nil))
      (by simp) rfl
  | reviewAppeal id reviewerId decision notes =>
    obtain rfl := Option.some.inj h
    have hid := readId?_number (hnumbers id List.mem_cons_self)
    have hreviewer := hnumbers reviewerId (List.mem_cons_of_mem _ List.mem_cons_self)
    exact Endpoint.serves_body rfl nofun rfl (Option.bind_eq_some_iff.mpr ⟨id, hid, rfl⟩) rfl rfl
      (.cons ⟨rfl, takes_int hreviewer, by simp⟩ (.cons ⟨rfl, takes_text decision, by simp⟩
        (.cons ⟨rfl, takes_text notes, by simp⟩ .nil)))
      (by simp) rfl
  | addKeyword keyword isPattern flagReason =>
    obtain rfl := Option.some.inj h
    exact Endpoint.serves_body rfl nofun rfl rfl rfl rfl
      (.cons ⟨rfl, takes_text keyword, by simp⟩ (.cons ⟨rfl, takes_truth isPattern, by simp⟩
        (.cons ⟨rfl, takes_text flagReason, by simp⟩ .nil)))
      (by simp) rfl
  | setKeywordActive id isActive =>
    obtain rfl := Option.some.inj h
    have hid := readId?_number (hnumbers id List.mem_cons_self)
    exact Endpoint.serves_body rfl nofun rfl (Option.bind_eq_some_iff.mpr ⟨id, hid, rfl⟩) rfl rfl
      (.cons ⟨rfl, takes_truth isActive, nofun⟩ .nil) (by simp) rfl
  | scan content kind contentId =>
    obtain rfl := Option.some.inj h
    have hid := readId?_number (hnumbers contentId List.mem_cons_self)
    exact Endpoint.serves_body rfl nofun rfl (Option.bind_eq_some_iff.mpr
        ⟨kind, readKind?_wire kind, Option.bind_eq_some_iff.mpr ⟨contentId, hid, rfl⟩⟩) rfl rfl
      (.cons ⟨rfl, takes_text content, nofun⟩ .nil) (by simp) rfl
  | level _ | requiresApproval _ | canAppeal _ | weightFor _ => cases h

end Call

end CivicForum
