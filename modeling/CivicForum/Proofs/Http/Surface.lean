import CivicForum.Proofs.Http.Route
import CivicForum.Proofs.Session
import Mathlib.Data.String.Basic

/-! # Requests and calls

* `Http.Request.Asks`: the request is for what lies under an endpoint, its body carries the input.
* `Http.respond_of_asks`: such a request is answered by the call.
* `Http.respond_of_long`: unless its body is longer than what is read of a request.
* `Http.asks_request`: every call that has an endpoint can be asked for.
* `Session.Mirrors`: a request leaves the forum that the call leaves, and its response tells what
  came of the call.
* `Session.requests_mirror_calls`: whoever asks for a call by a request gets what the call gives.
-/

set_option autoImplicit false

namespace CivicForum

open Text

namespace Http

/-! ## Requests for an endpoint -/

/-- The request is for what lies under the endpoint. If a body is read, it is declared as JSON and
is a record that carries the input, in whatever order and spelling. -/
structure Request.Asks (r : Request) (e : Endpoint) : Prop where
  method : r.method = e.method
  target : r.target = e.target
  content : ∀ input, e.input = some input → r.contentType.any isJsonType = true ∧
    ∃ given text, Json.Carries input e.defaults given ∧ (Json.record given).SpelledBy text ∧
      r.body = encode text

theorem text?_encode (s : String) : text? (encode s) = some s := by
  have hbytes : (⟨(encode s).toArray⟩ : ByteArray) = s.toByteArray := rfl
  unfold text? String.fromUTF8?
  rw [hbytes, dif_pos s.isValidUTF8]
  rfl

theorem decode_encode (s : String) : decode (encode s) = s := by
  rw [decode, text?_encode, Option.getD_some]

variable {systemId : Int} {now : Instant} {s : Store} {r : Request} {e : Endpoint} {c : Call}

/-- The path of an endpoint is divided into the parts that it was put together from. -/
theorem segments_target (h : ∀ part ∈ e.parts, PlainPart part.toList) :
    segments e.target =
      some ("v1".toList :: "moderation".toList :: e.parts.map String.toList) := by
  have hroot : PlainPart "v1".toList ∧ PlainPart "moderation".toList := by decide
  have hplain : ∀ p ∈ "v1".toList :: "moderation".toList :: e.parts.map String.toList,
      PlainPart p := by
    refine List.forall_mem_cons.mpr ⟨hroot.1, List.forall_mem_cons.mpr ⟨hroot.2, ?_⟩⟩
    exact List.forall_mem_map.mpr h
  have htarget : e.target = String.ofList (("v1".toList :: "moderation".toList ::
      e.parts.map String.toList).flatMap fun p => '/' :: p) := by
    unfold Endpoint.target
    rw [List.flatMap_cons, List.flatMap_cons, List.flatMap_cons, List.flatMap_cons,
      List.flatMap_map]
  rw [htarget]
  exact segments_flatMap hplain

theorem find?_target (h : ∀ part ∈ e.parts, PlainPart part.toList) :
    (segments e.target).bind Resource.find? = Resource.below (e.parts.map String.toList) := by
  rw [segments_target h, Option.bind_some]
  rfl

theorem respond_of_target {resource : Resource} {handler : Handler}
    (hmethod : r.method = e.method) (htarget : r.target = e.target)
    (hplain : ∀ part ∈ e.parts, PlainPart part.toList)
    (hbelow : Resource.below (e.parts.map String.toList) = some resource)
    (hindex : resource ≠ .index) (hallows : resource.allows e.access = true)
    (hhandler : resource.handler? e.access = some handler) :
    respond r systemId now s = serve handler r systemId now s := by
  have haccess : access resource e.access r systemId now s = serve handler r systemId now s := by
    unfold access
    rw [if_pos hallows, if_neg hindex, hhandler]
  unfold respond
  rw [htarget, find?_target hplain, hbelow, hmethod, ← haccess]
  unfold Endpoint.method
  cases e.access <;> rfl

/-! ## Reading the body -/

theorem readBody_of_content {fields : List Json.Format.Field}
    {input defaults given : List (String × Json)} {text : String}
    (hjson : r.contentType.any isJsonType = true) (hlength : r.body.length ≤ bodyLimit)
    (hfits : Json.Format.Fits fields input defaults) (hdistinct : (input.map Prod.fst).Nodup)
    (hcarries : Json.Carries input defaults given) (htext : (Json.record given).SpelledBy text)
    (hbody : r.body = encode text) : readBody r (.record fields) = .ok (.record input) := by
  unfold readBody
  rw [if_pos hjson, if_neg (Nat.not_lt.mpr hlength), hbody, decode_encode,
    Json.Format.readBody_carries hfits hdistinct hcarries htext]

theorem serve_of_makes {handler : Handler} (hmakes : handler.Makes c e.input e.defaults)
    (hr : r.Asks e) (hlength : e.input.isSome = true → r.body.length ≤ bodyLimit) :
    serve handler r systemId now s = perform c handler.present systemId now s := by
  obtain ⟨-, -, hcontent⟩ := hr
  unfold serve
  generalize e.input = input at hmakes hcontent hlength
  generalize e.defaults = defaults at hmakes hcontent
  cases hmakes with
  | plain hformat hcall =>
    rw [hformat]
    dsimp only
    rw [hcall]
  | body hformat hfits hdistinct hcall =>
    obtain ⟨hjson, given, text, hcarries, htext, hbody⟩ := hcontent _ rfl
    rw [hformat]
    dsimp only
    rw [readBody_of_content hjson (hlength rfl) hfits hdistinct hcarries htext hbody]
    dsimp only
    rw [hcall]

theorem exists_handler (he : c.endpoint? = some e) (hnumbers : ∀ n ∈ c.numbers, isWord n = true)
    (hr : r.Asks e) :
    ∃ handler : Handler, handler.present = c.present ∧ handler.Makes c e.input e.defaults ∧
      respond r systemId now s = serve handler r systemId now s := by
  obtain ⟨resource, handler, hbelow, hindex, hallows, hhandler, hpresent, hmakes⟩ :=
    Call.serves_of_endpoint? he hnumbers
  exact ⟨handler, hpresent, hmakes, respond_of_target hr.method hr.target
    (Call.plainPart_of_endpoint? he) hbelow hindex hallows hhandler⟩

/-- A request for an endpoint is answered by its call. -/
theorem respond_of_asks (he : c.endpoint? = some e) (hnumbers : ∀ n ∈ c.numbers, isWord n = true)
    (hr : r.Asks e) (hlength : e.input.isSome = true → r.body.length ≤ bodyLimit) :
    respond r systemId now s = perform c c.present systemId now s := by
  obtain ⟨handler, hpresent, hmakes, hserve⟩ := exists_handler he hnumbers hr
  rw [hserve, serve_of_makes hmakes hr hlength, hpresent]

/-- A body that is too long is not read, whatever it carries. -/
theorem respond_of_long (he : c.endpoint? = some e) (hnumbers : ∀ n ∈ c.numbers, isWord n = true)
    (hr : r.Asks e) (hinput : e.input.isSome = true) (hlength : bodyLimit < r.body.length) :
    respond r systemId now s = (.bodyTooLarge, s) := by
  obtain ⟨handler, -, hmakes, hserve⟩ := exists_handler he hnumbers hr
  obtain ⟨input, hinput⟩ := Option.isSome_iff_exists.mp hinput
  obtain ⟨hjson, -⟩ := hr.content input hinput
  rw [hserve]
  rw [hinput] at hmakes
  cases hmakes with
  | body hformat hfits hdistinct hcall =>
    unfold serve readBody
    rw [hformat]
    dsimp only
    rw [if_pos hjson, if_pos hlength]

end Http

/-! ## The plainest requests -/

namespace Call

open Http Json

variable {c : Call} {e : Endpoint} {input : List (String × Json)}

theorem spells_of_endpoint? (he : c.endpoint? = some e) (hinput : e.input = some input) :
    ∀ field ∈ input, Spells field.2 field.2.write := by
  cases c with
  | issue r =>
    obtain rfl := Option.some.inj he
    obtain rfl := Option.some.inj hinput
    have hflags := spells_list (List.forall_mem_map.mpr fun n (_ : n ∈ r.relatedFlagIds) =>
      spells_int n)
    simp [spells_int, spells_text, spells_truth, hflags]
  | revoke | submitAppeal | reviewAppeal | addKeyword | setKeywordActive | scan =>
    obtain rfl := Option.some.inj he
    obtain rfl := Option.some.inj hinput
    simp [spells_int, spells_text, spells_truth]
  | level | requiresApproval | canAppeal | weightFor => cases he
  | _ =>
    obtain rfl := Option.some.inj he
    cases hinput

end Call

namespace Http

variable {c : Call} {e : Endpoint} {given : List (String × Json)}

/-- A request for the endpoint whose body is written without blanks. -/
def Endpoint.request (e : Endpoint) (given : List (String × Json)) : Request where
  method := e.method
  target := e.target
  contentType := some "application/json"
  body := encode (Json.record given).compact

theorem asks_request (he : c.endpoint? = some e)
    (hgiven : ∀ input, e.input = some input → Json.Carries input e.defaults given) :
    (e.request given).Asks e := by
  have hjson : isJsonType "application/json" = true := by decide +kernel
  refine ⟨rfl, rfl, fun input hinput => ⟨hjson, given, _, hgiven input hinput, ?_, rfl⟩⟩
  exact Json.spelledBy_compact (Json.spells_record fun field hfield =>
    Call.spells_of_endpoint? he hinput field ((hgiven input hinput).sound field hfield))

end Http

/-! ## What a request gives -/

/-- The request leaves the forum that the call leaves. Its response has the answer of the call, or
the status of the refusal, and its message unless the fault is on the side of the server. -/
structure Session.Mirrors (f : Session) (r : Http.Request) (c : Call) : Prop where
  forum : (f.step (.request r)).2 = (f.step (.call c)).2
  outcome : (∃ ans, (f.step (.call c)).1 = .answer ans) ∨ ∃ e, (f.step (.call c)).1 = .refused e
  answer : ∀ ans, (f.step (.call c)).1 = .answer ans →
    (f.step (.request r)).1 = .response ⟨200, .json (c.present ans)⟩
  refusal : ∀ e, (f.step (.call c)).1 = .refused e →
    e.status ∈ [404, 409, 422, 400, 500] ∧ ∃ body,
      (f.step (.request r)).1 = .response ⟨e.status, body⟩ ∧
        (e.status < 500 → body = .text e.message)

theorem Refusal.status_mem (e : Refusal) : e.status ∈ [404, 409, 422, 400, 500] := by
  cases e <;> simp [status]

theorem Appeal.Decision.ofText_eq_error {decision : String} (happrove : decision ≠ "approve")
    (hreject : decision ≠ "reject") :
    ∃ text, Appeal.Decision.ofText decision = .error (.invalidAction text) := by
  have hnone : (Named.ofWire? decision : Option Appeal.Decision) = none := by
    refine List.find?_eq_none.mpr fun d _ => ?_
    cases d with
    | approve => simpa [Named.wire] using happrove.symm
    | reject => simpa [Named.wire] using hreject.symm
  unfold Appeal.Decision.ofText
  rw [hnone]
  exact ⟨_, rfl⟩

namespace Session

open Http

variable {f : Session} {r : Request} {e : Endpoint} {c : Call}

theorem mirrors_of_respond
    (h : respond r f.systemId f.now f.store = perform c c.present f.systemId f.now f.store) :
    f.Mirrors r c := by
  have hstep : f.step (.request r) =
      (.response (perform c c.present f.systemId f.now f.store).1,
        { f with store := (perform c c.present f.systemId f.now f.store).2 }) := by
    rw [← h]
    rfl
  rw [perform] at hstep
  rcases hrun : c.run f.systemId f.now f.store with ⟨e | ans, t⟩
  · have hcall := step_call_of_error hrun
    rw [hrun] at hstep
    refine ⟨by rw [hstep, hcall], .inr ⟨e, by rw [hcall]⟩, fun ans hans => ?_, fun e' he => ?_⟩
    · rw [hcall] at hans
      cases hans
    · rw [hcall] at he
      obtain rfl := Outcome.refused.inj he
      refine ⟨e.status_mem, _, congrArg Prod.fst hstep, fun hclient => ?_⟩
      rw [if_neg fun hserver => absurd hserver.1 (Nat.not_le.mpr hclient)]
  · have hcall := step_call_of_ok hrun
    rw [hrun] at hstep
    refine ⟨by rw [hstep, hcall], .inl ⟨ans, by rw [hcall]⟩, fun ans' hans => ?_, fun e' he => ?_⟩
    · rw [hcall] at hans
      obtain rfl := Outcome.answer.inj hans
      rw [hstep]
      rfl
    · rw [hcall] at he
      cases he

theorem step_unread_review {id reviewerId : Int} {decision notes : String}
    (happrove : decision ≠ "approve") (hreject : decision ≠ "reject") :
    ∃ text, f.step (.call (.reviewAppeal id reviewerId decision notes)) =
      (.refused (.invalidAction text), f) := by
  obtain ⟨text, htext⟩ := Appeal.Decision.ofText_eq_error happrove hreject
  have hrun : (Call.reviewAppeal id reviewerId decision notes).run f.systemId f.now f.store =
      (.error (.invalidAction text), f.store) := by
    unfold Call.run Call.work
    dsimp only
    rw [htext]
    rfl
  exact ⟨text, step_call_of_error hrun⟩

/-- Whatever the forum has become, a request for the endpoint of a call gives what the call gives,
provided that its numbers are signed 64-bit ones and its body is no longer than what is read of a
request. A review whose decision is neither of the two is answered with status 400, whatever the
appeal. -/
theorem requests_mirror_calls (f : Session) (he : c.endpoint? = some e)
    (hnumbers : ∀ n ∈ c.numbers, isWord n = true) (hr : r.Asks e)
    (hlength : e.input.isSome = true → r.body.length ≤ bodyLimit) :
    f.Mirrors r c ∧ ∀ id reviewerId decision notes, c = .reviewAppeal id reviewerId decision notes →
      decision ≠ "approve" → decision ≠ "reject" →
        ∃ text, f.step (.request r) = (.response ⟨400, .text text⟩, f) := by
  have hmirrors := mirrors_of_respond (f := f) (respond_of_asks he hnumbers hr hlength)
  refine ⟨hmirrors, ?_⟩
  rintro id reviewerId decision notes rfl happrove hreject
  obtain ⟨text, hcall⟩ := step_unread_review (f := f) happrove hreject
  obtain ⟨-, body, hresponse, hbody⟩ := hmirrors.refusal _ (congrArg Prod.fst hcall)
  have hclient : (Refusal.invalidAction text).status < 500 := by
    show 400 < 500
    decide
  rw [hbody hclient] at hresponse
  exact ⟨_, Prod.ext hresponse (hmirrors.forum.trans (by rw [hcall]))⟩

/-- Nobody has appealed, and the review does not decide: it is the latter that is answered. The
fields of the body stand in another order, and the notes are left out. -/
theorem undecided_review_mirrored :
    let f := fresh (some 1) ⟨1748779200, 0⟩ true
    let c : Call := .reviewAppeal 7 1 "maybe" ""
    ∃ e, c.endpoint? = some e ∧
      let r := e.request [("action", .text "maybe"), ("reviewer_id", .int 1)]
      r.Asks e ∧ r.body.length ≤ bodyLimit ∧ f.Mirrors r c ∧
        ∃ text, f.step (.request r) = (.response ⟨400, .text text⟩, f) := by
  intro f c
  refine ⟨_, rfl, ?_⟩
  intro r
  have hasks : r.Asks _ := asks_request (c := c) rfl fun input hinput => by
    obtain rfl := Option.some.inj hinput
    exact ⟨by simp, by simp, by simp⟩
  have hlength : r.body.length ≤ bodyLimit := by decide +kernel
  obtain ⟨hmirrors, hreview⟩ :=
    requests_mirror_calls f (c := c) rfl (by decide) hasks fun _ => hlength
  exact ⟨hasks, hlength, hmirrors, hreview 7 1 "maybe" "" rfl (by decide) (by decide)⟩

/-! ### Texts that are too long -/

theorem length_le_utf8Len (cs : List Char) : cs.length ≤ String.utf8Len cs := by
  induction cs with
  | nil => exact Nat.le_refl 0
  | cons c cs ih => exact Nat.add_le_add ih (Char.utf8Size_pos c)

theorem length_le_encode (cs : List Char) : cs.length ≤ (encode (String.ofList cs)).length :=
  calc cs.length ≤ String.utf8Len cs := length_le_utf8Len cs
    _ = (String.ofList cs).utf8ByteSize := (String.utf8ByteSize_ofList cs).symm
    _ = (encode (String.ofList cs)).length := rfl

theorem length_le_of_spellsChars {cs w : List Char} (h : Json.SpellsChars cs w) :
    cs.length ≤ w.length := by
  induction h with
  | nil => exact Nat.le_refl 0
  | @cons c cs w ws hc _ ih =>
    have hw : 0 < w.length := by cases hc <;> exact Nat.succ_pos _
    rw [List.length_cons, List.length_append]
    omega

/-- The text of a scan stands in the body of its plainest request. -/
theorem length_lt_scan_body (content : String) :
    content.length < (encode (Json.record [("content", .text content)]).compact).length := by
  have hescaped := length_le_of_spellsChars (Json.spellsChars_escaped content.toList)
  rw [String.length_toList] at hescaped
  refine Nat.lt_of_lt_of_le ?_ (length_le_encode _)
  simp only [Json.write, Json.writeFields, Json.quoted, List.length_cons, List.length_append]
  omega

theorem run_scan_of_empty (hkeywords : f.store.keywords.rows = []) (content : String)
    (kind : Content.Kind) (contentId : Int) :
    (Call.scan content kind contentId).run f.systemId f.now f.store =
      (.ok (.flags []), f.store) := by
  have hmatching : Watch.matching f.store.activeKeywords content = [] := by
    rw [Watch.matching, Store.activeKeywords, hkeywords]
    rfl
  show Work.commit (Watch.raiseAll f.systemId kind contentId f.now
    (Watch.matching f.store.activeKeywords content) >>= fun fs => pure (Answer.flags fs))
      f.store = _
  rw [hmatching]
  rfl

/-- Where the watchlist is empty, a scan finds nothing; but a request for the scan of a text as long
as that is refused, since its body is not read. -/
theorem long_scan_refused (hkeywords : f.store.keywords.rows = []) {content : String}
    (hlong : bodyLimit ≤ content.length) (kind : Content.Kind) {contentId : Int}
    (hid : isWord contentId = true) :
    ∃ e r, (Call.scan content kind contentId).endpoint? = some e ∧ r.Asks e ∧
      f.step (.call (.scan content kind contentId)) = (.answer (.flags []), f) ∧
      f.step (.request r) = (.response .bodyTooLarge, f) := by
  let given : List (String × Json) := [("content", .text content)]
  have hasks : (Endpoint.request _ given).Asks _ :=
    asks_request (c := .scan content kind contentId) rfl fun input hinput => by
      obtain rfl := Option.some.inj hinput
      exact ⟨by simp [given], fun _ hfield => hfield, fun _ hfield => .inl hfield⟩
  have hlength := Nat.lt_of_le_of_lt hlong (length_lt_scan_body content)
  have hcall := step_call_of_ok (run_scan_of_empty hkeywords content kind contentId)
  refine ⟨_, _, rfl, hasks, hcall, ?_⟩
  have hrespond : respond _ f.systemId f.now f.store = (.bodyTooLarge, f.store) :=
    respond_of_long (c := .scan content kind contentId) rfl (List.forall_mem_singleton.mpr hid)
      hasks rfl hlength
  unfold step
  dsimp only
  rw [hrespond]

/-- On a forum with no content, the letter a 2,097,152 times over: the scan finds nothing, and the
request for it is not answered with its result. -/
theorem long_scan_not_mirrored :
    let f := fresh (some 1) ⟨1748779200, 0⟩ true
    let c : Call := .scan (String.ofList (List.replicate 2097152 'a')) .idea 1
    ∃ e r, c.endpoint? = some e ∧ (∀ n ∈ c.numbers, isWord n = true) ∧ r.Asks e ∧
      (f.step (.call c)).1 = .answer (.flags []) ∧
      (f.step (.request r)).1 = .response .bodyTooLarge ∧ ¬ f.Mirrors r c := by
  intro f c
  have hlong : bodyLimit ≤ (String.ofList (List.replicate 2097152 'a')).length := by
    rw [String.length_ofList, List.length_replicate]
    exact Nat.le_refl _
  have hid : isWord 1 = true := by decide
  obtain ⟨e, r, he, hr, hcall, hrequest⟩ := long_scan_refused (f := f) rfl hlong .idea hid
  refine ⟨e, r, he, by decide, hr, congrArg Prod.fst hcall, congrArg Prod.fst hrequest, ?_⟩
  intro hmirrors
  have hanswer := hmirrors.answer _ (congrArg Prod.fst hcall)
  rw [hrequest] at hanswer
  cases hanswer

end Session

end CivicForum
