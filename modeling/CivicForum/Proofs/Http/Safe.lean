import CivicForum.Proofs.Session

/-! # Requests that write nothing

* `Http.Resource.isQuery_of_call?`: whoever reads a resource asks a query.
* `Http.respond_ok_or_kept`: a request is answered with success, or it leaves the store as it was.
* `Session.only_answered_posts_write`: nothing but a `POST` request that is answered with success
  changes anything.
-/

set_option autoImplicit false

namespace CivicForum

namespace Http

variable {systemId : Int} {now : Instant} {s : Store}

/-! ## Reading -/

/-- The handler of a resource that can be read takes no body and asks a query. -/
theorem Resource.plain_of_read {resource : Resource} {h : Handler}
    (hallows : resource.allows .read = true) (hh : resource.handler? .read = some h) :
    ∃ c present, h = .plain c present ∧ c.IsQuery := by
  cases resource with
  | trust id | ban id | admission id | penaltiesOf id | activePenalty id | nextPenalty id
  | appealsOf id | penalty id | appeal id =>
    obtain ⟨id, -, hplain⟩ := Option.bind_eq_some_iff.mp hh
    exact ⟨_, _, (Option.some.inj hplain).symm, trivial⟩
  | weight kind id =>
    obtain ⟨kind, -, hid⟩ := Option.bind_eq_some_iff.mp hh
    obtain ⟨id, -, hplain⟩ := Option.bind_eq_some_iff.mp hid
    exact ⟨_, _, (Option.some.inj hplain).symm, trivial⟩
  | pendingAppeals | watchlist => exact ⟨_, _, (Option.some.inj hh).symm, trivial⟩
  | index => cases hh
  | _ => cases hallows

theorem Resource.isQuery_of_call? {resource : Resource} {r : Request} {c : Call}
    (hc : resource.call? .read r = some c) : c.IsQuery := by
  unfold Resource.call? at hc
  split at hc
  · next hallows =>
    obtain ⟨h, hh, hcall⟩ := Option.bind_eq_some_iff.mp hc
    obtain ⟨c', present, rfl, hquery⟩ := plain_of_read hallows hh
    obtain rfl : c' = c := Option.some.inj hcall
    exact hquery
  · cases hc

theorem Request.isQuery_of_call? {r : Request} {c : Call} (hmethod : r.method ≠ "POST")
    (hc : r.call? = some c) : c.IsQuery := by
  obtain ⟨resource, -, hread⟩ := Option.bind_eq_some_iff.mp hc
  obtain ⟨a, ha, hcall⟩ := Option.bind_eq_some_iff.mp hread
  obtain ⟨-, haccess⟩ | ⟨hpost, -⟩ | ⟨-, haccess⟩ | ⟨-, haccess⟩ := r.access?_cases
  · obtain rfl := Option.some.inj (haccess.symm.trans ha)
    exact Resource.isQuery_of_call? hcall
  · exact absurd hpost hmethod
  · obtain rfl := Option.some.inj (haccess.symm.trans ha)
    exact Resource.isQuery_of_call? hcall
  · rw [haccess] at ha
    cases ha

/-! ## Requests that are not answered with success -/

theorem perform_ok_or_kept (c : Call) (present : Answer → Json) :
    (perform c present systemId now s).1.status = 200 ∨
      (perform c present systemId now s).2 = s := by
  unfold perform
  rcases hrun : c.run systemId now s with ⟨e | ans, t⟩
  · exact .inr (Work.store_of_commit_error hrun)
  · exact .inl rfl

theorem serve_ok_or_kept (h : Handler) (r : Request) :
    (serve h r systemId now s).1.status = 200 ∨ (serve h r systemId now s).2 = s := by
  unfold serve
  dsimp only
  split
  · exact .inr rfl
  · split
    · exact perform_ok_or_kept _ h.present
    · exact .inr rfl

theorem access_ok_or_kept (resource : Resource) (a : Access) (r : Request) :
    (access resource a r systemId now s).1.status = 200 ∨
      (access resource a r systemId now s).2 = s := by
  unfold access
  split
  · split
    · exact .inr rfl
    · split
      · exact serve_ok_or_kept _ r
      · exact .inr rfl
  · exact .inr rfl

theorem respond_ok_or_kept (r : Request) :
    (respond r systemId now s).1.status = 200 ∨ (respond r systemId now s).2 = s := by
  unfold respond
  split
  · exact .inr rfl
  · next resource hresource =>
    split
    · exact access_ok_or_kept resource .read r
    · exact access_ok_or_kept resource .write r
    · exact access_ok_or_kept resource .read r
    · exact .inr rfl

/-- Whoever does not write, or is not answered with success, leaves the store as it was. -/
theorem respond_kept {r : Request}
    (h : r.method ≠ "POST" ∨ (respond r systemId now s).1.status ≠ 200) :
    (respond r systemId now s).2 = s := by
  rcases h with hmethod | hstatus
  · rw [respond_store]
    rcases hc : r.call? with - | c
    · rfl
    · exact Call.run_store_of_isQuery (Request.isQuery_of_call? hmethod hc) systemId
  · rcases respond_ok_or_kept r with hok | hkept
    · exact absurd hok hstatus
    · exact hkept

end Http

namespace Session

variable {f : Session} {r : Http.Request}

theorem step_request (f : Session) (r : Http.Request) :
    f.step (.request r) = (.response (Http.respond r f.systemId f.now f.store).1,
      { f with store := (Http.respond r f.systemId f.now f.store).2 }) := rfl

theorem step_request_kept
    (h : r.method ≠ "POST" ∨ (Http.respond r f.systemId f.now f.store).1.status ≠ 200) :
    (f.step (.request r)).2 = f := by
  rw [step_request, Http.respond_kept h]

/-- Every request is answered, whatever bytes it consists of. Unless its method is `POST` and it is
answered with success, the forum stays as it was, down to the identifiers that come next. -/
theorem only_answered_posts_write (f : Session) (r : Http.Request) :
    ∃ response, (f.step (.request r)).1 = .response response ∧
      (r.method ≠ "POST" ∨ response.status ≠ 200 → (f.step (.request r)).2 = f) :=
  ⟨_, rfl, step_request_kept⟩

/-- A comment is counted for its author and taken back, since the score that goes with it cannot be
computed: nobody knows when the author registered. -/
theorem failed_post_writes_nothing :
    let f := (fresh (some 1) ⟨1748779200, 0⟩ true).after
      [.write (.createUser { username := "undated", createdAt := some "long ago" })]
    let r : Http.Request :=
      { method := "POST", target := "/v1/moderation/users/2/events/comment_approved" }
    (∃ response, (f.step (.request r)).1 = .response response ∧ response.status = 500) ∧
      (f.step (.request r)).2 = f := by
  intro f r
  have hstatus : (Http.respond r f.systemId f.now f.store).1.status = 500 := by decide +kernel
  obtain ⟨response, hresponse, hkept⟩ := only_answered_posts_write f r
  obtain rfl : (Http.respond r f.systemId f.now f.store).1 = response :=
    Outcome.response.inj hresponse
  exact ⟨⟨_, hresponse, hstatus⟩, hkept (.inr (by rw [hstatus]; decide))⟩

end Session

end CivicForum
