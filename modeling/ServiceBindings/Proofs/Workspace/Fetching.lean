import ServiceBindings.Workspace.Web

/-! # What a client of the web does not expect

What the client that asks a web does not expect is a location that is no address, or comes from one of the
replies: it has a header that cannot be sent, lacks a byte order mark, or redirects to what is no address
(`exists_replyInterrupt_of_client`). This holds whatever encodings the client has. -/

namespace ServiceBindings

variable {e : WebEncodings} {web : Web} {follow : Bool} {u : Url} {reply : WebReply} {fault : WebFault}

/-- What the program does not expect of a reply from an address. -/
inductive ReplyInterrupt (e : WebEncodings) (u : Url) (reply : WebReply) : WebFault → Prop
  /-- A header cannot be sent. -/
  | unsendable (h : reply.isSendable = false) : ReplyInterrupt e u reply .unsendable
  /-- The text of a success lacks the byte order mark that it needs. -/
  | unordered (hsuccess : reply.isSuccess = true) (h : reply.text? e = none) :
      ReplyInterrupt e u reply .unordered
  /-- The reply redirects to what is no address. -/
  | nowhere {location : String} {reference : Url} (hlocation : reply.redirection? = some location)
      (hreference : Url.ofText? e location = some reference) (h : u.redirected? e reference = none) :
      ReplyInterrupt e u reply (.nowhere location)

/-! ## One request -/

/-- A request is answered by no connection, or by the reply under its address. -/
theorem answer_cases (web : Web) (u : Url) :
    (∃ reason, web.answer u = .error (.noConnection reason)) ∨
      ∃ reply, web.answers.lookup u.text = some (.ok reply) ∧
        (reply.isSendable = false ∧ web.answer u = .error .unsendable ∨
          web.answer u = .error .notCompressed ∨ web.answer u = .ok reply) := by
  unfold Web.answer
  split
  · exact .inl ⟨_, rfl⟩
  · exact .inl ⟨_, rfl⟩
  · next reply hreply =>
      refine .inr ⟨reply, hreply, ?_⟩
      split
      · next hsendable => exact .inl ⟨by simpa using hsendable, rfl⟩
      · split
        · exact .inr (.inl rfl)
        · exact .inr (.inr rfl)

/-- What is not reported of the answer to a request is not expected of the reply. -/
theorem replyInterrupt_of_answer (h : web.answer u = .error fault) (hfault : fault.isReported = false) :
    ∃ reply, web.answers.lookup u.text = some (.ok reply) ∧ ReplyInterrupt e u reply fault := by
  rcases answer_cases web u with ⟨reason, hanswer⟩ | ⟨reply, hreply, ⟨hsendable, hanswer⟩ | hanswer | hanswer⟩
  all_goals cases hanswer.symm.trans h
  · cases hfault
  · exact ⟨reply, hreply, .unsendable hsendable⟩
  · cases hfault

/-- An answer that is a reply is the one under the address. -/
theorem lookup_of_answer (h : web.answer u = .ok reply) : web.answers.lookup u.text = some (.ok reply) := by
  rcases answer_cases web u with ⟨_, hanswer⟩ | ⟨found, hfound, ⟨_, hanswer⟩ | hanswer | hanswer⟩
  all_goals cases hanswer.symm.trans h
  exact hfound

/-- What is not reported of the last reply is not expected of it. -/
theorem replyInterrupt_of_result (h : Web.result e reply = .error fault) (hfault : fault.isReported = false) :
    ReplyInterrupt e u reply fault := by
  unfold Web.result at h
  split at h
  · cases h
    cases hfault
  · next hsuccess =>
      split at h
      · cases h
      · next htext =>
          cases h
          exact .unordered (by simpa using hsuccess) htext

/-- What is not reported of a redirection is not expected of the reply. -/
theorem replyInterrupt_of_next (h : Web.next? e u reply = .error fault) (hfault : fault.isReported = false) :
    ReplyInterrupt e u reply fault := by
  unfold Web.next? at h
  split at h
  · cases h
  · next location hlocation =>
      split at h
      · cases h
        cases hfault
      · next reference hreference =>
          split at h
          · next hnowhere =>
              cases h
              exact .nowhere hlocation hreference hnowhere
          · cases h

/-! ## Redirections -/

/-- A request fails with its answer, with where its reply leads, with its reply, or with what follows. -/
theorem fetchFrom_eq_error_cases {limit : Nat} (h : (web.fetchFrom e follow limit u).2 = .error fault) :
    web.answer u = .error fault ∨
      ∃ reply, web.answer u = .ok reply ∧ (Web.next? e u reply = .error fault ∨
        Web.result e reply = .error fault ∨ fault = .tooManyRedirections ∨
        ∃ next rest, limit = rest + 1 ∧ (web.fetchFrom e follow rest next).2 = .error fault) := by
  rw [Web.fetchFrom.eq_def] at h
  cases hanswer : web.answer u with
  | error fault' =>
      simp only [hanswer] at h
      exact Or.inl (congrArg Except.error (Except.error.inj h))
  | ok reply =>
      refine Or.inr ⟨reply, rfl, ?_⟩
      simp only [hanswer] at h
      split at h
      · next hnext =>
          obtain rfl := Except.error.inj h
          exact Or.inl hnext
      · exact Or.inr (Or.inl h)
      · next next hnext =>
          split at h
          · exact Or.inr (Or.inl h)
          · refine Or.inr (Or.inr ?_)
            cases limit with
            | zero => exact Or.inl (Except.error.inj h).symm
            | succ rest => exact Or.inr ⟨next, rest, rfl, h⟩

/-- **A fault of the web that is not reported** comes from a reply that the program does not expect. -/
theorem exists_replyInterrupt_of_fetchFrom {limit : Nat}
    (h : (web.fetchFrom e follow limit u).2 = .error fault) (hfault : fault.isReported = false) :
    ∃ u' reply, web.answers.lookup u'.text = some (.ok reply) ∧ ReplyInterrupt e u' reply fault := by
  -- each redirection that is followed lowers the limit
  induction limit using Nat.strongRecOn generalizing u with
  | _ limit ih =>
      rcases fetchFrom_eq_error_cases h with hanswer | ⟨reply, hanswer, hreply⟩
      · exact ⟨u, replyInterrupt_of_answer hanswer hfault⟩
      · have hlookup := lookup_of_answer hanswer
        rcases hreply with hnext | hresult | rfl | ⟨next, rest, rfl, hrest⟩
        · exact ⟨u, reply, hlookup, replyInterrupt_of_next hnext hfault⟩
        · exact ⟨u, reply, hlookup, replyInterrupt_of_result hresult hfault⟩
        · cases hfault
        · exact ih rest (Nat.lt_succ_self rest) hrest

/-- **What the client that asks a web does not expect** is a location that is no address, or comes from a
reply. -/
theorem exists_replyInterrupt_of_client {location : String}
    (h : (web.client e follow location).2 = .error fault) (hfault : fault.isReported = false) :
    Url.ofRequest? e location = none ∧ fault = .nowhere location ∨
      ∃ u reply, web.answers.lookup u.text = some (.ok reply) ∧ ReplyInterrupt e u reply fault := by
  unfold Web.client at h
  split at h
  · next hnone =>
      cases h
      exact .inl ⟨hnone, rfl⟩
  · exact .inr (exists_replyInterrupt_of_fetchFrom h hfault)

end ServiceBindings
