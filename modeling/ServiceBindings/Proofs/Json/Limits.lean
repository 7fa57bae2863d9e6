import ServiceBindings.Json.Reader

/-! # Reading JSON text within limits

An interpreter reads a JSON text token by token and stops at the first fault. **Up to its limits it reads what
the text writes** (`Json.load_cases`): the value that it comes to is that of the tokens, and a text that it finds
malformed writes no value. -/

namespace ServiceBindings

namespace Json

variable {depth : Nat} {surrogates : SurrogateBlock} {progress next : Progress} {cs : List Char} {taken : Nat}
  {fault : Fault} {done : List Token}

/-- The value that is complete once tokens have been read. -/
def Progress.result? (progress : Progress) (tokens : List Token) : Option Value :=
  (tokens.foldlM Progress.step progress).bind Progress.value?

/-- The value after a token is that after the step which it makes, if it makes one. -/
theorem Progress.result?_cons (progress : Progress) (token : Token) (tokens : List Token) :
    progress.result? (token :: tokens) = (progress.step token).bind fun next => next.result? tokens := by
  rw [result?, List.foldlM_cons]
  cases progress.step token <;> rfl

/-- A token that is accepted makes a step. -/
theorem exists_step_of_accept (h : accept depth surrogates progress cs = .ok (next, taken)) :
    ∃ token, scanToken surrogates cs = some (token, taken) ∧ progress.step token = some next := by
  unfold accept at h
  split at h
  · cases h
  · next token count hscan =>
      split at h
      · cases h
      · next after hstep =>
          extract_lets digits at h
          split at h
          · cases h
          · split at h
            · cases h
            · cases h
              exact ⟨token, hscan, hstep⟩

/-- Where a text is found malformed there is no token, or one that may not come. -/
theorem of_accept_eq_malformed (h : accept depth surrogates progress cs = .error .malformed) :
    scanToken surrogates cs = none ∨
      ∃ token taken, scanToken surrogates cs = some (token, taken) ∧ progress.step token = none := by
  unfold accept at h
  split at h
  · next hscan => exact .inl hscan
  · next token count hscan =>
      split at h
      · next hstep => exact .inr ⟨token, count, hscan, hstep⟩
      · extract_lets digits at h
        split at h
        · cases h
        · split at h
          · cases h
          · cases h

/-- **Reading on gives what the rest of the text writes.** -/
theorem loadFrom_eq_ok {skip : Nat} {v : Value} (h : loadFrom depth surrogates progress skip cs = .ok v)
    (done : List Token) : ∃ tokens, tokensAfter? surrogates done skip cs = some (done.reverse ++ tokens) ∧
      progress.result? tokens = some v := by
  induction cs generalizing progress skip done with
  | nil =>
      unfold loadFrom at h
      split at h
      · next heq =>
          cases h
          exact ⟨[], by rw [tokensAfter?, List.append_nil], heq⟩
      · cases h
  | cons c rest ih =>
      cases skip with
      | succ skip => exact ih h done
      | zero =>
          unfold loadFrom at h
          rw [tokensAfter?]
          split at h
          · next hspace =>
              rw [if_pos hspace]
              exact ih h done
          · next hspace =>
              rw [if_neg hspace]
              split at h
              · cases h
              · next next taken haccept =>
                  obtain ⟨token, hscan, hstep⟩ := exists_step_of_accept haccept
                  obtain ⟨tokens, htokens, hresult⟩ := ih h (token :: done)
                  refine ⟨token :: tokens, ?_, ?_⟩
                  · rw [hscan]
                    dsimp only
                    rw [htokens, List.reverse_cons, List.append_assoc, List.singleton_append]
                  · rw [Progress.result?_cons, hstep]
                    exact hresult

/-- Tokens that are read stand behind those that were read before. -/
theorem exists_of_tokensAfter? {skip : Nat} {tokens : List Token}
    (h : tokensAfter? surrogates done skip cs = some tokens) : ∃ rest, tokens = done.reverse ++ rest := by
  induction cs generalizing skip done with
  | nil =>
      rw [tokensAfter?] at h
      cases h
      exact ⟨[], (List.append_nil _).symm⟩
  | cons c rest ih =>
      cases skip with
      | succ skip => exact ih h
      | zero =>
          rw [tokensAfter?] at h
          split at h
          · exact ih h
          · split at h
            · next token taken hscan =>
                obtain ⟨others, rfl⟩ := ih h
                exact ⟨token :: others, by rw [List.reverse_cons, List.append_assoc, List.singleton_append]⟩
            · cases h

/-- **A text that is found malformed writes nothing.** -/
theorem loadFrom_eq_malformed {skip : Nat} {tokens : List Token}
    (h : loadFrom depth surrogates progress skip cs = .error .malformed)
    (htokens : tokensAfter? surrogates done skip cs = some (done.reverse ++ tokens)) :
    progress.result? tokens = none := by
  induction cs generalizing progress skip done tokens with
  | nil =>
      unfold loadFrom at h
      rw [tokensAfter?] at htokens
      obtain rfl : tokens = [] := by simpa using htokens
      split at h
      · cases h
      · next hopen => exact hopen
  | cons c rest ih =>
      cases skip with
      | succ skip => exact ih h htokens
      | zero =>
          unfold loadFrom at h
          rw [tokensAfter?] at htokens
          split at h
          · next hspace =>
              rw [if_pos hspace] at htokens
              exact ih h htokens
          · next hspace =>
              rw [if_neg hspace] at htokens
              split at htokens
              · next token taken hscan =>
                  -- the token that comes next is the first of those behind the ones before
                  obtain ⟨others, hothers⟩ := exists_of_tokensAfter? htokens
                  obtain rfl : tokens = token :: others := by simpa using hothers
                  rw [hothers] at htokens
                  rw [Progress.result?_cons]
                  split at h
                  · next fault haccept =>
                      cases h
                      rcases of_accept_eq_malformed haccept with hnone | ⟨token', taken', hscan', hstep⟩
                      · rw [hnone] at hscan
                        cases hscan
                      · cases hscan.symm.trans hscan'
                        rw [hstep]
                        rfl
                  · next next count haccept =>
                      obtain ⟨token', hscan', hstep⟩ := exists_step_of_accept haccept
                      cases hscan.symm.trans hscan'
                      rw [hstep]
                      exact ih h htokens
              · cases htokens

/-- **Up to its limits an interpreter reads what a JSON text writes**, and nothing where it writes nothing. -/
theorem load_cases (depth : Nat) (text : String) :
    (∃ v, load depth .standard text = .ok v ∧ read? text = some v) ∨
    (load depth .standard text = .error .malformed ∧ read? text = none) ∨
    ∃ fault, load depth .standard text = .error fault ∧ fault.isReported = false := by
  have hread : read? text = (tokens? .standard text).bind (Progress.value []).result? := rfl
  cases hload : load depth .standard text with
  | ok v =>
      obtain ⟨tokens, htokens, hresult⟩ := loadFrom_eq_ok hload []
      refine .inl ⟨v, rfl, ?_⟩
      rw [hread, tokens?, htokens]
      exact hresult
  | error fault =>
      right
      cases fault with
      | malformed =>
          refine .inl ⟨rfl, ?_⟩
          rw [hread]
          cases htokens : tokens? .standard text with
          | none => rfl
          | some tokens =>
              have hafter : tokensAfter? .standard [] 0 text.toList = some ([].reverse ++ tokens) := htokens
              exact loadFrom_eq_malformed hload hafter
      | tooManyDigits count => exact .inr ⟨_, rfl, rfl⟩
      | tooDeep => exact .inr ⟨_, rfl, rfl⟩

end Json

end ServiceBindings
