import Spawny.Daemon.Conversation

/-! # The array of responses in a PAM conversation

`_pam_conv` and the `_conversation` of the self test allocate an array of responses, store its address
at `rp`, and write the response to message `i` through `rp[i]`. At `rp` there is one pointer, so
`rp[i]` is a pointer for `i = 0` only, and what it points to is the first response. The two functions
differ in what they do with a message (`Visit`).

* `converse_one`, `converse_more`: a conversation with one message, and with more;
* `pamConv_eq`: the model of `_pam_conv` without the memory comes to the same;
* `responses_iff`: **when the responses are right**. -/

namespace Spawny.Daemon.PamResponses

open Spawny.Daemon.Loop Spawny.Daemon.Conversation

/-! ### Memory -/

/-- `struct pam_response`. -/
structure PamResponse where
  respRetcode : ℕ
  resp : Option String
  deriving DecidableEq, Repr

/-- A pointer of the caller: `NULL`, or to the array. -/
inductive Pointer
  | null
  | array
  deriving DecidableEq, Repr

/-- The pointers from `rp` on, the array, and which element was touched for which message. -/
structure Memory where
  rp : List Pointer
  responses : List PamResponse
  touched : List (ℕ × ℕ)
  deriving DecidableEq, Repr

/-- What keeps a call from returning: undefined behaviour, or `abort`. -/
inductive Failure
  | undefined
  | aborted
  deriving DecidableEq, Repr

/-- `rp[i]->` is written: the first element of the array that `rp[i]` points to. -/
def Memory.write (i : ℕ) (f : PamResponse → PamResponse) (mem : Memory) : Except Failure Memory :=
  if mem.rp[i]? = some .array ∧ 0 < mem.responses.length then
    .ok { mem with responses := mem.responses.modify 0 f, touched := mem.touched ++ [(i, 0)] }
  else .error .undefined

/-! ### The two functions -/

/-- What is done with a message: the value for `resp` if it is assigned, and the state behind it. -/
abbrev Visit (σ : Type) := σ → PamMessage → Except Failure (Option (Option String) × σ)

variable {σ : Type}

/-- One round of the loop. -/
def visitMessage (visit : Visit σ) (i : ℕ) (m : PamMessage) (mem : Memory) (s : σ) :
    Except Failure (Memory × σ) := do
  let mem ← mem.write i fun r => { r with respRetcode := 0 }
  let (resp, s) ← visit s m
  match resp with
  | none => .ok (mem, s)
  | some resp =>
    let mem ← mem.write i fun r => { r with resp := resp }
    .ok (mem, s)

def visitMessages (visit : Visit σ) : ℕ → List PamMessage → Memory → σ →
    Except Failure (Memory × σ)
  | _, [], mem, s => .ok (mem, s)
  | i, m :: msgs, mem, s => do
    let (mem, s) ← visitMessage visit i m mem s
    visitMessages visit (i + 1) msgs mem s

/-- The array is allocated, and its address is stored. -/
def allocated (msgs : List PamMessage) (rp : Pointer) : Memory :=
  ⟨[rp].set 0 .array, List.replicate msgs.length ⟨0, none⟩, []⟩

/-- A conversation callback. -/
def converse (visit : Visit σ) (s : σ) (msgs : List PamMessage) : Except Failure (Memory × σ) :=
  visitMessages visit 0 msgs (allocated msgs .null) s

/-- The `switch` of `_pam_conv`; the state is what was written to the pipe. -/
def pamVisit (pw : Option String) : Visit (List ServiceMessage) := fun out m =>
  match m.style with
  | .promptEchoOn => .ok (none, out)
  | .promptEchoOff => .ok (some pw, out)
  | .errorMsg => .ok (none, out ++ [.errorExit m.msg])
  | .textInfo => .ok (none, out ++ [.errorExit m.msg])
  | .other => .ok (none, out)

/-- `_pam_conv`. -/
def pamConv (pw : Option String) (msgs : List PamMessage) :
    Except Failure (Memory × List ServiceMessage) := converse (pamVisit pw) [] msgs

/-- `Pam_Config`. -/
structure PamConfig where
  user : Option String
  password : Option String
  autologin : Bool
  deriving DecidableEq, Repr

/-- The `switch` of `_conversation`; `prompt` is what `_prompt` reads. -/
def selftestVisit (prompt : String → Bool → String) : Visit PamConfig := fun c m =>
  match m.style with
  | .promptEchoOn =>
    let user := c.user.getD (prompt m.msg true)
    .ok (some (some user), { c with user := some user })
  | .promptEchoOff =>
    if c.autologin then .error .aborted
    else
      let password := c.password.getD (prompt m.msg false)
      .ok (some (some password), { c with password := some password })
  | .textInfo => .ok (none, c)
  | .errorMsg => .ok (none, c)
  | .other => .ok (none, c)

/-- `_conversation` of the self test. -/
def selftestConversation (prompt : String → Bool → String) (c : PamConfig)
    (msgs : List PamMessage) : Except Failure (Memory × PamConfig) :=
  converse (selftestVisit prompt) c msgs

/-! ### Conversations by their length -/

/-- The memory behind a conversation with one message. -/
def single (resp : Option (Option String)) : Memory :=
  ⟨[.array], [⟨0, resp.getD none⟩], (0, 0) :: (resp.map fun _ => (0, 0)).toList⟩

theorem converse_one (visit : Visit σ) (s : σ) (m : PamMessage) :
    converse visit s [m] = (visit s m).map fun r => (single r.1, r.2) := by
  unfold converse visitMessages visitMessage
  rcases hvisit : visit s m with e | ⟨_ | resp, s'⟩
  · simp [allocated, Memory.write, bind, Except.bind, Except.map]
  · simp [allocated, Memory.write, bind, Except.bind, Except.map, visitMessages, single]
  · simp [allocated, Memory.write, bind, Except.bind, Except.map, visitMessages, single]

/-- **The second message** has no pointer. -/
theorem converse_more (visit : Visit σ) (s : σ) (m m' : PamMessage) (msgs : List PamMessage) :
    converse visit s (m :: m' :: msgs) = (visit s m).bind fun _ => .error .undefined := by
  unfold converse visitMessages visitMessage
  rcases hvisit : visit s m with e | ⟨_ | resp, s'⟩
  · simp [allocated, Memory.write, bind, Except.bind]
  · simp [allocated, Memory.write, bind, Except.bind, visitMessages, visitMessage]
  · simp [allocated, Memory.write, bind, Except.bind, visitMessages, visitMessage]

/-- **The model without memory** has the same responses, and is undefined where this one is. -/
theorem pamConv_eq (pw : Option String) (msgs : List PamMessage) :
    (pamConv pw msgs).toOption.map (fun r => (r.1.responses.map PamResponse.resp, r.2)) =
      Conversation.pamConv pw msgs := by
  unfold pamConv Conversation.pamConv
  rcases msgs with _ | ⟨⟨style, text⟩, _ | ⟨m', msgs⟩⟩
  · rfl
  · rw [converse_one]
    cases style <;> rfl
  · rw [converse_more]
    cases style <;> rfl

/-! ### What the callbacks have to do -/

/-- For each message nothing but its own element is touched. -/
def Own (mem : Memory) : Prop := ∀ p ∈ mem.touched, p.2 = p.1

/-- The response to a message: a copy of the password, if one is asked for and was given. -/
def pamResponse (pw : Option String) (m : PamMessage) : PamResponse :=
  ⟨0, if m.style = .promptEchoOff then pw else none⟩

/-- **`_pam_conv` is right**: it returns, the responses are those to the messages, and each of them was
written in its place. -/
def PamRight (pw : Option String) (msgs : List PamMessage) : Prop :=
  ∃ mem out, pamConv pw msgs = .ok (mem, out) ∧ mem.responses = msgs.map (pamResponse pw) ∧ Own mem

/-- The messages that the self test answers. -/
def PamMessage.isPrompt (m : PamMessage) : Bool := m.style = .promptEchoOn ∨ m.style = .promptEchoOff

/-- **`_conversation` treats its array right**, if it returns. -/
def SelftestRight (prompt : String → Bool → String) (c : PamConfig) (msgs : List PamMessage) : Prop :=
  selftestConversation prompt c msgs ≠ .error .undefined ∧
    ∀ mem c', selftestConversation prompt c msgs = .ok (mem, c') →
      mem.responses.map (fun r => r.resp.isSome) = msgs.map PamMessage.isPrompt ∧ Own mem

/-- The self test gives up at the first message: a password is asked for, and there is none to be. -/
def GivesUp (c : PamConfig) (msgs : List PamMessage) : Prop :=
  c.autologin = true ∧ ∃ m ∈ msgs.head?, m.style = .promptEchoOff

theorem own_single (resp : Option (Option String)) : Own (single resp) := by
  rcases resp with _ | resp <;> simp [Own, single]

theorem pamRight_iff (pw : Option String) (msgs : List PamMessage) :
    PamRight pw msgs ↔ msgs.length ≤ 1 := by
  unfold PamRight pamConv
  rcases msgs with _ | ⟨m, _ | ⟨m', msgs⟩⟩
  · refine iff_of_true ⟨allocated [] .null, [], rfl, rfl, ?_⟩ (Nat.zero_le 1)
    simp [Own, allocated]
  · refine iff_of_true ?_ (le_refl 1)
    rw [converse_one, pamVisit]
    have hright : ∀ (resp : Option (Option String)) (out : List ServiceMessage),
        resp.getD none = (if m.style = .promptEchoOff then pw else none) →
          ∃ mem out', (Except.ok (resp, out) : Except Failure _).map
              (fun r => (single r.1, r.2)) = .ok (mem, out') ∧
            mem.responses = [m].map (pamResponse pw) ∧ Own mem := by
      intro resp out hresp
      refine ⟨single resp, out, rfl, ?_, own_single resp⟩
      rw [single, hresp]
      rfl
    cases hm : m.style <;> exact hright _ _ (by simp [hm])
  · refine iff_of_false ?_ (by simp)
    rintro ⟨mem, out, hok, -⟩
    rw [converse_more, pamVisit] at hok
    cases hm : m.style <;> rw [hm] at hok <;> cases hok

theorem selftestVisit_cases (prompt : String → Bool → String) (c : PamConfig) (m : PamMessage)
    (msgs : List PamMessage) :
    (GivesUp c (m :: msgs) ∧ selftestVisit prompt c m = .error .aborted) ∨
      (¬GivesUp c (m :: msgs) ∧ ∃ r, selftestVisit prompt c m = .ok r) := by
  have hgives : GivesUp c (m :: msgs) ↔ c.autologin = true ∧ m.style = .promptEchoOff := by
    simp [GivesUp]
  rw [hgives]
  unfold selftestVisit
  cases hm : m.style with
  | promptEchoOff =>
    dsimp only
    split_ifs with hauto
    · exact Or.inl ⟨⟨hauto, rfl⟩, rfl⟩
    · exact Or.inr ⟨fun h => hauto h.1, _, rfl⟩
  | promptEchoOn => exact Or.inr ⟨by simp, _, rfl⟩
  | errorMsg => exact Or.inr ⟨by simp, _, rfl⟩
  | textInfo => exact Or.inr ⟨by simp, _, rfl⟩
  | other => exact Or.inr ⟨by simp, _, rfl⟩

theorem selftestRight_iff (prompt : String → Bool → String) (c : PamConfig) (msgs : List PamMessage) :
    SelftestRight prompt c msgs ↔ msgs.length ≤ 1 ∨ GivesUp c msgs := by
  unfold SelftestRight selftestConversation
  rcases msgs with _ | ⟨m, _ | ⟨m', msgs⟩⟩
  · refine iff_of_true ⟨by rintro ⟨⟩, fun mem c' h => ?_⟩ (Or.inl (Nat.zero_le 1))
    obtain ⟨rfl, -⟩ := Prod.mk.inj (Except.ok.inj h)
    exact ⟨rfl, by simp [Own, allocated]⟩
  · refine iff_of_true ?_ (Or.inl (le_refl 1))
    rw [converse_one]
    have hright : ∀ (resp : Option (Option String)) (c' : PamConfig),
        (resp.getD none).isSome = PamMessage.isPrompt m →
          (Except.ok (resp, c') : Except Failure _).map (fun r => (single r.1, r.2)) ≠
              .error .undefined ∧
            ∀ mem c'', (Except.ok (resp, c') : Except Failure _).map
              (fun r => (single r.1, r.2)) = .ok (mem, c'') →
                mem.responses.map (fun r => r.resp.isSome) = [m].map PamMessage.isPrompt ∧
                  Own mem := by
      intro resp c' hresp
      refine ⟨by rintro ⟨⟩, fun mem c'' h => ?_⟩
      obtain ⟨rfl, -⟩ := Prod.mk.inj (Except.ok.inj h)
      refine ⟨?_, own_single resp⟩
      rw [single, List.map_singleton, List.map_singleton, hresp]
    have hprompt : PamMessage.isPrompt m =
        decide (m.style = .promptEchoOn ∨ m.style = .promptEchoOff) := rfl
    unfold selftestVisit
    cases hm : m.style with
    | promptEchoOff =>
      dsimp only
      split_ifs
      · exact ⟨by rintro ⟨⟩, by rintro _ _ ⟨⟩⟩
      · exact hright _ _ (by rw [hprompt, hm]; rfl)
    | promptEchoOn => exact hright _ _ (by rw [hprompt, hm]; rfl)
    | errorMsg => exact hright _ _ (by rw [hprompt, hm]; rfl)
    | textInfo => exact hright _ _ (by rw [hprompt, hm]; rfl)
    | other => exact hright _ _ (by rw [hprompt, hm]; rfl)
  · rw [converse_more]
    rcases selftestVisit_cases prompt c m (m' :: msgs) with ⟨hgives, hvisit⟩ | ⟨hgives, r, hvisit⟩
    · rw [hvisit]
      exact iff_of_true ⟨by rintro ⟨⟩, by rintro _ _ ⟨⟩⟩ (Or.inr hgives)
    · rw [hvisit]
      refine iff_of_false (fun h => h.1 rfl) ?_
      rintro (hlen | h)
      · simp at hlen
      · exact hgives h

/-- **When the responses are right**: in `_pam_conv` if there is one message at most, in the self test
also if it gives up at the first. -/
theorem responses_iff (pw : Option String) (prompt : String → Bool → String) (c : PamConfig)
    (msgs : List PamMessage) :
    (PamRight pw msgs ↔ msgs.length ≤ 1) ∧
      (SelftestRight prompt c msgs ↔ msgs.length ≤ 1 ∨ GivesUp c msgs) :=
  ⟨pamRight_iff pw msgs, selftestRight_iff prompt c msgs⟩

/-- **Two messages in one call**: what a module asks for a new password, say. -/
theorem two_messages :
    pamConv (some "secret") [⟨.promptEchoOff, "Password: "⟩, ⟨.promptEchoOff, "Again: "⟩] =
        .error .undefined ∧
      ¬PamRight (some "secret") [⟨.promptEchoOff, "Password: "⟩, ⟨.promptEchoOff, "Again: "⟩] := by
  have hundefined : pamConv (some "secret") [⟨.promptEchoOff, "Password: "⟩,
      ⟨.promptEchoOff, "Again: "⟩] = .error .undefined := rfl
  refine ⟨hundefined, ?_⟩
  rintro ⟨mem, out, hok, -⟩
  rw [hundefined] at hok
  cases hok

end Spawny.Daemon.PamResponses
