import Spawny.FallbackGreeter.Main

/-! # sp-fallback-greeter/main.c: the end of the input

None of the readers of `login` and `listsessions` is asked whether the input has ended. A word or a
piece of a line that was read last is then looked at again, for ever, or an array is looked at that
nothing was written to.

* `action_returns`: the loop over the actions ends, at the end of the input at the latest;
* `user_returns_iff`, `template_returns_iff`, `session_returns_iff`: when the other loops end;
* `prompt_run_returns_iff`: **when `prompt_run` returns.** -/

namespace Spawny.FallbackGreeter.EndOfInput

open Spawny.Client.Read Spawny.Lib.Loops Spawny.Lib.Stdio Spawny.Lib.Words
open Spawny.FallbackGreeter.Main
open Spawny.UserDb.Records (Str ascii)

variable {ctx : Context} {getpass : Str → Str × Str} {write : ℕ → Bool}

/-! ### The actions -/

/-- The action that is asked for, and what is left: the characters are looked at one by one, and
the one behind each of them is passed over. -/
def asked : Str → Action × Str
  | [] => (.failed, [])
  | c :: input =>
    if c = 255 then (.failed, input)
    else if c = newline then (.login, input)
    else if c = 'l'.toUInt8 then (.login, input.tail)
    else if c = 's'.toUInt8 then (.listsessions, input.tail)
    else asked input.tail
  termination_by input => input.length
  decreasing_by
    rw [List.length_tail, List.length_cons]
    omega

/-- **The loop over the actions ends.** -/
theorem action_returns (c : UInt8) (w : World) :
    ∃ output, Returns (loop actionRound (c, w))
      ((asked w.input).1, ⟨(asked w.input).2, output, w.calls⟩) := by
  obtain ⟨input, output, calls⟩ := w
  induction input using asked.induct generalizing c output with
  | case1 =>
    rw [asked]
    exact ⟨_, (returns_of_done rfl).mpr rfl⟩
  | case2 input =>
    rw [asked, if_pos rfl]
    exact ⟨_, (returns_of_done rfl).mpr rfl⟩
  | case3 input h255 =>
    rw [asked, if_neg h255, if_pos rfl]
    exact ⟨_, (returns_of_done rfl).mpr rfl⟩
  | case4 input h255 hnl =>
    rw [asked, if_neg h255, if_neg hnl, if_pos rfl]
    exact ⟨_, (returns_of_done rfl).mpr rfl⟩
  | case5 input h255 hnl hl =>
    rw [asked, if_neg h255, if_neg hnl, if_neg hl, if_pos rfl]
    exact ⟨_, (returns_of_done rfl).mpr rfl⟩
  | case6 c' input h255 hnl hl hs ih =>
    obtain ⟨output', hreturns⟩ := ih c' (output ++ if c = 0 then [] else [.invalidInput c])
    have hround : actionRound (c, ⟨c' :: input, output, calls⟩) = some (.inl
        (c', ⟨input.tail, output ++ if c = 0 then [] else [.invalidInput c], calls⟩)) := by
      simp only [actionRound, World.print, World.rest]
      rw [if_neg h255, if_neg hnl, if_neg hl, if_neg hs]
    refine ⟨output', (returns_of_next hround).mpr ?_⟩
    rw [asked, if_neg h255, if_neg hnl, if_neg hl, if_neg hs]
    exact hreturns

/-! ### The name -/

/-- The words in front of this one are no user's name, and this one is; all of them fit. -/
def Names (ctx : Context) (input : Str) (user : User) (username rest : Str) : Prop :=
  Reaches (fun v : Str × Str => v.1.length < LOGIN_NAME_MAX ∧
      ctx.users.find? (isName (cstring v.1)) = none)
    (fun _ v _ => v.1.length < LOGIN_NAME_MAX ∧
      ctx.users.find? (isName (cstring v.1)) = some user ∧ cstring v.1 = username ∧ v.2 = rest)
    (typedWords input)

section Word

variable {input word rest : Str}

theorem typedWords_of_scan (hscan : scanWord input = some (word, rest)) :
    typedWords input = (word, rest) :: typedWords rest :=
  wordTails_of_some hscan

theorem not_names_of_long (hscan : scanWord input = some (word, rest))
    (hlong : ¬ word.length < LOGIN_NAME_MAX) (user : User) (username after : Str) :
    ¬ Names ctx input user username after := by
  intro hnames
  rw [Names, typedWords_of_scan hscan, reaches_cons] at hnames
  rcases hnames with ⟨hfits, -⟩ | ⟨⟨hfits, -⟩, -⟩ <;> exact hlong hfits

theorem names_of_unknown (hscan : scanWord input = some (word, rest))
    (hfits : word.length < LOGIN_NAME_MAX)
    (hfind : ctx.users.find? (isName (cstring word)) = none) (user : User)
    (username after : Str) :
    Names ctx input user username after ↔ Names ctx rest user username after := by
  rw [Names, Names, typedWords_of_scan hscan, reaches_cons]
  constructor
  · rintro (⟨-, hsome, -⟩ | ⟨-, hnames⟩)
    · exact absurd (hfind.symm.trans hsome) (by simp)
    · exact hnames
  · exact fun hnames => Or.inr ⟨⟨hfits, hfind⟩, hnames⟩

theorem names_of_found (hscan : scanWord input = some (word, rest))
    (hfits : word.length < LOGIN_NAME_MAX) {user : User}
    (hfind : ctx.users.find? (isName (cstring word)) = some user) (user' : User)
    (username after : Str) :
    Names ctx input user' username after ↔ user = user' ∧ cstring word = username ∧ rest = after := by
  rw [Names, typedWords_of_scan hscan, reaches_cons]
  constructor
  · rintro (⟨-, hsome, hname, hrest⟩ | ⟨⟨-, hnone⟩, -⟩)
    · exact ⟨Option.some.inj (hfind.symm.trans hsome), hname, hrest⟩
    · exact absurd (hfind.symm.trans hnone) (by simp)
  · rintro ⟨rfl, hname, hrest⟩
    exact Or.inl ⟨hfits, hfind, hname, hrest⟩

end Word

/-- What is in the array is no user's name. -/
def NoUser (ctx : Context) (username : Option Str) : Prop :=
  ∀ name, username = some name → ctx.users.find? (isName name) = none

theorem findUser_noUser {username : Option Str} (h : NoUser ctx username) (w : World) :
    findUser ctx username w = none ∨ findUser ctx username w = some (.inl (username, w)) := by
  rcases username with _ | name
  · rw [findUser]
    split_ifs
    · exact Or.inr rfl
    · exact Or.inl rfl
  · rw [findUser, h name rfl]
    exact Or.inr rfl

/-- **The loop over the names** ends with a name that was typed, or not at all. -/
theorem user_returns_iff {username : Option Str} (h : NoUser ctx username) (w : World)
    (e : Entered) :
    Returns (loop (userRound ctx) (username, w)) e ↔
      ∃ rest, e.world = w.rest rest ∧ Names ctx w.input e.user e.username rest := by
  obtain ⟨input, output, calls⟩ := w
  induction hn : input.length using Nat.strong_induction_on generalizing input username with
  | _ n ih =>
    subst hn
    rcases hscan : scanWord input with _ | ⟨word, rest⟩
    · -- the end of the input
      have hwords : typedWords input = [] := wordTails_of_none hscan
      refine iff_of_false ?_ ?_
      · refine not_returns_of_invariant
          (I := fun s => NoUser ctx s.1 ∧ scanWord s.2.input = none) ?_ ⟨h, hscan⟩ e
        rintro ⟨username, w⟩ ⟨hno, hend⟩
        have hround : userRound ctx (username, w) = findUser ctx username (w.rest []) := by
          simp only [userRound]
          rw [hend]
        rcases findUser_noUser hno (w.rest []) with hnone | hnext
        · exact Or.inl (hround.trans hnone)
        · exact Or.inr ⟨_, hround.trans hnext, hno, rfl⟩
      · rintro ⟨rest, -, hnames⟩
        rw [Names, hwords] at hnames
        exact not_reaches_nil hnames
    · have hshorter : rest.length < input.length := length_lt_of_nextWord hscan
      have hround : userRound ctx (username, ⟨input, output, calls⟩) =
          if word.length < LOGIN_NAME_MAX then
            findUser ctx (some (cstring word)) ⟨rest, output, calls⟩
          else none := by
        simp only [userRound, hscan, World.rest]
      by_cases hfits : word.length < LOGIN_NAME_MAX
      · rw [if_pos hfits, findUser] at hround
        rcases hfind : ctx.users.find? (isName (cstring word)) with _ | user
        · -- the next word
          have hno : NoUser ctx (some (cstring word)) := by
            rintro name heq
            rw [← Option.some.inj heq]
            exact hfind
          rw [hfind] at hround
          rw [returns_of_next hround, ih _ hshorter hno rest rfl]
          exact exists_congr fun after => and_congr_right fun _ =>
            (names_of_unknown hscan hfits hfind _ _ after).symm
        · rw [hfind] at hround
          rw [returns_of_done hround]
          simp only [names_of_found hscan hfits hfind]
          constructor
          · rintro rfl
            exact ⟨rest, rfl, rfl, rfl, rfl⟩
          · obtain ⟨user', username', world⟩ := e
            rintro ⟨after, rfl, rfl, rfl, rfl⟩
            rfl
      · -- the word does not fit
        rw [if_neg hfits] at hround
        refine iff_of_false (not_returns_of_undefined hround e) ?_
        rintro ⟨after, -, hnames⟩
        exact not_names_of_long hscan hfits _ _ after hnames

/-! ### The template -/

/-- The texts that `fgets` leaves in an array for a number. -/
def typedTexts (input : Str) : List Str := (pieces (MAX_INTEGER_SIZE - 1) input).map cstring

theorem typedTexts_nil : typedTexts [] = [] := by
  rw [typedTexts, pieces_nil]
  rfl

theorem typedTexts_of_ne {input : Str} (h : input ≠ []) :
    typedTexts input = cstring (splitLine (MAX_INTEGER_SIZE - 1) input).1 ::
      typedTexts (splitLine (MAX_INTEGER_SIZE - 1) input).2 := by
  rw [typedTexts, pieces_of_ne (by decide) h]
  rfl

section Template

variable {user : User} {default : Template} {username password : Str}

/-- The number that is taken is in range. -/
def InRange (user : User) (default : Template) (text : Str) : Prop :=
  ∀ temp, choose user default text = .take temp → IsInt temp

/-- The text chooses a template of the list. -/
def Chooses (ctx : Context) (user : User) (default : Template) (text : Str) : Prop :=
  ∃ temp, choose user default text = .take temp ∧ IsInt temp ∧
    (idAt ctx.privateTemplates (temp - 1)).isSome = true

/-- The number of calls for a text. -/
def attempts (user : User) (default : Template) (text : Str) : ℕ :=
  match choose user default text with
  | .take _ => 1
  | _ => 0

/-- A text chooses a template and the message with it is written; the numbers in front of it are in
range. The last text is looked at again and again. -/
def TemplateTaken (ctx : Context) (write : ℕ → Bool) (user : User) (default : Template) (k : ℕ)
    (texts : List Str) : Prop :=
  Reaches (InRange user default) (fun before text after => Chooses ctx user default text ∧
    ∃ j, (after = [] ∨ j = 0) ∧ write (k + (before.map (attempts user default)).sum + j) = true)
    texts

theorem Chooses.inRange {text : Str} (h : Chooses ctx user default text) :
    InRange user default text := by
  obtain ⟨temp, htemp, hint, -⟩ := h
  intro temp' htemp'
  obtain rfl := Choice.take.inj (htemp.symm.trans htemp')
  exact hint

theorem Chooses.attempts {text : Str} (h : Chooses ctx user default text) :
    attempts user default text = 1 := by
  obtain ⟨temp, htemp, -, -⟩ := h
  rw [EndOfInput.attempts, htemp]

/-- A text that is no number and no default. -/
theorem of_not_taken (ctx : Context) {text : Str}
    (h : ∀ temp, choose user default text ≠ .take temp) :
    InRange user default text ∧ ¬ Chooses ctx user default text ∧
      attempts user default text = 0 := by
  refine ⟨fun temp htemp => absurd htemp (h temp), ?_, ?_⟩
  · rintro ⟨temp, htemp, -⟩
    exact h temp htemp
  · unfold EndOfInput.attempts
    split
    · next temp htemp => exact absurd htemp (h temp)
    · rfl

/-- **What is made of a text.** -/
theorem templateChosen_cases (ctx : Context) (write : ℕ → Bool) (user : User) (default : Template)
    (username password text : Str) (w : World) :
    (¬ InRange user default text ∧
      templateChosen ctx write user default username password text w = none) ∨
    (Chooses ctx user default text ∧ write w.calls.length = true ∧
      ∃ w', templateChosen ctx write user default username password text w = some (.inr w')) ∨
    (InRange user default text ∧ ¬ (Chooses ctx user default text ∧ write w.calls.length = true) ∧
      ∃ w', templateChosen ctx write user default username password text w =
          some (.inl (some text, w')) ∧
        w'.input = w.input ∧ w'.calls.length = w.calls.length + attempts user default text) := by
  rcases hchoose : choose user default text with _ | temp | _
  · have hnot : ∀ temp, choose user default text ≠ .take temp :=
      fun temp h => absurd (hchoose.symm.trans h) (by simp)
    obtain ⟨hrange, hno, hcount⟩ := of_not_taken ctx hnot
    rw [templateChosen, hchoose, hcount]
    exact Or.inr (Or.inr ⟨hrange, fun h => hno h.1, _, rfl, rfl, rfl⟩)
  · by_cases hint : IsInt temp
    · have hrange : InRange user default text := by
        intro temp' h
        obtain rfl := Choice.take.inj (hchoose.symm.trans h)
        exact hint
      have hround : templateChosen ctx write user default username password text w =
          some (if ((idAt ctx.privateTemplates (temp - 1)).isSome && write w.calls.length) = true
            then .inr (w.call (.login username password (temp - 1)
              (idAt ctx.privateTemplates (temp - 1))))
            else .inl (some text, w.call (.login username password (temp - 1)
              (idAt ctx.privateTemplates (temp - 1))))) := by
        rw [templateChosen, hchoose]
        exact if_pos hint
      by_cases hsent : ((idAt ctx.privateTemplates (temp - 1)).isSome &&
          write w.calls.length) = true
      · rw [if_pos hsent] at hround
        rw [Bool.and_eq_true] at hsent
        exact Or.inr (Or.inl ⟨⟨temp, hchoose, hint, hsent.1⟩, hsent.2, _, hround⟩)
      · rw [if_neg hsent] at hround
        refine Or.inr (Or.inr ⟨hrange, ?_, _, hround, rfl, ?_⟩)
        · rintro ⟨⟨temp', h, -, hid⟩, hwrite⟩
          obtain rfl := Choice.take.inj (hchoose.symm.trans h)
          exact hsent (by rw [hid, hwrite]; rfl)
        · rw [attempts, hchoose]
          exact List.length_append
    · refine Or.inl ⟨fun h => hint (h temp hchoose), ?_⟩
      rw [templateChosen, hchoose]
      exact if_neg hint
  · have hnot : ∀ temp, choose user default text ≠ .take temp :=
      fun temp h => absurd (hchoose.symm.trans h) (by simp)
    obtain ⟨hrange, hno, hcount⟩ := of_not_taken ctx hnot
    rw [templateChosen, hchoose, hcount]
    exact Or.inr (Or.inr ⟨hrange, fun h => hno h.1, _, rfl, rfl, rfl⟩)

/-- **At the end of the input** the last text is taken until a message is written. -/
theorem again_returns_iff (text : Str) {w : World} (hend : w.input = []) :
    (∃ r, Returns (loop (templateRound ctx write user default username password)
      (some text, w)) r) ↔
      Chooses ctx user default text ∧ ∃ j, write (w.calls.length + j) = true := by
  have hround : ∀ w : World, w.input = [] →
      templateRound ctx write user default username password (some text, w) =
        templateChosen ctx write user default username password text
          (w.print [.templatePrompt (announced user default)]) :=
    fun w hw => templateRound_end (some text) hw
  constructor
  · rintro ⟨r, hr⟩
    by_contra hno
    refine not_returns_of_invariant (I := fun s => s.1 = some text ∧ s.2.input = [] ∧
      w.calls.length ≤ s.2.calls.length) ?_ ⟨rfl, hend, Nat.le_refl _⟩ r hr
    rintro ⟨_, w'⟩ ⟨rfl, hend', hle⟩
    rw [hround w' hend']
    rcases templateChosen_cases ctx write user default username password text
      (w'.print [.templatePrompt (announced user default)]) with
      ⟨-, hnone⟩ | ⟨hchooses, hwrite, -⟩ | ⟨-, -, w'', hnext, hinput, hcalls⟩
    · exact Or.inl hnone
    · refine absurd ⟨hchooses, w'.calls.length - w.calls.length, ?_⟩ hno
      rw [Nat.add_sub_cancel' hle]
      exact hwrite
    · refine Or.inr ⟨_, hnext, rfl, hinput.trans hend', ?_⟩
      have hprint : (w'.print [.templatePrompt (announced user default)]).calls = w'.calls := rfl
      rw [hprint] at hcalls
      exact hle.trans (by rw [hcalls]; exact Nat.le_add_right _ _)
  · rintro ⟨hchooses, j, hwrite⟩
    induction j generalizing w with
    | zero =>
      rcases templateChosen_cases ctx write user default username password text
        (w.print [.templatePrompt (announced user default)]) with
        ⟨hout, -⟩ | ⟨-, -, w', hdone⟩ | ⟨-, hno, -⟩
      · exact absurd hchooses.inRange hout
      · exact ⟨w', (returns_of_done ((hround w hend).trans hdone)).mpr rfl⟩
      · exact absurd ⟨hchooses, hwrite⟩ hno
    | succ j ih =>
      rcases templateChosen_cases ctx write user default username password text
        (w.print [.templatePrompt (announced user default)]) with
        ⟨hout, -⟩ | ⟨-, -, w', hdone⟩ | ⟨-, -, w', hnext, hinput, hcalls⟩
      · exact absurd hchooses.inRange hout
      · exact ⟨w', (returns_of_done ((hround w hend).trans hdone)).mpr rfl⟩
      · obtain ⟨r, hr⟩ := ih (hinput.trans hend) (by
          rw [hcalls, hchooses.attempts, Nat.add_right_comm]
          exact hwrite)
        exact ⟨r, (returns_of_next ((hround w hend).trans hnext)).mpr hr⟩

theorem templateTaken_cons {k : ℕ} {text : Str} {texts : List Str} :
    TemplateTaken ctx write user default k (text :: texts) ↔
      (Chooses ctx user default text ∧ ∃ j, (texts = [] ∨ j = 0) ∧ write (k + j) = true) ∨
      InRange user default text ∧
        TemplateTaken ctx write user default (k + attempts user default text) texts := by
  simp only [TemplateTaken, reaches_cons, List.map_nil, List.sum_nil, Nat.zero_add, List.map_cons,
    List.sum_cons, Nat.add_assoc]

/-- **The loop over the templates** ends when a message is written, or not at all. -/
theorem template_returns_iff (username password : Str) (template : Option Str) (w : World) :
    (∃ r, Returns (loop (templateRound ctx write user default username password)
      (template, w)) r) ↔
      TemplateTaken ctx write user default w.calls.length (typedTexts w.input) ∨
      w.input = [] ∧ ∃ text, template = some text ∧ Chooses ctx user default text ∧
        ∃ j, write (w.calls.length + j) = true := by
  induction hn : w.input.length using Nat.strong_induction_on generalizing template w with
  | _ n ih =>
    subst hn
    by_cases hend : w.input = []
    · rw [hend, typedTexts_nil]
      rcases template with _ | text
      · have hround : templateRound ctx write user default username password (none, w) = none :=
          templateRound_end none hend
        refine iff_of_false (fun ⟨r, hr⟩ => not_returns_of_undefined hround r hr) ?_
        rintro (htaken | ⟨-, text, htext, -⟩)
        · exact not_reaches_nil htaken
        · exact absurd htext (by simp)
      · rw [again_returns_iff text hend]
        constructor
        · exact fun h => Or.inr ⟨rfl, text, rfl, h⟩
        · rintro (htaken | ⟨-, text', htext, h⟩)
          · exact absurd htaken not_reaches_nil
          · obtain rfl := Option.some.inj htext
            exact h
    · -- the next piece
      have hround : templateRound ctx write user default username password (template, w) = _ :=
        templateRound_piece template hend
      have hshorter := splitLine_lt (n := MAX_INTEGER_SIZE - 1) (by decide) hend
      rw [typedTexts_of_ne hend, templateTaken_cons]
      generalize cstring (splitLine (MAX_INTEGER_SIZE - 1) w.input).1 = text at hround
      generalize (splitLine (MAX_INTEGER_SIZE - 1) w.input).2 = rest at hround hshorter
      rcases templateChosen_cases ctx write user default username password text
        ((w.print [.templatePrompt (announced user default)]).rest rest) with
        ⟨hout, hnone⟩ | ⟨hchooses, hwrite, w', hdone⟩ | ⟨hrange, hno, w', hnext, hinput, hcalls⟩
      · refine iff_of_false
          (fun ⟨r, hr⟩ => not_returns_of_undefined (hround.trans hnone) r hr) ?_
        rintro ((⟨hchooses, -⟩ | ⟨hrange, -⟩) | ⟨hnil, -⟩)
        · exact hout hchooses.inRange
        · exact hout hrange
        · exact hend hnil
      · exact iff_of_true ⟨w', (returns_of_done (hround.trans hdone)).mpr rfl⟩
          (Or.inl (Or.inl ⟨hchooses, 0, Or.inr rfl, hwrite⟩))
      · have hlen : w'.calls.length = w.calls.length + attempts user default text := hcalls
        have hrest : w'.input = rest := hinput
        simp only [returns_of_next (hround.trans hnext)]
        rw [ih _ hshorter (some text) w' (by rw [hrest]), hrest, hlen]
        constructor
        · rintro (htaken | ⟨rfl, text', htext, hchooses, j, hwrite⟩)
          · exact Or.inl (Or.inr ⟨hrange, htaken⟩)
          · obtain rfl := Option.some.inj htext
            rw [hchooses.attempts, Nat.add_assoc] at hwrite
            exact Or.inl (Or.inl ⟨hchooses, 1 + j, Or.inl typedTexts_nil, hwrite⟩)
        · rintro ((⟨hchooses, j, hlast, hwrite⟩ | ⟨-, htaken⟩) | ⟨hnil, -⟩)
          · rcases j with _ | j
            · exact absurd ⟨hchooses, hwrite⟩ hno
            · have hnil : rest = [] := by
                by_contra hne
                rw [typedTexts_of_ne hne] at hlast
                exact absurd hlast (by simp)
              refine Or.inr ⟨hnil, text, rfl, hchooses, j, ?_⟩
              rw [hchooses.attempts, Nat.add_right_comm]
              exact hwrite
          · exact Or.inl htaken
          · exact absurd hnil hend

end Template

/-! ### The session -/

/-- A text chooses a session and the message with it is written; none of the texts up to it is
empty. -/
def SessionTaken (ctx : Context) (write : ℕ → Bool) (k : ℕ) (texts : List Str) : Prop :=
  Reaches (fun text => text ≠ [])
    (fun before text _ => text ≠ [] ∧
      (idAt ctx.privateSessions (atoi text.dropLast - 1)).isSome = true ∧
      write (k + before.length) = true) texts

/-- **The loop over the sessions** ends when a message is written, or not at all. -/
theorem session_returns_iff (w : World) :
    (∃ r, Returns (loop (sessionRound ctx write) w) r) ↔
      SessionTaken ctx write w.calls.length (typedTexts w.input) := by
  induction hn : w.input.length using Nat.strong_induction_on generalizing w with
  | _ n ih =>
    subst hn
    by_cases hend : w.input = []
    · rw [hend, typedTexts_nil]
      exact iff_of_false
        (fun ⟨r, hr⟩ => not_returns_of_undefined (sessionRound_end hend) r hr) not_reaches_nil
    · have hshorter := splitLine_lt (n := MAX_INTEGER_SIZE - 1) (by decide) hend
      rw [typedTexts_of_ne hend, SessionTaken, reaches_cons]
      rcases hsplit : splitLine (MAX_INTEGER_SIZE - 1) w.input with ⟨line, rest⟩
      have hround := sessionRound_piece ctx write hend hsplit
      rw [hsplit] at hshorter
      by_cases hempty : cstring line = []
      · -- a piece that begins with a NUL
        rw [if_pos hempty] at hround
        refine iff_of_false (fun ⟨r, hr⟩ => not_returns_of_undefined hround r hr) ?_
        rintro (⟨hne, -⟩ | ⟨hne, -⟩) <;> exact hne hempty
      · rw [if_neg hempty] at hround
        dsimp only [spClientSessionActivate, World.rest] at hround
        generalize hid : idAt ctx.privateSessions (atoi (cstring line).dropLast - 1) = id at hround
        by_cases hsent : (id.isSome && write w.calls.length) = true
        · rw [if_pos hsent] at hround
          rw [Bool.and_eq_true] at hsent
          exact iff_of_true ⟨_, (returns_of_done hround).mpr rfl⟩
            (Or.inl ⟨hempty, hsent.1, hsent.2⟩)
        · rw [if_neg hsent] at hround
          simp only [returns_of_next hround]
          rw [ih _ hshorter _ rfl]
          have hlen : (World.call ⟨rest, w.output, w.calls⟩ (.sessionActivate
              (atoi (cstring line).dropLast - 1) id)).calls.length = w.calls.length + 1 :=
            List.length_append
          rw [hlen, SessionTaken]
          simp only [List.length_cons, Nat.add_assoc, Nat.add_comm 1]
          constructor
          · exact fun h => Or.inr ⟨hempty, h⟩
          · rintro (⟨-, hsome', hwrite⟩ | ⟨-, h⟩)
            · exact absurd (Bool.and_eq_true_iff.mpr ⟨hsome', hwrite⟩) hsent
            · exact h

/-! ### prompt_run -/

/-- **What the input has to contain.** -/
def Ends (ctx : Context) (getpass : Str → Str × Str) (write : ℕ → Bool) (k : ℕ) (input : Str) :
    Prop :=
  match asked input with
  | (.failed, _) => True
  | (.login, input) => ∃ user username rest default, Names ctx input user username rest ∧
      ctx.templates[user.preferedSession]? = some default ∧
      TemplateTaken ctx write user default k (typedTexts (getpass rest).2.tail)
  | (.listsessions, input) => SessionTaken ctx write k (typedTexts input)

theorem stable_switch (e : Entered) : Stable fun fuel =>
    match ctx.templates[e.user.preferedSession]? with
    | none => none
    | some default => loop (templateRound ctx write e.user default e.username
        (getpass e.world.input).1) (none, e.world.rest (getpass e.world.input).2.tail) fuel := by
  split
  · exact stable_const none
  · exact stable_loop _

theorem stable_login (w : World) : Stable (login ctx getpass write w) :=
  (stable_loop _).bind stable_switch

theorem login_returns_iff (w : World) :
    (∃ r, Returns (login ctx getpass write w) r) ↔
      ∃ user username rest default, Names ctx w.input user username rest ∧
        ctx.templates[user.preferedSession]? = some default ∧
        TemplateTaken ctx write user default w.calls.length
          (typedTexts (getpass rest).2.tail) := by
  have hbind : ∀ r, Returns (login ctx getpass write w) r ↔ ∃ e,
      Returns (loop (userRound ctx) (none, w)) e ∧ ∃ default,
        ctx.templates[e.user.preferedSession]? = some default ∧
        Returns (loop (templateRound ctx write e.user default e.username
          (getpass e.world.input).1) (none, e.world.rest (getpass e.world.input).2.tail)) r := by
    intro r
    refine (returns_bind (stable_loop _) stable_switch).trans
      (exists_congr fun e => and_congr_right fun _ => ?_)
    rcases hget : ctx.templates[e.user.preferedSession]? with _ | default
    · refine iff_of_false (fun h => absurd (returns_const.mp h) (by simp)) ?_
      rintro ⟨default, hdefault, -⟩
      exact absurd hdefault (by simp)
    · constructor
      · exact fun h => ⟨default, rfl, h⟩
      · rintro ⟨default', hdefault, h⟩
        obtain rfl := Option.some.inj hdefault
        exact h
  have hno : NoUser ctx none := fun name h => absurd h (by simp)
  simp only [hbind, user_returns_iff hno]
  constructor
  · rintro ⟨r, e, ⟨rest, hworld, hnames⟩, default, hdefault, hr⟩
    rw [hworld] at hr
    rcases (template_returns_iff _ _ _ _).mp ⟨r, hr⟩ with htaken | ⟨-, text, htext, -⟩
    · exact ⟨e.user, e.username, rest, default, hnames, hdefault, htaken⟩
    · exact absurd htext (by simp)
  · rintro ⟨user, username, rest, default, hnames, hdefault, htaken⟩
    obtain ⟨r, hr⟩ := (template_returns_iff username (getpass rest).1 none
      ((w.rest rest).rest (getpass rest).2.tail)).mpr (Or.inl htaken)
    exact ⟨r, ⟨user, username, w.rest rest⟩, ⟨rest, rfl, hnames⟩, default, hdefault, hr⟩

/-- What `prompt_run` does behind its loop decides. -/
theorem exists_perform (ctx : Context) (getpass : Str → Str × Str) (write : ℕ → Bool)
    (w : World) : ∃ output, (∃ r, Returns (promptRun ctx getpass write w) r) ↔
      ∃ r, Returns (perform ctx getpass write
        ((asked w.input).1, ⟨(asked w.input).2, output, w.calls⟩)) r := by
  obtain ⟨output, haction⟩ := action_returns 0 w
  have hstable : ∀ a, Stable (perform ctx getpass write a) := by
    rintro ⟨action, w⟩
    cases action with
    | failed => exact stable_const _
    | login => exact (stable_login w).map _
    | listsessions => exact (stable_loop _).map _
  refine ⟨output, exists_congr fun r => (returns_bind (stable_loop _) hstable).trans ?_⟩
  constructor
  · rintro ⟨a, ha, hr⟩
    obtain rfl := (stable_loop _).unique ha haction
    exact hr
  · exact fun hr => ⟨_, haction, hr⟩

/-- **`prompt_run` returns** if and only if the input ends before an action is chosen, or what it
contains behind it is enough. -/
theorem prompt_run_returns_iff (ctx : Context) (getpass : Str → Str × Str) (write : ℕ → Bool)
    (w : World) :
    (∃ r, Returns (promptRun ctx getpass write w) r) ↔
      Ends ctx getpass write w.calls.length w.input := by
  obtain ⟨output, hperform⟩ := exists_perform ctx getpass write w
  rw [hperform, Ends]
  rcases asked w.input with ⟨_ | _ | _, input⟩
  · exact iff_of_true ⟨_, returns_const.mpr rfl⟩ trivial
  · exact exists_returns_map.trans (login_returns_iff _)
  · exact exists_returns_map.trans (session_returns_iff _)

/-- One user and one template. -/
def oneUser : Context := ⟨[], [], [⟨0, "", "gnome"⟩], ["gnome"], [⟨0, "", "eve", 0⟩]⟩

/-- The input ends behind a name that is not known: the loop over the names does not end. -/
theorem hangup_behind_name :
    ¬ ∃ r, Returns (promptRun oneUser (fun input => ([], input)) (fun _ => true)
      ⟨ascii "\nfoo", [], []⟩) r := by
  obtain ⟨output, hperform⟩ := exists_perform oneUser (fun input => ([], input)) (fun _ => true)
    ⟨ascii "\nfoo", [], []⟩
  have hasked : asked (ascii "\nfoo") = (.login, ascii "foo") := by
    rw [show ascii "\nfoo" = newline :: ascii "foo" by decide, asked]
    rfl
  rw [hperform, hasked]
  refine fun h => absurd ((login_returns_iff _).mp (exists_returns_map.mp h)) ?_
  rintro ⟨user, username, rest, default, hnames, -⟩
  have hwords : typedWords (ascii "foo") = [(ascii "foo", [])] := by
    have hfirst : scanWord (ascii "foo") = some (ascii "foo", []) := by decide
    have hsecond : scanWord [] = none := by decide
    exact (wordTails_of_some hfirst).trans (by rw [wordTails_of_none hsecond])
  rw [Names, hwords, reaches_cons] at hnames
  rcases hnames with ⟨-, hfind, -⟩ | ⟨-, hnil⟩
  · have hnone : oneUser.users.find? (isName (cstring (ascii "foo"))) = none := by decide
    exact absurd (hnone.symm.trans hfind) (by simp)
  · exact not_reaches_nil hnil

end Spawny.FallbackGreeter.EndOfInput
