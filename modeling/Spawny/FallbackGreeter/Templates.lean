import Spawny.FallbackGreeter.Main

/-! # sp-fallback-greeter/main.c: the template that is sent

`login` announces a default from the preferred session 1 on, and takes an empty line for it from 2
on. The number of the list is one more than the index, and a line is read in pieces of ten
characters.

* `nextEvent_numeral`: what is called for a numeral of any length;
* `templateRound_empty`: and what is done for an empty line;
* `sends_shown_iff`: **when the template that is sent is the one that was shown.** -/

namespace Spawny.FallbackGreeter.Templates

open Spawny.Client Spawny.Client.Read Spawny.Lib.Loops Spawny.Lib.Stdio Spawny.Protocol.Messages
open Spawny.FallbackGreeter.Main
open Spawny.UserDb.Records (Str ascii)

/-- The calls so far, in the loop over the templates. -/
def callsOf : (Option Str × World) ⊕ World → List Call
  | .inl s => s.2.calls
  | .inr w => w.calls

/-- The line is a numeral of `n`. -/
def IsNumeral (line : Str) (n : ℕ) : Prop :=
  line ≠ [] ∧ (∀ c ∈ line, isDigit c = true) ∧ number line = n

/-- Wherever the loop over the templates is, if `line` is typed, the next call is a login with the
template `i`, which has this name. -/
def LogsInWith (d : Data) (user : Read.User) (line : Str) (i : ℕ) (name : String) : Prop :=
  ∃ t, d.templates[i]? = some t ∧ t.name = name ∧
    ∀ default, (dataConvert d).templates[user.preferedSession]? = some default →
      ∀ write username password template (w : World) rest,
        NextEvent (templateRound (dataConvert d) write user default username password) callsOf
          (template, w.rest (line ++ newline :: rest)) (.login username password i (some t.id))

/-- **The template that was shown for a typed line is the one that is sent.** -/
structure SendsShown (d : Data) (user : Read.User) (line : Str) : Prop where
  inside : user.preferedSession < (dataConvert d).templates.length
  listed : ∀ n : ℕ, ∀ name, ((n : ℤ), name) ∈ listTemplates (dataConvert d) → IsNumeral line n →
    LogsInWith d user line (n - 1) name
  empty : ∀ default name, (dataConvert d).templates[user.preferedSession]? = some default →
    announced user default = some name → line = [] →
    LogsInWith d user line user.preferedSession name

/-- A numeral without its leading zeros. -/
def significant (line : Str) : Str := line.dropWhile (· = 48)

/-- The digits of a numeral are in one piece, but for leading zeros that fill pieces. -/
def InOnePiece (line : Str) : Prop :=
  (line.length - (significant line).length) % 10 + (significant line).length ≤ 10

instance (line : Str) : Decidable (InOnePiece line) := by
  unfold InOnePiece
  infer_instance

/-! ### One round -/

section Rounds

variable {ctx : Context} {write : ℕ → Bool} {user : Read.User} {default : Template}
  {username password : Str}

theorem callsOf_ite (success : Bool) (text : Str) (w : World) :
    callsOf (if success then .inr w else .inl (some text, w)) = w.calls := by
  cases success <;> rfl

/-- A round calls nothing, or it logs in with an index of the range of `int`. -/
theorem templateChosen_calls {text : Str} {w : World} {x : (Option Str × World) ⊕ World}
    (h : templateChosen ctx write user default username password text w = some x) :
    callsOf x = w.calls ∨ ∃ temp, IsInt temp ∧ callsOf x = w.calls ++
      [.login username password (temp - 1) (idAt ctx.privateTemplates (temp - 1))] := by
  unfold templateChosen at h
  split at h
  · left
    rw [← Option.some.inj h]
    rfl
  · next temp _ =>
    split_ifs at h with hint
    refine Or.inr ⟨temp, hint, ?_⟩
    rw [← Option.some.inj h]
    exact callsOf_ite _ _ _
  · left
    rw [← Option.some.inj h]
    rfl

/-- **Behind `INT_MAX - 1` there is no index.** -/
theorem index_lt_of_nextEvent {s : Option Str × World} {usr pw : Str} {i : ℤ} {id : Option String}
    (h : NextEvent (templateRound ctx write user default username password) callsOf s
      (.login usr pw i id)) : i < 2 ^ 31 - 1 := by
  generalize he : Call.login usr pw i id = e at h
  induction h with
  | @now s x e es hx hcalls =>
    obtain ⟨template, w⟩ := s
    subst he
    have hcase : callsOf x = w.calls ∨ ∃ temp, IsInt temp ∧ callsOf x = w.calls ++
        [.login username password (temp - 1) (idAt ctx.privateTemplates (temp - 1))] := by
      simp only [templateRound] at hx
      split at hx
      · obtain ⟨text, -, hx⟩ := Option.bind_eq_some_iff.mp hx
        have hc := templateChosen_calls hx
        exact hc
      · have hc := templateChosen_calls hx
        exact hc
    rcases hcase with hsame | ⟨temp, hint, hlogin⟩
    · rw [hsame] at hcalls
      exact absurd hcalls (by simp [callsOf])
    · rw [hlogin] at hcalls
      have heq := List.append_cancel_left hcalls
      have hi := (Call.login.inj (List.cons.inj heq).1).2.2.1
      have hlt := hint.2
      omega
  | later _ _ _ ih => exact ih he

variable (ctx write user default username password)

/-- The round for a line, or for its first piece. -/
theorem templateRound_line {line : Str} (rest : Str) (hline : newline ∉ line)
    (template : Option Str) (w : World) :
    templateRound ctx write user default username password
        (template, w.rest (line ++ newline :: rest)) =
      if line.length < 10 then
        templateChosen ctx write user default username password (cstring (line ++ [newline]))
          ((w.print [.templatePrompt (announced user default)]).rest rest)
      else
        templateChosen ctx write user default username password (cstring (line.take 10))
          ((w.print [.templatePrompt (announced user default)]).rest
            (line.drop 10 ++ newline :: rest)) := by
  have hne : (w.rest (line ++ newline :: rest)).input ≠ [] := by simp [World.rest]
  have hsplit : splitLine (MAX_INTEGER_SIZE - 1) (w.rest (line ++ newline :: rest)).input =
      if line.length < 10 then (line ++ [newline], rest)
      else (line.take 10, line.drop 10 ++ newline :: rest) := splitLine_line hline rest
  rw [templateRound_piece template hne, hsplit]
  split_ifs <;> rfl

theorem cstring_of_ne {s : Str} (h : ∀ c ∈ s, c ≠ 0) : cstring s = s := by
  rw [cstring, List.takeWhile_eq_self_iff]
  simpa using h

theorem ne_of_isDigit {c : UInt8} (h : isDigit c = true) :
    c ≠ 0 ∧ c ≠ newline ∧ c ≠ 'l'.toUInt8 := by
  refine ⟨?_, ?_, ?_⟩ <;> rintro rfl <;> exact absurd h (by decide)

variable {user default} in
/-- The text of a piece with digits only. -/
theorem choose_digits {ds tail : Str} (hne : ds ≠ []) (hds : ∀ c ∈ ds, isDigit c = true)
    (htail : tail = [] ∨ tail = [newline]) (hsize : number ds < 2 ^ 31) :
    choose user default (cstring (ds ++ tail)) =
      if number ds = 0 then .unknown else .take (number ds) := by
  have hnul : cstring (ds ++ tail) = ds ++ tail := by
    refine cstring_of_ne fun c hc => ?_
    rcases List.mem_append.mp hc with hc | hc
    · exact (ne_of_isDigit (hds c hc)).1
    · rcases htail with rfl | rfl
      · exact absurd hc List.not_mem_nil
      · rw [List.mem_singleton.mp hc]
        decide
  have hnum : atoi (ds ++ tail) = number ds := by
    have htail' : ∀ c ∈ tail.head?, isDigit c = false := by
      rcases htail with rfl | rfl
      · simp
      · intro c hc
        obtain rfl := Option.some.inj hc
        decide
    rw [atoi_number hne hds htail' (by omega), toInt_of_lt (by omega) (by exact_mod_cast hsize)]
  obtain ⟨c, cs, rfl⟩ := List.exists_cons_of_ne_nil hne
  obtain ⟨-, hnl, hl⟩ := ne_of_isDigit (hds c List.mem_cons_self)
  rw [choose, hnul, hnum]
  simp [hnl, hl]

variable {user default} in
theorem templateChosen_take {text : Str} {temp : ℤ} (h : choose user default text = .take temp)
    (hint : IsInt temp) (w : World) :
    ∃ x, templateChosen ctx write user default username password text w = some x ∧
      callsOf x = w.calls ++
        [.login username password (temp - 1) (idAt ctx.privateTemplates (temp - 1))] := by
  unfold templateChosen
  rw [h]
  dsimp only
  rw [if_pos hint]
  exact ⟨_, rfl, callsOf_ite _ _ _⟩

theorem isDigit_zeros {s : Str} (hdigits : ∀ c ∈ s, isDigit c = true) (k : ℕ) :
    ∀ c ∈ List.replicate k (48 : UInt8) ++ s, isDigit c = true := by
  intro c hc
  rcases List.mem_append.mp hc with hc | hc
  · rw [List.eq_of_mem_replicate hc]
    decide
  · exact hdigits c hc

/-- The round of a numeral, or of its first piece. -/
theorem templateRound_numeral {s : Str} (hdigits : ∀ c ∈ s, isDigit c = true) (z : ℕ)
    (rest : Str) (template : Option Str) (w : World) :
    templateRound ctx write user default username password
        (template, w.rest (List.replicate z 48 ++ s ++ newline :: rest)) =
      if z + s.length < 10 then
        templateChosen ctx write user default username password
          (cstring (List.replicate z 48 ++ s ++ [newline]))
          ((w.print [.templatePrompt (announced user default)]).rest rest)
      else
        templateChosen ctx write user default username password
          (cstring ((List.replicate z 48 ++ s).take 10))
          ((w.print [.templatePrompt (announced user default)]).rest
            ((List.replicate z 48 ++ s).drop 10 ++ newline :: rest)) := by
  have hline : newline ∉ List.replicate z 48 ++ s := by
    intro hmem
    exact absurd (isDigit_zeros hdigits z newline hmem) (by decide)
  have hlen : (List.replicate z 48 ++ s).length = z + s.length := by simp
  rw [templateRound_line ctx write user default username password rest hline template w, hlen]

/-- A piece of zeros is passed over. -/
theorem nextEvent_zeros {s : Str} (hdigits : ∀ c ∈ s, isDigit c = true) {z : ℕ} (hz : 10 ≤ z)
    (rest : Str) (template : Option Str) (w : World) : ∃ template' w', ∀ e,
      NextEvent (templateRound ctx write user default username password) callsOf
          (template, w.rest (List.replicate z 48 ++ s ++ newline :: rest)) e ↔
        NextEvent (templateRound ctx write user default username password) callsOf
          (template', World.rest w' (List.replicate (z - 10) 48 ++ s ++ newline :: rest)) e := by
  have htake : (List.replicate z 48 ++ s).take 10 = List.replicate 10 48 := by
    rw [List.take_append_of_le_length (by simpa using hz), List.take_replicate, Nat.min_eq_left hz]
  have hdrop : (List.replicate z 48 ++ s).drop 10 = List.replicate (z - 10) 48 ++ s := by
    rw [List.drop_append_of_le_length (by simpa using hz), List.drop_replicate]
  have hzeros : ∀ c ∈ List.replicate 10 (48 : UInt8), isDigit c = true := by
    intro c hc
    rw [List.eq_of_mem_replicate hc]
    decide
  have hchoose : choose user default (cstring (List.replicate 10 48 ++ [])) = .unknown :=
    choose_digits (by simp) hzeros (Or.inl rfl) (by decide)
  rw [List.append_nil] at hchoose
  have hround := templateRound_numeral ctx write user default username password hdigits z rest
    template w
  rw [if_neg (by omega), htake, hdrop, templateChosen, hchoose] at hround
  exact ⟨_, (w.print [.templatePrompt (announced user default)]).print [.unknownInput _],
    fun e => nextEvent_iff_of_next hround rfl⟩

/-- The piece with the first digit other than zero. -/
theorem nextEvent_first (rest : Str) {s : Str} {c : UInt8} {cs : Str} (hs : s = c :: cs)
    (hdigits : ∀ c ∈ s, isDigit c = true) (h48 : c ≠ 48) (hsize : number s < 2 ^ 31) {z : ℕ}
    (hz : z < 10) (template : Option Str) (w : World) {e : Call} :
    NextEvent (templateRound ctx write user default username password) callsOf
        (template, w.rest (List.replicate z 48 ++ s ++ newline :: rest)) e ↔
      e = .login username password (number (s.take (10 - z)) - 1)
        (idAt ctx.privateTemplates (number (s.take (10 - z)) - 1)) := by
  have hspos : 0 < s.length := by rw [hs]; simp
  have hpos : 0 < number (s.take (10 - z)) := by
    rw [hs, show 10 - z = (9 - z) + 1 by omega, List.take_succ_cons]
    exact number_pos (hdigits c (by rw [hs]; exact List.mem_cons_self)) h48
  have hle := number_take_le (10 - z) s
  have hint : IsInt (number (s.take (10 - z))) := ⟨by omega, by exact_mod_cast (by omega)⟩
  have hdigits' : ∀ c ∈ s.take (10 - z), isDigit c = true :=
    fun c hc => hdigits c (List.mem_of_mem_take hc)
  have hchoose : ∀ tail, tail = [] ∨ tail = [newline] →
      choose user default (cstring (List.replicate z 48 ++ s.take (10 - z) ++ tail)) =
        .take (number (s.take (10 - z))) := by
    intro tail htail
    have hnum := number_zeros z (s.take (10 - z))
    rw [choose_digits (by simp [hs]; omega) (isDigit_zeros hdigits' z) htail (by omega), hnum,
      if_neg (by omega)]
  have hround := templateRound_numeral ctx write user default username password hdigits z rest
    template w
  by_cases hshort : z + s.length < 10
  · rw [if_pos hshort] at hround
    have hwhole : s.take (10 - z) = s := List.take_of_length_le (by omega)
    have hch := hchoose [newline] (Or.inr rfl)
    rw [hwhole] at hch hint ⊢
    obtain ⟨x, hx, hcalls⟩ := templateChosen_take ctx write username password hch hint
      ((w.print [.templatePrompt (announced user default)]).rest rest)
    exact nextEvent_iff_of_event (hround.trans hx) hcalls
  · have htake : (List.replicate z 48 ++ s).take 10 =
        List.replicate z 48 ++ s.take (10 - z) ++ [] := by
      rw [List.take_append, List.take_of_length_le (by simp; omega), List.length_replicate,
        List.append_nil]
    rw [if_neg hshort, htake] at hround
    obtain ⟨x, hx, hcalls⟩ := templateChosen_take ctx write username password
      (hchoose [] (Or.inl rfl)) hint ((w.print [.templatePrompt (announced user default)]).rest
        ((List.replicate z 48 ++ s).drop 10 ++ newline :: rest))
    exact nextEvent_iff_of_event (hround.trans hx) hcalls

/-- **A numeral**, with `z` leading zeros: pieces of zeros are passed over, and the first piece with
another digit is taken for the number. -/
theorem nextEvent_numeral (rest : Str) {s : Str} {c : UInt8} {cs : Str} (hs : s = c :: cs)
    (hdigits : ∀ c ∈ s, isDigit c = true) (h48 : c ≠ 48) (hsize : number s < 2 ^ 31) (z : ℕ)
    (template : Option Str) (w : World) {e : Call} :
    NextEvent (templateRound ctx write user default username password) callsOf
        (template, w.rest (List.replicate z 48 ++ s ++ newline :: rest)) e ↔
      e = .login username password (number (s.take (10 - z % 10)) - 1)
        (idAt ctx.privateTemplates (number (s.take (10 - z % 10)) - 1)) := by
  induction z using Nat.strong_induction_on generalizing template w with
  | _ z ih =>
    by_cases hz : 10 ≤ z
    · obtain ⟨template', w', hnext⟩ := nextEvent_zeros ctx write user default username password
        hdigits hz rest template w
      rw [hnext e, show z % 10 = (z - 10) % 10 by omega]
      exact ih (z - 10) (by omega) template' w'
    · rw [Nat.mod_eq_of_lt (by omega)]
      exact nextEvent_first ctx write user default username password rest hs hdigits h48 hsize
        (by omega) template w

/-- **An empty line.** -/
theorem templateRound_empty (template : Option Str) (w : World) (rest : Str) :
    templateRound ctx write user default username password (template, w.rest (newline :: rest)) =
      if 1 < user.preferedSession then
        if IsInt (default.id + 1) then
          let w := (w.print [.templatePrompt (announced user default)]).rest rest
          let (success, w) := spClientLogin ctx write username password default.id w
          some (if success then .inr w else .inl (some [newline], w))
        else none
      else
        some (.inl (some [newline], ((w.print [.templatePrompt (announced user default)]).rest
          rest).print [.unknownInput [newline]])) := by
  have hround := templateRound_line ctx write user default username password rest
    (List.not_mem_nil (a := newline)) template w
  rw [List.nil_append, if_pos (by decide)] at hround
  have htext : cstring ([] ++ [newline]) = [newline] := by decide
  have hchoose : choose user default [newline] =
      if 1 < user.preferedSession then .take (default.id + 1) else .unknown := by
    have hhead : ([newline] : Str).head? ≠ some 'l'.toUInt8 := by decide
    have hatoi : atoi [newline] = 0 := by decide
    rw [choose, if_neg hhead, hatoi]
    simp
  rw [hround, htext, templateChosen, hchoose]
  by_cases hlt : 1 < user.preferedSession
  · rw [if_pos hlt, if_pos hlt]
    dsimp only
    rw [Int.add_sub_cancel]
  · rw [if_neg hlt, if_neg hlt]

end Rounds

/-! ### What was shown -/

/-- The leading zeros of a line. -/
theorem zeros_append_significant (line : Str) :
    List.replicate (line.length - (significant line).length) 48 ++ significant line = line := by
  have hsplit := List.takeWhile_append_dropWhile (p := (· = (48 : UInt8))) (l := line)
  have hlen := congrArg List.length hsplit
  rw [List.length_append] at hlen
  have hz : line.takeWhile (· = 48) =
      List.replicate (line.length - (significant line).length) 48 := by
    refine List.eq_replicate_iff.mpr ⟨by rw [significant]; omega, fun c hc => ?_⟩
    simpa using List.mem_takeWhile_imp hc
  rw [← hz, significant, hsplit]

/-- A positive number has a first digit. -/
theorem significant_of_pos {line : Str} (h : 0 < number line) :
    ∃ c cs, significant line = c :: cs ∧ c ≠ 48 := by
  have hne : significant line ≠ [] := by
    intro hnil
    have hzero := number_zeros (line.length - (significant line).length) []
    rw [← hnil, zeros_append_significant, hnil] at hzero
    rw [hzero] at h
    exact absurd h (by decide)
  obtain ⟨c, cs, hcs⟩ := List.exists_cons_of_ne_nil hne
  refine ⟨c, cs, hcs, fun h48 => ?_⟩
  have hhead := List.head_dropWhile_not (· = (48 : UInt8)) hne
  rw [significant] at hcs
  simp only [hcs, List.head_cons, h48] at hhead
  exact absurd hhead (by decide)

theorem number_significant (line : Str) : number (significant line) = number line := by
  have h := number_zeros (line.length - (significant line).length) (significant line)
  rw [zeros_append_significant] at h
  exact h.symm

/-- The templates of the message, in the arrays of the client. -/
theorem templates_getElem? (d : Data) (i : ℕ) :
    (dataConvert d).templates[i]? = d.templates[i]?.map fun t => ⟨i, t.icon, t.name⟩ := by
  simp [dataConvert]

theorem templates_of_getElem? {d : Data} {i : ℕ} {t : SessionTemplate}
    (h : d.templates[i]? = some t) :
    (dataConvert d).templates[i]? = some ⟨i, t.icon, t.name⟩ := by
  rw [templates_getElem?, h]
  rfl

theorem idAt_privateTemplates {d : Data} {i : ℕ} {t : SessionTemplate}
    (h : d.templates[i]? = some t) :
    idAt (dataConvert d).privateTemplates i = some t.id := by
  rw [idAt_eq, if_neg (by omega), Int.toNat_natCast, dataConvert, List.getElem?_map, h]
  rfl

/-- The lines of the list. -/
theorem mem_listTemplates {d : Data} {n : ℕ} {name : String} :
    ((n : ℤ), name) ∈ listTemplates (dataConvert d) ↔
      ∃ i t, d.templates[i]? = some t ∧ n = i + 1 ∧ t.name = name := by
  constructor
  · intro h
    obtain ⟨t, ht, heq⟩ := List.mem_map.mp h
    obtain ⟨i, hi⟩ := List.mem_iff_getElem?.mp ht
    rw [templates_getElem?] at hi
    obtain ⟨t', ht', rfl⟩ := Option.map_eq_some_iff.mp hi
    obtain ⟨hn, hname⟩ := Prod.mk.inj heq
    exact ⟨i, t', ht', by simp only at hn; omega, hname⟩
  · rintro ⟨i, t, ht, rfl, rfl⟩
    exact List.mem_map.mpr ⟨⟨i, t.icon, t.name⟩,
      List.mem_iff_getElem?.mpr ⟨i, templates_of_getElem? ht⟩, rfl⟩

/-- **A number of the list** is taken for its template, unless it is out of range or divided. -/
theorem logsInWith_numeral_iff {d : Data} {user : Read.User} {line : Str} {n : ℕ}
    {t : SessionTemplate} (hinside : user.preferedSession < d.templates.length)
    (hnum : IsNumeral line (n + 1)) (ht : d.templates[n]? = some t) :
    LogsInWith d user line n t.name ↔ n + 1 < 2 ^ 31 ∧ InOnePiece line := by
  obtain ⟨-, hdigits, hline⟩ := hnum
  have hpos : 0 < number line := by omega
  obtain ⟨c, cs, hs, h48⟩ := significant_of_pos hpos
  have hsig : ∀ c ∈ significant line, isDigit c = true :=
    fun c hc => hdigits c ((List.dropWhile_sublist _).subset hc)
  have hnumber := number_significant line
  constructor
  · rintro ⟨t', -, -, hnext⟩
    obtain ⟨default, hget⟩ : ∃ default,
        (dataConvert d).templates[user.preferedSession]? = some default := by
      rw [templates_getElem?, List.getElem?_eq_getElem hinside]
      exact ⟨_, rfl⟩
    have hev := hnext _ hget (fun _ => true) [] [] none ⟨[], [], []⟩ []
    have hsize := index_lt_of_nextEvent hev
    rw [← zeros_append_significant line,
      nextEvent_numeral _ _ _ _ _ _ _ hs hsig h48 (by omega)] at hev
    have hindex := (Call.login.inj hev).2.2.1
    refine ⟨by omega, ?_⟩
    -- the digits that are taken are all
    by_contra hcut
    rw [InOnePiece] at hcut
    have hlt : number ((significant line).take
        (10 - (line.length - (significant line).length) % 10)) < number (significant line) :=
      number_take_lt (by omega) (by omega)
    omega
  · rintro ⟨hsize, hone⟩
    refine ⟨t, ht, rfl, fun default hget write username password template w rest => ?_⟩
    have htake : (significant line).take (10 - (line.length - (significant line).length) % 10) =
        significant line := List.take_of_length_le (by rw [InOnePiece] at hone; omega)
    have hev := (nextEvent_numeral (e := .login username password n (some t.id))
      (dataConvert d) write user default username password rest hs hsig h48 (by omega)
      (line.length - (significant line).length) template w).mpr
    rw [zeros_append_significant, htake, hnumber, hline, Nat.cast_add_one, Int.add_sub_cancel,
      idAt_privateTemplates ht] at hev
    exact hev rfl

/-- **An empty line** is taken for the default, unless it is the second template. -/
theorem logsInWith_empty_iff {d : Data} {user : Read.User} {t : SessionTemplate}
    (ht : d.templates[user.preferedSession]? = some t) (h0 : user.preferedSession ≠ 0) :
    LogsInWith d user [] user.preferedSession t.name ↔
      user.preferedSession ≠ 1 ∧ user.preferedSession + 1 < 2 ^ 31 := by
  have hget := templates_of_getElem? ht
  constructor
  · rintro ⟨t', -, -, hnext⟩
    refine ⟨fun h1 => ?_, ?_⟩
    · -- the next line is taken
      have hev := hnext _ hget (fun _ => true) [] [] none ⟨[], [], []⟩ ([49] ++ newline :: [])
      have hround := templateRound_empty (dataConvert d) (fun _ => true) user
        ⟨user.preferedSession, t.icon, t.name⟩ [] [] none ⟨[], [], []⟩ ([49] ++ newline :: [])
      rw [if_neg (by omega)] at hround
      rw [List.nil_append, nextEvent_iff_of_next hround rfl] at hev
      have hdigit : ∀ c ∈ ([49] : Str), isDigit c = true := by
        intro c hc
        rw [List.mem_singleton.mp hc]
        decide
      have hone := (nextEvent_numeral _ _ _ _ _ _ _ rfl hdigit (by decide) (by decide) 0 _
        ((World.print ⟨[], [], []⟩ _).print _)).mp hev
      have hindex := (Call.login.inj hone).2.2.1
      have hzero : ((number (List.take (10 - 0 % 10) [49]) : ℕ) : ℤ) - 1 = 0 := by decide
      omega
    · have hsize := index_lt_of_nextEvent
        (hnext _ hget (fun _ => true) [] [] none ⟨[], [], []⟩ [])
      omega
  · rintro ⟨h1, hsize⟩
    refine ⟨t, ht, rfl, fun default hget' write username password template w rest => ?_⟩
    obtain rfl := Option.some.inj (hget.symm.trans hget')
    have hint : IsInt ((user.preferedSession : ℤ) + 1) := ⟨by omega, by omega⟩
    have hround := templateRound_empty (dataConvert d) write user
      ⟨user.preferedSession, t.icon, t.name⟩ username password template w rest
    rw [if_pos (by omega), if_pos hint] at hround
    rw [← idAt_privateTemplates ht]
    exact .now hround (callsOf_ite _ _ _)

/-- The preferred session of a user of the message. -/
theorem preferedSession_of {d : Data} {i : ℕ} {u : Protocol.Messages.User} {user : Read.User}
    (hu : d.users[i]? = some u) (huser : (dataConvert d).users[i]? = some user) :
    user.preferedSession =
      (d.templates.findIdx? fun t => t.name == u.preferedSession).getD 0 := by
  rw [← DataConvert.findSimularSession_dataConvert]
  have hconv : (dataConvert d).users[i]? = d.users[i]?.map fun u => ⟨i, u.icon, u.name,
      findSimularSession (dataConvert d).templates u.preferedSession⟩ := by
    simp [dataConvert]
  rw [hconv, hu] at huser
  rw [← Option.some.inj huser]

/-- `p` is the first template with the name the user prefers. -/
def Prefers (d : Data) (u : Protocol.Messages.User) (p : ℕ) : Prop :=
  d.templates.findIdx? (fun t => t.name == u.preferedSession) = some p

theorem length_of_prefers {d : Data} {u : Protocol.Messages.User} {p : ℕ} (h : Prefers d u p) :
    p < d.templates.length := by
  obtain ⟨hlt, -⟩ := List.findIdx?_eq_some_iff_findIdx_eq.mp h
  exact hlt

/-- **The template that is sent is the one that was shown**, if and only if there is a template, a
number of the list is an `int` and is not typed in two pieces, and no empty line is typed where the
second template is preferred. -/
theorem sends_shown_iff (d : Data) (i : ℕ) (u : Protocol.Messages.User) (user : Read.User)
    (hu : d.users[i]? = some u) (huser : (dataConvert d).users[i]? = some user) (line : Str) :
    SendsShown d user line ↔
      d.templates ≠ [] ∧
      (∀ n, IsNumeral line n → 0 < n → n ≤ d.templates.length → n < 2 ^ 31 ∧ InOnePiece line) ∧
      (line = [] → ∀ p, Prefers d u p → p ≠ 0 → p ≠ 1 ∧ p + 1 < 2 ^ 31) := by
  have hpref := preferedSession_of hu huser
  have hlength : (dataConvert d).templates.length = d.templates.length := by simp [dataConvert]
  constructor
  · rintro ⟨hinside, hlisted, hdefault⟩
    rw [hlength] at hinside
    refine ⟨fun hnil => ?_, fun n hnum hpos hle => ?_, ?_⟩
    · rw [hnil] at hinside
      exact absurd hinside (Nat.not_lt_zero _)
    · obtain ⟨n, rfl⟩ : ∃ k, n = k + 1 := ⟨n - 1, by omega⟩
      obtain ⟨t, ht⟩ : ∃ t, d.templates[n]? = some t := ⟨_, List.getElem?_eq_getElem (by omega)⟩
      have hlogs := hlisted (n + 1) t.name (mem_listTemplates.mpr ⟨n, t, ht, rfl, rfl⟩) hnum
      exact (logsInWith_numeral_iff hinside hnum ht).mp hlogs
    · rintro rfl p hp h0
      rw [Prefers] at hp
      rw [hp, Option.getD_some] at hpref
      subst hpref
      obtain ⟨t, ht⟩ : ∃ t, d.templates[user.preferedSession]? = some t :=
        ⟨_, List.getElem?_eq_getElem hinside⟩
      exact (logsInWith_empty_iff ht h0).mp
        (hdefault _ t.name (templates_of_getElem? ht) (if_neg h0) rfl)
  · rintro ⟨hne, hnumeral, hempty⟩
    have hinside : user.preferedSession < d.templates.length := by
      rw [hpref]
      rcases h : d.templates.findIdx? fun t => t.name == u.preferedSession with _ | p
      · rw [h]
        exact List.length_pos_iff.mpr hne
      · rw [h]
        exact length_of_prefers h
    refine ⟨by rwa [hlength], fun n name hlist hnum => ?_, ?_⟩
    · obtain ⟨n, t, ht, rfl, rfl⟩ := mem_listTemplates.mp hlist
      have hlt := (List.getElem?_eq_some_iff.mp ht).1
      exact (logsInWith_numeral_iff hinside hnum ht).mpr
        (hnumeral (n + 1) hnum (by omega) (by omega))
    · rintro default name hget hannounced rfl
      have h0 : user.preferedSession ≠ 0 := fun h0 => by
        rw [announced, if_pos h0] at hannounced
        exact absurd hannounced (by simp)
      rw [announced, if_neg h0] at hannounced
      rw [templates_getElem?] at hget
      obtain ⟨t, ht, rfl⟩ := Option.map_eq_some_iff.mp hget
      obtain rfl := Option.some.inj hannounced
      have hp : Prefers d u user.preferedSession := by
        rw [Prefers]
        rcases h : d.templates.findIdx? fun t => t.name == u.preferedSession with _ | p
        · rw [h] at hpref
          exact absurd hpref h0
        · rw [hpref, h]
          rfl
      exact (logsInWith_empty_iff ht h0).mpr (hempty rfl _ hp h0)

/-- Some templates, and a user who prefers one of them. -/
def choices (names : List String) (preferred : String) : Data where
  sessions := []
  templates := names.map fun name => ⟨name, name, ""⟩
  users := [⟨1000, "eve", "", preferred⟩]

/-- The user, who has the template `p` for it. -/
def eve (p : ℕ) : Read.User := ⟨0, "", "eve", p⟩

theorem sends_shown_three :
    SendsShown (choices ["gnome", "kde", "xfce"] "xfce") (eve 2) (ascii "2") := by
  refine (sends_shown_iff _ 0 ⟨1000, "eve", "", "xfce"⟩ (eve 2) rfl (by decide) _).mpr
    ⟨by decide, ?_, fun h => absurd h (by decide)⟩
  rintro n ⟨-, -, rfl⟩ - -
  exact ⟨by decide, by decide⟩

/-- The second template is announced, and an empty line is refused; without templates, the index is
outside. -/
theorem second_refused :
    templateRound (dataConvert (choices ["gnome", "xfce"] "xfce")) (fun _ => true) (eve 1)
        ⟨1, "", "xfce"⟩ (ascii "eve") [] (none, ⟨[newline], [], []⟩) =
      some (.inl (some [newline],
        ⟨[], [.templatePrompt (some "xfce"), .unknownInput [newline]], []⟩)) ∧
    (dataConvert (choices ["gnome", "xfce"] "xfce")).users = [eve 1] ∧
    ¬ SendsShown (choices ["gnome", "xfce"] "xfce") (eve 1) [] ∧
    (dataConvert (choices [] "xfce")).users = [eve 0] ∧
    ∀ line, ¬ SendsShown (choices [] "xfce") (eve 0) line := by
  refine ⟨by decide, by decide, fun h => ?_, by decide, fun line h => absurd h.inside (by decide)⟩
  have hlogs := h.empty ⟨1, "", "xfce"⟩ "xfce" (by decide) (by decide) rfl
  exact ((logsInWith_empty_iff (t := ⟨"xfce", "xfce", ""⟩) (by decide) (by decide)).mp hlogs).1 rfl

end Spawny.FallbackGreeter.Templates
