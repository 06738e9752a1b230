import Spawny.Client.DataConvert
import Spawny.Lib.Loops
import Spawny.Lib.Stdio
import Spawny.UserDb.Records

/-! # sp-fallback-greeter/main.c

The greeter on a terminal: what it makes of its input and of the arrays of the client library. The
bytes `getpass` takes, and whether a message is written to the daemon, are parameters. What the
source reads from an array that nothing was written to, or outside of an array, or computes beyond
the range of `int`, is undefined.

* `spClientLogin_sent`, `spClientSessionActivate_sent`: the calls are those of the client library;
* `promptRun`: one run of the prompt; the loops take fuel;
* `templateRound_end`, `templateRound_piece`: the loop over the templates with and without input. -/

namespace Spawny.FallbackGreeter.Main

open Spawny.Client Spawny.Client.Read Spawny.Lib.Loops Spawny.Lib.Stdio Spawny.Protocol.Messages
open Spawny.Protocol.Encoding (utf8)
open Spawny.UserDb.Records (Str)

/-! ### The library -/

/-- A call of the client library, with the id in the message that it writes. -/
inductive Call
  | login (usr pw : Str) (template : ℤ) (sent : Option String)
  | sessionActivate (session : ℤ) (sent : Option String)
  deriving DecidableEq, Repr

/-- What is printed, without the fixed texts. -/
inductive Output
  | invalidInput (c : UInt8)
  | templatePrompt (default : Option String)
  | template (n : ℤ) (name : String)
  | unknownInput (template : Str)
  | session (n : ℤ) (user name : String)
  deriving DecidableEq, Repr

/-- The rest of the input, and what was done so far. -/
structure World where
  input : Str
  output : List Output
  calls : List Call
  deriving DecidableEq, Repr

def World.print (w : World) (out : List Output) : World := { w with output := w.output ++ out }

def World.call (w : World) (c : Call) : World := { w with calls := w.calls ++ [c] }

def World.rest (w : World) (input : Str) : World := { w with input := input }

/-- The id at an index that is checked. -/
def idAt (ids : List String) (i : ℤ) : Option String :=
  if i < 0 ∨ ids.length ≤ i then none else ids[i.toNat]?

-- `write k`: the message of the call number `k` is written
variable (ctx : Context) (getpass : Str → Str × Str) (write : ℕ → Bool)

/-- `sp_client_login`. -/
def spClientLogin (usr pw : Str) (template : ℤ) (w : World) : Bool × World :=
  ((idAt ctx.privateTemplates template).isSome && write w.calls.length,
    w.call (.login usr pw template (idAt ctx.privateTemplates template)))

/-- `sp_client_session_activate`. -/
def spClientSessionActivate (session : ℤ) (w : World) : Bool × World :=
  ((idAt ctx.privateSessions session).isSome && write w.calls.length,
    w.call (.sessionActivate session (idAt ctx.privateSessions session)))

/-! ### login -/

def LOGIN_NAME_MAX : ℕ := 256

def MAX_INTEGER_SIZE : ℕ := 10 + 1

/-- What the loop over the names leaves. -/
structure Entered where
  user : Read.User
  username : Str
  world : World
  deriving DecidableEq, Repr

/-- `strcmp` of the name with what was entered. -/
def isName (username : Str) (usr : Read.User) : Bool := cstring (utf8 usr.name) = username

/-- The comparison with the names; without users, the array is not read. -/
def findUser (username : Option Str) (w : World) : Option ((Option Str × World) ⊕ Entered) :=
  match username with
  | none => if ctx.users.isEmpty then some (.inl (none, w)) else none
  | some name =>
    match ctx.users.find? (isName name) with
    | none => some (.inl (some name, w))
    | some user => some (.inr ⟨user, name, w⟩)

/-- The loop over the names, with the array `username`. -/
def userRound : Option Str × World → Option ((Option Str × World) ⊕ Entered)
  | (username, w) =>
    match scanWord w.input with
    | none => findUser ctx username (w.rest [])
    | some (word, input) =>
      -- `%s` has no bound
      if word.length < LOGIN_NAME_MAX then findUser ctx (some (cstring word)) (w.rest input)
      else none

/-- The default in the prompt. -/
def announced (user : Read.User) (default : Template) : Option String :=
  if user.preferedSession = 0 then none else some default.name

/-- The lines of the list of templates. -/
def listTemplates : List (ℤ × String) := ctx.templates.map fun t => (t.id + 1, t.name)

/-- What is made of the text in `template`. -/
inductive Choice
  | list
  | take (temp : ℤ)
  | unknown
  deriving DecidableEq, Repr

def choose (user : Read.User) (default : Template) (template : Str) : Choice :=
  if template.head? = some 'l'.toUInt8 then .list
  else if 1 < user.preferedSession ∧ template.head? = some newline then .take (default.id + 1)
  else if atoi template ≠ 0 then .take (atoi template)
  else .unknown

/-- Neither the number nor the one in front of it is out of the range of `int`. -/
def IsInt (temp : ℤ) : Prop := -2 ^ 31 < temp ∧ temp < 2 ^ 31

instance (temp : ℤ) : Decidable (IsInt temp) := by
  unfold IsInt
  infer_instance

/-- The loop over the templates, behind its `fgets`. -/
def templateChosen (user : Read.User) (default : Template) (username password template : Str)
    (w : World) : Option ((Option Str × World) ⊕ World) :=
  match choose user default template with
  | .list =>
    some (.inl (some template, w.print ((listTemplates ctx).map fun l => .template l.1 l.2)))
  | .take temp =>
    if IsInt temp then
      let (success, w) := spClientLogin ctx write username password (temp - 1) w
      some (if success then .inr w else .inl (some template, w))
    else none
  | .unknown => some (.inl (some template, w.print [.unknownInput template]))

/-- The loop over the templates, with the array `template`, which keeps its text at the end of the
input. -/
def templateRound (user : Read.User) (default : Template) (username password : Str) :
    Option Str × World → Option ((Option Str × World) ⊕ World)
  | (template, w) =>
    let w := w.print [.templatePrompt (announced user default)]
    match fgets (MAX_INTEGER_SIZE - 1) w.input with
    | none =>
      template.bind fun text => templateChosen ctx write user default username password text w
    | some (line, input) =>
      templateChosen ctx write user default username password (cstring line) (w.rest input)

/-- `login`. -/
def login (w : World) (fuel : ℕ) : Option World :=
  (loop (userRound ctx) (none, w) fuel).bind fun e =>
    match ctx.templates[e.user.preferedSession]? with
    | none => none
    | some default =>
      let (password, input) := getpass e.world.input
      -- consume the \n
      let input := input.tail
      loop (templateRound ctx write e.user default e.username password)
        (none, e.world.rest input) fuel

/-! ### listsessions -/

/-- The loop over the sessions. The array `session` is a new one in each round. -/
def sessionRound (w : World) : Option (World ⊕ World) :=
  match fgets (MAX_INTEGER_SIZE - 1) w.input with
  | none => none
  | some (line, input) =>
    let session := cstring line
    if session.isEmpty then none
    else
      let id := atoi session.dropLast
      if IsInt id then
        let (success, w) := spClientSessionActivate ctx write (id - 1) (w.rest input)
        some (if success then .inr w else .inl w)
      else none

/-- `listsessions`. -/
def listsessions (w : World) (fuel : ℕ) : Option World :=
  loop (sessionRound ctx write)
    (w.print (ctx.sessions.map fun s => .session (s.id + 1) s.user s.name)) fuel

/-! ### prompt_run -/

inductive Action
  | failed
  | login
  | listsessions
  deriving DecidableEq, Repr

/-- The loop over the actions, with the last character. -/
def actionRound : UInt8 × World → Option ((UInt8 × World) ⊕ (Action × World))
  | (c, w) =>
    let w := w.print (if c = 0 then [] else [.invalidInput c])
    match w.input with
    | [] => some (.inr (.failed, w))
    | c :: input =>
      -- a `char` with this value is `EOF`
      if c = 255 then some (.inr (.failed, w.rest input))
      else if c = newline then some (.inr (.login, w.rest input))
      -- we need to eat the \n
      else if c = 'l'.toUInt8 then some (.inr (.login, w.rest input.tail))
      else if c = 's'.toUInt8 then some (.inr (.listsessions, w.rest input.tail))
      else some (.inl (c, w.rest input.tail))

/-- What follows the loop: the result of `prompt_run` and what was done. -/
def perform (a : Action × World) (fuel : ℕ) : Option (ℕ × World) :=
  match a.1 with
  | .failed => some (0, a.2)
  | .login => (login ctx getpass write a.2 fuel).map fun w => (1, w)
  | .listsessions => (listsessions ctx write a.2 fuel).map fun w => (1, w)

/-- `prompt_run`. -/
def promptRun (w : World) (fuel : ℕ) : Option (ℕ × World) :=
  (loop actionRound (0, w) fuel).bind fun a => perform ctx getpass write a fuel

/-! ### The rounds -/

section Rounds

variable {ctx write}

/-- The loop over the templates at the end of the input. -/
theorem templateRound_end {user : Read.User} {default : Template} {username password : Str}
    (template : Option Str) {w : World} (hend : w.input = []) :
    templateRound ctx write user default username password (template, w) =
      template.bind fun text => templateChosen ctx write user default username password text
        (w.print [.templatePrompt (announced user default)]) := by
  have hnone : fgets (MAX_INTEGER_SIZE - 1) w.input = none := by rw [hend, fgets_nil]
  simp only [templateRound, World.print, hnone]

theorem templateRound_piece {user : Read.User} {default : Template} {username password : Str}
    (template : Option Str) {w : World} (hne : w.input ≠ []) :
    templateRound ctx write user default username password (template, w) =
      templateChosen ctx write user default username password
        (cstring (splitLine (MAX_INTEGER_SIZE - 1) w.input).1)
        ((w.print [.templatePrompt (announced user default)]).rest
          (splitLine (MAX_INTEGER_SIZE - 1) w.input).2) := by
  have hsome := fgets_some (n := MAX_INTEGER_SIZE - 1) hne
  simp only [templateRound, World.print, hsome]

theorem sessionRound_end {w : World} (hend : w.input = []) : sessionRound ctx write w = none := by
  have hnone : fgets (MAX_INTEGER_SIZE - 1) w.input = none := by rw [hend, fgets_nil]
  simp only [sessionRound, hnone]

variable (ctx write) in
/-- The number of a session is always in range: it has nine characters at most. -/
theorem sessionRound_piece {w : World} (hne : w.input ≠ []) {line rest : Str}
    (hsplit : splitLine (MAX_INTEGER_SIZE - 1) w.input = (line, rest)) :
    sessionRound ctx write w =
      if cstring line = [] then none
      else
        let id := atoi (cstring line).dropLast
        let (success, w) := spClientSessionActivate ctx write (id - 1) (w.rest rest)
        some (if success then .inr w else .inl w) := by
  have hsome := fgets_some (n := MAX_INTEGER_SIZE - 1) hne
  rw [hsplit] at hsome
  have hint : IsInt (atoi (cstring line).dropLast) := by
    refine atoi_of_length_le ?_
    have hle : (cstring line).length ≤ line.length := (List.takeWhile_sublist _).length_le
    have hpiece := length_splitLine_le (MAX_INTEGER_SIZE - 1) w.input
    rw [hsplit] at hpiece
    simp only [MAX_INTEGER_SIZE] at hpiece
    rw [List.length_dropLast]
    omega
  simp only [sessionRound, hsome, List.isEmpty_iff, if_pos hint]

end Rounds

/-! ### The calls -/

theorem idAt_eq (ids : List String) (i : ℤ) :
    idAt ids i = if i < 0 then none else ids[i.toNat]? := by
  unfold idAt
  by_cases h0 : i < 0
  · rw [if_pos (Or.inl h0), if_pos h0]
  by_cases hlen : ids.length ≤ i
  · rw [if_pos (Or.inr hlen), if_neg h0, List.getElem?_eq_none (by omega)]
  · rw [if_neg (by omega), if_neg h0]

/-- **`sp_client_login`** on the arrays of the library writes the id that is found. -/
theorem spClientLogin_sent (d : Data) (usr pw : String) (template : ℤ) :
    DataConvert.spClientLogin (DataConvert.encode (dataConvert d)) usr pw template =
      some ((idAt (dataConvert d).privateTemplates template).toList.map
        fun id => ⟨.loginTry, some ⟨usr, pw, id⟩, none⟩) := by
  have hconv := DataConvert.converted_encode d
  have hlen : (dataConvert d).privateTemplates.length = d.templates.length := List.length_map _
  by_cases hout : template < 0 ∨ d.templates.length ≤ template
  · rw [hconv.logsInNone template hout, idAt, hlen, if_pos hout]
    rfl
  · obtain ⟨i, rfl⟩ : ∃ i : ℕ, template = i := ⟨template.toNat, by omega⟩
    obtain ⟨t, ht⟩ : ∃ t, d.templates[i]? = some t := ⟨_, List.getElem?_eq_getElem (by omega)⟩
    rw [hconv.logsIn ht, idAt, hlen, if_neg hout, Int.toNat_natCast, dataConvert,
      List.getElem?_map, ht]
    rfl

/-- **`sp_client_session_activate`** on the arrays of the library. -/
theorem spClientSessionActivate_sent (d : Data) (session : ℤ) :
    DataConvert.spClientSessionActivate (DataConvert.encode (dataConvert d)) session =
      some ((idAt (dataConvert d).privateSessions session).toList.map
        fun id => ⟨.sessionActivation, none, some id⟩) := by
  have hconv := DataConvert.converted_encode d
  have hlen : (dataConvert d).privateSessions.length = d.sessions.length := List.length_map _
  by_cases hout : session < 0 ∨ d.sessions.length ≤ session
  · rw [hconv.activatesNone session hout, idAt, hlen, if_pos hout]
    rfl
  · obtain ⟨i, rfl⟩ : ∃ i : ℕ, session = i := ⟨session.toNat, by omega⟩
    obtain ⟨s, hs⟩ : ∃ s, d.sessions[i]? = some s := ⟨_, List.getElem?_eq_getElem (by omega)⟩
    rw [hconv.activates hs, idAt, hlen, if_neg hout, Int.toNat_natCast, dataConvert,
      List.getElem?_map, hs]
    rfl

end Spawny.FallbackGreeter.Main
