import Mathlib.Logic.Function.Basic
import Spawny.Daemon.Restarts

/-! # Which daemon a client reaches

A daemon has its socket from systemd, or it removes what is at its path and binds a socket of its own
there. When it is shut down it removes what is at its path then: the socket of systemd, or that of another
daemon. Daemons and sockets are named by the order in which they were made.

* `socketSetup`, `serverInit`, `serverShutdown`, `main`: what a daemon does to the path;
* `reaches_step`: a step sets whom a client reaches, or keeps it;
* `reaches_iff`: **a client reaches a daemon from its start on, until one of them ends or the path is
  removed**. -/

namespace Spawny.Daemon.Addresses

open Spawny.Lib.Runs Spawny.Daemon.SessionMgt Spawny.Daemon.Restarts
open Spawny.Client.Calls (Sockets servicePathGet serviceAddress sizeofSunPath spClientInit)

/-- The sockets of a host: which one is at a path, and which one systemd holds; and the daemons, with the
socket on which each listens. A daemon that has ended listens on none. -/
structure Host where
  bound : String → Option ℕ
  sockets : ℕ
  held : Option ℕ
  daemons : List (Config × Option ℕ)

/-- What the system answers when a daemon starts; `fds` is the result of `sd_listen_fds`. -/
structure SetupAnswers where
  uid : ℕ
  session : Option String
  fds : ℕ
  unlink : Bool
  bind : Bool
  listen : Bool

namespace Host

variable (h : Host)

def listening (d : ℕ) : Option ℕ := (h.daemons[d]?).bind Prod.snd

/-- A connection to the address gets to the daemon `d`. -/
def reaches (address : String) (d : ℕ) : Bool :=
  (h.bound address).any fun s => h.listening d == some s

def unlink (path : String) (works : Bool) : Host :=
  if works then { h with bound := Function.update h.bound path none } else h

/-- A new socket is bound to the address. -/
def bind (address : String) : Host :=
  { h with bound := Function.update h.bound address (some h.sockets), sockets := h.sockets + 1 }

end Host

/-! ### server.c and main.c -/

/-- `prefetch_server_socket` of server_systemd.c. -/
def prefetchServerSocket (a : SetupAnswers) (h : Host) : Option ℕ := if a.fds = 1 then h.held else none

/-- `_socket_setup`, with the socket on which the daemon listens if it succeeds. -/
def socketSetup (i : Sockets) (debug : Bool) (a : SetupAnswers) (h : Host) : Host × Option ℕ :=
  match prefetchServerSocket a h with
  | some s => (h, some s)
  | none =>
    let h := h.unlink (servicePathGet i debug) a.unlink
    if (h.bound (serviceAddress i debug)).isNone && a.bind then
      (h.bind (serviceAddress i debug), if a.listen then some h.sockets else none)
    else (h, none)

/-- `server_init`: there is one daemon more, which listens if its socket is set up. -/
def serverInit (i : Sockets) (config : Config) (a : SetupAnswers) (h : Host) : Host :=
  let r := socketSetup i config.debug a h
  { r.1 with daemons := r.1.daemons ++ [(config, r.2)] }

/-- `init_check`. -/
def initCheck (a : SetupAnswers) : Bool := a.uid == 0 && a.session.isNone

/-- `main` up to its loop: with wrong arguments, for a wrong user or in a session the daemon exits. -/
def main (i : Sockets) (argv : List String) (a : SetupAnswers) (h : Host) : Host :=
  match parseArgs argv with
  | none => h
  | some config => if initCheck a then serverInit i config a h else h

/-- The daemon `d` ends. -/
def ended (d : ℕ) (h : Host) : Host :=
  { h with daemons := h.daemons.modify d fun p => (p.1, none) }

/-- `server_shutdown`, which `main` calls behind its loop. -/
def serverShutdown (i : Sockets) (unlinks : Bool) (d : ℕ) (h : Host) : Host :=
  match h.daemons[d]? with
  | some (config, some _) => ended d (h.unlink (servicePathGet i config.debug) unlinks)
  | _ => h

/-- A daemon starts, is shut down, or is killed, or systemd makes a socket at the path. -/
inductive Event
  | start (argv : List String) (a : SetupAnswers)
  | stop (d : ℕ) (unlinks : Bool)
  | kill (d : ℕ)
  | systemd (path : String)

def step (i : Sockets) (h : Host) : Event → Host
  | .start argv a => main i argv a h
  | .stop d unlinks => serverShutdown i unlinks d h
  | .kill d => ended d h
  | .systemd path => { h.bind path with held := some h.sockets }

/-! ### What is set and kept -/

/-- The daemon `d` starts and listens on the socket at the path: on that of systemd, or on a new one. -/
def Sets (i : Sockets) (debug : Bool) (d : ℕ) (h : Host) : Event → Prop
  | .start argv a => ∃ config, parseArgs argv = some config ∧ initCheck a = true ∧ d = h.daemons.length ∧
      ((∃ s, prefetchServerSocket a h = some s ∧ h.bound (servicePathGet i debug) = some s) ∨
        prefetchServerSocket a h = none ∧ config.debug = debug ∧
          (h.bound (servicePathGet i debug) = none ∨ a.unlink = true) ∧ a.bind = true ∧ a.listen = true)
  | _ => False

/-- The path is not removed, and the daemon `d` does not end. -/
def Keeps (i : Sockets) (debug : Bool) (d : ℕ) (h : Host) : Event → Prop
  | .start argv a => ∀ config, parseArgs argv = some config → initCheck a = true →
      prefetchServerSocket a h = none → config.debug = debug → a.unlink = false
  | .stop d' unlinks => ∀ config s, h.daemons[d']? = some (config, some s) →
      d' ≠ d ∧ (config.debug = debug → unlinks = false)
  | .kill d' => d' ≠ d
  | .systemd path => path ≠ servicePathGet i debug

/-- Sockets that are used were made. -/
structure Known (h : Host) : Prop where
  bound : ∀ {path s}, h.bound path = some s → s < h.sockets
  held : ∀ {s}, h.held = some s → s < h.sockets
  listening : ∀ {d s}, h.listening d = some s → s < h.sockets

/-- The paths of the build: they differ, and they fit into an address. -/
structure Fits (i : Sockets) : Prop where
  ne : i.spServerSocket ≠ i.spServerDebugSocket
  length : ∀ debug, (servicePathGet i debug).toList.length < sizeofSunPath

variable {i : Sockets} {h h' : Host} {debug : Bool} {d : ℕ}

theorem Fits.address (hi : Fits i) (debug : Bool) : serviceAddress i debug = servicePathGet i debug := by
  have hlength : (servicePathGet i debug).toList.length ≤ sizeofSunPath - 1 :=
    Nat.le_pred_of_lt (hi.length debug)
  unfold serviceAddress snprintf
  rw [List.take_of_length_le hlength, String.ofList_toList]

theorem Fits.path_ne (hi : Fits i) {debug' : Bool} (hne : debug' ≠ debug) :
    servicePathGet i debug' ≠ servicePathGet i debug := by
  cases debug <;> cases debug'
  · exact absurd rfl hne
  · exact hi.ne.symm
  · exact hi.ne
  · exact absurd rfl hne

/-! ### The host -/

theorem reaches_iff_bound {address : String} :
    h.reaches address d = true ↔ ∃ s, h.bound address = some s ∧ h.listening d = some s := by
  unfold Host.reaches
  cases h.bound address <;> simp

theorem reaches_congr {address : String} (hbound : h'.bound address = h.bound address)
    (hlistening : h'.listening d = h.listening d) : h'.reaches address d = h.reaches address d := by
  unfold Host.reaches
  rw [hbound, hlistening]

theorem unlink_bound (path path' : String) (works : Bool) : (h.unlink path works).bound path' =
    if works = true ∧ path' = path then none else h.bound path' := by
  unfold Host.unlink
  cases works with
  | false => simp
  | true =>
    by_cases hp : path' = path
    · simp [hp]
    · simp [hp, Function.update_of_ne]

theorem unlink_daemons (path : String) (works : Bool) : (h.unlink path works).daemons = h.daemons := by
  unfold Host.unlink
  cases works <;> rfl

theorem unlink_sockets (path : String) (works : Bool) : (h.unlink path works).sockets = h.sockets := by
  unfold Host.unlink
  cases works <;> rfl

theorem unlink_held (path : String) (works : Bool) : (h.unlink path works).held = h.held := by
  unfold Host.unlink
  cases works <;> rfl

theorem bind_bound (path path' : String) : (h.bind path).bound path' =
    if path' = path then some h.sockets else h.bound path' := by
  unfold Host.bind
  by_cases hp : path' = path
  · simp [hp]
  · simp [hp, Function.update_of_ne]

theorem listening_congr (hdaemons : h'.daemons = h.daemons) : h'.listening d = h.listening d := by
  unfold Host.listening
  rw [hdaemons]

/-- A daemon that is added changes nothing for those that were there. -/
theorem listening_append {p : Config × Option ℕ} (hdaemons : h'.daemons = h.daemons ++ [p]) :
    h'.listening d = if d = h.daemons.length then p.2 else h.listening d := by
  unfold Host.listening
  rw [hdaemons]
  split_ifs with hd
  · rw [hd, List.getElem?_concat_length]
    rfl
  · rcases Nat.lt_or_ge d h.daemons.length with hlt | hge
    · rw [List.getElem?_append_left hlt]
    · rw [List.getElem?_eq_none hge, List.getElem?_eq_none]
      rw [List.length_append, List.length_singleton]
      omega

theorem listening_new : h.listening h.daemons.length = none := by
  unfold Host.listening
  rw [List.getElem?_eq_none (Nat.le_refl _)]
  rfl

theorem listening_ended (d' : ℕ) : (ended d' h).listening d = if d' = d then none else h.listening d := by
  unfold Host.listening ended
  rw [List.getElem?_modify]
  by_cases hd : d' = d
  · subst hd
    cases h.daemons[d']? <;> simp
  · simp [hd]

theorem reaches_ended {address : String} (d' : ℕ) :
    (ended d' h).reaches address d = true ↔ d' ≠ d ∧ h.reaches address d = true := by
  rw [reaches_iff_bound, reaches_iff_bound, listening_ended]
  by_cases hd : d' = d
  · simp [hd]
  · simp [hd, ended]

/-- A daemon is added that does not listen on the socket at the path. -/
theorem reaches_added {path : String} {q : Config × Option ℕ} (hbound : h'.bound path = h.bound path)
    (hdaemons : h'.daemons = h.daemons ++ [q]) (hq : ∀ s, h.bound path = some s → q.2 ≠ some s) :
    h'.reaches path d = true ↔ h.reaches path d = true := by
  rw [reaches_iff_bound, reaches_iff_bound, hbound]
  refine exists_congr fun s => and_congr_right fun hs => ?_
  rw [listening_append hdaemons]
  split_ifs with hd
  · rw [hd, listening_new]
    exact ⟨fun hq' => absurd hq' (hq s hs), fun hnone => by cases hnone⟩
  · rfl

/-! ### A step -/

/-- **What `_socket_setup` leaves** at its path: the new socket, nothing, or what was there. -/
theorem socketSetup_own (hi : Fits i) (debug : Bool) {a : SetupAnswers} (hown : prefetchServerSocket a h = none) :
    (socketSetup i debug a h).1.bound (servicePathGet i debug) =
        (if h.bound (servicePathGet i debug) = none ∨ a.unlink = true then
          if a.bind then some h.sockets else none
        else h.bound (servicePathGet i debug)) ∧
      (socketSetup i debug a h).2 =
        if (h.bound (servicePathGet i debug) = none ∨ a.unlink = true) ∧ a.bind = true ∧
          a.listen = true then some h.sockets else none := by
  unfold socketSetup
  rw [hown]
  dsimp only
  rw [hi.address, unlink_bound, unlink_sockets]
  cases hb : h.bound (servicePathGet i debug) <;> cases hu : a.unlink <;> cases hbind : a.bind <;>
    simp [hb, unlink_bound, bind_bound, unlink_sockets]

theorem socketSetup_other (hi : Fits i) {a : SetupAnswers} {path : String}
    (hne : path ≠ servicePathGet i debug) : (socketSetup i debug a h).1.bound path = h.bound path := by
  have hunlink : (h.unlink (servicePathGet i debug) a.unlink).bound path = h.bound path := by
    rw [unlink_bound, if_neg fun hand => hne hand.2]
  unfold socketSetup
  split
  · rfl
  · dsimp only
    rw [hi.address]
    split
    · exact ((bind_bound ..).trans (if_neg hne)).trans hunlink
    · exact hunlink

theorem socketSetup_daemons (a : SetupAnswers) : (socketSetup i debug a h).1.daemons = h.daemons := by
  unfold socketSetup
  split
  · rfl
  · dsimp only
    split
    · exact unlink_daemons ..
    · exact unlink_daemons ..

/-- A daemon listens on the socket of systemd or on a new one. -/
theorem socketSetup_second {a : SetupAnswers} (hown : prefetchServerSocket a h = none) {s : ℕ}
    (hs : (socketSetup i debug a h).2 = some s) : s = h.sockets := by
  unfold socketSetup at hs
  rw [hown] at hs
  dsimp only at hs
  rw [unlink_sockets] at hs
  split_ifs at hs
  · exact (Option.some.inj hs).symm

theorem serverInit_daemons (config : Config) (a : SetupAnswers) : (serverInit i config a h).daemons =
    h.daemons ++ [(config, (socketSetup i config.debug a h).2)] :=
  congrArg (· ++ [(config, (socketSetup i config.debug a h).2)]) (socketSetup_daemons a)

/-- A daemon with the socket of systemd. -/
theorem serverInit_held {config : Config} {a : SetupAnswers} {s₀ : ℕ}
    (hheld : prefetchServerSocket a h = some s₀) {path : String} :
    (serverInit i config a h).reaches path d = true ↔
      (d = h.daemons.length ∧ h.bound path = some s₀) ∨ h.reaches path d = true := by
  have hsetup : socketSetup i config.debug a h = (h, some s₀) := by
    unfold socketSetup
    rw [hheld]
  have hbound : (serverInit i config a h).bound = h.bound := congrArg (fun r => r.1.bound) hsetup
  have hdaemons : (serverInit i config a h).daemons = h.daemons ++ [(config, some s₀)] := by
    rw [serverInit_daemons, hsetup]
  rw [reaches_iff_bound, reaches_iff_bound, hbound, listening_append hdaemons]
  split_ifs with hd
  · rw [hd, listening_new]
    simp
  · simp [hd]

/-- **A daemon that starts with the flag** makes a socket of its own. -/
theorem serverInit_own (hi : Fits i) (hknown : Known h) {config : Config} {a : SetupAnswers}
    (hown : prefetchServerSocket a h = none) :
    (serverInit i config a h).reaches (servicePathGet i config.debug) d = true ↔
      (d = h.daemons.length ∧ (h.bound (servicePathGet i config.debug) = none ∨ a.unlink = true) ∧
          a.bind = true ∧ a.listen = true) ∨
        h.reaches (servicePathGet i config.debug) d = true ∧ a.unlink = false := by
  obtain ⟨hbound, hsecond⟩ := socketSetup_own hi config.debug hown
  have hpath : (serverInit i config a h).bound (servicePathGet i config.debug) = _ := hbound
  have hdaemons := serverInit_daemons (i := i) (h := h) config a
  by_cases hclear : h.bound (servicePathGet i config.debug) = none ∨ a.unlink = true
  · -- what was there is gone
    have hnot : ¬(h.reaches (servicePathGet i config.debug) d = true ∧ a.unlink = false) := by
      rintro ⟨hreaches, hunlink⟩
      obtain ⟨s, hs, -⟩ := reaches_iff_bound.mp hreaches
      rcases hclear with hnone | htrue
      · rw [hnone] at hs
        cases hs
      · rw [htrue] at hunlink
        cases hunlink
    rw [if_pos hclear] at hpath
    rw [or_iff_left hnot, reaches_iff_bound, hpath, listening_append hdaemons, hsecond]
    constructor
    · rintro ⟨s, hs, hlistens⟩
      rw [Option.ite_none_right_eq_some] at hs
      obtain rfl := Option.some.inj hs.2
      split_ifs at hlistens with hd hall
      · exact ⟨hd, hall⟩
      · exact absurd (hknown.listening hlistens) (Nat.lt_irrefl _)
    · rintro ⟨hd, hall⟩
      refine ⟨h.sockets, if_pos hall.2.1, ?_⟩
      rw [if_pos hd, if_pos hall]
  · -- the address is in use
    have hunlink : a.unlink = false := Bool.eq_false_iff.mpr fun htrue => hclear (.inr htrue)
    rw [if_neg hclear] at hpath
    rw [or_iff_right fun hand => hclear hand.2.1, and_iff_left hunlink]
    refine reaches_added hpath hdaemons fun s _ hs => ?_
    dsimp only at hs
    rw [hsecond, if_neg fun hand => hclear hand.1] at hs
    cases hs

/-- A daemon that starts with the other flag. -/
theorem serverInit_other (hi : Fits i) (hknown : Known h) {config : Config} {a : SetupAnswers}
    (hown : prefetchServerSocket a h = none) (hother : config.debug ≠ debug) :
    (serverInit i config a h).reaches (servicePathGet i debug) d = true ↔
      h.reaches (servicePathGet i debug) d = true := by
  refine reaches_added (socketSetup_other hi (hi.path_ne hother.symm)) (serverInit_daemons config a)
    fun s hs hnew => ?_
  -- its socket is a new one
  rw [socketSetup_second hown hnew] at hs
  exact Nat.lt_irrefl _ (hknown.bound hs)

theorem main_reaches (hi : Fits i) (hknown : Known h) (argv : List String) (a : SetupAnswers) :
    (main i argv a h).reaches (servicePathGet i debug) d = true ↔ Sets i debug d h (.start argv a) ∨
      h.reaches (servicePathGet i debug) d = true ∧ Keeps i debug d h (.start argv a) := by
  simp only [main, Sets, Keeps]
  cases hargs : parseArgs argv with
  | none => simp
  | some config =>
    dsimp only
    cases hcheck : initCheck a with
    | false => simp
    | true =>
      rw [if_pos rfl]
      cases hown : prefetchServerSocket a h with
      | some s₀ =>
        rw [serverInit_held hown]
        simp
      | none =>
        by_cases hsame : config.debug = debug
        · subst hsame
          rw [serverInit_own hi hknown hown]
          simp
        · rw [serverInit_other hi hknown hown hsame]
          simp [hsame]

theorem serverShutdown_reaches (hi : Fits i) (d' : ℕ) (unlinks : Bool) :
    (serverShutdown i unlinks d' h).reaches (servicePathGet i debug) d = true ↔
      h.reaches (servicePathGet i debug) d = true ∧ Keeps i debug d h (.stop d' unlinks) := by
  simp only [serverShutdown, Keeps]
  split
  · next config s hget =>
    have hunlinked : (h.unlink (servicePathGet i config.debug) unlinks).reaches (servicePathGet i debug) d =
        true ↔ h.reaches (servicePathGet i debug) d = true ∧ (config.debug = debug → unlinks = false) := by
      by_cases hsame : config.debug = debug ∧ unlinks = true
      · obtain ⟨rfl, rfl⟩ := hsame
        rw [reaches_iff_bound, unlink_bound]
        simp
      · have hbound : (h.unlink (servicePathGet i config.debug) unlinks).bound (servicePathGet i debug) =
            h.bound (servicePathGet i debug) := by
          rw [unlink_bound, if_neg]
          rintro ⟨hunlinks, hpath⟩
          refine hsame ⟨?_, hunlinks⟩
          by_contra hne
          exact hi.path_ne (Ne.symm hne) hpath
        rw [reaches_congr hbound (listening_congr (unlink_daemons ..))]
        refine (and_iff_left fun hflag => Bool.eq_false_iff.mpr fun hunlinks => ?_).symm
        exact hsame ⟨hflag, hunlinks⟩
    rw [reaches_ended, hunlinked, hget]
    constructor
    · rintro ⟨hne, hreaches, hkeeps⟩
      refine ⟨hreaches, fun config' s' heq => ⟨hne, ?_⟩⟩
      obtain ⟨rfl, -⟩ := Prod.mk.inj (Option.some.inj heq)
      exact hkeeps
    · rintro ⟨hreaches, hkeeps⟩
      exact ⟨(hkeeps config s rfl).1, hreaches, (hkeeps config s rfl).2⟩
  · next hnot =>
    refine (and_iff_left fun config s hget => ?_).symm
    exact absurd hget (hnot config s)

/-- **A step sets whom a client reaches, or keeps it.** -/
theorem reaches_step (hi : Fits i) (hknown : Known h) (e : Event) :
    (step i h e).reaches (servicePathGet i debug) d = true ↔
      Sets i debug d h e ∨ h.reaches (servicePathGet i debug) d = true ∧ Keeps i debug d h e := by
  cases e with
  | start argv a => exact main_reaches hi hknown argv a
  | stop d' unlinks =>
    exact (serverShutdown_reaches hi d' unlinks).trans (Iff.of_eq (false_or _)).symm
  | kill d' =>
    exact ((reaches_ended d').trans and_comm).trans (Iff.of_eq (false_or _)).symm
  | systemd path =>
    refine Iff.trans ?_ (Iff.of_eq (false_or _)).symm
    change Host.reaches { h.bind path with held := some h.sockets } _ d = true ↔
      _ ∧ path ≠ servicePathGet i debug
    by_cases hpath : path = servicePathGet i debug
    · subst hpath
      rw [reaches_iff_bound]
      refine iff_of_false ?_ fun hand => hand.2 rfl
      rintro ⟨s, hs, hlistens⟩
      have hnew : some h.sockets = some s := ((bind_bound ..).trans (if_pos rfl)).symm.trans hs
      obtain rfl := Option.some.inj hnew
      have hold : h.listening d = some h.sockets := hlistens
      exact Nat.lt_irrefl _ (hknown.listening hold)
    · rw [and_iff_left hpath]
      have hbound : (h.bind path).bound (servicePathGet i debug) = h.bound (servicePathGet i debug) :=
        (bind_bound ..).trans (if_neg (Ne.symm hpath))
      exact Iff.of_eq (congrArg (· = true) (reaches_congr hbound rfl))

/-! ### Runs -/

/-- Nothing has been started. -/
def Host.empty : Host := ⟨fun _ => none, 0, none, []⟩

theorem known_empty : Known .empty where
  bound hs := nomatch hs
  held hs := nomatch hs
  listening hs := nomatch hs

theorem known_unlink (hknown : Known h) (path : String) (works : Bool) : Known (h.unlink path works) where
  bound {path' s} hs := by
    rw [unlink_bound] at hs
    rw [unlink_sockets]
    split_ifs at hs
    exact hknown.bound hs
  held hs := by
    rw [unlink_held] at hs
    rw [unlink_sockets]
    exact hknown.held hs
  listening {d s} hs := by
    rw [listening_congr (unlink_daemons ..)] at hs
    rw [unlink_sockets]
    exact hknown.listening hs

theorem known_bind (hknown : Known h) (path : String) : Known (h.bind path) where
  bound {path' s} hs := by
    rw [bind_bound] at hs
    split_ifs at hs
    · rw [← Option.some.inj hs]
      exact Nat.lt_succ_self _
    · exact Nat.lt_succ_of_lt (hknown.bound hs)
  held hs := Nat.lt_succ_of_lt (hknown.held hs)
  listening hs := Nat.lt_succ_of_lt (hknown.listening hs)

theorem known_ended (hknown : Known h) (d' : ℕ) : Known (ended d' h) where
  bound := hknown.bound
  held := hknown.held
  listening {d s} hs := by
    rw [listening_ended] at hs
    split_ifs at hs
    exact hknown.listening hs

/-- A daemon is added that listens on a socket that was made. -/
theorem known_added {q : Config × Option ℕ} (hknown : Known h) (hq : ∀ s, q.2 = some s → s < h.sockets) :
    Known { h with daemons := h.daemons ++ [q] } where
  bound := hknown.bound
  held := hknown.held
  listening {d s} hs := by
    rw [listening_append rfl] at hs
    split_ifs at hs
    · exact hq s hs
    · exact hknown.listening hs

theorem known_socketSetup (hknown : Known h) (debug : Bool) (a : SetupAnswers) :
    Known (socketSetup i debug a h).1 ∧
      ∀ s, (socketSetup i debug a h).2 = some s → s < (socketSetup i debug a h).1.sockets := by
  have hunlinked := known_unlink hknown (servicePathGet i debug) a.unlink
  unfold socketSetup
  split
  · next s₀ hheld =>
    refine ⟨hknown, fun s hs => ?_⟩
    obtain rfl := Option.some.inj hs
    unfold prefetchServerSocket at hheld
    rw [Option.ite_none_right_eq_some] at hheld
    exact hknown.held hheld.2
  · dsimp only
    split
    · refine ⟨known_bind hunlinked _, fun s hs => ?_⟩
      rw [Option.ite_none_right_eq_some] at hs
      rw [← Option.some.inj hs.2]
      exact Nat.lt_succ_self _
    · exact ⟨hunlinked, fun s hs => by cases hs⟩

theorem known_step (i : Sockets) (e : Event) (hknown : Known h) : Known (step i h e) := by
  cases e with
  | start argv a =>
    change Known (main i argv a h)
    unfold main
    split
    · exact hknown
    · next config _ =>
      split_ifs
      · have hsetup := known_socketSetup (i := i) hknown config.debug a
        exact known_added hsetup.1 hsetup.2
      · exact hknown
  | stop d' unlinks =>
    change Known (serverShutdown i unlinks d' h)
    unfold serverShutdown
    split
    · exact known_ended (known_unlink hknown _ _) d'
    · exact hknown
  | kill d' => exact known_ended hknown d'
  | systemd path =>
    have hbound := known_bind hknown path
    refine ⟨hbound.bound, fun hs => ?_, hbound.listening⟩
    rw [← Option.some.inj hs]
    exact Nat.lt_succ_self _

/-- **Which daemon a client reaches**: one that has started, with the client's flag or with systemd's
socket, as long as it has not ended, and nothing has removed the path: no daemon with this flag for its own
start or in its shutdown, and systemd not for a new socket. -/
theorem reaches_iff (i : Sockets) (hi : Fits i) (argv : List String) (a : Client.Calls.Answers)
    (es : List Event) (d : ℕ) :
    (run (step i) .empty es).reaches (spClientInit i argv a).address d = true ↔
      ∃ pre e post, es = pre ++ e :: post ∧
        Sets i (Client.Calls.parseArgs argv) d (run (step i) .empty pre) e ∧
        Meets (step i) (Keeps i (Client.Calls.parseArgs argv) d) (run (step i) .empty (pre ++ [e]))
          post := by
  change (run (step i) .empty es).reaches (serviceAddress i (Client.Calls.parseArgs argv)) d = true ↔ _
  rw [hi.address]
  have hsince := run_since (I := Known)
    (P := fun h => h.reaches (servicePathGet i (Client.Calls.parseArgs argv)) d = true)
    (fun _ e hknown => known_step i e hknown) (fun _ e hknown => reaches_step hi hknown e) es .empty
    known_empty
  rw [hsince, or_iff_right fun hand => by cases hand.1]

theorem fits_sockets : Fits sockets := ⟨by decide, by decide⟩

/-- systemd makes the socket and starts a daemon, which is shut down, and then a second one. -/
def startedTwice : List Event :=
  [.systemd "/run/spawny/spawny.service", .start ["sp-daemon"] ⟨0, none, 1, true, true, true⟩,
    .stop 0 true, .start ["sp-daemon"] ⟨0, none, 1, true, true, true⟩]

theorem reaches_iff_startedTwice : (run (step sockets) .empty startedTwice).reaches
    (spClientInit sockets ["greeter"] ⟨true, true, none⟩).address 1 = true ↔
      ∃ pre e post, startedTwice = pre ++ e :: post ∧
        Sets sockets (Client.Calls.parseArgs ["greeter"]) 1 (run (step sockets) .empty pre) e ∧
        Meets (step sockets) (Keeps sockets (Client.Calls.parseArgs ["greeter"]) 1)
          (run (step sockets) .empty (pre ++ [e])) post :=
  reaches_iff sockets fits_sockets ["greeter"] ⟨true, true, none⟩ startedTwice 1

/-- The second daemon listens, but the first one has removed the path. -/
example : (run (step sockets) .empty startedTwice).listening 1 = some 0 ∧
    (run (step sockets) .empty startedTwice).reaches "/run/spawny/spawny.service" 1 = false := by
  decide

end Spawny.Daemon.Addresses
