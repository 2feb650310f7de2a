import Xpra.Client.CommandLine
import Xpra.Proofs.ConnectAttempts

/-! The options of the command line and the checks of TLS. One flag switches the checks
off, on either way to a connection, and nothing turns it on but the argument of that name. -/

namespace Xpra.Proofs.CommandLine
open Xpra.Net Xpra.Client Library ConnectAttempts

variable {host : Host} {network : Network}

/-! ### Reading the arguments -/

def targets (args : List String) : List String := args.filter fun arg => !dashed arg

def known (arg : String) : Prop := arg ∈ HELP_OPTIONS ∨ arg = VERSION_OPTION ∨ arg = SSL_INSECURE

/-- No option is misspelled. -/
def Spelled (args : List String) : Prop := ∀ arg ∈ args, dashed arg = true → known arg

/-- What a list of arguments without a mistake says. -/
def Reads (options : Options) (args : List String) (result : Options) : Prop :=
  Spelled args ∧ (options.target.toList ++ targets args).length ≤ 1 ∧
    result.target = (options.target.toList ++ targets args).head? ∧
    (result.sslInsecure = true ↔ options.sslInsecure = true ∨ SSL_INSECURE ∈ args)

theorem known_dashed {arg : String} (known : known arg) : dashed arg = true := by
  rcases known with help | rfl | rfl
  · rcases List.mem_cons.mp help with rfl | help
    · rfl
    · rcases List.mem_cons.mp help with rfl | none
      · rfl
      · cases none
  · rfl
  · rfl

theorem spelled_cons {arg : String} {args : List String} : Spelled (arg :: args) ↔ (dashed arg = true → known arg) ∧ Spelled args :=
  List.forall_mem_cons

theorem targets_dashed {arg : String} {args : List String} (option : dashed arg = true) : targets (arg :: args) = targets args := by
  rw [targets, List.filter_cons_of_neg (by rw [option]; decide), targets]

/-- An argument that is spelled right and names no second target changes the options
as `Reads` has it; any other is an error. -/
theorem reads_cons (quote : String → String) (options result : Options) (arg : String) (args : List String) :
    Reads options (arg :: args) result ↔ ∃ next, parseArg quote options arg = .ok next ∧ Reads next args result := by
  rw [parseArg]
  by_cases shown : arg ∈ HELP_OPTIONS ∨ arg = VERSION_OPTION
  · have spelled : known arg := shown.imp_right .inl
    have other : SSL_INSECURE ≠ arg := by
      rintro rfl
      revert shown
      decide
    rw [if_pos shown]
    simp only [Except.ok.injEq, exists_eq_left', Reads, spelled_cons, targets_dashed (known_dashed spelled), List.mem_cons,
      spelled, implies_true, true_and, other, false_or]
  · rw [if_neg shown]
    by_cases flag : arg = SSL_INSECURE
    · subst flag
      have spelled : known SSL_INSECURE := .inr (.inr rfl)
      rw [if_pos rfl]
      simp only [Except.ok.injEq, exists_eq_left', Reads, spelled_cons, targets_dashed (known_dashed spelled), List.mem_cons,
        spelled, implies_true, true_and, true_or, or_true]
    · rw [if_neg flag]
      by_cases option : dashed arg = true
      · rw [if_pos option]
        refine ⟨fun reads => ?_, nofun⟩
        rcases reads.1 arg List.mem_cons_self option with help | version | insecure
        · exact absurd (.inl help) shown
        · exact absurd (.inr version) shown
        · exact absurd insecure flag
      · rw [if_neg option]
        have named : targets (arg :: args) = arg :: targets args := by
          rw [targets, List.filter_cons_of_pos (by simpa using option), targets]
        have other : SSL_INSECURE ≠ arg := Ne.symm flag
        cases given : options.target with
        | some first =>
          refine ⟨fun reads => ?_, nofun⟩
          have many := reads.2.1
          rw [given, named] at many
          simp at many
        | none =>
          simp only [Except.ok.injEq, exists_eq_left', Reads, spelled_cons, option, Bool.false_eq_true, false_implies,
            true_and, given, named, Option.toList_none, List.nil_append, Option.toList_some, List.singleton_append,
            List.mem_cons, other, false_or]

theorem foldlM_parseArg_iff {quote : String → String} {args : List String} {options result : Options} :
    args.foldlM (parseArg quote) options = .ok result ↔ Reads options args result := by
  induction args generalizing options with
  | nil =>
    obtain ⟨target, insecure⟩ := options
    obtain ⟨named, flagged⟩ := result
    have spelled : Spelled [] := nofun
    cases target <;> cases insecure <;> cases flagged <;> simp [Reads, spelled, targets, pure, Except.pure, eq_comm]
  | cons arg args ih =>
    rw [reads_cons quote, List.foldlM_cons]
    cases parseArg quote options arg with
    | error message => exact ⟨nofun, nofun⟩
    | ok next =>
      simp only [Except.ok.injEq, exists_eq_left', ← ih]
      rfl

theorem head?_perm {α : Type} {items others : List α} (permuted : items.Perm others) (single : others.length ≤ 1) :
    items.head? = others.head? := by
  match others, single with
  | [], _ => rw [permuted.eq_nil]
  | [item], _ => rw [List.perm_singleton.mp permuted]

/-- What the arguments say does not depend on their order. -/
theorem reads_perm {args others : List String} {result : Options} (permuted : args.Perm others) :
    Reads {} args result ↔ Reads {} others result := by
  have named : (targets args).Perm (targets others) := permuted.filter _
  have spelled : Spelled args ↔ Spelled others := forall_congr' fun arg => by rw [permuted.mem_iff]
  rw [Reads, Reads, spelled, permuted.mem_iff]
  simp only [Option.toList_none, List.nil_append, named.length_eq]
  apply and_congr_right
  intro _
  apply and_congr_right
  intro single
  rw [head?_perm named single]

theorem parseArgs_perm {quote : String → String} {args others : List String} (permuted : (args.drop 1).Perm (others.drop 1)) :
    (parseArgs quote args).toOption = (parseArgs quote others).toOption := by
  have same (result : Options) : parseArgs quote args = .ok result ↔ parseArgs quote others = .ok result := by
    rw [parseArgs, parseArgs, foldlM_parseArg_iff, foldlM_parseArg_iff, reads_perm permuted]
  cases read : parseArgs quote args with
  | ok result => rw [(same result).mp read]
  | error message =>
    cases reread : parseArgs quote others with
    | ok result => rw [(same result).mpr reread] at read; cases read
    | error _ => rfl

/-! ### Connecting -/

/-- A certificate or its hostname is not looked at. -/
def Unverified : Operation → Prop
  | .handshake _ connector => connector.acceptInvalidCerts = true ∨ connector.acceptInvalidHostnames = true
  | _ => False

def Tls (scheme : Scheme) : Prop := scheme = .tls ∨ scheme = .webSocketTls

section Dialing
variable {ε φ α β : Type} {holds : Operation → Prop}

def Every (holds : Operation → Prop) (dial : Dial ε α) : Prop := ∀ operation ∈ dial.operations, holds operation

theorem every_bind {first : Dial ε α} {next : α → Dial ε β} (start : Every holds first) (rest : ∀ value, Every holds (next value)) :
    Every holds (first >>= next) := by
  obtain ⟨operations, outcome⟩ := first
  cases outcome with
  | ok value =>
    intro operation member
    rcases List.mem_append.mp member with earlier | later
    · exact start operation earlier
    · exact rest value operation later
  | error failure => exact start

theorem every_mapError {dial : Dial ε α} (every : Every holds dial) (change : ε → φ) : Every holds (dial.mapError change) :=
  every

theorem every_ofExcept (outcome : Except ε α) : Every holds (Dial.ofExcept outcome) := nofun

theorem every_perform {operation : Operation} (met : holds operation) (network : Network) :
    Every holds (Dial.perform network operation) := by
  intro other member
  rw [List.mem_singleton.mp member]
  exact met

end Dialing

theorem tlsConnect_checked (network : Network) (hostname : String) (insecure : Bool) :
    Every (fun operation => Unverified operation → insecure = true) (tlsConnect network hostname insecure) := by
  refine every_bind (every_ofExcept _) fun _ => every_bind (every_perform ?_ network) fun _ => every_ofExcept _
  cases insecure with
  | false =>
    intro unverified
    rcases unverified with certs | hostnames
    · cases certs
    · cases hostnames
  | true => exact fun _ => rfl

theorem connect_every (host : Host) (network : Network) {target : Target} {insecure : Bool} {holds : Operation → Prop}
    (plain : ∀ operation, (∀ hostname connector, operation ≠ .handshake hostname connector) → holds operation)
    (secured : Tls target.scheme → Every holds (tlsConnect network (hostOnly target.address) insecure)) :
    Every holds (connect host network target insecure) := by
  have performed (operation : Operation) (other : ∀ hostname connector, operation ≠ .handshake hostname connector)
      (change : String → ExitCode × String) : Every holds ((Dial.perform network operation).mapError change) :=
    every_mapError (every_perform (plain operation other) network) change
  have tcp := performed (.tcp target.address) nofun
  have websocket := performed (.websocket target.address target.path) nofun
  have ssh : Every holds (sshConnect host network target) := by
    rw [sshConnect]
    refine every_bind (every_ofExcept _) fun arguments => every_mapError (every_perform ?_ network) _
    exact plain (.ssh arguments) nofun
  rw [connect]
  split
  · exact nofun
  · cases scheme : target.scheme with
    | tcp => exact tcp _
    | tls => exact every_bind (tcp _) fun _ => every_mapError (secured (.inl scheme)) _
    | webSocket => exact every_bind (tcp _) fun _ => websocket _
    | webSocketTls =>
      exact every_bind (tcp _) fun _ => every_bind (every_mapError (secured (.inr scheme)) _) fun _ => websocket _
    | ssh => exact every_mapError ssh _
    | socket =>
      simp only []
      split
      · exact nofun
      · exact performed (.socket _) nofun _

/-- A connection is opened without the checks only when it is asked for, and with a
server that has something to check. -/
theorem connect_checked (host : Host) (network : Network) (target : Target) (insecure : Bool) :
    Every (fun operation => Unverified operation → insecure = true ∧ Tls target.scheme) (connect host network target insecure) := by
  refine connect_every host network ?_ ?_
  · intro operation other unverified
    cases operation with
    | handshake hostname connector => exact absurd rfl (other hostname connector)
    | tcp | socket | ssh | websocket => exact unverified.elim
  · intro secured operation member unverified
    exact ⟨tlsConnect_checked network _ insecure operation member unverified, secured⟩

theorem connect_refused (host : Host) (network : Network) {target : Target} (other : ¬ Tls target.scheme) :
    (connect host network target true).operations = [] ∧
      ∃ message, (connect host network target true).outcome = .error (.argumentMismatch, message) := by
  rw [connect, if_pos ⟨rfl, not_or.mp other⟩]
  exact ⟨rfl, _, rfl⟩

/-! ### The flag in the application -/

section App
variable {app next : App} {event : AppEvent}

theorem updateDialog_flag (app : App) (update : ConnectDialog → ConnectDialog) : (app.updateDialog update).sslInsecure = app.sslInsecure := by
  rw [App.updateDialog]
  split <;> rfl

theorem startConnect_flag (host : Host) (app : App) (details : ConnectDetails) :
    (app.startConnect host details).sslInsecure = app.sslInsecure := by
  rw [App.startConnect]
  split
  · exact updateDialog_flag app _
  · exact updateDialog_flag app _

theorem handleDialogEvent_flag (host : Host) (app : App) (id : WindowId) (input : WindowEvent) (pointed : Control → Bool) :
    (app.handleDialogEvent host id input pointed).sslInsecure = app.sslInsecure := by
  have turn := input_turn host app id input pointed
  generalize app.handleDialogEvent host id input pointed = handled at turn ⊢
  cases turn with
  | ignored | edited | cancelled => rfl
  | connects => exact startConnect_flag host _ _

theorem userEvent_flag (host : Host) (app : App) (env : Env) (audioWorker : Option AudioWorker) (packet : Packet) :
    (app.userEvent host env audioWorker packet).sslInsecure = app.sslInsecure := by
  rw [App.userEvent]
  split
  · rw [App.finishConnect]
    split
    · split
      · rfl
      · exact updateDialog_flag _ _
      · rfl
    · rfl
  · rfl

theorem step_flag (moved : App.step host event app = .ok next) : next.sslInsecure = app.sslInsecure := by
  cases step_turn moved with
  | shown env shown => cases shown <;> rfl
  | resumed | connects | session => rfl
  | input => exact handleDialogEvent_flag host app _ _ _
  | delivered => exact userEvent_flag host _ _ _ _
  | posts =>
    rw [App.posted]
    split <;> rfl

end App

/-! ### The program -/

section Program
variable {startup : Startup} {args : List String}

def Flagged (args : List String) : Prop := SSL_INSECURE ∈ args.drop 1

theorem parseArgs_flag {options : Options} (read : parseArgs host.quote args = .ok options) :
    options.sslInsecure = true ↔ Flagged args := by
  rw [(foldlM_parseArg_iff.mp read).2.2.2, Flagged]
  exact or_iff_right Bool.false_ne_true

theorem parseArgs_target {options : Options} (read : parseArgs host.quote args = .ok options) :
    targets (args.drop 1) = options.target.toList := by
  obtain ⟨-, single, first, -⟩ := foldlM_parseArg_iff.mp read
  rw [Option.toList_none, List.nil_append] at single first
  rw [first]
  match targets (args.drop 1), single with
  | [], _ => rfl
  | [only], _ => rfl

theorem startApp_flag {insecure : Bool} {session : Option (Target × String)} {app : App}
    (started : startApp startup insecure session = .runs app) : app.sslInsecure = insecure := by
  rw [startApp] at started
  split at started
  · cases started
  · cases session <;> cases started <;> rfl

/-- How far the program gets. -/
inductive Ran (host : Host) (network : Network) (startup : Startup) (args : List String) : List Operation × Start → Prop where
  | shown (arg : String) (member : arg ∈ args.drop 1) (shows : arg ∈ HELP_OPTIONS ∨ arg = VERSION_OPTION) :
      Ran host network startup args ([], .exits .ok)
  | misread (message : String) (misread : parseArgs host.quote args = .error message) :
      Ran host network startup args ([], .exits .argumentMismatch)
  | prompts (options : Options) (read : parseArgs host.quote args = .ok options) (unnamed : options.target = none) :
      Ran host network startup args ([], startApp startup options.sslInsecure none)
  | unknown (options : Options) (read : parseArgs host.quote args = .ok options) :
      Ran host network startup args ([], .exits .argumentMismatch)
  | connects (options : Options) (read : parseArgs host.quote args = .ok options) (typed : String) (target : Target)
      (named : options.target = some typed) (parsed : parseTarget host.quote typed = .ok target) (start : Start)
      (failed : ∀ failure, (connect host network target options.sslInsecure).outcome = .error failure → start = .exits failure.1)
      (connected : ∀ app, start = .runs app → app.sslInsecure = options.sslInsecure) :
      Ran host network startup args ((connect host network target options.sslInsecure).operations, start)

theorem run_ran (host : Host) (network : Network) (startup : Startup) (args : List String) :
    Ran host network startup args (run host network startup args) := by
  rw [run]
  split
  next help =>
    obtain ⟨arg, member, shows⟩ := List.any_eq_true.mp help
    exact .shown arg member (.inl (of_decide_eq_true shows))
  next =>
    split
    next version =>
      obtain ⟨arg, member, shows⟩ := List.any_eq_true.mp version
      exact .shown arg member (.inr (of_decide_eq_true shows))
    next =>
      split
      next message misread => exact .misread message misread
      next options read =>
        split
        next unnamed => exact .prompts options read unnamed
        next typed named =>
          split
          next => exact .unknown options read
          next target parsed =>
            simp only []
            split
            next exitCode message failed =>
              refine .connects options read typed target named parsed (.exits exitCode) (fun failure refused => ?_)
                fun app started => Start.noConfusion started
              rw [failed] at refused
              cases refused
              rfl
            next connected =>
              refine .connects options read typed target named parsed (startApp startup options.sslInsecure (some (target, typed)))
                (fun failure refused => ?_) fun app started => startApp_flag started
              rw [connected] at refused
              cases refused

theorem run_flag {app : App} (started : (run host network startup args).2 = .runs app) :
    app.sslInsecure = true ↔ Flagged args := by
  have ran := run_ran host network startup args
  generalize run host network startup args = outcome at ran started
  cases ran with
  | shown | misread | unknown => cases started
  | prompts options read =>
    have begun : startApp startup options.sslInsecure none = .runs app := started
    rw [startApp_flag begun, parseArgs_flag read]
  | connects options read typed target named parsed start failed connected => rw [connected app started, parseArgs_flag read]

section Outcomes
variable {outcome : List Operation × Start}

theorem Ran.checked (ran : Ran host network startup args outcome) {operation : Operation} (member : operation ∈ outcome.1)
    (unverified : Unverified operation) :
    Flagged args ∧ ∃ typed ∈ args.drop 1, ∃ target, parseTarget host.quote typed = .ok target ∧ Tls target.scheme := by
  cases ran with
  | shown | misread | unknown | prompts => cases member
  | connects options read typed target named parsed =>
    obtain ⟨flag, secured⟩ := connect_checked host network target options.sslInsecure operation member unverified
    have single : typed ∈ targets (args.drop 1) := by
      rw [parseArgs_target read, named]
      exact List.mem_singleton_self typed
    exact ⟨(parseArgs_flag read).mp flag, typed, List.mem_of_mem_filter single, target, parsed, secured⟩

theorem Ran.refused (ran : Ran host network startup args outcome) {typed : String} (given : typed ∈ targets (args.drop 1))
    {target : Target} (parsed : parseTarget host.quote typed = .ok target) (other : ¬ Tls target.scheme) (flagged : Flagged args) :
    outcome.1 = [] ∧ ∃ exitCode, outcome.2 = .exits exitCode := by
  cases ran with
  | shown | misread | unknown => exact ⟨rfl, _, rfl⟩
  | prompts options read unnamed =>
    rw [parseArgs_target read, unnamed] at given
    cases given
  | connects options read named aimed targeted reparsed start failed =>
    rw [parseArgs_target read, targeted] at given
    obtain rfl := List.mem_singleton.mp given
    obtain rfl : target = aimed := Except.ok.inj (parsed.symm.trans reparsed)
    rw [(parseArgs_flag read).mpr flagged] at failed ⊢
    obtain ⟨none, message, error⟩ := connect_refused host network other
    exact ⟨none, _, failed _ error⟩

/-- Neither an option that is not known nor a second target is read. -/
theorem parseArgs_strict {options : Options} (read : parseArgs host.quote args = .ok options)
    (hidden : ∀ arg ∈ args.drop 1, arg ∉ HELP_OPTIONS ∧ arg ≠ VERSION_OPTION) :
    (∀ arg ∈ args.drop 1, dashed arg = true → arg = SSL_INSECURE) ∧ (targets (args.drop 1)).length ≤ 1 := by
  obtain ⟨spelled, single, -⟩ := foldlM_parseArg_iff.mp read
  refine ⟨fun arg member option => ?_, single⟩
  rcases spelled arg member option with help | version | insecure
  · exact absurd help (hidden arg member).1
  · exact absurd version (hidden arg member).2
  · exact insecure

theorem Ran.strict (ran : Ran host network startup args outcome)
    (hidden : ∀ arg ∈ args.drop 1, arg ∉ HELP_OPTIONS ∧ arg ≠ VERSION_OPTION)
    (wrong : (∃ arg ∈ args.drop 1, dashed arg = true ∧ arg ≠ SSL_INSECURE) ∨ 1 < (targets (args.drop 1)).length) :
    outcome = ([], .exits .argumentMismatch) := by
  have misread (options : Options) (read : parseArgs host.quote args = .ok options) : False := by
    obtain ⟨spelled, single⟩ := parseArgs_strict read hidden
    rcases wrong with ⟨arg, member, option, other⟩ | many
    · exact other (spelled arg member option)
    · exact absurd many (Nat.not_lt.mpr single)
  cases ran with
  | shown arg member shows =>
    rcases shows with help | version
    · exact absurd help (hidden arg member).1
    · exact absurd version (hidden arg member).2
  | misread | unknown => rfl
  | prompts options read | connects options read => exact (misread options read).elim

end Outcomes

theorem run_perm {others : List String} (permuted : (args.drop 1).Perm (others.drop 1)) :
    run host network startup args = run host network startup others := by
  have read : (parseArgs host.quote args).toOption = (parseArgs host.quote others).toOption := parseArgs_perm permuted
  rw [run, run, permuted.any_eq, permuted.any_eq]
  cases first : parseArgs host.quote args with
  | ok options =>
    cases second : parseArgs host.quote others with
    | ok same =>
      rw [first, second] at read
      cases read
      rfl
    | error message =>
      rw [first, second] at read
      cases read
  | error message =>
    cases second : parseArgs host.quote others with
    | ok options =>
      rw [first, second] at read
      cases read
    | error other => rfl

/-- A worker of the dialog leaves out the checks only with the flag and TLS, and turns
down every other server that it is given with the flag. -/
structure Guarded (host : Host) (flagged : Prop) (insecure : Bool) (worker : ConnectWorker) : Prop where
  checked : ∀ network, Every (fun operation => Unverified operation → flagged ∧ Tls worker.target.scheme)
    (connect host network worker.target insecure)
  refused : flagged → ¬ Tls worker.target.scheme →
    (∀ network, (connect host network worker.target insecure).operations = []) ∧
      ∀ made, ∃ message, worker.connect insecure made = .error (.argumentMismatch, message)

theorem guarded {flagged : Prop} {insecure : Bool} (same : insecure = true ↔ flagged) (worker : ConnectWorker) :
    Guarded host flagged insecure worker := by
  constructor
  · intro network operation member unverified
    rw [← same]
    exact connect_checked host network worker.target insecure operation member unverified
  · intro flag other
    rw [same.mpr flag]
    refine ⟨fun network => (connect_refused host network other).1, fun made => ?_⟩
    rw [ConnectWorker.connect, if_pos ⟨rfl, not_or.mp other⟩]
    exact ⟨_, rfl⟩

/-- The checks of TLS, as the arguments have them. -/
structure Guards (host : Host) (network : Network) (startup : Startup) (args : List String) : Prop where
  checked : ∀ operation ∈ (run host network startup args).1, Unverified operation →
    Flagged args ∧ ∃ typed ∈ args.drop 1, ∃ target, parseTarget host.quote typed = .ok target ∧ Tls target.scheme
  refused : ∀ typed ∈ targets (args.drop 1), ∀ target, parseTarget host.quote typed = .ok target → ¬ Tls target.scheme →
    Flagged args → (run host network startup args).1 = [] ∧ ∃ exitCode, (run host network startup args).2 = .exits exitCode
  strict : (∀ arg ∈ args.drop 1, arg ∉ HELP_OPTIONS ∧ arg ≠ VERSION_OPTION) →
    ((∃ arg ∈ args.drop 1, dashed arg = true ∧ arg ≠ SSL_INSECURE) ∨ 1 < (targets (args.drop 1)).length) →
      run host network startup args = ([], .exits .argumentMismatch)
  /-- On every run that the program goes on to, whatever the user enters. -/
  dialog : ∀ app, (run host network startup args).2 = .runs app → ∀ events,
    Machine.Along (App.step host) (fun event app =>
      ∀ worker, app.connecting event = some worker → Guarded host (Flagged args) app.sslInsecure worker) events app
  order : ∀ others, (args.drop 1).Perm (others.drop 1) →
    (parseArgs host.quote args).toOption = (parseArgs host.quote others).toOption ∧
      run host network startup args = run host network startup others

theorem command_line_guards (host : Host) (network : Network) (startup : Startup) (args : List String) :
    Guards host network startup args := by
  have ran := run_ran host network startup args
  constructor
  · intro operation member unverified
    exact ran.checked member unverified
  · intro typed given target parsed other flagged
    exact ran.refused given parsed other flagged
  · intro hidden wrong
    exact ran.strict hidden wrong
  · intro app started events
    exact Machine.along_of_invariant (App.step host) (fun later => later.sslInsecure = app.sslInsecure)
      (fun event state next same moved => (step_flag moved).trans same)
      (fun event state same worker _ => guarded (by rw [same, run_flag started]) worker) events rfl
  · intro others permuted
    exact ⟨parseArgs_perm permuted, run_perm permuted⟩

end Program

end Xpra.Proofs.CommandLine
