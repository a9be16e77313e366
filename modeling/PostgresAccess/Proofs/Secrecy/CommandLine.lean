import PostgresAccess.CommandLine.Program
import PostgresAccess.Proofs.Secrecy.Reading

/-!
# What the program tells about the secret

The program prints a descriptor and writes notices, or reports a failure.  None of these depends on
the secret: two runs whose settings differ in it alone, and whose helpers do, leave the same outcome
behind (`run_alike`).  `secret_unobserved` puts together what is proved along the way: reports,
renderings, arguments of the driver, and outcomes of the program.

The settings of two runs differ in the secret alone if their files and their variables do
(`World.AlikeButSecret.of_inputs`).
-/

namespace PostgresAccess.CommandLine

/-- Two worlds in which a request leads to settings that differ in the secret at most, and to
replies of helpers that do.  Tunnels are given the same ports in both. -/
structure World.AlikeButSecret (v w : World) (request : Request) : Prop where
  allocator : v.allocator = w.allocator
  settings : Result.Alike Settings.AlikeButSecret (v.load request) (w.load request)
  replies : ∀ s, v.load request = .ok s →
    ∀ call ∈ (assemble (v.assembler request) v.runner s).calls,
      (v.runner call).AlikeButSecret (w.runner call)

/-- Files and variables that differ in the secret alone lead to settings that do. -/
theorem World.AlikeButSecret.of_inputs {v w : World} {request : Request}
    (hallocator : v.allocator = w.allocator) (hfile : v.standardFile = w.standardFile)
    (henvironment : v.environment.AlikeButSecret w.environment)
    (hattributes : ∀ path, Result.Alike Value.AreTablesAlike
      (Settings.attributesOfFile v.readFile path) (Settings.attributesOfFile w.readFile path))
    (hreplies : ∀ call, (v.runner call).AlikeButSecret (w.runner call)) :
    v.AlikeButSecret w request where
  allocator := hallocator
  settings := by
    unfold World.load World.fileOf
    rw [hfile]
    exact Settings.load_alike _ henvironment (hattributes _)
  replies := fun _ _ call _ => hreplies call

variable {v w : World} {request : Request}

theorem printed_alike {d e : Descriptor} (h : d.AlikeButSecret e) : printed d = printed e := by
  unfold printed
  rw [h.redacted]

theorem perform_alike (h : v.AlikeButSecret w request) : perform v request = perform w request := by
  have hassembler : w.assembler request = v.assembler request := by
    unfold World.assembler
    rw [h.allocator]
  have hsettings := h.settings
  unfold perform
  cases hload : v.load request with
  | error failure =>
    rw [hload] at hsettings
    rw [hsettings.eq_error]
  | ok s =>
    rw [hload] at hsettings
    obtain ⟨t, ht, halike⟩ := hsettings.exists_ok
    obtain ⟨hnotices, -, houtcome⟩ :=
      assemble_alike (v.assembler request) halike (h.replies s hload)
    rw [ht, hassembler]
    simp only [← hnotices]
    -- what is printed is decided by the two outcomes alone
    generalize (assemble (v.assembler request) v.runner s).outcome = x at houtcome ⊢
    generalize (assemble (v.assembler request) w.runner t).outcome = y at houtcome ⊢
    cases houtcome with
    | error failure => rfl
    | ok hd => simp only [printed_alike hd]

/-- Runs that differ in the secret alone leave the same outcome behind. -/
theorem run_alike (v w : World) (arguments : List String)
    (h : ∀ request, read arguments = .request request → v.AlikeButSecret w request) :
    run v arguments = run w arguments := by
  unfold run
  cases hread : read arguments with
  | help => rfl
  | fault fault => rfl
  | request request => exact perform_alike (h request hread)

end PostgresAccess.CommandLine

namespace PostgresAccess

open CommandLine in
/-- The secret is observed nowhere but in the password of a descriptor and of the arguments that are
made of it.  Assembling settings that differ in the secret alone reports the same notices and calls
and fails alike, or gives descriptors with the same renderings, and with arguments that differ in
the password alone; and the program leaves the same outcome behind.  Replies differ in the secret
alone where a call has an output on two systems that is not empty but for its line end. -/
theorem secret_unobserved :
    (∀ (assembler : Assembler) (runner runner' : Runner) (s t : Settings),
      s.AlikeButSecret t →
      (∀ call ∈ (assemble assembler runner s).calls,
        (runner call).AlikeButSecret (runner' call)) →
      (assemble assembler runner s).notices = (assemble assembler runner' t).notices ∧
      (assemble assembler runner s).calls = (assemble assembler runner' t).calls ∧
      Result.Alike
        (fun d e : Descriptor => e = { d with password := e.password } ∧
          d.literal = e.literal ∧ d.redacted = e.redacted ∧
          Client.argumentNotices d = Client.argumentNotices e ∧
          ∀ library, Result.Alike ConnectArguments.AlikeButSecret
            (Client.arguments library d) (Client.arguments library e))
        (assemble assembler runner s).outcome (assemble assembler runner' t).outcome) ∧
    (∀ (v w : World) (arguments : List String),
      (∀ request, read arguments = .request request → v.AlikeButSecret w request) →
      run v arguments = run w arguments) ∧
    ∀ (system system' : System) (call : HelperCall) (output output' : String),
      (system.runner call).outcome = .ok output → (system'.runner call).outcome = .ok output' →
      Assembly.stripLineEnd output ≠ "" → Assembly.stripLineEnd output' ≠ "" →
      (system.runner call).AlikeButSecret (system'.runner call) := by
  refine ⟨?_, run_alike, ?_⟩
  · intro assembler runner runner' s t hsettings hreplies
    obtain ⟨hnotices, hcalls, houtcome⟩ := assemble_alike assembler hsettings hreplies
    refine ⟨hnotices, hcalls, houtcome.mono ?_⟩
    intro d e h
    exact ⟨h.others, h.literal, h.redacted, h.argumentNotices, h.arguments⟩
  · intro system system' call output output' h h' hfilled hfilled'
    exact System.runner_alike h h' (.inr ⟨⟨_, rfl, hfilled⟩, _, rfl, hfilled'⟩)

/-- A world without a file of attributes, in which a variable and every helper give a secret. -/
def secretWorld (secret : String) : CommandLine.World where
  environment := .ofPairs [("PGPASSWORD", secret)]
  readFile := fun _ => .error .noSuchFile
  standardFile := "config.toml"
  allocator := .ofWord 7
  runner := fun _ => ⟨.ok (secret ++ "\n"), []⟩

theorem secretWorld_runner_alike (call : HelperCall) :
    ((secretWorld "alpha").runner call).AlikeButSecret ((secretWorld "beta").runner call) :=
  ⟨rfl, .ok (.inr ⟨⟨"alpha", rfl, by decide⟩, "beta", rfl, by decide⟩)⟩

theorem secretWorld_alike (request : CommandLine.Request) :
    (secretWorld "alpha").AlikeButSecret (secretWorld "beta") request := by
  refine .of_inputs rfl rfl ⟨?_, .inr ?_⟩ (fun path => ?_) secretWorld_runner_alike
  · intro v hv
    cases v <;> first | rfl | exact absurd rfl hv
  · exact ⟨by decide, by decide⟩
  · unfold Settings.attributesOfFile
    split
    · exact .error _
    · exact .ok ⟨[], [], rfl, rfl, .nil⟩

/-- The assembler of the world. -/
def secretAssembler : Assembler := ⟨.ofWord 7, .null, .text defaultApplicationName⟩

/-- The passwords "alpha" and "beta" of a helper are told apart by descriptors, but not by their
renderings; and those of a variable are not told apart by the program. -/
theorem secret_unobserved_alpha_beta :
    (∃ s d e, Settings.parse .empty "" (.table [("password_command", .text "pass db")]) = .ok s ∧
      (assemble secretAssembler (secretWorld "alpha").runner s).outcome = .ok d ∧
      (assemble secretAssembler (secretWorld "beta").runner s).outcome = .ok e ∧
      d.password = .text "alpha" ∧ e.password = .text "beta" ∧
      d.literal = e.literal ∧ d.redacted = e.redacted) ∧
    CommandLine.run (secretWorld "alpha") ["--verbose"] =
      CommandLine.run (secretWorld "beta") ["--verbose"] := by
  obtain ⟨hassemble, hrun, -⟩ := secret_unobserved
  constructor
  · obtain ⟨s, hs, d, e, hd, he, hpassword, hpassword'⟩ :
        ∃ s, Settings.parse .empty "" (.table [("password_command", .text "pass db")]) = .ok s ∧
          ∃ d e, (assemble secretAssembler (secretWorld "alpha").runner s).outcome = .ok d ∧
            (assemble secretAssembler (secretWorld "beta").runner s).outcome = .ok e ∧
            d.password = .text "alpha" ∧ e.password = .text "beta" :=
      ⟨_, rfl, _, _, rfl, rfl, rfl, rfl⟩
    obtain ⟨-, -, houtcome⟩ := hassemble secretAssembler (secretWorld "alpha").runner
      (secretWorld "beta").runner s s ⟨rfl, .inl rfl⟩ (fun call _ => secretWorld_runner_alike call)
    rw [hd, he] at houtcome
    cases houtcome with
    | ok h =>
      obtain ⟨-, hliteral, hredacted, -⟩ := h
      exact ⟨s, d, e, hs, hd, he, hpassword, hpassword', hliteral, hredacted⟩
  · exact hrun _ _ _ fun request _ => secretWorld_alike request

end PostgresAccess
