import Mathlib.Logic.Relation
import PostgresAccess.Client
import PostgresAccess.Proofs.Assembly.Soundness
import PostgresAccess.Session

/-!
# Where a connection leads

Whether a connection enters a tunnel is decided twice.  The assembler looks at the jump host of the
settings and draws a port for the tunnel; the arguments of the driver look at what the descriptor
holds of both.  The two decisions agree (`Client.address_of_outcome`), for settings of any kind: a
connection with a jump host never goes to the target itself.

The port of a tunnel depends on nothing but the allocator and the target, so every connection to the
target through a jump host enters at the same port (`Tunnel.Allocator.AlwaysEntersAt`), with
whatever other attributes and whatever was done before.  In a session that is seen step by step: no
step changes the assembler (`Session.assembler_of_step`), and so a target keeps its port for as long
as the session lasts (`Session.alwaysEntersAt_of_steps`).

The main result, `Client.routed_of_parse`, says all this of settings that were read.
-/

namespace PostgresAccess

open Assembly Result

theorem Value.isFilled_filled (v : Value) : v.filled.isFilled = v.isFilled := by
  unfold Value.filled
  split
  · rfl
  · rename_i hunfilled
    exact (Bool.eq_false_iff.2 hunfilled).symm

namespace Client

/-! ## Addresses -/

theorem address_of_arguments {library : Tls.Library} {d : Descriptor}
    {arguments : ConnectArguments} (h : Client.arguments library d = .ok arguments) :
    address d = (arguments.host, arguments.port) := by
  obtain ⟨timeout, -, h⟩ := bind_eq_ok.1 h
  obtain ⟨tls, -, h⟩ := bind_eq_ok.1 h
  cases h
  rfl

/-- The address of a descriptor is the local end of the tunnel to its target exactly if the settings
name a jump host, and otherwise the target. -/
theorem address_of_outcome {assembler : Assembler} {runner : Runner} {s : Settings}
    {d : Descriptor} (h : (assemble assembler runner s).outcome = .ok d) :
    (s.jumphost.isFilled = true ∧ ∃ n : Nat,
      Tunnel.port assembler.allocator s.host s.port = .ok n ∧
      address d = (.text tunnelHost, .int n)) ∨
    (s.jumphost.isFilled = false ∧ address d = (s.host, s.port)) := by
  obtain ⟨⟨version, host, port, entry⟩, certificate, password, htarget, rfl⟩ :=
    resolved_of_outcome h
  obtain ⟨-, ⟨-, rfl⟩, ⟨-, rfl⟩, hentry⟩ := targetOf_eq_ok.1 htarget
  rw [tunnelPort?_eq_ok] at hentry
  -- a descriptor keeps a jump host only if it is filled, so what the client finds is what the
  -- assembler has found
  cases hjumphost : s.jumphost.isFilled with
  | true =>
    rw [if_pos hjumphost] at hentry
    obtain ⟨n, hn, rfl⟩ := hentry
    refine .inl ⟨rfl, n, hn, ?_⟩
    simp [address, resolved, Value.isFilled_filled, hjumphost, Value.ofInt?, Value.isNull]
  | false =>
    refine .inr ⟨rfl, ?_⟩
    simp [address, resolved, Value.isFilled_filled, hjumphost]

end Client

/-- Every connection to a target through a jump host enters at one port, if it is assembled with one
allocator: the other settings, what they are assembled with, and what was assembled before do not
matter. -/
def Tunnel.Allocator.AlwaysEntersAt (allocator : Tunnel.Allocator) (host port : Value) (n : Nat) :
    Prop :=
  ∀ (assembler : Assembler) (runner : Runner) (s : Settings) (d : Descriptor)
    (library : Tls.Library) (arguments : ConnectArguments),
    assembler.allocator = allocator → s.host = host → s.port = port →
    s.jumphost.isFilled = true → (assemble assembler runner s).outcome = .ok d →
    Client.arguments library d = .ok arguments →
    arguments.host = .text Client.tunnelHost ∧ arguments.port = .int n

theorem Tunnel.Allocator.alwaysEntersAt {allocator : Tunnel.Allocator} {host port : Value} {n : Nat}
    (h : Tunnel.port allocator host port = .ok n) : allocator.AlwaysEntersAt host port n := by
  rintro assembler runner s d library arguments rfl rfl rfl hjumphost houtcome harguments
  have haddress := Client.address_of_arguments harguments
  obtain ⟨-, m, hm, hentry⟩ | ⟨hnone, -⟩ := Client.address_of_outcome houtcome
  · rw [h] at hm
    cases hm
    rw [hentry] at haddress
    obtain ⟨hhost, hport⟩ := Prod.mk.inj haddress
    exact ⟨hhost.symm, hport.symm⟩
  · rw [hjumphost] at hnone
    cases hnone

/-! ## Sessions -/

namespace Session

/-- A session after one more thing that is done in it. -/
inductive Step (session : Session) : Session → Prop
  | environment (env : Environment) : Step session { session with environment := env }
  | readSettings (name source : String) (data : Value) :
      Step session (session.readSettings name source data).2
  | buildSettings (name : String) (entries : Entries) :
      Step session (session.buildSettings name entries).2
  | assemble (source name : String) : Step session (session.assemble source name).2
  | replace (source name : String) (expected : Except Failure (Option Version.Operand))
      (parts : Entries) : Step session (session.replace source name expected parts).2

theorem assembler_of_keep {α : Type} (session : Session) (name : String) (item : α → Item)
    (result : Except Failure α) :
    (session.keep name item result).2.assembler = session.assembler := by
  cases result <;> rfl

theorem assembler_of_step {session next : Session} (h : session.Step next) :
    next.assembler = session.assembler := by
  cases h with
  | environment env => rfl
  | readSettings name source data => exact assembler_of_keep ..
  | buildSettings name entries => exact assembler_of_keep ..
  | assemble source name =>
    unfold Session.assemble
    cases session.find source with
    | error failure => rfl
    | ok item => exact assembler_of_keep ..
  | replace source name expected parts => exact assembler_of_keep ..

theorem assembler_of_steps {first later : Session}
    (h : Relation.ReflTransGen Step first later) : later.assembler = first.assembler := by
  induction h with
  | refl => rfl
  | tail _ step ih => rw [assembler_of_step step, ih]

/-- Whatever is done in a session, connections to a target through a jump host enter at the port
that its allocator gave the target at first. -/
theorem alwaysEntersAt_of_steps {first later : Session} {host port : Value} {n : Nat}
    (h : Relation.ReflTransGen Step first later)
    (hn : Tunnel.port first.assembler.allocator host port = .ok n) :
    later.assembler.allocator.AlwaysEntersAt host port n := by
  rw [assembler_of_steps h]
  exact Tunnel.Allocator.alwaysEntersAt hn

end Session

/-! ## Connections with settings that were read -/

namespace Client

/-- Where the arguments of a connection with some settings lead. -/
structure Routed (allocator : Tunnel.Allocator) (s : Settings) (arguments : ConnectArguments) :
    Prop where
  /-- With a jump host, the connection enters the tunnel to the target, at the port that the
  allocator gives the target, now and in every other assembling, and through all of a session. -/
  tunnelled : s.jumphost.IsNonEmptyText → arguments.host = .text "127.0.0.1" ∧
    ∃ n : Nat, Tunnel.port allocator s.host s.port = .ok n ∧ arguments.port = .int n ∧
      1024 ≤ n ∧ n ≤ 65535 ∧ allocator.AlwaysEntersAt s.host s.port n ∧
      ∀ first later : Session, first.assembler.allocator = allocator →
        Relation.ReflTransGen Session.Step first later →
        later.assembler.allocator.AlwaysEntersAt s.host s.port n
  /-- Without a jump host, the connection goes to the target. -/
  direct : ¬ s.jumphost.IsNonEmptyText → arguments.host = s.host ∧ arguments.port = s.port
  port : ∃ n : Int, arguments.port = .int n ∧ 1 ≤ n ∧ n ≤ 65535

/-- A jump host is never passed by: the arguments of a connection with settings that were read lead
into the tunnel to the target if there is a jump host, and otherwise to the target. -/
theorem routed_of_parse {env : Environment} {source : String} {data : Value} {s : Settings}
    {assembler : Assembler} {runner : Runner} {d : Descriptor} {library : Tls.Library}
    {arguments : ConnectArguments} (hparse : Settings.parse env source data = .ok s)
    (hassembled : (assemble assembler runner s).outcome = .ok d)
    (harguments : Client.arguments library d = .ok arguments) :
    Routed assembler.allocator s arguments := by
  have hvalid := Settings.areValid_of_parse hparse
  have hoptional : s.jumphost.IsOptionalText := hvalid .jumphost
  have htarget : ∃ n : Int, s.port = .int n ∧ 1 ≤ n ∧ n ≤ 65535 := hvalid .port
  have haddress := address_of_arguments harguments
  obtain ⟨hfilled, n, hn, hentry⟩ | ⟨hunfilled, hentry⟩ := address_of_outcome hassembled
  · rw [hentry] at haddress
    obtain ⟨hhost, hport⟩ := Prod.mk.inj haddress
    obtain ⟨low, high⟩ : 1024 ≤ n ∧ n ≤ 65535 := Tunnel.port_bounds hn
    have hnamed := hoptional.isFilled_iff.1 hfilled
    exact {
      tunnelled := fun _ => ⟨hhost.symm, n, hn, hport.symm, low, high,
        Tunnel.Allocator.alwaysEntersAt hn, fun _ _ hallocator hsteps =>
          Session.alwaysEntersAt_of_steps hsteps (hallocator ▸ hn)⟩
      direct := fun hunnamed => absurd hnamed hunnamed
      port := ⟨n, hport.symm, by omega, by omega⟩ }
  · rw [hentry] at haddress
    obtain ⟨hhost, hport⟩ := Prod.mk.inj haddress
    have hunnamed : ¬ s.jumphost.IsNonEmptyText := by
      rw [← hoptional.isFilled_iff, hunfilled]
      nofun
    exact {
      tunnelled := fun hnamed => absurd hnamed hunnamed
      direct := fun _ => ⟨hhost.symm, hport.symm⟩
      port := hport ▸ htarget }

/-- The settings of a document with a bastion are assembled, and the connection is routed. -/
theorem routed_of_parse_tunnelled :
    Settings.parse .empty "<mapping>" tunnelledDocument = .ok tunnelledSettings ∧
    ∃ d arguments, (assemble ⟨.ofWord 7, .null, .text defaultApplicationName⟩
        (fun _ => ⟨.ok "secret\n", []⟩) tunnelledSettings).outcome = .ok d ∧
      Client.arguments .permissive d = .ok arguments ∧
      Routed (.ofWord 7) tunnelledSettings arguments := by
  have hparse : Settings.parse .empty "<mapping>" tunnelledDocument = .ok tunnelledSettings := rfl
  have hvalid := Settings.areValid_of_parse hparse
  have hsource : passwordSource .null tunnelledSettings =
      .ok (.helper ⟨"pass", ["show", "db main"], .null⟩) := rfl
  cases houtcome : (assemble ⟨.ofWord 7, .null, .text defaultApplicationName⟩
      (fun _ => ⟨.ok "secret\n", []⟩) tunnelledSettings).outcome with
  | error failure =>
    have hserves : (⟨.ofWord 7, .null, .text defaultApplicationName⟩ : Assembler).allocator.Serves
        tunnelledSettings := Tunnel.Allocator.serves_ofWord 7 tunnelledSettings
    have hrefused := (calls_of_helper _ hvalid hserves hsource).2 failure houtcome
    cases hrefused
  | ok d =>
    -- the arguments are built whatever certificate the descriptor has: the library refuses nothing
    obtain ⟨arguments, harguments⟩ :
        ∃ arguments, Client.arguments .permissive d = .ok arguments := by
      obtain ⟨target, certificate, password, -, rfl⟩ := resolved_of_outcome houtcome
      cases certificate <;> exact ⟨_, rfl⟩
    exact ⟨hparse, d, arguments, rfl, harguments, routed_of_parse hparse houtcome harguments⟩

end Client

end PostgresAccess
