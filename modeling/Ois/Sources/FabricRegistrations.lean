import Ois.Sources.PolledTenants

/-!
# Registration with the fabric

A source is filed with the registry first, then its adapter with the socket, then, if it is polled,
its job with the engine. The three refuse by keys of their own, and what was filed before a refusal
stays.
-/

namespace Ois.Sources

open Ois.Library Ois.Kernel Command

namespace Fabric

section registration

variable (source : SourceDefinition) (adapter : SourceAdapter) (fabric : Fabric)

def stored : SourceDefinition := { source with status := .registered }

def jobOf : PollingJob where
  sourceId := source.sourceId
  adapter := adapter
  tenantId := source.tenantId
  workspaceId := source.workspaceId
  credentialId := source.credentialId

structure Knows (after : Fabric) : Prop where
  registry : after.registry.get source.key = some (stored source)
  socket : after.adapters.find? (·.sourceId = source.sourceId) = some adapter
  polling : source.mode = .poll → after.job? source.sourceId = some (jobOf source adapter)

def AllOrNothing : Prop :=
  ((∃ defn, (register source adapter).outcome fabric = .ok defn) ∧
      Knows source adapter ((register source adapter).stateAfter fabric)) ∨
    (∃ err, (register source adapter).outcome fabric = .error err) ∧
      ((register source adapter).stateAfter fabric).registry = fabric.registry ∧
      ((register source adapter).stateAfter fabric).adapters = fabric.adapters ∧
      ((register source adapter).stateAfter fabric).jobs = fabric.jobs

def IsDisabled : Prop :=
  ∃ held, fabric.registry.get source.key = some held ∧ held.status = .disabled

structure RegistersSoundly : Prop where
  allOrNothing : AllOrNothing source adapter fabric
  again : IsDisabled source fabric →
    ∃ defn, (register source adapter).outcome fabric = .ok defn

/-- The registry refuses the source, or nothing refuses it: its adapter has its name, under which
neither an adapter nor, if it is polled, a job is filed. -/
def Registrable : Prop :=
  (∃ held, fabric.registry.get source.key = some held ∧ held.status ≠ .disabled) ∨
    adapter.sourceId = source.sourceId ∧
      (∀ other ∈ fabric.adapters, other.sourceId ≠ source.sourceId) ∧
        (source.mode = .poll → fabric.job? source.sourceId = none)

inductive Registers : Except PyError SourceDefinition → Fabric → Prop where
  | refused (held : SourceDefinition) (found : fabric.registry.get source.key = some held)
      (active : held.status ≠ .disabled) :
      Registers (.error (alreadyRegistered source.sourceId)) fabric
  | unplugged
      (admitted : ∀ held, fabric.registry.get source.key = some held → held.status = .disabled)
      (taken : ∃ other ∈ fabric.adapters, other.sourceId = adapter.sourceId) :
      Registers (.error (adapterTaken adapter.sourceId))
        { fabric with registry := fabric.registry.put (stored source) }
  | unscheduled
      (admitted : ∀ held, fabric.registry.get source.key = some held → held.status = .disabled)
      (free : ∀ other ∈ fabric.adapters, other.sourceId ≠ adapter.sourceId)
      (polled : source.mode = .poll) (job : PollingJob)
      (taken : fabric.job? source.sourceId = some job) :
      Registers (.error (jobTaken source.sourceId)) { fabric with
          registry := fabric.registry.put (stored source)
          adapters := fabric.adapters ++ [adapter] }
  | registered
      (admitted : ∀ held, fabric.registry.get source.key = some held → held.status = .disabled)
      (free : ∀ other ∈ fabric.adapters, other.sourceId ≠ adapter.sourceId)
      (idle : source.mode = .poll → fabric.job? source.sourceId = none) :
      Registers (.ok (stored source)) { fabric with
          registry := fabric.registry.put (stored source)
          adapters := fabric.adapters ++ [adapter]
          jobs := fabric.jobs ++ if source.mode = .poll then [jobOf source adapter] else [] }

variable {source adapter fabric}

theorem control_register_iff {defn : SourceDefinition} :
    SourceControl.register fabric.registry source = .ok defn ↔
      (∀ held, fabric.registry.get source.key = some held → held.status = .disabled) ∧
      defn = stored source := by
  unfold SourceControl.register
  cases fabric.registry.get source.key with
  | none => simp [stored, eq_comm]
  | some held =>
    by_cases active : held.status = .disabled
    · simp [active, stored, eq_comm]
    · simp [active]

theorem control_register_error {err : PyError}
    (refused : SourceControl.register fabric.registry source = .error err) :
    ∃ held, fabric.registry.get source.key = some held ∧ held.status ≠ .disabled ∧
      err = alreadyRegistered source.sourceId := by
  unfold SourceControl.register at refused
  cases found : fabric.registry.get source.key with
  | none => simp [found] at refused
  | some held =>
    simp only [found] at refused
    split_ifs at refused with active
    exact ⟨held, rfl, active, (Except.error.inj refused).symm⟩

theorem socket_register_iff (ret : Unit → Fabric → Prop)
    (raised : PyError → Fabric → Prop) :
    Command.Ends (socketRegister adapter) ret raised fabric ↔
      if ∃ other ∈ fabric.adapters, other.sourceId = adapter.sourceId then
      raised (adapterTaken adapter.sourceId) fabric
      else ret () { fabric with adapters := fabric.adapters ++ [adapter] } := by
  unfold socketRegister
  rw [ends_bind, ends_get]
  by_cases taken : ∃ other ∈ fabric.adapters, other.sourceId = adapter.sourceId
  · rw [if_pos taken, if_pos (by simpa using taken)]
    exact Iff.rfl
  · rw [if_neg taken, if_neg (by simpa using taken)]
    exact Iff.rfl

theorem polling_register_iff (job : PollingJob) (ret : Unit → Fabric → Prop)
    (raised : PyError → Fabric → Prop) :
    Command.Ends (pollingRegister job) ret raised fabric ↔ match fabric.job? job.sourceId with
      | some _ => raised (jobTaken job.sourceId) fabric
      | none => ret () { fabric with jobs := fabric.jobs ++ [job] } := by
  unfold pollingRegister
  rw [ends_bind, ends_get]
  cases fabric.job? job.sourceId with
  | some other => exact Iff.rfl
  | none => exact Iff.rfl

theorem register_registers :
    Registers source adapter fabric ((register source adapter).outcome fabric)
      ((register source adapter).stateAfter fabric) := by
  apply Command.Ends.outcome (fun out after => Registers source adapter fabric out after)
  unfold register controlRegister
  simp only [ends_bind, ends_get]
  cases registered : SourceControl.register fabric.registry source with
  | error err =>
    obtain ⟨held, found, active, rfl⟩ := control_register_error registered
    exact .refused held found active
  | ok defn =>
    obtain ⟨admitted, rfl⟩ := control_register_iff.mp registered
    have read : (fabric.registry.put (stored source)).get source.key = some (stored source) := by
      rw [SourceRegistry.get_put]
      exact if_pos rfl
    simp only [ends_of_ok, ends_bind, ends_modify, control_get_ends, read, socket_register_iff]
    split_ifs with taken polled
    · exact .unplugged admitted taken
    · have free : ∀ other ∈ fabric.adapters, other.sourceId ≠ adapter.sourceId := by
        simpa using taken
      change source.mode = .poll at polled
      rw [ends_bind, polling_register_iff]
      change match fabric.job? source.sourceId with
        | some _ => _
        | none => _
      cases found : fabric.job? source.sourceId with
      | some job => exact .unscheduled admitted free polled job found
      | none =>
        have settled : Registers source adapter fabric _ _ :=
          .registered admitted free fun _ => found
        rw [if_pos polled] at settled
        exact settled
    · have free : ∀ other ∈ fabric.adapters, other.sourceId ≠ adapter.sourceId := by
        simpa using taken
      change source.mode ≠ .poll at polled
      have settled : Registers source adapter fabric _ _ :=
        .registered admitted free fun polls => absurd polls polled
      rw [if_neg polled, List.append_nil] at settled
      exact settled

theorem put_stored_ne
    (admitted : ∀ held, fabric.registry.get source.key = some held → held.status = .disabled) :
    fabric.registry.put (stored source) ≠ fabric.registry := by
  intro same
  have read : (fabric.registry.put (stored source)).get source.key = some (stored source) := by
    rw [SourceRegistry.get_put]
    exact if_pos rfl
  rw [same] at read
  cases admitted (stored source) read

theorem find_appended {adapters : List SourceAdapter} {sourceId : String}
    (free : ∀ other ∈ adapters, other.sourceId ≠ sourceId) :
    (adapters ++ [adapter]).find? (·.sourceId = sourceId) =
      if adapter.sourceId = sourceId then some adapter else none := by
  have absent : adapters.find? (·.sourceId = sourceId) = none := by
    rw [List.find?_eq_none]
    intro other mem
    simpa using free other mem
  rw [List.find?_append, absent, Option.none_or, List.find?_singleton]
  simp

theorem knows_iff (free : ∀ other ∈ fabric.adapters, other.sourceId ≠ adapter.sourceId)
    (idle : source.mode = .poll → fabric.job? source.sourceId = none) :
    Knows source adapter { fabric with
      registry := fabric.registry.put (stored source)
      adapters := fabric.adapters ++ [adapter]
      jobs := fabric.jobs ++ if source.mode = .poll then [jobOf source adapter] else [] } ↔
      adapter.sourceId = source.sourceId := by
  constructor
  · intro knows
    have found := List.find?_some knows.socket
    simpa using found
  · intro named
    constructor
    · rw [SourceRegistry.get_put]
      exact if_pos rfl
    · rw [named] at free
      rw [find_appended free, if_pos named]
    · intro polled
      have absent := idle polled
      unfold job? at absent ⊢
      rw [if_pos polled, List.find?_append, absent]
      simp [jobOf]

theorem registrable_of_sound (sound : RegistersSoundly source adapter fabric) :
    Registrable source adapter fabric := by
  have registers := @register_registers source adapter fabric
  have either := sound.allOrNothing
  unfold AllOrNothing at either
  generalize (register source adapter).outcome fabric = out at registers either
  generalize (register source adapter).stateAfter fabric = after at registers either
  cases registers with
  | refused held found active => exact Or.inl ⟨held, found, active⟩
  | unplugged admitted taken | unscheduled admitted free polled job taken =>
    cases either with
    | inl succeeds => cases succeeds.1.choose_spec
    | inr raises => exact absurd raises.2.1 (put_stored_ne admitted)
  | registered admitted free idle =>
    cases either with
    | inl succeeds =>
      have named := (knows_iff free idle).mp succeeds.2
      exact Or.inr ⟨named, named ▸ free, idle⟩
    | inr raises => cases raises.1.choose_spec

theorem registers_of_registrable (registrable : Registrable source adapter fabric) :
    (¬IsDisabled source fabric ∧
      (∃ err, (register source adapter).outcome fabric = .error err) ∧
      (register source adapter).stateAfter fabric = fabric) ∨
      (∃ defn, (register source adapter).outcome fabric = .ok defn) ∧
      Knows source adapter ((register source adapter).stateAfter fabric) := by
  have registers := @register_registers source adapter fabric
  have named (admitted : ∀ held, fabric.registry.get source.key = some held →
      held.status = .disabled) : adapter.sourceId = source.sourceId ∧
        (∀ other ∈ fabric.adapters, other.sourceId ≠ source.sourceId) ∧
          (source.mode = .poll → fabric.job? source.sourceId = none) := by
    cases registrable with
    | inl refuses =>
      obtain ⟨held, found, active⟩ := refuses
      exact absurd (admitted held found) active
    | inr nothing => exact nothing
  generalize (register source adapter).outcome fabric = out at registers ⊢
  generalize (register source adapter).stateAfter fabric = after at registers ⊢
  cases registers with
  | refused held found active =>
    left
    apply And.intro _ ⟨⟨_, rfl⟩, rfl⟩
    intro disabled
    obtain ⟨other, present, status⟩ := disabled
    rw [found, Option.some.injEq] at present
    exact active (present ▸ status)
  | unplugged admitted taken =>
    obtain ⟨own, free, _⟩ := named admitted
    obtain ⟨other, mem, same⟩ := taken
    exact absurd (same.trans own) (free other mem)
  | unscheduled admitted free polled job taken =>
    have idle := (named admitted).2.2 polled
    rw [taken] at idle
    cases idle
  | registered admitted free idle =>
    right
    exact ⟨⟨_, rfl⟩, (knows_iff free idle).mpr (named admitted).1⟩

theorem sound_of_registrable (registrable : Registrable source adapter fabric) :
    RegistersSoundly source adapter fabric := by
  cases registers_of_registrable registrable with
  | inl refused =>
    obtain ⟨active, raises, same⟩ := refused
    constructor
    · exact Or.inr ⟨raises, by rw [same], by rw [same], by rw [same]⟩
    · exact fun disabled => absurd disabled active
  | inr registered =>
    constructor
    · exact Or.inl registered
    · exact fun _ => registered.1

/-- A registration is sound exactly where the registry refuses it or nothing does. -/
theorem registers_soundly_iff (source : SourceDefinition) (adapter : SourceAdapter)
    (fabric : Fabric) :
    RegistersSoundly source adapter fabric ↔ Registrable source adapter fabric :=
  ⟨registrable_of_sound, sound_of_registrable⟩

end registration

def polledSource : SourceDefinition :=
  { sourceId := "feed", tenantId := "tenant", workspaceId := "workspace", provider := "rss"
    mode := .poll }

/-- A source that was registered and disabled is not registered again, and is not disabled any
more. -/
theorem disabled_source_refused :
    let fabric := (sourceFabric {}).run
      [.register polledSource ⟨"feed"⟩, .transition polledSource.key .disabled] {}
    IsDisabled polledSource fabric ∧ ¬RegistersSoundly polledSource ⟨"feed"⟩ fabric ∧
      ¬IsDisabled polledSource ((register polledSource ⟨"feed"⟩).stateAfter fabric) := by
  intro fabric
  have disabled : IsDisabled polledSource fabric :=
    ⟨{ polledSource with status := .disabled }, by decide +kernel, rfl⟩
  apply And.intro disabled
  constructor
  · intro sound
    obtain ⟨defn, succeeds⟩ := sound.again disabled
    have refused : (register polledSource ⟨"feed"⟩).outcome fabric =
        .error (adapterTaken "feed") := by decide +kernel
    rw [refused] at succeeds
    cases succeeds
  · intro still
    obtain ⟨held, found, status⟩ := still
    have read : ((register polledSource ⟨"feed"⟩).stateAfter fabric).registry.get
        polledSource.key = some (stored polledSource) := by decide +kernel
    rw [read, Option.some.injEq] at found
    rw [← found] at status
    cases status

end Fabric

end Ois.Sources
