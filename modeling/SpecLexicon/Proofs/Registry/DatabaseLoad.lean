import SpecLexicon.Proofs.Database.RoundTrip
import SpecLexicon.Proofs.Registry.Settled

/-!
# Loading at once

A load that a program waits for is all or nothing. Either the file holds a database, which then is
the built-in source while everything else stays and every listener is told once; or the load is
refused with the path that was read, and nothing has changed.
-/

set_option autoImplicit false

namespace SpecLexicon.Registry

/-- The database became the built-in source. Apart from listeners and events nothing else changed,
and it was announced with the store as it is now. -/
structure Installed (partition : Partition) (before after : Registry) : Prop where
  core : after.core = (before.withDatabase partition).core
  builtIn : after.store.get? Source.builtIn = some partition
  others : ∀ uri, uri ≠ Source.builtIn → after.store.get? uri = before.store.get? uri
  order : after.store.partitions.keys =
    if Source.builtIn ∈ before.store.partitions.keys then before.store.partitions.keys
    else before.store.partitions.keys ++ [Source.builtIn]
  announced : ∃ records added,
    Announcement Source.builtIn after.store before after records added

theorem Settled.installed {settings : Settings} {symbols : String → ItemMap} {registry : Registry}
    (settled : Settled settings symbols registry) (location : Location)
    (partition : Partition) :
    Installed partition registry (Registry.installDatabase location partition registry) := by
  have core : (Registry.installDatabase location partition registry).core =
      (registry.withDatabase partition).core := by
    have installed := settled.withDatabase partition
    exact installed.holds.core_eq_of_refreshes installed.current
      (installDatabase_refreshes location partition registry)
  have store : (Registry.installDatabase location partition registry).store =
      registry.store.install Source.builtIn partition := store_eq_of_core_eq core
  obtain ⟨added, announcement⟩ :=
    exists_announcement_installDatabase location partition registry
  refine ⟨core, ?_, ?_, ?_, installRecords location partition, added, ?_⟩
  · rw [store, Store.get?_install, if_pos rfl]
  · intro uri different
    rw [store, Store.get?_install, if_neg (Ne.symm different)]
  · rw [store]
    exact OrderedMap.keys_insert registry.store.partitions Source.builtIn partition
  · rw [store]
    exact announcement

/-- What reading a place denotes: a database, or the reason why there is none. -/
def Denotes (read : Location → Except SystemError ByteArray) (location : Location) :
    Except Database.Failure Partition → Prop
  | .ok partition =>
    ∃ bytes, read location = .ok bytes ∧
      (Database.Document.bytes bytes).check = .valid partition.loose
  | .error (.unreadable error) => read location = .error error
  | .error (.shape first others) =>
    ∃ bytes, read location = .ok bytes ∧
      (Database.Document.bytes bytes).check = .faulty first others

end SpecLexicon.Registry
