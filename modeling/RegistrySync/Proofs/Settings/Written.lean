import RegistrySync.Proofs.Schema.Document
import RegistrySync.Proofs.Schema.Sorted
import RegistrySync.Settings.Violation

/-!
Settings are read back from their written form.

Each record of the settings names its fields differently and writes all of them, so nothing falls
back to a default when the text is read.
-/

namespace RegistrySync.Settings

/-! ### The records -/

lemma Daemon.isFaithful (depth : Nat) : Daemon.schema.IsFaithful (depth + 1) :=
  ⟨by decide, ⟨Field.isFaithful_optional _ _, ⟨trivial, nofun⟩,
    Field.isFaithful_optional _ _, trivial, Field.isFaithful_optional _ _, trivial,
    Field.isFaithful_optional _ _, trivial, trivial⟩, fun _ => rfl⟩

lemma Location.isFaithful (depth : Nat) : Location.schema.IsFaithful (depth + 1) :=
  ⟨by decide, ⟨Field.isFaithful_required _, trivial, Field.isFaithful_optional _ _, trivial,
    trivial⟩, fun _ => rfl⟩

lemma Mapping.isFaithful (depth : Nat) : Mapping.schema.IsFaithful (depth + 2) :=
  ⟨by decide, ⟨Field.isFaithful_optional _ _, trivial, Field.isFaithful_optional _ _, trivial,
    Field.isFaithful_optional _ _, trivial, trivial⟩, fun _ => rfl⟩

lemma Task.isFaithful (depth : Nat) : Task.schema.IsFaithful (depth + 4) :=
  ⟨by decide, ⟨Field.isFaithful_required _, trivial, Field.isFaithful_optional _ _, trivial,
    Field.isFaithful_optional _ _, trivial,
    Field.isFaithful_required _, Location.isFaithful (depth + 2),
    Field.isFaithful_required _, Location.isFaithful (depth + 2),
    Field.isFaithful_optional _ _, Mapping.isFaithful depth, trivial⟩, fun _ => rfl⟩

lemma isFaithful (depth : Nat) : schema.IsFaithful (depth + 6) :=
  ⟨by decide, ⟨Field.isFaithful_optional _ _, Daemon.isFaithful (depth + 4),
    Field.isFaithful_optional _ _, Task.isFaithful depth, trivial⟩, fun _ => rfl⟩

/-! ### The settings -/

/-- A reading that gives the settings back, and so the same verdict on them, the same tasks and the
same way to look for the daemon. -/
structure IsReadBack {ε : Type} (s : Settings) (reading : Except ε Settings) : Prop where
  settings : reading = .ok s
  verdict : reading.map check = .ok s.check
  tasks : reading.map toTasks = .ok s.toTasks
  pingPolicy : reading.map Settings.pingPolicy = .ok s.pingPolicy

lemma isReadBack {ε : Type} {s : Settings} {reading : Except ε Settings} (h : reading = .ok s) :
    s.IsReadBack reading := by
  subst h
  exact ⟨rfl, rfl, rfl, rfl⟩

/-- **Settings are read back from what is written for them**, be it as a value, from the text of the
value, or from the plain value that this text is read as, in which members stand in the order of
their names. -/
theorem written_settings_are_read_back (s : Settings) :
    s.IsReadBack (schema.ofJson (schema.toJson s)) ∧
    s.IsReadBack (schema.ofText (schema.toJson s).print) ∧
    ∃ j, Json.ofText (schema.toJson s).print = .ok j ∧ s.IsReadBack (schema.ofJson j) := by
  have hfaithful : schema.IsFaithful Json.maxDepth := isFaithful 121
  obtain ⟨j, hj, hread⟩ := Schema.ofJson_ofText_print hfaithful s
  exact ⟨isReadBack (schema.ofJson_toJson hfaithful s),
    isReadBack (Schema.ofText_print hfaithful s), j, hj, isReadBack hread⟩

/-- All fields are written under their names, those that stand at their defaults too. -/
example : (schema.toJson ⟨.default, []⟩).print =
    "\x7b\"docker\":\x7b\"host\":null,\"api-version\":\"1.24\",\"ping-attempts\":30," ++
      "\"ping-interval\":10\x7d,\"tasks\":[]\x7d" := by decide +kernel

end RegistrySync.Settings
