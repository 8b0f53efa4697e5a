import RegistrySync.Json.Fault

/-!
Reading with two degrees of strictness.

A scalar that is used is read for its content; one that is passed over is only looked at for
where it ends. The second is more lenient, so a scalar that can be passed over may still be
unfit for use.
-/

namespace RegistrySync.Json

/-- A scalar as it was met. -/
structure Reading (α : Type) where
  /-- Its content. -/
  content : Except Fault α
  /-- What keeps a reader from passing over it, if anything does. -/
  obstacle : Option Fault

end RegistrySync.Json
