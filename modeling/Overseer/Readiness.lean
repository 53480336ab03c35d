import Overseer.Files.Access
import Overseer.Seal
import Overseer.Settings.Basic

/-!
The readiness gate: a generated script is looked at again and again until its seal matches, for a
bounded number of times.
-/

namespace Overseer.Readiness

/-- What a generated script starts with. -/
def scriptStart : Bytes := Bytes.ofString "#!"

/-- Whether a file reads like a generated script. -/
def looksGenerated (files : Files) (p : Path) : Bool :=
  match files.read p with
  | .ok content => content.take 2 == scriptStart
  | .error _ => false

/-- Whether one of the first looks finds a sealed image. A look at a file that cannot be read
    finds nothing. -/
def passes (iterations : Nat) (image : Nat → Option Bytes) : Bool :=
  match iterations with
  | 0 => false
  | iterations + 1 =>
    match image 0 with
    | some content => if Seal.verify content then true else passes iterations (image ∘ (· + 1))
    | none => passes iterations (image ∘ (· + 1))

/-- The gate of an agent with the given settings, for a file that does not change meanwhile. -/
def awaits (settings : Settings) (files : Files) (p : Path) : Bool :=
  if settings.checksum && looksGenerated files p then
    passes settings.checksumIterations fun _ => (files.read p).toOption
  else true

end Overseer.Readiness
