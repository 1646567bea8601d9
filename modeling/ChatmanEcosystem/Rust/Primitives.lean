import ChatmanEcosystem.Rust.Json
import ChatmanEcosystem.Rust.Text

/-!
# What the crates take from outside

`Primitives` is the part of the standard library and of the `blake3` crate that
the model does not compute: the hash, of which only the shape of the output is
known, and the Unicode tables behind `{:?}`.
-/

namespace ChatmanEcosystem.Rust

/-- The hash function and the printing tables. -/
structure Primitives where
  /-- `blake3::hash(bytes).to_hex()`. -/
  blake3Hex : List UInt8 → String
  length_blake3Hex : ∀ bytes, (blake3Hex bytes).toList.length = 64
  hexdigit_blake3Hex : ∀ bytes, ∀ c ∈ (blake3Hex bytes).toList, isAsciiHexdigit c = true
  /-- The characters that `{:?}` prints as themselves. -/
  printable : Char → Bool

namespace Primitives

variable (prim : Primitives)

/-- One character under `{:?}` of a string. -/
def escapeDebug (c : Char) : List Char :=
  if c.toNat = 0 then ['\\', '0']
  else if c = '\t' then ['\\', 't']
  else if c = '\r' then ['\\', 'r']
  else if c = '\n' then ['\\', 'n']
  else if c = '"' then ['\\', '"']
  else if c = '\\' then ['\\', '\\']
  else if prim.printable c then [c]
  else "\\u\x7b".toList ++ Nat.toDigits 16 c.toNat ++ ['}']

/-- `{:?}` of a string. -/
def debugStr (s : String) : String :=
  String.ofList ('"' :: s.toList.flatMap prim.escapeDebug ++ ['"'])

/-- `{:?}` of an optional string. -/
def debugOption : Option String → String
  | none => "None"
  | some s => "Some(" ++ prim.debugStr s ++ ")"

/-- `{:?}` of a list of strings. -/
def debugList (values : List String) : String :=
  "[" ++ String.intercalate ", " (values.map prim.debugStr) ++ "]"

end Primitives

/-- A stand-in for the hash and the tables to run the model with: a sum of the
bytes, weighted by their positions, in 64 decimal digits. -/
def samplePrimitives : Primitives where
  blake3Hex bytes :=
    let sum := bytes.foldl (fun sum b => (sum * 257 + b.toNat + 1) % 10 ^ 64) 0
    String.ofList ((List.range 64).map fun i => Json.hexDigit (sum / 10 ^ (63 - i) % 10))
  length_blake3Hex bytes := by simp
  hexdigit_blake3Hex bytes c hc := by
    rw [String.toList_ofList] at hc
    obtain ⟨i, -, rfl⟩ := List.mem_map.mp hc
    have hdigit : ∀ d : Fin 10, isAsciiHexdigit (Json.hexDigit d) = true := by decide
    exact hdigit ⟨_, Nat.mod_lt _ (by decide)⟩
  printable c := 0x20 ≤ c.toNat && c.toNat < 0x7f

end ChatmanEcosystem.Rust
