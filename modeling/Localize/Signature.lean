/-! # Message function signatures

A signature says which arguments of a function or method carry the parts of a message: the
singular, the plural, the context and the domain; other arguments are skipped. Signatures come
in packages that share name prefixes: a package path followed by a dot for functions, a
receiver such as `(*path.Type)` for methods. A registry is a list of packages consulted in
order: the first package with a prefix of a callee's full name decides, by the callee's bare
name.
-/

namespace Localize

/-- What one argument of a message function carries. -/
inductive Role where
  | singular
  | plural
  | context
  | domain
  | skip
deriving Repr, DecidableEq, Inhabited

/-- The lowercase of a character, as far as it decides a role name: ASCII letters and the
Kelvin sign, whose lowercase is `k`. Other characters are kept; none of them lowercases to an
ASCII letter. -/
def roleChar (c : Char) : Char :=
  if c.val = 0x212A then 'k' else c.toLower

/-- Reads a role name without regard to case: `singular` or `single`, `plural`, `context` or
`ctx`, `domain` or `dom`, `skip`. Any other name is `skip`. -/
def Role.parse (name : String) : Role :=
  match String.ofList (name.toList.map roleChar) with
  | "singular" | "single" => .singular
  | "plural" => .plural
  | "context" | "ctx" => .context
  | "domain" | "dom" => .domain
  | _ => .skip

/-- The name of a role. -/
def Role.name : Role → String
  | .singular => "singular"
  | .plural => "plural"
  | .context => "context"
  | .domain => "domain"
  | .skip => "skip"

/-- A function or method and the roles of its arguments, by position. -/
structure Signature where
  name : String
  roles : List Role
deriving Repr, DecidableEq

/-- Signatures sharing name prefixes. -/
structure SignaturePackage where
  prefixes : List String
  functions : List Signature
deriving Repr, DecidableEq

/-- Whether a callee's full name starts with one of the package's prefixes. -/
def SignaturePackage.matches (p : SignaturePackage) (fullName : String) : Bool :=
  p.prefixes.any fun pre => pre.isPrefixOf fullName

/-- The signature of the package with the given bare name. -/
def SignaturePackage.function? (p : SignaturePackage) (name : String) : Option Signature :=
  p.functions.find? (·.name == name)

/-- The signatures of the `gotext` localization package, built in. -/
def SignaturePackage.builtin : SignaturePackage where
  prefixes := ["github.com/leonelquinteros/gotext.",
    "(*github.com/leonelquinteros/gotext.Locale)",
    "(*github.com/leonelquinteros/gotext.Mo)",
    "(*github.com/leonelquinteros/gotext.Po)"]
  functions := [
    ⟨"Get", [.singular]⟩,
    ⟨"GetN", [.singular, .plural]⟩,
    ⟨"GetD", [.domain, .singular]⟩,
    ⟨"GetND", [.domain, .singular, .plural]⟩,
    ⟨"GetC", [.singular, .context]⟩,
    ⟨"GetNC", [.singular, .plural, .skip, .context]⟩,
    ⟨"GetDC", [.domain, .singular, .context]⟩,
    ⟨"GetNDC", [.domain, .singular, .plural, .skip, .context]⟩]

/-- A list of signature packages, consulted in order. -/
structure Registry where
  packages : List SignaturePackage
deriving Repr

/-- Why a list of packages is not a registry. -/
inductive RegistryError where
  | noPrefixes
  /-- A signature without a singular argument; carries its name. -/
  | noSingular (name : String)
deriving Repr, DecidableEq

/-- The text that reports a registry error. -/
def RegistryError.message : RegistryError → String
  | .noPrefixes => "signature package without prefixes"
  | .noSingular name => "signature '" ++ name ++ "' must declare a singular argument"

/-- The first fault of a package: no prefixes, or a signature without singular argument. -/
def SignaturePackage.fault? (p : SignaturePackage) : Option RegistryError :=
  if p.prefixes.isEmpty then some .noPrefixes
  else (p.functions.find? fun f => !f.roles.contains .singular).map (.noSingular ·.name)

/-- A registry of packages, each with prefixes and every signature with a singular
argument; the first fault in package order otherwise. -/
def Registry.make (packages : List SignaturePackage) : Except RegistryError Registry :=
  match packages.findSome? SignaturePackage.fault? with
  | some e => .error e
  | none => .ok ⟨packages⟩

/-- The built-in package followed by `extra`, or `extra` alone. -/
def Registry.configured (includeBuiltin : Bool) (extra : List SignaturePackage) :
    Except RegistryError Registry :=
  Registry.make (if includeBuiltin then SignaturePackage.builtin :: extra else extra)

/-- The argument roles for a callee with full name `fullName` and bare name `name`: the first
package with a matching prefix decides. -/
def Registry.lookup (r : Registry) (fullName name : String) : Option (List Role) :=
  (r.packages.find? (·.matches fullName)).bind fun p => (p.function? name).map (·.roles)

end Localize
